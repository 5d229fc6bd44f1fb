import Sleuthgraph.Api.Routes
import Sleuthgraph.Lib.Systems

/-!
# The server (`db.py`, `main.py`)

Requests of any users, tasks of the worker and sweeps, one after the other, on one database and one
bucket. Each request and each task has a session of its own, and what it has committed is what the
next one finds.
-/

namespace Sleuthgraph

open Programs Transactions Tables

/-- All that is stored. -/
structure Database where
  cases : Table Case
  store : Store
  bucket : Bucket

def Database.empty : Database := ⟨.empty, .empty, []⟩

instance : Inhabited Database := ⟨.empty⟩

/-! ## Sessions -/

section Sessions

variable {S W O α : Type} [Writes S W]

/-- `get_session` around an endpoint: commit what it leaves, or roll back. -/
def withSession (lost : Bool) (endpoint : Sql S W O Exc α) : Sql S W O Exc α := do
  let a ← rollingBack endpoint
  commit lost
  pure a

/-- A new session. -/
def openSession (st : S) (o : O) : Session S W O := ⟨st, [], false, o⟩

/-- An endpoint that returns, and a commit that gets through. -/
lemma withSession_ok {m : Sql S W O Exc α} {s s' : Session S W O} {a : α}
    (hm : m s = (.ok a, s')) (hs : s'.failed = false) :
    withSession false m s = (.ok a, { s' with committed := s'.work, pending := [] }) := by
  have hbody : rollingBack m s = (.ok a, s') := Prog.tryCatch_apply_ok hm
  have hcommit : (commit false : Sql S W O Exc Unit) s'
      = (.ok (), { s' with committed := s'.work, pending := [] }) := commit_apply hs
  rw [withSession, Prog.bind_apply_ok hbody, Prog.bind_apply_ok hcommit]
  rfl

/-- An endpoint that returns, and a commit that does not get through. -/
lemma withSession_lost {m : Sql S W O Exc α} {s s' : Session S W O} {a : α}
    (hm : m s = (.ok a, s')) (hs : s'.failed = false) :
    withSession true m s = (.error Exc.dbApiError, { s' with failed := true }) := by
  have hbody : rollingBack m s = (.ok a, s') := Prog.tryCatch_apply_ok hm
  have hcommit : (commit true : Sql S W O Exc Unit) s'
      = (.error Exc.dbApiError, { s' with failed := true }) := commit_lost hs
  rw [withSession, Prog.bind_apply_ok hbody, Prog.bind_apply_error hcommit]

/-- An endpoint that raises. -/
lemma withSession_error {lost : Bool} {m : Sql S W O Exc α} {s s' : Session S W O} {e : Exc}
    (hm : m s = (.error e, s')) : withSession lost m s = (.error e, s'.rolledBack) := by
  have hbody : rollingBack m s = (.error e, s'.rolledBack) := Prog.tryCatch_apply_error hm
  rw [withSession, Prog.bind_apply_error hbody]

end Sessions

/-! ## Requests -/

variable (py : Interp) (app : App)

/-- A request of a user: one of `cases/router.py`, or one below `/cases/{case_id}`. -/
inductive Request where
  | cases (r : CaseRequest)
  | inCase (caseId : UUID) (r : CaseRoute)

/-- The ownership check, and the endpoint behind it. -/
def CaseRoute.run (env : Env) (user : UUID) (cases : Table Case) (caseId : UUID)
    (r : CaseRoute) : Db Bucket Answer := do
  verifyCaseOwnership env user cases caseId
  r.endpoint py app env user caseId

/-- What a request answers or raises, and what it leaves. -/
def Request.exec (env : Env) (user : UUID) (db : Database) :
    Request → Except Exc Answer × Database
  | .cases r =>
    let (res, s) := withSession env.finish (r.endpoint py env user) (openSession db.cases ())
    (res, { db with cases := s.committed })
  | .inCase caseId r =>
    let (res, s) := withSession env.finish (r.run py app env user db.cases caseId)
      (openSession db.store db.bucket)
    (res, { db with store := s.committed, bucket := s.outside })

/-- What the client gets: the answer, or the status and the detail of an error. -/
inductive Response where
  | ok (answer : Answer)
  | error (text : String)
deriving DecidableEq

/-- An exception without a status of its own is an internal error. -/
def Response.of : Except Exc Answer → Response
  | .ok answer => .ok answer
  | .error e => .error
    (if e.isinstance "HTTPException" then e.text else "500 Internal Server Error")

/-! ## Accounts -/

/-- `ON DELETE SET NULL` of a column that refers to a user. -/
def setNull (user : UUID) (column : Option UUID) : Option UUID :=
  if column = some user then none else column

section Accounts

variable (user : UUID)

def Case.withoutUser (c : Case) : Case := { c with ownerId := setNull user c.ownerId }

def Entity.withoutUser (e : Entity) : Entity := { e with createdBy := setNull user e.createdBy }

def Relationship.withoutUser (r : Relationship) : Relationship :=
  { r with createdBy := setNull user r.createdBy }

def Evidence.withoutUser (ev : Evidence) : Evidence :=
  { ev with createdBy := setNull user ev.createdBy }

def PluginRun.withoutUser (run : PluginRun) : PluginRun :=
  { run with createdBy := setNull user run.createdBy }

def Store.withoutUser (st : Store) : Store :=
  { st with
    entities := st.entities.mapRows (Entity.withoutUser user) fun _ => rfl
    relationships := st.relationships.mapRows (Relationship.withoutUser user) fun _ => rfl
    evidence := st.evidence.mapRows (Evidence.withoutUser user) fun _ => rfl
    runs := st.runs.mapRows (PluginRun.withoutUser user) fun _ => rfl }

/-- What `DELETE /users/{id}` does to the rows that refer to the user. -/
def Database.deleteUser (db : Database) : Database :=
  { db with
    cases := db.cases.mapRows (Case.withoutUser user) fun _ => rfl
    store := db.store.withoutUser user }

end Accounts

/-! ## The worker -/

/-- The worker is configured like the application. -/
def App.worker (app : App) : Worker := ⟨app.registry, app.enterprise, app.vault⟩

/-- What a task answers, and what it leaves. -/
def taskExec (x : TaskExt) (runId : UUID) (db : Database) : Except Exc TaskAnswer × Database :=
  let (res, s) := runPluginTask py x app.worker runId (openSession db.store db.bucket)
  (res, { db with store := s.committed, bucket := s.outside })

/-! ## Runs -/

/-- What may happen next. -/
inductive ServerAction where
  | request (user : UUID) (env : Env) (r : Request)
  | task (x : TaskExt) (runId : UUID)
  | sweep (thresholdMinutes : ℤ) (now now' : Time)

/-- The database after an action. -/
def ServerAction.exec (db : Database) : ServerAction → Database
  | .request user env r => (r.exec py app env user db).2
  | .task x runId => (taskExec py app x runId db).2
  | .sweep thresholdMinutes now now' =>
    { db with
      store := { db.store with
        runs := (sweepStuckRuns thresholdMinutes now now' db.store.runs).1 } }

/-- The databases that allowed actions lead to. Every action can be taken in every state. -/
def ServerReaches (allowed : Database → ServerAction → Prop) : Database → Prop :=
  Systems.Reaches (fun db (a : ServerAction) => some (a.exec py app db)) allowed Database.empty

variable {py app} in
/-- What holds of the empty database and is kept by allowed actions holds of every database
reached. -/
lemma ServerReaches.invariant {allowed : Database → ServerAction → Prop} {I : Database → Prop}
    (hempty : I Database.empty)
    (hexec : ∀ db a, I db → allowed db a → I (ServerAction.exec py app db a)) {db : Database}
    (h : ServerReaches py app allowed db) : I db := by
  refine Systems.Reaches.invariant hempty ?_ h
  intro s a s' hs ha hstep
  cases hstep
  exact hexec s a hs ha

end Sleuthgraph
