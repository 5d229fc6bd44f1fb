import Sleuthgraph.Plugins.Dispatch
import Sleuthgraph.Lib.Systems

/-!
# The writers of one audit row

The dispatcher, the invocations of the task (and of the runner inside a request) and the sweeper
act on one row of `plugin_runs`, transaction by transaction, in any order. Each but the sweeper
holds a copy of the row in its own session, and what it writes are the columns in which its
changed copy differs from the loaded one, whatever the committed row has become meanwhile.
-/

namespace Sleuthgraph

open PluginRunner Systems

/-! ## An invocation -/

/-- How far an invocation has come, with the copy of the row in its session. -/
inductive Phase where
  | waiting
  /-- the row was queued when it was read -/
  | loaded (copy : PluginRun)
  /-- the runner has committed a row of its own, and refreshes it next -/
  | created
  /-- the row is committed as `running` -/
  | started (copy : PluginRun)
  | queried (copy : PluginRun)
  | persisted (copy : PluginRun) (p : Persisted)
  /-- the row is committed as `succeeded`, and refreshed next -/
  | recorded
  | returned (answer : TaskAnswer)
  /-- it raised or was killed, and answers nothing -/
  | gone

/-- The runner is in its `try`. -/
def Phase.inTry : Phase → Bool
  | .started _ | .queried _ | .persisted _ _ | .recorded => true
  | _ => false

/-- An invocation, how often it has called `plugin.query`, and how many transactions with
proposals it has committed. -/
structure Invocation where
  phase : Phase
  queries : ℕ
  persists : ℕ

def Invocation.new : Invocation := ⟨.waiting, 0, 0⟩

/-- The committed row after the `UPDATE` of a changed copy. -/
def mergeRow (copy run row : PluginRun) : PluginRun := (RunChange.between copy run).set row

/-- What an invocation does next. -/
inductive WorkAction where
  | read
  | missing
  | flip
  | refresh
  | query
  | persist (p : Persisted)
  | succeed (x : RunExt)
  | fail (x : RunExt) (e : Exc) (reason : String)
  /-- an exception that leaves no trace in the row: a check outside the `try`, or a handler whose
  commit is refused -/
  | giveUp (reason : String)
  | crash

/-- The action updates the row from a copy. -/
def WorkAction.writes : WorkAction → Bool
  | missing | flip | succeed _ | fail _ _ _ => true
  | _ => false

/-- The answer after the last refresh. -/
def refreshedAnswer (row : PluginRun) : TaskAnswer :=
  .succeeded row.entitiesCreatedCount row.relationshipsCreatedCount row.evidenceCount

/-- One step of an invocation on the committed row. -/
def Invocation.step (row : PluginRun) (v : Invocation) :
    WorkAction → Option (PluginRun × Invocation)
  | .read => match v.phase with
    | .waiting =>
      if row.status ≠ .queued then some (row, { v with phase := .returned .skipped })
      else some (row, { v with phase := .loaded row })
    | _ => none
  | .missing => match v.phase with
    | .loaded copy => some (mergeRow copy (missingInput copy) row,
        { v with phase := .returned (.failed "missing_input_entity") })
    | _ => none
  | .flip => match v.phase with
    | .loaded copy =>
      some (mergeRow copy (flipped copy) row, { v with phase := .started (flipped copy) })
    | _ => none
  | .refresh => match v.phase with
    | .created => some (row, { v with phase := .started row })
    | .recorded => some (row, { v with phase := .returned (refreshedAnswer row) })
    | _ => none
  | .query => match v.phase with
    | .started copy => some (row, { v with phase := .queried copy, queries := v.queries + 1 })
    | _ => none
  | .persist p => match v.phase with
    | .queried copy => some (row, { v with phase := .persisted copy p, persists := v.persists + 1 })
    | _ => none
  | .succeed x => match v.phase with
    | .persisted copy p =>
      some (mergeRow copy (succeeded x copy p) row, { v with phase := .recorded })
    | _ => none
  | .fail x e reason => match v.phase with
    | .started copy => some (mergeRow copy (failed x copy e) row,
        { v with phase := .returned (.failed reason) })
    -- the handler commits what the proposals have flushed so far
    | .queried copy => some (mergeRow copy (failed x copy e) row,
        { v with phase := .returned (.failed reason), persists := v.persists + 1 })
    | _ => none
  | .giveUp reason =>
    if v.phase.inTry then some (row, { v with phase := .returned (.failed reason) }) else none
  | .crash => match v.phase with
    | .returned _ | .gone => none
    | _ => some (row, { v with phase := .gone })

/-! ## The system -/

/-- The dispatcher, with the copy of the row it waits on the queue with. -/
inductive Dispatcher where
  | idle
  /-- the queued row is committed, and refreshed next -/
  | created
  | enqueuing (copy : PluginRun)
  | finished

/-- The committed row, once there is one, and its writers. -/
structure RunSystem where
  row : Option PluginRun
  dispatcher : Dispatcher
  invocations : ℕ → Invocation

/-- Nobody has done anything yet. -/
def RunSystem.start : RunSystem := ⟨none, .idle, fun _ => .new⟩

inductive RunAction where
  | dispatch (x : DispatchExt) (plugin : OSINTPlugin) (caseId : UUID) (inputEntity : Entity)
      (user : UUID)
  /-- the synchronous branch of `run_plugin`, as the `i`-th invocation -/
  | runInRequest (i : ℕ) (x : RunExt) (req : RunRequest) (plugin : OSINTPlugin)
  | refreshQueued
  /-- the queue refuses the job, and the row is marked -/
  | enqueueFails
  /-- the request ends without another write -/
  | settle
  | work (i : ℕ) (a : WorkAction)
  | sweep (cutoff finishedAt : Time)

/-- The action updates the row from a copy. -/
def RunAction.writes : RunAction → Bool
  | enqueueFails => true
  | work _ a => a.writes
  | _ => false

/-- One transaction of one of the writers. -/
def RunSystem.step (s : RunSystem) : RunAction → Option RunSystem
  | .dispatch x plugin caseId inputEntity user => match s.row with
    | none =>
      some
        { s with
          row := some (queuedRow x plugin caseId inputEntity user)
          dispatcher := .created }
    | some _ => none
  | .runInRequest i x req plugin => match s.row with
    | none =>
      some
        { s with
          row := some (newRun x req plugin)
          invocations := Function.update s.invocations i ⟨.created, 0, 0⟩ }
    | some _ => none
  | .refreshQueued => match s.dispatcher, s.row with
    | .created, some row => some { s with dispatcher := .enqueuing row }
    | _, _ => none
  | .enqueueFails => match s.dispatcher, s.row with
    | .enqueuing copy, some row =>
      some { s with row := some (mergeRow copy (enqueueFailed copy) row), dispatcher := .finished }
    | _, _ => none
  | .settle => match s.dispatcher with
    | .created | .enqueuing _ => some { s with dispatcher := .finished }
    | _ => none
  | .work i a => match s.row with
    | some row => ((s.invocations i).step row a).map fun (row', v) =>
        { s with row := some row', invocations := Function.update s.invocations i v }
    | none => none
  | .sweep cutoff finishedAt => match s.row with
    | some row => some { s with row := some (sweepRow cutoff finishedAt row) }
    | none => none

/-! ## What a step does -/

/-- The steps of an invocation, one by one. -/
inductive Invocation.Steps (row : PluginRun) :
    Invocation → WorkAction → PluginRun → Invocation → Prop
  | skip (q n : ℕ) (h : row.status ≠ .queued) :
      Steps row ⟨.waiting, q, n⟩ .read row ⟨.returned .skipped, q, n⟩
  | load (q n : ℕ) (h : row.status = .queued) :
      Steps row ⟨.waiting, q, n⟩ .read row ⟨.loaded row, q, n⟩
  | missing (copy : PluginRun) (q n : ℕ) :
      Steps row ⟨.loaded copy, q, n⟩ .missing (mergeRow copy (missingInput copy) row)
        ⟨.returned (.failed "missing_input_entity"), q, n⟩
  | flip (copy : PluginRun) (q n : ℕ) :
      Steps row ⟨.loaded copy, q, n⟩ .flip (mergeRow copy (flipped copy) row)
        ⟨.started (flipped copy), q, n⟩
  | refreshNew (q n : ℕ) : Steps row ⟨.created, q, n⟩ .refresh row ⟨.started row, q, n⟩
  | refreshLast (q n : ℕ) :
      Steps row ⟨.recorded, q, n⟩ .refresh row ⟨.returned (refreshedAnswer row), q, n⟩
  | query (copy : PluginRun) (q n : ℕ) :
      Steps row ⟨.started copy, q, n⟩ .query row ⟨.queried copy, q + 1, n⟩
  | persist (copy : PluginRun) (p : Persisted) (q n : ℕ) :
      Steps row ⟨.queried copy, q, n⟩ (.persist p) row ⟨.persisted copy p, q, n + 1⟩
  | succeed (copy : PluginRun) (p : Persisted) (x : RunExt) (q n : ℕ) :
      Steps row ⟨.persisted copy p, q, n⟩ (.succeed x) (mergeRow copy (succeeded x copy p) row)
        ⟨.recorded, q, n⟩
  | failStarted (copy : PluginRun) (x : RunExt) (e : Exc) (reason : String) (q n : ℕ) :
      Steps row ⟨.started copy, q, n⟩ (.fail x e reason) (mergeRow copy (failed x copy e) row)
        ⟨.returned (.failed reason), q, n⟩
  | failQueried (copy : PluginRun) (x : RunExt) (e : Exc) (reason : String) (q n : ℕ) :
      Steps row ⟨.queried copy, q, n⟩ (.fail x e reason) (mergeRow copy (failed x copy e) row)
        ⟨.returned (.failed reason), q, n + 1⟩
  | giveUp (phase : Phase) (reason : String) (q n : ℕ) (h : phase.inTry = true) :
      Steps row ⟨phase, q, n⟩ (.giveUp reason) row ⟨.returned (.failed reason), q, n⟩
  | crash (phase : Phase) (q n : ℕ) : Steps row ⟨phase, q, n⟩ .crash row ⟨.gone, q, n⟩

lemma Invocation.steps_of_step {row row' : PluginRun} {v v' : Invocation} {a : WorkAction}
    (h : v.step row a = some (row', v')) : Invocation.Steps row v a row' v' := by
  obtain ⟨phase, q, n⟩ := v
  -- an action applies in the phases that have a constructor for it
  cases a with
  | read =>
    cases phase with
    | waiting =>
      simp only [Invocation.step] at h
      split at h
      · rename_i hstatus
        cases h
        exact .skip q n hstatus
      · rename_i hstatus
        cases h
        exact .load q n (by simpa using hstatus)
    | _ => cases h
  | missing => cases phase <;> cases h; exact .missing _ q n
  | flip => cases phase <;> cases h; exact .flip _ q n
  | refresh =>
    cases phase <;> cases h
    · exact .refreshNew q n
    · exact .refreshLast q n
  | query => cases phase <;> cases h; exact .query _ q n
  | persist p => cases phase <;> cases h; exact .persist _ p q n
  | succeed x => cases phase <;> cases h; exact .succeed _ _ x q n
  | fail x e reason =>
    cases phase <;> cases h
    · exact .failStarted _ x e reason q n
    · exact .failQueried _ x e reason q n
  | giveUp reason => cases phase <;> cases h <;> exact .giveUp _ reason q n rfl
  | crash => cases phase <;> cases h <;> exact .crash _ q n

/-- The steps of the system, one by one. -/
inductive RunSystem.Steps : RunSystem → RunAction → RunSystem → Prop
  | dispatch (d : Dispatcher) (vs : ℕ → Invocation) (x : DispatchExt) (plugin : OSINTPlugin)
      (caseId : UUID) (inputEntity : Entity) (user : UUID) :
      Steps ⟨none, d, vs⟩ (.dispatch x plugin caseId inputEntity user)
        ⟨some (queuedRow x plugin caseId inputEntity user), .created, vs⟩
  | runInRequest (d : Dispatcher) (vs : ℕ → Invocation) (i : ℕ) (x : RunExt) (req : RunRequest)
      (plugin : OSINTPlugin) :
      Steps ⟨none, d, vs⟩ (.runInRequest i x req plugin)
        ⟨some (newRun x req plugin), d, Function.update vs i ⟨.created, 0, 0⟩⟩
  | refreshQueued (row : PluginRun) (vs : ℕ → Invocation) :
      Steps ⟨some row, .created, vs⟩ .refreshQueued ⟨some row, .enqueuing row, vs⟩
  | enqueueFails (row copy : PluginRun) (vs : ℕ → Invocation) :
      Steps ⟨some row, .enqueuing copy, vs⟩ .enqueueFails
        ⟨some (mergeRow copy (enqueueFailed copy) row), .finished, vs⟩
  | settle (row : Option PluginRun) (d : Dispatcher) (vs : ℕ → Invocation) (h : d ≠ .idle) :
      Steps ⟨row, d, vs⟩ .settle ⟨row, .finished, vs⟩
  | work (row row' : PluginRun) (d : Dispatcher) (vs : ℕ → Invocation) (i : ℕ) (a : WorkAction)
      (v : Invocation) (h : (vs i).Steps row a row' v) :
      Steps ⟨some row, d, vs⟩ (.work i a) ⟨some row', d, Function.update vs i v⟩
  | sweep (row : PluginRun) (d : Dispatcher) (vs : ℕ → Invocation) (cutoff finishedAt : Time) :
      Steps ⟨some row, d, vs⟩ (.sweep cutoff finishedAt)
        ⟨some (sweepRow cutoff finishedAt row), d, vs⟩

lemma RunSystem.steps_of_step {s s' : RunSystem} {a : RunAction} (h : s.step a = some s') :
    RunSystem.Steps s a s' := by
  obtain ⟨row, d, vs⟩ := s
  cases a with
  | dispatch x plugin caseId inputEntity user =>
    cases row <;> cases h
    exact .dispatch d vs x plugin caseId inputEntity user
  | runInRequest i x req plugin =>
    cases row <;> cases h
    exact .runInRequest d vs i x req plugin
  | refreshQueued =>
    cases d <;> cases row <;> cases h
    exact .refreshQueued _ vs
  | enqueueFails =>
    cases d <;> cases row <;> cases h
    exact .enqueueFails _ _ vs
  | settle => cases d <;> cases h <;> exact .settle row _ vs nofun
  | work i a =>
    cases row with
    | none => cases h
    | some row =>
      obtain ⟨⟨row', v⟩, hstep, rfl⟩ := Option.map_eq_some_iff.mp h
      exact .work row row' d vs i a v (Invocation.steps_of_step hstep)
  | sweep cutoff finishedAt =>
    cases row <;> cases h
    exact .sweep _ d vs cutoff finishedAt

end Sleuthgraph
