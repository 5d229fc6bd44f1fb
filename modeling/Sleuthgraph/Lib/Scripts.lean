import Sleuthgraph.Lib.Transactions

/-!
# Programs, statement by statement

A program over a session runs through at once. A `Script` is a program with its statements
apart, so that something else can happen between two of them; `run` is the program again, and
`step` executes the first statement. The equations `run_bind`, `run_tryCatch` and the ones of
the statements say that a script is written like the program that it runs as.
-/

namespace Transactions

open Programs

/-- A program as its first statement and what follows on the answer. A read may say for which
key it looks. -/
inductive Script (S W K ε α : Type) where
  | ret (r : Except ε α)
  | readThen (lost : Bool) (key : Option K) (next : Except ε S → Script S W K ε α)
  | writeThen (lost : Bool) (w : W) (next : Except ε Unit → Script S W K ε α)
  | commitThen (lost : Bool) (next : Except ε Unit → Script S W K ε α)
  | rollbackThen (next : Script S W K ε α)

namespace Script

variable {S W O K ε α β : Type}

/-! ## Sequencing -/

def bind (f : α → Script S W K ε β) : Script S W K ε α → Script S W K ε β
  | ret (.ok a) => f a
  | ret (.error e) => ret (.error e)
  | readThen lost key next => readThen lost key fun r => (next r).bind f
  | writeThen lost w next => writeThen lost w fun r => (next r).bind f
  | commitThen lost next => commitThen lost fun r => (next r).bind f
  | rollbackThen next => rollbackThen (next.bind f)

def handle (h : ε → Script S W K ε α) : Script S W K ε α → Script S W K ε α
  | ret (.ok a) => ret (.ok a)
  | ret (.error e) => h e
  | readThen lost key next => readThen lost key fun r => (next r).handle h
  | writeThen lost w next => writeThen lost w fun r => (next r).handle h
  | commitThen lost next => commitThen lost fun r => (next r).handle h
  | rollbackThen next => rollbackThen (next.handle h)

instance : Monad (Script S W K ε) where
  pure a := ret (.ok a)
  bind m f := m.bind f

instance : MonadExceptOf ε (Script S W K ε) where
  throw e := ret (.error e)
  tryCatch m h := m.handle h

/-! ## Statements -/

def query (lost : Bool) (q : S → α) : Script S W K ε α :=
  readThen lost none fun r => ret (r.map q)

/-- A read that looks for a row with a key. -/
def seek (lost : Bool) (key : K) (q : S → α) : Script S W K ε α :=
  readThen lost (some key) fun r => ret (r.map q)

def write (lost : Bool) (w : W) : Script S W K ε Unit := writeThen lost w ret

def commit (lost : Bool) : Script S W K ε Unit := commitThen lost ret

def rollback : Script S W K ε Unit := rollbackThen (ret (.ok ()))

/-- `except: rollback; raise` around a block. -/
def rollingBack (m : Script S W K ε α) : Script S W K ε α :=
  tryCatch m fun e => do
    rollback
    throw e

/-! ## Execution -/

variable [Writes S W] [SessionErrors ε]

/-- Execute the first statement. -/
def step (s : Session S W O) : Script S W K ε α → Script S W K ε α × Session S W O
  | ret r => (ret r, s)
  | readThen lost _ next =>
    let q := (Transactions.query lost id : Sql S W O ε S) s; (next q.1, q.2)
  | writeThen lost w next =>
    let q := (Transactions.write lost w : Sql S W O ε Unit) s; (next q.1, q.2)
  | commitThen lost next =>
    let q := (Transactions.commit lost : Sql S W O ε Unit) s; (next q.1, q.2)
  | rollbackThen next => (next, s.rolledBack)

/-- The program. -/
def run : Script S W K ε α → Sql S W O ε α
  | ret r => Prog.ofExcept r
  | readThen lost _ next => fun s =>
    let q := (Transactions.query lost id : Sql S W O ε S) s; (next q.1).run q.2
  | writeThen lost w next => fun s =>
    let q := (Transactions.write lost w : Sql S W O ε Unit) s; (next q.1).run q.2
  | commitThen lost next => fun s =>
    let q := (Transactions.commit lost : Sql S W O ε Unit) s; (next q.1).run q.2
  | rollbackThen next => fun s => next.run s.rolledBack

/-- The program executes the first statement and runs on. -/
theorem run_step (sc : Script S W K ε α) (s : Session S W O) :
    sc.run s = (sc.step s).1.run (sc.step s).2 := by
  cases sc <;> rfl

theorem run_bind (m : Script S W K ε α) (f : α → Script S W K ε β) :
    ((m >>= f).run : Sql S W O ε β) = m.run >>= fun a => (f a).run := by
  show (m.bind f).run = _
  funext s
  -- both sides execute the first statement and go on with what the answer leads to
  induction m generalizing s with
  | ret r => cases r <;> rfl
  | readThen lost key next ih => exact ih _ _
  | writeThen lost w next ih => exact ih _ _
  | commitThen lost next ih => exact ih _ _
  | rollbackThen next ih => exact ih _

theorem run_tryCatch (m : Script S W K ε α) (h : ε → Script S W K ε α) :
    ((tryCatch m h).run : Sql S W O ε α) = tryCatch m.run fun e => (h e).run := by
  show (m.handle h).run = _
  funext s
  induction m generalizing s with
  | ret r => cases r <;> rfl
  | readThen lost key next ih => exact ih _ _
  | writeThen lost w next ih => exact ih _ _
  | commitThen lost next ih => exact ih _ _
  | rollbackThen next ih => exact ih _

@[simp] theorem run_pure (a : α) : ((pure a : Script S W K ε α).run : Sql S W O ε α) = pure a := rfl

@[simp] theorem run_throw (e : ε) :
    ((throw e : Script S W K ε α).run : Sql S W O ε α) = throw e := rfl

@[simp] theorem run_ret (r : Except ε α) :
    ((ret r : Script S W K ε α).run : Sql S W O ε α) = Prog.ofExcept r := rfl

theorem query_eq_map (lost : Bool) (q : S → α) (s : Session S W O) :
    (Transactions.query lost q : Sql S W O ε α) s
      = ((Transactions.query lost id : Sql S W O ε S) s).map (Except.map q) id := by
  simp only [Transactions.query]
  split
  · rfl
  · split <;> rfl

theorem run_readThen (lost : Bool) (key : Option K) (q : S → α) :
    ((readThen lost key fun r => ret (r.map q) : Script S W K ε α).run : Sql S W O ε α)
      = Transactions.query lost q := by
  funext s
  rw [query_eq_map]
  exact Prog.ofExcept_apply
    (fun s => ((Transactions.query lost id : Sql S W O ε S) s).map (Except.map q) id) s

@[simp] theorem run_query (lost : Bool) (q : S → α) :
    ((query lost q : Script S W K ε α).run : Sql S W O ε α) = Transactions.query lost q :=
  run_readThen lost none q

@[simp] theorem run_seek (lost : Bool) (key : K) (q : S → α) :
    ((seek lost key q : Script S W K ε α).run : Sql S W O ε α) = Transactions.query lost q :=
  run_readThen lost (some key) q

@[simp] theorem run_write (lost : Bool) (w : W) :
    ((write lost w : Script S W K ε Unit).run : Sql S W O ε Unit) = Transactions.write lost w :=
  funext fun s => Prog.ofExcept_apply _ s

@[simp] theorem run_commit (lost : Bool) :
    ((commit lost : Script S W K ε Unit).run : Sql S W O ε Unit) = Transactions.commit lost :=
  funext fun s => Prog.ofExcept_apply _ s

@[simp] theorem run_rollback :
    ((rollback : Script S W K ε Unit).run : Sql S W O ε Unit) = Transactions.rollback := rfl

@[simp] theorem run_rollingBack (m : Script S W K ε α) :
    ((rollingBack m).run : Sql S W O ε α) = Transactions.rollingBack m.run := by
  rw [rollingBack, run_tryCatch]
  rfl

end Script

end Transactions
