import Sleuthgraph.Lib.Programs
import Mathlib.Data.List.Basic

/-!
# Database sessions and transactions

A session has a committed store and a transaction of pending writes on top of it. `write`
adds to the transaction, `commit` publishes it, `rollback` discards it. After a statement
that did not get through, the session refuses every further statement, the commit included,
until it is rolled back. A third component stands for the outside world (an object store, a
queue): what a program did there no rollback undoes.

Whether a statement gets through is an input of each operation (`lost`), so a theorem about
a program holds for every pattern of failures.

The second half is the abstract side. A `Plan` is what a piece of code that never commits
does to a store: the writes it makes, and how it leaves the transaction when it raises.
`Runs m p` says that the program `m` does just what the plan `p` says.
-/

namespace Transactions

open Programs

/-- The writes `W` a store `S` understands, and the constraints it checks on them. -/
class Writes (S W : Type) where
  apply : S → W → S
  accepts : S → W → Bool

/-- What a session raises by itself. -/
class SessionErrors (ε : Type) where
  /-- a statement did not get through -/
  refused : ε
  /-- the session waits for a rollback -/
  needsRollback : ε

/-- A database session, and the world outside the transaction. -/
structure Session (S W O : Type) where
  committed : S
  pending : List W
  failed : Bool
  outside : O

section

variable {S W O ε α β : Type} [Writes S W]

/-- Apply writes in order. -/
def applyAll (st : S) (ws : List W) : S := ws.foldl Writes.apply st

@[simp] theorem applyAll_nil (st : S) : applyAll st ([] : List W) = st := rfl

@[simp] theorem applyAll_cons (st : S) (w : W) (ws : List W) :
    applyAll st (w :: ws) = applyAll (Writes.apply st w) ws := rfl

theorem applyAll_append (st : S) (ws ws' : List W) :
    applyAll st (ws ++ ws') = applyAll (applyAll st ws) ws' := List.foldl_append

namespace Session

/-- What the session's own statements see. -/
def work (s : Session S W O) : S := applyAll s.committed s.pending

/-- The session after a rollback. -/
def rolledBack (s : Session S W O) : Session S W O := { s with pending := [], failed := false }

/-- The session with writes added to its transaction. -/
def extend (s : Session S W O) (ws : List W) : Session S W O :=
  { s with pending := s.pending ++ ws }

/-- No transaction is open. -/
structure Idle (s : Session S W O) : Prop where
  pending : s.pending = []
  failed : s.failed = false

theorem Idle.work {s : Session S W O} (h : s.Idle) : s.work = s.committed := by
  rw [Session.work, h.pending, applyAll_nil]

@[simp] theorem work_extend (s : Session S W O) (ws : List W) :
    (s.extend ws).work = applyAll s.work ws := applyAll_append _ _ _

omit [Writes S W] in
@[simp] theorem extend_nil (s : Session S W O) : s.extend [] = s := by
  rw [extend, List.append_nil]

omit [Writes S W] in
theorem extend_extend (s : Session S W O) (ws ws' : List W) :
    (s.extend ws).extend ws' = s.extend (ws ++ ws') := by
  simp only [extend, List.append_assoc]

end Session

/-! ## Statements -/

/-- Programs over a session. -/
abbrev Sql (S W O ε α : Type) := Prog (Session S W O) ε α

variable [SessionErrors ε]

/-- A statement that reads. -/
def query (lost : Bool) (q : S → α) : Sql S W O ε α := fun s =>
  if s.failed then (.error SessionErrors.needsRollback, s)
  else if lost then (.error SessionErrors.refused, { s with failed := true })
  else (.ok (q s.work), s)

/-- A statement that writes. -/
def write (lost : Bool) (w : W) : Sql S W O ε Unit := fun s =>
  if s.failed then (.error SessionErrors.needsRollback, s)
  else if lost || !Writes.accepts s.work w then
    (.error SessionErrors.refused, { s with failed := true })
  else (.ok (), s.extend [w])

/-- Publish the transaction. -/
def commit (lost : Bool) : Sql S W O ε Unit := fun s =>
  if s.failed then (.error SessionErrors.needsRollback, s)
  else if lost then (.error SessionErrors.refused, { s with failed := true })
  else (.ok (), { s with committed := s.work, pending := [] })

omit [Writes S W] [SessionErrors ε] in
/-- Discard the transaction. -/
def rollback : Sql S W O ε Unit := fun s => (.ok (), s.rolledBack)

omit [Writes S W] [SessionErrors ε] in
/-- A call to the outside world. -/
def external (f : O → Except ε α × O) : Sql S W O ε α := fun s =>
  ((f s.outside).1, { s with outside := (f s.outside).2 })

/-- `except: rollback; raise` around a block. -/
def rollingBack (m : Sql S W O ε α) : Sql S W O ε α :=
  tryCatch m fun e => do
    rollback
    throw e

theorem query_apply {s : Session S W O} (h : s.failed = false) (q : S → α) :
    (query false q : Sql S W O ε α) s = (.ok (q s.work), s) := by
  simp [query, h]

theorem query_lost {s : Session S W O} (h : s.failed = false) (q : S → α) :
    (query true q : Sql S W O ε α) s
      = (.error SessionErrors.refused, { s with failed := true }) := by
  simp [query, h]

theorem write_apply {s : Session S W O} (h : s.failed = false) {w : W}
    (hw : Writes.accepts s.work w = true) :
    (write false w : Sql S W O ε Unit) s = (.ok (), s.extend [w]) := by
  simp [write, h, hw]

theorem write_refused {s : Session S W O} (h : s.failed = false) {lost : Bool} {w : W}
    (hw : (lost || !Writes.accepts s.work w) = true) :
    (write lost w : Sql S W O ε Unit) s
      = (.error SessionErrors.refused, { s with failed := true }) := by
  simp [write, h, hw]

theorem commit_apply {s : Session S W O} (h : s.failed = false) :
    (commit false : Sql S W O ε Unit) s
      = (.ok (), { s with committed := s.work, pending := [] }) := by
  simp [commit, h]

/-- Writes of a fresh transaction, published. -/
theorem commit_extend {s : Session S W O} (h : s.Idle) (ws : List W) :
    (commit false : Sql S W O ε Unit) (s.extend ws)
      = (.ok (), ⟨applyAll s.committed ws, [], false, s.outside⟩) := by
  have hfailed : (s.extend ws).failed = false := h.failed
  rw [commit_apply hfailed, Session.work_extend, h.work, hfailed]
  rfl

theorem commit_failed {s : Session S W O} (h : s.failed = true) (lost : Bool) :
    (commit lost : Sql S W O ε Unit) s = (.error SessionErrors.needsRollback, s) := by
  simp [commit, h]

theorem write_failed {s : Session S W O} (h : s.failed = true) (lost : Bool) (w : W) :
    (write lost w : Sql S W O ε Unit) s = (.error SessionErrors.needsRollback, s) := by
  simp [write, h]

theorem commit_lost {s : Session S W O} (h : s.failed = false) :
    (commit true : Sql S W O ε Unit) s
      = (.error SessionErrors.refused, { s with failed := true }) := by
  simp [commit, h]

/-! What a statement needs to get through. -/

theorem query_eq_ok_iff {lost : Bool} {q : S → α} {s s' : Session S W O} {a : α} :
    (query lost q : Sql S W O ε α) s = (.ok a, s') ↔
      s.failed = false ∧ lost = false ∧ q s.work = a ∧ s = s' := by
  cases hs : s.failed with
  | true => simp [query, hs]
  | false => cases lost <;> simp [query, hs]

theorem write_eq_ok_iff {lost : Bool} {w : W} {s s' : Session S W O} {u : Unit} :
    (write lost w : Sql S W O ε Unit) s = (.ok u, s') ↔
      s.failed = false ∧ lost = false ∧ Writes.accepts s.work w = true ∧ s.extend [w] = s' := by
  cases hs : s.failed with
  | true => simp [write, hs]
  | false =>
    cases lost with
    | true => simp [write, hs]
    | false => cases hw : Writes.accepts s.work w <;> simp [write, hs, hw]

theorem commit_eq_ok_iff {lost : Bool} {s s' : Session S W O} {u : Unit} :
    (commit lost : Sql S W O ε Unit) s = (.ok u, s') ↔
      s.failed = false ∧ lost = false ∧
        { s with committed := s.work, pending := [] } = s' := by
  cases hs : s.failed with
  | true => simp [commit, hs]
  | false => cases lost <;> simp [commit, hs]

/-- A read that answers leaves the session as it is. -/
theorem query_ok {lost : Bool} {q : S → α} {s s' : Session S W O} {a : α}
    (h : (query lost q : Sql S W O ε α) s = (.ok a, s')) :
    s' = s ∧ s.failed = false ∧ a = q s.work := by
  unfold query at h
  split at h
  · cases h
  · rename_i hfailed
    split at h
    · cases h
    · cases h
      exact ⟨rfl, by simpa using hfailed, rfl⟩

/-- A read changes neither the store nor the transaction. -/
theorem query_unchanged (lost : Bool) (q : S → α) (s : Session S W O) :
    ((query lost q : Sql S W O ε α) s).2.committed = s.committed ∧
      ((query lost q : Sql S W O ε α) s).2.pending = s.pending := by
  unfold query
  split
  · exact ⟨rfl, rfl⟩
  · split <;> exact ⟨rfl, rfl⟩

/-- A write joins the transaction, or changes neither the store nor the transaction. -/
theorem write_changes (lost : Bool) (w : W) (s : Session S W O) :
    (s.failed = false ∧ lost = false ∧ Writes.accepts s.work w = true ∧
      ((write lost w : Sql S W O ε Unit) s).2 = s.extend [w]) ∨
    (((write lost w : Sql S W O ε Unit) s).2.committed = s.committed ∧
      ((write lost w : Sql S W O ε Unit) s).2.pending = s.pending) := by
  unfold write
  split
  · exact Or.inr ⟨rfl, rfl⟩
  · rename_i hfailed
    split
    · exact Or.inr ⟨rfl, rfl⟩
    · rename_i hlost
      simp only [Bool.not_eq_true, Bool.or_eq_false_iff, Bool.not_eq_false'] at hfailed hlost
      exact Or.inl ⟨hfailed, hlost.1, hlost.2, rfl⟩

/-- A commit publishes the transaction, or changes neither the store nor the transaction. -/
theorem commit_changes (lost : Bool) (s : Session S W O) :
    (s.failed = false ∧ lost = false ∧
      ((commit lost : Sql S W O ε Unit) s).2 = { s with committed := s.work, pending := [] }) ∨
    (((commit lost : Sql S W O ε Unit) s).2.committed = s.committed ∧
      ((commit lost : Sql S W O ε Unit) s).2.pending = s.pending) := by
  unfold commit
  split
  · exact Or.inr ⟨rfl, rfl⟩
  · rename_i hfailed
    split
    · exact Or.inr ⟨rfl, rfl⟩
    · rename_i hlost
      simp only [Bool.not_eq_true] at hfailed hlost
      exact Or.inl ⟨hfailed, hlost, rfl⟩

/-! ## Errors of a session -/

/-- What the session raises by itself: a statement that did not get through, or one after it. -/
def SessionErrors.IsOwn (e : ε) : Prop :=
  e = SessionErrors.refused ∨ e = SessionErrors.needsRollback

theorem query_raises {lost : Bool} {q : S → α} {s s' : Session S W O} {e : ε}
    (h : (query lost q : Sql S W O ε α) s = (.error e, s')) : SessionErrors.IsOwn e := by
  unfold query at h
  split at h
  · cases h
    exact Or.inr rfl
  · split at h
    · cases h
      exact Or.inl rfl
    · cases h

theorem write_raises {lost : Bool} {w : W} {s s' : Session S W O} {e : ε}
    (h : (write lost w : Sql S W O ε Unit) s = (.error e, s')) : SessionErrors.IsOwn e := by
  unfold write at h
  split at h
  · cases h
    exact Or.inr rfl
  · split at h
    · cases h
      exact Or.inl rfl
    · cases h

theorem commit_raises {lost : Bool} {s s' : Session S W O} {e : ε}
    (h : (commit lost : Sql S W O ε Unit) s = (.error e, s')) : SessionErrors.IsOwn e := by
  unfold commit at h
  split at h
  · cases h
    exact Or.inr rfl
  · split at h
    · cases h
      exact Or.inl rfl
    · cases h

/-! ## Invariants of a session -/

/-- `I` holds of what is committed, and `J` of what the session sees while it is usable; both
may speak about the outside world. -/
structure Holds (I J : S → O → Prop) (s : Session S W O) : Prop where
  committed : I s.committed s.outside
  work : s.failed = false → J s.work s.outside

/-- `I` holds of what is committed and the session waits for a rollback. -/
abbrev Stuck (I : S → O → Prop) : Session S W O → Prop := Holds I fun _ _ => False

variable {I J J' K : S → O → Prop} {P : Session S W O → Prop}

omit [SessionErrors ε] in
theorem Holds.weaken {s : Session S W O} (h : Holds I J s) (hJ : ∀ st o, J st o → K st o) :
    Holds I K s :=
  ⟨h.committed, fun hs => hJ _ _ (h.work hs)⟩

omit [SessionErrors ε] in
theorem Holds.left {s : Session S W O}
    (h : Holds (fun st o => I st o ∧ K st o) (fun st o => I st o ∧ K st o) s) : Holds I I s :=
  ⟨h.committed.1, fun hs => (h.work hs).1⟩

omit [SessionErrors ε] in
theorem Holds.of_stuck {s : Session S W O} (h : Stuck I s) : Holds I K s :=
  h.weaken fun _ _ => False.elim

omit [SessionErrors ε] in
theorem Holds.fail {s : Session S W O} (h : Holds I J s) :
    Stuck I ({ s with failed := true } : Session S W O) :=
  ⟨h.committed, fun hs => Bool.noConfusion hs⟩

omit [SessionErrors ε] in
theorem Holds.stuck {s : Session S W O} (h : Holds I J s) (hs : s.failed = true) : Stuck I s :=
  ⟨h.committed, fun hf => by rw [hs] at hf; cases hf⟩

/-- A read answers from the view of the session. -/
theorem Holds.query (lost : Bool) (q : S → α) :
    Prog.Triple (Holds I J) (query lost q : Sql S W O ε α)
      (fun a => Holds I fun st o => J st o ∧ a = q st) (fun _ => Stuck I) := by
  intro s hs
  by_cases hf : s.failed = true
  · simpa [Transactions.query, hf] using hs.stuck hf
  · simp only [Bool.not_eq_true] at hf
    cases lost
    · rw [query_apply hf]
      exact ⟨hs.committed, fun h => ⟨hs.work h, rfl⟩⟩
    · rw [query_lost hf]
      exact hs.fail

/-- A read that answers has a store to answer from. -/
theorem Holds.query_reads (lost : Bool) (q : S → α) :
    Prog.Triple (Holds I J) (Transactions.query lost q : Sql S W O ε α)
      (fun a s => (∃ st o, J st o ∧ a = q st) ∧ Holds I (fun st o => J st o ∧ a = q st) s)
      (fun _ => Stuck I) := by
  intro s hs
  by_cases hf : s.failed = true
  · simpa [Transactions.query, hf] using hs.stuck hf
  · simp only [Bool.not_eq_true] at hf
    cases lost
    · rw [query_apply hf]
      exact ⟨⟨s.work, s.outside, hs.work hf, rfl⟩, hs.committed, fun h => ⟨hs.work h, rfl⟩⟩
    · rw [query_lost hf]
      exact hs.fail

/-- A write that is accepted moves the view. -/
theorem Holds.write (lost : Bool) (w : W)
    (h : ∀ st o, J st o → Writes.accepts st w = true → K (Writes.apply st w) o) :
    Prog.Triple (Holds I J) (write lost w : Sql S W O ε Unit) (fun _ => Holds I K)
      (fun _ => Stuck I) := by
  intro s hs
  by_cases hf : s.failed = true
  -- a session that has failed refuses, and stays as it is
  · rw [write_failed hf]
    exact hs.stuck hf
  · simp only [Bool.not_eq_true] at hf
    by_cases hl : (lost || !Writes.accepts s.work w) = true
    · simpa [Transactions.write, hf, hl] using hs.fail
    · simp only [Bool.or_eq_true, Bool.not_eq_true', not_or, Bool.not_eq_true,
        Bool.not_eq_false] at hl
      rw [hl.1, write_apply hf hl.2]
      refine ⟨hs.committed, fun _ => ?_⟩
      rw [Session.work_extend]
      exact h _ _ (hs.work hf) hl.2

/-- A commit publishes the view. -/
theorem Holds.commit (lost : Bool) (h : ∀ st o, J st o → I st o) :
    Prog.Triple (Holds I J) (commit lost : Sql S W O ε Unit) (fun _ => Holds I J)
      (fun _ => Stuck I) := by
  intro s hs
  by_cases hf : s.failed = true
  · rw [commit_failed hf]
    exact hs.stuck hf
  · simp only [Bool.not_eq_true] at hf
    cases lost
    · rw [commit_apply hf]
      exact ⟨h _ _ (hs.work hf), fun _ => hs.work hf⟩
    · rw [commit_lost hf]
      exact hs.fail

/-- After a commit that gets through, what is committed is the view. -/
theorem Holds.commit_publishes (lost : Bool) :
    Prog.Triple (Holds I J) (Transactions.commit lost : Sql S W O ε Unit)
      (fun _ s => Holds J J s ∧ s.failed = false) (fun _ => Stuck I) := by
  intro s hs
  by_cases hf : s.failed = true
  · rw [commit_failed hf]
    exact hs.stuck hf
  · simp only [Bool.not_eq_true] at hf
    cases lost
    · rw [commit_apply hf]
      exact ⟨⟨hs.work hf, fun _ => hs.work hf⟩, hf⟩
    · rw [commit_lost hf]
      exact hs.fail

/-- A write that is lost or refused raises. -/
theorem Holds.write_raises {lost : Bool} {w : W}
    (h : ∀ st o, J st o → (lost || !Writes.accepts st w) = true) :
    Prog.Triple (Holds I J) (Transactions.write lost w : Sql S W O ε Unit) (fun _ _ => False)
      (fun _ => Stuck I) := by
  intro s hs
  by_cases hf : s.failed = true
  · rw [write_failed hf]
    exact hs.stuck hf
  · simp only [Bool.not_eq_true] at hf
    rw [write_refused hf (h _ _ (hs.work hf))]
    exact hs.fail

/-- A commit that is lost raises. -/
theorem Holds.commit_raises :
    Prog.Triple (Holds I J) (Transactions.commit true : Sql S W O ε Unit) (fun _ _ => False)
      (fun _ => Stuck I) := by
  intro s hs
  by_cases hf : s.failed = true
  · rw [commit_failed hf]
    exact hs.stuck hf
  · simp only [Bool.not_eq_true] at hf
    rw [commit_lost hf]
    exact hs.fail

omit [SessionErrors ε] in
theorem Holds.rollback :
    Prog.Triple (Holds I J) (rollback : Sql S W O ε Unit) (fun _ => Holds I I)
      (fun _ => Stuck I) :=
  fun _ hs => ⟨hs.committed, fun _ => hs.committed⟩

omit [SessionErrors ε] in
/-- A call to the outside world, when both sides of the invariant survive it. -/
theorem Holds.external (f : O → Except ε α × O)
    (hI : ∀ st o, I st o → I st (f o).2)
    (hok : ∀ st o a, J st o → (f o).1 = .ok a → K st (f o).2)
    (herr : ∀ st o e, J st o → (f o).1 = .error e → J' st (f o).2) :
    Prog.Triple (Holds I J) (external f : Sql S W O ε α) (fun _ => Holds I K)
      (fun _ => Holds I J') := by
  refine Prog.Triple.intro (fun s a s' hs h => ?_) fun s e s' hs h => ?_
  · obtain ⟨hf, rfl⟩ := Prod.mk.inj h
    exact ⟨hI _ _ hs.committed, fun hu => hok _ _ a (hs.work hu) hf⟩
  · obtain ⟨hf, rfl⟩ := Prod.mk.inj h
    exact ⟨hI _ _ hs.committed, fun hu => herr _ _ e (hs.work hu) hf⟩

omit [SessionErrors ε] in
/-- A call that reads from the outside world. -/
theorem Holds.external_reads (g : O → Except ε α) :
    Prog.Triple (Holds I J) (Transactions.external fun o => (g o, o) : Sql S W O ε α)
      (fun a => Holds I fun st o => J st o ∧ g o = .ok a) (fun _ => Holds I J) := by
  refine Prog.Triple.intro (fun s a s' hs h => ?_) fun s e s' hs h => ?_
  · obtain ⟨hg, rfl⟩ := Prod.mk.inj h
    exact ⟨hs.committed, fun hu => ⟨hs.work hu, hg⟩⟩
  · obtain ⟨-, rfl⟩ := Prod.mk.inj h
    exact ⟨hs.committed, hs.work⟩

omit [SessionErrors ε] in
theorem Holds.ofExcept (r : Except ε α) :
    Prog.Triple (Holds I J) (Prog.ofExcept r : Sql S W O ε α)
      (fun a => Holds I fun st o => J st o ∧ r = .ok a) (fun _ => Holds I J) := by
  cases r with
  | ok a => exact Prog.Triple.pure fun _ h => h.weaken fun _ _ h => ⟨h, rfl⟩
  | error e => exact Prog.Triple.throw fun _ h => h

omit [SessionErrors ε] in
/-- After a rollback the view is what is committed again. -/
theorem Holds.rollingBack {m : Sql S W O ε α} {Q : α → Session S W O → Prop}
    (hm : Prog.Triple P m Q (fun _ => Holds I J)) :
    Prog.Triple P (rollingBack m) Q (fun _ => Holds I I) :=
  Prog.Triple.tryCatch hm fun _ =>
    (Holds.rollback.post (fun _ _ h => h) fun _ _ h => h.of_stuck).bind
      fun _ => Prog.Triple.throw fun _ h => h

/-! ## Plans -/

/-- How a raise leaves the transaction it interrupts. -/
inductive Leaves where
  /-- usable, with the writes made so far -/
  | usable
  /-- refusing every statement until a rollback -/
  | failed
  /-- already rolled back -/
  | undone
deriving DecidableEq, Repr

/-- What code that does not commit does to a transaction. -/
inductive Effect (W ε α : Type) where
  | done (a : α) (ws : List W)
  | raised (how : Leaves) (e : ε) (ws : List W)

/-- The effect on a session whose transaction is usable. -/
def Effect.on (s : Session S W O) : Effect W ε α → Except ε α × Session S W O
  | .done a ws => (.ok a, s.extend ws)
  | .raised .usable e ws => (.error e, s.extend ws)
  | .raised .failed e ws => (.error e, { s.extend ws with failed := true })
  | .raised .undone e _ => (.error e, s.rolledBack)

/-- The effect as a function of the store it starts from and of the outside world. -/
def Plan (S W O ε α : Type) : Type := S → O → Effect W ε α × O

namespace Plan

omit [SessionErrors ε] [Writes S W] in
/-- Answer `a` and do nothing. -/
def pure (a : α) : Plan S W O ε α := fun _ o => (.done a [], o)

omit [SessionErrors ε] [Writes S W] in
/-- Raise without touching the transaction. -/
def throw (e : ε) : Plan S W O ε α := fun _ o => (.raised .usable e [], o)

/-- Read from the store, then do what `f` makes of the answer. -/
def lookup (lost : Bool) (q : S → α) (f : α → Plan S W O ε β) : Plan S W O ε β := fun st o =>
  if lost then (.raised .failed SessionErrors.refused [], o) else f (q st) st o

omit [SessionErrors ε] [Writes S W] in
/-- Return or raise, without touching the transaction. -/
def ofExcept : Except ε α → Plan S W O ε α
  | .ok a => pure a
  | .error e => throw e

omit [SessionErrors ε] in
/-- First `p`, then what `f` makes of its answer, on the store `p` left. -/
def bind (p : Plan S W O ε α) (f : α → Plan S W O ε β) : Plan S W O ε β := fun st o =>
  match p st o with
  | (.done a ws, o') =>
    match f a (applyAll st ws) o' with
    | (.done b ws', o'') => (.done b (ws ++ ws'), o'')
    | (.raised how e ws', o'') => (.raised how e (ws ++ ws'), o'')
  | (.raised how e ws, o') => (.raised how e ws, o')

end Plan

/-- The program `m` does to a usable transaction what the plan `p` says. -/
def Runs (m : Sql S W O ε α) (p : Plan S W O ε α) : Prop :=
  ∀ s : Session S W O, s.failed = false →
    m s = (p s.work s.outside).1.on { s with outside := (p s.work s.outside).2 }

omit [SessionErrors ε] in
theorem Runs.pure (a : α) : Runs (Pure.pure a : Sql S W O ε α) (Plan.pure a) := by
  intro s _
  simp [Plan.pure, Effect.on]

omit [SessionErrors ε] in
theorem Runs.throw (e : ε) :
    Runs (MonadExcept.throw e : Sql S W O ε α) (Plan.throw e) := by
  intro s _
  simp only [Plan.throw, Effect.on, Session.extend_nil]
  rfl

theorem Runs.lookup (lost : Bool) (q : S → α) {f : α → Sql S W O ε β}
    {g : α → Plan S W O ε β} (hf : ∀ a, Runs (f a) (g a)) :
    Runs (query lost q >>= f) (Plan.lookup lost q g) := by
  intro s hs
  cases lost
  · rw [Prog.bind_apply_ok (query_apply hs q)]
    exact hf _ s hs
  · rw [Prog.bind_apply_error (query_lost hs q)]
    simp [Plan.lookup, Effect.on]

omit [SessionErrors ε] in
theorem Runs.ofExcept (r : Except ε α) :
    Runs (Prog.ofExcept r : Sql S W O ε α) (Plan.ofExcept r) := by
  cases r with
  | ok a => exact Runs.pure a
  | error e => exact Runs.throw e

omit [SessionErrors ε] in
/-- Programs in sequence run their plans in sequence. -/
theorem Runs.bind {m : Sql S W O ε α} {p : Plan S W O ε α} {f : α → Sql S W O ε β}
    {g : α → Plan S W O ε β} (hm : Runs m p) (hf : ∀ a, Runs (f a) (g a)) :
    Runs (m >>= f) (p.bind g) := by
  intro s hs
  have hms := hm s hs
  rw [Prog.bind_apply, hms, Plan.bind]
  cases hp : p s.work s.outside with
  | mk eff o' =>
    cases eff with
    -- `f` starts on the store that the writes of `p` lead to
    | done a ws =>
      have hfa := hf a (Session.extend { s with outside := o' } ws) hs
      have hwork : (Session.extend { s with outside := o' } ws).work = applyAll s.work ws :=
        Session.work_extend _ _
      rw [hwork] at hfa
      refine hfa.trans ?_
      show (g a (applyAll s.work ws) o').1.on _ = _
      cases hg : g a (applyAll s.work ws) o' with
      | mk eff' o'' =>
        cases eff' with
        | done b ws' => simp [Effect.on, Session.extend, hg]
        | raised how e ws' =>
          cases how <;> simp [Effect.on, Session.extend, Session.rolledBack, hg]
    -- the raise of `p` is the raise of the sequence
    | raised how e ws => cases how <;> rfl

/-! ## Plans that are done -/

omit [SessionErrors ε] in
/-- A program that returns has carried out its plan. -/
theorem Runs.ok {m : Sql S W O ε α} {p : Plan S W O ε α} (h : Runs m p) {s s' : Session S W O}
    {a : α} (hs : s.failed = false) (hm : m s = (.ok a, s')) :
    ∃ ws o', p s.work s.outside = (.done a ws, o') ∧
      s' = { s.extend ws with outside := o' } := by
  have hplan := h s hs
  rw [hm] at hplan
  cases hp : p s.work s.outside with
  | mk eff o' =>
    rw [hp] at hplan
    cases eff with
    | done b ws =>
      cases hplan
      exact ⟨ws, o', rfl, rfl⟩
    | raised how e ws => cases how <;> cases hplan

section Done

variable {a : α} {b : β} {st : S} {o o' : O} {ws : List W}

omit [SessionErrors ε] [Writes S W] in
theorem Plan.ofExcept_done {r : Except ε α} :
    (Plan.ofExcept r : Plan S W O ε α) st o = (.done a ws, o') ↔ r = .ok a ∧ ws = [] ∧ o' = o := by
  cases r with
  | ok a' =>
    simp only [Plan.ofExcept, Plan.pure, Prod.mk.injEq, Effect.done.injEq, Except.ok.injEq,
      and_assoc]
    exact and_congr_right fun _ => and_congr eq_comm eq_comm
  | error e => simp [Plan.ofExcept, Plan.throw]

omit [Writes S W] in
theorem Plan.lookup_done {lost : Bool} {q : S → α} {f : α → Plan S W O ε β} :
    Plan.lookup lost q f st o = (.done b ws, o') ↔
      lost = false ∧ f (q st) st o = (.done b ws, o') := by
  cases lost <;> simp [Plan.lookup]

omit [SessionErrors ε] in
/-- Both parts are done, and the writes are those of both. -/
theorem Plan.bind_done {p : Plan S W O ε α} {f : α → Plan S W O ε β} :
    p.bind f st o = (.done b ws, o') ↔
      ∃ a ws₁ o₁ ws₂, p st o = (.done a ws₁, o₁) ∧
        f a (applyAll st ws₁) o₁ = (.done b ws₂, o') ∧ ws = ws₁ ++ ws₂ := by
  unfold Plan.bind
  cases hp : p st o with
  | mk eff o₁ =>
    cases eff with
    | raised how e ws₁ => simp
    | done a ws₁ =>
      dsimp only
      cases hf : f a (applyAll st ws₁) o₁ with
      | mk eff' o₂ =>
        constructor
        · intro h
          cases eff' with
          | raised how e ws₂ => cases h
          | done b' ws₂ =>
            cases h
            exact ⟨a, ws₁, o₁, ws₂, rfl, hf, rfl⟩
        · intro ⟨a', ws₁', o₁', ws₂, hp', hf', hws⟩
          cases hp'
          rw [hf] at hf'
          cases hf'
          rw [hws]

end Done

/-! ## What the writes of a plan have in common -/

/-- The writes of an effect. -/
def Effect.writes : Effect W ε α → List W
  | .done _ ws => ws
  | .raised _ _ ws => ws

/-- Wherever the plan starts and however it ends, its writes are in `R`. -/
def Plan.Within (R : S → List W → Prop) (p : Plan S W O ε α) : Prop :=
  ∀ st o, R st (p st o).1.writes

section Within

variable {R : S → List W → Prop}

omit [SessionErrors ε] [Writes S W] in
theorem Plan.Within.pure (hnil : ∀ st, R st []) (a : α) :
    Plan.Within R (Plan.pure a : Plan S W O ε α) := fun st _ => hnil st

omit [SessionErrors ε] [Writes S W] in
theorem Plan.Within.throw (hnil : ∀ st, R st []) (e : ε) :
    Plan.Within R (Plan.throw e : Plan S W O ε α) := fun st _ => hnil st

omit [SessionErrors ε] [Writes S W] in
theorem Plan.Within.ofExcept (hnil : ∀ st, R st []) (r : Except ε α) :
    Plan.Within R (Plan.ofExcept r : Plan S W O ε α) := by
  cases r with
  | ok a => exact Plan.Within.pure hnil a
  | error e => exact Plan.Within.throw hnil e

omit [Writes S W] in
/-- After a read, what follows may use what the store answered. -/
theorem Plan.Within.lookup (hnil : ∀ st, R st []) {lost : Bool} {q : S → α}
    {f : α → Plan S W O ε β} (hf : ∀ st o, R st (f (q st) st o).1.writes) :
    Plan.Within R (Plan.lookup lost q f) := by
  intro st o
  unfold Plan.lookup
  split
  · exact hnil st
  · exact hf st o

omit [SessionErrors ε] in
theorem Plan.Within.bind (happend : ∀ st ws ws', R st ws → R (applyAll st ws) ws' →
      R st (ws ++ ws')) {p : Plan S W O ε α} {f : α → Plan S W O ε β}
    (hp : Plan.Within R p) (hf : ∀ a, Plan.Within R (f a)) : Plan.Within R (p.bind f) := by
  intro st o
  have hp := hp st o
  unfold Plan.bind
  cases h : p st o with
  | mk eff o' =>
    rw [h] at hp
    cases eff with
    | raised how e ws => exact hp
    | done a ws =>
      have hf := hf a (applyAll st ws) o'
      dsimp only
      cases h' : f a (applyAll st ws) o' with
      | mk eff' o'' =>
        rw [h'] at hf
        cases eff' with
        | done b ws' => exact happend st ws ws' hp hf
        | raised how e ws' => exact happend st ws ws' hp hf

end Within

/-! ## Plans inside the transaction -/

/-- The plan leaves the outside world as it is. -/
def Plan.Inside (p : Plan S W O ε α) : Prop := ∀ st o, (p st o).2 = o

section Inside

omit [SessionErrors ε] [Writes S W] in
theorem Plan.Inside.pure (a : α) : Plan.Inside (Plan.pure a : Plan S W O ε α) := fun _ _ => rfl

omit [SessionErrors ε] [Writes S W] in
theorem Plan.Inside.throw (e : ε) : Plan.Inside (Plan.throw e : Plan S W O ε α) := fun _ _ => rfl

omit [SessionErrors ε] [Writes S W] in
theorem Plan.Inside.ofExcept (r : Except ε α) :
    Plan.Inside (Plan.ofExcept r : Plan S W O ε α) := by
  cases r with
  | ok a => exact Plan.Inside.pure a
  | error e => exact Plan.Inside.throw e

omit [Writes S W] in
theorem Plan.Inside.lookup {lost : Bool} {q : S → α} {f : α → Plan S W O ε β}
    (hf : ∀ a, Plan.Inside (f a)) : Plan.Inside (Plan.lookup lost q f) := by
  intro st o
  unfold Plan.lookup
  split
  · rfl
  · exact hf (q st) st o

omit [SessionErrors ε] in
theorem Plan.Inside.bind {p : Plan S W O ε α} {f : α → Plan S W O ε β}
    (hp : Plan.Inside p) (hf : ∀ a, Plan.Inside (f a)) : Plan.Inside (p.bind f) := by
  intro st o
  have hpo := hp st o
  unfold Plan.bind
  cases h : p st o with
  | mk eff o' =>
    rw [h] at hpo
    cases eff with
    | raised how e ws => exact hpo
    | done a ws =>
      have hfo := hf a (applyAll st ws) o'
      dsimp only
      cases h' : f a (applyAll st ws) o' with
      | mk eff' o'' =>
        rw [h'] at hfo
        cases eff' with
        | done b ws' => exact hfo.trans hpo
        | raised how e ws' => exact hfo.trans hpo

end Inside

end

end Transactions
