import Sleuthgraph.Lib.Scripts
import Sleuthgraph.Lib.Systems
import Mathlib.Data.Fintype.Basic
import Mathlib.Logic.Function.Basic

/-!
# Sessions at READ COMMITTED

Any number of sessions share a committed store and take turns, a statement at a time. A statement
sees what is committed when it starts, under the pending writes of its own transaction. A write
to a row that another open transaction has written waits for the end of that transaction.

The live rows of the store have a key that should be unique, but that no constraint protects.
`Serialized` are the runs in which no two sessions are after the same key at the same time, and
`Exclusive` is the invariant that keeps the keys unique in such a run.
-/

namespace Transactions

open Programs Systems

/-! ## Rows with keys -/

/-- The rows of a store by their ids. `keyAt` is `none` for a row that is absent or not live. -/
class KeyedRows (S : Type) (ι ρ K : outParam Type) where
  row : S → ι → ρ
  keyAt : S → ι → Option K
  free : S → K → Bool
  keyAt_congr {st st' : S} {i : ι} : row st i = row st' i → keyAt st i = keyAt st' i
  free_iff {st : S} {k : K} : free st k = true ↔ ∀ i, keyAt st i ≠ some k

/-- The row that a write is about. -/
class Targets (W : Type) (ι : outParam Type) where
  target : W → Option ι

export KeyedRows (row keyAt free)
export Targets (target)

/-- A write changes its own row only, and what it makes of it depends on that row alone. -/
class LocalWrites (S W : Type) {ι ρ K : outParam Type} [Writes S W] [KeyedRows S ι ρ K]
    [Targets W ι] : Prop where
  frame (st : S) {w : W} {i : ι} : target w ≠ some i → row (Writes.apply st w) i = row st i
  congr {st st' : S} (w : W) {i : ι} : row st i = row st' i →
    row (Writes.apply st w) i = row (Writes.apply st' w) i

section

variable {S W ι ρ K : Type} [Writes S W] [KeyedRows S ι ρ K] [Targets W ι] [LocalWrites S W]

/-- No two live rows have the same key. -/
def UniqueKeys (st : S) : Prop :=
  ∀ i j (k : K), keyAt st i = some k → keyAt st j = some k → i = j

/-- The write gives the key to a row. -/
def Gives (st : S) (w : W) (k : K) : Prop :=
  ∃ i, keyAt (Writes.apply st w) i = some k ∧ keyAt st i ≠ some k

/-- The writes are about the row. -/
def Touches (ws : List W) (i : ι) : Prop := ∃ w ∈ ws, target w = some i

theorem row_applyAll {st : S} {ws : List W} {i : ι} (h : ¬ Touches ws i) :
    row (applyAll st ws) i = row st i := by
  induction ws generalizing st with
  | nil => rfl
  | cons w ws ih =>
    have hw : target w ≠ some i := fun hw => h ⟨w, List.mem_cons_self, hw⟩
    rw [applyAll_cons, ih fun ⟨w', hw', htarget⟩ => h ⟨w', List.mem_cons_of_mem _ hw', htarget⟩,
      LocalWrites.frame st hw]

theorem row_applyAll_congr {st st' : S} (ws : List W) {i : ι} (h : row st i = row st' i) :
    row (applyAll st ws) i = row (applyAll st' ws) i := by
  induction ws generalizing st st' with
  | nil => exact h
  | cons w ws ih => exact ih (LocalWrites.congr w h)

/-- Only the row of the write can have got a key. -/
theorem target_eq_of_given {st : S} {w : W} {i : ι} {k : K}
    (hi : keyAt (Writes.apply st w) i = some k) (hne : keyAt st i ≠ some k) :
    target w = some i := by
  by_contra hw
  exact hne (by rwa [← KeyedRows.keyAt_congr (LocalWrites.frame st hw)])

/-- A write gives keys to its own row only. -/
theorem Gives.target_eq {st : S} {w : W} {k : K} (h : Gives st w k) :
    ∃ i, target w = some i ∧ keyAt (Writes.apply st w) i = some k := by
  obtain ⟨i, hi, hne⟩ := h
  exact ⟨i, target_eq_of_given hi hne, hi⟩

/-- A write keeps the keys unique if the keys that it gives are free. -/
theorem UniqueKeys.write {st : S} (h : UniqueKeys st) {w : W}
    (hfree : ∀ k, Gives st w k → ∀ i, keyAt st i ≠ some k) : UniqueKeys (Writes.apply st w) := by
  intro i j k hi hj
  by_cases hgives : Gives st w k
  -- no row had the key, so the row of the write is the only one that has it now
  · have hown : ∀ {i}, keyAt (Writes.apply st w) i = some k → target w = some i :=
      fun hi => target_eq_of_given hi (hfree k hgives _)
    exact Option.some.inj ((hown hi).symm.trans (hown hj))
  -- the write gives the key to nobody, so whoever has it had it
  · have hold : ∀ {i}, keyAt (Writes.apply st w) i = some k → keyAt st i = some k := by
      intro i hi
      by_contra hne
      exact hgives ⟨i, hi, hne⟩
    exact h i j k (hold hi) (hold hj)

end

/-! ## The sessions -/

/-- A session: its open transaction, the program it runs, and the key that this program has
looked up without finding a row. -/
structure Conn (S W K ε : Type) where
  pending : List W
  failed : Bool
  sought : Option K
  script : Option (Script S W K ε Unit)

/-- A committed store and its sessions. -/
structure Shared (S W K ε N : Type) where
  committed : S
  conns : N → Conn S W K ε

/-- Start a program, or execute the next statement. -/
inductive SharedAction (C N : Type) where
  | call (n : N) (c : C)
  | next (n : N)

section

variable {S W ι ρ K ε C N : Type} [Writes S W]

namespace Shared

/-- No session has done anything. -/
def start (st : S) : Shared S W K ε N := ⟨st, fun _ => ⟨[], false, none, none⟩⟩

/-- What a statement of the session works on. -/
def session (s : Shared S W K ε N) (n : N) : Session S W Unit :=
  ⟨s.committed, (s.conns n).pending, (s.conns n).failed, ()⟩

/-- What a statement of the session sees. -/
def view (s : Shared S W K ε N) (n : N) : S := applyAll s.committed (s.conns n).pending

/-- The session `n` becomes `conn`, and `st` is committed. -/
def put [DecidableEq N] (s : Shared S W K ε N) (n : N) (st : S) (conn : Conn S W K ε) :
    Shared S W K ε N :=
  ⟨st, Function.update s.conns n conn⟩

variable [KeyedRows S ι ρ K] [Targets W ι] [SessionErrors ε]

/-- Another open transaction has written the row of `w`. -/
def Locked (s : Shared S W K ε N) (n : N) (w : W) : Prop :=
  ∃ m, m ≠ n ∧ ∃ w' ∈ (s.conns m).pending, (target w).isSome ∧ target w' = target w

instance [Fintype N] [DecidableEq N] [DecidableEq ι] (s : Shared S W K ε N) (n : N) (w : W) :
    Decidable (s.Locked n w) :=
  inferInstanceAs (Decidable (∃ m, m ≠ n ∧ ∃ w' ∈ (s.conns m).pending, _))

/-- The statement gets as far as the rows of the store. -/
def Runs (s : Shared S W K ε N) (n : N) (lost : Bool) : Bool := !(s.conns n).failed && !lost

/-- The next statement has to wait. -/
def Waits (s : Shared S W K ε N) (n : N) : Script S W K ε Unit → Prop
  | .writeThen lost w _ =>
    s.Runs n lost = true ∧ Writes.accepts (s.view n) w = true ∧ s.Locked n w
  | _ => False

instance [Fintype N] [DecidableEq N] [DecidableEq ι] (s : Shared S W K ε N) (n : N)
    (sc : Script S W K ε Unit) : Decidable (s.Waits n sc) :=
  match sc with
  | .writeThen _ _ _ => inferInstanceAs (Decidable (_ ∧ _ ∧ _))
  | .ret _ | .readThen _ _ _ | .commitThen _ _ | .rollbackThen _ =>
    inferInstanceAs (Decidable False)

/-- The key that the program has looked up in vain, after its next statement. -/
def soughtAfter (s : Shared S W K ε N) (n : N) : Script S W K ε Unit → Option K
  | .readThen lost (some k) _ => if s.Runs n lost && free (s.view n) k then some k else none
  | .readThen _ none _ => (s.conns n).sought
  | _ => none

/-- What is left of a program after its next statement. -/
def remaining (s : Shared S W K ε N) (n : N) : Script S W K ε Unit → Option (Script S W K ε Unit)
  | .ret _ => none
  | sc => some (sc.step (s.session n)).1

variable [DecidableEq N]

/-- Execute the first statement of `sc` in the session `n`. -/
def execute (s : Shared S W K ε N) (n : N) (sc : Script S W K ε Unit) : Shared S W K ε N :=
  let after := (sc.step (s.session n)).2
  s.put n after.committed ⟨after.pending, after.failed, s.soughtAfter n sc, s.remaining n sc⟩

variable [Fintype N] [DecidableEq ι]

/-- Execute the next statement of a session. -/
def next (s : Shared S W K ε N) (n : N) : Option (Shared S W K ε N) :=
  match (s.conns n).script with
  | none => none
  | some sc => if s.Waits n sc then none else some (s.execute n sc)

/-- Start a program in a session that runs none, or execute the next statement of a session. -/
def step (program : C → Script S W K ε Unit) (s : Shared S W K ε N) :
    SharedAction C N → Option (Shared S W K ε N)
  | .call n c => match (s.conns n).script with
    | none => some (s.put n s.committed { s.conns n with script := some (program c) })
    | some _ => none
  | .next n => s.next n

end Shared

/-! ## Keys that sessions are after -/

namespace Shared

variable [KeyedRows S ι ρ K] [Targets W ι]

/-- The session has looked the key up in vain, or has given it to a row that is not committed. -/
def Holds (s : Shared S W K ε N) (n : N) (k : K) : Prop :=
  (s.conns n).sought = some k ∨ ∃ i, keyAt (s.view n) i = some k ∧ keyAt s.committed i ≠ some k

/-- No other session is after a key that is looked up in vain or given to a row; and a row is
given a key that the program has looked up in vain, or that no live row has. -/
def Serialized (s : Shared S W K ε N) : SharedAction C N → Prop
  | .call _ _ => True
  | .next n => match (s.conns n).script with
    | some (.readThen lost (some k) _) =>
      s.Runs n lost = true → free (s.view n) k = true → ∀ m, m ≠ n → ¬ s.Holds m k
    | some (.writeThen lost w _) =>
      s.Runs n lost = true → Writes.accepts (s.view n) w = true → ∀ k, Gives (s.view n) w k →
        ((s.conns n).sought = some k ∨ free (s.view n) k = true) ∧ ∀ m, m ≠ n → ¬ s.Holds m k
    | _ => True

/-- What keeps the keys unique: of the rows that are not committed, no two sessions have written
the same one, and no two sessions hold the same key. -/
structure Exclusive (s : Shared S W K ε N) : Prop where
  committed : UniqueKeys s.committed
  views : ∀ n, UniqueKeys (s.view n)
  locks : ∀ n m i, Touches (s.conns n).pending i → Touches (s.conns m).pending i → n = m
  holders : ∀ n m k, s.Holds n k → s.Holds m k → n = m
  sought : ∀ n k, (s.conns n).sought = some k → ∀ i, keyAt (s.view n) i ≠ some k

/-! ## The invariant along the statements -/

section

variable [DecidableEq N] {s : Shared S W K ε N} {n : N} {conn : Conn S W K ε} {st : S}

omit [Writes S W] [KeyedRows S ι ρ K] [Targets W ι] in
theorem conns_put_self : (s.put n st conn).conns n = conn := Function.update_self ..

omit [Writes S W] [KeyedRows S ι ρ K] [Targets W ι] in
theorem conns_put_of_ne {m : N} (h : m ≠ n) : (s.put n st conn).conns m = s.conns m :=
  Function.update_of_ne h ..

omit [KeyedRows S ι ρ K] [Targets W ι] in
theorem view_put_self : (s.put n st conn).view n = applyAll st conn.pending := by
  rw [view, conns_put_self]
  rfl

omit [KeyedRows S ι ρ K] [Targets W ι] in
theorem view_put_of_ne {m : N} (h : m ≠ n) :
    (s.put n st conn).view m = applyAll st (s.conns m).pending := by
  rw [view, conns_put_of_ne h]
  rfl

omit [KeyedRows S ι ρ K] [Targets W ι] in
theorem view_put_committed {m : N} (h : m ≠ n) : (s.put n s.committed conn).view m = s.view m :=
  view_put_of_ne h

omit [Writes S W] [KeyedRows S ι ρ K] [Targets W ι] [DecidableEq N] in
/-- At most one index has a property, after a change at `n` that takes it from no other index. -/
theorem at_most_one {P Q : N → Prop} (hold : ∀ a b, Q a → Q b → a = b)
    (hothers : ∀ m, m ≠ n → P m → Q m) (hself : P n → Q n ∨ ∀ m, m ≠ n → ¬ Q m) (a b : N)
    (ha : P a) (hb : P b) : a = b := by
  -- who has the property besides `n` had it before
  have hne : ∀ m, m ≠ n → P m → P n → False := by
    intro m hm hP hn
    rcases hself hn with hQ | hnone
    · exact hm (hold m n (hothers m hm hP) hQ)
    · exact hnone m hm (hothers m hm hP)
  by_cases han : a = n
  · by_cases hbn : b = n
    · rw [han, hbn]
    · exact (hne b hbn hb (han ▸ ha)).elim
  · by_cases hbn : b = n
    · exact (hne a han ha (hbn ▸ hb)).elim
    · exact hold a b (hothers a han ha) (hothers b hbn hb)

/-- A change of one session that takes nothing that another one holds. -/
theorem Exclusive.of_put (h : s.Exclusive) (hcommitted : UniqueKeys st)
    (hviews : ∀ m, UniqueKeys ((s.put n st conn).view m))
    (hpending : ∀ i, Touches conn.pending i → Touches (s.conns n).pending i ∨
      ∀ m, m ≠ n → ¬ Touches (s.conns m).pending i)
    (hself : ∀ k, (s.put n st conn).Holds n k → s.Holds n k ∨ ∀ m, m ≠ n → ¬ s.Holds m k)
    (hothers : ∀ m k, m ≠ n → (s.put n st conn).Holds m k → s.Holds m k)
    (hsought : ∀ m k, ((s.put n st conn).conns m).sought = some k →
      ∀ i, keyAt ((s.put n st conn).view m) i ≠ some k) :
    (s.put n st conn).Exclusive where
  committed := hcommitted
  views := hviews
  locks a b i := by
    refine at_most_one (n := n) (P := fun m => Touches ((s.put n st conn).conns m).pending i)
      (Q := fun m => Touches (s.conns m).pending i) (fun a b => h.locks a b i) ?_ ?_ a b
    · intro m hm hP
      rwa [conns_put_of_ne hm] at hP
    · intro hP
      rw [conns_put_self] at hP
      exact hpending i hP
  holders a b k := at_most_one (n := n) (P := fun m => (s.put n st conn).Holds m k)
    (Q := fun m => s.Holds m k) (fun a b => h.holders a b k) (fun m hm => hothers m k hm)
    (hself k) a b
  sought := hsought

/-- A statement that changes neither the store nor the transaction. -/
theorem Exclusive.keep (h : s.Exclusive) (hpending : conn.pending = (s.conns n).pending)
    (hsought : ∀ k, conn.sought = some k → (s.conns n).sought = some k ∨
      (free (s.view n) k = true ∧ ∀ m, m ≠ n → ¬ s.Holds m k)) :
    (s.put n s.committed conn).Exclusive := by
  have hself : (s.put n s.committed conn).view n = s.view n := by
    rw [view_put_self, hpending]
    rfl
  have hview : ∀ m, (s.put n s.committed conn).view m = s.view m := by
    intro m
    by_cases hm : m = n
    · rw [hm, hself]
    · exact view_put_committed hm
  refine h.of_put h.committed (fun m => ?_) (fun i hi => Or.inl (hpending ▸ hi)) (fun k hk => ?_)
    (fun m k hm hk => ?_) fun m k hk => ?_
  · rw [hview]
    exact h.views m
  · rcases hk with hk | ⟨i, hi, hne⟩
    · rw [conns_put_self] at hk
      rcases hsought k hk with hold | ⟨-, hnone⟩
      · exact Or.inl (Or.inl hold)
      · exact Or.inr hnone
    · rw [hself] at hi
      exact Or.inl (Or.inr ⟨i, hi, hne⟩)
  · rcases hk with hk | ⟨i, hi, hne⟩
    · rw [conns_put_of_ne hm] at hk
      exact Or.inl hk
    · rw [hview] at hi
      exact Or.inr ⟨i, hi, hne⟩
  · rw [hview]
    by_cases hm : m = n
    · subst hm
      rw [conns_put_self] at hk
      rcases hsought k hk with hold | ⟨hfree, -⟩
      · exact h.sought m k hold
      · exact KeyedRows.free_iff.mp hfree
    · rw [conns_put_of_ne hm] at hk
      exact h.sought m k hk

/-- A rollback. -/
theorem Exclusive.discard (h : s.Exclusive) (hpending : conn.pending = [])
    (hsought : conn.sought = none) : (s.put n s.committed conn).Exclusive := by
  have hself : (s.put n s.committed conn).view n = s.committed := by
    rw [view_put_self, hpending]
    rfl
  refine h.of_put h.committed (fun m => ?_) (fun i hi => ?_) (fun k hk => ?_)
    (fun m k hm hk => ?_) fun m k hk => ?_
  · by_cases hm : m = n
    · rw [hm, hself]
      exact h.committed
    · rw [view_put_committed hm]
      exact h.views m
  · rw [hpending] at hi
    obtain ⟨w, hw, -⟩ := hi
    cases hw
  · rcases hk with hk | ⟨i, hi, hne⟩
    · rw [conns_put_self, hsought] at hk
      cases hk
    · rw [hself] at hi
      exact absurd hi hne
  · rcases hk with hk | ⟨i, hi, hne⟩
    · rw [conns_put_of_ne hm] at hk
      exact Or.inl hk
    · rw [view_put_committed hm] at hi
      exact Or.inr ⟨i, hi, hne⟩
  · by_cases hm : m = n
    · rw [hm, conns_put_self, hsought] at hk
      cases hk
    · rw [conns_put_of_ne hm] at hk
      rw [view_put_committed hm]
      exact h.sought m k hk

variable [LocalWrites S W]

/-- A write to a row that no other session has written, of a key that no other session holds. -/
theorem Exclusive.write (h : s.Exclusive) {w : W}
    (hpending : conn.pending = (s.conns n).pending ++ [w]) (hsought : conn.sought = none)
    (hlock : ¬ s.Locked n w)
    (hgives : ∀ k, Gives (s.view n) w k →
      ((s.conns n).sought = some k ∨ free (s.view n) k = true) ∧ ∀ m, m ≠ n → ¬ s.Holds m k) :
    (s.put n s.committed conn).Exclusive := by
  have hself : (s.put n s.committed conn).view n = Writes.apply (s.view n) w := by
    rw [view_put_self, hpending, applyAll_append]
    rfl
  refine h.of_put h.committed (fun m => ?_) (fun i hi => ?_) (fun k hk => ?_)
    (fun m k hm hk => ?_) fun m k hk => ?_
  · by_cases hm : m = n
    · rw [hm, hself]
      refine (h.views n).write fun k hk => ?_
      rcases (hgives k hk).1 with hold | hfree
      · exact h.sought n k hold
      · exact KeyedRows.free_iff.mp hfree
    · rw [view_put_committed hm]
      exact h.views m
  · rw [hpending] at hi
    obtain ⟨w', hw', htarget⟩ := hi
    rcases List.mem_append.mp hw' with hold | hnew
    · exact Or.inl ⟨w', hold, htarget⟩
    · rw [List.mem_singleton.mp hnew] at htarget
      refine Or.inr fun m hm ⟨w'', hw'', htarget''⟩ => hlock ⟨m, hm, w'', hw'', ?_, ?_⟩
      · rw [htarget]
        rfl
      · rw [htarget'', htarget]
  · rcases hk with hk | ⟨i, hi, hne⟩
    · rw [conns_put_self, hsought] at hk
      cases hk
    · rw [hself] at hi
      by_cases hold : keyAt (s.view n) i = some k
      · exact Or.inl (Or.inr ⟨i, hold, hne⟩)
      · exact Or.inr (hgives k ⟨i, hi, hold⟩).2
  · rcases hk with hk | ⟨i, hi, hne⟩
    · rw [conns_put_of_ne hm] at hk
      exact Or.inl hk
    · rw [view_put_committed hm] at hi
      exact Or.inr ⟨i, hi, hne⟩
  · by_cases hm : m = n
    · rw [hm, conns_put_self, hsought] at hk
      cases hk
    · rw [conns_put_of_ne hm] at hk
      rw [view_put_committed hm]
      exact h.sought m k hk

omit [DecidableEq N] in
/-- Where another session reads a key when `n` has committed: in its own writes as before, and
elsewhere in what `n` has published. -/
theorem Exclusive.keyAt_commit (h : s.Exclusive) {m : N} (hm : m ≠ n) (i : ι) :
    (keyAt (applyAll (s.view n) (s.conns m).pending) i = keyAt (s.view m) i ∧
      keyAt (s.view n) i = keyAt s.committed i) ∨
    (keyAt (applyAll (s.view n) (s.conns m).pending) i = keyAt (s.view n) i ∧
      keyAt (s.view m) i = keyAt s.committed i) := by
  by_cases htouch : Touches (s.conns m).pending i
  · have hn : row (s.view n) i = row s.committed i :=
      row_applyAll fun hn => hm (h.locks m n i htouch hn)
    exact Or.inl ⟨KeyedRows.keyAt_congr (row_applyAll_congr _ hn), KeyedRows.keyAt_congr hn⟩
  · exact Or.inr ⟨KeyedRows.keyAt_congr (row_applyAll htouch),
      KeyedRows.keyAt_congr (row_applyAll htouch)⟩

/-- A commit. -/
theorem Exclusive.publish (h : s.Exclusive) (hpending : conn.pending = [])
    (hsought : conn.sought = none) : (s.put n (s.view n) conn).Exclusive := by
  have hself : (s.put n (s.view n) conn).view n = s.view n := by
    rw [view_put_self, hpending]
    rfl
  -- a key that `m` and `n` both show, `m` in a row of its own
  have hmixed : ∀ m i j k, m ≠ n → keyAt (s.view m) i = some k →
      keyAt (s.view n) i = keyAt s.committed i → keyAt (s.view n) j = some k →
      keyAt (s.view m) j = keyAt s.committed j → i = j := by
    intro m i j k hm hmi hni hnj hmj
    by_cases hi : keyAt s.committed i = some k
    · exact h.views n i j k (hni.trans hi) hnj
    by_cases hj : keyAt s.committed j = some k
    · exact h.views m i j k hmi (hmj.trans hj)
    exact absurd (h.holders m n k (Or.inr ⟨i, hmi, hi⟩) (Or.inr ⟨j, hnj, hj⟩)) hm
  refine h.of_put (h.views n) (fun m => ?_) (fun i hi => ?_) (fun k hk => ?_)
    (fun m k hm hk => ?_) fun m k hk => ?_
  · by_cases hm : m = n
    · rw [hm, hself]
      exact h.views n
    rw [view_put_of_ne hm]
    intro i j k hi hj
    -- both rows are the other session's, one of them is, or neither is
    rcases h.keyAt_commit hm i with ⟨hi', hi''⟩ | ⟨hi', hi''⟩ <;>
      rcases h.keyAt_commit hm j with ⟨hj', hj''⟩ | ⟨hj', hj''⟩
    · exact h.views m i j k (hi'.symm.trans hi) (hj'.symm.trans hj)
    · exact hmixed m i j k hm (hi'.symm.trans hi) hi'' (hj'.symm.trans hj) hj''
    · exact (hmixed m j i k hm (hj'.symm.trans hj) hj'' (hi'.symm.trans hi) hi'').symm
    · exact h.views n i j k (hi'.symm.trans hi) (hj'.symm.trans hj)
  · rw [hpending] at hi
    obtain ⟨w, hw, -⟩ := hi
    cases hw
  · rcases hk with hk | ⟨i, hi, hne⟩
    · rw [conns_put_self, hsought] at hk
      cases hk
    · rw [hself] at hi
      exact absurd hi hne
  · rcases hk with hk | ⟨i, hi, hne⟩
    · rw [conns_put_of_ne hm] at hk
      exact Or.inl hk
    · rw [view_put_of_ne hm] at hi
      replace hne : keyAt (s.view n) i ≠ some k := hne
      rcases h.keyAt_commit hm i with ⟨hi', hi''⟩ | ⟨hi', -⟩
      · exact Or.inr ⟨i, hi'.symm.trans hi, hi'' ▸ hne⟩
      · exact absurd (hi'.symm.trans hi) hne
  · by_cases hm : m = n
    · rw [hm, conns_put_self, hsought] at hk
      cases hk
    rw [conns_put_of_ne hm] at hk
    rw [view_put_of_ne hm]
    intro i hi
    rcases h.keyAt_commit hm i with ⟨hi', -⟩ | ⟨hi', hi''⟩
    · exact h.sought m k hk i (hi'.symm.trans hi)
    · have hn := hi'.symm.trans hi
      by_cases hcommitted : keyAt s.committed i = some k
      · exact h.sought m k hk i (hi''.trans hcommitted)
      · exact hm (h.holders m n k (Or.inl hk) (Or.inr ⟨i, hn, hcommitted⟩))

end

/-! ## Every run -/

section

variable [DecidableEq N] [Fintype N] [DecidableEq ι] [SessionErrors ε] [LocalWrites S W]
variable {s s' : Shared S W K ε N} {program : C → Script S W K ε Unit}

/-- **One statement** of a serialized run keeps the invariant. -/
theorem Exclusive.next (h : s.Exclusive) {n : N}
    (hallowed : s.Serialized (.next n : SharedAction C N)) (hnext : s.next n = some s') :
    s'.Exclusive := by
  simp only [Shared.next] at hnext
  cases hscript : (s.conns n).script with
  | none =>
    rw [hscript] at hnext
    cases hnext
  | some sc =>
    simp only [hscript, Serialized] at hnext hallowed
    split at hnext
    · cases hnext
    rename_i hwaits
    cases hnext
    unfold execute
    cases sc with
    | ret r => exact h.keep rfl fun k hk => by cases hk
    -- a read may leave the session with a key that it has looked up in vain
    | readThen lost key next =>
      obtain ⟨hcommitted, hpending⟩ := query_unchanged (ε := ε) lost (id : S → S) (s.session n)
      dsimp only [Script.step]
      rw [hcommitted]
      refine h.keep hpending fun k hk => ?_
      cases key with
      | none => exact Or.inl hk
      | some key =>
        dsimp only [soughtAfter] at hk
        split at hk
        · rename_i hfree
          cases hk
          simp only [Bool.and_eq_true] at hfree
          exact Or.inr ⟨hfree.2, hallowed hfree.1 hfree.2⟩
        · cases hk
    | writeThen lost w next =>
      dsimp only [Script.step]
      rcases write_changes (ε := ε) lost w (s.session n) with
        ⟨hfailed, hlost, haccepts, hafter⟩ | ⟨hcommitted, hpending⟩
      -- the write went through, so nobody else has written its row
      · have hruns : s.Runs n lost = true := by
          rw [Runs, hlost, show (s.conns n).failed = false from hfailed]
          rfl
        rw [hafter]
        exact h.write rfl rfl (fun hlock => hwaits ⟨hruns, haccepts, hlock⟩)
          (hallowed hruns haccepts)
      · rw [hcommitted]
        exact h.keep hpending fun k hk => by cases hk
    | commitThen lost next =>
      dsimp only [Script.step]
      rcases commit_changes (ε := ε) lost (s.session n) with ⟨-, -, hafter⟩ | ⟨hcommitted, hpending⟩
      · rw [hafter]
        exact h.publish rfl rfl
      · rw [hcommitted]
        exact h.keep hpending fun k hk => by cases hk
    | rollbackThen next => exact h.discard rfl rfl

/-- **Every serialized run** from a store with unique keys keeps them unique, in what is
committed and in what each session sees. -/
theorem exclusive_of_reaches {st : S} (hstart : UniqueKeys st)
    (h : Reaches (step program) Serialized (start st : Shared S W K ε N) s) : s.Exclusive := by
  refine h.invariant ?_ fun s a s' hs ha hstep => ?_
  · refine ⟨hstart, fun _ => hstart, ?_, ?_, fun n k hk => by cases hk⟩
    · rintro n m i ⟨w, hw, -⟩ -
      cases hw
    · rintro n m k (hk | ⟨i, hi, hne⟩) -
      · cases hk
      · exact absurd hi hne
  · cases a with
    | call n c =>
      simp only [Shared.step] at hstep
      split at hstep
      · cases hstep
        exact hs.keep rfl fun k hk => Or.inl hk
      · cases hstep
    | next n => exact hs.next ha hstep

/-! ## A session by itself -/

/-- No other session has written anything. -/
def Alone (s : Shared S W K ε N) (n : N) : Prop := ∀ m, m ≠ n → (s.conns m).pending = []

omit [LocalWrites S W] in
/-- While no other transaction has written anything, nothing waits. -/
theorem next_alone {n : N} {sc : Script S W K ε Unit} (hscript : (s.conns n).script = some sc)
    (halone : s.Alone n) : s.next n = some (s.execute n sc) := by
  have hwaits : ¬ s.Waits n sc := by
    cases sc with
    | writeThen lost w next =>
      rintro ⟨-, -, m, hm, w', hw', -⟩
      rw [halone m hm] at hw'
      cases hw'
    | _ => exact id
  simp only [Shared.next, hscript, if_neg hwaits]

omit [Targets W ι] [Fintype N] [DecidableEq ι] [LocalWrites S W] in
theorem session_execute {n : N} {sc : Script S W K ε Unit} :
    (s.execute n sc).session n = (sc.step (s.session n)).2 := by
  simp only [session, execute, conns_put_self]
  rfl

omit [Targets W ι] [Fintype N] [DecidableEq ι] [LocalWrites S W] in
theorem script_execute {n : N} {sc : Script S W K ε Unit} :
    ((s.execute n sc).conns n).script = s.remaining n sc := by
  rw [execute, conns_put_self]

/-- Some statements of `n` lead to the end of its program, with the session `after`. -/
def Finishes (program : C → Script S W K ε Unit) (s : Shared S W K ε N) (n : N)
    (after : Session S W Unit) : Prop :=
  ∃ k s', runAll (step program) s (List.replicate k (.next n)) = some s' ∧
    (s'.conns n).script = none ∧ s'.session n = after

omit [LocalWrites S W] in
theorem Finishes.execute {n : N} {sc : Script S W K ε Unit} {after : Session S W Unit}
    (hscript : (s.conns n).script = some sc) (halone : s.Alone n)
    (h : (s.execute n sc).Finishes program n after) : s.Finishes program n after := by
  obtain ⟨k, s', hrun, hlast⟩ := h
  refine ⟨k + 1, s', ?_, hlast⟩
  rw [List.replicate_succ, runAll_cons, show step program s (.next n) = _ from
    next_alone hscript halone]
  exact hrun

omit [Targets W ι] [Fintype N] [DecidableEq ι] [LocalWrites S W] in
theorem Alone.execute {n : N} (h : s.Alone n) (sc : Script S W K ε Unit) :
    (s.execute n sc).Alone n := by
  intro m hm
  rw [Shared.execute, conns_put_of_ne hm]
  exact h m hm

omit [LocalWrites S W] in
/-- The first statement, and then the rest of the program. -/
theorem Finishes.of_rest {n : N} {sc : Script S W K ε Unit}
    (hscript : (s.conns n).script = some sc) (halone : s.Alone n)
    (hrest : (s.execute n sc).Finishes program n
      ((sc.step (s.session n)).1.run ((s.execute n sc).session n)).2) :
    s.Finishes program n (sc.run (s.session n)).2 := by
  rw [Script.run_step, ← session_execute]
  exact hrest.execute hscript halone

omit [LocalWrites S W] in
/-- **A session by itself** does what its program does: its statements, one after the other, lead
to the session in which `run` ends. -/
theorem finishes_alone {n : N} {sc : Script S W K ε Unit}
    (hscript : (s.conns n).script = some sc) (halone : s.Alone n) :
    s.Finishes program n (sc.run (s.session n)).2 := by
  -- along the program: each statement leaves a session that is still alone
  induction sc generalizing s with
  | ret r =>
    refine ⟨1, s.execute n (.ret r), ?_, script_execute, ?_⟩
    · exact congrArg (fun o => o.bind some) (next_alone hscript halone)
    · rw [session_execute]
      cases r <;> rfl
  | readThen lost key next ih =>
    exact .of_rest hscript halone (ih _ script_execute (halone.execute _))
  | writeThen lost w next ih =>
    exact .of_rest hscript halone (ih _ script_execute (halone.execute _))
  | commitThen lost next ih =>
    exact .of_rest hscript halone (ih _ script_execute (halone.execute _))
  | rollbackThen next ih =>
    exact .of_rest hscript halone (ih script_execute (halone.execute _))

end

end Shared

end

end Transactions
