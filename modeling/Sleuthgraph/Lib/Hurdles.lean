import Sleuthgraph.Lib.Transactions

/-!
# Where a plan stops

What stands in the way of a plan can often be told from its inputs, without running it: a list
of hurdles in the order in which they are met. A hurdle is either clear or it leaves the
transaction in one way, and getting over some of them means that something has been written.
`Effect.Meets` says that an effect ends at the first hurdle that is not clear.
-/

namespace Transactions

/-- What may stop a plan: how the transaction is left then, and whether it is written to once
the hurdle is behind. -/
structure Hurdle where
  how : Leaves
  clear : Bool
  row : Bool
deriving DecidableEq, Repr

namespace Hurdle

/-- A check that raises without touching the transaction. -/
abbrev check (clear : Bool) : Hurdle := ⟨.usable, clear, false⟩

/-- A statement that may not get through. -/
abbrev statement (clear : Bool) : Hurdle := ⟨.failed, clear, false⟩

/-- What comes after a row is flushed, under a rollback. -/
abbrev saved (clear : Bool) : Hurdle := ⟨.undone, clear, true⟩

/-- The hurdles of items one after the other. Those of an item may depend on the items before it,
the latest first. -/
def along {ι : Type} (hurdles : List ι → ι → List Hurdle) : List ι → List ι → List Hurdle
  | _, [] => []
  | earlier, item :: items => hurdles earlier item ++ along hurdles (item :: earlier) items

/-- The first hurdle that is not clear: how it leaves the transaction, and whether anything has
been written before. -/
def stop : Bool → List Hurdle → Option (Leaves × Bool)
  | _, [] => none
  | written, h :: hs => if h.clear then stop (written || h.row) hs else some (h.how, written)

/-- Something is written on the way over all of them. -/
def anyRow (hs : List Hurdle) : Bool := hs.any Hurdle.row

variable {written : Bool} {how how' : Leaves} {h : Hurdle} {hs hs' : List Hurdle}

@[simp] theorem stop_nil : stop written [] = none := rfl

@[simp] theorem anyRow_nil : anyRow [] = false := rfl

theorem stop_cons_clear (hclear : h.clear = true) :
    stop written (h :: hs) = stop (written || h.row) hs := by
  rw [stop, if_pos hclear]

theorem stop_cons_blocked (hclear : h.clear = false) :
    stop written (h :: hs) = some (h.how, written) := by
  rw [stop, hclear, if_neg Bool.false_ne_true]

theorem anyRow_append : anyRow (hs ++ hs') = (anyRow hs || anyRow hs') := List.any_append

/-- What was written before is written in the end. -/
theorem stop_written :
    stop written hs = (stop false hs).map fun r => (r.1, written || r.2) := by
  induction hs generalizing written with
  | nil => rfl
  | cons h hs ih =>
    cases hclear : h.clear with
    | false =>
      rw [stop_cons_blocked hclear, stop_cons_blocked hclear, Option.map_some]
      simp only [Bool.or_false]
    | true =>
      rw [stop_cons_clear hclear, stop_cons_clear hclear, @ih (written || h.row),
        @ih (false || h.row), Option.map_map, Bool.false_or]
      refine congrArg (fun f => Option.map f _) (funext fun r => ?_)
      rw [Function.comp_apply, Bool.or_assoc]

/-- A stop in the first part is the stop. -/
theorem stop_append_some {r : Leaves × Bool} (h : stop written hs = some r) :
    stop written (hs ++ hs') = some r := by
  induction hs generalizing written with
  | nil => cases h
  | cons g hs ih =>
    rw [List.cons_append]
    cases hclear : g.clear with
    | false =>
      rw [stop_cons_blocked hclear] at h ⊢
      exact h
    | true =>
      rw [stop_cons_clear hclear] at h ⊢
      exact ih h

/-- Over the first part, the second one decides. -/
theorem stop_append_none (h : stop written hs = none) :
    stop written (hs ++ hs') = stop (written || anyRow hs) hs' := by
  induction hs generalizing written with
  | nil => rw [List.nil_append, anyRow_nil, Bool.or_false]
  | cons g hs ih =>
    rw [List.cons_append]
    cases hclear : g.clear with
    | false =>
      rw [stop_cons_blocked hclear] at h
      cases h
    | true =>
      rw [stop_cons_clear hclear] at h ⊢
      rw [ih h, Bool.or_assoc]
      rfl

theorem stop_eq_none_iff : stop written hs = none ↔ ∀ h ∈ hs, h.clear = true := by
  induction hs generalizing written with
  | nil => exact iff_of_true rfl fun _ h => absurd h List.not_mem_nil
  | cons h hs ih =>
    rw [List.forall_mem_cons]
    cases hclear : h.clear with
    | false =>
      rw [stop_cons_blocked hclear]
      exact iff_of_false (Option.some_ne_none _) fun h => Bool.false_ne_true h.1
    | true =>
      rw [stop_cons_clear hclear, ih]
      exact (and_iff_right rfl).symm

/-- **The stop is at the first hurdle that is not clear**, and something was written if one of
those before it says so. -/
theorem stop_eq_some_iff :
    stop false hs = some (how, written) ↔
      ∃ before h after, hs = before ++ h :: after ∧ (∀ g ∈ before, g.clear = true) ∧
        h.clear = false ∧ h.how = how ∧ anyRow before = written := by
  constructor
  · intro hstop
    induction hs generalizing written with
    | nil => cases hstop
    | cons g hs ih =>
      cases hclear : g.clear with
      | false =>
        rw [stop_cons_blocked hclear] at hstop
        cases hstop
        exact ⟨[], g, hs, rfl, fun _ hg => absurd hg List.not_mem_nil, hclear, rfl, rfl⟩
      | true =>
        rw [stop_cons_clear hclear, stop_written] at hstop
        obtain ⟨r, hrest, heq⟩ := Option.map_eq_some_iff.mp hstop
        obtain ⟨how', written'⟩ := r
        cases heq
        obtain ⟨before, h, after, rfl, hbefore, hh, rfl, rfl⟩ := ih hrest
        refine ⟨g :: before, h, after, rfl, ?_, hh, rfl, ?_⟩
        · exact List.forall_mem_cons.mpr ⟨hclear, hbefore⟩
        · rw [Bool.false_or]
          rfl
  · rintro ⟨before, h, after, rfl, hbefore, hh, rfl, rfl⟩
    rw [stop_append_none (stop_eq_none_iff.mpr hbefore), stop_cons_blocked hh, Bool.false_or]

/-- What holds at the end of the hurdles: `past` behind all of them, or `blocked` at the first that
is not clear, by how it leaves the transaction and whether anything has been written. -/
structure Ends (hs : List Hurdle) (past : Prop) (blocked : Leaves → Bool → Prop) : Prop where
  past : (∀ h ∈ hs, h.clear = true) → past
  blocked : ∀ before h after, hs = before ++ h :: after → (∀ g ∈ before, g.clear = true) →
    h.clear = false → blocked h.how (anyRow before)

variable {past : Prop} {blocked : Leaves → Bool → Prop}

theorem ends_of_none (hstop : stop false hs = none) : Ends hs past blocked ↔ past := by
  have hclear := stop_eq_none_iff.mp hstop
  constructor
  · intro h
    exact h.past hclear
  · intro h
    refine ⟨fun _ => h, ?_⟩
    rintro before g after rfl - hg
    rw [hclear g (List.mem_append_right _ List.mem_cons_self)] at hg
    cases hg

theorem ends_of_some (hstop : stop false hs = some (how, written)) :
    Ends hs past blocked ↔ blocked how written := by
  constructor
  · intro h
    obtain ⟨before, g, after, heq, hbefore, hg, rfl, rfl⟩ := stop_eq_some_iff.mp hstop
    exact h.blocked before g after heq hbefore hg
  · intro h
    refine ⟨fun hclear => ?_, fun before g after heq hbefore hg => ?_⟩
    · rw [stop_eq_none_iff.mpr hclear] at hstop
      cases hstop
    -- there is one first hurdle
    · have hfirst := stop_eq_some_iff.mpr ⟨before, g, after, heq, hbefore, hg, rfl, rfl⟩
      rw [hstop] at hfirst
      cases hfirst
      exact h

end Hurdle

/-! ## Effects -/

open Hurdle

variable {S W O ε α β : Type}

/-- The effect ends where the hurdles stop it, with writes where they say so. What a session that
waits for a rollback, or has been rolled back, had written before is lost. -/
inductive Effect.Meets : Effect W ε α → List Hurdle → Prop
  | done {a : α} {ws : List W} {hs : List Hurdle} (hstop : stop false hs = none)
      (hwrites : ws ≠ [] ↔ anyRow hs = true) : Effect.Meets (.done a ws) hs
  | raised {how : Leaves} {e : ε} {ws : List W} {hs : List Hurdle} {written : Bool}
      (hstop : stop false hs = some (how, written))
      (hwrites : how = .usable → (ws ≠ [] ↔ written = true)) : Effect.Meets (.raised how e ws) hs

namespace Effect

variable {eff : Effect W ε α} {hs : List Hurdle}

/-- A hurdle that is clear, and writes nothing, is no matter. -/
theorem Meets.cons (h : eff.Meets hs) (how : Leaves) : eff.Meets (⟨how, true, false⟩ :: hs) := by
  cases h with
  | done hstop hwrites => exact .done hstop hwrites
  | raised hstop hwrites => exact .raised hstop hwrites

theorem Meets.cons_of (h : eff.Meets hs) (how : Leaves) {clear : Bool} (hclear : clear = true) :
    eff.Meets (⟨how, clear, false⟩ :: hs) := by
  subst hclear
  exact h.cons how

/-- A first hurdle that is not clear. -/
theorem meets_blocked (how : Leaves) (e : ε) (row : Bool) (hs : List Hurdle) :
    (.raised how e [] : Effect W ε α).Meets (⟨how, false, row⟩ :: hs) :=
  .raised rfl fun _ => by simp

end Effect

/-- An exception that a check raises. -/
theorem Effect.meets_check (e : ε) (hs : List Hurdle) :
    (.raised .usable e [] : Effect W ε α).Meets (.check false :: hs) :=
  Effect.meets_blocked .usable e false hs

/-! ## Plans -/

section Plans

variable [Writes S W] [SessionErrors ε] {p : Plan S W O ε α} {st : S} {o : O}
variable {hs hs' : List Hurdle}

omit [Writes S W] [SessionErrors ε] in
theorem Plan.pure_meets (a : α) : ((Plan.pure a : Plan S W O ε α) st o).1.Meets [] :=
  .done rfl (by simp)

omit [Writes S W] [SessionErrors ε] in
theorem Plan.ofExcept_meets (r : Except ε α) :
    ((Plan.ofExcept r : Plan S W O ε α) st o).1.Meets [.check r.isOk] := by
  cases r with
  | ok a =>
    have hpure : ((Plan.pure a : Plan S W O ε α) st o).1.Meets [] := Plan.pure_meets a
    exact hpure.cons .usable
  | error e => exact Effect.meets_check e []

omit [Writes S W] in
theorem Plan.lookup_meets {lost : Bool} {q : S → β} {f : β → Plan S W O ε α}
    (h : (f (q st) st o).1.Meets hs) :
    (Plan.lookup lost q f st o).1.Meets (.statement (!lost) :: hs) := by
  unfold Plan.lookup
  cases lost with
  | true => exact Effect.meets_blocked .failed _ false hs
  | false => exact h.cons .failed

omit [SessionErrors ε] in
theorem Plan.ofExcept_ok_bind (a : α) (f : α → Plan S W O ε β) :
    (Plan.ofExcept (.ok a)).bind f = f a := by
  funext st o
  show Plan.bind (Plan.pure a) f st o = f a st o
  unfold Plan.bind Plan.pure
  dsimp only [applyAll_nil]
  cases f a st o with
  | mk eff o' => cases eff <;> rfl

omit [SessionErrors ε] in
/-- Hurdles in sequence. -/
theorem Plan.bind_meets {f : α → Plan S W O ε β} (hp : (p st o).1.Meets hs)
    (hf : ∀ a ws o', p st o = (.done a ws, o') → (f a (applyAll st ws) o').1.Meets hs') :
    (p.bind f st o).1.Meets (hs ++ hs') := by
  unfold Plan.bind
  cases h : p st o with
  | mk eff o' =>
    rw [h] at hp
    cases hp with
    | raised hstop hwrites => exact .raised (stop_append_some hstop) hwrites
    | done hstop hwrites =>
      rename_i a ws
      have hrest := hf a ws o' h
      dsimp only
      cases h' : f a (applyAll st ws) o' with
      | mk eff' o'' =>
        rw [h'] at hrest
        cases hrest with
        | done hstop' hwrites' =>
          refine .done ?_ ?_
          · rw [stop_append_none hstop, stop_written, hstop']
            rfl
          · rw [anyRow_append, Bool.or_eq_true, ← hwrites, ← hwrites', ne_eq,
              List.append_eq_nil_iff, not_and_or]
        | raised hstop' hwrites' =>
          rename_i how e ws' written
          have hboth : stop false (hs ++ hs') = some (how, anyRow hs || written) := by
            rw [stop_append_none hstop, stop_written, hstop', Bool.false_or, Option.map_some]
          refine .raised hboth fun husable => ?_
          rw [Bool.or_eq_true, ← hwrites, ← hwrites' husable, ne_eq, List.append_eq_nil_iff,
            not_and_or]

omit [SessionErrors ε] in
/-- A last step that only puts the answer together. -/
theorem Plan.bind_pure_meets {f : α → Plan S W O ε β} (hp : (p st o).1.Meets hs)
    (hf : ∀ a, ∃ b, f a = Plan.pure b) : (p.bind f st o).1.Meets hs := by
  rw [← List.append_nil hs]
  refine Plan.bind_meets hp fun a ws o' _ => ?_
  obtain ⟨b, hb⟩ := hf a
  rw [hb]
  exact Plan.pure_meets b

end Plans

end Transactions
