import Mathlib.Data.List.Basic
import Mathlib.Tactic.Common

/-!
# Loops with a cap

A loop appends at most one result for each item. `capped` stops it, with a flag, at the item it
meets when the cap is reached, whatever that item would have given. So it keeps the first results,
and its flag is right just when no item follows the one that fills the cap, or one of those that
follow gives a result.
-/

namespace Caps

variable {α β : Type} {step : List β → α → List β}

/-- An item gives at most one result. -/
def Grows (step : List β → α → List β) : Prop :=
  ∀ acc x, step acc x = acc ∨ ∃ y, step acc x = acc ++ [y]

/-- Go through the items up to `cap` results; `true` when an item was met with the cap reached. -/
def capped (cap : ℕ) (step : List β → α → List β) : List β → List α → List β × Bool
  | acc, [] => (acc, false)
  | acc, x :: l => if cap ≤ acc.length then (acc, true) else capped cap step (step acc x) l

lemma Grows.prefix_step (h : Grows step) (acc : List β) (x : α) : acc <+: step acc x := by
  rcases h acc x with hx | ⟨y, hx⟩
  · exact hx.symm ▸ List.prefix_rfl
  · exact hx.symm ▸ List.prefix_append _ _

lemma Grows.length_step_le (h : Grows step) (acc : List β) (x : α) :
    (step acc x).length ≤ acc.length + 1 := by
  rcases h acc x with hx | ⟨y, hx⟩
  · rw [hx]
    omega
  · have hlength := congrArg List.length hx
    rw [List.length_append, List.length_singleton] at hlength
    omega

lemma Grows.prefix_foldl (h : Grows step) (acc : List β) (l : List α) :
    acc <+: l.foldl step acc := by
  induction l generalizing acc with
  | nil => exact List.prefix_rfl
  | cons x l ih => exact (h.prefix_step acc x).trans (ih _)

/-- Nothing is appended if no item gives a result. -/
lemma Grows.foldl_eq_self_iff (h : Grows step) {acc : List β} {l : List α} :
    l.foldl step acc = acc ↔ ∀ x ∈ l, step acc x = acc := by
  induction l with
  | nil => simp
  | cons x l ih =>
    rw [List.foldl_cons, List.forall_mem_cons, ← ih]
    constructor
    · intro hfold
      have hlen := (h.prefix_foldl (step acc x) l).length_le
      rw [hfold] at hlen
      have hx : step acc x = acc := ((h.prefix_step acc x).eq_of_length_le hlen).symm
      rw [hx] at hfold
      exact ⟨hx, hfold⟩
    · rintro ⟨hx, hl⟩
      rw [hx, hl]

/-- Every number of results up to the last is reached on the way. -/
lemma Grows.exists_length (h : Grows step) {acc : List β} {l : List α} {n : ℕ}
    (hacc : acc.length ≤ n) (hn : n ≤ (l.foldl step acc).length) :
    ∃ init rest, l = init ++ rest ∧ (init.foldl step acc).length = n := by
  induction l generalizing acc with
  | nil => exact ⟨[], [], rfl, Nat.le_antisymm hacc hn⟩
  | cons x l ih =>
    by_cases heq : acc.length = n
    · exact ⟨[], x :: l, rfl, heq⟩
    · have hstep := h.length_step_le acc x
      obtain ⟨init, rest, rfl, hinit⟩ := ih (by omega) hn
      exact ⟨x :: init, rest, rfl, hinit⟩

/-- **What the loop keeps** is the first results. -/
theorem capped_fst (h : Grows step) {cap : ℕ} {acc : List β} (hacc : acc.length ≤ cap)
    (l : List α) : (capped cap step acc l).1 = (l.foldl step acc).take cap := by
  induction l generalizing acc with
  | nil => rw [capped, List.foldl_nil, List.take_of_length_le hacc]
  | cons x l ih =>
    rw [capped]
    split
    -- the cap is reached: what comes later is behind it
    · rename_i hcap
      have hlen : acc.length = cap := Nat.le_antisymm hacc hcap
      obtain ⟨rest, hrest⟩ := h.prefix_foldl acc (x :: l)
      rw [← hrest, ← hlen, List.take_left]
    · have hstep := h.length_step_le acc x
      rw [ih (by omega), List.foldl_cons]

/-- **When it stops early**: the cap is reached before the last item. -/
theorem capped_snd {cap : ℕ} {acc : List β} (l : List α) :
    (capped cap step acc l).2 = true ↔
      ∃ init x rest, l = init ++ x :: rest ∧ cap ≤ (init.foldl step acc).length := by
  induction l generalizing acc with
  | nil => simp [capped]
  | cons y l ih =>
    rw [capped]
    split
    · rename_i hcap
      exact iff_of_true rfl ⟨[], y, l, rfl, hcap⟩
    · rename_i hcap
      rw [ih]
      constructor
      · intro ⟨init, x, rest, hl, hlen⟩
        exact ⟨y :: init, x, rest, by rw [hl, List.cons_append], hlen⟩
      · intro ⟨init, x, rest, hl, hlen⟩
        cases init with
        | nil => exact absurd hlen hcap
        | cons z init =>
          obtain ⟨rfl, htail⟩ := List.cons.inj hl
          exact ⟨init, x, rest, htail, hlen⟩

/-- The same for a loop that starts below the cap: all items but the last fill it. -/
lemma capped_snd_dropLast (h : Grows step) {cap : ℕ} {acc : List β} (hacc : acc.length < cap)
    (l : List α) :
    (capped cap step acc l).2 = true ↔ cap ≤ (l.dropLast.foldl step acc).length := by
  rw [capped_snd]
  constructor
  · rintro ⟨init, x, rest, rfl, hcap⟩
    rw [List.dropLast_append_of_ne_nil (List.cons_ne_nil _ _), List.foldl_append]
    exact Nat.le_trans hcap (h.prefix_foldl _ _).length_le
  · intro hcap
    have hne : l ≠ [] := by
      rintro rfl
      exact absurd hcap (Nat.not_le_of_lt hacc)
    exact ⟨l.dropLast, l.getLast hne, [], (List.dropLast_append_getLast hne).symm, hcap⟩

/-- Two loops over one count: the second stops at once if the first did. -/
theorem capped_append (cap : ℕ) (acc : List β) (l l' : List α) :
    capped cap step acc (l ++ l') = if (capped cap step acc l).2 then capped cap step acc l
      else capped cap step (capped cap step acc l).1 l' := by
  induction l generalizing acc with
  | nil => rfl
  | cons x l ih =>
    rw [List.cons_append, capped, capped]
    split
    · rfl
    · exact ih _

/-- A loop that stopped has filled the cap. -/
lemma capped_stopped {cap : ℕ} {acc : List β} {l : List α}
    (h : (capped cap step acc l).2 = true) : cap ≤ (capped cap step acc l).1.length := by
  induction l generalizing acc with
  | nil => cases h
  | cons x l ih =>
    rw [capped] at h ⊢
    split
    · assumption
    · rename_i hcap
      rw [if_neg hcap] at h
      exact ih h

/-- With the cap filled nothing is appended. -/
lemma capped_full {cap : ℕ} {acc : List β} (hacc : cap ≤ acc.length) (l : List α) :
    (capped cap step acc l).1 = acc := by
  cases l with
  | nil => rfl
  | cons x l => rw [capped, if_pos hacc]

/-- **Two loops over one count**, the second whether the first stopped or not: together they are
one loop over both lists, whose flag is set if one of theirs is. -/
theorem capped_two (cap : ℕ) (acc : List β) (l l' : List α) :
    capped cap step acc (l ++ l') =
      ((capped cap step (capped cap step acc l).1 l').1,
        (capped cap step acc l).2 || (capped cap step (capped cap step acc l).1 l').2) := by
  rw [capped_append]
  split
  · rename_i hstopped
    rw [capped_full (capped_stopped hstopped), hstopped, Bool.true_or]
    exact Prod.ext rfl hstopped
  · rename_i hgoes
    rw [Bool.eq_false_iff.mpr hgoes, Bool.false_or]

lemma capped_map {γ : Type} (cap : ℕ) (f : γ → α) (acc : List β) (l : List γ) :
    capped cap step acc (l.map f) = capped cap (fun acc x => step acc (f x)) acc l := by
  induction l generalizing acc with
  | nil => rfl
  | cons x l ih => rw [List.map_cons, capped, capped, ih]

/-! ## Items that are taken or passed over -/

/-- Append what an item gives. -/
def pick (f : α → Option β) (acc : List β) (x : α) : List β :=
  match f x with
  | some y => acc ++ [y]
  | none => acc

lemma grows_pick (f : α → Option β) : Grows (pick f) := by
  intro acc x
  cases h : f x with
  | some y => exact Or.inr ⟨y, by rw [pick, h]⟩
  | none => exact Or.inl (by rw [pick, h])

lemma pick_ne_self_iff {f : α → Option β} {acc : List β} {x : α} :
    pick f acc x ≠ acc ↔ f x ≠ none := by
  cases h : f x with
  | some y => simp [pick, h]
  | none => simp [pick, h]

lemma foldl_pick (f : α → Option β) (acc : List β) (l : List α) :
    l.foldl (pick f) acc = acc ++ l.filterMap f := by
  induction l generalizing acc with
  | nil => rw [List.foldl_nil, List.filterMap_nil, List.append_nil]
  | cons x l ih =>
    rw [List.foldl_cons, ih]
    cases h : f x with
    | some y => rw [List.filterMap_cons_some h, pick, h, List.append_assoc, List.singleton_append]
    | none => rw [List.filterMap_cons_none h, pick, h]

/-! ## The flag -/

/-- **What the flag says**: if `more` needs more than `cap` results, and is what `follows` says
of the items around the one that fills the cap, then the flag says `more` just when nothing
follows that item or `follows` holds. -/
theorem capped_snd_iff (h : Grows step) {cap : ℕ} {acc : List β} (hacc : acc.length ≤ cap)
    {l : List α} {more : Prop} {follows : List α → List α → Prop}
    (hmore : more → cap < (l.foldl step acc).length)
    (hfollows : ∀ init rest, l = init ++ rest → (init.foldl step acc).length = cap →
      (more ↔ follows init rest)) :
    ((capped cap step acc l).2 = true ↔ more) ↔
      ∀ init rest, l = init ++ rest → (init.foldl step acc).length = cap →
        rest = [] ∨ follows init rest := by
  constructor
  · intro hflag init rest hl hinit
    cases rest with
    | nil => exact Or.inl rfl
    | cons x rest =>
      have hstopped : (capped cap step acc l).2 = true :=
        (capped_snd l).mpr ⟨init, x, rest, hl, Nat.le_of_eq hinit.symm⟩
      exact Or.inr ((hfollows init _ hl hinit).mp (hflag.mp hstopped))
  · intro hright
    constructor
    · intro hstopped
      obtain ⟨init, x, rest, hl, hlen⟩ := (capped_snd l).mp hstopped
      -- the cap may have been filled before
      obtain ⟨init₀, rest₀, rfl, hinit₀⟩ := h.exists_length hacc hlen
      rw [List.append_assoc] at hl
      rcases hright init₀ _ hl hinit₀ with hnil | hsome
      · exact absurd hnil (by simp)
      · exact (hfollows init₀ _ hl hinit₀).mpr hsome
    · intro hm
      have hlt := hmore hm
      obtain ⟨init, rest, hl, hinit⟩ := h.exists_length hacc (Nat.le_of_lt hlt)
      cases rest with
      | nil =>
        rw [hl, List.append_nil] at hlt
        omega
      | cons x rest => exact (capped_snd l).mpr ⟨init, x, rest, hl, Nat.le_of_eq hinit.symm⟩

/-- More than `cap` results: an item behind the one that fills the cap gives one. -/
lemma Grows.lt_length_iff (h : Grows step) {cap : ℕ} {acc : List β} {init rest : List α}
    (hinit : (init.foldl step acc).length = cap) :
    cap < ((init ++ rest).foldl step acc).length ↔
      ∃ x ∈ rest, step (init.foldl step acc) x ≠ init.foldl step acc := by
  have hgrown := h.prefix_foldl (init.foldl step acc) rest
  rw [List.foldl_append, ← hinit]
  constructor
  · intro hlt
    by_contra hnone
    have hsame := h.foldl_eq_self_iff.mpr fun x hx => by_contra fun hne => hnone ⟨x, hx, hne⟩
    rw [hsame] at hlt
    exact absurd hlt (Nat.lt_irrefl _)
  · rintro ⟨x, hx, hne⟩
    by_contra hle
    have hsame := (hgrown.eq_of_length_le (Nat.not_lt.mp hle)).symm
    exact hne (h.foldl_eq_self_iff.mp hsame x hx)

/-- **When the flag is right**: nothing follows the item that fills the cap, or something that
follows gives a result. -/
theorem capped_flag_iff (h : Grows step) {cap : ℕ} {acc : List β} (hacc : acc.length ≤ cap)
    (l : List α) :
    ((capped cap step acc l).2 = true ↔ cap < (l.foldl step acc).length) ↔
      ∀ init rest, l = init ++ rest → (init.foldl step acc).length = cap →
        rest = [] ∨ ∃ x ∈ rest, step (init.foldl step acc) x ≠ init.foldl step acc := by
  refine capped_snd_iff h hacc (fun hlt => hlt) fun init rest hl hinit => ?_
  rw [hl]
  exact h.lt_length_iff hinit

/-! ## The items that are met -/

section AllMet

variable {f : α → Option β} {P : α → Prop} {cap n : ℕ} {l : List α}

/-- Every item that a loop meets below the cap, with `n` results at its start, satisfies `P`. -/
def AllMet (cap : ℕ) (f : α → Option β) (P : α → Prop) (n : ℕ) (l : List α) : Prop :=
  ∀ init x rest, l = init ++ x :: rest → n + (init.filterMap f).length < cap → P x

lemma allMet_nil : AllMet cap f P n [] := by
  intro init x rest hl
  exact absurd hl.symm (List.append_ne_nil_of_right_ne_nil _ (List.cons_ne_nil _ _))

/-- With the cap filled no item is met. -/
lemma allMet_of_full (h : cap ≤ n) (l : List α) : AllMet cap f P n l := by
  intro init x rest _ hlt
  omega

/-- The first item is met if there is room, and the others with its result. -/
lemma allMet_cons {x : α} {l : List α} : AllMet cap f P n (x :: l) ↔
    (n < cap → P x) ∧ AllMet cap f P (n + (f x).toList.length) l := by
  have hcount : ∀ init : List α, ((x :: init).filterMap f).length
      = (f x).toList.length + (init.filterMap f).length := by
    intro init
    cases hx : f x with
    | none => rw [List.filterMap_cons_none hx, Option.toList_none, List.length_nil, Nat.zero_add]
    | some y =>
      rw [List.filterMap_cons_some hx, Option.toList_some, List.length_cons, List.length_singleton,
        Nat.add_comm]
  constructor
  · intro h
    refine ⟨fun hlt => h [] x l rfl hlt, fun init y rest hl hlt => ?_⟩
    refine h (x :: init) y rest (by rw [hl, List.cons_append]) ?_
    rw [hcount]
    omega
  · rintro ⟨hx, hrest⟩ init y rest hl hlt
    cases init with
    | nil =>
      obtain ⟨rfl, -⟩ := List.cons.inj hl
      exact hx hlt
    | cons z init =>
      obtain ⟨rfl, htail⟩ := List.cons.inj hl
      refine hrest init y rest htail ?_
      rw [hcount] at hlt
      omega

/-- With room for all results every item is met. -/
lemma AllMet.all (h : AllMet cap f P n l) (hroom : n + (l.filterMap f).length < cap) :
    ∀ x ∈ l, P x := by
  intro x hx
  obtain ⟨init, rest, rfl⟩ := List.append_of_mem hx
  refine h init x rest rfl ?_
  rw [List.filterMap_append, List.length_append] at hroom
  omega

lemma allMet_of_all (h : ∀ x ∈ l, P x) : AllMet cap f P n l := by
  rintro init x rest rfl -
  exact h x (List.mem_append_right _ List.mem_cons_self)

/-- What a result is made of plays no role. -/
lemma allMet_map {γ : Type} (g : β → γ) :
    AllMet cap (fun x => (f x).map g) P n l ↔ AllMet cap f P n l := by
  have hcount : ∀ init : List α, (init.filterMap fun x => (f x).map g).length
      = (init.filterMap f).length := by
    intro init
    rw [← List.map_filterMap, List.length_map]
  unfold AllMet
  simp only [hcount]

end AllMet

end Caps
