import Sleuthgraph.Lib.Caps
import Mathlib.Data.List.Nodup
import Mathlib.Data.List.Perm.Subperm
import Mathlib.Tactic.Common

/-!
# Distinct elements in order of occurrence

`firsts` keeps the first occurrence of each element of a list. `collect` does the same up to a
cap and stops, with a flag, at the first element it meets when the cap is reached, be it new or
not. It collects the `firsts` of the list, cut at the cap.
-/

namespace Firsts

open Caps

variable {α : Type} [DecidableEq α]

/-- Append an element that is not there yet. -/
def addNew (acc : List α) (x : α) : List α := if x ∈ acc then acc else acc ++ [x]

/-- The first occurrences, after those that are already collected. -/
def firstsAfter (acc l : List α) : List α := l.foldl addNew acc

/-- The first occurrences. -/
def firsts (l : List α) : List α := firstsAfter [] l

/-- Collect up to `cap` first occurrences; `true` when an element was met with the cap
reached. -/
def collect (cap : ℕ) : List α → List α → List α × Bool
  | acc, [] => (acc, false)
  | acc, x :: l => if cap ≤ acc.length then (acc, true) else collect cap (addNew acc x) l

@[simp] lemma firstsAfter_nil (acc : List α) : firstsAfter acc [] = acc := rfl

@[simp] lemma firstsAfter_cons (acc : List α) (x : α) (l : List α) :
    firstsAfter acc (x :: l) = firstsAfter (addNew acc x) l := rfl

lemma firstsAfter_append (acc l l' : List α) :
    firstsAfter acc (l ++ l') = firstsAfter (firstsAfter acc l) l' := List.foldl_append

lemma prefix_addNew (acc : List α) (x : α) : acc <+: addNew acc x := by
  unfold addNew
  split
  · exact List.prefix_rfl
  · exact List.prefix_append _ _

lemma prefix_firstsAfter (acc l : List α) : acc <+: firstsAfter acc l := by
  induction l generalizing acc with
  | nil => exact List.prefix_rfl
  | cons x l ih => exact (prefix_addNew acc x).trans (ih _)

lemma mem_addNew {acc : List α} {x y : α} : y ∈ addNew acc x ↔ y ∈ acc ∨ y = x := by
  unfold addNew
  split
  · rename_i hx
    constructor
    · exact Or.inl
    · rintro (hy | rfl)
      · exact hy
      · exact hx
  · simp

lemma mem_firstsAfter {acc l : List α} {y : α} : y ∈ firstsAfter acc l ↔ y ∈ acc ∨ y ∈ l := by
  induction l generalizing acc with
  | nil => simp
  | cons x l ih => rw [firstsAfter_cons, ih, mem_addNew, List.mem_cons, or_assoc]

lemma nodup_addNew {acc : List α} (h : acc.Nodup) (x : α) : (addNew acc x).Nodup := by
  unfold addNew
  split
  · exact h
  · rename_i hx
    exact List.Nodup.append h (List.nodup_singleton x) (by simpa using hx)

lemma nodup_firstsAfter {acc : List α} (h : acc.Nodup) (l : List α) :
    (firstsAfter acc l).Nodup := by
  induction l generalizing acc with
  | nil => exact h
  | cons x l ih => exact ih (nodup_addNew h x)

lemma firstsAfter_of_nodup {acc l : List α} (h : (acc ++ l).Nodup) :
    firstsAfter acc l = acc ++ l := by
  induction l generalizing acc with
  | nil => rw [firstsAfter_nil, List.append_nil]
  | cons x l ih =>
    have hx : x ∉ acc := fun hmem =>
      List.disjoint_of_nodup_append h hmem List.mem_cons_self
    have hassoc : acc ++ [x] ++ l = acc ++ x :: l := List.append_cons acc x l ▸ rfl
    rw [firstsAfter_cons, addNew, if_neg hx, ih (hassoc ▸ h), hassoc]

/-- A list without duplicates is its own first occurrences. -/
lemma firsts_of_nodup {l : List α} (h : l.Nodup) : firsts l = l := firstsAfter_of_nodup h

lemma grows_addNew : Grows (addNew : List α → α → List α) := by
  intro acc x
  unfold addNew
  split
  · exact Or.inl rfl
  · exact Or.inr ⟨x, rfl⟩

/-- Collecting is a loop with a cap. -/
lemma collect_eq_capped (cap : ℕ) (acc l : List α) :
    collect cap acc l = capped cap addNew acc l := by
  induction l generalizing acc with
  | nil => rfl
  | cons x l ih => rw [collect, capped, ih]

/-- **What is collected** is the first occurrences, cut at the cap. -/
theorem collect_fst {cap : ℕ} {acc : List α} (hacc : acc.length ≤ cap) (l : List α) :
    (collect cap acc l).1 = (firstsAfter acc l).take cap := by
  rw [collect_eq_capped, capped_fst grows_addNew hacc, firstsAfter]

/-- **When it stops early**: the cap is reached before the last element. -/
theorem collect_snd {cap : ℕ} {acc : List α} (l : List α) :
    (collect cap acc l).2 = true ↔
      ∃ init x rest, l = init ++ x :: rest ∧ cap ≤ (firstsAfter acc init).length := by
  rw [collect_eq_capped]
  exact capped_snd l

/-- Collecting from two lists, the second only if the first did not stop. -/
theorem collect_append (cap : ℕ) (acc l l' : List α) :
    collect cap acc (l ++ l') = if (collect cap acc l).2 then collect cap acc l
      else collect cap (collect cap acc l).1 l' := by
  simp only [collect_eq_capped]
  exact capped_append cap acc l l'

/-! ## Items that give an element or none -/

section Pick

variable {β : Type}

/-- Append what an item gives, if it is new. -/
def pickNew (f : β → Option α) (acc : List α) (x : β) : List α :=
  match f x with
  | some y => addNew acc y
  | none => acc

lemma grows_pickNew (f : β → Option α) : Grows (pickNew f) := by
  intro acc x
  cases h : f x with
  | some y =>
    rw [pickNew, h]
    exact grows_addNew acc y
  | none => exact Or.inl (by rw [pickNew, h])

lemma pickNew_ne_self_iff {f : β → Option α} {acc : List α} {x : β} :
    pickNew f acc x ≠ acc ↔ ∃ y, f x = some y ∧ y ∉ acc := by
  cases h : f x with
  | some y =>
    rw [pickNew, h]
    simp [addNew]
  | none => simp [pickNew, h]

lemma foldl_pickNew (f : β → Option α) (acc : List α) (l : List β) :
    l.foldl (pickNew f) acc = firstsAfter acc (l.filterMap f) := by
  induction l generalizing acc with
  | nil => rfl
  | cons x l ih =>
    rw [List.foldl_cons, ih]
    cases h : f x with
    | some y => rw [List.filterMap_cons_some h, pickNew, h, firstsAfter_cons]
    | none => rw [List.filterMap_cons_none h, pickNew, h]

end Pick

/-! ## Collecting more than is asked for -/

variable {p : α → Bool}

lemma mem_firsts {l : List α} {y : α} : y ∈ firsts l ↔ y ∈ l := by
  rw [firsts, mem_firstsAfter]
  simp

lemma nodup_firsts (l : List α) : (firsts l).Nodup := nodup_firstsAfter List.nodup_nil l

/-- The first occurrences of the elements that pass a test. -/
lemma firstsAfter_filter (acc l : List α) :
    firstsAfter (acc.filter p) (l.filter p) = (firstsAfter acc l).filter p := by
  induction l generalizing acc with
  | nil => rfl
  | cons x l ih =>
    have hadd : (addNew acc x).filter p
        = if p x then addNew (acc.filter p) x else acc.filter p := by
      unfold addNew
      by_cases hmem : x ∈ acc
      · by_cases hx : p x = true
        · rw [if_pos hmem, if_pos hx, if_pos (List.mem_filter.mpr ⟨hmem, hx⟩)]
        · rw [if_pos hmem, if_neg hx]
      · have hmem' : x ∉ acc.filter p := fun h => hmem (List.mem_of_mem_filter h)
        by_cases hx : p x = true
        · rw [if_neg hmem, if_pos hx, if_neg hmem', List.filter_append,
            List.filter_cons_of_pos hx, List.filter_nil]
        · rw [if_neg hmem, if_neg hx, List.filter_append, List.filter_cons_of_neg hx,
            List.filter_nil, List.append_nil]
    rw [firstsAfter_cons, ← ih, hadd]
    by_cases hx : p x = true
    · rw [List.filter_cons_of_pos hx, if_pos hx, firstsAfter_cons]
    · rw [List.filter_cons_of_neg hx, if_neg hx]

lemma firsts_filter (l : List α) : firsts (l.filter p) = (firsts l).filter p :=
  firstsAfter_filter [] l

omit [DecidableEq α] in
/-- The first elements all pass, so they are the first that pass. -/
lemma take_filter_of_forall {cap : ℕ} {l : List α} (h : ∀ x ∈ l.take cap, p x = true) :
    (l.filter p).take cap = l.take cap := by
  have hsplit : l.filter p = l.take cap ++ (l.drop cap).filter p := by
    rw [← List.filter_eq_self.mpr h, ← List.filter_append, List.take_append_drop]
  rw [hsplit]
  by_cases hlen : cap ≤ l.length
  · exact List.take_left' (List.length_take_of_le hlen)
  · rw [List.drop_of_length_le (by omega), List.filter_nil, List.append_nil, List.take_take,
      Nat.min_self]

/-- **Collecting from all what is asked of those that pass a test** gives the right elements when
the first ones pass. Then the flag is right when nothing follows the element that fills the cap,
or a new one that passes does. -/
theorem collect_filter_iff (cap : ℕ) (l : List α) :
    ((∀ x, x ∈ (collect cap [] l).1 ↔ x ∈ (firsts (l.filter p)).take cap) ∧
        ((collect cap [] l).2 = true ↔ cap < (firsts (l.filter p)).length)) ↔
      (∀ x ∈ (firsts l).take cap, p x = true) ∧
        ∀ init rest, l = init ++ rest → (firsts init).length = cap →
          rest = [] ∨ ∃ x ∈ rest, p x = true ∧ x ∉ init := by
  have hcollected : (collect cap [] l).1 = (firsts l).take cap :=
    collect_fst (Nat.zero_le _) l
  have hpass : (∀ x, x ∈ (collect cap [] l).1 ↔ x ∈ (firsts (l.filter p)).take cap) ↔
      ∀ x ∈ (firsts l).take cap, p x = true := by
    rw [hcollected]
    constructor
    · intro hsame x hx
      have hmem := mem_firsts.mp (List.mem_of_mem_take ((hsame x).mp hx))
      exact (List.mem_filter.mp hmem).2
    · intro hall x
      rw [firsts_filter, take_filter_of_forall hall]
  rw [hpass]
  refine and_congr_right fun hall => ?_
  -- the elements up to the one that fills the cap all pass
  have hinit : ∀ init rest, l = init ++ rest → (firsts init).length = cap →
      ∀ x ∈ init, p x = true := by
    intro init rest hl hlen x hx
    refine hall x ?_
    obtain ⟨more, hmore⟩ := prefix_firstsAfter (firsts init) rest
    have hwhole : firsts l = firsts init ++ more := by
      rw [hl, firsts, firstsAfter_append]
      exact hmore.symm
    rw [hwhole, ← hlen, List.take_left]
    exact mem_firsts.mpr hx
  -- so one more that passes comes behind it just if there are more than the cap
  have hmore : ∀ init rest, l = init ++ rest → (firsts init).length = cap →
      (cap < (firsts (l.filter p)).length ↔ ∃ x ∈ rest, p x = true ∧ x ∉ init) := by
    intro init rest hl hlen
    have hpassing := hinit init rest hl hlen
    constructor
    · intro hlt
      by_contra hnone
      have hsub : firsts (l.filter p) ⊆ firsts init := by
        intro x hx
        obtain ⟨hx, hp⟩ := List.mem_filter.mp (mem_firsts.mp hx)
        rw [hl] at hx
        refine mem_firsts.mpr (by_contra fun hnot => hnone ⟨x, ?_, hp, hnot⟩)
        exact (List.mem_append.mp hx).resolve_left hnot
      have hle := ((nodup_firsts (l.filter p)).subperm hsub).length_le
      omega
    · rintro ⟨x, hx, hp, hnot⟩
      have hnodup : (x :: firsts init).Nodup :=
        List.nodup_cons.mpr ⟨fun h => hnot (mem_firsts.mp h), nodup_firsts init⟩
      have hsub : x :: firsts init ⊆ firsts (l.filter p) := by
        intro y hy
        refine mem_firsts.mpr (List.mem_filter.mpr ?_)
        rw [hl, List.mem_append]
        rcases List.mem_cons.mp hy with rfl | hy
        · exact ⟨Or.inr hx, hp⟩
        · exact ⟨Or.inl (mem_firsts.mp hy), hpassing y (mem_firsts.mp hy)⟩
      have hle := (hnodup.subperm hsub).length_le
      rw [List.length_cons] at hle
      omega
  rw [collect_eq_capped]
  refine capped_snd_iff grows_addNew (Nat.zero_le cap) (fun hlt => ?_) hmore
  have hle : (firsts (l.filter p)).length ≤ (firsts l).length := by
    rw [firsts_filter]
    exact List.length_filter_le _ _
  exact Nat.lt_of_lt_of_le hlt hle

end Firsts
