import Sleuthgraph.Lib.Tables

/-!
# Histories of tables

`Later R t u` says that each row of `t` has a later version in `u`, under the same key, and that `R`
tells what may have happened to it. No row is lost, whatever the statements between the two were.
`Extended R l l'` is the same of a list that is only appended to: its items keep their places.
`Forgets` is what may happen to a column that a deletion elsewhere sets to null.
-/

namespace Tables

variable {ρ ι : Type} [Keyed ρ ι] {R : ρ → ρ → Prop} {t u v : Table ρ}

/-- Each row of `t` has a version in `u`. -/
def Later (R : ρ → ρ → Prop) (t u : Table ρ) : Prop := ∀ r ∈ t, ∃ r' ∈ u, pk r' = pk r ∧ R r r'

namespace Later

theorem refl (hR : ∀ r, R r r) (t : Table ρ) : Later R t t := fun r hr => ⟨r, hr, rfl, hR r⟩

theorem trans (hR : ∀ r₁ r₂ r₃, R r₁ r₂ → R r₂ r₃ → R r₁ r₃) (h : Later R t u)
    (h' : Later R u v) : Later R t v := by
  intro r hr
  obtain ⟨r₁, hr₁, hpk₁, hR₁⟩ := h r hr
  obtain ⟨r₂, hr₂, hpk₂, hR₂⟩ := h' r₁ hr₁
  exact ⟨r₂, hr₂, hpk₂.trans hpk₁, hR _ _ _ hR₁ hR₂⟩

/-- A statement that does to every row what `R` allows. -/
theorem mapRows {f : ρ → ρ} (hf : ∀ r, pk (f r) = pk r) (hrow : ∀ r, R r (f r)) :
    Later R t (t.mapRows f hf) :=
  fun r hr => ⟨f r, List.mem_map.mpr ⟨r, hr, rfl⟩, hf r, hrow r⟩

variable [DecidableEq ι]

theorem insert (hR : ∀ r, R r r) {r : ρ} (hnew : t.has (pk r) = false) :
    Later R t (t.insert r) :=
  fun r' hr' => ⟨r', (Table.mem_insert hnew).mpr (Or.inl hr'), rfl, hR r'⟩

/-- A statement on the row `r` does to it what `R` allows. -/
theorem modify (hR : ∀ r, R r r) {r : ρ} (hr : r ∈ t) {f : ρ → ρ} (hf : ∀ r, pk (f r) = pk r)
    (hrow : R r (f r)) : Later R t (t.modify (pk r) f hf) := by
  intro r' hr'
  refine ⟨_, (Table.mem_modify f hf).mpr ⟨r', hr', rfl⟩, ?_, ?_⟩
  · split
    · exact hf r'
    · rfl
  · split
    · rename_i hpk
      rw [Table.eq_of_pk_eq hr' hr hpk]
      exact hrow
    · exact hR r'

end Later

/-! ## Lists that are appended to -/

/-- `l'` begins with a version of each item of `l`, in their order. -/
inductive Extended {α : Type} (R : α → α → Prop) : List α → List α → Prop
  | nil (l' : List α) : Extended R [] l'
  | cons {a a' : α} {l l' : List α} : R a a' → Extended R l l' → Extended R (a :: l) (a' :: l')

namespace Extended

variable {α : Type} {R : α → α → Prop} {l l' l'' : List α}

theorem append (hR : ∀ a, R a a) (l new : List α) : Extended R l (l ++ new) := by
  induction l with
  | nil => exact .nil new
  | cons a l ih => exact .cons (hR a) ih

theorem refl (hR : ∀ a, R a a) (l : List α) : Extended R l l := by
  have h := append hR l []
  rwa [List.append_nil] at h

theorem ofPrefix (hR : ∀ a, R a a) (h : l <+: l') : Extended R l l' := by
  obtain ⟨new, rfl⟩ := h
  exact append hR l new

theorem trans (hR : ∀ a b c, R a b → R b c → R a c) (h : Extended R l l') (h' : Extended R l' l'') :
    Extended R l l'' := by
  induction h generalizing l'' with
  | nil l' => exact .nil l''
  | cons hab _ ih =>
    cases h' with
    | cons hbc hrest => exact .cons (hR _ _ _ hab hbc) (ih hrest)

/-- A statement that does to every item what `R` allows. -/
theorem map {f : α → α} (hf : ∀ a, R a (f a)) (l : List α) : Extended R l (l.map f) := by
  induction l with
  | nil => exact .nil []
  | cons a l ih => exact .cons (hf a) ih

end Extended

/-! ## Columns that are set to null -/

/-- The column is the same, or null by now. -/
def Forgets {ι : Type} (a b : Option ι) : Prop := b = a ∨ b = none

namespace Forgets

variable {ι : Type} {a b c : Option ι}

theorem refl (a : Option ι) : Forgets a a := Or.inl rfl

theorem trans (h : Forgets a b) (h' : Forgets b c) : Forgets a c := by
  rcases h' with rfl | rfl
  · exact h
  · exact Or.inr rfl

end Forgets

end Tables
