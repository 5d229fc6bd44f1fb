import Mathlib.Data.List.Nodup
import Mathlib.Data.List.Perm.Basic
import Mathlib.Tactic.Common

/-!
# Tables with a primary key

A table is a list of rows in insertion order whose primary keys are distinct; the keys being
distinct is a field, so no operation can build a table that breaks it. `insert` is the
identity on a taken key (a database refuses that insert, see `Table.has`), `modify` rewrites
the row of one key by a function that keeps keys.
-/

namespace Tables

/-- Rows with a primary key. -/
class Keyed (ρ : Type) (ι : outParam Type) where
  pk : ρ → ι

export Keyed (pk)

/-- The one element of a list without duplicates that passes a test. -/
theorem filter_eq_singleton {α : Type} {p : α → Bool} {l : List α} {a : α} (hnodup : l.Nodup)
    (ha : a ∈ l) (hp : p a = true) (hunique : ∀ x ∈ l, p x = true → x = a) :
    l.filter p = [a] := by
  induction l with
  | nil => cases ha
  | cons x l ih =>
    rw [List.nodup_cons] at hnodup
    rcases List.mem_cons.mp ha with rfl | ha'
    -- the head passes, and a second one in the tail would be a duplicate
    · rw [List.filter_cons_of_pos hp, List.filter_eq_nil_iff.mpr]
      intro y hy hpy
      exact hnodup.1 (hunique y (List.mem_cons_of_mem _ hy) hpy ▸ hy)
    · have hne : ¬ p x = true := fun hpx =>
        hnodup.1 (hunique x List.mem_cons_self hpx ▸ ha')
      rw [List.filter_cons_of_neg hne,
        ih hnodup.2 ha' fun y hy => hunique y (List.mem_cons_of_mem _ hy)]

/-- Rewriting elements that fail a test by ones that fail it. -/
theorem filter_map_eq {α : Type} {p : α → Bool} {f : α → α} {l : List α}
    (h : ∀ x ∈ l, f x = x ∨ p x = false ∧ p (f x) = false) : (l.map f).filter p = l.filter p := by
  induction l with
  | nil => rfl
  | cons x l ih =>
    have ih := ih fun y hy => h y (List.mem_cons_of_mem _ hy)
    rw [List.map_cons]
    rcases h x List.mem_cons_self with hx | ⟨hx, hfx⟩
    · rw [hx, List.filter_cons, List.filter_cons, ih]
    · rw [List.filter_cons_of_neg (by simp [hfx]), List.filter_cons_of_neg (by simp [hx]), ih]

variable {ρ ι : Type} [Keyed ρ ι]

/-- Rows in insertion order, with distinct primary keys. -/
structure Table (ρ : Type) {ι : Type} [Keyed ρ ι] where
  rows : List ρ
  nodup : (rows.map pk).Nodup

theorem nodup_one (r : ρ) : ([r].map pk).Nodup := List.nodup_singleton _

namespace Table

instance : Membership ρ (Table ρ) := ⟨fun t r => r ∈ t.rows⟩

theorem mem_iff {t : Table ρ} {r : ρ} : r ∈ t ↔ r ∈ t.rows := Iff.rfl

@[ext] theorem ext_rows {t u : Table ρ} (h : t.rows = u.rows) : t = u := by
  cases t; cases u; congr

instance [DecidableEq ρ] : DecidableEq (Table ρ) := fun t u =>
  decidable_of_iff (t.rows = u.rows) ⟨ext_rows, fun h => by rw [h]⟩

/-- The table without rows. -/
def empty : Table ρ := ⟨[], List.nodup_nil⟩

instance : Inhabited (Table ρ) := ⟨empty⟩

/-- Two rows of a table with the same key are the same row. -/
theorem eq_of_pk_eq {t : Table ρ} {r r' : ρ} (hr : r ∈ t) (hr' : r' ∈ t) (h : pk r = pk r') :
    r = r' :=
  List.inj_on_of_nodup_map t.nodup hr hr' h

theorem filter_rows_eq_singleton {t : Table ρ} {p : ρ → Bool} {r : ρ} (hr : r ∈ t)
    (hp : p r = true) (hunique : ∀ x ∈ t, p x = true → x = r) : t.rows.filter p = [r] :=
  filter_eq_singleton (List.Nodup.of_map _ t.nodup) hr hp hunique

variable [DecidableEq ι]

/-- The key `i` is taken. -/
def has (t : Table ρ) (i : ι) : Bool := t.rows.any fun r => pk r == i

theorem has_iff {t : Table ρ} {i : ι} : t.has i = true ↔ ∃ r ∈ t, pk r = i := by
  simp [has, mem_iff]

theorem has_eq_false_iff {t : Table ρ} {i : ι} : t.has i = false ↔ ∀ r ∈ t, pk r ≠ i := by
  simp [has, mem_iff]

/-- The row with key `i`. -/
def find (t : Table ρ) (i : ι) : Option ρ := t.rows.find? fun r => pk r == i

theorem find_eq_some_iff {t : Table ρ} {i : ι} {r : ρ} :
    t.find i = some r ↔ r ∈ t ∧ pk r = i := by
  constructor
  · intro h
    exact ⟨List.mem_of_find?_eq_some h, by simpa using List.find?_some h⟩
  · intro ⟨hr, hi⟩
    cases hf : t.find i with
    | none =>
      have := List.find?_eq_none.mp hf r hr
      simp [hi] at this
    | some r' =>
      have hmem : r' ∈ t := List.mem_of_find?_eq_some hf
      have hi' : pk r' = i := by simpa using List.find?_some hf
      rw [eq_of_pk_eq hmem hr (hi'.trans hi.symm)]

theorem find_eq_none_iff {t : Table ρ} {i : ι} : t.find i = none ↔ t.has i = false := by
  rw [has_eq_false_iff, find, List.find?_eq_none]
  simp [mem_iff]

theorem has_of_find {t : Table ρ} {i : ι} {r : ρ} (h : t.find i = some r) : t.has i = true := by
  obtain ⟨hr, hi⟩ := find_eq_some_iff.mp h
  exact has_iff.mpr ⟨r, hr, hi⟩

/-- What the row with key `i` is mapped to, if there is one. -/
theorem find_bind_eq_some_iff {κ : Type} {t : Table ρ} {i : ι} {f : ρ → Option κ} {k : κ} :
    (t.find i).bind f = some k ↔ ∃ r ∈ t, pk r = i ∧ f r = some k := by
  rw [Option.bind_eq_some_iff]
  constructor
  · intro ⟨r, hfind, hf⟩
    obtain ⟨hr, hi⟩ := find_eq_some_iff.mp hfind
    exact ⟨r, hr, hi, hf⟩
  · intro ⟨r, hr, hi, hf⟩
    exact ⟨r, find_eq_some_iff.mpr ⟨hr, hi⟩, hf⟩

/-! ## Insert -/

/-- Append a row, unless its key is taken. -/
def insert (t : Table ρ) (r : ρ) : Table ρ :=
  if h : t.has (pk r) = true then t
  else ⟨t.rows ++ [r], by
    rw [List.map_append, List.map_singleton]
    refine List.Nodup.append t.nodup (List.nodup_singleton _) fun i hi hi' => ?_
    obtain ⟨r', hr', rfl⟩ := List.mem_map.mp hi
    exact h (has_iff.mpr ⟨r', hr', List.mem_singleton.mp hi'⟩)⟩

theorem rows_insert {t : Table ρ} {r : ρ} (h : t.has (pk r) = false) :
    (t.insert r).rows = t.rows ++ [r] := by
  rw [insert, dif_neg (by simp [h])]

theorem mem_insert {t : Table ρ} {r x : ρ} (h : t.has (pk r) = false) :
    x ∈ t.insert r ↔ x ∈ t ∨ x = r := by
  rw [mem_iff, rows_insert h, List.mem_append, List.mem_singleton, mem_iff]

theorem rows_prefix_insert (t : Table ρ) (r : ρ) : t.rows <+: (t.insert r).rows := by
  rw [insert]
  split
  · exact List.prefix_rfl
  · exact List.prefix_append _ _

theorem has_insert {t : Table ρ} {r : ρ} (h : t.has (pk r) = false) {i : ι} :
    (t.insert r).has i = true ↔ t.has i = true ∨ i = pk r := by
  simp only [has_iff, mem_insert h]
  constructor
  · rintro ⟨x, hx | rfl, hi⟩
    · exact Or.inl ⟨x, hx, hi⟩
    · exact Or.inr hi.symm
  · rintro (⟨x, hx, hi⟩ | rfl)
    · exact ⟨x, Or.inl hx, hi⟩
    · exact ⟨r, Or.inr rfl, rfl⟩

theorem find_insert (t : Table ρ) (r : ρ) (i : ι) :
    (t.insert r).find i = if i = pk r then some ((t.find i).getD r) else t.find i := by
  by_cases hnew : t.has (pk r) = true
  -- the key is taken, so the table stays as it is
  · obtain ⟨old, hold⟩ : ∃ old, t.find (pk r) = some old :=
      Option.ne_none_iff_exists'.mp fun h => by rw [find_eq_none_iff, hnew] at h; cases h
    rw [insert, dif_pos hnew]
    split
    · rename_i hi
      rw [hi, hold]
      rfl
    · rfl
  · have hnone : t.find (pk r) = none := find_eq_none_iff.mpr (by simpa using hnew)
    rw [find, rows_insert (by simpa using hnew), List.find?_append]
    split
    · rename_i hi
      rw [hi, hnone, show t.rows.find? (fun r' => pk r' == pk r) = none from hnone]
      simp
    · rename_i hi
      simp [find, Ne.symm hi]

/-- A row that fails a test is not seen by it. -/
theorem filter_insert {p : ρ → Bool} {t : Table ρ} {r : ρ} (h : t.has (pk r) = false)
    (hp : p r = false) : (t.insert r).rows.filter p = t.rows.filter p := by
  rw [rows_insert h, List.filter_append, List.filter_cons_of_neg (by simp [hp]), List.filter_nil,
    List.append_nil]

/-! ## Modify -/

/-- Rewrite the row with key `i` by `f`, which keeps keys. -/
def modify (t : Table ρ) (i : ι) (f : ρ → ρ) (hf : ∀ r, pk (f r) = pk r) : Table ρ :=
  ⟨t.rows.map fun r => if pk r = i then f r else r, by
    have hkeys : (t.rows.map fun r => if pk r = i then f r else r).map pk = t.rows.map pk := by
      rw [List.map_map]
      refine List.map_congr_left fun r _ => ?_
      rw [Function.comp_apply]
      split
      · exact hf r
      · rfl
    rw [hkeys]
    exact t.nodup⟩

theorem mem_modify {t : Table ρ} {i : ι} (f : ρ → ρ) (hf : ∀ r, pk (f r) = pk r) {x : ρ} :
    x ∈ t.modify i f hf ↔ ∃ r ∈ t, x = if pk r = i then f r else r := by
  simp only [mem_iff, modify, List.mem_map, eq_comm]

/-- A change of a row that fails a test, before and after, is not seen by it. -/
theorem filter_modify {p : ρ → Bool} {t : Table ρ} {i : ι} (f : ρ → ρ)
    (hf : ∀ r, pk (f r) = pk r) (h : ∀ r ∈ t, pk r = i → p r = false ∧ p (f r) = false) :
    (t.modify i f hf).rows.filter p = t.rows.filter p := by
  refine filter_map_eq fun r hr => ?_
  by_cases hi : pk r = i
  · rw [if_pos hi]
    exact Or.inr (h r hr hi)
  · exact Or.inl (if_neg hi)

theorem has_modify (t : Table ρ) (i : ι) (f : ρ → ρ) (hf : ∀ r, pk (f r) = pk r) (j : ι) :
    (t.modify i f hf).has j = t.has j := by
  simp only [has, modify, List.any_map]
  congr 1
  funext r
  rw [Function.comp_apply]
  split
  · rw [hf]
  · rfl

theorem find_modify_self {t : Table ρ} {i : ι} {f : ρ → ρ} {hf : ∀ r, pk (f r) = pk r} {r : ρ}
    (h : t.find i = some r) : (t.modify i f hf).find i = some (f r) := by
  obtain ⟨hr, hi⟩ := find_eq_some_iff.mp h
  refine find_eq_some_iff.mpr ⟨(mem_modify f hf).mpr ⟨r, hr, by rw [if_pos hi]⟩, ?_⟩
  rw [hf, hi]

theorem find_modify_of_ne {t : Table ρ} {i j : ι} {f : ρ → ρ} {hf : ∀ r, pk (f r) = pk r}
    (h : j ≠ i) : (t.modify i f hf).find j = t.find j := by
  cases hj : t.find j with
  -- rewriting rows takes no key and frees none
  | none => rw [find_eq_none_iff, has_modify, ← find_eq_none_iff, hj]
  | some r =>
    obtain ⟨hr, hrj⟩ := find_eq_some_iff.mp hj
    have hne : pk r ≠ i := fun hi => h (hrj.symm.trans hi)
    exact find_eq_some_iff.mpr ⟨(mem_modify f hf).mpr ⟨r, hr, by rw [if_neg hne]⟩, hrj⟩

theorem find_modify (t : Table ρ) (i : ι) (f : ρ → ρ) (hf : ∀ r, pk (f r) = pk r) (j : ι) :
    (t.modify i f hf).find j = if j = i then (t.find j).map f else t.find j := by
  split
  · rename_i hj
    subst hj
    cases hfind : t.find j with
    | none =>
      refine find_eq_none_iff.mpr ?_
      rw [has_modify]
      exact find_eq_none_iff.mp hfind
    | some r => exact find_modify_self hfind
  · rename_i hj
    exact find_modify_of_ne hj

/-! ## Rewriting every row -/

/-- Rewrite every row by `f`, which keeps keys. -/
def mapRows (t : Table ρ) (f : ρ → ρ) (hf : ∀ r, pk (f r) = pk r) : Table ρ :=
  ⟨t.rows.map f, by
    have hkeys : (t.rows.map f).map pk = t.rows.map pk := by
      rw [List.map_map]
      exact List.map_congr_left fun r _ => hf r
    rw [hkeys]
    exact t.nodup⟩

theorem find_mapRows (t : Table ρ) (f : ρ → ρ) (hf : ∀ r, pk (f r) = pk r) (i : ι) :
    (t.mapRows f hf).find i = (t.find i).map f := by
  simp only [find, mapRows, List.find?_map, Function.comp_def, hf]

end Table

end Tables
