import Sleuthgraph.Lib.Tables

/-!
# Tables with a second unique key

The rows of a table may have another key that is unique as well. Such a table is a finite map from
that key to rows, and `find` reads it. Both keys being unique is part of the type: `insert` is the
identity on a row with a taken key (a database refuses that insert, see `UniqueTable.free`),
`modify` rewrites a row by a function that keeps both keys, and `delete` drops the row of a key.
-/

namespace Tables

variable {ρ ι κ : Type} [Keyed ρ ι]

/-- A table in which `key` is unique, beside the primary key. -/
structure UniqueTable (ρ : Type) {ι κ : Type} [Keyed ρ ι] (key : ρ → κ) where
  table : Table ρ
  unique : (table.rows.map key).Nodup

namespace UniqueTable

variable {key : ρ → κ}

def rows (t : UniqueTable ρ key) : List ρ := t.table.rows

instance : Membership ρ (UniqueTable ρ key) := ⟨fun t r => r ∈ t.rows⟩

theorem mem_iff {t : UniqueTable ρ key} {r : ρ} : r ∈ t ↔ r ∈ t.rows := Iff.rfl

@[ext] theorem ext_rows {t u : UniqueTable ρ key} (h : t.rows = u.rows) : t = u := by
  have htable : t.table = u.table := Table.ext_rows h
  cases t; cases u; congr

/-- The table without rows. -/
def empty : UniqueTable ρ key := ⟨.empty, List.nodup_nil⟩

instance : Inhabited (UniqueTable ρ key) := ⟨empty⟩

theorem rows_empty : (empty : UniqueTable ρ key).rows = [] := rfl

/-- Two rows with the same key are the same row. -/
theorem eq_of_key_eq {t : UniqueTable ρ key} {r r' : ρ} (hr : r ∈ t) (hr' : r' ∈ t)
    (h : key r = key r') : r = r' :=
  List.inj_on_of_nodup_map t.unique hr hr' h

variable [DecidableEq κ]

/-- The row with key `k`. -/
def find (t : UniqueTable ρ key) (k : κ) : Option ρ := t.rows.find? fun r => key r = k

theorem find_eq_some_iff {t : UniqueTable ρ key} {k : κ} {r : ρ} :
    t.find k = some r ↔ r ∈ t ∧ key r = k := by
  constructor
  · intro h
    exact ⟨List.mem_of_find?_eq_some h, by simpa using List.find?_some h⟩
  · rintro ⟨hr, hk⟩
    cases hf : t.find k with
    | none =>
      have hne := List.find?_eq_none.mp hf r hr
      simp [hk] at hne
    | some r' =>
      have hmem : r' ∈ t := List.mem_of_find?_eq_some hf
      have hk' : key r' = k := by simpa using List.find?_some hf
      rw [eq_of_key_eq hmem hr (hk'.trans hk.symm)]

theorem find_eq_none_iff {t : UniqueTable ρ key} {k : κ} :
    t.find k = none ↔ ∀ r ∈ t, key r ≠ k := by
  rw [find, List.find?_eq_none]
  simp [mem_iff]

theorem find_key {t : UniqueTable ρ key} {r : ρ} (hr : r ∈ t) : t.find (key r) = some r :=
  find_eq_some_iff.mpr ⟨hr, rfl⟩

/-- A query by the key selects at most the one row. -/
theorem filter_key (t : UniqueTable ρ key) (k : κ) :
    (t.rows.filter fun r => key r = k) = (t.find k).toList := by
  cases hf : t.find k with
  | none =>
    have hne := find_eq_none_iff.mp hf
    exact List.filter_eq_nil_iff.mpr fun r hr => by simpa using hne r hr
  | some r =>
    have hr := find_eq_some_iff.mp hf
    refine filter_eq_singleton (List.Nodup.of_map _ t.unique) hr.1 (by simpa using hr.2) ?_
    intro x hx hk
    have hxk : key x = k := by simpa using hk
    exact eq_of_key_eq hx hr.1 (hxk.trans hr.2.symm)

/-! ## Insert -/

variable [DecidableEq ι]

/-- Both keys of a row are free. -/
def free (t : UniqueTable ρ key) (r : ρ) : Bool := !t.table.has (pk r) && (t.find (key r)).isNone

theorem free_iff {t : UniqueTable ρ key} {r : ρ} :
    t.free r = true ↔ t.table.has (pk r) = false ∧ t.find (key r) = none := by
  simp [free]

/-- Append a row, unless one of its keys is taken. -/
def insert (t : UniqueTable ρ key) (r : ρ) : UniqueTable ρ key :=
  if h : t.free r = true then ⟨t.table.insert r, by
    have hfree := free_iff.mp h
    rw [Table.rows_insert hfree.1, List.map_append, List.map_singleton]
    refine List.Nodup.append t.unique (List.nodup_singleton _) fun k hk hk' => ?_
    obtain ⟨r', hr', hkey⟩ := List.mem_map.mp hk
    have hne := find_eq_none_iff.mp hfree.2 r' hr'
    exact hne (hkey.trans (List.mem_singleton.mp hk'))⟩
  else t

theorem rows_insert {t : UniqueTable ρ key} {r : ρ} (h : t.free r = true) :
    (t.insert r).rows = t.rows ++ [r] := by
  rw [insert, dif_pos h]
  exact Table.rows_insert (free_iff.mp h).1

theorem find_insert {t : UniqueTable ρ key} {r : ρ} (h : t.free r = true) (k : κ) :
    (t.insert r).find k = if k = key r then some r else t.find k := by
  have hnone : t.find (key r) = none := (free_iff.mp h).2
  rw [find, rows_insert h, List.find?_append]
  split
  · rename_i hk
    rw [hk, show t.rows.find? (fun x => key x = key r) = none from hnone]
    simp
  · rename_i hk
    have hlast : [r].find? (fun x => decide (key x = k)) = none := by
      simp [Ne.symm hk]
    rw [hlast, Option.or_none]
    rfl

theorem mem_insert {t : UniqueTable ρ key} {r : ρ} (h : t.free r = true) {x : ρ} :
    x ∈ t.insert r ↔ x ∈ t ∨ x = r := by
  rw [mem_iff, rows_insert h, List.mem_append, List.mem_singleton, mem_iff]

/-! ## Modify -/

omit [DecidableEq κ] in
theorem map_key_modify (t : UniqueTable ρ key) (i : ι) {f : ρ → ρ} (hkey : ∀ r, key (f r) = key r) :
    (t.rows.map fun r => if pk r = i then f r else r).map key = t.rows.map key := by
  rw [List.map_map]
  refine List.map_congr_left fun r _ => ?_
  rw [Function.comp_apply]
  split
  · exact hkey r
  · rfl

/-- Rewrite the row with primary key `i` by `f`, which keeps both keys. -/
def modify (t : UniqueTable ρ key) (i : ι) (f : ρ → ρ) (hpk : ∀ r, pk (f r) = pk r)
    (hkey : ∀ r, key (f r) = key r) : UniqueTable ρ key :=
  ⟨t.table.modify i f hpk, by
    show ((t.rows.map fun r => if pk r = i then f r else r).map key).Nodup
    rw [map_key_modify t i hkey]
    exact t.unique⟩

section Modify

variable {t : UniqueTable ρ key} {f : ρ → ρ} (hpk : ∀ r, pk (f r) = pk r)
variable (hkey : ∀ r, key (f r) = key r)

omit [DecidableEq κ] in
theorem rows_modify (i : ι) :
    (t.modify i f hpk hkey).rows = t.rows.map fun r => if pk r = i then f r else r := rfl

theorem find_modify (i : ι) (k : κ) :
    (t.modify i f hpk hkey).find k = (t.find k).map fun r => if pk r = i then f r else r := by
  have hsame : ∀ r, key (if pk r = i then f r else r) = key r := by
    intro r
    split
    · exact hkey r
    · rfl
  rw [find, rows_modify, List.find?_map, find]
  congr 2
  funext r
  rw [Function.comp_apply, hsame]

/-- A rewritten row, looked up by its second key. -/
theorem find_modify_of_find {k : κ} {r : ρ} (h : t.find k = some r) (k' : κ) :
    (t.modify (pk r) f hpk hkey).find k' = if k' = k then some (f r) else t.find k' := by
  have hr := find_eq_some_iff.mp h
  rw [find_modify]
  by_cases hk : k' = k
  · rw [if_pos hk, hk, h, Option.map_some, if_pos rfl]
  · rw [if_neg hk]
    cases hf : t.find k' with
    | none => rfl
    | some r' =>
      have hr' := find_eq_some_iff.mp hf
      have hne : pk r' ≠ pk r := by
        intro hpk
        have heq : r' = r := Table.eq_of_pk_eq hr'.1 hr.1 hpk
        exact hk (hr'.2.symm.trans (heq ▸ hr.2))
      rw [Option.map_some, if_neg hne]

end Modify

/-! ## Delete -/

/-- Drop the row with key `k`. -/
def delete (t : UniqueTable ρ key) (k : κ) : UniqueTable ρ key :=
  ⟨⟨t.rows.filter fun r => key r ≠ k, (List.filter_sublist.map _).nodup t.table.nodup⟩,
    (List.filter_sublist.map _).nodup t.unique⟩

omit [DecidableEq ι] in
theorem rows_delete (t : UniqueTable ρ key) (k : κ) :
    (t.delete k).rows = t.rows.filter fun r => key r ≠ k := rfl

omit [DecidableEq ι] in
theorem mem_delete {t : UniqueTable ρ key} {k : κ} {r : ρ} :
    r ∈ t.delete k ↔ r ∈ t ∧ key r ≠ k := by
  simp [mem_iff, rows_delete]

omit [DecidableEq ι] in
theorem find_delete (t : UniqueTable ρ key) (k k' : κ) :
    (t.delete k).find k' = if k' = k then none else t.find k' := by
  split
  · rename_i hk
    exact find_eq_none_iff.mpr fun r hr => hk ▸ (mem_delete.mp hr).2
  · rename_i hk
    cases hf : t.find k' with
    | none =>
      have hne := find_eq_none_iff.mp hf
      exact find_eq_none_iff.mpr fun r hr => hne r (mem_delete.mp hr).1
    | some r =>
      have hr := find_eq_some_iff.mp hf
      exact find_eq_some_iff.mpr ⟨mem_delete.mpr ⟨hr.1, fun h => hk (hr.2.symm.trans h)⟩, hr.2⟩

end UniqueTable

end Tables
