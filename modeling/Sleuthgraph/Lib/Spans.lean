import Mathlib.Data.List.Induction
import Mathlib.Data.List.Nodup
import Mathlib.Order.Bounds.Basic
import Mathlib.Tactic.Common

/-!
# The span of the values of each key

A table of spans has one entry for each key that it has met, with the least and the greatest
value that came with it.
-/

namespace Spans

variable {K V : Type} [DecidableEq K] [LinearOrder V]

/-- A key with its least and its greatest value. -/
structure Span (K V : Type) where
  key : K
  least : V
  greatest : V

/-- Take in one more value. -/
def Span.widen (v : V) (e : Span K V) : Span K V :=
  { e with least := min v e.least, greatest := max v e.greatest }

/-- Enter a pair: widen the entry of its key, or add one. -/
def enter (p : K × V) : List (Span K V) → List (Span K V)
  | [] => [⟨p.1, p.2, p.2⟩]
  | e :: es => if e.key = p.1 then e.widen p.2 :: es else e :: enter p es

/-- Enter pairs one after the other. -/
def spans (ps : List (K × V)) : List (Span K V) := ps.foldl (fun es p => enter p es) []

/-- The values that came with a key. -/
def valuesOf (ps : List (K × V)) (k : K) : Set V := {v | (k, v) ∈ ps}

/-- One entry for each key, and each says the least and the greatest value. -/
structure Spanning (ps : List (K × V)) (es : List (Span K V)) : Prop where
  nodup : (es.map Span.key).Nodup
  keys : ∀ k, k ∈ es.map Span.key ↔ k ∈ ps.map Prod.fst
  least : ∀ e ∈ es, IsLeast (valuesOf ps e.key) e.least
  greatest : ∀ e ∈ es, IsGreatest (valuesOf ps e.key) e.greatest

lemma keys_enter (p : K × V) (es : List (Span K V)) :
    (enter p es).map Span.key
      = if p.1 ∈ es.map Span.key then es.map Span.key else es.map Span.key ++ [p.1] := by
  induction es with
  | nil => rfl
  | cons e es ih =>
    rw [enter]
    by_cases hkey : e.key = p.1
    · rw [if_pos hkey, List.map_cons, List.map_cons, if_pos (hkey ▸ List.mem_cons_self)]
      rfl
    · have hmem : p.1 ∈ (e :: es).map Span.key ↔ p.1 ∈ es.map Span.key := by
        rw [List.map_cons, List.mem_cons, or_iff_right fun h => hkey h.symm]
      rw [if_neg hkey, List.map_cons, ih]
      by_cases hp : p.1 ∈ es.map Span.key
      · rw [if_pos hp, if_pos (hmem.mpr hp), List.map_cons]
      · rw [if_neg hp, if_neg fun h => hp (hmem.mp h), List.map_cons, List.cons_append]

/-- An entry after a pair: it is as before, or it is that of the pair's key. -/
lemma mem_enter {p : K × V} {es : List (Span K V)} (hnodup : (es.map Span.key).Nodup)
    {e' : Span K V} (h : e' ∈ enter p es) :
    (e' ∈ es ∧ e'.key ≠ p.1) ∨ (∃ e ∈ es, e.key = p.1 ∧ e' = e.widen p.2) ∨
      (p.1 ∉ es.map Span.key ∧ e' = ⟨p.1, p.2, p.2⟩) := by
  induction es with
  | nil => exact Or.inr (Or.inr ⟨List.not_mem_nil, List.mem_singleton.mp h⟩)
  | cons e es ih =>
    rw [List.map_cons, List.nodup_cons] at hnodup
    rw [enter] at h
    split at h
    · rename_i hkey
      rcases List.mem_cons.mp h with rfl | h
      · exact Or.inr (Or.inl ⟨e, List.mem_cons_self, hkey, rfl⟩)
      · refine Or.inl ⟨List.mem_cons_of_mem _ h, fun hsame => hnodup.1 ?_⟩
        rw [hkey, ← hsame]
        exact List.mem_map_of_mem h
    · rename_i hkey
      rcases List.mem_cons.mp h with rfl | h
      · exact Or.inl ⟨List.mem_cons_self, hkey⟩
      · rcases ih hnodup.2 h with ⟨hmem, hne⟩ | ⟨old, hold, hkey', rfl⟩ | ⟨hnew, rfl⟩
        · exact Or.inl ⟨List.mem_cons_of_mem _ hmem, hne⟩
        · exact Or.inr (Or.inl ⟨old, List.mem_cons_of_mem _ hold, hkey', rfl⟩)
        · refine Or.inr (Or.inr ⟨?_, rfl⟩)
          rw [List.map_cons, List.mem_cons, not_or]
          exact ⟨fun h => hkey h.symm, hnew⟩

omit [LinearOrder V] in
lemma valuesOf_append (ps : List (K × V)) (p : K × V) (k : K) :
    valuesOf (ps ++ [p]) k = if k = p.1 then insert p.2 (valuesOf ps k) else valuesOf ps k := by
  ext v
  rw [valuesOf, Set.mem_ofPred_eq, List.mem_append, List.mem_singleton]
  split
  · rename_i hk
    rw [Set.mem_insert_iff, valuesOf, Set.mem_ofPred_eq, or_comm, hk]
    exact or_congr_left ⟨fun h => congrArg Prod.snd h, fun h => Prod.ext rfl h⟩
  · rename_i hk
    exact or_iff_left fun h => hk (congrArg Prod.fst h)

/-- **One pair**: the table still spans what it has met. -/
theorem Spanning.enter {ps : List (K × V)} {es : List (Span K V)} (h : Spanning ps es)
    (p : K × V) : Spanning (ps ++ [p]) (enter p es) := by
  have hnodup : ((Spans.enter p es).map Span.key).Nodup := by
    rw [keys_enter]
    split
    · exact h.nodup
    · rename_i hnew
      exact h.nodup.append (List.nodup_singleton _) (by simpa using hnew)
  have hkeys : ∀ k, k ∈ (Spans.enter p es).map Span.key ↔ k ∈ (ps ++ [p]).map Prod.fst := by
    intro k
    rw [keys_enter, List.map_append, List.map_singleton, List.mem_append, List.mem_singleton,
      ← h.keys k]
    split
    · rename_i hold
      exact (or_iff_left_of_imp fun hk => hk ▸ hold).symm
    · rw [List.mem_append, List.mem_singleton]
  have hbounds : ∀ e' ∈ Spans.enter p es, IsLeast (valuesOf (ps ++ [p]) e'.key) e'.least ∧
      IsGreatest (valuesOf (ps ++ [p]) e'.key) e'.greatest := by
    intro e' he'
    rw [valuesOf_append]
    rcases mem_enter h.nodup he' with ⟨hmem, hne⟩ | ⟨e, he, hkey, rfl⟩ | ⟨hnew, rfl⟩
    · rw [if_neg hne]
      exact ⟨h.least e' hmem, h.greatest e' hmem⟩
    · have hkey' : (e.widen p.2).key = p.1 := hkey
      rw [if_pos hkey', hkey', ← hkey]
      exact ⟨(h.least e he).insert p.2, (h.greatest e he).insert p.2⟩
    · have hnone : valuesOf ps p.1 = ∅ := by
        refine Set.eq_empty_iff_forall_notMem.mpr fun v hv => hnew ((h.keys p.1).mpr ?_)
        exact List.mem_map.mpr ⟨(p.1, v), hv, rfl⟩
      rw [if_pos rfl, hnone, insert_empty_eq]
      exact ⟨isLeast_singleton, isGreatest_singleton⟩
  exact ⟨hnodup, hkeys, fun e he => (hbounds e he).1, fun e he => (hbounds e he).2⟩

/-- **Every run**: the table spans all pairs. -/
theorem spans_spanning (ps : List (K × V)) : Spanning ps (spans ps) := by
  induction ps using List.reverseRecOn with
  | nil =>
    exact ⟨List.nodup_nil, fun _ => Iff.rfl, fun _ h => absurd h List.not_mem_nil,
      fun _ h => absurd h List.not_mem_nil⟩
  | append_singleton ps p ih =>
    rw [spans, List.foldl_append]
    exact ih.enter p

end Spans
