import Mathlib.Data.List.Perm.Basic
import Mathlib.Order.MinMax
import Mathlib.Order.WithBot

/-!
# Upserts that keep the maximum

A table that has a value for some of its keys is a map into `WithBot V`, where `⊥` is no value.
An upsert gives a key a value, if it has none yet or a smaller one. What a list of upserts leads to
is a maximum at each key, so it does not depend on their order.
-/

namespace Upserts

variable {K V : Type} [DecidableEq K] [LinearOrder V]

/-- The key gets the value, if that is more than it has. -/
def raise (m : K → WithBot V) (p : K × V) : K → WithBot V := fun k =>
  if k = p.1 then max (m k) p.2 else m k

/-- Upserts one after the other. -/
def raiseAll (m : K → WithBot V) (ps : List (K × V)) : K → WithBot V := ps.foldl raise m

/-- The values that a list of upserts has for a key. -/
def valuesFor (ps : List (K × V)) (k : K) : List (WithBot V) :=
  (ps.filter fun p => p.1 = k).map fun p => (p.2 : WithBot V)

variable {m : K → WithBot V} {ps qs : List (K × V)}

/-- A key with its value is no news. -/
theorem raise_of_le {p : K × V} (h : (p.2 : WithBot V) ≤ m p.1) : raise m p = m := by
  funext k
  unfold raise
  split
  · rename_i hk
    rw [hk, max_eq_left h]
  · rfl

/-- What stays below a bound. -/
theorem raise_lt_iff {p : K × V} {k : K} {v : WithBot V} :
    raise m p k < v ↔ m k < v ∧ (p.1 = k → (p.2 : WithBot V) < v) := by
  unfold raise
  split
  · rename_i hk
    rw [max_lt_iff, forall_prop_of_true hk.symm]
  · rename_i hk
    exact (and_iff_left fun h => absurd h.symm hk).symm

/-- Each key has the maximum of its value and those of the upserts. -/
theorem raiseAll_apply (m : K → WithBot V) (ps : List (K × V)) (k : K) :
    raiseAll m ps k = (valuesFor ps k).foldl max (m k) := by
  induction ps generalizing m with
  | nil => rfl
  | cons p ps ih =>
    have hstep : raiseAll m (p :: ps) k = (valuesFor ps k).foldl max (raise m p k) := ih (raise m p)
    rw [hstep]
    by_cases hk : p.1 = k
    · have hfor : valuesFor (p :: ps) k = (p.2 : WithBot V) :: valuesFor ps k := by
        unfold valuesFor
        rw [List.filter_cons_of_pos (by simpa using hk), List.map_cons]
      rw [hfor, List.foldl_cons, raise, if_pos hk.symm]
    · have hfor : valuesFor (p :: ps) k = valuesFor ps k := by
        unfold valuesFor
        rw [List.filter_cons_of_neg (by simpa using hk)]
      rw [hfor, raise, if_neg fun h => hk h.symm]

/-- The order of upserts does not matter. -/
theorem raiseAll_perm (h : ps.Perm qs) (m : K → WithBot V) : raiseAll m ps = raiseAll m qs := by
  refine h.foldl_eq' (fun p _ q _ m => ?_) m
  funext k
  unfold raise
  split
  · split
    · exact sup_right_comm _ _ _
    · rfl
  · rfl

theorem le_raiseAll (m : K → WithBot V) (ps : List (K × V)) (k : K) : m k ≤ raiseAll m ps k := by
  induction ps generalizing m with
  | nil => exact le_refl _
  | cons p ps ih =>
    refine le_trans ?_ (ih (raise m p))
    unfold raise
    split
    · exact le_max_left _ _
    · exact le_refl _

/-- What has been upserted is there. -/
theorem mem_le_raiseAll {p : K × V} (h : p ∈ ps) (m : K → WithBot V) :
    (p.2 : WithBot V) ≤ raiseAll m ps p.1 := by
  induction ps generalizing m with
  | nil => cases h
  | cons q ps ih =>
    rcases List.mem_cons.mp h with rfl | h
    · refine le_trans ?_ (le_raiseAll (raise m p) ps p.1)
      rw [raise, if_pos rfl]
      exact le_max_right _ _
    · exact ih h (raise m q)

end Upserts
