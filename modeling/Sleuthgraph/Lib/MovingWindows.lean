import Mathlib.Algebra.Order.Ring.Int
import Mathlib.Data.List.Basic
import Mathlib.Logic.Function.Basic
import Mathlib.Tactic.Common

/-!
# Moving windows

A limiter logs the times at which it allows an attempt, the latest first. It allows one when the
`amount`-th latest entry is older than the period, or there is none. As long as the clock does not
go back, no window as long as the period ever holds more than `amount` of the times allowed
(`Spaced.count_le`).
-/

namespace MovingWindows

/-- So many attempts in a period. -/
structure Rate where
  amount : ℕ
  period : ℤ

variable (rate : Rate)

/-- An attempt is allowed now. -/
def Rate.admits (log : List ℤ) (now : ℤ) : Bool :=
  0 < rate.amount && (log[rate.amount - 1]?).all fun t => t < now - rate.period

/-- Each entry is later than the period after the entry `amount` before it. -/
def Spaced : List ℤ → Prop
  | [] => True
  | t :: log => 0 < rate.amount ∧ (∀ t' ∈ log.drop (rate.amount - 1), t' < t - rate.period) ∧
      Spaced log

variable {rate} {log : List ℤ} {now : ℤ}

/-- In a log that is in order, all entries from the one that is looked at are older. -/
theorem Rate.admits_iff (hlog : log.Pairwise (· ≥ ·)) :
    rate.admits log now = true ↔
      0 < rate.amount ∧ ∀ t ∈ log.drop (rate.amount - 1), t < now - rate.period := by
  unfold Rate.admits
  rw [Bool.and_eq_true, decide_eq_true_eq]
  refine and_congr_right fun _ => ?_
  have hdrop : (log.drop (rate.amount - 1)).Pairwise (· ≥ ·) := hlog.sublist (List.drop_sublist _ _)
  have hhead : log[rate.amount - 1]? = (log.drop (rate.amount - 1)).head? := by
    rw [List.head?_drop]
  rw [hhead]
  cases hcut : log.drop (rate.amount - 1) with
  | nil => simp
  | cons t older =>
    rw [hcut, List.pairwise_cons] at hdrop
    simp only [List.head?_cons, Option.all_some, decide_eq_true_eq, List.mem_cons, forall_eq_or_imp]
    exact ⟨fun ht => ⟨ht, fun t' ht' => lt_of_le_of_lt (hdrop.1 t' ht') ht⟩, And.left⟩

/-- The limit. -/
theorem Spaced.count_le (h : Spaced rate log) (start : ℤ) :
    (log.filter fun t => start ≤ t && t ≤ start + rate.period).length ≤ rate.amount := by
  induction log with
  | nil => simp
  | cons t log ih =>
    obtain ⟨hpos, holder, hlog⟩ := h
    rw [List.filter_cons]
    split
    · rename_i hin
      simp only [Bool.and_eq_true, decide_eq_true_eq] at hin
      -- what is `amount` before an entry of the window is before the window
      have hout : (log.drop (rate.amount - 1)).filter
          (fun t => start ≤ t && t ≤ start + rate.period) = [] := by
        refine List.filter_eq_nil_iff.mpr fun t' ht' => ?_
        have hlt := holder t' ht'
        simp only [Bool.and_eq_true, decide_eq_true_eq, not_and, not_le]
        omega
      have hsplit : log.filter (fun t => start ≤ t && t ≤ start + rate.period)
          = (log.take (rate.amount - 1)).filter
            (fun t => start ≤ t && t ≤ start + rate.period) := by
        conv_lhs => rw [← List.take_append_drop (rate.amount - 1) log]
        rw [List.filter_append, hout, List.append_nil]
      have hle := List.length_filter_le (fun t => start ≤ t && t ≤ start + rate.period)
        (log.take (rate.amount - 1))
      rw [hsplit, List.length_cons]
      rw [List.length_take] at hle
      omega
    · exact ih hlog

/-- A log that a limiter leaves by a time. -/
structure Kept (rate : Rate) (log : List ℤ) (clock : ℤ) : Prop where
  past : ∀ t ∈ log, t ≤ clock
  order : log.Pairwise (· ≥ ·)
  spaced : Spaced rate log

theorem Kept.nil (rate : Rate) (clock : ℤ) : Kept rate [] clock :=
  ⟨fun _ ht => absurd ht List.not_mem_nil, .nil, trivial⟩

/-- The clock goes on. -/
theorem Kept.wait {clock : ℤ} (h : Kept rate log clock) (hclock : clock ≤ now) :
    Kept rate log now :=
  ⟨fun t ht => le_trans (h.past t ht) hclock, h.order, h.spaced⟩

/-- An attempt that is allowed is logged. -/
theorem Kept.cons (h : Kept rate log now) (hadmits : rate.admits log now = true) :
    Kept rate (now :: log) now := by
  obtain ⟨hpos, holder⟩ := (Rate.admits_iff h.order).mp hadmits
  refine ⟨?_, List.pairwise_cons.mpr ⟨h.past, h.order⟩, hpos, holder, h.spaced⟩
  intro t ht
  rcases List.mem_cons.mp ht with rfl | ht
  · exact le_refl t
  · exact h.past t ht

/-! ## Buckets -/

section Buckets

variable {κ : Type} [DecidableEq κ] {logs : κ → List ℤ} {k k' : κ}

/-- An attempt on a bucket: it is allowed or not, and logged if it is. -/
def hit (rate : Rate) (logs : κ → List ℤ) (k : κ) (now : ℤ) : Bool × (κ → List ℤ) :=
  (rate.admits (logs k) now,
    if rate.admits (logs k) now then Function.update logs k (now :: logs k) else logs)

/-- The log of the bucket. -/
theorem hit_self (rate : Rate) (logs : κ → List ℤ) (k : κ) (now : ℤ) :
    (hit rate logs k now).2 k
      = if (hit rate logs k now).1 then now :: logs k else logs k := by
  unfold hit
  dsimp only
  split
  · rw [Function.update_self]
  · rfl

/-- The other buckets are as they were. -/
theorem hit_of_ne (rate : Rate) (hk : k' ≠ k) : (hit rate logs k now).2 k' = logs k' := by
  unfold hit
  dsimp only
  split
  · rw [Function.update_of_ne hk]
  · rfl

theorem Kept.hit (rateOf : κ → Rate) (h : ∀ k, Kept (rateOf k) (logs k) now) (k k' : κ) :
    Kept (rateOf k') ((hit (rateOf k) logs k now).2 k') now := by
  by_cases hk : k' = k
  · subst hk
    rw [hit_self]
    split
    · exact (h k').cons ‹_›
    · exact h k'
  · rw [hit_of_ne _ hk]
    exact h k'

/-- The logs only get longer. -/
theorem sublist_hit (rate : Rate) (logs : κ → List ℤ) (k : κ) (now : ℤ) (k' : κ) :
    (logs k').Sublist ((hit rate logs k now).2 k') := by
  by_cases hk : k' = k
  · subst hk
    rw [hit_self]
    split
    · exact List.sublist_cons_self now _
    · exact List.Sublist.refl _
  · rw [hit_of_ne rate hk]

end Buckets

end MovingWindows
