import Sleuthgraph.Store

/-!
# Dates (`datetime`)

A `timestamptz` is read as a `datetime` in UTC. The date of a day is computed as the standard
library does, and the day is read off the date again.
-/

namespace Sleuthgraph

/-! ## The calendar -/

/-- `_is_leap` -/
def isLeap (year : ℕ) : Bool := year % 4 = 0 && (year % 100 ≠ 0 || year % 400 = 0)

/-- `_DAYS_BEFORE_MONTH`, with the leap day. -/
def daysBeforeMonth (leap : Bool) (month : ℕ) : ℕ :=
  [0, 0, 31, 59, 90, 120, 151, 181, 212, 243, 273, 304, 334].getD month 0
    + if 2 < month && leap then 1 else 0

/-- `_days_in_month` -/
def daysInMonth (leap : Bool) (month : ℕ) : ℕ :=
  [0, 31, 28, 31, 30, 31, 30, 31, 31, 30, 31, 30, 31].getD month 0
    + if month = 2 && leap then 1 else 0

/-- `_ord2ymd` of a day `n` of a year: the month and the day. -/
def monthAndDay (leap : Bool) (n : ℕ) : ℕ × ℕ :=
  let month := (n + 50) / 32
  if n < daysBeforeMonth leap month then
    (month - 1, n - (daysBeforeMonth leap month - daysInMonth leap (month - 1)) + 1)
  else (month, n - daysBeforeMonth leap month + 1)

/-- `_ord2ymd`, the first day being `0`: the year, the month and the day. -/
def ymd (n : ℕ) : ℕ × ℕ × ℕ :=
  let n400 := n / 146097
  let n100 := n % 146097 / 36524
  let n4 := n % 146097 % 36524 / 1461
  let n1 := n % 146097 % 36524 % 1461 / 365
  let year := n400 * 400 + n100 * 100 + n4 * 4 + n1 + 1
  if n1 = 4 || n100 = 4 then (year - 1, 12, 31)
  else (year, monthAndDay (n1 = 3 && (n4 ≠ 24 || n100 = 3)) (n % 146097 % 36524 % 1461 % 365))

/-- `_ymd2ord`, the first day being `0`. -/
def dayOf (date : ℕ × ℕ × ℕ) : ℕ :=
  let y := date.1 - 1
  y * 365 + y / 4 - y / 100 + y / 400 + daysBeforeMonth (isLeap date.1) date.2.1 + date.2.2 - 1

lemma dayOf_monthAndDay : ∀ leap : Bool, ∀ n < 365 + (if leap then 1 else 0),
    daysBeforeMonth leap (monthAndDay leap n).1 + (monthAndDay leap n).2 = n + 1 := by
  decide +kernel

lemma month_day_bounds : ∀ leap : Bool, ∀ n < 366,
    (monthAndDay leap n).1 < 100 ∧ (monthAndDay leap n).2 < 100 := by
  decide +kernel

/-- What `ymd` divides a day into. -/
lemma cycles (n : ℕ) : ∃ a b c e d, n / 146097 = a ∧ n % 146097 / 36524 = b ∧
    n % 146097 % 36524 / 1461 = c ∧ n % 146097 % 36524 % 1461 / 365 = e ∧
    n % 146097 % 36524 % 1461 % 365 = d ∧ n = a * 146097 + b * 36524 + c * 1461 + e * 365 + d ∧
    c ≤ 24 ∧ d < 365 ∧ (b ≤ 3 ∧ (e ≤ 3 ∨ e = 4 ∧ d = 0 ∧ c ≤ 23)
      ∨ b = 4 ∧ c = 0 ∧ e = 0 ∧ d = 0) := by
  refine ⟨_, _, _, _, _, rfl, rfl, rfl, rfl, rfl, ?_⟩
  omega

/-- The leap days before a year. -/
lemma leapDays {a b c e : ℕ} (hb : b ≤ 3) (hc : c ≤ 24) (he : e ≤ 3) :
    (a * 400 + b * 100 + c * 4 + e) / 4 = a * 100 + b * 25 + c ∧
      (a * 400 + b * 100 + c * 4 + e) / 100 = a * 4 + b ∧
        (a * 400 + b * 100 + c * 4 + e) / 400 = a := by
  refine ⟨?_, ?_, ?_⟩
  · omega
  · omega
  · omega

/-- The last day of four years, and that of four centuries. -/
lemma last_day {a b c e d : ℕ}
    (h : b ≤ 3 ∧ e = 4 ∧ d = 0 ∧ c ≤ 23 ∨ b = 4 ∧ c = 0 ∧ e = 0 ∧ d = 0) :
    ∃ b' c', b' ≤ 3 ∧ c' ≤ 24 ∧
      a * 400 + b * 100 + c * 4 + e = a * 400 + b' * 100 + c' * 4 + 3 + 1 ∧
        a * 146097 + b * 36524 + c * 1461 + e * 365 + d
          = a * 146097 + b' * 36524 + c' * 1461 + 1460 ∧ (c' ≠ 24 ∨ b' = 3) := by
  rcases h with ⟨hb3, rfl, rfl, hc23⟩ | ⟨rfl, rfl, rfl, rfl⟩
  · refine ⟨b, c, hb3, by omega, ?_, ?_, by omega⟩
    · omega
    · omega
  · refine ⟨3, 24, le_refl _, le_refl _, ?_, ?_, Or.inr rfl⟩
    · omega
    · omega

/-- The day is read off the date. -/
lemma dayOf_ymd (n : ℕ) : dayOf (ymd n) = n := by
  obtain ⟨a, b, c, e, d, ha, hb, hc, he, hd, hn, hc24, hd365, hcases⟩ := cycles n
  unfold ymd
  simp only [ha, hb, hc, he, hd]
  split
  · rename_i hlast
    simp only [Bool.or_eq_true, decide_eq_true_eq] at hlast
    have hend : b ≤ 3 ∧ e = 4 ∧ d = 0 ∧ c ≤ 23 ∨ b = 4 ∧ c = 0 ∧ e = 0 ∧ d = 0 := by
      rcases hcases with ⟨hb3, he3 | he4⟩ | hb4
      · omega
      · exact Or.inl ⟨hb3, he4⟩
      · exact Or.inr hb4
    obtain ⟨b', c', hb', hc', hyear, hday, hleaps⟩ := last_day (a := a) hend
    rw [hday] at hn
    obtain ⟨h4, h100, h400⟩ := leapDays (a := a) hb' hc' (le_refl 3)
    have hleap : isLeap (a * 400 + b' * 100 + c' * 4 + 3 + 1) = true := by
      simp only [isLeap, Bool.and_eq_true, Bool.or_eq_true, decide_eq_true_eq]
      omega
    have hbefore : daysBeforeMonth true 12 = 335 := rfl
    unfold dayOf
    simp only [hyear, Nat.add_sub_cancel, hleap, hbefore, h4, h100, h400]
    omega
  · rename_i hlast
    simp only [Bool.or_eq_true, decide_eq_true_eq] at hlast
    obtain ⟨h4, h100, h400⟩ := leapDays (a := a) (b := b) (c := c) (e := e) (by omega) hc24
      (by omega)
    have hleap : isLeap (a * 400 + b * 100 + c * 4 + e + 1)
        = (decide (e = 3) && (decide (c ≠ 24) || decide (b = 3))) := by
      rw [Bool.eq_iff_iff]
      simp only [isLeap, Bool.and_eq_true, Bool.or_eq_true, decide_eq_true_eq]
      omega
    have hmonth := dayOf_monthAndDay (decide (e = 3) && (decide (c ≠ 24) || decide (b = 3))) d
      (by omega)
    unfold dayOf
    simp only [Nat.add_sub_cancel, hleap, h4, h100, h400]
    omega

lemma ymd_bounds {n : ℕ} (h : n < 3652059) :
    (ymd n).1 < 10000 ∧ (ymd n).2.1 < 100 ∧ (ymd n).2.2 < 100 := by
  obtain ⟨a, b, c, e, d, ha, hb, hc, he, hd, hn, hc24, hd365, hcases⟩ := cycles n
  unfold ymd
  simp only [ha, hb, hc, he, hd]
  split
  · refine ⟨?_, show 12 < 100 by decide, show 31 < 100 by decide⟩
    show a * 400 + b * 100 + c * 4 + e + 1 - 1 < 10000
    omega
  · refine ⟨?_, (month_day_bounds _ d (by omega)).1, (month_day_bounds _ d (by omega)).2⟩
    show a * 400 + b * 100 + c * 4 + e + 1 < 10000
    omega

/-! ## ISO texts -/

/-- The last `width` decimal digits of `n`. -/
def decText (width n : ℕ) : List Char :=
  (List.range width).map fun i => Nat.digitChar (n / 10 ^ (width - 1 - i) % 10)

@[simp] lemma length_decText (width n : ℕ) : (decText width n).length = width := by
  simp [decText]

lemma decText_inj {width n m : ℕ} (h : decText width n = decText width m) (hn : n < 10 ^ width)
    (hm : m < 10 ^ width) : n = m := by
  have hmod := digits_inj (by decide) (by decide) h
  rw [Nat.mod_eq_of_lt hn, Nat.mod_eq_of_lt hm] at hmod
  exact hmod

/-- The times of the years 1 to 9999, in microseconds since 1970. -/
def IsDatetime (t : Time) : Prop :=
  (-62135596800000000 : ℤ) ≤ t ∧ t < (253402300800000000 : ℤ)

instance (t : Time) : Decidable (IsDatetime t) := inferInstanceAs (Decidable (_ ∧ _))

/-- The microseconds since the first day. -/
def sinceFirstDay (t : Time) : ℕ := (t + 62135596800000000).toNat

/-- The date and the time of the day. -/
def isoSeconds (n : ℕ) : List Char :=
  let date := ymd (n / 86400000000)
  let seconds := n / 1000000 % 86400
  decText 4 date.1 ++ '-' :: decText 2 date.2.1 ++ '-' :: decText 2 date.2.2
    ++ 'T' :: decText 2 (seconds / 3600) ++ ':' :: decText 2 (seconds / 60 % 60)
    ++ ':' :: decText 2 (seconds % 60)

/-- The microseconds, if there are any. -/
def isoFraction (n : ℕ) : List Char :=
  if n % 1000000 = 0 then [] else '.' :: decText 6 (n % 1000000)

/-- `t.isoformat()`, with `Z` for the offset as pydantic writes it or with `+00:00`. -/
def isoformat (offset : List Char) (t : Time) : List Char :=
  isoSeconds (sinceFirstDay t) ++ isoFraction (sinceFirstDay t) ++ offset

lemma length_isoSeconds (n : ℕ) : (isoSeconds n).length = 19 := by
  simp [isoSeconds]

/-- The second is read off the text. -/
lemma isoSeconds_inj {n m : ℕ} (hn : n / 86400000000 < 3652059) (hm : m / 86400000000 < 3652059)
    (h : isoSeconds n = isoSeconds m) : n / 1000000 = m / 1000000 := by
  obtain ⟨hny, hnm, hnd⟩ := ymd_bounds hn
  obtain ⟨hmy, hmm, hmd⟩ := ymd_bounds hm
  simp only [isoSeconds, List.append_assoc, List.cons_append] at h
  obtain ⟨hyear, h⟩ := List.append_inj h (by rw [length_decText, length_decText])
  obtain ⟨hmonth, h⟩ := List.append_inj (List.cons.inj h).2 (by rw [length_decText, length_decText])
  obtain ⟨hday, h⟩ := List.append_inj (List.cons.inj h).2 (by rw [length_decText, length_decText])
  obtain ⟨hhour, h⟩ := List.append_inj (List.cons.inj h).2 (by rw [length_decText, length_decText])
  obtain ⟨hminute, h⟩ := List.append_inj (List.cons.inj h).2
    (by rw [length_decText, length_decText])
  have hsecond := decText_inj (List.cons.inj h).2 (by omega) (by omega)
  have hminute := decText_inj hminute (by omega) (by omega)
  have hhour := decText_inj hhour (by omega) (by omega)
  have hdate : ymd (n / 86400000000) = ymd (m / 86400000000) :=
    Prod.ext (decText_inj hyear hny hmy)
      (Prod.ext (decText_inj hmonth hnm hmm) (decText_inj hday hnd hmd))
  have hdays : n / 86400000000 = m / 86400000000 := by
    rw [← dayOf_ymd (n / 86400000000), hdate, dayOf_ymd]
  omega

lemma isoFraction_inj {n m : ℕ} (h : isoFraction n = isoFraction m) :
    n % 1000000 = m % 1000000 := by
  unfold isoFraction at h
  split at h
  · split at h
    · omega
    · cases h
  · split at h
    · cases h
    · exact decText_inj (List.cons.inj h).2 (by omega) (by omega)

/-- **Different times have different texts.** -/
lemma isoformat_inj {offset : List Char} {t u : Time} (ht : IsDatetime t) (hu : IsDatetime u)
    (h : isoformat offset t = isoformat offset u) : t = u := by
  unfold isoformat at h
  obtain ⟨hseconds, hfraction⟩ := List.append_inj (List.append_cancel_right h)
    (by rw [length_isoSeconds, length_isoSeconds])
  unfold IsDatetime at ht hu
  have hday : ∀ v : ℤ, -62135596800000000 ≤ v ∧ v < 253402300800000000 →
      sinceFirstDay v / 86400000000 < 3652059 ∧
        (sinceFirstDay v : ℤ) = v + 62135596800000000 := by
    intro v hv
    unfold sinceFirstDay
    omega
  obtain ⟨htday, ht⟩ := hday t ht
  obtain ⟨huday, hu⟩ := hday u hu
  have hsecond := isoSeconds_inj htday huday hseconds
  have hmicro := isoFraction_inj hfraction
  have hsame : (sinceFirstDay t : ℤ) = sinceFirstDay u := by omega
  exact (Int.add_left_inj _).mp (ht.symm.trans (hsame.trans hu))

/-- A text begins with a digit. -/
lemma isoformat_head (offset : List Char) (t : Time) :
    ∃ d < 10, ∃ s, isoformat offset t = Nat.digitChar d :: s := by
  refine ⟨_, Nat.mod_lt (((ymd (sinceFirstDay t / 86400000000)).1) / 1000) (by decide), _, rfl⟩

/-! ### A text -/

example : isoformat "+00:00".toList 1709210096000120
    = "2024-02-29T12:34:56.000120+00:00".toList := by decide +kernel

end Sleuthgraph
