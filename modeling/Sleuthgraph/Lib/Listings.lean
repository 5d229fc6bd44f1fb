import Mathlib.Data.List.Sort
import Mathlib.Order.Basic
import Mathlib.Tactic.Common

/-!
# Listings, newest first

`ORDER BY created_at DESC LIMIT limit OFFSET offset` leaves the order of rows of the same time to
the database. A `NewestFirst` is what a database may do: it arranges rows, loses none, and puts
no older row before a newer one. `mem_head_of_all` and its two companions say which rows are among
the first `n` for every arrangement, and for some arrangement.
-/

namespace Listings

variable {α β : Type} [LinearOrder β]

/-- How a database arranges rows by `created`, the newest first. -/
structure NewestFirst (created : α → β) where
  arrange : List α → List α
  perm : ∀ rows, (arrange rows).Perm rows
  newest_first : ∀ rows, (arrange rows).Pairwise fun a b => created b ≤ created a

variable {created : α → β}

/-! ## Arrangements -/

/-- `a` may come before `b` when rows in `favored` come first among those of the same time. -/
def Before (created : α → β) (favored : α → Bool) (a b : α) : Prop :=
  created b < created a ∨ created b = created a ∧ (favored b = true → favored a = true)

instance (favored : α → Bool) : DecidableRel (Before created favored) := fun _ _ =>
  inferInstanceAs (Decidable (_ ∨ _))

instance (favored : α → Bool) : Std.Total (Before created favored) := ⟨fun a b => by
  unfold Before
  rcases lt_trichotomy (created a) (created b) with h | h | h
  · exact Or.inr (Or.inl h)
  · cases ha : favored a with
    | true => exact Or.inl (Or.inr ⟨h.symm, fun _ => rfl⟩)
    | false => exact Or.inr (Or.inr ⟨h, fun hf => Bool.noConfusion hf⟩)
  · exact Or.inl (Or.inl h)⟩

instance (favored : α → Bool) : IsTrans α (Before created favored) := ⟨fun a b c hab hbc => by
  unfold Before at *
  rcases hab with hab | ⟨hab, hfab⟩ <;> rcases hbc with hbc | ⟨hbc, hfbc⟩
  · exact Or.inl (hbc.trans hab)
  · exact Or.inl (hbc ▸ hab)
  · exact Or.inl (hab ▸ hbc)
  · exact Or.inr ⟨hbc.trans hab, fun h => hfab (hfbc h)⟩⟩

namespace NewestFirst

/-- The arrangement that puts the rows in `favored` first among those of the same time. -/
def favoring (created : α → β) (favored : α → Bool) : NewestFirst created where
  arrange rows := rows.insertionSort (Before created favored)
  perm rows := List.perm_insertionSort _ rows
  newest_first rows := by
    refine (List.pairwise_insertionSort (Before created favored) rows).imp fun {a b} h => ?_
    rcases h with h | ⟨h, -⟩
    · exact h.le
    · exact h.le

instance : Inhabited (NewestFirst created) := ⟨favoring created fun _ => false⟩

variable (o : NewestFirst created)

/-- `LIMIT limit OFFSET offset` -/
def page (limit offset : ℕ) (rows : List α) : List α := ((o.arrange rows).drop offset).take limit

lemma mem_arrange {rows : List α} {a : α} : a ∈ o.arrange rows ↔ a ∈ rows := (o.perm rows).mem_iff

/-- A page shows rows of the query only. -/
lemma mem_of_mem_page {limit offset : ℕ} {rows : List α} {a : α}
    (h : a ∈ o.page limit offset rows) : a ∈ rows :=
  o.mem_arrange.mp (List.mem_of_mem_drop (List.mem_of_mem_take h))

lemma length_page_zero (limit : ℕ) (rows : List α) :
    (o.page limit 0 rows).length = min limit rows.length := by
  rw [page, List.drop_zero, List.length_take, (o.perm rows).length_eq]

/-- A first page that is long enough shows every row. -/
lemma page_perm {limit : ℕ} {rows : List α} (h : rows.length ≤ limit) :
    (o.page limit 0 rows).Perm rows := by
  have hlen : (o.arrange rows).length ≤ limit := (o.perm rows).length_eq.trans_le h
  rw [page, List.drop_zero, List.take_of_length_le hlen]
  exact o.perm rows

/-- What a first page leaves out is no newer than what it shows. -/
lemma newest_first_page {limit : ℕ} {rows : List α} {a b : α} (ha : a ∈ o.page limit 0 rows)
    (hb : b ∈ rows) (hout : b ∉ o.page limit 0 rows) : created b ≤ created a := by
  have hsplit := List.take_append_drop limit (o.arrange rows)
  have hsorted := o.newest_first rows
  rw [← hsplit, List.pairwise_append] at hsorted
  rw [page, List.drop_zero] at ha hout
  have hmem := o.mem_arrange.mpr hb
  rw [← hsplit, List.mem_append] at hmem
  rcases hmem with hin | hrest
  · exact absurd hin hout
  · exact hsorted.2.2 a ha b hrest

/-- The head of a longer first page. -/
lemma take_page {n limit : ℕ} (h : n ≤ limit) (rows : List α) :
    (o.page limit 0 rows).take n = (o.arrange rows).take n := by
  rw [page, List.drop_zero, List.take_take, Nat.min_eq_left h]

end NewestFirst

/-! ## The first `n` -/

section Heads

/-- The other rows that are not older than `a`: those that may come before it. -/
def notOlder [DecidableEq α] (created : α → β) (rows : List α) (a : α) : ℕ :=
  rows.countP fun x => decide (created a ≤ created x) && decide (x ≠ a)

/-- The rows that are newer than `a`: those that must come before it. -/
def newer (created : α → β) (rows : List α) (a : α) : ℕ :=
  rows.countP fun x => decide (created a < created x)

/-- A row of a list without duplicates is among the first `n` iff fewer than `n` precede it. -/
lemma mem_take_append_iff {before after : List α} {a : α} (hnodup : (before ++ a :: after).Nodup)
    (n : ℕ) : a ∈ (before ++ a :: after).take n ↔ before.length < n := by
  have hbefore : a ∉ before := fun h =>
    (List.nodup_append.mp hnodup).2.2 a h a List.mem_cons_self rfl
  constructor
  · intro h
    by_contra hn
    rw [List.take_append_of_le_length (not_lt.mp hn)] at h
    exact hbefore (List.mem_of_mem_take h)
  · intro h
    have hpos : 0 < n - before.length := by omega
    obtain ⟨k, hk⟩ : ∃ k, n - before.length = k + 1 := ⟨n - before.length - 1, by omega⟩
    rw [List.take_append, hk, List.take_succ_cons]
    exact List.mem_append_right _ List.mem_cons_self

variable {rows : List α} {a : α} {n : ℕ}

/-- What precedes a row in an arrangement, and what follows it. -/
lemma NewestFirst.split (o : NewestFirst created) (hnodup : rows.Nodup) (ha : a ∈ rows) :
    ∃ before after, o.arrange rows = before ++ a :: after ∧ (before ++ a :: after).Nodup ∧
      ∀ x ∈ before, created a ≤ created x ∧ x ≠ a := by
  obtain ⟨before, after, hsplit⟩ := List.append_of_mem (o.mem_arrange.mpr ha)
  have hnodup' : (before ++ a :: after).Nodup := hsplit ▸ (o.perm rows).nodup_iff.mpr hnodup
  have hsorted := o.newest_first rows
  rw [hsplit, List.pairwise_append] at hsorted
  refine ⟨before, after, hsplit, hnodup', fun x hx => ⟨?_, ?_⟩⟩
  · exact hsorted.2.2 x hx a List.mem_cons_self
  · rintro rfl
    exact (List.nodup_append.mp hnodup').2.2 x hx x List.mem_cons_self rfl

/-- Fewer than `n` rows are newer than one among the first `n`. -/
lemma newer_lt_of_mem_head (o : NewestFirst created) (hnodup : rows.Nodup)
    (h : a ∈ (o.arrange rows).take n) : newer created rows a < n := by
  obtain ⟨before, after, hsplit, hnodup', -⟩ :=
    o.split hnodup (o.mem_arrange.mp (List.mem_of_mem_take h))
  have hsorted := o.newest_first rows
  rw [hsplit, List.pairwise_append, List.pairwise_cons] at hsorted
  rw [hsplit, mem_take_append_iff hnodup'] at h
  -- nothing newer follows the row
  have hnone : after.countP (fun x => decide (created a < created x)) = 0 := by
    refine List.countP_eq_zero.mpr fun x hx hlt => ?_
    exact absurd (of_decide_eq_true hlt) (not_lt.mpr (hsorted.2.1.1 x hx))
  have hle : newer created rows a ≤ before.length := by
    rw [newer, ← (o.perm rows).countP_eq, hsplit, List.countP_append, List.countP_cons, hnone]
    simpa using List.countP_le_length
  omega

variable [DecidableEq α]

/-- No more than the other rows may precede a row. -/
lemma notOlder_lt_length (ha : a ∈ rows) : notOlder created rows a < rows.length := by
  refine lt_of_le_of_ne List.countP_le_length fun hall => ?_
  have hself := List.countP_eq_length.mp hall a ha
  simp at hself

/-- A row that fewer than `n` others may precede is among the first `n` of every arrangement. -/
lemma mem_head_of_all (o : NewestFirst created) (hnodup : rows.Nodup) (ha : a ∈ rows)
    (h : notOlder created rows a < n) : a ∈ (o.arrange rows).take n := by
  obtain ⟨before, after, hsplit, hnodup', hbefore⟩ := o.split hnodup ha
  rw [hsplit, mem_take_append_iff hnodup']
  have hall : before.countP (fun x => decide (created a ≤ created x) && decide (x ≠ a))
      = before.length := by
    refine List.countP_eq_length.mpr fun x hx => ?_
    simpa using hbefore x hx
  have hle : before.length ≤ notOlder created rows a := by
    rw [notOlder, ← (o.perm rows).countP_eq, hsplit, List.countP_append, hall]
    omega
  omega

/-- A row that fewer than `n` must precede is among the first `n` of some arrangement. -/
lemma mem_head_of_some (hnodup : rows.Nodup) (ha : a ∈ rows) (h : newer created rows a < n) :
    ∃ o : NewestFirst created, a ∈ (o.arrange rows).take n := by
  refine ⟨.favoring created fun x => decide (x = a), ?_⟩
  obtain ⟨before, after, hsplit, hnodup', hbefore⟩ :=
    (NewestFirst.favoring created fun x => decide (x = a)).split hnodup ha
  have hsorted := List.pairwise_insertionSort (Before created fun x => decide (x = a)) rows
  rw [show rows.insertionSort (Before created fun x => decide (x = a)) = before ++ a :: after
    from hsplit, List.pairwise_append] at hsorted
  rw [hsplit, mem_take_append_iff hnodup']
  -- nothing of the same time precedes the favored row
  have hall : before.countP (fun x => decide (created a < created x)) = before.length := by
    refine List.countP_eq_length.mpr fun x hx => ?_
    rcases hsorted.2.2 x hx a List.mem_cons_self with hlt | ⟨-, hfavor⟩
    · exact decide_eq_true hlt
    · exact absurd (of_decide_eq_true (hfavor (decide_eq_true rfl))) (hbefore x hx).2
  have hle : before.length ≤ newer created rows a := by
    rw [newer, ← ((NewestFirst.favoring created fun x => decide (x = a)).perm rows).countP_eq,
      hsplit, List.countP_append, hall]
    omega
  omega

/-- A row that `n` others may precede is not among the first `n` of some arrangement. -/
lemma not_mem_head_of_some (hnodup : rows.Nodup) (ha : a ∈ rows)
    (h : n ≤ notOlder created rows a) :
    ∃ o : NewestFirst created, a ∉ (o.arrange rows).take n := by
  refine ⟨.favoring created fun x => decide (x ≠ a), ?_⟩
  obtain ⟨before, after, hsplit, hnodup', hbefore⟩ :=
    (NewestFirst.favoring created fun x => decide (x ≠ a)).split hnodup ha
  have hsorted := List.pairwise_insertionSort (Before created fun x => decide (x ≠ a)) rows
  rw [show rows.insertionSort (Before created fun x => decide (x ≠ a)) = before ++ a :: after
    from hsplit, List.pairwise_append, List.pairwise_cons] at hsorted
  rw [hsplit, mem_take_append_iff hnodup']
  -- what follows the row is older
  have hnone : after.countP (fun x => decide (created a ≤ created x) && decide (x ≠ a)) = 0 := by
    refine List.countP_eq_zero.mpr fun x hx hcond => ?_
    simp only [Bool.and_eq_true, decide_eq_true_eq] at hcond
    rcases hsorted.2.1.1 x hx with hlt | ⟨-, hfavor⟩
    · exact absurd hcond.1 (not_le.mpr hlt)
    · exact absurd rfl (of_decide_eq_true (hfavor (decide_eq_true hcond.2)))
  have hcount : notOlder created rows a ≤ before.length := by
    rw [notOlder, ← ((NewestFirst.favoring created fun x => decide (x ≠ a)).perm rows).countP_eq,
      hsplit, List.countP_append, List.countP_cons, hnone]
    simpa using List.countP_le_length
  omega

end Heads

/-! ## All pages -/

section Pages

/-- The pages at the offsets `0`, `limit`, `2 * limit`, …, one after the other. Every request has
an arrangement of its own. -/
def pages (o : ℕ → NewestFirst created) (limit n : ℕ) (rows : List α) : List α :=
  (List.range n).flatMap fun k => (o k).page limit (k * limit) rows

variable [DecidableEq α] {rows : List α} {a : α} {limit n : ℕ}

/-- Where a row may come, ties included, is on one page. -/
def OnOnePage (created : α → β) (rows : List α) (limit : ℕ) (a : α) : Prop :=
  newer created rows a / limit = notOlder created rows a / limit

instance (rows : List α) (limit : ℕ) (a : α) : Decidable (OnOnePage created rows limit a) :=
  inferInstanceAs (Decidable (_ = _))

/-- The position of a row in an arrangement. -/
def NewestFirst.position (o : NewestFirst created) (rows : List α) (a : α) : ℕ :=
  (o.arrange rows).idxOf a

namespace NewestFirst

variable (o : NewestFirst created)

lemma mem_take_iff (ha : a ∈ rows) : a ∈ (o.arrange rows).take n ↔ o.position rows a < n :=
  List.mem_take_iff_idxOf_lt (o.mem_arrange.mpr ha)

lemma newer_le_position (hnodup : rows.Nodup) (ha : a ∈ rows) :
    newer created rows a ≤ o.position rows a := by
  have hmem : a ∈ (o.arrange rows).take (o.position rows a + 1) :=
    (o.mem_take_iff ha).mpr (by omega)
  have hlt := newer_lt_of_mem_head o hnodup hmem
  omega

lemma position_le_notOlder (hnodup : rows.Nodup) (ha : a ∈ rows) :
    o.position rows a ≤ notOlder created rows a := by
  by_contra hlt
  have hmem := mem_head_of_all o hnodup ha (not_le.mp hlt)
  rw [o.mem_take_iff ha] at hmem
  omega

/-- The page of a row is that of its position. -/
lemma mem_page_iff (hnodup : rows.Nodup) (hlimit : 1 ≤ limit) (ha : a ∈ rows) {k : ℕ} :
    a ∈ o.page limit (k * limit) rows ↔ o.position rows a / limit = k := by
  have harranged : (o.arrange rows).Nodup := (o.perm rows).nodup_iff.mpr hnodup
  have hposition : (o.arrange rows)[o.position rows a]? = some a :=
    List.getElem?_idxOf (o.mem_arrange.mpr ha)
  have hdiv : o.position rows a / limit = k ↔
      k * limit ≤ o.position rows a ∧ o.position rows a < k * limit + limit := by
    rw [Nat.div_eq_iff (by omega)]
    omega
  rw [hdiv, page, List.mem_iff_getElem?]
  constructor
  · intro ⟨i, hi⟩
    have hlt : i < limit := by
      by_contra hge
      rw [List.getElem?_take_eq_none (by omega)] at hi
      cases hi
    rw [List.getElem?_take_of_lt hlt, List.getElem?_drop] at hi
    -- a row is at one position only
    have hbound : k * limit + i < (o.arrange rows).length := by
      obtain ⟨h, -⟩ := List.getElem?_eq_some_iff.mp hi
      exact h
    have heq : k * limit + i = o.position rows a :=
      (List.getElem?_inj hbound harranged).mp (hi.trans hposition.symm)
    omega
  · intro ⟨hle, hlt⟩
    refine ⟨o.position rows a - k * limit, ?_⟩
    have hsum : k * limit + (o.position rows a - k * limit) = o.position rows a := by omega
    rw [List.getElem?_take_of_lt (by omega), List.getElem?_drop, hsum]
    exact hposition

end NewestFirst

/-- **Pages tile.** The pages show every row exactly once, however ties are arranged each time,
just when no ties are on two pages. -/
theorem pages_perm_iff (hnodup : rows.Nodup) (hlimit : 1 ≤ limit)
    (hn : rows.length ≤ n * limit) :
    (∀ o : ℕ → NewestFirst created, (pages o limit n rows).Perm rows) ↔
      ∀ a ∈ rows, OnOnePage created rows limit a := by
  constructor
  · intro htiles a ha
    by_contra hsplit
    have hle : newer created rows a / limit ≤ notOlder created rows a / limit := by
      refine Nat.div_le_div_right ?_
      have o : NewestFirst created := default
      exact (o.newer_le_position hnodup ha).trans (o.position_le_notOlder hnodup ha)
    -- the row may come before the boundary of two pages, and after it
    have hlt : newer created rows a / limit < notOlder created rows a / limit :=
      lt_of_le_of_ne hle hsplit
    have hbefore : newer created rows a < notOlder created rows a / limit * limit :=
      (Nat.div_lt_iff_lt_mul (by omega)).mp hlt
    have hafter : notOlder created rows a / limit * limit ≤ notOlder created rows a :=
      Nat.div_mul_le_self _ _
    obtain ⟨early, hearly⟩ := mem_head_of_some hnodup ha hbefore
    obtain ⟨late, hlate⟩ := not_mem_head_of_some hnodup ha hafter
    rw [early.mem_take_iff ha] at hearly
    rw [late.mem_take_iff ha, not_lt] at hlate
    -- it is late on the pages before the boundary, and early on the others
    have hmem := (htiles fun k => if k < notOlder created rows a / limit then late else early)
      |>.mem_iff.mpr ha
    obtain ⟨k, -, hk⟩ := List.mem_flatMap.mp hmem
    dsimp only at hk
    split at hk
    · rw [late.mem_page_iff hnodup hlimit ha] at hk
      have := (Nat.le_div_iff_mul_le (by omega)).mpr hlate
      omega
    · rw [early.mem_page_iff hnodup hlimit ha] at hk
      have := (Nat.div_lt_iff_lt_mul (by omega)).mpr hearly
      omega
  · intro hpages o
    have hposition : ∀ (k : ℕ) {a : α}, a ∈ rows →
        (o k).position rows a / limit = newer created rows a / limit := by
      intro k a ha
      have hlow := Nat.div_le_div_right (c := limit) ((o k).newer_le_position hnodup ha)
      have hhigh := Nat.div_le_div_right (c := limit) ((o k).position_le_notOlder hnodup ha)
      have hone := hpages a ha
      unfold OnOnePage at hone
      omega
    have hmem : ∀ {k : ℕ} {a : α}, a ∈ rows →
        (a ∈ (o k).page limit (k * limit) rows ↔ newer created rows a / limit = k) := by
      intro k a ha
      rw [(o k).mem_page_iff hnodup hlimit ha, hposition k ha]
    have hpage_nodup : ∀ k, ((o k).page limit (k * limit) rows).Nodup := by
      intro k
      have harranged : ((o k).arrange rows).Nodup := ((o k).perm rows).nodup_iff.mpr hnodup
      exact (harranged.sublist (List.drop_sublist _ _)).sublist (List.take_sublist _ _)
    refine (List.perm_ext_iff_of_nodup ?_ hnodup).mpr fun a => ?_
    · refine List.nodup_flatMap.mpr ⟨fun k _ => hpage_nodup k, ?_⟩
      refine (List.nodup_range (n := n)).imp fun {k k'} hne => ?_
      refine List.disjoint_left.mpr fun a hk hk' => hne ?_
      have ha := (o k).mem_of_mem_page hk
      rw [← (hmem ha).mp hk, ← (hmem ha).mp hk']
    · constructor
      · intro ha
        obtain ⟨k, -, hk⟩ := List.mem_flatMap.mp ha
        exact (o k).mem_of_mem_page hk
      · intro ha
        refine List.mem_flatMap.mpr ⟨newer created rows a / limit, ?_, (hmem ha).mpr rfl⟩
        have hcount : newer created rows a ≤ notOlder created rows a :=
          ((o 0).newer_le_position hnodup ha).trans ((o 0).position_le_notOlder hnodup ha)
        have hlen : notOlder created rows a < rows.length := notOlder_lt_length ha
        exact List.mem_range.mpr ((Nat.div_lt_iff_lt_mul (by omega)).mpr (by omega))

end Pages

end Listings
