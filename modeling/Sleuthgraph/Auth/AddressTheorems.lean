import Mathlib.Data.Nat.Digits.Defs
import Mathlib.Data.Nat.Digits.Lemmas
import Sleuthgraph.Auth.ClientIp

/-!
# The spelling of a bucket key (`auth/rate_limit.py`)

`_valid_ip` answers with the text it was given. An IPv4 address has one spelling that is accepted,
an IPv6 address has many: either case, leading zeros, `::`, a dotted end. And the scope of an IPv6
address is any text at all.
-/

namespace Sleuthgraph

/-! ## Addresses -/

/-- An address as `ipaddress` compares it: a number, or eight groups with a scope. -/
inductive IpAddress where
  | v4 (number : ℕ)
  | v6 (groups : List ℕ) (scope : Option (List Char))
deriving DecidableEq, Repr

/-- The number of a decimal octet. -/
def octetValue (s : List Char) : ℕ := Nat.ofDigitChars 10 s 0

/-- `int.from_bytes(map(cls._parse_octet, octets), 'big')` -/
def ipv4Value (s : List Char) : ℕ :=
  (splitAt '.' s).foldl (fun n octet => 256 * n + octetValue octet) 0

/-- `int(c, 16)` -/
def hexDigitValue (c : Char) : ℕ :=
  if c.isDigit then c.toNat - 48 else if c.isUpper then c.toNat - 55 else c.toNat - 87

/-- `int(s, 16)` -/
def hextetValue (s : List Char) : ℕ := Nat.ofDigits 16 (s.reverse.map hexDigitValue)

/-- The groups that a dotted end is written as. -/
def dottedTexts (last : List Char) : List (List Char) :=
  [hexText 4 (ipv4Value last / 65536), hexText 4 (ipv4Value last % 65536)]

/-- The texts of the groups, where a dotted end is written as two groups. -/
def ipv6Texts (address : List Char) : List (List Char) :=
  let parts := splitAt ':' address
  let last := parts.getLastD []
  if last.contains '.' then parts.dropLast ++ dottedTexts last else parts

/-- The groups of one side of `::`. -/
def sideValues (groups : List (List Char)) (outer : Option (List Char)) : List ℕ :=
  if outer = some [] then [] else groups.map hextetValue

/-- The eight groups. -/
def ipv6Values (parts : List (List Char)) : List ℕ :=
  match parts.tail.dropLast.findIdx? List.isEmpty with
  | none => parts.map hextetValue
  | some i =>
    let hi := parts.take (i + 1)
    let lo := parts.drop (i + 2)
    let high := sideValues hi hi.head?
    let low := sideValues lo lo.getLast?
    high ++ List.replicate (8 - (high.length + low.length)) 0 ++ low

/-- The scope of an IPv6 address. -/
def scopeOf (s : List Char) : Option (List Char) :=
  match splitAt '%' s with
  | [_, scope] => some scope
  | _ => none

/-- The address that a text denotes, if it denotes one. -/
def addressOf (s : List Char) : IpAddress :=
  if ipv4Address s then .v4 (ipv4Value s)
  else .v6 (ipv6Values (ipv6Texts ((withoutScope s).getD []))) (scopeOf s)

example : addressOf "::ffff:1.2.3.4".toList = addressOf "0:0:0:0:0:FFFF:102:304".toList := by
  decide +kernel

/-! ## The characters of a key -/

/-- The characters of a clean key. -/
def isKeyChar (c : Char) : Bool := isHexDigit c || c = '.' || c = ':'

lemma isKeyChar_of_octet {octet : List Char} (h : ipv4Octet octet = true) :
    ∀ c ∈ octet, isKeyChar c = true := by
  simp only [ipv4Octet, runOf, Bool.and_eq_true, List.all_eq_true] at h
  intro c hc
  simp [isKeyChar, isHexDigit, h.1.1.1.2 c hc]

lemma isKeyChar_of_ipv4 {s : List Char} (h : ipv4Address s = true) :
    ∀ c ∈ s, isKeyChar c = true := by
  rw [ipv4Address, Bool.and_eq_true, List.all_eq_true] at h
  intro c hc
  rcases mem_splitAt '.' hc with rfl | ⟨octet, hoctet, hmem⟩
  · rfl
  · exact isKeyChar_of_octet (h.2 octet hoctet) c hmem

/-- The text around the `::`. -/
lemma split_at_skip {parts : List (List Char)} {i : ℕ}
    (h : parts.tail.dropLast.findIdx? List.isEmpty = some i) :
    parts = parts.take (i + 1) ++ [] :: parts.drop (i + 2) := by
  obtain ⟨hi, hempty, -⟩ := List.findIdx?_eq_some_iff_getElem.mp h
  have hlt : i + 1 < parts.length := by
    rw [List.length_dropLast, List.length_tail] at hi
    omega
  have hget : parts[i + 1] = [] := by
    rw [List.getElem_dropLast, List.getElem_tail, List.isEmpty_iff] at hempty
    exact hempty
  rw [← hget, ← List.drop_eq_getElem_cons hlt, List.take_append_drop]

/-- The sides of the `::`, or all groups. -/
lemma groups_fit {parts : List (List Char)} (h : ipv6Groups parts = true) :
    (parts.tail.dropLast.findIdx? List.isEmpty = none ∧ parts.all ipv6Hextet = true) ∨
      ∃ i m n, parts.tail.dropLast.findIdx? List.isEmpty = some i ∧
        ipv6Side (parts.take (i + 1)) (parts.take (i + 1)).head? = some m ∧
        ipv6Side (parts.drop (i + 2)) (parts.drop (i + 2)).getLast? = some n := by
  unfold ipv6Groups at h
  dsimp only at h
  split at h
  · cases h
  · split at h
    · rename_i hskip
      rw [Bool.and_eq_true] at h
      exact Or.inl ⟨hskip, h.2⟩
    · rename_i i hskip
      split at h
      · cases h
      · split at h
        · rename_i m n hm hn
          exact Or.inr ⟨i, m, n, hskip, hm, hn⟩
        · cases h

/-- A side is one empty text at the border, or groups. -/
lemma side_fits {groups : List (List Char)} {outer : Option (List Char)} {n : ℕ}
    (houter : outer = groups.head? ∨ outer = groups.getLast?) (h : ipv6Side groups outer = some n) :
    (outer = some [] ∧ groups = [[]]) ∨ (outer ≠ some [] ∧ groups.all ipv6Hextet = true) := by
  unfold ipv6Side at h
  split at h
  · rename_i hempty
    split at h
    · rename_i hlength
      obtain ⟨group, rfl⟩ := List.length_eq_one_iff.mp hlength
      have hgroup : some group = some [] := by
        rcases houter with rfl | rfl
        · exact hempty
        · exact hempty
      exact Or.inl ⟨hempty, by rw [Option.some.inj hgroup]⟩
    · cases h
  · rename_i hfull
    split at h
    · rename_i hall
      exact Or.inr ⟨hfull, hall⟩
    · cases h

lemma isKeyChar_of_hextets {groups : List (List Char)} (h : groups.all ipv6Hextet = true) :
    ∀ group ∈ groups, ∀ c ∈ group, isKeyChar c = true := by
  intro group hgroup c hc
  have hhextet := List.all_eq_true.mp h group hgroup
  simp only [ipv6Hextet, runOf, Bool.and_eq_true, List.all_eq_true] at hhextet
  simp [isKeyChar, hhextet.1.2 c hc]

lemma isKeyChar_of_groups {parts : List (List Char)} (h : ipv6Groups parts = true) :
    ∀ part ∈ parts, ∀ c ∈ part, isKeyChar c = true := by
  have hside : ∀ {groups outer n}, outer = groups.head? ∨ outer = groups.getLast? →
      ipv6Side groups outer = some n → ∀ group ∈ groups, ∀ c ∈ group, isKeyChar c = true := by
    intro groups outer n houter h
    rcases side_fits houter h with ⟨-, rfl⟩ | ⟨-, hall⟩
    · intro group hgroup c hc
      rw [List.mem_singleton.mp hgroup] at hc
      cases hc
    · exact isKeyChar_of_hextets hall
  rcases groups_fit h with ⟨-, hall⟩ | ⟨i, m, n, hskip, hhi, hlo⟩
  · exact isKeyChar_of_hextets hall
  · intro part hpart
    rw [split_at_skip hskip, List.mem_append, List.mem_cons] at hpart
    rcases hpart with hpart | rfl | hpart
    · exact hside (Or.inl rfl) hhi part hpart
    · exact fun c hc => absurd hc List.not_mem_nil
    · exact hside (Or.inr rfl) hlo part hpart

/-- A text without a scope is its own address part. -/
lemma withoutScope_of_notMem {s : List Char} (h : '%' ∉ s) :
    withoutScope s = some s ∧ scopeOf s = none := by
  rw [withoutScope, scopeOf, splitAt_of_notMem h]
  exact ⟨rfl, rfl⟩

lemma dropLast_append_getLastD {l : List (List Char)} (h : l ≠ []) :
    l.dropLast ++ [l.getLastD []] = l := by
  rw [List.getLastD_eq_getLast?, List.getLast?_eq_some_getLast h, Option.getD_some,
    List.dropLast_append_getLast h]

/-- What an IPv6 address without a scope is made of. -/
structure Ipv6Fits (s : List Char) : Prop where
  dotted : ((splitAt ':' s).getLastD []).contains '.' = true →
    ipv4Address ((splitAt ':' s).getLastD []) = true ∧
      ipv6Groups ((splitAt ':' s).dropLast ++ [['0'], ['0']]) = true
  plain : ((splitAt ':' s).getLastD []).contains '.' = false → ipv6Groups (splitAt ':' s) = true

lemma ipv6_fits {s : List Char} (hscope : '%' ∉ s) (h : ipv6Address s = true) : Ipv6Fits s := by
  rw [ipv6Address, (withoutScope_of_notMem hscope).1, Bool.and_eq_true, Bool.and_eq_true] at h
  obtain ⟨-, -, h⟩ := h
  constructor
  · intro hdot
    rw [if_pos hdot, Bool.and_eq_true] at h
    exact h
  · intro hdot
    rw [if_neg (by rw [hdot]; exact Bool.false_ne_true)] at h
    exact h

lemma isKeyChar_of_ipv6 {s : List Char} (h : Ipv6Fits s) : ∀ c ∈ s, isKeyChar c = true := by
  have hne : splitAt ':' s ≠ [] := by
    rw [splitAt_eq_splitOn]
    exact List.splitOn_ne_nil ':' s
  have hparts : ∀ part ∈ splitAt ':' s, ∀ c ∈ part, isKeyChar c = true := by
    cases hdot : ((splitAt ':' s).getLastD []).contains '.' with
    | false => exact isKeyChar_of_groups (h.plain hdot)
    | true =>
      obtain ⟨hlast, hgroups⟩ := h.dotted hdot
      intro part hpart
      rw [← dropLast_append_getLastD hne, List.mem_append, List.mem_singleton] at hpart
      rcases hpart with hpart | rfl
      · exact isKeyChar_of_groups hgroups part (List.mem_append_left _ hpart)
      · exact isKeyChar_of_ipv4 hlast
  intro c hc
  rcases mem_splitAt ':' hc with rfl | ⟨part, hpart, hmem⟩
  · rfl
  · exact hparts part hpart c hmem

/-- A key is clean just when it has no scope. -/
lemma isKeyChar_iff {s : List Char} (h : ipAddress s = true) :
    (∀ c ∈ s, isKeyChar c = true) ↔ '%' ∉ s := by
  constructor
  · intro hclean hscope
    exact absurd (hclean '%' hscope) (by decide)
  · intro hscope
    rw [ipAddress, Bool.or_eq_true] at h
    rcases h with h | h
    · exact isKeyChar_of_ipv4 h
    · exact isKeyChar_of_ipv6 (ipv6_fits hscope h)

/-! ## Spellings of one address -/

/-- Both are separators, or neither is, and both are capitals, or neither is. -/
def CharAlike (c c' : Char) : Prop :=
  (c = ':' ↔ c' = ':') ∧ (c = '.' ↔ c' = '.') ∧ c.isUpper = c'.isUpper

/-- The separators and the capitals stand at the same places. -/
def LaidOutAlike (s s' : List Char) : Prop := List.Forall₂ CharAlike s s'

instance : DecidableRel CharAlike := fun _ _ => inferInstanceAs (Decidable (_ ∧ _ ∧ _))

instance : DecidableRel LaidOutAlike := fun _ _ => inferInstanceAs (Decidable (List.Forall₂ _ _ _))

/-! ### Characters -/

/-- A hexadecimal digit is read off its value and its case. -/
lemma hexDigit_eq {c c' : Char} (h : isHexDigit c = true) (h' : isHexDigit c' = true)
    (hupper : c.isUpper = c'.isUpper) (heq : hexDigitValue c = hexDigitValue c') : c = c' := by
  have hupper' := Bool.eq_iff_iff.mp hupper
  rw [isUpper_iff_toNat, isUpper_iff_toNat] at hupper'
  rw [isHexDigit_iff_toNat] at h h'
  simp only [hexDigitValue, isDigit_iff_toNat, isUpper_iff_toNat] at heq
  refine Char.toNat_inj.mp ?_
  split_ifs at heq <;> omega

/-! ### Octets -/

/-- Between 48 and 57, as a number. -/
abbrev DigitNat (c : Char) : Prop := 48 ≤ c.toNat ∧ c.toNat ≤ 57

/-- An octet has up to three digits, and no zero before others. -/
lemma octet_cases {s : List Char} (h : ipv4Octet s = true) :
    (∃ a, s = [a] ∧ DigitNat a) ∨
    (∃ a b, s = [a, b] ∧ DigitNat a ∧ DigitNat b ∧ a.toNat ≠ 48) ∨
    ∃ a b c, s = [a, b, c] ∧ DigitNat a ∧ DigitNat b ∧ DigitNat c ∧ a.toNat ≠ 48 := by
  simp only [ipv4Octet, runOf, Bool.and_eq_true, decide_eq_true_eq, List.all_eq_true,
    isDigit_iff_toNat] at h
  obtain ⟨⟨⟨⟨hne, hdigits⟩, hlength⟩, hzero⟩, -⟩ := h
  have hfirst : ∀ {a : Char} {l : List Char}, s = a :: l → l ≠ [] → a.toNat ≠ 48 := by
    rintro a l rfl hl ha
    obtain rfl : a = '0' := Char.toNat_inj.mp ha
    simp [hl] at hzero
  match s with
  | [] => cases hne
  | [a] => exact Or.inl ⟨a, rfl, hdigits a (by simp)⟩
  | [a, b] =>
    exact Or.inr (Or.inl ⟨a, b, rfl, hdigits a (by simp), hdigits b (by simp),
      hfirst rfl (List.cons_ne_nil _ _)⟩)
  | [a, b, c] =>
    exact Or.inr (Or.inr ⟨a, b, c, rfl, hdigits a (by simp), hdigits b (by simp),
      hdigits c (by simp), hfirst rfl (List.cons_ne_nil _ _)⟩)
  | _ :: _ :: _ :: _ :: l =>
    simp only [List.length_cons] at hlength
    omega

/-- The number of an octet has one text, without leading zeros. -/
lemma octet_eq {s s' : List Char} (h : ipv4Octet s = true) (h' : ipv4Octet s' = true)
    (heq : octetValue s = octetValue s') : s = s' := by
  unfold octetValue at heq
  rcases octet_cases h with
    ⟨a, rfl, ha⟩ | ⟨a, b, rfl, ha, hb, hne⟩ | ⟨a, b, c, rfl, ha, hb, hc, hne⟩
  all_goals
    rcases octet_cases h' with ⟨a', rfl, ha'⟩ | ⟨a', b', rfl, ha', hb', hne'⟩ |
      ⟨a', b', c', rfl, ha', hb', hc', hne'⟩
  all_goals
    simp only [Nat.ofDigitChars_cons, Nat.ofDigitChars_nil, List.cons.injEq, and_true,
      ← Char.toNat_inj, List.cons_ne_nil, reduceCtorEq, and_false, Char.reduceToNat] at heq ⊢
    omega

lemma octetValue_le {s : List Char} (h : ipv4Octet s = true) : octetValue s ≤ 255 := by
  simp only [ipv4Octet, Bool.and_eq_true, decide_eq_true_eq] at h
  exact h.2

/-- An IPv4 address has one text. -/
lemma ipv4_eq {s s' : List Char} (h : ipv4Address s = true) (h' : ipv4Address s' = true)
    (heq : ipv4Value s = ipv4Value s') : s = s' := by
  rw [ipv4Address, Bool.and_eq_true, beq_iff_eq, List.all_eq_true] at h h'
  refine splitAt_injective '.' ?_
  unfold ipv4Value at heq
  generalize splitAt '.' s = octets at h heq ⊢
  generalize splitAt '.' s' = octets' at h' heq ⊢
  obtain ⟨a, b, c, d, rfl⟩ := List.length_eq_four.mp h.1
  obtain ⟨a', b', c', d', rfl⟩ := List.length_eq_four.mp h'.1
  simp only [List.forall_mem_cons, List.foldl_cons, List.foldl_nil] at h h' heq
  obtain ⟨-, ha, hb, hc, hd, -⟩ := h
  obtain ⟨-, ha', hb', hc', hd', -⟩ := h'
  have hbounds := And.intro (octetValue_le hb) (And.intro (octetValue_le hc) (octetValue_le hd))
  have hbounds' :=
    And.intro (octetValue_le hb') (And.intro (octetValue_le hc') (octetValue_le hd'))
  rw [octet_eq ha ha' (by omega), octet_eq hb hb' (by omega), octet_eq hc hc' (by omega),
    octet_eq hd hd' (by omega)]

/-! ### Groups -/

lemma LaidOutAlike.nil_iff {s s' : List Char} (h : LaidOutAlike s s') : s = [] ↔ s' = [] := by
  cases h with
  | nil => exact Iff.rfl
  | cons hhead htail => exact iff_of_false (List.cons_ne_nil _ _) (List.cons_ne_nil _ _)

/-- Hexadecimal digits are read off their values and their cases. -/
lemma hexDigits_eq {s s' : List Char} (h : LaidOutAlike s s')
    (hhex : ∀ c ∈ s, isHexDigit c = true) (hhex' : ∀ c ∈ s', isHexDigit c = true)
    (heq : s.map hexDigitValue = s'.map hexDigitValue) : s = s' := by
  induction h with
  | nil => rfl
  | cons hhead htail ih =>
    obtain ⟨hc, hs⟩ := List.forall_mem_cons.mp hhex
    obtain ⟨hc', hs'⟩ := List.forall_mem_cons.mp hhex'
    rw [List.map_cons, List.map_cons, List.cons.injEq] at heq
    rw [hexDigit_eq hc hc' hhead.2.2 heq.1, ih hs hs' heq.2]

/-- Groups of one value that are laid out alike are equal. -/
lemma hextet_eq {s s' : List Char} (h : LaidOutAlike s s') (hhex : ipv6Hextet s = true)
    (hhex' : ipv6Hextet s' = true) (heq : hextetValue s = hextetValue s') : s = s' := by
  simp only [ipv6Hextet, runOf, Bool.and_eq_true, List.all_eq_true] at hhex hhex'
  have hlt : ∀ {l : List Char}, (∀ c ∈ l, isHexDigit c = true) →
      ∀ d ∈ l.reverse.map hexDigitValue, d < 16 := by
    intro l hl d hd
    obtain ⟨c, hc, rfl⟩ := List.mem_map.mp hd
    have hdigit := isHexDigit_iff_toNat.mp (hl c (List.mem_reverse.mp hc))
    simp only [hexDigitValue, isDigit_iff_toNat, isUpper_iff_toNat]
    split_ifs <;> omega
  have hlength : s.length = s'.length := h.length_eq
  have hdigits := Nat.ofDigits_inj_of_len_eq (by decide)
    (by rw [List.length_map, List.length_map, List.length_reverse, List.length_reverse, hlength])
    (hlt hhex.1.2) (hlt hhex'.1.2) heq
  rw [List.map_reverse, List.map_reverse] at hdigits
  exact hexDigits_eq h hhex.1.2 hhex'.1.2 (List.reverse_injective hdigits)

/-- Groups of one list of values. -/
lemma hextets_eq {groups groups' : List (List Char)} (h : List.Forall₂ LaidOutAlike groups groups')
    (hall : groups.all ipv6Hextet = true) (hall' : groups'.all ipv6Hextet = true)
    (heq : groups.map hextetValue = groups'.map hextetValue) : groups = groups' := by
  induction h with
  | nil => rfl
  | cons hhead htail ih =>
    rw [List.all_cons, Bool.and_eq_true] at hall hall'
    rw [List.map_cons, List.map_cons, List.cons.injEq] at heq
    rw [hextet_eq hhead hall.1 hall'.1 heq.1, ih hall.2 hall'.2 heq.2]

/-- Both texts are empty, or neither is. -/
abbrev EmptyAlike (s s' : List Char) : Prop := s = [] ↔ s' = []

lemma map_isEmpty_eq {groups groups' : List (List Char)}
    (h : List.Forall₂ EmptyAlike groups groups') :
    groups.map List.isEmpty = groups'.map List.isEmpty := by
  induction h with
  | nil => rfl
  | cons hhead htail ih =>
    rw [List.map_cons, List.map_cons, ih, Bool.eq_iff_iff.mpr
      (List.isEmpty_iff.trans (hhead.trans List.isEmpty_iff.symm))]

/-- The `::` stands at the same place. -/
lemma skip_congr {groups groups' : List (List Char)}
    (h : groups.map List.isEmpty = groups'.map List.isEmpty) :
    groups.tail.dropLast.findIdx? List.isEmpty = groups'.tail.dropLast.findIdx? List.isEmpty := by
  have hskip : ∀ l : List (List Char), l.tail.dropLast.findIdx? List.isEmpty
      = (l.map List.isEmpty).tail.dropLast.findIdx? id := by
    intro l
    rw [← List.map_tail, ← List.map_dropLast, List.findIdx?_map]
    rfl
  rw [hskip, hskip, h]

lemma eq_nil_iff_of_alike {groups groups' : List (List Char)}
    (h : List.Forall₂ LaidOutAlike groups groups') : groups = [[]] ↔ groups' = [[]] := by
  have hempty : ∀ l : List (List Char), l = [[]] ↔ l.map List.isEmpty = [true] := by
    intro l
    rw [List.map_eq_singleton_iff]
    constructor
    · rintro rfl
      exact ⟨[], rfl, rfl⟩
    · rintro ⟨group, rfl, hgroup⟩
      rw [List.isEmpty_iff.mp hgroup]
  rw [hempty, hempty, map_isEmpty_eq (h.imp fun {_ _} halike => halike.nil_iff)]

/-- Sides that are laid out alike are both empty, or both are groups. -/
lemma sides_fit {groups groups' : List (List Char)} (h : List.Forall₂ LaidOutAlike groups groups')
    {outer outer' : Option (List Char)} {m n : ℕ}
    (houter : outer = groups.head? ∧ outer' = groups'.head? ∨
      outer = groups.getLast? ∧ outer' = groups'.getLast?)
    (hside : ipv6Side groups outer = some m) (hside' : ipv6Side groups' outer' = some n) :
    (groups = [[]] ∧ groups' = [[]] ∧ outer = some [] ∧ outer' = some []) ∨
      (outer ≠ some [] ∧ outer' ≠ some [] ∧ groups.all ipv6Hextet = true ∧
        groups'.all ipv6Hextet = true) := by
  have hempty : ∀ {l : List (List Char)} {o : Option (List Char)},
      o = l.head? ∨ o = l.getLast? → l = [[]] → o = some [] := by
    rintro l o (rfl | rfl) rfl
    · rfl
    · rfl
  have houterL := houter.imp And.left And.left
  have houterR := houter.imp And.right And.right
  rcases side_fits houterL hside with ⟨hnone, hgroups⟩ | ⟨hfull, hall⟩
  · have hgroups' := (eq_nil_iff_of_alike h).mp hgroups
    exact Or.inl ⟨hgroups, hgroups', hnone, hempty houterR hgroups'⟩
  · rcases side_fits houterR hside' with ⟨-, hgroups'⟩ | ⟨hfull', hall'⟩
    · exact absurd (hempty houterL ((eq_nil_iff_of_alike h).mpr hgroups')) hfull
    · exact Or.inr ⟨hfull, hfull', hall, hall'⟩

section Sides

variable {groups groups' : List (List Char)} {outer outer' : Option (List Char)} {m n : ℕ}
variable (h : List.Forall₂ LaidOutAlike groups groups')
variable (houter : outer = groups.head? ∧ outer' = groups'.head? ∨
  outer = groups.getLast? ∧ outer' = groups'.getLast?)
variable (hside : ipv6Side groups outer = some m) (hside' : ipv6Side groups' outer' = some n)

include h houter hside hside'

lemma sides_length : (sideValues groups outer).length = (sideValues groups' outer').length := by
  rcases sides_fit h houter hside hside' with ⟨-, -, hnone, hnone'⟩ | ⟨hfull, hfull', -, -⟩
  · rw [sideValues, sideValues, if_pos hnone, if_pos hnone']
  · rw [sideValues, sideValues, if_neg hfull, if_neg hfull', List.length_map, List.length_map,
      h.length_eq]

/-- A side is read off its values. -/
lemma sides_eq (heq : sideValues groups outer = sideValues groups' outer') : groups = groups' := by
  rcases sides_fit h houter hside hside' with ⟨hnil, hnil', -, -⟩ | ⟨hfull, hfull', hall, hall'⟩
  · rw [hnil, hnil']
  · rw [sideValues, sideValues, if_neg hfull, if_neg hfull'] at heq
    exact hextets_eq h hall hall' heq

end Sides

/-- The texts of the groups are read off their values. -/
lemma texts_eq {parts parts' : List (List Char)} (h : List.Forall₂ LaidOutAlike parts parts')
    (hgroups : ipv6Groups parts = true) (hgroups' : ipv6Groups parts' = true)
    (heq : ipv6Values parts = ipv6Values parts') : parts = parts' := by
  have hskip : parts.tail.dropLast.findIdx? List.isEmpty
      = parts'.tail.dropLast.findIdx? List.isEmpty :=
    skip_congr (map_isEmpty_eq (h.imp fun {_ _} halike => halike.nil_iff))
  unfold ipv6Values at heq
  rcases groups_fit hgroups with ⟨hnone, hall⟩ | ⟨i, m, n, hsome, hhi, hlo⟩
  · rcases groups_fit hgroups' with ⟨hnone', hall'⟩ | ⟨i', m', n', hsome', hhi', hlo'⟩
    · rw [hnone, hnone'] at heq
      exact hextets_eq h hall hall' heq
    · rw [hnone, hsome'] at hskip
      cases hskip
  · rcases groups_fit hgroups' with ⟨hnone', hall'⟩ | ⟨i', m', n', hsome', hhi', hlo'⟩
    · rw [hsome, hnone'] at hskip
      cases hskip
    · rw [hsome, hsome', Option.some.injEq] at hskip
      subst hskip
      have hhigh : List.Forall₂ LaidOutAlike (parts.take (i + 1)) (parts'.take (i + 1)) :=
        List.forall₂_take _ h
      have hlow : List.Forall₂ LaidOutAlike (parts.drop (i + 2)) (parts'.drop (i + 2)) :=
        List.forall₂_drop _ h
      have hhighLength := sides_length hhigh (Or.inl ⟨rfl, rfl⟩) hhi hhi'
      have hlowLength := sides_length hlow (Or.inr ⟨rfl, rfl⟩) hlo hlo'
      rw [hsome, hsome'] at heq
      dsimp only at heq
      rw [hhighLength, hlowLength] at heq
      obtain ⟨hvalues, hlowValues⟩ := List.append_inj' heq hlowLength
      have hhighValues := List.append_cancel_right hvalues
      rw [split_at_skip hsome, split_at_skip hsome',
        sides_eq hhigh (Or.inl ⟨rfl, rfl⟩) hhi hhi' hhighValues,
        sides_eq hlow (Or.inr ⟨rfl, rfl⟩) hlo hlo' hlowValues]

/-! ### A dotted end -/

section Congruence

variable {parts parts' : List (List Char)} (hempty : parts.map List.isEmpty
  = parts'.map List.isEmpty) (hhex : parts.map ipv6Hextet = parts'.map ipv6Hextet)

include hempty hhex

lemma ipv6Side_congr : ipv6Side parts parts.head? = ipv6Side parts' parts'.head? ∧
    ipv6Side parts parts.getLast? = ipv6Side parts' parts'.getLast? := by
  have hlength : parts.length = parts'.length := by
    simpa using congrArg List.length hempty
  have hall : parts.all ipv6Hextet = parts'.all ipv6Hextet := by
    have hids := congrArg (List.all · id) hhex
    simpa [List.all_map, Function.comp_def] using hids
  have hborder : ∀ {o : Option (List Char)}, o = some [] ↔ o.map List.isEmpty = some true := by
    intro o
    cases o with
    | none => simp
    | some s => simp [List.isEmpty_iff]
  have hhead : parts.head? = some [] ↔ parts'.head? = some [] := by
    rw [hborder, hborder, ← List.head?_map, ← List.head?_map, hempty]
  have hlast : parts.getLast? = some [] ↔ parts'.getLast? = some [] := by
    rw [hborder, hborder, ← List.getLast?_map, ← List.getLast?_map, hempty]
  simp only [ipv6Side, hhead, hlast, hlength, hall, and_self]

/-- The groups are accepted for the places of the empty ones and for being groups. -/
lemma ipv6Groups_congr : ipv6Groups parts = ipv6Groups parts' := by
  have hlength : parts.length = parts'.length := by
    simpa using congrArg List.length hempty
  have hall : parts.all ipv6Hextet = parts'.all ipv6Hextet := by
    have hids := congrArg (List.all · id) hhex
    simpa [List.all_map, Function.comp_def] using hids
  have hany : ∀ n, (parts.tail.dropLast.drop n).any List.isEmpty
      = (parts'.tail.dropLast.drop n).any List.isEmpty := by
    intro n
    have hids := congrArg (fun l : List Bool => (l.tail.dropLast.drop n).any id) hempty
    simpa [List.any_map, Function.comp_def, ← List.map_tail, ← List.map_dropLast,
      ← List.map_drop] using hids
  have hhi : ∀ n, ipv6Side (parts.take n) (parts.take n).head?
      = ipv6Side (parts'.take n) (parts'.take n).head? := fun n =>
    (ipv6Side_congr (by rw [List.map_take, List.map_take, hempty])
      (by rw [List.map_take, List.map_take, hhex])).1
  have hlo : ∀ n, ipv6Side (parts.drop n) (parts.drop n).getLast?
      = ipv6Side (parts'.drop n) (parts'.drop n).getLast? := fun n =>
    (ipv6Side_congr (by rw [List.map_drop, List.map_drop, hempty])
      (by rw [List.map_drop, List.map_drop, hhex])).2
  simp only [ipv6Groups, hlength, hall, hany, hhi, hlo, skip_congr hempty]

end Congruence

lemma ipv4Value_lt {s : List Char} (h : ipv4Address s = true) : ipv4Value s < 4294967296 := by
  rw [ipv4Address, Bool.and_eq_true, beq_iff_eq, List.all_eq_true] at h
  unfold ipv4Value
  generalize splitAt '.' s = octets at h ⊢
  obtain ⟨a, b, c, d, rfl⟩ := List.length_eq_four.mp h.1
  simp only [List.forall_mem_cons, List.foldl_cons, List.foldl_nil] at h ⊢
  obtain ⟨-, ha, hb, hc, hd, -⟩ := h
  have hbounds := And.intro (And.intro (octetValue_le ha) (octetValue_le hb))
    (And.intro (octetValue_le hc) (octetValue_le hd))
  omega

lemma hexText_alike (n n' : ℕ) : LaidOutAlike (hexText 4 n) (hexText 4 n') := by
  have hdigits : ∀ d < 16, ∀ d' < 16, CharAlike (Nat.digitChar d) (Nat.digitChar d') := by
    decide
  unfold LaidOutAlike hexText
  rw [List.forall₂_map_left_iff, List.forall₂_map_right_iff, List.forall₂_same]
  exact fun i _ => hdigits _ (Nat.mod_lt _ (by decide)) _ (Nat.mod_lt _ (by decide))

lemma ipv6Hextet_hexText (n : ℕ) : ipv6Hextet (hexText 4 n) = true := by
  have hdigits : ∀ d < 16, isHexDigit (Nat.digitChar d) = true := by decide
  simp only [ipv6Hextet, runOf, Bool.and_eq_true, decide_eq_true_eq, List.all_eq_true,
    length_hexText, le_refl, and_true]
  constructor
  · rfl
  · intro c hc
    obtain ⟨i, -, rfl⟩ := List.mem_map.mp hc
    exact hdigits _ (Nat.mod_lt _ (by decide))

lemma ipv6Groups_dotted {parts : List (List Char)} (last : List Char)
    (h : ipv6Groups (parts ++ [['0'], ['0']]) = true) :
    ipv6Groups (parts ++ dottedTexts last) = true := by
  rw [← h]
  refine ipv6Groups_congr ?_ ?_
  · rw [List.map_append, List.map_append]
    rfl
  · rw [List.map_append, List.map_append, dottedTexts, List.map_cons, List.map_singleton,
      ipv6Hextet_hexText, ipv6Hextet_hexText]
    rfl

/-- The dotted end is read off its groups. -/
lemma dotted_eq {last last' : List Char} (h : ipv4Address last = true)
    (h' : ipv4Address last' = true) (heq : dottedTexts last = dottedTexts last') :
    last = last' := by
  have hlt := ipv4Value_lt h
  have hlt' := ipv4Value_lt h'
  obtain ⟨hhigh, hrest⟩ := List.cons.inj heq
  have hhigh := hexText_inj hhigh
  have hlow := hexText_inj (List.cons.inj hrest).1
  refine ipv4_eq h h' ?_
  omega

lemma contains_dot_of_alike {s s' : List Char} (h : LaidOutAlike s s') :
    s.contains '.' = s'.contains '.' := by
  rw [Bool.eq_iff_iff, List.contains_iff_mem, List.contains_iff_mem]
  induction h with
  | nil => exact Iff.rfl
  | cons hhead htail ih =>
    rw [List.mem_cons, List.mem_cons, ih, eq_comm, hhead.2.1, eq_comm]

lemma forall₂_last {R : List Char → List Char → Prop} {l l' : List (List Char)}
    (h : List.Forall₂ R l l') (hnil : R [] []) :
    List.Forall₂ R l.dropLast l'.dropLast ∧ R (l.getLastD []) (l'.getLastD []) := by
  induction h with
  | nil => exact ⟨.nil, hnil⟩
  | cons hhead htail ih =>
    cases htail with
    | nil => exact ⟨.nil, hhead⟩
    | cons hnext hrest =>
      rw [List.dropLast_cons_cons, List.dropLast_cons_cons]
      exact ⟨.cons hhead ih.1, ih.2⟩

/-- IPv6 addresses of one value that are laid out alike are one text. -/
lemma ipv6_eq {s s' : List Char} (h : LaidOutAlike s s') (hfits : Ipv6Fits s)
    (hfits' : Ipv6Fits s') (heq : ipv6Values (ipv6Texts s) = ipv6Values (ipv6Texts s')) :
    s = s' := by
  have hparts : List.Forall₂ LaidOutAlike (splitAt ':' s) (splitAt ':' s') :=
    splitAt_forall₂ (fun halike => halike.1) h
  have hne : ∀ t, splitAt ':' t ≠ [] := fun t => by
    rw [splitAt_eq_splitOn]
    exact List.splitOn_ne_nil ':' t
  refine splitAt_injective ':' ?_
  obtain ⟨hinit, hlast⟩ := forall₂_last hparts .nil
  have hdots := contains_dot_of_alike hlast
  cases hdot : ((splitAt ':' s).getLastD []).contains '.' with
  | false =>
    have hdot' := hdots.symm.trans hdot
    rw [ipv6Texts, ipv6Texts, hdot, hdot'] at heq
    exact texts_eq hparts (hfits.plain hdot) (hfits'.plain hdot') heq
  | true =>
    have hdot' := hdots.symm.trans hdot
    obtain ⟨haddress, hgroups⟩ := hfits.dotted hdot
    obtain ⟨haddress', hgroups'⟩ := hfits'.dotted hdot'
    have htexts : List.Forall₂ LaidOutAlike
        ((splitAt ':' s).dropLast ++ dottedTexts ((splitAt ':' s).getLastD []))
        ((splitAt ':' s').dropLast ++ dottedTexts ((splitAt ':' s').getLastD [])) :=
      List.rel_append hinit (.cons (hexText_alike _ _) (.cons (hexText_alike _ _) .nil))
    rw [ipv6Texts, ipv6Texts, hdot, hdot'] at heq
    have hsame := texts_eq htexts (ipv6Groups_dotted _ hgroups) (ipv6Groups_dotted _ hgroups') heq
    obtain ⟨hfront, hend⟩ := List.append_inj' hsame rfl
    rw [← dropLast_append_getLastD (hne s), ← dropLast_append_getLastD (hne s'), hfront,
      dotted_eq haddress haddress' hend]

/-- A text that is accepted and has no scope has no sign of one. -/
lemma notMem_of_scopeOf {s : List Char} (h : withoutScope s ≠ none) (hscope : scopeOf s = none) :
    '%' ∉ s := by
  intro hmem
  obtain ⟨before, after, rfl⟩ := List.append_of_mem hmem
  have hpieces :
      splitAt '%' (before ++ '%' :: after) = splitAt '%' before ++ splitAt '%' after := by
    rw [splitAt_eq_splitOn, List.splitOn_append_cons_self, splitAt_eq_splitOn, splitAt_eq_splitOn]
  unfold withoutScope at h
  unfold scopeOf at hscope
  rw [hpieces] at h hscope
  split at h
  · rename_i address hone
    have hlength := congrArg List.length hone
    have hbefore : splitAt '%' before ≠ [] := by
      rw [splitAt_eq_splitOn]
      exact List.splitOn_ne_nil _ _
    have hafter : splitAt '%' after ≠ [] := by
      rw [splitAt_eq_splitOn]
      exact List.splitOn_ne_nil _ _
    have hpos := List.length_pos_of_ne_nil hbefore
    have hpos' := List.length_pos_of_ne_nil hafter
    rw [List.length_append, List.length_singleton] at hlength
    omega
  · rename_i address scope htwo
    rw [htwo] at hscope
    cases hscope
  · exact h rfl

/-- Texts of one address that are laid out alike are equal, if the address has no scope. -/
lemma address_eq {s s' : List Char} (hvalid : ipAddress s = true) (hvalid' : ipAddress s' = true)
    (hscope : '%' ∉ s) (h : LaidOutAlike s s') (heq : addressOf s = addressOf s') : s = s' := by
  rw [ipAddress, Bool.or_eq_true] at hvalid hvalid'
  unfold addressOf at heq
  by_cases h4 : ipv4Address s = true
  · rw [if_pos h4] at heq
    by_cases h4' : ipv4Address s' = true
    · rw [if_pos h4'] at heq
      exact ipv4_eq h4 h4' (IpAddress.v4.inj heq)
    · rw [if_neg h4'] at heq
      cases heq
  · rw [if_neg h4] at heq
    by_cases h4' : ipv4Address s' = true
    · rw [if_pos h4'] at heq
      cases heq
    · rw [if_neg h4'] at heq
      obtain ⟨hgroups, hscopes⟩ := IpAddress.v6.inj heq
      have h6 := hvalid.resolve_left h4
      have h6' := hvalid'.resolve_left h4'
      have hsome : withoutScope s' ≠ none := by
        intro hnone
        rw [ipv6Address, hnone, Bool.and_false] at h6'
        cases h6'
      obtain ⟨haddress, hnone⟩ := withoutScope_of_notMem hscope
      have hscope' := notMem_of_scopeOf hsome (hscopes.symm.trans hnone)
      rw [haddress, (withoutScope_of_notMem hscope').1] at hgroups
      exact ipv6_eq h (ipv6_fits hscope h6) (ipv6_fits hscope' h6') hgroups

/-! ## The keys -/

/-- The key of a header value is clean, and it is the key of another value just when both denote
one address. -/
def Canonical (a b : Option (List Char)) : Prop :=
  ∀ key, validIp a = some key → (∀ c ∈ key, isKeyChar c = true) ∧
    ∀ key', validIp b = some key' → (key = key' ↔ addressOf key = addressOf key')

/-- The key has no scope, and the key of another value that denotes the same address has its
separators and its capitals at the same places. -/
def SpelledAlike (a b : Option (List Char)) : Prop :=
  ∀ key, validIp a = some key → '%' ∉ key ∧
    ∀ key', validIp b = some key' → addressOf key = addressOf key' → LaidOutAlike key key'

lemma ipAddress_of_validIp {a : Option (List Char)} {key : List Char} (h : validIp a = some key) :
    ipAddress key = true := by
  cases a with
  | none => cases h
  | some value =>
    simp only [validIp] at h
    split_ifs at h with _ _ hvalid
    rw [← Option.some.inj h]
    exact hvalid

lemma LaidOutAlike.refl (s : List Char) : LaidOutAlike s s :=
  List.forall₂_same.mpr fun _ _ => ⟨Iff.rfl, Iff.rfl, rfl⟩

/-- **Keys are canonical if they have no scope and one address is spelled in one way**, and in no
other case; IPv4 addresses always are. -/
theorem canonical_iff (a b : Option (List Char)) :
    (Canonical a b ↔ SpelledAlike a b) ∧
    ∀ key, validIp a = some key → ipv4Address key = true → Canonical a b := by
  have hiff : Canonical a b ↔ SpelledAlike a b := by
    constructor
    · intro h key hkey
      obtain ⟨hclean, hone⟩ := h key hkey
      refine ⟨(isKeyChar_iff (ipAddress_of_validIp hkey)).mp hclean, fun key' hkey' heq => ?_⟩
      rw [← (hone key' hkey').mpr heq]
      exact .refl key
    · intro h key hkey
      obtain ⟨hscope, halike⟩ := h key hkey
      have hvalid := ipAddress_of_validIp hkey
      refine ⟨(isKeyChar_iff hvalid).mpr hscope, fun key' hkey' => ⟨congrArg addressOf, ?_⟩⟩
      exact fun heq =>
        address_eq hvalid (ipAddress_of_validIp hkey') hscope (halike key' hkey' heq) heq
  refine ⟨hiff, fun key hkey h4 => hiff.mpr fun key' hkey' => ?_⟩
  obtain rfl := Option.some.inj (hkey'.symm.trans hkey)
  have hscope : '%' ∉ key' := (isKeyChar_iff (ipAddress_of_validIp hkey)).mp (isKeyChar_of_ipv4 h4)
  refine ⟨hscope, fun other _ heq => ?_⟩
  unfold addressOf at heq
  rw [if_pos h4] at heq
  by_cases h4' : ipv4Address other = true
  · rw [if_pos h4'] at heq
    rw [ipv4_eq h4 h4' (IpAddress.v4.inj heq)]
    exact .refl other
  · rw [if_neg h4'] at heq
    cases heq

/-! ### Spellings -/

theorem canonical_iff_padded :
    Canonical (some " 203.0.113.7 ".toList) (some "203.0.113.7".toList) ∧
    Canonical (some "2001:DB8::1 ".toList) (some "2001:DB8::1".toList) := by
  constructor
  · exact (canonical_iff _ _).2 "203.0.113.7".toList (by decide) (by decide)
  · refine (canonical_iff _ _).1.mpr fun key hkey => ?_
    have hsame : validIp (some "2001:DB8::1 ".toList) = some "2001:DB8::1".toList := by decide
    obtain rfl := Option.some.inj (hkey.symm.trans hsame)
    refine ⟨by decide, fun key' hkey' _ => ?_⟩
    have hother : validIp (some "2001:DB8::1".toList) = some "2001:DB8::1".toList := by decide
    rw [Option.some.inj (hkey'.symm.trans hother)]
    exact .refl _

/-- A line break in a scope, and the loopback address in two spellings. -/
theorem canonical_fails :
    ¬ Canonical (some "fe80::1%\nFORGED".toList) none ∧
    ¬ Canonical (some "::1".toList) (some "0:0:0:0:0:0:0:1".toList) := by
  constructor
  · intro h
    have hclean := (h _ rfl).1 '\n' (by decide)
    exact absurd hclean (by decide)
  · intro h
    have hsame := ((h _ rfl).2 _ rfl).mpr (by decide)
    exact absurd hsame (by decide)

end Sleuthgraph
