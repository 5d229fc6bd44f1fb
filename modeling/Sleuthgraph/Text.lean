import Mathlib.Data.Bool.AllAny
import Sleuthgraph.Python

/-!
# Python text

The methods of `str` and the patterns and encodings of the standard library that the plugins
use on labels and answers. A text is a list of characters here.
-/

namespace Sleuthgraph

/-- The tables of the interpreter's Unicode version: `str.lower`, which may look around a
character, and the decimal digits `\d` matches. -/
structure Unicode where
  lower : List Char → List Char
  isDecimal : Char → Bool

/-- The tables of ASCII. -/
def asciiTables : Unicode := ⟨List.map Char.toLower, Char.isDigit⟩

/-! ## Characters -/

lemma isDigit_iff_toNat {c : Char} : c.isDigit = true ↔ 48 ≤ c.toNat ∧ c.toNat ≤ 57 := by
  simp [Char.isDigit, UInt32.le_iff_toNat_le, ← Char.toNat_val]

lemma isUpper_iff_toNat {c : Char} : c.isUpper = true ↔ 65 ≤ c.toNat ∧ c.toNat ≤ 90 := by
  show decide (c.val ≥ 'A'.val ∧ c.val ≤ 'Z'.val) = true ↔ _
  simp [UInt32.le_iff_toNat_le, ← Char.toNat_val]

lemma isLower_iff_toNat {c : Char} : c.isLower = true ↔ 97 ≤ c.toNat ∧ c.toNat ≤ 122 := by
  show (decide (c.val ≥ 'a'.val) && decide (c.val ≤ 'z'.val)) = true ↔ _
  simp [UInt32.le_iff_toNat_le, ← Char.toNat_val]

lemma isAlpha_iff {c : Char} : c.isAlpha = true ↔ c.isUpper = true ∨ c.isLower = true :=
  Bool.or_eq_true_iff

/-! ## Whitespace and lines -/

/-- `c.isspace()` -/
def isPySpace (c : Char) : Bool :=
  let n := c.toNat
  (0x09 ≤ n && n ≤ 0x0d) || (0x1c ≤ n && n ≤ 0x20) || n = 0x85 || n = 0xa0 || n = 0x1680
    || (0x2000 ≤ n && n ≤ 0x200a) || n = 0x2028 || n = 0x2029 || n = 0x202f || n = 0x205f
    || n = 0x3000

/-- `s.rstrip(chars)`, the characters to strip as a test. -/
def rstrip (p : Char → Bool) (s : List Char) : List Char := (s.reverse.dropWhile p).reverse

/-- `s.strip()` -/
def strip (s : List Char) : List Char := rstrip isPySpace (s.dropWhile isPySpace)

lemma length_rstrip_le (p : Char → Bool) (s : List Char) : (rstrip p s).length ≤ s.length := by
  have hdrop := (List.dropWhile_sublist (l := s.reverse) p).length_le
  rw [List.length_reverse] at hdrop
  rwa [rstrip, List.length_reverse]

lemma length_strip_le (s : List Char) : (strip s).length ≤ s.length :=
  Nat.le_trans (length_rstrip_le _ _) (List.dropWhile_sublist _).length_le

/-- A line boundary of `splitlines`. -/
def isLineBreak (c : Char) : Bool :=
  let n := c.toNat
  (0x0a ≤ n && n ≤ 0x0d) || (0x1c ≤ n && n ≤ 0x1e) || n = 0x85 || n = 0x2028 || n = 0x2029

/-- `splitlines`, with what is already read of the current line, backwards. -/
def splitLinesFrom : List Char → List Char → List (List Char)
  | [], [] => []
  | line, [] => [line.reverse]
  -- a CR and an LF are one boundary
  | line, '\r' :: '\n' :: s => line.reverse :: splitLinesFrom [] s
  | line, c :: s =>
    if isLineBreak c then line.reverse :: splitLinesFrom [] s else splitLinesFrom (c :: line) s

/-- `s.splitlines()` -/
def splitLines (s : List Char) : List (List Char) := splitLinesFrom [] s

/-- The pieces of `s` between the separators. -/
def splitAt (sep : Char) : List Char → List (List Char)
  | [] => [[]]
  | c :: s =>
    if c = sep then [] :: splitAt sep s
    else match splitAt sep s with
      | piece :: pieces => (c :: piece) :: pieces
      | [] => [[c]]

/-! ## Splitting -/

lemma splitAt_eq_splitOn (sep : Char) (s : List Char) : splitAt sep s = s.splitOn sep := by
  induction s with
  | nil => rfl
  | cons c s ih =>
    rw [splitAt, ih, List.splitOn_cons_eq_if_modifyHead]
    by_cases hc : c = sep
    · rw [if_pos hc, if_pos (beq_iff_eq.mpr hc)]
    · rw [if_neg hc, if_neg (by simpa using hc)]
      cases hpieces : s.splitOn sep with
      | nil => exact absurd hpieces (List.splitOn_ne_nil sep s)
      | cons piece pieces => rfl

lemma splitAt_ne_nil (sep : Char) (s : List Char) : splitAt sep s ≠ [] := by
  rw [splitAt_eq_splitOn]
  exact List.splitOn_ne_nil sep s

/-- The pieces of two texts around a separator. -/
lemma splitAt_append_cons (sep : Char) (s s' : List Char) :
    splitAt sep (s ++ sep :: s') = splitAt sep s ++ splitAt sep s' := by
  induction s with
  | nil =>
    show splitAt sep (sep :: s') = [] :: splitAt sep s'
    rw [splitAt, if_pos rfl]
  | cons c s ih =>
    rw [List.cons_append, splitAt, splitAt, ih]
    split
    · rfl
    · cases hpieces : splitAt sep s with
      | nil => exact absurd hpieces (splitAt_ne_nil sep s)
      | cons piece pieces => rfl

/-- A text that ends with the separator has an empty last piece. -/
lemma splitAt_append_sep (sep : Char) (s : List Char) :
    splitAt sep (s ++ [sep]) = splitAt sep s ++ [[]] := splitAt_append_cons sep s []

/-- A text is read off its pieces. -/
lemma splitAt_injective (sep : Char) : Function.Injective (splitAt sep) := by
  intro s s' h
  rw [splitAt_eq_splitOn, splitAt_eq_splitOn] at h
  rw [← @List.intercalate_splitOn _ s _ _ sep, h, List.intercalate_splitOn]

lemma splitAt_of_notMem {sep : Char} {s : List Char} (h : sep ∉ s) : splitAt sep s = [s] := by
  rw [splitAt_eq_splitOn, List.splitOn_eq_singleton h]

/-- A character is the separator, or stands in a piece. -/
lemma mem_splitAt (sep : Char) {c : Char} {s : List Char} (hc : c ∈ s) :
    c = sep ∨ ∃ piece ∈ splitAt sep s, c ∈ piece := by
  induction s with
  | nil => cases hc
  | cons d s ih =>
    rw [splitAt]
    by_cases hd : d = sep
    · rw [if_pos hd]
      rcases List.mem_cons.mp hc with rfl | hc
      · exact Or.inl hd
      · exact (ih hc).imp_right fun ⟨piece, hpiece, hmem⟩ =>
          ⟨piece, List.mem_cons_of_mem _ hpiece, hmem⟩
    · rw [if_neg hd]
      cases hpieces : splitAt sep s with
      | nil => exact absurd hpieces (splitAt_ne_nil sep s)
      | cons first pieces =>
        rw [hpieces] at ih
        rcases List.mem_cons.mp hc with rfl | hc
        · exact Or.inr ⟨_, List.mem_cons_self, List.mem_cons_self⟩
        · refine (ih hc).imp_right fun ⟨piece, hpiece, hmem⟩ => ?_
          rcases List.mem_cons.mp hpiece with rfl | hpiece
          · exact ⟨_, List.mem_cons_self, List.mem_cons_of_mem _ hmem⟩
          · exact ⟨piece, List.mem_cons_of_mem _ hpiece, hmem⟩

/-- What stands in a piece is of the text, and no separator. -/
lemma of_mem_splitAt {sep c : Char} {s piece : List Char} (hpiece : piece ∈ splitAt sep s)
    (hc : c ∈ piece) : c ∈ s ∧ c ≠ sep := by
  induction s generalizing piece with
  | nil =>
    obtain rfl := List.mem_singleton.mp hpiece
    cases hc
  | cons d s ih =>
    rw [splitAt] at hpiece
    split at hpiece
    · rcases List.mem_cons.mp hpiece with rfl | hpiece
      · cases hc
      · exact (ih hpiece hc).imp_left (List.mem_cons_of_mem _)
    · rename_i hd
      split at hpiece
      · rename_i first pieces hpieces
        rw [hpieces] at ih
        rcases List.mem_cons.mp hpiece with rfl | hpiece
        · rcases List.mem_cons.mp hc with rfl | hc
          · exact ⟨List.mem_cons_self, hd⟩
          · exact (ih List.mem_cons_self hc).imp_left (List.mem_cons_of_mem _)
        · exact (ih (List.mem_cons_of_mem _ hpiece) hc).imp_left (List.mem_cons_of_mem _)
      · obtain rfl := List.mem_singleton.mp hpiece
        obtain rfl := List.mem_singleton.mp hc
        exact ⟨List.mem_cons_self, hd⟩

/-- Texts that are alike, separators included, have pieces that are alike. -/
lemma splitAt_forall₂ {R : Char → Char → Prop} {sep : Char}
    (hsep : ∀ {c c'}, R c c' → (c = sep ↔ c' = sep)) {s s' : List Char}
    (h : List.Forall₂ R s s') :
    List.Forall₂ (List.Forall₂ R) (splitAt sep s) (splitAt sep s') := by
  induction h with
  | nil => exact .cons .nil .nil
  | cons hhead htail ih =>
    rename_i c c' s s'
    rw [splitAt, splitAt]
    by_cases hc : c = sep
    · rw [if_pos hc, if_pos ((hsep hhead).mp hc)]
      exact .cons .nil ih
    · rw [if_neg hc, if_neg fun hc' => hc ((hsep hhead).mpr hc')]
      generalize splitAt sep s = pieces at ih ⊢
      generalize splitAt sep s' = pieces' at ih ⊢
      cases ih with
      | nil => exact .cons (.cons hhead .nil) .nil
      | cons hpiece hpieces => exact .cons (.cons hhead hpiece) hpieces

/-! ## Patterns -/

/-- `^...$`: the end is the end of the text, or just before a final newline. -/
def dollar (p : List Char → Bool) (s : List Char) : Bool :=
  p s || (s.getLast? == some '\n' && p s.dropLast)

lemma dollar_iff {p : List Char → Bool} {s : List Char} :
    dollar p s = true ↔ p s = true ∨ ∃ init, s = init ++ ['\n'] ∧ p init = true := by
  rw [dollar, Bool.or_eq_true, Bool.and_eq_true, beq_iff_eq]
  refine or_congr_right ⟨?_, ?_⟩
  · rintro ⟨hlast, hinit⟩
    obtain ⟨init, rfl⟩ := List.getLast?_eq_some_iff.mp hlast
    rw [List.dropLast_concat] at hinit
    exact ⟨init, rfl, hinit⟩
  · rintro ⟨init, rfl, hinit⟩
    rw [List.getLast?_concat, List.dropLast_concat]
    exact ⟨rfl, hinit⟩

/-- `[...]+` -/
def runOf (p : Char → Bool) (s : List Char) : Bool := !s.isEmpty && s.all p

/-- `[A-Za-z0-9-]{1,63}` without a hyphen at either end. -/
def domainLabel (s : List Char) : Bool :=
  runOf (fun c => c.isAlphanum || c = '-') s && decide (s.length ≤ 63)
    && s.head? != some '-' && s.getLast? != some '-'

/-- `_DOMAIN_RE.match(s)` -/
def domainRe : List Char → Bool := dollar fun s =>
  decide (s.length ≤ 253) && decide (2 ≤ (splitAt '.' s).length) && (splitAt '.' s).all domainLabel

/-- A hexadecimal digit. -/
def isHexDigit (c : Char) : Bool :=
  c.isDigit || ('a' ≤ c && c ≤ 'f') || ('A' ≤ c && c ≤ 'F')

lemma isHexDigit_iff_toNat {c : Char} : isHexDigit c = true ↔
    (48 ≤ c.toNat ∧ c.toNat ≤ 57) ∨ (97 ≤ c.toNat ∧ c.toNat ≤ 102) ∨
      (65 ≤ c.toNat ∧ c.toNat ≤ 70) := by
  rw [isHexDigit, Bool.or_eq_true, Bool.or_eq_true, isDigit_iff_toNat, or_assoc]
  simp [Char.le_def, UInt32.le_iff_toNat_le, ← Char.toNat_val]

/-- `_IPV4_RE.match(s)` -/
def ipv4Re (u : Unicode) : List Char → Bool := dollar fun s =>
  (splitAt '.' s).length == 4
    && (splitAt '.' s).all fun group => runOf u.isDecimal group && decide (group.length ≤ 3)

/-- `_IPV6_RE.match(s)` -/
def ipv6Re : List Char → Bool := dollar (runOf fun c => isHexDigit c || c = ':')

/-- `_IP_INPUT_RE.match(s)` -/
def ipInputRe : List Char → Bool := dollar (runOf fun c => isHexDigit c || c = '.' || c = ':')

/-- `[A-Za-z0-9.-]+\.[A-Za-z]{2,}`: the dot is the last one. -/
def emailDomain (s : List Char) : Bool :=
  let tld := (s.reverse.takeWhile (· ≠ '.')).reverse
  let before := (s.reverse.dropWhile (· ≠ '.')).reverse
  before.getLast? == some '.' && runOf (fun c => c.isAlphanum || c = '.' || c = '-') before.dropLast
    && tld.all Char.isAlpha && decide (2 ≤ tld.length)

/-- `_EMAIL_RE.match(s)`: the local part has no `@`, nor has the domain. -/
def emailRe : List Char → Bool := dollar fun s =>
  let isLocal (c : Char) : Bool :=
    c.isAlphanum || c = '.' || c = '_' || c = '%' || c = '+' || c = '-'
  runOf isLocal (s.takeWhile (· ≠ '@'))
    && match s.dropWhile (· ≠ '@') with
      | _ :: domain => emailDomain domain
      | [] => false

/-! ## Encodings -/

/-- `s.encode()` -/
def utf8 (s : List Char) : List UInt8 := s.flatMap String.utf8EncodeChar

/-- A digit of a percent escape. -/
def upperHexDigit (n : ℕ) : Char := (Nat.digitChar n).toUpper

/-- `%XX` -/
def percentByte (b : UInt8) : List Char :=
  ['%', upperHexDigit (b.toNat / 16), upperHexDigit (b.toNat % 16)]

/-- A character that `quote` never escapes. -/
def isUnreserved (c : Char) : Bool :=
  c.isAlphanum || c = '_' || c = '.' || c = '-' || c = '~'

/-- `quote(s, safe="")` -/
def quote (s : List Char) : List Char :=
  s.flatMap fun c => if isUnreserved c then [c] else (utf8 [c]).flatMap percentByte

/-- `quote_plus(s)` -/
def quotePlus (s : List Char) : List Char :=
  s.flatMap fun c => if c = ' ' then ['+'] else quote [c]

/-- `urlencode(params)` -/
def urlencode (params : List (List Char × List Char)) : List Char :=
  ['&'].intercalate (params.map fun (k, v) => quotePlus k ++ '=' :: quotePlus v)

/-- The alphabet of URL-safe base64. -/
def base64Digit (n : ℕ) : Char :=
  if n < 26 then Char.ofNat (0x41 + n)
  else if n < 52 then Char.ofNat (0x61 + (n - 26))
  else if n < 62 then Char.ofNat (0x30 + (n - 52))
  else if n = 62 then '-'
  else '_'

/-- `base64.urlsafe_b64encode(b).rstrip(b"=").decode()` -/
def base64Url : List UInt8 → List Char
  | a :: b :: c :: bytes =>
    let n := a.toNat * 65536 + b.toNat * 256 + c.toNat
    base64Digit (n / 262144) :: base64Digit (n / 4096 % 64) :: base64Digit (n / 64 % 64)
      :: base64Digit (n % 64) :: base64Url bytes
  | [a, b] =>
    let n := a.toNat * 1024 + b.toNat * 4
    [base64Digit (n / 4096), base64Digit (n / 64 % 64), base64Digit (n % 64)]
  | [a] => [base64Digit (a.toNat / 4), base64Digit (a.toNat % 4 * 16)]
  | [] => []

/-! ## Comparison -/

section Comparison

variable (py : Interp)

mutual

/-- `a < b`; values of different kinds, and values without an order, raise `TypeError`. A
comparison with `nan` is false. -/
def PyVal.lt : PyVal → PyVal → Except Exc Bool
  | .str a, b => match b with
    | .str b => .ok (a < b)
    | _ => .error Exc.typeError
  | .list xs, b => match b with
    | .list ys => ltItems xs ys
    | _ => .error Exc.typeError
  | .none, _ => .error Exc.typeError
  | .dict _, _ => .error Exc.typeError
  | .obj _, _ => .error Exc.typeError
  | a, b => match b with
    | .bool _ | .int _ | .float _ => match a.number py, b.number py with
      | some x, some y => .ok (x < y)
      | _, _ => .ok false
    | _ => .error Exc.typeError

/-- `<` of two lists: that of their first items that differ, else that of their lengths. -/
def ltItems : List PyVal → List PyVal → Except Exc Bool
  | [], ys => .ok (!ys.isEmpty)
  | x :: xs, ys => match ys with
    | [] => .ok false
    | y :: ys => if x.eq py y then ltItems xs ys else x.lt y

end

end Comparison

/-- `for item in value`: the items of a list, the keys of a dict, the characters of a text. -/
def pyIter : PyVal → Except Exc (List PyVal)
  | .list items => .ok items
  | .dict entries => .ok (entries.map fun (key, _) => .str key)
  | .str s => .ok (s.toList.map fun c => .str (String.ofList [c]))
  | _ => .error Exc.typeError

/-- `value.get(key, default)` -/
def pyGet (value : PyVal) (key : String) (default : PyVal) : Except Exc PyVal :=
  match value with
  | .dict entries => .ok ((entries.lookup key).getD default)
  | _ => .error Exc.attributeError

end Sleuthgraph
