import Mathlib.Data.Int.Notation
import Mathlib.Tactic.Common

/-!
# Readers for literal tokens

A reader consumes a token from the front of a text and leaves the rest. This file has the
tokens every literal grammar is made of: fixed words, runs of characters of one class,
decimal numbers and quoted strings with a one-character escape. Each comes with the lemma
that reads a *written* token back and leaves whatever text follows it untouched.
-/

namespace Readers

/-- A reader takes a token off the front of a text, or fails. -/
abbrev Reader (α : Type) := List Char → Option (α × List Char)

/-! ## Fixed words -/

/-- Consume the word `w`. -/
def expect : List Char → List Char → Option (List Char)
  | [], s => some s
  | _ :: _, [] => none
  | c :: w, d :: s => if c = d then expect w s else none

@[simp] theorem expect_append (w rest : List Char) : expect w (w ++ rest) = some rest := by
  induction w with
  | nil => rfl
  | cons c w ih => rw [List.cons_append, expect, if_pos rfl, ih]

/-! ## Runs of characters -/

/-- The longest prefix of `s` whose characters all satisfy `p`, with what follows it. -/
def readRun (p : Char → Bool) (s : List Char) : List Char × List Char :=
  (s.takeWhile p, s.dropWhile p)

/-- `rest` does not continue a run of `p` characters. -/
def Stops (p : Char → Bool) (rest : List Char) : Prop := ∀ c ∈ rest.head?, p c = false

theorem stops_cons {p : Char → Bool} {c : Char} {rest : List Char} (h : p c = false) :
    Stops p (c :: rest) := by
  intro d hd
  rw [List.head?_cons, Option.mem_some_iff] at hd
  rw [← hd]
  exact h

/-- A run followed by a text that does not continue it is read whole. -/
theorem readRun_append {p : Char → Bool} {w rest : List Char} (hw : ∀ c ∈ w, p c = true)
    (hrest : Stops p rest) : readRun p (w ++ rest) = (w, rest) := by
  have htake : rest.takeWhile p = [] := by
    cases rest with
    | nil => rfl
    | cons c rest => rw [List.takeWhile_cons_of_neg (by simp [hrest c (by simp)])]
  have hdrop : rest.dropWhile p = rest := by
    cases rest with
    | nil => rfl
    | cons c rest => rw [List.dropWhile_cons_of_neg (by simp [hrest c (by simp)])]
  rw [readRun, List.takeWhile_append_of_pos hw, List.dropWhile_append_of_pos hw, htake, hdrop,
    List.append_nil]

/-! ## Decimal numbers -/

/-- A non-empty run of decimal digits, read as a number. -/
def readNat : Reader ℕ := fun s =>
  match readRun Char.isDigit s with
  | ([], _) => none
  | (ds, rest) => some (Nat.ofDigitChars 10 ds 0, rest)

theorem readNat_toDigits (n : ℕ) {rest : List Char} (hrest : Stops Char.isDigit rest) :
    readNat (Nat.toDigits 10 n ++ rest) = some (n, rest) := by
  have hdigits : ∀ c ∈ Nat.toDigits 10 n, c.isDigit = true :=
    fun c hc => Nat.isDigit_of_mem_toDigits (by decide) (by decide) hc
  rw [readNat, readRun_append hdigits hrest]
  cases hd : Nat.toDigits 10 n with
  | nil => exact absurd hd Nat.toDigits_ne_nil
  | cons d ds => simp only [← hd, Nat.ofDigitChars_ten_toDigits]

/-- An optional minus sign and a number. -/
def readInt : Reader ℤ
  | '-' :: s => (readNat s).map fun (n, rest) => (-(n : ℤ), rest)
  | s => (readNat s).map fun (n, rest) => ((n : ℤ), rest)

/-- The decimal numeral of an integer. -/
def writeInt (i : ℤ) : List Char :=
  if i < 0 then '-' :: Nat.toDigits 10 i.natAbs else Nat.toDigits 10 i.natAbs

/-- The first character of a decimal numeral is a digit. -/
theorem exists_toDigits_eq_cons (n : ℕ) :
    ∃ d ds, Nat.toDigits 10 n = d :: ds ∧ d.isDigit = true := by
  cases hd : Nat.toDigits 10 n with
  | nil => exact absurd hd Nat.toDigits_ne_nil
  | cons d ds =>
    refine ⟨d, ds, rfl, ?_⟩
    have hmem : d ∈ Nat.toDigits 10 n := by
      rw [hd]
      exact List.mem_cons_self
    exact Nat.isDigit_of_mem_toDigits (by decide) (by decide) hmem

theorem readInt_writeInt (i : ℤ) {rest : List Char} (hrest : Stops Char.isDigit rest) :
    readInt (writeInt i ++ rest) = some (i, rest) := by
  unfold writeInt
  split
  · next hneg =>
    have hval : -(i.natAbs : ℤ) = i := by omega
    rw [List.cons_append, readInt, readNat_toDigits _ hrest]
    simp only [Option.map_some, hval]
  · next hnn =>
    have hval : (i.natAbs : ℤ) = i := by omega
    obtain ⟨d, ds, hd, hdig⟩ := exists_toDigits_eq_cons i.natAbs
    have hread := readNat_toDigits i.natAbs hrest
    rw [hd, List.cons_append] at hread ⊢
    have hne : d ≠ '-' := by
      rintro rfl
      exact absurd hdig (by decide)
    rw [readInt.eq_2 _ (by rintro s ⟨⟩; exact hne rfl), hread]
    simp only [Option.map_some, hval]

/-! ## Quoted strings

A quoted string ends at the first quote `q` that the escape `e` does not precede, so a
writer must put an escape before every quote and before every escape of its text. -/

section Quoted

variable (e q : Char)

/-- Put the escape `e` before every `e` and every quote `q`. -/
def escape (s : List Char) : List Char :=
  s.flatMap fun c => if c = e ∨ c = q then [e, c] else [c]

/-- The body of a quoted string, up to the closing quote, with its escapes undone. -/
def readQuoted : Reader (List Char)
  | [] => none
  | [c] => if c = q then some ([], []) else none
  | c :: d :: s =>
    if c = q then some ([], d :: s)
    else if c = e then
      if d = e ∨ d = q then (readQuoted s).map fun (t, rest) => (d :: t, rest) else none
    else (readQuoted (d :: s)).map fun (t, rest) => (c :: t, rest)

/-- Replace every `old` by the text `new`. -/
def replaceChar (old : Char) (new s : List Char) : List Char :=
  s.flatMap fun c => if c = old then new else [c]

variable {e q}

theorem escape_cons (c : Char) (s : List Char) :
    escape e q (c :: s) = (if c = e ∨ c = q then [e, c] else [c]) ++ escape e q s :=
  List.flatMap_cons

/-- Escaping can be done in two replacements, the escape character first. -/
theorem replaceChar_replaceChar (hne : e ≠ q) (s : List Char) :
    replaceChar q [e, q] (replaceChar e [e, e] s) = escape e q s := by
  induction s with
  | nil => rfl
  | cons c s ih =>
    have hsplit : replaceChar q [e, q] (replaceChar e [e, e] (c :: s))
        = replaceChar q [e, q] (if c = e then [e, e] else [c])
          ++ replaceChar q [e, q] (replaceChar e [e, e] s) := by
      simp only [replaceChar, List.flatMap_cons, List.flatMap_append]
    rw [hsplit, ih, escape_cons]
    congr 1
    by_cases hce : c = e
    · simp [replaceChar, hce, hne]
    · by_cases hcq : c = q
      · simp [replaceChar, hcq, hne.symm]
      · simp [replaceChar, hce, hcq]

/-- A character that needs no escape is read as itself. -/
theorem readQuoted_plain {c : Char} {s : List Char} (hce : c ≠ e) (hcq : c ≠ q) :
    readQuoted e q (c :: s) = (readQuoted e q s).map fun (t, rest) => (c :: t, rest) := by
  cases s with
  | nil => simp [readQuoted, hcq]
  | cons d s => rw [readQuoted, if_neg hcq, if_neg hce]

/-- **Quoting round trip.** An escaped text between quotes is read back whole, and reading
stops exactly at its own closing quote. -/
theorem readQuoted_escape (hne : e ≠ q) (s rest : List Char) :
    readQuoted e q (escape e q s ++ q :: rest) = some (s, rest) := by
  induction s with
  | nil =>
    rw [escape, List.flatMap_nil, List.nil_append]
    cases rest with
    | nil => rw [readQuoted, if_pos rfl]
    | cons d rest => rw [readQuoted, if_pos rfl]
  | cons c s ih =>
    rw [escape_cons]
    by_cases hc : c = e ∨ c = q
    · rw [if_pos hc, List.append_assoc, List.cons_append, List.cons_append, List.nil_append,
        readQuoted, if_neg hne, if_pos rfl, if_pos hc, ih]
      rfl
    · rw [if_neg hc, List.append_assoc, List.cons_append, List.nil_append,
        readQuoted_plain (fun h => hc (Or.inl h)) (fun h => hc (Or.inr h)), ih]
      rfl

end Quoted

end Readers
