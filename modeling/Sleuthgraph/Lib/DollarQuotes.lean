import Sleuthgraph.Lib.Readers

/-!
# Dollar-quoted constants

In PostgreSQL a constant may be opened by a delimiter `$tag$`; it ends at the first later occurrence
of the same delimiter, and nothing between the two is looked at. `readConstant_append` is the
condition for reading a constant back, and `readConstant_padded` is the case of a text that has not
the delimiter and a pad that ends it.
-/

namespace DollarQuotes

open Readers

/-! ## Occurrences -/

/-- The text before the first occurrence of `w`, and the text after it. -/
def splitFirst (w : List Char) : Reader (List Char)
  | [] => (expect w []).map fun rest => ([], rest)
  | c :: s => match expect w (c :: s) with
    | some rest => some ([], rest)
    | none => (splitFirst w s).map fun (before, rest) => (c :: before, rest)

lemma expect_eq_some_iff {w s rest : List Char} : expect w s = some rest ↔ s = w ++ rest := by
  induction w generalizing s with
  | nil =>
    rw [expect, Option.some.injEq, List.nil_append]
  | cons c w ih =>
    cases s with
    | nil => simp [expect]
    | cons d s =>
      rw [expect]
      by_cases hcd : c = d
      · rw [if_pos hcd, ih, hcd, List.cons_append, List.cons.injEq]
        exact ⟨fun h => ⟨rfl, h⟩, fun h => h.2⟩
      · rw [if_neg hcd]
        simp [Ne.symm hcd]

lemma expect_eq_none_iff {w s : List Char} : expect w s = none ↔ ¬ w <+: s := by
  rw [Option.eq_none_iff_forall_ne_some]
  constructor
  · intro h ⟨rest, hrest⟩
    exact h rest (expect_eq_some_iff.mpr hrest.symm)
  · intro h rest hrest
    exact h ⟨rest, (expect_eq_some_iff.mp hrest).symm⟩

/-- A text is split at an occurrence of `w` when none starts before it. -/
lemma splitFirst_append {w body rest : List Char}
    (h : ∀ front back, body = front ++ back → back ≠ [] → ¬ w <+: back ++ (w ++ rest)) :
    splitFirst w (body ++ (w ++ rest)) = some (body, rest) := by
  induction body with
  | nil =>
    have hw : expect w (w ++ rest) = some rest := expect_append w rest
    rw [List.nil_append]
    cases hs : w ++ rest with
    | nil =>
      rw [hs] at hw
      rw [splitFirst, hw]
      rfl
    | cons c s =>
      rw [hs] at hw
      rw [splitFirst, hw]
  | cons c body ih =>
    have hnone : expect w (c :: (body ++ (w ++ rest))) = none :=
      expect_eq_none_iff.mpr (h [] (c :: body) rfl (List.cons_ne_nil c body))
    rw [List.cons_append, splitFirst, hnone]
    dsimp only
    rw [ih fun front back hbody hback => h (c :: front) back (congrArg (c :: ·) hbody) hback]
    rfl

/-! ## Delimiters -/

/-- A character that a tag may start with. -/
def isTagStart (c : Char) : Bool := c.isAlpha || c = '_' || 0x80 ≤ c.toNat

/-- A character that a tag may go on with. -/
def isTagRest (c : Char) : Bool := isTagStart c || c.isDigit

/-- The empty tag is one. -/
def isTag : List Char → Bool
  | [] => true
  | c :: tag => isTagStart c && tag.all isTagRest

/-- `$tag$` -/
def delimiter (tag : List Char) : List Char := '$' :: tag ++ ['$']

/-- The delimiter that opens a constant. -/
def readDelimiter : Reader (List Char)
  | '$' :: s => match readRun isTagRest s with
    | (tag, '$' :: rest) => if isTag tag then some (tag, rest) else none
    | _ => none
  | _ => none

/-- A dollar-quoted constant: the text up to the next occurrence of its own delimiter. -/
def readConstant : Reader (List Char) := fun s =>
  match readDelimiter s with
  | some (tag, rest) => splitFirst (delimiter tag) rest
  | none => none

section Constants

variable {tag body rest : List Char}

lemma isTagRest_of_isTag (h : isTag tag = true) : ∀ c ∈ tag, isTagRest c = true := by
  cases tag with
  | nil => exact fun c hc => nomatch hc
  | cons d tag =>
    rw [isTag, Bool.and_eq_true, List.all_eq_true] at h
    intro c hc
    rcases List.mem_cons.mp hc with rfl | hc
    · rw [isTagRest, h.1, Bool.true_or]
    · exact h.2 c hc

lemma readDelimiter_append (h : isTag tag = true) :
    readDelimiter (delimiter tag ++ rest) = some (tag, rest) := by
  have hrun : readRun isTagRest (tag ++ '$' :: rest) = (tag, '$' :: rest) :=
    readRun_append (isTagRest_of_isTag h) (stops_cons (by decide))
  have hs : delimiter tag ++ rest = '$' :: (tag ++ '$' :: rest) := by
    rw [delimiter, List.append_assoc, List.cons_append, List.singleton_append]
  rw [hs, readDelimiter, hrun]
  exact if_pos h

/-- A constant is read back when its delimiter does not occur too early. -/
theorem readConstant_append (htag : isTag tag = true)
    (h : ∀ front back, body = front ++ back → back ≠ [] →
      ¬ delimiter tag <+: back ++ (delimiter tag ++ rest)) :
    readConstant (delimiter tag ++ (body ++ (delimiter tag ++ rest))) = some (body, rest) := by
  rw [readConstant, readDelimiter_append htag]
  exact splitFirst_append h

/-- The delimiter is not in what a pad is put before, if it was not there already. -/
lemma not_infix_cons {text : List Char} (h : ¬ delimiter tag <:+: text) {pad : Char}
    (hpad : pad ≠ '$') : ¬ delimiter tag <:+: pad :: text := by
  intro hoccurs
  rcases List.infix_cons_iff.mp hoccurs with hfront | hoccurs
  · exact hpad (List.cons_prefix_cons.mp hfront).1.symm
  · exact h hoccurs

/-- **No straddling.** A text without the delimiter, and a pad that the delimiter does not have: no
occurrence starts in the text or the pad, whatever follows. -/
lemma not_prefix_of_pad {text : List Char} (h : ¬ delimiter tag <:+: text) {pad : Char}
    (hpad : pad ∉ delimiter tag) {front back : List Char} (hbody : text ++ [pad] = front ++ back)
    (hback : back ≠ []) (s : List Char) : ¬ delimiter tag <+: back ++ s := by
  obtain ⟨inner, last, rfl⟩ : ∃ inner last, back = inner ++ [last] :=
    ⟨back.dropLast, back.getLast hback, (List.dropLast_concat_getLast hback).symm⟩
  rw [← List.append_assoc] at hbody
  obtain ⟨rfl, hlast⟩ := List.append_inj' hbody rfl
  obtain rfl := (List.cons.inj hlast).1
  intro hfront
  rw [List.append_assoc, List.singleton_append] at hfront
  by_cases hlen : (delimiter tag).length ≤ inner.length
  · -- the occurrence ends before the pad
    have hinner : delimiter tag <+: inner :=
      List.prefix_of_prefix_length_le hfront (List.prefix_append _ _) hlen
    exact h (hinner.isInfix.trans (List.suffix_append _ _).isInfix)
  · -- the occurrence has the pad in it
    have hpadded : inner ++ [pad] <+: delimiter tag := by
      have hwhole : inner ++ [pad] <+: inner ++ pad :: s :=
        ⟨s, by rw [List.append_assoc, List.singleton_append]⟩
      refine List.prefix_of_prefix_length_le hwhole hfront ?_
      rw [List.length_append, List.length_singleton]
      omega
    exact hpad (hpadded.subset (List.mem_append_right _ (List.mem_singleton_self pad)))

/-- **A padded text is read back.** The delimiter is not in the text, and the pads are none of its
characters. -/
theorem readConstant_padded (htag : isTag tag = true) {text : List Char}
    (h : ¬ delimiter tag <:+: text) {pad : Char} (hpad : pad ∉ delimiter tag) :
    readConstant (delimiter tag ++ ((pad :: text ++ [pad]) ++ (delimiter tag ++ rest)))
      = some (pad :: text ++ [pad], rest) := by
  have hdollar : pad ≠ '$' := by
    rintro rfl
    exact hpad List.mem_cons_self
  refine readConstant_append htag fun front back hbody hback => ?_
  exact not_prefix_of_pad (not_infix_cons h hdollar) hpad hbody hback _

end Constants

end DollarQuotes
