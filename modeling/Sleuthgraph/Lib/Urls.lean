import Mathlib.Data.List.DropRight
import Mathlib.Tactic.Common

/-!
# Two readings of a URL reference

`urlparse` of Python and the URL parser of a browser do not agree on what an authority is. The
first wants exactly two slashes and takes what comes before the next delimiter, which may be
nothing. The second, against a base of a special scheme, takes a backslash for a slash and skips
every slash that follows the first two. Both drop tab, CR and LF wherever they stand.
-/

namespace Urls

/-- Tab, line feed and carriage return. -/
def isTabOrNewline (c : Char) : Bool := c = '\t' || c = '\n' || c = '\r'

/-- A C0 control or a space. -/
def isC0OrSpace (c : Char) : Bool := c.toNat ≤ 0x20

/-- The text without tabs and newlines. -/
def withoutTabs (url : List Char) : List Char := url.filter fun c => !isTabOrNewline c

lemma withoutTabs_cons {c : Char} (h : isTabOrNewline c = false) (url : List Char) :
    withoutTabs (c :: url) = c :: withoutTabs url :=
  List.filter_cons_of_pos (by simp [h])

/-! ## `urllib.parse` -/

/-- The fields of a `ParseResult` that say where a URL leads. -/
@[ext] structure ParseResult where
  scheme : List Char
  netloc : List Char
deriving DecidableEq, Repr

/-- `scheme_chars` -/
def isSchemeChar (c : Char) : Bool := c.isAlphanum || c = '+' || c = '-' || c = '.'

/-- The scheme in lower case, and what comes after its colon. -/
def splitScheme (url : List Char) : List Char × List Char :=
  match url.takeWhile (· ≠ ':'), url.dropWhile (· ≠ ':') with
  | c :: cs, ':' :: rest =>
    if c.isAlpha && cs.all isSchemeChar then ((c :: cs).map Char.toLower, rest) else ([], url)
  | _, _ => ([], url)

/-- `/`, `?` or `#` -/
def isDelimiter (c : Char) : Bool := c = '/' || c = '?' || c = '#'

/-- The netloc of `_splitnetloc`: all up to the first delimiter. -/
def splitNetloc (url : List Char) : List Char := url.takeWhile fun c => !isDelimiter c

/-- The netlocs that `urlparse` refuses with a `ValueError` (unmatched brackets, characters that
turn into delimiters under NFKC); the empty one is fine. -/
structure NetlocCheck where
  refuses : List Char → Bool
  empty_ok : refuses [] = false

/-- `urlparse(url)`, or nothing where it raises `ValueError`. -/
def urlparse (check : NetlocCheck) (url : List Char) : Option ParseResult :=
  let (scheme, rest) := splitScheme (withoutTabs (url.dropWhile isC0OrSpace))
  match rest with
  | '/' :: '/' :: rest =>
    if check.refuses (splitNetloc rest) then none else some ⟨scheme, splitNetloc rest⟩
  | _ => some ⟨scheme, []⟩

lemma splitNetloc_eq_nil {url : List Char} :
    splitNetloc url = [] ↔ ∀ c ∈ url.head?, isDelimiter c = true := by
  cases url with
  | nil => simp [splitNetloc]
  | cons c url => by_cases h : isDelimiter c = true <;> simp [splitNetloc, h]

/-- A text that starts with a slash has no scheme. -/
lemma splitScheme_slash (url : List Char) : splitScheme ('/' :: url) = ([], '/' :: url) := by
  have hslash : ('/'.isAlpha) = false := by decide
  unfold splitScheme
  rw [List.takeWhile_cons_of_pos (by decide)]
  split
  · rename_i c cs rest heq _
    -- the first character is the slash, and no letter
    obtain rfl : c = '/' := (List.cons.inj heq).1.symm
    rw [hslash, Bool.false_and, if_neg Bool.false_ne_true]
  · rfl

/-- `urlparse` of a text that starts with a slash. -/
lemma urlparse_slash (check : NetlocCheck) (url : List Char) :
    urlparse check ('/' :: url) = match withoutTabs url with
      | '/' :: rest =>
        if check.refuses (splitNetloc rest) then none else some ⟨[], splitNetloc rest⟩
      | _ => some ⟨[], []⟩ := by
  unfold urlparse
  rw [List.dropWhile_cons_of_neg (by decide), withoutTabs_cons rfl, splitScheme_slash]
  cases withoutTabs url with
  | nil => rfl
  | cons c rest =>
    by_cases hc : c = '/'
    · subst hc
      rfl
    · simp [hc]

/-! ## The URL parser of a browser -/

/-- Whose host a relative reference leads to. -/
inductive Authority where
  /-- the host of the base URL -/
  | base
  /-- a host that is read from the reference itself -/
  | own (rest : List Char)
deriving DecidableEq, Repr

/-- A slash of a special URL. -/
def isSlash (c : Char) : Bool := c = '/' || c = '\\'

/-- The relative slash state: after a second slash an authority follows. -/
def relativeSlash : List Char → Authority
  | [] => .base
  | c :: rest => if isSlash c then .own (rest.dropWhile isSlash) else .base

/-- The relative state of a special base URL. -/
def relative : List Char → Authority
  | [] => .base
  | c :: rest => if isSlash c then relativeSlash rest else .base

/-- Resolve a reference without a scheme. -/
def resolve (url : List Char) : Authority :=
  relative (withoutTabs ((url.dropWhile isC0OrSpace).rdropWhile isC0OrSpace))

/-- Dropping controls and spaces at the end does not change whether a slash comes first. -/
lemma head_withoutTabs_rdropWhile (url : List Char) :
    (∃ c ∈ (withoutTabs (url.rdropWhile isC0OrSpace)).head?, isSlash c = true) ↔
      ∃ c ∈ (withoutTabs url).head?, isSlash c = true := by
  have hsplit : url.rdropWhile isC0OrSpace ++ url.rtakeWhile isC0OrSpace = url :=
    List.rdropWhile_append_rtakeWhile
  have htail : ∀ c ∈ withoutTabs (url.rtakeWhile isC0OrSpace), isSlash c = false := by
    intro c hc
    have hp : isC0OrSpace c = true := List.mem_rtakeWhile_imp (List.mem_of_mem_filter hc)
    by_contra hslash
    simp only [isSlash, Bool.not_eq_false, Bool.or_eq_true, decide_eq_true_eq] at hslash
    rcases hslash with rfl | rfl <;> exact absurd hp (by decide)
  have happend : withoutTabs url = withoutTabs (url.rdropWhile isC0OrSpace)
      ++ withoutTabs (url.rtakeWhile isC0OrSpace) := by
    rw [withoutTabs, withoutTabs, withoutTabs, ← List.filter_append, hsplit]
  rw [happend]
  cases withoutTabs (url.rdropWhile isC0OrSpace) with
  | cons c rest => rfl
  -- what is left is nothing, so what was dropped has no slash
  | nil =>
    simp only [List.head?_nil, Option.mem_def, reduceCtorEq, false_and, exists_false,
      List.nil_append, false_iff, not_exists, not_and, Bool.not_eq_true]
    exact fun c hc => htail c (List.mem_of_mem_head? hc)

lemma relativeSlash_eq_base {url : List Char} :
    relativeSlash url = .base ↔ ¬ ∃ c ∈ url.head?, isSlash c = true := by
  cases url with
  | nil => simp [relativeSlash]
  | cons c url => by_cases h : isSlash c = true <;> simp [relativeSlash, h]

/-- **A path keeps the host of the base** exactly when no second slash follows the first. -/
theorem resolve_slash_eq_base (url : List Char) :
    resolve ('/' :: url) = .base ↔ ∀ c ∈ (withoutTabs url).head?, isSlash c = false := by
  have hstrip : (('/' :: url).dropWhile isC0OrSpace).rdropWhile isC0OrSpace
      = '/' :: url.rdropWhile isC0OrSpace := by
    have hslash : isC0OrSpace '/' = false := by decide
    rw [List.dropWhile_cons_of_neg (by decide)]
    simp only [List.rdropWhile, List.reverse_cons, List.dropWhile_append, List.isEmpty_iff]
    split
    · rename_i hnil
      simp [hnil, hslash]
    · rw [List.reverse_append, List.reverse_singleton, List.singleton_append]
  have hrelative : ∀ rest, relative ('/' :: rest) = relativeSlash rest := fun rest => rfl
  unfold resolve
  rw [hstrip, withoutTabs_cons rfl, hrelative, relativeSlash_eq_base, head_withoutTabs_rdropWhile]
  simp

end Urls
