import Mathlib.Tactic.Common

/-!
# The path of a URL and its dot segments

The path of a URL with an authority goes up to the query or the fragment. Removing dot segments
drops each `.`, and with each `..` the segment before it. A path without such segments stays as it
is.
-/

namespace UrlPaths

/-- A character that ends an authority. -/
def endsAuthority (c : Char) : Bool := c = '/' || c = '?' || c = '#'

/-- A character that ends a path. -/
def endsPath (c : Char) : Bool := c = '?' || c = '#'

/-- The path of `scheme://authority/path?query#fragment`. -/
def pathOf (url : List Char) : List Char :=
  let afterSlashes := (url.dropWhile (· ≠ '/')).drop 2
  (afterSlashes.dropWhile fun c => !endsAuthority c).takeWhile fun c => !endsPath c

/-- A URL that is put together from its parts. -/
lemma pathOf_append {scheme authority path tail : List Char} (hscheme : '/' ∉ scheme)
    (hauthority : ∀ c ∈ authority, endsAuthority c = false)
    (hslash : path.head? = some '/') (hpath : ∀ c ∈ path, endsPath c = false)
    (htail : ∀ c ∈ tail.head?, endsPath c = true) :
    pathOf (scheme ++ '/' :: '/' :: (authority ++ (path ++ tail))) = path := by
  have hafter : ((scheme ++ '/' :: '/' :: (authority ++ (path ++ tail))).dropWhile (· ≠ '/')).drop 2
      = authority ++ (path ++ tail) := by
    have hnoSlash : ∀ c ∈ scheme, decide (c ≠ '/') = true :=
      fun c hc => decide_eq_true fun h => hscheme (h ▸ hc)
    rw [List.dropWhile_append_of_pos hnoSlash, List.dropWhile_cons_of_neg (by simp)]
    rfl
  obtain ⟨rest, rfl⟩ := List.head?_eq_some_iff.mp hslash
  have hrest : (authority ++ ('/' :: rest ++ tail)).dropWhile (fun c => !endsAuthority c)
      = '/' :: rest ++ tail := by
    rw [List.dropWhile_append_of_pos fun c hc => by simp [hauthority c hc], List.cons_append,
      List.dropWhile_cons_of_neg (by decide)]
  rw [pathOf, hafter, hrest, List.takeWhile_append_of_pos fun c hc => by simp [hpath c hc]]
  cases tail with
  | nil => rw [List.takeWhile_nil, List.append_nil]
  | cons c tail =>
    have hc : endsPath c = true := htail c rfl
    rw [List.takeWhile_cons_of_neg (by simp [hc]), List.append_nil]

/-! ## Dot segments -/

/-- The segments that stay, those before in reverse; a dot segment at the end leaves an empty
one. -/
def removeDots : List (List Char) → List (List Char) → List (List Char)
  | kept, [] => kept.reverse
  | kept, segment :: segments =>
    let kept' := if segment = ['.'] then kept
      else if segment = ['.', '.'] then kept.tail
      else segment :: kept
    if segments.isEmpty && (segment = ['.'] || segment = ['.', '.']) then ([] :: kept').reverse
    else removeDots kept' segments

/-- The path without its dot segments, if it starts with a slash. -/
def removeDotSegments (path : List Char) : List Char :=
  match path.splitOn '/' with
  | [] :: segments => (removeDots [] segments).flatMap fun segment => '/' :: segment
  | _ => path

/-- Without dot segments all segments stay. -/
lemma removeDots_eq {segments kept : List (List Char)}
    (h : ∀ segment ∈ segments, segment ≠ ['.'] ∧ segment ≠ ['.', '.']) :
    removeDots kept segments = kept.reverse ++ segments := by
  induction segments generalizing kept with
  | nil => rw [removeDots, List.append_nil]
  | cons segment segments ih =>
    obtain ⟨hdot, hdots⟩ := h segment List.mem_cons_self
    have hplain : ¬ (segments.isEmpty && (decide (segment = ['.'])
        || decide (segment = ['.', '.']))) = true := by
      rw [decide_eq_false hdot, decide_eq_false hdots, Bool.or_false, Bool.and_false]
      exact Bool.false_ne_true
    rw [removeDots, if_neg hplain, if_neg hdot, if_neg hdots,
      ih fun s hs => h s (List.mem_cons_of_mem _ hs), List.reverse_cons, List.append_assoc,
      List.singleton_append]

/-- Segments with a slash before each are the path again. -/
lemma intercalate_nil_cons (segments : List (List Char)) :
    ['/'].intercalate ([] :: segments) = segments.flatMap fun segment => '/' :: segment := by
  induction segments with
  | nil => rfl
  | cons segment segments ih =>
    cases segments with
    | nil => simp [List.intercalate]
    | cons next rest =>
      rw [List.flatMap_cons, ← ih]
      simp [List.intercalate]

/-- **A path without dot segments** is what it is after their removal. -/
theorem removeDotSegments_eq {path : List Char}
    (h : ∀ segment ∈ path.splitOn '/', segment ≠ ['.'] ∧ segment ≠ ['.', '.']) :
    removeDotSegments path = path := by
  unfold removeDotSegments
  split
  · rename_i segments hsplit
    rw [hsplit] at h
    rw [removeDots_eq fun s hs => h s (List.mem_cons_of_mem _ hs), List.reverse_nil,
      List.nil_append, ← intercalate_nil_cons, ← hsplit, List.intercalate_splitOn]
  · rfl

example : removeDotSegments "/a/b/./../c/..".toList = "/a/".toList := by decide +kernel

end UrlPaths
