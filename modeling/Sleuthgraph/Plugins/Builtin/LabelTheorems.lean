import Sleuthgraph.Plugins.Http
import Mathlib.Data.List.DropRight

/-!
# The labels of the domains that the plugins propose (`plugins/builtin/`)

A label in normal form is lower-case and does not end with a dot, and two of them that name the
same host are equal. A text that is lower-cased and then matches the pattern of a domain name is
normal.
-/

namespace Sleuthgraph

/-! ## Normal labels -/

/-- What is relied on of `str.lower`: no letter from A to Z is left. -/
def Unicode.Lowers (text : Unicode) : Prop := ∀ s, ∀ c ∈ text.lower s, c.isUpper = false

/-- Lower-case, and without a trailing dot. -/
structure NormalLabel (label : List Char) : Prop where
  lower : ∀ c ∈ label, c.isUpper = false
  undotted : label.getLast? ≠ some '.'

/-- The host that a label names: letters count alike in both cases, and the dots at the end do
not count. -/
def hostOf (label : List Char) : List Char := (rstrip (· = '.') label).map Char.toLower

lemma rstrip_eq_rdropWhile (p : Char → Bool) (s : List Char) : rstrip p s = s.rdropWhile p := rfl

/-- What `rstrip` leaves does not end with what it strips. -/
lemma getLast?_rstrip {p : Char → Bool} {s : List Char} {c : Char}
    (h : (rstrip p s).getLast? = some c) : p c = false := by
  have hne : s.rdropWhile p ≠ [] := by
    intro hnil
    rw [rstrip_eq_rdropWhile, hnil] at h
    cases h
  have hlast := List.rdropWhile_last_not p s hne
  rw [rstrip_eq_rdropWhile, List.getLast?_eq_some_getLast hne] at h
  rw [Option.some.inj h] at hlast
  simpa using hlast

lemma NormalLabel.hostOf_eq {label : List Char} (h : NormalLabel label) : hostOf label = label := by
  have hstrip : rstrip (· = '.') label = label := by
    rw [rstrip_eq_rdropWhile, List.rdropWhile_eq_self_iff]
    intro hne hdot
    refine h.undotted ?_
    rw [List.getLast?_eq_some_getLast hne]
    exact congrArg some (by simpa using hdot)
  rw [hostOf, hstrip]
  refine (List.map_congr_left fun c hc => ?_).trans (List.map_id label)
  have hlower : decide (c.val ≥ 'A'.val ∧ c.val ≤ 'Z'.val) = false := h.lower c hc
  exact dif_neg (of_decide_eq_false hlower)

/-- Normal labels of one host are equal. -/
lemma NormalLabel.eq_of_hostOf {label label' : List Char} (h : NormalLabel label)
    (h' : NormalLabel label') (hhost : hostOf label = hostOf label') : label = label' := by
  rw [← h.hostOf_eq, ← h'.hostOf_eq, hhost]

/-! ## What the patterns say about the end of a text -/

/-- A domain name of the pattern does not end with a dot. -/
lemma undotted_of_domainRe {s : List Char} (h : domainRe s = true) : s.getLast? ≠ some '.' := by
  intro hlast
  obtain ⟨init, rfl⟩ := List.getLast?_eq_some_iff.mp hlast
  unfold domainRe dollar at h
  dsimp only at h
  rw [splitAt_append_sep, List.all_append] at h
  -- the empty label after the dot is none, and the dot is no newline
  have hempty : [[]].all domainLabel = false := rfl
  rw [hempty, Bool.and_false, Bool.and_false, Bool.false_or, List.getLast?_concat] at h
  rw [show (some '.' == some '\n') = false from rfl, Bool.false_and] at h
  cases h

/-- A domain name of the pattern, with the newline that may follow, fits a label. -/
lemma length_of_domainRe {s : List Char} (h : domainRe s = true) :
    1 ≤ s.length ∧ s.length ≤ 254 := by
  have hbody : ∀ {body : List Char}, (decide (body.length ≤ 253)
      && decide (2 ≤ (splitAt '.' body).length) && (splitAt '.' body).all domainLabel) = true →
        1 ≤ body.length ∧ body.length ≤ 253 := by
    intro body hbody
    simp only [Bool.and_eq_true, decide_eq_true_eq] at hbody
    cases body with
    | nil => exact absurd hbody.1.2 (by decide)
    | cons c body => exact ⟨by simp, hbody.1.1⟩
  rcases dollar_iff.mp h with hs | ⟨init, rfl, hinit⟩
  · obtain ⟨hpos, hle⟩ := hbody hs
    omega
  · obtain ⟨hpos, hle⟩ := hbody hinit
    rw [List.length_append, List.length_singleton]
    omega

/-- A lower-cased domain name of the pattern is a normal label. -/
lemma normalLabel_of_domainRe {text : Unicode} (hlowers : text.Lowers) {s : List Char}
    (h : domainRe (text.lower s) = true) : NormalLabel (text.lower s) :=
  ⟨hlowers s, undotted_of_domainRe h⟩

lemma all_of_dollar_runOf {p : Char → Bool} {s : List Char} (h : dollar (runOf p) s = true) :
    ∀ c ∈ s, p c = true ∨ c = '\n' := by
  intro c hc
  rcases dollar_iff.mp h with hs | ⟨init, rfl, hinit⟩
  · rw [runOf, Bool.and_eq_true, List.all_eq_true] at hs
    exact Or.inl (hs.2 c hc)
  · rw [runOf, Bool.and_eq_true, List.all_eq_true] at hinit
    have hall := hinit.2
    rcases List.mem_append.mp hc with hc | hc
    · exact Or.inl (hall c hc)
    · exact Or.inr (List.mem_singleton.mp hc)

/-! ## Labels of proposals -/

/-- Every domain that is proposed has a normal label. -/
def NormalLabels (entities : List EntityProposal) : Prop :=
  ∀ ep ∈ entities, ep.type = .domain → NormalLabel ep.label.toList

lemma NormalLabels.nil : NormalLabels [] := fun _ h => absurd h List.not_mem_nil

lemma NormalLabels.add {entities : List EntityProposal} (h : NormalLabels entities)
    {ep : EntityProposal} (hep : ep.type = .domain → NormalLabel ep.label.toList) :
    NormalLabels (entities ++ [ep]) := by
  intro e he
  rcases List.mem_append.mp he with he | he
  · exact h e he
  · rw [List.mem_singleton.mp he]
    exact hep

end Sleuthgraph
