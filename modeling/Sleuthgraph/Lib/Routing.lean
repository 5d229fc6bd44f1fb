import Mathlib.Tactic.Common

/-!
# Tables of routes

A request goes to the first route with its method whose template matches the segments of its path. A
parameter of a template matches every segment that is admitted; the values that it is meant for are
those of its kind. A route is reached with all values that it is meant for when the routes before it
are apart from it (`dispatch_eq`), and a route with the key of an earlier one is never reached
(`eq_of_dispatch`).
-/

namespace Routing

variable {σ κ μ ε : Type} [DecidableEq σ] [DecidableEq μ]

/-- A segment of a template. -/
inductive Piece (σ κ : Type) where
  | lit (s : σ)
  | param (kind : κ)
deriving DecidableEq

abbrev Template (σ κ : Type) := List (Piece σ κ)

structure Route (σ κ μ ε : Type) where
  method : μ
  template : Template σ κ
  endpoint : ε
deriving DecidableEq

/-- What segments a parameter matches, and which ones it is meant for. -/
structure Segments (σ κ : Type) where
  admits : σ → Bool
  meant : κ → σ → Prop
  rejects : κ → σ → Bool
  admits_of_meant : ∀ k s, meant k s → admits s = true
  not_meant_of_rejects : ∀ k s, rejects k s = true → ¬ meant k s

variable (segments : Segments σ κ)

def Piece.matchesSegment : Piece σ κ → σ → Bool
  | .lit s, segment => s = segment
  | .param _, segment => segments.admits segment

def matchesAll : Template σ κ → List σ → Bool
  | [], [] => true
  | p :: t, s :: path => p.matchesSegment segments s && matchesAll t path
  | _, _ => false

/-- The segment is the literal, or a value that the parameter is meant for. -/
def Piece.Takes : Piece σ κ → σ → Prop
  | .lit s, segment => segment = s
  | .param k, segment => segments.meant k segment

/-- A path that the template is meant for. -/
def Fills : Template σ κ → List σ → Prop
  | [], [] => True
  | p :: t, s :: path => p.Takes segments s ∧ Fills t path
  | _, _ => False

/-- The first piece matches nothing that the second one takes. -/
def Piece.misses : Piece σ κ → Piece σ κ → Bool
  | .lit s, .lit s' => s ≠ s'
  | .lit s, .param k => segments.rejects k s
  | .param _, _ => false

/-- The first template matches no path that the second one is meant for. -/
def apart : Template σ κ → Template σ κ → Bool
  | [], [] => false
  | p :: t, p' :: t' => p.misses segments p' || apart t t'
  | _, _ => true

variable {segments} {t t' : Template σ κ} {path : List σ}

lemma Piece.matchesSegment_of_takes {p : Piece σ κ} {s : σ} (h : p.Takes segments s) :
    p.matchesSegment segments s = true := by
  cases p with
  | lit s' => exact decide_eq_true h.symm
  | param k => exact segments.admits_of_meant k s h

lemma Piece.not_matchesSegment_of_misses {p p' : Piece σ κ} {s : σ}
    (hmisses : p.misses segments p' = true) (h : p'.Takes segments s) :
    p.matchesSegment segments s = false := by
  cases p with
  | param k => cases hmisses
  | lit l =>
    refine decide_eq_false fun hl => ?_
    subst hl
    cases p' with
    | lit l' => exact of_decide_eq_true hmisses h
    | param k => exact segments.not_meant_of_rejects k l hmisses h

/-- A template matches what it is meant for. -/
theorem matchesAll_of_fills (h : Fills segments t path) : matchesAll segments t path = true := by
  induction t generalizing path with
  | nil =>
    cases path with
    | nil => rfl
    | cons s path => exact h.elim
  | cons p t ih =>
    cases path with
    | nil => exact h.elim
    | cons s path =>
      rw [matchesAll, Piece.matchesSegment_of_takes h.1, ih h.2]
      rfl

/-- A template that is apart does not match it. -/
theorem not_matchesAll_of_apart (hapart : apart segments t t' = true)
    (h : Fills segments t' path) : matchesAll segments t path = false := by
  induction t generalizing t' path with
  | nil =>
    cases t' with
    | nil => cases hapart
    | cons p' t' =>
      cases path with
      | nil => exact h.elim
      | cons s path => rfl
  | cons p t ih =>
    cases path with
    | nil => rfl
    | cons s path =>
      cases t' with
      | nil => exact h.elim
      | cons p' t' =>
        rw [apart, Bool.or_eq_true] at hapart
        rw [matchesAll, Bool.and_eq_false_iff]
        rcases hapart with hmisses | hapart
        · exact Or.inl (Piece.not_matchesSegment_of_misses hmisses h.1)
        · exact Or.inr (ih hapart h.2)

/-- No template is apart from itself. -/
theorem apart_self (t : Template σ κ) : apart segments t t = false := by
  induction t with
  | nil => rfl
  | cons p t ih =>
    rw [apart, ih, Bool.or_false]
    cases p with
    | lit s => exact decide_eq_false (not_not_intro rfl)
    | param k => rfl

/-! ## Dispatch -/

variable {τ : Type} (isMatch : Template σ κ → τ → Bool)

/-- The first route with the method whose template matches. -/
def dispatch (routes : List (Route σ κ μ ε)) (method : μ) (path : τ) : Option (Route σ κ μ ε) :=
  routes.find? fun r => r.method = method && isMatch r.template path

variable {isMatch} {routes : List (Route σ κ μ ε)} {r r' : Route σ κ μ ε} {method : μ} {request : τ}

omit [DecidableEq σ] in
theorem mem_of_dispatch (h : dispatch isMatch routes method request = some r) : r ∈ routes :=
  List.mem_of_find?_eq_some h

omit [DecidableEq σ] in
/-- Nothing is found where each route has another method or does not match. -/
theorem dispatch_eq_none
    (h : ∀ r ∈ routes, r.method ≠ method ∨ isMatch r.template request = false) :
    dispatch isMatch routes method request = none := by
  refine List.find?_eq_none.mpr fun r hr => ?_
  rcases h r hr with hmethod | hmatch
  · simp [hmethod]
  · simp [hmatch]

omit [DecidableEq σ] in
/-- A route that matches is found, when each route before it has another method or does not
match. -/
theorem dispatch_eq (hr : r ∈ routes) (hmatch : isMatch r.template request = true)
    (hbefore : routes.Pairwise fun r₁ r₂ => r₂ = r → r₁.method = r.method →
      isMatch r₁.template request = false) :
    dispatch isMatch routes r.method request = some r := by
  induction routes with
  | nil => cases hr
  | cons r₀ routes ih =>
    obtain ⟨hfirst, hbefore⟩ := List.pairwise_cons.mp hbefore
    rw [dispatch, List.find?_cons]
    rcases List.mem_cons.mp hr with rfl | hr
    · simp [hmatch]
    · have hskip : (r₀.method = r.method && isMatch r₀.template request) = false := by
        by_cases hmethod : r₀.method = r.method
        · rw [hfirst r hr rfl hmethod, Bool.and_false]
        · simp [hmethod]
      rw [hskip]
      exact ih hr hbefore

omit [DecidableEq σ] in
/-- Of the routes with one key, only the first is reached. -/
theorem eq_of_dispatch (h : dispatch isMatch routes method request = some r')
    (hr : r ∈ routes) (hkey : r'.method = r.method ∧ r'.template = r.template)
    (hbefore : routes.Pairwise fun r₁ r₂ => r₂ = r → r₁ = r ∨
      ¬ (r₁.method = r.method ∧ r₁.template = r.template)) : r' = r := by
  induction routes with
  | nil => cases hr
  | cons r₀ routes ih =>
    obtain ⟨hfirst, hbefore⟩ := List.pairwise_cons.mp hbefore
    rw [dispatch, List.find?_cons] at h
    split at h
    · obtain rfl := Option.some.inj h
      rcases List.mem_cons.mp hr with rfl | hr
      · rfl
      · exact (hfirst r hr rfl).resolve_right fun hnot => hnot hkey
    · rename_i hskip
      rcases List.mem_cons.mp hr with rfl | hr
      -- the first route with the key would have been taken
      · have hfound := List.find?_some h
        simp only [Bool.and_eq_true, decide_eq_true_eq] at hfound
        rw [← hkey.1, ← hkey.2, hfound.1, hfound.2] at hskip
        simp at hskip
      · exact ih h hr hbefore

end Routing
