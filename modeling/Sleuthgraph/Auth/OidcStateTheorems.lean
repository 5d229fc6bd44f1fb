import Sleuthgraph.Auth.OidcCallbackTheorems
import Sleuthgraph.Auth.OidcState

/-!
# Where a login redirects to

`_sanitize_next` asks `urlparse` whether a path has an authority. A browser finds one in more
texts than `urlparse` does: behind a backslash, and behind three slashes, where the netloc that
`urlparse` sees is empty. Those texts pass the filter and nothing else that leaves the origin
does (`redirect_onOrigin_iff`).
-/

namespace Sleuthgraph

open Urls Programs Transactions

/-! ## The redirect target -/

/-- The path stays on the origin: it starts with a slash, and no second slash or backslash
follows once tabs and newlines are removed. -/
def OnOrigin (path : String) : Prop :=
  ∃ rest, path.toList = '/' :: rest ∧ ∀ c ∈ (withoutTabs rest).head?, c ≠ '/' ∧ c ≠ '\\'

/-- An authority that `urlparse` does not see: a slash and then, with tabs and newlines removed,
a backslash, or a second slash before a delimiter or the end. -/
def HidesAuthority (nextPath : String) : Prop :=
  ∃ rest, nextPath.toList = '/' :: rest ∧
    ((∃ s, withoutTabs rest = '\\' :: s) ∨
      ∃ s, withoutTabs rest = '/' :: s ∧ ∀ c ∈ s.head?, isDelimiter c = true)

/-- A browser resolves a path on the origin to the host of the base URL. -/
theorem OnOrigin.resolve {path : String} (h : OnOrigin path) : resolve path.toList = .base := by
  obtain ⟨rest, hpath, hsecond⟩ := h
  rw [hpath, resolve_slash_eq_base]
  intro c hc
  obtain ⟨hslash, hback⟩ := hsecond c hc
  simp [isSlash, hslash, hback]

lemma onOrigin_root : OnOrigin "/" := ⟨[], rfl, fun _ h => by simp [withoutTabs] at h⟩

/-- The callback redirects to the path of its state. -/
theorem oidcCallback_redirects {lower : String → String} {w : Exchange} {allowSignup : Bool}
    {drawn : Drawn} {sessionToken target cookie : String} {now : Time}
    {s s' : Session UserStore UserWrite Unit}
    (h : oidcCallback lower w allowSignup drawn sessionToken now s = (.ok (target, cookie), s')) :
    ∃ payload token claims, callbackClaims w = .ok (payload, token, claims) ∧
      target = payload.nextPath ∧ cookie = sessionToken := by
  unfold oidcCallback at h
  cases hclaims : callbackClaims w with
  | error e =>
    rw [hclaims] at h
    cases h
  | ok found =>
    obtain ⟨payload, token, claims⟩ := found
    refine ⟨payload, token, claims, rfl, ?_⟩
    rw [hclaims] at h
    change (Prog.ofExcept (callbackIdentity w token claims) >>= _) s = _ at h
    have hlast : ∀ {α β : Type} {m : AuthDb α} {f : α → AuthDb β} {s s' : Session _ _ _} {b : β},
        (m >>= f) s = (.ok b, s') → ∃ a s₁, f a s₁ = (.ok b, s') := by
      intro α β m f s s' b hm
      rw [Prog.bind_apply] at hm
      cases hms : m s with
      | mk r s₁ =>
        rw [hms] at hm
        cases r with
        | error e => cases hm
        | ok a => exact ⟨a, s₁, hm⟩
    -- past the identity, the account, the session row and the commit
    obtain ⟨_, _, h⟩ := hlast h
    obtain ⟨_, _, h⟩ := hlast h
    obtain ⟨_, _, h⟩ := hlast h
    obtain ⟨_, _, h⟩ := hlast h
    cases h
    exact ⟨rfl, rfl⟩

/-! ## The filter -/

section Filter

variable {check : NetlocCheck}

/-- What the filter lets through is the root, or the text itself when `urlparse` finds nothing
in it. -/
lemma sanitizeNext_ok {nextPath : Option String} {path : String}
    (h : sanitizeNext check nextPath = .ok path) :
    path = "/" ∨ (nextPath = some path ∧ path.toList.head? = some '/' ∧
      urlparse check path.toList = some ⟨[], []⟩) := by
  cases nextPath with
  | none => exact Or.inl (Except.ok.inj h).symm
  | some t =>
    unfold sanitizeNext at h
    dsimp only at h
    split at h
    · exact Or.inl (Except.ok.inj h).symm
    · split at h
      · cases h
      · rename_i parsed hparse
        split at h
        · exact Or.inl (Except.ok.inj h).symm
        · rename_i hempty
          split at h
          · exact Or.inl (Except.ok.inj h).symm
          · rename_i hslash
            obtain rfl := Except.ok.inj h
            simp only [ne_eq, not_or, Decidable.not_not] at hempty hslash
            refine Or.inr ⟨rfl, hslash, hparse.trans (congrArg some ?_)⟩
            exact ParseResult.ext hempty.1 hempty.2

/-- `urlparse` finds nothing behind a slash exactly when no second one starts a netloc. -/
lemma urlparse_slash_eq_nothing {rest : List Char} :
    urlparse check ('/' :: rest) = some ⟨[], []⟩ ↔
      ∀ s, withoutTabs rest = '/' :: s → ∀ c ∈ s.head?, isDelimiter c = true := by
  rw [urlparse_slash]
  split
  · rename_i s hs
    have hnil : (∀ s', withoutTabs rest = '/' :: s' → ∀ c ∈ s'.head?, isDelimiter c = true) ↔
        splitNetloc s = [] := by
      rw [splitNetloc_eq_nil]
      exact ⟨fun h => h s hs, fun h s' hs' => by
        rw [hs] at hs'
        rwa [← (List.cons.inj hs').2]⟩
    rw [hnil]
    constructor
    · intro h
      split at h
      · cases h
      · exact congrArg ParseResult.netloc (Option.some.inj h)
    · intro h
      rw [h, if_neg (by simp [check.empty_ok])]
  · rename_i hne
    exact iff_of_true rfl fun s hs => absurd hs (hne s)

/-- A text that hides an authority passes unchanged. -/
lemma sanitizeNext_hides {nextPath : String} (h : HidesAuthority nextPath) :
    sanitizeNext check (some nextPath) = .ok nextPath := by
  obtain ⟨rest, hpath, hhides⟩ := h
  have hne : nextPath ≠ "" := by
    rintro rfl
    cases hpath
  have hparse : urlparse check nextPath.toList = some ⟨[], []⟩ := by
    rw [hpath, urlparse_slash_eq_nothing]
    intro s hs
    rcases hhides with ⟨s', hs'⟩ | ⟨s', hs', hdelim⟩
    · rw [hs] at hs'
      cases hs'
    · rw [hs] at hs'
      rwa [(List.cons.inj hs').2]
  have hhead : nextPath.toList.head? = some '/' := by rw [hpath, List.head?_cons]
  unfold sanitizeNext
  simp only [hne, if_false, hparse, hhead, ne_eq, not_true_eq_false, or_self]

/-- What passes and hides no authority stays on the origin. -/
lemma onOrigin_of_sanitizeNext {nextPath : Option String} {path : String}
    (h : sanitizeNext check nextPath = .ok path)
    (hhides : ∀ t, nextPath = some t → ¬ HidesAuthority t) : OnOrigin path := by
  rcases sanitizeNext_ok h with rfl | ⟨rfl, hslash, hparse⟩
  · exact onOrigin_root
  · obtain ⟨rest, hpath⟩ : ∃ rest, path.toList = '/' :: rest := List.head?_eq_some_iff.mp hslash
    refine ⟨rest, hpath, fun c hc => ?_⟩
    obtain ⟨s, hs⟩ : ∃ s, withoutTabs rest = c :: s := List.head?_eq_some_iff.mp hc
    rw [hpath, urlparse_slash_eq_nothing] at hparse
    -- a second slash or a backslash would be a hidden authority
    constructor
    · rintro rfl
      exact hhides _ rfl ⟨rest, hpath, Or.inr ⟨s, hs, hparse s hs⟩⟩
    · rintro rfl
      exact hhides _ rfl ⟨rest, hpath, Or.inl ⟨s, hs⟩⟩

lemma not_onOrigin {path : String} (h : HidesAuthority path) : ¬ OnOrigin path := by
  intro ⟨rest, hpath, hsecond⟩
  obtain ⟨rest', hpath', hhides⟩ := h
  obtain rfl : rest = rest' := (List.cons.inj (hpath.symm.trans hpath')).2
  rcases hhides with ⟨s, hs⟩ | ⟨s, hs, -⟩
  · exact (hsecond '\\' (by rw [hs]; rfl)).2 rfl
  · exact (hsecond '/' (by rw [hs]; rfl)).1 rfl

end Filter

/-! ## From the login to the callback -/

section RoundTrip

variable {Token : Type} (jwt : Jwt Token) (check : NetlocCheck) (draw : LoginDraw)

/-- What the callback reads back is what the filter has let through. -/
lemma decodeState_encodeState {nextPath : Option String} {token : Token} {now : ℤ}
    {state : OidcState} (hencode : encodeState jwt check draw nextPath = .ok token)
    (hdecode : decodeState jwt now token = .ok state) :
    sanitizeNext check nextPath = .ok state.nextPath := by
  obtain ⟨n, hn, htoken⟩ := bind_eq_ok.mp hencode
  obtain rfl := Except.ok.inj htoken
  rw [decodeState_encode] at hdecode
  split at hdecode
  · obtain rfl := Except.ok.inj hdecode
    exact hn
  · cases hdecode

/-- **No open redirect after login**, exactly for a `next` that hides no authority: the path that
comes back out of the state stays on the origin, and a browser keeps the host. -/
theorem redirect_onOrigin_iff (nextPath : Option String) :
    (∀ token now state, encodeState jwt check draw nextPath = .ok token →
      decodeState jwt now token = .ok state →
        OnOrigin state.nextPath ∧ resolve state.nextPath.toList = .base) ↔
      ∀ t, nextPath = some t → ¬ HidesAuthority t := by
  constructor
  · rintro h t rfl hhides
    have hencode : encodeState jwt check draw (some t)
        = .ok (jwt.encode (statePayload draw t)) := by
      rw [encodeState, sanitizeNext_hides hhides]
      rfl
    -- the callback that follows at once reads the state
    have hdecode := decodeState_encode jwt draw.now draw t
    have hfresh : draw.now ≤ draw.now ∧ draw.now < draw.now + stateTtlSeconds := by
      unfold stateTtlSeconds
      omega
    rw [if_pos hfresh] at hdecode
    exact not_onOrigin hhides (h _ _ _ hencode hdecode).1
  · intro h token now state hencode hdecode
    have horigin := onOrigin_of_sanitizeNext
      (decodeState_encodeState jwt check draw hencode hdecode) h
    exact ⟨horigin, horigin.resolve⟩

end RoundTrip

/-- A library that hands the payload around as it is. -/
def plainJwt : Jwt PyDict where
  encode payload := payload
  decode now payload := if freshAt now payload then .ok payload else .error Exc.invalidToken
  decode_encode _ _ := rfl

/-- A check that refuses nothing. -/
def laxNetlocs : NetlocCheck := ⟨fun _ => false, rfl⟩

/-- Three slashes pass, and a browser goes to `evil.com`. -/
theorem redirect_leaves_origin :
    ¬ ∀ (Token : Type) (jwt : Jwt Token) (check : NetlocCheck) (draw : LoginDraw)
      (nextPath : Option String) (token : Token) (now : ℤ) (state : OidcState),
      encodeState jwt check draw nextPath = .ok token → decodeState jwt now token = .ok state →
        OnOrigin state.nextPath := by
  intro h
  have horigin := h PyDict plainJwt laxNetlocs ⟨"csrf", "nonce", "verifier", 0⟩
    (some "///evil.com") _ 0 ⟨⟨"verifier", "///evil.com", "nonce"⟩, "csrf"⟩ rfl (by decide)
  refine not_onOrigin ?_ horigin
  refine ⟨"//evil.com".toList, by decide, Or.inr ⟨"/evil.com".toList, by decide, fun c hc => ?_⟩⟩
  cases hc
  decide

end Sleuthgraph
