import Sleuthgraph.Auth.OidcCallback
import Sleuthgraph.Lib.Urls

/-!
# The OIDC state (`auth/oidc_state.py`)

What `/oidc/login` signs and `/oidc/callback` reads back: the CSRF token, the nonce, the PKCE
verifier and the path to redirect to after the login, which `_sanitize_next` has filtered. The
token library is a parameter: it gives back what it has signed, while that is fresh.
-/

namespace Sleuthgraph

open Urls

/-- `StateError("invalid_state")` -/
def Exc.stateError : Exc := { mro := ["StateError", "Exception"], text := "invalid_state" }

/-- `jwt.InvalidTokenError` -/
def Exc.invalidToken : Exc := { mro := ["InvalidTokenError", "PyJWTError", "Exception"] }

/-- `STATE_TTL_SECONDS` -/
def stateTtlSeconds : ℤ := 300

/-- The `iat` and `exp` of a payload admit the time `now`. -/
def freshAt (now : ℤ) (payload : PyDict) : Bool :=
  match PyDict.get payload "iat", PyDict.get payload "exp" with
  | .int iat, .int exp => iat ≤ now && now < exp
  | _, _ => false

/-- The token library with the key of the states. -/
structure Jwt (Token : Type) where
  encode : PyDict → Token
  decode : ℤ → Token → Except Exc PyDict
  decode_encode : ∀ now payload, decode now (encode payload)
    = if freshAt now payload then .ok payload else .error Exc.invalidToken

/-- `OidcState` -/
structure OidcState extends StatePayload where
  csrf : String
deriving DecidableEq, Repr

/-- What one login draws, and its clock in seconds. -/
structure LoginDraw where
  csrf : String
  oidcNonce : String
  codeVerifier : String
  now : ℤ
deriving DecidableEq, Repr

/-- `_sanitize_next` -/
def sanitizeNext (check : NetlocCheck) : Option String → Except Exc String
  | none => .ok "/"
  | some nextPath =>
    if nextPath = "" then .ok "/"
    else match urlparse check nextPath.toList with
      | none => .error Exc.valueError
      | some parsed =>
        if parsed.scheme ≠ [] ∨ parsed.netloc ≠ [] then .ok "/"
        else if nextPath.toList.head? ≠ some '/' then .ok "/"
        else .ok nextPath

/-- The payload of a state. -/
def statePayload (draw : LoginDraw) (nextPath : String) : PyDict :=
  [("csrf", .str draw.csrf), ("oidc_nonce", .str draw.oidcNonce), ("cv", .str draw.codeVerifier),
    ("n", .str nextPath), ("iat", .int draw.now), ("exp", .int (draw.now + stateTtlSeconds))]

variable {Token : Type}

/-- `encode_state` -/
def encodeState (jwt : Jwt Token) (check : NetlocCheck) (draw : LoginDraw)
    (nextPath : Option String) : Except Exc Token := do
  let n ← sanitizeNext check nextPath
  .ok (jwt.encode (statePayload draw n))

/-- `payload[key]`. Only `encode_state` signs with this key, so the values are texts. -/
def stateItem (payload : PyDict) (key : String) : Except Exc String :=
  if PyDict.contains payload key then .ok (PyDict.get payload key).text else .error Exc.keyError

/-- `decode_state` -/
def decodeState (jwt : Jwt Token) (now : ℤ) (token : Token) : Except Exc OidcState := do
  let payload ← catching ["InvalidTokenError"] Exc.stateError (jwt.decode now token)
  catching ["KeyError"] Exc.stateError do
    let csrf ← stateItem payload "csrf"
    let oidcNonce ← stateItem payload "oidc_nonce"
    let codeVerifier ← stateItem payload "cv"
    let nextPath ← stateItem payload "n"
    .ok { csrf, oidcNonce, codeVerifier, nextPath }

/-- The state a login signs comes back as it was, for five minutes. -/
theorem decodeState_encode (jwt : Jwt Token) (now : ℤ) (draw : LoginDraw) (nextPath : String) :
    decodeState jwt now (jwt.encode (statePayload draw nextPath))
      = if draw.now ≤ now ∧ now < draw.now + stateTtlSeconds then
          .ok ⟨⟨draw.codeVerifier, nextPath, draw.oidcNonce⟩, draw.csrf⟩
        else .error Exc.stateError := by
  have hfresh : freshAt now (statePayload draw nextPath)
      = decide (draw.now ≤ now ∧ now < draw.now + stateTtlSeconds) := by
    rw [Bool.decide_and]
    rfl
  unfold decodeState
  rw [jwt.decode_encode, hfresh]
  by_cases h : draw.now ≤ now ∧ now < draw.now + stateTtlSeconds
  · rw [if_pos (decide_eq_true h), if_pos h]
    rfl
  · rw [if_neg (by simpa using h), if_neg h]
    rfl

end Sleuthgraph
