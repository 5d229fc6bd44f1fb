import Sleuthgraph.Auth.OidcProvision

/-!
# The OIDC callback (`auth/oidc.py`)

`oidc_callback` exchanges the code, validates the id_token, reads the identity off its claims
(with userinfo as a second source for the email), resolves it to an account and issues a
session token. The identity provider and the token library answer through `Exchange`.
-/

namespace Sleuthgraph

open Programs Transactions Tables

/-- `except classes as exc: raise replacement from exc` -/
def catching {α : Type} (classes : List String) (replacement : Exc) :
    Except Exc α → Except Exc α
  | .ok a => .ok a
  | .error e => .error (if classes.any e.isinstance then replacement else e)

/-- What `decode_state` recovers from the signed state. -/
structure StatePayload where
  codeVerifier : String
  nextPath : String
  oidcNonce : String
deriving DecidableEq, Repr

/-- How the world answers one callback: whether SSO is configured, `decode_state`, the token
endpoint, `validate_id_token` and the userinfo endpoint. -/
structure Exchange where
  configured : Bool
  state : Except Exc StatePayload
  accessToken : StatePayload → Except Exc PyDict
  validateIdToken : PyVal → StatePayload → Except Exc PyDict
  userinfo : PyVal → Except Exc (String × PyVal)

/-- From the request to the validated claims, with the token response. -/
def callbackClaims (w : Exchange) : Except Exc (StatePayload × PyDict × PyDict) :=
  if !w.configured then .error (Exc.http 404 "oidc_not_configured")
  else do
    let payload ← catching ["StateError"] (Exc.http 400 "invalid_state") w.state
    let token ← catching ["HTTPXOAuthError", "HTTPError", "KeyError"]
      (Exc.http 400 "oidc_exchange_failed") (w.accessToken payload)
    let idToken := PyDict.get token "id_token"
    if !idToken.truthy then .error (Exc.http 400 "oidc_missing_id_token")
    else do
      let claims ← catching ["IdTokenError"] (Exc.http 400 "oidc_invalid_id_token")
        (w.validateIdToken idToken payload)
      .ok (payload, token, claims)

/-- The identity a callback resolves. -/
structure Identity where
  sub : PyVal
  email : PyVal
  emailVerified : Bool

/-- `token["access_token"]`, then `client.get_id_email` -/
def userinfoEmail (w : Exchange) (token : PyDict) : Except Exc PyVal :=
  if PyDict.contains token "access_token" then
    catching ["GetIdEmailError", "HTTPXOAuthError", "HTTPError"]
      (Exc.http 400 "oidc_userinfo_failed")
      ((w.userinfo (PyDict.get token "access_token")).map fun (_sub, email) => email)
  else .error Exc.keyError

/-- The email claim, or the fallback to userinfo. -/
def callbackEmail (w : Exchange) (token claims : PyDict) : Except Exc PyVal :=
  let email := PyDict.get claims "email"
  if !email.truthy then userinfoEmail w token else .ok email

/-- From the claims to the identity. The userinfo answer is asked for its email only. -/
def callbackIdentity (w : Exchange) (token claims : PyDict) : Except Exc Identity :=
  let sub := PyDict.get claims "sub"
  let emailVerified := (PyDict.get claims "email_verified").truthy
  if !sub.truthy then .error (Exc.http 400 "oidc_missing_sub")
  else do
    let email ← callbackEmail w token claims
    if !email.truthy then .error (Exc.http 400 "oidc_missing_email")
    else .ok ⟨sub, email, emailVerified⟩

/-- The handlers around `resolve_oidc_user`. -/
def provisionError (e : Exc) : Exc :=
  if e.isinstance "OidcAccountNotLinked" then Exc.http 403 "oidc_account_not_linked"
  else if e.isinstance "OidcAccountConflict" then Exc.http 409 "oidc_account_conflict"
  else e

variable (lower : String → String)

/-- `oidc_callback`: where to redirect to, and the session token of the cookie. -/
def oidcCallback (w : Exchange) (allowSignup : Bool) (drawn : Drawn) (sessionToken : String)
    (now : Time) : AuthDb (String × String) := do
  let (payload, token, claims) ← Prog.ofExcept (callbackClaims w)
  let identity ← Prog.ofExcept (callbackIdentity w token claims)
  let user ← tryCatch
    (resolveOidcUser lower drawn identity.sub identity.email identity.emailVerified allowSignup)
    fun e => throw (provisionError e)
  write false (.insertToken ⟨sessionToken, user.id, now⟩)
  commit false
  pure (payload.nextPath, sessionToken)

end Sleuthgraph
