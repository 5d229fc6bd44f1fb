import Sleuthgraph.Auth.OidcState
import Sleuthgraph.Lib.Systems

/-!
# Browsers, server and identity provider (`auth/oidc.py`)

The login as a system of parties. The server answers `/oidc/login` to one browser with a
redirect that carries a signed state; anyone can take an authorization request to the identity
provider and come back with a code; any browser can bring any code and any state to
`/oidc/callback`. The provider keeps its side: a code is good once, for the verifier of its
challenge, and the id_token carries the nonce of the request.
-/

namespace Sleuthgraph

open Urls Programs Transactions Tables Systems

/-! ## The identity provider -/

/-- An authorization code and what it stands for. -/
structure Grant where
  code : String
  challenge : String
  nonce : String
  response : PyDict
  claims : PyDict
  userinfo : String × PyVal

/-- `IdTokenError(reason)` -/
def Exc.idTokenError (reason : String) : Exc :=
  { mro := ["IdTokenError", "Exception"], text := reason }

/-- `httpx_oauth.oauth2.GetAccessTokenError` -/
def Exc.getAccessTokenError : Exc :=
  { mro := ["GetAccessTokenError", "OAuth2RequestError", "HTTPXOAuthError", "Exception"] }

/-- The nonce check of `validate_id_token`. -/
def checkNonce (claims : PyDict) (nonce : String) : Except Exc PyDict :=
  let tokenNonce := PyDict.get claims "nonce"
  if !tokenNonce.truthy then .error (Exc.idTokenError "missing_nonce")
  else if tokenNonce ≠ .str nonce then .error (Exc.idTokenError "bad_nonce")
  else .ok claims

/-- The claims of the id_token: those of the account, and the nonce of the request. -/
def Grant.idToken (g : Grant) : PyDict := ("nonce", .str g.nonce) :: g.claims

/-- `code_challenge` of a verifier, and the unspent codes. -/
structure Provider where
  challenge : String → String
  grants : List Grant

namespace Provider

/-- The grant of a code. -/
def find (idp : Provider) (code : String) : Option Grant :=
  idp.grants.find? fun g => g.code = code

/-- The grant of a code, for the verifier of its challenge. -/
def redeem (idp : Provider) (code verifier : String) : Option Grant :=
  (idp.find code).filter fun g => g.challenge = idp.challenge verifier

/-- The code is spent. -/
def spend (idp : Provider) (code : String) : Provider :=
  { idp with grants := idp.grants.filter fun g => g.code ≠ code }

end Provider

/-! ## Requests -/

variable {Token : Type}

/-- What a callback finds in the state and hears from the provider. -/
def exchange (jwt : Jwt Token) (now : ℤ) (idp : Provider) (code : String) (state : Token) :
    Exchange where
  configured := true
  state := (decodeState jwt now state).map OidcState.toStatePayload
  accessToken payload :=
    match idp.redeem code payload.codeVerifier with
    | some g => .ok g.response
    | none => .error Exc.getAccessTokenError
  validateIdToken _ payload :=
    match idp.redeem code payload.codeVerifier with
    | some g => checkNonce g.idToken payload.oidcNonce
    | none => .error (Exc.idTokenError "bad_signature")
  userinfo _ :=
    match idp.find code with
    | some g => .ok g.userinfo
    | none => .error Exc.getAccessTokenError

/-- The provider after a callback: a code whose verifier was right is spent. -/
def afterExchange (jwt : Jwt Token) (now : ℤ) (idp : Provider) (code : String) (state : Token) :
    Provider :=
  match decodeState jwt now state with
  | .ok payload => if (idp.redeem code payload.codeVerifier).isSome then idp.spend code else idp
  | .error _ => idp

/-- What a callback draws, and its clocks. -/
structure CallbackDraw where
  now : ℤ
  drawn : Drawn
  sessionToken : String
  createdAt : Time

/-! ## The system -/

/-- A state the server has handed out in a response to `/oidc/login`. -/
structure Issued (Browser Token : Type) where
  browser : Browser
  draw : LoginDraw
  nextPath : String
  state : Token

/-- A session cookie that a callback has set, and the state that callback was given. -/
structure SignIn (Browser Token : Type) where
  browser : Browser
  state : Token
  sessionToken : String

structure LoginState (Browser Token : Type) where
  users : UserStore
  idp : Provider
  issued : List (Issued Browser Token)
  signIns : List (SignIn Browser Token)

/-- A request to the server, or an authorization at the provider. -/
inductive LoginAction (Browser Token : Type) where
  | login (browser : Browser) (draw : LoginDraw) (nextPath : Option String)
  | authorize (grant : Grant)
  | callback (browser : Browser) (code : String) (state : Token) (draw : CallbackDraw)

/-- The server's settings and libraries. -/
structure LoginServer (Token : Type) where
  jwt : Jwt Token
  netlocs : NetlocCheck
  lower : String → String
  allowSignup : Bool

variable {Browser : Type} (server : LoginServer Token)

/-- `oidc_login`: the response of a login that is not refused carries its state. -/
def oidcLogin (browser : Browser) (draw : LoginDraw) (nextPath : Option String)
    (s : LoginState Browser Token) : LoginState Browser Token :=
  match sanitizeNext server.netlocs nextPath with
  | .error _ => s
  | .ok n =>
    let state := server.jwt.encode (statePayload draw n)
    { s with issued := ⟨browser, draw, n, state⟩ :: s.issued }

/-- A callback in a session of its own. -/
def callbackRun (code : String) (state : Token) (draw : CallbackDraw)
    (s : LoginState Browser Token) :
    Except Exc (String × String) × Session UserStore UserWrite Unit :=
  oidcCallback server.lower (exchange server.jwt draw.now s.idp code state) server.allowSignup
    draw.drawn draw.sessionToken draw.createdAt ⟨s.users, [], false, ()⟩

/-- `oidc_callback`: when it returns, its response sets the session cookie. -/
def callbackStep (browser : Browser) (code : String) (state : Token) (draw : CallbackDraw)
    (s : LoginState Browser Token) : LoginState Browser Token :=
  let (r, session) := callbackRun server code state draw s
  { s with
    users := session.committed
    idp := afterExchange server.jwt draw.now s.idp code state
    signIns := match r with
      | .ok (_, cookie) => ⟨browser, state, cookie⟩ :: s.signIns
      | .error _ => s.signIns }

/-- One step. A code the provider issues is new. -/
def loginStep (s : LoginState Browser Token) :
    LoginAction Browser Token → Option (LoginState Browser Token)
  | .login browser draw nextPath => some (oidcLogin server browser draw nextPath s)
  | .authorize grant =>
    if (s.idp.find grant.code).isSome then none
    else some { s with idp := { s.idp with grants := grant :: s.idp.grants } }
  | .callback browser code state draw => some (callbackStep server browser code state draw s)

/-- Before the first request. -/
def LoginState.start (users : UserStore) (challenge : String → String) :
    LoginState Browser Token := ⟨users, ⟨challenge, []⟩, [], []⟩

/-- Signatures cannot be forged: a state that was not handed out does not decode. -/
def Unforged (s : LoginState Browser Token) : LoginAction Browser Token → Prop
  | .callback _ _ state draw =>
    (∃ i ∈ s.issued, i.state = state) ∨ ∃ e, decodeState server.jwt draw.now state = .error e
  | _ => True

end Sleuthgraph
