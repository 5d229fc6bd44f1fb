import Sleuthgraph.Auth.LoginSystem
import Sleuthgraph.Lib.Threads
import Sleuthgraph.Text

/-!
# The id_token (`auth/oidc_id_token.py`)

`validate_id_token` checks the signature and the claims of an id_token. All validations of a
process share two caches, the discovery documents and the JWKS clients, with a lock around the
second, so a validation is a thread. PyJWT and the identity provider answer each step.
-/

namespace Sleuthgraph

open Threads

/-- A `PyJWKClient`, an object of its own. -/
structure JwksClient where
  serial : ℕ
  uri : PyVal
deriving DecidableEq, Repr

/-- What the process keeps: `_jwks_clients` and `_discovery_cache`, how many clients it has made,
and what its requests for a discovery document came to. -/
structure OidcCaches where
  jwksClients : String → Option JwksClient
  discovery : String → Option PyVal
  made : ℕ
  requests : List (String × Except Exc PyVal)

/-- A process that has just begun. -/
def OidcCaches.empty : OidcCaches := ⟨fun _ => none, fun _ => none, 0, []⟩

/-- The arguments of `jwt.decode`. Its options are the same at every call: it requires `iss`,
`aud`, `exp`, `iat` and `sub`, and verifies them and the signature. -/
structure DecodeArgs (Key : Type) where
  token : PyVal
  key : Key
  algorithms : List String
  audience : String
  issuer : String
  leeway : ℤ

/-- What a step may meet: the answer to a request for a discovery document, and the clock. -/
structure IdpInput where
  document : Except Exc PyVal
  now : ℤ

/-- What is outside: `str.lower`, and PyJWT with what it fetches. -/
structure IdTokenLib (Key : Type) where
  lower : String → String
  lower_rs256 : lower "RS256" = "rs256"
  signingKey : ℤ → JwksClient → PyVal → Except Exc Key
  decode : ℤ → DecodeArgs Key → Except Exc PyDict

/-- Code that validations run. -/
abbrev IdTokenCode (α : Type) := Thread OidcCaches IdpInput Exc α

namespace IdTokenCode

/-- A step that reads the caches. -/
def read {α : Type} (f : OidcCaches → α) : IdTokenCode α :=
  Thread.atomic fun _ s => (.ok (f s), s)

/-- A step that the world answers. -/
def ask {α : Type} (f : IdpInput → Except Exc α) : IdTokenCode α :=
  Thread.atomic fun i s => (f i, s)

def result {α : Type} (r : Except Exc α) : IdTokenCode α := .done r

end IdTokenCode

open IdTokenCode

/-- `doc.get(key)` -/
def docGet (doc : PyVal) (key : String) : Except Exc PyVal :=
  match doc with
  | .dict items => .ok (PyDict.get items key)
  | _ => .error Exc.attributeError

/-- `with httpx.Client(...)`: the request, and what it came to. -/
def requestDiscovery (issuer : String) : IdTokenCode PyVal :=
  Thread.atomic fun i s =>
    (i.document, { s with requests := s.requests ++ [(issuer, i.document)] })

/-- `_fetch_discovery` -/
def fetchDiscovery (issuer : String) : IdTokenCode PyVal := do
  if ← read fun s => (s.discovery issuer).isSome then
    let found ← read fun s => s.discovery issuer
    result (found.elim (.error Exc.keyError) .ok)
  else
    let doc ← requestDiscovery issuer
    Thread.atomic fun _ s =>
      (.ok doc, { s with discovery := Function.update s.discovery issuer (some doc) })

/-- The `jwks_uri` of a document, which has to have one. -/
def jwksUri (doc : PyVal) : Except Exc PyVal := do
  let uri ← docGet doc "jwks_uri"
  if !uri.truthy then .error (Exc.idTokenError "discovery_missing_jwks_uri") else .ok uri

/-- `PyJWKClient(jwks_uri, ...)`, and the entry for it. -/
def addClient (issuer : String) (uri : PyVal) : IdTokenCode JwksClient :=
  Thread.atomic fun _ s =>
    (.ok ⟨s.made, uri⟩,
      { s with
        jwksClients := Function.update s.jwksClients issuer (some ⟨s.made, uri⟩)
        made := s.made + 1 })

/-- `_jwks_client_for` -/
def jwksClientFor (issuer : String) : IdTokenCode JwksClient :=
  Thread.locked do
    match ← read fun s => s.jwksClients issuer with
    | some client => return client
    | none =>
      let doc ← fetchDiscovery issuer
      let uri ← result (jwksUri doc)
      addClient issuer uri

/-- `for a in algs` -/
def iterate : PyVal → Except Exc (List PyVal)
  | .list items => .ok items
  | .str s => .ok (s.toList.map fun c => .str c.toString)
  | .dict items => .ok (items.map fun kv => .str kv.1)
  | _ => .error Exc.typeError

/-- `[a for a in algs if a and a.lower() != "none"]` -/
def notNone (lower : String → String) : List PyVal → Except Exc (List String)
  | [] => .ok []
  | a :: algs =>
    if !a.truthy then notNone lower algs
    else match a with
      | .str s => do
        let rest ← notNone lower algs
        .ok (if lower s ≠ "none" then s :: rest else rest)
      | _ => .error Exc.attributeError

/-- The algorithms that a document advertises, without `none`. -/
def advertisedAlgs (lower : String → String) (doc : PyVal) : Except Exc (List String) := do
  let found ← docGet doc "id_token_signing_alg_values_supported"
  let algs := if found.truthy then found else .list [.str "RS256"]
  let kept ← notNone lower (← iterate algs)
  .ok (if kept.isEmpty then ["RS256"] else kept)

variable {Key : Type} (lib : IdTokenLib Key)

/-- `_allowed_algs` -/
def allowedAlgs (issuer : String) : IdTokenCode (List String) := do
  let doc ← tryCatch (some <$> fetchDiscovery issuer) fun e =>
    if e.isinstance "Exception" then pure none else throw e
  match doc with
  | none => return ["RS256"]
  | some doc => result (advertisedAlgs lib.lower doc)

/-- The handlers around `jwt.decode`. -/
def decodeError (e : Exc) : Exc :=
  if e.isinstance "ExpiredSignatureError" then Exc.idTokenError "expired"
  else if e.isinstance "InvalidIssuerError" then Exc.idTokenError "bad_issuer"
  else if e.isinstance "InvalidAudienceError" then Exc.idTokenError "bad_audience"
  else if e.isinstance "InvalidTokenError" then Exc.idTokenError "bad_signature"
  else e

/-- The arguments of `validate_id_token`, with the default leeway. -/
structure Validation where
  idToken : PyVal
  issuer : String
  clientId : String
  nonce : String
  leewaySeconds : ℤ := 60

/-- `validate_id_token` -/
def Validation.validateIdToken (v : Validation) : IdTokenCode PyDict := do
  let client ← jwksClientFor v.issuer
  let key ← tryCatch (ask fun i => lib.signingKey i.now client v.idToken) fun e =>
    throw (if e.isinstance "Exception" then Exc.idTokenError "bad_signature" else e)
  let algorithms ← allowedAlgs lib v.issuer
  let payload ← tryCatch
    (ask fun i => lib.decode i.now ⟨v.idToken, key, algorithms, v.clientId, v.issuer,
      v.leewaySeconds⟩)
    fun e => throw (decodeError e)
  result (checkNonce payload v.nonce)

end Sleuthgraph
