import Sleuthgraph.Plugins.Http

/-!
# The `github_public` plugin (`plugins/builtin/github_public.py`)

The GitHub profile of a person, or the profiles that a search for an email finds. A 404 is read
like an answer. An HTTP error other than one of the status is no failure of the plugin: the
evidence then says that the fetch went wrong.
-/

namespace Sleuthgraph

namespace GithubPublic

/-- `input_entity.type == EntityType.EMAIL.value` -/
def isEmail (input : Entity) : Bool := input.type = EntityType.email.value

/-- `url` -/
def urlOf (input : Entity) (term : List Char) : List Char :=
  if isEmail input then
    "https://api.github.com/search/users?".toList
      ++ urlencode [("q".toList, term ++ " in:email".toList)]
  else "https://api.github.com/users/".toList ++ quote term

def requestOf (input : Entity) (term : List Char) : HttpRequest :=
  ⟨urlOf input term, [userAgent, ("Accept", "application/vnd.github+json")]⟩

/-! ## Fetching -/

/-- What an attempt makes of a response: the body, its JSON value and the status. -/
def accept (u : Upstream) (request : HttpRequest) (response : HttpResponse) :
    Except Exc (Bytes × Option PyVal × ℕ) :=
  if response.status = 404 then do
    let raw ← readUpTo (Exc.tooLong "github") response.broken [] response.chunks
    .ok (raw, none, 404)
  else do
    let raw ← readBody (Exc.tooLong "github") u.client request response
    let parsed ← parseBody u raw
    .ok (raw, parsed, response.status)

/-- One attempt of `_fetch`. -/
def fetchOnce (u : Upstream) (request : HttpRequest) (n : ℕ) :
    Except Exc (Bytes × Option PyVal × ℕ) := do
  let response ← u.client.send n request
  accept u request response

/-- `_fetch`, whose `@retry` does not look at the time. -/
def fetch (u : Upstream) (request : HttpRequest) : Except Exc (Bytes × Option PyVal × ℕ) :=
  attempts (fun _ => false) (fetchOnce u request) 2 1

/-- What `query` makes of the outcome of `_fetch`: the body, its JSON value and `fetch_status`. -/
def settle : Except Exc (Bytes × Option PyVal × ℕ) → Except Exc (Bytes × Option PyVal × String)
  | .ok (raw, parsed, status) =>
    if status = 404 then .ok (raw, none, "not_found") else .ok (raw, parsed, "ok")
  | .error e =>
    if e.isinstance "HTTPStatusError" then .error e
    else if e.isinstance "HTTPError" then .ok ([], none, "error")
    else .error e

/-! ## Proposals -/

/-- A login that is a text and not empty. -/
def loginOf (profile : PyDict) : Option String :=
  match profile.lookup "login" with
  | some (.str login) => if login = "" then none else some login
  | _ => none

/-- The relationship of a profile with the input. -/
def relationshipProposal (ref : String) (confidence : ℚ) : RelationshipProposal :=
  ⟨refEnd ref, inputEnd, .associatedWith, confidence, [("source", .str "github_public")]⟩

/-- The loop over the items of a search, from the `i`-th. -/
def itemProposals :
    ℕ → List PyVal → Except Exc (List EntityProposal × List RelationshipProposal)
  | _, [] => .ok ([], [])
  | i, .dict item :: items => match loginOf item with
    | some login => do
      let ref := numbered "gh" i
      let entity ← EntityProposal.validate ref .person login.toList
        [("discovered_via", .str "github_public"), ("github_login", .str login),
          ("github_id", PyDict.get item "id"), ("github_url", PyDict.get item "html_url")]
        (7 / 10)
      let (entities, relationships) ← itemProposals (i + 1) items
      .ok (entity :: entities, relationshipProposal ref (7 / 10) :: relationships)
    | none => itemProposals (i + 1) items
  | i, _ :: items => itemProposals (i + 1) items

/-- The proposals for the profile of a person. -/
def profileProposals (profile : PyDict) :
    Except Exc (List EntityProposal × List RelationshipProposal) :=
  match loginOf profile with
  | some login => do
    let ref := numbered "gh" 0
    let entity ← EntityProposal.validate ref .person login.toList
      [("discovered_via", .str "github_public"), ("github_login", .str login),
        ("github_id", PyDict.get profile "id"), ("bio", PyDict.get profile "bio"),
        ("company", PyDict.get profile "company"), ("location", PyDict.get profile "location"),
        ("github_url", PyDict.get profile "html_url"),
        ("created_at", PyDict.get profile "created_at")] (9 / 10)
    .ok ([entity], [relationshipProposal ref (9 / 10)])
  | none => .ok ([], [])

/-- The proposals for an answer. -/
def proposals (input : Entity) :
    Option PyVal → Except Exc (List EntityProposal × List RelationshipProposal)
  | some (.dict answer) =>
    if isEmail input then itemProposals 0 (listOrEmpty (answer.lookup "items"))
    else profileProposals answer
  | _ => .ok ([], [])

/-! ## The plugin -/

def spec (u : Upstream) (url : List Char) (matchCount : ℕ) (fetchStatus : String) : PyDict :=
  [("url", .str (String.ofList url)), ("method", .str "GET"), ("queried_at", .str u.now),
    ("match_count", .int matchCount), ("fetch_status", .str fetchStatus)]

/-- What `query` makes of the body, its JSON value and `fetch_status`. -/
def resultOf (u : Upstream) (input : Entity) (term : List Char) (raw : Bytes)
    (parsed : Option PyVal) (fetchStatus : String) : Except Exc QueryResult := do
  let (entities, relationships) ← proposals input parsed
  let evidence ← EvidenceProposal.validate ("GitHub public lookup for ".toList ++ term)
    (orEmptyObject raw) (spec u (urlOf input term) entities.length fetchStatus)
  .ok ⟨entities, relationships, [evidence]⟩

/-- `GithubPublicPlugin.query` -/
def query (u : Upstream) (input : Entity) : Except Exc QueryResult :=
  let term := strip input.label.toList
  if term.isEmpty then .ok ⟨[], [], []⟩
  else do
    let (raw, parsed, fetchStatus) ← settle (fetch u (requestOf input term))
    resultOf u input term raw parsed fetchStatus

end GithubPublic

/-- `GithubPublicPlugin` -/
def githubPublicPlugin (u : Upstream) : OSINTPlugin where
  name := "github_public"
  version := "0.1.0"
  entityTypesAccepted := [.person, .email]
  requiresCredentials := false
  dispatchMode := .sync
  premium := false
  query := fun input _ => GithubPublic.query u input

end Sleuthgraph
