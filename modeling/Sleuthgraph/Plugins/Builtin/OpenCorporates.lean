import Sleuthgraph.Plugins.Http

/-!
# The `opencorporates` plugin (`plugins/builtin/opencorporates.py`)

The companies that a search for a person or an organization finds, as entities that nothing links
to the input. An HTTP error is no failure of the plugin: the evidence then says that the fetch
went wrong.
-/

namespace Sleuthgraph

namespace OpenCorporates

/-- `MAX_MATCHES` -/
def maxMatches : ℕ := 50

/-- `f"{self.BASE_URL}?{urlencode({'q': term, 'format': 'json'})}"` -/
def urlOf (term : List Char) : List Char :=
  "https://api.opencorporates.com/v0.4/companies/search?".toList
    ++ urlencode [("q".toList, term), ("format".toList, "json".toList)]

def requestOf (term : List Char) : HttpRequest := ⟨urlOf term, [userAgent]⟩

/-! ## Fetching -/

/-- The companies of an answer. -/
def companiesOf (parsed : Option PyVal) : List PyDict :=
  let results := dictOrEmpty ((dictOrEmpty parsed).lookup "results")
  (listOrEmpty (results.lookup "companies")).filterMap fun
    | .dict wrapper => match wrapper.lookup "company" with
      | some (.dict company) => some company
      | _ => none
    | _ => none

/-- What an attempt makes of a response. -/
def accept (u : Upstream) (request : HttpRequest) (response : HttpResponse) :
    Except Exc (Bytes × List PyDict) := do
  let raw ← readBody (Exc.tooLong "opencorporates") u.client request response
  let parsed ← parseBody u raw
  .ok (raw, companiesOf parsed)

/-- One attempt of `_fetch`. -/
def fetchOnce (u : Upstream) (request : HttpRequest) (n : ℕ) :
    Except Exc (Bytes × List PyDict) := do
  let response ← u.client.send n request
  accept u request response

/-- `_fetch` -/
def fetch (u : Upstream) (request : HttpRequest) : Except Exc (Bytes × List PyDict) :=
  withRetry u.client (fetchOnce u request)

/-- What `query` makes of the outcome of `_fetch`: the body, the companies and `fetch_status`. -/
def settle : Except Exc (Bytes × List PyDict) → Except Exc (Bytes × List PyDict × String)
  | .ok (raw, companies) => .ok (raw, companies, "ok")
  | .error e => if e.isinstance "HTTPError" then .ok ([], [], "error") else .error e

/-! ## Proposals -/

/-- `attrs`, without the values that are `None`. -/
def attrsOf (company : PyDict) : PyDict :=
  [("discovered_via", .str "opencorporates"),
    ("jurisdiction", PyDict.get company "jurisdiction_code"),
    ("company_number", PyDict.get company "company_number"),
    ("status", PyDict.get company "current_status"),
    ("opencorporates_url", PyDict.get company "opencorporates_url")].filter fun (_, v) =>
      !(v == .none)

/-- The loop over the companies, from the `i`-th. -/
def entityProposals : ℕ → List PyDict → Except Exc (List EntityProposal)
  | _, [] => .ok []
  | i, company :: companies => match PyDict.get company "name" with
    | .str name =>
      if (strip name.toList).isEmpty then entityProposals (i + 1) companies
      else do
        let entity ← EntityProposal.validate (numbered "co" i) .organization (strip name.toList)
          (attrsOf company) (3 / 5)
        let entities ← entityProposals (i + 1) companies
        .ok (entity :: entities)
    | _ => entityProposals (i + 1) companies

/-! ## The plugin -/

def spec (u : Upstream) (url : List Char) (matchCount : ℕ) (truncated : Bool)
    (fetchStatus : String) : PyDict :=
  [("url", .str (String.ofList url)), ("method", .str "GET"), ("queried_at", .str u.now),
    ("match_count", .int matchCount), ("truncated", .bool truncated),
    ("max_matches", .int maxMatches), ("fetch_status", .str fetchStatus)]

/-- What `query` makes of the body, the companies and `fetch_status`. -/
def resultOf (u : Upstream) (term : List Char) (raw : Bytes) (companies : List PyDict)
    (fetchStatus : String) : Except Exc QueryResult := do
  let entities ← entityProposals 0 (companies.take maxMatches)
  let evidence ← EvidenceProposal.validate ("OpenCorporates search for ".toList ++ term)
    (orEmptyObject raw)
    (spec u (urlOf term) entities.length (decide (maxMatches < companies.length)) fetchStatus)
  .ok ⟨entities, [], [evidence]⟩

/-- `OpenCorporatesPlugin.query` -/
def query (u : Upstream) (input : Entity) : Except Exc QueryResult :=
  let term := strip input.label.toList
  if term.isEmpty then .ok ⟨[], [], []⟩
  else do
    let (raw, companies, fetchStatus) ← settle (fetch u (requestOf term))
    resultOf u term raw companies fetchStatus

end OpenCorporates

/-- `OpenCorporatesPlugin` -/
def openCorporatesPlugin (u : Upstream) : OSINTPlugin where
  name := "opencorporates"
  version := "0.1.0"
  entityTypesAccepted := [.person, .organization]
  requiresCredentials := false
  dispatchMode := .sync
  premium := false
  query := fun input _ => OpenCorporates.query u input

end Sleuthgraph
