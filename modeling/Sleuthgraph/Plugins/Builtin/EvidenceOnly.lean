import Sleuthgraph.Plugins.Http

/-!
# The plugins that give evidence only (`aleph_occrp.py`, `opensanctions.py`, `urlhaus.py`)

The first two search for a person or an organization and count the hits. `urlhaus` posts a URL or
a host as a form, and its client reads the whole body. All three let HTTP errors propagate.
-/

namespace Sleuthgraph

/-! ## Searches -/

/-- A search by name: where it goes, how many hits it asks for, the name in its error about the
size, and the words before the name in the evidence. -/
structure HitSearch where
  baseUrl : String
  limit : ℕ
  service : String
  question : String

namespace HitSearch

variable (s : HitSearch)

/-- `f"{self.BASE_URL}?{urlencode({'q': term, 'limit': ...})}"` -/
def urlOf (term : List Char) : List Char :=
  s.baseUrl.toList ++ '?' :: urlencode
    [("q".toList, term), ("limit".toList, (toString s.limit).toList)]

def requestOf (term : List Char) : HttpRequest := ⟨s.urlOf term, [userAgent]⟩

/-- `hit_count` -/
def hitCount (parsed : Option PyVal) : ℕ :=
  (listOrEmpty ((dictOrEmpty parsed).lookup "results")).length

/-- What an attempt makes of a response. -/
def accept (u : Upstream) (request : HttpRequest) (response : HttpResponse) :
    Except Exc (Bytes × ℕ) := do
  let raw ← readBody (Exc.tooLong s.service) u.client request response
  let parsed ← parseBody u raw
  .ok (raw, hitCount parsed)

/-- One attempt of `_fetch`. -/
def fetchOnce (u : Upstream) (request : HttpRequest) (n : ℕ) : Except Exc (Bytes × ℕ) := do
  let response ← u.client.send n request
  s.accept u request response

/-- `_fetch` -/
def fetch (u : Upstream) (request : HttpRequest) : Except Exc (Bytes × ℕ) :=
  withRetry u.client (s.fetchOnce u request)

def spec (u : Upstream) (url : List Char) (hits : ℕ) : PyDict :=
  [("url", .str (String.ofList url)), ("method", .str "GET"), ("queried_at", .str u.now),
    ("hit_count", .int hits), ("matched", .bool (decide (0 < hits))),
    ("fetch_status", .str "ok")]

/-- What `query` makes of the body and its hits. -/
def resultOf (u : Upstream) (term : List Char) (raw : Bytes) (hits : ℕ) :
    Except Exc QueryResult := do
  let evidence ← EvidenceProposal.validate (s.question.toList ++ term) (orEmptyObject raw)
    (spec u (s.urlOf term) hits)
  .ok ⟨[], [], [evidence]⟩

/-- `query` -/
def query (u : Upstream) (input : Entity) : Except Exc QueryResult :=
  let term := strip input.label.toList
  if term.isEmpty then .ok ⟨[], [], []⟩
  else do
    let (raw, hits) ← s.fetch u (s.requestOf term)
    s.resultOf u term raw hits

end HitSearch

/-- The search of `AlephOccrpPlugin`. -/
def alephOccrp : HitSearch where
  baseUrl := "https://aleph.occrp.org/api/2/entities"
  limit := 20
  service := "aleph"
  question := "Aleph (OCCRP) search for "

/-- The search of `OpenSanctionsPlugin`. -/
def openSanctions : HitSearch where
  baseUrl := "https://api.opensanctions.org/search/default"
  limit := 10
  service := "opensanctions"
  question := "OpenSanctions search for "

/-- `AlephOccrpPlugin` -/
def alephOccrpPlugin (u : Upstream) : OSINTPlugin where
  name := "aleph_occrp"
  version := "0.1.0"
  entityTypesAccepted := [.person, .organization]
  requiresCredentials := false
  dispatchMode := .sync
  premium := false
  query := fun input _ => alephOccrp.query u input

/-- `OpenSanctionsPlugin` -/
def openSanctionsPlugin (u : Upstream) : OSINTPlugin where
  name := "opensanctions"
  version := "0.1.0"
  entityTypesAccepted := [.person, .organization]
  requiresCredentials := false
  dispatchMode := .sync
  premium := false
  query := fun input _ => openSanctions.query u input

/-! ## Forms -/

/-- `client.post(url, data=form, ...)`: what the `n`-th request is answered. -/
abbrev FormClient : Type := ℕ → HttpRequest → List (String × List Char) → Except Exc HttpResponse

namespace Urlhaus

/-- The entity is a URL. -/
def isUrl (input : Entity) : Bool := input.type = EntityType.url.value

/-- `endpoint` -/
def endpoint (input : Entity) : List Char :=
  if isUrl input then "https://urlhaus-api.abuse.ch/v1/url/".toList
  else "https://urlhaus-api.abuse.ch/v1/host/".toList

/-- `form` -/
def form (input : Entity) (label : List Char) : List (String × List Char) :=
  if isUrl input then [("url", label)] else [("host", label)]

def requestOf (input : Entity) : HttpRequest := ⟨endpoint input, [userAgent]⟩

/-- The client reads the body before it answers, and raises what breaks it off. -/
def content (response : HttpResponse) : Except Exc Bytes :=
  match response.broken with
  | some e => .error e
  | none => .ok response.chunks.flatten

/-- What an attempt makes of a response. -/
def accept (u : Upstream) (request : HttpRequest) (response : HttpResponse) :
    Except Exc (Bytes × Option PyVal) := do
  let raw ← content response
  raiseForStatus u.client request response
  if maxResponseBytes < raw.length then .error (Exc.tooLong "urlhaus")
  else do
    let parsed ← parseBody u raw
    .ok (raw, parsed)

/-- One attempt of `_fetch`. -/
def fetchOnce (u : Upstream) (post : FormClient) (request : HttpRequest)
    (fields : List (String × List Char)) (n : ℕ) : Except Exc (Bytes × Option PyVal) := do
  let response ← post n request fields
  accept u request response

/-- `_fetch` -/
def fetch (u : Upstream) (post : FormClient) (request : HttpRequest)
    (fields : List (String × List Char)) : Except Exc (Bytes × Option PyVal) :=
  withRetry u.client (fetchOnce u post request fields)

variable (py : Interp)

/-- `query_status`, the `str` of the value. It is defined: `json.loads` refuses the integers
that `str` refuses. -/
def queryStatus (parsed : Option PyVal) : String :=
  match parsed with
  | some (.dict data) => match (data.lookup "query_status").getD (.str "") with
    | .str s => s
    | v => py.str v
  | _ => ""

/-- `malicious` -/
def malicious (parsed : Option PyVal) : Bool :=
  queryStatus py parsed = "ok" &&
    match (dictOrEmpty parsed).lookup "url_info" with
    | some (.dict _) => true
    | _ => !(listOrEmpty ((dictOrEmpty parsed).lookup "urls")).isEmpty

def spec (u : Upstream) (input : Entity) (parsed : Option PyVal) : PyDict :=
  [("url", .str (String.ofList (endpoint input))), ("method", .str "POST"),
    ("queried_at", .str u.now), ("query_status", .str (queryStatus py parsed)),
    ("malicious", .bool (malicious py parsed)), ("fetch_status", .str "ok")]

/-- What `query` makes of the body and its JSON value. -/
def resultOf (u : Upstream) (input : Entity) (label : List Char) (raw : Bytes)
    (parsed : Option PyVal) : Except Exc QueryResult := do
  let evidence ← EvidenceProposal.validate ("URLhaus lookup for ".toList ++ label)
    (orEmptyObject raw) (spec py u input parsed)
  .ok ⟨[], [], [evidence]⟩

/-- `UrlhausPlugin.query` -/
def query (u : Upstream) (post : FormClient) (input : Entity) : Except Exc QueryResult :=
  let label := strip input.label.toList
  if label.isEmpty then .ok ⟨[], [], []⟩
  else do
    let (raw, parsed) ← fetch u post (requestOf input) (form input label)
    resultOf py u input label raw parsed

end Urlhaus

/-- `UrlhausPlugin` -/
def urlhausPlugin (py : Interp) (u : Upstream) (post : FormClient) : OSINTPlugin where
  name := "urlhaus"
  version := "0.1.0"
  entityTypesAccepted := [.url, .domain]
  requiresCredentials := false
  dispatchMode := .sync
  premium := false
  query := fun input _ => Urlhaus.query py u post input

end Sleuthgraph
