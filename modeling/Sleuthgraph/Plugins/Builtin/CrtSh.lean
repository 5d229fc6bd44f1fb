import Sleuthgraph.Lib.Firsts
import Sleuthgraph.Plugins.Http
import Mathlib.Data.Char
import Mathlib.Data.List.Lex
import Mathlib.Data.List.Sort

/-!
# The `crtsh` plugin (`plugins/builtin/crtsh.py`)

Subdomains of a domain from Certificate Transparency logs: one proposal for each distinct name,
one relationship for each, and the raw answer as evidence. `_extract_subdomains` adds names to
a set until it holds `MAX_SUBDOMAINS`, and returns at the next name.
-/

namespace Sleuthgraph

open Firsts

namespace CrtSh

/-- `MAX_SUBDOMAINS` -/
def maxSubdomains : ℕ := 1000

/-- `input_entity.label.strip().lower()` -/
def domainOf (u : Upstream) (input : Entity) : List Char := u.text.lower (strip input.label.toList)

/-- `f"{self.BASE_URL}?{urlencode({'q': domain, 'output': 'json'})}"` -/
def urlOf (domain : List Char) : List Char :=
  "https://crt.sh/?".toList ++ urlencode [("q".toList, domain), ("output".toList, "json".toList)]

def requestOf (domain : List Char) : HttpRequest := ⟨urlOf domain, [userAgent]⟩

/-! ## Fetching -/

/-- A response with status 429 becomes an error that is retried. -/
def rateLimited (response : HttpResponse) : Exc :=
  let delay := (response.retryAfter.map fun seconds => min seconds 30).getD 0
  Exc.transportError ("crt.sh 429 rate-limited; slept " ++ toString delay ++ "s")

/-- One attempt of `_fetch`. -/
def fetchOnce (u : Upstream) (request : HttpRequest) (n : ℕ) :
    Except Exc (Bytes × List PyVal) := do
  let response ← u.client.send n request
  if response.status = 429 then .error (rateLimited response)
  else do
    let raw ← readResponse "crt.sh" u.client request response
    let data ← parseBody u raw
    .ok (raw, listOrEmpty data)

/-- `_fetch` -/
def fetch (u : Upstream) (request : HttpRequest) : Except Exc (Bytes × List PyVal) :=
  withRetry u.client (fetchOnce u request)

/-! ## Extracting -/

/-- `re.match(r"^[a-z0-9._-]+$", name)` -/
def nameRe : List Char → Bool :=
  dollar (runOf fun c => c.isLower || c.isDigit || c = '.' || c = '_' || c = '-')

/-- `name.strip().lower()` -/
def normalName (u : Upstream) (name : List Char) : List Char := u.text.lower (strip name)

/-- The tests of the loop on a name. -/
def accepted (domain name : List Char) : Bool :=
  !name.isEmpty && name.head? != some '*' && name != domain
    && List.isSuffixOf ('.' :: domain) name && nameRe name

/-- The names of an entry that pass the tests, in order. -/
def entryNames (u : Upstream) (domain : List Char) (entry : PyDict) : List (List Char) :=
  match (entry.lookup "name_value").getD (.str "") with
  | .str names => ((splitLines names.toList).map (normalName u)).filter (accepted domain)
  | _ => []

/-- The loop over the entries, with the set so far. It returns at a name that it meets with the
set full; an entry that is no dict has no `get`. -/
def extractFrom (u : Upstream) (domain : List Char) :
    List (List Char) → List PyVal → Except Exc (List (List Char) × Bool)
  | result, [] => .ok (result, false)
  | result, .dict entry :: data =>
    match collect maxSubdomains result (entryNames u domain entry) with
    | (result, true) => .ok (result, true)
    | (result, false) => extractFrom u domain result data
  | _, _ :: _ => .error Exc.attributeError

/-- `_extract_subdomains` -/
def extractSubdomains (u : Upstream) (data : List PyVal) (domain : List Char) :
    Except Exc (List (List Char) × Bool) :=
  extractFrom u domain [] data

/-! ## The plugin -/

/-- `sorted(subdomains)` -/
def sortedNames (names : List (List Char)) : List (List Char) :=
  names.insertionSort fun a b => a ≤ b

/-- The proposals of the subdomains from the `i`-th on. -/
def entityProposals : ℕ → List (List Char) → Except Exc (List EntityProposal)
  | _, [] => .ok []
  | i, sub :: subs => do
    let ep ← EntityProposal.validate (numbered "sub" i) .domain sub
      [("discovered_via", .str "crt.sh")] (4 / 5)
    let eps ← entityProposals (i + 1) subs
    .ok (ep :: eps)

/-- The subdomain `sub-i` of the input. -/
def relationshipProposal (i : ℕ) : RelationshipProposal :=
  ⟨refEnd (numbered "sub" i), inputEnd, .subdomainOf, 9 / 10, []⟩

/-- `f"crt.sh subdomain lookup for {domain}"` -/
def evidenceQuery (domain : List Char) : List Char :=
  "crt.sh subdomain lookup for ".toList ++ domain

def spec (u : Upstream) (url : List Char) (count : ℕ) (truncated : Bool) : PyDict :=
  [("url", .str (String.ofList url)), ("method", .str "GET"), ("queried_at", .str u.now),
    ("subdomain_count", .int count), ("truncated", .bool truncated),
    ("max_subdomains", .int maxSubdomains)]

/-- `CrtShPlugin.query` -/
def query (u : Upstream) (input : Entity) : Except Exc QueryResult :=
  let domain := domainOf u input
  if domain.isEmpty then .ok ⟨[], [], []⟩
  else do
    let (raw, data) ← fetch u (requestOf domain)
    let (subdomains, truncated) ← extractSubdomains u data domain
    let entities ← entityProposals 0 (sortedNames subdomains)
    let relationships := (List.range entities.length).map relationshipProposal
    let evidence ← EvidenceProposal.validate (evidenceQuery domain) raw
      (spec u (urlOf domain) entities.length truncated)
    .ok ⟨entities, relationships, [evidence]⟩

end CrtSh

/-- `CrtShPlugin` -/
def crtShPlugin (u : Upstream) : OSINTPlugin where
  name := "crtsh"
  version := "0.1.0"
  entityTypesAccepted := [.domain]
  requiresCredentials := false
  dispatchMode := .sync
  premium := false
  query := fun input _ => CrtSh.query u input

end Sleuthgraph
