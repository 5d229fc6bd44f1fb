import Sleuthgraph.Plugins.Http

/-!
# The `shodan` plugin (`plugins/builtin/shodan.py`)

The host names of an address, with a summary of its services in the evidence. The key is part
of the URL that is requested; the evidence has the URL with the key redacted.
-/

namespace Sleuthgraph

namespace Shodan

/-- `MAX_ENTITIES` -/
def maxEntities : ℕ := 50

/-- `f"{self.BASE_URL}/shodan/host/{ip}?key={key}"` -/
def urlOf (ip key : List Char) : List Char :=
  "https://api.shodan.io/shodan/host/".toList ++ ip ++ "?key=".toList ++ key

def requestOf (ip : List Char) (apiKey : String) : HttpRequest :=
  ⟨urlOf ip apiKey.toList, [userAgent]⟩

/-- `redacted_url` -/
def redactedUrl (ip : List Char) : List Char := urlOf ip "REDACTED".toList

/-! ## Fetching -/

/-- One attempt of `_fetch`. -/
def fetchOnce (u : Upstream) (request : HttpRequest) (n : ℕ) : Except Exc (Bytes × PyDict) := do
  let response ← u.client.send n request
  let raw ← readResponse "Shodan" u.client request response
  let data ← parseBody u raw
  .ok (raw, dictOrEmpty data)

/-- `_fetch` -/
def fetch (u : Upstream) (request : HttpRequest) : Except Exc (Bytes × PyDict) :=
  withRetry u.client (fetchOnce u request)

/-! ## Extracting -/

/-- The proposals made so far, the names that are taken, and whether a loop has stopped early. -/
structure Found where
  entities : List EntityProposal
  relationships : List RelationshipProposal
  seenHostnames : List (List Char)
  truncated : Bool

namespace Found

def empty : Found := ⟨[], [], [], false⟩

/-- `entity_count` -/
def entityCount (found : Found) : ℕ := found.entities.length

end Found

/-- One turn of a loop over names, below the cap. -/
def addName (u : Upstream) (confidence : ℚ) (found : Found) : PyVal → Except Exc Found
  | .str hostname =>
    let hostname := u.text.lower (rstrip (· = '.') (strip hostname.toList))
    if hostname.isEmpty || !domainRe hostname || found.seenHostnames.contains hostname then
      .ok found
    else do
      let ref := numbered "host" found.entityCount
      let entity ← EntityProposal.validate ref .domain hostname
        [("discovered_via", .str "shodan")] confidence
      .ok
        { entities := found.entities ++ [entity]
          relationships :=
            found.relationships ++ [⟨refEnd ref, inputEnd, .resolvesTo, confidence, []⟩]
          seenHostnames := hostname :: found.seenHostnames
          truncated := found.truncated }
  | _ => .ok found

/-- A loop over names: it stops when `MAX_ENTITIES` proposals are made. -/
def eachName (u : Upstream) (confidence : ℚ) : Found → List PyVal → Except Exc Found
  | found, [] => .ok found
  | found, name :: names =>
    if maxEntities ≤ found.entityCount then .ok { found with truncated := true }
    else do
      let found ← addName u confidence found name
      eachName u confidence found names

/-- `data.get(key, [])`, and no items unless it is a list. -/
def listAt (data : PyDict) (key : String) : List PyVal := listOrEmpty (data.lookup key)

/-- The two loops: the host names, then the domains. -/
def extract (u : Upstream) (data : PyDict) : Except Exc Found := do
  let found ← eachName u (4 / 5) Found.empty (listAt data "hostnames")
  eachName u (7 / 10) found (listAt data "domains")

/-- The summary of a service. -/
def serviceSummary : PyVal → Option PyVal
  | .dict service => some (.dict
    [("port", (service.lookup "port").getD .none),
      ("transport", (service.lookup "transport").getD (.str "tcp")),
      ("product", (service.lookup "product").getD (.str ""))])
  | _ => none

/-- `services_summary` -/
def servicesSummary (data : PyDict) : Except Exc (List PyVal) := do
  let services ← pyIter ((data.lookup "data").getD (.list []))
  .ok (services.filterMap serviceSummary)

/-! ## The plugin -/

def spec (u : Upstream) (ip : List Char) (data : PyDict) (found : Found)
    (services : List PyVal) : PyDict :=
  [("url", .str (String.ofList (redactedUrl ip))), ("method", .str "GET"),
    ("queried_at", .str u.now), ("entity_count", .int found.entityCount),
    ("truncated", .bool found.truncated), ("max_entities", .int maxEntities),
    ("open_ports", .list (listAt data "ports")), ("vulns", .list (listAt data "vulns")),
    ("services_summary", .list (services.take 20))]

/-- What `query` makes of the answer. -/
def resultOf (u : Upstream) (ip : List Char) (raw : Bytes) (data : PyDict) :
    Except Exc QueryResult := do
  let found ← extract u data
  let services ← servicesSummary data
  let evidence ← EvidenceProposal.validate ("Shodan host lookup for ".toList ++ ip) raw
    (spec u ip data found services)
  .ok ⟨found.entities, found.relationships, [evidence]⟩

/-- `ShodanPlugin.query` -/
def query (u : Upstream) (input : Entity) (credentials : Option PyDict) :
    Except Exc QueryResult := do
  let apiKey ← apiKeyOf credentials
  let ip := strip input.label.toList
  if ip.isEmpty || !ipInputRe ip then .ok ⟨[], [], []⟩
  else do
    let (raw, data) ← fetch u (requestOf ip apiKey)
    resultOf u ip raw data

end Shodan

/-- `ShodanPlugin` -/
def shodanPlugin (u : Upstream) : OSINTPlugin where
  name := "shodan"
  version := "0.1.0"
  entityTypesAccepted := [.ipAddress]
  requiresCredentials := true
  dispatchMode := .sync
  premium := false
  query := Shodan.query u

end Sleuthgraph
