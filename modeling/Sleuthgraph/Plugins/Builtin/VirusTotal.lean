import Sleuthgraph.Plugins.Http

/-!
# The `virustotal` plugin (`plugins/builtin/virustotal.py`)

For a domain the addresses and the subdomains of its DNS records, for an address the names of
its certificate, for a URL evidence only. The key goes into a header. Each loop stops at the
record it meets with `MAX_ENTITIES` proposals made.
-/

namespace Sleuthgraph

namespace VirusTotal

/-- `MAX_ENTITIES` -/
def maxEntities : ℕ := 50

def baseUrl : List Char := "https://www.virustotal.com/api/v3".toList

def requestOf (url : List Char) (apiKey : String) : HttpRequest :=
  ⟨url, [("x-apikey", apiKey), userAgent]⟩

/-- `_is_ip` -/
def isIp (u : Upstream) (value : List Char) : Bool := ipv4Re u.text value || ipv6Re value

/-! ## Fetching -/

/-- One attempt of `_fetch`. -/
def fetchOnce (u : Upstream) (request : HttpRequest) (n : ℕ) : Except Exc (Bytes × PyDict) := do
  let response ← u.client.send n request
  let raw ← readResponse "VirusTotal" u.client request response
  let data ← parseBody u raw
  .ok (raw, dictOrEmpty data)

/-- `_fetch` -/
def fetch (u : Upstream) (request : HttpRequest) : Except Exc (Bytes × PyDict) :=
  withRetry u.client (fetchOnce u request)

/-! ## Extracting -/

/-- `data.get("data", {}).get("attributes", {}).get(key, default)` -/
def attributeOf (data : PyDict) (key : String) (default : PyVal) : Except Exc PyVal := do
  let inner ← pyGet (.dict data) "data" (.dict [])
  let attributes ← pyGet inner "attributes" (.dict [])
  pyGet attributes key default

/-- The proposals made so far, and whether a loop has stopped early. -/
structure Found where
  entities : List EntityProposal
  relationships : List RelationshipProposal
  truncated : Bool

namespace Found

def empty : Found := ⟨[], [], false⟩

/-- `entity_count` -/
def entityCount (found : Found) : ℕ := found.entities.length

/-- Append an entity with its relationship. -/
def add (found : Found) (entity : EntityProposal) (relationship : RelationshipProposal) : Found :=
  { found with
    entities := found.entities ++ [entity]
    relationships := found.relationships ++ [relationship] }

end Found

/-- A loop over records: it stops when `MAX_ENTITIES` proposals are made, else `body` says what
a record adds. -/
def eachRecord (body : Found → PyVal → Except Exc Found) : Found → List PyVal → Except Exc Found
  | found, [] => .ok found
  | found, rec :: records =>
    if maxEntities ≤ found.entityCount then .ok { found with truncated := true }
    else do
      let found ← body found rec
      eachRecord body found records

/-- `rec.get("value", "").strip()` -/
def valueOf (rec : PyVal) : Except Exc (List Char) := do
  match ← pyGet rec "value" (.str "") with
  | .str value => .ok (strip value.toList)
  | _ => .error Exc.attributeError

/-- The first loop of `_query_domain`: resolved addresses. -/
def addAddress (u : Upstream) (found : Found) (rec : PyVal) : Except Exc Found := do
  let rtype ← pyGet rec "type" (.str "")
  let value ← valueOf rec
  if (rtype = .str "A" || rtype = .str "AAAA") && !value.isEmpty && isIp u value then do
    let ref := numbered "ip" found.entityCount
    let entity ← EntityProposal.validate ref .ipAddress value
      [("discovered_via", .str "virustotal"), ("rdtype", rtype)] (17 / 20)
    .ok (found.add entity ⟨inputEnd, refEnd ref, .resolvesTo, 17 / 20, []⟩)
  else .ok found

/-- The second loop of `_query_domain`: the same records, for their aliases. -/
def addSubdomain (u : Upstream) (domain : List Char) (found : Found) (rec : PyVal) :
    Except Exc Found := do
  let rtype ← pyGet rec "type" (.str "")
  let stripped ← valueOf rec
  let value := u.text.lower (rstrip (· = '.') stripped)
  if rtype = .str "CNAME" && !value.isEmpty && domainRe value && value != domain
      && List.isSuffixOf ('.' :: domain) value then do
    let ref := numbered "sub" found.entityCount
    let entity ← EntityProposal.validate ref .domain value
      [("discovered_via", .str "virustotal")] (4 / 5)
    .ok (found.add entity ⟨refEnd ref, inputEnd, .subdomainOf, 4 / 5, []⟩)
  else .ok found

/-- The loop of `_query_ip`: the names of the certificate. -/
def addAltName (u : Upstream) (found : Found) (name : PyVal) : Except Exc Found := do
  match name with
  | .str name =>
    let name := u.text.lower (rstrip (· = '.') (strip name.toList))
    if !name.isEmpty && domainRe name then do
      let ref := numbered "domain" found.entityCount
      let entity ← EntityProposal.validate ref .domain name
        [("discovered_via", .str "virustotal")] (7 / 10)
      .ok (found.add entity ⟨refEnd ref, inputEnd, .resolvesTo, 7 / 10, []⟩)
    else .ok found
  | _ => .error Exc.attributeError

/-- `alt_names` -/
def altNames (data : PyDict) : Except Exc PyVal := do
  match ← attributeOf data "last_https_certificate" (.dict []) with
  | .dict cert =>
    let extensions ← pyGet (.dict cert) "extensions" (.dict [])
    pyGet extensions "subject_alternative_name" (.list [])
  | _ => .ok (.list [])

/-! ## The plugin -/

def spec (u : Upstream) (url : List Char) (found : Found) : PyDict :=
  [("url", .str (String.ofList url)), ("method", .str "GET"), ("queried_at", .str u.now),
    ("entity_count", .int found.entityCount), ("truncated", .bool found.truncated),
    ("max_entities", .int maxEntities)]

/-- The proposals with the evidence of the lookup. -/
def resultOf (u : Upstream) (question : String) (subject url : List Char) (raw : Bytes)
    (found : Found) : Except Exc QueryResult := do
  let evidence ← EvidenceProposal.validate (question.toList ++ subject) raw (spec u url found)
  .ok ⟨found.entities, found.relationships, [evidence]⟩

/-- What `_query_domain` makes of the answer. -/
def extractDomain (u : Upstream) (domain : List Char) (data : PyDict) : Except Exc Found := do
  let records ← attributeOf data "last_dns_records" (.list [])
  let items ← pyIter records
  let found ← eachRecord (addAddress u) Found.empty items
  eachRecord (addSubdomain u domain) found items

/-- `_query_domain` -/
def queryDomain (u : Upstream) (label : List Char) (apiKey : String) : Except Exc QueryResult :=
  let domain := rstrip (· = '.') (u.text.lower label)
  if !domainRe domain then .ok ⟨[], [], []⟩
  else do
    let url := baseUrl ++ "/domains/".toList ++ domain
    let (raw, data) ← fetch u (requestOf url apiKey)
    let found ← extractDomain u domain data
    resultOf u "VirusTotal domain lookup for " domain url raw found

/-- What `_query_ip` makes of the answer. -/
def extractIp (u : Upstream) (data : PyDict) : Except Exc Found := do
  let names ← altNames data
  let items ← pyIter names
  eachRecord (addAltName u) Found.empty items

/-- `_query_ip` -/
def queryIp (u : Upstream) (ip : List Char) (apiKey : String) : Except Exc QueryResult :=
  if !ipInputRe ip then .ok ⟨[], [], []⟩
  else do
    let url := baseUrl ++ "/ip_addresses/".toList ++ ip
    let (raw, data) ← fetch u (requestOf url apiKey)
    let found ← extractIp u data
    resultOf u "VirusTotal IP lookup for " ip url raw found

/-- `_query_url` -/
def queryUrl (u : Upstream) (urlLabel : List Char) (apiKey : String) : Except Exc QueryResult := do
  let url := baseUrl ++ "/urls/".toList ++ base64Url (utf8 urlLabel)
  let (raw, _) ← fetch u (requestOf url apiKey)
  resultOf u "VirusTotal URL analysis for " (urlLabel.take 120) url raw Found.empty

/-- `VirusTotalPlugin.query` -/
def query (u : Upstream) (input : Entity) (credentials : Option PyDict) :
    Except Exc QueryResult := do
  let apiKey ← apiKeyOf credentials
  match EntityType.ofValue input.type with
  | none => .error Exc.valueError
  | some type =>
    let label := strip input.label.toList
    if label.isEmpty then .ok ⟨[], [], []⟩
    else match type with
      | .domain => queryDomain u label apiKey
      | .ipAddress => queryIp u label apiKey
      | .url => queryUrl u label apiKey
      | _ => .ok ⟨[], [], []⟩

end VirusTotal

/-- `VirusTotalPlugin` -/
def virusTotalPlugin (u : Upstream) : OSINTPlugin where
  name := "virustotal"
  version := "0.1.0"
  entityTypesAccepted := [.domain, .ipAddress, .url]
  requiresCredentials := true
  dispatchMode := .sync
  premium := false
  query := VirusTotal.query u

end Sleuthgraph
