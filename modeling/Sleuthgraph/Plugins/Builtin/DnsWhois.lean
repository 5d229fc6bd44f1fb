import Sleuthgraph.Plugins.Http

/-!
# The `dns_whois` plugin (`plugins/builtin/dns_whois.py`)

The addresses, the name servers and the mail hosts of a domain, each with a relationship to it,
and the RDAP record as evidence. The resolver is a parameter. Nothing that DNS or RDAP answer
makes the plugin fail.
-/

namespace Sleuthgraph

/-- `dns.asyncresolver.resolve`: the texts of the answers for a name and a record type, and for
MX the preference with the text of the exchange, or what is raised. -/
structure Resolver where
  resolve : List Char → String → Except Exc (List (List Char))
  resolveMx : List Char → Except Exc (List (ℕ × List Char))

namespace DnsWhois

/-! ## DNS -/

/-- `text.strip().rstrip(".")` -/
def hostText (text : List Char) : List Char := rstrip (· = '.') (strip text)

/-- `_try_resolve` -/
def tryResolve (resolver : Resolver) (domain : List Char) (rdtype : String) : List (List Char) :=
  match resolver.resolve domain rdtype with
  | .ok answers => (answers.map hostText).filter fun text => !text.isEmpty
  | .error _ => []

/-- `_try_resolve_mx` -/
def tryResolveMx (resolver : Resolver) (domain : List Char) : List (ℕ × List Char) :=
  match resolver.resolveMx domain with
  | .ok answers =>
    (answers.map fun (preference, host) => (preference, hostText host)).filter
      fun (_, host) => !host.isEmpty
  | .error _ => []

/-! ## Proposals -/

/-- A loop over records, from the `i`-th: an entity for each, and its relationship to the input.
A record is a label with the attributes of the relationship. -/
def eachRecord (stem : String) (type : EntityType) (relType : RelationshipType) (confidence : ℚ) :
    ℕ → List (List Char × PyDict) → Except Exc (List EntityProposal × List RelationshipProposal)
  | _, [] => .ok ([], [])
  | i, (label, attrs) :: records => do
    let ref := numbered stem i
    let entity ← EntityProposal.validate ref type label
      (("discovered_via", .str "dns_whois") :: attrs) confidence
    let (entities, relationships) ← eachRecord stem type relType confidence (i + 1) records
    .ok (entity :: entities, ⟨refEnd ref, inputEnd, relType, confidence, attrs⟩ :: relationships)

/-- The loop over the A or the AAAA records. -/
def addresses (stem rdtype : String) (ips : List (List Char)) :
    Except Exc (List EntityProposal × List RelationshipProposal) :=
  eachRecord stem .ipAddress .resolvesTo (19 / 20) 0
    (ips.map fun ip => (ip, [("rdtype", .str rdtype)]))

/-- The loop over the NS records. -/
def nameServers (hosts : List (List Char)) :
    Except Exc (List EntityProposal × List RelationshipProposal) :=
  eachRecord "ns" .domain .associatedWith (9 / 10) 0
    (hosts.map fun ns => (ns, [("role", .str "nameserver")]))

/-- The loop over the MX records. -/
def mailHosts (hosts : List (ℕ × List Char)) :
    Except Exc (List EntityProposal × List RelationshipProposal) :=
  eachRecord "mx" .domain .associatedWith (9 / 10) 0
    (hosts.map fun (preference, host) =>
      (host, [("role", .str "mx"), ("preference", .int preference)]))

/-! ## RDAP -/

/-- `self.RDAP_URL_TEMPLATE.format(domain=quote(domain, safe=""))` -/
def rdapUrl (domain : List Char) : List Char := "https://rdap.org/domain/".toList ++ quote domain

def requestOf (domain : List Char) : HttpRequest :=
  ⟨rdapUrl domain, [userAgent, ("Accept", "application/rdap+json")]⟩

/-- One attempt of `_fetch_rdap`. -/
def fetchOnce (u : Upstream) (request : HttpRequest) (n : ℕ) : Except Exc (Bytes × Bool) := do
  let response ← u.client.send n request
  if response.status = 404 then .ok ([], false)
  else do
    let raw ← readResponse "rdap" u.client request response
    match ← parseBody u raw with
    | some (.dict _) => .ok (raw, true)
    | _ => .ok (raw, false)

/-- `_fetch_rdap`, and nothing when it raises. -/
def rdap (u : Upstream) (domain : List Char) : Bytes × Bool :=
  match withRetry u.client (fetchOnce u (requestOf domain)) with
  | .ok answer => answer
  | .error _ => ([], false)

/-- `rdap_raw or b"..."`, where the text is an empty JSON object. -/
def payloadOf (raw : Bytes) : Bytes := if raw.isEmpty then utf8 ['\x7b', '\x7d'] else raw

/-! ## The plugin -/

def spec (u : Upstream) (domain : List Char) (a aaaa ns mx : ℕ) (rdapOk : Bool) : PyDict :=
  [("url", .str (String.ofList (rdapUrl domain))), ("method", .str "GET"),
    ("queried_at", .str u.now),
    ("dns_record_counts",
      .dict [("a", .int a), ("aaaa", .int aaaa), ("ns", .int ns), ("mx", .int mx)]),
    ("rdap_status", .str (if rdapOk then "ok" else "unavailable")),
    ("max_response_bytes", .int maxResponseBytes)]

/-- `input_entity.label.strip().lower().rstrip(".")` -/
def domainOf (u : Upstream) (input : Entity) : List Char :=
  rstrip (· = '.') (u.text.lower (strip input.label.toList))

/-- `DnsWhoisPlugin.query` -/
def query (u : Upstream) (resolver : Resolver) (input : Entity) : Except Exc QueryResult :=
  let domain := domainOf u input
  if domain.isEmpty || !domainRe domain then .ok ⟨[], [], []⟩
  else do
    let aRecords := tryResolve resolver domain "A"
    let aaaaRecords := tryResolve resolver domain "AAAA"
    let nsRecords := tryResolve resolver domain "NS"
    let mxRecords := tryResolveMx resolver domain
    let (aEntities, aRelationships) ← addresses "ip-a" "A" aRecords
    let (aaaaEntities, aaaaRelationships) ← addresses "ip-aaaa" "AAAA" aaaaRecords
    let (nsEntities, nsRelationships) ← nameServers nsRecords
    let (mxEntities, mxRelationships) ← mailHosts mxRecords
    let (raw, rdapOk) := rdap u domain
    let evidence ← EvidenceProposal.validate ("DNS + RDAP lookup for ".toList ++ domain)
      (payloadOf raw) (spec u domain aRecords.length aaaaRecords.length nsRecords.length
        mxRecords.length rdapOk)
    .ok ⟨aEntities ++ aaaaEntities ++ nsEntities ++ mxEntities,
      aRelationships ++ aaaaRelationships ++ nsRelationships ++ mxRelationships, [evidence]⟩

end DnsWhois

/-- `DnsWhoisPlugin` -/
def dnsWhoisPlugin (u : Upstream) (resolver : Resolver) : OSINTPlugin where
  name := "dns_whois"
  version := "0.1.0"
  entityTypesAccepted := [.domain]
  requiresCredentials := false
  dispatchMode := .sync
  premium := false
  query input _ := DnsWhois.query u resolver input

end Sleuthgraph
