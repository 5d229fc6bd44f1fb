import Sleuthgraph.Plugins.Http

/-!
# The `wayback_cdx` plugin (`plugins/builtin/wayback_cdx.py`)

Archived URLs of a domain or a URL. The rows are collapsed by URL, sorted by their first
timestamp and cut at `MAX_SNAPSHOTS`. An HTTP error is no failure of the plugin: the evidence
then says that the fetch went wrong.
-/

namespace Sleuthgraph

namespace WaybackCdx

/-- `MAX_SNAPSHOTS` -/
def maxSnapshots : ℕ := 500

/-- `MAX_URL_LEN` -/
def maxUrlLen : ℕ := 500

/-- `f"{label}/*" if is_domain else label` -/
def queryTarget (input : Entity) (label : List Char) : List Char :=
  if input.type = EntityType.domain.value then label ++ "/*".toList else label

/-- `f"{self.BASE_URL}?{urlencode(params)}"` -/
def urlOf (input : Entity) (label : List Char) : List Char :=
  "http://web.archive.org/cdx/search/cdx?".toList ++ urlencode
    [("url".toList, queryTarget input label), ("output".toList, "json".toList),
      ("limit".toList, (toString (maxSnapshots + 1)).toList),
      ("fl".toList, "timestamp,original,statuscode".toList),
      ("collapse".toList, "urlkey".toList)]

/-! ## Fetching -/

/-- The rows under the header. -/
def rowsOf : Option PyVal → List (List PyVal)
  | some (.list (_ :: rows)) => rows.filterMap fun
    | .list row => some row
    | _ => none
  | _ => []

/-- One attempt of `_fetch`. -/
def fetchOnce (u : Upstream) (request : HttpRequest) (n : ℕ) :
    Except Exc (Bytes × List (List PyVal)) := do
  let response ← u.client.send n request
  let raw ← readResponse "wayback cdx" u.client request response
  let parsed ← parseBody u raw
  .ok (raw, rowsOf parsed)

/-- `_fetch` -/
def fetch (u : Upstream) (request : HttpRequest) : Except Exc (Bytes × List (List PyVal)) :=
  withRetry u.client (fetchOnce u request)

/-- What `query` makes of `_fetch`: the body, the rows and `fetch_status`. -/
def fetched (u : Upstream) (request : HttpRequest) :
    Except Exc (Bytes × List (List PyVal) × String) :=
  match fetch u request with
  | .ok (raw, rows) => .ok (raw, rows, "ok")
  | .error e => if e.isinstance "HTTPError" then .ok ([], [], "error") else .error e

/-! ## Collapsing -/

/-- A URL with its timestamps and its status code. -/
structure Snapshot where
  url : String
  firstSeen : PyVal
  lastSeen : PyVal
  statusCode : PyVal

variable (py : Interp)

/-- Widen the interval of a snapshot. -/
def Snapshot.seen (timestamp : PyVal) (entry : Snapshot) : Except Exc Snapshot := do
  let earlier ← timestamp.lt py entry.firstSeen
  let entry := if earlier then { entry with firstSeen := timestamp } else entry
  let later ← entry.lastSeen.lt py timestamp
  .ok (if later then { entry with lastSeen := timestamp } else entry)

/-- Enter a row under its URL. -/
def enter (timestamp : PyVal) (original : String) (statuscode : PyVal) :
    List Snapshot → Except Exc (List Snapshot)
  | [] => .ok [⟨original, timestamp, timestamp, statuscode⟩]
  | entry :: entries =>
    if entry.url = original then do
      let entry ← entry.seen py timestamp
      .ok (entry :: entries)
    else do
      let entries ← enter timestamp original statuscode entries
      .ok (entry :: entries)

/-- One turn of the loop over the rows. -/
def enterRow (byUrl : List Snapshot) : List PyVal → Except Exc (List Snapshot)
  | timestamp :: .str original :: statuscode :: _ =>
    if original = "" then .ok byUrl else enter py timestamp original statuscode byUrl
  | _ => .ok byUrl

/-- Insert before the first entry that is not smaller. -/
def insertByFirstSeen (s : Snapshot) : List Snapshot → Except Exc (List Snapshot)
  | [] => .ok [s]
  | entry :: entries => do
    let smaller ← entry.firstSeen.lt py s.firstSeen
    if smaller then do
      let entries ← insertByFirstSeen s entries
      .ok (entry :: entries)
    else .ok (s :: entry :: entries)

/-- `out.sort(key=lambda t: t[1])`, a stable sort for keys that `<` orders. -/
def sortByFirstSeen (out : List Snapshot) : Except Exc (List Snapshot) :=
  out.foldrM (insertByFirstSeen py) []

/-- `_extract_snapshots` -/
def extractSnapshots (rows : List (List PyVal)) : Except Exc (List Snapshot) := do
  let byUrl ← rows.foldlM (enterRow py) []
  sortByFirstSeen py byUrl

/-! ## The plugin -/

/-- The URL is short enough for a label. -/
def Snapshot.fits (s : Snapshot) : Bool := s.url.length ≤ maxUrlLen

/-- The entity of the `i`-th snapshot. -/
def entityProposal (i : ℕ) (s : Snapshot) : Except Exc EntityProposal :=
  EntityProposal.validate (numbered "snap" i) .url s.url.toList
    [("discovered_via", .str "wayback_cdx"), ("first_seen", s.firstSeen),
      ("last_seen", s.lastSeen), ("status_code", s.statusCode)] (4 / 5)

/-- The relationship of the `i`-th snapshot with the input. -/
def relationshipProposal (i : ℕ) : RelationshipProposal :=
  ⟨refEnd (numbered "snap" i), inputEnd, .associatedWith, 4 / 5, [("role", .str "archived")]⟩

/-- The loop over the snapshots, from the `i`-th. -/
def proposals : ℕ → List Snapshot →
    Except Exc (List EntityProposal × List RelationshipProposal)
  | _, [] => .ok ([], [])
  | i, s :: snapshots =>
    if s.fits then do
      let entity ← entityProposal i s
      let (entities, relationships) ← proposals (i + 1) snapshots
      .ok (entity :: entities, relationshipProposal i :: relationships)
    else proposals (i + 1) snapshots

def spec (u : Upstream) (url : List Char) (count skipped : ℕ) (truncated : Bool)
    (fetchStatus : String) : PyDict :=
  [("url", .str (String.ofList url)), ("method", .str "GET"), ("queried_at", .str u.now),
    ("snapshot_count", .int count), ("truncated", .bool truncated),
    ("skipped_too_long", .int skipped), ("max_snapshots", .int maxSnapshots),
    ("max_url_length", .int maxUrlLen), ("fetch_status", .str fetchStatus)]

/-- `WaybackCdxPlugin.query` -/
def query (u : Upstream) (input : Entity) : Except Exc QueryResult :=
  let label := strip input.label.toList
  if label.isEmpty then .ok ⟨[], [], []⟩
  else do
    let url := urlOf input label
    let (raw, rows, fetchStatus) ← fetched u ⟨url, [userAgent]⟩
    let all ← extractSnapshots py rows
    let snapshots := all.take maxSnapshots
    let (entities, relationships) ← proposals 0 snapshots
    let skipped := (snapshots.filter fun s => !s.fits).length
    let evidence ← EvidenceProposal.validate ("wayback CDX lookup for ".toList ++ label)
      (if raw.isEmpty then utf8 "[]".toList else raw)
      (spec u url entities.length skipped (decide (maxSnapshots < all.length)) fetchStatus)
    .ok ⟨entities, relationships, [evidence]⟩

end WaybackCdx

/-- `WaybackCdxPlugin` -/
def waybackCdxPlugin (py : Interp) (u : Upstream) : OSINTPlugin where
  name := "wayback_cdx"
  version := "0.1.0"
  entityTypesAccepted := [.domain, .url]
  requiresCredentials := false
  dispatchMode := .async
  premium := false
  query := fun input _ => WaybackCdx.query py u input

end Sleuthgraph
