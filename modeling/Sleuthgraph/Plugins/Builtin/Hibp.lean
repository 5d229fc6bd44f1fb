import Sleuthgraph.Lib.Firsts
import Sleuthgraph.Plugins.Http

/-!
# The `hibp` plugin (`plugins/builtin/hibp.py`)

Breaches of an email account, as evidence only. The key goes into a header. A 404 means that
the account is in no breach, and gives an empty result.
-/

namespace Sleuthgraph

open Firsts

namespace Hibp

/-- `f"{self.BASE_URL}/breachedaccount/{encoded}?truncateResponse=false"` -/
def urlOf (email : List Char) : List Char :=
  "https://haveibeenpwned.com/api/v3/breachedaccount/".toList ++ quote email
    ++ "?truncateResponse=false".toList

def requestOf (email : List Char) (apiKey : String) : HttpRequest :=
  ⟨urlOf email, [("hibp-api-key", apiKey), userAgent]⟩

/-- One attempt of `_fetch`. -/
def fetchOnce (u : Upstream) (request : HttpRequest) (n : ℕ) :
    Except Exc (Option (Bytes × List PyVal)) := do
  let response ← u.client.send n request
  if response.status = 404 then .ok none
  else do
    let raw ← readResponse "HIBP" u.client request response
    let data ← parseBody u raw
    .ok (some (raw, listOrEmpty data))

/-- `_fetch` -/
def fetch (u : Upstream) (request : HttpRequest) : Except Exc (Option (Bytes × List PyVal)) :=
  withRetry u.client (fetchOnce u request)

/-- `breach_names` -/
def breachNames (breaches : List PyVal) : List PyVal :=
  breaches.filterMap fun
    | .dict breach => some ((breach.lookup "Name").getD (.str ""))
    | _ => none

/-- The texts among the items. -/
def textsOf (items : List PyVal) : List String :=
  items.filterMap fun
    | .str s => some s
    | _ => none

/-- `data_classes` -/
def dataClasses : List PyVal → Except Exc (List String)
  | [] => .ok []
  | .dict breach :: breaches => do
    let items ← pyIter ((breach.lookup "DataClasses").getD (.list []))
    let classes ← dataClasses breaches
    .ok (textsOf items ++ classes)
  | _ :: breaches => dataClasses breaches

def spec (u : Upstream) (url : List Char) (breaches : List PyVal) (classes : List String) :
    PyDict :=
  [("url", .str (String.ofList url)), ("method", .str "GET"), ("queried_at", .str u.now),
    ("breach_count", .int breaches.length), ("breach_names", .list (breachNames breaches)),
    ("data_classes", .list ((firsts classes).map .str))]

/-- What `query` makes of the answer. -/
def resultOf (u : Upstream) (email : List Char) (raw : Bytes) (breaches : List PyVal) :
    Except Exc QueryResult := do
  let classes ← dataClasses breaches
  let evidence ← EvidenceProposal.validate ("HIBP breach lookup for ".toList ++ email) raw
    (spec u (urlOf email) breaches classes)
  .ok ⟨[], [], [evidence]⟩

/-- `HIBPPlugin.query` -/
def query (u : Upstream) (input : Entity) (credentials : Option PyDict) :
    Except Exc QueryResult := do
  let apiKey ← apiKeyOf credentials
  let email := strip input.label.toList
  if email.isEmpty || !emailRe email then .ok ⟨[], [], []⟩
  else do
    match ← fetch u (requestOf email apiKey) with
    | none => .ok ⟨[], [], []⟩
    | some (raw, breaches) => resultOf u email raw breaches

end Hibp

/-- `HIBPPlugin` -/
def hibpPlugin (u : Upstream) : OSINTPlugin where
  name := "hibp"
  version := "0.1.0"
  entityTypesAccepted := [.email]
  requiresCredentials := true
  dispatchMode := .sync
  premium := false
  query := Hibp.query u

end Sleuthgraph
