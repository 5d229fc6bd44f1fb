import Sleuthgraph.Plugins.Base
import Sleuthgraph.Text

/-!
# What the built-in plugins share (`plugins/builtin/`)

The streamed GET with its byte cap, the retries of `_fetch`, the JSON body and the checks that
pydantic makes of a proposal's fields. The HTTP client and `json.loads` are parameters.
-/

namespace Sleuthgraph

/-! ## Requests and responses -/

structure HttpRequest where
  url : List Char
  headers : List (String × String)
deriving DecidableEq, Repr

/-- A streamed response: `chunks` are what `aiter_bytes` yields, `broken` is what it raises after
them, and `retryAfter` the integer in the `Retry-After` header. `printed` are the texts of it that
a status error prints: the reason phrase, and where it redirects to. -/
structure HttpResponse where
  status : ℕ
  retryAfter : Option ℤ := none
  chunks : List Bytes
  broken : Option Exc := none
  printed : List String := []
deriving DecidableEq

/-- `httpx.TransportError(text)` -/
def Exc.transportError (text : String) : Exc :=
  { mro := ["TransportError", "RequestError", "HTTPError", "Exception"], text }

/-- `httpx.HTTPError(text)` -/
def Exc.httpError (text : String) : Exc := { mro := ["HTTPError", "Exception"], text }

/-- `httpx.HTTPStatusError(text)` -/
def Exc.httpStatusError (text : String) : Exc :=
  { mro := ["HTTPStatusError", "HTTPError", "Exception"], text }

/-- `httpx.InvalidURL` -/
def Exc.invalidUrl : Exc := { mro := ["InvalidURL", "Exception"] }

/-- `json.JSONDecodeError` -/
def Exc.jsonDecodeError : Exc := { mro := ["JSONDecodeError", "ValueError", "Exception"] }

/-- `char.isascii() and not char.isprintable()` -/
def isAsciiControl (c : Char) : Bool := c.toNat < 0x20 || c.toNat = 0x7f

/-- `MAX_URL_LENGTH` of httpx. -/
def maxUrlLength : ℕ := 65536

/-- What `httpx.URL` demands of a text before it takes it apart; the hosts of the plugins and
their paths pass the rest. -/
def urlAccepted (url : List Char) : Bool :=
  decide (url.length ≤ maxUrlLength) && !url.any isAsciiControl

/-- The HTTP client: what the transport answers to the `n`-th request, a URL as httpx writes it,
the text of a status error, and whether 30 seconds have passed after the `n`-th attempt. In the
query of a URL only what is reserved is escaped; a status error names the URL. -/
structure HttpClient where
  transport : ℕ → HttpRequest → Except Exc HttpResponse
  urlText : List Char → String
  query_infix : ∀ front value, '?' ∈ front → (∀ c ∈ value, isUnreserved c = true) →
    value <:+: (urlText (front ++ value)).toList
  statusText : HttpRequest → HttpResponse → String
  url_infix : ∀ request response,
    (urlText request.url).toList <:+: (statusText request response).toList
  printed_infix : ∀ request response, ∀ text ∈ response.printed,
    text.toList <:+: (statusText request response).toList
  gaveUp : ℕ → Bool

/-- `client.stream("GET", url, ...)`: nothing is sent to a URL that is refused. -/
def HttpClient.send (client : HttpClient) (n : ℕ) (request : HttpRequest) :
    Except Exc HttpResponse :=
  if urlAccepted request.url then client.transport n request else .error Exc.invalidUrl

section Send

variable {client : HttpClient} {n : ℕ} {request : HttpRequest}

lemma HttpClient.send_accepted (h : urlAccepted request.url = true) :
    client.send n request = client.transport n request := if_pos h

lemma HttpClient.send_refused (h : urlAccepted request.url = false) :
    client.send n request = .error Exc.invalidUrl := if_neg (Bool.eq_false_iff.mp h)

end Send

/-- A client whose URLs are written as they are, and whose status errors list what they print. -/
def plainClient (transport : ℕ → HttpRequest → Except Exc HttpResponse) : HttpClient where
  transport
  urlText := String.ofList
  query_infix front value _ _ := by
    rw [String.toList_ofList]
    exact (List.suffix_append front value).isInfix
  statusText request response :=
    String.ofList (request.url :: response.printed.map String.toList).flatten
  url_infix request response := by
    rw [String.toList_ofList, String.toList_ofList]
    exact List.infix_of_mem_flatten List.mem_cons_self
  printed_infix request response text htext := by
    rw [String.toList_ofList]
    exact List.infix_of_mem_flatten (List.mem_cons_of_mem _ (List.mem_map_of_mem htext))
  gaveUp _ := false

/-- `response.raise_for_status()` -/
def raiseForStatus (client : HttpClient) (request : HttpRequest) (response : HttpResponse) :
    Except Exc Unit :=
  if 200 ≤ response.status ∧ response.status < 300 then .ok ()
  else .error (Exc.httpStatusError (client.statusText request response))

/-- `MAX_RESPONSE_BYTES` -/
def maxResponseBytes : ℕ := 10 * 1024 * 1024

/-- `f"{service} response exceeded {MAX_RESPONSE_BYTES} bytes; aborted"` -/
def Exc.tooLarge (service : String) : Exc :=
  Exc.httpError (service ++ " response exceeded " ++ toString maxResponseBytes ++ " bytes; aborted")

/-- The loop over the chunks, with what is read so far. -/
def readChunks (service : String) (broken : Option Exc) : Bytes → List Bytes → Except Exc Bytes
  | raw, [] => match broken with
    | some e => .error e
    | none => .ok raw
  | raw, chunk :: chunks =>
    if maxResponseBytes < raw.length + chunk.length then .error (Exc.tooLarge service)
    else readChunks service broken (raw ++ chunk) chunks

/-- `f"{service} response exceeded {MAX_RESPONSE_BYTES} bytes"` -/
def Exc.tooLong (service : String) : Exc :=
  Exc.httpError (service ++ " response exceeded " ++ toString maxResponseBytes ++ " bytes")

/-- The loop of the plugins whose error has another text, `tooLarge`. -/
def readUpTo (tooLarge : Exc) (broken : Option Exc) : Bytes → List Bytes → Except Exc Bytes
  | raw, [] => match broken with
    | some e => .error e
    | none => .ok raw
  | raw, chunk :: chunks =>
    if maxResponseBytes < raw.length + chunk.length then .error tooLarge
    else readUpTo tooLarge broken (raw ++ chunk) chunks

lemma readChunks_eq_readUpTo (service : String) (broken : Option Exc) (raw : Bytes)
    (chunks : List Bytes) :
    readChunks service broken raw chunks
      = readUpTo (Exc.tooLarge service) broken raw chunks := by
  induction chunks generalizing raw with
  | nil => rfl
  | cons chunk chunks ih => rw [readChunks, readUpTo, ih]

/-- Chunks that fit are concatenated. -/
lemma readUpTo_fits {tooLarge : Exc} {broken : Option Exc} {raw : Bytes} {chunks : List Bytes}
    (h : raw.length + chunks.flatten.length ≤ maxResponseBytes) :
    readUpTo tooLarge broken raw chunks = match broken with
      | some e => .error e
      | none => .ok (raw ++ chunks.flatten) := by
  induction chunks generalizing raw with
  | nil =>
    rw [List.flatten_nil, List.append_nil]
    cases broken with
    | some e => rfl
    | none => rfl
  | cons chunk chunks ih =>
    rw [List.flatten_cons, List.length_append] at h
    rw [readUpTo, if_neg (by omega), ih (by rw [List.length_append]; omega), List.flatten_cons,
      List.append_assoc]

/-- Chunks that do not fit are not read to the end. -/
lemma readUpTo_exceeds {tooLarge : Exc} {broken : Option Exc} {raw : Bytes}
    {chunks : List Bytes} (hraw : raw.length ≤ maxResponseBytes)
    (h : maxResponseBytes < raw.length + chunks.flatten.length) :
    readUpTo tooLarge broken raw chunks = .error tooLarge := by
  induction chunks generalizing raw with
  | nil =>
    rw [List.flatten_nil, List.length_nil] at h
    omega
  | cons chunk chunks ih =>
    rw [List.flatten_cons, List.length_append] at h
    rw [readUpTo]
    split
    · rfl
    · exact ih (by rw [List.length_append]; omega) (by rw [List.length_append]; omega)

/-- Check the status, then read the body up to the cap. -/
def readResponse (service : String) (client : HttpClient) (request : HttpRequest)
    (response : HttpResponse) : Except Exc Bytes := do
  raiseForStatus client request response
  readChunks service response.broken [] response.chunks

/-- `readResponse` with the other loop. -/
def readBody (tooLarge : Exc) (client : HttpClient) (request : HttpRequest)
    (response : HttpResponse) : Except Exc Bytes := do
  raiseForStatus client request response
  readUpTo tooLarge response.broken [] response.chunks

lemma readResponse_eq_readBody (service : String) (client : HttpClient) (request : HttpRequest)
    (response : HttpResponse) :
    readResponse service client request response
      = readBody (Exc.tooLarge service) client request response := by
  rw [readResponse, readBody, readChunks_eq_readUpTo]

/-- A body that arrives in one chunk. -/
lemma readResponse_one {service : String} {client : HttpClient} {request : HttpRequest}
    {body : Bytes} (h : body.length ≤ maxResponseBytes) :
    readResponse service client request { status := 200, chunks := [body] } = .ok body := by
  have hflat : [body].flatten = body := List.append_nil body
  show readChunks service none [] [body] = .ok body
  rw [readChunks_eq_readUpTo, readUpTo_fits (by rw [hflat, List.length_nil]; omega), hflat,
    List.nil_append]

/-! ## Retries -/

/-- `retry_if_exception_type((httpx.TransportError, httpx.TimeoutException))` -/
def retryable (e : Exc) : Bool := ["TransportError", "TimeoutException"].any e.isinstance

/-- Attempts from the `n`-th on, with at most `k` more after it. -/
def attempts {α : Type} (gaveUp : ℕ → Bool) (attempt : ℕ → Except Exc α) :
    ℕ → ℕ → Except Exc α
  | 0, n => attempt n
  | k + 1, n => match attempt n with
    | .ok a => .ok a
    | .error e => if retryable e && !gaveUp n then attempts gaveUp attempt k (n + 1) else .error e

/-- The `@retry` of `_fetch`: three attempts, and the last exception as it is. -/
def withRetry {α : Type} (client : HttpClient) (attempt : ℕ → Except Exc α) : Except Exc α :=
  attempts client.gaveUp attempt 2 1

/-- A first attempt that returns is the outcome. -/
lemma withRetry_of_ok {α : Type} {client : HttpClient} {attempt : ℕ → Except Exc α} {a : α}
    (h : attempt 1 = .ok a) : withRetry client attempt = .ok a := by
  rw [withRetry, attempts, h]

/-! ## Bodies -/

/-- What the plugins run against: the HTTP client, `json.loads`, the Unicode tables and the
clock as ISO text. -/
structure Upstream where
  client : HttpClient
  loads : Bytes → Except Exc PyVal
  text : Unicode
  now : String

/-- `json.loads(raw)`, and nothing for what is no JSON. -/
def parseBody (u : Upstream) (raw : Bytes) : Except Exc (Option PyVal) :=
  match u.loads raw with
  | .ok data => .ok (some data)
  | .error e => if e.isinstance "JSONDecodeError" then .ok none else .error e

/-- `data if isinstance(data, list) else []` -/
def listOrEmpty : Option PyVal → List PyVal
  | some (.list items) => items
  | _ => []

/-- `data if isinstance(data, dict) else {}` -/
def dictOrEmpty : Option PyVal → PyDict
  | some (.dict entries) => entries
  | _ => []

/-- `raw_bytes or b"..."`, where the text is an empty JSON object. -/
def orEmptyObject (raw : Bytes) : Bytes := if raw.isEmpty then utf8 ['\x7b', '\x7d'] else raw

/-- `credentials["api_key"]`, a text in every credential that the vault gives out. -/
def apiKeyOf : Option PyDict → Except Exc String
  | none => .error Exc.typeError
  | some credentials => match credentials.lookup "api_key" with
    | some (.str key) => .ok key
    | some _ => .error Exc.typeError
    | none => .error Exc.keyError

/-- `{"User-Agent": "sleuthgraph/0.1"}` -/
def userAgent : String × String := ("User-Agent", "sleuthgraph/0.1")

/-! ## Proposals -/

/-- `EntityProposal(ref=..., type=..., label=..., attrs=..., confidence=...)` -/
def EntityProposal.validate (ref : String) (type : EntityType) (label : List Char)
    (attrs : PyDict) (confidence : ℚ) : Except Exc EntityProposal :=
  if LengthIn 64 ref ∧ LengthIn 512 (String.ofList label) ∧ UnitRange confidence then
    .ok ⟨ref, type, String.ofList label, attrs, confidence⟩
  else .error Exc.validationError

/-- `EvidenceProposal(query=..., payload=..., content_type="application/json", ...)` -/
def EvidenceProposal.validate (query : List Char) (payload : Bytes) (spec : PyDict) :
    Except Exc EvidenceProposal :=
  if LengthIn 1024 (String.ofList query) then
    .ok ⟨String.ofList query, payload, some "application/json", spec, true⟩
  else .error Exc.validationError

/-- `{"ref": ref}` -/
def refEnd (ref : String) : PyDict := [("ref", .str ref)]

/-- `{"input": True}` -/
def inputEnd : PyDict := [("input", .bool true)]

/-- `f"{stem}-{i}"` -/
def numbered (stem : String) (i : ℕ) : String := stem ++ "-" ++ toString i

/-- The number of a reference stands after its last hyphen. -/
lemma numbered_inj {stem stem' : String} {i j : ℕ} (h : numbered stem i = numbered stem' j) :
    stem = stem' ∧ i = j := by
  have hdigits : ∀ n : ℕ, '-' ∉ (toString n).toList := by
    intro n hmem
    rw [Nat.toString_eq_repr, Nat.toList_repr] at hmem
    exact absurd (Nat.isDigit_of_mem_toDigits (by decide) (by decide) hmem) (by decide)
  have hsplit : stem.toList ++ '-' :: (toString i).toList
      = stem'.toList ++ '-' :: (toString j).toList := by
    simpa [numbered] using congrArg String.toList h
  -- a stem that goes on past the other's hyphen puts a hyphen among the digits
  have hparts : stem.toList = stem'.toList ∧ (toString i).toList = (toString j).toList := by
    rcases List.append_eq_append_iff.mp hsplit with ⟨c, hstem, hrest⟩ | ⟨c, hstem, hrest⟩
    · cases c with
      | nil => exact ⟨by rw [hstem, List.append_nil], (List.cons.inj hrest).2⟩
      | cons d c =>
        refine absurd ?_ (hdigits i)
        rw [(List.cons.inj hrest).2]
        exact List.mem_append_right _ List.mem_cons_self
    · cases c with
      | nil => exact ⟨by rw [hstem, List.append_nil], (List.cons.inj hrest).2.symm⟩
      | cons d c =>
        refine absurd ?_ (hdigits j)
        rw [(List.cons.inj hrest).2]
        exact List.mem_append_right _ List.mem_cons_self
  refine ⟨String.toList_inj.mp hparts.1, ?_⟩
  have hnumber := congrArg (fun l => Nat.ofDigitChars 10 l 0) hparts.2
  simpa [Nat.toString_eq_repr, Nat.toList_repr] using hnumber

end Sleuthgraph
