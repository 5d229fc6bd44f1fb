import Sleuthgraph.Plugins.Builtin.Hibp
import Sleuthgraph.Plugins.Builtin.Shodan
import Sleuthgraph.Plugins.Builtin.VirusTotal

/-!
# The plugins that need a key (`plugins/byok.py`)

What the three have in common: the input gives the request to make, if any, the key is a part of
that request only, and what is made of the answer does not know it.
-/

namespace Sleuthgraph

/-- `BYOKPlugin` -/
inductive BYOKPlugin where
  | virustotal | shodan | hibp
deriving DecidableEq, Repr

/-- The credentials that the runner gives a plugin. -/
def keyed (apiKey : String) : Option PyDict := some [("api_key", .str apiKey)]

@[simp] lemma apiKeyOf_keyed (apiKey : String) : apiKeyOf (keyed apiKey) = .ok apiKey := rfl

namespace BYOKPlugin

variable (u : Upstream)

def plugin : BYOKPlugin → OSINTPlugin
  | virustotal => virusTotalPlugin u
  | shodan => shodanPlugin u
  | hibp => hibpPlugin u

/-- The name that an error about too large a body has. -/
def service : BYOKPlugin → String
  | virustotal => "VirusTotal"
  | shodan => "Shodan"
  | hibp => "HIBP"

/-! ## The request -/

/-- The URL that `virustotal` asks for an entity. -/
def virusTotalUrl (input : Entity) : Option (List Char) :=
  let label := strip input.label.toList
  if label.isEmpty then none
  else match EntityType.ofValue input.type with
    | some .domain =>
      let domain := rstrip (· = '.') (u.text.lower label)
      if !domainRe domain then none else some (VirusTotal.baseUrl ++ "/domains/".toList ++ domain)
    | some .ipAddress =>
      if !ipInputRe label then none
      else some (VirusTotal.baseUrl ++ "/ip_addresses/".toList ++ label)
    | some .url => some (VirusTotal.baseUrl ++ "/urls/".toList ++ base64Url (utf8 label))
    | _ => none

/-- The request that a plugin makes for an entity: none for a label it does not look up. -/
def request (input : Entity) (apiKey : String) : BYOKPlugin → Option HttpRequest
  | virustotal => (virusTotalUrl u input).map fun url => VirusTotal.requestOf url apiKey
  | shodan =>
    let ip := strip input.label.toList
    if ip.isEmpty || !ipInputRe ip then none else some (Shodan.requestOf ip apiKey)
  | hibp =>
    let email := strip input.label.toList
    if email.isEmpty || !emailRe email then none else some (Hibp.requestOf email apiKey)

/-- The key has no say in whether there is a request. -/
lemma request_isSome (b : BYOKPlugin) (input : Entity) (k k' : String) :
    (b.request u input k).isSome = (b.request u input k').isSome := by
  cases b with
  | virustotal => rw [request, request, Option.isSome_map, Option.isSome_map]
  | shodan | hibp =>
    unfold request
    dsimp only
    split <;> rfl

/-! ## The answer -/

/-- What an attempt of `_fetch` returns. -/
def Answer : BYOKPlugin → Type
  | hibp => Option (Bytes × List PyVal)
  | _ => Bytes × PyDict

/-- What an attempt makes of a response. -/
def accept (request : HttpRequest) (response : HttpResponse) :
    (b : BYOKPlugin) → Except Exc b.Answer
  | virustotal => do
    let raw ← readResponse "VirusTotal" u.client request response
    let data ← parseBody u raw
    .ok (raw, dictOrEmpty data)
  | shodan => do
    let raw ← readResponse "Shodan" u.client request response
    let data ← parseBody u raw
    .ok (raw, dictOrEmpty data)
  | hibp =>
    if response.status = 404 then .ok none
    else do
      let raw ← readResponse "HIBP" u.client request response
      let data ← parseBody u raw
      .ok (some (raw, listOrEmpty data))

/-- One attempt of `_fetch`. -/
def fetchOnce (b : BYOKPlugin) (request : HttpRequest) (n : ℕ) : Except Exc b.Answer :=
  u.client.send n request >>= fun response => b.accept u request response

/-- What `query` makes of an answer. -/
def finish (input : Entity) : (b : BYOKPlugin) → b.Answer → Except Exc QueryResult
  | virustotal => fun (raw, data) =>
    let label := strip input.label.toList
    match EntityType.ofValue input.type with
    | some .domain => do
      let domain := rstrip (· = '.') (u.text.lower label)
      let found ← VirusTotal.extractDomain u domain data
      VirusTotal.resultOf u "VirusTotal domain lookup for " domain
        (VirusTotal.baseUrl ++ "/domains/".toList ++ domain) raw found
    | some .ipAddress => do
      let found ← VirusTotal.extractIp u data
      VirusTotal.resultOf u "VirusTotal IP lookup for " label
        (VirusTotal.baseUrl ++ "/ip_addresses/".toList ++ label) raw found
    | _ => VirusTotal.resultOf u "VirusTotal URL analysis for " (label.take 120)
        (VirusTotal.baseUrl ++ "/urls/".toList ++ base64Url (utf8 label)) raw VirusTotal.Found.empty
  | shodan => fun (raw, data) => Shodan.resultOf u (strip input.label.toList) raw data
  | hibp => fun
    | none => .ok ⟨[], [], []⟩
    | some (raw, breaches) => Hibp.resultOf u (strip input.label.toList) raw breaches

/-- What `query` returns without a request. -/
def unasked (input : Entity) : BYOKPlugin → Except Exc QueryResult
  | virustotal =>
    if (EntityType.ofValue input.type).isNone then .error Exc.valueError else .ok ⟨[], [], []⟩
  | _ => .ok ⟨[], [], []⟩

/-- The retried attempts, and what is made of their outcome. -/
def ask (b : BYOKPlugin) (input : Entity) (request : HttpRequest) : Except Exc QueryResult :=
  withRetry u.client (b.fetchOnce u request) >>= b.finish u input

variable {u}

lemma virusTotal_query (input : Entity) (apiKey : String) :
    VirusTotal.query u input (keyed apiKey) = match EntityType.ofValue input.type with
      | none => .error Exc.valueError
      | some type =>
        if (strip input.label.toList).isEmpty then .ok ⟨[], [], []⟩
        else match type with
          | .domain => VirusTotal.queryDomain u (strip input.label.toList) apiKey
          | .ipAddress => VirusTotal.queryIp u (strip input.label.toList) apiKey
          | .url => VirusTotal.queryUrl u (strip input.label.toList) apiKey
          | _ => .ok ⟨[], [], []⟩ := rfl

/-- **One form of the three queries**: the key decides about the request alone. -/
theorem query_keyed (b : BYOKPlugin) (input : Entity) (apiKey : String) :
    (b.plugin u).query input (keyed apiKey) = match b.request u input apiKey with
      | none => b.unasked input
      | some request => b.ask u input request := by
  cases b with
  | virustotal =>
    show VirusTotal.query u input (keyed apiKey) = _
    rw [virusTotal_query]
    unfold request virusTotalUrl
    by_cases hlabel : (strip input.label.toList).isEmpty = true
    · cases htype : EntityType.ofValue input.type with
      | none | some type => simp [hlabel, unasked, htype]
    · cases htype : EntityType.ofValue input.type with
      | none => simp [hlabel, unasked, htype]
      | some type =>
        simp only [hlabel, unasked, ask, finish, htype]
        cases type with
        | domain =>
          unfold VirusTotal.queryDomain
          cases hdomain : domainRe (rstrip (· = '.') (u.text.lower (strip input.label.toList))) with
          | false | true =>
            simp only [hdomain]
            rfl
        | ipAddress =>
          unfold VirusTotal.queryIp
          cases ipInputRe (strip input.label.toList) with
          | false | true => rfl
        | url => rfl
        | person | organization | email | phone | cryptoAddress => rfl
  | shodan =>
    show Shodan.query u input (keyed apiKey) = _
    unfold Shodan.query request
    dsimp only
    split <;> rfl
  | hibp =>
    show Hibp.query u input (keyed apiKey) = _
    unfold Hibp.query request
    dsimp only
    split
    · rfl
    · rfl

end BYOKPlugin

end Sleuthgraph
