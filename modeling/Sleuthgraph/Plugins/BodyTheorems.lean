import Sleuthgraph.Plugins.Arrivals
import Sleuthgraph.Plugins.Builtin.Builtins
import Sleuthgraph.Plugins.Builtin.Byok
import Sleuthgraph.Plugins.Builtin.LabelTheorems

/-!
# What the plugins make of bodies (`plugins/builtin/`, `plugins/runner.py`)

The error about too large a body passes the handlers of the plugin before the runner classifies it:
`wayback_cdx`, `github_public`, `opencorporates` and `dns_whois` swallow it, so their runs go on.
A body that fits becomes the payload of the evidence, whatever its chunks are, unless one of these
handlers has dropped it.
-/

namespace Sleuthgraph

open Programs Transactions Tables

/-! ## The plugins -/

/-- Whether each record of DNS becomes a proposal. -/
def DnsWhois.recordsFit (resolver : Resolver) (domain : List Char) : Bool :=
  (addresses "ip-a" "A" (tryResolve resolver domain "A")).isOk
    && (addresses "ip-aaaa" "AAAA" (tryResolve resolver domain "AAAA")).isOk
    && (nameServers (tryResolve resolver domain "NS")).isOk
    && (mailHosts (tryResolveMx resolver domain)).isOk

namespace Builtin

/-- The request of a query, with what its attempts are answered: none where it fetches nothing. -/
def exchange (w : Surroundings) (input : Entity) (credentials : Option PyDict) :
    Builtin → Option (HttpRequest × (ℕ → Except Exc HttpResponse))
  | crtsh =>
    let domain := CrtSh.domainOf w.upstream input
    if domain.isEmpty then none else some (sent (CrtSh.requestOf domain))
  | dnsWhois =>
    let domain := DnsWhois.domainOf w.upstream input
    if domain.isEmpty || !domainRe domain || !DnsWhois.recordsFit w.resolver domain then none
    else some (sent (DnsWhois.requestOf domain))
  | virustotal => keyedExchange .virustotal
  | shodan => keyedExchange .shodan
  | hibp => keyedExchange .hibp
  | waybackCdx =>
    let label := strip input.label.toList
    if label.isEmpty then none else some (sent ⟨WaybackCdx.urlOf input label, [userAgent]⟩)
  | githubPublic =>
    let term := strip input.label.toList
    if term.isEmpty then none else some (sent (GithubPublic.requestOf input term))
  | openCorporates =>
    let term := strip input.label.toList
    if term.isEmpty then none else some (sent (OpenCorporates.requestOf term))
  | alephOccrp => searched Sleuthgraph.alephOccrp
  | openSanctions => searched Sleuthgraph.openSanctions
  | urlhaus =>
    let label := strip input.label.toList
    if label.isEmpty then none
    else some (Urlhaus.requestOf input,
      fun n => w.post n (Urlhaus.requestOf input) (Urlhaus.form input label))
where
  sent (request : HttpRequest) : HttpRequest × (ℕ → Except Exc HttpResponse) :=
    (request, fun n => w.upstream.client.send n request)
  keyedExchange (b : BYOKPlugin) : Option (HttpRequest × (ℕ → Except Exc HttpResponse)) :=
    match apiKeyOf credentials with
    | .ok apiKey => (b.request w.upstream input apiKey).map sent
    | .error _ => none
  searched (s : HitSearch) : Option (HttpRequest × (ℕ → Except Exc HttpResponse)) :=
    let term := strip input.label.toList
    if term.isEmpty then none else some (sent (s.requestOf term))

/-- What an attempt reads of a response, before it parses it. -/
def reading (u : Upstream) (request : HttpRequest) (b : Builtin) (response : HttpResponse) :
    Except Exc Bytes :=
  match b with
  | crtsh =>
    if response.status = 429 then .error (CrtSh.rateLimited response)
    else readResponse "crt.sh" u.client request response
  | dnsWhois =>
    if response.status = 404 then .ok [] else readResponse "rdap" u.client request response
  | virustotal => readResponse "VirusTotal" u.client request response
  | shodan => readResponse "Shodan" u.client request response
  | hibp => if response.status = 404 then .ok [] else readResponse "HIBP" u.client request response
  | waybackCdx => readResponse "wayback cdx" u.client request response
  | githubPublic =>
    if response.status = 404 then
      readUpTo (Exc.tooLong "github") response.broken [] response.chunks
    else readBody (Exc.tooLong "github") u.client request response
  | openCorporates => readBody (Exc.tooLong "opencorporates") u.client request response
  | alephOccrp => readBody (Exc.tooLong Sleuthgraph.alephOccrp.service) u.client request response
  | openSanctions =>
    readBody (Exc.tooLong Sleuthgraph.openSanctions.service) u.client request response
  | urlhaus => do
    let raw ← Urlhaus.content response
    raiseForStatus u.client request response
    if maxResponseBytes < raw.length then .error (Exc.tooLong "urlhaus") else .ok raw

/-- Whether it is too late for another attempt. `github_public` does not look at the time. -/
def gaveUp (w : Surroundings) : Builtin → ℕ → Bool
  | githubPublic => fun _ => false
  | _ => w.upstream.client.gaveUp

/-- The plugins that report the size of such a response: those that swallow the error do not, and
those that look at the status first do for a success. `crtsh` takes the status 429 for an error of
the network. -/
def ReportsSize (response : HttpResponse) : Builtin → Prop
  | waybackCdx | githubPublic | openCorporates | dnsWhois => False
  | crtsh => response.IsSuccess ∨ response.status = 429
  | _ => response.IsSuccess

/-- The plugins that keep the body of such a response, if they give evidence at all: three put
their own text in the place of one that they do not accept. -/
def KeepsBody (u : Upstream) (response : HttpResponse) : Builtin → Prop
  | waybackCdx => response.body = [] ∨ utf8 "[]".toList = response.body ∨ response.IsSuccess
  | openCorporates =>
    response.body = [] ∨ utf8 ['\x7b', '\x7d'] = response.body ∨ response.IsSuccess
  | dnsWhois =>
    response.body = [] ∨ utf8 ['\x7b', '\x7d'] = response.body ∨
      (response.IsSuccess ∧ (parseBody u response.body).isOk = true)
  | _ => True

end Builtin

/-- `json.loads` raises no error of the HTTP client. -/
def Upstream.ParsesApart (u : Upstream) : Prop :=
  ∀ raw e, u.loads raw = .error e → e.isinstance "HTTPError" = false ∧ retryable e = false

section Plugins

variable {w : Surroundings} {input : Entity} {credentials : Option PyDict} {request : HttpRequest}
variable {answers : ℕ → Except Exc HttpResponse} {response : HttpResponse}

lemma Upstream.ParsesApart.parseBody {u : Upstream} (h : u.ParsesApart) {raw : Bytes} {e : Exc}
    (he : Sleuthgraph.parseBody u raw = .error e) :
    e.isinstance "HTTPError" = false ∧ retryable e = false := by
  unfold Sleuthgraph.parseBody at he
  cases hloads : u.loads raw with
  | ok data =>
    rw [hloads] at he
    cases he
  | error e' =>
    rw [hloads] at he
    dsimp only at he
    split at he
    · cases he
    · cases he
      exact h raw e hloads

/-- What is made of a body is not retried. -/
lemma Upstream.ParsesApart.rest {α : Type} {u : Upstream} (h : u.ParsesApart) {raw : Bytes}
    {f : Option PyVal → α} {e : Exc}
    (he : (Sleuthgraph.parseBody u raw >>= fun parsed => .ok (f parsed)) = .error e) :
    retryable e = false := by
  cases hparsed : Sleuthgraph.parseBody u raw with
  | ok parsed =>
    rw [hparsed] at he
    cases he
  | error e' =>
    rw [hparsed] at he
    cases he
    exact (h.parseBody hparsed).2

/-! ### Those that propagate -/

/-- What the query of `crtsh` makes of an answer. -/
def CrtSh.finish (u : Upstream) (domain : List Char) (raw : Bytes) (data : List PyVal) :
    Except Exc QueryResult := do
  let (subdomains, truncated) ← CrtSh.extractSubdomains u data domain
  let entities ← CrtSh.entityProposals 0 (CrtSh.sortedNames subdomains)
  let evidence ← EvidenceProposal.validate (CrtSh.evidenceQuery domain) raw
    (CrtSh.spec u (CrtSh.urlOf domain) entities.length truncated)
  .ok ⟨entities, (List.range entities.length).map CrtSh.relationshipProposal, [evidence]⟩

/-- The query of `crtsh` is what is made of the body that arrives. -/
lemma crtsh_query_eq (hparses : w.upstream.ParsesApart)
    (hexchange : Builtin.crtsh.exchange w input credentials = some (request, answers))
    (h : Arrives (Builtin.crtsh.gaveUp w) (Builtin.crtsh.reading w.upstream request) answers
      response) :
    (Builtin.crtsh.plugin w).query input credentials
      = Builtin.crtsh.reading w.upstream request response >>= fun raw =>
        parseBody w.upstream raw >>= fun parsed =>
          CrtSh.finish w.upstream (CrtSh.domainOf w.upstream input) raw (listOrEmpty parsed) := by
  show CrtSh.query w.upstream input = _
  unfold Builtin.exchange at hexchange
  dsimp only at hexchange
  split at hexchange
  · cases hexchange
  rename_i hdomain
  obtain ⟨rfl, rfl⟩ := Prod.mk.inj (Option.some.inj hexchange)
  have hfetch : CrtSh.fetch w.upstream (CrtSh.requestOf (CrtSh.domainOf w.upstream input))
      = Builtin.crtsh.reading w.upstream (CrtSh.requestOf (CrtSh.domainOf w.upstream input))
        response >>= fun raw => parseBody w.upstream raw >>= fun data =>
          .ok (raw, listOrEmpty data) := by
    refine h.attempts_eq (fun _ raw => parseBody w.upstream raw >>= fun data =>
      .ok (raw, listOrEmpty data)) (fun n => ?_) ?_
    · refine congrArg (_ >>= ·) (funext fun response => ?_)
      dsimp only [Builtin.reading]
      split
      · rfl
      · rfl
    · exact fun _ _ _ he => hparses.rest he
  unfold CrtSh.query
  rw [if_neg hdomain, hfetch, bind_assoc]
  refine congrArg (_ >>= ·) (funext fun raw => ?_)
  rw [bind_assoc]
  rfl

lemma CrtSh.finish_keeps {u : Upstream} {domain : List Char} {raw : Bytes} {data : List PyVal} :
    KeepsPayload raw (CrtSh.finish u domain raw data) := by
  refine KeepsPayload.bind fun (subdomains, truncated) _ => ?_
  refine KeepsPayload.bind fun entities _ => ?_
  exact KeepsPayload.evidence fun _ => rfl

lemma crtsh_fate (hparses : w.upstream.ParsesApart)
    (hexchange : Builtin.crtsh.exchange w input credentials = some (request, answers))
    (h : Arrives (Builtin.crtsh.gaveUp w) (Builtin.crtsh.reading w.upstream request) answers
      response) :
    BodyFate response.body ((Builtin.crtsh.plugin w).query input credentials)
      (Builtin.crtsh.ReportsSize response) True := by
  rw [crtsh_query_eq hparses hexchange h]
  unfold Builtin.reading
  dsimp only
  by_cases hlimited : response.status = 429
  -- the error about the status is one of the transport
  · rw [if_pos hlimited]
    constructor
    · exact fun _ => iff_of_true (raisesNetwork_error.mpr (Exc.network_transportError _))
        (Or.inr hlimited)
    · exact fun _ => iff_of_true (KeepsPayload.error _) trivial
  · rw [if_neg hlimited]
    have hreports : Builtin.crtsh.ReportsSize response = response.IsSuccess :=
      propext (or_iff_left hlimited)
    rw [hreports, readResponse_eq_readBody]
    refine bodyFate_of_readBody (Exc.network_tooLarge _) h.complete ?_
    exact KeepsPayload.bind fun parsed _ => CrtSh.finish_keeps

lemma hitSearch_fate {s : HitSearch} (hparses : w.upstream.ParsesApart)
    (hexchange : Builtin.exchange.searched w input s = some (request, answers))
    (h : Arrives w.upstream.client.gaveUp
      (readBody (Exc.tooLong s.service) w.upstream.client request) answers response) :
    BodyFate response.body (s.query w.upstream input) response.IsSuccess True := by
  unfold Builtin.exchange.searched at hexchange
  dsimp only at hexchange
  split at hexchange
  · cases hexchange
  rename_i hterm
  obtain ⟨rfl, rfl⟩ := Prod.mk.inj (Option.some.inj hexchange)
  have hfetch : s.fetch w.upstream (s.requestOf (strip input.label.toList))
      = s.accept w.upstream (s.requestOf (strip input.label.toList)) response :=
    h.attempts_eq (fun _ raw => parseBody w.upstream raw >>= fun parsed =>
      .ok (raw, HitSearch.hitCount parsed)) (fun _ => rfl) fun _ _ _ he => hparses.rest he
  unfold HitSearch.query
  rw [if_neg hterm, hfetch]
  unfold HitSearch.accept
  rw [bind_assoc]
  refine bodyFate_of_readBody (Exc.network_tooLong _) h.complete ?_
  refine KeepsPayload.bind fun (raw, hits) hparsed => ?_
  obtain ⟨value, -, hraw⟩ := bind_eq_ok.mp hparsed
  obtain ⟨rfl, -⟩ := Prod.mk.inj (Except.ok.inj hraw)
  exact KeepsPayload.evidence orElse_of_ne

/-- The status is looked at after the body is read: with a complete body that is no difference. -/
lemma urlhaus_reading {u : Upstream} (hcomplete : response.broken = none) :
    Builtin.urlhaus.reading u request response
      = readBody (Exc.tooLong "urlhaus") u.client request response := by
  unfold Builtin.reading Urlhaus.content
  rw [hcomplete]
  show (raiseForStatus u.client request response >>= fun _ =>
    if maxResponseBytes < response.body.length then Except.error (Exc.tooLong "urlhaus")
    else Except.ok response.body) = _
  by_cases hsuccess : response.IsSuccess
  · have hstatus : 200 ≤ response.status ∧ response.status < 300 := hsuccess
    rw [raiseForStatus, if_pos hstatus]
    show (if maxResponseBytes < response.body.length then Except.error (Exc.tooLong "urlhaus")
      else Except.ok response.body) = _
    by_cases hover : maxResponseBytes < response.body.length
    · rw [if_pos hover, readBody_over hsuccess hover]
    · rw [if_neg hover, readBody_within hcomplete hsuccess (by omega)]
  · have hstatus : ¬ (200 ≤ response.status ∧ response.status < 300) := hsuccess
    rw [raiseForStatus, if_neg hstatus, readBody_refused hsuccess]
    rfl

lemma urlhaus_fate (hparses : w.upstream.ParsesApart)
    (hexchange : Builtin.urlhaus.exchange w input credentials = some (request, answers))
    (h : Arrives (Builtin.urlhaus.gaveUp w) (Builtin.urlhaus.reading w.upstream request) answers
      response) :
    BodyFate response.body ((Builtin.urlhaus.plugin w).query input credentials)
      response.IsSuccess True := by
  show BodyFate _ (Urlhaus.query w.py w.upstream w.post input) _ _
  unfold Builtin.exchange at hexchange
  dsimp only at hexchange
  split at hexchange
  · cases hexchange
  rename_i hlabel
  obtain ⟨rfl, rfl⟩ := Prod.mk.inj (Option.some.inj hexchange)
  have hfetch : Urlhaus.fetch w.upstream w.post (Urlhaus.requestOf input)
      (Urlhaus.form input (strip input.label.toList))
        = Builtin.urlhaus.reading w.upstream (Urlhaus.requestOf input) response >>= fun raw =>
          parseBody w.upstream raw >>= fun parsed => .ok (raw, parsed) := by
    refine h.attempts_eq (fun _ raw => parseBody w.upstream raw >>= fun parsed =>
      .ok (raw, parsed)) (fun n => ?_) fun _ _ _ he => hparses.rest he
    refine congrArg (_ >>= ·) (funext fun response => ?_)
    unfold Urlhaus.accept Builtin.reading
    dsimp only
    rw [bind_assoc]
    refine congrArg (_ >>= ·) (funext fun raw => ?_)
    rw [bind_assoc]
    refine congrArg (_ >>= ·) (funext fun _ => ?_)
    split
    · rfl
    · rfl
  unfold Urlhaus.query
  rw [if_neg hlabel, hfetch, urlhaus_reading h.complete, bind_assoc]
  refine bodyFate_of_readBody (Exc.network_tooLong _) h.complete ?_
  refine KeepsPayload.bind fun (raw, parsed) hparsed => ?_
  obtain ⟨value, -, hraw⟩ := bind_eq_ok.mp hparsed
  obtain ⟨rfl, -⟩ := Prod.mk.inj (Except.ok.inj hraw)
  exact KeepsPayload.evidence orElse_of_ne

/-- Of the credentials the queries read the key alone. -/
lemma BYOKPlugin.query_of_apiKeyOf {u : Upstream} {apiKey : String} (b : BYOKPlugin)
    (h : apiKeyOf credentials = .ok apiKey) :
    (b.plugin u).query input credentials = (b.plugin u).query input (keyed apiKey) := by
  cases b with
  | virustotal =>
    show VirusTotal.query u input credentials = VirusTotal.query u input (keyed apiKey)
    rw [VirusTotal.query, VirusTotal.query, h, apiKeyOf_keyed]
  | shodan =>
    show Shodan.query u input credentials = Shodan.query u input (keyed apiKey)
    rw [Shodan.query, Shodan.query, h, apiKeyOf_keyed]
  | hibp =>
    show Hibp.query u input credentials = Hibp.query u input (keyed apiKey)
    rw [Hibp.query, Hibp.query, h, apiKeyOf_keyed]

/-- The evidence of `virustotal` has the body. -/
lemma VirusTotal.resultOf_keeps {u : Upstream} {question : String} {subject url : List Char}
    {raw : Bytes} {found : VirusTotal.Found} :
    KeepsPayload raw (VirusTotal.resultOf u question subject url raw found) :=
  KeepsPayload.evidence fun _ => rfl

/-- The plugin that needs a key, among the others. -/
def BYOKPlugin.builtin : BYOKPlugin → Builtin
  | virustotal => .virustotal
  | shodan => .shodan
  | hibp => .hibp

/-- What an attempt makes of the body that it has read. -/
def BYOKPlugin.parse (u : Upstream) (response : HttpResponse) (raw : Bytes) :
    (b : BYOKPlugin) → Except Exc b.Answer
  | virustotal => parseBody u raw >>= fun data => .ok (raw, dictOrEmpty data)
  | shodan => parseBody u raw >>= fun data => .ok (raw, dictOrEmpty data)
  | hibp =>
    if response.status = 404 then .ok none
    else parseBody u raw >>= fun data => .ok (some (raw, listOrEmpty data))

lemma BYOKPlugin.accept_eq {u : Upstream} (b : BYOKPlugin) :
    b.accept u request response
      = b.builtin.reading u request response >>= fun raw => b.parse u response raw := by
  cases b with
  | virustotal => rfl
  | shodan => rfl
  | hibp =>
    unfold BYOKPlugin.accept BYOKPlugin.builtin Builtin.reading BYOKPlugin.parse
    dsimp only
    split
    · rfl
    · rfl

lemma BYOKPlugin.parse_error {u : Upstream} (hparses : u.ParsesApart) {b : BYOKPlugin}
    {raw : Bytes} {e : Exc} (he : b.parse u response raw = .error e) : retryable e = false := by
  cases b with
  | virustotal => exact hparses.rest he
  | shodan => exact hparses.rest he
  | hibp =>
    unfold BYOKPlugin.parse at he
    dsimp only at he
    split at he
    · cases he
    · exact hparses.rest he

/-- The query of a plugin that needs a key is what is made of the body that arrives. -/
lemma keyed_query_eq {b : BYOKPlugin} (hparses : w.upstream.ParsesApart)
    (hexchange : Builtin.exchange.keyedExchange w input credentials b = some (request, answers))
    (h : Arrives w.upstream.client.gaveUp (b.builtin.reading w.upstream request) answers
      response) :
    (b.plugin w.upstream).query input credentials
      = b.builtin.reading w.upstream request response >>= fun raw =>
        b.parse w.upstream response raw >>= b.finish w.upstream input := by
  unfold Builtin.exchange.keyedExchange at hexchange
  split at hexchange
  case h_2 => cases hexchange
  rename_i apiKey hkey
  obtain ⟨asked, hrequest, hsent⟩ := Option.map_eq_some_iff.mp hexchange
  obtain ⟨rfl, rfl⟩ := Prod.mk.inj hsent
  have hfetch : withRetry w.upstream.client (b.fetchOnce w.upstream asked)
      = b.builtin.reading w.upstream asked response >>= fun raw =>
        b.parse w.upstream response raw := by
    refine h.attempts_eq (fun response raw => b.parse w.upstream response raw) (fun n => ?_)
      fun _ _ _ he => BYOKPlugin.parse_error hparses he
    exact congrArg (_ >>= ·) (funext fun response => b.accept_eq)
  rw [b.query_of_apiKeyOf hkey, BYOKPlugin.query_keyed, hrequest]
  dsimp only
  rw [BYOKPlugin.ask, hfetch, bind_assoc]

lemma keyed_fate {b : BYOKPlugin} (hparses : w.upstream.ParsesApart)
    (hexchange : Builtin.exchange.keyedExchange w input credentials b = some (request, answers))
    (h : Arrives w.upstream.client.gaveUp (b.builtin.reading w.upstream request) answers
      response) :
    BodyFate response.body ((b.plugin w.upstream).query input credentials)
      response.IsSuccess True := by
  rw [keyed_query_eq hparses hexchange h]
  cases b with
  | virustotal =>
    rw [show BYOKPlugin.virustotal.builtin.reading w.upstream request response = _
      from readResponse_eq_readBody "VirusTotal" _ _ _]
    refine bodyFate_of_readBody (Exc.network_tooLarge _) h.complete ?_
    refine KeepsPayload.bind fun (raw, data) hparsed => ?_
    obtain ⟨value, -, hraw⟩ := bind_eq_ok.mp hparsed
    obtain ⟨rfl, -⟩ := Prod.mk.inj (Except.ok.inj hraw)
    unfold BYOKPlugin.finish
    dsimp only
    split
    · exact KeepsPayload.bind fun found _ => VirusTotal.resultOf_keeps
    · exact KeepsPayload.bind fun found _ => VirusTotal.resultOf_keeps
    · exact VirusTotal.resultOf_keeps
  | shodan =>
    rw [show BYOKPlugin.shodan.builtin.reading w.upstream request response = _
      from readResponse_eq_readBody "Shodan" _ _ _]
    refine bodyFate_of_readBody (Exc.network_tooLarge _) h.complete ?_
    refine KeepsPayload.bind fun (raw, data) hparsed => ?_
    obtain ⟨value, -, hraw⟩ := bind_eq_ok.mp hparsed
    obtain ⟨rfl, -⟩ := Prod.mk.inj (Except.ok.inj hraw)
    refine KeepsPayload.bind fun found _ => ?_
    exact KeepsPayload.bind fun services _ => KeepsPayload.evidence fun _ => rfl
  | hibp =>
    unfold BYOKPlugin.builtin Builtin.reading BYOKPlugin.parse
    dsimp only
    by_cases hmissing : response.status = 404
    -- the account is in no breach, and there is no evidence
    · have hsuccess : ¬ response.IsSuccess := by
        unfold HttpResponse.IsSuccess
        omega
      simp only [if_pos hmissing]
      constructor
      · exact fun _ => iff_of_false RaisesNetwork.not_ok hsuccess
      · exact fun _ => iff_of_true KeepsPayload.no_evidence trivial
    · simp only [if_neg hmissing]
      rw [readResponse_eq_readBody]
      refine bodyFate_of_readBody (Exc.network_tooLarge _) h.complete ?_
      refine KeepsPayload.bind fun answer hparsed => ?_
      obtain ⟨value, -, hraw⟩ := bind_eq_ok.mp hparsed
      obtain rfl := Except.ok.inj hraw
      exact KeepsPayload.bind fun classes _ => KeepsPayload.evidence fun _ => rfl

/-! ### Those that swallow -/

lemma length_term_le (hlabel : LengthIn 512 input.label) :
    (strip input.label.toList).length ≤ 512 :=
  (length_strip_le _).trans hlabel.2

lemma waybackCdx_fate (hparses : w.upstream.ParsesApart) (hlabel : LengthIn 512 input.label)
    (hexchange : Builtin.waybackCdx.exchange w input credentials = some (request, answers))
    (h : Arrives (Builtin.waybackCdx.gaveUp w)
      (Builtin.waybackCdx.reading w.upstream request) answers response) :
    BodyFate response.body ((Builtin.waybackCdx.plugin w).query input credentials) False
      (Builtin.waybackCdx.KeepsBody w.upstream response) := by
  show BodyFate _ (WaybackCdx.query w.py w.upstream input) _ _
  unfold Builtin.exchange at hexchange
  dsimp only at hexchange
  split at hexchange
  · cases hexchange
  rename_i hterm
  obtain ⟨rfl, rfl⟩ := Prod.mk.inj (Option.some.inj hexchange)
  have hfetch : WaybackCdx.fetch w.upstream
      ⟨WaybackCdx.urlOf input (strip input.label.toList), [userAgent]⟩
        = readResponse "wayback cdx" w.upstream.client
          ⟨WaybackCdx.urlOf input (strip input.label.toList), [userAgent]⟩ response >>= fun raw =>
            parseBody w.upstream raw >>= fun parsed => .ok (raw, WaybackCdx.rowsOf parsed) :=
    h.attempts_eq (fun _ raw => parseBody w.upstream raw >>= fun parsed =>
      .ok (raw, WaybackCdx.rowsOf parsed)) (fun _ => rfl) fun _ _ _ he => hparses.rest he
  have hkeeps : Builtin.waybackCdx.KeepsBody w.upstream response
      = (response.body = [] ∨ utf8 "[]".toList = response.body ∨ (response.IsSuccess ∧ True)) := by
    rw [and_true]
    rfl
  rw [hkeeps]
  unfold WaybackCdx.query
  rw [if_neg hterm]
  refine bodyFate_of_swallowed (Exc.tooLarge "wayback cdx") w.upstream.client
    ⟨WaybackCdx.urlOf input (strip input.label.toList), [userAgent]⟩
    (Exc.network_tooLarge _).1 h.complete ?_ ?_
  · intro e hhttp he
    have hfetched : WaybackCdx.fetched w.upstream
        ⟨WaybackCdx.urlOf input (strip input.label.toList), [userAgent]⟩
          = .ok ([], [], "error") := by
      rw [WaybackCdx.fetched, hfetch, readResponse_eq_readBody, he]
      exact if_pos hhttp
    refine Evidences.bind hfetched ?_
    refine Evidences.bind (show WaybackCdx.extractSnapshots w.py [] = .ok [] from rfl) ?_
    refine Evidences.bind (show WaybackCdx.proposals 0 [] = .ok ([], []) from rfl) ?_
    exact Evidences.of_validate (lengthIn_question (by decide) (length_term_le hlabel) (le_refl _))
  · intro hread
    refine iff_of_true (KeepsPayload.bind fun answer hfetched => ?_) (by simp)
    have hraw : answer.1 = response.body := by
      rw [WaybackCdx.fetched, hfetch, readResponse_eq_readBody, hread] at hfetched
      dsimp only [bind, Except.bind] at hfetched
      cases hparsed : parseBody w.upstream response.body with
      | ok parsed =>
        rw [hparsed] at hfetched
        cases hfetched
        rfl
      | error e =>
        rw [hparsed] at hfetched
        dsimp only at hfetched
        rw [if_neg (by rw [(hparses.parseBody hparsed).1]; exact Bool.false_ne_true)] at hfetched
        cases hfetched
    rw [← hraw]
    refine KeepsPayload.bind fun all _ => ?_
    exact KeepsPayload.bind fun _ _ => KeepsPayload.evidence orElse_of_ne

lemma openCorporates_fate (hparses : w.upstream.ParsesApart) (hlabel : LengthIn 512 input.label)
    (hexchange : Builtin.openCorporates.exchange w input credentials = some (request, answers))
    (h : Arrives (Builtin.openCorporates.gaveUp w)
      (Builtin.openCorporates.reading w.upstream request) answers response) :
    BodyFate response.body ((Builtin.openCorporates.plugin w).query input credentials) False
      (Builtin.openCorporates.KeepsBody w.upstream response) := by
  show BodyFate _ (OpenCorporates.query w.upstream input) _ _
  unfold Builtin.exchange at hexchange
  dsimp only at hexchange
  split at hexchange
  · cases hexchange
  rename_i hterm
  obtain ⟨rfl, rfl⟩ := Prod.mk.inj (Option.some.inj hexchange)
  have hfetch : OpenCorporates.fetch w.upstream
      (OpenCorporates.requestOf (strip input.label.toList))
        = OpenCorporates.accept w.upstream
          (OpenCorporates.requestOf (strip input.label.toList)) response :=
    h.attempts_eq (fun _ raw => parseBody w.upstream raw >>= fun parsed =>
      .ok (raw, OpenCorporates.companiesOf parsed)) (fun _ => rfl) fun _ _ _ he => hparses.rest he
  have hkeeps : Builtin.openCorporates.KeepsBody w.upstream response
      = (response.body = [] ∨ utf8 ['\x7b', '\x7d'] = response.body ∨
        (response.IsSuccess ∧ True)) := by
    rw [and_true]
    rfl
  rw [hkeeps]
  unfold OpenCorporates.query
  rw [if_neg hterm]
  refine bodyFate_of_swallowed (Exc.tooLong "opencorporates") w.upstream.client
    (OpenCorporates.requestOf (strip input.label.toList))
    (Exc.network_tooLong _).1 h.complete ?_ ?_
  · intro e hhttp he
    have hsettled : OpenCorporates.settle (OpenCorporates.fetch w.upstream
        (OpenCorporates.requestOf (strip input.label.toList))) = .ok ([], [], "error") := by
      rw [hfetch, OpenCorporates.accept, he]
      exact if_pos hhttp
    refine Evidences.bind hsettled ?_
    refine Evidences.bind (show OpenCorporates.entityProposals 0 [] = .ok [] from rfl) ?_
    exact Evidences.of_validate (lengthIn_question (by decide) (length_term_le hlabel) (le_refl _))
  · intro hread
    refine iff_of_true (KeepsPayload.bind fun answer hsettled => ?_) (by simp)
    have hraw : answer.1 = response.body := by
      rw [hfetch, OpenCorporates.accept, hread] at hsettled
      dsimp only [bind, Except.bind] at hsettled
      cases hparsed : parseBody w.upstream response.body with
      | ok parsed =>
        rw [hparsed] at hsettled
        cases hsettled
        rfl
      | error e =>
        rw [hparsed, OpenCorporates.settle] at hsettled
        rw [if_neg (by rw [(hparses.parseBody hparsed).1]; exact Bool.false_ne_true)] at hsettled
        cases hsettled
    rw [← hraw]
    exact KeepsPayload.bind fun entities _ => KeepsPayload.evidence orElse_of_ne

/-- What an attempt makes of the body that it has read. -/
def GithubPublic.parse (u : Upstream) (response : HttpResponse) (raw : Bytes) :
    Except Exc (Bytes × Option PyVal × ℕ) :=
  if response.status = 404 then .ok (raw, none, 404)
  else parseBody u raw >>= fun parsed => .ok (raw, parsed, response.status)

lemma GithubPublic.accept_eq {u : Upstream} :
    GithubPublic.accept u request response
      = Builtin.githubPublic.reading u request response >>= GithubPublic.parse u response := by
  unfold GithubPublic.accept Builtin.reading GithubPublic.parse
  dsimp only
  split
  · rfl
  · rfl

/-- The errors of the status are raised again, and with a body that is read nothing is lost. -/
lemma githubPublic_fate (hparses : w.upstream.ParsesApart) (hlabel : LengthIn 512 input.label)
    (hexchange : Builtin.githubPublic.exchange w input credentials = some (request, answers))
    (h : Arrives (Builtin.githubPublic.gaveUp w)
      (Builtin.githubPublic.reading w.upstream request) answers response) :
    BodyFate response.body ((Builtin.githubPublic.plugin w).query input credentials) False
      True := by
  show BodyFate _ (GithubPublic.query w.upstream input) _ _
  unfold Builtin.exchange at hexchange
  dsimp only at hexchange
  split at hexchange
  · cases hexchange
  rename_i hterm
  obtain ⟨rfl, rfl⟩ := Prod.mk.inj (Option.some.inj hexchange)
  have hfetch : GithubPublic.fetch w.upstream
      (GithubPublic.requestOf input (strip input.label.toList))
        = GithubPublic.accept w.upstream
          (GithubPublic.requestOf input (strip input.label.toList)) response := by
    rw [GithubPublic.accept_eq]
    refine h.attempts_eq (GithubPublic.parse w.upstream) (fun n => ?_) fun response raw e he => ?_
    · exact congrArg (_ >>= ·) (funext fun response => GithubPublic.accept_eq)
    · unfold GithubPublic.parse at he
      split at he
      · cases he
      · exact hparses.rest he
  unfold GithubPublic.query
  rw [if_neg hterm, hfetch]
  -- the error about the size is settled, and the evidence says so
  have hlong : GithubPublic.accept w.upstream
      (GithubPublic.requestOf input (strip input.label.toList)) response
        = .error (Exc.tooLong "github") →
      Evidences (utf8 ['\x7b', '\x7d']) (GithubPublic.settle (GithubPublic.accept w.upstream
        (GithubPublic.requestOf input (strip input.label.toList)) response)
          >>= fun answer => GithubPublic.resultOf w.upstream input
            (strip input.label.toList) answer.1 answer.2.1 answer.2.2) := by
    intro hlong
    rw [hlong]
    refine Evidences.bind (show _ = Except.ok ([], none, "error") from rfl) ?_
    refine Evidences.bind (show GithubPublic.proposals input none = .ok ([], []) from rfl) ?_
    exact Evidences.of_validate (lengthIn_question (by decide) (length_term_le hlabel) (le_refl _))
  constructor
  · intro hover
    refine iff_of_false ?_ id
    by_cases hmissing : response.status = 404
    · refine (hlong ?_).not_raisesNetwork
      rw [GithubPublic.accept, if_pos hmissing, readUpTo_over hover]
      rfl
    by_cases hsuccess : response.IsSuccess
    · refine (hlong ?_).not_raisesNetwork
      rw [GithubPublic.accept, if_neg hmissing, readBody_over hsuccess hover]
      rfl
    · rw [GithubPublic.accept, if_neg hmissing, readBody_refused hsuccess]
      exact fun hraises => Exc.not_network_httpStatusError _ (raisesNetwork_error.mp hraises)
  · intro hwithin
    refine iff_of_true (KeepsPayload.bind fun answer hsettled => ?_) trivial
    have hraw : answer.1 = response.body := by
      by_cases hmissing : response.status = 404
      · rw [GithubPublic.accept, if_pos hmissing, readUpTo_within h.complete hwithin] at hsettled
        cases hsettled
        rfl
      rw [GithubPublic.accept, if_neg hmissing] at hsettled
      by_cases hsuccess : response.IsSuccess
      · rw [readBody_within h.complete hsuccess hwithin] at hsettled
        dsimp only [bind, Except.bind] at hsettled
        cases hparsed : parseBody w.upstream response.body with
        | ok parsed =>
          rw [hparsed, GithubPublic.settle, if_neg hmissing] at hsettled
          cases hsettled
          rfl
        | error e =>
          rw [hparsed, GithubPublic.settle, (hparses.parseBody hparsed).1,
            if_neg Bool.false_ne_true, ite_self] at hsettled
          cases hsettled
      · rw [readBody_refused hsuccess] at hsettled
        dsimp only [bind, Except.bind, GithubPublic.settle] at hsettled
        rw [if_pos (by simp [Exc.httpStatusError, Exc.isinstance])] at hsettled
        cases hsettled
    rw [← hraw]
    exact KeepsPayload.bind fun _ _ => KeepsPayload.evidence orElse_of_ne

/-- What an attempt makes of the body of an RDAP answer that it has read. -/
def DnsWhois.parse (u : Upstream) (response : HttpResponse) (raw : Bytes) :
    Except Exc (Bytes × Bool) :=
  if response.status = 404 then .ok ([], false)
  else parseBody u raw >>= fun parsed => .ok (raw, match parsed with
    | some (.dict _) => true
    | _ => false)

lemma DnsWhois.fetchOnce_eq {u : Upstream} (n : ℕ) :
    DnsWhois.fetchOnce u request n = u.client.send n request >>= fun response =>
      Builtin.dnsWhois.reading u request response >>= DnsWhois.parse u response := by
  refine congrArg (_ >>= ·) (funext fun response => ?_)
  unfold Builtin.reading DnsWhois.parse
  dsimp only
  split
  · rfl
  · refine congrArg (_ >>= ·) (funext fun raw => ?_)
    refine congrArg (_ >>= ·) (funext fun parsed => ?_)
    cases parsed with
    | none => rfl
    | some value => cases value <;> rfl

/-- What is left of the body of an RDAP answer. -/
lemma DnsWhois.rdap_eq {u : Upstream} (hparses : u.ParsesApart) {domain : List Char}
    (h : Arrives u.client.gaveUp (Builtin.dnsWhois.reading u (DnsWhois.requestOf domain))
      (fun n => u.client.send n (DnsWhois.requestOf domain)) response) :
    ((DnsWhois.rdap u domain).1 = response.body ∧ response.body.length ≤ maxResponseBytes ∧
        response.IsSuccess ∧ (parseBody u response.body).isOk = true) ∨
      ((DnsWhois.rdap u domain).1 = [] ∧ ¬ (response.body.length ≤ maxResponseBytes ∧
        response.IsSuccess ∧ (parseBody u response.body).isOk = true)) := by
  have hfetch : withRetry u.client (DnsWhois.fetchOnce u (DnsWhois.requestOf domain))
      = Builtin.dnsWhois.reading u (DnsWhois.requestOf domain) response >>=
        DnsWhois.parse u response := by
    refine h.attempts_eq (DnsWhois.parse u) DnsWhois.fetchOnce_eq fun response raw e he => ?_
    unfold DnsWhois.parse at he
    split at he
    · cases he
    · exact hparses.rest he
  rw [DnsWhois.rdap, hfetch]
  unfold Builtin.reading DnsWhois.parse
  dsimp only
  by_cases hmissing : response.status = 404
  · have hsuccess : ¬ response.IsSuccess := by
      unfold HttpResponse.IsSuccess
      omega
    simp only [if_pos hmissing]
    exact Or.inr ⟨rfl, fun hread => hsuccess hread.2.1⟩
  simp only [if_neg hmissing]
  rw [readResponse_eq_readBody]
  by_cases hsuccess : response.IsSuccess
  · by_cases hover : maxResponseBytes < response.body.length
    · rw [readBody_over hsuccess hover]
      exact Or.inr ⟨rfl, fun hread => by omega⟩
    · rw [readBody_within h.complete hsuccess (by omega)]
      dsimp only [bind, Except.bind]
      cases hparsed : parseBody u response.body with
      | error e => exact Or.inr ⟨rfl, fun hread => nomatch hread.2.2⟩
      | ok parsed => exact Or.inl ⟨rfl, by omega, hsuccess, rfl⟩
  · rw [readBody_refused hsuccess]
    exact Or.inr ⟨rfl, fun hread => hsuccess hread.2.1⟩

lemma dnsWhois_fate (hparses : w.upstream.ParsesApart)
    (hexchange : Builtin.dnsWhois.exchange w input credentials = some (request, answers))
    (h : Arrives (Builtin.dnsWhois.gaveUp w) (Builtin.dnsWhois.reading w.upstream request) answers
      response) :
    BodyFate response.body ((Builtin.dnsWhois.plugin w).query input credentials) False
      (Builtin.dnsWhois.KeepsBody w.upstream response) := by
  show BodyFate _ (DnsWhois.query w.upstream w.resolver input) _ _
  unfold Builtin.exchange at hexchange
  dsimp only at hexchange
  split at hexchange
  · cases hexchange
  rename_i hlooks
  obtain ⟨rfl, rfl⟩ := Prod.mk.inj (Option.some.inj hexchange)
  simp only [Bool.or_eq_true, Bool.not_eq_true', not_or, Bool.not_eq_false] at hlooks
  obtain ⟨⟨hdomain, hre⟩, hfits⟩ := hlooks
  simp only [DnsWhois.recordsFit, Bool.and_eq_true] at hfits
  obtain ⟨⟨⟨ha, haaaa⟩, hns⟩, hmx⟩ := hfits
  have hevidences : Evidences
      (DnsWhois.payloadOf (DnsWhois.rdap w.upstream (DnsWhois.domainOf w.upstream input)).1)
        (DnsWhois.query w.upstream w.resolver input) := by
    unfold DnsWhois.query
    rw [if_neg (by rw [hre, Bool.not_true, Bool.or_false]; exact hdomain)]
    refine Evidences.bind (ok_of_isOk ha ([], [])) ?_
    refine Evidences.bind (ok_of_isOk haaaa ([], [])) ?_
    refine Evidences.bind (ok_of_isOk hns ([], [])) ?_
    refine Evidences.bind (ok_of_isOk hmx ([], [])) ?_
    exact Evidences.of_validate
      (lengthIn_question (by decide) (length_of_domainRe hre).2 (by decide))
  constructor
  · exact fun _ => iff_of_false hevidences.not_raisesNetwork id
  · intro hwithin
    rw [hevidences.keepsPayload_iff]
    show _ ↔ response.body = [] ∨ utf8 ['\x7b', '\x7d'] = response.body ∨ _
    refine or_congr_right' fun hbody => ?_
    rcases DnsWhois.rdap_eq hparses h with ⟨hraw, -, hread⟩ | ⟨hraw, hlost⟩
    · rw [hraw]
      exact iff_of_true (orElse_of_ne hbody) (Or.inr hread)
    · rw [hraw]
      exact (or_iff_left fun hread => hlost ⟨hwithin, hread⟩).symm

/-! ### All of them -/

theorem Builtin.fate {b : Builtin} (hparses : w.upstream.ParsesApart)
    (hlabel : LengthIn 512 input.label)
    (hexchange : b.exchange w input credentials = some (request, answers))
    (h : Arrives (b.gaveUp w) (b.reading w.upstream request) answers response) :
    BodyFate response.body ((b.plugin w).query input credentials) (b.ReportsSize response)
      (b.KeepsBody w.upstream response) := by
  cases b with
  | crtsh => exact crtsh_fate hparses hexchange h
  | dnsWhois => exact dnsWhois_fate hparses hexchange h
  | virustotal => exact keyed_fate hparses hexchange h
  | shodan => exact keyed_fate hparses hexchange h
  | hibp => exact keyed_fate hparses hexchange h
  | waybackCdx => exact waybackCdx_fate hparses hlabel hexchange h
  | githubPublic => exact githubPublic_fate hparses hlabel hexchange h
  | openCorporates => exact openCorporates_fate hparses hlabel hexchange h
  | alephOccrp => exact hitSearch_fate hparses hexchange h
  | openSanctions => exact hitSearch_fate hparses hexchange h
  | urlhaus => exact urlhaus_fate hparses hexchange h

end Plugins

/-! ## Runs -/

/-- The documented guarantee about a body: too large a one fails the run on the network, and any
other is the payload of the evidence. -/
def BodyGuarantee (body : Bytes) (st : Store) (runId : UUID)
    (answer : Except Exc QueryResult) : Prop :=
  (maxResponseBytes < body.length → FailedOnNetwork st runId) ∧
    (body.length ≤ maxResponseBytes → KeepsPayload body answer)

/-- **When the guarantee holds**: for too large a body, when the plugin reports its size; for any
other, when it keeps it. -/
theorem body_guarantee_iff (py : Interp) {w : Surroundings} {b : Builtin} {x : RunExt}
    {req : RunRequest} {existingRun : Option PluginRun} {credentials : Option PyDict}
    {run : PluginRun} {s begun : Session Store Write Bucket}
    {request : HttpRequest} {answers : ℕ → Except Exc HttpResponse} {response : HttpResponse}
    (hparses : w.upstream.ParsesApart) (hlabel : LengthIn 512 req.inputEntity.label)
    (hquerying : Querying x req existingRun (b.plugin w) credentials run s begun)
    (hexchange : b.exchange w req.inputEntity credentials = some (request, answers))
    (harrives : Arrives (b.gaveUp w) (b.reading w.upstream request) answers response) :
    BodyGuarantee response.body (PluginRunner.run py x req existingRun s).2.committed run.id
        ((b.plugin w).query req.inputEntity credentials) ↔
      (maxResponseBytes < response.body.length → b.ReportsSize response) ∧
        (response.body.length ≤ maxResponseBytes → b.KeepsBody w.upstream response) := by
  have hfate := Builtin.fate hparses hlabel hexchange harrives
  unfold BodyGuarantee
  refine and_congr (forall_congr' fun hover => ?_) (forall_congr' hfate.within)
  rw [hquerying.failed_iff py]
  exact hfate.above hover

/-! ### An oversized body -/

/-- One byte too many. -/
def oversizedBody : Bytes := List.replicate (maxResponseBytes + 1) 0

/-- Every request is answered 200 with the oversized body in one chunk. -/
def oversizing : Surroundings where
  upstream := replying oversizedBody .none
  resolver := ⟨fun _ _ => .ok [], fun _ => .ok []⟩
  post := fun _ _ _ => .ok { status := 200, chunks := [oversizedBody] }
  py := plainInterp

/-- The response. -/
def oversizedResponse : HttpResponse := { status := 200, chunks := [oversizedBody] }

lemma replying_parsesApart (body : Bytes) (data : PyVal) : (replying body data).ParsesApart := by
  intro raw e he
  have he : (if raw = body then Except.ok data else Except.error Exc.jsonDecodeError)
      = Except.error e := he
  split at he
  · cases he
  · cases he
    exact ⟨rfl, rfl⟩

lemma oversizing_parsesApart : oversizing.upstream.ParsesApart := replying_parsesApart _ _

lemma oversized : maxResponseBytes < oversizedResponse.body.length := by
  show maxResponseBytes < [oversizedBody].flatten.length
  rw [List.flatten_singleton, oversizedBody, List.length_replicate]
  omega

lemma oversized_success : oversizedResponse.IsSuccess := ⟨by decide, by decide⟩

/-- A run of the plugin for `example.com`. -/
def exampleRequest (plugin : OSINTPlugin) (hname : plugin.name ≠ "") : RunRequest :=
  { domainRequest ⟨[], [], []⟩ with
    registry := ⟨[plugin], names_nodup_one plugin, names_nonempty_one hname⟩
    pluginName := plugin.name }

/-- The session in which the `try` of the run begins. -/
def exampleBegun (plugin : OSINTPlugin) (hname : plugin.name ≠ "") :
    Session Store Write Bucket :=
  ⟨domainStore.apply (.insertRun (PluginRunner.newRun calm (exampleRequest plugin hname) plugin)),
    [], false, []⟩

/-- A plugin that takes domains and needs no key comes to its query. -/
lemma example_querying (plugin : OSINTPlugin) (hname : plugin.name ≠ "")
    (hpremium : plugin.premium = false) (hkey : plugin.requiresCredentials = false)
    (haccepts : PluginRunner.checkInputType plugin exampleDomain = .ok ())
    (hfits : domainStore.accepts (.insertRun
      (PluginRunner.newRun calm (exampleRequest plugin hname) plugin)) = true) :
    Querying calm (exampleRequest plugin hname) none plugin none
      (PluginRunner.newRun calm (exampleRequest plugin hname) plugin) domainSession
      (exampleBegun plugin hname) where
  idle := domainSession_idle
  existing := fun _ h => nomatch h
  start := by
    refine PluginRunner.start_new domainSession_idle ?_ ?_ haccepts hfits rfl rfl
    · exact PluginRegistry.get_eq_ok_iff.mpr ⟨List.mem_singleton_self _, rfl⟩
    · rw [hpremium]
      rfl
  resolved := by
    unfold PluginRunner.resolveCredentials
    rw [hkey]
    rfl
  handled := rfl

/-- The first response is the one that arrives. -/
lemma oversized_arrives {gaveUp : ℕ → Bool} {reading : HttpResponse → Except Exc Bytes}
    {answers : ℕ → Except Exc HttpResponse} (service : String)
    (hanswer : answers 1 = .ok oversizedResponse)
    (hreading : reading oversizedResponse = .error (Exc.tooLarge service)) :
    Arrives gaveUp reading answers oversizedResponse where
  complete := rfl
  answered := by
    refine ⟨1, le_refl 1, by decide, hanswer, fun m hm hlt => by omega, Or.inr (Or.inr ?_)⟩
    intro e he
    rw [hreading] at he
    cases he
    rfl

theorem body_guarantee_iff_crtsh :
    FailedOnNetwork (PluginRunner.run plainInterp calm
      (exampleRequest (Builtin.crtsh.plugin oversizing) (by decide)) none
        domainSession).2.committed 9 := by
  have hquerying := example_querying (Builtin.crtsh.plugin oversizing) (by decide) rfl rfl rfl
    (by decide)
  have harrives : Arrives (Builtin.crtsh.gaveUp oversizing)
      (Builtin.crtsh.reading oversizing.upstream (CrtSh.requestOf exampleCom))
        (fun n => oversizing.upstream.client.send n (CrtSh.requestOf exampleCom))
          oversizedResponse := by
    refine oversized_arrives "crt.sh" (HttpClient.send_accepted (by decide +kernel)) ?_
    show readResponse "crt.sh" _ _ _ = _
    rw [readResponse_eq_readBody, readBody_over oversized_success oversized]
  have hexchange : Builtin.crtsh.exchange oversizing exampleDomain none
      = some (CrtSh.requestOf exampleCom,
        fun n => oversizing.upstream.client.send n (CrtSh.requestOf exampleCom)) := by
    have hdomain : CrtSh.domainOf oversizing.upstream exampleDomain = exampleCom := by
      decide +kernel
    unfold Builtin.exchange
    rw [hdomain]
    rfl
  have hguarantee := (body_guarantee_iff plainInterp oversizing_parsesApart (by decide) hquerying
    hexchange harrives).mpr ⟨fun _ => Or.inl oversized_success, fun _ => trivial⟩
  exact hguarantee.1 oversized

/-- `wayback_cdx` takes the error about the size for one of the fetch, and its run goes on. -/
theorem body_not_guaranteed :
    ¬ ∀ (py : Interp) (w : Surroundings) (b : Builtin) (x : RunExt) (req : RunRequest)
      (existingRun : Option PluginRun) (credentials : Option PyDict) (run : PluginRun)
      (s begun : Session Store Write Bucket) (request : HttpRequest)
      (answers : ℕ → Except Exc HttpResponse) (response : HttpResponse),
      w.upstream.ParsesApart → LengthIn 512 req.inputEntity.label →
      Querying x req existingRun (b.plugin w) credentials run s begun →
      b.exchange w req.inputEntity credentials = some (request, answers) →
      Arrives (b.gaveUp w) (b.reading w.upstream request) answers response →
        BodyGuarantee response.body (PluginRunner.run py x req existingRun s).2.committed run.id
          ((b.plugin w).query req.inputEntity credentials) := by
  intro h
  have hquerying := example_querying (Builtin.waybackCdx.plugin oversizing) (by decide) rfl rfl rfl
    (by decide)
  have harrives : Arrives (Builtin.waybackCdx.gaveUp oversizing)
      (Builtin.waybackCdx.reading oversizing.upstream
        ⟨WaybackCdx.urlOf exampleDomain exampleCom, [userAgent]⟩)
        (fun n => oversizing.upstream.client.send n
          ⟨WaybackCdx.urlOf exampleDomain exampleCom, [userAgent]⟩) oversizedResponse := by
    refine oversized_arrives "wayback cdx" (HttpClient.send_accepted (by decide +kernel)) ?_
    show readResponse "wayback cdx" _ _ _ = _
    rw [readResponse_eq_readBody, readBody_over oversized_success oversized]
  have hexchange : Builtin.waybackCdx.exchange oversizing exampleDomain none
      = some (⟨WaybackCdx.urlOf exampleDomain exampleCom, [userAgent]⟩,
        fun n => oversizing.upstream.client.send n
          ⟨WaybackCdx.urlOf exampleDomain exampleCom, [userAgent]⟩) := by
    have hlabel : strip exampleDomain.label.toList = exampleCom := by decide +kernel
    unfold Builtin.exchange
    rw [hlabel]
    rfl
  have hguarantee := h plainInterp oversizing .waybackCdx calm _ none none _ domainSession _ _ _ _
    oversizing_parsesApart (by decide) hquerying hexchange harrives
  have hraises := (hquerying.failed_iff plainInterp).mp (hguarantee.1 oversized)
  exact ((Builtin.fate oversizing_parsesApart (by decide) hexchange harrives).above oversized).mp
    hraises

end Sleuthgraph
