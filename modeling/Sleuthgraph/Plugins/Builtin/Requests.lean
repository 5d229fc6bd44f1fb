import Sleuthgraph.Lib.Logs
import Sleuthgraph.Plugins.Builtin.Shodan
import Sleuthgraph.Plugins.Builtin.VirusTotal

/-!
# The requests that `virustotal` and `shodan` issue

The two plugins once more, with a log of their requests. A request is in it when its URL is
accepted, so that something is sent. Without the log they are the plugins of the other modules.
-/

namespace Sleuthgraph

open Programs Logs

/-- Computations with a log of the requests they issue. -/
abbrev Issuing (α : Type) := Logs.Logged HttpRequest Unit Exc α

variable {α β : Type}

/-- A computation without requests. -/
def quiet (r : Except Exc α) : Issuing α := silent id (Prog.ofExcept r)

/-- `client.stream("GET", url, ...)` -/
def HttpClient.issue (client : HttpClient) (n : ℕ) (request : HttpRequest) :
    Issuing HttpResponse := do
  if urlAccepted request.url then emit request
  quiet (client.send n request)

/-- `attempts` -/
def issuingAttempts (gaveUp : ℕ → Bool) (attempt : ℕ → Issuing α) : ℕ → ℕ → Issuing α
  | 0, n => attempt n
  | k + 1, n => tryCatch (attempt n) fun e =>
    if retryable e && !gaveUp n then issuingAttempts gaveUp attempt k (n + 1) else throw e

/-- `withRetry` -/
def issuingRetry (client : HttpClient) (attempt : ℕ → Issuing α) : Issuing α :=
  issuingAttempts client.gaveUp attempt 2 1

/-- One attempt of a `_fetch`, with the name of the service. -/
def issuingOnce (service : String) (u : Upstream) (request : HttpRequest) (n : ℕ) :
    Issuing (Bytes × PyDict) := do
  let response ← u.client.issue n request
  let raw ← quiet (readResponse service u.client request response)
  let data ← quiet (parseBody u raw)
  pure (raw, dictOrEmpty data)

namespace VirusTotal

/-- `_fetch` -/
def issuingFetch (u : Upstream) (request : HttpRequest) : Issuing (Bytes × PyDict) :=
  issuingRetry u.client (issuingOnce "VirusTotal" u request)

/-- `_query_domain` -/
def issuingDomain (u : Upstream) (label : List Char) (apiKey : String) : Issuing QueryResult :=
  let domain := rstrip (· = '.') (u.text.lower label)
  if !domainRe domain then pure ⟨[], [], []⟩
  else do
    let url := baseUrl ++ "/domains/".toList ++ domain
    let (raw, data) ← issuingFetch u (requestOf url apiKey)
    let found ← quiet (extractDomain u domain data)
    quiet (resultOf u "VirusTotal domain lookup for " domain url raw found)

/-- `_query_ip` -/
def issuingIp (u : Upstream) (ip : List Char) (apiKey : String) : Issuing QueryResult :=
  if !ipInputRe ip then pure ⟨[], [], []⟩
  else do
    let url := baseUrl ++ "/ip_addresses/".toList ++ ip
    let (raw, data) ← issuingFetch u (requestOf url apiKey)
    let found ← quiet (extractIp u data)
    quiet (resultOf u "VirusTotal IP lookup for " ip url raw found)

/-- `_query_url` -/
def issuingUrl (u : Upstream) (urlLabel : List Char) (apiKey : String) :
    Issuing QueryResult := do
  let url := baseUrl ++ "/urls/".toList ++ base64Url (utf8 urlLabel)
  let (raw, _) ← issuingFetch u (requestOf url apiKey)
  quiet (resultOf u "VirusTotal URL analysis for " (urlLabel.take 120) url raw Found.empty)

/-- `VirusTotalPlugin.query` -/
def issuingQuery (u : Upstream) (input : Entity) (credentials : Option PyDict) :
    Issuing QueryResult := do
  let apiKey ← quiet (apiKeyOf credentials)
  match EntityType.ofValue input.type with
  | none => throw Exc.valueError
  | some type =>
    let label := strip input.label.toList
    if label.isEmpty then pure ⟨[], [], []⟩
    else match type with
      | .domain => issuingDomain u label apiKey
      | .ipAddress => issuingIp u label apiKey
      | .url => issuingUrl u label apiKey
      | _ => pure ⟨[], [], []⟩

end VirusTotal

namespace Shodan

/-- `_fetch` -/
def issuingFetch (u : Upstream) (request : HttpRequest) : Issuing (Bytes × PyDict) :=
  issuingRetry u.client (issuingOnce "Shodan" u request)

/-- `ShodanPlugin.query` -/
def issuingQuery (u : Upstream) (input : Entity) (credentials : Option PyDict) :
    Issuing QueryResult := do
  let apiKey ← quiet (apiKeyOf credentials)
  let ip := strip input.label.toList
  if ip.isEmpty || !ipInputRe ip then pure ⟨[], [], []⟩
  else do
    let (raw, data) ← issuingFetch u (requestOf ip apiKey)
    quiet (resultOf u ip raw data)

end Shodan

/-! ## Without the log -/

/-- Without its requests, `m` is the outcome `r`. -/
def Without (m : Issuing α) (r : Except Exc α) : Prop := Erases id m (Prog.ofExcept r)

lemma ofExcept_bind {σ : Type} (r : Except Exc α) (f : α → Except Exc β) :
    (Prog.ofExcept r >>= fun a => Prog.ofExcept (f a) : Prog σ Exc β)
      = Prog.ofExcept (r >>= f) := by
  cases r with
  | ok a => rfl
  | error e => rfl

lemma Without.quiet (r : Except Exc α) : Without (quiet r) r := Erases.silent (fun _ => rfl) _

lemma Without.pure (a : α) : Without (Pure.pure a) (.ok a) := Erases.pure a

lemma Without.throw (e : Exc) : Without (MonadExcept.throw e : Issuing α) (.error e) :=
  Erases.throw e

lemma Without.bind {m : Issuing α} {r : Except Exc α} {f : α → Issuing β}
    {g : α → Except Exc β} (hm : Without m r) (hf : ∀ a, Without (f a) (g a)) :
    Without (m >>= f) (r >>= g) := by
  rw [Without, ← ofExcept_bind]
  exact Erases.bind hm hf

lemma Without.ite {c : Prop} [Decidable c] {m m' : Issuing α} {r r' : Except Exc α}
    (h : Without m r) (h' : Without m' r') :
    Without (if c then m else m') (if c then r else r') := by
  split
  · exact h
  · exact h'

lemma Without.tryCatch {m : Issuing α} {r : Except Exc α} {h : Exc → Issuing α}
    {g : Exc → Except Exc α} (hm : Without m r) (hh : ∀ e, Without (h e) (g e)) :
    Without (MonadExcept.tryCatch m h) (MonadExcept.tryCatch r g) := by
  have htry : Erases id (MonadExcept.tryCatch m h)
      (MonadExcept.tryCatch (Prog.ofExcept r) fun e => Prog.ofExcept (g e)) :=
    Erases.tryCatch hm hh
  cases r with
  | ok a => exact htry
  | error e => exact htry

lemma issue_without (client : HttpClient) (n : ℕ) (request : HttpRequest) :
    Without (client.issue n request) (client.send n request) := by
  unfold HttpClient.issue
  split
  · exact Erases.emit _ (Without.quiet _)
  · exact Without.quiet _

/-- The retries, an attempt at a time. -/
lemma issuingAttempts_without {gaveUp : ℕ → Bool} {attempt : ℕ → Issuing α}
    {plain : ℕ → Except Exc α} (h : ∀ n, Without (attempt n) (plain n)) (k n : ℕ) :
    Without (issuingAttempts gaveUp attempt k n) (attempts gaveUp plain k n) := by
  induction k generalizing n with
  | zero => exact h n
  | succ k ih =>
    have hretry := (h n).tryCatch fun e => Without.ite (c := (retryable e && !gaveUp n) = true)
      (ih (n + 1)) (Without.throw e)
    unfold issuingAttempts attempts
    cases hplain : plain n with
    | ok a =>
      rw [hplain] at hretry
      exact hretry
    | error e =>
      rw [hplain] at hretry
      exact hretry

lemma issuingOnce_without (service : String) (u : Upstream) (request : HttpRequest) (n : ℕ) :
    Without (issuingOnce service u request n) (do
      let response ← u.client.send n request
      let raw ← readResponse service u.client request response
      let data ← parseBody u raw
      .ok (raw, dictOrEmpty data)) :=
  (issue_without _ _ _).bind fun _ => (Without.quiet _).bind fun _ =>
    (Without.quiet _).bind fun _ => Without.pure _

lemma VirusTotal.issuingFetch_without (u : Upstream) (request : HttpRequest) :
    Without (issuingFetch u request) (fetch u request) :=
  issuingAttempts_without (issuingOnce_without "VirusTotal" u request) 2 1

lemma Shodan.issuingFetch_without (u : Upstream) (request : HttpRequest) :
    Without (issuingFetch u request) (fetch u request) :=
  issuingAttempts_without (issuingOnce_without "Shodan" u request) 2 1

lemma VirusTotal.issuingDomain_without (u : Upstream) (label : List Char) (apiKey : String) :
    Without (issuingDomain u label apiKey) (queryDomain u label apiKey) :=
  (Without.pure _).ite ((issuingFetch_without u _).bind fun _ => (Without.quiet _).bind fun _ =>
    Without.quiet _)

lemma VirusTotal.issuingIp_without (u : Upstream) (ip : List Char) (apiKey : String) :
    Without (issuingIp u ip apiKey) (queryIp u ip apiKey) :=
  (Without.pure _).ite ((issuingFetch_without u _).bind fun _ => (Without.quiet _).bind fun _ =>
    Without.quiet _)

lemma VirusTotal.issuingUrl_without (u : Upstream) (urlLabel : List Char) (apiKey : String) :
    Without (issuingUrl u urlLabel apiKey) (queryUrl u urlLabel apiKey) :=
  (issuingFetch_without u _).bind fun _ => Without.quiet _

/-- **The log changes nothing**: without it, the query is `VirusTotalPlugin.query`. -/
theorem VirusTotal.issuingQuery_without (u : Upstream) (input : Entity)
    (credentials : Option PyDict) :
    Without (issuingQuery u input credentials) (query u input credentials) := by
  refine (Without.quiet _).bind fun apiKey => ?_
  cases EntityType.ofValue input.type with
  | none => exact Without.throw _
  | some type =>
    refine (Without.pure _).ite ?_
    cases type with
    | domain => exact issuingDomain_without u _ apiKey
    | ipAddress => exact issuingIp_without u _ apiKey
    | url => exact issuingUrl_without u _ apiKey
    | _ => exact Without.pure _

/-- Without its log, the query is `ShodanPlugin.query`. -/
theorem Shodan.issuingQuery_without (u : Upstream) (input : Entity)
    (credentials : Option PyDict) :
    Without (issuingQuery u input credentials) (query u input credentials) :=
  (Without.quiet _).bind fun _ => (Without.pure _).ite
    ((issuingFetch_without u _).bind fun _ => Without.quiet _)

/-! ## What a fetch issues -/

/-- Only `request`, and only if its URL is accepted. -/
def OnlyIssues (request : HttpRequest) (m : Issuing α) : Prop :=
  Adds (fun r => r = request ∧ urlAccepted request.url = true) m

lemma issue_only (client : HttpClient) (n : ℕ) (request : HttpRequest) :
    OnlyIssues request (client.issue n request) := by
  unfold HttpClient.issue
  split
  · rename_i haccepted
    exact (Adds.emit ⟨rfl, haccepted⟩).bind fun _ => Adds.silent _
  · exact Adds.silent _

/-- An accepted request is issued first. -/
lemma issue_begins (client : HttpClient) (n : ℕ) {request : HttpRequest}
    (h : urlAccepted request.url = true) : Begins request (client.issue n request) := by
  unfold HttpClient.issue
  rw [if_pos h]
  exact Begins.emit.bind fun _ => Adds.silent _

section Retries

variable {P : HttpRequest → Prop} {gaveUp : ℕ → Bool} {attempt : ℕ → Issuing α}

lemma issuingAttempts_adds (h : ∀ n, Adds P (attempt n)) (k n : ℕ) :
    Adds P (issuingAttempts gaveUp attempt k n) := by
  induction k generalizing n with
  | zero => exact h n
  | succ k ih =>
    refine (h n).tryCatch fun e => ?_
    split
    · exact ih (n + 1)
    · exact Adds.throw e

lemma issuingAttempts_begins {request : HttpRequest} {n : ℕ} (hfirst : Begins request (attempt n))
    (h : ∀ n, Adds (fun _ => True) (attempt n)) (k : ℕ) :
    Begins request (issuingAttempts gaveUp attempt k n) := by
  cases k with
  | zero => exact hfirst
  | succ k =>
    refine hfirst.tryCatch fun e => ?_
    split
    · exact issuingAttempts_adds h k (n + 1)
    · exact Adds.throw e

end Retries

/-- After the response nothing is issued. -/
lemma issuingOnce_adds {P : HttpRequest → Prop} {service : String} {u : Upstream}
    {request : HttpRequest} {n : ℕ} (h : Adds P (u.client.issue n request)) :
    Adds P (issuingOnce service u request n) :=
  h.bind fun _ => (Adds.silent _).bind fun _ => (Adds.silent _).bind fun _ => Adds.pure _

lemma issuingOnce_begins (service : String) (u : Upstream) {request : HttpRequest}
    (h : urlAccepted request.url = true) (n : ℕ) :
    Begins request (issuingOnce service u request n) :=
  (issue_begins u.client n h).bind fun _ => (Adds.silent _).bind fun _ =>
    (Adds.silent _).bind fun _ => Adds.pure _

/-- No request but this one, and this one first, if its URL is accepted. -/
structure IssuesJust (request : HttpRequest) (m : Issuing α) : Prop where
  only : OnlyIssues request m
  first : urlAccepted request.url = true → Begins request m

/-- What follows may not issue anything. -/
lemma IssuesJust.bind {request : HttpRequest} {m : Issuing α} {f : α → Issuing β}
    (hm : IssuesJust request m) (hf : ∀ P a, Adds P (f a)) : IssuesJust request (m >>= f) :=
  ⟨Adds.bind hm.only (hf _), fun haccepted => (hm.first haccepted).bind (hf _)⟩

/-- The requests of a log. -/
lemma IssuesJust.mem_records {request r : HttpRequest} {m : Issuing α}
    (hm : IssuesJust request m) :
    r ∈ records m () ↔ r = request ∧ urlAccepted request.url = true :=
  ⟨fun hmem => hm.only.records () r hmem,
    fun h => h.1 ▸ List.mem_of_mem_head? ((hm.first h.2).records ())⟩

/-- A fetch, three attempts at most, issues its request and no other. -/
lemma issuingRetry_just (service : String) (u : Upstream) (request : HttpRequest) :
    IssuesJust request (issuingRetry u.client (issuingOnce service u request)) := by
  refine ⟨?_, fun haccepted => ?_⟩
  · exact issuingAttempts_adds (fun n => issuingOnce_adds (issue_only u.client n request)) 2 1
  · refine issuingAttempts_begins (issuingOnce_begins service u haccepted 1) (fun n => ?_) 2
    refine issuingOnce_adds fun s log => ?_
    obtain ⟨new, hnew, -⟩ := issue_only u.client n request s log
    exact ⟨new, hnew, by simp⟩

end Sleuthgraph
