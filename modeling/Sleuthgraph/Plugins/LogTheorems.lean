import Sleuthgraph.Api.SecrecyTheorems
import Sleuthgraph.Plugins.Builtin.CapTheorems
import Sleuthgraph.Plugins.Logs
import Sleuthgraph.Plugins.TextTheorems

/-!
# Keys in the log (`plugins/runner.py`, `queue/tasks.py`, `plugins/builtin/`)

A record prints the exception that ends the `try` of `run`. What the HTTP exchange raises has to
do with the key: the text of a status error has the URL, and with it the key of `shodan`. And what
the libraries say of an answer quotes it, so an answer that gives the key back may be logged.
-/

namespace Sleuthgraph

open Programs Transactions Tables Logs

/-! ## Texts with the key -/

/-- `key in text` -/
def Mentions (key text : String) : Prop := key.toList <:+: text.toList

instance (key text : String) : Decidable (Mentions key text) :=
  inferInstanceAs (Decidable (_ <:+: _))

/-- Neither the message nor the traceback has the key. -/
def LogRecord.KeyFree (key : String) (record : LogRecord) : Prop :=
  ¬ Mentions key record.message ∧ ∀ text ∈ record.exceptions, ¬ Mentions key text

instance (key : String) (record : LogRecord) : Decidable (record.KeyFree key) :=
  inferInstanceAs (Decidable (_ ∧ _))

/-- No record has the key. -/
def KeyFree (key : String) (records : List LogRecord) : Prop :=
  ∀ record ∈ records, record.KeyFree key

instance (key : String) (records : List LogRecord) : Decidable (KeyFree key records) :=
  inferInstanceAs (Decidable (∀ record ∈ records, _))

/-- What is raised, if anything, does not print the key. -/
def Harmless {α : Type} (t : ExcText) (key : String) (r : Except Exc α) : Prop :=
  ∀ e, r = .error e → ¬ Mentions key (t.str e)

namespace Harmless

variable {α β : Type} {t : ExcText} {key : String}

@[simp] lemma ok (a : α) : Harmless t key (.ok a : Except Exc α) := fun _ h => (nomatch h)

@[simp] lemma error {e : Exc} :
    Harmless t key (.error e : Except Exc α) ↔ ¬ Mentions key (t.str e) :=
  ⟨fun h => h e rfl, fun h _ he => by cases he; exact h⟩

/-- What follows does no harm. -/
lemma bind_iff {r : Except Exc α} {f : α → Except Exc β} (hf : ∀ a, Harmless t key (f a)) :
    Harmless t key (r >>= f) ↔ Harmless t key r := by
  cases r with
  | ok a => exact iff_of_true (hf a) (ok a)
  | error e => exact error.trans error.symm

/-- What follows in a program does no harm, from whatever state. -/
lemma bind_apply_iff {σ : Type} {m : Prog σ Exc α} {f : α → Prog σ Exc β} {s : σ}
    (hf : ∀ a s', Harmless t key (f a s').1) :
    Harmless t key ((m >>= f) s).1 ↔ Harmless t key (m s).1 := by
  rw [Prog.bind_apply]
  cases m s with
  | mk r s' =>
    cases r with
    | ok a => exact iff_of_true (hf a s') (ok a)
    | error e => exact error.trans error.symm

end Harmless

/-! ## Answers -/

mutual

/-- The texts in a value: strings, keys and printed numbers. -/
def PyVal.texts : PyVal → List String
  | .str text => [text]
  | .int i => [toString i]
  | .float repr => [repr]
  | .list items => textsOfItems items
  | .dict entries => textsOfEntries entries
  | .none | .bool _ | .obj _ => []

def PyVal.textsOfItems : List PyVal → List String
  | [] => []
  | v :: items => v.texts ++ textsOfItems items

def PyVal.textsOfEntries : PyDict → List String
  | [] => []
  | (k, v) :: entries => k :: v.texts ++ textsOfEntries entries

end

/-- A text of the value has the key, as it is or in lower case. -/
def PyVal.Mentions (u : Upstream) (key : String) (data : PyVal) : Prop :=
  ∃ text ∈ data.texts,
    Sleuthgraph.Mentions key text ∨
      Sleuthgraph.Mentions key (String.ofList (u.text.lower text.toList))

/-- `200 <= status < 300` -/
def HttpResponse.Accepted (response : HttpResponse) : Prop :=
  200 ≤ response.status ∧ response.status < 300

instance (response : HttpResponse) : Decidable response.Accepted :=
  inferInstanceAs (Decidable (_ ∧ _))

/-- The length of the body. -/
def HttpResponse.size (response : HttpResponse) : ℕ := (response.chunks.map List.length).sum

/-- An exception that quotes what it is about: a header value that the client does not send, or
bytes of a server that are no HTTP. -/
def Exc.Quotes (e : Exc) : Prop := e.isinstance "ProtocolError" = true

instance (e : Exc) : Decidable e.Quotes := inferInstanceAs (Decidable (_ = true))

/-- The attempt whose outcome is the outcome of the retries: the first that is not made again, or
the last one. -/
def lastAttempt (again : ℕ → Bool) : ℕ → ℕ → ℕ
  | 0, n => n
  | k + 1, n => if again n then lastAttempt again k (n + 1) else n

namespace BYOKPlugin

/-- The answer to an attempt puts the key into no exception: nothing that quotes the key is raised,
by the client or where the body of an accepted response breaks off below the cap; and of a
response that is refused neither the URL nor what else is printed has the key. -/
def Spares (u : Upstream) (b : BYOKPlugin) (key : String) (request : HttpRequest) :
    Except Exc HttpResponse → Prop
  | .error e => e.Quotes → ¬ Mentions key e.text
  | .ok response =>
    if b = .hibp ∧ response.status = 404 then True
    else if response.Accepted then
      response.size ≤ maxResponseBytes →
        ∀ e, response.broken = some e → e.Quotes → ¬ Mentions key e.text
    else
      ¬ Mentions key (u.client.urlText request.url) ∧
        ∀ text ∈ response.printed, ¬ Mentions key text

/-- The request is made again after the answer: the transport failed, or it broke off the body of
an accepted response below the cap. -/
def Retried (u : Upstream) (b : BYOKPlugin) : Except Exc HttpResponse → Bool
  | .error e => retryable e
  | .ok response =>
    if (b = .hibp ∧ response.status = 404) ∨ ¬ response.Accepted
        ∨ maxResponseBytes < response.size then false
    else match response.broken with
      | some e => retryable e
      | none => match parseBody u response.chunks.flatten with
        | .error e => retryable e
        | .ok _ => false

/-- The answer to the last attempt that a request is given. -/
def lastAnswer (u : Upstream) (b : BYOKPlugin) (request : HttpRequest) :
    Except Exc HttpResponse :=
  u.client.send (lastAttempt
    (fun n => b.Retried u (u.client.send n request) && !u.client.gaveUp n) 2 1) request

/-- An accepted response whose JSON gives the key back. -/
def GivesBack (u : Upstream) (key : String) : Except Exc HttpResponse → Prop
  | .error _ => False
  | .ok response =>
    response.Accepted ∧ response.broken = none ∧ response.size ≤ maxResponseBytes ∧
      ∃ data, u.loads response.chunks.flatten = .ok data ∧ data.Mentions u key

end BYOKPlugin

/-! ## Secrets -/

/-- The fixed texts of a run: its messages, the label that it looks up, and the exceptions with a
text of the code. -/
def PluginRunner.logTexts (req : RunRequest) : List String :=
  [failedOnCase req.pluginName req.caseId, notPersisted, req.inputEntity.label,
    (Exc.tooLarge "VirusTotal").text, (Exc.tooLarge "Shodan").text, (Exc.tooLarge "HIBP").text]
  ++ ownTexts req

/-- What libraries say has the key nowhere. They quote the values they refuse, so this is for runs
in which no value has it. -/
def SilentLibraries (t : ExcText) (key : String) : Prop :=
  ∀ e : Exc, e.text = "" → ¬ Mentions key (t.str e)

/-- A key is a secret: no text has it that is not made from it. These are what `json.loads` and
the client say without quoting, what else a status error says, the fixed texts of the run, and
what the runner puts before an error. -/
structure Secret (t : ExcText) (u : Upstream) (b : BYOKPlugin) (req : RunRequest)
    (key : String) : Prop where
  loads : ∀ raw e, u.loads raw = .error e → ¬ Mentions key (t.str e)
  client : ∀ n request e, u.client.transport n request = .error e → ¬ e.Quotes →
    ¬ Mentions key e.text
  broken : ∀ n request response e, u.client.transport n request = .ok response →
    response.broken = some e → ¬ e.Quotes → ¬ Mentions key e.text
  status : ∀ n request response, b.request u req.inputEntity key = some request →
    u.client.transport n request = .ok response →
    Mentions key (u.client.statusText request response) →
      Mentions key (u.client.urlText request.url) ∨ ∃ text ∈ response.printed, Mentions key text
  fixed : ∀ text ∈ PluginRunner.logTexts req, ¬ Mentions key text
  wrapped : ∀ text, Mentions key (PluginRunner.wrapping req.pluginName text) → Mentions key text

/-- A secret of which the libraries do not speak. -/
structure QuietSecret (t : ExcText) (u : Upstream) (b : BYOKPlugin) (req : RunRequest)
    (key : String) : Prop extends Secret t u b req key where
  library : SilentLibraries t key

namespace QuietSecret

variable {t : ExcText} {u : Upstream} {b : BYOKPlugin} {req : RunRequest} {key : String}

lemma not_mentions_empty (h : QuietSecret t u b req key) : ¬ Mentions key "" := by
  intro hempty
  have hkey : key.toList = [] := List.infix_nil.mp hempty
  refine h.library Exc.valueError rfl ?_
  unfold Mentions
  rw [hkey]
  exact List.nil_infix

/-- The key is printed where the text has it. -/
lemma mentions_str (h : QuietSecret t u b req key) (e : Exc) :
    Mentions key (t.str e) ↔ Mentions key e.text := by
  by_cases htext : e.text = ""
  · rw [htext]
    exact iff_of_false (h.library e htext) h.not_mentions_empty
  · rw [t.own e htext]

lemma of_fixed (h : QuietSecret t u b req key) {e : Exc}
    (htext : e.text ∈ PluginRunner.logTexts req) : ¬ Mentions key (t.str e) := by
  rw [h.mentions_str]
  exact h.fixed _ htext

lemma of_ownText (h : QuietSecret t u b req key) {e : Exc} (htext : PluginRunner.OwnText req e) :
    ¬ Mentions key (t.str e) := by
  cases htext with
  | inl hempty => exact h.library e hempty
  | inr hown => exact h.of_fixed (List.mem_append_right _ hown)

lemma of_textless (h : QuietSecret t u b req key) {α : Type} {r : Except Exc α} (hr : Textless r) :
    Harmless t key r :=
  fun e he => h.library e (hr e he)

/-- What raises own texts does no harm. -/
lemma of_raising (h : QuietSecret t u b req key) {α : Type} {m : Db Bucket α}
    (hm : Raising (PluginRunner.OwnText req) m) (s : Session Store Write Bucket) :
    Harmless t key (m s).1 := by
  intro e he
  have hms := hm s trivial
  cases hres : m s with
  | mk r s' =>
    rw [hres] at hms he
    dsimp only at he
    subst he
    exact h.of_ownText hms

/-- A status error has the key in its URL, or in what else it prints. -/
lemma mentions_status (h : QuietSecret t u b req key) {n : ℕ} {request : HttpRequest}
    {response : HttpResponse} (hrequest : b.request u req.inputEntity key = some request)
    (hresponse : u.client.transport n request = .ok response) :
    ¬ Mentions key (u.client.statusText request response) ↔
      ¬ Mentions key (u.client.urlText request.url) ∧
        ∀ text ∈ response.printed, ¬ Mentions key text := by
  constructor
  · intro hnot
    exact ⟨fun hurl => hnot (hurl.trans (u.client.url_infix request response)),
      fun text htext hm => hnot (hm.trans (u.client.printed_infix request response text htext))⟩
  · rintro ⟨hurl, hprinted⟩ hm
    rcases h.status n request response hrequest hresponse hm with hin | ⟨text, htext, hin⟩
    · exact hurl hin
    · exact hprinted text htext hin

/-- What is raised by the client prints the key where it quotes it. -/
lemma mentions_quoted (h : QuietSecret t u b req key) {e : Exc}
    (hclient : ¬ e.Quotes → ¬ Mentions key e.text) :
    ¬ Mentions key (t.str e) ↔ (e.Quotes → ¬ Mentions key e.text) := by
  rw [h.mentions_str]
  exact ⟨fun hnot _ => hnot, fun hnot hm => by_cases (fun hq => hnot hq hm) fun hq => hclient hq hm⟩

end QuietSecret

/-! ## The exchange -/

/-- The loop over the chunks fails at the cap, or where the body breaks off below it. -/
lemma readChunks_eq (service : String) (broken : Option Exc) {raw : Bytes} (chunks : List Bytes)
    (hraw : raw.length ≤ maxResponseBytes) :
    readChunks service broken raw chunks =
      if maxResponseBytes < raw.length + (chunks.map List.length).sum then
        .error (Exc.tooLarge service)
      else match broken with
        | some e => .error e
        | none => .ok (raw ++ chunks.flatten) := by
  induction chunks generalizing raw with
  | nil =>
    rw [if_neg (by simpa using hraw)]
    cases broken with
    | some e => rfl
    | none => simp [readChunks]
  | cons chunk chunks ih =>
    unfold readChunks
    simp only [List.map_cons, List.sum_cons, List.flatten_cons]
    by_cases hcap : maxResponseBytes < raw.length + chunk.length
    · rw [if_pos hcap, if_pos (by omega)]
    · rw [if_neg hcap, ih (by rw [List.length_append]; omega), List.length_append,
        Nat.add_assoc, List.append_assoc]

/-- What reading a response comes to. -/
lemma readResponse_eq (service : String) (client : HttpClient) (request : HttpRequest)
    (response : HttpResponse) :
    readResponse service client request response =
      if response.Accepted then
        if maxResponseBytes < response.size then .error (Exc.tooLarge service)
        else match response.broken with
          | some e => .error e
          | none => .ok response.chunks.flatten
      else .error (Exc.httpStatusError (client.statusText request response)) := by
  have hraise : raiseForStatus client request response = if response.Accepted then .ok ()
      else .error (Exc.httpStatusError (client.statusText request response)) := rfl
  rw [readResponse, hraise]
  split
  · show readChunks service response.broken [] response.chunks = _
    rw [readChunks_eq _ _ _ (Nat.zero_le _), List.length_nil, Nat.zero_add]
    rfl
  · rfl

/-- Which attempts are made again may be told from anything that decides as the retries do. -/
lemma attempts_eq {α : Type} {gaveUp : ℕ → Bool} {attempt : ℕ → Except Exc α} {again : ℕ → Bool}
    (hagain : ∀ n, (again n = true ↔ ∃ e, attempt n = .error e ∧ retryable e = true)) (k n : ℕ) :
    attempts gaveUp attempt k n
      = attempt (lastAttempt (fun n => again n && !gaveUp n) k n) := by
  induction k generalizing n with
  | zero => rfl
  | succ k ih =>
    unfold attempts lastAttempt
    cases hn : attempt n with
    | ok a =>
      have hlast : again n = false := by
        rw [Bool.eq_false_iff, ne_eq, hagain]
        rintro ⟨e, he, -⟩
        cases hn.symm.trans he
      rw [hlast, Bool.false_and, if_neg Bool.false_ne_true]
      exact hn.symm
    | error e =>
      have hretried : again n = retryable e := by
        rw [Bool.eq_iff_iff, hagain, hn]
        constructor
        · rintro ⟨_, he, hretry⟩
          cases he
          exact hretry
        · intro hretry
          exact ⟨e, rfl, hretry⟩
      dsimp only
      rw [hretried]
      split
      · exact ih (n + 1)
      · exact hn.symm

lemma Hibp.query_total {u : Upstream} {input : Entity} {credentials : Option PyDict}
    {result : QueryResult} (h : query u input credentials = .ok result) : result.total ≤ 1 := by
  obtain ⟨apiKey, -, h⟩ := bind_eq_ok.mp h
  dsimp only at h
  split at h
  · cases h
    exact Nat.zero_le _
  · obtain ⟨answer, -, h⟩ := bind_eq_ok.mp h
    cases answer with
    | none =>
      cases h
      exact Nat.zero_le _
    | some answer =>
      obtain ⟨classes, -, h⟩ := bind_eq_ok.mp h
      obtain ⟨evidence, -, h⟩ := bind_eq_ok.mp h
      cases h
      exact Nat.le_refl _

namespace BYOKPlugin

variable {t : ExcText} {u : Upstream} {b : BYOKPlugin} {req : RunRequest} {key : String}

/-- A refused response spares the key that is neither in its URL nor in what it prints. -/
lemma spares_refused_iff {request : HttpRequest} {response : HttpResponse}
    (hfound : ¬ (b = .hibp ∧ response.status = 404)) (hrefused : ¬ response.Accepted) :
    b.Spares u key request (.ok response) ↔
      ¬ Mentions key (u.client.urlText request.url) ∧
        ∀ text ∈ response.printed, ¬ Mentions key text := by
  show (if b = .hibp ∧ response.status = 404 then True else if response.Accepted then _ else _) ↔ _
  rw [if_neg hfound, if_neg hrefused]

/-- A key of unreserved characters is a part of the URL that `shodan` requests. -/
lemma shodan_url_mentions {input : Entity} {request : HttpRequest}
    (hkey : ∀ c ∈ key.toList, isUnreserved c = true)
    (hrequest : shodan.request u input key = some request) :
    Mentions key (u.client.urlText request.url) := by
  unfold BYOKPlugin.request at hrequest
  dsimp only at hrequest
  split at hrequest
  · cases hrequest
  · cases hrequest
    refine u.client.query_infix _ _ ?_ hkey
    exact List.mem_append_right _ (by decide)

lemma mem_logTexts_tooLarge (req : RunRequest) (b : BYOKPlugin) :
    (Exc.tooLarge b.service).text ∈ PluginRunner.logTexts req := by
  cases b <;> simp [PluginRunner.logTexts, service]

/-- Reading a response, up to its accepted statuses. -/
lemma harmless_readResponse (h : QuietSecret t u b req key) {n : ℕ} {request : HttpRequest}
    {response : HttpResponse} (hrequest : b.request u req.inputEntity key = some request)
    (hresponse : u.client.transport n request = .ok response) :
    Harmless t key (readResponse b.service u.client request response) ↔
      if response.Accepted then
        response.size ≤ maxResponseBytes →
          ∀ e, response.broken = some e → e.Quotes → ¬ Mentions key e.text
      else
        ¬ Mentions key (u.client.urlText request.url) ∧
          ∀ text ∈ response.printed, ¬ Mentions key text := by
  rw [readResponse_eq]
  split
  · split
    · refine iff_of_true ?_ fun hcap => absurd hcap (by omega)
      exact Harmless.error.mpr (h.of_fixed (mem_logTexts_tooLarge req b))
    · rename_i hcap
      cases hbroken : response.broken with
      | none => exact iff_of_true (Harmless.ok _) fun _ _ he => by cases he
      | some e =>
        dsimp only
        rw [Harmless.error, h.mentions_quoted (h.broken n request response e hresponse hbroken)]
        exact ⟨fun he _ f hf => by cases hf; exact he, fun hf => hf (by omega) e rfl⟩
  · rw [Harmless.error, h.mentions_str]
    exact h.mentions_status hrequest hresponse

lemma harmless_parse (h : QuietSecret t u b req key) {α : Type} (raw : Bytes)
    (f : Option PyVal → Except Exc α) (hf : ∀ data, Harmless t key (f data)) :
    Harmless t key (parseBody u raw >>= f) := by
  refine (Harmless.bind_iff hf).mpr ?_
  unfold parseBody
  cases hloads : u.loads raw with
  | ok data => exact Harmless.ok _
  | error e =>
    dsimp only
    split
    · exact Harmless.ok _
    · exact Harmless.error.mpr (h.loads raw e hloads)

/-- What an attempt raises does not print the key, just when its answer spares it. -/
lemma harmless_fetchOnce (h : QuietSecret t u b req key) {request : HttpRequest}
    (hrequest : b.request u req.inputEntity key = some request) (n : ℕ) :
    Harmless t key (b.fetchOnce u request n) ↔
      b.Spares u key request (u.client.send n request) := by
  unfold fetchOnce
  cases haccepted : urlAccepted request.url with
  | false =>
    -- of a URL that is refused the client quotes no more than a character
    rw [HttpClient.send_refused haccepted]
    show Harmless t key (.error Exc.invalidUrl) ↔ _
    refine iff_of_true (Harmless.error.mpr (h.library _ rfl)) fun hquotes => ?_
    exact absurd hquotes (by decide)
  | true =>
    rw [HttpClient.send_accepted haccepted]
    cases hresponse : u.client.transport n request with
    | error e =>
      show Harmless t key (.error e) ↔ _
      rw [Harmless.error, h.mentions_quoted (h.client n request e hresponse)]
      exact Iff.rfl
    | ok response =>
      show Harmless t key (b.accept u request response) ↔ _
      have hread := harmless_readResponse h hrequest hresponse
      have hparse : ∀ {α : Type} {f : Bytes → Option PyVal → Except Exc α},
          (∀ raw data, Harmless t key (f raw data)) →
          ∀ raw, Harmless t key (parseBody u raw >>= f raw) :=
        fun hf raw => harmless_parse h raw _ (hf raw)
      unfold Spares
      cases b with
      | virustotal =>
        refine (Harmless.bind_iff (hparse fun _ _ => Harmless.ok _)).trans (hread.trans ?_)
        simp
      | shodan =>
        refine (Harmless.bind_iff (hparse fun _ _ => Harmless.ok _)).trans (hread.trans ?_)
        simp
      | hibp =>
        have haccept : hibp.accept u request response =
            if response.status = 404 then Except.ok none
            else readResponse "HIBP" u.client request response >>= fun raw =>
              parseBody u raw >>= fun data => Except.ok (some (raw, listOrEmpty data)) := rfl
        rw [haccept]
        by_cases hmissing : response.status = 404
        · rw [if_pos hmissing]
          exact iff_of_true (Harmless.ok _) (by simp [hmissing])
        · rw [if_neg hmissing]
          refine (Harmless.bind_iff (hparse fun _ _ => Harmless.ok _)).trans (hread.trans ?_)
          simp [hmissing]

/-- What an attempt raises of a response: nothing of a missing account, and else what comes of
reading it and of its JSON. -/
lemma accept_error_iff {request : HttpRequest} {response : HttpResponse} {e : Exc} :
    b.accept u request response = .error e ↔
      ¬ (b = .hibp ∧ response.status = 404) ∧
        (readResponse b.service u.client request response >>= parseBody u) = .error e := by
  have hanswer : ∀ {α : Type} {r : Except Exc Bytes} {f : Bytes → Option PyVal → α},
      (r >>= fun raw => parseBody u raw >>= fun data => .ok (f raw data)) = .error e ↔
        (r >>= parseBody u) = .error e := by
    intro α r f
    cases r with
    | error e' => exact ⟨fun h => by cases h; rfl, fun h => by cases h; rfl⟩
    | ok raw =>
      show (parseBody u raw >>= fun data => .ok (f raw data)) = _ ↔ parseBody u raw = _
      cases parseBody u raw with
      | error e' => exact ⟨fun h => by cases h; rfl, fun h => by cases h; rfl⟩
      | ok data => exact iff_of_false (fun h => by cases h) fun h => by cases h
  cases b with
  | virustotal => exact hanswer.trans (and_iff_right fun h => by cases h.1).symm
  | shodan => exact hanswer.trans (and_iff_right fun h => by cases h.1).symm
  | hibp =>
    by_cases hmissing : response.status = 404
    · simp [accept, hmissing]
    · have haccept : hibp.accept u request response =
          readResponse hibp.service u.client request response >>= fun raw =>
            parseBody u raw >>= fun data => .ok (some (raw, listOrEmpty data)) := if_neg hmissing
      rw [haccept]
      exact hanswer.trans (and_iff_right fun h => hmissing h.2).symm

/-- An attempt is made again as its answer says. -/
lemma retried_iff (request : HttpRequest) (n : ℕ) :
    b.Retried u (u.client.send n request) = true ↔
      ∃ e, b.fetchOnce u request n = .error e ∧ retryable e = true := by
  have hraised : ∀ {α : Type} (e : Exc), retryable e = true ↔
      ∃ e', (Except.error e : Except Exc α) = .error e' ∧ retryable e' = true := by
    intro α e
    constructor
    · intro hretry
      exact ⟨e, rfl, hretry⟩
    · rintro ⟨_, he, hretry⟩
      cases he
      exact hretry
  unfold fetchOnce
  cases u.client.send n request with
  | error e => exact hraised e
  | ok response =>
    show _ ↔ ∃ e, b.accept u request response = .error e ∧ _
    simp only [accept_error_iff, Retried]
    split
    -- what is raised of the status or of the size is not retried
    · rename_i hend
      refine iff_of_false Bool.false_ne_true ?_
      rintro ⟨e, ⟨hmissing, he⟩, hretry⟩
      rw [readResponse_eq] at he
      split at he
      · rename_i haccepted
        have hcap := (hend.resolve_left hmissing).resolve_left (not_not_intro haccepted)
        rw [if_pos hcap] at he
        cases he
        cases hretry
      · cases he
        cases hretry
    · rename_i hread
      rw [not_or, not_or, not_not] at hread
      obtain ⟨hmissing, haccepted, hcap⟩ := hread
      rw [readResponse_eq, if_pos haccepted, if_neg hcap]
      simp only [hmissing, not_false_eq_true, true_and]
      cases response.broken with
      | some e => exact hraised e
      | none =>
        show _ ↔ ∃ e, parseBody u response.chunks.flatten = .error e ∧ _
        cases parseBody u response.chunks.flatten with
        | error e => exact hraised e
        | ok data =>
          refine iff_of_false Bool.false_ne_true ?_
          rintro ⟨_, he, -⟩
          cases he

/-- What the plugin raises does not print the key, just when its last answer spares it. -/
lemma harmless_query (h : QuietSecret t u b req key) :
    Harmless t key ((b.plugin u).query req.inputEntity (keyed key)) ↔
      ∀ request, b.request u req.inputEntity key = some request →
        b.Spares u key request (b.lastAnswer u request) := by
  rw [query_keyed]
  cases hrequest : b.request u req.inputEntity key with
  | none =>
    exact iff_of_true (h.of_textless (b.textless_unasked req.inputEntity)) fun _ hr => by cases hr
  | some request =>
    have hask : Harmless t key (b.ask u req.inputEntity request) ↔
        b.Spares u key request (b.lastAnswer u request) := by
      refine (Harmless.bind_iff fun answer =>
        h.of_textless (b.textless_finish u req.inputEntity answer)).trans ?_
      unfold withRetry
      rw [attempts_eq (retried_iff request)]
      exact harmless_fetchOnce h hrequest _
    exact hask.trans ⟨fun hr _ he => by cases he; exact hr, fun hr => hr request rfl⟩

/-- An answer that gives the key back is accepted, and raises nothing by itself. -/
lemma spares_of_givesBack {request : HttpRequest} {answer : Except Exc HttpResponse}
    (h : GivesBack u key answer) : b.Spares u key request answer := by
  cases answer with
  | error e => exact h.elim
  | ok response =>
    obtain ⟨haccepted, hbroken, -⟩ := h
    have hquiet : response.size ≤ maxResponseBytes →
        ∀ e, response.broken = some e → e.Quotes → ¬ Mentions key e.text := by
      intro _ e he
      rw [hbroken] at he
      cases he
    unfold Spares
    simp only [haccepted, if_true]
    split
    · trivial
    · exact hquiet

/-- The runner's cap is out of reach. -/
lemma query_total_le (b : BYOKPlugin) {input : Entity} {credentials : Option PyDict}
    {result : QueryResult} (h : (b.plugin u).query input credentials = .ok result) :
    result.total ≤ maxProposalsPerRun := by
  cases b with
  | virustotal =>
    have := VirusTotal.query_total h
    simp only [VirusTotal.maxEntities, maxProposalsPerRun] at this ⊢
    omega
  | shodan =>
    have := Shodan.query_total h
    simp only [Shodan.maxEntities, maxProposalsPerRun] at this ⊢
    omega
  | hibp =>
    have := Hibp.query_total h
    simp only [maxProposalsPerRun]
    omega

end BYOKPlugin

/-! ## The `try` -/

/-- A run of `b` by a user with a key. -/
structure BYOKRun (u : Upstream) (b : BYOKPlugin) (req : RunRequest) (key : String) : Prop where
  plugin : req.registry.get req.pluginName = .ok (b.plugin u)
  credentials : req.credentials = none
  vault : ∃ user, req.createdBy = some user ∧ req.vault user req.pluginName = .ok (some key)

lemma BYOKRun.name {u : Upstream} {b : BYOKPlugin} {req : RunRequest} {key : String}
    (h : BYOKRun u b req key) : (b.plugin u).name = req.pluginName :=
  (PluginRegistry.get_eq_ok_iff.mp h.plugin).2

namespace PluginRunner

variable (py : Interp) (t : ExcText) (u : Upstream) (b : BYOKPlugin) (key : String)
variable (x : RunExt)

/-- The audit row is there: a new one is stored and read back, or the dispatcher's is `running`. -/
def AuditRowMade (req : RunRequest) (plugin : OSINTPlugin) (s : Session Store Write Bucket) :
    Option PluginRun → Prop
  | none => Writes.accepts s.work (Write.insertRun (newRun x req plugin)) = true ∧
      x.auditCommit = false ∧ x.auditRefresh = false
  | some run => run.status ≠ .running →
      s.work.runs.has run.id = true ∧ x.auditCommit = false

/-- The run gets to the query: the input is of a type that the plugin accepts, the audit row is
there, and the read of the credential gets through. -/
structure Queries (plugin : OSINTPlugin) (req : RunRequest) (existingRun : Option PluginRun)
    (s : Session Store Write Bucket) : Prop where
  inputType : ∃ type, EntityType.ofValue req.inputEntity.type = some type ∧
    type ∈ plugin.entityTypesAccepted
  usable : s.failed = false
  auditRow : AuditRowMade x req plugin s existingRun
  credential : x.credential = false

/-- A run that gets to the query gets an answer that spares the key. -/
def Spares (req : RunRequest) (existingRun : Option PluginRun)
    (s : Session Store Write Bucket) : Prop :=
  Queries x (b.plugin u) req existingRun s →
    ∀ request, b.request u req.inputEntity key = some request →
      b.Spares u key request (b.lastAnswer u request)

/-- The run gets to the query, and an answer that gives the key back. -/
def GivesBack (req : RunRequest) (existingRun : Option PluginRun)
    (s : Session Store Write Bucket) : Prop :=
  Queries x (b.plugin u) req existingRun s ∧
    ∃ request, b.request u req.inputEntity key = some request ∧
      BYOKPlugin.GivesBack u key (b.lastAnswer u request)

variable {py t u b key x} {req : RunRequest} {plugin : OSINTPlugin}

/-- The key is read, or its read does not get through. -/
lemma resolveCredentials_eq (hrun : BYOKRun u b req key) (s : Session Store Write Bucket) :
    resolveCredentials x req (b.plugin u) s = (.ok (keyed key), s) ∨
      ∃ e s', resolveCredentials x req (b.plugin u) s = (.error e, s') ∧
        SessionErrors.IsOwn e := by
  obtain ⟨user, huser, hvault⟩ := hrun.vault
  have hkeyed : (b.plugin u).requiresCredentials = true := by cases b <;> rfl
  unfold resolveCredentials
  rw [hkeyed, hrun.credentials, huser]
  dsimp only
  cases hquery : (query x.credential fun _ => () : Db Bucket Unit) s with
  | mk r s' =>
    cases r with
    | ok _ =>
      obtain ⟨rfl, -, -⟩ := query_ok hquery
      refine Or.inl ?_
      rw [Prog.bind_apply_ok hquery, hrun.name, hvault]
      rfl
    | error e => exact Or.inr ⟨e, s', Prog.bind_apply_error hquery, query_raises hquery⟩

/-! ### Getting to the query -/

lemma checkInputType_ok_iff :
    checkInputType plugin req.inputEntity = .ok () ↔
      ∃ type, EntityType.ofValue req.inputEntity.type = some type ∧
        type ∈ plugin.entityTypesAccepted := by
  unfold checkInputType
  cases EntityType.ofValue req.inputEntity.type with
  | none => simp
  | some type => simp

/-- A row is saved in a usable session that has it, if the commit gets through. -/
lemma saveRun_ok_iff {s s' : Session Store Write Bucket} {loaded run : PluginRun} {lost : Bool}
    {a : Unit} : saveRun lost loaded run s = (.ok a, s') ↔
      s.failed = false ∧ s.work.runs.has loaded.id = true ∧ lost = false ∧
        ⟨s.work.apply (runUpdate loaded run), [], false, s.outside⟩ = s' := by
  have haccepts : Writes.accepts s.work (runUpdate loaded run) = s.work.runs.has loaded.id := rfl
  have hwork : (s.extend [runUpdate loaded run]).work = s.work.apply (runUpdate loaded run) :=
    Session.work_extend s _
  simp only [saveRun, Prog.bind_eq_ok_iff, write_eq_ok_iff, commit_eq_ok_iff, haccepts]
  constructor
  · rintro ⟨_, s₁, ⟨hs, -, hrun, rfl⟩, -, hlost, rfl⟩
    rw [hwork]
    have : (s.extend [runUpdate loaded run]).failed = false := hs
    rw [this]
    exact ⟨hs, hrun, hlost, rfl⟩
  · rintro ⟨hs, hrun, hlost, rfl⟩
    refine ⟨(), s.extend [runUpdate loaded run], ⟨hs, trivial, hrun, rfl⟩, hs, hlost, ?_⟩
    rw [hwork]
    have : (s.extend [runUpdate loaded run]).failed = false := hs
    rw [this]
    rfl

lemma auditRow_ok_iff {existingRun : Option PluginRun} {s : Session Store Write Bucket} :
    (∃ run s', auditRow x req plugin existingRun s = (.ok run, s') ∧ s'.failed = false) ↔
      s.failed = false ∧ AuditRowMade x req plugin s existingRun := by
  cases existingRun with
  | none =>
    simp only [auditRow, AuditRowMade, Prog.bind_eq_ok_iff, write_eq_ok_iff, commit_eq_ok_iff,
      query_eq_ok_iff, Prog.pure_apply, Prod.mk.injEq, Except.ok.injEq]
    constructor
    · rintro ⟨_, s', ⟨_, s₁, ⟨hs, -, haccepts, -⟩, _, _, ⟨-, hcommit, -⟩, _, _, ⟨-, hrefresh, -⟩,
        -⟩, -⟩
      exact ⟨hs, haccepts, hcommit, hrefresh⟩
    · rintro ⟨hs, haccepts, hcommit, hrefresh⟩
      exact ⟨_, _, ⟨(), _, ⟨hs, trivial, haccepts, rfl⟩, (), _, ⟨hs, hcommit, rfl⟩, (), _,
        ⟨hs, hrefresh, trivial, rfl⟩, rfl, rfl⟩, hs⟩
  | some run =>
    by_cases hstatus : run.status = .running
    · simp [auditRow, AuditRowMade, hstatus]
    · simp only [auditRow, AuditRowMade, if_pos hstatus, Prog.bind_eq_ok_iff, saveRun_ok_iff,
        Prog.pure_apply, Prod.mk.injEq, Except.ok.injEq]
      constructor
      · rintro ⟨_, s', ⟨_, s₁, ⟨hs, hrun, hcommit, -⟩, -⟩, -⟩
        exact ⟨hs, fun _ => ⟨hrun, hcommit⟩⟩
      · rintro ⟨hs, hmade⟩
        exact ⟨_, _, ⟨(), _, ⟨hs, (hmade hstatus).1, (hmade hstatus).2, rfl⟩, rfl, rfl⟩, rfl⟩

/-- The key is read in a usable session, if the read gets through. -/
lemma resolveCredentials_isOk (hrun : BYOKRun u b req key) (s : Session Store Write Bucket) :
    (resolveCredentials x req (b.plugin u) s).1.isOk = true ↔
      s.failed = false ∧ x.credential = false := by
  obtain ⟨user, huser, hvault⟩ := hrun.vault
  have hkeyed : (b.plugin u).requiresCredentials = true := by cases b <;> rfl
  unfold resolveCredentials
  rw [hkeyed, hrun.credentials, huser]
  dsimp only
  cases hs : s.failed with
  | true =>
    have hquery : (query x.credential fun _ => () : Db Bucket Unit) s
        = (.error SessionErrors.needsRollback, s) := by simp [query, hs]
    rw [Prog.bind_apply_error hquery]
    simp [Except.isOk, Except.toBool]
  | false =>
    cases x.credential with
    | true =>
      rw [Prog.bind_apply_error (query_lost hs _)]
      simp [Except.isOk, Except.toBool]
    | false =>
      rw [Prog.bind_apply_ok (query_apply hs _), hrun.name, hvault]
      simp [Prog.ofExcept, Except.isOk, Except.toBool]

/-- What is before the query goes through as `Queries` says. -/
lemma queries_iff (hrun : BYOKRun u b req key) {existingRun : Option PluginRun}
    {s : Session Store Write Bucket} :
    Queries x (b.plugin u) req existingRun s ↔
      ∃ run s', start x req existingRun s = (.ok (b.plugin u, run), s') ∧
        (resolveCredentials x req (b.plugin u) s').1.isOk = true := by
  have hallowed : assertPluginAllowed req.enterprise (b.plugin u).premium = .ok () := by
    cases b <;> rfl
  have hstart : start x req existingRun = (do
      Prog.ofExcept (checkInputType (b.plugin u) req.inputEntity)
      let run ← auditRow x req (b.plugin u) existingRun
      pure (b.plugin u, run) : Db Bucket _) := by
    unfold start
    rw [hrun.plugin]
    show (Prog.ofExcept (assertPluginAllowed req.enterprise (b.plugin u).premium) >>= _) = _
    rw [hallowed]
    rfl
  rw [hstart]
  constructor
  · rintro ⟨htype, hs, hrow, hcredential⟩
    obtain ⟨run, s', haudit, hs'⟩ := auditRow_ok_iff.mpr ⟨hs, hrow⟩
    refine ⟨run, s', ?_, (resolveCredentials_isOk hrun s').mpr ⟨hs', hcredential⟩⟩
    rw [checkInputType_ok_iff.mpr htype]
    exact Prog.bind_apply_ok haudit
  · rintro ⟨run, s', hres, hread⟩
    obtain ⟨hs', hcredential⟩ := (resolveCredentials_isOk hrun s').mp hread
    cases htype : checkInputType (b.plugin u) req.inputEntity with
    | error e =>
      rw [htype] at hres
      cases hres
    | ok checked =>
      rw [htype] at hres
      obtain ⟨row, s₁, haudit, hpair⟩ := Prog.bind_eq_ok_iff.mp
        (show (auditRow x req (b.plugin u) existingRun >>= fun run => pure (b.plugin u, run)) s
          = _ from hres)
      cases hpair
      obtain ⟨hs, hrow⟩ := auditRow_ok_iff.mp ⟨_, s', haudit, hs'⟩
      exact ⟨checkInputType_ok_iff.mp htype, hs, hrow, hcredential⟩

lemma harmless_queryPlugin :
    Harmless t key (queryPlugin req (b.plugin u) (keyed key)) ↔
      Harmless t key ((b.plugin u).query req.inputEntity (keyed key)) := by
  unfold queryPlugin
  cases hquery : (b.plugin u).query req.inputEntity (keyed key) with
  | error e => exact Harmless.error.trans Harmless.error.symm
  | ok result =>
    have hcap : ¬ maxProposalsPerRun < result.total := Nat.not_lt.mpr (b.query_total_le hquery)
    show Harmless t key (if maxProposalsPerRun < result.total then _ else .ok result) ↔ _
    rw [if_neg hcap]

variable (py x) in
/-- What ends the `try` does not print the key, just when the answer spares it. -/
lemma harmless_executePlugin (h : QuietSecret t u b req key) (hrun : BYOKRun u b req key)
    (run : PluginRun) (s : Session Store Write Bucket) :
    Harmless t key (executePlugin py x req (b.plugin u) run s).1 ↔
      ((resolveCredentials x req (b.plugin u) s).1.isOk = true →
        ∀ request, b.request u req.inputEntity key = some request →
          b.Spares u key request (b.lastAnswer u request)) := by
  have hK := ownText_of_library req
  -- after `work` only the session can raise
  have hwork : Harmless t key (executePlugin py x req (b.plugin u) run s).1 ↔
      Harmless t key (work py x req (b.plugin u) s).1 :=
    Harmless.bind_apply_iff fun p => h.of_raising ((Raising.commit hK _).bind fun _ =>
      (raising_saveRun _ _ _ hK).bind fun _ => (Raising.query hK _ _).bind fun _ =>
        Raising.pure _)
  rw [hwork]
  unfold work
  rcases resolveCredentials_eq hrun s with hread | ⟨e, s', hread, hown⟩
  · rw [Prog.bind_apply_ok hread, hread]
    refine (Harmless.bind_apply_iff fun result =>
      h.of_raising (raising_persistRows py x result)).trans ?_
    rw [Prog.ofExcept_fst, harmless_queryPlugin, BYOKPlugin.harmless_query h]
    exact ⟨fun hr _ => hr, fun hr => hr rfl⟩
  · rw [Prog.bind_apply_error hread, hread]
    refine iff_of_true (Harmless.error.mpr (h.library e ?_)) fun hok => nomatch hok
    exact hown.elim (fun h => h ▸ rfl) fun h => h ▸ rfl

/-! ## Records of a run -/

/-- A record of the run prints the key only with an exception that prints it. -/
lemma keyFree_record (h : QuietSecret t u b req key) {message : String}
    (hmessage : message ∈ logTexts req) {texts : List String} :
    LogRecord.KeyFree key ⟨message, texts⟩ ↔ ∀ text ∈ texts, ¬ Mentions key text :=
  and_iff_right (h.fixed message hmessage)

/-- The records of the handler print the exception that it handles. -/
lemma loggedHandle_emits (h : QuietSecret t u b req key) (hname : plugin.name = req.pluginName)
    (run : PluginRun) (e : Exc) (s : Session Store Write Bucket) :
    ∃ s' new, Emits (loggedHandle t x req.caseId plugin run (t.raised e)) s
        (.error (reraisedFrom t plugin (t.raised e))) s' new ∧
      (KeyFree key new ↔ ¬ Mentions key (t.str e)) := by
  have hfirst : failedOnCase plugin.name req.caseId ∈ logTexts req := by
    rw [hname]
    exact List.mem_cons_self
  have hsecond : notPersisted ∈ logTexts req := List.mem_cons_of_mem _ List.mem_cons_self
  have hsave := h.of_raising (raising_saveRun x.handlerCommit run (failed x run e)
    (ownText_of_library req)) s
  cases hres : saveRun x.handlerCommit run (failed x run e) s with
  | mk r s' =>
    rw [hres] at hsave
    cases r with
    | ok _ =>
      have hpersist : Emits (tryCatch (silent t.raised
          (saveRun x.handlerCommit run (failed x run (t.raised e).exc)))
          fun e' => emit ⟨notPersisted, (t.raised e).shown ++ e'.shown⟩ : LoggedDb Unit) s
          (.ok ()) s' [] := Emits.tryCatch_ok (Emits.silent_ok hres)
      refine ⟨s', _, (Emits.emit _).bind (hpersist.bind (Emits.throw _)), ?_⟩
      simp [KeyFree, keyFree_record h hfirst, ExcText.raised]
    | error e' =>
      have he' : ¬ Mentions key (t.str e') := Harmless.error.mp hsave
      have hpersist : Emits (tryCatch (silent t.raised
          (saveRun x.handlerCommit run (failed x run (t.raised e).exc)))
          fun e' => emit ⟨notPersisted, (t.raised e).shown ++ e'.shown⟩ : LoggedDb Unit) s
          (.ok ()) s' [⟨notPersisted, [t.str e, t.str e']⟩] :=
        Emits.tryCatch_error (Emits.silent_error hres) (Emits.emit _)
      refine ⟨s', _, (Emits.emit _).bind (hpersist.bind (Emits.throw _)), ?_⟩
      simp [KeyFree, keyFree_record h hfirst, keyFree_record h hsecond, ExcText.raised, he']

/-- What leaves the handler prints the key only where the exception that it handles does. -/
lemma reraisedFrom_shown (h : QuietSecret t u b req key) (hname : plugin.name = req.pluginName)
    {e : Exc} (he : ¬ Mentions key (t.str e)) :
    ∀ text ∈ (reraisedFrom t plugin (t.raised e)).shown, ¬ Mentions key text := by
  unfold reraisedFrom ExcText.raised
  split
  · simpa using he
  · simp only [List.cons_append, List.nil_append, List.mem_cons, List.not_mem_nil, or_false,
      forall_eq_or_imp, forall_eq]
    refine ⟨he, fun hwrapped => he (h.wrapped _ ?_)⟩
    rwa [hname] at hwrapped

/-- The plugin of a run that starts is the one of its name. -/
lemma start_plugin {existingRun : Option PluginRun} {s s' : Session Store Write Bucket}
    {run : PluginRun} {found : OSINTPlugin}
    (hget : req.registry.get req.pluginName = .ok plugin)
    (h : start x req existingRun s = (.ok (found, run), s')) : found = plugin := by
  have hstart : Prog.Triple (fun _ => True) (start x req existingRun)
      (fun p _ => p.1 = plugin) fun _ _ => True := by
    unfold start
    rw [hget]
    have hany : ∀ {α : Type} (m : Db Bucket α),
        Prog.Triple (fun _ => True) m (fun _ _ => True) fun _ _ => True :=
      fun m => Prog.Triple.intro (fun _ _ _ _ _ => trivial) fun _ _ _ _ _ => trivial
    show Prog.Triple _
      (Prog.ofExcept (assertPluginAllowed req.enterprise plugin.premium) >>= _) _ _
    exact (hany _).bind fun _ => (hany _).bind fun _ => (hany _).bind fun _ =>
      Prog.Triple.pure fun _ _ => rfl
  exact hstart.ok trivial h

variable (py x) in
/-- **The records of a run.** They are free of the key just when the run spares it, and so is then
what it raises. -/
theorem loggedRun_emits (h : QuietSecret t u b req key) (hrun : BYOKRun u b req key)
    (existingRun : Option PluginRun) (s : Session Store Write Bucket) :
    ∃ r s' new, Emits (loggedRun py t x req existingRun) s r s' new ∧
      (KeyFree key new ↔ Spares u b key x req existingRun s) ∧
      ∀ e, r = .error e → KeyFree key new → ∀ text ∈ e.shown, ¬ Mentions key text := by
  have hpremium : (b.plugin u).premium = false := by cases b <;> rfl
  cases hstart : start x req existingRun s with
  | mk r s' =>
    cases r with
    | error e =>
      -- nothing is logged by `run` itself
      have hraised : Harmless t key (start x req existingRun s).1 :=
        h.of_raising (raising_start x hrun.plugin hpremium) s
      rw [hstart] at hraised
      refine ⟨_, s', [], Emits.bind_error (Emits.silent_error hstart), ?_, ?_⟩
      · refine iff_of_true (fun _ hr => by cases hr) fun hqueries => ?_
        obtain ⟨run, s'', hok, -⟩ := (queries_iff hrun).mp hqueries
        rw [hstart] at hok
        cases hok
      · rintro _ ⟨⟩ -
        simpa [ExcText.raised] using hraised
    | ok p =>
      obtain ⟨found, run⟩ := p
      obtain rfl := start_plugin hrun.plugin hstart
      have hexec := harmless_executePlugin py x h hrun run s'
      -- the run gets to the query just when the key is read
      have hspares : Spares u b key x req existingRun s ↔
          ((resolveCredentials x req (b.plugin u) s').1.isOk = true →
            ∀ request, b.request u req.inputEntity key = some request →
              b.Spares u key request (b.lastAnswer u request)) := by
        refine ⟨fun hs hread => hs ((queries_iff hrun).mpr ⟨run, s', hstart, hread⟩),
          fun hs hqueries => ?_⟩
        obtain ⟨_, _, hstart', hread⟩ := (queries_iff hrun).mp hqueries
        rw [hstart] at hstart'
        cases hstart'
        exact hs hread
      rw [hspares, ← hexec]
      cases hres : executePlugin py x req (b.plugin u) run s' with
      | mk r s'' =>
        cases r with
        | ok result =>
          refine ⟨_, s'', _, (Emits.silent_ok hstart).bind
            (Emits.tryCatch_ok (Emits.silent_ok hres)), ?_, fun _ he => nomatch he⟩
          exact iff_of_true (fun _ hr => nomatch hr) (Harmless.ok _)
        | error e =>
          obtain ⟨s₃, new, hhandle, hnew⟩ :=
            loggedHandle_emits (t := t) (x := x) h hrun.name run e s''
          refine ⟨_, s₃, _, (Emits.silent_ok hstart).bind
            (Emits.tryCatch_error (Emits.silent_error hres) hhandle), ?_, ?_⟩
          · rw [List.nil_append, List.nil_append, Harmless.error]
            exact hnew
          · rintro _ ⟨⟩ hfree
            exact reraisedFrom_shown h hrun.name (hnew.mp hfree)

end PluginRunner

/-! ## Records of a task -/

/-- The fixed texts of a task. -/
def TaskLog.texts (runId : UUID) : List String :=
  [notFound runId, taskFailed runId, skipping runId .queued, skipping runId .running,
    skipping runId .succeeded, skipping runId .failed]

/-- The task hands a row and an input entity over to the runner, in a session `s'`. -/
structure HandsOver (x : TaskExt) (runId : UUID) (s : Session Store Write Bucket)
    (run : PluginRun) (inputEntity : Entity) (s' : Session Store Write Bucket) : Prop where
  row : (query x.runLookup fun st => st.runs.find runId : Db Bucket (Option PluginRun)) s
    = (.ok (some run), s)
  queued : run.status = .queued
  input : loadInput x run s = (.ok (some inputEntity), s)
  flip : PluginRunner.saveRun x.flipCommit run (flipped run) s = (.ok (), s')

section Tasks

variable {py : Interp} {t : ExcText} {u : Upstream} {b : BYOKPlugin} {key : String}

/-- The records of a task that hands its run over: those of the run, and one more if it raises. -/
lemma loggedRunTask_emits (py : Interp) (x : TaskExt) {w : Worker} {runId : UUID} {run : PluginRun}
    {inputEntity : Entity} (hquiet : QuietSecret t u b (w.request run inputEntity) key)
    (hrun : BYOKRun u b (w.request run inputEntity) key)
    (hfixed : ∀ text ∈ TaskLog.texts runId, ¬ Mentions key text)
    (s : Session Store Write Bucket) :
    ∃ r s' new, Emits (loggedRunTask py t x w runId run inputEntity) s r s' new ∧
      (KeyFree key new ↔ PluginRunner.Spares u b key x.run (w.request run inputEntity)
        (some run) s) := by
  obtain ⟨r, s', new, hemits, hfree, hshown⟩ :=
    PluginRunner.loggedRun_emits py x.run hquiet hrun (some run) s
  cases r with
  | ok result =>
    refine ⟨_, s', _, Emits.tryCatch_ok (hemits.bind (Emits.pure _)), ?_⟩
    rw [List.append_nil]
    exact hfree
  | error e =>
    refine ⟨_, s', _, Emits.tryCatch_error hemits.bind_error
      ((Emits.emit _).bind (Emits.pure _)), ?_⟩
    rw [← hfree, List.append_nil]
    refine ⟨fun h record hr => h record (List.mem_append_left _ hr), fun h record hr => ?_⟩
    rcases List.mem_append.mp hr with hr | hr
    · exact h record hr
    · rw [List.mem_singleton.mp hr]
      exact ⟨hfixed _ (by simp [TaskLog.texts]), hshown e rfl h⟩

/-- There is one way to hand a run over. -/
lemma HandsOver.unique {x : TaskExt} {runId : UUID} {s s₁ s₂ : Session Store Write Bucket}
    {run run' : PluginRun} {inputEntity inputEntity' : Entity}
    (h : HandsOver x runId s run inputEntity s₁) (h' : HandsOver x runId s run' inputEntity' s₂) :
    run' = run ∧ inputEntity' = inputEntity ∧ s₂ = s₁ := by
  cases h.row.symm.trans h'.row
  cases h.input.symm.trans h'.input
  cases h.flip.symm.trans h'.flip
  exact ⟨rfl, rfl, rfl⟩

/-- Reading the input entity leaves the session as it is. -/
lemma loadInput_unchanged {x : TaskExt} {run : PluginRun} {s s' : Session Store Write Bucket}
    {input : Option Entity} (h : loadInput x run s = (.ok input, s')) : s' = s := by
  unfold loadInput at h
  cases hid : run.inputEntityId with
  | none =>
    simp only [hid] at h
    cases h
    rfl
  | some entityId =>
    simp only [hid] at h
    exact (query_ok h).1

/-- A record of the task itself. -/
def TaskLog.Plain (runId : UUID) (record : LogRecord) : Prop :=
  record.message ∈ texts runId ∧ record.exceptions = []

/-- **The records of a task**: it hands its run over, and they are those of the run's part, or it
hands nothing over and logs none but its own. -/
lemma loggedTask_records (py : Interp) (t : ExcText) (x : TaskExt) (w : Worker) (runId : UUID)
    (s : Session Store Write Bucket) :
    (∃ run inputEntity s', HandsOver x runId s run inputEntity s' ∧
      records (loggedTask py t x w runId) s
        = records (loggedRunTask py t x w runId (flipped run) inputEntity) s') ∨
    (∀ run inputEntity s', ¬ HandsOver x runId s run inputEntity s') ∧
      ∀ record ∈ records (loggedTask py t x w runId) s, TaskLog.Plain runId record := by
  have hnil : ∀ record ∈ ([] : List LogRecord), TaskLog.Plain runId record :=
    fun _ h => absurd h List.not_mem_nil
  have hone : ∀ {message : String}, message ∈ TaskLog.texts runId →
      ∀ record ∈ ([⟨message, []⟩] : List LogRecord), TaskLog.Plain runId record := by
    intro message hmessage record h
    rw [List.mem_singleton.mp h]
    exact ⟨hmessage, rfl⟩
  unfold loggedTask
  cases hrow : (query x.runLookup fun st => st.runs.find runId : Db Bucket (Option PluginRun))
      s with
  | mk r s₁ =>
    cases r with
    | error e =>
      rw [records_silent_error hrow]
      refine Or.inr ⟨fun run inputEntity s' h => ?_, hnil⟩
      cases hrow.symm.trans h.row
    | ok row =>
      obtain ⟨rfl, -, -⟩ := query_ok hrow
      rw [records_silent_ok hrow]
      cases row with
      | none =>
        refine Or.inr ⟨fun run inputEntity s' h => ?_, ?_⟩
        · cases hrow.symm.trans h.row
        · exact hone (by simp [TaskLog.texts])
      | some run =>
        dsimp only
        by_cases hqueued : run.status = .queued
        · rw [if_neg (not_not_intro hqueued)]
          cases hinput : loadInput x run s₁ with
          | mk r s₂ =>
            cases r with
            | error e =>
              rw [records_silent_error hinput]
              refine Or.inr ⟨fun run' inputEntity s' h => ?_, hnil⟩
              cases hrow.symm.trans h.row
              cases hinput.symm.trans h.input
            | ok input =>
              obtain rfl := loadInput_unchanged hinput
              rw [records_silent_ok hinput]
              cases input with
              | none =>
                refine Or.inr ⟨fun run' inputEntity s' h => ?_, ?_⟩
                · cases hrow.symm.trans h.row
                  cases hinput.symm.trans h.input
                · dsimp only
                  cases hsave : PluginRunner.saveRun x.missingCommit run (missingInput run) s₂ with
                  | mk r s₃ =>
                    cases r with
                    | ok _ =>
                      rw [records_silent_ok hsave]
                      exact hnil
                    | error e =>
                      rw [records_silent_error hsave]
                      exact hnil
              | some inputEntity =>
                dsimp only
                cases hflip : PluginRunner.saveRun x.flipCommit run (flipped run) s₂ with
                | mk r s₃ =>
                  cases r with
                  | ok _ =>
                    rw [records_silent_ok hflip]
                    exact Or.inl ⟨run, inputEntity, s₃, ⟨hrow, hqueued, hinput, hflip⟩, rfl⟩
                  | error e =>
                    rw [records_silent_error hflip]
                    refine Or.inr ⟨fun run' inputEntity' s' h => ?_, hnil⟩
                    cases hrow.symm.trans h.row
                    cases hinput.symm.trans h.input
                    cases hflip.symm.trans h.flip
        · rw [if_pos hqueued]
          refine Or.inr ⟨fun run' inputEntity s' h => ?_, hone ?_⟩
          · cases hrow.symm.trans h.row
            exact hqueued h.queued
          · cases run.status <;> simp [TaskLog.texts]

lemma loggedTask_keyFree_iff (py : Interp) {x : TaskExt} {w : Worker} {runId : UUID}
    {s : Session Store Write Bucket} (hfixed : ∀ text ∈ TaskLog.texts runId, ¬ Mentions key text)
    (hover : ∀ run inputEntity s', HandsOver x runId s run inputEntity s' →
      BYOKRun u b (w.request (flipped run) inputEntity) key ∧
        QuietSecret t u b (w.request (flipped run) inputEntity) key) :
    KeyFree key (records (loggedTask py t x w runId) s) ↔
      ∀ run inputEntity s', HandsOver x runId s run inputEntity s' →
        PluginRunner.Spares u b key x.run (w.request (flipped run) inputEntity)
          (some (flipped run)) s' := by
  rcases loggedTask_records py t x w runId s with ⟨run, inputEntity, s', hands, hrecords⟩ |
    ⟨hnone, hplain⟩
  · obtain ⟨hrun, hquiet⟩ := hover run inputEntity s' hands
    obtain ⟨r, s'', new, hemits, hnew⟩ := loggedRunTask_emits py x hquiet hrun hfixed s'
    rw [hrecords, hemits.records_eq, hnew]
    constructor
    · intro hspares run' inputEntity' s₁ hands'
      obtain ⟨rfl, rfl, rfl⟩ := hands.unique hands'
      exact hspares
    · intro hall
      exact hall run inputEntity s' hands
  · refine iff_of_true (fun record hrecord => ?_) fun run inputEntity s' hands =>
      absurd hands (hnone run inputEntity s')
    obtain ⟨hmessage, htexts⟩ := hplain record hrecord
    refine ⟨hfixed record.message hmessage, fun text htext => ?_⟩
    rw [htexts] at htext
    cases htext

end Tasks

section Main

variable {t : ExcText} {u : Upstream} {b : BYOKPlugin} {key : String}

/-- A run that gets the key back is spared by that answer. -/
lemma PluginRunner.spares_of_givesBack {x : RunExt} {req : RunRequest}
    {existingRun : Option PluginRun} {s : Session Store Write Bucket}
    (h : PluginRunner.GivesBack u b key x req existingRun s) :
    PluginRunner.Spares u b key x req existingRun s := by
  obtain ⟨-, request, hrequest, hback⟩ := h
  intro _ request' hrequest'
  cases hrequest.symm.trans hrequest'
  exact BYOKPlugin.spares_of_givesBack hback

lemma loggedRun_keyFree (py : Interp) (x : RunExt) {req : RunRequest}
    (existingRun : Option PluginRun) (s : Session Store Write Bucket)
    (hrun : BYOKRun u b req key) (hsecret : Secret t u b req key)
    (hlibrary : ¬ PluginRunner.GivesBack u b key x req existingRun s → SilentLibraries t key) :
    (KeyFree key (records (PluginRunner.loggedRun py t x req existingRun) s) →
      PluginRunner.Spares u b key x req existingRun s) ∧
    (PluginRunner.Spares u b key x req existingRun s →
      ¬ PluginRunner.GivesBack u b key x req existingRun s →
      KeyFree key (records (PluginRunner.loggedRun py t x req existingRun) s)) := by
  by_cases hback : PluginRunner.GivesBack u b key x req existingRun s
  · exact ⟨fun _ => PluginRunner.spares_of_givesBack hback, fun _ hnot => absurd hback hnot⟩
  · obtain ⟨r, s', new, hemits, hfree, -⟩ :=
      PluginRunner.loggedRun_emits py x ⟨hsecret, hlibrary hback⟩ hrun existingRun s
    rw [hemits.records_eq]
    exact ⟨hfree.mp, fun hspares _ => hfree.mpr hspares⟩

lemma loggedTask_keyFree (py : Interp) (x : TaskExt) (w : Worker) (runId : UUID)
    (s : Session Store Write Bucket) (hfixed : ∀ text ∈ TaskLog.texts runId, ¬ Mentions key text)
    (hover : ∀ run inputEntity s', HandsOver x runId s run inputEntity s' →
      BYOKRun u b (w.request (flipped run) inputEntity) key ∧
        Secret t u b (w.request (flipped run) inputEntity) key ∧
        (¬ PluginRunner.GivesBack u b key x.run (w.request (flipped run) inputEntity)
          (some (flipped run)) s' → SilentLibraries t key)) :
    (KeyFree key (records (loggedTask py t x w runId) s) →
      ∀ run inputEntity s', HandsOver x runId s run inputEntity s' →
        PluginRunner.Spares u b key x.run (w.request (flipped run) inputEntity)
          (some (flipped run)) s') ∧
    ((∀ run inputEntity s', HandsOver x runId s run inputEntity s' →
        PluginRunner.Spares u b key x.run (w.request (flipped run) inputEntity)
          (some (flipped run)) s' ∧
        ¬ PluginRunner.GivesBack u b key x.run (w.request (flipped run) inputEntity)
          (some (flipped run)) s') →
      KeyFree key (records (loggedTask py t x w runId) s)) := by
  by_cases hback : ∃ run inputEntity s', HandsOver x runId s run inputEntity s' ∧
      PluginRunner.GivesBack u b key x.run (w.request (flipped run) inputEntity)
        (some (flipped run)) s'
  · obtain ⟨run, inputEntity, s', hands, hback⟩ := hback
    refine ⟨fun _ run' inputEntity' s'' hands' => ?_,
      fun hall => absurd hback (hall run inputEntity s' hands).2⟩
    obtain ⟨rfl, rfl, rfl⟩ := hands.unique hands'
    exact PluginRunner.spares_of_givesBack hback
  · have hquiet : ∀ run inputEntity s', HandsOver x runId s run inputEntity s' →
        BYOKRun u b (w.request (flipped run) inputEntity) key ∧
          QuietSecret t u b (w.request (flipped run) inputEntity) key := by
      intro run inputEntity s' hands
      obtain ⟨hrun, hsecret, hlibrary⟩ := hover run inputEntity s' hands
      exact ⟨hrun, hsecret, hlibrary fun h => hback ⟨run, inputEntity, s', hands, h⟩⟩
    have hiff := loggedTask_keyFree_iff py hfixed hquiet
    exact ⟨hiff.mp, fun hall => hiff.mpr fun run inputEntity s' hands =>
      (hall run inputEntity s' hands).1⟩

end Main

/-- A text that begins with a character of which there is none in `front`. -/
lemma mentions_of_append {key : String} (front : String) {text : String} {c : Char} {cs : List Char}
    (hkey : key.toList = c :: cs) (hc : c ∉ front.toList) (h : Mentions key (front ++ text)) :
    Mentions key text := by
  unfold Mentions at h ⊢
  rw [String.toList_append, hkey] at h
  rw [hkey]
  generalize front.toList = l at h hc
  induction l with
  | nil => exact h
  | cons d l ih =>
    rw [List.mem_cons, not_or] at hc
    rcases List.infix_cons_iff.mp h with hstart | hinfix
    · exact absurd (List.cons_prefix_cons.mp hstart).1 hc.1
    · exact ih hinfix hc.2

/-- Exceptions that print their text. -/
def plainText : ExcText := ⟨Exc.text, fun _ _ => rfl⟩

def exampleKey : String := "Zx81-k3y"

/-- An address or an account in case 7. -/
def exampleInput (type label : String) : Entity where
  id := 1
  caseId := 7
  type
  label
  attrs := .dict []
  confidence := 1
  createdBy := none
  createdAt := 0
  updatedAt := 0
  deletedAt := none

/-- User 1 runs a plugin, with a key for it. -/
def keyedRequest (plugin : OSINTPlugin) (hname : plugin.name ≠ "") (inputEntity : Entity) :
    RunRequest where
  registry := ⟨[plugin], names_nodup_one plugin, names_nonempty_one hname⟩
  enterprise := false
  vault _ _ := .ok (some exampleKey)
  pluginName := plugin.name
  caseId := 7
  inputEntity
  createdBy := some 1
  credentials := none

def shodanRequest : RunRequest :=
  keyedRequest (shodanPlugin unauthorized) (by decide) (exampleInput "IP_ADDRESS" "198.51.100.7")

def hibpRequest : RunRequest :=
  keyedRequest (hibpPlugin unauthorized) (by decide) (exampleInput "EMAIL" "alice@example.com")

lemma keyedRequest_run (b : BYOKPlugin) (hname : (b.plugin unauthorized).name ≠ "")
    (inputEntity : Entity) :
    BYOKRun unauthorized b (keyedRequest (b.plugin unauthorized) hname inputEntity) exampleKey :=
  ⟨PluginRegistry.get_eq_ok_iff.mpr ⟨List.mem_singleton_self _, rfl⟩, rfl, 1, rfl, rfl⟩

/-- The one answer of the upstream says no more than its status. -/
lemma secret_exampleKey {b : BYOKPlugin} {req : RunRequest}
    (hfixed : ∀ text ∈ PluginRunner.logTexts req, ¬ Mentions exampleKey text)
    (hname : 'Z' ∉ (PluginRunner.wrapping req.pluginName "").toList)
    (hstatus : ∀ request, b.request unauthorized req.inputEntity exampleKey = some request →
      Mentions exampleKey (unauthorized.client.statusText request refusal) →
        Mentions exampleKey (unauthorized.client.urlText request.url)) :
    Secret plainText unauthorized b req exampleKey := by
  refine ⟨fun raw e he => ?_, fun n request e he => ?_, fun n request response e h he => ?_,
    fun n request response hrequest h hm => ?_, hfixed, fun text htext => ?_⟩
  · cases he
    decide
  · cases he
  · cases h
    cases he
  · cases h
    exact Or.inl (hstatus request hrequest hm)
  · refine mentions_of_append (PluginRunner.wrapping req.pluginName "") rfl hname ?_
    unfold PluginRunner.wrapping at htext ⊢
    rwa [String.append_empty]

lemma plainText_silent : SilentLibraries plainText exampleKey := by
  intro e he
  show ¬ Mentions exampleKey e.text
  rw [he]
  decide

/-- A session on a database with the input entity and some runs. -/
def keyedSession (inputEntity : Entity) (runs : Table PluginRun) : Session Store Write Bucket :=
  ⟨{ Store.empty with entities := ⟨[inputEntity], nodup_one inputEntity⟩, runs }, [], false, []⟩

/-- What is sent is refused, at every attempt. -/
lemma lastAnswer_unauthorized (b : BYOKPlugin) {request : HttpRequest}
    (haccepted : urlAccepted request.url = true) :
    b.lastAnswer unauthorized request = .ok refusal := by
  unfold BYOKPlugin.lastAnswer
  rw [HttpClient.send_accepted haccepted]
  rfl

lemma hibp_request {request : HttpRequest} (hrequest :
    BYOKPlugin.hibp.request unauthorized hibpRequest.inputEntity exampleKey = some request) :
    request = Hibp.requestOf "alice@example.com".toList exampleKey ∧
      BYOKPlugin.hibp.lastAnswer unauthorized request = .ok refusal := by
  have hhibp : BYOKPlugin.hibp.request unauthorized hibpRequest.inputEntity exampleKey
      = some (Hibp.requestOf "alice@example.com".toList exampleKey) := by decide +kernel
  have haccepted :
      urlAccepted (Hibp.requestOf "alice@example.com".toList exampleKey).url = true := by
    decide +kernel
  cases hrequest.symm.trans hhibp
  exact ⟨rfl, lastAnswer_unauthorized .hibp haccepted⟩

lemma hibp_url_quiet : ¬ Mentions exampleKey (unauthorized.client.urlText
    (Hibp.requestOf "alice@example.com".toList exampleKey).url) := by
  show ¬ exampleKey.toList <:+: (String.ofList _).toList
  rw [String.toList_ofList]
  decide +kernel

/-- The refusal of `hibp` has the key neither in its URL nor in its reason. -/
lemma hibp_spares (x : RunExt) (existingRun : Option PluginRun)
    (s : Session Store Write Bucket) :
    PluginRunner.Spares unauthorized .hibp exampleKey x hibpRequest existingRun s ∧
      ¬ PluginRunner.GivesBack unauthorized .hibp exampleKey x hibpRequest existingRun s := by
  have hprinted : ∀ text ∈ refusal.printed, ¬ Mentions exampleKey text := by
    intro text htext
    rw [List.mem_singleton.mp htext]
    decide +kernel
  constructor
  · intro _ request hrequest
    obtain ⟨rfl, hanswer⟩ := hibp_request hrequest
    rw [hanswer]
    exact (BYOKPlugin.spares_refused_iff (by decide) (by decide)).mpr ⟨hibp_url_quiet, hprinted⟩
  · rintro ⟨-, request, hrequest, hback⟩
    obtain ⟨rfl, hanswer⟩ := hibp_request hrequest
    rw [hanswer] at hback
    exact absurd hback.1 (by decide)

/-- A run of `hibp` that waits for a worker. -/
def hibpRow : PluginRun where
  id := 5
  caseId := 7
  inputEntityId := some 1
  pluginName := "hibp"
  pluginVersion := "0.1.0"
  startedAt := 0
  finishedAt := none
  status := .queued
  errorMessage := none
  entitiesCreatedCount := 0
  relationshipsCreatedCount := 0
  evidenceCount := 0
  createdBy := some 1

def hibpWorker : Worker := ⟨hibpRequest.registry, false, hibpRequest.vault⟩

def hibpSession : Session Store Write Bucket :=
  keyedSession hibpRequest.inputEntity ⟨[hibpRow], List.nodup_singleton _⟩

lemma hibpRequest_secret : Secret plainText unauthorized .hibp hibpRequest exampleKey := by
  refine secret_exampleKey (by decide +kernel) (by decide) fun request hrequest hm => ?_
  obtain ⟨rfl, -⟩ := hibp_request hrequest
  have hquiet : ¬ Mentions exampleKey (unauthorized.client.statusText
      (Hibp.requestOf "alice@example.com".toList exampleKey) refusal) := by
    show ¬ exampleKey.toList <:+: (String.ofList _).toList
    rw [String.toList_ofList]
    decide +kernel
  exact absurd hm hquiet

/-- The worker calls the runner as the router does. -/
lemma hibp_handsOver {run : PluginRun} {inputEntity : Entity} {s' : Session Store Write Bucket}
    (h : HandsOver { run := calm } 5 hibpSession run inputEntity s') :
    hibpWorker.request (flipped run) inputEntity = hibpRequest := by
  have hrow : run = hibpRow := by
    have := h.row
    cases this
    rfl
  subst hrow
  have hinput : inputEntity = hibpRequest.inputEntity := by
    have := h.input
    cases this
    rfl
  rw [hinput]
  rfl

lemma shodanRequest_secret : Secret plainText unauthorized .shodan shodanRequest exampleKey := by
  have hkey : exampleKey.toList.all isUnreserved = true := by decide +kernel
  exact secret_exampleKey (by decide +kernel) (by decide) fun _ hrequest _ =>
    BYOKPlugin.shodan_url_mentions (List.all_eq_true.mp hkey) hrequest

end Sleuthgraph
