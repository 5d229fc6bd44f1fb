import Sleuthgraph.Plugins.Builtin.CapTheorems
import Sleuthgraph.Plugins.NetworkTheorems

/-!
# Bodies of responses (`plugins/builtin/`)

Each plugin reads a body in chunks and gives up above `MAX_RESPONSE_BYTES`. What the attempts of
`_fetch` come to depends on the body alone and not on its chunks. A query that passes on the error
about the size blames the network for it; one that swallows it returns evidence with another
payload.
-/

namespace Sleuthgraph

/-! ## Responses -/

/-- The status is a success. -/
def HttpResponse.IsSuccess (response : HttpResponse) : Prop :=
  200 ≤ response.status ∧ response.status < 300

instance (response : HttpResponse) : Decidable response.IsSuccess :=
  inferInstanceAs (Decidable (_ ∧ _))

/-- The chunks of the body, one after the other. -/
def HttpResponse.body (response : HttpResponse) : Bytes := response.chunks.flatten

/-- The attempts end with this response, and its body is complete: each attempt before it was
retried, and it is the third one, or too late for another, or nothing that is retried. -/
structure Arrives (gaveUp : ℕ → Bool) (reading : HttpResponse → Except Exc Bytes)
    (answers : ℕ → Except Exc HttpResponse) (response : HttpResponse) : Prop where
  complete : response.broken = none
  answered : ∃ n, 1 ≤ n ∧ n ≤ 3 ∧ answers n = .ok response ∧
    (∀ m, 1 ≤ m → m < n → ∃ e, answers m >>= reading = .error e ∧ retryable e = true ∧
      gaveUp m = false) ∧
    (n = 3 ∨ gaveUp n = true ∨ ∀ e, reading response = .error e → retryable e = false)

/-- The retries come to what one attempt makes of the response. -/
lemma Arrives.attempts_eq {α : Type} {gaveUp : ℕ → Bool}
    {reading : HttpResponse → Except Exc Bytes} {answers : ℕ → Except Exc HttpResponse}
    {response : HttpResponse} (h : Arrives gaveUp reading answers response)
    {attempt : ℕ → Except Exc α} (rest : HttpResponse → Bytes → Except Exc α)
    (hattempt : ∀ n, attempt n = answers n >>= fun response => reading response >>= rest response)
    (hrest : ∀ response raw e, rest response raw = .error e → retryable e = false) :
    attempts gaveUp attempt 2 1 = reading response >>= rest response := by
  obtain ⟨last, hfirst, hlast, hanswer, hbefore, hend⟩ := h.answered
  have hattempted : attempt last = reading response >>= rest response := by
    rw [hattempt, hanswer]
    rfl
  have hreached : ∀ k n, n + k = 3 → 1 ≤ n → n ≤ last →
      attempts gaveUp attempt k n = reading response >>= rest response := by
    intro k
    induction k with
    | zero =>
      intro n hn _ hle
      obtain rfl : n = last := by omega
      exact hattempted
    | succ k ih =>
      intro n hn hpos hle
      unfold attempts
      rcases Nat.lt_or_eq_of_le hle with hbeforeLast | rfl
      -- an attempt before the last is retried
      · obtain ⟨e, he, hretry, htime⟩ := hbefore n hpos hbeforeLast
        have hfails : attempt n = .error e := by
          rw [hattempt]
          cases hn : answers n with
          | error e' =>
            rw [hn] at he
            exact congrArg Except.error (Except.error.inj he)
          | ok other =>
            rw [hn] at he
            show reading other >>= rest other = _
            rw [show reading other = .error e from he]
            rfl
        rw [hfails]
        dsimp only
        rw [hretry, htime, Bool.not_false, Bool.and_self, if_pos rfl]
        exact ih (n + 1) (by omega) (by omega) (by omega)
      -- the last is not
      · rw [hattempted]
        cases hread : reading response with
        | ok raw =>
          have hrest' : (Except.ok raw >>= rest response) = rest response raw := rfl
          rw [hrest']
          cases hraw : rest response raw with
          | ok a => rfl
          | error e =>
            dsimp only
            rw [hrest response raw e hraw, Bool.false_and, if_neg Bool.false_ne_true]
        | error e =>
          show (if retryable e && !gaveUp n then attempts gaveUp attempt k (n + 1)
              else Except.error e) = Except.error e
          rcases hend with hthird | hlate | hstops
          · omega
          · rw [hlate, Bool.not_true, Bool.and_false, if_neg Bool.false_ne_true]
          · rw [hstops e hread, Bool.false_and, if_neg Bool.false_ne_true]
  exact hreached 2 1 rfl (le_refl 1) hfirst

section Bodies

variable {tooLarge : Exc} {client : HttpClient} {request : HttpRequest} {response : HttpResponse}

lemma readUpTo_over (hover : maxResponseBytes < response.body.length) :
    readUpTo tooLarge response.broken [] response.chunks = .error tooLarge := by
  refine readUpTo_exceeds (Nat.zero_le _) ?_
  rw [List.length_nil, Nat.zero_add]
  exact hover

lemma readUpTo_within (hcomplete : response.broken = none)
    (hwithin : response.body.length ≤ maxResponseBytes) :
    readUpTo tooLarge response.broken [] response.chunks = .ok response.body := by
  rw [hcomplete, readUpTo_fits (by rw [List.length_nil, Nat.zero_add]; exact hwithin),
    List.nil_append]
  rfl

lemma readBody_over (hsuccess : response.IsSuccess)
    (hover : maxResponseBytes < response.body.length) :
    readBody tooLarge client request response = .error tooLarge := by
  have hstatus : 200 ≤ response.status ∧ response.status < 300 := hsuccess
  unfold readBody raiseForStatus
  rw [if_pos hstatus]
  exact readUpTo_over hover

lemma readBody_within (hcomplete : response.broken = none) (hsuccess : response.IsSuccess)
    (hwithin : response.body.length ≤ maxResponseBytes) :
    readBody tooLarge client request response = .ok response.body := by
  have hstatus : 200 ≤ response.status ∧ response.status < 300 := hsuccess
  unfold readBody raiseForStatus
  rw [if_pos hstatus]
  exact readUpTo_within hcomplete hwithin

lemma readBody_refused (hsuccess : ¬ response.IsSuccess) :
    readBody tooLarge client request response
      = .error (Exc.httpStatusError (client.statusText request response)) := by
  have hstatus : ¬ (200 ≤ response.status ∧ response.status < 300) := hsuccess
  unfold readBody raiseForStatus
  rw [if_neg hstatus]
  rfl

end Bodies

lemma Exc.network_httpError (text : String) : (Exc.httpError text).Network := by
  simp [Exc.Network, Exc.httpError, Exc.isinstance]

lemma Exc.network_tooLarge (service : String) : (Exc.tooLarge service).Network :=
  Exc.network_httpError _

lemma Exc.network_tooLong (service : String) : (Exc.tooLong service).Network :=
  Exc.network_httpError _

lemma Exc.network_transportError (text : String) : (Exc.transportError text).Network := by
  simp [Exc.Network, Exc.transportError, Exc.isinstance]

lemma Exc.isHttp_httpStatusError (text : String) :
    (Exc.httpStatusError text).isinstance "HTTPError" = true := by
  simp [Exc.httpStatusError, Exc.isinstance]

lemma Exc.not_network_httpStatusError (text : String) : ¬ (Exc.httpStatusError text).Network := by
  simp [Exc.Network, Exc.httpStatusError, Exc.isinstance]

/-! ## What a query makes of a body -/

/-- The evidence of what is returned has the body as its payload, unless the body is empty. -/
def KeepsPayload (body : Bytes) (answer : Except Exc QueryResult) : Prop :=
  ∀ result, answer = .ok result → ∀ ev ∈ result.evidence, body ≠ [] → ev.payload = body

/-- What is raised is an error of the network. -/
def RaisesNetwork (answer : Except Exc QueryResult) : Prop := ∃ e, answer = .error e ∧ e.Network

lemma raisesNetwork_error {e : Exc} : RaisesNetwork (.error e) ↔ e.Network :=
  ⟨fun ⟨_, he, hnetwork⟩ => Except.error.inj he ▸ hnetwork, fun hnetwork => ⟨e, rfl, hnetwork⟩⟩

lemma RaisesNetwork.not_ok {result : QueryResult} : ¬ RaisesNetwork (.ok result) :=
  fun ⟨_, he, _⟩ => nomatch he

section KeepsPayload

variable {body : Bytes}

lemma KeepsPayload.error (e : Exc) : KeepsPayload body (.error e) := fun _ h => nomatch h

lemma KeepsPayload.no_evidence {entities : List EntityProposal}
    {relationships : List RelationshipProposal} :
    KeepsPayload body (.ok ⟨entities, relationships, []⟩) := by
  intro result hresult ev hev
  cases hresult
  cases hev

lemma KeepsPayload.bind {α : Type} {r : Except Exc α} {f : α → Except Exc QueryResult}
    (h : ∀ a, r = .ok a → KeepsPayload body (f a)) : KeepsPayload body (r >>= f) := by
  intro result hresult
  obtain ⟨a, ha, hf⟩ := bind_eq_ok.mp hresult
  exact h a ha result hf

/-- The last step of a query makes its evidence. -/
lemma KeepsPayload.evidence {question : List Char} {payload : Bytes} {spec : PyDict}
    {entities : List EntityProposal} {relationships : List RelationshipProposal}
    (h : body ≠ [] → payload = body) :
    KeepsPayload body (EvidenceProposal.validate question payload spec >>= fun evidence =>
      .ok ⟨entities, relationships, [evidence]⟩) := by
  refine KeepsPayload.bind fun evidence hevidence => ?_
  obtain ⟨-, rfl⟩ := evidenceProposal_ok.mp hevidence
  intro result hresult ev hev hbody
  cases hresult
  obtain rfl := List.mem_singleton.mp hev
  exact h hbody

end KeepsPayload

/-- A body that is there is not replaced. -/
lemma orElse_of_ne {body other : Bytes} (h : body ≠ []) :
    (if body.isEmpty then other else body) = body := by
  rw [if_neg (by rw [List.isEmpty_iff]; exact h)]

/-- One evidence is returned, with the payload. -/
def Evidences (payload : Bytes) (answer : Except Exc QueryResult) : Prop :=
  ∃ result ev, answer = .ok result ∧ result.evidence = [ev] ∧ ev.payload = payload

section Evidences

variable {payload body : Bytes} {answer : Except Exc QueryResult}

lemma Evidences.not_raisesNetwork (h : Evidences payload answer) : ¬ RaisesNetwork answer := by
  obtain ⟨result, ev, rfl, -, -⟩ := h
  exact RaisesNetwork.not_ok

lemma Evidences.keepsPayload_iff (h : Evidences payload answer) :
    KeepsPayload body answer ↔ body = [] ∨ payload = body := by
  obtain ⟨result, ev, rfl, hevidence, rfl⟩ := h
  constructor
  · intro hkeeps
    by_cases hbody : body = []
    · exact Or.inl hbody
    · exact Or.inr (hkeeps result rfl ev (by rw [hevidence]; exact List.mem_cons_self) hbody)
  · rintro (hbody | hpayload) result' hresult' ev' hev' hne
    · exact absurd hbody hne
    · obtain rfl := Except.ok.inj hresult'
      rw [hevidence] at hev'
      obtain rfl := List.mem_singleton.mp hev'
      exact hpayload

lemma Evidences.bind {α : Type} {r : Except Exc α} {f : α → Except Exc QueryResult} {a : α}
    (hr : r = .ok a) (h : Evidences payload (f a)) : Evidences payload (r >>= f) := by
  rw [hr]
  exact h

/-- The last step of a query, where its question is no longer than is allowed. -/
lemma Evidences.of_validate {question : List Char} {spec : PyDict}
    {entities : List EntityProposal} {relationships : List RelationshipProposal}
    (hquestion : LengthIn 1024 (String.ofList question)) :
    Evidences payload (EvidenceProposal.validate question payload spec >>= fun evidence =>
      .ok ⟨entities, relationships, [evidence]⟩) :=
  ⟨_, _, by rw [EvidenceProposal.validate, if_pos hquestion]; rfl, rfl, rfl⟩

/-- A question of a few words about a part of a label is short enough. -/
lemma lengthIn_question {words : String} {subject : List Char} {n : ℕ}
    (hwords : 1 ≤ words.length ∧ words.length ≤ 512) (hsubject : subject.length ≤ n)
    (hn : n ≤ 512) : LengthIn 1024 (String.ofList (words.toList ++ subject)) := by
  have hlength : (String.ofList (words.toList ++ subject)).length
      = words.length + subject.length := by simp
  unfold LengthIn
  rw [hlength]
  omega

end Evidences

/-- What becomes of a body: above the cap the network is to blame in just the one case, and up to
it the payload is kept in just the other. -/
structure BodyFate (body : Bytes) (answer : Except Exc QueryResult) (reports keeps : Prop) :
    Prop where
  above : maxResponseBytes < body.length → (RaisesNetwork answer ↔ reports)
  within : body.length ≤ maxResponseBytes → (KeepsPayload body answer ↔ keeps)

/-- A query that passes on the errors of its reading. -/
lemma bodyFate_of_readBody {tooLarge : Exc} (htooLarge : tooLarge.Network) {client : HttpClient}
    {request : HttpRequest} {response : HttpResponse} {finish : Bytes → Except Exc QueryResult}
    (hcomplete : response.broken = none)
    (hfinish : KeepsPayload response.body (finish response.body)) :
    BodyFate response.body (readBody tooLarge client request response >>= finish)
      response.IsSuccess True := by
  by_cases hsuccess : response.IsSuccess
  · constructor
    · intro hover
      rw [readBody_over hsuccess hover]
      exact iff_of_true (raisesNetwork_error.mpr htooLarge) hsuccess
    · intro hwithin
      rw [readBody_within hcomplete hsuccess hwithin]
      exact iff_of_true hfinish trivial
  · rw [readBody_refused hsuccess]
    constructor
    · exact fun _ => iff_of_false
        (fun h => Exc.not_network_httpStatusError _ (raisesNetwork_error.mp h)) hsuccess
    · exact fun _ => iff_of_true (KeepsPayload.error _) trivial

/-- A query whose evidence has the other payload when the reading fails. -/
lemma bodyFate_of_swallowed (tooLarge : Exc) (client : HttpClient) (request : HttpRequest)
    {response : HttpResponse} {answer : Except Exc QueryResult} {other : Bytes} {parsed : Prop}
    (htooLarge : tooLarge.isinstance "HTTPError" = true) (hcomplete : response.broken = none)
    (hswallowed : ∀ e, e.isinstance "HTTPError" = true →
      readBody tooLarge client request response = .error e → Evidences other answer)
    (hread : readBody tooLarge client request response = .ok response.body →
      (KeepsPayload response.body answer ↔ response.body = [] ∨ other = response.body ∨ parsed)) :
    BodyFate response.body answer False
      (response.body = [] ∨ other = response.body ∨ (response.IsSuccess ∧ parsed)) := by
  by_cases hsuccess : response.IsSuccess
  · constructor
    · intro hover
      have hevidences := hswallowed tooLarge htooLarge (readBody_over hsuccess hover)
      exact iff_of_false hevidences.not_raisesNetwork id
    · intro hwithin
      rw [hread (readBody_within hcomplete hsuccess hwithin)]
      simp only [hsuccess, true_and]
  · have hevidences := hswallowed _ (Exc.isHttp_httpStatusError _) (readBody_refused hsuccess)
    constructor
    · exact fun _ => iff_of_false hevidences.not_raisesNetwork id
    · intro _
      rw [hevidences.keepsPayload_iff]
      simp only [hsuccess, false_and, or_false]

end Sleuthgraph
