import Sleuthgraph.Auth.IdToken
import Sleuthgraph.Auth.LoginSystemTheorems

/-!
# Validations share their caches

The caches only grow, and only under the lock. So each issuer has one discovery document and one
JWKS client in a process, however validations interleave, and a token is verified with what that
document says. `OidcCaches.Consistent` is what holds of the caches at all times, `Settled` while
nobody is at work on them.
-/

namespace Sleuthgraph

open Threads

/-! ## The protocol -/

/-- The documents that requests for an issuer came to. -/
def documentsOf (issuer : String) (requests : List (String × Except Exc PyVal)) : List PyVal :=
  requests.filterMap fun r => if r.1 = issuer then r.2.toOption else none

namespace OidcCaches

/-- What is cached was fetched, and fetched once; a client is made once, from what is cached. -/
structure Consistent (s : OidcCaches) : Prop where
  fetched : ∀ issuer doc, s.discovery issuer = some doc → documentsOf issuer s.requests = [doc]
  once : ∀ issuer, (documentsOf issuer s.requests).length ≤ 1
  uri : ∀ issuer client, s.jwksClients issuer = some client →
    ∃ doc, s.discovery issuer = some doc ∧ jwksUri doc = .ok client.uri
  made : ∀ n, n < s.made ↔ ∃ issuer client, s.jwksClients issuer = some client ∧ client.serial = n
  serial : ∀ issuer issuer' client client', s.jwksClients issuer = some client →
    s.jwksClients issuer' = some client' → client.serial = client'.serial → issuer = issuer'

/-- What was fetched is cached. -/
def Settled (s : OidcCaches) : Prop :=
  ∀ issuer, s.discovery issuer = none → documentsOf issuer s.requests = []

/-- The caches and the requests grow. -/
structure CachesGrow (s s' : OidcCaches) : Prop where
  discovery : ∀ issuer doc, s.discovery issuer = some doc → s'.discovery issuer = some doc
  clients : ∀ issuer client, s.jwksClients issuer = some client →
    s'.jwksClients issuer = some client
  requests : ∀ r ∈ s.requests, r ∈ s'.requests

lemma CachesGrow.refl (s : OidcCaches) : CachesGrow s s :=
  ⟨fun _ _ h => h, fun _ _ h => h, fun _ h => h⟩

lemma CachesGrow.trans {s₁ s₂ s₃ : OidcCaches} (h : CachesGrow s₁ s₂) (h' : CachesGrow s₂ s₃) :
    CachesGrow s₁ s₃ where
  discovery := fun issuer doc hdoc => h'.discovery issuer doc (h.discovery issuer doc hdoc)
  clients := fun issuer client hclient => h'.clients issuer client (h.clients issuer client hclient)
  requests := fun r hr => h'.requests r (h.requests r hr)

lemma consistent_empty : OidcCaches.empty.Consistent where
  fetched := by simp [OidcCaches.empty]
  once := by simp [OidcCaches.empty, documentsOf]
  uri := by simp [OidcCaches.empty]
  made := by simp [OidcCaches.empty]
  serial := by simp [OidcCaches.empty]

lemma settled_empty : OidcCaches.empty.Settled := fun _ _ => rfl

end OidcCaches

open OidcCaches

/-- Without the lock the caches are only read. -/
def oidcProtocol : Protocol OidcCaches where
  inv := Consistent
  res := Settled
  free := Eq
  locked := CachesGrow
  free_refl _ := rfl
  locked_refl := CachesGrow.refl
  free_trans _ _ _ := Eq.trans
  locked_trans _ _ _ := CachesGrow.trans
  locked_of_free := by
    intro s s' h
    rw [h]
    exact CachesGrow.refl s'
  res_free := by
    intro s s' h hres
    rw [← h]
    exact hres

variable {s s' : OidcCaches} {held : Bool} {issuer : String} {doc : PyVal}

lemma grows_of_others (h : oidcProtocol.others held s s') : CachesGrow s s' := by
  cases held with
  | false => exact h
  | true => exact oidcProtocol.locked_of_free s s' h

/-! ## Steps -/

section Steps

variable {α : Type} {Q : Bool → Except Exc α → OidcCaches → Prop}

/-- A thread that has ended goes on seeing what stays. -/
lemma safe_done {r : Except Exc α} (h : ∀ s', CachesGrow s s' → Q held r s') :
    (Thread.done r : IdTokenCode α).Safe oidcProtocol Q held s :=
  fun s' hs _ => h s' (grows_of_others hs)

lemma safe_done_held {r : Except Exc α} (h : Q true r s) :
    (Thread.done r : IdTokenCode α).Safe oidcProtocol Q true s := by
  intro s' hs _
  have heq : s = s' := hs
  rw [← heq]
  exact h

/-- A read, and what is done with it. -/
lemma safe_read_bind {β : Type} {f : OidcCaches → β} {g : β → IdTokenCode α}
    (h : ∀ s', oidcProtocol.others held s s' → s'.Consistent →
      (g (f s')).Safe oidcProtocol Q held s') :
    (IdTokenCode.read f >>= g).Safe oidcProtocol Q held s :=
  Thread.Safe.atomic_bind fun s' hs hinv _ => ⟨hinv, Protocol.mine_refl _ _, h s' hs hinv⟩

/-- What the world is asked, and what is done with the answer. -/
lemma safe_ask_andThen {β : Type} {f : IdpInput → Except Exc β} {g : Except Exc β → IdTokenCode α}
    (h : ∀ s', oidcProtocol.others held s s' → s'.Consistent → ∀ i,
      (g (f i)).Safe oidcProtocol Q held s') :
    ((IdTokenCode.ask f).andThen g).Safe oidcProtocol Q held s :=
  Thread.Safe.atomic_andThen fun s' hs hinv i => ⟨hinv, Protocol.mine_refl _ _, h s' hs hinv i⟩

end Steps

/-! ### Discovery -/

/-- A cached document is not asked for again. -/
lemma fetchDiscovery_cached (hdoc : s.discovery issuer = some doc) :
    (fetchDiscovery issuer).Safe oidcProtocol
      (fun held' r s' => held' = held ∧ r = .ok doc ∧ oidcProtocol.others held s s') held s := by
  refine safe_read_bind fun s₁ hs₁ _ => ?_
  have hdoc₁ := (grows_of_others hs₁).discovery issuer doc hdoc
  rw [hdoc₁]
  refine safe_read_bind fun s₂ hs₂ _ => ?_
  have hdoc₂ := (grows_of_others hs₂).discovery issuer doc hdoc₁
  rw [hdoc₂]
  intro s₃ hs₃ _
  exact ⟨rfl, rfl, Protocol.others_trans (Protocol.others_trans hs₁ hs₂) hs₃⟩

lemma documentsOf_append (issuer issuer' : String) (requests : List (String × Except Exc PyVal))
    (answer : Except Exc PyVal) :
    documentsOf issuer (requests ++ [(issuer', answer)])
      = documentsOf issuer requests ++ if issuer' = issuer then answer.toOption.toList else [] := by
  rw [documentsOf, List.filterMap_append]
  congr 1
  by_cases h : issuer' = issuer
  · cases answer <;> simp [h, Except.toOption]
  · simp [h]

/-- The caches after a request. -/
def OidcCaches.requested (s : OidcCaches) (issuer : String) (answer : Except Exc PyVal) :
    OidcCaches :=
  { s with requests := s.requests ++ [(issuer, answer)] }

lemma OidcCaches.Consistent.requested (h : s.Consistent) (hres : s.Settled)
    (hnone : s.discovery issuer = none) (answer : Except Exc PyVal) :
    (s.requested issuer answer).Consistent where
  fetched issuer' doc hdoc := by
    have hne : ¬ issuer = issuer' := by
      intro heq
      rw [heq] at hnone
      cases hnone.symm.trans hdoc
    rw [OidcCaches.requested, documentsOf_append, if_neg hne, List.append_nil]
    exact h.fetched issuer' doc hdoc
  once issuer' := by
    rw [OidcCaches.requested, documentsOf_append]
    by_cases heq : issuer = issuer'
    · rw [← heq, hres issuer hnone, if_pos rfl]
      cases answer <;> simp [Except.toOption]
    · rw [if_neg heq, List.append_nil]
      exact h.once issuer'
  uri := h.uri
  made := h.made
  serial := h.serial

lemma OidcCaches.grows_requested (s : OidcCaches) (issuer : String) (answer : Except Exc PyVal) :
    CachesGrow s (s.requested issuer answer) :=
  ⟨fun _ _ h => h, fun _ _ h => h, fun _ h => List.mem_append_left _ h⟩

/-- The caches after a document is cached. -/
def OidcCaches.cached (s : OidcCaches) (issuer : String) (doc : PyVal) : OidcCaches :=
  { s with discovery := Function.update s.discovery issuer (some doc) }

lemma OidcCaches.discovery_cached (s : OidcCaches) (issuer : String) (doc : PyVal) :
    (s.cached issuer doc).discovery issuer = some doc := Function.update_self _ _ _

lemma OidcCaches.discovery_cached_ne (s : OidcCaches) {issuer' : String} (h : issuer' ≠ issuer)
    (doc : PyVal) : (s.cached issuer doc).discovery issuer' = s.discovery issuer' :=
  Function.update_of_ne h _ _

lemma OidcCaches.grows_cached (hnone : s.discovery issuer = none) (doc : PyVal) :
    CachesGrow s (s.cached issuer doc) where
  discovery := by
    intro issuer' doc' hdoc
    have hne : issuer' ≠ issuer := by
      intro heq
      rw [heq, hnone] at hdoc
      cases hdoc
    rw [discovery_cached_ne s hne]
    exact hdoc
  clients _ _ h := h
  requests _ h := h

lemma OidcCaches.Consistent.cached (h : s.Consistent) (hnone : s.discovery issuer = none)
    (hdocs : documentsOf issuer s.requests = [doc]) : (s.cached issuer doc).Consistent where
  fetched issuer' doc' hdoc := by
    by_cases heq : issuer' = issuer
    · rw [heq, discovery_cached] at hdoc
      rw [heq, ← Option.some.inj hdoc]
      exact hdocs
    · rw [discovery_cached_ne s heq] at hdoc
      exact h.fetched issuer' doc' hdoc
  once := h.once
  uri issuer' client hclient := by
    obtain ⟨doc', hdoc, huri⟩ := h.uri issuer' client hclient
    exact ⟨doc', (grows_cached hnone doc).discovery issuer' doc' hdoc, huri⟩
  made := h.made
  serial := h.serial

/-- What a fetch under the lock came to. -/
def Fetched (issuer : String) (s : OidcCaches) : Except Exc PyVal → Prop
  | .ok doc => s.discovery issuer = some doc
  | .error e => (issuer, .error e) ∈ s.requests

/-- Under the lock a document is fetched if it is not there, and cached if it is fetched. -/
lemma fetchDiscovery_locked (hinv : s.Consistent) (hres : s.Settled) :
    (fetchDiscovery issuer).Safe oidcProtocol
      (fun held r s' => held = true ∧ s'.Consistent ∧ s'.Settled ∧
        s'.jwksClients = s.jwksClients ∧ Fetched issuer s' r) true s := by
  cases hdoc : s.discovery issuer with
  | some doc =>
    refine (fetchDiscovery_cached hdoc).mono fun held r s' _ hcached => ?_
    obtain ⟨hheld, hr, hs⟩ := hcached
    have heq : s = s' := hs
    rw [hr, ← heq]
    exact ⟨hheld, hinv, hres, rfl, hdoc⟩
  | none =>
    refine safe_read_bind fun s₁ hs₁ _ => ?_
    have heq₁ : s = s₁ := hs₁
    subst heq₁
    rw [hdoc]
    refine Thread.Safe.atomic_bind fun s₁ hs₁ _ i => ?_
    have heq₁ : s = s₁ := hs₁
    subst heq₁
    have hinv₁ := hinv.requested hres hdoc i.document
    refine ⟨hinv₁, grows_requested s issuer i.document, ?_⟩
    show (Thread.onOk _ i.document).Safe oidcProtocol _ true (s.requested issuer i.document)
    have hdocs := documentsOf_append issuer issuer s.requests i.document
    rw [hres issuer hdoc, if_pos rfl, List.nil_append] at hdocs
    cases hanswer : i.document with
    | error e =>
      rw [hanswer] at hinv₁ hdocs
      refine safe_done_held ⟨rfl, hinv₁, fun issuer' hnone => ?_, rfl, ?_⟩
      · by_cases heq : issuer = issuer'
        · rw [← heq]
          exact hdocs
        · rw [OidcCaches.requested, documentsOf_append, if_neg heq, List.append_nil]
          exact hres issuer' hnone
      · exact List.mem_append_right _ (List.mem_singleton.mpr rfl)
    | ok doc =>
      rw [hanswer] at hinv₁ hdocs
      refine Thread.Safe.atomic fun s₂ hs₂ _ _ => ?_
      have heq₂ : s.requested issuer (.ok doc) = s₂ := hs₂
      subst heq₂
      have hnone₁ : (s.requested issuer (.ok doc)).discovery issuer = none := hdoc
      have hinv₂ := hinv₁.cached hnone₁ hdocs
      have hgrows := grows_cached hnone₁ doc
      refine ⟨hinv₂, hgrows, fun s₃ hs₃ _ => ?_⟩
      have heq₃ : (s.requested issuer (.ok doc)).cached issuer doc = s₃ := hs₃
      subst heq₃
      refine ⟨rfl, hinv₂, fun issuer' hnone => ?_, rfl, discovery_cached _ issuer doc⟩
      have hne : issuer' ≠ issuer := by
        intro heq
        rw [heq, discovery_cached] at hnone
        cases hnone
      rw [discovery_cached_ne _ hne] at hnone
      rw [OidcCaches.cached, OidcCaches.requested, documentsOf_append, if_neg (Ne.symm hne),
        List.append_nil]
      exact hres issuer' hnone

/-! ### Clients -/

/-- The caches after a client is made. -/
def OidcCaches.withClient (s : OidcCaches) (issuer : String) (uri : PyVal) : OidcCaches :=
  { s with
    jwksClients := Function.update s.jwksClients issuer (some ⟨s.made, uri⟩)
    made := s.made + 1 }

lemma OidcCaches.withClient_cases {uri : PyVal} {issuer' : String} {client : JwksClient}
    (h : (s.withClient issuer uri).jwksClients issuer' = some client) :
    (issuer' = issuer ∧ client = ⟨s.made, uri⟩) ∨
      (issuer' ≠ issuer ∧ s.jwksClients issuer' = some client) := by
  by_cases heq : issuer' = issuer
  · have hself : (s.withClient issuer uri).jwksClients issuer = some ⟨s.made, uri⟩ :=
      Function.update_self _ _ _
    rw [heq, hself] at h
    exact Or.inl ⟨heq, (Option.some.inj h).symm⟩
  · have hother : (s.withClient issuer uri).jwksClients issuer' = s.jwksClients issuer' :=
      Function.update_of_ne heq _ _
    rw [hother] at h
    exact Or.inr ⟨heq, h⟩

lemma OidcCaches.withClient_self (s : OidcCaches) (issuer : String) (uri : PyVal) :
    (s.withClient issuer uri).jwksClients issuer = some ⟨s.made, uri⟩ :=
  Function.update_self _ _ _

lemma OidcCaches.grows_withClient (hnone : s.jwksClients issuer = none) (uri : PyVal) :
    CachesGrow s (s.withClient issuer uri) where
  discovery _ _ h := h
  clients := by
    intro issuer' client hclient
    have hne : issuer' ≠ issuer := by
      intro heq
      rw [heq, hnone] at hclient
      cases hclient
    have hother : (s.withClient issuer uri).jwksClients issuer' = s.jwksClients issuer' :=
      Function.update_of_ne hne _ _
    rw [hother]
    exact hclient
  requests _ h := h

lemma OidcCaches.Consistent.serial_lt (h : s.Consistent) {client : JwksClient}
    (hclient : s.jwksClients issuer = some client) : client.serial < s.made :=
  (h.made _).mpr ⟨issuer, client, hclient, rfl⟩

lemma OidcCaches.Consistent.withClient (h : s.Consistent) {uri : PyVal}
    (hnone : s.jwksClients issuer = none) (hdoc : s.discovery issuer = some doc)
    (huri : jwksUri doc = .ok uri) : (s.withClient issuer uri).Consistent where
  fetched := h.fetched
  once := h.once
  uri := by
    intro issuer' client hclient
    rcases withClient_cases hclient with ⟨heq, hnew⟩ | ⟨-, hold⟩
    · refine ⟨doc, ?_, ?_⟩
      · rw [heq]
        exact hdoc
      · rw [hnew]
        exact huri
    · exact h.uri issuer' client hold
  made := by
    intro n
    show n < s.made + 1 ↔ _
    constructor
    · intro hn
      by_cases hlast : n = s.made
      · exact ⟨issuer, ⟨s.made, uri⟩, withClient_self s issuer uri, hlast.symm⟩
      · obtain ⟨issuer', client, hclient, hserial⟩ := (h.made n).mp (by omega)
        exact ⟨issuer', client, (grows_withClient hnone uri).clients _ _ hclient, hserial⟩
    · rintro ⟨issuer', client, hclient, hserial⟩
      rcases withClient_cases hclient with ⟨-, hnew⟩ | ⟨-, hold⟩
      · have hmade : client.serial = s.made := by rw [hnew]
        omega
      · have hlt := h.serial_lt hold
        omega
  serial := by
    intro issuer₁ issuer₂ client₁ client₂ h₁ h₂ hserial
    rcases withClient_cases h₁ with ⟨heq₁, hnew₁⟩ | ⟨-, hold₁⟩ <;>
      rcases withClient_cases h₂ with ⟨heq₂, hnew₂⟩ | ⟨-, hold₂⟩
    · rw [heq₁, heq₂]
    · have hlt := h.serial_lt hold₂
      have hmade : client₁.serial = s.made := by rw [hnew₁]
      omega
    · have hlt := h.serial_lt hold₁
      have hmade : client₂.serial = s.made := by rw [hnew₂]
      omega
    · exact h.serial issuer₁ issuer₂ client₁ client₂ hold₁ hold₂ hserial

/-- What a look for a client came to: there is one now, no document came, or one without a
`jwks_uri`. -/
def Provided (issuer : String) (s : OidcCaches) : Except Exc JwksClient → Prop
  | .ok client => s.jwksClients issuer = some client
  | .error e => (issuer, .error e) ∈ s.requests ∨
      ∃ doc, s.discovery issuer = some doc ∧ jwksUri doc = .error e

lemma Provided.grows {r : Except Exc JwksClient} (h : Provided issuer s r) (hs : CachesGrow s s') :
    Provided issuer s' r := by
  cases r with
  | ok client => exact hs.clients issuer client h
  | error e =>
    rcases h with hrequest | ⟨doc, hdoc, huri⟩
    · exact Or.inl (hs.requests _ hrequest)
    · exact Or.inr ⟨doc, hs.discovery issuer doc hdoc, huri⟩

lemma jwksClientFor_safe (s : OidcCaches) (issuer : String) :
    (jwksClientFor issuer).Safe oidcProtocol
      (fun held r s' => held = false ∧ Provided issuer s' r) false s := by
  -- the body of the `with` ends with the lock, and what it has found stays
  have hend : ∀ {r : Except Exc JwksClient} {s : OidcCaches}, s.Settled → Provided issuer s r →
      (Thread.done r : IdTokenCode JwksClient).Safe oidcProtocol (fun held r s => held = true ∧
        s.Settled ∧ ∀ s', oidcProtocol.others false s s' → oidcProtocol.inv s' →
          false = false ∧ Provided issuer s' r) true s := by
    intro r s hres hr
    exact safe_done_held ⟨rfl, hres, fun s' hs _ => ⟨rfl, hr.grows hs⟩⟩
  refine Thread.Safe.locked fun s₁ _ hinv₁ hres₁ => ?_
  refine safe_read_bind fun s₂ hs₂ _ => ?_
  have heq₂ : s₁ = s₂ := hs₂
  subst heq₂
  cases hclient : s₁.jwksClients issuer with
  | some client => exact hend hres₁ hclient
  | none =>
    refine Thread.Safe.bind hinv₁ ((fetchDiscovery_locked hinv₁ hres₁).mono ?_)
    intro held r s₂ _ hfetched
    obtain ⟨rfl, hinv₂, hres₂, hclients, hr⟩ := hfetched
    cases r with
    | error e => exact hend hres₂ (Or.inl hr)
    | ok doc =>
      have hdoc : s₂.discovery issuer = some doc := hr
      show (Thread.onOk _ (jwksUri doc)).Safe oidcProtocol _ true s₂
      cases huri : jwksUri doc with
      | error e => exact hend hres₂ (Or.inr ⟨doc, hdoc, huri⟩)
      | ok uri =>
        have hnone : s₂.jwksClients issuer = none := by
          rw [hclients]
          exact hclient
        refine Thread.Safe.atomic fun s₃ hs₃ _ _ => ?_
        have heq₃ : s₂ = s₃ := hs₃
        subst heq₃
        refine ⟨hinv₂.withClient hnone hdoc huri, grows_withClient hnone uri, fun s₄ hs₄ _ => ?_⟩
        have heq₄ : s₂.withClient issuer uri = s₄ := hs₄
        subst heq₄
        have hprovided : Provided issuer (s₂.withClient issuer uri) (.ok ⟨s₂.made, uri⟩) :=
          withClient_self s₂ issuer uri
        exact ⟨rfl, hres₂, fun s' hs _ => ⟨rfl, hprovided.grows hs⟩⟩

/-! ### Algorithms -/

lemma notNone_spec {lower : String → String} {items : List PyVal} {algs : List String}
    (h : notNone lower items = .ok algs) : ∀ a ∈ algs, lower a ≠ "none" := by
  induction items generalizing algs with
  | nil =>
    cases h
    simp
  | cons a items ih =>
    unfold notNone at h
    split at h
    · exact ih h
    · split at h
      · rename_i t
        obtain ⟨rest, hrest, hcons⟩ := bind_eq_ok.mp h
        cases hcons
        split
        · rename_i hlower
          intro a ha
          rcases List.mem_cons.mp ha with rfl | ha
          · exact hlower
          · exact ih hrest a ha
        · exact ih hrest
      · cases h

/-- `none` is never allowed. -/
lemma advertisedAlgs_spec {Key : Type} (lib : IdTokenLib Key) {algs : List String}
    (h : advertisedAlgs lib.lower doc = .ok algs) : ∀ a ∈ algs, lib.lower a ≠ "none" := by
  obtain ⟨found, -, hfound⟩ := bind_eq_ok.mp h
  obtain ⟨items, -, hitems⟩ := bind_eq_ok.mp hfound
  obtain ⟨kept, hkept, halgs⟩ := bind_eq_ok.mp hitems
  cases halgs
  split
  · intro a ha
    rw [List.mem_singleton.mp ha, lib.lower_rs256]
    decide
  · exact notNone_spec hkept

variable {Key : Type} {lib : IdTokenLib Key}

/-- Once the document is cached, the algorithms are those of the document. -/
lemma allowedAlgs_safe (hinv : s.Consistent) (hdoc : s.discovery issuer = some doc) :
    (allowedAlgs lib issuer).Safe oidcProtocol
      (fun held' r s' => held' = held ∧ r = advertisedAlgs lib.lower doc ∧ CachesGrow s s')
      held s := by
  have hfetch : (some <$> fetchDiscovery issuer : IdTokenCode (Option PyVal)).Safe oidcProtocol
      (fun held' r s' => held' = held ∧ r = .ok (some doc) ∧ CachesGrow s s') held s := by
    refine Thread.Safe.andThen hinv ((fetchDiscovery_cached hdoc).mono fun held' r s' _ h => ?_)
    obtain ⟨hheld, hr, hs⟩ := h
    rw [hr]
    exact safe_done fun s'' hs' => ⟨hheld, rfl, (grows_of_others hs).trans hs'⟩
  have htry : (tryCatch (some <$> fetchDiscovery issuer) fun e =>
      if e.isinstance "Exception" then pure none else throw e :
        IdTokenCode (Option PyVal)).Safe oidcProtocol
      (fun held' r s' => held' = held ∧ r = .ok (some doc) ∧ CachesGrow s s') held s := by
    refine Thread.Safe.andThen hinv (hfetch.mono fun held' r s' _ h => ?_)
    obtain ⟨hheld, hr, hs⟩ := h
    rw [hr]
    exact safe_done fun s'' hs' => ⟨hheld, rfl, hs.trans hs'⟩
  refine Thread.Safe.bind hinv (htry.mono fun held' r s' _ h => ?_)
  obtain ⟨hheld, hr, hs⟩ := h
  rw [hr]
  exact safe_done fun s'' hs' => ⟨hheld, rfl, hs.trans hs'⟩

/-! ## Validations -/

/-- What a token was verified with: the key and the algorithms of the one document of its issuer. -/
structure Validation.Verified (lib : IdTokenLib Key) (v : Validation) (s : OidcCaches)
    (payload : PyDict) (doc : PyVal) (client : JwksClient) (key : Key) (algorithms : List String) :
    Prop where
  fetched : documentsOf v.issuer s.requests = [doc]
  shared : s.jwksClients v.issuer = some client
  uri : jwksUri doc = .ok client.uri
  signing : ∃ now, lib.signingKey now client v.idToken = .ok key
  advertised : advertisedAlgs lib.lower doc = .ok algorithms
  not_none : ∀ a ∈ algorithms, lib.lower a ≠ "none"
  decoded : ∃ now, lib.decode now ⟨v.idToken, key, algorithms, v.clientId, v.issuer,
    v.leewaySeconds⟩ = .ok payload
  nonce : PyDict.get payload "nonce" = .str v.nonce
  nonce_nonempty : v.nonce ≠ ""

/-- Why a validation raised. -/
inductive Validation.Refused (lib : IdTokenLib Key) (v : Validation) (s : OidcCaches) : Exc → Prop
  | request (e : Exc) (h : (v.issuer, .error e) ∈ s.requests) : Refused lib v s e
  | document (e : Exc) (doc : PyVal) (hdoc : s.discovery v.issuer = some doc)
      (h : jwksUri doc = .error e ∨ advertisedAlgs lib.lower doc = .error e) : Refused lib v s e
  | signing (e : Exc) (h : ∃ now client e', lib.signingKey now client v.idToken = .error e' ∧
      e = if e'.isinstance "Exception" then Exc.idTokenError "bad_signature" else e') :
      Refused lib v s e
  | token (e : Exc) (h : ∃ now key algorithms e', lib.decode now ⟨v.idToken, key, algorithms,
      v.clientId, v.issuer, v.leewaySeconds⟩ = .error e' ∧ e = decodeError e') : Refused lib v s e
  | nonce (e : Exc) (h : ∃ now key algorithms payload, lib.decode now ⟨v.idToken, key, algorithms,
      v.clientId, v.issuer, v.leewaySeconds⟩ = .ok payload ∧
      checkNonce payload v.nonce = .error e) : Refused lib v s e

/-- What came of a validation is explained by the caches. -/
def Validation.Explains (lib : IdTokenLib Key) (v : Validation) (s : OidcCaches) :
    Except Exc PyDict → Prop
  | .ok payload => ∃ doc client key algorithms, v.Verified lib s payload doc client key algorithms
  | .error e => v.Refused lib s e

lemma checkNonce_eq_ok {payload claims : PyDict} {nonce : String}
    (h : checkNonce payload nonce = .ok claims) : claims = payload ∧ nonce ≠ "" := by
  have hnonce := checkNonce_ok h
  unfold checkNonce at h
  simp only [hnonce] at h
  split at h
  · cases h
  · rename_i htruthy
    split at h
    · cases h
    · refine ⟨(Except.ok.inj h).symm, ?_⟩
      intro hempty
      rw [hempty] at htruthy
      exact htruthy rfl

variable (lib) in
/-- Every validation keeps to the protocol, and its result is explained. -/
lemma Validation.safe (v : Validation) (s : OidcCaches) (hinv : s.Consistent) :
    (v.validateIdToken lib).Safe oidcProtocol
      (fun held r s' => held = false ∧ v.Explains lib s' r) false s := by
  refine Thread.Safe.bind hinv ((jwksClientFor_safe s v.issuer).mono ?_)
  intro held r s₁ hinv₁ hr
  obtain ⟨rfl, hprovided⟩ := hr
  cases r with
  | error e =>
    refine safe_done fun s' hs => ⟨rfl, ?_⟩
    rcases hprovided.grows hs with hrequest | ⟨doc, hdoc, huri⟩
    · exact .request e hrequest
    · exact .document e doc hdoc (Or.inl huri)
  | ok client =>
    obtain ⟨doc, hdoc₁, huri⟩ := hinv₁.uri v.issuer client hprovided
    -- the key of the token
    refine Thread.Safe.bind hinv₁ (safe_ask_andThen fun s₂ hs₂ hinv₂ i => ?_)
    have hclient₂ : s₂.jwksClients v.issuer = some client :=
      (grows_of_others hs₂).clients _ _ hprovided
    have hdoc₂ := (grows_of_others hs₂).discovery _ _ hdoc₁
    cases hkey : lib.signingKey i.now client v.idToken with
    | error e =>
      refine safe_done fun s' hs => safe_done fun s'' hs' => ⟨rfl, ?_⟩
      exact .signing _ ⟨i.now, client, e, hkey, rfl⟩
    | ok key =>
      refine fun s₃ hs₃ hinv₃ => ?_
      have hclient₃ := (grows_of_others hs₃).clients _ _ hclient₂
      have hdoc₃ := (grows_of_others hs₃).discovery _ _ hdoc₂
      -- the algorithms of the document
      refine Thread.Safe.bind hinv₃ ((allowedAlgs_safe hinv₃ hdoc₃).mono ?_)
      intro held r s₄ hinv₄ hr
      obtain ⟨rfl, rfl, hs₄⟩ := hr
      have hclient₄ := hs₄.clients _ _ hclient₃
      have hdoc₄ := hs₄.discovery _ _ hdoc₃
      cases halgs : advertisedAlgs lib.lower doc with
      | error e =>
        exact safe_done fun s' hs => ⟨rfl, .document e doc (hs.discovery _ _ hdoc₄) (Or.inr halgs)⟩
      | ok algorithms =>
        -- the claims
        refine Thread.Safe.bind hinv₄ (safe_ask_andThen fun s₅ hs₅ hinv₅ j => ?_)
        have hclient₅ := (grows_of_others hs₅).clients _ _ hclient₄
        have hdoc₅ := (grows_of_others hs₅).discovery _ _ hdoc₄
        cases hdecode : lib.decode j.now ⟨v.idToken, key, algorithms, v.clientId, v.issuer,
            v.leewaySeconds⟩ with
        | error e =>
          refine safe_done fun s' hs => safe_done fun s'' hs' => ⟨rfl, ?_⟩
          exact .token _ ⟨j.now, key, algorithms, e, hdecode, rfl⟩
        | ok payload =>
          refine fun s₆ hs₆ hinv₆ => ?_
          have hclient₆ := (grows_of_others hs₆).clients _ _ hclient₅
          have hdoc₆ := (grows_of_others hs₆).discovery _ _ hdoc₅
          intro s₇ hs₇ hinv₇
          have hgrows : CachesGrow s₆ s₇ := hs₇
          refine ⟨rfl, ?_⟩
          cases hnonce : checkNonce payload v.nonce with
          | error e => exact .nonce e ⟨j.now, key, algorithms, payload, hdecode, hnonce⟩
          | ok claims =>
            obtain ⟨rfl, hnonempty⟩ := checkNonce_eq_ok hnonce
            exact ⟨doc, client, key, algorithms,
              { fetched := hinv₇.fetched _ _ (hgrows.discovery _ _ hdoc₆)
                shared := hgrows.clients _ _ hclient₆
                uri := huri
                signing := ⟨i.now, hkey⟩
                advertised := halgs
                not_none := advertisedAlgs_spec lib halgs
                decoded := ⟨j.now, hdecode⟩
                nonce := checkNonce_ok hnonce
                nonce_nonempty := hnonempty }⟩

/-! ## Any interleaving -/

/-- The configurations of a process that runs the validations `vs`, each in a thread of its own. -/
abbrev ValidationsReach (lib : IdTokenLib Key) (vs : ℕ → Validation)
    (c : Config OidcCaches IdpInput Exc PyDict) : Prop :=
  Config.Reaches (Config.start OidcCaches.empty fun k => (vs k).validateIdToken lib) c

section Runs

variable {vs : ℕ → Validation} {c : Config OidcCaches IdpInput Exc PyDict}

lemma validations_good (h : ValidationsReach lib vs c) :
    c.Good oidcProtocol fun k r s => (vs k).Explains lib s r :=
  Config.Good.of_reaches consistent_empty settled_empty
    (fun k => (vs k).safe lib OidcCaches.empty consistent_empty) h

/-- **One document, one client.** However validations interleave, at most one request for the
document of an issuer succeeds, and it is what is cached; each `PyJWKClient` that was ever made is
the one of its issuer, with the `jwks_uri` of that document. -/
theorem oidc_caches_consistent (h : ValidationsReach lib vs c) :
    c.data.Consistent ∧ (c.holder = none → c.data.Settled) :=
  ⟨(validations_good h).inv, (validations_good h).res⟩

/-- **Accepted means verified.** A validation that is done has an explanation: a token is accepted
only if `jwt.decode` has accepted it with a key of the issuer's one client, with the algorithms
that the issuer's one document advertises, and with the nonce of the login. -/
theorem validations_explained (h : ValidationsReach lib vs c) {k : ℕ} {r : Except Exc PyDict}
    (hk : c.threads k = .done r) : (vs k).Explains lib c.data r :=
  (validations_good h).result hk

/-- **Nobody waits forever.** While a validation is not done, some validation can go on: the lock is
released on every path. -/
theorem validations_progress (h : ValidationsReach lib vs c) {k : ℕ}
    (hk : (c.threads k).isDone = false) : ∃ a, (c.step a).isSome = true := by
  have hinput : Nonempty IdpInput := ⟨⟨.ok .none, 0⟩⟩
  exact (validations_good h).progress hk

/-- The claims that the callback goes on with are those of the validation. -/
lemma callbackClaims_validated {w : Exchange} {payload : StatePayload} {token claims : PyDict}
    (h : callbackClaims w = .ok (payload, token, claims)) :
    w.validateIdToken (PyDict.get token "id_token") payload = .ok claims := by
  unfold callbackClaims at h
  split at h
  · cases h
  · obtain ⟨payload', -, h⟩ := bind_eq_ok.mp h
    obtain ⟨token', -, h⟩ := bind_eq_ok.mp h
    obtain ⟨-, h⟩ := guard_eq_ok.mp h
    obtain ⟨claims', hclaims, h⟩ := bind_eq_ok.mp h
    have heq := Except.ok.inj h
    have hpayload : payload' = payload := congrArg Prod.fst heq
    have htoken : token' = token := congrArg (fun p => p.2.1) heq
    have hclaims' : claims' = claims := congrArg (fun p => p.2.2) heq
    rw [catching_ok, hpayload, htoken, hclaims'] at hclaims
    exact hclaims

/-- **The callback goes on with verified claims.** What `oidc_callback` reads an identity off has
been verified, with the nonce of the state that the callback came with. -/
theorem callback_claims_verified (h : ValidationsReach lib vs c) {w : Exchange} {k : ℕ}
    {payload : StatePayload} {token claims : PyDict} {issuer clientId : String}
    (hclaims : callbackClaims w = .ok (payload, token, claims))
    (hvalidation : vs k = ⟨PyDict.get token "id_token", issuer, clientId, payload.oidcNonce, 60⟩)
    (hk : c.threads k = .done (w.validateIdToken (PyDict.get token "id_token") payload)) :
    ∃ doc client key algorithms,
      (vs k).Verified lib c.data claims doc client key algorithms ∧
        PyDict.get claims "nonce" = .str payload.oidcNonce := by
  rw [callbackClaims_validated hclaims] at hk
  obtain ⟨doc, client, key, algorithms, hverified⟩ := (validations_good h).result hk
  refine ⟨doc, client, key, algorithms, hverified, ?_⟩
  rw [hverified.nonce, hvalidation]

end Runs

/-! ### Two logins at once -/

/-- A library that takes every token for one with the nonce `"n"`. -/
def lenientLib : IdTokenLib Unit where
  lower s := if s = "RS256" then "rs256" else s
  lower_rs256 := if_pos rfl
  signingKey _ _ _ := .ok ()
  decode _ _ := .ok [("nonce", .str "n")]

/-- Every thread validates a token of the same issuer. -/
def sameIssuer (_ : ℕ) : Validation := ⟨.str "token", "https://id", "app", "n", 60⟩

/-- Thread `k` goes on; a request for a discovery document is answered with one. -/
def goOn (k : ℕ) : ℕ × IdpInput := (k, ⟨.ok (.dict [("jwks_uri", .str "https://id/jwks")]), 0⟩)

/-- Thread 0 fetches the document under the lock, thread 1 finds the client, and both go on by
turns. -/
def turns : List (ℕ × IdpInput) :=
  [0, 0, 0, 0, 0, 0, 0, 1, 0, 1, 1, 1, 0, 0, 1, 0, 1, 1].map goOn

/-- Validations of tokens of the same issuer that have not begun. -/
def beforeTurns : Config OidcCaches IdpInput Exc PyDict :=
  Config.start OidcCaches.empty fun k => (sameIssuer k).validateIdToken lenientLib

def afterTurns : Config OidcCaches IdpInput Exc PyDict :=
  (Systems.runAll Config.step beforeTurns turns).getD beforeTurns

lemma reaches_afterTurns : ValidationsReach lenientLib sameIssuer afterTurns := by
  have hrun : Systems.runAll Config.step beforeTurns turns = some afterTurns := rfl
  exact Systems.Reaches.runAll .start hrun

theorem oidc_caches_consistent_turns :
    afterTurns.data.Consistent ∧ (afterTurns.holder = none → afterTurns.data.Settled) :=
  oidc_caches_consistent reaches_afterTurns

theorem validations_explained_turns :
    (sameIssuer 1).Explains lenientLib afterTurns.data (.ok [("nonce", .str "n")]) :=
  validations_explained reaches_afterTurns rfl

theorem validations_progress_turns : ∃ a, (afterTurns.step a).isSome = true :=
  validations_progress (k := 2) reaches_afterTurns rfl

/-- The callback of thread 0. -/
def turnsExchange : Exchange where
  configured := true
  state := .ok ⟨"verifier", "/", "n"⟩
  accessToken _ := .ok [("id_token", .str "token")]
  validateIdToken _ _ := .ok [("nonce", .str "n")]
  userinfo _ := .error Exc.keyError

lemma turnsExchange_claims : callbackClaims turnsExchange
    = .ok (⟨"verifier", "/", "n"⟩, [("id_token", .str "token")], [("nonce", .str "n")]) := rfl

theorem callback_claims_verified_turns :
    ∃ doc client key algorithms,
      (sameIssuer 0).Verified lenientLib afterTurns.data [("nonce", .str "n")] doc client key
        algorithms ∧ PyDict.get [("nonce", .str "n")] "nonce" = .str "n" :=
  callback_claims_verified (k := 0) reaches_afterTurns turnsExchange_claims rfl rfl

end Sleuthgraph
