import Sleuthgraph.Evidence.LedgerTheorems
import Sleuthgraph.Plugins.Builtin.ReportTheorems
import Sleuthgraph.Plugins.RerunTheorems

/-!
# One fact from several plugins (`plugins/runner.py`, `plugins/builtin/`)

A result that says which address a domain resolves to leaves one RESOLVES_TO between the rows of
the two, in the direction of its plugin, and what there was in the other direction. So results of
several plugins leave one relationship, in any order, if their plugins have the same direction.
-/

namespace Sleuthgraph

open Programs Transactions Tables

variable (py : Interp)

/-! ## The rows of keys -/

/-- A live entity of the case has the key and the id. -/
def Names (st : Store) (caseId : UUID) (k : String × String) (id : UUID) : Prop :=
  ∃ e ∈ keyRows st caseId k, e.id = id

section Names

variable {st st' : Store} {caseId : UUID} {k k' : String × String} {id id' : UUID}

lemma Names.of_one (hone : (keyRows st caseId k).length = 1) : ∃ id, Names st caseId k id := by
  obtain ⟨row, hrow⟩ := List.length_eq_one_iff.mp hone
  exact ⟨row.id, row, hrow ▸ List.mem_singleton_self row, rfl⟩

/-- The id of a key with one row. -/
lemma Names.id_eq (hone : (keyRows st caseId k).length = 1) (h : Names st caseId k id)
    (h' : Names st caseId k id') : id = id' := by
  obtain ⟨e, he, rfl⟩ := h
  obtain ⟨e', he', rfl⟩ := h'
  obtain ⟨row, hrow⟩ := List.length_eq_one_iff.mp hone
  rw [hrow, List.mem_singleton] at he he'
  rw [he, he']

/-- An id has one key. -/
lemma Names.key_eq (h : Names st caseId k id) (h' : Names st caseId k' id) : k = k' := by
  obtain ⟨e, he, hid⟩ := h
  obtain ⟨e', he', hid'⟩ := h'
  obtain ⟨hin, hkey⟩ := mem_keyRows.mp he
  obtain ⟨hin', hkey'⟩ := mem_keyRows.mp he'
  have heq : e = e' :=
    Table.eq_of_pk_eq (mem_inCase.mp hin).1 (mem_inCase.mp hin').1 (hid.trans hid'.symm)
  rw [← hkey, ← hkey', heq]

lemma keyRows_congr (h : st'.entities = st.entities) (c : UUID) (k : String × String) :
    keyRows st' c k = keyRows st c k := by
  unfold keyRows EntityRepository.withKey
  rw [h]

/-- The loop over the entity proposals keeps the ids of keys. -/
lemma Names.merged {proposals : List EntityProposal} {refs refs' : PluginRunner.Refs}
    {created : List Entity} (h : Names st caseId k id)
    (hmerged : MergedRows caseId proposals refs refs' st st' created) : Names st' caseId k id := by
  obtain ⟨e, he, rfl⟩ := h
  obtain ⟨hin, hkey⟩ := mem_keyRows.mp he
  obtain ⟨row, hrow, hfixed⟩ := List.mem_map.mp
    (mem_inCase_of_rows (hmerged.rows.trans List.map_append) (List.mem_map_of_mem hin))
  have hid : row.fixed.id = e.fixed.id := congrArg Entity.id hfixed
  have hrowKey : row.fixed.key = e.fixed.key := congrArg Entity.key hfixed
  exact ⟨row, mem_keyRows.mpr ⟨hrow, hrowKey.trans hkey⟩, hid⟩

end Names

/-! ## Endpoints -/

lemma resolveRef_inputEnd (input : Entity) (refs : PluginRunner.Refs) :
    PluginRunner.resolveRef inputEnd input refs = .ok input := rfl

lemma resolveRef_refEnd {ref : String} {input e : Entity} {refs : PluginRunner.Refs}
    (h : PluginRunner.resolveRef (refEnd ref) input refs = .ok e) : refs.lookup ref = some e := by
  have htruthy : (PyDict.get (refEnd ref) "input").truthy = false := rfl
  have hcontains : PyDict.contains (refEnd ref) "ref" = true := rfl
  have hkey : PyDict.get (refEnd ref) "ref" = .str ref := rfl
  rw [PluginRunner.resolveRef, htruthy, if_neg Bool.false_ne_true, if_pos hcontains, hkey] at h
  dsimp only at h
  split at h
  · cases h
    assumption
  · cases h

/-- A key that occurs once is looked up wherever it stands. -/
lemma lookup_of_nodup {β : Type} {l : List (String × β)} (h : (l.map Prod.fst).Nodup) {a : String}
    {b : β} (hmem : (a, b) ∈ l) : l.lookup a = some b := by
  obtain ⟨before, after, rfl⟩ := List.append_of_mem hmem
  refine List.lookup_eq_some_iff.mpr ⟨before, after, rfl, fun p hp => ?_⟩
  rw [List.map_append, List.map_cons, List.nodup_middle, List.nodup_cons, List.mem_append] at h
  rw [bne_iff_ne]
  intro heq
  exact h.1 (Or.inl (List.mem_map.mpr ⟨p, hp, heq.symm⟩))

/-- A `ref` that occurs once leads to a row of its proposal's key. -/
lemma MergedRows.ref_names {caseId : UUID} {proposals : List EntityProposal}
    {refs : PluginRunner.Refs} {st st' : Store} {created : List Entity}
    (h : MergedRows caseId proposals [] refs st st' created)
    (hrefs : (proposals.map EntityProposal.ref).Nodup) {ep : EntityProposal} (hep : ep ∈ proposals)
    {e : Entity} (hlookup : refs.lookup ep.ref = some e) : Names st' caseId ep.key e.id := by
  obtain ⟨entries, hentries, hkeys, hrows⟩ := h.refs
  rw [List.append_nil] at hentries
  subst hentries
  have hproposed : (proposals.map fun ep => (ep.ref, ep.key)).reverse.lookup ep.ref
      = some ep.key := by
    refine lookup_of_nodup ?_ (List.mem_reverse.mpr (List.mem_map.mpr ⟨ep, hep, rfl⟩))
    rw [List.map_reverse, List.nodup_reverse, List.map_map]
    exact hrefs
  rw [← hkeys, lookup_map_key, hlookup, Option.map_some, Option.some.injEq] at hproposed
  obtain ⟨row, hrow, hid, hrowKey⟩ := row_of_entries hrows hlookup
  exact ⟨row, mem_keyRows.mpr ⟨hrow, hrowKey.trans hproposed⟩, hid⟩

/-- The endpoints of a RESOLVES_TO between the input and another entity. -/
def endIds (inputFirst : Bool) (inputId id : UUID) : UUID × UUID :=
  if inputFirst then (inputId, id) else (id, inputId)

/-- What the endpoints of a proposal are resolved to. -/
lemma Proposed.endIds_eq {req : RunRequest} {plugin : OSINTPlugin} {refs : PluginRunner.Refs}
    {rp : RelationshipProposal} {src dst : Entity} {data : RelationshipCreate}
    (h : Proposed req plugin refs rp src dst data) {inputFirst : Bool} {ref : String}
    (hends : (rp.src, rp.dst) = endsOf inputFirst ref) :
    ∃ e, refs.lookup ref = some e ∧
      (src.id, dst.id) = endIds inputFirst req.inputEntity.id e.id := by
  have hsrc := h.resolves_src
  have hdst := h.resolves_dst
  cases inputFirst with
  | true =>
    obtain ⟨hfirst, hsecond⟩ := Prod.mk.inj hends
    rw [hfirst, resolveRef_inputEnd] at hsrc
    rw [hsecond] at hdst
    obtain rfl := Except.ok.inj hsrc
    exact ⟨dst, resolveRef_refEnd hdst, rfl⟩
  | false =>
    obtain ⟨hfirst, hsecond⟩ := Prod.mk.inj hends
    rw [hfirst] at hsrc
    rw [hsecond, resolveRef_inputEnd] at hdst
    obtain rfl := Except.ok.inj hdst
    exact ⟨src, resolveRef_refEnd hsrc, rfl⟩

/-- The endpoints the other way round are those of no entity but the input. -/
lemma endIds_swap {inputFirst : Bool} {inputId id id' : UUID}
    (h : endIds inputFirst inputId id' = (endIds inputFirst inputId id).swap) : id = inputId := by
  cases inputFirst with
  | true => exact (Prod.mk.inj h).1.symm
  | false => exact (Prod.mk.inj h).2.symm

/-! ## One result -/

/-- The live RESOLVES_TO of the case from one entity to another. -/
abbrev resolvesRows (st : Store) (caseId src dst : UUID) : List Relationship :=
  RelationshipRepository.withKey st caseId src dst RelationshipType.resolvesTo.value

lemma resolvesRows_congr {st st' : Store} (h : st'.relationships = st.relationships)
    (c src dst : UUID) : resolvesRows st' c src dst = resolvesRows st c src dst := by
  unfold resolvesRows RelationshipRepository.withKey
  rw [h]

lemma RelationshipType.value_inj {t t' : RelationshipType} (h : t.value = t'.value) : t = t' := by
  have hof := congrArg RelationshipType.ofValue h
  rw [RelationshipType.ofValue_value, RelationshipType.ofValue_value] at hof
  exact Option.some.inj hof

/-- The loops of a result that is persisted, with the refs and the stores between them. -/
structure PersistedRows (req : RunRequest) (plugin : OSINTPlugin) (result : QueryResult)
    (st st' : Store) (p : Persisted) (refs : PluginRunner.Refs) (st₁ st₂ : Store) : Prop where
  entities : MergedRows req.caseId result.entities [] refs st st₁ p.entities
  relationships : LinkedRows req plugin refs result.relationships st₁ st₂ p.relationships
  evidence : SameButEvidence st₂ st'

lemma persistPlan_rows {x : RunExt} {req : RunRequest} {plugin : OSINTPlugin}
    {result : QueryResult} {st : Store} {b b' : Bucket} {p : Persisted} {ws : List Write}
    (h : persistPlan py x req plugin result st b = (.done p ws, b')) :
    ∃ refs st₁ st₂, PersistedRows req plugin result st (applyAll st ws) p refs st₁ st₂ := by
  obtain ⟨refs, ws₁, b₁, ws₂, b₂, ws₃, hloop₁, hloop₂, hloop₃, rfl⟩ := persistPlan_loops py h
  refine ⟨refs, _, _, persistEntitiesPlan_rows py hloop₁, persistRelationshipsPlan_rows py hloop₂,
    ?_⟩
  rw [applyAll_append, applyAll_append]
  exact (persistEvidencePlan_added hloop₃).same

/-- What a result that is persisted keeps of the keys, and what it adds to them. -/
structure Retains (caseId : UUID) (entities : List EntityProposal) (st st' : Store) : Prop where
  names : ∀ {k id}, Names st caseId k id → Names st' caseId k id
  one : ∀ ep ∈ entities, (keyRows st' caseId ep.key).length = 1
  one_stays : ∀ {k}, (keyRows st caseId k).length = 1 → (keyRows st' caseId k).length = 1

section PersistedRows

variable {req : RunRequest} {plugin : OSINTPlugin} {result : QueryResult} {st st' : Store}
variable {p : Persisted} {refs : PluginRunner.Refs} {st₁ st₂ : Store}

lemma PersistedRows.entities_eq (h : PersistedRows req plugin result st st' p refs st₁ st₂) :
    st'.entities = st₁.entities :=
  h.evidence.entities.trans h.relationships.same.entities

lemma PersistedRows.retains (h : PersistedRows req plugin result st st' p refs st₁ st₂) :
    Retains req.caseId result.entities st st' := by
  have hkeys : ∀ k, keyRows st' req.caseId k = keyRows st₁ req.caseId k :=
    keyRows_congr h.entities_eq req.caseId
  refine ⟨fun {k id} hnames => ?_, fun ep hep => ?_, fun {k} hone => ?_⟩
  · unfold Names
    rw [hkeys]
    exact hnames.merged h.entities
  · rw [hkeys]
    exact h.entities.one ep hep
  · rw [hkeys]
    exact h.entities.one_stays hone

/-- There is one RESOLVES_TO between the input and the entity that is reported, in the direction
of the result; in the other direction there are those of before. -/
lemma PersistedRows.resolves {type : EntityType} {inputFirst : Bool}
    (h : PersistedRows req plugin result st st' p refs st₁ st₂)
    (hties : Ties type inputFirst result.entities result.relationships)
    {ep : EntityProposal} (hep : ep ∈ result.entities) (htype : ep.type = type) {id : UUID}
    (hid : Names st' req.caseId ep.key id) (hne : id ≠ req.inputEntity.id) :
    (resolvesRows st' req.caseId (endIds inputFirst req.inputEntity.id id).1
        (endIds inputFirst req.inputEntity.id id).2).length = 1 ∧
      resolvesRows st' req.caseId (endIds inputFirst req.inputEntity.id id).2
          (endIds inputFirst req.inputEntity.id id).1
        = resolvesRows st req.caseId (endIds inputFirst req.inputEntity.id id).2
          (endIds inputFirst req.inputEntity.id id).1 := by
  have hrows : ∀ src dst, resolvesRows st' req.caseId src dst
      = resolvesRows st₂ req.caseId src dst :=
    resolvesRows_congr h.evidence.relationships req.caseId
  constructor
  -- the proposal of the entity has its row
  · obtain ⟨rp, hrp, hrel, hends⟩ := hties.resolvesTo hep htype
    obtain ⟨src, dst, data, hproposed, hone⟩ := h.relationships.one rp hrp
    obtain ⟨e, hlookup, hids⟩ := hproposed.endIds_eq hends
    have hnames : Names st' req.caseId ep.key e.id := by
      unfold Names
      rw [keyRows_congr h.entities_eq]
      exact h.entities.ref_names hties.refs hep hlookup
    obtain rfl := hnames.id_eq (h.retains.one ep hep) hid
    obtain ⟨hsrc, hdst, htypeValue⟩ := RelationshipCreate.validate_ok hproposed.validates
    rw [hsrc, hdst, htypeValue, hrel] at hone
    rw [← hids, hrows]
    exact hone
  -- no row that is created goes the other way
  · have hnone : p.relationships.filter (fun r => r.caseId = req.caseId
        && r.srcEntityId = (endIds inputFirst req.inputEntity.id id).2
        && r.dstEntityId = (endIds inputFirst req.inputEntity.id id).1
        && r.relType = RelationshipType.resolvesTo.value && r.live) = [] := by
      refine List.filter_eq_nil_iff.mpr fun rel hrel hmatch => hne ?_
      simp only [Bool.and_eq_true, decide_eq_true_eq] at hmatch
      obtain ⟨⟨⟨⟨-, hsrcId⟩, hdstId⟩, hvalue⟩, -⟩ := hmatch
      obtain ⟨rp, hrp, src, dst, data, hproposed, hsrc, hdst, htypeValue⟩ :=
        h.relationships.created rel hrel
      have htypeOf := RelationshipType.value_inj (htypeValue.symm.trans hvalue)
      obtain ⟨ref, hends⟩ := hties.ends hrp htypeOf
      obtain ⟨e, -, hids⟩ := hproposed.endIds_eq hends
      have hswap : endIds inputFirst req.inputEntity.id e.id
          = (endIds inputFirst req.inputEntity.id id).swap := by
        rw [← hids, ← hsrc, ← hdst, hsrcId, hdstId]
        rfl
      exact endIds_swap hswap
    have hbefore := resolvesRows_congr h.entities.rest.relationships req.caseId
    rw [hrows, ← hbefore, resolvesRows, withKey_append h.relationships.rows, hnone,
      List.append_nil]

end PersistedRows

/-! ## Reports -/

def domainKey (label : String) : String × String := (EntityType.domain.value, label)

def addressKey (label : String) : String × String := (EntityType.ipAddress.value, label)

/-- What a plugin has answered about an input that it accepts. -/
structure Report where
  source : Source
  input : Entity
  credentials : Option PyDict
  result : QueryResult
  accepts : PluginRunner.checkInputType source.plugin input = .ok ()
  answers : source.plugin.query input credentials = .ok result
  lowers : source.upstream.text.Lowers

namespace Report

/-- The report is about the domain and proposes the address, or the other way round. -/
def Says (report : Report) (domain ip : String) (domainId ipId : UUID) : Prop :=
  (report.input.key = domainKey domain ∧ report.input.id = domainId ∧
    ∃ ep ∈ report.result.entities, ep.key = addressKey ip) ∨
  (report.input.key = addressKey ip ∧ report.input.id = ipId ∧
    ∃ ep ∈ report.result.entities, ep.key = domainKey domain)

/-- The type that a key names. -/
lemma type_of_key {ep : EntityProposal} {type : EntityType} {label : String}
    (h : ep.key = (type.value, label)) : ep.type = type := by
  have hof := congrArg EntityType.ofValue (Prod.mk.inj h).1
  rw [EntityType.ofValue_value, EntityType.ofValue_value] at hof
  exact Option.some.inj hof

/-- The type of an input is one that its plugin accepts. -/
lemma accepts_type (report : Report) {type : EntityType} (htype : report.input.type = type.value) :
    report.source.plugin.entityTypesAccepted.contains type = true := by
  have haccepts := report.accepts
  unfold PluginRunner.checkInputType at haccepts
  rw [htype, EntityType.ofValue_value] at haccepts
  dsimp only at haccepts
  split at haccepts
  · cases haccepts
  · rename_i hcontains
    simpa using hcontains

/-- A report about a domain: `dns_whois` goes from the address to the input, and `virustotal` from
the input to the address. -/
lemma ties_of_domain (report : Report) (htype : report.input.type = EntityType.domain.value)
    {ep : EntityProposal} (hep : ep ∈ report.result.entities) (haddress : ep.type = .ipAddress) :
    Ties .ipAddress (!report.source.reversed) report.result.entities
      report.result.relationships := by
  have haccepts := report.accepts_type htype
  have hanswers := report.answers
  have hlowers := report.lowers
  cases hsource : report.source with
  | crtSh u =>
    rw [hsource] at hanswers
    rw [(CrtSh.query_labels_iff hanswers).1 ep hep] at haddress
    cases haddress
  | dnsWhois u resolver =>
    rw [hsource] at hanswers
    exact DnsWhois.query_ties hanswers
  | virusTotal u =>
    rw [hsource] at hanswers hlowers
    exact ((VirusTotal.query_steady hlowers hanswers).1 htype).ties
  | shodan u =>
    rw [hsource] at haccepts
    cases haccepts

/-- A report about an address is one of `virustotal` or `shodan`, and goes to the input. -/
lemma ties_of_address (report : Report)
    (htype : report.input.type = EntityType.ipAddress.value) :
    Ties .domain report.source.reversed report.result.entities report.result.relationships := by
  have haccepts := report.accepts_type htype
  have hanswers := report.answers
  have hlowers := report.lowers
  cases hsource : report.source with
  | crtSh u =>
    rw [hsource] at haccepts
    cases haccepts
  | dnsWhois u resolver =>
    rw [hsource] at haccepts
    cases haccepts
  | virusTotal u =>
    rw [hsource] at hanswers hlowers
    exact ((VirusTotal.query_steady hlowers hanswers).2.1 htype).ties
  | shodan u =>
    rw [hsource] at hanswers hlowers
    exact (Shodan.query_steady hlowers hanswers).ties

end Report

/-! ## A report that is persisted -/

lemma persistRows_runs (x : RunExt) (req : RunRequest) (plugin : OSINTPlugin)
    (result : QueryResult) :
    Runs (PluginRunner.persistRows py x req plugin result) (persistPlan py x req plugin result) :=
  (persistEntities_runs py x req 0 _ _).bind fun _ =>
    (persistRelationships_runs py x req plugin _ 0 _).bind fun _ =>
      (persistEvidence_runs x req plugin 0 _).bind fun _ => Runs.pure _

/-- `_persist` goes through with a report whose input is a live entity of the case. -/
structure Saves (caseId : UUID) (report : Report) (x : RunExt) (req : RunRequest) (p : Persisted)
    (s s' : Session Store Write Bucket) : Prop where
  usable : s.failed = false
  caseId_eq : req.caseId = caseId
  input : req.inputEntity = report.input
  live : Names s.work caseId report.input.key report.input.id
  persists : PluginRunner.persistRows py x req report.source.plugin report.result s = (.ok p, s')

/-- What a report leaves of the relationships between the two: one in its own direction. -/
structure LeavesFact (caseId : UUID) (reversed : Bool) (domainId ipId : UUID) (st st' : Store) :
    Prop where
  one : reversed = false → (resolvesRows st' caseId domainId ipId).length = 1
  stays : reversed = true →
    resolvesRows st' caseId domainId ipId = resolvesRows st caseId domainId ipId
  backward : resolvesRows st' caseId ipId domainId = [] ↔
    reversed = false ∧ resolvesRows st caseId ipId domainId = []

section Saves

variable {py} {caseId : UUID} {report : Report} {x : RunExt} {req : RunRequest} {p : Persisted}
variable {s s' : Session Store Write Bucket}

lemma LeavesFact.forwards {domainId ipId : UUID} {st st' : Store}
    (h : (resolvesRows st' caseId domainId ipId).length = 1 ∧
      resolvesRows st' caseId ipId domainId = resolvesRows st caseId ipId domainId) :
    LeavesFact caseId false domainId ipId st st' := by
  have hnever : ∀ {q : Prop}, false = true → q := fun h => (nomatch h)
  refine ⟨fun _ => h.1, hnever, ?_⟩
  rw [h.2, and_iff_right rfl]

lemma LeavesFact.backwards {domainId ipId : UUID} {st st' : Store}
    (h : (resolvesRows st' caseId ipId domainId).length = 1 ∧
      resolvesRows st' caseId domainId ipId = resolvesRows st caseId domainId ipId) :
    LeavesFact caseId true domainId ipId st st' := by
  have hnever : ∀ {q : Prop}, true = false → q := fun h => (nomatch h)
  refine ⟨hnever, fun _ => h.2, iff_of_false (fun hnone => ?_) fun hboth => hnever hboth.1⟩
  rw [hnone] at h
  cases h.1

lemma Saves.step (h : Saves py caseId report x req p s s') :
    Retains caseId report.result.entities s.work s'.work ∧
      ∀ {domain ip : String} {domainId ipId : UUID}, report.Says domain ip domainId ipId →
        Names s'.work caseId (domainKey domain) domainId →
        Names s'.work caseId (addressKey ip) ipId →
          LeavesFact caseId report.source.reversed domainId ipId s.work s'.work := by
  obtain ⟨husable, rfl, hinput, hlive, hpersists⟩ := h
  obtain ⟨ws, b, hplan, rfl⟩ := (persistRows_runs py x req _ _).ok husable hpersists
  obtain ⟨refs, st₁, st₂, hpersisted⟩ := persistPlan_rows py hplan
  rw [show Session.work { s.extend ws with outside := b } = applyAll s.work ws
    from Session.work_extend s _]
  refine ⟨hpersisted.retains, fun {domain ip domainId ipId} htells hdomain hip => ?_⟩
  have hdistinct : domainId ≠ ipId := by
    rintro rfl
    exact absurd (Prod.mk.inj (hdomain.key_eq hip)).1 (by decide)
  rcases htells with ⟨hkey, rfl, ep, hep, hreported⟩ | ⟨hkey, rfl, ep, hep, hreported⟩
  -- the input is the domain
  · have htype := Report.type_of_key hreported
    have hties := report.ties_of_domain (Prod.mk.inj hkey).1 hep htype
    have hresolves := hpersisted.resolves hties hep htype (hreported ▸ hip)
      (hinput ▸ hdistinct.symm)
    rw [hinput] at hresolves
    cases hreversed : report.source.reversed with
    | false =>
      rw [hreversed] at hresolves
      exact .forwards hresolves
    | true =>
      rw [hreversed] at hresolves
      exact .backwards hresolves
  -- the input is the address
  · have htype := Report.type_of_key hreported
    have hties := report.ties_of_address (Prod.mk.inj hkey).1
    have hresolves := hpersisted.resolves hties hep htype (hreported ▸ hdomain)
      (hinput ▸ hdistinct)
    rw [hinput] at hresolves
    cases hreversed : report.source.reversed with
    | false =>
      rw [hreversed] at hresolves
      exact .forwards hresolves
    | true =>
      rw [hreversed] at hresolves
      exact .backwards hresolves

end Saves

/-! ## Reports in turn -/

/-- Reports persisted one after the other, each on the rows that the one before has left. -/
inductive InTurn (caseId : UUID) : List Report → Store → Store → Prop where
  | nil (st : Store) : InTurn caseId [] st st
  | cons {report : Report} {reports : List Report} {x : RunExt} {req : RunRequest} {p : Persisted}
      {s s' : Session Store Write Bucket} {st' : Store}
      (hsaves : Saves py caseId report x req p s s') (hrest : InTurn caseId reports s'.work st') :
      InTurn caseId (report :: reports) s.work st'

/-- What reports keep of the keys, and what they add to them. -/
structure Told (caseId : UUID) (reports : List Report) (st st' : Store) : Prop where
  names : ∀ {k id}, Names st caseId k id → Names st' caseId k id
  inputs : ∀ report ∈ reports, Names st' caseId report.input.key report.input.id
  one : ∀ report ∈ reports, ∀ ep ∈ report.result.entities, (keyRows st' caseId ep.key).length = 1
  one_stays : ∀ {k}, (keyRows st caseId k).length = 1 → (keyRows st' caseId k).length = 1

section InTurn

variable {py} {caseId : UUID} {reports : List Report} {st st' : Store}

lemma InTurn.told (h : InTurn py caseId reports st st') : Told caseId reports st st' := by
  induction h with
  | nil st =>
    exact ⟨fun h => h, fun _ h => absurd h List.not_mem_nil, fun _ h => absurd h List.not_mem_nil,
      fun h => h⟩
  | cons hsaves hrest ih =>
    obtain ⟨hretains, -⟩ := hsaves.step
    refine ⟨fun h => ih.names (hretains.names h), ?_, ?_,
      fun h => ih.one_stays (hretains.one_stays h)⟩
    · exact List.forall_mem_cons.mpr ⟨ih.names (hretains.names hsaves.live), ih.inputs⟩
    · exact List.forall_mem_cons.mpr
        ⟨fun ep hep => ih.one_stays (hretains.one ep hep), ih.one⟩

/-- The ids of the two are those of after the report, if they are those of after more reports. -/
lemma Told.tells_names {s s' : Session Store Write Bucket} {report : Report} {x : RunExt}
    {req : RunRequest} {p : Persisted} (hsaves : Saves py caseId report x req p s s')
    (h : Told caseId reports s'.work st') {domain ip : String} {domainId ipId : UUID}
    (htells : report.Says domain ip domainId ipId)
    (hdomain : Names st' caseId (domainKey domain) domainId)
    (hip : Names st' caseId (addressKey ip) ipId) :
    Names s'.work caseId (domainKey domain) domainId ∧
      Names s'.work caseId (addressKey ip) ipId := by
  obtain ⟨hretains, -⟩ := hsaves.step
  have hself := hretains.names hsaves.live
  rcases htells with ⟨hkey, rfl, ep, hep, hreported⟩ | ⟨hkey, rfl, ep, hep, hreported⟩
  · have hone := hretains.one ep hep
    rw [hkey] at hself
    rw [hreported] at hone
    obtain ⟨id, hid⟩ := Names.of_one hone
    obtain rfl := (h.names hid).id_eq (h.one_stays hone) hip
    exact ⟨hself, hid⟩
  · have hone := hretains.one ep hep
    rw [hkey] at hself
    rw [hreported] at hone
    obtain ⟨id, hid⟩ := Names.of_one hone
    obtain rfl := (h.names hid).id_eq (h.one_stays hone) hdomain
    exact ⟨hid, hself⟩

/-- What reports of one fact leave of the relationships between the two: one from the domain to the
address if a plugin goes that way, and more than before from the address to the domain if one goes
the other way. -/
lemma InTurn.facts (h : InTurn py caseId reports st st') {domain ip : String}
    {domainId ipId : UUID} (htells : ∀ report ∈ reports, report.Says domain ip domainId ipId)
    (hdomain : Names st' caseId (domainKey domain) domainId)
    (hip : Names st' caseId (addressKey ip) ipId) :
    ((resolvesRows st caseId domainId ipId).length = 1 ∨
        (∃ report ∈ reports, report.source.reversed = false) →
      (resolvesRows st' caseId domainId ipId).length = 1) ∧
    (resolvesRows st' caseId ipId domainId = [] ↔
      (∀ report ∈ reports, report.source.reversed = false) ∧
        resolvesRows st caseId ipId domainId = []) := by
  induction h with
  | nil st => simp
  | cons hsaves hrest ih =>
    rename_i report reports _ _ _ s s' st'
    obtain ⟨hhead, htail⟩ := List.forall_mem_cons.mp htells
    obtain ⟨hdomain', hip'⟩ := hrest.told.tells_names hsaves hhead hdomain hip
    have hleaves := hsaves.step.2 hhead hdomain' hip'
    obtain ⟨hone, hbackward⟩ := ih htail hdomain hip
    constructor
    · intro hany
      refine hone ?_
      cases hreversed : report.source.reversed with
      | false => exact Or.inl (hleaves.one hreversed)
      | true =>
        rw [hleaves.stays hreversed]
        refine hany.imp_right fun ⟨other, hmem, hother⟩ => ?_
        rcases List.mem_cons.mp hmem with rfl | hmem
        · rw [hother] at hreversed
          cases hreversed
        · exact ⟨other, hmem, hother⟩
    · rw [hbackward, hleaves.backward, List.forall_mem_cons, ← and_assoc,
        and_comm (a := ∀ _ ∈ _, _)]

end InTurn

/-- One RESOLVES_TO between the two, from the domain to the address. -/
def OneFact (st : Store) (caseId domainId ipId : UUID) : Prop :=
  (resolvesRows st caseId domainId ipId).length = 1 ∧ resolvesRows st caseId ipId domainId = []

/-- **Several plugins leave one fact if none of them is `dns_whois`.** The labels of a result are
normal just when its input and its answers let them, and reports of one fact, persisted in any
order, leave one RESOLVES_TO, from the domain to the address, just when no plugin among them goes
the other way and there was none the other way before. Where labels are normal, one host is one
entity. -/
theorem plugins_agree_iff (py : Interp) :
    (∀ report : Report,
      NormalLabels report.result.entities ↔ report.source.LabelsFit report.input) ∧
    ∀ (caseId : UUID) (reports : List Report) (st st' : Store),
      InTurn py caseId reports st st' →
      (∀ report ∈ reports, Names st' caseId report.input.key report.input.id ∧
        ∀ ep ∈ report.result.entities, ∃ e, keyRows st' caseId ep.key = [e]) ∧
      (∀ (domain ip : String) (domainId ipId : UUID), reports ≠ [] →
        Names st' caseId (domainKey domain) domainId → Names st' caseId (addressKey ip) ipId →
        (∀ report ∈ reports, report.Says domain ip domainId ipId) →
          (OneFact st' caseId domainId ipId ↔
            (∀ report ∈ reports, report.source.reversed = false) ∧
              resolvesRows st caseId ipId domainId = [])) ∧
      ∀ report ∈ reports, ∀ other ∈ reports, report.source.LabelsFit report.input →
        other.source.LabelsFit other.input → ∀ ep ∈ report.result.entities,
          ∀ ep' ∈ other.result.entities, ep.type = .domain → ep'.type = .domain →
            hostOf ep.label.toList = hostOf ep'.label.toList →
              ∃ e, keyRows st' caseId ep.key = [e] ∧ keyRows st' caseId ep'.key = [e] := by
  have hlabels : ∀ report : Report,
      NormalLabels report.result.entities ↔ report.source.LabelsFit report.input :=
    fun report => Source.labels_iff report.lowers report.answers
  refine ⟨hlabels, fun caseId reports st st' hturn => ?_⟩
  have htold := hturn.told
  have hone : ∀ report ∈ reports, ∀ ep ∈ report.result.entities,
      ∃ e, keyRows st' caseId ep.key = [e] :=
    fun report hreport ep hep => List.length_eq_one_iff.mp (htold.one report hreport ep hep)
  refine ⟨fun report hreport => ⟨htold.inputs report hreport, hone report hreport⟩, ?_, ?_⟩
  · intro domain ip domainId ipId hne hdomain hip htells
    obtain ⟨hforward, hbackward⟩ := hturn.facts htells hdomain hip
    refine ⟨fun hfact => hbackward.mp hfact.2,
      fun hway => ⟨hforward (Or.inr ?_), hbackward.mpr hway⟩⟩
    obtain ⟨report, hreport⟩ := List.exists_mem_of_ne_nil reports hne
    exact ⟨report, hreport, hway.1 report hreport⟩
  · intro report hreport other hother hfit hfit' ep hep ep' hep' htype htype' hhost
    have hnormal := (hlabels report).mpr hfit ep hep htype
    have hnormal' := (hlabels other).mpr hfit' ep' hep' htype'
    have hlabel : ep.label = ep'.label := String.toList_inj.mp (hnormal.eq_of_hostOf hnormal' hhost)
    have hkey : ep'.key = ep.key := by
      rw [EntityProposal.key, EntityProposal.key, htype, htype', hlabel]
    obtain ⟨e, he⟩ := hone report hreport ep hep
    exact ⟨e, he, hkey ▸ he⟩

/-! ### Reports on a domain -/

/-- An upstream that answers every request with one body. -/
def bodyUpstream (body : String) (data : PyVal) : Upstream :=
  { answering (utf8 body.toList) [] with
    loads := fun raw =>
      if raw = utf8 body.toList then .ok data else .error Exc.jsonDecodeError }

/-- A domain's record with one address. -/
def recordUpstream : Upstream :=
  bodyUpstream ("\x7b\"data\": \x7b\"attributes\": \x7b\"last_dns_records\": "
      ++ "[\x7b\"type\": \"A\", \"value\": \"93.184.216.34\"\x7d]\x7d\x7d\x7d")
    (.dict [("data", .dict [("attributes", .dict [("last_dns_records",
      .list [.dict [("type", .str "A"), ("value", .str "93.184.216.34")]])])])])

/-- An address's record with one host. -/
def hostUpstream : Upstream :=
  bodyUpstream "\x7b\"hostnames\": [\"example.com\"]\x7d"
    (.dict [("hostnames", .list [.str "example.com"])])

/-- A resolver that knows an address, and a name server in capitals. -/
def capitalResolver : Resolver where
  resolve _ rdtype :=
    if rdtype = "A" then .ok ["93.184.216.34".toList]
    else if rdtype = "NS" then .ok ["A.IANA-SERVERS.NET.".toList]
    else .error { mro := ["NoAnswer", "DNSException", "Exception"] }
  resolveMx _ := .error { mro := ["NoAnswer", "DNSException", "Exception"] }

def virusTotalSource : Source := .virusTotal recordUpstream

def dnsWhoisSource : Source := .dnsWhois (bodyUpstream "\x7b\x7d" (.dict [])) capitalResolver

def shodanSource : Source := .shodan hostUpstream

/-- The address that the first report makes. -/
def exampleAddress : Entity :=
  { exampleDomain with id := 10, type := "IP_ADDRESS", label := "93.184.216.34" }

/-- ASCII lower-casing leaves no capitals. -/
lemma asciiTables_lowers : asciiTables.Lowers := by
  intro s c hc
  obtain ⟨d, -, rfl⟩ := List.mem_map.mp hc
  unfold Char.toLower
  split
  · rename_i hupper
    refine decide_eq_false ?_
    simp [UInt32.le_iff_toNat_le, ge_iff_le] at hupper ⊢
    omega
  · rename_i hother
    exact decide_eq_false hother

/-- A report whose plugin answers. -/
def reportOf (source : Source) (input : Entity)
    (haccepts : PluginRunner.checkInputType source.plugin input = .ok ())
    (hok : (source.plugin.query input exampleCredentials).isOk = true)
    (hlowers : source.upstream.text.Lowers) : Report :=
  ⟨source, input, exampleCredentials,
    (source.plugin.query input exampleCredentials).toOption.getD ⟨[], [], []⟩, haccepts,
    ok_of_isOk hok _, hlowers⟩

def virusTotalReport : Report :=
  reportOf virusTotalSource exampleDomain rfl (by decide +kernel) asciiTables_lowers

def dnsWhoisReport : Report :=
  reportOf dnsWhoisSource exampleDomain rfl (by decide +kernel) asciiTables_lowers

def shodanReport : Report :=
  reportOf shodanSource exampleAddress rfl (by decide +kernel) asciiTables_lowers

/-- The request that a report answers. -/
def Report.request (report : Report) : RunRequest :=
  (domainRequest report.result).again report.input

/-- The rows of a report but for its evidence. -/
def rowsOf (x : RunExt) (report : Report) (st : Store) :
    Except Exc Persisted × Session Store Write Bucket :=
  PluginRunner.persistRows plainInterp x report.request report.source.plugin
    { report.result with evidence := [] } ⟨st, [], false, []⟩

/-- The evidence of a report that has one piece of it, and what it is validated as. -/
def evidenceOf (report : Report) : Option (EvidenceProposal × EvidenceCreate) :=
  match report.result.evidence with
  | [evp] =>
    match EvidenceCreate.validate (if evp.linkToInput then some report.input.id else none)
        report.source.plugin.fullName evp.query evp.reproducibilitySpec with
    | .ok data => some (evp, data)
    | .error _ => none
  | _ => none

/-- The store with the rows of a report and its evidence. -/
def saved (x : RunExt) (report : Report) (st : Store) : Store :=
  match evidenceOf report with
  | some (evp, data) => (rowsOf x report st).2.work.apply (.insertEvidence
      (EvidenceRepository.newEvidence (x.evidence 0) 0 none data evp.payload evp.contentType))
  | none => (rowsOf x report st).2.work

/-- The rows go through, and the evidence fits its columns. -/
def fits (x : RunExt) (report : Report) (st : Store) : Bool :=
  (rowsOf x report st).1.isOk &&
    (evidenceOf report).any fun (evp, data) =>
      !(rowsOf x report st).2.work.evidence.has (x.evidence 0).newId
        && (fitsColumn 128 data.sourcePlugin && fitsColumn 1024 data.query
          && fitsColumn 128 (EvidenceRepository.contentTypeFinal evp.contentType))
        && isJson (.dict data.reproducibilitySpec)
        && data.entityId.all (rowsOf x report st).2.work.entities.has

lemma evidenceOf_some {report : Report} {evp : EvidenceProposal} {data : EvidenceCreate}
    (h : evidenceOf report = some (evp, data)) :
    report.result.evidence = [evp] ∧
      EvidenceCreate.validate (if evp.linkToInput then some report.input.id else none)
        report.source.plugin.fullName evp.query evp.reproducibilitySpec = .ok data := by
  unfold evidenceOf at h
  split at h
  · rename_i evp' hevidence
    split at h
    · rename_i data' hdata
      cases h
      exact ⟨hevidence, hdata⟩
    · cases h
  · cases h

/-- The evidence of a result comes after its rows. -/
lemma persistPlan_evidence {x : RunExt} {req : RunRequest} {plugin : OSINTPlugin}
    {result : QueryResult} {st : Store} {b b₁ b' : Bucket} {p : Persisted} {ws ws' : List Write}
    {created : List Evidence}
    (hrows : persistPlan py x req plugin { result with evidence := [] } st b = (.done p ws, b₁))
    (hevidence : persistEvidencePlan x req plugin 0 result.evidence (applyAll st ws) b₁
      = (.done created ws', b')) :
    persistPlan py x req plugin result st b
      = (.done ⟨p.entities, p.relationships, created⟩ (ws ++ ws'), b') := by
  obtain ⟨refs, ws₁, b₂, ws₂, b₃, ws₃, hloop₁, hloop₂, hloop₃, rfl⟩ := persistPlan_loops py hrows
  obtain ⟨-, rfl, rfl⟩ : [] = p.evidence ∧ [] = ws₃ ∧ b₃ = b₁ := by
    obtain ⟨heffect, rfl⟩ := Prod.mk.inj hloop₃
    exact ⟨(Effect.done.inj heffect).1, (Effect.done.inj heffect).2, rfl⟩
  rw [List.append_nil] at hevidence ⊢
  rw [applyAll_append] at hevidence
  refine Plan.bind_done.mpr ⟨(refs, p.entities), ws₁, b₂, ws₂ ++ ws', hloop₁, ?_,
    List.append_assoc _ _ _⟩
  refine Plan.bind_done.mpr ⟨p.relationships, ws₂, b₃, ws', hloop₂, ?_, rfl⟩
  exact Plan.bind_done.mpr ⟨created, ws', b', [], hevidence, rfl, (List.append_nil _).symm⟩

/-- The loop over one piece of evidence that is accepted. -/
lemma persistEvidencePlan_one {x : RunExt} (req : RunRequest) {plugin : OSINTPlugin}
    {evp : EvidenceProposal} {data : EvidenceCreate} {ev : Evidence} {st : Store}
    (hev : ev = EvidenceRepository.newEvidence (x.evidence 0) req.caseId req.createdBy data
      evp.payload evp.contentType)
    (hcalm : (x.evidence 0).flush = false ∧ (x.blob 0).head = false ∧ (x.blob 0).put = false)
    (hdata : EvidenceCreate.validate (if evp.linkToInput then some req.inputEntity.id else none)
      plugin.fullName evp.query evp.reproducibilitySpec = .ok data)
    (haccepts : st.accepts (.insertEvidence ev) = true) (b : Bucket) :
    ∃ b', persistEvidencePlan x req plugin 0 [evp] st b
      = (.done [ev] [.insertEvidence ev], b') := by
  subst hev
  obtain ⟨b', hupload⟩ := uploaded_calm hcalm.2.1 hcalm.2.2
    (buildKey req.caseId (hashBytes evp.payload)) evp.payload
    (EvidenceRepository.contentTypeFinal evp.contentType) b
  refine ⟨b', Plan.bind_done.mpr ⟨data, [], b, _, Plan.ofExcept_done.mpr ⟨hdata, rfl, rfl⟩, ?_,
    rfl⟩⟩
  exact Plan.bind_done.mpr ⟨_, _, b', [], savePlan_done.mpr ⟨hcalm.1, haccepts, [], hupload, rfl,
    rfl⟩, rfl, rfl⟩

/-- A report whose plan is done is saved. -/
lemma saves_of_plan {x : RunExt} {report : Report} {s : Session Store Write Bucket} {p : Persisted}
    {ws : List Write} {b : Bucket} (husable : s.failed = false)
    (hlive : Names s.work 0 report.input.key report.input.id)
    (hplan : persistPlan plainInterp x report.request report.source.plugin report.result s.work
      s.outside = (.done p ws, b)) :
    ∃ s', Saves plainInterp 0 report x report.request p s s' ∧ s'.work = applyAll s.work ws := by
  refine ⟨{ s.extend ws with outside := b }, ⟨husable, rfl, rfl, hlive, ?_⟩,
    Session.work_extend s ws⟩
  rw [persistRows_runs plainInterp x _ _ _ s husable, hplan]
  rfl

/-- A report that fits is saved. -/
lemma saves_of_fits {x : RunExt} {report : Report} {st : Store}
    (hlive : Names st 0 report.input.key report.input.id)
    (hcalm : (x.evidence 0).flush = false ∧ (x.blob 0).head = false ∧ (x.blob 0).put = false)
    (hfits : fits x report st = true) :
    ∃ s s' p, s.work = st ∧ Saves plainInterp 0 report x report.request p s s' ∧
      s'.work = saved x report st := by
  rw [fits, Bool.and_eq_true, Option.any_eq_true_iff_get] at hfits
  obtain ⟨hok, hsome, haccepted⟩ := hfits
  obtain ⟨⟨evp, data⟩, hevidenceOf⟩ := Option.isSome_iff_exists.mp hsome
  simp only [hevidenceOf, Option.get_some, Bool.and_eq_true, Bool.not_eq_true'] at haccepted
  obtain ⟨⟨⟨hnew, ⟨hplugin, hquery⟩, htype⟩, hspec⟩, hentity⟩ := haccepted
  obtain ⟨hevidence, hdata⟩ := evidenceOf_some hevidenceOf
  have haccepts : (rowsOf x report st).2.work.accepts (.insertEvidence
      (EvidenceRepository.newEvidence (x.evidence 0) 0 none data evp.payload evp.contentType))
        = true := accepts_of_newEvidence hnew ⟨hplugin, hquery, htype⟩ hspec hentity
  obtain ⟨p, hrows⟩ : ∃ p, rowsOf x report st = (.ok p, (rowsOf x report st).2) :=
    ⟨_, Prod.ext (ok_of_isOk hok ⟨[], [], []⟩) rfl⟩
  obtain ⟨ws, b, hplan, hafter⟩ := (persistRows_runs plainInterp x _ _ _).ok rfl hrows
  have hwork : (rowsOf x report st).2.work = applyAll st ws := by
    rw [hafter]
    exact Session.work_extend ⟨st, [], false, []⟩ ws
  rw [hwork] at haccepts
  obtain ⟨b', hloop⟩ := persistEvidencePlan_one report.request rfl hcalm hdata haccepts b
  rw [← hevidence] at hloop
  have hdone := persistPlan_evidence plainInterp hplan hloop
  obtain ⟨s', hsaves, hwork'⟩ := saves_of_plan (s := ⟨st, [], false, []⟩) rfl hlive hdone
  refine ⟨⟨st, [], false, []⟩, s', _, rfl, hsaves, ?_⟩
  rw [hwork', saved, hevidenceOf]
  dsimp only
  rw [hwork, applyAll_append]
  rfl

/-- Two reports one after the other. -/
lemma inTurn_two {x x' : RunExt} {report other : Report} {st : Store}
    (hlive : Names st 0 report.input.key report.input.id)
    (hlive' : Names (saved x report st) 0 other.input.key other.input.id)
    (hcalm : (x.evidence 0).flush = false ∧ (x.blob 0).head = false ∧ (x.blob 0).put = false)
    (hcalm' : (x'.evidence 0).flush = false ∧ (x'.blob 0).head = false ∧
      (x'.blob 0).put = false)
    (hfits : fits x report st = true) (hfits' : fits x' other (saved x report st) = true) :
    ∃ st', InTurn plainInterp 0 [report, other] st st' := by
  obtain ⟨s, s', p, rfl, hsaves, hwork⟩ := saves_of_fits hlive hcalm hfits
  rw [← hwork] at hlive' hfits'
  obtain ⟨t, t', p', hstart, hsaves', -⟩ := saves_of_fits hlive' hcalm' hfits'
  have hrest : InTurn plainInterp 0 [other] s'.work t'.work :=
    hstart ▸ .cons hsaves' (.nil t'.work)
  exact ⟨t'.work, .cons hsaves hrest⟩

lemma example_reports :
    fits calm virusTotalReport domainStore = true ∧
    fits calmAgain shodanReport (saved calm virusTotalReport domainStore) = true ∧
    fits calmAgain dnsWhoisReport (saved calm virusTotalReport domainStore) = true ∧
    (keyRows (saved calm virusTotalReport domainStore) 0
      (addressKey "93.184.216.34")).map Entity.id = [10] ∧
    (keyRows (saved calm virusTotalReport domainStore) 0
      (domainKey "example.com")).map Entity.id = [1] := by
  decide +kernel

/-- The domain of the reports is the entity of the example, and so is the address, when a report is
about it. -/
lemma example_facts (ipId : UUID) :
    virusTotalReport.Says "example.com" "93.184.216.34" 1 ipId ∧
    shodanReport.Says "example.com" "93.184.216.34" 1 10 ∧
    dnsWhoisReport.Says "example.com" "93.184.216.34" 1 ipId := by
  have hreported : (∃ ep ∈ virusTotalReport.result.entities, ep.key = addressKey "93.184.216.34") ∧
      (∃ ep ∈ shodanReport.result.entities, ep.key = domainKey "example.com") ∧
      ∃ ep ∈ dnsWhoisReport.result.entities, ep.key = addressKey "93.184.216.34" := by
    decide +kernel
  exact ⟨.inl ⟨rfl, rfl, hreported.1⟩, .inr ⟨rfl, rfl, hreported.2.1⟩,
    .inl ⟨rfl, rfl, hreported.2.2⟩⟩

lemma example_live : Names domainStore 0 (domainKey "example.com") 1 :=
  ⟨exampleDomain, List.mem_singleton_self _, rfl⟩

lemma names_of_ids {st : Store} {k : String × String} {id : UUID}
    (h : (keyRows st 0 k).map Entity.id = [id]) : Names st 0 k id := by
  have hmem : id ∈ (keyRows st 0 k).map Entity.id := h ▸ List.mem_singleton_self id
  obtain ⟨e, he, hid⟩ := List.mem_map.mp hmem
  exact ⟨e, he, hid⟩

theorem plugins_agree_iff_one_way :
    ∃ st', InTurn plainInterp 0 [virusTotalReport, shodanReport] domainStore st' ∧
      OneFact st' 0 1 10 := by
  obtain ⟨hfits, hfits', -, haddress, -⟩ := example_reports
  obtain ⟨htells, htells', -⟩ := example_facts 10
  obtain ⟨st', hturn⟩ := inTurn_two example_live (names_of_ids haddress) ⟨rfl, rfl, rfl⟩
    ⟨rfl, rfl, rfl⟩ hfits hfits'
  obtain ⟨hinputs, hfact, -⟩ := (plugins_agree_iff plainInterp).2 0 _ _ _ hturn
  obtain ⟨hfirst, hsecond⟩ := List.forall_mem_cons.mp hinputs
  have hip : Names st' 0 (addressKey "93.184.216.34") 10 :=
    (List.forall_mem_singleton.mp hsecond).1
  refine ⟨st', hturn, (hfact _ _ 1 10 (List.cons_ne_nil _ _) hfirst.1 hip ?_).mpr ⟨?_, rfl⟩⟩
  · exact List.forall_mem_cons.mpr ⟨htells, List.forall_mem_singleton.mpr htells'⟩
  · exact List.forall_mem_cons.mpr ⟨rfl, List.forall_mem_singleton.mpr rfl⟩

/-- `dns_whois` keeps the capitals of a name server, and goes from the address to the domain. -/
theorem plugins_disagree :
    (¬ ∀ report : Report, NormalLabels report.result.entities) ∧
    ¬ ∀ (py : Interp) (caseId : UUID) (reports : List Report) (st st' : Store),
      InTurn py caseId reports st st' →
      ∀ (domain ip : String) (domainId ipId : UUID), reports ≠ [] →
        Names st' caseId (domainKey domain) domainId → Names st' caseId (addressKey ip) ipId →
        (∀ report ∈ reports, report.Says domain ip domainId ipId) →
        resolvesRows st caseId domainId ipId = [] → resolvesRows st caseId ipId domainId = [] →
          OneFact st' caseId domainId ipId := by
  constructor
  · intro h
    have hserver : ∃ ep ∈ dnsWhoisReport.result.entities, ep.type = .domain ∧
        ep.label = "A.IANA-SERVERS.NET" := by decide +kernel
    obtain ⟨ep, hep, htype, hlabel⟩ := hserver
    have hcapital := (h dnsWhoisReport ep hep htype).1 'A' (by simp [hlabel])
    cases hcapital
  · intro h
    obtain ⟨hfits, -, hfits', -, hdomain⟩ := example_reports
    obtain ⟨st', hturn⟩ := inTurn_two example_live (names_of_ids hdomain) ⟨rfl, rfl, rfl⟩
      ⟨rfl, rfl, rfl⟩ hfits hfits'
    have htold := hturn.told
    have hmem : dnsWhoisReport ∈ [virusTotalReport, dnsWhoisReport] :=
      List.mem_cons_of_mem _ (List.mem_singleton_self _)
    -- the address has one row, whatever its id
    obtain ⟨ep, hep, hkey⟩ : ∃ ep ∈ dnsWhoisReport.result.entities,
        ep.key = addressKey "93.184.216.34" := by decide +kernel
    have hone := htold.one _ hmem ep hep
    rw [hkey] at hone
    obtain ⟨ipId, hip⟩ := Names.of_one hone
    have htells : ∀ report ∈ [virusTotalReport, dnsWhoisReport],
        report.Says "example.com" "93.184.216.34" 1 ipId :=
      List.forall_mem_cons.mpr
        ⟨(example_facts ipId).1, List.forall_mem_singleton.mpr (example_facts ipId).2.2⟩
    have hdomain' : Names st' 0 (domainKey "example.com") 1 := htold.inputs _ hmem
    have hfact := h plainInterp 0 _ _ st' hturn _ _ 1 ipId (List.cons_ne_nil _ _) hdomain' hip
      htells rfl rfl
    have hbackward := (hturn.facts htells hdomain' hip).2.mp hfact.2
    cases hbackward.1 dnsWhoisReport hmem

end Sleuthgraph
