import Sleuthgraph.Plugins.MergeTheorems

/-!
# A second run (`plugins/runner.py`)

After a run that went through, every entity proposal finds a live row of its key that is at least
as confident, every relationship proposal finds a row of its key, and the refs lead to the same
rows. So a second run with the same result adds evidence, and nothing else.
-/

namespace Sleuthgraph

open Programs Transactions Tables Upserts

variable (py : Interp)

/-! ## The relationship proposals -/

/-- At most one live relationship for each key. -/
def RelationshipKeysUnique (st : Store) : Prop :=
  ∀ caseId src dst relType, (RelationshipRepository.withKey st caseId src dst relType).length ≤ 1

/-- What is validated is what was proposed. -/
lemma RelationshipCreate.validate_ok {src dst : UUID} {relType : String} {confidence : ℚ}
    {sourcePlugin : Option String} {attrs : PyDict} {data : RelationshipCreate}
    (h : RelationshipCreate.validate src dst relType confidence sourcePlugin attrs = .ok data) :
    data.srcEntityId = src ∧ data.dstEntityId = dst ∧ data.relType.value = relType := by
  unfold RelationshipCreate.validate at h
  split at h
  · cases h
  · split at h
    · cases h
    · rename_i t ht
      split at h
      · cases h
        refine ⟨rfl, rfl, ?_⟩
        unfold RelationshipType.ofValue at ht
        simpa using List.find?_some ht
      · cases h

/-- The tables other than that of the relationships. -/
structure SameButRelationships (st st' : Store) : Prop where
  entities : st'.entities = st.entities
  evidence : st'.evidence = st.evidence
  runs : st'.runs = st.runs

lemma SameButRelationships.trans {st st' st'' : Store} (h : SameButRelationships st st')
    (h' : SameButRelationships st' st'') : SameButRelationships st st'' :=
  ⟨h'.entities.trans h.entities, h'.evidence.trans h.evidence, h'.runs.trans h.runs⟩

/-- What a `create_if_not_exists` that returns has done. -/
inductive GotRelationship (x : Ext) (caseId : UUID) (createdBy : Option UUID)
    (data : RelationshipCreate) (st : Store) : Relationship × Bool → Store → Prop
  | created {st' : Store}
      (hnone : RelationshipRepository.withKey st caseId data.srcEntityId data.dstEntityId
        data.relType.value = [])
      (hnew : st.relationships.has x.newId = false)
      (hrelationships : st'.relationships = st.relationships.insert
        (RelationshipRepository.newRelationship x caseId createdBy data))
      (hsame : SameButRelationships st st') :
      GotRelationship x caseId createdBy data st
        (RelationshipRepository.newRelationship x caseId createdBy data, true) st'
  | kept (existing : Relationship)
      (hone : RelationshipRepository.withKey st caseId data.srcEntityId data.dstEntityId
        data.relType.value = [existing]) :
      GotRelationship x caseId createdBy data st (existing, false) st

lemma createIfNotExistsPlan_got {O : Type} {x : Ext} {caseId : UUID} {createdBy : Option UUID}
    {data : RelationshipCreate} {st : Store} {o o' : O} {answer : Relationship × Bool}
    {ws : List Write}
    (h : createIfNotExistsPlan py x caseId createdBy data st o = (.done answer ws, o')) :
    GotRelationship x caseId createdBy data st answer (applyAll st ws) := by
  obtain ⟨-, h⟩ := Plan.lookup_done.mp h
  cases hrows : scalarOneOrNone (RelationshipRepository.withKey st caseId data.srcEntityId
      data.dstEntityId data.relType.value) with
  | error e =>
    rw [hrows] at h
    cases h
  | ok found =>
    rw [hrows] at h
    cases found with
    | some existing =>
      cases h
      exact .kept existing (scalarOneOrNone_some hrows)
    | none =>
      obtain ⟨-, h⟩ := Plan.lookup_done.mp h
      split at h
      · cases h
      · obtain ⟨-, haccepts, ops, hops, rfl, rfl⟩ := savePlan_done.mp h
        obtain ⟨-, -, c, -, rfl⟩ := mirrored_ok.mp hops
        exact .created (scalarOneOrNone_none hrows) (accepts_insertRelationship haccepts) rfl
          ⟨rfl, rfl, rfl⟩

section GotRelationship

variable {x : Ext} {caseId : UUID} {createdBy : Option UUID} {data : RelationshipCreate}
variable {st st' : Store} {rel : Relationship} {wasCreated : Bool}

lemma GotRelationship.rows (h : GotRelationship x caseId createdBy data st (rel, wasCreated) st') :
    st'.relationships.rows = st.relationships.rows ++ (if wasCreated then [rel] else []) := by
  cases h with
  | created hnone hnew hrelationships hsame =>
    rw [hrelationships, Table.rows_insert hnew, if_pos rfl]
  | kept _ hone => rw [if_neg Bool.false_ne_true, List.append_nil]

lemma GotRelationship.same (h : GotRelationship x caseId createdBy data st (rel, wasCreated) st') :
    SameButRelationships st st' := by
  cases h with
  | created hnone hnew hrelationships hsame => exact hsame
  | kept _ hone => exact ⟨rfl, rfl, rfl⟩

/-- The rows of a key, after rows are added. -/
lemma withKey_append {added : List Relationship}
    (h : st'.relationships.rows = st.relationships.rows ++ added) (c src dst : UUID)
    (relType : String) :
    RelationshipRepository.withKey st' c src dst relType
      = RelationshipRepository.withKey st c src dst relType ++ added.filter fun r =>
        r.caseId = c && r.srcEntityId = src && r.dstEntityId = dst && r.relType = relType
          && r.live := by
  rw [RelationshipRepository.withKey, h, List.filter_append]
  rfl

/-- Keys stay unique. -/
lemma GotRelationship.unique
    (h : GotRelationship x caseId createdBy data st (rel, wasCreated) st')
    (hunique : RelationshipKeysUnique st) : RelationshipKeysUnique st' := by
  intro c src dst relType
  have hold := hunique c src dst relType
  rw [withKey_append h.rows, List.length_append]
  cases h with
  | kept _ hone => exact hold
  | created hnone hnew hrelationships hsame =>
    rw [if_pos rfl, List.filter_singleton, Bool.cond_eq_ite]
    split
    · -- the key had no row
      rename_i hmatch
      simp only [Bool.and_eq_true, decide_eq_true_eq] at hmatch
      obtain ⟨⟨⟨⟨rfl, rfl⟩, rfl⟩, rfl⟩, -⟩ := hmatch
      have hnil : RelationshipRepository.withKey st
          (RelationshipRepository.newRelationship x caseId createdBy data).caseId
          (RelationshipRepository.newRelationship x caseId createdBy data).srcEntityId
          (RelationshipRepository.newRelationship x caseId createdBy data).dstEntityId
          (RelationshipRepository.newRelationship x caseId createdBy data).relType = [] := hnone
      rw [hnil]
      exact le_refl _
    · exact hold

/-- The key has one row now. -/
lemma GotRelationship.one
    (h : GotRelationship x caseId createdBy data st (rel, wasCreated) st') :
    (RelationshipRepository.withKey st' caseId data.srcEntityId data.dstEntityId
      data.relType.value).length = 1 := by
  have hrows := withKey_append h.rows caseId data.srcEntityId data.dstEntityId data.relType.value
  cases h with
  | kept _ hone =>
    rw [hone]
    rfl
  | created hnone hnew hrelationships hsame =>
    have hself : [RelationshipRepository.newRelationship x caseId createdBy data].filter (fun r =>
        r.caseId = caseId && r.srcEntityId = data.srcEntityId
          && r.dstEntityId = data.dstEntityId && r.relType = data.relType.value && r.live)
        = [RelationshipRepository.newRelationship x caseId createdBy data] := by
      simp [RelationshipRepository.newRelationship, Relationship.live]
    rw [hrows, hnone, if_pos rfl, List.nil_append, hself]
    rfl

/-- A key with one row keeps it alone. -/
lemma GotRelationship.one_stays
    (h : GotRelationship x caseId createdBy data st (rel, wasCreated) st') {c src dst : UUID}
    {relType : String}
    (hone : (RelationshipRepository.withKey st c src dst relType).length = 1) :
    (RelationshipRepository.withKey st' c src dst relType).length = 1 := by
  rw [withKey_append h.rows, List.length_append, hone]
  cases h with
  | kept _ _ => rfl
  | created hnone hnew hrelationships hsame =>
    rw [if_pos rfl, List.filter_singleton, Bool.cond_eq_ite, if_neg]
    · rfl
    · -- the key of the new row had none
      intro hmatch
      simp only [Bool.and_eq_true, decide_eq_true_eq] at hmatch
      obtain ⟨⟨⟨⟨rfl, rfl⟩, rfl⟩, rfl⟩, -⟩ := hmatch
      change (RelationshipRepository.withKey st caseId data.srcEntityId data.dstEntityId
        data.relType.value).length = 1 at hone
      rw [hnone] at hone
      cases hone

/-- The row that a call creates is the one it is asked for. -/
lemma GotRelationship.row (h : GotRelationship x caseId createdBy data st (rel, true) st') :
    rel.srcEntityId = data.srcEntityId ∧ rel.dstEntityId = data.dstEntityId ∧
      rel.relType = data.relType.value := by
  cases h with
  | created hnone hnew hrelationships hsame => exact ⟨rfl, rfl, rfl⟩

end GotRelationship

/-- The endpoints of a proposal are resolved, and it is validated. -/
structure Proposed (req : RunRequest) (plugin : OSINTPlugin) (refs : PluginRunner.Refs)
    (rp : RelationshipProposal) (src dst : Entity) (data : RelationshipCreate) : Prop where
  resolves_src : PluginRunner.resolveRef rp.src req.inputEntity refs = .ok src
  resolves_dst : PluginRunner.resolveRef rp.dst req.inputEntity refs = .ok dst
  validates : RelationshipCreate.validate src.id dst.id rp.relType.value rp.confidence
    (some plugin.fullName) rp.attrs = .ok data

/-- The key of a relationship that is validated has a row. -/
def HasRow (st : Store) (caseId : UUID) (data : RelationshipCreate) : Prop :=
  RelationshipRepository.withKey st caseId data.srcEntityId data.dstEntityId data.relType.value ≠ []

/-- What the loop over the relationship proposals has made of the store, when it returns. -/
structure Linked (req : RunRequest) (plugin : OSINTPlugin) (refs : PluginRunner.Refs)
    (proposals : List RelationshipProposal) (st st' : Store) (created : List Relationship) :
    Prop where
  rows : st'.relationships.rows = st.relationships.rows ++ created
  same : SameButRelationships st st'
  unique : RelationshipKeysUnique st'
  found : ∀ rp ∈ proposals, ∃ src dst data, Proposed req plugin refs rp src dst data ∧
    HasRow st' req.caseId data

/-- What the loop has made of the rows, whatever rows there were. -/
structure LinkedRows (req : RunRequest) (plugin : OSINTPlugin) (refs : PluginRunner.Refs)
    (proposals : List RelationshipProposal) (st st' : Store) (created : List Relationship) :
    Prop where
  rows : st'.relationships.rows = st.relationships.rows ++ created
  same : SameButRelationships st st'
  created : ∀ rel ∈ created, ∃ rp ∈ proposals, ∃ src dst data,
    Proposed req plugin refs rp src dst data ∧ rel.srcEntityId = src.id ∧
      rel.dstEntityId = dst.id ∧ rel.relType = rp.relType.value
  /-- a key that is proposed has one row, and a key with one row keeps it alone -/
  one : ∀ rp ∈ proposals, ∃ src dst data, Proposed req plugin refs rp src dst data ∧
    (RelationshipRepository.withKey st' req.caseId data.srcEntityId data.dstEntityId
      data.relType.value).length = 1
  one_stays : ∀ {c src dst relType},
    (RelationshipRepository.withKey st c src dst relType).length = 1 →
      (RelationshipRepository.withKey st' c src dst relType).length = 1

/-- One proposal, and the rest of the loop. -/
lemma persistRelationshipsPlan_cons {x : RunExt} {req : RunRequest} {plugin : OSINTPlugin}
    {refs : PluginRunner.Refs} {i : ℕ} {rp : RelationshipProposal}
    {proposals : List RelationshipProposal} {created : List Relationship} {st : Store}
    {b b' : Bucket} {ws : List Write}
    (h : persistRelationshipsPlan py x req plugin refs i (rp :: proposals) st b
      = (.done created ws, b')) :
    ∃ src dst data rel wasCreated ws₁ b₁ created₁ ws₂,
      Proposed req plugin refs rp src dst data ∧
      GotRelationship (x.relationship i) req.caseId req.createdBy data st (rel, wasCreated)
        (applyAll st ws₁) ∧
      persistRelationshipsPlan py x req plugin refs (i + 1) proposals (applyAll st ws₁) b₁
        = (.done created₁ ws₂, b') ∧
      created = (if wasCreated then [rel] else []) ++ created₁ ∧ ws = ws₁ ++ ws₂ := by
  obtain ⟨src, _, _, ws₀, hsrcPlan, hafterSrc, rfl⟩ := Plan.bind_done.mp h
  obtain ⟨hsrc, rfl, rfl⟩ := Plan.ofExcept_done.mp hsrcPlan
  obtain ⟨dst, _, _, ws₁, hdstPlan, hafterDst, rfl⟩ := Plan.bind_done.mp hafterSrc
  obtain ⟨hdst, rfl, rfl⟩ := Plan.ofExcept_done.mp hdstPlan
  obtain ⟨data, _, _, ws₂, hdataPlan, hcall, rfl⟩ := Plan.bind_done.mp hafterDst
  obtain ⟨hdata, rfl, rfl⟩ := Plan.ofExcept_done.mp hdataPlan
  obtain ⟨⟨rel, wasCreated⟩, ws₃, b₃, ws₄, hgot, hrest, rfl⟩ := Plan.bind_done.mp hcall
  obtain ⟨created₁, ws₅, b₅, ws₆, hloop, hlast, rfl⟩ := Plan.bind_done.mp hrest
  cases hlast
  simp only [List.nil_append, List.append_nil, applyAll_nil] at hgot hloop ⊢
  refine ⟨src, dst, data, rel, wasCreated, ws₃, b₃, created₁, ws₅, ⟨hsrc, hdst, hdata⟩,
    createIfNotExistsPlan_got py hgot, hloop, ?_, rfl⟩
  split
  · rfl
  · rfl

/-- The loop, by one call for each proposal. -/
theorem persistRelationshipsPlan_rows {x : RunExt} {req : RunRequest} {plugin : OSINTPlugin}
    {refs : PluginRunner.Refs} {i : ℕ} {proposals : List RelationshipProposal}
    {created : List Relationship} {st : Store} {b b' : Bucket} {ws : List Write}
    (h : persistRelationshipsPlan py x req plugin refs i proposals st b
      = (.done created ws, b')) :
    LinkedRows req plugin refs proposals st (applyAll st ws) created := by
  induction proposals generalizing i created st b ws with
  | nil =>
    cases h
    exact ⟨(List.append_nil _).symm, ⟨rfl, rfl, rfl⟩, fun _ hrel => absurd hrel List.not_mem_nil,
      fun _ hrp => absurd hrp List.not_mem_nil, fun hone => hone⟩
  | cons rp proposals ih =>
    obtain ⟨src, dst, data, rel, wasCreated, ws₁, b₁, created₁, ws₂, hproposed, hgot, hloop, rfl,
      rfl⟩ := persistRelationshipsPlan_cons py h
    have hlinked := ih hloop
    rw [applyAll_append]
    refine ⟨?_, hgot.same.trans hlinked.same, fun rel' hrel' => ?_, fun rp' hrp' => ?_,
      fun hone => hlinked.one_stays (hgot.one_stays hone)⟩
    · rw [hlinked.rows, hgot.rows, List.append_assoc]
    · rcases List.mem_append.mp hrel' with hrel' | hrel'
      · cases wasCreated with
        | false => cases hrel'
        | true =>
          obtain rfl := List.mem_singleton.mp hrel'
          obtain ⟨hsrcId, hdstId, htype⟩ := RelationshipCreate.validate_ok hproposed.validates
          obtain ⟨hsrcRow, hdstRow, htypeRow⟩ := hgot.row
          exact ⟨rp, List.mem_cons_self, src, dst, data, hproposed, hsrcRow.trans hsrcId,
            hdstRow.trans hdstId, htypeRow.trans htype⟩
      · obtain ⟨rp', hrp', hmade⟩ := hlinked.created rel' hrel'
        exact ⟨rp', List.mem_cons_of_mem _ hrp', hmade⟩
    · rcases List.mem_cons.mp hrp' with rfl | hrp'
      · exact ⟨src, dst, data, hproposed, hlinked.one_stays hgot.one⟩
      · exact hlinked.one rp' hrp'

/-- Keys that are unique stay so. -/
lemma persistRelationshipsPlan_unique {x : RunExt} {req : RunRequest} {plugin : OSINTPlugin}
    {refs : PluginRunner.Refs} {i : ℕ} {proposals : List RelationshipProposal}
    {created : List Relationship} {st : Store} {b b' : Bucket} {ws : List Write}
    (hunique : RelationshipKeysUnique st)
    (h : persistRelationshipsPlan py x req plugin refs i proposals st b
      = (.done created ws, b')) : RelationshipKeysUnique (applyAll st ws) := by
  induction proposals generalizing i created st b ws with
  | nil =>
    cases h
    exact hunique
  | cons rp proposals ih =>
    obtain ⟨src, dst, data, rel, wasCreated, ws₁, b₁, created₁, ws₂, -, hgot, hloop, -, rfl⟩ :=
      persistRelationshipsPlan_cons py h
    rw [applyAll_append]
    exact ih (hgot.unique hunique) hloop

theorem persistRelationshipsPlan_linked {x : RunExt} {req : RunRequest} {plugin : OSINTPlugin}
    {refs : PluginRunner.Refs} {i : ℕ} {proposals : List RelationshipProposal}
    {created : List Relationship} {st : Store} {b b' : Bucket} {ws : List Write}
    (hunique : RelationshipKeysUnique st)
    (h : persistRelationshipsPlan py x req plugin refs i proposals st b
      = (.done created ws, b')) :
    Linked req plugin refs proposals st (applyAll st ws) created := by
  have hlinked := persistRelationshipsPlan_rows py h
  refine ⟨hlinked.rows, hlinked.same, persistRelationshipsPlan_unique py hunique h,
    fun rp hrp => ?_⟩
  obtain ⟨src, dst, data, hproposed, hone⟩ := hlinked.one rp hrp
  refine ⟨src, dst, data, hproposed, fun hnone => ?_⟩
  rw [hnone] at hone
  cases hone

/-! ## The evidence proposals -/

/-- The tables other than that of the evidence, and the graph. -/
structure SameButEvidence (st st' : Store) : Prop where
  entities : st'.entities = st.entities
  relationships : st'.relationships = st.relationships
  runs : st'.runs = st.runs
  graph : st'.graph = st.graph

lemma SameButEvidence.trans {st st' st'' : Store} (h : SameButEvidence st st')
    (h' : SameButEvidence st' st'') : SameButEvidence st st'' :=
  ⟨h'.entities.trans h.entities, h'.relationships.trans h.relationships, h'.runs.trans h.runs,
    h'.graph.trans h.graph⟩

/-- The row of an evidence proposal that is validated, and what it asks of the entities. -/
def EvidenceFits (entities : Table Entity) (req : RunRequest) (plugin : OSINTPlugin)
    (evp : EvidenceProposal) : Prop :=
  ∃ (data : EvidenceCreate) (x : Ext) (st : Store), EvidenceCreate.validate
      (if evp.linkToInput then some req.inputEntity.id else none) plugin.fullName evp.query
      evp.reproducibilitySpec = .ok data ∧
    st.entities = entities ∧ st.accepts (.insertEvidence
      (EvidenceRepository.newEvidence x req.caseId req.createdBy data evp.payload evp.contentType))
        = true

/-- What the loop over the evidence proposals has made of the store, when it returns. -/
structure EvidenceAdded (req : RunRequest) (plugin : OSINTPlugin)
    (proposals : List EvidenceProposal) (st st' : Store) (created : List Evidence) : Prop where
  rows : st'.evidence.rows = st.evidence.rows ++ created
  length : created.length = proposals.length
  same : SameButEvidence st st'
  fits : ∀ evp ∈ proposals, EvidenceFits st.entities req plugin evp

theorem persistEvidencePlan_added {x : RunExt} {req : RunRequest} {plugin : OSINTPlugin}
    {i : ℕ} {proposals : List EvidenceProposal} {created : List Evidence} {st : Store}
    {b b' : Bucket} {ws : List Write}
    (h : persistEvidencePlan x req plugin i proposals st b = (.done created ws, b')) :
    EvidenceAdded req plugin proposals st (applyAll st ws) created := by
  induction proposals generalizing i created st b ws with
  | nil =>
    cases h
    exact ⟨(List.append_nil _).symm, rfl, ⟨rfl, rfl, rfl, rfl⟩,
      fun _ hevp => absurd hevp List.not_mem_nil⟩
  | cons evp proposals ih =>
    obtain ⟨data, _, _, ws₀, hdataPlan, hcall, rfl⟩ := Plan.bind_done.mp h
    obtain ⟨hdata, rfl, rfl⟩ := Plan.ofExcept_done.mp hdataPlan
    obtain ⟨ev, ws₁, b₁, ws₂, hsave, hrest, rfl⟩ := Plan.bind_done.mp hcall
    obtain ⟨created₁, ws₃, b₃, ws₄, hloop, hlast, rfl⟩ := Plan.bind_done.mp hrest
    cases hlast
    obtain ⟨-, haccepts, ops, hops, rfl, rfl⟩ := savePlan_done.mp hsave
    obtain rfl := uploaded_ok hops
    have hadded := ih hloop
    simp only [List.nil_append, List.append_nil, applyAll_nil] at haccepts hadded ⊢
    rw [applyAll_append]
    refine ⟨?_, ?_, ?_, fun evp' hevp' => ?_⟩
    · rw [hadded.rows]
      show (st.evidence.insert _).rows ++ _ = _
      rw [Table.rows_insert (accepts_insertEvidence haccepts), List.append_assoc,
        List.singleton_append]
    · rw [List.length_cons, List.length_cons, hadded.length]
    · have hinsert : SameButEvidence st (applyAll st [Write.insertEvidence
          (EvidenceRepository.newEvidence (x.evidence i) req.caseId req.createdBy data evp.payload
            evp.contentType)]) := ⟨rfl, rfl, rfl, rfl⟩
      exact hinsert.trans hadded.same
    · rcases List.mem_cons.mp hevp' with rfl | hevp'
      · exact ⟨data, x.evidence i, st, hdata, rfl, haccepts⟩
      · exact hadded.fits evp' hevp'

/-! ## The loops again -/

/-- Every entity proposal is valid, and its key has a row that is confident enough. -/
def EntitiesKnown (st : Store) (caseId : UUID) (proposals : List EntityProposal) : Prop :=
  ∀ ep ∈ proposals,
    (∃ data, EntityCreate.validate ep.type.value ep.label ep.attrs ep.confidence = .ok data) ∧
      (ep.confidence : WithBot ℚ) ≤ confidenceAt st caseId ep.key

/-- The one row of a key with a confidence. -/
lemma exists_keyRows_eq {st : Store} (hunique : EntityKeysUnique st) {caseId : UUID}
    {k : String × String} {confidence : ℚ}
    (h : (confidence : WithBot ℚ) ≤ confidenceAt st caseId k) :
    ∃ e, keyRows st caseId k = [e] ∧ confidence ≤ e.confidence := by
  have hlength : (keyRows st caseId k).length ≤ 1 := hunique caseId k.1 k.2
  unfold confidenceAt at h
  cases hrows : keyRows st caseId k with
  | nil =>
    rw [hrows] at h
    exact absurd h (not_le.mpr (WithBot.bot_lt_coe _))
  | cons e rows =>
    rw [hrows] at h hlength
    have hnil : rows = [] := List.length_eq_zero_iff.mp (by rw [List.length_cons] at hlength; omega)
    exact ⟨e, by rw [hnil], WithBot.coe_le_coe.mp h⟩

/-- Over known entities the loop writes nothing. -/
lemma persistEntitiesPlan_known {x : RunExt} {req : RunRequest}
    (hlookup : ∀ i, (x.entity i).lookup = false) {st : Store} (hunique : EntityKeysUnique st)
    {proposals : List EntityProposal} (h : EntitiesKnown st req.caseId proposals) (i : ℕ)
    (refs : PluginRunner.Refs) (b : Bucket) :
    ∃ refs', persistEntitiesPlan py x req i proposals refs st b = (.done (refs', []) [], b) := by
  induction proposals generalizing i refs with
  | nil => exact ⟨refs, rfl⟩
  | cons ep proposals ih =>
    obtain ⟨⟨data, hdata⟩, hconfidence⟩ := h ep List.mem_cons_self
    obtain ⟨hkey, hsame⟩ := EntityCreate.validate_ok hdata
    obtain ⟨existing, hone, hle⟩ := exists_keyRows_eq hunique hconfidence
    obtain ⟨refs', hloop⟩ := ih (fun ep' hep' => h ep' (List.mem_cons_of_mem _ hep')) (i + 1)
      ((ep.ref, existing) :: refs)
    have hrows : EntityRepository.withKey st req.caseId data.type.value data.label
        = [existing] := by
      rw [← hone, keyRows, ← show data.key.1 = data.type.value from rfl,
        ← show data.key.2 = data.label from rfl, hkey]
      rfl
    have hcall : getOrCreatePlan py (x.entity i) req.caseId req.createdBy data st b
        = (.done (existing, false) [], b) := by
      refine Plan.lookup_done.mpr ⟨hlookup i, ?_⟩
      rw [hrows]
      show (if data.confidence > existing.confidence then _
        else Plan.pure (existing, false)) st b = _
      rw [if_neg (not_lt.mpr (hsame ▸ hle))]
      rfl
    refine ⟨refs', Plan.bind_done.mpr ⟨data, [], b, [], Plan.ofExcept_done.mpr ⟨hdata, rfl, rfl⟩,
      Plan.bind_done.mpr ⟨(existing, false), [], b, [], hcall, Plan.bind_done.mpr
        ⟨(refs', []), [], b, [], hloop, rfl, rfl⟩, rfl⟩, rfl⟩⟩

/-- Every relationship proposal is resolved and valid, and its key has a row. -/
def RelationshipsKnown (st : Store) (req : RunRequest) (plugin : OSINTPlugin)
    (refs : PluginRunner.Refs) (proposals : List RelationshipProposal) : Prop :=
  ∀ rp ∈ proposals, ∃ src dst data, Proposed req plugin refs rp src dst data ∧
    HasRow st req.caseId data

/-- Over known relationships the loop writes nothing. -/
lemma persistRelationshipsPlan_known {x : RunExt} {req : RunRequest} {plugin : OSINTPlugin}
    {refs : PluginRunner.Refs} (hlookup : ∀ i, (x.relationship i).lookup = false) {st : Store}
    (hunique : RelationshipKeysUnique st) {proposals : List RelationshipProposal}
    (h : RelationshipsKnown st req plugin refs proposals) (i : ℕ) (b : Bucket) :
    persistRelationshipsPlan py x req plugin refs i proposals st b = (.done [] [], b) := by
  induction proposals generalizing i with
  | nil => rfl
  | cons rp proposals ih =>
    obtain ⟨src, dst, data, hproposed, hrow⟩ := h rp List.mem_cons_self
    have hloop := ih (fun rp' hrp' => h rp' (List.mem_cons_of_mem _ hrp')) (i + 1)
    have hlength := hunique req.caseId data.srcEntityId data.dstEntityId data.relType.value
    obtain ⟨existing, hone⟩ : ∃ existing, RelationshipRepository.withKey st req.caseId
        data.srcEntityId data.dstEntityId data.relType.value = [existing] := by
      refine List.length_eq_one_iff.mp ?_
      have hpos := List.length_pos_of_ne_nil hrow
      omega
    have hcall : createIfNotExistsPlan py (x.relationship i) req.caseId req.createdBy data st b
        = (.done (existing, false) [], b) := by
      refine Plan.lookup_done.mpr ⟨hlookup i, ?_⟩
      rw [hone]
      rfl
    refine Plan.bind_done.mpr ⟨src, [], b, [], Plan.ofExcept_done.mpr
      ⟨hproposed.resolves_src, rfl, rfl⟩, ?_, rfl⟩
    refine Plan.bind_done.mpr ⟨dst, [], b, [], Plan.ofExcept_done.mpr
      ⟨hproposed.resolves_dst, rfl, rfl⟩, ?_, rfl⟩
    refine Plan.bind_done.mpr ⟨data, [], b, [], Plan.ofExcept_done.mpr
      ⟨hproposed.validates, rfl, rfl⟩, ?_, rfl⟩
    exact Plan.bind_done.mpr ⟨(existing, false), [], b, [], hcall, Plan.bind_done.mpr
      ⟨[], [], b, [], hloop, rfl, rfl⟩, rfl⟩

/-- The evidence calls up to the `n`-th get through, and from the `i`-th on their ids are new. -/
structure FreshEvidence (x : RunExt) (st : Store) (i n : ℕ) : Prop where
  flush : ∀ j, (x.evidence j).flush = false
  blob : ∀ j, (x.blob j).head = false ∧ (x.blob j).put = false
  new : ∀ j, i ≤ j → j < n → st.evidence.has (x.evidence j).newId = false
  distinct : ∀ j k, j < n → k < n → (x.evidence j).newId = (x.evidence k).newId → j = k

/-- After a row, the ids that are left are still new. -/
lemma FreshEvidence.next {x : RunExt} {st : Store} {i n : ℕ} (h : FreshEvidence x st i n)
    (hi : i < n) {ev : Evidence} (hid : ev.id = (x.evidence i).newId) :
    FreshEvidence x (st.apply (.insertEvidence ev)) (i + 1) n := by
  refine ⟨h.flush, h.blob, fun j hj hn => ?_, h.distinct⟩
  have hnew : st.evidence.has (pk ev) = false := by
    rw [show pk ev = (x.evidence i).newId from hid]
    exact h.new i (le_refl i) hi
  show (st.evidence.insert ev).has (x.evidence j).newId = false
  refine eq_false_of_ne_true fun hhas => ?_
  rcases (Table.has_insert hnew).mp hhas with hold | heq
  · rw [h.new j (by omega) hn] at hold
    cases hold
  · have hij := h.distinct i j hi hn (hid.symm.trans heq.symm)
    omega

/-- The loop over evidence proposals that fit goes through. -/
lemma persistEvidencePlan_fits {x : RunExt} {req : RunRequest} {plugin : OSINTPlugin} {st : Store}
    {i n : ℕ} (hfresh : FreshEvidence x st i n) {proposals : List EvidenceProposal}
    (hlength : i + proposals.length ≤ n)
    (h : ∀ evp ∈ proposals, EvidenceFits st.entities req plugin evp) (b : Bucket) :
    ∃ created ws b',
      persistEvidencePlan x req plugin i proposals st b = (.done created ws, b') := by
  induction proposals generalizing i st b with
  | nil => exact ⟨[], [], b, rfl⟩
  | cons evp proposals ih =>
    rw [List.length_cons] at hlength
    obtain ⟨data, x₀, st₀, hdata, hentities, haccepts₀⟩ := h evp List.mem_cons_self
    have haccepts : st.accepts (.insertEvidence (EvidenceRepository.newEvidence (x.evidence i)
        req.caseId req.createdBy data evp.payload evp.contentType)) = true :=
      accepts_newEvidence haccepts₀ hentities.symm (hfresh.new i (le_refl i) (by omega))
    obtain ⟨b₁, hupload⟩ := uploaded_calm (hfresh.blob i).1 (hfresh.blob i).2
      (EvidenceRepository.newEvidence (x.evidence i) req.caseId req.createdBy data evp.payload
        evp.contentType).responseUri evp.payload
      (EvidenceRepository.contentTypeFinal evp.contentType) b
    have hnext : FreshEvidence x (st.apply (.insertEvidence (EvidenceRepository.newEvidence
        (x.evidence i) req.caseId req.createdBy data evp.payload evp.contentType))) (i + 1) n :=
      hfresh.next (by omega) rfl
    obtain ⟨created, ws, b', hloop⟩ := ih hnext (by omega)
      (fun evp' hevp' => h evp' (List.mem_cons_of_mem _ hevp')) b₁
    refine ⟨_, _, b', Plan.bind_done.mpr ⟨data, [], b, _, Plan.ofExcept_done.mpr ⟨hdata, rfl, rfl⟩,
      Plan.bind_done.mpr ⟨_, _, b₁, _, savePlan_done.mpr ⟨hfresh.flush i, haccepts, [], hupload,
        rfl, rfl⟩, Plan.bind_done.mpr ⟨created, ws, b', [], hloop, rfl, rfl⟩, rfl⟩, rfl⟩⟩

/-! ## What a run persists -/

lemma persistEntitiesPlan_valid {x : RunExt} {req : RunRequest} {i : ℕ}
    {proposals : List EntityProposal} {refs refs' : PluginRunner.Refs} {created : List Entity}
    {st : Store} {b b' : Bucket} {ws : List Write}
    (h : persistEntitiesPlan py x req i proposals refs st b = (.done (refs', created) ws, b')) :
    ∀ ep ∈ proposals, ∃ data,
      EntityCreate.validate ep.type.value ep.label ep.attrs ep.confidence = .ok data := by
  induction proposals generalizing i refs created st b ws with
  | nil => exact fun _ hep => absurd hep List.not_mem_nil
  | cons ep proposals ih =>
    obtain ⟨data, _, _, _, hdata, hcall, -⟩ := Plan.bind_done.mp h
    obtain ⟨_, _, _, _, -, hrest, -⟩ := Plan.bind_done.mp hcall
    obtain ⟨⟨refs₁, created₁⟩, _, _, _, hloop, hlast, -⟩ := Plan.bind_done.mp hrest
    cases hlast
    intro ep' hep'
    rcases List.mem_cons.mp hep' with rfl | hep'
    · exact ⟨data, (Plan.ofExcept_done.mp hdata).1⟩
    · exact ih hloop ep' hep'

/-- The three loops of a run, with the refs and the stores between them. -/
structure PersistedBy (req : RunRequest) (plugin : OSINTPlugin) (result : QueryResult)
    (st st' : Store) (p : Persisted) (refs : PluginRunner.Refs) (st₁ st₂ : Store) : Prop where
  valid : ∀ ep ∈ result.entities, ∃ data,
    EntityCreate.validate ep.type.value ep.label ep.attrs ep.confidence = .ok data
  entities : Merged req.caseId result.entities [] refs st st₁ p.entities
  relationships : Linked req plugin refs result.relationships st₁ st₂ p.relationships
  evidence : EvidenceAdded req plugin result.evidence st₂ st' p.evidence

/-- The three loops, one after the other. -/
lemma persistPlan_loops {x : RunExt} {req : RunRequest} {plugin : OSINTPlugin}
    {result : QueryResult} {st : Store} {b b' : Bucket} {p : Persisted} {ws : List Write}
    (h : persistPlan py x req plugin result st b = (.done p ws, b')) :
    ∃ refs ws₁ b₁ ws₂ b₂ ws₃,
      persistEntitiesPlan py x req 0 result.entities [] st b
        = (.done (refs, p.entities) ws₁, b₁) ∧
      persistRelationshipsPlan py x req plugin refs 0 result.relationships (applyAll st ws₁) b₁
        = (.done p.relationships ws₂, b₂) ∧
      persistEvidencePlan x req plugin 0 result.evidence (applyAll (applyAll st ws₁) ws₂) b₂
        = (.done p.evidence ws₃, b') ∧
      ws = ws₁ ++ (ws₂ ++ ws₃) := by
  obtain ⟨⟨refs, entities⟩, ws₁, b₁, ws₂, hloop₁, hrest₁, rfl⟩ := Plan.bind_done.mp h
  obtain ⟨relationships, ws₃, b₂, ws₄, hloop₂, hrest₂, rfl⟩ := Plan.bind_done.mp hrest₁
  obtain ⟨evidence, ws₅, b₃, ws₆, hloop₃, hlast, rfl⟩ := Plan.bind_done.mp hrest₂
  cases hlast
  exact ⟨refs, ws₁, b₁, ws₃, b₂, ws₅, hloop₁, hloop₂, hloop₃, by rw [List.append_nil]⟩

lemma PersistedBy.of_loops {x : RunExt} {req : RunRequest} {plugin : OSINTPlugin}
    {result : QueryResult} {st : Store} {b b₁ b₂ b' : Bucket} {p : Persisted}
    {refs : PluginRunner.Refs} {ws₁ ws₂ ws₃ : List Write}
    (hentities : EntityKeysUnique st) (hrelationships : RelationshipKeysUnique st)
    (hloop₁ : persistEntitiesPlan py x req 0 result.entities [] st b
      = (.done (refs, p.entities) ws₁, b₁))
    (hloop₂ : persistRelationshipsPlan py x req plugin refs 0 result.relationships
      (applyAll st ws₁) b₁ = (.done p.relationships ws₂, b₂))
    (hloop₃ : persistEvidencePlan x req plugin 0 result.evidence
      (applyAll (applyAll st ws₁) ws₂) b₂ = (.done p.evidence ws₃, b')) :
    PersistedBy req plugin result st (applyAll st (ws₁ ++ (ws₂ ++ ws₃))) p refs
      (applyAll st ws₁) (applyAll (applyAll st ws₁) ws₂) := by
  have hmerged := persistEntitiesPlan_merged py hentities hloop₁
  have hunique : RelationshipKeysUnique (applyAll st ws₁) := by
    intro c src dst relType
    have hold := hrelationships c src dst relType
    unfold RelationshipRepository.withKey at hold ⊢
    rw [hmerged.rest.relationships]
    exact hold
  refine ⟨persistEntitiesPlan_valid py hloop₁, hmerged,
    persistRelationshipsPlan_linked py hunique hloop₂, ?_⟩
  rw [applyAll_append, applyAll_append]
  exact persistEvidencePlan_added hloop₃

lemma persistPlan_persisted {x : RunExt} {req : RunRequest} {plugin : OSINTPlugin}
    {result : QueryResult} {st : Store} {b b' : Bucket} {p : Persisted} {ws : List Write}
    (hentities : EntityKeysUnique st) (hrelationships : RelationshipKeysUnique st)
    (h : persistPlan py x req plugin result st b = (.done p ws, b')) :
    ∃ refs st₁ st₂, PersistedBy req plugin result st (applyAll st ws) p refs st₁ st₂ := by
  obtain ⟨refs, ws₁, b₁, ws₂, b₂, ws₃, hloop₁, hloop₂, hloop₃, rfl⟩ := persistPlan_loops py h
  exact ⟨refs, _, _, .of_loops py hentities hrelationships hloop₁ hloop₂ hloop₃⟩

section PersistedBy

variable {req : RunRequest} {plugin : OSINTPlugin} {result : QueryResult} {st st' : Store}
variable {p : Persisted} {refs : PluginRunner.Refs} {st₁ st₂ : Store}

/-- The entities after the run are those after the first loop. -/
lemma PersistedBy.entities_eq (h : PersistedBy req plugin result st st' p refs st₁ st₂) :
    st'.entities = st₁.entities :=
  h.evidence.same.entities.trans h.relationships.same.entities

lemma PersistedBy.runs_eq (h : PersistedBy req plugin result st st' p refs st₁ st₂) :
    st'.runs = st.runs :=
  (h.evidence.same.runs.trans h.relationships.same.runs).trans h.entities.rest.runs

/-- Each table has grown by the rows that are reported. -/
lemma PersistedBy.lengths (h : PersistedBy req plugin result st st' p refs st₁ st₂) :
    st'.entities.rows.length = st.entities.rows.length + p.entities.length ∧
      st'.relationships.rows.length = st.relationships.rows.length + p.relationships.length ∧
        st'.evidence.rows.length = st.evidence.rows.length + p.evidence.length := by
  refine ⟨?_, ?_, ?_⟩
  · have hrows := congrArg List.length h.entities.rows
    rw [List.length_map, List.length_map, List.length_append] at hrows
    rw [h.entities_eq, hrows]
  · rw [h.evidence.same.relationships, h.relationships.rows, List.length_append,
      h.entities.rest.relationships]
  · rw [h.evidence.rows, List.length_append, h.relationships.same.evidence,
      h.entities.rest.evidence]

/-- The entity proposals are known now. -/
lemma PersistedBy.known (h : PersistedBy req plugin result st st' p refs st₁ st₂) :
    EntitiesKnown st₁ req.caseId result.entities := by
  intro ep hep
  refine ⟨h.valid ep hep, ?_⟩
  have hmem : (ep.key, ep.confidence) ∈ upsertsOf result.entities := List.mem_map.mpr ⟨ep, hep, rfl⟩
  rw [h.entities.confidence]
  exact mem_le_raiseAll hmem (confidenceAt st req.caseId)

end PersistedBy

/-! ## The refs of both runs -/

/-- A ref leads to the row of its key, so it leads to the same row twice. -/
lemma MergedCase.refs_agree {caseId : UUID} {proposals : List EntityProposal}
    {st st₁ t t₁ : Store} {refs refs' : PluginRunner.Refs} {created created' : List Entity}
    (h : MergedCase caseId proposals st st₁ refs created)
    (h' : MergedCase caseId proposals t t₁ refs' created')
    (hentities : t₁.entities = st₁.entities) (hunique : EntityKeysUnique st₁) {ref : String}
    {e : Entity} (hlookup : refs.lookup ref = some e) :
    ∃ e', refs'.lookup ref = some e' ∧ e'.id = e.id := by
  have hkey := (h'.ref_key ref).trans (h.ref_key ref).symm
  rw [hlookup, Option.map_some] at hkey
  obtain ⟨e', he', hsame⟩ := Option.map_eq_some_iff.mp hkey
  obtain ⟨row, hrow, hid, hrowKey⟩ := h.ref_row ref e hlookup
  obtain ⟨row', hrow', hid', hrowKey'⟩ := h'.ref_row ref e' he'
  have hin : row' ∈ EntityRepository.inCase st₁ caseId none := by
    unfold EntityRepository.inCase at hrow' ⊢
    rw [← hentities]
    exact hrow'
  have hmem : row ∈ keyRows st₁ caseId e.key := mem_keyRows.mpr ⟨hrow, hrowKey⟩
  have hmem' : row' ∈ keyRows st₁ caseId e.key :=
    mem_keyRows.mpr ⟨hin, hrowKey'.trans hsame⟩
  have hone : (keyRows st₁ caseId e.key).length ≤ 1 := hunique caseId e.key.1 e.key.2
  have heq : row' = row := by
    obtain ⟨r, hr⟩ := List.length_eq_one_iff.mp (le_antisymm hone (List.length_pos_of_mem hmem))
    rw [hr] at hmem hmem'
    rw [List.mem_singleton.mp hmem', List.mem_singleton.mp hmem]
  exact ⟨e', he', by rw [← hid', heq, hid]⟩

/-- An endpoint is resolved to the same row again. -/
lemma resolveRef_again {ref : PyDict} {input again e : Entity} {refs refs' : PluginRunner.Refs}
    (hid : again.id = input.id)
    (hrefs : ∀ {key e}, refs.lookup key = some e → ∃ e', refs'.lookup key = some e' ∧ e'.id = e.id)
    (h : PluginRunner.resolveRef ref input refs = .ok e) :
    ∃ e', PluginRunner.resolveRef ref again refs' = .ok e' ∧ e'.id = e.id := by
  unfold PluginRunner.resolveRef at h ⊢
  split at h
  · cases h
    exact ⟨again, by rw [if_pos ‹_›], hid⟩
  · rw [if_neg ‹_›]
    split at h
    · rw [if_pos ‹_›]
      split at h
      · split at h
        · cases h
          obtain ⟨e', he', hsame⟩ := hrefs ‹_›
          exact ⟨e', by rw [he'], hsame⟩
        · cases h
      · cases h
      · cases h
      · cases h
    · cases h

/-! ## The work again -/

/-- The input of the run, loaded again. -/
def RunRequest.again (req : RunRequest) (input : Entity) : RunRequest :=
  { req with inputEntity := input }

/-- The relationship proposals are known, whatever the loop over the entity proposals answers. -/
lemma PersistedBy.linked {req : RunRequest} {plugin : OSINTPlugin} {result : QueryResult}
    {st st' t : Store} {p : Persisted} {refs refs' : PluginRunner.Refs} {st₁ st₂ : Store}
    (h : PersistedBy req plugin result st st' p refs st₁ st₂) {input : Entity}
    (hid : input.id = req.inputEntity.id) (hrelationships : t.relationships = st₂.relationships)
    (hrefs : ∀ {key e}, refs.lookup key = some e →
      ∃ e', refs'.lookup key = some e' ∧ e'.id = e.id) :
    RelationshipsKnown t (req.again input) plugin refs' result.relationships := by
  intro rp hrp
  obtain ⟨src, dst, data, hproposed, hrow⟩ := h.relationships.found rp hrp
  obtain ⟨src', hsrc, hsrcId⟩ := resolveRef_again hid hrefs hproposed.resolves_src
  obtain ⟨dst', hdst, hdstId⟩ := resolveRef_again hid hrefs hproposed.resolves_dst
  have hvalidates := hproposed.validates
  rw [← hsrcId, ← hdstId] at hvalidates
  refine ⟨src', dst', data, ⟨hsrc, hdst, hvalidates⟩, ?_⟩
  unfold HasRow RelationshipRepository.withKey at hrow ⊢
  rw [hrelationships]
  exact hrow

/-- What a second run with `n` evidence proposals meets: no statement is lost, and the ids are
new. -/
structure Undisturbed (x : RunExt) (st : Store) (n : ℕ) : Prop where
  auditCommit : x.auditCommit = false
  auditRefresh : x.auditRefresh = false
  credential : x.credential = false
  entity : ∀ i, (x.entity i).lookup = false
  relationship : ∀ i, (x.relationship i).lookup = false
  evidence : FreshEvidence x st 0 n
  persistCommit : x.persistCommit = false
  finalCommit : x.finalCommit = false
  finalRefresh : x.finalRefresh = false

/-- The loops over the same result, on the data that the first run has left: only evidence. -/
theorem PersistedBy.again {req : RunRequest} {plugin : OSINTPlugin} {result : QueryResult}
    {st st' : Store} {p : Persisted} {refs : PluginRunner.Refs} {st₁ st₂ : Store}
    (h : PersistedBy req plugin result st st' p refs st₁ st₂) {x : RunExt} {t : Store}
    (hx : Undisturbed x t result.evidence.length) (hdata : PluginRunner.SameData st' t)
    {input : Entity} (hid : input.id = req.inputEntity.id) (b : Bucket) :
    ∃ created ws b', persistPlan py x (req.again input) plugin result t b
        = (.done ⟨[], [], created⟩ ws, b') ∧
      EvidenceAdded (req.again input) plugin result.evidence t (applyAll t ws) created ∧
        ∃ refs' u₁ u₂, PersistedBy (req.again input) plugin result t (applyAll t ws)
          ⟨[], [], created⟩ refs' u₁ u₂ := by
  have hentities : t.entities = st₁.entities := hdata.entities.trans h.entities_eq
  have hrelationships : t.relationships = st₂.relationships :=
    hdata.relationships.trans h.evidence.same.relationships
  have hunique : EntityKeysUnique t := by
    intro caseId type label
    have hold := h.entities.unique caseId type label
    unfold EntityRepository.withKey at hold ⊢
    rw [hentities]
    exact hold
  have hkeys : RelationshipKeysUnique t := by
    intro c src dst relType
    have hold := h.relationships.unique c src dst relType
    unfold RelationshipRepository.withKey at hold ⊢
    rw [hrelationships]
    exact hold
  have hknown : EntitiesKnown t req.caseId result.entities := by
    intro ep hep
    obtain ⟨hvalid, hle⟩ := h.known ep hep
    refine ⟨hvalid, ?_⟩
    unfold confidenceAt keyRows EntityRepository.withKey at hle ⊢
    rw [hentities]
    exact hle
  -- the first loop finds every key
  have hknown' : EntitiesKnown t (req.again input).caseId result.entities := hknown
  obtain ⟨refs', hloop₁⟩ := persistEntitiesPlan_known py hx.entity hunique hknown' 0 [] b
  have hmerged := persistEntitiesPlan_merged py hunique hloop₁
  have hrefs : ∀ {key e}, refs.lookup key = some e →
      ∃ e', refs'.lookup key = some e' ∧ e'.id = e.id := fun hlookup =>
    MergedCase.refs_agree h.entities.case hmerged.case hentities h.entities.unique hlookup
  -- so the second one meets the same endpoints, and finds every key too
  have hloop₂ := persistRelationshipsPlan_known py hx.relationship hkeys
    (h.linked hid hrelationships hrefs) 0 b
  have hfits : ∀ evp ∈ result.evidence, EvidenceFits t.entities (req.again input) plugin evp := by
    intro evp hevp
    have hfits₂ := h.evidence.fits evp hevp
    unfold EvidenceFits at hfits₂ ⊢
    rw [hentities, ← h.relationships.same.entities]
    simp only [RunRequest.again, hid]
    exact hfits₂
  obtain ⟨created, ws, b', hloop₃⟩ :=
    persistEvidencePlan_fits hx.evidence (Nat.zero_add _).le hfits b
  have hdone : persistPlan py x (req.again input) plugin result t b
      = (.done ⟨[], [], created⟩ ws, b') := by
    refine Plan.bind_done.mpr ⟨(refs', []), [], b, ws, hloop₁, ?_, rfl⟩
    refine Plan.bind_done.mpr ⟨[], [], b, ws, hloop₂, ?_, rfl⟩
    exact Plan.bind_done.mpr ⟨created, ws, b', [], hloop₃, rfl, (List.append_nil _).symm⟩
  exact ⟨created, ws, b', hdone, persistEvidencePlan_added hloop₃,
    persistPlan_persisted py hunique hkeys hdone⟩

/-- The credentials that a run resolves, and resolves again. -/
lemma credentialsPlan_again {x x' : RunExt} {req : RunRequest} {plugin : OSINTPlugin}
    {credentials : Option PyDict} {st : Store} {b b' : Bucket} {ws : List Write}
    (h : credentialsPlan x req plugin st b = (.done credentials ws, b'))
    (hx : x'.credential = false) (input : Entity) (t : Store) (c : Bucket) :
    (ws = [] ∧ b' = b) ∧
      credentialsPlan x' (req.again input) plugin t c = (.done credentials [], c) := by
  unfold credentialsPlan at h ⊢
  have hasked : (req.again input).credentials = req.credentials := rfl
  have huser : (req.again input).createdBy = req.createdBy := rfl
  rw [hasked, huser]
  revert h
  cases plugin.requiresCredentials with
  | false =>
    intro h
    cases h
    exact ⟨⟨rfl, rfl⟩, rfl⟩
  | true =>
    cases req.credentials with
    | some given =>
      intro h
      cases h
      exact ⟨⟨rfl, rfl⟩, rfl⟩
    | none =>
      cases req.createdBy with
      | none =>
        intro h
        cases h
        exact ⟨⟨rfl, rfl⟩, rfl⟩
      | some user =>
        intro h
        obtain ⟨-, hkey⟩ := Plan.lookup_done.mp h
        cases hvault : req.vault user plugin.name with
        | error e =>
          rw [hvault] at hkey
          cases hkey
        | ok decrypted =>
          rw [hvault] at hkey
          cases decrypted with
          | none => cases hkey
          | some key =>
            cases hkey
            refine ⟨⟨rfl, rfl⟩, Plan.lookup_done.mpr ⟨hx, ?_⟩⟩
            rw [show (req.again input).vault = req.vault from rfl, hvault]
            rfl

/-- What the work of a run that went through comes to. -/
lemma workPlan_done {x : RunExt} {req : RunRequest} {plugin : OSINTPlugin} {st : Store}
    {b : Bucket} {p : Persisted} {ws : List Write}
    (h : (workPlan py x req plugin st b).1 = .done p ws) :
    ∃ credentials answer b',
      credentialsPlan x req plugin st b = (.done credentials [], b) ∧
        PluginRunner.queryPlugin req plugin credentials = .ok answer ∧
          persistPlan py x req plugin answer st b = (.done p ws, b') := by
  obtain ⟨credentials, ws₁, b₁, ws₂, hcredentials, hrest, rfl⟩ :=
    Plan.bind_done.mp (Prod.ext h rfl : workPlan py x req plugin st b = (.done p ws, _))
  obtain ⟨answer, ws₃, b₂, ws₄, hquery, hpersist, rfl⟩ := Plan.bind_done.mp hrest
  obtain ⟨hanswer, rfl, rfl⟩ := Plan.ofExcept_done.mp hquery
  have hcalm : ({ x with credential := false } : RunExt).credential = false := rfl
  obtain ⟨⟨rfl, rfl⟩, -⟩ := credentialsPlan_again hcredentials hcalm req.inputEntity st b
  exact ⟨credentials, answer, _, hcredentials, hanswer, hpersist⟩

lemma queryPlugin_answer {req : RunRequest} {plugin : OSINTPlugin} {credentials : Option PyDict}
    {answer : QueryResult} (h : PluginRunner.queryPlugin req plugin credentials = .ok answer) :
    plugin.query req.inputEntity credentials = .ok answer := by
  unfold PluginRunner.queryPlugin at h
  cases hquery : plugin.query req.inputEntity credentials with
  | error e =>
    rw [hquery] at h
    cases h
  | ok result =>
    rw [hquery] at h
    change (if _ then _ else _) = _ at h
    split at h
    · cases h
    · cases h
      rfl

/-! ## Two runs -/

/-- The audit row of a run counts the rows that the run has added. -/
structure CountsRows (st st' : Store) (run : PluginRun) : Prop where
  find : st'.runs.find run.id = some run
  entities : st'.entities.rows.length = st.entities.rows.length + run.entitiesCreatedCount
  relationships : st'.relationships.rows.length
    = st.relationships.rows.length + run.relationshipsCreatedCount
  evidence : st'.evidence.rows.length = st.evidence.rows.length + run.evidenceCount

/-- A run that has added its evidence, and nothing else. -/
structure OnlyEvidence (result : QueryResult) (st st' : Store) (r : RunResult) : Prop where
  entitiesCreated : r.entitiesCreated = []
  relationshipsCreated : r.relationshipsCreated = []
  entities : st'.entities = st.entities
  relationships : st'.relationships = st.relationships
  graph : st'.graph = st.graph
  evidence : st'.evidence.rows = st.evidence.rows ++ r.evidenceCreated
  length : r.evidenceCreated.length = result.evidence.length

section Rerun

variable {x : RunExt} {req : RunRequest} {plugin : OSINTPlugin} {existingRun : Option PluginRun}
variable {s s' : Session Store Write Bucket} {r : RunResult} {run : PluginRun} {p : Persisted}
variable {begun : Session Store Write Bucket} {ws : List Write} {result : QueryResult}
variable {refs : PluginRunner.Refs} {st₁ st₂ : Store}

open PluginRunner in
lemma PersistedBy.counts
    (h : PersistedBy req plugin result begun.committed (applyAll begun.committed ws) p refs st₁ st₂)
    (hwent : WentThrough py x req plugin existingRun s s' r run p begun ws)
    (hstarted : Started s run begun) : CountsRows s.committed s'.committed r.run := by
  obtain ⟨hentities, hrelationships, hevidence⟩ := h.lengths
  have hfind : (applyAll begun.committed ws).runs.find run.id = some run := by
    rw [h.runs_eq]
    exact hstarted.find
  rw [hwent.committed, hwent.result]
  refine ⟨find_succeeded hfind p, ?_, ?_, ?_⟩
  · rw [← hstarted.data.entities]
    exact hentities
  · rw [← hstarted.data.relationships]
    exact hrelationships
  · rw [← hstarted.data.evidence]
    exact hevidence

end Rerun

open PluginRunner in
/-- **Running a plugin again adds evidence and nothing else.** After a run that goes through, a
run on the same input with the same result goes through too, if nothing that it meets stands in
its way, and the audit rows of both count what they have added. -/
theorem rerun_idempotent {x x' : RunExt} {req : RunRequest} {plugin : OSINTPlugin}
    {result : QueryResult} {input : Entity} {existingRun existingRun' : Option PluginRun}
    {s s' t : Session Store Write Bucket} {r : RunResult} (hs : s.Idle)
    (hentities : EntityKeysUnique s.committed) (hrelationships : RelationshipKeysUnique s.committed)
    (hexisting : ∀ r, existingRun = some r → s.committed.runs.find r.id = some r ∧ NoCounts r)
    (hget : req.registry.get req.pluginName = .ok plugin)
    (hresult : ∀ credentials answer, plugin.query req.inputEntity credentials = .ok answer →
      answer = result)
    (hrun : PluginRunner.run py x req existingRun s = (.ok r, s'))
    (hid : input.id = req.inputEntity.id) (htype : input.type = req.inputEntity.type)
    (hsame : plugin.query input = plugin.query req.inputEntity) (ht : t.Idle)
    (hcommitted : t.committed = s'.committed)
    (hexisting' : ∀ r, existingRun' = some r → t.committed.runs.find r.id = some r ∧ NoCounts r)
    (haccepts : existingRun' = none → t.committed.accepts
      (.insertRun (newRun x' (req.again input) plugin)) = true)
    (hx : Undisturbed x' t.committed result.evidence.length) :
    CountsRows s.committed s'.committed r.run ∧
      ∃ r' t', PluginRunner.run py x' (req.again input) existingRun' t = (.ok r', t') ∧
        OnlyEvidence result t.committed t'.committed r' ∧
          CountsRows t.committed t'.committed r'.run := by
  -- the first run
  obtain ⟨plugin₀, run, p, begun, ws, hwent⟩ := run_ok py hs hexisting hrun
  have hstarted := start_started hs hexisting hwent.start
  obtain ⟨hget₀, hallowed, hcheck, -⟩ := start_ok.mp hwent.start
  obtain rfl : plugin₀ = plugin := Except.ok.inj (hget₀.symm.trans hget)
  obtain ⟨credentials, answer, b', hcredentials, hanswer, hpersist⟩ := workPlan_done py hwent.work
  obtain rfl := hresult credentials answer (queryPlugin_answer hanswer)
  have hkeys : EntityKeysUnique begun.committed := by
    intro caseId type label
    have hold := hentities caseId type label
    unfold EntityRepository.withKey at hold ⊢
    rw [hstarted.data.entities]
    exact hold
  have hlinks : RelationshipKeysUnique begun.committed := by
    intro c src dst relType
    have hold := hrelationships c src dst relType
    unfold RelationshipRepository.withKey at hold ⊢
    rw [hstarted.data.relationships]
    exact hold
  obtain ⟨refs, st₁, st₂, hpersisted⟩ := persistPlan_persisted py hkeys hlinks hpersist
  refine ⟨hpersisted.counts py hwent hstarted, ?_⟩
  -- the second one gets to its work
  have hrow : ∃ run' begun', auditRow x' (req.again input) plugin₀ existingRun' t
      = (.ok run', begun') := by
    cases hfound : existingRun' with
    | none => exact ⟨_, _, auditRow_new ht (haccepts hfound) hx.auditCommit hx.auditRefresh⟩
    | some row => exact auditRow_taken ht (hexisting' row hfound).1 hx.auditCommit
  obtain ⟨run', begun', hrow⟩ := hrow
  have hcheck' : checkInputType plugin₀ input = .ok () := by
    unfold checkInputType at hcheck ⊢
    rw [htype]
    exact hcheck
  have hstart' : start x' (req.again input) existingRun' t = (.ok (plugin₀, run'), begun') :=
    start_ok.mpr ⟨hget, hallowed, hcheck', hrow⟩
  have hstarted' := start_started ht hexisting' hstart'
  -- its work adds the evidence
  have hdata : SameData (applyAll begun.committed ws) begun'.committed := by
    obtain ⟨he, hr, hev, hg⟩ := hstarted'.data
    rw [hcommitted, hwent.committed] at he hr hev hg
    exact ⟨he, hr, hev, hg⟩
  have hx' : Undisturbed x' begun'.committed answer.evidence.length := by
    refine { hx with evidence := ⟨hx.evidence.flush, hx.evidence.blob, fun j hj hn => ?_,
      hx.evidence.distinct⟩ }
    rw [hstarted'.data.evidence]
    exact hx.evidence.new j hj hn
  obtain ⟨created, ws', b'', hpersist', hadded, refs', u₁, u₂, hpersisted'⟩ :=
    hpersisted.again py hx' hdata hid begun'.outside
  obtain ⟨-, hcredentials'⟩ := credentialsPlan_again hcredentials hx.credential input
    begun'.committed begun'.outside
  have hanswer' : queryPlugin (req.again input) plugin₀ credentials = .ok answer := by
    unfold queryPlugin at hanswer ⊢
    rw [show (req.again input).inputEntity = input from rfl, hsame]
    exact hanswer
  have hwork' : workPlan py x' (req.again input) plugin₀ begun'.committed begun'.outside
      = (.done ⟨[], [], created⟩ ws', b'') :=
    Plan.bind_done.mpr ⟨credentials, [], begun'.outside, ws', hcredentials', Plan.bind_done.mpr
      ⟨answer, [], begun'.outside, ws', Plan.ofExcept_done.mpr ⟨hanswer', rfl, rfl⟩, hpersist',
        rfl⟩, rfl⟩
  obtain ⟨t', hrun', hcommitted'⟩ := run_of_done py ht hexisting' hstart'
    (congrArg Prod.fst hwork') hx.persistCommit hx.finalCommit hx.finalRefresh
  have hwent' : WentThrough py x' (req.again input) plugin₀ existingRun' t t' _ run'
      ⟨[], [], created⟩ begun' ws' := ⟨hstart', congrArg Prod.fst hwork', rfl, hcommitted'⟩
  refine ⟨_, t', hrun', ?_, hpersisted'.counts py hwent' hstarted'⟩
  rw [hcommitted']
  refine ⟨rfl, rfl, ?_, ?_, ?_, ?_, hadded.length⟩
  · exact hadded.same.entities.trans hstarted'.data.entities
  · exact hadded.same.relationships.trans hstarted'.data.relationships
  · exact hadded.same.graph.trans hstarted'.data.graph
  · rw [← hstarted'.data.evidence]
    exact hadded.rows

/-! ### Two runs -/

/-- Refs and labels that repeat, the input's own label, and a link from the input to itself. -/
def overlappingResult : QueryResult where
  entities := overlapping
  relationships :=
    [⟨[("input", .bool true)], [("ref", .str "b")], .associatedWith, 1, []⟩,
      ⟨[("ref", .str "a")], [("input", .bool true)], .associatedWith, 1, []⟩]
  evidence := [⟨"q", [], none, [], true⟩]

/-- Another world in which every statement gets through. -/
def calmAgain : RunExt where
  newId := 109
  startedAt := 2
  finishedAt := 3
  entity i := { newId := 110 + i, now := 2 }
  relationship i := { newId := 120 + i, now := 2 }
  evidence i := { newId := 130 + i, now := 2 }
  blob _ := {}

theorem rerun_idempotent_overlapping :
    ∃ r s', PluginRunner.run plainInterp calm (domainRequest overlappingResult) none domainSession
        = (.ok r, s') ∧
      CountsRows domainSession.committed s'.committed r.run ∧
      ∃ r' t', PluginRunner.run plainInterp calmAgain
          ((domainRequest overlappingResult).again exampleDomain) none
          ⟨s'.committed, [], false, s'.outside⟩ = (.ok r', t') ∧
        OnlyEvidence overlappingResult s'.committed t'.committed r' ∧
          CountsRows s'.committed t'.committed r'.run := by
  have hok : (PluginRunner.run plainInterp calm (domainRequest overlappingResult) none
      domainSession).1.isOk = true := by decide +kernel
  have hruns : (PluginRunner.run plainInterp calm (domainRequest overlappingResult) none
      domainSession).2.committed.runs.has 109 = false := by decide +kernel
  have hevidence : (PluginRunner.run plainInterp calm (domainRequest overlappingResult) none
      domainSession).2.committed.evidence.has 130 = false := by decide +kernel
  cases hrun : PluginRunner.run plainInterp calm (domainRequest overlappingResult) none
      domainSession with
  | mk answer s' =>
    rw [hrun] at hok hruns hevidence
    cases answer with
    | error e => cases hok
    | ok r =>
      refine ⟨r, s', rfl, ?_⟩
      have hentities : EntityKeysUnique domainSession.committed := fun caseId type label =>
        List.length_filter_le _ domainStore.entities.rows
      have hrelationships : RelationshipKeysUnique domainSession.committed :=
        fun caseId src dst relType => Nat.zero_le 1
      have hfresh : FreshEvidence calmAgain s'.committed 0 1 := by
        refine ⟨fun j => rfl, fun j => ⟨rfl, rfl⟩, fun j _ hj => ?_, fun j k hj hk _ => by omega⟩
        obtain rfl : j = 0 := by omega
        exact hevidence
      have hget : (domainRequest overlappingResult).registry.get "p"
          = .ok (domainPlugin overlappingResult) := rfl
      refine rerun_idempotent plainInterp domainSession_idle hentities hrelationships
        (by intro _ h; cases h) hget
        (fun credentials answer h => (Except.ok.inj h).symm) hrun rfl rfl rfl ⟨rfl, rfl⟩ rfl
        (by intro _ h; cases h) (fun _ => ?_)
        ⟨rfl, rfl, rfl, fun i => rfl, fun i => rfl, hfresh, rfl, rfl, rfl⟩
      simp only [Store.accepts, Bool.and_eq_true, Bool.not_eq_true']
      exact ⟨⟨hruns, by decide⟩, by decide⟩

end Sleuthgraph
