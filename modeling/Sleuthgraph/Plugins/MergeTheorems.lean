import Sleuthgraph.Lib.Upserts
import Sleuthgraph.Plugins.RunnerTheorems

/-!
# What the entity proposals of a run add up to (`plugins/runner.py`)

The loop over the entity proposals calls `get_or_create` for each. On the confidences of a case's
keys that is a list of upserts that keep the maximum, so it comes to the same in any order; on the
rows it adds one for each key that had none.
-/

namespace Sleuthgraph

open Programs Transactions Tables Upserts

/-! ## Keys and confidences -/

/-- What `get_or_create` tells the live entities of a case apart by. -/
def Entity.key (e : Entity) : String × String := (e.type, e.label)

def EntityProposal.key (ep : EntityProposal) : String × String := (ep.type.value, ep.label)

def EntityCreate.key (data : EntityCreate) : String × String := (data.type.value, data.label)

/-- The columns that a bump leaves: all but the confidence and `updated_at`. -/
def Entity.fixed (e : Entity) : Entity := { e with confidence := 0, updatedAt := 0 }

/-- At most one live entity for each key. -/
def EntityKeysUnique (st : Store) : Prop :=
  ∀ caseId type label, (EntityRepository.withKey st caseId type label).length ≤ 1

/-- The live entities of a key. -/
abbrev keyRows (st : Store) (caseId : UUID) (k : String × String) : List Entity :=
  EntityRepository.withKey st caseId k.1 k.2

/-- The confidence of a key, if a live entity has it. -/
def confidenceAt (st : Store) (caseId : UUID) (k : String × String) : WithBot ℚ :=
  match keyRows st caseId k with
  | [] => ⊥
  | e :: _ => (e.confidence : WithBot ℚ)

/-- The rows of a key, up to confidences. -/
lemma map_fixed_keyRows (st : Store) (caseId : UUID) (k : String × String) :
    (keyRows st caseId k).map Entity.fixed = (st.entities.rows.map Entity.fixed).filter fun e =>
      e.caseId = caseId && e.type = k.1 && e.label = k.2 && e.live := by
  rw [List.filter_map]
  rfl

/-- The live rows of a case, up to confidences. -/
lemma map_fixed_inCase (st : Store) (caseId : UUID) :
    (EntityRepository.inCase st caseId none).map Entity.fixed
      = (st.entities.rows.map Entity.fixed).filter fun e => e.caseId = caseId && e.live := by
  rw [List.filter_map, EntityRepository.inCase]
  congr 1
  refine List.filter_congr fun e _ => ?_
  exact Bool.and_true _

lemma mem_inCase {st : Store} {caseId : UUID} {e : Entity} :
    e ∈ EntityRepository.inCase st caseId none ↔
      e ∈ st.entities ∧ e.caseId = caseId ∧ e.live = true := by
  simp [EntityRepository.inCase, Table.mem_iff]

lemma mem_keyRows {st : Store} {caseId : UUID} {k : String × String} {e : Entity} :
    e ∈ keyRows st caseId k ↔ e ∈ EntityRepository.inCase st caseId none ∧ e.key = k := by
  rw [mem_inCase, keyRows, EntityRepository.withKey, List.mem_filter, Table.mem_iff]
  simp only [Bool.and_eq_true, decide_eq_true_eq, Entity.key, Prod.ext_iff]
  tauto

/-! ## One call -/

/-- The other tables. -/
structure SameRest (st st' : Store) : Prop where
  relationships : st'.relationships = st.relationships
  evidence : st'.evidence = st.evidence
  runs : st'.runs = st.runs

lemma SameRest.refl (st : Store) : SameRest st st := ⟨rfl, rfl, rfl⟩

lemma SameRest.trans {st st' st'' : Store} (h : SameRest st st') (h' : SameRest st' st'') :
    SameRest st st'' :=
  ⟨h'.relationships.trans h.relationships, h'.evidence.trans h.evidence, h'.runs.trans h.runs⟩

/-- What a `get_or_create` that returns has done: added a row, bumped the one it found, or left
everything as it was. -/
inductive Got (x : Ext) (caseId : UUID) (createdBy : Option UUID) (data : EntityCreate)
    (st : Store) : Entity × Bool → List Write → Store → Prop
  | created {ws : List Write} {st' : Store}
      (hnone : keyRows st caseId data.key = [])
      (hnew : st.entities.has x.newId = false)
      (hentities : st'.entities
        = st.entities.insert (EntityRepository.newEntity x caseId createdBy data))
      (hrest : SameRest st st') :
      Got x caseId createdBy data st (EntityRepository.newEntity x caseId createdBy data, true)
        ws st'
  | bumped {ws : List Write} {st' : Store} (existing : Entity)
      (hone : keyRows st caseId data.key = [existing])
      (hlt : existing.confidence < data.confidence)
      (hentities : st'.entities = st.entities.modify existing.id
        ((EntityRepository.confidenceChange data.confidence).set x.now) fun _ => rfl)
      (hrest : SameRest st st') :
      Got x caseId createdBy data st ({ existing with confidence := data.confidence }, false) ws st'
  | kept (existing : Entity) (hone : keyRows st caseId data.key = [existing])
      (hle : data.confidence ≤ existing.confidence) :
      Got x caseId createdBy data st (existing, false) [] st

variable {O : Type} (py : Interp)

lemma getOrCreatePlan_got {x : Ext} {caseId : UUID} {createdBy : Option UUID}
    {data : EntityCreate} {st : Store} {o o' : O} {answer : Entity × Bool} {ws : List Write}
    (h : getOrCreatePlan py x caseId createdBy data st o = (.done answer ws, o')) :
    Got x caseId createdBy data st answer ws (applyAll st ws) := by
  obtain ⟨-, h⟩ := Plan.lookup_done.mp h
  cases hrows : scalarOneOrNone (EntityRepository.withKey st caseId data.type.value data.label) with
  | error e =>
    rw [hrows] at h
    cases h
  | ok found =>
    rw [hrows] at h
    cases found with
    | none =>
      obtain ⟨-, haccepts, ops, hops, rfl, rfl⟩ := savePlan_done.mp h
      obtain ⟨-, -, c, -, rfl⟩ := mirrored_ok.mp hops
      exact .created (scalarOneOrNone_none hrows) (accepts_insertEntity haccepts) rfl
        ⟨rfl, rfl, rfl⟩
    | some existing =>
      have hone : keyRows st caseId data.key = [existing] := scalarOneOrNone_some hrows
      dsimp only at h
      split at h
      · rename_i hlt
        obtain ⟨-, -, ops, hops, rfl, rfl⟩ := savePlan_done.mp h
        obtain ⟨-, -, c, -, rfl⟩ := mirrored_ok.mp hops
        exact .bumped existing hone hlt rfl ⟨rfl, rfl, rfl⟩
      · rename_i hle
        cases h
        exact .kept existing hone (not_lt.mp hle)

/-! ## What one call keeps -/

section Got

variable {x : Ext} {caseId : UUID} {createdBy : Option UUID} {data : EntityCreate}
variable {st st' : Store} {entity : Entity} {wasCreated : Bool} {ws : List Write}

/-- A bump, on the rows it may meet. -/
lemma map_fixed_bump (t : Table Entity) (id : UUID) (confidence : ℚ) (now : Time) :
    (t.modify id ((EntityRepository.confidenceChange confidence).set now) fun _ => rfl).rows.map
      Entity.fixed = t.rows.map Entity.fixed := by
  show (t.rows.map _).map Entity.fixed = _
  rw [List.map_map]
  refine List.map_congr_left fun r _ => ?_
  rw [Function.comp_apply]
  split
  · rfl
  · rfl

/-- The rows are the old ones, and the one created. -/
lemma Got.rows (h : Got x caseId createdBy data st (entity, wasCreated) ws st') :
    st'.entities.rows.map Entity.fixed = st.entities.rows.map Entity.fixed
      ++ (if wasCreated then [entity] else []).map Entity.fixed := by
  cases h with
  | created hnone hnew hentities hrest =>
    rw [hentities, Table.rows_insert hnew, List.map_append]
    rfl
  | bumped existing hone hlt hentities hrest =>
    rw [hentities, map_fixed_bump, if_neg Bool.false_ne_true, List.map_nil, List.append_nil]
  | kept existing hone hle => rw [if_neg Bool.false_ne_true, List.map_nil, List.append_nil]

/-- What is created is new under its key. -/
lemma Got.of_created (h : Got x caseId createdBy data st (entity, true) ws st') :
    keyRows st caseId data.key = [] ∧
      entity = EntityRepository.newEntity x caseId createdBy data := by
  cases h with
  | created hnone hnew hentities hrest => exact ⟨hnone, rfl⟩

/-- What is not created is the one row of its key, up to its confidence. -/
lemma Got.of_found (h : Got x caseId createdBy data st (entity, false) ws st') :
    ∃ existing, keyRows st caseId data.key = [existing] ∧ entity.fixed = existing.fixed := by
  cases h with
  | bumped existing hone hlt hentities hrest => exact ⟨existing, hone, rfl⟩
  | kept existing hone hle => exact ⟨entity, hone, rfl⟩

/-- The entity that is answered is a live row of the case with the key. -/
lemma Got.row (h : Got x caseId createdBy data st (entity, wasCreated) ws st') :
    entity.fixed ∈ (EntityRepository.inCase st' caseId none).map Entity.fixed ∧
      entity.key = data.key := by
  have hlive : ∀ {e : Entity}, e.fixed ∈ st'.entities.rows.map Entity.fixed →
      e.caseId = caseId → e.live = true →
        e.fixed ∈ (EntityRepository.inCase st' caseId none).map Entity.fixed := by
    intro e hmem hcase hlive
    rw [map_fixed_inCase]
    refine List.mem_filter.mpr ⟨hmem, ?_⟩
    rw [Bool.and_eq_true, decide_eq_true_eq]
    exact ⟨hcase, hlive⟩
  have hrows := h.rows
  cases h with
  | created hnone hnew hentities hrest =>
    refine ⟨hlive ?_ rfl rfl, rfl⟩
    rw [hrows]
    exact List.mem_append_right _ (List.mem_singleton_self _)
  | bumped existing hone hlt hentities hrest =>
    have hmem : existing ∈ keyRows st caseId data.key := hone ▸ List.mem_singleton_self existing
    obtain ⟨hin, hkey⟩ := mem_keyRows.mp hmem
    obtain ⟨hrow, hcase, halive⟩ := mem_inCase.mp hin
    refine ⟨hlive ?_ hcase halive, hkey⟩
    have hfixed : existing.fixed ∈ st.entities.rows.map Entity.fixed := List.mem_map_of_mem hrow
    rw [hrows]
    exact List.mem_append_left _ hfixed
  | kept _ hone hle =>
    have hmem : entity ∈ keyRows st caseId data.key := hone ▸ List.mem_singleton_self entity
    obtain ⟨hin, hkey⟩ := mem_keyRows.mp hmem
    exact ⟨List.mem_map_of_mem hin, hkey⟩

lemma Got.rest (h : Got x caseId createdBy data st (entity, wasCreated) ws st') :
    SameRest st st' := by
  cases h with
  | created hnone hnew hentities hrest => exact hrest
  | bumped existing hone hlt hentities hrest => exact hrest
  | kept _ hone hle => exact SameRest.refl _

/-- The rows of a key, after a call that creates none. -/
lemma length_keyRows_of_same (h : st'.entities.rows.map Entity.fixed
      = st.entities.rows.map Entity.fixed) (c : UUID) (k : String × String) :
    (keyRows st' c k).length = (keyRows st c k).length := by
  have hrows := congrArg List.length ((map_fixed_keyRows st' c k).trans
    ((congrArg _ h).trans (map_fixed_keyRows st c k).symm))
  rw [List.length_map, List.length_map] at hrows
  exact hrows

/-- The rows of a key, after a row is added. -/
lemma keyRows_insert {e : Entity} (hnew : st.entities.has (pk e) = false)
    (hentities : st'.entities = st.entities.insert e) (c : UUID) (k : String × String) :
    keyRows st' c k = keyRows st c k
      ++ if e.caseId = c ∧ e.key = k ∧ e.live = true then [e] else [] := by
  have hfilter : [e].filter (fun e =>
      e.caseId = c && e.type = k.1 && e.label = k.2 && e.live)
      = if e.caseId = c ∧ e.key = k ∧ e.live = true then [e] else [] := by
    rw [List.filter_singleton, Bool.cond_eq_ite]
    simp only [Bool.and_eq_true, decide_eq_true_eq, Entity.key, Prod.ext_iff, and_assoc]
  rw [keyRows, EntityRepository.withKey, hentities, Table.rows_insert hnew, List.filter_append,
    hfilter]
  rfl

/-- The rows of a key, after a bump. -/
lemma keyRows_bump {id : UUID} {confidence : ℚ} {now : Time}
    (hentities : st'.entities = st.entities.modify id
      ((EntityRepository.confidenceChange confidence).set now) fun _ => rfl)
    (c : UUID) (k : String × String) :
    keyRows st' c k = (keyRows st c k).map fun r =>
      if r.id = id then (EntityRepository.confidenceChange confidence).set now r else r := by
  rw [keyRows, EntityRepository.withKey, hentities]
  show List.filter _ (st.entities.rows.map _) = _
  rw [List.filter_map]
  congr 1
  refine List.filter_congr fun r _ => ?_
  rw [Function.comp_apply]
  split
  · rfl
  · rfl

/-- Keys stay unique. -/
lemma Got.unique (h : Got x caseId createdBy data st (entity, wasCreated) ws st')
    (hunique : EntityKeysUnique st) : EntityKeysUnique st' := by
  intro c type label
  have hold : (keyRows st c (type, label)).length ≤ 1 := hunique c type label
  show (keyRows st' c (type, label)).length ≤ 1
  have hrows := h.rows
  cases h with
  | created hnone hnew hentities hrest =>
    rw [keyRows_insert hnew hentities, List.length_append]
    split
    · -- the key had no row
      rename_i hmatch
      obtain ⟨rfl, hk, -⟩ := hmatch
      have hnil : keyRows st caseId (type, label) = [] := hk ▸ hnone
      rw [show (EntityRepository.newEntity x caseId createdBy data).caseId = caseId from rfl, hnil]
      exact le_refl _
    · exact hold
  | bumped existing hone hlt hentities hrest =>
    rw [if_neg Bool.false_ne_true, List.map_nil, List.append_nil] at hrows
    rw [length_keyRows_of_same hrows]
    exact hold
  | kept existing hone hle => exact hold

/-- The key has one row now. -/
lemma Got.one (h : Got x caseId createdBy data st (entity, wasCreated) ws st') :
    (keyRows st' caseId data.key).length = 1 := by
  have hrows := h.rows
  cases h with
  | created hnone hnew hentities hrest =>
    rw [keyRows_insert hnew hentities, hnone, if_pos ⟨rfl, rfl, rfl⟩]
    rfl
  | bumped existing hone hlt hentities hrest =>
    rw [if_neg Bool.false_ne_true, List.map_nil, List.append_nil] at hrows
    rw [length_keyRows_of_same hrows, hone]
    rfl
  | kept existing hone hle =>
    rw [hone]
    rfl

/-- A key with one row keeps it alone. -/
lemma Got.one_stays (h : Got x caseId createdBy data st (entity, wasCreated) ws st')
    {k : String × String} (hone : (keyRows st caseId k).length = 1) :
    (keyRows st' caseId k).length = 1 := by
  have hrows := h.rows
  cases h with
  | created hnone hnew hentities hrest =>
    have hother : ¬ (EntityRepository.newEntity x caseId createdBy data).key = k := by
      rintro rfl
      rw [show (EntityRepository.newEntity x caseId createdBy data).key = data.key from rfl,
        hnone] at hone
      cases hone
    rw [keyRows_insert hnew hentities, if_neg fun h => hother h.2.1, List.append_nil]
    exact hone
  | bumped existing hone' hlt hentities hrest =>
    rw [if_neg Bool.false_ne_true, List.map_nil, List.append_nil] at hrows
    rw [length_keyRows_of_same hrows]
    exact hone
  | kept existing hone' hle => exact hone

/-- On the confidences, the call is an upsert. -/
lemma Got.confidence (h : Got x caseId createdBy data st (entity, wasCreated) ws st') :
    confidenceAt st' caseId = raise (confidenceAt st caseId) (data.key, data.confidence) := by
  funext k
  cases h with
  | created hnone hnew hentities hrest =>
    have hrows := keyRows_insert hnew hentities caseId k
    by_cases hk : k = data.key
    · subst hk
      rw [if_pos ⟨rfl, rfl, rfl⟩, hnone, List.nil_append] at hrows
      rw [raise, if_pos rfl, confidenceAt, hrows, confidenceAt, hnone]
      exact (max_eq_right bot_le).symm
    · rw [if_neg fun h => hk h.2.1.symm, List.append_nil] at hrows
      rw [raise, if_neg hk, confidenceAt, hrows, confidenceAt]
  | bumped existing hone hlt hentities hrest =>
    have hrows := keyRows_bump hentities caseId k
    by_cases hk : k = data.key
    · subst hk
      rw [hone, List.map_singleton, if_pos rfl] at hrows
      rw [raise, if_pos rfl, confidenceAt, hrows, confidenceAt, hone]
      exact (max_eq_right (WithBot.coe_le_coe.mpr hlt.le)).symm
    · -- the bumped row has another key
      have hsame : (keyRows st caseId k).map (fun r =>
          if r.id = existing.id then
            (EntityRepository.confidenceChange data.confidence).set x.now r else r)
          = keyRows st caseId k := by
        refine (List.map_congr_left fun r hr => if_neg fun hid => hk ?_).trans (List.map_id' _)
        have hmem : existing ∈ keyRows st caseId data.key := hone ▸ List.mem_singleton_self existing
        obtain ⟨hin, hkey⟩ := mem_keyRows.mp hmem
        obtain ⟨hin', hkey'⟩ := mem_keyRows.mp hr
        have heq : r = existing :=
          Table.eq_of_pk_eq (mem_inCase.mp hin').1 (mem_inCase.mp hin).1 hid
        rw [← hkey', heq, hkey]
      rw [hsame] at hrows
      rw [raise, if_neg hk, confidenceAt, hrows, confidenceAt]
  | kept _ hone hle =>
    have hle' : (data.confidence : WithBot ℚ) ≤ confidenceAt st caseId data.key := by
      rw [confidenceAt, hone]
      exact WithBot.coe_le_coe.mpr hle
    rw [raise_of_le hle']

end Got

/-! ## The loop -/

/-- What is validated is what was proposed. -/
lemma EntityCreate.validate_ok {type label : String} {attrs : PyDict} {confidence : ℚ}
    {data : EntityCreate} (h : EntityCreate.validate type label attrs confidence = .ok data) :
    data.key = (type, label) ∧ data.confidence = confidence := by
  unfold EntityCreate.validate at h
  split at h
  · cases h
  · split at h
    · cases h
    · rename_i t ht
      split at h
      · cases h
        have hvalue : t.value = type := by
          unfold EntityType.ofValue at ht
          simpa using List.find?_some ht
        exact ⟨Prod.ext hvalue rfl, rfl⟩
      · cases h

/-- The upserts of a list of proposals. -/
def upsertsOf (proposals : List EntityProposal) : List ((String × String) × ℚ) :=
  proposals.map fun ep => (ep.key, ep.confidence)

/-- What the loop has made of the store and of `ref_to_entity`, when it returns. -/
structure Merged (caseId : UUID) (proposals : List EntityProposal) (refs refs' : PluginRunner.Refs)
    (st st' : Store) (created : List Entity) : Prop where
  rows : st'.entities.rows.map Entity.fixed = (st.entities.rows ++ created).map Entity.fixed
  confidence : confidenceAt st' caseId = raiseAll (confidenceAt st caseId) (upsertsOf proposals)
  unique : EntityKeysUnique st'
  created : ∀ e ∈ created, e.caseId = caseId ∧ e.live = true ∧
    e.key ∈ proposals.map EntityProposal.key
  refs : ∃ entries : PluginRunner.Refs, refs' = entries ++ refs ∧
    (entries.map fun (ref, e) => (ref, e.key))
      = (proposals.map fun ep => (ep.ref, ep.key)).reverse ∧
    ∀ p ∈ entries, p.2.fixed ∈ (EntityRepository.inCase st' caseId none).map Entity.fixed
  rest : SameRest st st'

/-- Rows that are added leave those of the case. -/
lemma mem_inCase_of_rows {st st' : Store} {added : List Entity}
    (h : st'.entities.rows.map Entity.fixed = st.entities.rows.map Entity.fixed ++ added)
    {caseId : UUID} {e : Entity}
    (he : e ∈ (EntityRepository.inCase st caseId none).map Entity.fixed) :
    e ∈ (EntityRepository.inCase st' caseId none).map Entity.fixed := by
  rw [map_fixed_inCase] at he ⊢
  rw [h, List.filter_append]
  exact List.mem_append_left _ he

lemma of_mem_inCase {st : Store} {caseId : UUID} {e : Entity}
    (he : e.fixed ∈ (EntityRepository.inCase st caseId none).map Entity.fixed) :
    e.caseId = caseId ∧ e.live = true := by
  rw [map_fixed_inCase, List.mem_filter, Bool.and_eq_true, decide_eq_true_eq] at he
  exact he.2

/-- What the loop has made of the rows and of `ref_to_entity`, whatever rows there were. -/
structure MergedRows (caseId : UUID) (proposals : List EntityProposal)
    (refs refs' : PluginRunner.Refs) (st st' : Store) (created : List Entity) : Prop where
  rows : st'.entities.rows.map Entity.fixed = (st.entities.rows ++ created).map Entity.fixed
  created : ∀ e ∈ created, e.caseId = caseId ∧ e.live = true ∧
    e.key ∈ proposals.map EntityProposal.key
  refs : ∃ entries : PluginRunner.Refs, refs' = entries ++ refs ∧
    (entries.map fun (ref, e) => (ref, e.key))
      = (proposals.map fun ep => (ep.ref, ep.key)).reverse ∧
    ∀ p ∈ entries, p.2.fixed ∈ (EntityRepository.inCase st' caseId none).map Entity.fixed
  rest : SameRest st st'
  /-- a key that is proposed has one row, and a key with one row keeps it alone -/
  one : ∀ ep ∈ proposals, (keyRows st' caseId ep.key).length = 1
  one_stays : ∀ {k}, (keyRows st caseId k).length = 1 → (keyRows st' caseId k).length = 1

/-- One proposal, and the rest of the loop. -/
lemma persistEntitiesPlan_cons {x : RunExt} {req : RunRequest} {i : ℕ} {ep : EntityProposal}
    {proposals : List EntityProposal} {refs refs' : PluginRunner.Refs} {created : List Entity}
    {st : Store} {b b' : Bucket} {ws : List Write}
    (h : persistEntitiesPlan py x req i (ep :: proposals) refs st b
      = (.done (refs', created) ws, b')) :
    ∃ data entity wasCreated ws₁ b₁ created₁ ws₂,
      EntityCreate.validate ep.type.value ep.label ep.attrs ep.confidence = .ok data ∧
      data.key = ep.key ∧ data.confidence = ep.confidence ∧
      Got (x.entity i) req.caseId req.createdBy data st (entity, wasCreated) ws₁
        (applyAll st ws₁) ∧
      persistEntitiesPlan py x req (i + 1) proposals ((ep.ref, entity) :: refs)
        (applyAll st ws₁) b₁ = (.done (refs', created₁) ws₂, b') ∧
      created = (if wasCreated then [entity] else []) ++ created₁ ∧ ws = ws₁ ++ ws₂ := by
  obtain ⟨data, ws₀, b₀, ws₁, hdata, hcall, rfl⟩ := Plan.bind_done.mp h
  obtain ⟨hvalid, rfl, rfl⟩ := Plan.ofExcept_done.mp hdata
  obtain ⟨hkey, hconfidence⟩ := EntityCreate.validate_ok hvalid
  obtain ⟨⟨entity, wasCreated⟩, ws₂, b₂, ws₃, hgot, hrest, rfl⟩ := Plan.bind_done.mp hcall
  obtain ⟨⟨refs₁, created₁⟩, ws₄, b₄, ws₅, hloop, hlast, rfl⟩ := Plan.bind_done.mp hrest
  cases hlast
  refine ⟨data, entity, wasCreated, ws₂, b₂, created₁, ws₄, hvalid, hkey, hconfidence,
    getOrCreatePlan_got py hgot, hloop, ?_, by rw [List.nil_append, List.append_nil]⟩
  split
  · rfl
  · rfl

/-- The loop, by one call for each proposal. -/
theorem persistEntitiesPlan_rows {x : RunExt} {req : RunRequest} {i : ℕ}
    {proposals : List EntityProposal} {refs refs' : PluginRunner.Refs} {created : List Entity}
    {st : Store} {b b' : Bucket} {ws : List Write}
    (h : persistEntitiesPlan py x req i proposals refs st b = (.done (refs', created) ws, b')) :
    MergedRows req.caseId proposals refs refs' st (applyAll st ws) created := by
  induction proposals generalizing i refs created st b ws with
  | nil =>
    cases h
    refine ⟨?_, fun _ he => absurd he List.not_mem_nil,
      ⟨[], rfl, rfl, fun _ he => absurd he List.not_mem_nil⟩, SameRest.refl st,
      fun _ he => absurd he List.not_mem_nil, fun hone => hone⟩
    rw [List.append_nil]
    rfl
  | cons ep proposals ih =>
    obtain ⟨data, entity, wasCreated, ws₁, b₁, created₁, ws₂, -, hkey, -, hgot, hloop, rfl,
      rfl⟩ := persistEntitiesPlan_cons py h
    have hmerged := ih hloop
    rw [applyAll_append]
    obtain ⟨hrow, hentity⟩ := hgot.row
    have hrows := hgot.rows
    obtain ⟨entries, hrefs, hentries, hlive⟩ := hmerged.refs
    refine ⟨?_, ?_, ⟨entries ++ [(ep.ref, entity)], ?_, ?_, ?_⟩, ?_, ?_, ?_⟩
    · rw [hmerged.rows, List.map_append, hrows, List.append_assoc, ← List.map_append,
        ← List.map_append]
    · intro e he
      rcases List.mem_append.mp he with he | he
      · have heq : e = entity := by
          split at he
          · exact List.mem_singleton.mp he
          · cases he
        obtain ⟨hcase, halive⟩ := of_mem_inCase hrow
        rw [heq, hentity, hkey]
        exact ⟨hcase, halive, List.mem_cons_self⟩
      · obtain ⟨hcase, halive, hmem⟩ := hmerged.created e he
        exact ⟨hcase, halive, List.mem_cons_of_mem _ hmem⟩
    · rw [hrefs, List.append_assoc, List.singleton_append]
    · have hpair : (ep.ref, entity.key) = (ep.ref, ep.key) := by rw [hentity, hkey]
      rw [List.map_append, hentries]
      show _ ++ [(ep.ref, entity.key)] = ((ep.ref, ep.key) :: proposals.map _).reverse
      rw [List.reverse_cons, hpair]
    · intro p hp
      rcases List.mem_append.mp hp with hp | hp
      · exact hlive p hp
      · obtain rfl := List.mem_singleton.mp hp
        exact mem_inCase_of_rows (hmerged.rows.trans List.map_append) hrow
    · exact hgot.rest.trans hmerged.rest
    · exact List.forall_mem_cons.mpr ⟨hmerged.one_stays (hkey ▸ hgot.one), hmerged.one⟩
    · exact fun hone => hmerged.one_stays (hgot.one_stays hone)

/-- On keys that are unique, the loop is a list of upserts. -/
lemma persistEntitiesPlan_upserts {x : RunExt} {req : RunRequest} {i : ℕ}
    {proposals : List EntityProposal} {refs refs' : PluginRunner.Refs} {created : List Entity}
    {st : Store} {b b' : Bucket} {ws : List Write} (hunique : EntityKeysUnique st)
    (h : persistEntitiesPlan py x req i proposals refs st b = (.done (refs', created) ws, b')) :
    EntityKeysUnique (applyAll st ws) ∧ confidenceAt (applyAll st ws) req.caseId
      = raiseAll (confidenceAt st req.caseId) (upsertsOf proposals) := by
  induction proposals generalizing i refs created st b ws with
  | nil =>
    cases h
    exact ⟨hunique, rfl⟩
  | cons ep proposals ih =>
    obtain ⟨data, entity, wasCreated, ws₁, b₁, created₁, ws₂, -, hkey, hconfidence, hgot, hloop,
      -, rfl⟩ := persistEntitiesPlan_cons py h
    obtain ⟨hstays, hloopConfidence⟩ := ih (hgot.unique hunique) hloop
    rw [applyAll_append]
    refine ⟨hstays, ?_⟩
    rw [hloopConfidence, hgot.confidence, hkey, hconfidence]
    rfl

theorem persistEntitiesPlan_merged {x : RunExt} {req : RunRequest} {i : ℕ}
    {proposals : List EntityProposal} {refs refs' : PluginRunner.Refs} {created : List Entity}
    {st : Store} {b b' : Bucket} {ws : List Write} (hunique : EntityKeysUnique st)
    (h : persistEntitiesPlan py x req i proposals refs st b = (.done (refs', created) ws, b')) :
    Merged req.caseId proposals refs refs' st (applyAll st ws) created := by
  have hrows := persistEntitiesPlan_rows py h
  obtain ⟨hstays, hconfidence⟩ := persistEntitiesPlan_upserts py hunique h
  exact ⟨hrows.rows, hconfidence, hstays, hrows.created, hrows.refs, hrows.rest⟩

/-! ## The entities of the case -/

lemma confidenceAt_eq_bot_iff {st : Store} {caseId : UUID} {k : String × String} :
    confidenceAt st caseId k = ⊥ ↔ keyRows st caseId k = [] := by
  unfold confidenceAt
  cases keyRows st caseId k with
  | nil => simp
  | cons e rows => simp

lemma keyRows_eq_nil_iff {st : Store} {caseId : UUID} {k : String × String} :
    keyRows st caseId k = [] ↔
      k ∉ (EntityRepository.inCase st caseId none).map Entity.key := by
  rw [List.eq_nil_iff_forall_not_mem, List.mem_map, not_exists]
  refine forall_congr' fun e => ?_
  rw [mem_keyRows]

/-- `lookup` of what the values are mapped to. -/
lemma lookup_map_key (refs : PluginRunner.Refs) (ref : String) :
    (refs.map fun (ref, e) => (ref, e.key)).lookup ref = (refs.lookup ref).map Entity.key := by
  induction refs with
  | nil => rfl
  | cons p refs ih =>
    rw [List.map_cons, List.lookup_cons, List.lookup_cons]
    split
    · rfl
    · exact ih

/-- An entry leads to a row. -/
lemma row_of_entries {entries : PluginRunner.Refs} {st : Store} {caseId : UUID}
    (hentries : ∀ p ∈ entries,
      p.2.fixed ∈ (EntityRepository.inCase st caseId none).map Entity.fixed)
    {ref : String} {e : Entity} (hlookup : entries.lookup ref = some e) :
    ∃ row ∈ EntityRepository.inCase st caseId none, row.id = e.id ∧ row.key = e.key := by
  have hentry : (ref, e) ∈ entries := by
    obtain ⟨before, after, hsplit, -⟩ := List.lookup_eq_some_iff.mp hlookup
    rw [hsplit]
    exact List.mem_append_right _ List.mem_cons_self
  obtain ⟨row, hmem, hfixed⟩ := List.mem_map.mp (hentries (ref, e) hentry)
  have hid : row.fixed.id = e.fixed.id := congrArg Entity.id hfixed
  have hkey : row.fixed.key = e.fixed.key := congrArg Entity.key hfixed
  exact ⟨row, hmem, hid, hkey⟩

/-- What the entity proposals of a run have made of a case. -/
structure MergedCase (caseId : UUID) (proposals : List EntityProposal) (st st' : Store)
    (refs : PluginRunner.Refs) (created : List Entity) : Prop where
  /-- the live entities are the old ones and those created, up to confidences -/
  rows : (EntityRepository.inCase st' caseId none).map Entity.fixed
    = (EntityRepository.inCase st caseId none ++ created).map Entity.fixed
  /-- one is created for each new key -/
  created_nodup : (created.map Entity.key).Nodup
  created_iff : ∀ k, k ∈ created.map Entity.key ↔ k ∈ proposals.map EntityProposal.key ∧
    k ∉ (EntityRepository.inCase st caseId none).map Entity.key
  /-- a key has the maximum of its confidence and those proposed -/
  confidence : ∀ k, confidenceAt st' caseId k
    = (valuesFor (upsertsOf proposals) k).foldl max (confidenceAt st caseId k)
  /-- a ref has the key of its last proposal, and the row of that key -/
  ref_key : ∀ ref, (refs.lookup ref).map Entity.key
    = (proposals.map fun ep => (ep.ref, ep.key)).reverse.lookup ref
  ref_row : ∀ ref e, refs.lookup ref = some e →
    ∃ row ∈ EntityRepository.inCase st' caseId none, row.id = e.id ∧ row.key = e.key

/-- The rows of a key are the old ones and those created. -/
lemma Merged.length_keyRows {caseId : UUID} {proposals : List EntityProposal}
    {refs refs' : PluginRunner.Refs} {st st' : Store} {created : List Entity}
    (h : Merged caseId proposals refs refs' st st' created) (k : String × String) :
    (keyRows st' caseId k).length
      = (keyRows st caseId k).length + (created.map Entity.key).count k := by
  have hrows := congrArg List.length (map_fixed_keyRows st' caseId k)
  rw [h.rows, List.map_append, List.filter_append, ← map_fixed_keyRows, List.length_append,
    List.length_map, List.length_map] at hrows
  rw [hrows, List.count_eq_countP, List.countP_map, List.countP_eq_length_filter, List.filter_map,
    List.length_map]
  congr 2
  refine List.filter_congr fun e he => ?_
  obtain ⟨hcase, hlive, -⟩ := h.created e he
  have hlive' : e.fixed.live = true := hlive
  have hcase' : e.fixed.caseId = caseId := hcase
  simp only [Function.comp_apply, hlive', hcase', decide_true, Bool.true_and, Bool.and_true]
  show (decide (e.type = k.1) && decide (e.label = k.2)) = (e.key == k)
  rw [Bool.eq_iff_iff, beq_iff_eq, Prod.ext_iff, Bool.and_eq_true, decide_eq_true_eq,
    decide_eq_true_eq]
  rfl

lemma Merged.case {caseId : UUID} {proposals : List EntityProposal} {refs : PluginRunner.Refs}
    {st st' : Store} {created : List Entity}
    (h : Merged caseId proposals [] refs st st' created) :
    MergedCase caseId proposals st st' refs created := by
  have hcount := h.length_keyRows
  have hunique : ∀ k, (keyRows st' caseId k).length ≤ 1 := fun k => h.unique caseId k.1 k.2
  obtain ⟨entries, hrefs, hentries, hrow⟩ := h.refs
  rw [List.append_nil] at hrefs
  subst hrefs
  refine ⟨?_, ?_, fun k => ⟨fun hk => ?_, fun hk => ?_⟩, fun k => ?_, fun ref => ?_,
    fun ref e hlookup => ?_⟩
  · rw [map_fixed_inCase, h.rows, List.map_append, List.filter_append, ← map_fixed_inCase,
      List.map_append]
    congr 1
    refine List.filter_eq_self.mpr fun e he => ?_
    obtain ⟨e₀, he₀, rfl⟩ := List.mem_map.mp he
    obtain ⟨hcase, hlive, -⟩ := h.created e₀ he₀
    rw [Bool.and_eq_true, decide_eq_true_eq]
    exact ⟨hcase, hlive⟩
  · refine List.nodup_iff_count_le_one.mpr fun k => ?_
    have hk := hunique k
    rw [hcount] at hk
    omega
  · obtain ⟨e, he, hkey⟩ := List.mem_map.mp hk
    have hpos : 0 < (created.map Entity.key).count k := List.count_pos_iff.mpr hk
    have hle := hunique k
    rw [hcount] at hle
    have hnil : (keyRows st caseId k).length = 0 := by omega
    exact ⟨hkey ▸ (h.created e he).2.2, keyRows_eq_nil_iff.mp (List.length_eq_zero_iff.mp hnil)⟩
  · obtain ⟨hproposed, hnew⟩ := hk
    obtain ⟨ep, hep, rfl⟩ := List.mem_map.mp hproposed
    have hle : ((ep.confidence : ℚ) : WithBot ℚ) ≤ confidenceAt st' caseId ep.key := by
      have hmem : (ep.key, ep.confidence) ∈ upsertsOf proposals := List.mem_map.mpr ⟨ep, hep, rfl⟩
      rw [h.confidence]
      exact mem_le_raiseAll hmem (confidenceAt st caseId)
    have hne : keyRows st' caseId ep.key ≠ [] := by
      intro hnil
      rw [confidenceAt_eq_bot_iff.mpr hnil] at hle
      exact absurd hle (not_le.mpr (WithBot.bot_lt_coe _))
    have hpos := List.length_pos_of_ne_nil hne
    rw [hcount, keyRows_eq_nil_iff.mpr hnew, List.length_nil, Nat.zero_add] at hpos
    exact List.count_pos_iff.mp hpos
  · rw [h.confidence, raiseAll_apply]
  · rw [← lookup_map_key, hentries]
  · exact row_of_entries hrow hlookup

/-! ## The loop of a run -/

section Loop

variable {x : RunExt} {req : RunRequest} {proposals : List EntityProposal}
variable {s s' : Session Store Write Bucket} {refs : PluginRunner.Refs} {created : List Entity}

/-- The loop that returns, in the session. -/
lemma persistEntities_merged (hs : s.failed = false) (hunique : EntityKeysUnique s.work)
    (h : PluginRunner.persistEntities py x req 0 proposals [] s = (.ok (refs, created), s')) :
    Merged req.caseId proposals [] refs s.work s'.work created := by
  obtain ⟨ws, b, hplan, rfl⟩ := (persistEntities_runs py x req 0 proposals []).ok hs h
  have hmerged := persistEntitiesPlan_merged py hunique hplan
  rw [show Session.work { s.extend ws with outside := b } = applyAll s.work ws
    from Session.work_extend s ws]
  exact hmerged

/-- **Entity proposals add up.** The loop that returns has merged the proposals into the case, and
on the confidences it comes to what it would in any other order. -/
theorem persistEntities_merge (hs : s.failed = false) (hunique : EntityKeysUnique s.work)
    (h : PluginRunner.persistEntities py x req 0 proposals [] s = (.ok (refs, created), s')) :
    MergedCase req.caseId proposals s.work s'.work refs created ∧
    ∀ (x' : RunExt) (proposals' : List EntityProposal) (t t' : Session Store Write Bucket)
      (refs' : PluginRunner.Refs) (created' : List Entity), proposals'.Perm proposals →
      t.failed = false → t.work = s.work →
      PluginRunner.persistEntities py x' req 0 proposals' [] t = (.ok (refs', created'), t') →
        confidenceAt t'.work req.caseId = confidenceAt s'.work req.caseId := by
  have hmerged := persistEntities_merged py hs hunique h
  refine ⟨hmerged.case, fun x' proposals' t t' refs' created' hperm ht hwork h' => ?_⟩
  have hmerged' := persistEntities_merged py ht (hwork ▸ hunique) h'
  rw [hmerged'.confidence, hmerged.confidence, hwork]
  exact raiseAll_perm (hperm.map _) _

end Loop

/-! ### A loop -/

/-- One person under two refs, and the input's own label. -/
def overlapping : List EntityProposal :=
  [⟨"a", .person, "alice", [], 1 / 2⟩, ⟨"b", .person, "alice", [], 1⟩,
    ⟨"a", .domain, "example.com", [], 1⟩]

theorem persistEntities_merge_overlapping :
    ∃ refs created s', PluginRunner.persistEntities plainInterp calm (domainRequest danglingResult)
        0 overlapping [] domainSession = (.ok (refs, created), s') ∧
      MergedCase 0 overlapping domainSession.work s'.work refs created := by
  have hok : (PluginRunner.persistEntities plainInterp calm (domainRequest danglingResult)
      0 overlapping [] domainSession).1.isOk = true := by decide +kernel
  have hunique : EntityKeysUnique domainSession.work := fun caseId type label =>
    List.length_filter_le _ domainStore.entities.rows
  cases hrun : PluginRunner.persistEntities plainInterp calm (domainRequest danglingResult)
      0 overlapping [] domainSession with
  | mk r s' =>
    rw [hrun] at hok
    cases r with
    | error e => cases hok
    | ok answer =>
      obtain ⟨refs, created⟩ := answer
      exact ⟨refs, created, s', rfl,
        (persistEntities_merge plainInterp domainSession_idle.failed hunique hrun).1⟩

end Sleuthgraph
