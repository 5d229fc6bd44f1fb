import Sleuthgraph.Plugins.Hurdles
import Sleuthgraph.Plugins.RerunTheorems

/-!
# The work of a run stops at its first hurdle

Each loop of `_persist` keeps an account of what it has done, as a function of the store before
the run and of the proposals behind it: the rows that are there up to their confidences, which
confidences are below a given one, the ids that refs lead to, the sizes of the blobs. By it, the
plan of the work meets the hurdles that are told from the inputs.
-/

namespace Sleuthgraph

open Programs Transactions Tables Upserts Hurdle

variable (py : Interp)

/-! ## A row and its mirror -/

lemma savePlan_meets {O α : Type} {lost : Bool} {row : Write}
    {settle : O → Except Exc (List Write) × O} {a : α} {st : Store} {o : O} {accepted kept : Bool}
    (haccepted : (!lost && st.accepts row) = accepted) (hkept : (settle o).1.isOk = kept) :
    (savePlan lost row settle a st o).1.Meets [.statement accepted, .saved kept] := by
  subst haccepted hkept
  unfold savePlan
  split
  · rename_i h
    have hblocked : (!lost && st.accepts row) = false := by
      rw [Bool.or_eq_true, Bool.not_eq_true'] at h
      rcases h with h | h <;> simp [h]
    rw [hblocked]
    exact Effect.meets_blocked .failed _ false _
  · rename_i h
    rw [Bool.not_eq_true, Bool.or_eq_false_iff, Bool.not_eq_false'] at h
    rw [h.1, h.2]
    cases hset : settle o with
    | mk r o' =>
      cases r with
      | ok ops => exact .done rfl (by simp [anyRow])
      | error e => exact .raised rfl fun h => by cases h

lemma savePlan_inside {O α : Type} {lost : Bool} {row : Write}
    {settle : O → Except Exc (List Write) × O} (a : α) (hsettle : ∀ o, (settle o).2 = o) :
    Plan.Inside (savePlan lost row settle a) := by
  intro st o
  have ho := hsettle o
  unfold savePlan
  split
  · rfl
  · cases hset : settle o with
    | mk r o' =>
      rw [hset] at ho
      cases r with
      | ok ops => exact ho
      | error e => exact ho

lemma mirrored_inside {O : Type} (lost : Bool) (op : Except Exc Cypher) (o : O) :
    (mirrored lost op o).2 = o := by
  cases op <;> rfl

lemma mirrored_isOk {O : Type} (lost : Bool) (op : Except Exc Cypher) (o : O) :
    (mirrored lost op o).1.isOk = (!lost && op.isOk) := by
  cases op with
  | error e => rw [show (Except.error e : Except Exc Cypher).isOk = false from rfl,
      Bool.and_false]; rfl
  | ok op => cases lost <;> rfl

/-- A dict is encoded if every key and every value is. -/
lemma encodeParts_isOk (str : PyVal → String) (items : PyDict) :
    (encodeParts str items).isOk
      = items.all fun p => keyRe p.1.toList && (cypherScalar str p.2).isOk := by
  induction items with
  | nil => rfl
  | cons p items ih =>
    obtain ⟨k, v⟩ := p
    rw [encodeParts, List.all_cons, ← ih]
    cases hkey : keyRe k.toList with
    | false => rfl
    | true =>
      cases cypherScalar str v with
      | error e => rfl
      | ok scalar => cases encodeParts str items <;> rfl

lemma encodeProps_isOk (str : PyVal → String) (props : PyDict) :
    (encodeProps str props).isOk
      = props.all fun p => keyRe p.1.toList && (cypherScalar str p.2).isOk := by
  rw [← encodeParts_isOk, encodeProps]
  cases encodeParts str props <;> rfl

/-- The confidence has no part in whether a vertex can be written. -/
lemma vertexOp_isOk_of_fixed {e e' : Entity} (h : e.fixed = e'.fixed) :
    (vertexOp py e).isOk = (vertexOp py e').isOk := by
  have hprops : (encodeProps py.str (vertexProps py e)).isOk
      = (encodeProps py.str (vertexProps py e')).isOk := by
    have hid : e.id = e'.id :=
      (congrArg Entity.id h : e.fixed.id = e'.fixed.id)
    have hcase : e.caseId = e'.caseId :=
      (congrArg Entity.caseId h : e.fixed.caseId = e'.fixed.caseId)
    have hlabel : e.label = e'.label :=
      (congrArg Entity.label h : e.fixed.label = e'.fixed.label)
    have hattrs : e.attrs = e'.attrs :=
      (congrArg Entity.attrs h : e.fixed.attrs = e'.fixed.attrs)
    rw [encodeProps_isOk, encodeProps_isOk]
    simp only [vertexProps, List.all_cons, hid, hcase, hlabel, hattrs, cypherScalar]
    rfl
  have htype : e.type = e'.type :=
    (congrArg Entity.type h : e.fixed.type = e'.fixed.type)
  have hmap : ∀ {r : Except Exc (List Char)} {c : Cypher}, (r.map fun _ => c).isOk = r.isOk := by
    intro r c
    cases r <;> rfl
  unfold vertexOp
  rw [htype]
  split
  · rfl
  · rw [hmap, hmap, hprops]

/-- No item has the id: all of them differ from it. -/
lemma all_ne_id {ι : Type} (f : ι → UUID) (items : List ι) (id : UUID) :
    (items.all fun i => f i ≠ id) = !(items.any fun i => f i = id) := by
  rw [List.not_any_eq_all_not]
  exact List.all_congr rfl fun i => by simp

/-! ## Entities -/

section Entities

variable {x : RunExt} {req : RunRequest} {rows : List Entity} {earlier : List EntityProposal}

lemma map_fixed_rowsWithKey (rows : List Entity) (caseId : UUID) (k : String × String) :
    (rowsWithKey rows caseId k).map Entity.fixed = (rows.map Entity.fixed).filter fun e =>
      e.caseId = caseId && e.type = k.1 && e.label = k.2 && e.live := by
  rw [List.filter_map]
  rfl

/-- Proposals only add rows. -/
lemma prefix_rowsAfter : rows <+: rowsAfter x req rows earlier := by
  induction earlier with
  | nil => exact List.prefix_refl rows
  | cons ep earlier ih =>
    rw [rowsAfter]
    split
    · exact ih.trans (List.prefix_append _ _)
    · exact ih

/-- What is validated is flushed as the row of the proposal. -/
lemma newEntity_eq_row {ep : EntityProposal} {data : EntityCreate} (ext : Ext)
    (h : EntityCreate.validate ep.type.value ep.label ep.attrs ep.confidence = .ok data) :
    EntityRepository.newEntity ext req.caseId req.createdBy data = ep.row req ext := by
  have hattrs : data.attrs = ep.attrs := by
    unfold EntityCreate.validate at h
    split at h
    · cases h
    · split at h
      · cases h
      · split at h
        · cases h
          rfl
        · cases h
  obtain ⟨hkey, hconfidence⟩ := EntityCreate.validate_ok h
  have htype : data.type.value = ep.type.value := congrArg Prod.fst hkey
  have hlabel : data.label = ep.label := congrArg Prod.snd hkey
  simp only [EntityRepository.newEntity, EntityProposal.row, htype, hlabel, hattrs, hconfidence]

/-- The ids of `ref_to_entity`. -/
def refIds (refs : PluginRunner.Refs) : List (String × UUID) := refs.map fun p => (p.1, p.2.id)

/-- What entity proposals have made of a store, told from the store before them. -/
structure EntitiesAfter (x : RunExt) (req : RunRequest) (st : Store)
    (earlier : List EntityProposal) (st' : Store) (refs : PluginRunner.Refs) : Prop where
  rows : st'.entities.rows.map Entity.fixed
    = (rowsAfter x req st.entities.rows earlier).map Entity.fixed
  confidence : ∀ (k : String × String) (q : ℚ), confidenceAt st' req.caseId k < q ↔
    confidenceAt st req.caseId k < q ∧ ∀ ep ∈ earlier, ep.key = k → ep.confidence < q
  refs : refIds refs = refIds (refsAfter x req st.entities.rows earlier)
  relationships : st'.relationships = st.relationships
  evidence : st'.evidence = st.evidence

lemma EntitiesAfter.start {st st' : Store} (h : PluginRunner.SameData st st') :
    EntitiesAfter x req st [] st' [] := by
  refine ⟨by rw [h.entities]; rfl, fun k q => ?_, rfl, h.relationships, h.evidence⟩
  have hsame : confidenceAt st' req.caseId k = confidenceAt st req.caseId k := by
    unfold confidenceAt keyRows EntityRepository.withKey
    rw [h.entities]
  rw [hsame]
  exact (and_iff_left fun _ hep => absurd hep List.not_mem_nil).symm

variable {st st' : Store} {refs : PluginRunner.Refs}

/-- The rows of a key, up to confidences. -/
lemma EntitiesAfter.key_rows (h : EntitiesAfter x req st earlier st' refs) (k : String × String) :
    (keyRows st' req.caseId k).map Entity.fixed
      = (rowsWithKey (rowsAfter x req st.entities.rows earlier) req.caseId k).map Entity.fixed := by
  rw [map_fixed_keyRows, map_fixed_rowsWithKey, h.rows]

lemma EntitiesAfter.length_keyRows (h : EntitiesAfter x req st earlier st' refs)
    (k : String × String) :
    (keyRows st' req.caseId k).length
      = (rowsWithKey (rowsAfter x req st.entities.rows earlier) req.caseId k).length := by
  have hlength := congrArg List.length (h.key_rows k)
  rwa [List.length_map, List.length_map] at hlength

/-- A key without rows. -/
lemma EntitiesAfter.isEmpty_of_nil (h : EntitiesAfter x req st earlier st' refs)
    {k : String × String} (hnone : keyRows st' req.caseId k = []) :
    rowsWithKey (rowsAfter x req st.entities.rows earlier) req.caseId k = [] := by
  have hlength := h.length_keyRows k
  rw [hnone, List.length_nil] at hlength
  exact List.length_eq_zero_iff.mp hlength.symm

/-- The one row of a key. -/
lemma EntitiesAfter.exists_of_one (h : EntitiesAfter x req st earlier st' refs)
    {k : String × String} {existing : Entity}
    (hone : keyRows st' req.caseId k = [existing]) :
    ∃ e, rowsWithKey (rowsAfter x req st.entities.rows earlier) req.caseId k = [e] ∧
      e.fixed = existing.fixed := by
  have hrows := h.key_rows k
  rw [hone, List.map_singleton] at hrows
  obtain ⟨e, he, hfixed⟩ := List.map_eq_singleton_iff.mp hrows.symm
  exact ⟨e, he, hfixed⟩

/-- The ids that are taken. -/
lemma has_of_fixed {t : Table Entity} {rows : List Entity}
    (h : t.rows.map Entity.fixed = rows.map Entity.fixed) (id : UUID) :
    t.has id = rows.any fun e => e.id = id := by
  have hids : t.rows.map Entity.id = rows.map Entity.id := by
    have := congrArg (List.map Entity.id) h
    rwa [List.map_map, List.map_map] at this
  have hany : ∀ l : List Entity, (l.any fun e => e.id = id)
      = (l.map Entity.id).any fun i => i = id := by
    intro l
    rw [List.any_map]
    rfl
  show (t.rows.any fun e => e.id == id) = _
  rw [hany, ← hids, ← hany]
  rfl

/-- A row of the store before, or a new one, is accepted as before if its id is new. -/
lemma EntitiesAfter.accepts (h : EntitiesAfter x req st earlier st' refs) (e : Entity) :
    st'.accepts (.insertEntity e) = (st.accepts (.insertEntity e)
      && (rowsAfter x req st.entities.rows earlier).all fun r => r.id ≠ e.id) := by
  have hnew : ((rowsAfter x req st.entities.rows earlier).all fun r => r.id ≠ e.id)
      = !st'.entities.has e.id := by
    rw [has_of_fixed h.rows, all_ne_id]
  have hold : st'.entities.has e.id = false → st.entities.has e.id = false := by
    rw [has_of_fixed h.rows]
    intro hno
    refine Table.has_eq_false_iff.mpr fun r hr hid => ?_
    have hid' : r.id = e.id := hid
    have hmem := List.any_eq_false.mp hno r (prefix_rowsAfter.subset hr)
    exact hmem (decide_eq_true hid')
  rw [hnew]
  cases hhas : st'.entities.has e.id with
  | true => simp [Store.accepts, hhas]
  | false => simp [Store.accepts, hhas, hold hhas]

/-- The confidence of a key with at most one row. -/
lemma confidenceAt_lt_iff {st : Store} {caseId : UUID} {k : String × String} {q : ℚ}
    (hone : (keyRows st caseId k).length ≤ 1) :
    confidenceAt st caseId k < q ↔ ∀ e ∈ keyRows st caseId k, e.confidence < q := by
  unfold confidenceAt
  rcases hrows : keyRows st caseId k with _ | ⟨e, _ | ⟨second, others⟩⟩
  · simp
  · simp
  · rw [hrows, List.length_cons, List.length_cons] at hone
    omega

/-- Whether a proposal raises a row is told from the store before. -/
lemma EntitiesAfter.raises (h : EntitiesAfter x req st earlier st' refs) {ep : EntityProposal}
    {existing : Entity} (hone : keyRows st' req.caseId ep.key = [existing]) :
    existing.confidence < ep.confidence ↔ ep.raises req st.entities.rows earlier = true := by
  have hnow : confidenceAt st' req.caseId ep.key < ep.confidence ↔
      existing.confidence < ep.confidence := by
    rw [confidenceAt, hone]
    exact WithBot.coe_lt_coe
  have hbefore : (keyRows st req.caseId ep.key).length ≤ 1 := by
    have hsub : (keyRows st req.caseId ep.key).length
        ≤ (rowsWithKey (rowsAfter x req st.entities.rows earlier) req.caseId ep.key).length :=
      (prefix_rowsAfter.sublist.filter _).length_le
    rw [← h.length_keyRows, hone] at hsub
    exact hsub
  rw [← hnow, h.confidence, confidenceAt_lt_iff hbefore, EntityProposal.raises, Bool.and_eq_true,
    List.all_eq_true, List.all_eq_true]
  refine and_congr (forall₂_congr fun e _ => decide_eq_true_iff.symm) (forall₂_congr fun e _ => ?_)
  rw [Bool.or_eq_true, decide_eq_true_iff, decide_eq_true_iff, ne_eq, ← imp_iff_not_or]

/-- A raise is flushed as the row it is of. -/
lemma accepts_raise {st : Store} {e : Entity} (he : e ∈ st.entities) (confidence : ℚ)
    (now : Time) :
    st.accepts (.updateEntity e.id (EntityRepository.confidenceChange confidence) now) = true := by
  have hhas : st.entities.has e.id = true := Table.has_iff.mpr ⟨e, he, rfl⟩
  simp [Store.accepts, hhas, EntityRepository.confidenceChange]

/-- One entity proposal meets its hurdles, behind the check of its fields. -/
lemma getOrCreatePlan_meets {O : Type} {o : O} (h : EntitiesAfter x req st earlier st' refs)
    {ep : EntityProposal} {data : EntityCreate}
    (hdata : EntityCreate.validate ep.type.value ep.label ep.attrs ep.confidence = .ok data) :
    (getOrCreatePlan py (x.entity earlier.length) req.caseId req.createdBy data st' o).1.Meets
      (.statement (!(x.entity earlier.length).lookup)
        :: .check ((ep.found x req st.entities.rows earlier).length ≤ 1)
        :: ep.saving py x req st earlier) := by
  obtain ⟨hkey, hconfidence⟩ := EntityCreate.validate_ok hdata
  have hrows : EntityRepository.withKey st' req.caseId data.type.value data.label
      = keyRows st' req.caseId ep.key := by
    rw [show data.type.value = ep.key.1 from congrArg Prod.fst hkey,
      show data.label = ep.key.2 from congrArg Prod.snd hkey]
  refine Plan.lookup_meets ?_
  rw [hrows]
  have hlength := h.length_keyRows ep.key
  rcases hrows : keyRows st' req.caseId ep.key with _ | ⟨existing, _ | ⟨second, others⟩⟩
  -- a new row
  · have hfound : ep.found x req st.entities.rows earlier = [] := h.isEmpty_of_nil hrows
    have hrow : EntityRepository.newEntity (x.entity earlier.length) req.caseId req.createdBy data
        = ep.row req (x.entity earlier.length) := newEntity_eq_row _ hdata
    simp only [EntityProposal.saving, EntityProposal.target, hfound, List.isEmpty_nil, if_true,
      List.headD_nil]
    refine Effect.Meets.cons_of ?_ .usable (by simp)
    refine savePlan_meets ?_ ?_
    · rw [hrow, h.accepts]
    · rw [mirrored_isOk, hrow]
  -- the one row of the key
  · obtain ⟨e, he, hfixed⟩ := h.exists_of_one hrows
    have hfound : ep.found x req st.entities.rows earlier = [e] := he
    have hraises := h.raises hrows
    simp only [EntityProposal.saving, EntityProposal.target, hfound, List.isEmpty_cons,
      List.headD_cons, Bool.false_eq_true, if_false]
    refine Effect.Meets.cons_of ?_ .usable (by simp)
    dsimp only [scalarOneOrNone]
    by_cases hlt : existing.confidence < data.confidence
    · have hmem : existing ∈ st'.entities :=
        (mem_inCase.mp (mem_keyRows.mp (hrows ▸ List.mem_singleton_self existing :
          existing ∈ keyRows st' req.caseId ep.key)).1).1
      rw [if_pos hlt, if_pos (hraises.mp (hconfidence ▸ hlt))]
      refine savePlan_meets ?_ ?_
      · rw [accepts_raise hmem, Bool.and_true]
      · have hvertex : (vertexOp py { existing with confidence := data.confidence }).isOk
            = (vertexOp py e).isOk := vertexOp_isOk_of_fixed py hfixed.symm
        rw [mirrored_isOk, hvertex]
    · rw [if_neg hlt, if_neg fun hr => hlt (hconfidence ▸ hraises.mpr hr)]
      exact Plan.pure_meets _
  -- two rows
  · rw [hrows, List.length_cons, List.length_cons] at hlength
    have hfound : (ep.found x req st.entities.rows earlier).length = others.length + 1 + 1 :=
      hlength.symm
    have htwo : decide ((ep.found x req st.entities.rows earlier).length ≤ 1) = false := by
      rw [hfound]
      exact decide_eq_false (by omega)
    rw [htwo]
    exact Effect.meets_check _ _

/-- Entities stay out of the bucket. -/
lemma persistEntitiesPlan_inside (x : RunExt) (req : RunRequest) (i : ℕ)
    (proposals : List EntityProposal) (refs : PluginRunner.Refs) :
    Plan.Inside (persistEntitiesPlan py x req i proposals refs) := by
  have hcall : ∀ ext data, Plan.Inside (O := Bucket)
      (getOrCreatePlan py ext req.caseId req.createdBy data) := by
    intro ext data
    refine Plan.Inside.lookup fun rows => ?_
    cases scalarOneOrNone rows with
    | error e => exact Plan.Inside.throw e
    | ok found =>
      cases found with
      | none => exact savePlan_inside _ (mirrored_inside _ _)
      | some existing =>
        dsimp only
        split
        · exact savePlan_inside _ (mirrored_inside _ _)
        · exact Plan.Inside.pure _
  induction proposals generalizing i refs with
  | nil => exact Plan.Inside.pure _
  | cons ep proposals ih =>
    exact (Plan.Inside.ofExcept _).bind fun data => (hcall _ data).bind fun _ =>
      (ih _ _).bind fun _ => Plan.Inside.pure _

/-- The account goes on by one proposal. -/
lemma EntitiesAfter.step {st'' : Store} (h : EntitiesAfter x req st earlier st' refs)
    {ep : EntityProposal} {data : EntityCreate} {entity : Entity} {wasCreated : Bool}
    {ws : List Write}
    (hdata : EntityCreate.validate ep.type.value ep.label ep.attrs ep.confidence = .ok data)
    (hgot : Got (x.entity earlier.length) req.caseId req.createdBy data st' (entity, wasCreated)
      ws st'') :
    EntitiesAfter x req st (ep :: earlier) st'' ((ep.ref, entity) :: refs) := by
  obtain ⟨hkey, hconfidence⟩ := EntityCreate.validate_ok hdata
  have hkey' : data.key = ep.key := hkey
  have hrest := hgot.rest
  refine ⟨?_, fun k q => ?_, ?_, hrest.relationships.trans h.relationships,
    hrest.evidence.trans h.evidence⟩
  -- a row is added exactly if the key had none
  · rw [hgot.rows, h.rows, rowsAfter]
    cases wasCreated with
    | true =>
      obtain ⟨hnone, rfl⟩ := hgot.of_created
      rw [h.isEmpty_of_nil (hkey' ▸ hnone), List.isEmpty_nil, if_pos rfl, if_pos rfl,
        List.map_append, newEntity_eq_row _ hdata]
    | false =>
      obtain ⟨existing, hone, -⟩ := hgot.of_found
      obtain ⟨e, he, -⟩ := h.exists_of_one (hkey' ▸ hone)
      rw [he, List.isEmpty_cons, if_neg Bool.false_ne_true, if_neg Bool.false_ne_true,
        List.map_nil, List.append_nil]
  · rw [hgot.confidence, raise_lt_iff, h.confidence, List.forall_mem_cons, hkey', hconfidence]
    constructor
    · intro ⟨⟨hst, hearlier⟩, hep⟩
      exact ⟨hst, fun hk => WithBot.coe_lt_coe.mp (hep hk), hearlier⟩
    · intro ⟨hst, hep, hearlier⟩
      exact ⟨⟨hst, hearlier⟩, fun hk => WithBot.coe_lt_coe.mpr (hep hk)⟩
  -- the entity that is answered has the id of the row
  · have hid : entity.id = (ep.target x req st.entities.rows earlier).id := by
      cases wasCreated with
      | true =>
        obtain ⟨hnone, rfl⟩ := hgot.of_created
        have hfound : ep.found x req st.entities.rows earlier = [] :=
          h.isEmpty_of_nil (hkey' ▸ hnone)
        rw [EntityProposal.target, hfound]
        rfl
      | false =>
        obtain ⟨existing, hone, hsame⟩ := hgot.of_found
        obtain ⟨e, he, hfixed⟩ := h.exists_of_one (hkey' ▸ hone)
        have hfound : ep.found x req st.entities.rows earlier = [e] := he
        rw [EntityProposal.target, hfound]
        exact (congrArg Entity.id (hsame.trans hfixed.symm) : entity.fixed.id = e.fixed.id)
    show (ep.ref, entity.id) :: refIds refs = _
    rw [h.refs, hid]
    rfl

/-- The loop keeps the account. -/
lemma persistEntitiesPlan_after {proposals : List EntityProposal} {refs' : PluginRunner.Refs}
    {created : List Entity} {b b' : Bucket} {ws : List Write}
    (h : EntitiesAfter x req st earlier st' refs)
    (hdone : persistEntitiesPlan py x req earlier.length proposals refs st' b
      = (.done (refs', created) ws, b')) :
    EntitiesAfter x req st (proposals.reverse ++ earlier) (applyAll st' ws) refs' := by
  induction proposals generalizing earlier refs created st' b ws with
  | nil =>
    cases hdone
    exact h
  | cons ep proposals ih =>
    obtain ⟨data, entity, wasCreated, ws₁, b₁, created₁, ws₂, hdata, -, -, hgot, hloop, -, rfl⟩ :=
      persistEntitiesPlan_cons py hdone
    rw [applyAll_append, List.reverse_cons, List.append_assoc, List.singleton_append]
    exact ih (h.step hdata hgot) hloop

/-- **The loop over the entity proposals** meets their hurdles. -/
lemma persistEntitiesPlan_meets {proposals : List EntityProposal} {b : Bucket}
    (h : EntitiesAfter x req st earlier st' refs) :
    (persistEntitiesPlan py x req earlier.length proposals refs st' b).1.Meets
      (along (EntityProposal.hurdles py x req st) earlier proposals) := by
  induction proposals generalizing earlier refs st' b with
  | nil => exact Plan.pure_meets _
  | cons ep proposals ih =>
    show Effect.Meets _ ([.check _] ++ ((.statement _ :: .check _
      :: ep.saving py x req st earlier) ++ along _ (ep :: earlier) proposals))
    -- behind the check of the fields come the call, the rest of the loop, and the answer
    refine Plan.bind_meets (Plan.ofExcept_meets _) fun data ws o' hvalid => ?_
    obtain ⟨hdata, rfl, rfl⟩ := Plan.ofExcept_done.mp hvalid
    refine Plan.bind_meets (getOrCreatePlan_meets py h hdata) fun answer ws o' hcall => ?_
    obtain ⟨entity, wasCreated⟩ := answer
    have hstep := h.step hdata (getOrCreatePlan_got py hcall)
    exact Plan.bind_pure_meets (ih hstep) fun answer => ⟨_, rfl⟩

end Entities

/-! ## Relationships -/

section Relationships

variable {x : RunExt} {req : RunRequest} {plugin : OSINTPlugin}

/-- The ids are what a lookup answers. -/
lemma lookup_refIds (refs : PluginRunner.Refs) (ref : String) :
    (refIds refs).lookup ref = (refs.lookup ref).map Entity.id := by
  induction refs with
  | nil => rfl
  | cons p refs ih =>
    rw [refIds, List.map_cons, List.lookup_cons, List.lookup_cons]
    split
    · rfl
    · exact ih

/-- A ref leads to an id by the ids alone. -/
lemma resolveRef_ids {refs refs' : PluginRunner.Refs} (h : refIds refs = refIds refs')
    (ref : PyDict) (inputEntity : Entity) :
    (PluginRunner.resolveRef ref inputEntity refs).map Entity.id
      = (PluginRunner.resolveRef ref inputEntity refs').map Entity.id := by
  unfold PluginRunner.resolveRef
  split
  · rfl
  · split
    · cases PyDict.get ref "ref" with
      | str key =>
        have hlookup : (refs.lookup key).map Entity.id = (refs'.lookup key).map Entity.id := by
          rw [← lookup_refIds, ← lookup_refIds, h]
        dsimp only
        cases hkey : refs.lookup key with
        | none =>
          rw [hkey] at hlookup
          rw [Option.map_eq_none_iff.mp hlookup.symm]
        | some e =>
          rw [hkey] at hlookup
          obtain ⟨e', he', hid⟩ := Option.map_eq_some_iff.mp hlookup.symm
          rw [he']
          exact congrArg Except.ok hid.symm
      | _ => rfl
    · rfl

lemma wanted_congr {refs refs' : PluginRunner.Refs} (h : refIds refs = refIds refs')
    (rp : RelationshipProposal) : rp.wanted req plugin refs = rp.wanted req plugin refs' := by
  -- a proposal uses its endpoints by their ids
  have hids : ∀ refs, rp.wanted req plugin refs
      = ((PluginRunner.resolveRef rp.src req.inputEntity refs).map Entity.id).bind fun src =>
        ((PluginRunner.resolveRef rp.dst req.inputEntity refs).map Entity.id).bind fun dst =>
          RelationshipCreate.validate src dst rp.relType.value rp.confidence
            (some plugin.fullName) rp.attrs := by
    intro refs
    unfold RelationshipProposal.wanted
    cases PluginRunner.resolveRef rp.src req.inputEntity refs with
    | error e => rfl
    | ok src => cases PluginRunner.resolveRef rp.dst req.inputEntity refs <;> rfl
  rw [hids, hids, resolveRef_ids h, resolveRef_ids h]

/-- A proposal of the loop, by the relationship it asks for. -/
lemma persistRelationshipsPlan_wanted (refs : PluginRunner.Refs) (i : ℕ)
    (rp : RelationshipProposal) (proposals : List RelationshipProposal) :
    persistRelationshipsPlan py x req plugin refs i (rp :: proposals)
      = (Plan.ofExcept (rp.wanted req plugin refs)).bind fun data =>
        (createIfNotExistsPlan py (x.relationship i) req.caseId req.createdBy data).bind
          fun (rel, wasCreated) =>
            (persistRelationshipsPlan py x req plugin refs (i + 1) proposals).bind fun created =>
              Plan.pure (if wasCreated then rel :: created else created) := by
  rw [persistRelationshipsPlan]
  unfold RelationshipProposal.wanted
  cases PluginRunner.resolveRef rp.src req.inputEntity refs with
  | error e => rfl
  | ok src =>
    rw [Plan.ofExcept_ok_bind]
    cases PluginRunner.resolveRef rp.dst req.inputEntity refs with
    | error e => rfl
    | ok dst =>
      rw [Plan.ofExcept_ok_bind]
      rfl

variable {st st' : Store} {entities : List Entity} {refs : PluginRunner.Refs}
variable {earlier : List RelationshipProposal}

lemma prefix_relationshipsAfter {rows : List Relationship} :
    rows <+: relationshipsAfter x req plugin refs rows earlier := by
  induction earlier with
  | nil => exact List.prefix_refl rows
  | cons rp earlier ih =>
    rw [relationshipsAfter]
    split
    · exact ih
    · split
      · exact ih.trans (List.prefix_append _ _)
      · exact ih

/-- What relationship proposals have made of a store, told from the store before the run. -/
structure RelationshipsAfter (x : RunExt) (req : RunRequest) (plugin : OSINTPlugin) (st : Store)
    (entities : List Entity) (refs : PluginRunner.Refs) (earlier : List RelationshipProposal)
    (st' : Store) : Prop where
  rows : st'.relationships.rows
    = relationshipsAfter x req plugin refs st.relationships.rows earlier
  entities : st'.entities.rows.map Entity.fixed = entities.map Entity.fixed
  evidence : st'.evidence = st.evidence

/-- An endpoint is found by an id, and by what bumps leave. -/
lemma isEndpoint_of_fixed {rows rows' : List Entity}
    (h : rows.map Entity.fixed = rows'.map Entity.fixed) (id : UUID) :
    isEndpoint req rows id = isEndpoint req rows' id := by
  have hfixed : ∀ l : List Entity,
      isEndpoint req l id = isEndpoint req (l.map Entity.fixed) id := by
    intro l
    unfold isEndpoint
    rw [List.any_map]
    rfl
  rw [hfixed, h, ← hfixed]

/-- The two endpoints, in the answer of the statement. -/
lemma endpointsInCase_contains (req : RunRequest) (st : Store) (src dst : UUID) :
    ((RelationshipRepository.endpointsInCase st req.caseId src dst).contains src
      && (RelationshipRepository.endpointsInCase st req.caseId src dst).contains dst)
      = (isEndpoint req st.entities.rows src && isEndpoint req st.entities.rows dst) := by
  have hone : ∀ id, id = src ∨ id = dst →
      (RelationshipRepository.endpointsInCase st req.caseId src dst).contains id
        = isEndpoint req st.entities.rows id := by
    intro id hid
    rw [Bool.eq_iff_iff, List.contains_iff_mem, isEndpoint, List.any_eq_true]
    simp only [RelationshipRepository.endpointsInCase, List.mem_map, List.mem_filter,
      Bool.and_eq_true, Bool.or_eq_true, decide_eq_true_eq]
    refine exists_congr fun e => ⟨?_, ?_⟩
    · rintro ⟨⟨hmem, ⟨hcase, -⟩, hlive⟩, rfl⟩
      exact ⟨hmem, ⟨hcase, rfl⟩, hlive⟩
    · rintro ⟨hmem, ⟨hcase, rfl⟩, hlive⟩
      exact ⟨⟨hmem, ⟨hcase, hid⟩, hlive⟩, rfl⟩
  rw [hone src (Or.inl rfl), hone dst (Or.inr rfl)]

/-- The relationships of a key. -/
lemma RelationshipsAfter.key_rows
    (h : RelationshipsAfter x req plugin st entities refs earlier st') (data : RelationshipCreate) :
    RelationshipRepository.withKey st' req.caseId data.srcEntityId data.dstEntityId
        data.relType.value
      = relationshipsWithKey
        (relationshipsAfter x req plugin refs st.relationships.rows earlier) req.caseId data := by
  rw [← h.rows]
  rfl

lemma RelationshipsAfter.accepts (h : RelationshipsAfter x req plugin st entities refs earlier st')
    (r : Relationship) :
    st'.accepts (.insertRelationship r) = (st.accepts (.insertRelationship r)
      && (relationshipsAfter x req plugin refs st.relationships.rows earlier).all
        fun r' => r'.id ≠ r.id) := by
  have hnew : ((relationshipsAfter x req plugin refs st.relationships.rows earlier).all
      fun r' => r'.id ≠ r.id) = !st'.relationships.has r.id := by
    rw [← h.rows, all_ne_id]
    rfl
  have hold : st'.relationships.has r.id = false → st.relationships.has r.id = false := by
    intro hno
    refine Table.has_eq_false_iff.mpr fun r' hr' => ?_
    refine Table.has_eq_false_iff.mp hno r' ?_
    rw [Table.mem_iff, h.rows]
    exact prefix_relationshipsAfter.subset hr'
  rw [hnew]
  cases hhas : st'.relationships.has r.id with
  | true => simp [Store.accepts, hhas]
  | false => simp [Store.accepts, hhas, hold hhas]

/-- One relationship that is asked for meets its hurdles. -/
lemma createIfNotExistsPlan_meets {O : Type} {o : O}
    (h : RelationshipsAfter x req plugin st entities refs earlier st')
    (data : RelationshipCreate) :
    (createIfNotExistsPlan py (x.relationship earlier.length) req.caseId req.createdBy data st'
      o).1.Meets
      (.statement (!(x.relationship earlier.length).lookup)
        :: .check ((relationshipsWithKey
          (relationshipsAfter x req plugin refs st.relationships.rows earlier) req.caseId
          data).length ≤ 1)
        :: data.saving py req st entities
          (relationshipsAfter x req plugin refs st.relationships.rows earlier)
          (x.relationship earlier.length)) := by
  refine Plan.lookup_meets ?_
  rw [h.key_rows]
  rcases hrows : relationshipsWithKey
    (relationshipsAfter x req plugin refs st.relationships.rows earlier) req.caseId data
    with _ | ⟨existing, _ | ⟨second, others⟩⟩
  · simp only [RelationshipCreate.saving, hrows, List.isEmpty_nil, if_true]
    refine Effect.Meets.cons_of ?_ .usable (by simp)
    refine Plan.lookup_meets ?_
    have hends := endpointsInCase_contains req st' data.srcEntityId data.dstEntityId
    rw [isEndpoint_of_fixed h.entities, isEndpoint_of_fixed h.entities] at hends
    rw [hends]
    cases hboth : isEndpoint req entities data.srcEntityId
        && isEndpoint req entities data.dstEntityId with
    | false => exact Effect.meets_check _ _
    | true =>
      refine Effect.Meets.cons_of ?_ .usable rfl
      refine savePlan_meets ?_ (mirrored_isOk _ _ _)
      rw [h.accepts]
  · simp only [RelationshipCreate.saving, hrows, List.isEmpty_cons, Bool.false_eq_true, if_false]
    exact Effect.Meets.cons_of (Plan.pure_meets _) .usable (by simp)
  · have htwo : decide ((existing :: second :: others).length ≤ 1) = false := by simp
    rw [htwo]
    exact Effect.meets_check _ _

/-- Relationships stay out of the bucket. -/
lemma persistRelationshipsPlan_inside (x : RunExt) (req : RunRequest) (plugin : OSINTPlugin)
    (refs : PluginRunner.Refs) (i : ℕ) (proposals : List RelationshipProposal) :
    Plan.Inside (persistRelationshipsPlan py x req plugin refs i proposals) := by
  have hcall : ∀ ext data, Plan.Inside (O := Bucket)
      (createIfNotExistsPlan py ext req.caseId req.createdBy data) := by
    intro ext data
    refine Plan.Inside.lookup fun rows => ?_
    cases scalarOneOrNone rows with
    | error e => exact Plan.Inside.throw e
    | ok found =>
      cases found with
      | some existing => exact Plan.Inside.pure _
      | none =>
        refine Plan.Inside.lookup fun ids => ?_
        split
        · exact Plan.Inside.throw _
        · exact savePlan_inside _ (mirrored_inside _ _)
  induction proposals generalizing i with
  | nil => exact Plan.Inside.pure _
  | cons rp proposals ih =>
    rw [persistRelationshipsPlan_wanted]
    exact (Plan.Inside.ofExcept _).bind fun data => (hcall _ data).bind fun _ =>
      (ih _).bind fun _ => Plan.Inside.pure _

/-- The account goes on by one proposal. -/
lemma RelationshipsAfter.step {st'' : Store} {rp : RelationshipProposal}
    {data : RelationshipCreate} {rel : Relationship} {wasCreated : Bool}
    (h : RelationshipsAfter x req plugin st entities refs earlier st')
    (hdata : rp.wanted req plugin refs = .ok data)
    (hgot : GotRelationship (x.relationship earlier.length) req.caseId req.createdBy data st'
      (rel, wasCreated) st'') :
    RelationshipsAfter x req plugin st entities refs (rp :: earlier) st'' := by
  have hsame := hgot.same
  refine ⟨?_, by rw [hsame.entities, h.entities], hsame.evidence.trans h.evidence⟩
  rw [hgot.rows, h.rows, relationshipsAfter, hdata]
  dsimp only
  rw [← h.key_rows]
  cases hgot with
  | created hnone hnew hrelationships hother =>
    rw [hnone, List.isEmpty_nil, if_pos rfl, if_pos rfl]
  | kept _ hone =>
    rw [hone, List.isEmpty_cons, if_neg Bool.false_ne_true, if_neg Bool.false_ne_true,
      List.append_nil]

variable {refs' : PluginRunner.Refs}

/-- The loop keeps the account. -/
lemma persistRelationshipsPlan_after {proposals : List RelationshipProposal}
    {created : List Relationship} {b b' : Bucket} {ws : List Write}
    (h : RelationshipsAfter x req plugin st entities refs earlier st')
    (hrefs : refIds refs' = refIds refs)
    (hdone : persistRelationshipsPlan py x req plugin refs' earlier.length proposals st' b
      = (.done created ws, b')) :
    RelationshipsAfter x req plugin st entities refs (proposals.reverse ++ earlier)
      (applyAll st' ws) := by
  induction proposals generalizing earlier created st' b ws with
  | nil =>
    cases hdone
    exact h
  | cons rp proposals ih =>
    obtain ⟨src, dst, data, rel, wasCreated, ws₁, b₁, created₁, ws₂, hproposed, hgot, hloop, -,
      rfl⟩ := persistRelationshipsPlan_cons py hdone
    have hdata : rp.wanted req plugin refs' = .ok data := by
      unfold RelationshipProposal.wanted
      rw [hproposed.resolves_src, hproposed.resolves_dst]
      exact hproposed.validates
    rw [wanted_congr hrefs] at hdata
    rw [applyAll_append, List.reverse_cons, List.append_assoc, List.singleton_append]
    exact ih (h.step hdata hgot) hloop

/-- **The loop over the relationship proposals** meets their hurdles. -/
lemma persistRelationshipsPlan_meets {proposals : List RelationshipProposal} {b : Bucket}
    (h : RelationshipsAfter x req plugin st entities refs earlier st')
    (hrefs : refIds refs' = refIds refs) :
    (persistRelationshipsPlan py x req plugin refs' earlier.length proposals st' b).1.Meets
      (along (RelationshipProposal.hurdles py x req plugin st entities refs) earlier
        proposals) := by
  induction proposals generalizing earlier st' b with
  | nil => exact Plan.pure_meets _
  | cons rp proposals ih =>
    rw [persistRelationshipsPlan_wanted, wanted_congr hrefs, along, RelationshipProposal.hurdles]
    cases hdata : rp.wanted req plugin refs with
    | error e => exact Effect.meets_check e _
    | ok data =>
      rw [Plan.ofExcept_ok_bind]
      refine Plan.bind_meets (createIfNotExistsPlan_meets py h data) fun answer ws o' hcall => ?_
      obtain ⟨rel, wasCreated⟩ := answer
      have hstep := h.step hdata (createIfNotExistsPlan_got py hcall)
      exact Plan.bind_pure_meets (ih hstep) fun answer => ⟨_, rfl⟩

end Relationships

/-! ## Evidence -/

section Evidence

variable {x : RunExt} {req : RunRequest} {plugin : OSINTPlugin} {st st' : Store} {b b' : Bucket}
variable {entities : List Entity} {earlier : List EvidenceProposal}

/-- What evidence proposals have made of a store and of the bucket, told from those before the
run. -/
structure EvidenceAfter (x : RunExt) (req : RunRequest) (st : Store) (b : Bucket)
    (entities : List Entity) (earlier : List EvidenceProposal) (st' : Store) (b' : Bucket) :
    Prop where
  entities : st'.entities.rows.map Entity.fixed = entities.map Entity.fixed
  ids : ∀ id, st'.evidence.has id = (st.evidence.has id
    || (List.range earlier.length).any fun j => (x.evidence j).newId = id)
  sizes : ∀ key, blobSize b' key = sizeAfter req b earlier key

/-- An upload goes through unless the bucket fails it, or it is skipped. -/
lemma uploaded_isOk (p : PutExt) (key : String) (payload : Bytes) (contentType : String)
    (b : Bucket) :
    (uploaded p key payload contentType b).1.isOk
      = (!p.head && (!p.put || blobSize b key = some payload.length)) := by
  have huploaded : (uploaded p key payload contentType b).1.isOk
      = (EvidenceStorage.put p key payload contentType b).1.isOk := by
    unfold uploaded
    cases EvidenceStorage.put p key payload contentType b with
    | mk r b' => cases r <;> rfl
  rw [huploaded]
  unfold EvidenceStorage.put EvidenceStorage.putObject blobSize
  cases p.head with
  | true => rfl
  | false =>
    cases b.lookup key with
    | none => cases p.put <;> simp [Except.isOk, Except.toBool]
    | some blob =>
      by_cases hsize : blob.body.length = payload.length
      · simp [hsize, Except.isOk, Except.toBool]
      · cases p.put <;> simp [hsize, Except.isOk, Except.toBool]

/-- What is at the keys after an upload. -/
lemma blobSize_uploaded {p : PutExt} {key : String} {payload : Bytes} {contentType : String}
    {b b' : Bucket} {ops : List Write}
    (h : uploaded p key payload contentType b = (.ok ops, b')) (key' : String) :
    blobSize b' key' = if key = key' then some payload.length else blobSize b key' := by
  have hput : EvidenceStorage.put p key payload contentType b = (.ok (), b') := by
    unfold uploaded at h
    cases hp : EvidenceStorage.put p key payload contentType b with
    | mk r b'' =>
      rw [hp] at h
      cases r with
      | error e => cases h
      | ok u =>
        cases h
        rfl
  -- what is uploaded is on top
  have hstored : ∀ {b'' : Bucket}, EvidenceStorage.putObject p key payload contentType b
      = (.ok (), b'') → blobSize b'' key'
        = if key = key' then some payload.length else blobSize b key' := by
    intro b'' hobject
    unfold EvidenceStorage.putObject at hobject
    cases hfails : p.put with
    | true =>
      rw [hfails, if_pos rfl] at hobject
      cases hobject
    | false =>
      rw [hfails, if_neg Bool.false_ne_true] at hobject
      cases hobject
      unfold blobSize
      by_cases hkey : key = key'
      · rw [List.lookup_cons, if_pos hkey, hkey, beq_self_eq_true]
        rfl
      · rw [List.lookup_cons, if_neg hkey, beq_eq_false_iff_ne.mpr fun h => hkey h.symm]
  unfold EvidenceStorage.put at hput
  cases hhead : p.head with
  | true =>
    rw [hhead, if_pos rfl] at hput
    cases hput
  | false =>
    rw [hhead, if_neg Bool.false_ne_true] at hput
    cases hfound : b.lookup key with
    | none =>
      rw [hfound] at hput
      exact hstored hput
    | some blob =>
      rw [hfound] at hput
      dsimp only at hput
      split at hput
      -- an object of that size is there already
      · rename_i hsize
        cases hput
        split
        · rename_i hkey
          rw [← hkey, blobSize, hfound, Option.map_some, hsize]
        · rfl
      · exact hstored hput

/-- A row of the ledger is accepted as before the run, if its id is new and its entity there. -/
lemma EvidenceAfter.accepts (h : EvidenceAfter x req st b entities earlier st' b')
    (ev : Evidence) :
    st'.accepts (.insertEvidence ev) = (st.accepts (.insertEvidence { ev with entityId := none })
      && ((List.range earlier.length).all fun j => (x.evidence j).newId ≠ ev.id)
      && ev.entityId.all fun id => entities.any fun e => e.id = id) := by
  have hentity : (ev.entityId.all st'.entities.has)
      = ev.entityId.all fun id => entities.any fun e => e.id = id := by
    cases ev.entityId with
    | none => rfl
    | some id => exact has_of_fixed h.entities id
  rw [all_ne_id]
  simp only [Store.accepts, h.ids, hentity, Option.all_none, Bool.and_true, Bool.not_or]
  cases st.evidence.has ev.id with
  | true => simp
  | false =>
    cases (List.range earlier.length).any fun j => decide ((x.evidence j).newId = ev.id) with
    | true => simp
    | false => simp

/-- One evidence proposal that is asked for meets its hurdles. -/
lemma createEvidencePlan_meets (h : EvidenceAfter x req st b entities earlier st' b')
    (evp : EvidenceProposal) (data : EvidenceCreate) :
    (createEvidencePlan (x.evidence earlier.length) (x.blob earlier.length) req.caseId
      req.createdBy data evp.payload evp.contentType st' b').1.Meets
      (evp.saving x req data st b entities earlier) := by
  refine savePlan_meets ?_ ?_
  · rw [h.accepts]
  · rw [uploaded_isOk, h.sizes]

/-- The account goes on by one proposal. -/
lemma EvidenceAfter.step {b'' : Bucket} {evp : EvidenceProposal} {data : EvidenceCreate}
    {ev : Evidence} {ws : List Write} (h : EvidenceAfter x req st b entities earlier st' b')
    (hdone : createEvidencePlan (x.evidence earlier.length) (x.blob earlier.length) req.caseId
      req.createdBy data evp.payload evp.contentType st' b' = (.done ev ws, b'')) :
    EvidenceAfter x req st b entities (evp :: earlier) (applyAll st' ws) b'' := by
  obtain ⟨-, haccepts, ops, hops, -, rfl⟩ := savePlan_done.mp hdone
  obtain rfl := uploaded_ok hops
  refine ⟨h.entities, fun id => ?_, fun key => ?_⟩
  · have hids := h.ids id
    rw [Bool.eq_iff_iff] at hids ⊢
    show (st'.evidence.insert _).has id = true ↔ _
    rw [Table.has_insert (accepts_insertEvidence haccepts), hids, List.length_cons,
      List.range_succ, List.any_append, ← Bool.or_assoc, Bool.or_eq_true (_ || _), List.any_cons,
      List.any_nil, Bool.or_false, decide_eq_true_eq]
    exact or_congr Iff.rfl eq_comm
  · rw [blobSize_uploaded hops, h.sizes, sizeAfter, sizeAfter, List.find?_cons]
    show (if buildKey req.caseId (hashBytes evp.payload) = key then _ else _) = _
    by_cases hkey : buildKey req.caseId (hashBytes evp.payload) = key
    · rw [if_pos hkey, decide_eq_true hkey]
    · rw [if_neg hkey, decide_eq_false hkey]

/-- **The loop over the evidence proposals** meets their hurdles. -/
lemma persistEvidencePlan_meets {proposals : List EvidenceProposal}
    (h : EvidenceAfter x req st b entities earlier st' b') :
    (persistEvidencePlan x req plugin earlier.length proposals st' b').1.Meets
      (along (EvidenceProposal.hurdles x req plugin st b entities) earlier proposals) := by
  induction proposals generalizing earlier st' b' with
  | nil => exact Plan.pure_meets _
  | cons evp proposals ih =>
    have hloop : persistEvidencePlan x req plugin earlier.length (evp :: proposals)
        = (Plan.ofExcept (evp.wanted req plugin)).bind fun data =>
          (createEvidencePlan (x.evidence earlier.length) (x.blob earlier.length) req.caseId
            req.createdBy data evp.payload evp.contentType).bind fun ev =>
              (persistEvidencePlan x req plugin (earlier.length + 1) proposals).bind
                fun created => Plan.pure (ev :: created) := rfl
    rw [hloop, along, EvidenceProposal.hurdles]
    cases hdata : evp.wanted req plugin with
    | error e => exact Effect.meets_check e _
    | ok data =>
      rw [Plan.ofExcept_ok_bind]
      refine Plan.bind_meets (createEvidencePlan_meets h evp data) fun ev ws o' hcall => ?_
      exact Plan.bind_pure_meets (ih (h.step hcall)) fun created => ⟨_, rfl⟩

end Evidence

/-! ## The work -/

section Work

variable {x : RunExt} {req : RunRequest} {plugin : OSINTPlugin} {st st' : Store} {b : Bucket}

/-- What is given without a question to the vault. -/
lemma pure_given (given : Option PyDict) (st : Store) (b : Bucket) :
    ((Plan.pure given : Plan Store Write Bucket Exc _) st b).1.Meets [] ∧
      ∀ credentials ws b',
        (Plan.pure given : Plan Store Write Bucket Exc _) st b = (.done credentials ws, b') →
          credentials = given ∧ ws = [] ∧ b' = b := by
  refine ⟨Plan.pure_meets _, fun credentials ws b' h => ?_⟩
  cases h
  exact ⟨rfl, rfl, rfl⟩

/-- The credentials come from the request, or from the vault. -/
lemma credentialsPlan_meets (x : RunExt) (req : RunRequest) (plugin : OSINTPlugin) (st : Store)
    (b : Bucket) :
    (credentialsPlan x req plugin st b).1.Meets (credentialsHurdles x req plugin) ∧
      ∀ credentials ws b', credentialsPlan x req plugin st b = (.done credentials ws, b') →
        credentials = givenCredentials req plugin ∧ ws = [] ∧ b' = b := by
  unfold credentialsPlan credentialsHurdles givenCredentials vaultUser vaultKey
  cases plugin.requiresCredentials with
  | false => exact pure_given req.credentials st b
  | true =>
    cases req.credentials with
    | some credentials => exact pure_given (some credentials) st b
    | none =>
      cases req.createdBy with
      | none => exact pure_given none st b
      -- the vault is asked, and its answer may be an error or no key
      | some user =>
        cases hvault : req.vault user plugin.name with
        | error e =>
          refine ⟨Plan.lookup_meets ?_, fun credentials ws b' h => ?_⟩
          · rw [hvault]
            exact Effect.meets_check e []
          · rw [Plan.lookup_done, hvault] at h
            cases h.2
        | ok decrypted =>
          cases decrypted with
          | none =>
            refine ⟨Plan.lookup_meets ?_, fun credentials ws b' h => ?_⟩
            · rw [hvault]
              exact Effect.meets_check _ []
            · rw [Plan.lookup_done, hvault] at h
              cases h.2
          | some key =>
            refine ⟨Plan.lookup_meets ?_, fun credentials ws b' h => ?_⟩
            · rw [hvault]
              exact Effect.Meets.cons (Plan.pure_meets _) .usable
            · rw [Plan.lookup_done, hvault] at h
              cases h.2
              simp [hvault, Except.toOption]

/-- `_persist` meets the hurdles of its result. -/
lemma persistPlan_meets (h : PluginRunner.SameData st st') (result : QueryResult) :
    (persistPlan py x req plugin result st' b).1.Meets
      (result.hurdles py x req plugin st b) := by
  unfold persistPlan QueryResult.hurdles
  have hstart : EntitiesAfter x req st [] st' [] := .start h
  refine Plan.bind_meets (persistEntitiesPlan_meets py hstart) fun answer ws b' hentities => ?_
  obtain ⟨refs, created⟩ := answer
  have hafter := persistEntitiesPlan_after py hstart hentities
  rw [List.append_nil] at hafter
  obtain rfl : b' = b := by
    have hinside := persistEntitiesPlan_inside py x req 0 result.entities [] st' b
    rw [hentities] at hinside
    exact hinside
  have hlinks : RelationshipsAfter x req plugin st
      (rowsAfter x req st.entities.rows result.entities.reverse)
      (refsAfter x req st.entities.rows result.entities.reverse) [] (applyAll st' ws) :=
    ⟨congrArg Table.rows hafter.relationships, hafter.rows, hafter.evidence⟩
  refine Plan.bind_meets (persistRelationshipsPlan_meets py hlinks hafter.refs)
    fun relationships ws' b'' hrelationships => ?_
  have hlinked := persistRelationshipsPlan_after py hlinks hafter.refs hrelationships
  obtain rfl : b'' = b' := by
    have hinside := persistRelationshipsPlan_inside py x req plugin refs 0 result.relationships
      (applyAll st' ws) b'
    rw [hrelationships] at hinside
    exact hinside
  have hledger : EvidenceAfter x req st b''
      (rowsAfter x req st.entities.rows result.entities.reverse) []
      (applyAll (applyAll st' ws) ws') b'' :=
    ⟨hlinked.entities, fun id => by rw [hlinked.evidence]; simp, fun key => rfl⟩
  exact Plan.bind_pure_meets (persistEvidencePlan_meets hledger) fun evidence => ⟨_, rfl⟩

/-- **The work of a run stops at its first hurdle**, and has written by then if one of those
before it says so. -/
theorem workPlan_meets (h : PluginRunner.SameData st st') :
    (workPlan py x req plugin st' b).1.Meets (workHurdles py x req plugin st b) := by
  unfold workPlan workHurdles
  obtain ⟨hmeets, hdone⟩ := credentialsPlan_meets x req plugin st' b
  refine Plan.bind_meets hmeets fun credentials ws b' hcredentials => ?_
  obtain ⟨rfl, rfl, rfl⟩ := hdone credentials ws b' hcredentials
  show ((Plan.ofExcept (pluginAnswer req plugin)).bind _ _ _).1.Meets _
  cases pluginAnswer req plugin with
  | error e => exact Effect.meets_check e _
  | ok result =>
    rw [Plan.ofExcept_ok_bind]
    exact persistPlan_meets py h result

end Work

end Sleuthgraph
