import Sleuthgraph.Api.RouteTheorems
import Sleuthgraph.Cases.RequestTheorems
import Sleuthgraph.Graph.AgeTheorems
import Sleuthgraph.Plugins.RunnerTheorems

/-!
# Tenants are isolated

The statements to AGE go by id alone, and a worker loads its input by id alone. That they stay in
their case is an invariant of the store, `Store.Sound`: relationships, the vertices and edges that
mirror the rows, and the inputs of runs do not leave their case. A step in a sound store changes
nothing that belongs to another case (`CaseStep.slice_eq`).
-/

namespace Sleuthgraph

open Programs Transactions Tables

/-! ## What belongs to a case -/

/-- The `case_id` of a vertex or an edge. -/
def ofCase (c : UUID) (props : PyDict) : Bool :=
  props.lookup "case_id" = some (.str (String.ofList (uuidText c)))

/-- How the keys of a case's blobs start. -/
def keyPrefix (c : UUID) : List Char := "case/".toList ++ uuidText c ++ "/ev/".toList

/-- All that belongs to a case, but for the row of the case itself. -/
structure CaseSlice where
  entities : List Entity
  relationships : List Relationship
  evidence : List Evidence
  runs : List PluginRun
  vertices : List Vertex
  edges : List Edge
  blobs : Bucket

def sliceOf (c : UUID) (st : Store) (b : Bucket) : CaseSlice where
  entities := st.entities.rows.filter fun e => e.caseId = c
  relationships := st.relationships.rows.filter fun r => r.caseId = c
  evidence := st.evidence.rows.filter fun ev => ev.caseId = c
  runs := st.runs.rows.filter fun run => run.caseId = c
  vertices := st.graph.vertices.filter fun v => ofCase c v.props
  edges := st.graph.edges.filter fun e => ofCase c e.props
  blobs := b.filter fun (key, _) => (keyPrefix c).isPrefixOf key.toList

/-- Nothing carries the ids of two cases. -/
lemma ofCase_unique {c c' : UUID} {props : PyDict} (h : ofCase c props = true) (hne : c' ≠ c) :
    ofCase c' props = false := by
  simp only [ofCase, decide_eq_true_eq] at h
  simp only [ofCase, h, decide_eq_false_iff_not, Option.some.injEq, PyVal.str.injEq]
  exact fun htext => hne (uuidText_injective (String.ofList_injective htext)).symm

/-- No key starts like the keys of two cases. -/
lemma keyPrefix_buildKey {c c' : UUID} (hash : String) (hne : c' ≠ c) :
    (keyPrefix c').isPrefixOf (buildKey c hash).toList = false := by
  rw [Bool.eq_false_iff, ne_eq, List.isPrefixOf_iff_prefix]
  rintro ⟨rest, hrest⟩
  have hkey : (buildKey c hash).toList = keyPrefix c ++ hash.toList := String.toList_ofList
  rw [hkey] at hrest
  have hlen : ∀ c, (keyPrefix c).length = 45 := by
    intro c
    simp [keyPrefix]
  obtain ⟨hfront, -⟩ := List.append_inj hrest (by rw [hlen, hlen])
  have htext := List.append_cancel_right hfront
  exact hne (uuidText_injective (List.append_cancel_left htext))

/-! ## Sound stores -/

/-- A row of the case has the id, between the two entities. -/
def RelationshipOf (c : UUID) (st : Store) (id src dst : UUID) : Prop :=
  ∃ r ∈ st.relationships, r.id = id ∧ r.caseId = c ∧ r.srcEntityId = src ∧ r.dstEntityId = dst

/-- Nothing points out of its case. -/
structure Store.Sound (st : Store) : Prop where
  endpoints : ∀ r ∈ st.relationships,
    EntityOf r.caseId st r.srcEntityId ∧ EntityOf r.caseId st r.dstEntityId
  vertices : ∀ v ∈ st.graph.vertices, ∃ c, EntityOf c st v.key.id ∧ ofCase c v.props = true
  edges : ∀ g ∈ st.graph.edges, ∃ c,
    RelationshipOf c st g.key.id g.key.src.id g.key.dst.id ∧ ofCase c g.props = true
  inputs : ∀ run ∈ st.runs, ∀ id, run.inputEntityId = some id → EntityOf run.caseId st id
  uris : ∀ ev ∈ st.evidence, ev.responseUri = buildKey ev.caseId ev.responseHash

lemma Store.Sound.empty : Store.empty.Sound where
  endpoints _ h := nomatch h
  vertices _ h := nomatch h
  edges _ h := nomatch h
  inputs _ h := nomatch h
  uris _ h := nomatch h

section Rows

variable {c c' id src dst : UUID} {st : Store}

/-- An id belongs to one case. -/
lemma EntityOf.unique (h : EntityOf c st id) (h' : EntityOf c' st id) : c = c' := by
  obtain ⟨e, he, hid, rfl⟩ := h
  obtain ⟨e', he', hid', rfl⟩ := h'
  rw [Table.eq_of_pk_eq he he' (hid.trans hid'.symm)]

lemma EntityOf.of_mem {e : Entity} (he : e ∈ st.entities) : EntityOf e.caseId st e.id :=
  ⟨e, he, rfl, rfl⟩

/-- The case of a row is that of its id. -/
lemma RelationshipOf.case_eq (h : RelationshipOf c st id src dst) {r : Relationship}
    (hr : r ∈ st.relationships) (hid : r.id = id) : c = r.caseId := by
  obtain ⟨r', hr', hid', rfl, -⟩ := h
  rw [Table.eq_of_pk_eq hr hr' (hid.trans hid'.symm)]

/-- A relationship is in the case of each of its endpoints. -/
lemma Store.Sound.case_of_endpoint (hs : st.Sound) (h : RelationshipOf c st id src dst)
    {e : UUID} (he : src = e ∨ dst = e) (hcase : EntityOf c' st e) : c = c' := by
  obtain ⟨r, hr, -, rfl, rfl, rfl⟩ := h
  rcases he with rfl | rfl
  · exact (hs.endpoints r hr).1.unique hcase
  · exact (hs.endpoints r hr).2.unique hcase

end Rows

/-! ## Calls in a sound store -/

section Calls

/-- A merged vertex carries the case of its row. -/
lemma ofCase_vertexProps (py : Interp) (e : Entity) :
    ofCase e.caseId (storedProps py.str (vertexProps py e)) = true := by
  simp [ofCase, storedProps, vertexProps, stored, List.lookup_cons]

/-- A merged edge carries the case of its row. -/
lemma ofCase_edgeProps (py : Interp) (r : Relationship) :
    ofCase r.caseId (storedProps py.str (edgeProps py r)) = true := by
  simp [ofCase, storedProps, edgeProps, stored, List.lookup_cons]

variable {py : Interp} {x : Ext} {st st' : Store} {call : Call}

/-- A relationship keeps its id, its case and its endpoints. -/
lemma Call.Does.relationshipOf (h : call.Does py x st st') {c id src dst : UUID}
    (hr : RelationshipOf c st id src dst) : RelationshipOf c st' id src dst := by
  obtain ⟨r, hr, hrow⟩ := hr
  have hinsert : ∀ {new : Relationship}, st.accepts (.insertRelationship new) = true →
      RelationshipOf c (st.putRelationship py new) id src dst := fun hacc =>
    ⟨r, (Table.mem_insert (accepts_insertRelationship hacc)).mpr (Or.inl hr), hrow⟩
  cases h with
  | createEntity haccepts => exact ⟨r, hr, hrow⟩
  | getOrCreateNew hnone haccepts => exact ⟨r, hr, hrow⟩
  | raiseConfidence e he hcase hlt => exact ⟨r, hr, hrow⟩
  | editEntity e he hid hcase haccepts => exact ⟨r, hr, hrow⟩
  | remirrorEntity e he hid hcase hempty => exact ⟨r, hr, hrow⟩
  | dropEntity e he hid hcase => exact ⟨r, hr, hrow⟩
  | createRelationship hsrc hdst haccepts => exact hinsert haccepts
  | createMissing hsrc hdst haccepts => exact hinsert haccepts
  | dropRelationship old hold hid hcase =>
    refine ⟨_, (Table.mem_modify (Relationship.retire x.now) fun _ => rfl).mpr ⟨r, hr, rfl⟩, ?_⟩
    split
    · exact hrow
    · exact hrow

lemma LiveInCase.entityOf {c id : UUID} (h : LiveInCase st c id) : EntityOf c st id :=
  let ⟨e, he, hid, hcase⟩ := h
  ⟨e, he.mem, hid, hcase⟩

/-- The endpoints of a relationship are entities of its case, after a call as before. -/
lemma Call.Does.endpoints (h : call.Does py x st st') (hs : st.Sound) :
    ∀ r ∈ st'.relationships,
      EntityOf r.caseId st' r.srcEntityId ∧ EntityOf r.caseId st' r.dstEntityId := by
  have hkept : ∀ r ∈ st.relationships,
      EntityOf r.caseId st' r.srcEntityId ∧ EntityOf r.caseId st' r.dstEntityId := fun r hr =>
    ⟨h.entityOf (hs.endpoints r hr).1, h.entityOf (hs.endpoints r hr).2⟩
  have hput : ∀ {caseId : UUID} {createdBy : Option UUID} {data : RelationshipCreate},
      LiveInCase st caseId data.srcEntityId → LiveInCase st caseId data.dstEntityId →
      st.accepts (.insertRelationship
        (RelationshipRepository.newRelationship x caseId createdBy data)) = true →
      ∀ r ∈ st.relationships.insert
        (RelationshipRepository.newRelationship x caseId createdBy data),
        EntityOf r.caseId st r.srcEntityId ∧ EntityOf r.caseId st r.dstEntityId := by
    intro caseId createdBy data hsrc hdst hacc r hr
    rcases (Table.mem_insert (accepts_insertRelationship hacc)).mp hr with hr | rfl
    · exact hs.endpoints r hr
    · exact ⟨hsrc.entityOf, hdst.entityOf⟩
  cases h with
  | createEntity haccepts => exact hkept
  | getOrCreateNew hnone haccepts => exact hkept
  | raiseConfidence e he hcase hlt => exact hkept
  | editEntity e he hid hcase haccepts => exact hkept
  | remirrorEntity e he hid hcase hempty => exact hkept
  | dropEntity e he hid hcase => exact hkept
  | createRelationship hsrc hdst haccepts => exact hput hsrc hdst haccepts
  | createMissing hsrc hdst haccepts => exact hput hsrc hdst haccepts
  | dropRelationship old hold hid hcase =>
    intro r hr
    obtain ⟨r₀, hr₀, rfl⟩ :=
      (Table.mem_modify (Relationship.retire x.now) fun _ => rfl).mp hr
    split
    · exact hs.endpoints r₀ hr₀
    · exact hs.endpoints r₀ hr₀

/-- A call adds no vertex but that of a row of its case. -/
lemma Call.Does.vertices (h : call.Does py x st st') :
    ∀ v ∈ st'.graph.vertices, v ∈ st.graph.vertices ∨
      EntityOf call.caseId st' v.key.id ∧ ofCase call.caseId v.props = true := by
  have hmerge : ∀ {e : Entity}, e.caseId = call.caseId → EntityOf e.caseId st' e.id →
      ∀ v ∈ ((vertexMerge py e).run st.graph).vertices, v ∈ st.graph.vertices ∨
        EntityOf call.caseId st' v.key.id ∧ ofCase call.caseId v.props = true := by
    intro e hcase he v hv
    rcases Graph.mem_vertices_mergeVertex.mp hv with hv | rfl
    · exact Or.inl hv.1
    · exact Or.inr ⟨hcase ▸ he, hcase ▸ ofCase_vertexProps py e⟩
  have hold : ∀ {e e' : Entity}, e.LiveIn st → e'.id = e.id → e'.caseId = e.caseId →
      EntityOf e'.caseId st' e'.id := fun {e e'} he hid hcase =>
    h.entityOf ⟨e, he.mem, hid.symm, hcase.symm⟩
  cases h with
  | createEntity haccepts =>
    exact hmerge rfl (.of_mem
      ((Table.mem_insert (accepts_insertEntity haccepts)).mpr (Or.inr rfl)))
  | getOrCreateNew hnone haccepts =>
    exact hmerge rfl (.of_mem
      ((Table.mem_insert (accepts_insertEntity haccepts)).mpr (Or.inr rfl)))
  | raiseConfidence e he hcase hlt => exact hmerge hcase (hold he rfl rfl)
  | editEntity e he hid hcase haccepts => exact hmerge hcase (hold he rfl rfl)
  | remirrorEntity e he hid hcase hempty => exact hmerge hcase (hold he rfl rfl)
  | dropEntity e he hid hcase => exact fun v hv => Or.inl (List.mem_of_mem_filter hv)
  | createRelationship hsrc hdst haccepts =>
    exact fun v hv => Or.inl ((Graph.vertices_mergeEdge ..) ▸ hv)
  | createMissing hsrc hdst haccepts =>
    exact fun v hv => Or.inl ((Graph.vertices_mergeEdge ..) ▸ hv)
  | dropRelationship r hr hid hcase => exact fun v hv => Or.inl hv

/-- A call adds no edge but that of a row of its case. -/
lemma Call.Does.edges (h : call.Does py x st st') :
    ∀ g ∈ st'.graph.edges, g ∈ st.graph.edges ∨
      RelationshipOf call.caseId st' g.key.id g.key.src.id g.key.dst.id ∧
        ofCase call.caseId g.props = true := by
  have hmerge : ∀ {r : Relationship}, r.caseId = call.caseId → r ∈ st'.relationships →
      ∀ g ∈ ((edgeMerge py r).run st.graph).edges, g ∈ st.graph.edges ∨
        RelationshipOf call.caseId st' g.key.id g.key.src.id g.key.dst.id ∧
          ofCase call.caseId g.props = true := by
    intro r hcase hr g hg
    rcases Graph.mem_edges_mergeEdge hg with hg | ⟨hkey, hprops⟩
    · exact Or.inl hg
    · obtain ⟨hid, hsrc, hdst⟩ := Graph.mem_boundEdges hkey
      exact Or.inr ⟨⟨r, hr, hid.symm, hcase, hsrc.symm, hdst.symm⟩,
        hprops ▸ hcase ▸ ofCase_edgeProps py r⟩
  have hvertex : ∀ {e : Entity}, ∀ g ∈ ((vertexMerge py e).run st.graph).edges,
      g ∈ st.graph.edges := fun g hg => (Graph.edges_mergeVertex ..) ▸ hg
  cases h with
  | createEntity haccepts => exact fun g hg => Or.inl (hvertex g hg)
  | getOrCreateNew hnone haccepts => exact fun g hg => Or.inl (hvertex g hg)
  | raiseConfidence e he hcase hlt => exact fun g hg => Or.inl (hvertex g hg)
  | editEntity e he hid hcase haccepts => exact fun g hg => Or.inl (hvertex g hg)
  | remirrorEntity e he hid hcase hempty => exact fun g hg => Or.inl (hvertex g hg)
  | dropEntity e he hid hcase => exact fun g hg => Or.inl (List.mem_of_mem_filter hg)
  | createRelationship hsrc hdst haccepts =>
    exact hmerge rfl ((Table.mem_insert (accepts_insertRelationship haccepts)).mpr (Or.inr rfl))
  | createMissing hsrc hdst haccepts =>
    exact hmerge rfl ((Table.mem_insert (accepts_insertRelationship haccepts)).mpr (Or.inr rfl))
  | dropRelationship r hr hid hcase => exact fun g hg => Or.inl (List.mem_of_mem_filter hg)

lemma Call.Does.sound (h : call.Does py x st st') (hs : st.Sound) : st'.Sound where
  endpoints := h.endpoints hs
  vertices v hv := by
    rcases h.vertices v hv with hv | hnew
    · obtain ⟨c, he, hcase⟩ := hs.vertices v hv
      exact ⟨c, h.entityOf he, hcase⟩
    · exact ⟨_, hnew⟩
  edges g hg := by
    rcases h.edges g hg with hg | hnew
    · obtain ⟨c, hr, hcase⟩ := hs.edges g hg
      exact ⟨c, h.relationshipOf hr, hcase⟩
    · exact ⟨_, hnew⟩
  inputs run hrun id hid := h.entityOf (hs.inputs run (h.runs_evidence.1 ▸ hrun) id hid)
  uris ev hev := hs.uris ev (h.runs_evidence.2 ▸ hev)

end Calls

/-! ## Statements about another case -/

section Others

variable {py : Interp} {st : Store} {b : Bucket} {c' : UUID}

lemma sliceOf_insertEntity {e : Entity} (hacc : st.accepts (.insertEntity e) = true)
    (hne : e.caseId ≠ c') : sliceOf c' (st.apply (.insertEntity e)) b = sliceOf c' st b := by
  simp only [sliceOf, Store.apply]
  rw [Table.filter_insert (accepts_insertEntity hacc) (decide_eq_false hne)]

lemma sliceOf_updateEntity {e : Entity} (he : e ∈ st.entities) (hne : e.caseId ≠ c')
    (change : EntityChange) (now : Time) :
    sliceOf c' (st.apply (.updateEntity e.id change now)) b = sliceOf c' st b := by
  have hrows : (st.apply (.updateEntity e.id change now)).entities.rows.filter
      (fun e => e.caseId = c') = st.entities.rows.filter fun e => e.caseId = c' :=
    Table.filter_modify (change.set now) (fun _ => rfl) fun e' he' hid => by
      rw [Table.eq_of_pk_eq he' he hid]
      exact ⟨decide_eq_false hne, decide_eq_false hne⟩
  exact congrArg (fun rows => { sliceOf c' st b with entities := rows }) hrows

lemma sliceOf_insertRelationship {r : Relationship}
    (hacc : st.accepts (.insertRelationship r) = true) (hne : r.caseId ≠ c') :
    sliceOf c' (st.apply (.insertRelationship r)) b = sliceOf c' st b := by
  simp only [sliceOf, Store.apply]
  rw [Table.filter_insert (accepts_insertRelationship hacc) (decide_eq_false hne)]

lemma sliceOf_retireRelationship {r : Relationship} (hr : r ∈ st.relationships)
    (hne : r.caseId ≠ c') (now : Time) :
    sliceOf c' (st.apply (.retireRelationship r.id now)) b = sliceOf c' st b := by
  have hrows : (st.apply (.retireRelationship r.id now)).relationships.rows.filter
      (fun r => r.caseId = c') = st.relationships.rows.filter fun r => r.caseId = c' :=
    Table.filter_modify (Relationship.retire now) (fun _ => rfl) fun r' hr' hid => by
      rw [Table.eq_of_pk_eq hr' hr hid]
      exact ⟨decide_eq_false hne, decide_eq_false hne⟩
  exact congrArg (fun rows => { sliceOf c' st b with relationships := rows }) hrows

lemma sliceOf_insertEvidence {ev : Evidence} (hacc : st.accepts (.insertEvidence ev) = true)
    (hne : ev.caseId ≠ c') : sliceOf c' (st.apply (.insertEvidence ev)) b = sliceOf c' st b := by
  simp only [sliceOf, Store.apply]
  rw [Table.filter_insert (accepts_insertEvidence hacc) (decide_eq_false hne)]

lemma sliceOf_insertRun {run : PluginRun} (hacc : st.accepts (.insertRun run) = true)
    (hne : run.caseId ≠ c') : sliceOf c' (st.apply (.insertRun run)) b = sliceOf c' st b := by
  simp only [sliceOf, Store.apply]
  rw [Table.filter_insert (accepts_insertRun hacc) (decide_eq_false hne)]

lemma sliceOf_updateRun {run : PluginRun} (hrun : run ∈ st.runs) (hne : run.caseId ≠ c')
    (change : RunChange) :
    sliceOf c' (st.apply (.updateRun run.id change)) b = sliceOf c' st b := by
  have hrows : (st.apply (.updateRun run.id change)).runs.rows.filter (fun run => run.caseId = c')
      = st.runs.rows.filter fun run => run.caseId = c' :=
    Table.filter_modify change.set (fun _ => rfl) fun run' hrun' hid => by
      rw [Table.eq_of_pk_eq hrun' hrun hid]
      exact ⟨decide_eq_false hne, decide_eq_false hne⟩
  exact congrArg (fun rows => { sliceOf c' st b with runs := rows }) hrows

lemma sliceOf_upload {c : UUID} (hne : c ≠ c') (hash : String) (blob : Blob) :
    sliceOf c' st ((buildKey c hash, blob) :: b) = sliceOf c' st b := by
  simp only [sliceOf]
  rw [List.filter_cons_of_neg]
  rw [keyPrefix_buildKey hash hne.symm]
  exact Bool.false_ne_true

lemma sliceOf_vertexMerge {e : Entity} (hne : e.caseId ≠ c')
    (hown : ∀ v ∈ st.graph.vertices, v.key.id = e.id → ofCase c' v.props = false) :
    sliceOf c' (st.apply (.cypher (vertexMerge py e))) b = sliceOf c' st b := by
  have hvertices : (st.graph.mergeVertex e.vertexKey (storedProps py.str
      (vertexProps py e))).vertices.filter (fun v => ofCase c' v.props)
      = st.graph.vertices.filter fun v => ofCase c' v.props :=
    Graph.filter_mergeVertex (p := fun v => ofCase c' v.props)
      (ofCase_unique (ofCase_vertexProps py e) hne.symm) fun v hv hkey =>
        hown v hv (congrArg VertexKey.id hkey)
  simp only [sliceOf, Store.apply, vertexMerge, Cypher.run, Graph.edges_mergeVertex, hvertices]

lemma sliceOf_edgeMerge {r : Relationship} (hne : r.caseId ≠ c')
    (hown : ∀ g ∈ st.graph.edges, g.key.id = r.id → ofCase c' g.props = false) :
    sliceOf c' (st.apply (.cypher (edgeMerge py r))) b = sliceOf c' st b := by
  have hedges : (st.graph.mergeEdge r.relType r.id r.srcEntityId r.dstEntityId
      (storedProps py.str (edgeProps py r))).edges.filter (fun g => ofCase c' g.props)
      = st.graph.edges.filter fun g => ofCase c' g.props :=
    Graph.filter_mergeEdge (p := fun g => ofCase c' g.props)
      (fun _ => ofCase_unique (ofCase_edgeProps py r) hne.symm) hown
  simp only [sliceOf, Store.apply, edgeMerge, Cypher.run, Graph.vertices_mergeEdge, hedges]

/-- Elements that fail a test may go. -/
lemma filter_filter_of_imp {α : Type} {p q : α → Bool} {l : List α}
    (h : ∀ a ∈ l, p a = true → q a = true) : (l.filter q).filter p = l.filter p := by
  rw [List.filter_filter]
  refine List.filter_congr fun a ha => ?_
  cases hp : p a with
  | false => rfl
  | true => exact h a ha hp

/-- `MATCH (v {id: ...}) DETACH DELETE v` spares the other case: its vertices have other ids, and
its edges other endpoints. -/
lemma sliceOf_detachDelete {id : UUID}
    (hvertices : ∀ v ∈ st.graph.vertices, ofCase c' v.props = true → v.key.id ≠ id)
    (hedges : ∀ g ∈ st.graph.edges, ofCase c' g.props = true →
      g.key.src.id ≠ id ∧ g.key.dst.id ≠ id) :
    sliceOf c' (st.apply (.cypher (.detachDelete id))) b = sliceOf c' st b := by
  simp only [sliceOf, Store.apply, Cypher.run, Graph.detachDelete]
  rw [filter_filter_of_imp fun v hv hcase => decide_eq_true (hvertices v hv hcase),
    filter_filter_of_imp fun g hg hcase => decide_eq_true (hedges g hg hcase)]

lemma sliceOf_deleteEdge {id : UUID}
    (hedges : ∀ g ∈ st.graph.edges, ofCase c' g.props = true → g.key.id ≠ id) :
    sliceOf c' (st.apply (.cypher (.deleteEdge id))) b = sliceOf c' st b := by
  simp only [sliceOf, Store.apply, Cypher.run, Graph.deleteEdge]
  rw [filter_filter_of_imp fun g hg hcase => decide_eq_true (hedges g hg hcase)]

end Others

/-! ## Steps -/

section Steps

variable {py : Interp} {may : Rights} {c c' : UUID} {st st' : Store} {b b' : Bucket}

/-- What carries the case of a vertex's row carries no other. -/
lemma Store.Sound.vertex_case (hs : st.Sound) {v : Vertex} (hv : v ∈ st.graph.vertices)
    (hcase : EntityOf c st v.key.id) (hne : c ≠ c') : ofCase c' v.props = false := by
  obtain ⟨c₀, he, hprops⟩ := hs.vertices v hv
  exact ofCase_unique hprops (he.unique hcase ▸ hne.symm)

/-- A call in case `c` changes nothing of another case. -/
lemma Call.Does.slice_eq {x : Ext} {call : Call} (h : call.Does py x st st') (hs : st.Sound)
    (hne : call.caseId ≠ c') : sliceOf c' st' b = sliceOf c' st b := by
  -- an id that no entity has is not that of a vertex
  have hfresh : ∀ {e : Entity}, st.accepts (.insertEntity e) = true →
      ∀ v ∈ st.graph.vertices, v.key.id = e.id → ofCase c' v.props = false := by
    intro e hacc v hv hid
    obtain ⟨c₀, ⟨e₀, he₀, hid₀, -⟩, -⟩ := hs.vertices v hv
    exact absurd (hid₀.trans hid)
      (Table.has_eq_false_iff.mp (accepts_insertEntity hacc) e₀ he₀)
  have hown : ∀ {e : Entity}, e.LiveIn st → e.caseId = call.caseId →
      ∀ v ∈ st.graph.vertices, v.key.id = e.id → ofCase c' v.props = false :=
    fun {e} he hcase v hv hid => hs.vertex_case hv ⟨e, he.mem, hid.symm, hcase⟩ hne
  have hnew : ∀ {r : Relationship}, st.accepts (.insertRelationship r) = true →
      ∀ g ∈ st.graph.edges, g.key.id = r.id → ofCase c' g.props = false := by
    intro r hacc g hg hid
    obtain ⟨c₀, ⟨r₀, hr₀, hid₀, -⟩, -⟩ := hs.edges g hg
    exact absurd (hid₀.trans hid)
      (Table.has_eq_false_iff.mp (accepts_insertRelationship hacc) r₀ hr₀)
  have hputEntity : ∀ {e : Entity}, e.caseId = call.caseId →
      st.accepts (.insertEntity e) = true →
      sliceOf c' (st.putEntity py e) b = sliceOf c' st b := by
    intro e hcase hacc
    have hother : e.caseId ≠ c' := hcase ▸ hne
    refine Eq.trans ?_ (sliceOf_insertEntity hacc hother)
    exact sliceOf_vertexMerge hother (hfresh hacc)
  have hset : ∀ (change : EntityChange) (e e' : Entity), e.LiveIn st → e.caseId = call.caseId →
      e'.id = e.id → e'.caseId = e.caseId →
      sliceOf c' ((st.apply (.updateEntity e.id change x.now)).apply
        (.cypher (vertexMerge py e'))) b = sliceOf c' st b := by
    intro change e e' he hcase hid hcase'
    have hother : e.caseId ≠ c' := hcase ▸ hne
    refine Eq.trans ?_ (sliceOf_updateEntity he.mem hother change x.now)
    exact sliceOf_vertexMerge (hcase' ▸ hother) fun v hv hvid =>
      hown he hcase v hv (hvid.trans hid)
  have hputRelationship : ∀ {r : Relationship}, r.caseId = call.caseId →
      st.accepts (.insertRelationship r) = true →
      sliceOf c' (st.putRelationship py r) b = sliceOf c' st b := by
    intro r hcase hacc
    have hother : r.caseId ≠ c' := hcase ▸ hne
    refine Eq.trans ?_ (sliceOf_insertRelationship hacc hother)
    exact sliceOf_edgeMerge hother (hnew hacc)
  cases h with
  | createEntity haccepts => exact hputEntity rfl haccepts
  | getOrCreateNew hnone haccepts => exact hputEntity rfl haccepts
  | raiseConfidence e he hcase hlt => exact hset _ e _ he hcase rfl rfl
  | editEntity e he hid hcase haccepts => exact hset _ e _ he hcase rfl rfl
  | remirrorEntity e he hid hcase hempty =>
    have hother : e.caseId ≠ c' := hcase ▸ hne
    exact sliceOf_vertexMerge hother (hown (e := e) he hcase)
  | dropEntity e he hid hcase =>
    refine (sliceOf_detachDelete (fun v hv hprops hvid => ?_) fun g hg hprops => ?_).trans
      (sliceOf_updateEntity he.mem (hcase ▸ hne) _ _)
    · rw [hown he hcase v hv hvid] at hprops
      cases hprops
    -- an edge at the entity would be of its case
    · have hspared : ∀ {src dst : UUID}, src = g.key.src.id → dst = g.key.dst.id →
          ¬ (src = e.id ∨ dst = e.id) := by
        rintro src dst rfl rfl hend
        obtain ⟨c₀, hr, hcase₀⟩ := hs.edges g hg
        have hsame := hs.case_of_endpoint hr hend ⟨e, he.mem, rfl, hcase⟩
        rw [ofCase_unique hcase₀ (hsame ▸ hne.symm)] at hprops
        cases hprops
      exact not_or.mp (hspared rfl rfl)
  | createRelationship hsrc hdst haccepts => exact hputRelationship rfl haccepts
  | createMissing hsrc hdst haccepts => exact hputRelationship rfl haccepts
  | dropRelationship r hr hid hcase =>
    refine (sliceOf_deleteEdge fun g hg hprops hgid => ?_).trans
      (sliceOf_retireRelationship hr.mem (hcase ▸ hne) _)
    obtain ⟨c₀, hrow, hcase₀⟩ := hs.edges g hg
    have hsame := (hrow.case_eq hr.mem hgid.symm).trans hcase
    rw [ofCase_unique hcase₀ (hsame ▸ hne.symm)] at hprops
    cases hprops

lemma CaseStep.sound (h : CaseStep py may c st b st' b') (hs : st.Sound) : st'.Sound := by
  cases h with
  | call hmay hcase hdoes => exact hdoes.sound hs
  | insertEvidence hcase huri hlink haccepts =>
    refine ⟨hs.endpoints, hs.vertices, hs.edges, hs.inputs, fun ev hev => ?_⟩
    rcases (Table.mem_insert (accepts_insertEvidence haccepts)).mp hev with hev | rfl
    · exact hs.uris ev hev
    · rw [huri, hcase]
  | upload hash blob => exact hs
  | insertRun hcase hinput haccepts =>
    refine ⟨hs.endpoints, hs.vertices, hs.edges, fun run hrun id hid => ?_, hs.uris⟩
    rcases (Table.mem_insert (accepts_insertRun haccepts)).mp hrun with hrun | rfl
    · exact hs.inputs run hrun id hid
    · rw [hcase]
      exact hinput id hid
  | updateRun change hrun =>
    refine ⟨hs.endpoints, hs.vertices, hs.edges, fun run hrun id hid => ?_, hs.uris⟩
    obtain ⟨row, hrow, rfl⟩ := (Table.mem_modify change.set fun _ => rfl).mp hrun
    split at hid
    · rw [if_pos ‹_›]
      exact hs.inputs row hrow id hid
    · rw [if_neg ‹_›]
      exact hs.inputs row hrow id hid

/-- **The frame of a step.** In a sound store, it changes nothing of another case. -/
theorem CaseStep.slice_eq (h : CaseStep py may c st b st' b') (hs : st.Sound) (hne : c ≠ c') :
    sliceOf c' st' b' = sliceOf c' st b := by
  cases h with
  | call hmay hcase hdoes => exact hdoes.slice_eq hs (hcase ▸ hne)
  | insertEvidence hcase huri hlink haccepts => exact sliceOf_insertEvidence haccepts (hcase ▸ hne)
  | upload hash blob => exact sliceOf_upload hne hash blob
  | insertRun hcase hinput haccepts => exact sliceOf_insertRun haccepts (hcase ▸ hne)
  | updateRun change hrun =>
    obtain ⟨run, hrun, rfl, hcase⟩ := hrun
    exact sliceOf_updateRun hrun (hcase ▸ hne) change

end Steps

/-! ## Databases -/

section Databases

variable {py : Interp} {app : App} {db : Database}

/-- The sweeper moves no run to another case or input. -/
lemma sound_sweep {st : Store} (hs : st.Sound) (thresholdMinutes : ℤ) (now now' : Time) :
    { st with runs := (sweepStuckRuns thresholdMinutes now now' st.runs).1 : Store }.Sound := by
  refine ⟨hs.endpoints, hs.vertices, hs.edges, fun run hrun id hid => ?_, hs.uris⟩
  obtain ⟨row, hrow, rfl⟩ := List.mem_map.mp hrun
  have hkept : (sweepRow (now - thresholdMinutes * minute) now' row).caseId = row.caseId ∧
      (sweepRow (now - thresholdMinutes * minute) now' row).inputEntityId
        = row.inputEntityId := by
    unfold sweepRow
    split
    · exact ⟨rfl, rfl⟩
    · exact ⟨rfl, rfl⟩
  rw [hkept.1]
  exact hs.inputs row hrow id (hkept.2 ▸ hid)

/-- Every action keeps a store sound. -/
lemma Store.Sound.exec (hs : db.store.Sound) (a : ServerAction) :
    (a.exec py app db).store.Sound := by
  have hkept : ∀ (may : Rights) (c : UUID), KeptBy py may c fun st _ => st.Sound :=
    fun may c st b st' b' hs hstep => hstep.sound hs
  refine a.exec_keeps py app (P := fun st _ => st.Sound) hs hs.inputs ?_ (fun c => hkept _ c) ?_
  · exact fun user env c r _ => (r.exec_keeps py app env user (hkept _ c) hs).1
  · exact fun thresholdMinutes now now' _ => sound_sweep hs thresholdMinutes now now'

/-- Every database that requests, tasks and sweeps lead to is sound. -/
theorem ServerReaches.sound {allowed : Database → ServerAction → Prop}
    (h : ServerReaches py app allowed db) : db.store.Sound :=
  h.invariant (I := fun db => db.store.Sound) .empty fun _ a hs _ => hs.exec a

/-- An update leaves the rows of other cases. -/
lemma find_update_of_ne {cases : Table Case} {i j : UUID} (h : j ≠ i) (change : CaseChange)
    (now : Time) : (CaseWrite.apply cases (.update i change now)).find j = cases.find j :=
  (Table.find_modify cases i (change.set now) (fun _ => rfl) j).trans (if_neg h)

/-- The row of the case is as it was, or the case has been created for the user. -/
def CaseRowKept (user : UUID) (before after : Table Case) (c : UUID) : Prop :=
  after.find c = before.find c ∨
    before.find c = none ∧ ∃ row, after.find c = some row ∧ row.OwnedIn user after

/-- A request about cases leaves those that are not live ones of the user. -/
lemma CaseRequest.exec_keeps_row (env : Env) (user : UUID) (r : CaseRequest) {c' : UUID}
    (hother : CaseRepository.owned db.cases c' user = none) :
    CaseRowKept user db.cases ((Request.cases r).exec py app env user db).2.cases c' := by
  -- a row of the user is not that of `c'` as long as the row of `c'` is as it was
  have hne : ∀ {cases : Table Case}, cases.find c' = db.cases.find c' →
      ∀ c : Case, c.OwnedIn user cases → c' ≠ c.id := by
    rintro cases hsame c hc rfl
    have hfind : db.cases.find c.id = some c := hsame ▸ Table.find_eq_some_iff.mpr ⟨hc.mem, rfl⟩
    have howned : c.OwnedIn user db.cases :=
      ⟨(Table.find_eq_some_iff.mp hfind).1, hc.owner, hc.live⟩
    rw [owned_eq_some_iff.mpr ⟨howned, rfl⟩] at hother
    cases hother
  cases r with
  | create data =>
    refine (exec_keeps py user app env (.create data)
      (P := fun cases _ => CaseRowKept user db.cases cases c') ?_ (Or.inl rfl)).1
    rintro cases o cases' hkept ⟨x, hacc⟩
    simp only [CaseWrite.accepts, Bool.and_eq_true, Bool.not_eq_true'] at hacc
    have hfresh : cases.has (pk (CaseRepository.newCase x user data)) = false := hacc.1.1.1
    have hmem : ∀ {c}, c ∈ cases → c ∈ cases.insert (CaseRepository.newCase x user data) :=
      fun hc => (Table.mem_insert hfresh).mpr (Or.inl hc)
    simp only [CaseRowKept, CaseWrite.apply, Table.find_insert]
    split
    · rename_i hid
      have hnone : cases.find c' = none := hid ▸ Table.find_eq_none_iff.mpr hfresh
      rcases hkept with hsame | ⟨-, row, hrow, -⟩
      · refine Or.inr ⟨hsame ▸ hnone, _, rfl, ?_⟩
        rw [hnone]
        exact ⟨(Table.mem_insert hfresh).mpr (Or.inr rfl), rfl, rfl⟩
      · rw [hnone] at hrow
        cases hrow
    · rcases hkept with hsame | ⟨hnone, row, hrow, howned⟩
      · exact Or.inl hsame
      · exact Or.inr ⟨hnone, row, hrow, hmem howned.mem, howned.owner, howned.live⟩
  | list status limit offset =>
    exact Or.inl (exec_keeps py user app env (.list status limit offset)
      (P := fun cases _ => cases.find c' = db.cases.find c') (fun _ _ _ _ h => by cases h) rfl).1
  | get caseId =>
    exact Or.inl (exec_keeps py user app env (.get caseId)
      (P := fun cases _ => cases.find c' = db.cases.find c') (fun _ _ _ _ h => by cases h) rfl).1
  | update caseId data =>
    refine Or.inl (exec_keeps py user app env (.update caseId data)
      (P := fun cases _ => cases.find c' = db.cases.find c') ?_ rfl).1
    intro cases o cases' hsame hstep
    cases hstep with
    | update c hc hid now hacc => exact (find_update_of_ne (hne hsame c hc) _ _).trans hsame
  | delete caseId =>
    refine Or.inl (exec_keeps py user app env (.delete caseId)
      (P := fun cases _ => cases.find c' = db.cases.find c') ?_ rfl).1
    intro cases o cases' hsame hstep
    cases hstep with
    | delete c hc hid now => exact (find_update_of_ne (hne hsame c hc) _ _).trans hsame

/-- The case whose data a request is about. -/
def Request.target : Request → Option UUID
  | .cases _ => none
  | .inCase c _ => some c

/-- The answer is made of rows of live cases of the user, and the blobs of these rows are under the
prefix of the case. -/
def Request.Answers (env : Env) (user : UUID) (db db' : Database) (a : Answer) : Request → Prop
  | .cases _ => a.OwnedBy user
  | .inCase c _ => (CaseRepository.owned db.cases c user).isSome ∧
      a.Within env c db'.store db'.bucket ∧
      ∀ ev ∈ db'.store.evidence, ev.caseId = c → (keyPrefix c).isPrefixOf ev.responseUri.toList

/-- **Tenants are isolated.** A request changes the data of no case but the one it names, and only
when this is a live case of the user; it changes the rows of no other cases, except that it may
create one for the user; and it answers with rows of live cases of the user. -/
theorem tenant_isolation (h : ServerReaches py app (fun _ _ => True) db) (user : UUID) (env : Env)
    (r : Request) :
    (∀ c', r.target ≠ some c' ∨ CaseRepository.owned db.cases c' user = none →
      sliceOf c' (r.exec py app env user db).2.store (r.exec py app env user db).2.bucket
        = sliceOf c' db.store db.bucket) ∧
    (∀ c', CaseRepository.owned db.cases c' user = none →
      CaseRowKept user db.cases (r.exec py app env user db).2.cases c') ∧
    ∀ a, Response.of (r.exec py app env user db).1 = .ok a →
      r.Answers env user db (r.exec py app env user db).2 a := by
  have hs := h.sound
  have hanswer : ∀ a, Response.of (r.exec py app env user db).1 = .ok a →
      (r.exec py app env user db).1 = .ok a := by
    intro a ha
    cases hres : (r.exec py app env user db).1 with
    | ok a' => rw [hres] at ha; cases ha; rfl
    | error e => rw [hres] at ha; cases ha
  cases r with
  | cases r =>
    refine ⟨fun _ _ => rfl, fun c' hother => r.exec_keeps_row env user hother, fun a ha => ?_⟩
    exact (r.exec_keeps py user app env (P := fun _ _ => True) (fun _ _ _ _ _ => trivial)
      trivial).2 a (hanswer a ha)
  | inCase c r =>
    refine ⟨fun c' hother => ?_, fun c' _ => Or.inl rfl, fun a ha => ?_⟩
    · by_cases hne : c = c'
      · subst hne
        have hunowned := hother.resolve_left fun hc => hc rfl
        rw [(r.exec_unowned py app env user hunowned).1]
      · exact (r.exec_keeps py app env user
          (P := fun st b => st.Sound ∧ sliceOf c' st b = sliceOf c' db.store db.bucket)
          (fun st b st' b' hst hstep =>
            ⟨hstep.sound hst.1, (hstep.slice_eq hst.1 hne).trans hst.2⟩) ⟨hs, rfl⟩).1.2
    · obtain ⟨hsound, hok⟩ := r.exec_keeps py app env user (P := fun st _ => st.Sound)
        (fun st b st' b' hst hstep => hstep.sound hst) hs
      refine ⟨(hok a (hanswer a ha)).1, (hok a (hanswer a ha)).2, ?_⟩
      rintro ev hev rfl
      rw [hsound.uris ev hev, List.isPrefixOf_iff_prefix]
      have hkey : (buildKey ev.caseId ev.responseHash).toList
          = keyPrefix ev.caseId ++ ev.responseHash.toList := String.toList_ofList
      rw [hkey]
      exact List.prefix_append _ _

end Databases

/-! ### A server -/

/-- No plugins, no enterprise features, no keys. -/
def exampleApp : App := ⟨.empty, false, fun _ _ => .ok none, 1000⟩

/-- A request that everything gets through for. -/
def exampleEnv (newId : UUID) : Env where
  x := { newId, now := 0 }
  y := { newId := 0, now := 0 }
  run := calm
  dispatch := { newId, startedAt := 0, enqueue := .ok () }
  presign := .ok

/-- The database after some actions. -/
def databaseAfter (actions : List ServerAction) : Database :=
  actions.foldl (ServerAction.exec plainInterp exampleApp) .empty

lemma reaches_databaseAfter (actions : List ServerAction) :
    ServerReaches plainInterp exampleApp (fun _ _ => True) (databaseAfter actions) := by
  have hrun : ∀ db, Systems.runAll
      (fun db (a : ServerAction) => some (a.exec plainInterp exampleApp db)) db actions
      = some (actions.foldl (ServerAction.exec plainInterp exampleApp) db) := by
    intro db
    induction actions generalizing db with
    | nil => rfl
    | cons a actions ih => exact ih (a.exec plainInterp exampleApp db)
  exact Systems.Reaches.runAll .start (hrun .empty)

/-- User `user` creates case `caseId`. -/
def caseCreated (user caseId : UUID) : ServerAction :=
  .request user (exampleEnv caseId) (.cases (.create ⟨"case", [], by decide⟩))

theorem tenant_isolation_stranger :
    CaseRowKept 2 (databaseAfter [caseCreated 1 7]).cases
      ((Request.cases (.delete 7)).exec plainInterp exampleApp (exampleEnv 0) 2
        (databaseAfter [caseCreated 1 7])).2.cases 7 :=
  (tenant_isolation (reaches_databaseAfter [caseCreated 1 7]) 2 (exampleEnv 0)
    (.cases (.delete 7))).2.1 7 (by decide +kernel)

end Sleuthgraph
