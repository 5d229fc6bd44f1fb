import Sleuthgraph.Graph.AgeTheorems
import Sleuthgraph.Graph.Moves

/-!
# The graph mirrors the rows

`Mirrors` is what the calls keep whatever they raise: a vertex for each live entity, and an edge
for each live relationship *whose two endpoints are live*. The last clause is where the mirror
and the tables part: `soft_delete` of an entity detach-deletes the edges at its vertex, but
leaves their rows. On runs whose deletions spare the endpoints of live relationships the clause
is void, and the edges are the live rows (`edges_mirror_rows`).
-/

namespace Sleuthgraph

open Programs Transactions Tables

/-! ## The mirror -/

/-- The vertex of a live entity. -/
def LiveVertex (st : Store) (k : VertexKey) : Prop := ∃ e : Entity, e.LiveIn st ∧ e.vertexKey = k

/-- `k` is the edge of the row `r`: its id and type, between vertices of its endpoints. -/
structure Relationship.Joins (r : Relationship) (k : EdgeKey) : Prop where
  label : k.label = r.relType
  id : k.id = r.id
  src : k.src.id = r.srcEntityId
  dst : k.dst.id = r.dstEntityId

/-- The graph is the image of the live entities and of the live relationships between them. -/
structure Mirrors (st : Store) : Prop where
  vertex_ids : (st.graph.vertexKeys.map VertexKey.id).Nodup
  vertices : ∀ k, k ∈ st.graph.vertexKeys ↔ LiveVertex st k
  edge_ids : (st.graph.edgeKeys.map EdgeKey.id).Nodup
  edges : ∀ k, k ∈ st.graph.edgeKeys ↔
    LiveVertex st k.src ∧ LiveVertex st k.dst ∧ ∃ r : Relationship, r.LiveIn st ∧ r.Joins k
  endpoints : ∀ r ∈ st.relationships,
    st.entities.has r.srcEntityId = true ∧ st.entities.has r.dstEntityId = true

/-- `id` is the id of a live entity. -/
def LiveId (st : Store) (id : UUID) : Prop := ∃ e : Entity, e.LiveIn st ∧ e.id = id

/-- Both endpoints of every live relationship are live. -/
def Anchored (st : Store) : Prop :=
  ∀ r : Relationship, r.LiveIn st → LiveId st r.srcEntityId ∧ LiveId st r.dstEntityId

/-- The edges are in one-to-one correspondence with the live relationship rows. -/
structure EdgesMirror (st : Store) : Prop where
  edge_ids : (st.graph.edgeKeys.map EdgeKey.id).Nodup
  edge_of_row : ∀ r : Relationship, r.LiveIn st →
    ∃ k ∈ st.graph.edgeKeys, r.Joins k ∧
      k.src ∈ st.graph.vertexKeys ∧ k.dst ∈ st.graph.vertexKeys
  row_of_edge : ∀ k ∈ st.graph.edgeKeys, ∃ r : Relationship, r.LiveIn st ∧ r.Joins k

lemma Mirrors.edgesMirror {st : Store} (h : Mirrors st) (ha : Anchored st) : EdgesMirror st where
  edge_ids := h.edge_ids
  edge_of_row r hr := by
    obtain ⟨⟨s, hs, hsid⟩, d, hd, hdid⟩ := ha r hr
    refine ⟨⟨r.relType, r.id, s.vertexKey, d.vertexKey⟩, (h.edges _).mpr ?_,
      ⟨rfl, rfl, hsid, hdid⟩, (h.vertices _).mpr ⟨s, hs, rfl⟩, (h.vertices _).mpr ⟨d, hd, rfl⟩⟩
    exact ⟨⟨s, hs, rfl⟩, ⟨d, hd, rfl⟩, r, hr, rfl, rfl, hsid, hdid⟩
  row_of_edge k hk := ((h.edges k).mp hk).2.2

lemma Mirrors.anchored {st : Store} (h : Mirrors st) (he : EdgesMirror st) : Anchored st := by
  intro r hr
  obtain ⟨k, hk, hj, -, -⟩ := he.edge_of_row r hr
  obtain ⟨⟨s, hs, hsk⟩, ⟨d, hd, hdk⟩, -⟩ := (h.edges k).mp hk
  exact ⟨⟨s, hs, by rw [← hj.src, ← hsk]; rfl⟩, ⟨d, hd, by rw [← hj.dst, ← hdk]; rfl⟩⟩

/-! ## Live vertices along the writes -/

section Writes

variable {st : Store}

lemma LiveVertex.unique {k k' : VertexKey} (h : LiveVertex st k) (h' : LiveVertex st k')
    (hid : k.id = k'.id) : k = k' := by
  obtain ⟨e, he, rfl⟩ := h
  obtain ⟨e', he', rfl⟩ := h'
  rw [Table.eq_of_pk_eq he.mem he'.mem hid]

lemma mem_updateEntity {id : UUID} {c : EntityChange} {now : Time} {x : Entity} :
    x ∈ (st.apply (.updateEntity id c now)).entities ↔
      ∃ e ∈ st.entities, x = if pk e = id then c.set now e else e :=
  Table.mem_modify (c.set now) fun _ => rfl

lemma mem_retireRelationship {id : UUID} {now : Time} {x : Relationship} :
    x ∈ (st.apply (.retireRelationship id now)).relationships ↔
      ∃ r ∈ st.relationships, x = if pk r = id then r.retire now else r :=
  Table.mem_modify (Relationship.retire now) fun _ => rfl

lemma has_updateEntity (id : UUID) (c : EntityChange) (now : Time) (i : UUID) :
    (st.apply (.updateEntity id c now)).entities.has i = st.entities.has i :=
  Table.has_modify st.entities id (c.set now) (fun _ => rfl) i

lemma liveIn_insertEntity {e x : Entity} (hnew : st.entities.has (pk e) = false)
    (hlive : e.live = true) :
    x.LiveIn (st.apply (.insertEntity e)) ↔ x.LiveIn st ∨ x = e := by
  constructor
  · intro ⟨hx, hxlive⟩
    rcases (Table.mem_insert hnew).mp hx with hx | rfl
    · exact Or.inl ⟨hx, hxlive⟩
    · exact Or.inr rfl
  · rintro (hx | rfl)
    · exact ⟨(Table.mem_insert hnew).mpr (Or.inl hx.mem), hx.live⟩
    · exact ⟨(Table.mem_insert hnew).mpr (Or.inr rfl), hlive⟩

/-- A change that leaves `deleted_at` alone rewrites live rows into live rows. -/
lemma liveIn_updateEntity {c : EntityChange} (hc : c.deletedAt = none) {id : UUID} {now : Time}
    {x : Entity} :
    x.LiveIn (st.apply (.updateEntity id c now)) ↔
      ∃ e : Entity, e.LiveIn st ∧ x = if pk e = id then c.set now e else e := by
  have hset : ∀ e : Entity, (c.set now e).live = e.live := by
    intro e
    simp only [Entity.live, EntityChange.set, hc, Option.getD_none]
  constructor
  · intro ⟨hx, hxlive⟩
    obtain ⟨e, he, rfl⟩ := mem_updateEntity.mp hx
    refine ⟨e, ⟨he, ?_⟩, rfl⟩
    split at hxlive
    · rwa [hset] at hxlive
    · exact hxlive
  · rintro ⟨e, he, rfl⟩
    refine ⟨mem_updateEntity.mpr ⟨e, he.mem, rfl⟩, ?_⟩
    split
    · rw [hset]; exact he.live
    · exact he.live

lemma liveVertex_updateEntity {c : EntityChange} (hc : c.deletedAt = none) (id : UUID)
    (now : Time) (k : VertexKey) :
    LiveVertex (st.apply (.updateEntity id c now)) k ↔ LiveVertex st k := by
  simp only [LiveVertex, liveIn_updateEntity hc]
  constructor
  · rintro ⟨_, ⟨e, he, rfl⟩, rfl⟩
    refine ⟨e, he, ?_⟩
    split <;> rfl
  · rintro ⟨e, he, rfl⟩
    refine ⟨_, ⟨e, he, rfl⟩, ?_⟩
    split <;> rfl

/-- A deletion leaves the live rows of the other ids. -/
lemma liveIn_deletion {id : UUID} {now : Time} {x : Entity} :
    x.LiveIn (st.apply (.updateEntity id (EntityRepository.deletion now) now)) ↔
      x.LiveIn st ∧ x.id ≠ id := by
  constructor
  · intro ⟨hx, hxlive⟩
    obtain ⟨e, he, rfl⟩ := mem_updateEntity.mp hx
    by_cases hid : pk e = id
    -- the deleted row itself is not live
    · rw [if_pos hid] at hxlive
      cases hxlive
    · rw [if_neg hid] at hxlive ⊢
      exact ⟨⟨he, hxlive⟩, hid⟩
  · intro ⟨hx, hid⟩
    exact ⟨mem_updateEntity.mpr ⟨x, hx.mem, (if_neg hid).symm⟩, hx.live⟩

lemma liveIn_insertRelationship {r x : Relationship} (hnew : st.relationships.has (pk r) = false)
    (hlive : r.live = true) :
    x.LiveIn (st.apply (.insertRelationship r)) ↔ x.LiveIn st ∨ x = r := by
  constructor
  · intro ⟨hx, hxlive⟩
    rcases (Table.mem_insert hnew).mp hx with hx | rfl
    · exact Or.inl ⟨hx, hxlive⟩
    · exact Or.inr rfl
  · rintro (hx | rfl)
    · exact ⟨(Table.mem_insert hnew).mpr (Or.inl hx.mem), hx.live⟩
    · exact ⟨(Table.mem_insert hnew).mpr (Or.inr rfl), hlive⟩

/-- Retiring a row leaves the live rows of the other ids. -/
lemma liveIn_retireRelationship {id : UUID} {now : Time} {x : Relationship} :
    x.LiveIn (st.apply (.retireRelationship id now)) ↔ x.LiveIn st ∧ x.id ≠ id := by
  constructor
  · intro ⟨hx, hxlive⟩
    obtain ⟨r, hr, rfl⟩ := mem_retireRelationship.mp hx
    by_cases hid : pk r = id
    · rw [if_pos hid] at hxlive
      cases hxlive
    · rw [if_neg hid] at hxlive ⊢
      exact ⟨⟨hr, hxlive⟩, hid⟩
  · intro ⟨hx, hid⟩
    exact ⟨mem_retireRelationship.mpr ⟨x, hx.mem, (if_neg hid).symm⟩, hx.live⟩

end Writes

/-! ## Every move keeps the mirror -/

section Moves

variable {st : Store}

lemma Mirrors.empty : Mirrors Store.empty where
  vertex_ids := List.nodup_nil
  vertices _ := ⟨fun h => (nomatch h), fun ⟨_, he, _⟩ => (nomatch he.mem)⟩
  edge_ids := List.nodup_nil
  edges _ := ⟨fun h => (nomatch h), fun ⟨_, _, _, hr, _⟩ => (nomatch hr.mem)⟩
  endpoints _ h := nomatch h

/-- The mirror only depends on keys, live vertices and live relationships. -/
lemma Mirrors.congr {st' : Store} (h : Mirrors st)
    (hv : st'.graph.vertexKeys = st.graph.vertexKeys)
    (he : st'.graph.edgeKeys = st.graph.edgeKeys)
    (hlive : ∀ k, LiveVertex st' k ↔ LiveVertex st k)
    (hrel : st'.relationships = st.relationships)
    (hhas : ∀ id, st'.entities.has id = st.entities.has id) : Mirrors st' where
  vertex_ids := hv ▸ h.vertex_ids
  vertices k := by rw [hv, hlive, h.vertices]
  edge_ids := he ▸ h.edge_ids
  edges k := by
    have hr : ∀ r : Relationship, r.LiveIn st' ↔ r.LiveIn st := fun r =>
      ⟨fun x => ⟨hrel ▸ x.mem, x.live⟩, fun x => ⟨hrel ▸ x.mem, x.live⟩⟩
    simp only [he, hlive, hr, h.edges]
  endpoints r hr := by
    rw [hhas, hhas]
    exact h.endpoints r (hrel ▸ hr)

/-- Merging the vertex of a live entity again changes no key. -/
lemma Mirrors.remerge (h : Mirrors st) {k : VertexKey} (hk : LiveVertex st k) (props : PyDict) :
    (st.graph.mergeVertex k props).vertexKeys = st.graph.vertexKeys := by
  rw [Graph.vertexKeys_mergeVertex, if_pos ((h.vertices k).mpr hk)]

lemma Mirrors.addEntity (h : Mirrors st) {e : Entity} (hlive : e.live = true)
    (haccepts : st.accepts (.insertEntity e) = true) (props : PyDict) :
    Mirrors ((st.apply (.insertEntity e)).apply (.cypher (.mergeVertex e.vertexKey props))) := by
  have hnew := accepts_insertEntity haccepts
  have hfresh : ∀ k, LiveVertex st k → k.id ≠ e.id := by
    rintro k ⟨x, hx, rfl⟩ hid
    exact Table.has_eq_false_iff.mp hnew x hx.mem hid
  have hlv : ∀ k, LiveVertex (st.apply (.insertEntity e)) k ↔
      LiveVertex st k ∨ e.vertexKey = k := by
    intro k
    simp only [LiveVertex, liveIn_insertEntity hnew hlive, or_and_right, exists_or, exists_eq_left]
  have hkeys : (st.graph.mergeVertex e.vertexKey props).vertexKeys
      = st.graph.vertexKeys ++ [e.vertexKey] := by
    rw [Graph.vertexKeys_mergeVertex, if_neg]
    exact fun hk => hfresh _ ((h.vertices _).mp hk) rfl
  -- a relationship row names rows that exist, so none of them ends in the new vertex
  have hother : ∀ (r : Relationship), r.LiveIn st →
      r.srcEntityId ≠ e.id ∧ r.dstEntityId ≠ e.id := by
    intro r hr
    obtain ⟨hs, hd⟩ := h.endpoints r hr.mem
    have hnew' : st.entities.has e.id = false := hnew
    exact ⟨fun hid => by simp [hid, hnew'] at hs, fun hid => by simp [hid, hnew'] at hd⟩
  refine ⟨?_, fun k => ?_, ?_, fun k => ?_, fun r hr => ?_⟩
  · show ((st.graph.mergeVertex e.vertexKey props).vertexKeys.map VertexKey.id).Nodup
    rw [hkeys, List.map_append]
    refine List.Nodup.append h.vertex_ids (List.nodup_singleton _) fun i hi hi' => ?_
    obtain ⟨k, hk, rfl⟩ := List.mem_map.mp hi
    exact hfresh k ((h.vertices k).mp hk) (List.mem_singleton.mp hi')
  · show k ∈ (st.graph.mergeVertex e.vertexKey props).vertexKeys ↔
      LiveVertex (st.apply (.insertEntity e)) k
    rw [hkeys, List.mem_append, List.mem_singleton, h.vertices, hlv, eq_comm (a := k)]
  · show ((st.graph.mergeVertex e.vertexKey props).edgeKeys.map EdgeKey.id).Nodup
    rw [Graph.edgeKeys_mergeVertex]
    exact h.edge_ids
  · show k ∈ (st.graph.mergeVertex e.vertexKey props).edgeKeys ↔
      LiveVertex (st.apply (.insertEntity e)) k.src ∧
        LiveVertex (st.apply (.insertEntity e)) k.dst ∧ ∃ r : Relationship, r.LiveIn st ∧ r.Joins k
    rw [Graph.edgeKeys_mergeVertex, h.edges, hlv, hlv]
    constructor
    · rintro ⟨hs, hd, hr⟩
      exact ⟨Or.inl hs, Or.inl hd, hr⟩
    · rintro ⟨hs, hd, r, hr, hj⟩
      obtain ⟨hrs, hrd⟩ := hother r hr
      refine ⟨hs.resolve_right fun hk => hrs ?_, hd.resolve_right fun hk => hrd ?_, r, hr, hj⟩
      · rw [← hj.src, ← hk]; rfl
      · rw [← hj.dst, ← hk]; rfl
  · obtain ⟨hs, hd⟩ := h.endpoints r hr
    exact ⟨(Table.has_insert hnew).mpr (Or.inl hs), (Table.has_insert hnew).mpr (Or.inl hd)⟩

lemma Mirrors.changeEntity (h : Mirrors st) {e : Entity} (he : e.LiveIn st) {c : EntityChange}
    (hc : c.deletedAt = none) (now : Time) (props : PyDict) :
    Mirrors
      ((st.apply (.updateEntity e.id c now)).apply (.cypher (.mergeVertex e.vertexKey props))) :=
  h.congr (h.remerge ⟨e, he, rfl⟩ props) (Graph.edgeKeys_mergeVertex _ _)
    (fun k => liveVertex_updateEntity hc e.id now k) rfl fun id => has_updateEntity e.id c now id

lemma Mirrors.dropEntity (h : Mirrors st) (e : Entity) (now : Time) :
    Mirrors ((st.apply (.updateEntity e.id (EntityRepository.deletion now) now)).apply
      (.cypher (.detachDelete e.id))) := by
  have hlv : ∀ k, LiveVertex (st.apply (.updateEntity e.id (EntityRepository.deletion now) now)) k ↔
      LiveVertex st k ∧ k.id ≠ e.id := by
    intro k
    simp only [LiveVertex, liveIn_deletion]
    constructor
    · rintro ⟨x, ⟨hx, hid⟩, rfl⟩
      exact ⟨⟨x, hx, rfl⟩, hid⟩
    · rintro ⟨⟨x, hx, rfl⟩, hid⟩
      exact ⟨x, ⟨hx, hid⟩, rfl⟩
  refine ⟨?_, fun k => ?_, ?_, fun k => ?_, fun r hr => ?_⟩
  · show ((st.graph.detachDelete e.id).vertexKeys.map VertexKey.id).Nodup
    rw [Graph.vertexKeys_detachDelete]
    exact h.vertex_ids.sublist (List.filter_sublist.map _)
  · show k ∈ (st.graph.detachDelete e.id).vertexKeys ↔ _
    rw [Graph.vertexKeys_detachDelete, List.mem_filter, h.vertices]
    exact (and_congr_right fun _ => decide_eq_true_iff).trans (hlv k).symm
  · show ((st.graph.detachDelete e.id).edgeKeys.map EdgeKey.id).Nodup
    rw [Graph.edgeKeys_detachDelete]
    exact h.edge_ids.sublist (List.filter_sublist.map _)
  -- the edges at the vertex are gone, and so is the live vertex at their end
  · show k ∈ (st.graph.detachDelete e.id).edgeKeys ↔ _
    rw [Graph.edgeKeys_detachDelete, List.mem_filter, h.edges, decide_eq_true_iff]
    refine Iff.trans ?_ (and_congr (hlv k.src).symm
      (and_congr (hlv k.dst).symm Iff.rfl))
    tauto
  · have hhas := @has_updateEntity st e.id (EntityRepository.deletion now) now
    exact ⟨(hhas _).trans (h.endpoints r hr).1, (hhas _).trans (h.endpoints r hr).2⟩

lemma Mirrors.addRelationship (h : Mirrors st) {r : Relationship} {s d : Entity}
    (hs : s.LiveIn st) (hd : d.LiveIn st) (hsid : s.id = r.srcEntityId)
    (hdid : d.id = r.dstEntityId) (hlive : r.live = true)
    (haccepts : st.accepts (.insertRelationship r) = true) (props : PyDict) :
    Mirrors ((st.apply (.insertRelationship r)).apply
      (.cypher (.mergeEdge r.relType r.id r.srcEntityId r.dstEntityId props))) := by
  have hnew := accepts_insertRelationship haccepts
  have hfresh : ∀ k ∈ st.graph.edgeKeys, k.id ≠ r.id := by
    intro k hk hid
    obtain ⟨-, -, r', hr', hj⟩ := (h.edges k).mp hk
    exact Table.has_eq_false_iff.mp hnew r' hr'.mem (hj.id.symm.trans hid)
  -- both endpoints are there, so the statement merges one new edge
  have hmerge : st.graph.mergeEdge r.relType r.id r.srcEntityId r.dstEntityId props
      = st.graph.mergeEdgeAt ⟨r.relType, r.id, s.vertexKey, d.vertexKey⟩ props := by
    rw [← hsid, ← hdid]
    exact Graph.mergeEdge_eq h.vertex_ids ((h.vertices _).mpr ⟨s, hs, rfl⟩)
      ((h.vertices _).mpr ⟨d, hd, rfl⟩) _ _ _
  have hkeys : (st.graph.mergeEdge r.relType r.id r.srcEntityId r.dstEntityId props).edgeKeys
      = st.graph.edgeKeys ++ [⟨r.relType, r.id, s.vertexKey, d.vertexKey⟩] := by
    rw [hmerge, Graph.edgeKeys_mergeEdgeAt, if_neg]
    exact fun hk => hfresh _ hk rfl
  refine ⟨?_, fun k => ?_, ?_, fun k => ?_, fun r' hr' => ?_⟩
  · show ((st.graph.mergeEdge _ _ _ _ props).vertexKeys.map VertexKey.id).Nodup
    rw [Graph.vertexKeys_mergeEdge]
    exact h.vertex_ids
  · show k ∈ (st.graph.mergeEdge _ _ _ _ props).vertexKeys ↔ LiveVertex st k
    rw [Graph.vertexKeys_mergeEdge, h.vertices]
  · show ((st.graph.mergeEdge r.relType r.id r.srcEntityId r.dstEntityId props).edgeKeys.map
      EdgeKey.id).Nodup
    rw [hkeys, List.map_append]
    refine List.Nodup.append h.edge_ids (List.nodup_singleton _) fun i hi hi' => ?_
    obtain ⟨k, hk, rfl⟩ := List.mem_map.mp hi
    exact hfresh k hk (List.mem_singleton.mp hi')
  · show k ∈ (st.graph.mergeEdge r.relType r.id r.srcEntityId r.dstEntityId props).edgeKeys ↔
      LiveVertex st k.src ∧ LiveVertex st k.dst ∧
        ∃ r' : Relationship, r'.LiveIn (st.apply (.insertRelationship r)) ∧ r'.Joins k
    rw [hkeys, List.mem_append, List.mem_singleton, h.edges]
    simp only [liveIn_insertRelationship hnew hlive, or_and_right, exists_or, exists_eq_left]
    constructor
    · rintro (⟨hks, hkd, hr⟩ | rfl)
      · exact ⟨hks, hkd, Or.inl hr⟩
      · exact ⟨⟨s, hs, rfl⟩, ⟨d, hd, rfl⟩, Or.inr ⟨rfl, rfl, hsid, hdid⟩⟩
    · rintro ⟨hks, hkd, hr | hj⟩
      · exact Or.inl ⟨hks, hkd, hr⟩
      · -- one live vertex per id: the endpoints are the vertices that were bound
        have hsrc : k.src = s.vertexKey := hks.unique ⟨s, hs, rfl⟩ (hj.src.trans hsid.symm)
        have hdst : k.dst = d.vertexKey := hkd.unique ⟨d, hd, rfl⟩ (hj.dst.trans hdid.symm)
        obtain ⟨label, id, src, dst⟩ := k
        exact Or.inr (by rw [EdgeKey.mk.injEq]; exact ⟨hj.label, hj.id, hsrc, hdst⟩)
  · rcases (Table.mem_insert hnew).mp hr' with hr' | rfl
    · exact h.endpoints r' hr'
    · exact ⟨Table.has_iff.mpr ⟨s, hs.mem, hsid⟩, Table.has_iff.mpr ⟨d, hd.mem, hdid⟩⟩

lemma Mirrors.dropRelationship (h : Mirrors st) (r : Relationship) (now : Time) :
    Mirrors ((st.apply (.retireRelationship r.id now)).apply (.cypher (.deleteEdge r.id))) := by
  refine ⟨h.vertex_ids, h.vertices, ?_, fun k => ?_, fun r' hr' => ?_⟩
  · show ((st.graph.deleteEdge r.id).edgeKeys.map EdgeKey.id).Nodup
    rw [Graph.edgeKeys_deleteEdge]
    exact h.edge_ids.sublist (List.filter_sublist.map _)
  · show k ∈ (st.graph.deleteEdge r.id).edgeKeys ↔ LiveVertex st k.src ∧ LiveVertex st k.dst ∧
      ∃ r' : Relationship, r'.LiveIn (st.apply (.retireRelationship r.id now)) ∧ r'.Joins k
    rw [Graph.edgeKeys_deleteEdge, List.mem_filter, h.edges, decide_eq_true_iff]
    simp only [liveIn_retireRelationship]
    constructor
    · intro ⟨⟨hs, hd, r', hr', hj⟩, hid⟩
      exact ⟨hs, hd, r', ⟨hr', hj.id ▸ hid⟩, hj⟩
    · intro ⟨hs, hd, r', ⟨hr', hid⟩, hj⟩
      exact ⟨⟨hs, hd, r', hr', hj⟩, hj.id ▸ hid⟩
  · obtain ⟨r₀, hr₀, rfl⟩ := mem_retireRelationship.mp hr'
    have := h.endpoints r₀ hr₀
    split
    · exact this
    · exact this

variable (py : Interp) {mayDrop : Store → Entity → Prop}

/-- Every move keeps the mirror, the deletions included. -/
theorem Mirrors.move {st' : Store} (h : Mirrors st) (hm : Move py mayDrop st st') :
    Mirrors st' := by
  cases hm with
  | addEntity x caseId createdBy data haccepts => exact h.addEntity rfl haccepts _
  | editEntity e he data now haccepts => exact h.changeEntity he rfl now _
  | remirrorEntity e he data hempty =>
    exact h.congr (h.remerge ⟨e, he, rfl⟩ _) (Graph.edgeKeys_mergeVertex _ _) (fun _ => Iff.rfl)
      rfl fun _ => rfl
  | raiseConfidence e he confidence hlt now => exact h.changeEntity he rfl now _
  | dropEntity e he hdrop now => exact h.dropEntity e now
  | addRelationship x caseId createdBy data s d hs hd hsid hdid _ _ haccepts =>
    exact h.addRelationship hs hd hsid hdid rfl haccepts _
  | dropRelationship r hr now => exact h.dropRelationship r now

end Moves

/-! ## Runs -/

section Runs

variable {O : Type} (py : Interp)

/-- No live relationship ends in the entity. -/
def Spared (st : Store) (e : Entity) : Prop :=
  ∀ r : Relationship, r.LiveIn st → r.srcEntityId ≠ e.id ∧ r.dstEntityId ≠ e.id

/-- Moves whose deletions spare the endpoints of live relationships keep them anchored. -/
lemma Anchored.move {st st' : Store} (h : Anchored st) (hm : Move py Spared st st') :
    Anchored st' := by
  have hcongr : ∀ {st' : Store}, (∀ id, LiveId st id → LiveId st' id) →
      (∀ r : Relationship, r.LiveIn st' → r.LiveIn st) → Anchored st' :=
    fun hid hr r hr' => ⟨hid _ (h r (hr r hr')).1, hid _ (h r (hr r hr')).2⟩
  -- an update that deletes nothing leaves the live ids
  have hupdate : ∀ {c : EntityChange} {id : UUID} {now : Time}, c.deletedAt = none →
      ∀ i, LiveId st i → LiveId (st.apply (.updateEntity id c now)) i := by
    rintro c id now hc _ ⟨e, he, rfl⟩
    refine ⟨_, (liveIn_updateEntity hc).mpr ⟨e, he, rfl⟩, ?_⟩
    split <;> rfl
  cases hm with
  | addEntity x caseId createdBy data haccepts =>
    refine hcongr ?_ fun r hr => hr
    rintro _ ⟨e, he, rfl⟩
    exact ⟨e, (liveIn_insertEntity (accepts_insertEntity haccepts) rfl).mpr (Or.inl he), rfl⟩
  | editEntity e he data now haccepts => exact hcongr (hupdate rfl) fun r hr => hr
  | remirrorEntity e he data hempty => exact hcongr (fun _ h => h) fun r hr => hr
  | raiseConfidence e he confidence hlt now => exact hcongr (hupdate rfl) fun r hr => hr
  -- the deleted id is no endpoint of a live relationship
  | dropEntity e he hdrop now =>
    have hid : ∀ i, LiveId st i → i ≠ e.id →
        LiveId (st.apply (.updateEntity e.id (EntityRepository.deletion now) now)) i := by
      rintro _ ⟨x, hx, rfl⟩ hne
      exact ⟨x, liveIn_deletion.mpr ⟨hx, hne⟩, rfl⟩
    exact fun r hr => ⟨hid _ (h r hr).1 (hdrop r hr).1, hid _ (h r hr).2 (hdrop r hr).2⟩
  | addRelationship x caseId createdBy data s d hs hd hsid hdid _ _ haccepts =>
    intro r hr
    rcases (liveIn_insertRelationship (accepts_insertRelationship haccepts) rfl).mp hr with hr | rfl
    · exact h r hr
    · exact ⟨⟨s, hs, hsid⟩, ⟨d, hd, hdid⟩⟩
  | dropRelationship r hr now =>
    exact hcongr (fun _ h => h) fun r' hr' => (liveIn_retireRelationship.mp hr').1

/-- Whatever the deletions: the edges are the live rows exactly as long as no live relationship
has lost an endpoint. -/
theorem edgesMirror_iff_anchored {o : O} {s : Session Store Write O}
    (h : SessionReaches py (fun _ _ => True) o s) :
    EdgesMirror s.committed ↔ Anchored s.committed := by
  have hmirrors := (h.sees py Mirrors.empty fun st st' hst hm => hst.move py hm).committed
  exact ⟨hmirrors.anchored, hmirrors.edgesMirror⟩

/-- **The edges mirror the live relationships** in every state of every run whose deletions of
entities spare the endpoints of live relationships. -/
theorem edges_mirror_rows {o : O} {s : Session Store Write O}
    (h : SessionReaches py Spared o s) : EdgesMirror s.committed := by
  have hsees := h.sees (P := fun st => Mirrors st ∧ Anchored st) py
    ⟨Mirrors.empty, fun _ hr => (nomatch hr.mem)⟩
    fun st st' hst hm => ⟨hst.1.move py hm, hst.2.move py hm⟩
  exact hsees.committed.1.edgesMirror hsees.committed.2

/-! ### Two runs -/

lemma alice_length : LengthIn 512 "alice" := by decide

def alice : EntityCreate := .ofLabel .person "alice" alice_length

def bob : EntityCreate := .ofLabel .person "bob" (by decide)

def aliceKnowsBob : RelationshipCreate := .ofEndpoints 1 2 .associatedWith

/-- Two entities and a relationship between them. -/
def linkedSteps : List Step :=
  [.call (.createEntity 0 none alice true) { newId := 1, now := 0 },
    .call (.createEntity 0 none bob true) { newId := 2, now := 0 },
    .call (.createRelationship 0 none aliceKnowsBob true) { newId := 3, now := 0 }]

/-- The session after `steps`, from an empty database. -/
def sessionAfter (steps : List Step) : Session Store Write Unit :=
  steps.foldl (fun s step => step.exec plainInterp s) (emptySession ())

theorem edges_mirror_rows_linked : EdgesMirror (sessionAfter linkedSteps).committed := by
  refine edges_mirror_rows (o := ()) plainInterp ?_
  -- no step of the run deletes anything
  refine .step _ (.step _ (.step _ .start ?_ rfl) ?_ rfl) ?_ rfl
  all_goals exact trivial

/-- Then one of them is deleted. -/
def orphanedSteps : List Step :=
  linkedSteps ++ [.call (.softDeleteEntity 1 0) { newId := 0, now := 1 }]

/-- The row of the relationship is left, without its edge. -/
theorem edges_unmirrored :
    ¬ ∀ (py : Interp) (s : Session Store Write Unit), SessionReaches py (fun _ _ => True) () s →
      EdgesMirror s.committed := by
  intro h
  have hreach : SessionReaches plainInterp (fun _ _ => True) () (sessionAfter orphanedSteps) := by
    refine .step _ (.step _ (.step _ (.step _ .start ?_ rfl) ?_ rfl) ?_ rfl) ?_ rfl
    · exact trivial
    · exact trivial
    · exact trivial
    · exact fun _ _ _ _ => trivial
  have hrow : ∃ r ∈ (sessionAfter orphanedSteps).committed.relationships.rows,
      r.live = true := by decide +kernel
  have hedges : (sessionAfter orphanedSteps).committed.graph.edgeKeys = [] := by decide +kernel
  obtain ⟨r, hr, hlive⟩ := hrow
  obtain ⟨k, hk, -⟩ := (h plainInterp _ hreach).edge_of_row r ⟨hr, hlive⟩
  rw [hedges] at hk
  cases hk

end Runs

end Sleuthgraph
