import Sleuthgraph.Graph.Age
import Sleuthgraph.Lib.Tables

/-!
# What the Cypher statements do to keys

`MERGE` adds one key or none, `DETACH DELETE` and `DELETE` filter them; properties never
matter. Edges are merged between the vertices that were bound, so a graph with one vertex per
id gets exactly one edge from a `MERGE` whose endpoints are there.
-/

namespace Sleuthgraph.Graph

variable {g : Graph}

/-! ## Vertices -/

lemma vertexKeys_mergeVertex (key : VertexKey) (props : PyDict) :
    (g.mergeVertex key props).vertexKeys
      = if key ∈ g.vertexKeys then g.vertexKeys else g.vertexKeys ++ [key] := by
  have hany : (g.vertices.any fun v => v.key = key) = decide (key ∈ g.vertexKeys) := by
    simp [vertexKeys, List.any_eq]
  unfold mergeVertex
  rw [hany]
  by_cases h : key ∈ g.vertexKeys
  · rw [if_pos (by simpa using h), if_pos h, vertexKeys, vertexKeys, List.map_map]
    refine List.map_congr_left fun v _ => ?_
    rw [Function.comp_apply]
    split
    · exact Eq.symm ‹_›
    · rfl
  · rw [if_neg (by simpa using h), if_neg h, vertexKeys, vertexKeys, List.map_append]
    rfl

/-- A merge replaces the vertex of its key, or adds it. -/
lemma mem_vertices_mergeVertex {key : VertexKey} {props : PyDict} {v : Vertex} :
    v ∈ (g.mergeVertex key props).vertices ↔
      (v ∈ g.vertices ∧ v.key ≠ key) ∨ v = ⟨key, props⟩ := by
  unfold mergeVertex
  split
  · rename_i hany
    obtain ⟨w, hw, hkey⟩ := List.any_eq_true.mp hany
    simp only [List.mem_map, decide_eq_true_eq] at hkey ⊢
    constructor
    · rintro ⟨u, hu, rfl⟩
      split
      · exact Or.inr rfl
      · exact Or.inl ⟨hu, ‹_›⟩
    · rintro (⟨hv, hne⟩ | rfl)
      · exact ⟨v, hv, if_neg hne⟩
      · exact ⟨w, hw, if_pos hkey⟩
  · rename_i hany
    have hnew : ∀ w ∈ g.vertices, w.key ≠ key := by
      intro w hw hkey
      exact hany (List.any_eq_true.mpr ⟨w, hw, by simpa using hkey⟩)
    simp only [List.mem_append, List.mem_singleton]
    exact or_congr ⟨fun hv => ⟨hv, hnew v hv⟩, And.left⟩ Iff.rfl

/-- A test that fails on the vertex before and after a merge does not see the merge. -/
lemma filter_mergeVertex {p : Vertex → Bool} {key : VertexKey} {props : PyDict}
    (hnew : p ⟨key, props⟩ = false) (hold : ∀ v ∈ g.vertices, v.key = key → p v = false) :
    (g.mergeVertex key props).vertices.filter p = g.vertices.filter p := by
  unfold mergeVertex
  split
  · refine Tables.filter_map_eq fun v hv => ?_
    split
    · exact Or.inr ⟨hold v hv ‹_›, hnew⟩
    · exact Or.inl rfl
  · simp [hnew]

@[simp] lemma edges_mergeVertex (key : VertexKey) (props : PyDict) :
    (g.mergeVertex key props).edges = g.edges := by
  unfold mergeVertex
  split <;> rfl

@[simp] lemma edgeKeys_mergeVertex (key : VertexKey) (props : PyDict) :
    (g.mergeVertex key props).edgeKeys = g.edgeKeys := by
  unfold mergeVertex
  split <;> rfl

@[simp] lemma vertexKeys_detachDelete (id : UUID) :
    (g.detachDelete id).vertexKeys = g.vertexKeys.filter fun k => k.id ≠ id := by
  simp only [vertexKeys, detachDelete, List.filter_map]
  rfl

@[simp] lemma edgeKeys_detachDelete (id : UUID) :
    (g.detachDelete id).edgeKeys
      = g.edgeKeys.filter fun k => k.src.id ≠ id ∧ k.dst.id ≠ id := by
  simp only [edgeKeys, detachDelete, List.filter_map]
  rfl

/-! ## Edges -/

lemma edgeKeys_mergeEdgeAt (key : EdgeKey) (props : PyDict) :
    (g.mergeEdgeAt key props).edgeKeys
      = if key ∈ g.edgeKeys then g.edgeKeys else g.edgeKeys ++ [key] := by
  have hany : (g.edges.any fun e => e.key = key) = decide (key ∈ g.edgeKeys) := by
    simp [edgeKeys, List.any_eq]
  unfold mergeEdgeAt
  rw [hany]
  by_cases h : key ∈ g.edgeKeys
  · rw [if_pos (by simpa using h), if_pos h, edgeKeys, edgeKeys, List.map_map]
    refine List.map_congr_left fun e _ => ?_
    rw [Function.comp_apply]
    split
    · exact Eq.symm ‹_›
    · rfl
  · rw [if_neg (by simpa using h), if_neg h, edgeKeys, edgeKeys, List.map_append]
    rfl

lemma mem_edges_mergeEdgeAt {key : EdgeKey} {props : PyDict} {e : Edge}
    (h : e ∈ (g.mergeEdgeAt key props).edges) : e ∈ g.edges ∨ e = ⟨key, props⟩ := by
  unfold mergeEdgeAt at h
  split at h
  · obtain ⟨e₀, he₀, rfl⟩ := List.mem_map.mp h
    split
    · exact Or.inr rfl
    · exact Or.inl he₀
  · exact (List.mem_append.mp h).imp id List.mem_singleton.mp

/-- The edges that a statement merges have its id and its endpoints. -/
lemma mem_boundEdges {label : String} {id src dst : UUID} {key : EdgeKey}
    (h : key ∈ g.boundEdges label id src dst) :
    key.id = id ∧ key.src.id = src ∧ key.dst.id = dst := by
  simp only [boundEdges, matching, List.mem_flatMap, List.mem_map, List.mem_filter,
    decide_eq_true_eq] at h
  obtain ⟨s, ⟨-, hs⟩, d, ⟨-, hd⟩, rfl⟩ := h
  exact ⟨rfl, hs, hd⟩

/-- After a merge there are the edges that were there, and the merged ones. -/
lemma mem_edges_mergeEdge {label : String} {id src dst : UUID} {props : PyDict} {e : Edge}
    (h : e ∈ (g.mergeEdge label id src dst props).edges) :
    e ∈ g.edges ∨ e.key ∈ g.boundEdges label id src dst ∧ e.props = props := by
  unfold mergeEdge at h
  generalize g.boundEdges label id src dst = keys at h ⊢
  induction keys generalizing g with
  | nil => exact Or.inl h
  | cons key keys ih =>
    rcases ih h with h | ⟨hkey, hprops⟩
    · rcases mem_edges_mergeEdgeAt h with h | rfl
      · exact Or.inl h
      · exact Or.inr ⟨List.mem_cons_self, rfl⟩
    · exact Or.inr ⟨List.mem_cons_of_mem _ hkey, hprops⟩

/-- A test that fails on the merged edges does not see the merge. -/
lemma filter_mergeEdge {p : Edge → Bool} {label : String} {id src dst : UUID} {props : PyDict}
    (hnew : ∀ key, p ⟨key, props⟩ = false) (hold : ∀ e ∈ g.edges, e.key.id = id → p e = false) :
    (g.mergeEdge label id src dst props).edges.filter p = g.edges.filter p := by
  unfold mergeEdge
  have hkeys : ∀ key ∈ g.boundEdges label id src dst, key.id = id := fun _ h => (mem_boundEdges h).1
  generalize g.boundEdges label id src dst = keys at hkeys ⊢
  induction keys generalizing g with
  | nil => rfl
  | cons key keys ih =>
    have hstep : (g.mergeEdgeAt key props).edges.filter p = g.edges.filter p := by
      unfold mergeEdgeAt
      split
      · refine Tables.filter_map_eq fun e he => ?_
        split
        · rename_i hkey
          exact Or.inr ⟨hold e he (hkey ▸ hkeys key List.mem_cons_self), hnew key⟩
        · exact Or.inl rfl
      · simp [hnew]
    rw [List.foldl_cons, ih (fun e he hid => ?_) fun k hk => hkeys k (List.mem_cons_of_mem _ hk),
      hstep]
    rcases mem_edges_mergeEdgeAt he with he | rfl
    · exact hold e he hid
    · exact hnew key

@[simp] lemma vertices_mergeEdgeAt (key : EdgeKey) (props : PyDict) :
    (g.mergeEdgeAt key props).vertices = g.vertices := by
  unfold mergeEdgeAt
  split <;> rfl

@[simp] lemma vertices_mergeEdge (label : String) (id src dst : UUID) (props : PyDict) :
    (g.mergeEdge label id src dst props).vertices = g.vertices := by
  unfold mergeEdge
  generalize g.boundEdges label id src dst = keys
  induction keys generalizing g with
  | nil => rfl
  | cons key keys ih => rw [List.foldl_cons, ih, vertices_mergeEdgeAt]

@[simp] lemma vertexKeys_mergeEdge (label : String) (id src dst : UUID) (props : PyDict) :
    (g.mergeEdge label id src dst props).vertexKeys = g.vertexKeys := by
  rw [vertexKeys, vertices_mergeEdge, vertexKeys]

/-- With one vertex per id, a `MATCH` on an id binds at most that vertex. -/
lemma matching_eq_singleton (hnodup : (g.vertexKeys.map VertexKey.id).Nodup) {k : VertexKey}
    (hk : k ∈ g.vertexKeys) : g.matching k.id = [k] := by
  refine Tables.filter_eq_singleton (List.Nodup.of_map _ hnodup) hk (by simp) fun x hx hid => ?_
  exact List.inj_on_of_nodup_map hnodup hx hk (by simpa using hid)

/-- A `MERGE` between two vertices that are there merges the one edge between them. -/
lemma mergeEdge_eq (hnodup : (g.vertexKeys.map VertexKey.id).Nodup) {s d : VertexKey}
    (hs : s ∈ g.vertexKeys) (hd : d ∈ g.vertexKeys) (label : String) (id : UUID)
    (props : PyDict) :
    g.mergeEdge label id s.id d.id props = g.mergeEdgeAt ⟨label, id, s, d⟩ props := by
  unfold mergeEdge boundEdges
  rw [matching_eq_singleton hnodup hs, matching_eq_singleton hnodup hd]
  rfl

@[simp] lemma vertexKeys_deleteEdge (id : UUID) : (g.deleteEdge id).vertexKeys = g.vertexKeys :=
  rfl

@[simp] lemma edgeKeys_deleteEdge (id : UUID) :
    (g.deleteEdge id).edgeKeys = g.edgeKeys.filter fun k => k.id ≠ id := by
  simp only [edgeKeys, deleteEdge, List.filter_map]
  rfl

end Sleuthgraph.Graph
