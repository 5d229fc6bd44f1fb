import Sleuthgraph.Graph.MirrorTheorems

/-!
# The vertices mirror the live entities

The keys of the vertices are those of the live rows whatever happens (`Mirrors`). Their
properties are the row's, compared as maps, since each call that sets a column merges the vertex
again. The one exception is an update that sets `attrs` to a value that Python takes for equal
to the old one, as it does with `1`, `1.0` and `True`: no `UPDATE` is emitted then, but the
vertex is merged with the new value.
-/

namespace Sleuthgraph

open Programs Transactions Tables

/-! ## Values as maps -/

/-- What is found under a path of keys and positions: a scalar, a list by its length only, or
that there is a map. -/
def PyVal.under : List (String ⊕ ℕ) → PyVal → Option PyVal
  | [], .dict _ => some (.dict [])
  | [], .list items => some (.list (items.map fun _ => .none))
  | [], v => some v
  | .inl k :: path, .dict items => (items.lookup k).bind (under path)
  | .inr i :: path, .list items => items[i]?.bind (under path)
  | _ :: _, _ => none

/-- Equal as maps: the order of the keys does not matter. -/
def SameMap (v w : PyVal) : Prop := ∀ path, v.under path = w.under path

lemma SameMap.refl (v : PyVal) : SameMap v v := fun _ => rfl

lemma SameMap.of_eq {v w : PyVal} (h : v = w) : SameMap v w := h ▸ SameMap.refl v

section Properties

variable (py : Interp)

/-- The `attrs` of a row as the graph has them; null reads as the empty map. -/
def storedAttrs (e : Entity) : PyVal :=
  stored py.str (if e.attrs.truthy then e.attrs else .dict [])

/-- The properties of a row as the graph has them. -/
def rowProps (e : Entity) : PyDict := storedProps py.str (vertexProps py e)

variable {py}

/-- Rows that agree on the mirrored columns have the same properties. -/
lemma rowProps_sameMap {e e' : Entity} (hid : e.id = e'.id) (hcase : e.caseId = e'.caseId)
    (hlabel : e.label = e'.label) (hconfidence : e.confidence = e'.confidence)
    (hattrs : SameMap (storedAttrs py e) (storedAttrs py e')) :
    SameMap (.dict (rowProps py e)) (.dict (rowProps py e')) := by
  intro path
  match path with
  | [] => rfl
  | .inr _ :: _ => rfl
  | .inl k :: path =>
    have hprops : ∀ e : Entity, rowProps py e
        = [("id", .str (String.ofList (uuidText e.id))),
          ("case_id", .str (String.ofList (uuidText e.caseId))), ("label", .str e.label),
          ("confidence", .float (py.repr e.confidence)), ("attrs", storedAttrs py e)] :=
      fun e => rfl
    rw [PyVal.under, PyVal.under, hprops, hprops, hid, hcase, hlabel, hconfidence]
    by_cases hk : k = "attrs"
    · subst hk
      exact hattrs path
    · have hk' : (k == "attrs") = false := by simpa using hk
      simp only [List.lookup_cons, hk', List.lookup_nil]

end Properties

/-! ## The mirror -/

/-- One vertex for each live row and no other, with the type and the properties of the row. -/
structure VerticesMirror (py : Interp) (st : Store) : Prop where
  vertex_ids : (st.graph.vertexKeys.map VertexKey.id).Nodup
  vertex_of_row : ∀ e : Entity, e.LiveIn st →
    ∃ v ∈ st.graph.vertices, v.key.label = e.type ∧ v.key.id = e.id ∧
      SameMap (.dict v.props) (.dict (rowProps py e))
  row_of_vertex : ∀ v ∈ st.graph.vertices, ∃ e : Entity, e.LiveIn st ∧ e.id = v.key.id

/-- The vertices that carry the key of a live row carry its properties. -/
def PropsMirror (py : Interp) (st : Store) : Prop :=
  ∀ v ∈ st.graph.vertices, ∀ e : Entity, e.LiveIn st → e.vertexKey = v.key →
    SameMap (.dict v.props) (.dict (rowProps py e))

lemma Mirrors.verticesMirror {py : Interp} {st : Store} (h : Mirrors st)
    (hprops : PropsMirror py st) : VerticesMirror py st where
  vertex_ids := h.vertex_ids
  vertex_of_row e he := by
    obtain ⟨v, hv, hkey⟩ := List.mem_map.mp ((h.vertices e.vertexKey).mpr ⟨e, he, rfl⟩)
    exact ⟨v, hv, by rw [hkey]; rfl, by rw [hkey]; rfl, hprops v hv e he hkey.symm⟩
  row_of_vertex v hv := by
    obtain ⟨e, he, hkey⟩ := (h.vertices v.key).mp (List.mem_map.mpr ⟨v, hv, rfl⟩)
    exact ⟨e, he, by rw [← hkey]; rfl⟩

section Merge

variable {py : Interp} {st st' : Store}

/-- Merging the vertex of `e` keeps the mirror when the rows of other keys were there before and
the row of its key has the properties of `e`. -/
lemma PropsMirror.merge (h : PropsMirror py st) {e : Entity}
    (hgraph : st'.graph = st.graph.mergeVertex e.vertexKey (rowProps py e))
    (hother : ∀ x : Entity, x.LiveIn st' → x.vertexKey ≠ e.vertexKey → x.LiveIn st)
    (hself : ∀ x : Entity, x.LiveIn st' → x.vertexKey = e.vertexKey →
      SameMap (.dict (rowProps py e)) (.dict (rowProps py x))) : PropsMirror py st' := by
  intro v hv x hx hkey
  rw [hgraph] at hv
  rcases Graph.mem_vertices_mergeVertex.mp hv with ⟨hv, hne⟩ | rfl
  · exact h v hv x (hother x hx (hkey ▸ hne)) hkey
  · exact hself x hx hkey

/-- Fewer vertices and fewer live rows. -/
lemma PropsMirror.mono (h : PropsMirror py st)
    (hvertices : ∀ v ∈ st'.graph.vertices, v ∈ st.graph.vertices)
    (hlive : ∀ x : Entity, x.LiveIn st' → x.LiveIn st) : PropsMirror py st' :=
  fun v hv x hx hkey => h v (hvertices v hv) x (hlive x hx) hkey

lemma PropsMirror.putEntity (h : PropsMirror py st) {e : Entity} (hlive : e.live = true)
    (haccepts : st.accepts (.insertEntity e) = true) : PropsMirror py (st.putEntity py e) := by
  have hnew := accepts_insertEntity haccepts
  refine h.merge (e := e) rfl (fun x hx hne => ?_) fun x hx hkey => ?_
  · rcases (liveIn_insertEntity hnew hlive).mp hx with hx | rfl
    · exact hx
    · exact absurd rfl hne
  · rcases (liveIn_insertEntity hnew hlive).mp hx with hx | rfl
    · exact absurd (congrArg VertexKey.id hkey) (Table.has_eq_false_iff.mp hnew x hx.mem)
    · exact SameMap.refl _

/-- Columns of a live row set, and its vertex merged with what it should have. -/
lemma PropsMirror.setEntity (h : PropsMirror py st) {e : Entity} (he : e.LiveIn st) (e' : Entity)
    (hkey : e'.vertexKey = e.vertexKey) (c : EntityChange) (hc : c.deletedAt = none) {now : Time}
    (hprops : SameMap (.dict (rowProps py e')) (.dict (rowProps py (c.set now e)))) :
    PropsMirror py (st.setEntity py c now e') := by
  have hid : e'.id = e.id := congrArg VertexKey.id hkey
  refine h.merge (e := e') rfl (fun x hx hne => ?_) fun x hx hxkey => ?_
  · obtain ⟨x₀, hx₀, rfl⟩ := (liveIn_updateEntity hc).mp hx
    split at hne
    · rename_i hx₀id
      obtain rfl := Table.eq_of_pk_eq hx₀.mem he.mem (hx₀id.trans hid)
      exact absurd hkey.symm hne
    · rename_i hx₀id
      rwa [if_neg hx₀id]
  · obtain ⟨x₀, hx₀, rfl⟩ := (liveIn_updateEntity hc).mp hx
    have hx₀id : pk x₀ = e'.id := by
      split at hxkey
      · assumption
      · exact congrArg VertexKey.id hxkey
    obtain rfl := Table.eq_of_pk_eq hx₀.mem he.mem (hx₀id.trans hid)
    rw [if_pos hx₀id]
    exact hprops

end Merge

/-! ## Updates -/

/-- An update that emits no new `attrs` leaves them as they are in the graph, too. -/
def Call.Faithful (py : Interp) (st : Store) : Call → Prop
  | .updateEntity entityId caseId data => ∀ e : Entity, e.LiveIn st → e.id = entityId →
      e.caseId = caseId → (data.assign e).attrs.eq py e.attrs = true →
        SameMap (storedAttrs py (data.assign e)) (storedAttrs py e)
  | _ => True

section Updates

variable {py : Interp} {data : EntityUpdate} {e : Entity}

/-- A value left out because it is the old one reads as the old one. -/
lemma filter_getD {α : Type} [DecidableEq α] (a : Option (Option α)) (old : α) :
    ((a.filter fun new => new ≠ some old).getD (some old)).getD old
      = (a.getD (some old)).getD old := by
  rcases a with _ | _ | new
  · rfl
  · rfl
  · by_cases h : new = old
    · simp [Option.filter, h]
    · simp [Option.filter, h]

/-- The row after the update has the properties its vertex is merged with. -/
lemma assign_sameMap (h : (data.assign e).attrs.eq py e.attrs = true →
      SameMap (storedAttrs py (data.assign e)) (storedAttrs py e)) (now : Time) :
    SameMap (.dict (rowProps py (data.assign e)))
      (.dict (rowProps py ((data.change py e).set now e))) := by
  refine rowProps_sameMap rfl rfl ?_ ?_ ?_
  · exact (filter_getD data.label e.label).symm
  · exact (filter_getD data.confidence e.confidence).symm
  · by_cases heq : (data.assign e).attrs.eq py e.attrs = true
    · have hattrs : ((data.change py e).set now e).attrs = e.attrs := by
        simp [EntityUpdate.change, EntityChange.set, heq]
      have hsame : storedAttrs py ((data.change py e).set now e) = storedAttrs py e := by
        rw [storedAttrs, storedAttrs, hattrs]
      rw [hsame]
      exact h heq
    · have hattrs : ((data.change py e).set now e).attrs = (data.assign e).attrs := by
        simp [EntityUpdate.change, EntityChange.set, heq]
      refine SameMap.of_eq ?_
      rw [storedAttrs, storedAttrs, hattrs]

/-- Without a column to set, the row stays as it is but for its timestamp. -/
lemma set_of_isEmpty {c : EntityChange} (h : c.isEmpty = true) (now : Time) :
    rowProps py (c.set now e) = rowProps py e := by
  simp only [EntityChange.isEmpty, Bool.and_eq_true, Option.isNone_iff_eq_none] at h
  obtain ⟨⟨⟨hlabel, hattrs⟩, hconfidence⟩, -⟩ := h
  rw [rowProps, rowProps, EntityChange.set, hlabel, hattrs, hconfidence]
  rfl

end Updates

/-! ## Runs -/

section Runs

variable {O : Type} (py : Interp)

/-- Every call keeps the keys, the deletions included. -/
lemma Mirrors.does {st st' : Store} {x : Ext} {call : Call} (h : Mirrors st)
    (hdoes : call.Does py x st st') : Mirrors st' := by
  have hallowed : call.Allowed (fun _ _ => True) st := by
    cases call with
    | softDeleteEntity entityId caseId => exact fun _ _ _ _ => trivial
    | _ => exact trivial
  exact h.move py (hdoes.move hallowed)

/-- What a faithful call does keeps the properties. -/
lemma PropsMirror.does {st st' : Store} {x : Ext} {call : Call} (h : PropsMirror py st)
    (hfaithful : call.Faithful py st) (hdoes : call.Does py x st st') : PropsMirror py st' := by
  cases hdoes with
  | createEntity haccepts => exact h.putEntity rfl haccepts
  | getOrCreateNew hnone haccepts => exact h.putEntity rfl haccepts
  | @raiseConfidence _ _ data _ e he hcase hlt =>
    exact h.setEntity he { e with confidence := data.confidence } rfl
      (EntityRepository.confidenceChange data.confidence) rfl (SameMap.refl _)
  | @editEntity _ _ data e he hid hcase haccepts =>
    exact h.setEntity he (data.assign e) rfl (data.change py e) rfl
      (assign_sameMap (hfaithful e he hid hcase) x.now)
  | @remirrorEntity _ _ data e he hid hcase hempty =>
    have hprops := assign_sameMap (hfaithful e he hid hcase) x.now
    rw [set_of_isEmpty hempty] at hprops
    refine h.merge (e := data.assign e) rfl (fun y hy _ => hy) fun y hy hkey => ?_
    obtain rfl := Table.eq_of_pk_eq hy.mem he.mem (congrArg VertexKey.id hkey)
    exact hprops
  | dropEntity e he hid hcase =>
    refine h.mono (fun v hv => (List.mem_filter.mp hv).1) fun y hy => ?_
    exact (liveIn_deletion.mp hy).1
  | createRelationship hsrc hdst haccepts =>
    refine h.mono (fun v hv => ?_) fun y hy => hy
    exact Graph.vertices_mergeEdge .. ▸ hv
  | createMissing hsrc hdst haccepts =>
    refine h.mono (fun v hv => ?_) fun y hy => hy
    exact Graph.vertices_mergeEdge .. ▸ hv
  | dropRelationship r hr hid hcase => exact h.mono (fun v hv => hv) fun y hy => hy

/-- **The vertices mirror the rows** in every state of every run, whatever fails, as long as no
update replaces `attrs` by other ones that compare equal. -/
theorem vertices_mirror_rows {o : O} {s : Session Store Write O}
    (h : SessionRuns py (Call.Faithful py) o s) : VerticesMirror py s.committed := by
  have hsees := h.sees (P := fun st => Mirrors st ∧ PropsMirror py st) py
    ⟨Mirrors.empty, fun _ hv => nomatch hv⟩
    fun st st' x call hst hfaithful hdoes =>
      ⟨hst.1.does py hdoes, hst.2.does py hfaithful hdoes⟩
  exact hsees.committed.1.verticesMirror hsees.committed.2

/-! ### Two runs -/

/-- An update of `attrs`. -/
def setAttrs (attrs : PyDict) (hattrs : validateAttrs attrs = .ok ()) : EntityUpdate :=
  ⟨none, some (some attrs), none, label_kept, fun a h => by cases h; exact hattrs, confidence_kept⟩

/-- A person whose `attrs` are replaced. -/
def editedSteps (attrs : PyDict) (hattrs : validateAttrs attrs = .ok ()) : List Step :=
  [.call (.createEntity 0 none
      ⟨.person, "alice", [("a", .int 1)], 1, alice_length, rfl, unitRange_one⟩ true)
      { newId := 1, now := 0 },
    .call (.updateEntity 1 0 (setAttrs attrs hattrs)) { newId := 0, now := 1 }]

theorem vertices_mirror_rows_edited :
    VerticesMirror plainInterp
      (sessionAfter (editedSteps [("a", .str "b")] rfl)).committed := by
  refine vertices_mirror_rows (o := ()) plainInterp (.step _ (.step _ .start ?_ rfl) ?_ rfl)
  · rintro call x ⟨⟩
    exact trivial
  · rintro call x ⟨⟩ e he hid hcase heq
    -- no `attrs` of a row equal the new ones
    have hrow : e ∈ (sessionAfter
        ((editedSteps [("a", .str "b")] rfl).take 1)).work.entities.rows := he.mem
    have hattrs : ∀ e ∈ (sessionAfter
        ((editedSteps [("a", .str "b")] rfl).take 1)).work.entities.rows,
          ((setAttrs [("a", .str "b")] rfl).assign e).attrs.eq plainInterp e.attrs = false := by
      decide +kernel
    rw [hattrs e hrow] at heq
    cases heq

/-- `True` for `1`: the row keeps the one, the vertex has the other. -/
theorem vertices_unmirrored :
    ¬ ∀ (py : Interp) (s : Session Store Write Unit), SessionRuns py (fun _ _ => True) () s →
      VerticesMirror py s.committed := by
  intro h
  have hreach : SessionRuns plainInterp (fun _ _ => True) ()
      (sessionAfter (editedSteps [("a", .bool true)] rfl)) :=
    .step _ (.step _ .start (fun _ _ _ => trivial) rfl) (fun _ _ _ => trivial) rfl
  have hrow : ∃ e ∈ (sessionAfter
      (editedSteps [("a", .bool true)] rfl)).committed.entities.rows, e.live = true ∧
        PyVal.under [.inl "attrs", .inl "a"] (.dict (rowProps plainInterp e)) = some (.int 1) := by
    decide +kernel
  have hvertex : ∀ v ∈ (sessionAfter
      (editedSteps [("a", .bool true)] rfl)).committed.graph.vertices,
        PyVal.under [.inl "attrs", .inl "a"] (.dict v.props) = some (.bool true) := by
    decide +kernel
  obtain ⟨e, he, hlive, hattr⟩ := hrow
  obtain ⟨v, hv, -, -, hsame⟩ := (h plainInterp _ hreach).vertex_of_row e ⟨he, hlive⟩
  have hclash := (hvertex v hv).symm.trans ((hsame [.inl "attrs", .inl "a"]).trans hattr)
  cases hclash

end Runs

end Sleuthgraph
