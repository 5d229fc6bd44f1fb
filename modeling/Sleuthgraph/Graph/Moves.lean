import Sleuthgraph.Lib.Systems
import Sleuthgraph.Relationships.Repository

/-!
# What a repository call does

`Call` lists the calls that write entities and relationships. `Call.Does` says, once, what each
of them does to the store its session sees when it gets through: a row and its mirror, together.
What every call that gets through keeps is kept by every call, whatever raises and wherever
(`Call.run_does`), and the answer of each function is read off at the same time. `Move` forgets
which call it was, and keeps of it only whether it may delete an entity.
-/

namespace Sleuthgraph

open Programs Transactions Tables

/-- The writing calls of the two repositories. -/
inductive Call where
  | createEntity (caseId : UUID) (createdBy : Option UUID) (data : EntityCreate) (doCommit : Bool)
  | updateEntity (entityId caseId : UUID) (data : EntityUpdate)
  | softDeleteEntity (entityId caseId : UUID)
  | getOrCreate (caseId : UUID) (createdBy : Option UUID) (data : EntityCreate) (doCommit : Bool)
  | createRelationship (caseId : UUID) (createdBy : Option UUID) (data : RelationshipCreate)
      (doCommit : Bool)
  | createIfNotExists (caseId : UUID) (createdBy : Option UUID) (data : RelationshipCreate)
      (doCommit : Bool)
  | softDeleteRelationship (relId caseId : UUID)

variable {O : Type} (py : Interp)

/-- Make the call; its answer does not matter here. -/
def Call.run (x : Ext) : Call → Db O Unit
  | .createEntity caseId createdBy data doCommit => do
    let _ ← EntityRepository.create py x caseId createdBy data doCommit
  | .updateEntity entityId caseId data => do
    let _ ← EntityRepository.update py x entityId caseId data
  | .softDeleteEntity entityId caseId => do
    let _ ← EntityRepository.softDelete x entityId caseId
  | .getOrCreate caseId createdBy data doCommit => do
    let _ ← EntityRepository.getOrCreate py x caseId createdBy data doCommit
  | .createRelationship caseId createdBy data doCommit => do
    let _ ← RelationshipRepository.create py x caseId createdBy data doCommit
  | .createIfNotExists caseId createdBy data doCommit => do
    let _ ← RelationshipRepository.createIfNotExists py x caseId createdBy data doCommit
  | .softDeleteRelationship relId caseId => do
    let _ ← RelationshipRepository.softDelete x relId caseId

/-- A row as `EntityRepository.get` finds it. -/
abbrev Entity.LiveIn (e : Entity) (st : Store) : Prop := e ∈ st.entities ∧ e.live = true

/-- A row as `RelationshipRepository.get` finds it. -/
abbrev Relationship.LiveIn (r : Relationship) (st : Store) : Prop :=
  r ∈ st.relationships ∧ r.live = true

lemma Entity.LiveIn.mem {e : Entity} {st : Store} (h : e.LiveIn st) : e ∈ st.entities := h.1

lemma Entity.LiveIn.live {e : Entity} {st : Store} (h : e.LiveIn st) : e.live = true := h.2

lemma Relationship.LiveIn.mem {r : Relationship} {st : Store} (h : r.LiveIn st) :
    r ∈ st.relationships := h.1

lemma Relationship.LiveIn.live {r : Relationship} {st : Store} (h : r.LiveIn st) :
    r.live = true := h.2

/-! ## What a call does -/

/-- A new entity, mirrored. -/
abbrev Store.putEntity (st : Store) (e : Entity) : Store :=
  (st.apply (.insertEntity e)).apply (.cypher (vertexMerge py e))

/-- Columns of an entity set, and the loaded row `e` mirrored. -/
abbrev Store.setEntity (st : Store) (c : EntityChange) (now : Time) (e : Entity) : Store :=
  (st.apply (.updateEntity e.id c now)).apply (.cypher (vertexMerge py e))

/-- An entity deleted, with its vertex. -/
abbrev Store.cutEntity (st : Store) (id : UUID) (now : Time) : Store :=
  (st.apply (.updateEntity id (EntityRepository.deletion now) now)).apply
    (.cypher (.detachDelete id))

/-- A new relationship, mirrored. -/
abbrev Store.putRelationship (st : Store) (r : Relationship) : Store :=
  (st.apply (.insertRelationship r)).apply (.cypher (edgeMerge py r))

/-- A relationship deleted, with its edge. -/
abbrev Store.cutRelationship (st : Store) (id : UUID) (now : Time) : Store :=
  (st.apply (.retireRelationship id now)).apply (.cypher (.deleteEdge id))

/-- `id` is the id of a live entity of the case. -/
def LiveInCase (st : Store) (caseId id : UUID) : Prop :=
  ∃ e : Entity, e.LiveIn st ∧ e.id = id ∧ e.caseId = caseId

/-- What a call does to the store its session sees, when it gets through and writes. -/
inductive Call.Does (x : Ext) (st : Store) : Call → Store → Prop
  | createEntity {caseId : UUID} {createdBy : Option UUID} {data : EntityCreate} {doCommit : Bool}
      (haccepts : st.accepts (.insertEntity (EntityRepository.newEntity x caseId createdBy data))) :
      Does x st (.createEntity caseId createdBy data doCommit)
        (st.putEntity py (EntityRepository.newEntity x caseId createdBy data))
  | getOrCreateNew {caseId : UUID} {createdBy : Option UUID} {data : EntityCreate}
      {doCommit : Bool}
      (hnone : EntityRepository.withKey st caseId data.type.value data.label = [])
      (haccepts : st.accepts (.insertEntity (EntityRepository.newEntity x caseId createdBy data))) :
      Does x st (.getOrCreate caseId createdBy data doCommit)
        (st.putEntity py (EntityRepository.newEntity x caseId createdBy data))
  | raiseConfidence {caseId : UUID} {createdBy : Option UUID} {data : EntityCreate}
      {doCommit : Bool} (e : Entity) (he : e.LiveIn st) (hcase : e.caseId = caseId)
      (hlt : e.confidence < data.confidence) :
      Does x st (.getOrCreate caseId createdBy data doCommit)
        (st.setEntity py (EntityRepository.confidenceChange data.confidence) x.now
          { e with confidence := data.confidence })
  | editEntity {entityId caseId : UUID} {data : EntityUpdate} (e : Entity) (he : e.LiveIn st)
      (hid : e.id = entityId) (hcase : e.caseId = caseId)
      (haccepts : st.accepts (.updateEntity e.id (data.change py e) x.now)) :
      Does x st (.updateEntity entityId caseId data)
        (st.setEntity py (data.change py e) x.now (data.assign e))
  | remirrorEntity {entityId caseId : UUID} {data : EntityUpdate} (e : Entity) (he : e.LiveIn st)
      (hid : e.id = entityId) (hcase : e.caseId = caseId) (hempty : (data.change py e).isEmpty) :
      Does x st (.updateEntity entityId caseId data)
        (st.apply (.cypher (vertexMerge py (data.assign e))))
  | dropEntity {entityId caseId : UUID} (e : Entity) (he : e.LiveIn st) (hid : e.id = entityId)
      (hcase : e.caseId = caseId) :
      Does x st (.softDeleteEntity entityId caseId) (st.cutEntity e.id x.now)
  | createRelationship {caseId : UUID} {createdBy : Option UUID} {data : RelationshipCreate}
      {doCommit : Bool} (hsrc : LiveInCase st caseId data.srcEntityId)
      (hdst : LiveInCase st caseId data.dstEntityId)
      (haccepts : st.accepts
        (.insertRelationship (RelationshipRepository.newRelationship x caseId createdBy data))) :
      Does x st (.createRelationship caseId createdBy data doCommit)
        (st.putRelationship py (RelationshipRepository.newRelationship x caseId createdBy data))
  | createMissing {caseId : UUID} {createdBy : Option UUID} {data : RelationshipCreate}
      {doCommit : Bool} (hsrc : LiveInCase st caseId data.srcEntityId)
      (hdst : LiveInCase st caseId data.dstEntityId)
      (haccepts : st.accepts
        (.insertRelationship (RelationshipRepository.newRelationship x caseId createdBy data))) :
      Does x st (.createIfNotExists caseId createdBy data doCommit)
        (st.putRelationship py (RelationshipRepository.newRelationship x caseId createdBy data))
  | dropRelationship {relId caseId : UUID} (r : Relationship) (hr : r.LiveIn st)
      (hid : r.id = relId) (hcase : r.caseId = caseId) :
      Does x st (.softDeleteRelationship relId caseId) (st.cutRelationship r.id x.now)

/-- The case a call names. -/
def Call.caseId : Call → UUID
  | .createEntity caseId _ _ _ => caseId
  | .updateEntity _ caseId _ => caseId
  | .softDeleteEntity _ caseId => caseId
  | .getOrCreate caseId _ _ _ => caseId
  | .createRelationship caseId _ _ _ => caseId
  | .createIfNotExists caseId _ _ _ => caseId
  | .softDeleteRelationship _ caseId => caseId

/-! ## Moves -/

/-- What a call does to the store its session sees. `mayDrop` restricts the deletions of
entities. -/
inductive Move (mayDrop : Store → Entity → Prop) (st : Store) : Store → Prop
  | addEntity (x : Ext) (caseId : UUID) (createdBy : Option UUID) (data : EntityCreate)
      (haccepts : st.accepts (.insertEntity (EntityRepository.newEntity x caseId createdBy data))) :
      Move mayDrop st
        ((st.apply (.insertEntity (EntityRepository.newEntity x caseId createdBy data))).apply
          (.cypher (vertexMerge py (EntityRepository.newEntity x caseId createdBy data))))
  | editEntity (e : Entity) (he : e.LiveIn st) (data : EntityUpdate) (now : Time)
      (haccepts : st.accepts (.updateEntity e.id (data.change py e) now)) :
      Move mayDrop st
        ((st.apply (.updateEntity e.id (data.change py e) now)).apply
          (.cypher (vertexMerge py (data.assign e))))
  | remirrorEntity (e : Entity) (he : e.LiveIn st) (data : EntityUpdate)
      (hempty : (data.change py e).isEmpty) :
      Move mayDrop st (st.apply (.cypher (vertexMerge py (data.assign e))))
  | raiseConfidence (e : Entity) (he : e.LiveIn st) (confidence : ℚ)
      (hlt : e.confidence < confidence) (now : Time) :
      Move mayDrop st
        ((st.apply (.updateEntity e.id (EntityRepository.confidenceChange confidence) now)).apply
          (.cypher (vertexMerge py { e with confidence })))
  | dropEntity (e : Entity) (he : e.LiveIn st) (hdrop : mayDrop st e) (now : Time) :
      Move mayDrop st
        ((st.apply (.updateEntity e.id (EntityRepository.deletion now) now)).apply
          (.cypher (.detachDelete e.id)))
  | addRelationship (x : Ext) (caseId : UUID) (createdBy : Option UUID) (data : RelationshipCreate)
      (src dst : Entity) (hsrc : src.LiveIn st) (hdst : dst.LiveIn st)
      (hsrcId : src.id = data.srcEntityId) (hdstId : dst.id = data.dstEntityId)
      (hsrcCase : src.caseId = caseId) (hdstCase : dst.caseId = caseId)
      (haccepts : st.accepts
        (.insertRelationship (RelationshipRepository.newRelationship x caseId createdBy data))) :
      Move mayDrop st
        ((st.apply
          (.insertRelationship
            (RelationshipRepository.newRelationship x caseId createdBy data))).apply
          (.cypher (edgeMerge py
            (RelationshipRepository.newRelationship x caseId createdBy data))))
  | dropRelationship (r : Relationship) (hr : r.LiveIn st) (now : Time) :
      Move mayDrop st
        ((st.apply (.retireRelationship r.id now)).apply (.cypher (.deleteEdge r.id)))

/-- The call may delete the entity it would delete from `st`. -/
def Call.Allowed (mayDrop : Store → Entity → Prop) (st : Store) : Call → Prop
  | .softDeleteEntity entityId caseId =>
    ∀ e : Entity, e.LiveIn st → e.id = entityId → e.caseId = caseId → mayDrop st e
  | _ => True

variable {py} in
/-- What a call does is a move. -/
lemma Call.Does.move {mayDrop : Store → Entity → Prop} {x : Ext} {st st' : Store} {call : Call}
    (h : call.Does py x st st') (hallowed : call.Allowed mayDrop st) : Move py mayDrop st st' := by
  cases h with
  | createEntity haccepts => exact .addEntity x _ _ _ haccepts
  | getOrCreateNew hnone haccepts => exact .addEntity x _ _ _ haccepts
  | raiseConfidence e he hcase hlt => exact .raiseConfidence e he _ hlt x.now
  | editEntity e he hid hcase haccepts => exact .editEntity e he _ x.now haccepts
  | remirrorEntity e he hid hcase hempty => exact .remirrorEntity e he _ hempty
  | dropEntity e he hid hcase => exact .dropEntity e he (hallowed e he hid hcase) x.now
  | createRelationship hsrc hdst haccepts =>
    obtain ⟨s, hs, hsid, hscase⟩ := hsrc
    obtain ⟨d, hd, hdid, hdcase⟩ := hdst
    exact .addRelationship x _ _ _ s d hs hd hsid hdid hscase hdcase haccepts
  | createMissing hsrc hdst haccepts =>
    obtain ⟨s, hs, hsid, hscase⟩ := hsrc
    obtain ⟨d, hd, hdid, hdcase⟩ := hdst
    exact .addRelationship x _ _ _ s d hs hd hsid hdid hscase hdcase haccepts
  | dropRelationship r hr hid hcase => exact .dropRelationship r hr x.now

/-! ## Pieces of a call -/

section Sessions

variable {P J K Q : Store → O → Prop}

lemma write_triple (lost : Bool) (w : Write)
    (h : ∀ st o, J st o → st.accepts w = true → K (st.apply w) o) :
    Prog.Triple (Holds P J) (write lost w : Db O Unit) (fun _ => Holds P K) fun _ => Holds P P :=
  (Holds.write lost w h).post (fun _ _ h => h) fun _ _ h => h.of_stuck

lemma query_triple {α : Type} (lost : Bool) (q : Store → α) :
    Prog.Triple (Holds P J) (query lost q : Db O α)
      (fun a s => (∃ st o, J st o ∧ a = q st) ∧ Holds P (fun st o => J st o ∧ a = q st) s)
      fun _ => Holds P P :=
  (Holds.query_reads lost q).post (fun _ _ h => h) fun _ _ h => h.of_stuck

/-- Mirror and commit, with a rollback if one of them raises. -/
lemma settle_triple {mirror : Db O Unit} (doCommit lost : Bool) (hQ : ∀ st o, Q st o → P st o)
    (hm : Prog.Triple (Holds P K) mirror (fun _ => Holds P Q) fun _ => Holds P K) :
    Prog.Triple (Holds P K)
      (rollingBack do
        mirror
        commitIf doCommit lost)
      (fun _ => Holds P Q) fun _ => Holds P P := by
  have hbody : Prog.Triple (Holds P K) (do mirror; commitIf doCommit lost : Db O Unit)
      (fun _ => Holds P Q) fun _ => Holds P fun st o => K st o ∨ P st o :=
    (hm.post (fun _ _ h => h) fun _ _ h => h.weaken fun _ _ => Or.inl).bind
      fun _ => (commitIf_triple doCommit lost hQ).post (fun _ _ h => h)
        fun _ _ h => h.weaken fun _ _ => Or.inr
  exact Holds.rollingBack hbody

/-- A mirror that raises has not written. -/
lemma mirror_triple {α : Type} {c : Prop} [Decidable c] (r : Except Exc α) (lost : Bool)
    (op : Cypher) (h : ∀ st o, K st o → Q (st.apply (.cypher op)) o) :
    Prog.Triple (Holds P K)
      (do
        if c then
          throw Exc.valueError
        let _ ← Prog.ofExcept r
        write lost (.cypher op) : Db O Unit)
      (fun _ => Holds P Q) fun _ => Holds P K := by
  split
  · exact Prog.Triple.throw fun _ h => h
  · refine (Holds.ofExcept r).bind fun _ => ?_
    exact (Holds.write lost _ fun st o hk _ => h st o hk.1).post (fun _ _ h => h)
      fun _ _ h => h.of_stuck

lemma upsertVertex_triple (x : Ext) (e : Entity)
    (h : ∀ st o, K st o → Q (st.apply (.cypher (vertexMerge py e))) o) :
    Prog.Triple (Holds P K) (upsertVertex py x e : Db O Unit) (fun _ => Holds P Q)
      fun _ => Holds P K :=
  mirror_triple _ _ _ h

lemma upsertEdge_triple (x : Ext) (r : Relationship)
    (h : ∀ st o, K st o → Q (st.apply (.cypher (edgeMerge py r))) o) :
    Prog.Triple (Holds P K) (upsertEdge py x r : Db O Unit) (fun _ => Holds P Q)
      fun _ => Holds P K :=
  mirror_triple _ _ _ h

lemma statement_triple (lost : Bool) (op : Cypher)
    (h : ∀ st o, K st o → Q (st.apply (.cypher op)) o) :
    Prog.Triple (Holds P K) (write lost (.cypher op) : Db O Unit) (fun _ => Holds P Q)
      fun _ => Holds P K :=
  (Holds.write lost _ fun st o hk _ => h st o hk).post (fun _ _ h => h)
    fun _ _ h => h.of_stuck

/-- A row, its mirror and the commit: `P` is kept when row and mirror together keep it. -/
lemma save_triple {α : Type} {flush mirror : Db O Unit} {rest : Db O α}
    {R : α → Session Store Write O → Prop} (doCommit lost : Bool) (hQ : ∀ st o, Q st o → P st o)
    (hf : Prog.Triple (Holds P J) flush (fun _ => Holds P K) fun _ => Holds P P)
    (hm : Prog.Triple (Holds P K) mirror (fun _ => Holds P Q) fun _ => Holds P K)
    (hrest : Prog.Triple (Holds P Q) rest R fun _ => Holds P P) :
    Prog.Triple (Holds P J)
      (do
        flush
        rollingBack do
          mirror
          commitIf doCommit lost
        rest)
      R fun _ => Holds P P :=
  hf.bind fun _ => (settle_triple doCommit lost hQ hm).bind fun _ => hrest

end Sessions

/-! ## Lookups -/

section Lookups

variable {P J : Store → O → Prop}

/-- `get` finds a live row of the case. -/
lemma getEntity_triple (x : Ext) (entityId caseId : UUID) :
    Prog.Triple (Holds P J) (EntityRepository.get x entityId caseId : Db O (Option Entity))
      (fun a s => (∀ e, a = some e → e.id = entityId ∧ e.caseId = caseId) ∧
        Holds P (fun st o => J st o ∧ ∀ e, a = some e → e.LiveIn st) s)
      fun _ => Holds P P := by
  have hrow : ∀ {st : Store} {e : Entity}, st.entities.rows.find? (fun e =>
      e.id = entityId && e.caseId = caseId && e.live) = some e →
        (e.id = entityId ∧ e.caseId = caseId) ∧ e.LiveIn st := by
    intro st e he
    have hcond := List.find?_some he
    simp only [Bool.and_eq_true, decide_eq_true_eq] at hcond
    exact ⟨hcond.1, List.mem_of_find?_eq_some he, hcond.2⟩
  refine (query_triple x.lookup _).post (fun a s h => ⟨?_, h.2.weaken ?_⟩) fun _ _ h => h
  · obtain ⟨⟨st, o, -, rfl⟩, -⟩ := h
    exact fun e he => (hrow he).1
  · rintro st o ⟨hJ, rfl⟩
    exact ⟨hJ, fun e he => (hrow he).2⟩

/-- `get` finds a live row of the case. -/
lemma getRelationship_triple (x : Ext) (relId caseId : UUID) :
    Prog.Triple (Holds P J)
      (RelationshipRepository.get x relId caseId : Db O (Option Relationship))
      (fun a s => (∀ r, a = some r → r.id = relId ∧ r.caseId = caseId) ∧
        Holds P (fun st o => J st o ∧ ∀ r, a = some r → r.LiveIn st) s)
      fun _ => Holds P P := by
  have hrow : ∀ {st : Store} {r : Relationship}, st.relationships.rows.find? (fun r =>
      r.id = relId && r.caseId = caseId && r.live) = some r →
        (r.id = relId ∧ r.caseId = caseId) ∧ r.LiveIn st := by
    intro st r hr
    have hcond := List.find?_some hr
    simp only [Bool.and_eq_true, decide_eq_true_eq] at hcond
    exact ⟨hcond.1, List.mem_of_find?_eq_some hr, hcond.2⟩
  refine (query_triple x.lookup _).post (fun a s h => ⟨?_, h.2.weaken ?_⟩) fun _ _ h => h
  · obtain ⟨⟨st, o, -, rfl⟩, -⟩ := h
    exact fun r hr => (hrow hr).1
  · rintro st o ⟨hJ, rfl⟩
    exact ⟨hJ, fun r hr => (hrow hr).2⟩

/-- The lookup of `get_or_create` finds a live row of the case, or there is none with the key. -/
lemma findByKey_triple (x : Ext) (caseId : UUID) (data : EntityCreate) :
    Prog.Triple (Holds P fun st o => P st o ∧ J st o)
      (EntityRepository.findByKey x caseId data : Db O (Option Entity))
      (fun a s => (∀ e, a = some e → e.caseId = caseId) ∧
        Holds P (fun st o => (P st o ∧ J st o) ∧
          (a = none → EntityRepository.withKey st caseId data.type.value data.label = []) ∧
          ∀ e, a = some e → e.LiveIn st) s) fun _ => Holds P P := by
  have hrow : ∀ (st : Store) {e : Entity}, scalarOneOrNone
      (EntityRepository.withKey st caseId data.type.value data.label) = .ok (some e) →
        e.caseId = caseId ∧ e.LiveIn st := by
    intro st e he
    have hmem := scalarOneOrNone_some he ▸ List.mem_singleton_self e
    simp only [EntityRepository.withKey, List.mem_filter, Bool.and_eq_true, decide_eq_true_eq]
      at hmem
    exact ⟨hmem.2.1.1.1, hmem.1, hmem.2.2⟩
  refine (query_triple x.lookup _).bind fun rows => Prog.Triple.assume fun hread => ?_
  obtain ⟨st₀, o₀, -, hrows⟩ := hread
  cases hone : scalarOneOrNone rows with
  | error e => exact Prog.Triple.throw fun _ h => h.weaken fun _ _ h => h.1.1
  | ok a =>
    refine Prog.Triple.pure fun _ h => ⟨fun e he => (hrow st₀ ?_).1, h.weaken ?_⟩
    · rw [← hrows, hone, he]
    · rintro st o ⟨hP, rfl⟩
      exact ⟨hP, fun hnone => scalarOneOrNone_none (hnone ▸ hone),
        fun e he => (hrow st (he ▸ hone)).2⟩

/-- `_assert_endpoints_in_case` leaves two live rows of the case. -/
lemma assertEndpointsInCase_triple (x : Ext) (caseId src dst : UUID) :
    Prog.Triple (Holds P fun st o => P st o ∧ J st o)
      (RelationshipRepository.assertEndpointsInCase x caseId src dst : Db O Unit)
      (fun _ => Holds P fun st o => (P st o ∧ J st o) ∧ LiveInCase st caseId src ∧
        LiveInCase st caseId dst)
      fun _ => Holds P P := by
  refine (query_triple x.endpoints _).bind fun rows => Prog.Triple.assume fun _ => ?_
  split
  · exact Prog.Triple.throw fun _ h => h.weaken fun _ _ h => h.1.1
  · rename_i hrows
    refine Prog.Triple.pure fun _ h => h.weaken ?_
    rintro st o ⟨hP, rfl⟩
    have hends : ∀ id, id ∈ RelationshipRepository.endpointsInCase st caseId src dst →
        LiveInCase st caseId id := by
      intro id hid
      simp only [RelationshipRepository.endpointsInCase, List.mem_map, List.mem_filter,
        Bool.and_eq_true, decide_eq_true_eq] at hid
      obtain ⟨e, ⟨hmem, ⟨hcase, -⟩, hlive⟩, rfl⟩ := hid
      exact ⟨e, ⟨hmem, hlive⟩, rfl, hcase⟩
    simp only [Bool.not_eq_true', Bool.not_eq_false, Bool.and_eq_true, List.contains_iff_mem]
      at hrows
    exact ⟨hP, hends src hrows.1, hends dst hrows.2⟩

end Lookups

/-! ## One specification for each function

`P` is kept by what the call does from `J`; the postcondition says what is answered. -/

section Specs

variable {P J : Store → O → Prop}

lemma createEntity_triple (x : Ext) (caseId : UUID) (createdBy : Option UUID)
    (data : EntityCreate) (doCommit : Bool)
    (hP : ∀ st o, J st o →
      st.accepts (.insertEntity (EntityRepository.newEntity x caseId createdBy data)) = true →
      P (st.putEntity py (EntityRepository.newEntity x caseId createdBy data)) o) :
    Prog.Triple (Holds P J)
      (EntityRepository.create py x caseId createdBy data doCommit : Db O Entity)
      (fun e s => e = EntityRepository.newEntity x caseId createdBy data ∧ Holds P P s)
      fun _ => Holds P P := by
  refine save_triple doCommit x.commit (fun _ _ h => h) (write_triple x.flush _ hP)
    (upsertVertex_triple py x _ fun _ _ h => h) ?_
  exact (refreshIf_triple doCommit x.refresh).bind fun _ => Prog.Triple.pure fun _ h => ⟨rfl, h⟩

/-- The row that `update` answers is the one of the id, in the case. -/
lemma updateEntity_triple (x : Ext) (entityId caseId : UUID) (data : EntityUpdate)
    (hP : ∀ st st' o, P st o → J st o →
      (Call.updateEntity entityId caseId data).Does py x st st' → P st' o) :
    Prog.Triple (Holds P fun st o => P st o ∧ J st o)
      (EntityRepository.update py x entityId caseId data : Db O (Option Entity))
      (fun a s => (∀ e, a = some e → e.id = entityId ∧ e.caseId = caseId) ∧ Holds P P s)
      fun _ => Holds P P := by
  refine (getEntity_triple x entityId caseId).bind fun found => Prog.Triple.assume fun hfound => ?_
  cases found with
  | none => exact Prog.Triple.pure fun _ h => ⟨nofun, h.weaken fun _ _ h => h.1.1⟩
  | some loaded =>
    obtain ⟨hid, hcase⟩ := hfound loaded rfl
    -- the row is still of the case when it is read again
    have hset : ∀ {st : Store} {change : EntityChange}, loaded.LiveIn st →
        ∀ e ∈ (st.apply (.updateEntity loaded.id change x.now)).entities, e.id = loaded.id →
          e.caseId = caseId := by
      intro st change he e hmem heid
      obtain ⟨e₀, he₀, rfl⟩ := (Table.mem_modify (change.set x.now) fun _ => rfl).mp hmem
      split at heid
      · rename_i hpk
        rw [if_pos hpk]
        exact Table.eq_of_pk_eq he₀ he.mem hpk ▸ hcase
      · exact absurd heid ‹_›
    refine Prog.Triple.pre (P := Holds P fun st o => (P st o ∧ J st o) ∧ loaded.LiveIn st) ?_
      fun s h => h.weaken fun st o h => ⟨h.1, h.2 loaded rfl⟩
    refine save_triple (Q := fun st o => P st o ∧ ∀ e ∈ st.entities, e.id = loaded.id →
        e.caseId = caseId)
      (K := fun st o => P (st.apply (.cypher (vertexMerge py (data.assign loaded)))) o ∧
        ∀ e ∈ st.entities, e.id = loaded.id → e.caseId = caseId)
      true x.commit (fun _ _ h => h.1) ?_
      (upsertVertex_triple py x (data.assign loaded) fun _ _ h => h) ?_
    · unfold flushChange
      split
      · rename_i hempty
        refine Prog.Triple.pure fun _ h => h.weaken fun st o ⟨hPJ, he⟩ =>
          ⟨?_, fun e hmem heid => ?_⟩
        · exact hP st _ o hPJ.1 hPJ.2 (.remirrorEntity loaded he hid hcase hempty)
        · exact Table.eq_of_pk_eq hmem he.mem heid ▸ hcase
      · exact write_triple x.flush _ fun st o ⟨hPJ, he⟩ hacc =>
          ⟨hP st _ o hPJ.1 hPJ.2 (.editEntity loaded he hid hcase hacc), hset he⟩
    · refine (query_triple x.refresh _).post (fun a s h => ⟨?_, h.2.weaken fun _ _ h => h.1.1⟩)
        fun _ _ h => h
      obtain ⟨⟨st, o, ⟨-, hrows⟩, rfl⟩, -⟩ := h
      intro e he
      obtain ⟨hmem, hkey⟩ := Table.find_eq_some_iff.mp he
      exact ⟨hkey.trans hid, hrows e hmem hkey⟩

lemma softDeleteEntity_triple (x : Ext) (entityId caseId : UUID)
    (hP : ∀ st st' o, P st o → J st o →
      (Call.softDeleteEntity entityId caseId).Does py x st st' → P st' o) :
    Prog.Triple (Holds P fun st o => P st o ∧ J st o)
      (EntityRepository.softDelete x entityId caseId : Db O Bool)
      (fun _ => Holds P P) fun _ => Holds P P := by
  refine (getEntity_triple x entityId caseId).bind fun found => Prog.Triple.assume fun hfound => ?_
  cases found with
  | none => exact Prog.Triple.pure fun _ h => h.weaken fun _ _ h => h.1.1
  | some e =>
    obtain ⟨hid, hcase⟩ := hfound e rfl
    refine (save_triple (J := fun st o => (P st o ∧ J st o) ∧ e.LiveIn st) (Q := P)
      (R := fun _ => Holds P P) true x.commit (fun _ _ h => h)
      (write_triple x.flush _ ?_) (statement_triple x.mirror _ fun _ _ h => h)
      (Prog.Triple.pure fun _ h => h)).pre ?_
    · exact fun st o ⟨hPJ, he⟩ _ => hP st _ o hPJ.1 hPJ.2 (.dropEntity e he hid hcase)
    · exact fun s h => h.weaken fun st o h => ⟨h.1, h.2 e rfl⟩

/-- The row that `get_or_create` answers is one of the case. -/
lemma getOrCreate_triple (x : Ext) (caseId : UUID) (createdBy : Option UUID)
    (data : EntityCreate) (doCommit : Bool)
    (hP : ∀ st st' o, P st o → J st o →
      (Call.getOrCreate caseId createdBy data doCommit).Does py x st st' → P st' o) :
    Prog.Triple (Holds P fun st o => P st o ∧ J st o)
      (EntityRepository.getOrCreate py x caseId createdBy data doCommit : Db O (Entity × Bool))
      (fun a s => a.1.caseId = caseId ∧ Holds P P s) fun _ => Holds P P := by
  refine (findByKey_triple x caseId data).bind fun found => Prog.Triple.assume fun hfound => ?_
  cases found with
  | none =>
    have hcreate := createEntity_triple (P := P) py x caseId createdBy data doCommit
      (J := fun st o => (P st o ∧ J st o) ∧
        EntityRepository.withKey st caseId data.type.value data.label = [])
      fun st o ⟨hPJ, hnone⟩ hacc => hP st _ o hPJ.1 hPJ.2 (.getOrCreateNew hnone hacc)
    refine (hcreate.pre fun s h => h.weaken fun st o h => ⟨h.1, h.2.1 rfl⟩).bind fun e => ?_
    exact Prog.Triple.assume fun he => Prog.Triple.pure fun _ h => ⟨congrArg Entity.caseId he, h⟩
  | some e =>
    have hcase := hfound e rfl
    refine Prog.Triple.pre (P := Holds P fun st o => (P st o ∧ J st o) ∧ e.LiveIn st) ?_
      fun s h => h.weaken fun st o h => ⟨h.1, h.2.2 e rfl⟩
    refine Prog.Triple.ite (fun hlt => ?_)
      fun _ => Prog.Triple.pure fun _ h => ⟨hcase, h.weaken fun _ _ h => h.1.1⟩
    refine save_triple doCommit x.commit (fun _ _ h => h) (write_triple x.flush _ ?_)
      (upsertVertex_triple py x _ fun _ _ h => h) ?_
    · exact fun st o ⟨hPJ, he⟩ _ => hP st _ o hPJ.1 hPJ.2 (.raiseConfidence e he hcase hlt)
    · exact (refreshIf_triple doCommit x.refresh).bind fun _ =>
        Prog.Triple.pure fun _ h => ⟨hcase, h⟩

lemma createRelationship_triple (x : Ext) (caseId : UUID) (createdBy : Option UUID)
    (data : RelationshipCreate) (doCommit : Bool)
    (hP : ∀ st o, P st o → J st o → LiveInCase st caseId data.srcEntityId →
      LiveInCase st caseId data.dstEntityId →
      st.accepts (.insertRelationship
        (RelationshipRepository.newRelationship x caseId createdBy data)) = true →
      P (st.putRelationship py (RelationshipRepository.newRelationship x caseId createdBy data))
        o) :
    Prog.Triple (Holds P fun st o => P st o ∧ J st o)
      (RelationshipRepository.create py x caseId createdBy data doCommit : Db O Relationship)
      (fun r s => r = RelationshipRepository.newRelationship x caseId createdBy data ∧
        Holds P P s)
      fun _ => Holds P P := by
  refine (assertEndpointsInCase_triple x caseId data.srcEntityId data.dstEntityId).bind
    fun _ => ?_
  refine save_triple doCommit x.commit (fun _ _ h => h) (write_triple x.flush _ ?_)
    (upsertEdge_triple py x _ fun _ _ h => h) ?_
  · exact fun st o ⟨hPJ, hsrc, hdst⟩ hacc => hP st o hPJ.1 hPJ.2 hsrc hdst hacc
  · exact (refreshIf_triple doCommit x.refresh).bind fun _ =>
      Prog.Triple.pure fun _ h => ⟨rfl, h⟩

/-- The row that `create_if_not_exists` answers is one of the case. -/
lemma createIfNotExists_triple (x : Ext) (caseId : UUID) (createdBy : Option UUID)
    (data : RelationshipCreate) (doCommit : Bool)
    (hP : ∀ st st' o, P st o → J st o →
      (Call.createIfNotExists caseId createdBy data doCommit).Does py x st st' → P st' o) :
    Prog.Triple (Holds P fun st o => P st o ∧ J st o)
      (RelationshipRepository.createIfNotExists py x caseId createdBy data doCommit :
        Db O (Relationship × Bool))
      (fun a s => a.1.caseId = caseId ∧ Holds P P s) fun _ => Holds P P := by
  have hfind : Prog.Triple (Holds P fun st o => P st o ∧ J st o)
      (RelationshipRepository.findByKey x caseId data : Db O (Option Relationship))
      (fun a s => (∀ r, a = some r → r.caseId = caseId) ∧
        Holds P (fun st o => P st o ∧ J st o) s) fun _ => Holds P P := by
    refine (query_triple x.lookup _).bind fun rows => Prog.Triple.assume fun hread => ?_
    obtain ⟨st₀, o₀, -, hrows⟩ := hread
    cases hone : scalarOneOrNone rows with
    | error e => exact Prog.Triple.throw fun _ h => h.weaken fun _ _ h => h.1.1
    | ok a =>
      refine Prog.Triple.pure fun _ h => ⟨fun r hr => ?_, h.weaken fun _ _ h => h.1⟩
      have hone : rows = [r] := scalarOneOrNone_some (hr ▸ hone)
      have hmem : r ∈ RelationshipRepository.withKey st₀ caseId data.srcEntityId
          data.dstEntityId data.relType.value := by
        rw [← hrows, hone]
        exact List.mem_singleton_self r
      simp only [RelationshipRepository.withKey, List.mem_filter, Bool.and_eq_true,
        decide_eq_true_eq] at hmem
      exact hmem.2.1.1.1.1
  refine hfind.bind fun found => Prog.Triple.assume fun hfound => ?_
  cases found with
  | some r => exact Prog.Triple.pure fun _ h => ⟨hfound r rfl, h.weaken fun _ _ h => h.1⟩
  | none =>
    have hcreate := createRelationship_triple (P := P) (J := J) py x caseId createdBy data doCommit
      fun st o hst hJ hsrc hdst hacc => hP st _ o hst hJ (.createMissing hsrc hdst hacc)
    refine hcreate.bind fun r => Prog.Triple.assume fun hr => ?_
    exact Prog.Triple.pure fun _ h => ⟨congrArg Relationship.caseId hr, h⟩

lemma softDeleteRelationship_triple (x : Ext) (relId caseId : UUID)
    (hP : ∀ st st' o, P st o → J st o →
      (Call.softDeleteRelationship relId caseId).Does py x st st' → P st' o) :
    Prog.Triple (Holds P fun st o => P st o ∧ J st o)
      (RelationshipRepository.softDelete x relId caseId : Db O Bool)
      (fun _ => Holds P P) fun _ => Holds P P := by
  refine (getRelationship_triple x relId caseId).bind
    fun found => Prog.Triple.assume fun hfound => ?_
  cases found with
  | none => exact Prog.Triple.pure fun _ h => h.weaken fun _ _ h => h.1.1
  | some r =>
    obtain ⟨hid, hcase⟩ := hfound r rfl
    refine (save_triple (J := fun st o => (P st o ∧ J st o) ∧ r.LiveIn st) (Q := P)
      (R := fun _ => Holds P P) true x.commit (fun _ _ h => h)
      (write_triple x.flush _ ?_) (statement_triple x.mirror _ fun _ _ h => h)
      (Prog.Triple.pure fun _ h => h)).pre ?_
    · exact fun st o ⟨hPJ, hr⟩ _ => hP st _ o hPJ.1 hPJ.2 (.dropRelationship r hr hid hcase)
    · exact fun s h => h.weaken fun st o h => ⟨h.1, h.2 r rfl⟩

/-- **Calls keep what their effects keep.** Whatever is raised, and wherever: `P` holds of what
is committed and of what the session sees, unless it waits for a rollback. -/
theorem Call.run_does (x : Ext) (call : Call)
    (hP : ∀ st st' o, P st o → J st o → call.Does py x st st' → P st' o) :
    Prog.Triple (Holds P fun st o => P st o ∧ J st o) (call.run py x : Db O Unit)
      (fun _ => Holds P P) fun _ => Holds P P := by
  have hdrop : ∀ {α : Type} {m : Db O α} {c : α → Prop},
      Prog.Triple (Holds P fun st o => P st o ∧ J st o) m
        (fun a s => c a ∧ Holds P P s) (fun _ => Holds P P) →
      Prog.Triple (Holds P fun st o => P st o ∧ J st o) (do let _ ← m)
        (fun _ => Holds P P) fun _ => Holds P P :=
    fun hm => (hm.post (fun _ _ h => h.2) fun _ _ h => h).drop
  cases call with
  | createEntity caseId createdBy data doCommit =>
    exact hdrop (createEntity_triple py x caseId createdBy data doCommit
      fun st o h hacc => hP st _ o h.1 h.2 (.createEntity hacc))
  | updateEntity entityId caseId data =>
    exact hdrop (updateEntity_triple py x entityId caseId data hP)
  | softDeleteEntity entityId caseId =>
    exact (softDeleteEntity_triple py x entityId caseId hP).drop
  | getOrCreate caseId createdBy data doCommit =>
    exact hdrop (getOrCreate_triple py x caseId createdBy data doCommit hP)
  | createRelationship caseId createdBy data doCommit =>
    exact hdrop (createRelationship_triple py x caseId createdBy data doCommit
      fun st o h hJ hsrc hdst hacc => hP st _ o h hJ (.createRelationship hsrc hdst hacc))
  | createIfNotExists caseId createdBy data doCommit =>
    exact hdrop (createIfNotExists_triple py x caseId createdBy data doCommit hP)
  | softDeleteRelationship relId caseId =>
    exact (softDeleteRelationship_triple py x relId caseId hP).drop

end Specs

/-! ## The life of a session -/

/-- A call, or how the caller ends a transaction. -/
inductive Step where
  | call (c : Call) (x : Ext)
  | commit (lost : Bool)
  | rollback

namespace Step

def prog : Step → Db O Unit
  | .call c x => c.run py x
  | .commit lost => Transactions.commit lost
  | .rollback => Transactions.rollback

/-- The session after the step, whether it returned or raised. -/
def exec (s : Session Store Write O) (step : Step) : Session Store Write O := (step.prog py s).2

/-- The step may delete the entity it would delete. -/
def Allowed (mayDrop : Store → Entity → Prop) (s : Session Store Write O) : Step → Prop
  | .call c _ => c.Allowed mayDrop s.work
  | _ => True

end Step

/-- A session on an empty database. -/
def emptySession (o : O) : Session Store Write O := ⟨Store.empty, [], false, o⟩

/-- The states a session reaches from an empty database, by steps whose deletions of entities
are allowed. Every step can be taken in every state. -/
def SessionReaches (mayDrop : Store → Entity → Prop) (o : O) : Session Store Write O → Prop :=
  Systems.Reaches (fun s (step : Step) => some (step.exec py s))
    (fun s step => step.Allowed mayDrop s) (emptySession o)

/-- The states a session reaches from an empty database, by steps whose calls are allowed in the
view they start from. Every step can be taken in every state. -/
def SessionRuns (allowed : Store → Call → Prop) (o : O) : Session Store Write O → Prop :=
  Systems.Reaches (fun s (step : Step) => some (step.exec py s))
    (fun s step => ∀ call x, step = .call call x → allowed s.work call) (emptySession o)

section Life

/-- `P` is committed, and the session sees `P`. -/
abbrev Sees (P : Store → Prop) : Session Store Write O → Prop :=
  Holds (fun st _ => P st) fun st _ => P st

variable {P : Store → Prop}

/-- A step keeps what its call keeps. -/
lemma Step.sees {s : Session Store Write O} (hs : Sees P s) (step : Step)
    (hP : ∀ call x, step = .call call x → ∀ st', P s.work → call.Does py x s.work st' → P st') :
    Sees P (step.exec py s) := by
  have hafter : ∀ {A : Session Store Write O → Prop} {m : Db O Unit}, A s →
      Prog.Triple A m (fun _ => Sees P) (fun _ => Sees P) → Sees P (m s).2 := by
    intro A m hA hm
    cases hms : m s with
    | mk r s' => cases r with
      | ok a => exact hm.ok hA hms
      | error e => exact hm.error hA hms
  cases step with
  | call c x =>
    refine hafter ?_ (c.run_does py x (J := fun st _ => st = s.work)
      fun st st' o hst heq hdoes => ?_)
    · exact ⟨hs.committed, fun h => ⟨hs.work h, rfl⟩⟩
    · subst heq
      exact hP c x rfl st' hst hdoes
  | commit lost => exact hafter hs (commitIf_triple true lost fun _ _ h => h)
  | rollback => exact hafter hs (Holds.rollback.post (fun _ _ h => h) fun _ _ h => h.of_stuck)

/-- What holds of the empty store and is kept by allowed calls holds of every state reached. -/
theorem SessionRuns.sees {allowed : Store → Call → Prop} (hempty : P Store.empty)
    (hP : ∀ st st' x (call : Call), P st → allowed st call → call.Does py x st st' → P st') {o : O}
    {s : Session Store Write O} (h : SessionRuns py allowed o s) : Sees P s := by
  refine Systems.Reaches.invariant ⟨hempty, fun _ => hempty⟩ ?_ h
  intro s step s' hs hallowed hstep
  cases hstep
  exact Step.sees py hs step fun call x heq st' hst hdoes =>
    hP _ st' x call hst (hallowed call x heq) hdoes

/-- What holds of the empty store and is kept by moves holds of every state reached. -/
theorem SessionReaches.sees {mayDrop : Store → Entity → Prop} (hempty : P Store.empty)
    (hP : ∀ st st', P st → Move py mayDrop st st' → P st') {o : O}
    {s : Session Store Write O} (h : SessionReaches py mayDrop o s) : Sees P s := by
  refine Systems.Reaches.invariant ⟨hempty, fun _ => hempty⟩ ?_ h
  intro s step s' hs hallowed hstep
  cases hstep
  refine Step.sees py hs step fun call x heq st' hst hdoes => ?_
  subst heq
  exact hP _ _ hst (hdoes.move hallowed)

end Life

end Sleuthgraph
