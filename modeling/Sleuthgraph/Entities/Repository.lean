import Sleuthgraph.Lib.Listings
import Sleuthgraph.Schemas

/-!
# `EntityRepository` (`entities/repository.py`, `entities/age.py`)

Each call writes the SQL row, then mirrors it to AGE in the same transaction; when the mirror
or the commit raises, the call rolls the transaction back itself.
-/

namespace Sleuthgraph

open Programs Transactions Tables Listings

/-- What one repository call meets outside its own code: the id and the clock it gets, and
which of its statements do not get through. -/
structure Ext where
  newId : UUID
  now : Time
  lookup : Bool := false
  endpoints : Bool := false
  flush : Bool := false
  mirror : Bool := false
  commit : Bool := false
  refresh : Bool := false

/-- Programs over a database session. -/
abbrev Db (O α : Type) := Sql Store Write O Exc α

variable {O : Type} (py : Interp)

/-- `if commit: await session.commit()` -/
def commitIf (doCommit lost : Bool) : Db O Unit := if doCommit then commit lost else pure ()

/-- `if commit: await session.refresh(row)` -/
def refreshIf (doCommit lost : Bool) : Db O Unit :=
  if doCommit then query lost fun _ => () else pure ()

section Invariants

variable {I J : Store → O → Prop}

lemma commitIf_triple (doCommit lost : Bool) (h : ∀ st o, J st o → I st o) :
    Prog.Triple (Holds I J) (commitIf doCommit lost : Db O Unit) (fun _ => Holds I J)
      fun _ => Holds I I := by
  have hcommit : Prog.Triple (Holds I J) (commit lost : Db O Unit) (fun _ => Holds I J)
      fun _ => Holds I I :=
    (Holds.commit lost h).post (fun _ _ h => h) fun _ _ h => h.of_stuck
  cases doCommit
  · exact Prog.Triple.pure fun _ h => h
  · exact hcommit

lemma refreshIf_triple (doCommit lost : Bool) :
    Prog.Triple (Holds I J) (refreshIf doCommit lost : Db O Unit) (fun _ => Holds I J)
      fun _ => Holds I I := by
  have hrefresh : Prog.Triple (Holds I J) (query lost fun _ => () : Db O Unit)
      (fun _ => Holds I J) fun _ => Holds I I :=
    (Holds.query lost _).post (fun _ _ h => h.weaken fun _ _ h => h.1) fun _ _ h => h.of_stuck
  cases doCommit
  · exact Prog.Triple.pure fun _ h => h
  · exact hrefresh

end Invariants

/-! ## AGE vertices -/

/-- The properties of an entity's vertex. -/
def vertexProps (entity : Entity) : PyDict :=
  [("id", .str (String.ofList (uuidText entity.id))),
    ("case_id", .str (String.ofList (uuidText entity.caseId))),
    ("label", .str entity.label),
    ("confidence", .float (py.repr entity.confidence)),
    ("attrs", if entity.attrs.truthy then entity.attrs else .dict [])]

/-- What the vertex of an entity is merged by. -/
def Entity.vertexKey (entity : Entity) : VertexKey := ⟨entity.type, entity.id⟩

/-- The statement of `upsert_vertex`. AGE stores what it reads from the encoded map. -/
def vertexMerge (entity : Entity) : Cypher :=
  .mergeVertex entity.vertexKey (storedProps py.str (vertexProps py entity))

/-- `upsert_vertex` -/
def upsertVertex (x : Ext) (entity : Entity) : Db O Unit := do
  if (EntityType.ofValue entity.type).isNone then
    throw Exc.valueError
  let _ ← Prog.ofExcept (encodeProps py.str (vertexProps py entity))
  write x.mirror (.cypher (vertexMerge py entity))

/-- `delete_vertex` -/
def deleteVertex (x : Ext) (entityId : UUID) : Db O Unit :=
  write x.mirror (.cypher (.detachDelete entityId))

/-! ## Fields of an update -/

/-- The loaded row after the `setattr` loop. A null label or confidence stays in the row here,
since the flush that follows refuses it. -/
def EntityUpdate.assign (data : EntityUpdate) (entity : Entity) : Entity :=
  { entity with
    label := (data.label.getD (some entity.label)).getD entity.label
    attrs := match data.attrs with
      | none => entity.attrs
      | some none => .none
      | some (some attrs) => .dict attrs
    confidence := (data.confidence.getD (some entity.confidence)).getD entity.confidence }

/-- The columns the flush sets: those whose new value differs from the loaded one. -/
def EntityUpdate.change (data : EntityUpdate) (entity : Entity) : EntityChange where
  label := data.label.filter fun label => label ≠ some entity.label
  attrs :=
    if (data.assign entity).attrs.eq py entity.attrs then none
    else some (data.assign entity).attrs
  confidence := data.confidence.filter fun confidence => confidence ≠ some entity.confidence

/-- `session.flush()` of an entity's changed columns: no column, no statement. -/
def flushChange (x : Ext) (entityId : UUID) (change : EntityChange) : Db O Unit :=
  if change.isEmpty then pure () else write x.flush (.updateEntity entityId change x.now)

namespace EntityRepository

/-- The row a new entity is flushed as. -/
def newEntity (x : Ext) (caseId : UUID) (createdBy : Option UUID) (data : EntityCreate) :
    Entity where
  id := x.newId
  caseId
  type := data.type.value
  label := data.label
  attrs := .dict data.attrs
  confidence := data.confidence
  createdBy
  createdAt := x.now
  updatedAt := x.now
  deletedAt := none

/-- `EntityRepository.create` -/
def create (x : Ext) (caseId : UUID) (createdBy : Option UUID) (data : EntityCreate)
    (doCommit : Bool) : Db O Entity := do
  let entity := newEntity x caseId createdBy data
  write x.flush (.insertEntity entity)
  rollingBack do
    upsertVertex py x entity
    commitIf doCommit x.commit
  refreshIf doCommit x.refresh
  pure entity

/-- `EntityRepository.get` -/
def get (x : Ext) (entityId caseId : UUID) : Db O (Option Entity) :=
  query x.lookup fun st =>
    st.entities.rows.find? fun e => e.id = entityId && e.caseId = caseId && e.live

/-- The rows `list_for_case` selects. An empty filter is no filter. -/
def inCase (st : Store) (caseId : UUID) (entityType : Option String) : List Entity :=
  st.entities.rows.filter fun e =>
    e.caseId = caseId && e.live && entityType.all fun t => t = "" || e.type = t

/-- `EntityRepository.list_for_case` -/
def listForCase (x : Ext) (order : NewestFirst Entity.createdAt) (caseId : UUID)
    (entityType : Option String) (limit offset : ℕ) : Db O (List Entity) :=
  query x.lookup fun st => order.page limit offset (inCase st caseId entityType)

/-- `EntityRepository.update` -/
def update (x : Ext) (entityId caseId : UUID) (data : EntityUpdate) : Db O (Option Entity) := do
  match ← get x entityId caseId with
  | none => pure none
  | some loaded =>
    let entity := data.assign loaded
    let change := data.change py loaded
    flushChange x entity.id change
    rollingBack do
      upsertVertex py x entity
      commit x.commit
    query x.refresh fun st => st.entities.find entity.id

/-- `entity.deleted_at = now` -/
def deletion (now : Time) : EntityChange := { deletedAt := some (some now) }

/-- `EntityRepository.soft_delete` -/
def softDelete (x : Ext) (entityId caseId : UUID) : Db O Bool := do
  match ← get x entityId caseId with
  | none => pure false
  | some entity =>
    write x.flush (.updateEntity entity.id (deletion x.now) x.now)
    rollingBack do
      deleteVertex x entity.id
      commit x.commit
    pure true

/-- `existing.confidence = confidence` -/
def confidenceChange (confidence : ℚ) : EntityChange := { confidence := some (some confidence) }

/-- The live rows with a dedup key. -/
def withKey (st : Store) (caseId : UUID) (type label : String) : List Entity :=
  st.entities.rows.filter fun e => e.caseId = caseId && e.type = type && e.label = label && e.live

/-- The lookup of `get_or_create`. -/
def findByKey (x : Ext) (caseId : UUID) (data : EntityCreate) : Db O (Option Entity) := do
  let rows ← query x.lookup fun st => withKey st caseId data.type.value data.label
  Prog.ofExcept (scalarOneOrNone rows)

/-- What `get_or_create` does with the row it found. -/
def getOrCreateFrom (x : Ext) (caseId : UUID) (createdBy : Option UUID) (data : EntityCreate)
    (doCommit : Bool) : Option Entity → Db O (Entity × Bool)
  | some existing => do
    if data.confidence > existing.confidence then
      let bumped := { existing with confidence := data.confidence }
      write x.flush (.updateEntity existing.id (confidenceChange data.confidence) x.now)
      rollingBack do
        upsertVertex py x bumped
        commitIf doCommit x.commit
      refreshIf doCommit x.refresh
      pure (bumped, false)
    else
      pure (existing, false)
  | none => do
    let entity ← create py x caseId createdBy data doCommit
    pure (entity, true)

/-- `EntityRepository.get_or_create` -/
def getOrCreate (x : Ext) (caseId : UUID) (createdBy : Option UUID) (data : EntityCreate)
    (doCommit : Bool) : Db O (Entity × Bool) := do
  let existing ← findByKey x caseId data
  getOrCreateFrom py x caseId createdBy data doCommit existing

end EntityRepository

end Sleuthgraph
