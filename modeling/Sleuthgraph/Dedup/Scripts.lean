import Sleuthgraph.Graph.Moves
import Sleuthgraph.Lib.ReadCommitted

/-!
# The repository calls, statement by statement

Each call of the two repositories as a script, so that other sessions can act between two of its
statements; the lookups of the two dedup calls say for which key they look. `run_script` says
that the scripts run as the calls.
-/

namespace Sleuthgraph

open Programs Transactions Tables

/-- What the rows are deduplicated by. -/
inductive DedupKey where
  | entity (caseId : UUID) (type label : String)
  | relationship (caseId src dst : UUID) (relType : String)
deriving DecidableEq, Repr

/-- A call with its statements apart. -/
abbrev Statements (α : Type) := Script Store Write DedupKey Exc α

variable {O : Type} (py : Interp)

/-- `if commit: await session.commit()` -/
def commitIfScript (doCommit lost : Bool) : Statements Unit :=
  if doCommit then Script.commit lost else pure ()

/-- `if commit: await session.refresh(row)` -/
def refreshIfScript (doCommit lost : Bool) : Statements Unit :=
  if doCommit then Script.query lost fun _ => () else pure ()

/-- `upsert_vertex` -/
def upsertVertexScript (x : Ext) (entity : Entity) : Statements Unit := do
  if (EntityType.ofValue entity.type).isNone then
    throw Exc.valueError
  let _ ← Script.ret (encodeProps py.str (vertexProps py entity))
  Script.write x.mirror (.cypher (vertexMerge py entity))

/-- `upsert_edge` -/
def upsertEdgeScript (x : Ext) (rel : Relationship) : Statements Unit := do
  if (RelationshipType.ofValue rel.relType).isNone then
    throw Exc.valueError
  let _ ← Script.ret (encodeProps py.str (edgeProps py rel))
  Script.write x.mirror (.cypher (edgeMerge py rel))

/-- `session.flush()` of an entity's changed columns -/
def flushChangeScript (x : Ext) (entityId : UUID) (change : EntityChange) : Statements Unit :=
  if change.isEmpty then pure ()
  else Script.write x.flush (.updateEntity entityId change x.now)

namespace EntityRepository

def createScript (x : Ext) (caseId : UUID) (createdBy : Option UUID) (data : EntityCreate)
    (doCommit : Bool) : Statements Entity := do
  let entity := newEntity x caseId createdBy data
  Script.write x.flush (.insertEntity entity)
  Script.rollingBack do
    upsertVertexScript py x entity
    commitIfScript doCommit x.commit
  refreshIfScript doCommit x.refresh
  pure entity

def getScript (x : Ext) (entityId caseId : UUID) : Statements (Option Entity) :=
  Script.query x.lookup fun st =>
    st.entities.rows.find? fun e => e.id = entityId && e.caseId = caseId && e.live

def updateScript (x : Ext) (entityId caseId : UUID) (data : EntityUpdate) :
    Statements (Option Entity) := do
  match ← getScript x entityId caseId with
  | none => pure none
  | some loaded =>
    let entity := data.assign loaded
    let change := data.change py loaded
    flushChangeScript x entity.id change
    Script.rollingBack do
      upsertVertexScript py x entity
      Script.commit x.commit
    Script.query x.refresh fun st => st.entities.find entity.id

def softDeleteScript (x : Ext) (entityId caseId : UUID) : Statements Bool := do
  match ← getScript x entityId caseId with
  | none => pure false
  | some entity =>
    Script.write x.flush (.updateEntity entity.id (deletion x.now) x.now)
    Script.rollingBack do
      Script.write x.mirror (.cypher (.detachDelete entity.id))
      Script.commit x.commit
    pure true

def findByKeyScript (x : Ext) (caseId : UUID) (data : EntityCreate) :
    Statements (Option Entity) := do
  let rows ← Script.seek x.lookup (.entity caseId data.type.value data.label) fun st =>
    withKey st caseId data.type.value data.label
  Script.ret (scalarOneOrNone rows)

def getOrCreateScript (x : Ext) (caseId : UUID) (createdBy : Option UUID) (data : EntityCreate)
    (doCommit : Bool) : Statements (Entity × Bool) := do
  match ← findByKeyScript x caseId data with
  | some existing => do
    if data.confidence > existing.confidence then
      let bumped := { existing with confidence := data.confidence }
      Script.write x.flush (.updateEntity existing.id (confidenceChange data.confidence) x.now)
      Script.rollingBack do
        upsertVertexScript py x bumped
        commitIfScript doCommit x.commit
      refreshIfScript doCommit x.refresh
      pure (bumped, false)
    else
      pure (existing, false)
  | none => do
    let entity ← createScript py x caseId createdBy data doCommit
    pure (entity, true)

end EntityRepository

namespace RelationshipRepository

def assertEndpointsInCaseScript (x : Ext) (caseId src dst : UUID) : Statements Unit := do
  let rows ← Script.query x.endpoints fun st => endpointsInCase st caseId src dst
  if !(rows.contains src && rows.contains dst) then
    throw (Exc.endpointNotInCase caseId)

def createScript (x : Ext) (caseId : UUID) (createdBy : Option UUID) (data : RelationshipCreate)
    (doCommit : Bool) : Statements Relationship := do
  assertEndpointsInCaseScript x caseId data.srcEntityId data.dstEntityId
  let rel := newRelationship x caseId createdBy data
  Script.write x.flush (.insertRelationship rel)
  Script.rollingBack do
    upsertEdgeScript py x rel
    commitIfScript doCommit x.commit
  refreshIfScript doCommit x.refresh
  pure rel

def findByKeyScript (x : Ext) (caseId : UUID) (data : RelationshipCreate) :
    Statements (Option Relationship) := do
  let rows ← Script.seek x.lookup
    (.relationship caseId data.srcEntityId data.dstEntityId data.relType.value) fun st =>
      withKey st caseId data.srcEntityId data.dstEntityId data.relType.value
  Script.ret (scalarOneOrNone rows)

def createIfNotExistsScript (x : Ext) (caseId : UUID) (createdBy : Option UUID)
    (data : RelationshipCreate) (doCommit : Bool) : Statements (Relationship × Bool) := do
  match ← findByKeyScript x caseId data with
  | some existing => pure (existing, false)
  | none => do
    let rel ← createScript py x caseId createdBy data doCommit
    pure (rel, true)

def softDeleteScript (x : Ext) (relId caseId : UUID) : Statements Bool := do
  let found ← Script.query x.lookup fun st =>
    st.relationships.rows.find? fun r => r.id = relId && r.caseId = caseId && r.live
  match found with
  | none => pure false
  | some rel =>
    Script.write x.flush (.retireRelationship rel.id x.now)
    Script.rollingBack do
      Script.write x.mirror (.cypher (.deleteEdge rel.id))
      Script.commit x.commit
    pure true

end RelationshipRepository

/-- A call, or the end of a transaction by its caller. -/
def Step.script : Step → Statements Unit
  | .call (.createEntity caseId createdBy data doCommit) x => do
    let _ ← EntityRepository.createScript py x caseId createdBy data doCommit
  | .call (.updateEntity entityId caseId data) x => do
    let _ ← EntityRepository.updateScript py x entityId caseId data
  | .call (.softDeleteEntity entityId caseId) x => do
    let _ ← EntityRepository.softDeleteScript x entityId caseId
  | .call (.getOrCreate caseId createdBy data doCommit) x => do
    let _ ← EntityRepository.getOrCreateScript py x caseId createdBy data doCommit
  | .call (.createRelationship caseId createdBy data doCommit) x => do
    let _ ← RelationshipRepository.createScript py x caseId createdBy data doCommit
  | .call (.createIfNotExists caseId createdBy data doCommit) x => do
    let _ ← RelationshipRepository.createIfNotExistsScript py x caseId createdBy data doCommit
  | .call (.softDeleteRelationship relId caseId) x => do
    let _ ← RelationshipRepository.softDeleteScript x relId caseId
  | .commit lost => Script.commit lost
  | .rollback => Script.rollback

/-! ## The scripts run as the calls -/

@[simp] lemma run_commitIfScript (doCommit lost : Bool) :
    ((commitIfScript doCommit lost).run : Db O Unit) = commitIf doCommit lost := by
  cases doCommit
  · rfl
  · exact Script.run_commit lost

@[simp] lemma run_refreshIfScript (doCommit lost : Bool) :
    ((refreshIfScript doCommit lost).run : Db O Unit) = refreshIf doCommit lost := by
  cases doCommit
  · rfl
  · exact Script.run_query lost _

@[simp] lemma run_upsertVertexScript (x : Ext) (entity : Entity) :
    ((upsertVertexScript py x entity).run : Db O Unit) = upsertVertex py x entity := by
  unfold upsertVertexScript upsertVertex
  split
  · rfl
  · simp only [Script.run_bind, Script.run_ret, Script.run_write]

@[simp] lemma run_upsertEdgeScript (x : Ext) (rel : Relationship) :
    ((upsertEdgeScript py x rel).run : Db O Unit) = upsertEdge py x rel := by
  unfold upsertEdgeScript upsertEdge
  split
  · rfl
  · simp only [Script.run_bind, Script.run_ret, Script.run_write]

@[simp] lemma run_flushChangeScript (x : Ext) (entityId : UUID) (change : EntityChange) :
    ((flushChangeScript x entityId change).run : Db O Unit) = flushChange x entityId change := by
  unfold flushChangeScript flushChange
  split
  · rfl
  · exact Script.run_write _ _

namespace EntityRepository

@[simp] lemma run_createScript (x : Ext) (caseId : UUID) (createdBy : Option UUID)
    (data : EntityCreate) (doCommit : Bool) :
    ((createScript py x caseId createdBy data doCommit).run : Db O Entity)
      = create py x caseId createdBy data doCommit := by
  simp [createScript, create, Script.run_bind]

@[simp] lemma run_getScript (x : Ext) (entityId caseId : UUID) :
    ((getScript x entityId caseId).run : Db O (Option Entity)) = get x entityId caseId :=
  Script.run_query _ _

@[simp] lemma run_updateScript (x : Ext) (entityId caseId : UUID) (data : EntityUpdate) :
    ((updateScript py x entityId caseId data).run : Db O (Option Entity))
      = update py x entityId caseId data := by
  unfold updateScript update
  rw [Script.run_bind, run_getScript]
  refine congrArg _ (funext fun found => ?_)
  cases found with
  | none => rfl
  | some loaded => simp [Script.run_bind]

@[simp] lemma run_softDeleteScript (x : Ext) (entityId caseId : UUID) :
    ((softDeleteScript x entityId caseId).run : Db O Bool) = softDelete x entityId caseId := by
  unfold softDeleteScript softDelete
  rw [Script.run_bind, run_getScript]
  refine congrArg _ (funext fun found => ?_)
  cases found with
  | none => rfl
  | some loaded => simp [Script.run_bind, deleteVertex]

@[simp] lemma run_findByKeyScript (x : Ext) (caseId : UUID) (data : EntityCreate) :
    ((findByKeyScript x caseId data).run : Db O (Option Entity)) = findByKey x caseId data := by
  simp [findByKeyScript, findByKey, Script.run_bind]

@[simp] lemma run_getOrCreateScript (x : Ext) (caseId : UUID) (createdBy : Option UUID)
    (data : EntityCreate) (doCommit : Bool) :
    ((getOrCreateScript py x caseId createdBy data doCommit).run : Db O (Entity × Bool))
      = getOrCreate py x caseId createdBy data doCommit := by
  unfold getOrCreateScript getOrCreate
  rw [Script.run_bind, run_findByKeyScript]
  refine congrArg _ (funext fun found => ?_)
  cases found with
  | none => simp [getOrCreateFrom, Script.run_bind]
  | some existing =>
    dsimp only [getOrCreateFrom]
    split
    · simp [Script.run_bind]
    · rfl

end EntityRepository

namespace RelationshipRepository

@[simp] lemma run_assertEndpointsInCaseScript (x : Ext) (caseId src dst : UUID) :
    ((assertEndpointsInCaseScript x caseId src dst).run : Db O Unit)
      = assertEndpointsInCase x caseId src dst := by
  unfold assertEndpointsInCaseScript assertEndpointsInCase
  rw [Script.run_bind, Script.run_query]
  refine congrArg _ (funext fun rows => ?_)
  split <;> rfl

@[simp] lemma run_createScript (x : Ext) (caseId : UUID) (createdBy : Option UUID)
    (data : RelationshipCreate) (doCommit : Bool) :
    ((createScript py x caseId createdBy data doCommit).run : Db O Relationship)
      = create py x caseId createdBy data doCommit := by
  simp [createScript, create, Script.run_bind]

@[simp] lemma run_findByKeyScript (x : Ext) (caseId : UUID) (data : RelationshipCreate) :
    ((findByKeyScript x caseId data).run : Db O (Option Relationship))
      = findByKey x caseId data := by
  simp [findByKeyScript, findByKey, Script.run_bind]

@[simp] lemma run_createIfNotExistsScript (x : Ext) (caseId : UUID) (createdBy : Option UUID)
    (data : RelationshipCreate) (doCommit : Bool) :
    ((createIfNotExistsScript py x caseId createdBy data doCommit).run
        : Db O (Relationship × Bool))
      = createIfNotExists py x caseId createdBy data doCommit := by
  unfold createIfNotExistsScript createIfNotExists
  rw [Script.run_bind, run_findByKeyScript]
  refine congrArg _ (funext fun found => ?_)
  cases found with
  | none => simp [createIfNotExistsFrom, Script.run_bind]
  | some existing => rfl

@[simp] lemma run_softDeleteScript (x : Ext) (relId caseId : UUID) :
    ((softDeleteScript x relId caseId).run : Db O Bool) = softDelete x relId caseId := by
  unfold softDeleteScript softDelete
  rw [Script.run_bind, Script.run_query]
  refine congrArg _ (funext fun found => ?_)
  cases found with
  | none => rfl
  | some rel => simp [Script.run_bind, deleteEdge]

end RelationshipRepository

/-- **The scripts are the calls**, with their statements apart. -/
theorem Step.run_script (step : Step) : ((step.script py).run : Db O Unit) = step.prog py := by
  cases step with
  | call c x => cases c <;> simp [Step.script, Step.prog, Call.run, Script.run_bind]
  | commit lost => exact Script.run_commit lost
  | rollback => rfl

end Sleuthgraph
