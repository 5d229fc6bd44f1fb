import Sleuthgraph.Entities.Repository

/-!
# `RelationshipRepository` (`relationships/repository.py`, `relationships/age.py`)

Rows are immutable after their creation, but for the soft delete. `create` asserts that both
endpoints are live entities of the case; the AGE edge is merged between the vertices of that
pair of ids.
-/

namespace Sleuthgraph

open Programs Transactions Tables Listings

/-- `EndpointNotInCaseError(...)` -/
def Exc.endpointNotInCase (caseId : UUID) : Exc where
  mro := ["EndpointNotInCaseError", "ValueError", "Exception"]
  text := "src/dst entities not found in case " ++ String.ofList (uuidText caseId)

variable {O : Type} (py : Interp)

/-! ## AGE edges -/

/-- The properties of a relationship's edge. -/
def edgeProps (rel : Relationship) : PyDict :=
  [("id", .str (String.ofList (uuidText rel.id))),
    ("case_id", .str (String.ofList (uuidText rel.caseId))),
    ("confidence", .float (py.repr rel.confidence)),
    ("source_plugin", rel.sourcePlugin.elim .none .str),
    ("attrs", .dict rel.attrs)]

/-- The statement of `upsert_edge`. -/
def edgeMerge (rel : Relationship) : Cypher :=
  .mergeEdge rel.relType rel.id rel.srcEntityId rel.dstEntityId
    (storedProps py.str (edgeProps py rel))

/-- `upsert_edge` -/
def upsertEdge (x : Ext) (rel : Relationship) : Db O Unit := do
  if (RelationshipType.ofValue rel.relType).isNone then
    throw Exc.valueError
  let _ ← Prog.ofExcept (encodeProps py.str (edgeProps py rel))
  write x.mirror (.cypher (edgeMerge py rel))

/-- `delete_edge` -/
def deleteEdge (x : Ext) (relId : UUID) : Db O Unit :=
  write x.mirror (.cypher (.deleteEdge relId))

namespace RelationshipRepository

/-- The ids `_assert_endpoints_in_case` selects. -/
def endpointsInCase (st : Store) (caseId src dst : UUID) : List UUID :=
  (st.entities.rows.filter fun e => e.caseId = caseId && (e.id = src || e.id = dst) && e.live).map
    Entity.id

/-- `_assert_endpoints_in_case` -/
def assertEndpointsInCase (x : Ext) (caseId src dst : UUID) : Db O Unit := do
  let rows ← query x.endpoints fun st => endpointsInCase st caseId src dst
  if !(rows.contains src && rows.contains dst) then
    throw (Exc.endpointNotInCase caseId)

/-- The row a new relationship is flushed as. -/
def newRelationship (x : Ext) (caseId : UUID) (createdBy : Option UUID)
    (data : RelationshipCreate) : Relationship where
  id := x.newId
  caseId
  srcEntityId := data.srcEntityId
  dstEntityId := data.dstEntityId
  relType := data.relType.value
  confidence := data.confidence
  sourcePlugin := data.sourcePlugin
  attrs := data.attrs
  createdBy
  createdAt := x.now
  deletedAt := none

/-- `RelationshipRepository.create` -/
def create (x : Ext) (caseId : UUID) (createdBy : Option UUID) (data : RelationshipCreate)
    (doCommit : Bool) : Db O Relationship := do
  assertEndpointsInCase x caseId data.srcEntityId data.dstEntityId
  let rel := newRelationship x caseId createdBy data
  write x.flush (.insertRelationship rel)
  rollingBack do
    upsertEdge py x rel
    commitIf doCommit x.commit
  refreshIf doCommit x.refresh
  pure rel

/-- The live rows with a dedup key. -/
def withKey (st : Store) (caseId src dst : UUID) (relType : String) : List Relationship :=
  st.relationships.rows.filter fun r =>
    r.caseId = caseId && r.srcEntityId = src && r.dstEntityId = dst && r.relType = relType && r.live

/-- The lookup of `create_if_not_exists`. -/
def findByKey (x : Ext) (caseId : UUID) (data : RelationshipCreate) :
    Db O (Option Relationship) := do
  let rows ← query x.lookup fun st =>
    withKey st caseId data.srcEntityId data.dstEntityId data.relType.value
  Prog.ofExcept (scalarOneOrNone rows)

/-- What `create_if_not_exists` does with the row it found. -/
def createIfNotExistsFrom (x : Ext) (caseId : UUID) (createdBy : Option UUID)
    (data : RelationshipCreate) (doCommit : Bool) :
    Option Relationship → Db O (Relationship × Bool)
  | some existing => pure (existing, false)
  | none => do
    let rel ← create py x caseId createdBy data doCommit
    pure (rel, true)

/-- `RelationshipRepository.create_if_not_exists` -/
def createIfNotExists (x : Ext) (caseId : UUID) (createdBy : Option UUID)
    (data : RelationshipCreate) (doCommit : Bool) : Db O (Relationship × Bool) := do
  let existing ← findByKey x caseId data
  createIfNotExistsFrom py x caseId createdBy data doCommit existing

/-- `RelationshipRepository.get` -/
def get (x : Ext) (relId caseId : UUID) : Db O (Option Relationship) :=
  query x.lookup fun st =>
    st.relationships.rows.find? fun r => r.id = relId && r.caseId = caseId && r.live

/-- The rows `list_for_case` selects. An empty text is no filter, and an id is always one. -/
def inCase (st : Store) (caseId : UUID) (relType : Option String) (src dst : Option UUID) :
    List Relationship :=
  st.relationships.rows.filter fun r =>
    r.caseId = caseId && r.live && (relType.all fun t => t = "" || r.relType = t)
      && (src.all fun id => r.srcEntityId = id) && dst.all fun id => r.dstEntityId = id

/-- `RelationshipRepository.list_for_case` -/
def listForCase (x : Ext) (order : NewestFirst Relationship.createdAt) (caseId : UUID)
    (relType : Option String) (src dst : Option UUID) (limit offset : ℕ) :
    Db O (List Relationship) :=
  query x.lookup fun st => order.page limit offset (inCase st caseId relType src dst)

/-- `RelationshipRepository.soft_delete` -/
def softDelete (x : Ext) (relId caseId : UUID) : Db O Bool := do
  match ← get x relId caseId with
  | none => pure false
  | some rel =>
    write x.flush (.retireRelationship rel.id x.now)
    rollingBack do
      deleteEdge x rel.id
      commit x.commit
    pure true

end RelationshipRepository

end Sleuthgraph
