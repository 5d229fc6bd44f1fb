import Sleuthgraph.Lib.Hurdles
import Sleuthgraph.Plugins.MergeTheorems

/-!
# What may stop the work of a run

The hurdles of `_resolve_credentials`, of the query and of `_persist`, told from what a run is
given: its request, what the plugin answers, the store and the bucket before it, and the
statements that do not get through. A proposal meets the rows that those before it have added,
and a relationship the entities that its refs lead to; the earlier proposals of a loop are given
latest first.
-/

namespace Sleuthgraph

open Programs Transactions Tables Hurdle

variable (py : Interp) (x : RunExt) (req : RunRequest)

/-! ## Entities -/

/-- The live rows of a case with a dedup key. -/
def rowsWithKey (rows : List Entity) (caseId : UUID) (k : String × String) : List Entity :=
  rows.filter fun e => e.caseId = caseId && e.type = k.1 && e.label = k.2 && e.live

/-- The row that a proposal is flushed as. -/
def EntityProposal.row (ep : EntityProposal) (x : Ext) : Entity where
  id := x.newId
  caseId := req.caseId
  type := ep.type.value
  label := ep.label
  attrs := .dict ep.attrs
  confidence := ep.confidence
  createdBy := req.createdBy
  createdAt := x.now
  updatedAt := x.now
  deletedAt := none

/-- The entities after proposals: a key that has no row gets one. Confidences are those of the
first. -/
def rowsAfter (rows : List Entity) : List EntityProposal → List Entity
  | [] => rows
  | ep :: earlier =>
    let known := rowsAfter rows earlier
    if (rowsWithKey known req.caseId ep.key).isEmpty then
      known ++ [ep.row req (x.entity earlier.length)]
    else known

/-- The rows of the key of a proposal that it finds. -/
def EntityProposal.found (ep : EntityProposal) (rows : List Entity)
    (earlier : List EntityProposal) : List Entity :=
  rowsWithKey (rowsAfter x req rows earlier) req.caseId ep.key

/-- The row that a proposal stands for: the one it finds, or a new one. -/
def EntityProposal.target (ep : EntityProposal) (rows : List Entity)
    (earlier : List EntityProposal) : Entity :=
  (ep.found x req rows earlier).headD (ep.row req (x.entity earlier.length))

/-- The entities that refs lead to after proposals. -/
def refsAfter (rows : List Entity) : List EntityProposal → PluginRunner.Refs
  | [] => []
  | ep :: earlier => (ep.ref, ep.target x req rows earlier) :: refsAfter rows earlier

/-- A proposal is more confident than the row of its key, and than those before it with the
key. -/
def EntityProposal.raises (ep : EntityProposal) (rows : List Entity)
    (earlier : List EntityProposal) : Bool :=
  ((rowsWithKey rows req.caseId ep.key).all fun e => e.confidence < ep.confidence)
    && earlier.all fun ep' => ep'.key ≠ ep.key || ep'.confidence < ep.confidence

/-- What may stop the flush of an entity and its vertex, where a proposal adds or raises a row. -/
def EntityProposal.saving (ep : EntityProposal) (st : Store) (earlier : List EntityProposal) :
    List Hurdle :=
  let ext := x.entity earlier.length
  let entity := ep.target x req st.entities.rows earlier
  if (ep.found x req st.entities.rows earlier).isEmpty then
    [.statement (!ext.flush && (st.accepts (.insertEntity entity)
        && (rowsAfter x req st.entities.rows earlier).all fun e => e.id ≠ entity.id)),
      .saved (!ext.mirror && (vertexOp py entity).isOk)]
  else if ep.raises req st.entities.rows earlier then
    [.statement (!ext.flush), .saved (!ext.mirror && (vertexOp py entity).isOk)]
  else []

/-- What may stop an entity proposal: its fields, the lookup, two rows of its key, and what it
saves. -/
def EntityProposal.hurdles (st : Store) (earlier : List EntityProposal) (ep : EntityProposal) :
    List Hurdle :=
  .check (EntityCreate.validate ep.type.value ep.label ep.attrs ep.confidence).isOk
    :: .statement (!(x.entity earlier.length).lookup)
    :: .check ((ep.found x req st.entities.rows earlier).length ≤ 1)
    :: ep.saving py x req st earlier

/-! ## Relationships -/

/-- The live rows of a case with the dedup key of a relationship. -/
def relationshipsWithKey (rows : List Relationship) (caseId : UUID) (data : RelationshipCreate) :
    List Relationship :=
  rows.filter fun r => r.caseId = caseId && r.srcEntityId = data.srcEntityId
    && r.dstEntityId = data.dstEntityId && r.relType = data.relType.value && r.live

variable (plugin : OSINTPlugin)

/-- The relationship that a proposal asks for, if its refs are known and its fields are valid. -/
def RelationshipProposal.wanted (refs : PluginRunner.Refs) (rp : RelationshipProposal) :
    Except Exc RelationshipCreate := do
  let src ← PluginRunner.resolveRef rp.src req.inputEntity refs
  let dst ← PluginRunner.resolveRef rp.dst req.inputEntity refs
  RelationshipCreate.validate src.id dst.id rp.relType.value rp.confidence (some plugin.fullName)
    rp.attrs

/-- The relationships after proposals: a key that has no row gets one. -/
def relationshipsAfter (refs : PluginRunner.Refs) (rows : List Relationship) :
    List RelationshipProposal → List Relationship
  | [] => rows
  | rp :: earlier =>
    let known := relationshipsAfter refs rows earlier
    match rp.wanted req plugin refs with
    | .error _ => known
    | .ok data =>
      if (relationshipsWithKey known req.caseId data).isEmpty then
        known ++ [RelationshipRepository.newRelationship (x.relationship earlier.length)
          req.caseId req.createdBy data]
      else known

/-- A live entity of the case has the id. -/
def isEndpoint (entities : List Entity) (id : UUID) : Bool :=
  entities.any fun e => e.caseId = req.caseId && e.id = id && e.live

/-- What may stop the flush of a relationship and its edge, where a proposal adds a row. -/
def RelationshipCreate.saving (data : RelationshipCreate) (st : Store) (entities : List Entity)
    (known : List Relationship) (ext : Ext) : List Hurdle :=
  let rel := RelationshipRepository.newRelationship ext req.caseId req.createdBy data
  if (relationshipsWithKey known req.caseId data).isEmpty then
    [.statement (!ext.endpoints),
      .check (isEndpoint req entities data.srcEntityId
        && isEndpoint req entities data.dstEntityId),
      .statement (!ext.flush && (st.accepts (.insertRelationship rel)
        && known.all fun r => r.id ≠ rel.id)),
      .saved (!ext.mirror && (edgeOp py rel).isOk)]
  else []

/-- What may stop a relationship proposal: a ref or its fields, the lookup, two rows of its key,
and what it saves. -/
def RelationshipProposal.hurdles (st : Store) (entities : List Entity) (refs : PluginRunner.Refs)
    (earlier : List RelationshipProposal) (rp : RelationshipProposal) : List Hurdle :=
  match rp.wanted req plugin refs with
  | .error _ => [.check false]
  | .ok data =>
    let known := relationshipsAfter x req plugin refs st.relationships.rows earlier
    .statement (!(x.relationship earlier.length).lookup)
      :: .check ((relationshipsWithKey known req.caseId data).length ≤ 1)
      :: data.saving py req st entities known (x.relationship earlier.length)

/-! ## Evidence -/

/-- The evidence that a proposal asks for, if its fields are valid. -/
def EvidenceProposal.wanted (evp : EvidenceProposal) : Except Exc EvidenceCreate :=
  EvidenceCreate.validate (if evp.linkToInput then some req.inputEntity.id else none)
    plugin.fullName evp.query evp.reproducibilitySpec

/-- The size of the object at a key. -/
def blobSize (b : Bucket) (key : String) : Option ℕ :=
  (b.lookup key).map fun blob => blob.body.length

/-- The size of the object at a key, after payloads have been uploaded. -/
def sizeAfter (b : Bucket) (earlier : List EvidenceProposal) (key : String) : Option ℕ :=
  match earlier.find? fun evp => buildKey req.caseId (hashBytes evp.payload) = key with
  | some evp => some evp.payload.length
  | none => blobSize b key

/-- What may stop the flush of a row of the ledger and its upload. -/
def EvidenceProposal.saving (evp : EvidenceProposal) (data : EvidenceCreate) (st : Store)
    (b : Bucket) (entities : List Entity) (earlier : List EvidenceProposal) : List Hurdle :=
  let ext := x.evidence earlier.length
  let blob := x.blob earlier.length
  let ev := EvidenceRepository.newEvidence ext req.caseId req.createdBy data evp.payload
    evp.contentType
  [.statement (!ext.flush && (st.accepts (.insertEvidence { ev with entityId := none })
      && ((List.range earlier.length).all fun j => (x.evidence j).newId ≠ ev.id)
      && ev.entityId.all fun id => entities.any fun e => e.id = id)),
    .saved (!blob.head
      && (!blob.put || sizeAfter req b earlier ev.responseUri = some evp.payload.length))]

/-- What may stop an evidence proposal: its fields, and what it saves. -/
def EvidenceProposal.hurdles (st : Store) (b : Bucket) (entities : List Entity)
    (earlier : List EvidenceProposal) (evp : EvidenceProposal) : List Hurdle :=
  match evp.wanted req plugin with
  | .error _ => [.check false]
  | .ok data => evp.saving x req data st b entities earlier

/-! ## The work -/

/-- What may stop `_persist` on a result. -/
def QueryResult.hurdles (st : Store) (b : Bucket) (result : QueryResult) : List Hurdle :=
  let entities := rowsAfter x req st.entities.rows result.entities.reverse
  let refs := refsAfter x req st.entities.rows result.entities.reverse
  along (EntityProposal.hurdles py x req st) [] result.entities
    ++ (along (RelationshipProposal.hurdles py x req plugin st entities refs) []
        result.relationships
      ++ along (EvidenceProposal.hurdles x req plugin st b entities) [] result.evidence)

/-- The user whose key `_resolve_credentials` asks the vault for. -/
def vaultUser : Option UUID :=
  if plugin.requiresCredentials && req.credentials.isNone then req.createdBy else none

/-- The key that the vault has for a user. -/
def vaultKey (user : UUID) : Option String := (req.vault user plugin.name).toOption.join

/-- The credentials that the plugin is given. -/
def givenCredentials : Option PyDict :=
  match vaultUser req plugin with
  | some user => (vaultKey req plugin user).map fun key => [("api_key", .str key)]
  | none => req.credentials

/-- What the plugin answers, within the cap. -/
def pluginAnswer : Except Exc QueryResult :=
  PluginRunner.queryPlugin req plugin (givenCredentials req plugin)

/-- What may stop the credentials: the lookup, or no key that can be read. -/
def credentialsHurdles : List Hurdle :=
  match vaultUser req plugin with
  | some user => [.statement (!x.credential), .check (vaultKey req plugin user).isSome]
  | none => []

/-- What may stop the work of a run. -/
def workHurdles (st : Store) (b : Bucket) : List Hurdle :=
  credentialsHurdles x req plugin ++
    match pluginAnswer req plugin with
    | .error _ => [.check false]
    | .ok result => result.hurdles py x req plugin st b

end Sleuthgraph
