import Sleuthgraph.Cases.Repository
import Sleuthgraph.Plugins.Dispatch

/-!
# The case-scoped routes (`*/router.py`, `evidence/export.py`)

One function for each endpoint, under the name it has in its router. A route of a case first checks
that the case is a live one of the user; the check reads the table of cases, which no such route
writes, so it is a constant of the request here. What a response is made of are rows that the read
schemas accept.
-/

namespace Sleuthgraph

open Programs Transactions Tables Listings

/-! ## Requests and answers -/

/-- What the application is configured with. -/
structure App where
  registry : PluginRegistry
  enterprise : Bool
  vault : UUID → String → Except Exc (Option String)
  evidenceMaxUploadBytes : ℕ

/-- What one request meets outside its own code. `x` and `y` are met by its first and its second
call of a repository. -/
structure Env where
  ownership : Bool := false
  x : Ext
  y : Ext
  put : PutExt := {}
  run : RunExt
  dispatch : DispatchExt
  cases : NewestFirst Case.createdAt := default
  entities : NewestFirst Entity.createdAt := default
  relationships : NewestFirst Relationship.createdAt := default
  evidence : NewestFirst Evidence.timestamp := default
  runs : NewestFirst PluginRun.startedAt := default
  presign : String → Except Exc String
  unreadable : Bool := false
  finish : Bool := false

/-- The requests of `cases/router.py`. -/
inductive CaseRequest where
  | create (data : CaseCreate)
  | list (status : Option String) (limit offset : ℕ)
  | get (caseId : UUID)
  | update (caseId : UUID) (data : CaseUpdate)
  | delete (caseId : UUID)

/-- The requests below `/cases/{case_id}`. The metadata of an upload are what pydantic makes of
them, or its complaint. -/
inductive CaseRoute where
  | createEntity (data : EntityCreate)
  | listEntities (type : Option String) (limit offset : ℕ)
  | getEntity (entityId : UUID)
  | updateEntity (entityId : UUID) (data : EntityUpdate)
  | deleteEntity (entityId : UUID)
  | createRelationship (data : RelationshipCreate)
  | listRelationships (relType : Option String) (src dst : Option UUID) (limit offset : ℕ)
  | getRelationship (relId : UUID)
  | deleteRelationship (relId : UUID)
  | createEvidence (metadata : Except String EvidenceCreate) (file : Bytes)
      (contentType : Option String)
  | listEvidence (entityId : Option UUID) (sourcePlugin : Option String) (limit offset : ℕ)
  | getEvidence (evId : UUID)
  | getEvidenceBlob (evId : UUID)
  | verifyEvidenceHash (evId : UUID)
  | exportEvidenceLedger (csv : Bool)
  | getGraph
  | runPlugin (pluginName : String) (inputEntityId : UUID)
  | listRuns (status pluginName : Option String) (limit offset : ℕ)
  | getRun (runId : UUID)

/-- `GraphVertex` -/
structure GraphVertex where
  id : UUID
  type : String
  label : String
  confidence : ℚ
  attrs : PyDict
deriving DecidableEq

/-- `GraphEdge` -/
structure GraphEdge where
  id : UUID
  source : UUID
  target : UUID
  relType : String
  confidence : ℚ
  sourcePlugin : Option String
  attrs : PyDict
deriving DecidableEq

/-- `GraphDump` -/
structure GraphDump where
  vertices : List GraphVertex
  edges : List GraphEdge
  truncated : Bool
deriving DecidableEq

/-- The responses of the routes. A ledger is printed as JSON, or as CSV with nine of the columns
of its rows. -/
inductive Answer where
  | case (status : ℕ) (c : Case)
  | cases (items : List Case)
  | noContent
  | entity (status : ℕ) (e : Entity)
  | entities (items : List Entity)
  | relationship (status : ℕ) (r : Relationship)
  | relationships (items : List Relationship)
  | evidence (status : ℕ) (ev : Evidence)
  | evidenceList (items : List Evidence) (total limit offset : ℕ)
  | redirect (url : String)
  | verified (expected actual : String)
  | ledger (caseId : UUID) (csv : Bool) (exportedAt : Time) (items : List Evidence)
  | graph (dump : GraphDump)
  | pluginRun (status : ℕ) (run : PluginRun) (entities : List Entity)
      (relationships : List Relationship) (evidence : List Evidence)
  | runs (items : List PluginRun) (total limit offset : ℕ)
  | run (run : PluginRun)
deriving DecidableEq

variable (py : Interp) (app : App) (env : Env) (user : UUID)

/-- `HTTPException(status_code=404, detail="not found")` -/
def Exc.notFound : Exc := Exc.http 404 "not found"

/-- The row, or a 404. -/
def found {σ α : Type} : Option α → Prog σ Exc α
  | some row => pure row
  | none => throw Exc.notFound

/-- A deletion, or a 404. -/
def deleted {σ : Type} (ok : Bool) : Prog σ Exc Answer :=
  if !ok then throw Exc.notFound else pure .noContent

/-! ## `cases/router.py` -/

namespace CasesRouter

/-- `create_case` -/
def createCase (data : CaseCreate) : CaseDb Answer := do
  let c ← CaseRepository.create env.x user data
  return .case 201 (← Prog.ofExcept (CaseRead.validate c))

/-- `list_cases` -/
def listCases (status : Option String) (limit offset : ℕ) : CaseDb Answer := do
  let items ← CaseRepository.listForOwner env.x env.cases user status limit offset
  return .cases (← Prog.ofExcept (items.mapM CaseRead.validate))

/-- `get_case` -/
def getCase (caseId : UUID) : CaseDb Answer := do
  let c ← found (← CaseRepository.get env.x caseId user)
  return .case 200 (← Prog.ofExcept (CaseRead.validate c))

/-- `update_case` -/
def updateCase (caseId : UUID) (data : CaseUpdate) : CaseDb Answer := do
  let c ← found (← CaseRepository.update py env.x caseId user data)
  return .case 200 (← Prog.ofExcept (CaseRead.validate c))

/-- `delete_case` -/
def deleteCase (caseId : UUID) : CaseDb Answer := do
  deleted (← CaseRepository.softDelete env.x caseId user)

end CasesRouter

/-- The endpoint of a request. -/
def CaseRequest.endpoint : CaseRequest → CaseDb Answer
  | .create data => CasesRouter.createCase env user data
  | .list status limit offset => CasesRouter.listCases env user status limit offset
  | .get caseId => CasesRouter.getCase env user caseId
  | .update caseId data => CasesRouter.updateCase py env user caseId data
  | .delete caseId => CasesRouter.deleteCase env user caseId

/-- `_verify_case_ownership` -/
def verifyCaseOwnership (cases : Table Case) (caseId : UUID) : Db Bucket Unit := do
  query env.ownership fun _ => ()
  let _ ← found (CaseRepository.owned cases caseId user)

/-! ## `entities/router.py` -/

namespace EntitiesRouter

variable (caseId : UUID)

/-- `create_entity` -/
def createEntity (data : EntityCreate) : Db Bucket Answer := do
  let entity ← EntityRepository.create py env.x caseId (some user) data true
  return .entity 201 (← Prog.ofExcept (EntityRead.validate entity))

/-- `list_entities` -/
def listEntities (type : Option String) (limit offset : ℕ) : Db Bucket Answer := do
  let items ← EntityRepository.listForCase env.x env.entities caseId type limit offset
  return .entities (← Prog.ofExcept (items.mapM EntityRead.validate))

/-- `get_entity` -/
def getEntity (entityId : UUID) : Db Bucket Answer := do
  let entity ← found (← EntityRepository.get env.x entityId caseId)
  return .entity 200 (← Prog.ofExcept (EntityRead.validate entity))

/-- `update_entity` -/
def updateEntity (entityId : UUID) (data : EntityUpdate) : Db Bucket Answer := do
  let entity ← found (← EntityRepository.update py env.x entityId caseId data)
  return .entity 200 (← Prog.ofExcept (EntityRead.validate entity))

/-- `delete_entity` -/
def deleteEntity (entityId : UUID) : Db Bucket Answer := do
  deleted (← EntityRepository.softDelete env.x entityId caseId)

end EntitiesRouter

/-! ## `relationships/router.py` -/

namespace RelationshipsRouter

variable (caseId : UUID)

/-- `create_relationship`. An endpoint outside the case is the only error with a text of its
own. -/
def createRelationship (data : RelationshipCreate) : Db Bucket Answer := do
  let rel ← tryCatch (RelationshipRepository.create py env.x caseId (some user) data true)
    fun e => throw (if e.isinstance "EndpointNotInCaseError" then Exc.http 400 e.text else e)
  return .relationship 201 (← Prog.ofExcept (RelationshipRead.validate rel))

/-- `list_relationships` -/
def listRelationships (relType : Option String) (src dst : Option UUID) (limit offset : ℕ) :
    Db Bucket Answer := do
  let items ←
    RelationshipRepository.listForCase env.x env.relationships caseId relType src dst limit offset
  return .relationships (← Prog.ofExcept (items.mapM RelationshipRead.validate))

/-- `get_relationship` -/
def getRelationship (relId : UUID) : Db Bucket Answer := do
  let rel ← found (← RelationshipRepository.get env.x relId caseId)
  return .relationship 200 (← Prog.ofExcept (RelationshipRead.validate rel))

/-- `delete_relationship` -/
def deleteRelationship (relId : UUID) : Db Bucket Answer := do
  deleted (← RelationshipRepository.softDelete env.x relId caseId)

end RelationshipsRouter

/-! ## `evidence/router.py` and `evidence/export.py` -/

namespace EvidenceRouter

variable (caseId : UUID)

/-- `create_evidence` -/
def createEvidence (metadata : Except String EvidenceCreate) (file : Bytes)
    (contentType : Option String) : Db Bucket Answer :=
  match metadata with
  | .error e => throw (Exc.http 422 ("invalid metadata: " ++ e))
  | .ok data =>
    if app.evidenceMaxUploadBytes < file.length then
      throw (Exc.http 413
        ("evidence payload exceeds " ++ toString app.evidenceMaxUploadBytes ++ " bytes"))
    else do
      let ev ← EvidenceRepository.create env.x env.put caseId (some user) data file contentType true
      return .evidence 201 ev

/-- `list_evidence` -/
def listEvidence (entityId : Option UUID) (sourcePlugin : Option String) (limit offset : ℕ) :
    Db Bucket Answer := do
  let (items, total) ←
    EvidenceRepository.listForCase env.x env.evidence caseId entityId sourcePlugin limit offset
  return .evidenceList items total limit offset

/-- `get_evidence` -/
def getEvidence (evId : UUID) : Db Bucket Answer := do
  return .evidence 200 (← found (← EvidenceRepository.get env.x evId caseId))

/-- `get_evidence_blob` -/
def getEvidenceBlob (evId : UUID) : Db Bucket Answer := do
  let ev ← found (← EvidenceRepository.get env.x evId caseId)
  return .redirect (← Prog.ofExcept (env.presign ev.responseUri))

/-- `verify_evidence_hash` -/
def verifyEvidenceHash (evId : UUID) : Db Bucket Answer := do
  let ev ← found (← EvidenceRepository.get env.x evId caseId)
  let blob ← external fun b =>
    (if env.unreadable then .error Exc.clientError else EvidenceStorage.get ev.responseUri b, b)
  return .verified ev.responseHash (hashBytes blob)

/-- `export_evidence_ledger` -/
def exportEvidenceLedger (csv : Bool) : Db Bucket Answer := do
  let (items, _) ←
    EvidenceRepository.listForCase env.x env.evidence caseId none none 100000 0
  return .ledger caseId csv env.x.now items

end EvidenceRouter

/-! ## `graph/router.py` -/

namespace GraphRouter

/-- `_GRAPH_LIMIT` -/
def graphLimit : ℕ := 10000

/-- `GraphVertex(...)`; null attributes become the empty dict. -/
def graphVertex (e : Entity) : Except Exc GraphVertex :=
  match if e.attrs.truthy then e.attrs else .dict [] with
  | .dict attrs => .ok ⟨e.id, e.type, e.label, e.confidence, attrs⟩
  | _ => .error Exc.validationError

/-- `GraphEdge(...)` -/
def graphEdge (r : Relationship) : GraphEdge :=
  ⟨r.id, r.srcEntityId, r.dstEntityId, r.relType, r.confidence, r.sourcePlugin, r.attrs⟩

/-- The dump of what the two queries have answered. -/
def dump (entities : List Entity) (rels : List Relationship) : Except Exc GraphDump := do
  let truncated := decide (graphLimit < entities.length) || decide (graphLimit < rels.length)
  let vertices ← (entities.take graphLimit).mapM graphVertex
  return ⟨vertices, (rels.take graphLimit).map graphEdge, truncated⟩

/-- `get_graph` -/
def getGraph (caseId : UUID) : Db Bucket Answer := do
  let entities ←
    EntityRepository.listForCase env.x env.entities caseId none (graphLimit + 1) 0
  let rels ← RelationshipRepository.listForCase env.y env.relationships caseId none none none
    (graphLimit + 1) 0
  return .graph (← Prog.ofExcept (dump entities rels))

end GraphRouter

/-! ## `plugins/router.py` and `plugins/repository.py` -/

namespace PluginRunRepository

/-- `PluginRunRepository.get` -/
def get (x : Ext) (runId caseId : UUID) : Db Bucket (Option PluginRun) :=
  query x.lookup fun st => st.runs.rows.find? fun run => run.id = runId && run.caseId = caseId

/-- The rows of `filters`. -/
def inCase (st : Store) (caseId : UUID) (status pluginName : Option String) : List PluginRun :=
  st.runs.rows.filter fun run =>
    run.caseId = caseId && (status.all fun s => run.status.value = s)
      && pluginName.all fun name => run.pluginName = name

/-- `PluginRunRepository.list_for_case`: the page and the total. -/
def listForCase (x : Ext) (order : NewestFirst PluginRun.startedAt) (caseId : UUID)
    (status pluginName : Option String) (limit offset : ℕ) : Db Bucket (List PluginRun × ℕ) := do
  let total ← query x.lookup fun st => (inCase st caseId status pluginName).length
  let items ← query x.refresh fun st =>
    order.page limit offset (inCase st caseId status pluginName)
  pure (items, total)

end PluginRunRepository

namespace PluginsRouter

variable (caseId : UUID)

/-- The arguments of the runner. -/
def runRequest (pluginName : String) (inputEntity : Entity) : RunRequest where
  registry := app.registry
  enterprise := app.enterprise
  vault := app.vault
  pluginName
  caseId
  inputEntity
  createdBy := some user
  credentials := none

/-- What an exception of the runner becomes. -/
def runError (e : Exc) : Exc :=
  if e.isinstance "PluginCredentialMissingError" then Exc.http 422 e.text
  else if e.isinstance "PluginTypeError" then Exc.http 422 e.text
  else if e.isinstance "PluginExecutionError" then Exc.http 500 "plugin execution failed"
  else e

/-- The body of a run that went through. -/
def runAnswer (result : RunResult) : Except Exc Answer := do
  let entities ← result.entitiesCreated.mapM EntityRead.validate
  let relationships ← result.relationshipsCreated.mapM RelationshipRead.validate
  return .pluginRun 201 result.run entities relationships result.evidenceCreated

/-- `run_plugin` -/
def runPlugin (pluginName : String) (inputEntityId : UUID) : Db Bucket Answer := do
  match ← EntityRepository.get env.x inputEntityId caseId with
  | none => throw (Exc.http 404 "input entity not in case")
  | some inputEntity =>
    match app.registry.get pluginName with
    | .error _ => throw (Exc.http 404 "plugin not found")
    | .ok plugin =>
      if plugin.dispatchMode = .async then do
        let run ← dispatchRun env.dispatch plugin caseId inputEntity user
        return .pluginRun 202 run [] [] []
      else do
        let result ← tryCatch
          (PluginRunner.run py env.run (runRequest app user caseId pluginName inputEntity) none)
          fun e => throw (runError e)
        Prog.ofExcept (runAnswer result)

/-- `list_runs` -/
def listRuns (status pluginName : Option String) (limit offset : ℕ) : Db Bucket Answer := do
  let (items, total) ←
    PluginRunRepository.listForCase env.x env.runs caseId status pluginName limit offset
  return .runs items total limit offset

/-- `get_run` -/
def getRun (runId : UUID) : Db Bucket Answer := do
  return .run (← found (← PluginRunRepository.get env.x runId caseId))

end PluginsRouter

/-- The endpoint of a request, behind its ownership check. -/
def CaseRoute.endpoint (caseId : UUID) : CaseRoute → Db Bucket Answer
  | .createEntity data => EntitiesRouter.createEntity py env user caseId data
  | .listEntities type limit offset => EntitiesRouter.listEntities env caseId type limit offset
  | .getEntity entityId => EntitiesRouter.getEntity env caseId entityId
  | .updateEntity entityId data => EntitiesRouter.updateEntity py env caseId entityId data
  | .deleteEntity entityId => EntitiesRouter.deleteEntity env caseId entityId
  | .createRelationship data => RelationshipsRouter.createRelationship py env user caseId data
  | .listRelationships relType src dst limit offset =>
    RelationshipsRouter.listRelationships env caseId relType src dst limit offset
  | .getRelationship relId => RelationshipsRouter.getRelationship env caseId relId
  | .deleteRelationship relId => RelationshipsRouter.deleteRelationship env caseId relId
  | .createEvidence metadata file contentType =>
    EvidenceRouter.createEvidence app env user caseId metadata file contentType
  | .listEvidence entityId sourcePlugin limit offset =>
    EvidenceRouter.listEvidence env caseId entityId sourcePlugin limit offset
  | .getEvidence evId => EvidenceRouter.getEvidence env caseId evId
  | .getEvidenceBlob evId => EvidenceRouter.getEvidenceBlob env caseId evId
  | .verifyEvidenceHash evId => EvidenceRouter.verifyEvidenceHash env caseId evId
  | .exportEvidenceLedger csv => EvidenceRouter.exportEvidenceLedger env caseId csv
  | .getGraph => GraphRouter.getGraph env caseId
  | .runPlugin pluginName inputEntityId =>
    PluginsRouter.runPlugin py app env user caseId pluginName inputEntityId
  | .listRuns status pluginName limit offset =>
    PluginsRouter.listRuns env caseId status pluginName limit offset
  | .getRun runId => PluginsRouter.getRun env caseId runId

end Sleuthgraph
