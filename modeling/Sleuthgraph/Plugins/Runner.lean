import Sleuthgraph.Plugins.Base
import Sleuthgraph.Relationships.Repository

/-!
# `PluginRunner` (`plugins/runner.py`)

One run of a plugin: the checks and the audit row, the query, the proposals turned into rows in
one transaction, and the audit row's final state. `start` is what comes before the `try` of
`run`, `attempt` is the `try` with its handler.
-/

namespace Sleuthgraph

open Programs Transactions Tables

/-! ## Errors -/

/-- `PluginExecutionError(text)` -/
def Exc.pluginExecutionError (text : String) : Exc :=
  { mro := ["PluginExecutionError", "RuntimeError", "Exception"], text }

/-- `PluginTypeError(text)` -/
def Exc.pluginTypeError (text : String) : Exc :=
  { mro := ["PluginTypeError", "PluginExecutionError", "RuntimeError", "Exception"], text }

/-- `PluginCredentialMissingError(text)` -/
def Exc.pluginCredentialMissing (text : String) : Exc :=
  { mro := ["PluginCredentialMissingError", "PluginExecutionError", "RuntimeError", "Exception"]
    text }

/-- `_ERROR_TAXONOMY` -/
def errorTaxonomy : List (String × String) :=
  [("TimeoutException", "upstream_timeout"),
    ("HTTPStatusError", "upstream_http_error"),
    ("HTTPError", "upstream_network_error"),
    ("ValueError", "validation_error"),
    ("PluginCredentialMissingError", "credentials_missing"),
    ("PluginExecutionError", "plugin_internal")]

/-- `_classify_error` -/
def classifyError (e : Exc) : String :=
  match errorTaxonomy.find? fun (cls, _) => e.isinstance cls with
  | some (_, label) => label ++ ":" ++ e.typeName
  | none => "unknown:" ++ e.typeName

/-- `MAX_PROPOSALS_PER_RUN` -/
def maxProposalsPerRun : ℕ := 2000

/-! ## The world of a run -/

/-- What one run meets outside its own code: ids and clocks, and which statements do not get
through. The three sequences are met by the proposals in order. -/
structure RunExt where
  newId : UUID
  startedAt : Time
  finishedAt : Time
  auditCommit : Bool := false
  auditRefresh : Bool := false
  credential : Bool := false
  entity : ℕ → Ext
  relationship : ℕ → Ext
  evidence : ℕ → Ext
  blob : ℕ → PutExt
  persistCommit : Bool := false
  finalCommit : Bool := false
  finalRefresh : Bool := false
  handlerCommit : Bool := false

/-- The arguments of `run` and what the runner is configured with. `vault` is `get_credential`:
the decrypted key of a user for a plugin. -/
structure RunRequest where
  registry : PluginRegistry
  enterprise : Bool
  vault : UUID → String → Except Exc (Option String)
  pluginName : String
  caseId : UUID
  inputEntity : Entity
  createdBy : Option UUID
  credentials : Option PyDict

/-- What the runner returns. -/
structure RunResult where
  run : PluginRun
  entitiesCreated : List Entity
  relationshipsCreated : List Relationship
  evidenceCreated : List Evidence

/-- The rows that `_persist` has created. -/
structure Persisted where
  entities : List Entity
  relationships : List Relationship
  evidence : List Evidence

variable (py : Interp)

namespace PluginRunner

/-! ## Before the `try` -/

/-- The input's type is one the plugin accepts. -/
def checkInputType (plugin : OSINTPlugin) (inputEntity : Entity) : Except Exc Unit :=
  match EntityType.ofValue inputEntity.type with
  | none => .error (Exc.pluginTypeError ("unknown entity type: " ++ inputEntity.type))
  | some inputType =>
    if !plugin.entityTypesAccepted.contains inputType then
      .error (Exc.pluginTypeError
        ("plugin " ++ plugin.name ++ " does not accept entity type " ++ inputEntity.type))
    else .ok ()

/-- The `UPDATE` of the changed columns of a loaded row. -/
def runUpdate (loaded run : PluginRun) : Write :=
  .updateRun loaded.id (RunChange.between loaded run)

/-- Flush and commit a loaded row. -/
def saveRun (lost : Bool) (loaded run : PluginRun) : Db Bucket Unit := do
  write false (runUpdate loaded run)
  commit lost

/-- The audit row of a run that has none yet. -/
def newRun (x : RunExt) (req : RunRequest) (plugin : OSINTPlugin) : PluginRun where
  id := x.newId
  caseId := req.caseId
  inputEntityId := some req.inputEntity.id
  pluginName := plugin.name
  pluginVersion := plugin.version
  startedAt := x.startedAt
  finishedAt := none
  status := .running
  errorMessage := none
  entitiesCreatedCount := 0
  relationshipsCreatedCount := 0
  evidenceCount := 0
  createdBy := req.createdBy

/-- Create the audit row, or take over the one of the dispatcher. -/
def auditRow (x : RunExt) (req : RunRequest) (plugin : OSINTPlugin) :
    Option PluginRun → Db Bucket PluginRun
  | none => do
    let run := newRun x req plugin
    write false (.insertRun run)
    commit x.auditCommit
    query x.auditRefresh fun _ => ()
    pure run
  | some run =>
    if run.status ≠ .running then do
      let running := { run with status := .running }
      saveRun x.auditCommit run running
      pure running
    else pure run

/-- What `run` does before its `try`. -/
def start (x : RunExt) (req : RunRequest) (existingRun : Option PluginRun) :
    Db Bucket (OSINTPlugin × PluginRun) := do
  let plugin ← Prog.ofExcept (req.registry.get req.pluginName)
  Prog.ofExcept (assertPluginAllowed req.enterprise plugin.premium)
  Prog.ofExcept (checkInputType plugin req.inputEntity)
  let run ← auditRow x req plugin existingRun
  pure (plugin, run)

/-! ## Credentials -/

/-- `_resolve_credentials` -/
def resolveCredentials (x : RunExt) (req : RunRequest) (plugin : OSINTPlugin) :
    Db Bucket (Option PyDict) :=
  match plugin.requiresCredentials, req.credentials, req.createdBy with
  | true, none, some user => do
    query x.credential fun _ => ()
    let decrypted ← Prog.ofExcept (req.vault user plugin.name)
    match decrypted with
    | none => throw (Exc.pluginCredentialMissing ("No API key stored for " ++ plugin.name
        ++ ". Store one via POST /credentials/" ++ plugin.name))
    | some key => pure (some [("api_key", .str key)])
  | _, credentials, _ => pure credentials

/-! ## Proposals -/

/-- `ref_to_entity`, the latest assignment first. -/
abbrev Refs := List (String × Entity)

/-- `_resolve_ref`. A list or a dict is no key of a dict. -/
def resolveRef (ref : PyDict) (inputEntity : Entity) (refs : Refs) : Except Exc Entity :=
  if (PyDict.get ref "input").truthy then .ok inputEntity
  else if PyDict.contains ref "ref" then
    match PyDict.get ref "ref" with
    | .str key =>
      match refs.lookup key with
      | some entity => .ok entity
      | none => .error (Exc.pluginExecutionError "proposal references unknown entity ref")
    | .list _ => .error Exc.typeError
    | .dict _ => .error Exc.typeError
    | _ => .error (Exc.pluginExecutionError "proposal references unknown entity ref")
  else .error (Exc.pluginExecutionError "relationship endpoint must have 'input' or 'ref' key")

/-- The loop over the entity proposals, from the `i`-th. -/
def persistEntities (x : RunExt) (req : RunRequest) :
    ℕ → List EntityProposal → Refs → Db Bucket (Refs × List Entity)
  | _, [], refs => pure (refs, [])
  | i, ep :: proposals, refs => do
    let data ← Prog.ofExcept
      (EntityCreate.validate ep.type.value ep.label ep.attrs ep.confidence)
    let (entity, wasCreated) ←
      EntityRepository.getOrCreate py (x.entity i) req.caseId req.createdBy data false
    let (refs, created) ← persistEntities x req (i + 1) proposals ((ep.ref, entity) :: refs)
    pure (refs, if wasCreated then entity :: created else created)

/-- The loop over the relationship proposals, from the `i`-th. -/
def persistRelationships (x : RunExt) (req : RunRequest) (plugin : OSINTPlugin) (refs : Refs) :
    ℕ → List RelationshipProposal → Db Bucket (List Relationship)
  | _, [] => pure []
  | i, rp :: proposals => do
    let src ← Prog.ofExcept (resolveRef rp.src req.inputEntity refs)
    let dst ← Prog.ofExcept (resolveRef rp.dst req.inputEntity refs)
    let data ← Prog.ofExcept (RelationshipCreate.validate src.id dst.id rp.relType.value
      rp.confidence (some plugin.fullName) rp.attrs)
    let (rel, wasCreated) ← RelationshipRepository.createIfNotExists py (x.relationship i)
      req.caseId req.createdBy data false
    let created ← persistRelationships x req plugin refs (i + 1) proposals
    pure (if wasCreated then rel :: created else created)

/-- The loop over the evidence proposals, from the `i`-th. -/
def persistEvidence (x : RunExt) (req : RunRequest) (plugin : OSINTPlugin) :
    ℕ → List EvidenceProposal → Db Bucket (List Evidence)
  | _, [] => pure []
  | i, evp :: proposals => do
    let linkEntityId := if evp.linkToInput then some req.inputEntity.id else none
    let data ← Prog.ofExcept (EvidenceCreate.validate linkEntityId plugin.fullName evp.query
      evp.reproducibilitySpec)
    let ev ← EvidenceRepository.create (x.evidence i) (x.blob i) req.caseId req.createdBy data
      evp.payload evp.contentType false
    let created ← persistEvidence x req plugin (i + 1) proposals
    pure (ev :: created)

/-- `_persist`, up to its commit. -/
def persistRows (x : RunExt) (req : RunRequest) (plugin : OSINTPlugin) (result : QueryResult) :
    Db Bucket Persisted := do
  let (refs, entities) ← persistEntities py x req 0 result.entities []
  let relationships ← persistRelationships py x req plugin refs 0 result.relationships
  let evidence ← persistEvidence x req plugin 0 result.evidence
  pure ⟨entities, relationships, evidence⟩

/-! ## The `try` -/

/-- `plugin.query`, and the cap on its proposals. -/
def queryPlugin (req : RunRequest) (plugin : OSINTPlugin) (credentials : Option PyDict) :
    Except Exc QueryResult := do
  let result ← plugin.query req.inputEntity credentials
  if maxProposalsPerRun < result.total then
    .error (Exc.pluginExecutionError ("plugin " ++ plugin.name ++ " returned "
      ++ toString result.total ++ " proposals (exceeds " ++ toString maxProposalsPerRun ++ ")"))
  else .ok result

/-- What the `try` does before the commit of `_persist`. -/
def work (x : RunExt) (req : RunRequest) (plugin : OSINTPlugin) : Db Bucket Persisted := do
  let credentials ← resolveCredentials x req plugin
  let result ← Prog.ofExcept (queryPlugin req plugin credentials)
  persistRows py x req plugin result

/-- The audit row of a run that went through. -/
def succeeded (x : RunExt) (run : PluginRun) (p : Persisted) : PluginRun :=
  { run with
    status := .succeeded
    finishedAt := some x.finishedAt
    entitiesCreatedCount := p.entities.length
    relationshipsCreatedCount := p.relationships.length
    evidenceCount := p.evidence.length }

/-- `_resolve_credentials` and `_execute_plugin` -/
def executePlugin (x : RunExt) (req : RunRequest) (plugin : OSINTPlugin) (run : PluginRun) :
    Db Bucket RunResult := do
  let p ← work py x req plugin
  commit x.persistCommit
  saveRun x.finalCommit run (succeeded x run p)
  query x.finalRefresh fun _ => ()
  pure ⟨succeeded x run p, p.entities, p.relationships, p.evidence⟩

/-- The audit row of a run that raised. -/
def failed (x : RunExt) (run : PluginRun) (e : Exc) : PluginRun :=
  { run with
    status := .failed
    finishedAt := some x.finishedAt
    errorMessage := some (classifyError e) }

/-- The exception that leaves `run`. -/
def reraised (plugin : OSINTPlugin) (e : Exc) : Exc :=
  if e.isinstance "PluginExecutionError" then e
  else Exc.pluginExecutionError ("plugin " ++ plugin.name ++ " failed: " ++ e.text)

/-- The handler of `run`: its commit may be refused, the exception is raised all the same. Where
`run` already carries its final values, the session waits for a rollback and refuses this
statement, whatever columns it has. -/
def handle (x : RunExt) (plugin : OSINTPlugin) (run : PluginRun) (e : Exc) :
    Db Bucket RunResult := do
  tryCatch (saveRun x.handlerCommit run (failed x run e)) fun _ => pure ()
  throw (reraised plugin e)

/-- The `try` of `run`. -/
def attempt (x : RunExt) (req : RunRequest) (plugin : OSINTPlugin) (run : PluginRun) :
    Db Bucket RunResult :=
  tryCatch (executePlugin py x req plugin run) (handle x plugin run)

/-- `PluginRunner.run` -/
def run (x : RunExt) (req : RunRequest) (existingRun : Option PluginRun) :
    Db Bucket RunResult := do
  let (plugin, run) ← start x req existingRun
  attempt py x req plugin run

end PluginRunner

end Sleuthgraph
