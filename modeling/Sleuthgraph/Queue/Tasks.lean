import Sleuthgraph.Plugins.Runner

/-!
# `run_plugin_task` (`queue/tasks.py`)

The worker's side of an asynchronous run: it takes over the row that the dispatcher queued, flips
it to `running`, and hands it to the runner.
-/

namespace Sleuthgraph

open Programs Transactions Tables

/-- What the worker answers. -/
inductive TaskAnswer where
  | notFound
  | skipped
  | failed (reason : String)
  | succeeded (entities relationships evidence : ℕ)
deriving DecidableEq, Repr

/-- The `"status"` of the answer. -/
def TaskAnswer.status : TaskAnswer → String
  | notFound => "not_found"
  | skipped => "skipped"
  | failed _ => "failed"
  | succeeded _ _ _ => "succeeded"

/-- What one task meets outside its own code. -/
structure TaskExt where
  runLookup : Bool := false
  inputLookup : Bool := false
  missingCommit : Bool := false
  flipCommit : Bool := false
  run : RunExt

/-- What a worker is configured with. -/
structure Worker where
  registry : PluginRegistry
  enterprise : Bool
  vault : UUID → String → Except Exc (Option String)

/-- The arguments of the runner: no credentials are given. -/
def Worker.request (w : Worker) (run : PluginRun) (inputEntity : Entity) : RunRequest where
  registry := w.registry
  enterprise := w.enterprise
  vault := w.vault
  pluginName := run.pluginName
  caseId := run.caseId
  inputEntity
  createdBy := run.createdBy
  credentials := none

variable (py : Interp)

/-- `session.get(Entity, run.input_entity_id)`, deleted or not. -/
def loadInput (x : TaskExt) (run : PluginRun) : Db Bucket (Option Entity) :=
  match run.inputEntityId with
  | none => pure none
  | some entityId => query x.inputLookup fun st => st.entities.find entityId

/-- The row of a task without an input entity. -/
def missingInput (run : PluginRun) : PluginRun :=
  { run with status := .failed, errorMessage := some "missing_input_entity" }

/-- The row of a task that starts. -/
def flipped (run : PluginRun) : PluginRun := { run with status := .running }

/-- The call of the runner, with the handler around it. -/
def runTask (x : TaskExt) (w : Worker) (run : PluginRun) (inputEntity : Entity) :
    Db Bucket TaskAnswer :=
  tryCatch
    (do
      let result ← PluginRunner.run py x.run (w.request run inputEntity) (some run)
      pure (.succeeded result.run.entitiesCreatedCount result.run.relationshipsCreatedCount
        result.run.evidenceCount))
    fun e => pure (.failed e.typeName)

/-- `run_plugin_task` -/
def runPluginTask (x : TaskExt) (w : Worker) (runId : UUID) : Db Bucket TaskAnswer := do
  match ← query x.runLookup fun st => st.runs.find runId with
  | none => pure .notFound
  | some run =>
    if run.status ≠ .queued then pure .skipped
    else
      match ← loadInput x run with
      | none => do
        PluginRunner.saveRun x.missingCommit run (missingInput run)
        pure (.failed "missing_input_entity")
      | some inputEntity => do
        PluginRunner.saveRun x.flipCommit run (flipped run)
        runTask py x w (flipped run) inputEntity

end Sleuthgraph
