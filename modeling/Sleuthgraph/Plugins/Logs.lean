import Sleuthgraph.Lib.Logs
import Sleuthgraph.Queue.Tasks

/-!
# What a run logs (`plugins/runner.py`, `queue/tasks.py`)

`PluginRunner.run` and `run_plugin_task` once more, with their calls of `log`. A record made in a
handler prints the exception with what it was raised from. Without their log they are the programs
of the other modules.
-/

namespace Sleuthgraph

open Programs Transactions Tables Logs

/-! ## Records -/

/-- A log record: its message, and the texts of the exceptions that its traceback prints. The rest
of a traceback are places and lines of the source. -/
structure LogRecord where
  message : String
  exceptions : List String := []
deriving DecidableEq, Repr

/-- `str(e)`. Where the code gives no text, it is what the library says. -/
structure ExcText where
  str : Exc → String
  own : ∀ e, e.text ≠ "" → str e = e.text

/-- An exception on its way, with the texts of those it was raised from and its own. -/
structure Raised where
  exc : Exc
  shown : List String

/-- Programs over a database session that log. -/
abbrev LoggedDb (α : Type) := Logs.Logged LogRecord (Session Store Write Bucket) Raised α

variable (py : Interp) (t : ExcText)

/-- An exception that is raised from nothing. -/
def ExcText.raised (e : Exc) : Raised := ⟨e, [t.str e]⟩

namespace PluginRunner

/-! ## `PluginRunner.run` -/

/-- `"plugin %s failed on case %s"` -/
def failedOnCase (pluginName : String) (caseId : UUID) : String :=
  "plugin " ++ pluginName ++ " failed on case " ++ String.ofList (uuidText caseId)

/-- The message of the second record. -/
def notPersisted : String := "failed to persist PluginRun failure state"

/-- `f"plugin {plugin.name} failed: {e}"` -/
def wrapping (pluginName text : String) : String := "plugin " ++ pluginName ++ " failed: " ++ text

/-- What leaves the handler: the exception itself, or one that is raised from it. -/
def reraisedFrom (plugin : OSINTPlugin) (e : Raised) : Raised :=
  if e.exc.isinstance "PluginExecutionError" then e
  else ⟨reraised plugin e.exc, e.shown ++ [wrapping plugin.name (t.str e.exc)]⟩

/-- The handler of `run`, with its two records. -/
def loggedHandle (x : RunExt) (caseId : UUID) (plugin : OSINTPlugin) (run : PluginRun)
    (e : Raised) : LoggedDb RunResult := do
  emit ⟨failedOnCase plugin.name caseId, e.shown⟩
  tryCatch (silent t.raised (saveRun x.handlerCommit run (failed x run e.exc)))
    fun e' => emit ⟨notPersisted, e.shown ++ e'.shown⟩
  throw (reraisedFrom t plugin e)

/-- The `try` of `run`. -/
def loggedAttempt (x : RunExt) (req : RunRequest) (plugin : OSINTPlugin) (run : PluginRun) :
    LoggedDb RunResult :=
  tryCatch (silent t.raised (executePlugin py x req plugin run))
    (loggedHandle t x req.caseId plugin run)

/-- `PluginRunner.run` -/
def loggedRun (x : RunExt) (req : RunRequest) (existingRun : Option PluginRun) :
    LoggedDb RunResult := do
  let (plugin, run) ← silent t.raised (start x req existingRun)
  loggedAttempt py t x req plugin run

end PluginRunner

/-! ## `run_plugin_task` -/

namespace TaskLog

/-- `"run_plugin_task: run_id %s not found"` -/
def notFound (runId : UUID) : String :=
  "run_plugin_task: run_id " ++ String.ofList (uuidText runId) ++ " not found"

/-- `"run_plugin_task: %s already %s, skipping"` -/
def skipping (runId : UUID) (status : RunStatus) : String :=
  "run_plugin_task: " ++ String.ofList (uuidText runId) ++ " already " ++ status.value
    ++ ", skipping"

/-- `"plugin task %s failed"` -/
def taskFailed (runId : UUID) : String :=
  "plugin task " ++ String.ofList (uuidText runId) ++ " failed"

end TaskLog

/-- The call of the runner, with the handler around it. -/
def loggedRunTask (x : TaskExt) (w : Worker) (runId : UUID) (run : PluginRun)
    (inputEntity : Entity) : LoggedDb TaskAnswer :=
  tryCatch
    (do
      let result ← PluginRunner.loggedRun py t x.run (w.request run inputEntity) (some run)
      pure (.succeeded result.run.entitiesCreatedCount result.run.relationshipsCreatedCount
        result.run.evidenceCount))
    fun e => do
      emit ⟨TaskLog.taskFailed runId, e.shown⟩
      pure (.failed e.exc.typeName)

/-- `run_plugin_task` -/
def loggedTask (x : TaskExt) (w : Worker) (runId : UUID) : LoggedDb TaskAnswer := do
  match ← silent t.raised (query x.runLookup fun st => st.runs.find runId) with
  | none => do
    emit ⟨TaskLog.notFound runId, []⟩
    pure .notFound
  | some run =>
    if run.status ≠ .queued then do
      emit ⟨TaskLog.skipping runId run.status, []⟩
      pure .skipped
    else
      match ← silent t.raised (loadInput x run) with
      | none => do
        silent t.raised (PluginRunner.saveRun x.missingCommit run (missingInput run))
        pure (.failed "missing_input_entity")
      | some inputEntity => do
        silent t.raised (PluginRunner.saveRun x.flipCommit run (flipped run))
        loggedRunTask py t x w runId (flipped run) inputEntity

/-! ## Without the log -/

lemma raised_exc (e : Exc) : (t.raised e).exc = e := rfl

lemma reraisedFrom_exc (plugin : OSINTPlugin) (e : Raised) :
    (PluginRunner.reraisedFrom t plugin e).exc = PluginRunner.reraised plugin e.exc := by
  unfold PluginRunner.reraisedFrom PluginRunner.reraised
  split <;> rfl

/-- **The log changes nothing**: without it, `run` is the run of the other modules. -/
theorem PluginRunner.loggedRun_erases (x : RunExt) (req : RunRequest)
    (existingRun : Option PluginRun) :
    Erases Raised.exc (loggedRun py t x req existingRun) (run py x req existingRun) := by
  refine (Erases.silent (raised_exc t) _).bind fun p => ?_
  refine (Erases.silent (raised_exc t) _).tryCatch fun e => ?_
  refine Erases.emit _ (Erases.bind ?_ fun _ => ?_)
  · exact (Erases.silent (raised_exc t) _).tryCatch fun e' => fun _ _ => rfl
  · rw [← reraisedFrom_exc]
    exact Erases.throw _

/-- Without its log, `run_plugin_task` is the task of the queue. -/
theorem loggedTask_erases (x : TaskExt) (w : Worker) (runId : UUID) :
    Erases Raised.exc (loggedTask py t x w runId) (runPluginTask py x w runId) := by
  refine (Erases.silent (raised_exc t) _).bind fun row => ?_
  cases row with
  | none => exact Erases.emit _ (Erases.pure _)
  | some run =>
    dsimp only
    split
    · exact Erases.emit _ (Erases.pure _)
    · refine (Erases.silent (raised_exc t) _).bind fun input => ?_
      cases input with
      | none => exact (Erases.silent (raised_exc t) _).bind fun _ => Erases.pure _
      | some inputEntity =>
        refine (Erases.silent (raised_exc t) _).bind fun _ => ?_
        refine Erases.tryCatch ?_ fun e => Erases.emit _ (Erases.pure _)
        exact (PluginRunner.loggedRun_erases py t x.run _ _).bind fun result => Erases.pure _

end Sleuthgraph
