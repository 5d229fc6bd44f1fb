import Sleuthgraph.Queue.Tasks

/-!
# Dispatching and sweeping (`plugins/router.py`, `plugins/sweeper.py`)

The other two writers of an audit row: the request that queues a run and marks it failed when
the queue refuses it, and the sweeper that fails what has been open for too long. The sweeper
updates in one statement with a condition on the status; every other writer updates by primary
key the columns that differ from the row it has loaded.
-/

namespace Sleuthgraph

open Programs Transactions Tables

/-! ## The asynchronous branch of `run_plugin` -/

/-- What a dispatch meets outside its own code. `enqueue` is the answer of the queue; the job
may be on its way even when it is an exception. -/
structure DispatchExt where
  newId : UUID
  startedAt : Time
  commit : Bool := false
  refresh : Bool := false
  enqueue : Except Exc Unit
  failCommit : Bool := false

/-- The queued row of a dispatch. -/
def queuedRow (x : DispatchExt) (plugin : OSINTPlugin) (caseId : UUID) (inputEntity : Entity)
    (user : UUID) : PluginRun where
  id := x.newId
  caseId
  inputEntityId := some inputEntity.id
  pluginName := plugin.name
  pluginVersion := plugin.version
  startedAt := x.startedAt
  finishedAt := none
  status := .queued
  errorMessage := none
  entitiesCreatedCount := 0
  relationshipsCreatedCount := 0
  evidenceCount := 0
  createdBy := some user

/-- The row when the queue has refused the job. -/
def enqueueFailed (run : PluginRun) : PluginRun :=
  { run with status := .failed, errorMessage := some "enqueue_failed" }

/-- The asynchronous branch of `run_plugin`, from the creation of the row. -/
def dispatchRun (x : DispatchExt) (plugin : OSINTPlugin) (caseId : UUID) (inputEntity : Entity)
    (user : UUID) : Db Bucket PluginRun := do
  let run := queuedRow x plugin caseId inputEntity user
  write false (.insertRun run)
  commit x.commit
  query x.refresh fun _ => ()
  match x.enqueue with
  | .ok () => pure run
  | .error _ => do
    PluginRunner.saveRun x.failCommit run (enqueueFailed run)
    throw (Exc.http 503 "worker unavailable")

/-! ## `sweep_stuck_runs` -/

/-- `_STALE_ERROR_MESSAGE` -/
def staleErrorMessage : String := "Timed out — marked stale by sweeper"

/-- A minute on the clock of the database, which counts microseconds. -/
def minute : Time := 60 * 1000000

/-- The `WHERE` of the sweeper's statement. -/
def stuck (cutoff : Time) (run : PluginRun) : Bool :=
  (run.status = .running || run.status = .queued) && run.startedAt < cutoff

/-- A swept row. -/
def swept (finishedAt : Time) (run : PluginRun) : PluginRun :=
  { run with
    status := .failed
    finishedAt := some finishedAt
    errorMessage := some staleErrorMessage }

/-- The sweeper's statement on one row. -/
def sweepRow (cutoff finishedAt : Time) (run : PluginRun) : PluginRun :=
  if stuck cutoff run then swept finishedAt run else run

lemma pk_sweepRow (cutoff finishedAt : Time) (run : PluginRun) :
    pk (sweepRow cutoff finishedAt run) = pk run := by
  unfold sweepRow
  split <;> rfl

/-- `sweep_stuck_runs`, with the two readings of its clock. -/
def sweepStuckRuns (thresholdMinutes : ℤ) (now now' : Time) (runs : Table PluginRun) :
    Table PluginRun × ℕ :=
  let cutoff := now - thresholdMinutes * minute
  (runs.mapRows (sweepRow cutoff now') (pk_sweepRow cutoff now'), runs.rows.countP (stuck cutoff))

/-- The sweeper rewrites each row by itself. -/
lemma find_sweepStuckRuns (thresholdMinutes : ℤ) (now now' : Time) (runs : Table PluginRun)
    (id : UUID) :
    (sweepStuckRuns thresholdMinutes now now' runs).1.find id
      = (runs.find id).map (sweepRow (now - thresholdMinutes * minute) now') :=
  Table.find_mapRows runs _ (pk_sweepRow _ now') id

end Sleuthgraph
