import Sleuthgraph.Python
import Sleuthgraph.Lib.Threads

/-!
# The pool of the enqueuer (`queue/enqueue.py`)

Requests share one Redis pool, made when the first one needs it and closed at shutdown. Coroutines
interleave where they await, and `_pool_lock` is held over the awaits of `create_pool` and `close`.
-/

namespace Sleuthgraph

open Threads

/-- `_pool`; how many pools were made, each known by its number; those whose `close()` has returned;
and the jobs that were sent, with the pool of each. -/
structure PoolState where
  pool : Option ℕ
  made : ℕ
  closed : List ℕ
  jobs : List (ℕ × UUID)
deriving DecidableEq, Repr

def PoolState.empty : PoolState := ⟨none, 0, [], []⟩

/-- What Redis answers at a step, a cancellation included. -/
structure RedisInput where
  create : Except Exc Unit
  close : Except Exc Unit
  enqueue : Except Exc (Option String)
  sent : Bool

/-- The job has reached the queue: it has an id, or the answer was lost on its way back. -/
def RedisInput.queued (i : RedisInput) : Bool :=
  match i.enqueue with
  | .ok job => job.isSome
  | .error _ => i.sent

/-- Code that runs in the event loop. -/
abbrev PoolCode (α : Type) := Thread PoolState RedisInput Exc α

/-- The value of `_pool`. -/
def currentPool : PoolCode (Option ℕ) := Thread.atomic fun _ s => (.ok s.pool, s)

/-- `_pool = await create_pool(...)` -/
def createPool : PoolCode Unit :=
  Thread.atomic fun i s =>
    match i.create with
    | .ok () => (.ok (), { s with pool := some s.made, made := s.made + 1 })
    | .error e => (.error e, s)

/-- `await _pool.close()` -/
def closeConnections (pool : ℕ) : PoolCode Unit :=
  Thread.atomic fun i s =>
    match i.close with
    | .ok () => (.ok (), { s with closed := s.closed ++ [pool] })
    | .error e => (.error e, s)

/-- `_pool = None` -/
def dropPool : PoolCode Unit := Thread.atomic fun _ s => (.ok (), { s with pool := none })

/-- `await pool.enqueue_job("run_plugin_task", str(run_id))` -/
def enqueueJob (pool : ℕ) (runId : UUID) : PoolCode (Option String) :=
  Thread.atomic fun i s =>
    (i.enqueue, if i.queued then { s with jobs := s.jobs ++ [(pool, runId)] } else s)

/-- `_get_pool` -/
def getPool : PoolCode (Option ℕ) :=
  Thread.locked do
    let pool ← currentPool
    if pool.isNone then createPool
    currentPool

/-- `close_pool` -/
def closePool : PoolCode Unit :=
  Thread.locked do
    match ← currentPool with
    | some pool =>
      closeConnections pool
      dropPool
    | none => pure ()

/-- `enqueue_plugin_run` -/
def enqueuePluginRun (runId : UUID) : PoolCode String := do
  match ← getPool with
  | none => throw Exc.attributeError
  | some pool =>
    match ← enqueueJob pool runId with
    | some jobId => return jobId
    | none => throw { mro := ["RuntimeError", "Exception"], text := "arq enqueue returned None" }

/-- What a request, or the shutdown, does with the pool. -/
inductive PoolTask where
  | enqueue (runId : UUID)
  | close

/-- The code of a task. It returns the id of its job, if it has one. -/
def PoolTask.code : PoolTask → PoolCode (Option String)
  | .enqueue runId => some <$> enqueuePluginRun runId
  | .close => (fun _ => none) <$> closePool

end Sleuthgraph
