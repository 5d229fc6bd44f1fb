import Sleuthgraph.Queue.Enqueue
import Mathlib.Data.List.Nodup
import Mathlib.Data.List.Perm.Subperm

/-!
# One pool at a time

Whatever requests and shutdowns interleave, a pool that was made is the current one or has been
closed. So at most one pool is open, and none is forgotten.
-/

namespace Sleuthgraph

open Threads

/-! ## The protocol -/

/-- Every pool is the current one or closed, and jobs go through pools that were made. -/
structure PoolState.Kept (s : PoolState) : Prop where
  current : ∀ p, s.pool = some p → p < s.made
  closed_lt : ∀ p ∈ s.closed, p < s.made
  nodup : s.closed.Nodup
  kept : ∀ p < s.made, p ∈ s.closed ∨ s.pool = some p
  jobs : ∀ job ∈ s.jobs, job.1 < s.made

/-- The current pool is open. -/
def PoolState.Open (s : PoolState) : Prop := ∀ p, s.pool = some p → p ∉ s.closed

/-- Only the jobs grow. -/
structure PoolState.Sends (s s' : PoolState) : Prop where
  pool : s'.pool = s.pool
  made : s'.made = s.made
  closed : s'.closed = s.closed
  jobs : ∀ job ∈ s.jobs, job ∈ s'.jobs

/-- The jobs and the pools grow. -/
structure PoolState.Works (s s' : PoolState) : Prop where
  made : s.made ≤ s'.made
  jobs : ∀ job ∈ s.jobs, job ∈ s'.jobs

open PoolState

/-- Without the lock, jobs are sent. -/
def poolProtocol : Protocol PoolState where
  inv := Kept
  res := Open
  free := Sends
  locked := Works
  free_refl _ := ⟨rfl, rfl, rfl, fun _ h => h⟩
  locked_refl _ := ⟨Nat.le_refl _, fun _ h => h⟩
  free_trans _ _ _ h h' := ⟨h'.pool.trans h.pool, h'.made.trans h.made, h'.closed.trans h.closed,
    fun job hjob => h'.jobs job (h.jobs job hjob)⟩
  locked_trans _ _ _ h h' := ⟨Nat.le_trans h.made h'.made,
    fun job hjob => h'.jobs job (h.jobs job hjob)⟩
  locked_of_free _ _ h := ⟨Nat.le_of_eq h.made.symm, h.jobs⟩
  res_free := by
    intro s s' h hres p hp
    rw [h.closed]
    exact hres p (h.pool.symm.trans hp)

variable {s s' : PoolState} {held : Bool} {α : Type}

lemma PoolState.Open.sends (h : s.Open) (hs : Sends s s') : s'.Open :=
  poolProtocol.res_free s s' hs h

/-- The end of a `with`, with a result that stays. -/
lemma poolSafe_end {Q : Except Exc α → PoolState → Prop} {r : Except Exc α}
    (hres : s.Open) (hQ : ∀ s', Works s s' → Q r s') :
    (Thread.done r : PoolCode α).Safe poolProtocol (fun held r s => held = true ∧ s.Open ∧
      ∀ s', poolProtocol.others false s s' → s'.Kept → false = false ∧ Q r s') true s := by
  intro s' hs _
  have hsends : Sends s s' := hs
  refine ⟨rfl, hres.sends hsends, fun s'' hs' _ => ⟨rfl, hQ s'' ?_⟩⟩
  exact poolProtocol.locked_trans s s' s'' (poolProtocol.locked_of_free s s' hsends) hs'

/-! ## Tasks -/

/-- What `_get_pool` returns was made. -/
def GotPool (s : PoolState) : Except Exc (Option ℕ) → Prop
  | .ok pool => ∃ p, pool = some p ∧ p < s.made
  | .error _ => True

lemma GotPool.works {r : Except Exc (Option ℕ)} (h : GotPool s r) (hs : Works s s') :
    GotPool s' r := by
  cases r with
  | error e => trivial
  | ok pool =>
    obtain ⟨p, hp, hlt⟩ := h
    have hmade := hs.made
    exact ⟨p, hp, by omega⟩

/-- The state with a new pool. -/
def PoolState.withPool (s : PoolState) : PoolState :=
  { s with pool := some s.made, made := s.made + 1 }

lemma PoolState.Kept.withPool (h : s.Kept) (hnone : s.pool = none) : s.withPool.Kept where
  current := by
    intro p hp
    have hlast : s.made = p := Option.some.inj hp
    show p < s.made + 1
    omega
  closed_lt := by
    intro p hp
    have hlt := h.closed_lt p hp
    show p < s.made + 1
    omega
  nodup := h.nodup
  kept := by
    intro p hp
    have hlt : p < s.made + 1 := hp
    by_cases hlast : p = s.made
    · exact Or.inr (congrArg some hlast.symm)
    · rcases h.kept p (by omega) with hclosed | hcurrent
      · exact Or.inl hclosed
      · rw [hnone] at hcurrent
        cases hcurrent
  jobs := by
    intro job hjob
    have hlt := h.jobs job hjob
    show job.1 < s.made + 1
    omega

lemma PoolState.Kept.open_withPool (h : s.Kept) : s.withPool.Open := by
  intro p hp hclosed
  have hlast : s.made = p := Option.some.inj hp
  have hlt := h.closed_lt p hclosed
  omega

/-- The last line of `_get_pool`. -/
lemma currentPool_safe (hres : s.Open) {p : ℕ} (hpool : s.pool = some p) (hlt : p < s.made) :
    currentPool.Safe poolProtocol (fun held r s => held = true ∧ s.Open ∧
      ∀ s', poolProtocol.others false s s' → s'.Kept → false = false ∧ GotPool s' r) true s := by
  refine Thread.Safe.atomic fun s₁ hs₁ hinv₁ _ => ⟨hinv₁, Protocol.mine_refl _ _, ?_⟩
  have hsends : Sends s s₁ := hs₁
  have hpool₁ : s₁.pool = some p := hsends.pool.trans hpool
  have hgot : GotPool s₁ (.ok s₁.pool) := ⟨p, hpool₁, by rw [hsends.made]; exact hlt⟩
  exact poolSafe_end (Q := fun r s => GotPool s r) (hres.sends hsends) fun s' hs => hgot.works hs

lemma getPool_safe (s : PoolState) :
    getPool.Safe poolProtocol (fun held r s' => held = false ∧ GotPool s' r) false s := by
  refine Thread.Safe.locked fun s₁ _ _ hres₁ => ?_
  refine Thread.Safe.atomic_bind fun s₂ hs₂ hinv₂ _ => ⟨hinv₂, Protocol.mine_refl _ _, ?_⟩
  have hres₂ := hres₁.sends hs₂
  cases hpool : s₂.pool with
  | some p =>
    exact currentPool_safe hres₂ hpool (hinv₂.current p hpool)
  | none =>
    refine Thread.Safe.atomic_bind fun s₃ hs₃ hinv₃ i => ?_
    have hsends₃ : Sends s₂ s₃ := hs₃
    have hpool₃ : s₃.pool = none := hsends₃.pool.trans hpool
    cases hcreate : i.create with
    | error e =>
      refine ⟨hinv₃, Protocol.mine_refl _ _, ?_⟩
      exact poolSafe_end (Q := fun r s => GotPool s r) (r := .error e) (hres₂.sends hsends₃)
        fun _ _ => trivial
    | ok created =>
      have hworks : Works s₃ s₃.withPool := ⟨Nat.le_succ _, fun _ h => h⟩
      refine ⟨hinv₃.withPool hpool₃, hworks, ?_⟩
      exact currentPool_safe hinv₃.open_withPool rfl (Nat.lt_succ_self _)

/-- The state after `close()` has returned. -/
def PoolState.withClosed (s : PoolState) (p : ℕ) : PoolState := { s with closed := s.closed ++ [p] }

lemma PoolState.Kept.withClosed (h : s.Kept) (hres : s.Open) {p : ℕ} (hpool : s.pool = some p) :
    (s.withClosed p).Kept where
  current := h.current
  closed_lt := by
    intro q hq
    rcases List.mem_append.mp hq with hold | hnew
    · exact h.closed_lt q hold
    · rw [List.mem_singleton.mp hnew]
      exact h.current p hpool
  nodup := by
    have hdisjoint : List.Disjoint s.closed [p] := by
      intro q hq hqp
      rw [List.mem_singleton.mp hqp] at hq
      exact hres p hpool hq
    exact List.Nodup.append h.nodup (List.nodup_singleton p) hdisjoint
  kept := by
    intro q hq
    rcases h.kept q hq with hclosed | hcurrent
    · exact Or.inl (List.mem_append_left _ hclosed)
    · exact Or.inr hcurrent
  jobs := h.jobs

/-- The state without a current pool, once it is closed. -/
lemma PoolState.Kept.dropPool (h : s.Kept) {p : ℕ} (hpool : s.pool = some p)
    (hclosed : p ∈ s.closed) : ({ s with pool := none } : PoolState).Kept where
  current := by simp
  closed_lt := h.closed_lt
  nodup := h.nodup
  kept := by
    intro q hq
    rcases h.kept q hq with hold | hcurrent
    · exact Or.inl hold
    · have hqp : p = q := Option.some.inj (hpool.symm.trans hcurrent)
      rw [← hqp]
      exact Or.inl hclosed
  jobs := h.jobs

lemma closePool_safe (s : PoolState) :
    closePool.Safe poolProtocol (fun held _ _ => held = false ∧ True) false s := by
  refine Thread.Safe.locked fun s₁ _ _ hres₁ => ?_
  refine Thread.Safe.atomic_bind fun s₂ hs₂ hinv₂ _ => ⟨hinv₂, Protocol.mine_refl _ _, ?_⟩
  have hres₂ := hres₁.sends hs₂
  cases hpool : s₂.pool with
  | none =>
    exact poolSafe_end (Q := fun _ _ => True) hres₂ fun _ _ => trivial
  | some p =>
    refine Thread.Safe.atomic_bind fun s₃ hs₃ hinv₃ i => ?_
    have hsends₃ : Sends s₂ s₃ := hs₃
    have hpool₃ : s₃.pool = some p := hsends₃.pool.trans hpool
    have hres₃ := hres₂.sends hsends₃
    cases hclose : i.close with
    | error e =>
      refine ⟨hinv₃, Protocol.mine_refl _ _, ?_⟩
      exact poolSafe_end (Q := fun _ _ => True) hres₃ fun _ _ => trivial
    | ok closed =>
      have hworks : Works s₃ (s₃.withClosed p) := ⟨Nat.le_refl _, fun _ h => h⟩
      refine ⟨hinv₃.withClosed hres₃ hpool₃, hworks, ?_⟩
      refine Thread.Safe.atomic fun s₄ hs₄ hinv₄ _ => ?_
      have hsends₄ : Sends (s₃.withClosed p) s₄ := hs₄
      have hpool₄ : s₄.pool = some p := hsends₄.pool.trans hpool₃
      have hclosed₄ : p ∈ s₄.closed := by
        rw [hsends₄.closed]
        exact List.mem_append_right _ (List.mem_singleton.mpr rfl)
      have hnone : ({ s₄ with pool := none } : PoolState).Open := by
        intro q hq
        cases hq
      refine ⟨hinv₄.dropPool hpool₄ hclosed₄, ⟨Nat.le_refl _, fun _ h => h⟩, ?_⟩
      exact poolSafe_end (Q := fun _ _ => True) (r := .ok ()) hnone fun _ _ => trivial

/-- A task that returned the id of a job has sent it. -/
def PoolTask.Done (task : PoolTask) (s : PoolState) : Except Exc (Option String) → Prop
  | .ok job => ∀ runId, task = .enqueue runId → job.isSome = true ∧ ∃ p, (p, runId) ∈ s.jobs
  | .error _ => True

/-- The state after `enqueue_job`. -/
def PoolState.afterJob (s : PoolState) (i : RedisInput) (p : ℕ) (runId : UUID) : PoolState :=
  if i.queued then { s with jobs := s.jobs ++ [(p, runId)] } else s

lemma PoolState.sends_afterJob (s : PoolState) (i : RedisInput) (p : ℕ) (runId : UUID) :
    Sends s (s.afterJob i p runId) := by
  unfold PoolState.afterJob
  split
  · exact ⟨rfl, rfl, rfl, fun _ h => List.mem_append_left _ h⟩
  · exact poolProtocol.free_refl s

lemma PoolState.Kept.afterJob (h : s.Kept) {i : RedisInput} {p : ℕ} {runId : UUID}
    (hlt : p < s.made) : (s.afterJob i p runId).Kept := by
  unfold PoolState.afterJob
  split
  · refine ⟨h.current, h.closed_lt, h.nodup, h.kept, fun job hjob => ?_⟩
    rcases List.mem_append.mp hjob with hold | hnew
    · exact h.jobs job hold
    · rw [List.mem_singleton.mp hnew]
      exact hlt
  · exact h

lemma PoolState.mem_afterJob (s : PoolState) {i : RedisInput} (p : ℕ) (runId : UUID)
    (hqueued : i.queued = true) : (p, runId) ∈ (s.afterJob i p runId).jobs := by
  rw [PoolState.afterJob, if_pos hqueued]
  exact List.mem_append_right _ (List.mem_singleton.mpr rfl)

lemma enqueuePluginRun_safe (s : PoolState) (hinv : s.Kept) (runId : UUID) :
    (enqueuePluginRun runId).Safe poolProtocol
      (fun held r s' => held = false ∧ ∀ jobId, r = .ok jobId → ∃ p, (p, runId) ∈ s'.jobs)
      false s := by
  have hraised : ∀ (s : PoolState) (e : Exc), (Thread.done (.error e) : PoolCode String).Safe
      poolProtocol (fun held r s' => held = false ∧ ∀ jobId, r = .ok jobId →
        ∃ p, (p, runId) ∈ s'.jobs) false s := by
    intro s e s' _ _
    refine ⟨rfl, fun jobId hjob => ?_⟩
    cases hjob
  refine Thread.Safe.bind hinv ((getPool_safe s).mono fun held r s₁ hinv₁ h => ?_)
  obtain ⟨rfl, hgot⟩ := h
  cases r with
  | error e => exact hraised s₁ e
  | ok pool =>
    obtain ⟨p, rfl, hlt⟩ := hgot
    refine Thread.Safe.atomic_bind fun s₂ hs₂ hinv₂ i => ?_
    have hworks : Works s₁ s₂ := hs₂
    have hlt₂ : p < s₂.made := Nat.lt_of_lt_of_le hlt hworks.made
    refine ⟨hinv₂.afterJob hlt₂, sends_afterJob s₂ i p runId, ?_⟩
    show (Thread.onOk _ i.enqueue).Safe poolProtocol _ false (s₂.afterJob i p runId)
    cases hanswer : i.enqueue with
    | error e => exact hraised _ e
    | ok job =>
      cases job with
      | none => exact hraised _ _
      | some jobId =>
        have hqueued : i.queued = true := by
          rw [RedisInput.queued, hanswer]
          rfl
        have hjob := s₂.mem_afterJob p runId hqueued
        intro s' hs _
        have hworks' : Works (s₂.afterJob i p runId) s' := hs
        exact ⟨rfl, fun _ _ => ⟨p, hworks'.jobs _ hjob⟩⟩

lemma PoolTask.safe (task : PoolTask) (s : PoolState) (hinv : s.Kept) :
    task.code.Safe poolProtocol (fun held r s' => held = false ∧ task.Done s' r) false s := by
  cases task with
  | enqueue runId =>
    refine Thread.Safe.andThen hinv ((enqueuePluginRun_safe s hinv runId).mono ?_)
    intro held r s₁ _ h
    obtain ⟨rfl, hsent⟩ := h
    cases r with
    | error e => exact fun _ _ _ => ⟨rfl, trivial⟩
    | ok jobId =>
      obtain ⟨p, hjob⟩ := hsent jobId rfl
      intro s' hs _
      have hworks : Works s₁ s' := hs
      refine ⟨rfl, fun runId' heq => ⟨rfl, p, ?_⟩⟩
      rw [← PoolTask.enqueue.inj heq]
      exact hworks.jobs _ hjob
  | close =>
    refine Thread.Safe.andThen hinv ((closePool_safe s).mono fun held r s₁ _ h => ?_)
    obtain ⟨rfl, -⟩ := h
    cases r with
    | error e => exact fun _ _ _ => ⟨rfl, trivial⟩
    | ok _ =>
      intro s' _ _
      refine ⟨rfl, fun runId heq => ?_⟩
      cases heq

/-! ## Any interleaving -/

/-- The configurations of a process that runs the tasks. -/
abbrev TasksReach (tasks : ℕ → PoolTask) (c : Config PoolState RedisInput Exc (Option String)) :
    Prop :=
  Config.Reaches (Config.start PoolState.empty fun k => (tasks k).code) c

section Runs

variable {tasks : ℕ → PoolTask} {c : Config PoolState RedisInput Exc (Option String)}

lemma PoolState.kept_empty : PoolState.empty.Kept := by
  constructor <;> simp [PoolState.empty]

lemma pool_good (h : TasksReach tasks c) : c.Good poolProtocol fun k r s => (tasks k).Done s r :=
  Config.Good.of_reaches kept_empty (fun p hp => by cases hp)
    (fun k => (tasks k).safe PoolState.empty kept_empty) h

/-- **One pool at a time.** However requests and shutdowns interleave, at most one pool is open, so
at most one more was made than closed; and nobody waits forever for the lock. -/
theorem one_pool_open (h : TasksReach tasks c) :
    (∀ p < c.data.made, ∀ q < c.data.made, p ∉ c.data.closed → q ∉ c.data.closed →
        p = q ∧ c.data.pool = some p) ∧
      c.data.made ≤ c.data.closed.length + 1 ∧
      (∀ k, (c.threads k).isDone = false → ∃ a, (c.step a).isSome = true) := by
  have hgood := pool_good h
  have hkept : c.data.Kept := hgood.inv
  have hcurrent : ∀ p < c.data.made, p ∉ c.data.closed → c.data.pool = some p := by
    intro p hp hopen
    exact (hkept.kept p hp).resolve_left hopen
  refine ⟨fun p hp q hq hpo hqo => ?_, ?_, fun k hk => ?_⟩
  · have hpool := hcurrent p hp hpo
    exact ⟨Option.some.inj (hpool.symm.trans (hcurrent q hq hqo)), hpool⟩
  · -- the pools that were made are among the closed ones and the current one
    have hsubset : List.range c.data.made ⊆ c.data.closed ++ c.data.pool.toList := by
      intro p hp
      rcases hkept.kept p (List.mem_range.mp hp) with hclosed | hpool
      · exact List.mem_append_left _ hclosed
      · exact List.mem_append_right _ (Option.mem_toList.mpr hpool)
    have hlength := (List.nodup_range.subperm hsubset).length_le
    have hcurrent_length : c.data.pool.toList.length ≤ 1 := by
      cases c.data.pool <;> simp
    rw [List.length_range, List.length_append] at hlength
    omega
  · have hinput : Nonempty RedisInput := ⟨⟨.ok (), .ok (), .ok none, false⟩⟩
    exact hgood.progress hk

/-- **A job id means a job.** A request that was given the id of a job has sent a job for its run,
through a pool of this process. -/
theorem enqueued_is_sent (h : TasksReach tasks c) {k : ℕ} {runId : UUID}
    (htask : tasks k = .enqueue runId) {job : Option String} (hk : c.threads k = .done (.ok job)) :
    job.isSome = true ∧ ∃ p, (p, runId) ∈ c.data.jobs ∧ p < c.data.made := by
  have hgood := pool_good h
  obtain ⟨hjob, p, hsent⟩ := (hgood.result hk) runId htask
  exact ⟨hjob, p, hsent, hgood.inv.jobs _ hsent⟩

end Runs

/-! ### Two requests and a shutdown -/

/-- Two requests; every other task is a shutdown. -/
def shutdownTasks : ℕ → PoolTask
  | 0 => .enqueue 1
  | 1 => .enqueue 2
  | _ => .close

/-- Redis answers everything. -/
def redisAnswers (k : ℕ) : ℕ × RedisInput := (k, ⟨.ok (), .ok (), .ok (some "job"), true⟩)

def beforeShutdown : Config PoolState RedisInput Exc (Option String) :=
  Config.start PoolState.empty fun k => (shutdownTasks k).code

/-- The first request makes a pool, the shutdown closes it before the job of the first request is
sent, and the second request makes another one. -/
def shutdownTurns : List (ℕ × RedisInput) :=
  [0, 0, 0, 0, 0, 2, 2, 2, 2, 2, 0, 1, 1, 1, 1, 1, 1].map redisAnswers

def afterShutdown : Config PoolState RedisInput Exc (Option String) :=
  (Systems.runAll Config.step beforeShutdown shutdownTurns).getD beforeShutdown

lemma reaches_afterShutdown : TasksReach shutdownTasks afterShutdown := by
  have hrun : Systems.runAll Config.step beforeShutdown shutdownTurns = some afterShutdown := rfl
  exact Systems.Reaches.runAll .start hrun

theorem one_pool_open_shutdown :
    (∀ p < 2, ∀ q < 2, p ∉ [0] → q ∉ [0] → p = q ∧ some 1 = some p) ∧ 2 ≤ 1 + 1 ∧
      (∀ k, (afterShutdown.threads k).isDone = false →
        ∃ a, (afterShutdown.step a).isSome = true) :=
  one_pool_open reaches_afterShutdown

theorem enqueued_is_sent_shutdown :
    (some "job").isSome = true ∧ ∃ p, (p, 1) ∈ afterShutdown.data.jobs ∧ p < 2 :=
  enqueued_is_sent (k := 0) reaches_afterShutdown rfl rfl

end Sleuthgraph
