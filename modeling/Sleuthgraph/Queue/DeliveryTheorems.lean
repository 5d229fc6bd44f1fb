import Sleuthgraph.Plugins.LifecycleTheorems

/-!
# At most one execution of a queued run

The guard of the task is a read of the status, and the flip that follows does not look at it
again. While every flip still finds the row queued, the first one closes the door: no write
ever makes a row queued again. Two invocations that both read before either flips both execute.
-/

namespace Sleuthgraph

open PluginRunner Systems

/-! ## The condition -/

/-- The invocation takes the run over, with what it has read. -/
def WorkAction.takes : WorkAction → Bool
  | missing | flip => true
  | _ => false

/-- The action takes the run over. -/
def RunAction.takes : RunAction → Bool
  | work _ a => a.takes
  | _ => false

/-- Who takes the run over still finds the row queued. -/
def Fresh (s : RunSystem) (a : RunAction) : Prop :=
  a.takes = true → ∀ row, s.row = some row → row.status = .queued

/-- At most one invocation queries the plugin and persists, each at most once, and the others
answer `skipped` if they answer. -/
structure AtMostOnce (s : RunSystem) : Prop where
  once : ∀ i, (s.invocations i).queries ≤ 1 ∧ (s.invocations i).persists ≤ 1
  others : ∃ winner, ∀ i, i ≠ winner →
    (s.invocations i).queries = 0 ∧ (s.invocations i).persists = 0 ∧
      ∀ answer, (s.invocations i).phase = .returned answer → answer = .skipped

variable {row row' : PluginRun} {v v' : Invocation} {s s' : RunSystem}

/-! ## An invocation -/

/-- How much an invocation can have done, by how far it is. -/
def Invocation.Budget (v : Invocation) : Prop :=
  match v.phase with
  | .waiting | .loaded _ | .created | .started _ => v.queries = 0 ∧ v.persists = 0
  | .queried _ => v.queries ≤ 1 ∧ v.persists = 0
  | _ => v.queries ≤ 1 ∧ v.persists ≤ 1

lemma Invocation.Budget.le (h : v.Budget) : v.queries ≤ 1 ∧ v.persists ≤ 1 := by
  obtain ⟨phase, q, n⟩ := v
  cases phase <;> simp only [Invocation.Budget] at h ⊢ <;> omega

lemma Invocation.Steps.budget {a : WorkAction} (h : v.Steps row a row' v') (hv : v.Budget) :
    v'.Budget := by
  have hle := hv.le
  cases h with
  -- the only step that queries, from a phase before any query
  | query copy q n =>
    obtain ⟨rfl, hn⟩ : q = 0 ∧ n = 0 := hv
    exact ⟨le_refl 1, hn⟩
  | persist copy p q n =>
    obtain ⟨hq, rfl⟩ : q ≤ 1 ∧ n = 0 := hv
    exact ⟨hq, le_refl 1⟩
  -- a failure after the query may commit what was flushed
  | failQueried copy x e reason q n =>
    obtain ⟨hq, rfl⟩ : q ≤ 1 ∧ n = 0 := hv
    exact ⟨hq, le_refl 1⟩
  | load q n h => exact hv
  | flip copy q n => exact hv
  | refreshNew q n => exact hv
  | skip q n h => exact hle
  | missing copy q n => exact hle
  | refreshLast q n => exact hle
  | succeed copy p x q n => exact hle
  | failStarted copy x e reason q n => exact hle
  | giveUp phase reason q n h => exact hle
  | crash phase q n => exact hle

/-- The invocation has not taken the run over, or has not come to anything. -/
def Invocation.Idle (v : Invocation) : Prop :=
  v.queries = 0 ∧ v.persists = 0 ∧
    match v.phase with
    | .waiting | .gone => True
    | .loaded copy => copy.status = .queued
    | .returned answer => answer = .skipped
    | _ => False

lemma Invocation.Idle.skipped (h : v.Idle) {answer : TaskAnswer}
    (hphase : v.phase = .returned answer) : answer = .skipped := by
  have h' := h.2.2
  rw [hphase] at h'
  exact h'

/-- No write of an invocation makes the row queued. -/
lemma Invocation.Steps.not_queued {a : WorkAction} (h : v.Steps row a row' v')
    (hrow : row.status ≠ .queued) : row'.status ≠ .queued := by
  cases h with
  | missing copy q n => exact mergeRow_not_queued nofun hrow
  | flip copy q n => exact mergeRow_not_queued nofun hrow
  | succeed copy p x q n => exact mergeRow_not_queued nofun hrow
  | failStarted copy x e reason q n => exact mergeRow_not_queued nofun hrow
  | failQueried copy x e reason q n => exact mergeRow_not_queued nofun hrow
  | _ => exact hrow

/-- An idle invocation stays idle until it takes the run over, and then the row is not queued. -/
lemma Invocation.Steps.idle {a : WorkAction} (h : v.Steps row a row' v') (hv : v.Idle) :
    v'.Idle ∨ (a.takes = true ∧ row'.status ≠ .queued) := by
  obtain ⟨hq, hn, hphase⟩ := hv
  cases h with
  | skip q n h => exact Or.inl ⟨hq, hn, rfl⟩
  | load q n h => exact Or.inl ⟨hq, hn, h⟩
  | missing copy q n =>
    have hqueued : copy.status = .queued := hphase
    refine Or.inr ⟨rfl, ?_⟩
    rw [mergeRow_status (by rw [hqueued]; nofun)]
    nofun
  | flip copy q n =>
    have hqueued : copy.status = .queued := hphase
    refine Or.inr ⟨rfl, ?_⟩
    rw [mergeRow_status (by rw [hqueued]; nofun)]
    nofun
  | giveUp phase reason q n h => cases phase <;> first | exact False.elim hphase | cases h
  | crash phase q n => exact Or.inl ⟨hq, hn, trivial⟩
  | _ => cases hphase

/-! ## The system -/

/-- All but one invocation are idle, and all of them are while the row is queued. -/
structure Delivered (s : RunSystem) : Prop where
  absent : s.row = none → ∀ i, s.invocations i = .new
  budget : ∀ i, (s.invocations i).Budget
  winner : ∃ w, (∀ i, i ≠ w → (s.invocations i).Idle) ∧
    ∀ row, s.row = some row → row.status = .queued → (s.invocations w).Idle

lemma Invocation.idle_new : Invocation.new.Idle := ⟨rfl, rfl, trivial⟩

lemma Delivered.start : Delivered RunSystem.start :=
  ⟨fun _ _ => rfl, fun _ => ⟨rfl, rfl⟩, 0, fun _ _ => Invocation.idle_new,
    fun _ _ _ => Invocation.idle_new⟩

/-- A change of the row by somebody else. -/
lemma Delivered.later {d d' : Dispatcher} {vs : ℕ → Invocation} (h : Delivered ⟨some row, d, vs⟩)
    (hrow : row.status ≠ .queued → row'.status ≠ .queued) : Delivered ⟨some row', d', vs⟩ := by
  obtain ⟨w, hothers, hw⟩ := h.winner
  refine ⟨nofun, h.budget, w, hothers, fun r hr hqueued => ?_⟩
  cases hr
  exact hw row rfl (not_not.mp fun hne => hrow hne hqueued)

/-- A step of an invocation. -/
lemma Delivered.work {d : Dispatcher} {vs : ℕ → Invocation} {i : ℕ} {a : WorkAction}
    (h : Delivered ⟨some row, d, vs⟩) (hfresh : a.takes = true → row.status = .queued)
    (hv : (vs i).Steps row a row' v) : Delivered ⟨some row', d, Function.update vs i v⟩ := by
  obtain ⟨w, hothers, hw⟩ := h.winner
  refine ⟨nofun, fun j => ?_, ?_⟩
  · by_cases hj : j = i
    · subst hj
      simp only [Function.update_self]
      exact hv.budget (h.budget j)
    · simp only [Function.update_of_ne hj]
      exact h.budget j
  -- the winner stays the same, unless this step takes the run over
  by_cases hidle : (vs i).Idle
  · rcases hv.idle hidle with hstill | ⟨htakes, hrow'⟩
    · have hkeep : ∀ j, (vs j).Idle → (Function.update vs i v j).Idle := by
        intro j hj
        by_cases hji : j = i
        · subst hji
          rw [Function.update_self]
          exact hstill
        · rw [Function.update_of_ne hji]
          exact hj
      refine ⟨w, fun j hj => hkeep j (hothers j hj), fun r hr hqueued => hkeep w ?_⟩
      cases hr
      exact hw row rfl (not_not.mp fun hne => hv.not_queued hne hqueued)
    -- the row was queued, so nobody had taken the run over: the step makes the winner
    · have hall : ∀ j, (vs j).Idle := by
        intro j
        by_cases hj : j = w
        · exact hj ▸ hw row rfl (hfresh htakes)
        · exact hothers j hj
      refine ⟨i, fun j hj => ?_, fun r hr hqueued => ?_⟩
      · simp only [Function.update_of_ne hj]
        exact hall j
      · cases hr
        exact absurd hqueued hrow'
  · -- the step is the winner's, and the row is not queued
    have hi : i = w := not_not.mp fun hne => hidle (hothers i hne)
    subst hi
    have hrow' := hv.not_queued fun hqueued => hidle (hw row rfl hqueued)
    refine ⟨i, fun j hj => ?_, fun r hr hqueued => ?_⟩
    · simp only [Function.update_of_ne hj]
      exact hothers j hj
    · cases hr
      exact absurd hqueued hrow'

lemma sweepRow_not_queued (cutoff finishedAt : Time) (hrow : row.status ≠ .queued) :
    (sweepRow cutoff finishedAt row).status ≠ .queued := by
  rcases sweepRow_cases cutoff finishedAt row with hsame | ⟨-, hswept⟩
  · rwa [hsame]
  · rw [hswept]
    nofun

/-- **One step.** -/
lemma Delivered.step {a : RunAction} (h : Delivered s) (hfresh : Fresh s a)
    (hstep : RunSystem.Steps s a s') : Delivered s' := by
  cases hstep with
  | dispatch d vs x plugin caseId inputEntity user =>
    have hnew : ∀ i, vs i = .new := h.absent rfl
    have hidle : ∀ i, (vs i).Idle := fun i => by
      rw [hnew i]
      exact Invocation.idle_new
    exact ⟨nofun, h.budget, 0, fun i _ => hidle i, fun _ _ _ => hidle 0⟩
  | runInRequest d vs i x req plugin =>
    have hnew : ∀ i, vs i = .new := h.absent rfl
    refine ⟨nofun, fun j => ?_, i, fun j hj => ?_, fun r hr hqueued => ?_⟩
    · by_cases hj : j = i
      · subst hj
        simp only [Function.update_self]
        exact ⟨rfl, rfl⟩
      · simp only [Function.update_of_ne hj]
        exact h.budget j
    · simp only [Function.update_of_ne hj, hnew j]
      exact Invocation.idle_new
    · cases hr
      cases hqueued
  | refreshQueued row vs => exact h.later id
  | enqueueFails row copy vs => exact h.later (mergeRow_not_queued nofun)
  | settle row d vs hd =>
    cases row with
    | none => exact ⟨h.absent, h.budget, h.winner⟩
    | some row => exact h.later id
  | work row row' d vs i a v hv =>
    exact h.work (fun htakes => hfresh htakes row rfl) hv
  | sweep row d vs cutoff finishedAt => exact h.later (sweepRow_not_queued cutoff finishedAt)

/-- **At most one execution**, in every run in which each take-over still finds the row queued. -/
theorem at_most_once (h : Reaches RunSystem.step Fresh RunSystem.start s) : AtMostOnce s := by
  have hdelivered : Delivered s := h.invariant Delivered.start fun _ _ _ hs ha hstep =>
    hs.step ha (RunSystem.steps_of_step hstep)
  obtain ⟨w, hothers, -⟩ := hdelivered.winner
  refine ⟨fun i => (hdelivered.budget i).le, w, fun i hi => ?_⟩
  have hidle := hothers i hi
  exact ⟨hidle.1, hidle.2.1, fun answer hanswer => hidle.skipped hanswer⟩

/-! ### Two deliveries -/

/-- A worker takes the run over and queries the plugin, and the second delivery is skipped. -/
theorem at_most_once_flipped :
    ∃ s, runAll RunSystem.step .start
        [exampleDispatch, .work 0 .read, .work 0 .flip, .work 0 .query, .work 1 .read] = some s ∧
      AtMostOnce s ∧ (s.invocations 0).queries = 1 ∧
      (s.invocations 1).phase = .returned .skipped := by
  refine ⟨_, rfl, at_most_once (((((Reaches.start.step exampleDispatch nofun rfl).step
    (.work 0 .read) nofun rfl).step (.work 0 .flip) (fun _ row hrow => ?_) rfl).step
    (.work 0 .query) nofun rfl).step (.work 1 .read) nofun rfl), rfl, rfl⟩
  cases hrow
  rfl

/-- Both read before either flips, and both query the plugin. -/
def racingActions : List RunAction :=
  [exampleDispatch, .work 0 .read, .work 1 .read, .work 0 .flip, .work 1 .flip, .work 0 .query,
    .work 1 .query]

theorem not_at_most_once :
    ¬ ∀ s, Reaches RunSystem.step (fun _ _ => True) RunSystem.start s → AtMostOnce s := by
  intro h
  have hrun : (runAll RunSystem.step .start racingActions).map
      (fun s => ((s.invocations 0).queries, (s.invocations 1).queries)) = some (1, 1) := by decide
  obtain ⟨s, hs, hqueries⟩ := Option.map_eq_some_iff.mp hrun
  obtain ⟨h0, h1⟩ := Prod.mk.inj hqueries
  obtain ⟨-, w, hothers⟩ := h s (Reaches.start.runAll hs)
  -- whoever the winner is, the other one has queried too
  by_cases hw : 0 = w
  · have hone := (hothers 1 (by omega)).1
    omega
  · have hzero := (hothers 0 hw).1
    omega

end Sleuthgraph
