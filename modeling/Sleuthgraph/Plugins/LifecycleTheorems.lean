import Sleuthgraph.Plugins.Lifecycle
import Sleuthgraph.Plugins.RunnerTheorems

/-!
# The life of an audit row

Every copy of the row that its holder still writes says `queued` or `running`, or was read from
a row that is finished already. So a write from a copy follows the life cycle as long as the
committed row is not finished, and breaks it as soon as it is: a run that was swept comes back
as `succeeded` with the sweeper's message.
-/

namespace Sleuthgraph

open PluginRunner Systems

/-! ## The life cycle -/

/-- The moves of the life cycle. -/
inductive Moves : RunStatus → RunStatus → Prop
  | take : Moves .queued .running
  | refuse : Moves .queued .failed
  | succeed : Moves .running .succeeded
  | fail : Moves .running .failed

lemma Moves.not_queued {a b : RunStatus} (h : Moves a b) : b ≠ .queued := by
  cases h <;> nofun

/-- The run is over. -/
def PluginRun.Finished (run : PluginRun) : Prop := run.status = .succeeded ∨ run.status = .failed

/-- Only a failed row has an error. -/
def PluginRun.Clean (run : PluginRun) : Prop := run.status ≠ .failed → run.errorMessage = none

/-- A committed change of the row that respects the life cycle. -/
structure Legal (row row' : PluginRun) : Prop where
  moves : row'.status = row.status ∨ Moves row.status row'.status
  final : row.Finished → row' = row
  error : row'.status = .succeeded → row'.errorMessage = none

/-- Nobody writes from a copy to a row that is finished. -/
def Unfinished (s : RunSystem) (a : RunAction) : Prop :=
  a.writes = true → ∀ row, s.row = some row → ¬ row.Finished

variable {row row' copy run : PluginRun} {v v' : Invocation} {s s' : RunSystem}

lemma Legal.refl (h : row.Clean) : Legal row row :=
  ⟨Or.inl rfl, fun _ => rfl, fun hstatus => h (by rw [hstatus]; nofun)⟩

/-- A row that is not finished, after a move. -/
lemma Legal.of_moves (hrow : ¬ row.Finished) (hclean : row'.Clean)
    (hmoves : row'.status = row.status ∨ Moves row.status row'.status) : Legal row row' :=
  ⟨hmoves, fun h => absurd h hrow, fun hstatus => hclean (by rw [hstatus]; nofun)⟩

/-- A row that is not finished moves to `failed`. -/
lemma moves_failed (hrow : ¬ row.Finished) : Moves row.status .failed := by
  cases hstatus : row.status with
  | queued => exact .refuse
  | running => exact .fail
  | succeeded => exact absurd (Or.inl hstatus) hrow
  | failed => exact absurd (Or.inr hstatus) hrow

lemma running_of_not_queued (hrow : ¬ row.Finished) (hqueued : row.status ≠ .queued) :
    row.status = .running := by
  cases hstatus : row.status with
  | queued => exact absurd hstatus hqueued
  | running => rfl
  | succeeded => exact absurd (Or.inl hstatus) hrow
  | failed => exact absurd (Or.inr hstatus) hrow

/-! ## What a write does to the row -/

lemma mergeRow_status (h : copy.status ≠ run.status) (row : PluginRun) :
    (mergeRow copy run row).status = run.status := by
  simp only [mergeRow, RunChange.set, RunChange.between, changed, if_neg h]
  rfl

lemma mergeRow_error (h : copy.errorMessage = run.errorMessage) (row : PluginRun) :
    (mergeRow copy run row).errorMessage = row.errorMessage := by
  simp only [mergeRow, RunChange.set, RunChange.between, changed, if_pos h]
  rfl

/-- A write that sets no status to `queued` leaves none. -/
lemma mergeRow_not_queued (hrun : run.status ≠ .queued) (hrow : row.status ≠ .queued) :
    (mergeRow copy run row).status ≠ .queued := by
  by_cases h : copy.status = run.status
  -- the status is not among the columns that are set
  · simp only [mergeRow, RunChange.set, RunChange.between, changed, if_pos h]
    exact hrow
  · rw [mergeRow_status h]
    exact hrun

lemma sweepRow_cases (cutoff finishedAt : Time) (row : PluginRun) :
    sweepRow cutoff finishedAt row = row ∨
    (¬ row.Finished ∧ sweepRow cutoff finishedAt row = swept finishedAt row) := by
  unfold sweepRow
  split
  · rename_i h
    simp only [stuck, Bool.and_eq_true, Bool.or_eq_true, decide_eq_true_eq] at h
    refine Or.inr ⟨?_, rfl⟩
    rintro (hstatus | hstatus) <;> simp [hstatus] at h
  · exact Or.inl rfl

/-- The failure of a row that is not finished, from a copy that is not failed. -/
lemma legal_mergeRow_failed (hrow : ¬ row.Finished) (hcopy : copy.status ≠ .failed)
    (hrun : run.status = .failed) :
    Legal row (mergeRow copy run row) ∧ (mergeRow copy run row).Clean := by
  have hstatus := mergeRow_status (hrun ▸ hcopy) row
  have hclean : (mergeRow copy run row).Clean := fun h => absurd (hstatus.trans hrun) h
  exact ⟨.of_moves hrow hclean (Or.inr (by rw [hstatus, hrun]; exact moves_failed hrow)), hclean⟩

/-- A write of the status alone, to a row that is not finished. -/
lemma legal_mergeRow_moves (hrow : ¬ row.Finished) (hclean : row.Clean)
    (hcopy : copy.status ≠ run.status) (herror : copy.errorMessage = run.errorMessage)
    (hmoves : run.status = row.status ∨ Moves row.status run.status) :
    Legal row (mergeRow copy run row) ∧ (mergeRow copy run row).Clean := by
  have hclean' : (mergeRow copy run row).Clean := by
    intro _
    rw [mergeRow_error herror]
    exact hclean fun h => hrow (Or.inr h)
  exact ⟨.of_moves hrow hclean' (by rwa [mergeRow_status hcopy row]), hclean'⟩

/-! ## The copies -/

/-- What the copy in an invocation says about the row. -/
def Phase.Fits (row : PluginRun) : Phase → Prop
  | .loaded copy => copy.status = .queued
  | .created | .recorded => row.status ≠ .queued
  | .started copy | .queried copy | .persisted copy _ =>
    row.status ≠ .queued ∧ copy.status ≠ .queued ∧ (copy.Finished → row.Finished)
  | _ => True

/-- What the copy of the dispatcher says about the row. -/
def Dispatcher.Fits (row : PluginRun) : Dispatcher → Prop
  | .enqueuing copy => copy.Finished → row.Finished
  | _ => True

/-- The row is the same or has moved on. -/
structure Later (row row' : PluginRun) : Prop where
  notQueued : row.status ≠ .queued → row'.status ≠ .queued
  finished : row.Finished → row'.Finished

lemma Legal.later (h : Legal row row') : Later row row' := by
  refine ⟨fun hrow => ?_, fun hrow => by rw [h.final hrow]; exact hrow⟩
  rcases h.moves with hsame | hmoves
  · rwa [hsame]
  · exact hmoves.not_queued

lemma Phase.Fits.later {phase : Phase} (h : phase.Fits row) (hlater : Later row row') :
    phase.Fits row' := by
  cases phase with
  | loaded copy => exact h
  | created | recorded => exact hlater.notQueued h
  | started copy | queried copy | persisted copy p =>
    exact ⟨hlater.notQueued h.1, h.2.1, fun hcopy => hlater.finished (h.2.2 hcopy)⟩
  | _ => trivial

lemma Dispatcher.Fits.later {d : Dispatcher} (h : d.Fits row) (hlater : Later row row') :
    d.Fits row' := by
  cases d with
  | enqueuing copy => exact fun hcopy => hlater.finished (h hcopy)
  | _ => trivial

/-- Every copy fits the row, and the row is clean. Before there is a row, nobody holds a copy. -/
def Coherent (s : RunSystem) : Prop :=
  match s.row with
  | none => s.dispatcher = .idle ∧ ∀ i, s.invocations i = .new
  | some row => row.Clean ∧ s.dispatcher.Fits row ∧ ∀ i, (s.invocations i).phase.Fits row

lemma coherent_some {d : Dispatcher} {vs : ℕ → Invocation} :
    Coherent ⟨some row, d, vs⟩ ↔ row.Clean ∧ d.Fits row ∧ ∀ i, (vs i).phase.Fits row := Iff.rfl

lemma coherent_none {d : Dispatcher} {vs : ℕ → Invocation} :
    Coherent ⟨none, d, vs⟩ ↔ d = .idle ∧ ∀ i, vs i = .new := Iff.rfl

lemma Coherent.start : Coherent RunSystem.start := coherent_none.mpr ⟨rfl, fun _ => rfl⟩

/-! ## One step -/

/-- A step of an invocation whose copy fits, on a row that is not finished if it is written. -/
lemma Invocation.Steps.legal {a : WorkAction} (h : v.Steps row a row' v')
    (hfits : v.phase.Fits row) (hclean : row.Clean)
    (hallowed : a.writes = true → ¬ row.Finished) :
    (Legal row row' ∧ row'.Clean) ∧ v'.phase.Fits row' := by
  have hsame : Legal row row ∧ row.Clean := ⟨.refl hclean, hclean⟩
  -- a copy that is written back was not finished when it was loaded
  have hcopy : ∀ {copy : PluginRun}, ¬ row.Finished → (copy.Finished → row.Finished) →
      copy.status ≠ .failed ∧ copy.status ≠ .succeeded :=
    fun hrow h => ⟨fun hf => hrow (h (Or.inr hf)), fun hs => hrow (h (Or.inl hs))⟩
  cases h with
  | skip q n h => exact ⟨hsame, trivial⟩
  | load q n h => exact ⟨hsame, h⟩
  | missing copy q n =>
    have hqueued : copy.status = .queued := hfits
    exact ⟨legal_mergeRow_failed (hallowed rfl) (by rw [hqueued]; nofun) rfl, trivial⟩
  | flip copy q n =>
    have hqueued : copy.status = .queued := hfits
    have hne : copy.status ≠ (flipped copy).status := by rw [hqueued]; nofun
    have hrow := hallowed rfl
    -- another worker may have flipped the row already
    have hmoves : (flipped copy).status = row.status ∨ Moves row.status (flipped copy).status := by
      by_cases hstatus : row.status = .queued
      · rw [hstatus]
        exact Or.inr .take
      · exact Or.inl (running_of_not_queued hrow hstatus).symm
    refine ⟨legal_mergeRow_moves hrow hclean hne rfl hmoves, ?_, nofun, ?_⟩
    · rw [mergeRow_status hne]
      nofun
    · rintro (h | h) <;> cases h
  | refreshNew q n => exact ⟨hsame, hfits, hfits, id⟩
  | refreshLast q n => exact ⟨hsame, trivial⟩
  | query copy q n => exact ⟨hsame, hfits⟩
  | persist copy p q n => exact ⟨hsame, hfits⟩
  | succeed copy p x q n =>
    obtain ⟨hrow, hqueued, hfinished⟩ := hfits
    have hopen := hallowed rfl
    have hne : copy.status ≠ (succeeded x copy p).status := (hcopy hopen hfinished).2
    have hmoves : Moves row.status (succeeded x copy p).status := by
      rw [running_of_not_queued hopen hrow]
      exact .succeed
    refine ⟨legal_mergeRow_moves hopen hclean hne rfl (Or.inr hmoves), ?_⟩
    exact mergeRow_not_queued nofun hrow
  -- the handler writes from the copy of the flip
  | failStarted copy x e reason q n =>
    have hopen := hallowed rfl
    exact ⟨legal_mergeRow_failed hopen (hcopy hopen hfits.2.2).1 rfl, trivial⟩
  | failQueried copy x e reason q n =>
    have hopen := hallowed rfl
    exact ⟨legal_mergeRow_failed hopen (hcopy hopen hfits.2.2).1 rfl, trivial⟩
  | giveUp phase reason q n h => exact ⟨hsame, trivial⟩
  | crash phase q n => exact ⟨hsame, trivial⟩

lemma legal_sweepRow (hclean : row.Clean) (cutoff finishedAt : Time) :
    Legal row (sweepRow cutoff finishedAt row) ∧ (sweepRow cutoff finishedAt row).Clean := by
  rcases sweepRow_cases cutoff finishedAt row with hsame | ⟨hopen, hswept⟩
  · rw [hsame]
    exact ⟨.refl hclean, hclean⟩
  · have hclean' : (swept finishedAt row).Clean := fun h => absurd rfl h
    rw [hswept]
    exact ⟨.of_moves hopen hclean' (Or.inr (moves_failed hopen)), hclean'⟩

/-- The row after a legal change, with the copies of before. -/
lemma Coherent.later {d d' : Dispatcher} {vs vs' : ℕ → Invocation}
    (h : Coherent ⟨some row, d, vs⟩) (hlegal : Legal row row' ∧ row'.Clean)
    (hd : d' = d ∨ d'.Fits row') (hvs : ∀ i, vs' i = vs i ∨ (vs' i).phase.Fits row') :
    Coherent ⟨some row', d', vs'⟩ := by
  obtain ⟨-, hfits, hall⟩ := coherent_some.mp h
  refine coherent_some.mpr ⟨hlegal.2, ?_, fun i => ?_⟩
  · rcases hd with rfl | hd
    · exact hfits.later hlegal.1.later
    · exact hd
  · rcases hvs i with hsame | hi
    · rw [hsame]
      exact (hall i).later hlegal.1.later
    · exact hi

/-- **One step.** The row changes along the life cycle, and the copies fit what it is now. -/
lemma Coherent.step {a : RunAction} (h : Coherent s) (hallowed : Unfinished s a)
    (hstep : RunSystem.Steps s a s') :
    Coherent s' ∧ ∀ row, s.row = some row → ∃ row', s'.row = some row' ∧ Legal row row' := by
  cases hstep with
  -- the first two create the row
  | dispatch d vs x plugin caseId inputEntity user =>
    refine ⟨coherent_some.mpr ⟨fun _ => rfl, trivial, fun i => ?_⟩, nofun⟩
    rw [(coherent_none.mp h).2 i]
    trivial
  | runInRequest d vs i x req plugin =>
    refine ⟨coherent_some.mpr ⟨fun _ => rfl, ?_, fun j => ?_⟩, nofun⟩
    · rw [(coherent_none.mp h).1]
      trivial
    · by_cases hj : j = i
      · subst hj
        rw [Function.update_self]
        show RunStatus.running ≠ .queued
        nofun
      · rw [Function.update_of_ne hj, (coherent_none.mp h).2 j]
        trivial
  | refreshQueued row vs =>
    have hclean := (coherent_some.mp h).1
    refine ⟨h.later ⟨.refl hclean, hclean⟩ (Or.inr id) fun i => Or.inl rfl, fun r hr => ?_⟩
    cases hr
    exact ⟨row, rfl, .refl hclean⟩
  | enqueueFails row copy vs =>
    have hopen := hallowed rfl row rfl
    have hfits : copy.Finished → row.Finished := (coherent_some.mp h).2.1
    have hcopy : copy.status ≠ .failed := fun hf => hopen (hfits (Or.inr hf))
    have hlegal : Legal row (mergeRow copy (enqueueFailed copy) row) ∧
        (mergeRow copy (enqueueFailed copy) row).Clean := legal_mergeRow_failed hopen hcopy rfl
    refine ⟨h.later hlegal (Or.inr trivial) fun i => Or.inl rfl, fun r hr => ?_⟩
    cases hr
    exact ⟨_, rfl, hlegal.1⟩
  | settle row d vs hd =>
    cases row with
    | none => exact absurd (coherent_none.mp h).1 hd
    | some row =>
      have hclean := (coherent_some.mp h).1
      refine ⟨h.later ⟨.refl hclean, hclean⟩ (Or.inr trivial) fun i => Or.inl rfl, fun r hr => ?_⟩
      cases hr
      exact ⟨row, rfl, .refl hclean⟩
  | work row row' d vs i a v hv =>
    obtain ⟨hclean, -, hall⟩ := coherent_some.mp h
    have hlegal := hv.legal (hall i) hclean fun hw => hallowed hw row rfl
    refine ⟨h.later hlegal.1 (Or.inl rfl) fun j => ?_, fun r hr => ?_⟩
    · by_cases hj : j = i
      · subst hj
        rw [Function.update_self]
        exact Or.inr hlegal.2
      · exact Or.inl (Function.update_of_ne hj v vs)
    · cases hr
      exact ⟨row', rfl, hlegal.1.1⟩
  | sweep row d vs cutoff finishedAt =>
    have hlegal := legal_sweepRow (coherent_some.mp h).1 cutoff finishedAt
    refine ⟨h.later hlegal (Or.inl rfl) fun i => Or.inl rfl, fun r hr => ?_⟩
    cases hr
    exact ⟨_, rfl, hlegal.1⟩

/-! ## Every run -/

/-- What the life cycle promises at a state of a run. -/
structure KeepsLifecycle (allowed : RunSystem → RunAction → Prop) (s : RunSystem) : Prop where
  moves : ∀ a s', allowed s a → s.step a = some s' → ∀ row, s.row = some row →
    ∃ row', s'.row = some row' ∧ (row'.status = row.status ∨ Moves row.status row'.status)
  final : ∀ s', Reaches RunSystem.step allowed s s' → ∀ row, s.row = some row → row.Finished →
    s'.row = some row
  error : ∀ row, s.row = some row → row.status = .succeeded → row.errorMessage = none

lemma coherent_of_reaches (h : Reaches RunSystem.step Unfinished RunSystem.start s) :
    Coherent s :=
  h.invariant Coherent.start fun _ _ _ hs ha hstep =>
    (hs.step ha (RunSystem.steps_of_step hstep)).1

/-- A finished row stays as it is. -/
lemma Coherent.final (h : Coherent s) (hrow : s.row = some row) (hfinished : row.Finished)
    (hreach : Reaches RunSystem.step Unfinished s s') : s'.row = some row := by
  -- along the rest of the run, together with the coherence of its states
  have hboth : Coherent s' ∧ s'.row = some row := by
    refine hreach.invariant (I := fun s => Coherent s ∧ s.row = some row) ⟨h, hrow⟩ ?_
    intro s₁ a s₂ ⟨hs₁, hrow₁⟩ ha hstep
    obtain ⟨hs₂, hlegal⟩ := hs₁.step ha (RunSystem.steps_of_step hstep)
    obtain ⟨row', hrow', hlegal'⟩ := hlegal row hrow₁
    exact ⟨hs₂, hlegal'.final hfinished ▸ hrow'⟩
  exact hboth.2

/-- **The life cycle of an audit row**, in every run in which no write from a copy finds the row
finished. -/
theorem lifecycle (h : Reaches RunSystem.step Unfinished RunSystem.start s) :
    KeepsLifecycle Unfinished s := by
  have hcoherent := coherent_of_reaches h
  refine ⟨fun a s' ha hstep row hrow => ?_, fun s' hreach row hrow hfinished => ?_,
    fun row hrow hstatus => ?_⟩
  · obtain ⟨row', hrow', hlegal⟩ :=
      (hcoherent.step ha (RunSystem.steps_of_step hstep)).2 row hrow
    exact ⟨row', hrow', hlegal.moves⟩
  · exact hcoherent.final hrow hfinished hreach
  · obtain ⟨r, d, vs⟩ := s
    cases hrow
    exact (coherent_some.mp hcoherent).1 (by rw [hstatus]; nofun)

/-! ### Two runs -/

/-- The dispatch of a run on a domain. -/
def exampleDispatch : RunAction :=
  .dispatch { newId := 7, startedAt := 0, enqueue := .ok () } (domainPlugin danglingResult) 0
    exampleDomain 9

/-- A worker takes the run over and ends it, and the sweep after it finds nothing to do. -/
theorem lifecycle_flipped :
    ∃ s, (runAll RunSystem.step .start
        [exampleDispatch, .work 0 .read, .work 0 .flip, .work 0 .query,
          .work 0 (.persist ⟨[], [], []⟩), .work 0 (.succeed calm), .sweep 1 2] = some s) ∧
      KeepsLifecycle Unfinished s ∧ s.row.map PluginRun.status = some .succeeded := by
  refine ⟨_, rfl, lifecycle (((((((Reaches.start.step exampleDispatch nofun rfl).step
    (.work 0 .read) nofun rfl).step (.work 0 .flip) (fun _ row hrow => ?_) rfl).step
    (.work 0 .query) nofun rfl).step (.work 0 (.persist ⟨[], [], []⟩)) nofun rfl).step
    (.work 0 (.succeed calm)) (fun _ row hrow => ?_) rfl).step (.sweep 1 2) nofun rfl), rfl⟩
  -- the row is queued when it is taken over, and running when it is ended
  · cases hrow
    rintro (h | h) <;> cases h
  · cases hrow
    rintro (h | h) <;> cases h

/-- The worker is slow, and the sweeper fails the run between its two last commits. -/
def sweptActions : List RunAction :=
  [exampleDispatch, .work 0 .read, .work 0 .flip, .work 0 .query, .work 0 (.persist ⟨[], [], []⟩),
    .sweep 1 2, .work 0 (.succeed calm)]

/-- The row comes back from `failed` to `succeeded`, with the sweeper's message. -/
theorem lifecycle_broken :
    ¬ ∀ s, Reaches RunSystem.step (fun _ _ => True) RunSystem.start s →
      KeepsLifecycle (fun _ _ => True) s := by
  intro h
  have hrun : ∃ s, runAll RunSystem.step .start sweptActions = some s ∧ ∃ row, s.row = some row ∧
      row.status = .succeeded ∧ row.errorMessage = some staleErrorMessage :=
    ⟨_, rfl, _, rfl, rfl, rfl⟩
  obtain ⟨s, hs, row, hrow, hstatus, herror⟩ := hrun
  have hclean := (h s (Reaches.start.runAll hs)).error row hrow hstatus
  rw [herror] at hclean
  cases hclean

end Sleuthgraph
