import Sleuthgraph.Queue.Tasks
import Sleuthgraph.Plugins.HurdleTheorems

/-!
# The task's answer and the audit row

The task flips the row to `running` before the runner makes its own checks, and the runner's
handler covers its `try` only. So the answer agrees with the row when the input is there, the
checks pass, and the work is not stopped by a statement of the session, after which the handler
records nothing.
-/

namespace Sleuthgraph

open Programs Transactions Tables PluginRunner Hurdle

variable (py : Interp)

/-- The statements of the task and of the `try` get through. -/
structure TaskExt.Working (x : TaskExt) : Prop where
  runLookup : x.runLookup = false
  inputLookup : x.inputLookup = false
  missingCommit : x.missingCommit = false
  flipCommit : x.flipCommit = false
  persistCommit : x.run.persistCommit = false
  finalCommit : x.run.finalCommit = false
  finalRefresh : x.run.finalRefresh = false
  handlerCommit : x.run.handlerCommit = false

/-- The row says what the answer says, and says it completely. -/
structure Agrees (answer : TaskAnswer) (row : PluginRun) : Prop where
  terminal : row.status = .succeeded ∨ row.status = .failed
  status : answer.status = row.status.value
  finished : row.finishedAt ≠ none
  error : row.errorMessage ≠ none ↔ row.status = .failed

/-- The input entity of a run, if its row is still there. -/
def inputOf (st : Store) (run : PluginRun) : Option Entity :=
  run.inputEntityId.bind fun entityId => st.entities.find entityId

/-- The work of a run leaves its end to be recorded: it goes through, and the row has no error
yet; or it raises and the session is not left waiting for a rollback. -/
def Recorded (run : PluginRun) : Effect Write Exc Persisted → Prop
  | .done _ _ => run.errorMessage = none
  | .raised .failed _ _ => False
  | .raised _ _ _ => True

/-- What stops the work is no statement of the session, and where nothing does the row has no
error yet. -/
def Recordable (run : PluginRun) (hs : List Hurdle) : Prop :=
  Ends hs (run.errorMessage = none) fun how _ => how ≠ .failed

/-- An effect that meets the hurdles can be recorded as they say. -/
lemma recorded_iff {run : PluginRun} {eff : Effect Write Exc Persisted} {hs : List Hurdle}
    (h : eff.Meets hs) : Recorded run eff ↔ Recordable run hs := by
  cases h with
  | done hstop hwrites => exact (ends_of_none hstop).symm
  | raised hstop hwrites =>
    rename_i how e ws written
    rw [Recordable, ends_of_some hstop]
    cases how <;> simp [Recorded]

/-- The run passes the runner's checks, and its work can be recorded. -/
structure Ready (x : TaskExt) (w : Worker) (st : Store) (b : Bucket) (run : PluginRun)
    (inputEntity : Entity) (plugin : OSINTPlugin) : Prop where
  registered : w.registry.get run.pluginName = .ok plugin
  allowed : assertPluginAllowed w.enterprise plugin.premium = .ok ()
  accepted : checkInputType plugin inputEntity = .ok ()
  recorded : Recordable run
    (workHurdles py x.run (w.request (flipped run) inputEntity) plugin st b)

variable {x : TaskExt} {w : Worker} {st : Store} {b : Bucket} {run : PluginRun}

/-! ## The runner on a row that is running -/

lemma auditRow_running {x : RunExt} {req : RunRequest} {plugin : OSINTPlugin}
    (h : run.status = .running) : auditRow x req plugin (some run) = pure run := by
  dsimp only [auditRow]
  rw [if_neg (by simpa using h)]

/-- The checks before the `try` pass. -/
structure Checked (w : Worker) (run : PluginRun) (inputEntity : Entity) (plugin : OSINTPlugin) :
    Prop where
  registered : w.registry.get run.pluginName = .ok plugin
  allowed : assertPluginAllowed w.enterprise plugin.premium = .ok ()
  accepted : checkInputType plugin inputEntity = .ok ()

/-- The checks pass, and the runner is in its `try`. -/
lemma run_checked {inputEntity : Entity} {plugin : OSINTPlugin}
    (h : Checked w run inputEntity plugin) (x : RunExt) (hstatus : run.status = .running) :
    PluginRunner.run py x (w.request run inputEntity) (some run)
      = attempt py x (w.request run inputEntity) plugin run := by
  unfold PluginRunner.run start
  simp only [Prog.ofExcept, Worker.request, h.registered, h.allowed, h.accepted, pure_bind,
    auditRow_running hstatus]

/-- A check that fails raises before the `try`. -/
lemma run_not_checked {inputEntity : Entity} (h : ∀ plugin, ¬ Checked w run inputEntity plugin)
    (x : RunExt) :
    ∃ e, PluginRunner.run py x (w.request run inputEntity) (some run) = throw e := by
  unfold PluginRunner.run start
  simp only [Worker.request]
  cases hget : w.registry.get run.pluginName with
  | error e => exact ⟨e, rfl⟩
  | ok plugin =>
    cases hallowed : assertPluginAllowed w.enterprise plugin.premium with
    | error e =>
      refine ⟨e, ?_⟩
      simp only [Prog.ofExcept, pure_bind, hallowed]
      rfl
    | ok u =>
      cases hcheck : checkInputType plugin inputEntity with
      | error e =>
        refine ⟨e, ?_⟩
        simp only [Prog.ofExcept, pure_bind, hallowed, hcheck]
        rfl
      | ok v => exact absurd ⟨hget, hallowed, hcheck⟩ (h plugin)

/-! ## What the task answers and leaves -/

/-- The answer that goes with what the runner returns or raises. -/
def answerOf : Except Exc RunResult → TaskAnswer
  | .ok result => .succeeded result.run.entitiesCreatedCount
      result.run.relationshipsCreatedCount result.run.evidenceCount
  | .error e => .failed e.typeName

lemma runTask_apply (inputEntity : Entity) (s : Session Store Write Bucket) :
    runTask py x w run inputEntity s
      = (.ok (answerOf (PluginRunner.run py x.run (w.request run inputEntity) (some run) s).1),
          (PluginRunner.run py x.run (w.request run inputEntity) (some run) s).2) := by
  unfold runTask
  rw [Prog.tryCatch_apply, Prog.bind_apply]
  cases PluginRunner.run py x.run (w.request run inputEntity) (some run) s with
  | mk r s' => cases r <;> rfl

/-- The session in which the task starts. -/
abbrev freshSession (st : Store) (b : Bucket) : Session Store Write Bucket := ⟨st, [], false, b⟩

/-- The call of the runner leaves what the work of the plugin settles, once the checks pass. -/
lemma runTask_checked {inputEntity : Entity} {plugin : OSINTPlugin}
    (h : Checked w run inputEntity plugin) (hstatus : run.status = .running)
    (hfind : st.runs.find run.id = some run) :
    (runTask py x w run inputEntity (freshSession st b)).1
        = .ok (answerOf (settled x.run plugin run st
            (workPlan py x.run (w.request run inputEntity) plugin st b).1).1) ∧
      (runTask py x w run inputEntity (freshSession st b)).2.committed
        = (settled x.run plugin run st
            (workPlan py x.run (w.request run inputEntity) plugin st b).1).2 := by
  rw [runTask_apply, run_checked py h x.run hstatus, ← attempt_settled py x.run plugin
    (w.request run inputEntity) b (Table.has_of_find hfind)]
  exact ⟨rfl, rfl⟩

/-- A check that fails leaves the row as it is. -/
lemma runTask_not_checked (st : Store) {inputEntity : Entity}
    (h : ∀ plugin, ¬ Checked w run inputEntity plugin) :
    ∃ reason, runTask py x w run inputEntity (freshSession st b)
      = (.ok (.failed reason), freshSession st b) := by
  obtain ⟨e, hthrow⟩ := run_not_checked py h x.run
  refine ⟨e.typeName, ?_⟩
  rw [runTask_apply, hthrow]
  rfl

lemma loadInput_apply (hx : x.Working) :
    loadInput x run (freshSession st b) = (.ok (inputOf st run), freshSession st b) := by
  unfold loadInput inputOf
  cases run.inputEntityId with
  | none => rfl
  | some entityId =>
    dsimp only
    rw [hx.inputLookup]
    exact query_apply rfl _

lemma saveRun_fresh (run' : PluginRun) (hfind : st.runs.find run.id = some run) :
    saveRun false run run' (freshSession st b)
      = (.ok (), freshSession (st.apply (runUpdate run run')) b) :=
  saveRun_usable (s := freshSession st b) rfl (Table.has_of_find hfind) run' false

/-- A task that finds its row queued has read the row and looked its input up. -/
lemma runPluginTask_queued (hx : x.Working) {runId : UUID}
    (hrun : st.runs.find runId = some run) (hqueued : run.status = .queued) :
    runPluginTask py x w runId (freshSession st b)
      = (match inputOf st run with
        | none => do
          saveRun x.missingCommit run (missingInput run)
          pure (.failed "missing_input_entity")
        | some inputEntity => do
          saveRun x.flipCommit run (flipped run)
          runTask py x w (flipped run) inputEntity : Db Bucket TaskAnswer) (freshSession st b) := by
  have hlookup : (query x.runLookup fun st => st.runs.find runId : Db Bucket _)
      (freshSession st b) = (.ok (some run), freshSession st b) := by
    rw [hx.runLookup, query_apply rfl]
    exact congrArg (fun r => (Except.ok r, freshSession st b)) hrun
  unfold runPluginTask
  rw [Prog.bind_apply_ok hlookup]
  dsimp only
  rw [if_neg (by simpa using hqueued)]
  refine (Prog.bind_apply_ok (loadInput_apply hx)).trans ?_
  cases inputOf st run <;> rfl

lemma runPluginTask_missing (hx : x.Working) {runId : UUID}
    (hrun : st.runs.find runId = some run) (hqueued : run.status = .queued)
    (hinput : inputOf st run = none) :
    runPluginTask py x w runId (freshSession st b)
      = (.ok (.failed "missing_input_entity"),
          freshSession (st.apply (runUpdate run (missingInput run))) b) := by
  obtain ⟨-, rfl⟩ := Table.find_eq_some_iff.mp hrun
  rw [runPluginTask_queued py hx hrun hqueued, hinput]
  dsimp only
  rw [hx.missingCommit, Prog.bind_apply_ok (saveRun_fresh _ hrun)]
  rfl

lemma runPluginTask_input (hx : x.Working) {runId : UUID} {inputEntity : Entity}
    (hrun : st.runs.find runId = some run) (hqueued : run.status = .queued)
    (hinput : inputOf st run = some inputEntity) :
    runPluginTask py x w runId (freshSession st b)
      = runTask py x w (flipped run) inputEntity
          (freshSession (st.apply (runUpdate run (flipped run))) b) := by
  obtain ⟨-, rfl⟩ := Table.find_eq_some_iff.mp hrun
  rw [runPluginTask_queued py hx hrun hqueued, hinput]
  dsimp only
  rw [hx.flipCommit, Prog.bind_apply_ok (saveRun_fresh _ hrun)]

/-! ## Agreement -/

/-- The row that a task leaves agrees with its answer. -/
def Answers (py : Interp) (x : TaskExt) (w : Worker) (st : Store) (b : Bucket) (runId : UUID) :
    Prop :=
  ∀ answer s', runPluginTask py x w runId (freshSession st b) = (.ok answer, s') →
    ∃ row, s'.committed.runs.find runId = some row ∧ Agrees answer row

lemma agrees_failed {row : PluginRun} {reason : String} (hstatus : row.status = .failed)
    (hfinished : row.finishedAt ≠ none) (herror : row.errorMessage ≠ none) :
    Agrees (.failed reason) row :=
  ⟨Or.inr hstatus, by rw [hstatus]; rfl, hfinished, iff_of_true herror hstatus⟩

lemma not_agrees_running {row : PluginRun} {answer : TaskAnswer} (hstatus : row.status = .running) :
    ¬ Agrees answer row := by
  rintro ⟨hterminal, -, -, -⟩
  rw [hstatus] at hterminal
  rcases hterminal with h | h <;> cases h

lemma answers_iff {runId : UUID} {answer : TaskAnswer} {s' : Session Store Write Bucket}
    (h : runPluginTask py x w runId (freshSession st b) = (.ok answer, s')) :
    Answers py x w st b runId ↔
      ∃ row, s'.committed.runs.find runId = some row ∧ Agrees answer row := by
  constructor
  · intro hall
    exact hall answer s' h
  · intro hex answer' s'' h'
    rw [h] at h'
    cases h'
    exact hex

/-- What the runner leaves of a row that is running. -/
lemma settled_agrees_iff {x : RunExt} {plugin : OSINTPlugin} (hpersist : x.persistCommit = false)
    (hfinal : x.finalCommit = false) (hrefresh : x.finalRefresh = false)
    (hhandler : x.handlerCommit = false) (hfind : st.runs.find run.id = some run)
    (hstatus : run.status = .running) {eff : Effect Write Exc Persisted}
    (hgrows : Grows st eff.writes) :
    (∃ row, (settled x plugin run st eff).2.runs.find run.id = some row ∧
      Agrees (answerOf (settled x plugin run st eff).1) row) ↔ Recorded run eff := by
  have hfailed : ∀ {st' : Store} (e e' : Exc), st'.runs.find run.id = some run →
      ∃ row, (st'.apply (runUpdate run (failed x run e))).runs.find run.id = some row ∧
        Agrees (answerOf (.error e')) row :=
    fun e _ h => ⟨_, find_failed h e,
      agrees_failed rfl (Option.some_ne_none _) (Option.some_ne_none _)⟩
  cases eff with
  -- success leaves the error of the row as it was
  | done p ws =>
    have hfind' : (applyAll st ws).runs.find run.id = some run := by
      rw [show (applyAll st ws).runs = st.runs from hgrows.runs, hfind]
    simp only [settled, hpersist, hfinal, hrefresh, Bool.false_eq_true, if_false, Recorded,
      find_succeeded hfind' p, Option.some.injEq, exists_eq_left']
    constructor
    · intro h
      by_contra hne
      cases h.error.mp hne
    · intro h
      have hne : RunStatus.succeeded ≠ .failed := by decide
      exact ⟨Or.inl rfl, rfl, Option.some_ne_none _, iff_of_false (fun hsome => hsome h) hne⟩
  | raised how e ws =>
    cases how with
    | usable =>
      have hfind' : (applyAll st ws).runs.find run.id = some run := by
        rw [show (applyAll st ws).runs = st.runs from hgrows.runs, hfind]
      simp only [settled, hhandler, Bool.false_eq_true, if_false, Recorded, iff_true]
      exact hfailed e _ hfind'
    -- the handler records nothing
    | failed =>
      simp only [settled, Recorded, iff_false]
      rintro ⟨found, hrow, hagrees⟩
      rw [hfind] at hrow
      exact not_agrees_running hstatus (Option.some.inj hrow ▸ hagrees)
    | undone =>
      simp only [settled, hhandler, Bool.false_eq_true, if_false, Recorded, iff_true]
      exact hfailed e _ hfind

/-- The checks of the runner decide, and then what can be recorded. -/
lemma answers_input_iff (hx : x.Working) {runId : UUID} {inputEntity : Entity}
    (hrun : st.runs.find runId = some run) (hqueued : run.status = .queued)
    (hinput : inputOf st run = some inputEntity) :
    Answers py x w st b runId ↔ ∃ plugin, Ready py x w st b run inputEntity plugin := by
  obtain ⟨-, rfl⟩ := Table.find_eq_some_iff.mp hrun
  have htask := runPluginTask_input py (w := w) (b := b) hx hrun hqueued hinput
  have hfind : (st.apply (runUpdate run (flipped run))).runs.find run.id = some (flipped run) :=
    find_runUpdate hrun (between_set _ _ rfl)
  by_cases hchecks : ∃ plugin, Checked w (flipped run) inputEntity plugin
  · obtain ⟨plugin, hchecked⟩ := hchecks
    obtain ⟨hanswer, hcommitted⟩ := runTask_checked py (x := x) (b := b) hchecked rfl hfind
    rw [answers_iff py (htask.trans (Prod.ext hanswer rfl)), hcommitted]
    have hdata : SameData st (st.apply (runUpdate run (flipped run))) := ⟨rfl, rfl, rfl, rfl⟩
    refine (settled_agrees_iff hx.persistCommit hx.finalCommit hx.finalRefresh hx.handlerCommit
      hfind rfl (workPlan_grows py _ _ _ _ _)).trans ?_
    refine (recorded_iff (workPlan_meets py hdata)).trans ?_
    constructor
    · intro hrecorded
      exact ⟨plugin, hchecked.registered, hchecked.allowed, hchecked.accepted, hrecorded⟩
    · intro ⟨plugin', hready⟩
      obtain rfl : plugin = plugin' :=
        Except.ok.inj (hchecked.registered.symm.trans hready.registered)
      exact hready.recorded
  · obtain ⟨reason, hfailed⟩ := runTask_not_checked py (x := x) (b := b)
      (st.apply (runUpdate run (flipped run))) fun plugin h => hchecks ⟨plugin, h⟩
    rw [answers_iff py (htask.trans hfailed)]
    refine iff_of_false ?_ fun ⟨plugin, hready⟩ =>
      hchecks ⟨plugin, hready.registered, hready.allowed, hready.accepted⟩
    -- the row is left as the task flipped it
    intro ⟨found, hrow, hagrees⟩
    obtain rfl : flipped run = found := Option.some.inj (hfind.symm.trans hrow)
    exact not_agrees_running rfl hagrees

/-- **When the task's answer agrees with the audit row**, for a queued row and a database whose
statements get through. -/
theorem task_agrees_iff (hx : x.Working) {runId : UUID} (hrun : st.runs.find runId = some run)
    (hqueued : run.status = .queued) :
    Answers py x w st b runId ↔
      (inputOf st run = none ∧ run.finishedAt ≠ none) ∨
      ∃ inputEntity plugin, inputOf st run = some inputEntity ∧
        Ready py x w st b run inputEntity plugin := by
  cases hinput : inputOf st run with
  -- the row is failed without a `finished_at`
  | none =>
    rw [answers_iff py (runPluginTask_missing py hx hrun hqueued hinput)]
    obtain ⟨-, rfl⟩ := Table.find_eq_some_iff.mp hrun
    have hfind : (st.apply (runUpdate run (missingInput run))).runs.find run.id
        = some (missingInput run) := find_runUpdate hrun (between_set _ _ rfl)
    constructor
    · intro ⟨found, hrow, hagrees⟩
      refine Or.inl ⟨rfl, ?_⟩
      have hrow' := Option.some.inj (hfind.symm.trans hrow)
      exact (hrow' ▸ hagrees).finished
    · rintro (⟨-, hfinished⟩ | ⟨_, _, h, -⟩)
      · exact ⟨_, hfind, agrees_failed rfl hfinished nofun⟩
      · cases h
  | some inputEntity =>
    rw [answers_input_iff py hx hrun hqueued hinput]
    constructor
    · intro ⟨plugin, hready⟩
      exact Or.inr ⟨inputEntity, plugin, rfl, hready⟩
    · rintro (⟨h, -⟩ | ⟨inputEntity', plugin, h, hready⟩)
      · cases h
      · cases h
        exact ⟨plugin, hready⟩

/-! ### A task -/

/-- The row of the dispatcher for the entity 1. -/
def queuedRun : PluginRun where
  id := 7
  caseId := 0
  inputEntityId := some 1
  pluginName := "p"
  pluginVersion := "1"
  startedAt := 0
  finishedAt := none
  status := .queued
  errorMessage := none
  entitiesCreatedCount := 0
  relationshipsCreatedCount := 0
  evidenceCount := 0
  createdBy := none

/-- An entity and the queued run on it. -/
def queuedStore (input : Entity) : Store :=
  { Store.empty with
    entities := ⟨[input], nodup_one input⟩
    runs := ⟨[queuedRun], nodup_one queuedRun⟩ }

def calmTask : TaskExt := { run := calm }

lemma calmTask_working : calmTask.Working := ⟨rfl, rfl, rfl, rfl, rfl, rfl, rfl, rfl⟩

/-- A worker whose one plugin takes domains. -/
def domainWorker : Worker := ⟨domainRegistry danglingResult, false, fun _ _ => .ok none⟩

theorem task_agrees_iff_domain :
    Answers plainInterp calmTask domainWorker (queuedStore exampleDomain) [] 7 ↔
      (inputOf (queuedStore exampleDomain) queuedRun = none ∧ queuedRun.finishedAt ≠ none) ∨
      ∃ inputEntity plugin, inputOf (queuedStore exampleDomain) queuedRun = some inputEntity ∧
        Ready plainInterp calmTask domainWorker (queuedStore exampleDomain) [] queuedRun
          inputEntity plugin :=
  task_agrees_iff plainInterp calmTask_working rfl rfl

/-- The input of a type that the plugin does not take: the dispatcher queues it all the same. -/
def examplePerson : Entity := { exampleDomain with type := "PERSON" }

/-- The runner's check raises outside its `try`, and the row stays `running`. -/
theorem task_disagrees :
    ¬ ∀ (py : Interp) (x : TaskExt) (w : Worker) (st : Store) (b : Bucket) (runId : UUID)
      (run : PluginRun), x.Working → st.runs.find runId = some run → run.status = .queued →
      Answers py x w st b runId := by
  intro h
  have hanswers := h plainInterp calmTask domainWorker (queuedStore examplePerson) [] 7 queuedRun
    calmTask_working rfl rfl
  obtain ⟨plugin, hready⟩ :=
    (answers_input_iff plainInterp calmTask_working rfl rfl rfl).mp
      hanswers
  obtain rfl : domainPlugin danglingResult = plugin := Except.ok.inj hready.registered
  cases hready.accepted

end Sleuthgraph
