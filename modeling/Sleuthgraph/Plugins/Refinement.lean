import Sleuthgraph.Plugins.Lifecycle
import Sleuthgraph.Queue.TasksTheorems

/-!
# The code refines the system of writers

A writer that has the row to itself, in its own session and whatever statements and commits are
refused, leaves the row that some actions of the system of `Plugins.Lifecycle` leave. For
`run_plugin_task` the answer is also the one of its invocation.
-/

namespace Sleuthgraph

open PluginRunner Systems Programs Transactions Tables

variable {row row' run : PluginRun} {v v' : Invocation} {s : RunSystem}

/-! ## Runs of one invocation -/

/-- One step of an invocation that has the row for itself. -/
def Invocation.advance (rv : PluginRun × Invocation) (a : WorkAction) :
    Option (PluginRun × Invocation) := rv.2.step rv.1 a

/-- What a task answers, as the phase of its invocation. -/
def Phase.Reports : Phase → Except Exc TaskAnswer → Prop
  | phase, .ok answer => phase = .returned answer
  | phase, .error _ => phase = .gone

/-- Some actions of an invocation lead to the row in `st` and to the answer `r`. -/
def Traces (id : UUID) (row : PluginRun) (v : Invocation) (r : Except Exc TaskAnswer)
    (st : Store) : Prop :=
  ∃ actions row' v', runAll Invocation.advance (row, v) actions = some (row', v') ∧
    st.runs.find id = some row' ∧ v'.phase.Reports r

section

variable {id : UUID} {r : Except Exc TaskAnswer} {st : Store}

lemma Traces.done (hfind : st.runs.find id = some row) (h : v.phase.Reports r) :
    Traces id row v r st := ⟨[], row, v, rfl, hfind, h⟩

lemma Traces.step (a : WorkAction) (h : v.step row a = some (row', v'))
    (hrest : Traces id row' v' r st) : Traces id row v r st := by
  obtain ⟨actions, row'', v'', hrun, hlast⟩ := hrest
  refine ⟨a :: actions, row'', v'', ?_, hlast⟩
  rw [runAll_cons, show Invocation.advance (row, v) a = some (row', v') from h]
  exact hrun

end

/-- The steps of an invocation are steps of the system. -/
lemma runAll_work {i : ℕ} (hrow : s.row = some row) {actions : List WorkAction}
    (h : runAll Invocation.advance (row, s.invocations i) actions = some (row', v')) :
    runAll RunSystem.step s (actions.map (.work i))
      = some { s with row := some row', invocations := Function.update s.invocations i v' } := by
  induction actions generalizing s row with
  | nil =>
    cases h
    rw [Function.update_eq_self, ← hrow]
    rfl
  | cons a actions ih =>
    rw [runAll_cons] at h
    cases hstep : Invocation.advance (row, s.invocations i) a with
    | none =>
      rw [hstep] at h
      cases h
    | some rv =>
      obtain ⟨row₁, v₁⟩ := rv
      rw [hstep] at h
      have hsys : s.step (.work i a) = some { s with
          row := some row₁
          invocations := Function.update s.invocations i v₁ } := by
        simp only [RunSystem.step, hrow]
        rw [show (s.invocations i).step row a = some (row₁, v₁) from hstep]
        rfl
      have hrest := ih (s := { s with
        row := some row₁
        invocations := Function.update s.invocations i v₁ }) rfl
      simp only [Function.update_self, Function.update_idem] at hrest
      rw [List.map_cons, runAll_cons, hsys, Option.bind_some, hrest h]

/-! ## `run_plugin_task` -/

section

variable (py : Interp) {w : Worker} {st : Store} {b : Bucket} {q n : ℕ}

/-- What the `try` of the runner publishes, as actions on a row that is running. -/
lemma settled_traces {x : RunExt} {plugin : OSINTPlugin} (hfind : st.runs.find run.id = some run)
    {eff : Effect Write Exc Persisted} (hgrows : Grows st eff.writes) :
    Traces run.id run ⟨.started run, q, n⟩ (.ok (answerOf (settled x plugin run st eff).1))
      (settled x plugin run st eff).2 := by
  -- a copy that is the row is written back as it is
  have hmerge : ∀ {run' : PluginRun}, (RunChange.between run run').set run = run' →
      mergeRow run run' run = run' := id
  have hfind' : (applyAll st eff.writes).runs.find run.id = some run := by
    rw [show (applyAll st eff.writes).runs = st.runs from hgrows.runs, hfind]
  cases eff with
  -- the proposals, the final status and the refresh: the first that is refused ends the run
  | done p ws =>
    refine .step .query rfl ?_
    dsimp only [settled]
    by_cases hpersist : x.persistCommit = true
    · rw [if_pos hpersist]
      exact .step (.giveUp _) rfl (.done hfind rfl)
    rw [if_neg hpersist]
    refine .step (.persist p) rfl ?_
    by_cases hfinal : x.finalCommit = true
    · rw [if_pos hfinal]
      exact .step (.giveUp _) rfl (.done hfind' rfl)
    rw [if_neg hfinal]
    refine .step (.succeed x)
      (congrArg (fun row => some (row, _)) (hmerge (between_set _ _ rfl))) ?_
    by_cases hrefresh : x.finalRefresh = true
    · rw [if_pos hrefresh]
      exact .step (.giveUp _) rfl (.done (find_succeeded hfind' p) rfl)
    · rw [if_neg hrefresh]
      exact .step .refresh rfl (.done (find_succeeded hfind' p) rfl)
  | raised how e ws =>
    refine .step .query rfl ?_
    have hfail : mergeRow run (failed x run e) run = failed x run e := hmerge (between_set _ _ rfl)
    -- the handler, on what is left of the transaction
    have hhandled : ∀ {st' : Store}, st'.runs.find run.id = some run →
        Traces run.id run ⟨.queried run, q + 1, n⟩
          (.ok (.failed (reraised plugin e).typeName))
          (if x.handlerCommit then st else st'.apply (runUpdate run (failed x run e))) := by
      intro st' hst'
      by_cases hhandler : x.handlerCommit = true
      · rw [if_pos hhandler]
        exact .step (.giveUp _) rfl (.done hfind rfl)
      · rw [if_neg hhandler]
        exact .step (.fail x e _) (congrArg (fun row => some (row, _)) hfail)
          (.done (find_failed hst' e) rfl)
    cases how with
    | usable => exact hhandled hfind'
    | failed => exact .step (.giveUp _) rfl (.done hfind rfl)
    | undone => exact hhandled hfind

/-- The call of the runner from the task, on the row that the task has flipped. -/
lemma runTask_traces {x : TaskExt} (hrun : run.status = .running)
    (hfind : st.runs.find run.id = some run) (inputEntity : Entity) :
    Traces run.id run ⟨.started run, q, n⟩
      (runTask py x w run inputEntity (freshSession st b)).1
      (runTask py x w run inputEntity (freshSession st b)).2.committed := by
  by_cases hchecks : ∃ plugin, Checked w run inputEntity plugin
  · obtain ⟨plugin, hchecked⟩ := hchecks
    obtain ⟨hanswer, hcommitted⟩ := runTask_checked py (x := x) (b := b) hchecked hrun hfind
    rw [hanswer, hcommitted]
    exact settled_traces hfind (workPlan_grows py _ _ _ _ _)
  · -- a check has raised before the `try`
    obtain ⟨reason, hfailed⟩ := runTask_not_checked py (x := x) (b := b) st
      fun plugin h => hchecks ⟨plugin, h⟩
    rw [hfailed]
    exact .step (.giveUp reason) rfl (.done hfind rfl)

/-- The commit of a change of the row, in a session that has read it. -/
lemma saveRun_refused (run' : PluginRun) (hfind : st.runs.find run.id = some run) :
    ∃ s', saveRun true run run' (freshSession st b) = (.error Exc.dbApiError, s') ∧
      s'.committed = st :=
  ⟨_, saveRun_usable (s := freshSession st b) rfl (Table.has_of_find hfind) run' true, rfl⟩

/-- The lookup of the input answers, or the session has failed. -/
lemma loadInput_cases (st : Store) (b : Bucket) (x : TaskExt) (run : PluginRun) :
    loadInput x run (freshSession st b) = (.ok (inputOf st run), freshSession st b) ∨
    ∃ s', loadInput x run (freshSession st b) = (.error Exc.dbApiError, s') ∧
      s'.committed = st := by
  unfold loadInput inputOf
  cases run.inputEntityId with
  | none => exact Or.inl rfl
  | some entityId =>
    dsimp only
    cases x.inputLookup with
    | true => exact Or.inr ⟨_, query_lost rfl _, rfl⟩
    | false => exact Or.inl (query_apply rfl _)

/-- A task in its own session does what an invocation does. -/
lemma runPluginTask_traces (x : TaskExt) (hfind : st.runs.find run.id = some run) :
    Traces run.id run .new (runPluginTask py x w run.id (freshSession st b)).1
      (runPluginTask py x w run.id (freshSession st b)).2.committed := by
  unfold runPluginTask
  -- every statement that is refused is a crash: the task raises, and the row stays
  cases x.runLookup with
  | true =>
    rw [Prog.bind_apply_error (query_lost rfl _)]
    exact .step .crash rfl (.done hfind rfl)
  | false =>
    have hquery : (query false fun st => st.runs.find run.id : Db Bucket _) (freshSession st b)
        = (.ok (some run), freshSession st b) :=
      (query_apply rfl _).trans (congrArg (fun r => (Except.ok r, freshSession st b)) hfind)
    rw [Prog.bind_apply_ok hquery]
    dsimp only
    by_cases hqueued : run.status = .queued
    · rw [if_neg (not_not.mpr hqueued)]
      have hread : Invocation.new.step run .read = some (run, ⟨.loaded run, 0, 0⟩) := by
        simp only [Invocation.step, Invocation.new, if_neg (not_not.mpr hqueued)]
      refine .step .read hread ?_
      have hmerge : ∀ {run' : PluginRun}, (RunChange.between run run').set run = run' →
          mergeRow run run' run = run' := id
      rcases loadInput_cases st b x run with hinput | ⟨s', hinput, hs'⟩
      · rw [Prog.bind_apply_ok hinput]
        cases inputOf st run with
        | none =>
          dsimp only
          cases x.missingCommit with
          | true =>
            obtain ⟨s', hsave, hs'⟩ := saveRun_refused (b := b) (missingInput run) hfind
            rw [Prog.bind_apply_error hsave]
            exact .step .crash rfl (.done (hs' ▸ hfind) rfl)
          | false =>
            rw [Prog.bind_apply_ok (saveRun_fresh _ hfind)]
            exact .step .missing
              (congrArg (fun row => some (row, _)) (hmerge (between_set _ (missingInput run) rfl)))
              (.done (find_runUpdate hfind (between_set _ _ rfl)) rfl)
        | some inputEntity =>
          dsimp only
          cases x.flipCommit with
          | true =>
            obtain ⟨s', hsave, hs'⟩ := saveRun_refused (b := b) (flipped run) hfind
            rw [Prog.bind_apply_error hsave]
            exact .step .crash rfl (.done (hs' ▸ hfind) rfl)
          | false =>
            rw [Prog.bind_apply_ok (saveRun_fresh _ hfind)]
            refine .step .flip
              (congrArg (fun row => some (row, _)) (hmerge (between_set _ (flipped run) rfl))) ?_
            have hflipped : (st.apply (runUpdate run (flipped run))).runs.find (flipped run).id
                = some (flipped run) := find_runUpdate hfind (between_set _ _ rfl)
            exact runTask_traces py rfl hflipped inputEntity
      · rw [Prog.bind_apply_error hinput]
        exact .step .crash rfl (.done (hs' ▸ hfind) rfl)
    · rw [if_pos hqueued]
      have hread : Invocation.new.step run .read = some (run, ⟨.returned .skipped, 0, 0⟩) := by
        simp only [Invocation.step, Invocation.new, if_pos hqueued]
      exact .step .read hread (.done hfind rfl)

/-- **The task refines the system**: where an invocation of the system has the row to itself, a
task in its own session is a run of the system by that invocation. -/
theorem task_refines (x : TaskExt) (i : ℕ) (hrow : s.row = some run)
    (hnew : s.invocations i = .new) (hfind : st.runs.find run.id = some run) :
    ∃ actions : List WorkAction, ∃ s', runAll RunSystem.step s (actions.map (.work i)) = some s' ∧
      s'.row = (runPluginTask py x w run.id (freshSession st b)).2.committed.runs.find run.id ∧
      (s'.invocations i).phase.Reports (runPluginTask py x w run.id (freshSession st b)).1 := by
  obtain ⟨actions, row', v', hrun, hfind', hreports⟩ :=
    runPluginTask_traces py (w := w) (b := b) x hfind
  have hself : Function.update s.invocations i v' i = v' := by rw [Function.update_self]
  exact ⟨actions, _, runAll_work hrow (by rw [hnew]; exact hrun), hfind'.symm,
    hself.symm ▸ hreports⟩

/-! ## `run_plugin` and `sweep_stuck_runs` -/

/-- What the dispatcher leaves in its own session, from a store without the row. -/
theorem dispatch_refines (x : DispatchExt) (plugin : OSINTPlugin) (caseId : UUID)
    (inputEntity : Entity) (user : UUID) (hnew : st.runs.has x.newId = false) :
    ∃ actions s', runAll RunSystem.step .start actions = some s' ∧
      s'.row = (dispatchRun x plugin caseId inputEntity user
        (freshSession st b)).2.committed.runs.find x.newId := by
  have habsent : st.runs.find x.newId = none := Table.find_eq_none_iff.mpr hnew
  unfold dispatchRun
  generalize hrun : queuedRow x plugin caseId inputEntity user = run
  have hid : x.newId = run.id := hrun ▸ rfl
  obtain ⟨dispatch, hdispatch⟩ : ∃ a : RunAction, RunSystem.step .start a
      = some ⟨some run, .created, fun _ => .new⟩ :=
    ⟨.dispatch x plugin caseId inputEntity user, hrun ▸ rfl⟩
  by_cases haccepts : Writes.accepts (freshSession st b).work (Write.insertRun run) = true
  -- the row is there from the commit on; what is refused before leaves none
  · rw [Prog.bind_apply_ok (write_apply rfl haccepts)]
    cases x.commit with
    | true =>
      rw [Prog.bind_apply_error (commit_lost rfl)]
      exact ⟨[], _, rfl, habsent.symm⟩
    | false =>
      have hcommit : (commit false : Db Bucket Unit) ((freshSession st b).extend [.insertRun run])
          = (.ok (), freshSession (st.apply (.insertRun run)) b) := commit_extend ⟨rfl, rfl⟩ _
      rw [Prog.bind_apply_ok hcommit]
      have hfind : (st.runs.insert run).find run.id = some run := Table.find_eq_some_iff.mpr
        ⟨(Table.mem_insert (show st.runs.has run.id = false from hid ▸ hnew)).mpr (Or.inr rfl), rfl⟩
      have hinserted : (st.apply (.insertRun run)).runs.find run.id = some run := hfind
      rw [hid]
      cases x.refresh with
      | true =>
        rw [Prog.bind_apply_error (query_lost rfl _)]
        refine ⟨[dispatch, .settle], ⟨some run, .finished, fun _ => .new⟩, ?_, hfind.symm⟩
        rw [runAll_cons, hdispatch]
        rfl
      | false =>
        rw [Prog.bind_apply_ok (query_apply rfl _)]
        cases x.enqueue with
        | ok u =>
          refine ⟨[dispatch, .settle], ⟨some run, .finished, fun _ => .new⟩, ?_, hfind.symm⟩
          rw [runAll_cons, hdispatch]
          rfl
        | error e =>
          dsimp only
          cases x.failCommit with
          | true =>
            obtain ⟨s', hsave, hs'⟩ := saveRun_refused (b := b) (enqueueFailed run) hinserted
            rw [Prog.bind_apply_error hsave]
            refine ⟨[dispatch, .settle], ⟨some run, .finished, fun _ => .new⟩, ?_, ?_⟩
            · rw [runAll_cons, hdispatch]
              rfl
            · exact hfind.symm.trans (congrArg (fun st => st.runs.find run.id) hs'.symm)
          | false =>
            rw [Prog.bind_apply_ok (saveRun_fresh _ hinserted)]
            refine ⟨[dispatch, .refreshQueued, .enqueueFails],
              ⟨some (enqueueFailed run), .finished, fun _ => .new⟩, ?_, ?_⟩
            · rw [runAll_cons, hdispatch]
              have hmerge : mergeRow run (enqueueFailed run) run = enqueueFailed run :=
                between_set _ _ rfl
              exact congrArg
                (fun row => some (RunSystem.mk (some row) .finished fun _ => .new)) hmerge
            · exact (find_runUpdate hinserted (between_set _ (enqueueFailed run) rfl)).symm
  · rw [Prog.bind_apply_error (write_refused rfl (by simpa using haccepts))]
    exact ⟨[], _, rfl, habsent.symm⟩

end

/-- What the sweeper leaves, on a row that is there. -/
theorem sweep_refines (thresholdMinutes : ℤ) (now now' : Time) {runs : Table PluginRun}
    (hfind : s.row = runs.find row.id) (hrow : s.row = some row) :
    ∃ s', s.step (.sweep (now - thresholdMinutes * minute) now') = some s' ∧
      s'.row = (sweepStuckRuns thresholdMinutes now now' runs).1.find row.id := by
  obtain ⟨r, d, vs⟩ := s
  cases hrow
  refine ⟨_, rfl, ?_⟩
  rw [find_sweepStuckRuns, ← hfind]
  rfl

end Sleuthgraph
