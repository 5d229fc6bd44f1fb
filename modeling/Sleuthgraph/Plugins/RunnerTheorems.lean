import Sleuthgraph.Plugins.Plans

/-!
# What a run leaves committed

`settled` reads off the plan of the work what the `try` of `run` answers and publishes. The
handler commits whatever the session still holds, so a run that raises is atomic only if the
exception came before any write or from a call that rolled back itself (`CleanStop`); and a
session that waits for a rollback keeps the handler from recording the failure at all.
-/

namespace Sleuthgraph

open Programs Transactions Tables

variable (py : Interp)

namespace PluginRunner

/-! ## The handler -/

lemma saveRun_usable {s : Session Store Write Bucket} (hs : s.failed = false)
    {loaded : PluginRun} (hrun : s.work.runs.has loaded.id = true) (run : PluginRun) (lost : Bool) :
    saveRun lost loaded run s
      = if lost then
          (.error Exc.dbApiError, { s.extend [runUpdate loaded run] with failed := true })
        else (.ok (), ⟨s.work.apply (runUpdate loaded run), [], false, s.outside⟩) := by
  have hw : (write false (runUpdate loaded run) : Db Bucket Unit) s
      = (.ok (), s.extend [runUpdate loaded run]) := write_apply hs hrun
  unfold saveRun
  rw [Prog.bind_apply_ok hw]
  cases lost with
  | true => exact commit_lost hs
  | false =>
    refine (commit_apply (s := s.extend [runUpdate loaded run]) hs).trans ?_
    rw [Session.work_extend, if_neg Bool.false_ne_true]
    simp only [Session.extend, hs]
    rfl

lemma saveRun_failed {s : Session Store Write Bucket} (hs : s.failed = true)
    (loaded run : PluginRun) (lost : Bool) :
    saveRun lost loaded run s = (.error Exc.pendingRollbackError, s) :=
  Prog.bind_apply_error (write_failed hs false _)

variable {x : RunExt} {plugin : OSINTPlugin} {run : PluginRun}

/-- In a session that waits for a rollback the handler records nothing. -/
lemma handle_failed {s : Session Store Write Bucket} (hs : s.failed = true) (e : Exc) :
    handle x plugin run e s = (.error (reraised plugin e), s) := by
  unfold handle
  rw [Prog.bind_apply_ok (Prog.tryCatch_apply_error (saveRun_failed hs run _ _))]
  rfl

/-- In a usable session the handler commits all that is pending, with the failure. -/
lemma handle_usable (x : RunExt) (plugin : OSINTPlugin) {s : Session Store Write Bucket}
    (hs : s.failed = false) (hrun : s.work.runs.has run.id = true) (e : Exc) :
    (handle x plugin run e s).1 = .error (reraised plugin e) ∧
    (handle x plugin run e s).2.committed
      = if x.handlerCommit then s.committed
        else s.work.apply (runUpdate run (failed x run e)) := by
  have hsave := saveRun_usable hs hrun (failed x run e) x.handlerCommit
  unfold handle
  cases hlost : x.handlerCommit with
  -- the refused commit is swallowed
  | true =>
    rw [hlost, if_pos rfl] at hsave
    rw [Prog.bind_apply_ok (Prog.tryCatch_apply_error hsave)]
    exact ⟨rfl, rfl⟩
  | false =>
    rw [hlost, if_neg Bool.false_ne_true] at hsave
    rw [Prog.bind_apply_ok (Prog.tryCatch_apply_ok hsave)]
    exact ⟨rfl, rfl⟩

/-! ## The `try` -/

/-- What the `try` of a run answers and leaves committed, by the effect of its work. -/
def settled (x : RunExt) (plugin : OSINTPlugin) (run : PluginRun) (st : Store) :
    Effect Write Exc Persisted → Except Exc RunResult × Store
  | .done p ws =>
    if x.persistCommit then (.error (reraised plugin Exc.dbApiError), st)
    else if x.finalCommit then (.error (reraised plugin Exc.dbApiError), applyAll st ws)
    else if x.finalRefresh then
      (.error (reraised plugin Exc.dbApiError),
        (applyAll st ws).apply (runUpdate run (succeeded x run p)))
    else
      (.ok ⟨succeeded x run p, p.entities, p.relationships, p.evidence⟩,
        (applyAll st ws).apply (runUpdate run (succeeded x run p)))
  | .raised .usable e ws =>
    (.error (reraised plugin e),
      if x.handlerCommit then st else (applyAll st ws).apply (runUpdate run (failed x run e)))
  | .raised .failed e _ => (.error (reraised plugin e), st)
  | .raised .undone e _ =>
    (.error (reraised plugin e),
      if x.handlerCommit then st else st.apply (runUpdate run (failed x run e)))

/-- After the work, the two commits and the refresh. -/
lemma executePlugin_done {req : RunRequest} {s s' : Session Store Write Bucket} {p : Persisted}
    (hwork : work py x req plugin s = (.ok p, s')) (hs : s'.failed = false)
    (hrun : s'.work.runs.has run.id = true) :
    ((attempt py x req plugin run s).1, (attempt py x req plugin run s).2.committed)
      = if x.persistCommit then (.error (reraised plugin Exc.dbApiError), s'.committed)
        else if x.finalCommit then (.error (reraised plugin Exc.dbApiError), s'.work)
        else if x.finalRefresh then
          (.error (reraised plugin Exc.dbApiError),
            s'.work.apply (runUpdate run (succeeded x run p)))
        else
          (.ok ⟨succeeded x run p, p.entities, p.relationships, p.evidence⟩,
            s'.work.apply (runUpdate run (succeeded x run p))) := by
  -- an exception here leaves a session in which the handler records nothing
  have hraise : ∀ {e : Exc} {s'' : Session Store Write Bucket},
      executePlugin py x req plugin run s = (.error e, s'') → s''.failed = true →
        attempt py x req plugin run s = (.error (reraised plugin e), s'') := by
    intro e s'' hexec hfailed
    unfold attempt
    rw [Prog.tryCatch_apply_error hexec, handle_failed hfailed]
  have hexec : executePlugin py x req plugin run s
      = (do
          commit x.persistCommit
          saveRun x.finalCommit run (succeeded x run p)
          query x.finalRefresh fun _ => ()
          pure ⟨succeeded x run p, p.entities, p.relationships, p.evidence⟩ :
            Db Bucket RunResult) s' := Prog.bind_apply_ok hwork
  cases hpersist : x.persistCommit with
  | true =>
    rw [hpersist, Prog.bind_apply_error (commit_lost hs)] at hexec
    rw [hraise hexec rfl]
    rfl
  | false =>
    rw [hpersist, Prog.bind_apply_ok (commit_apply hs)] at hexec
    have hsave := saveRun_usable (s := { s' with committed := s'.work, pending := [] }) hs hrun
      (succeeded x run p) x.finalCommit
    cases hfinal : x.finalCommit with
    | true =>
      rw [hfinal, if_pos rfl] at hsave
      rw [hfinal, Prog.bind_apply_error hsave] at hexec
      rw [hraise hexec rfl]
      rfl
    | false =>
      rw [hfinal, if_neg Bool.false_ne_true] at hsave
      rw [hfinal, Prog.bind_apply_ok hsave] at hexec
      cases hrefresh : x.finalRefresh with
      | true =>
        rw [hrefresh, Prog.bind_apply_error (query_lost rfl _)] at hexec
        rw [hraise hexec rfl]
        rfl
      | false =>
        rw [hrefresh, Prog.bind_apply_ok (query_apply rfl _)] at hexec
        unfold attempt
        rw [Prog.tryCatch_apply_ok hexec]
        rfl

/-- **What the `try` of a run publishes**, from a session without an open transaction. -/
theorem attempt_settled (x : RunExt) (plugin : OSINTPlugin) (req : RunRequest) {st : Store}
    (b : Bucket) (hrun : st.runs.has run.id = true) :
    ((attempt py x req plugin run ⟨st, [], false, b⟩).1,
        (attempt py x req plugin run ⟨st, [], false, b⟩).2.committed)
      = settled x plugin run st (workPlan py x req plugin st b).1 := by
  have hwork := work_runs py x req plugin ⟨st, [], false, b⟩ rfl
  have hgrows := workPlan_grows py x req plugin st b
  simp only [Session.work, applyAll_nil] at hwork
  have hraise : ∀ {e : Exc} {s' : Session Store Write Bucket},
      work py x req plugin ⟨st, [], false, b⟩ = (.error e, s') →
        attempt py x req plugin run ⟨st, [], false, b⟩ = handle x plugin run e s' := by
    intro e s' h
    exact Prog.tryCatch_apply_error (Prog.bind_apply_error h)
  cases hplan : workPlan py x req plugin st b with
  | mk eff b' =>
    rw [hplan] at hwork hgrows
    -- the audit row is still there, since the work does not touch it
    cases eff with
    | done p ws =>
      have hruns : (applyAll st ws).runs = st.runs := hgrows.runs
      refine (executePlugin_done py hwork rfl ?_).trans ?_
      · show (applyAll st ([] ++ ws)).runs.has run.id = true
        rw [List.nil_append, hruns]
        exact hrun
      · simp only [settled, Session.extend, Session.work, List.nil_append]
    | raised how e ws =>
      cases how with
      | usable =>
        have hruns : (applyAll st ws).runs = st.runs := hgrows.runs
        have hhas : (Session.extend ⟨st, [], false, b'⟩ ws).work.runs.has run.id = true := by
          show (applyAll st ([] ++ ws)).runs.has run.id = true
          rw [List.nil_append, hruns]
          exact hrun
        rw [hraise hwork]
        obtain ⟨hres, hcommitted⟩ := handle_usable x plugin rfl hhas e
        rw [hres, hcommitted]
        rfl
      | failed =>
        rw [hraise hwork, handle_failed rfl]
        rfl
      | undone =>
        rw [hraise hwork]
        obtain ⟨hres, hcommitted⟩ := handle_usable x plugin
          (s := Session.rolledBack ⟨st, [], false, b'⟩) rfl hrun e
        rw [hres, hcommitted]
        rfl

/-! ## The audit row -/

/-- The three counts are zero. -/
structure NoCounts (run : PluginRun) : Prop where
  entities : run.entitiesCreatedCount = 0
  relationships : run.relationshipsCreatedCount = 0
  evidence : run.evidenceCount = 0

/-- A change of the final columns, applied to the loaded row, is the changed row. -/
lemma between_set (run : PluginRun) (run' : PluginRun)
    (h : run' = { run with
      status := run'.status
      finishedAt := run'.finishedAt
      errorMessage := run'.errorMessage
      entitiesCreatedCount := run'.entitiesCreatedCount
      relationshipsCreatedCount := run'.relationshipsCreatedCount
      evidenceCount := run'.evidenceCount }) :
    (RunChange.between run run').set run = run' := by
  simp only [RunChange.set, RunChange.between, changed_getD]
  exact h.symm

lemma find_runUpdate {st : Store} (hfind : st.runs.find run.id = some run) {run' : PluginRun}
    (h : (RunChange.between run run').set run = run') :
    (st.apply (runUpdate run run')).runs.find run.id = some run' := by
  have hmodify : (st.runs.modify run.id (RunChange.between run run').set fun _ => rfl).find run.id
      = some ((RunChange.between run run').set run) := Table.find_modify_self hfind
  rw [h] at hmodify
  exact hmodify

lemma find_failed {st : Store} (hfind : st.runs.find run.id = some run) (e : Exc) :
    (st.apply (runUpdate run (failed x run e))).runs.find run.id = some (failed x run e) :=
  find_runUpdate hfind (between_set _ _ rfl)

lemma find_succeeded {st : Store} (hfind : st.runs.find run.id = some run) (p : Persisted) :
    (st.apply (runUpdate run (succeeded x run p))).runs.find run.id = some (succeeded x run p) :=
  find_runUpdate hfind (between_set _ _ rfl)

/-- The tables of data and the graph are the same. -/
structure SameData (st st' : Store) : Prop where
  entities : st'.entities = st.entities
  relationships : st'.relationships = st.relationships
  evidence : st'.evidence = st.evidence
  graph : st'.graph = st.graph

lemma SameData.weight {st st' : Store} (h : SameData st st') : st'.weight = st.weight := by
  rw [Store.weight, Store.weight, h.entities, h.relationships, h.evidence]

lemma SameData.refl (st : Store) : SameData st st := ⟨rfl, rfl, rfl, rfl⟩

/-- The state in which `start` hands a run to the `try`. -/
structure Started (s : Session Store Write Bucket) (run : PluginRun)
    (s' : Session Store Write Bucket) : Prop where
  idle : s'.Idle
  outside : s'.outside = s.outside
  data : SameData s.committed s'.committed
  find : s'.committed.runs.find run.id = some run
  status : run.status = .running
  counts : NoCounts run

/-- The audit row is new, or the dispatcher's. -/
lemma auditRow_started {req : RunRequest} {existingRun : Option PluginRun}
    {s s' : Session Store Write Bucket} (hs : s.Idle)
    (hexisting : ∀ r, existingRun = some r → s.committed.runs.find r.id = some r ∧ NoCounts r)
    (h : auditRow x req plugin existingRun s = (.ok run, s')) : Started s run s' := by
  have hwork := hs.work
  cases existingRun with
  -- a new row, inserted and committed
  | none =>
    dsimp only [auditRow] at h
    by_cases haccepts : Writes.accepts s.work (Write.insertRun (newRun x req plugin)) = true
    · rw [Prog.bind_apply_ok (write_apply hs.failed haccepts)] at h
      cases hcommit : x.auditCommit with
      | true =>
        rw [hcommit, Prog.bind_apply_error (commit_lost (show (Session.extend s _).failed = false
          from hs.failed))] at h
        cases h
      | false =>
        rw [hcommit, Prog.bind_apply_ok (commit_extend hs _)] at h
        cases hrefresh : x.auditRefresh with
        | true =>
          rw [hrefresh, Prog.bind_apply_error (query_lost rfl _)] at h
          cases h
        | false =>
          rw [hrefresh, Prog.bind_apply_ok (query_apply rfl _)] at h
          cases h
          have hnew : s.committed.runs.has (newRun x req plugin).id = false := by
            rw [hwork] at haccepts
            exact accepts_insertRun haccepts
          exact ⟨⟨rfl, rfl⟩, rfl, ⟨rfl, rfl, rfl, rfl⟩,
            Table.find_eq_some_iff.mpr ⟨(Table.mem_insert hnew).mpr (Or.inr rfl), rfl⟩, rfl,
            ⟨rfl, rfl, rfl⟩⟩
    · have hrefused : (false || !Writes.accepts s.work (Write.insertRun (newRun x req plugin)))
          = true := by simpa using haccepts
      rw [Prog.bind_apply_error (write_refused hs.failed hrefused)] at h
      cases h
  -- the row of the dispatcher, flipped if it is not running yet
  | some r =>
    obtain ⟨hfind, hcounts⟩ := hexisting r rfl
    have hhas : s.work.runs.has r.id = true := by
      rw [hwork]
      exact Table.has_of_find hfind
    dsimp only [auditRow] at h
    split at h
    · have hsave := saveRun_usable hs.failed hhas { r with status := .running } x.auditCommit
      cases hlost : x.auditCommit with
      | true =>
        rw [hlost, if_pos rfl] at hsave
        rw [hlost, Prog.bind_apply_error hsave] at h
        cases h
      | false =>
        rw [hlost, if_neg Bool.false_ne_true] at hsave
        rw [hlost, Prog.bind_apply_ok hsave] at h
        cases h
        rw [hwork]
        exact ⟨⟨rfl, rfl⟩, rfl, ⟨rfl, rfl, rfl, rfl⟩,
          find_runUpdate hfind (between_set _ _ rfl), rfl, hcounts.entities,
          hcounts.relationships, hcounts.evidence⟩
    · rename_i hstatus
      cases h
      exact ⟨hs, rfl, SameData.refl _, hfind, by simpa using hstatus, hcounts⟩

/-- A run gets to its `try` by its three checks and its audit row. -/
lemma start_ok {req : RunRequest} {existingRun : Option PluginRun}
    {s s' : Session Store Write Bucket} :
    start x req existingRun s = (.ok (plugin, run), s') ↔
      req.registry.get req.pluginName = .ok plugin ∧
        assertPluginAllowed req.enterprise plugin.premium = .ok () ∧
          checkInputType plugin req.inputEntity = .ok () ∧
            auditRow x req plugin existingRun s = (.ok run, s') := by
  unfold start
  cases req.registry.get req.pluginName with
  | error e => simp [Prog.ofExcept]
  | ok found =>
    simp only [Prog.ofExcept, pure_bind, Except.ok.injEq]
    cases hallowed : assertPluginAllowed req.enterprise found.premium with
    | error e =>
      constructor
      · intro h
        cases h
      · intro ⟨hfound, hok, _⟩
        rw [← hfound, hallowed] at hok
        cases hok
    | ok u =>
      cases hcheck : checkInputType found req.inputEntity with
      | error e =>
        simp only [pure_bind]
        constructor
        · intro h
          cases h
        · intro ⟨hfound, _, hok, _⟩
          rw [← hfound, hcheck] at hok
          cases hok
      | ok v =>
        simp only [pure_bind]
        cases hrow : auditRow x req found existingRun s with
        | mk r s'' =>
          cases r with
          | error e =>
            rw [Prog.bind_apply_error hrow]
            constructor
            · intro h
              cases h
            · intro ⟨hfound, _, _, hok⟩
              rw [← hfound, hrow] at hok
              cases hok
          | ok row =>
            rw [Prog.bind_apply_ok hrow]
            constructor
            · intro h
              cases h
              exact ⟨rfl, hallowed, hcheck, hrow⟩
            · intro ⟨hfound, _, _, hok⟩
              rw [← hfound, hrow] at hok
              cases hok
              rw [hfound]
              rfl

lemma start_started {req : RunRequest} {existingRun : Option PluginRun}
    {s s' : Session Store Write Bucket} (hs : s.Idle)
    (hexisting : ∀ r, existingRun = some r → s.committed.runs.find r.id = some r ∧ NoCounts r)
    (h : start x req existingRun s = (.ok (plugin, run), s')) : Started s run s' :=
  auditRow_started hs hexisting (start_ok.mp h).2.2.2

lemma auditRow_new {req : RunRequest} {s : Session Store Write Bucket} (hs : s.Idle)
    (haccepts : s.committed.accepts (.insertRun (newRun x req plugin)) = true)
    (hcommit : x.auditCommit = false) (hrefresh : x.auditRefresh = false) :
    auditRow x req plugin none s = (.ok (newRun x req plugin),
      ⟨s.committed.apply (.insertRun (newRun x req plugin)), [], false, s.outside⟩) := by
  have hw : (write false (.insertRun (newRun x req plugin)) : Db Bucket Unit) s
      = (.ok (), s.extend [.insertRun (newRun x req plugin)]) :=
    write_apply hs.failed (hs.work.symm ▸ haccepts)
  dsimp only [auditRow]
  rw [Prog.bind_apply_ok hw, hcommit, Prog.bind_apply_ok (commit_extend hs _), hrefresh,
    Prog.bind_apply_ok (query_apply rfl _)]
  rfl

/-- The row of the dispatcher is taken over, if the commit goes through. -/
lemma auditRow_taken {req : RunRequest} {s : Session Store Write Bucket} (hs : s.Idle)
    {r : PluginRun} (hfind : s.committed.runs.find r.id = some r)
    (hcommit : x.auditCommit = false) :
    ∃ run s', auditRow x req plugin (some r) s = (.ok run, s') := by
  dsimp only [auditRow]
  split
  · have hhas : s.work.runs.has r.id = true := by
      rw [hs.work]
      exact Table.has_of_find hfind
    have hsave := saveRun_usable hs.failed hhas { r with status := .running } x.auditCommit
    rw [hcommit, if_neg Bool.false_ne_true] at hsave
    rw [hcommit, Prog.bind_apply_ok hsave]
    exact ⟨_, _, rfl⟩
  · exact ⟨r, s, rfl⟩

/-- A run without an audit row that passes the checks gets to its `try`. -/
lemma start_new {req : RunRequest} {s : Session Store Write Bucket} (hs : s.Idle)
    (hget : req.registry.get req.pluginName = .ok plugin)
    (hallowed : assertPluginAllowed req.enterprise plugin.premium = .ok ())
    (hcheck : checkInputType plugin req.inputEntity = .ok ())
    (haccepts : s.committed.accepts (.insertRun (newRun x req plugin)) = true)
    (hcommit : x.auditCommit = false) (hrefresh : x.auditRefresh = false) :
    start x req none s = (.ok (plugin, newRun x req plugin),
      ⟨s.committed.apply (.insertRun (newRun x req plugin)), [], false, s.outside⟩) :=
  start_ok.mpr ⟨hget, hallowed, hcheck, auditRow_new hs haccepts hcommit hrefresh⟩

/-! ## Runs that go through -/

/-- The session in which the `try` begins. -/
lemma Started.session_eq {s s' : Session Store Write Bucket} (h : Started s run s') :
    s' = ⟨s'.committed, [], false, s'.outside⟩ := by
  obtain ⟨hpending, hfailed⟩ := h.idle
  cases s'
  simp_all

/-- What a run that goes through has come by: its start, its work, and its final row. -/
structure WentThrough (x : RunExt) (req : RunRequest) (plugin : OSINTPlugin)
    (existingRun : Option PluginRun) (s s' : Session Store Write Bucket) (r : RunResult)
    (run : PluginRun) (p : Persisted) (begun : Session Store Write Bucket) (ws : List Write) :
    Prop where
  start : start x req existingRun s = (.ok (plugin, run), begun)
  work : (workPlan py x req plugin begun.committed begun.outside).1 = .done p ws
  result : r = ⟨succeeded x run p, p.entities, p.relationships, p.evidence⟩
  committed : s'.committed
    = (applyAll begun.committed ws).apply (runUpdate run (succeeded x run p))

lemma settled_ok {plugin : OSINTPlugin} {st st' : Store} {eff : Effect Write Exc Persisted}
    {r : RunResult} (h : settled x plugin run st eff = (.ok r, st')) :
    ∃ p ws, eff = .done p ws ∧
      r = ⟨succeeded x run p, p.entities, p.relationships, p.evidence⟩ ∧
        st' = (applyAll st ws).apply (runUpdate run (succeeded x run p)) := by
  cases eff with
  | raised how e ws => cases how <;> cases h
  | done p ws =>
    dsimp only [settled] at h
    split at h
    · cases h
    · split at h
      · cases h
      · split at h
        · cases h
        · cases h
          exact ⟨p, ws, rfl, rfl, rfl⟩

lemma run_ok {req : RunRequest} {existingRun : Option PluginRun}
    {s s' : Session Store Write Bucket} {r : RunResult} (hs : s.Idle)
    (hexisting : ∀ r, existingRun = some r → s.committed.runs.find r.id = some r ∧ NoCounts r)
    (h : PluginRunner.run py x req existingRun s = (.ok r, s')) :
    ∃ plugin run p begun ws, WentThrough py x req plugin existingRun s s' r run p begun ws := by
  unfold PluginRunner.run at h
  cases hstart : start x req existingRun s with
  | mk answer begun =>
    cases answer with
    | error e =>
      rw [Prog.bind_apply_error hstart] at h
      cases h
    | ok pair =>
      obtain ⟨plugin, run⟩ := pair
      rw [Prog.bind_apply_ok hstart] at h
      have hstarted := start_started hs hexisting hstart
      have hsettled := attempt_settled py x plugin req begun.outside
        (Table.has_of_find hstarted.find)
      rw [← hstarted.session_eq, show attempt py x req plugin run begun = (.ok r, s') from h]
        at hsettled
      obtain ⟨p, ws, hwork, hr, hcommitted⟩ := settled_ok hsettled.symm
      exact ⟨plugin, run, p, begun, ws, hstart, hwork, hr, hcommitted⟩

/-- A run whose start and work go through goes through, if its commits and its refresh do. -/
lemma run_of_done {req : RunRequest} {existingRun : Option PluginRun}
    {s begun : Session Store Write Bucket} {p : Persisted} {ws : List Write} (hs : s.Idle)
    (hexisting : ∀ r, existingRun = some r → s.committed.runs.find r.id = some r ∧ NoCounts r)
    (hstart : start x req existingRun s = (.ok (plugin, run), begun))
    (hwork : (workPlan py x req plugin begun.committed begun.outside).1 = .done p ws)
    (hpersist : x.persistCommit = false) (hfinal : x.finalCommit = false)
    (hrefresh : x.finalRefresh = false) :
    ∃ s', PluginRunner.run py x req existingRun s
        = (.ok ⟨succeeded x run p, p.entities, p.relationships, p.evidence⟩, s') ∧
      s'.committed = (applyAll begun.committed ws).apply (runUpdate run (succeeded x run p)) := by
  have hstarted := start_started hs hexisting hstart
  have hsettled := attempt_settled py x plugin req begun.outside (Table.has_of_find hstarted.find)
  rw [← hstarted.session_eq, hwork] at hsettled
  simp only [settled, hpersist, hfinal, hrefresh, if_neg Bool.false_ne_true] at hsettled
  obtain ⟨hanswer, hcommitted⟩ := Prod.mk.inj hsettled
  refine ⟨(attempt py x req plugin run begun).2, ?_, hcommitted⟩
  unfold PluginRunner.run
  rw [Prog.bind_apply_ok hstart]
  exact Prod.ext hanswer rfl

/-! ## Atomicity -/

/-- Nothing is left of the run but its failure in the audit row. -/
structure Atomic (st st' : Store) (runId : UUID) : Prop where
  data : SameData st st'
  failed : ∃ row, st'.runs.find runId = some row ∧ row.status = .failed ∧ NoCounts row

/-- The work comes to an end that the rest of the `try` can record: it goes through and so do
both commits and the refresh; or it raises before it has written anything, or from a call that
has rolled back, and the commit of the handler goes through. -/
def CleanStop (x : RunExt) : Effect Write Exc Persisted → Prop
  | .done _ _ => x.persistCommit = false ∧ x.finalCommit = false ∧ x.finalRefresh = false
  | .raised .usable _ ws => ws = [] ∧ x.handlerCommit = false
  | .raised .failed _ _ => False
  | .raised .undone _ _ => x.handlerCommit = false

/-- The failure of a run that has written nothing. -/
lemma atomic_failed {st st' : Store} (hdata : SameData st st')
    (hfind : st'.runs.find run.id = some run) (hcounts : NoCounts run) (e : Exc) :
    Atomic st (st'.apply (runUpdate run (failed x run e))) run.id :=
  ⟨⟨hdata.entities, hdata.relationships, hdata.evidence, hdata.graph⟩,
    _, find_failed hfind e, rfl, hcounts.entities, hcounts.relationships, hcounts.evidence⟩

/-- A row of another status records no failure. -/
lemma not_atomic {st st' : Store} {runId : UUID} {row : PluginRun}
    (hfind : st'.runs.find runId = some row) (hstatus : row.status ≠ .failed) :
    ¬ Atomic st st' runId := by
  rintro ⟨-, row', hrow', hfailed, -⟩
  rw [hfind] at hrow'
  exact hstatus (Option.some.inj hrow' ▸ hfailed)

lemma settled_atomic_iff (plugin : OSINTPlugin) {st st' : Store}
    {eff : Effect Write Exc Persisted} (hdata : SameData st st')
    (hfind : st'.runs.find run.id = some run) (hstatus : run.status = .running)
    (hcounts : NoCounts run) (hgrows : Grows st' eff.writes) :
    (∀ e, (settled x plugin run st' eff).1 = .error e →
      Atomic st (settled x plugin run st' eff).2 run.id) ↔ CleanStop x eff := by
  have hrunning : run.status ≠ .failed := by rw [hstatus]; decide
  cases eff with
  | done p ws =>
    have hfind' : (applyAll st' ws).runs.find run.id = some run := by
      rw [show (applyAll st' ws).runs = st'.runs from hgrows.runs, hfind]
    simp only [settled, CleanStop]
    cases x.persistCommit with
    -- the handler finds a session that waits for a rollback, and the row stays `running`
    | true => simpa using not_atomic hfind hrunning
    | false =>
      cases x.finalCommit with
      | true => simpa using not_atomic hfind' hrunning
      | false =>
        cases x.finalRefresh with
        -- the row says `succeeded`, and the run raises all the same
        | true =>
          simpa using not_atomic (find_succeeded hfind' p) nofun
        | false => simp
  | raised how e ws =>
    cases how with
    | usable =>
      simp only [settled, CleanStop]
      cases x.handlerCommit with
      | true => simpa using not_atomic hfind hrunning
      | false =>
        simp only [Except.error.injEq, Bool.false_eq_true, if_false, forall_eq', and_true]
        constructor
        · intro hatomic
          by_contra hws
          -- what was flushed is committed with the failure
          have hlt : st'.weight < (applyAll st' ws).weight := hgrows.weight hws
          have hsame : (applyAll st' ws).weight = st.weight := hatomic.data.weight
          rw [hsame, hdata.weight] at hlt
          exact lt_irrefl _ hlt
        · rintro rfl
          exact atomic_failed hdata hfind hcounts e
    | failed => simpa [settled, CleanStop] using not_atomic hfind hrunning
    | undone =>
      simp only [settled, CleanStop]
      cases x.handlerCommit with
      | true => simpa using not_atomic hfind hrunning
      | false => simpa using atomic_failed hdata hfind hcounts e

end PluginRunner

/-! ### A run -/

/-- The input of the run. -/
def exampleDomain : Entity where
  id := 1
  caseId := 0
  type := "DOMAIN"
  label := "example.com"
  attrs := .dict []
  confidence := 1
  createdBy := none
  createdAt := 0
  updatedAt := 0
  deletedAt := none

/-- The database that holds it. -/
def domainStore : Store :=
  { Store.empty with
    entities := ⟨[exampleDomain], List.nodup_singleton _⟩
    graph := ⟨[⟨exampleDomain.vertexKey, vertexProps plainInterp exampleDomain⟩], []⟩ }

/-- A plugin that answers `result` for every domain. -/
def domainPlugin (result : QueryResult) : OSINTPlugin where
  name := "p"
  version := "1"
  entityTypesAccepted := [.domain]
  requiresCredentials := false
  dispatchMode := .async
  premium := false
  query _ _ := .ok result

def domainRegistry (result : QueryResult) : PluginRegistry :=
  ⟨[domainPlugin result], List.nodup_singleton _, by simp [domainPlugin]⟩

def domainRequest (result : QueryResult) : RunRequest where
  registry := domainRegistry result
  enterprise := false
  vault _ _ := .ok none
  pluginName := "p"
  caseId := 0
  inputEntity := exampleDomain
  createdBy := none
  credentials := none

/-- A world in which every statement gets through. -/
def calm : RunExt where
  newId := 9
  startedAt := 0
  finishedAt := 1
  entity i := { newId := 10 + i, now := 0 }
  relationship i := { newId := 20 + i, now := 0 }
  evidence i := { newId := 30 + i, now := 0 }
  blob _ := {}

/-- One entity, and a relationship to a `ref` that no proposal has. -/
def danglingResult : QueryResult where
  entities := [⟨"a", .person, "alice", [], 1⟩]
  relationships :=
    [⟨[("input", .bool true)], [("ref", .str "b")], .associatedWith, 1, []⟩]
  evidence := []

/-- A session without an open transaction on the database of the input. -/
def domainSession : Session Store Write Bucket := ⟨domainStore, [], false, []⟩

lemma domainSession_idle : domainSession.Idle := ⟨rfl, rfl⟩

lemma domain_start (result : QueryResult) :
    PluginRunner.start calm (domainRequest result) none domainSession
      = (.ok (domainPlugin result,
            PluginRunner.newRun calm (domainRequest result) (domainPlugin result)),
          ⟨domainStore.apply (.insertRun
            (PluginRunner.newRun calm (domainRequest result) (domainPlugin result))),
            [], false, []⟩) := by
  refine PluginRunner.start_new domainSession_idle rfl rfl rfl ?_ rfl rfl
  simp only [Store.accepts, PluginRunner.newRun, domainPlugin]
  decide

end Sleuthgraph
