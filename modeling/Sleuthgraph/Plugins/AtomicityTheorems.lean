import Sleuthgraph.Plugins.HurdleTheorems

/-!
# When a run is atomic

The handler of `run` commits whatever the session still holds. So a run that raises leaves
nothing but its failure only if it stops at a hurdle before any row was written, or at one that
a repository rolls back from; a statement of the session that does not get through keeps the
handler from recording the failure at all.
-/

namespace Sleuthgraph

open Programs Transactions Tables Hurdle

variable (py : Interp)

namespace PluginRunner

/-- The run comes to an end that can be recorded: nothing stops its work, and the two commits and
the refresh get through; or what stops it is no statement of the session, a check only before any
row is written, and the commit of the handler gets through. -/
def StopsClean (x : RunExt) (hs : List Hurdle) : Prop :=
  Ends hs (x.persistCommit = false ∧ x.finalCommit = false ∧ x.finalRefresh = false)
    fun how written =>
      how ≠ .failed ∧ (how = .usable → written = false) ∧ x.handlerCommit = false

variable {x : RunExt} {hs : List Hurdle}

/-- An effect that meets the hurdles stops clean as they say. -/
lemma cleanStop_iff {eff : Effect Write Exc Persisted} (h : eff.Meets hs) :
    CleanStop x eff ↔ StopsClean x hs := by
  cases h with
  | done hstop hwrites => exact (ends_of_none hstop).symm
  | raised hstop hwrites =>
    rename_i how e ws written
    rw [StopsClean, ends_of_some hstop]
    cases how with
    | usable =>
      have hws : ws = [] ↔ written = false := by
        rw [← not_iff_not, Bool.not_eq_false]
        exact hwrites rfl
      simp [CleanStop, hws]
    | failed => simp [CleanStop]
    | undone => simp [CleanStop]

/-- **When a run is atomic.** From a session without an open transaction, with the audit row of
the dispatcher or none: a run that raises in its `try` leaves nothing but the failure in the
audit row, exactly when it stops clean at the hurdles of its inputs. -/
theorem run_atomic_iff {x : RunExt} {req : RunRequest} {existingRun : Option PluginRun}
    {plugin : OSINTPlugin} {run : PluginRun} {s s' : Session Store Write Bucket} (hs : s.Idle)
    (hexisting : ∀ r, existingRun = some r → s.committed.runs.find r.id = some r ∧ NoCounts r)
    (hstart : start x req existingRun s = (.ok (plugin, run), s')) :
    (∀ e s'', PluginRunner.run py x req existingRun s = (.error e, s'') →
      Atomic s.committed s''.committed run.id) ↔
      StopsClean x (workHurdles py x req plugin s.committed s.outside) := by
  have hstarted := start_started hs hexisting hstart
  have hrun : PluginRunner.run py x req existingRun s = attempt py x req plugin run s' :=
    Prog.bind_apply_ok hstart
  have hsession : s' = ⟨s'.committed, [], false, s'.outside⟩ := hstarted.session_eq
  have hhas : s'.committed.runs.has run.id = true := Table.has_of_find hstarted.find
  have hsettled := attempt_settled py x plugin req s'.outside hhas
  rw [← hsession] at hsettled
  have hres := congrArg Prod.fst hsettled
  have hcommitted := congrArg Prod.snd hsettled
  dsimp only at hres hcommitted
  have hmeets : (workPlan py x req plugin s'.committed s'.outside).1.Meets
      (workHurdles py x req plugin s.committed s'.outside) := workPlan_meets py hstarted.data
  rw [← hstarted.outside, ← cleanStop_iff hmeets, ← settled_atomic_iff plugin hstarted.data
    hstarted.find hstarted.status hstarted.counts
    (workPlan_grows py x req plugin s'.committed s'.outside), ← hres, ← hcommitted, hrun]
  constructor
  · intro h e he
    exact h e _ (Prod.ext he rfl)
  · intro h e s'' hs''
    rw [hs''] at h
    exact h e rfl

end PluginRunner

/-! ### A dangling ref -/

theorem run_atomic_iff_dangling :
    (∀ e s'', PluginRunner.run plainInterp calm (domainRequest danglingResult) none domainSession
        = (.error e, s'') →
      PluginRunner.Atomic domainSession.committed s''.committed 9) ↔
      PluginRunner.StopsClean calm (workHurdles plainInterp calm (domainRequest danglingResult)
        (domainPlugin danglingResult) domainStore []) :=
  PluginRunner.run_atomic_iff plainInterp domainSession_idle (by intro _ h; cases h)
    (domain_start danglingResult)

/-- The unknown `ref` is met when alice is already flushed, and the handler commits her. -/
theorem run_not_atomic :
    ¬ ∀ (py : Interp) (x : RunExt) (req : RunRequest) (existingRun : Option PluginRun)
      (plugin : OSINTPlugin) (run : PluginRun) (s s' : Session Store Write Bucket), s.Idle →
      (∀ r, existingRun = some r →
        s.committed.runs.find r.id = some r ∧ PluginRunner.NoCounts r) →
      PluginRunner.start x req existingRun s = (.ok (plugin, run), s') →
      ∀ e s'', PluginRunner.run py x req existingRun s = (.error e, s'') →
        PluginRunner.Atomic s.committed s''.committed run.id := by
  intro h
  have hraised : (PluginRunner.run plainInterp calm (domainRequest danglingResult) none
      domainSession).1.isOk = false := by decide +kernel
  have hentities : (PluginRunner.run plainInterp calm (domainRequest danglingResult) none
      domainSession).2.committed.entities.rows.length = 2 := by decide +kernel
  cases hrun : PluginRunner.run plainInterp calm (domainRequest danglingResult) none
      domainSession with
  | mk r s'' =>
    rw [hrun] at hraised hentities
    cases r with
    | ok a => cases hraised
    | error e =>
      have hatomic := h plainInterp calm (domainRequest danglingResult) none _ _ domainSession _
        domainSession_idle (by intro _ h; cases h) (domain_start danglingResult) e s'' hrun
      rw [hatomic.data.entities] at hentities
      cases hentities

end Sleuthgraph
