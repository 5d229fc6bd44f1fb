import Sleuthgraph.Plugins.FactTheorems
import Sleuthgraph.Plugins.RunnerTheorems
import Sleuthgraph.Plugins.TextTheorems

/-!
# Runs that fail on the network (`plugins/runner.py`)

`_classify_error` calls just the HTTP errors `upstream_network_error` that are neither a timeout
nor an error of the status. What persisting raises is none of them, so a run that has come to its
query fails on the network just when the query does.
-/

namespace Sleuthgraph

open Programs Transactions Tables

/-! ## Classes of errors -/

/-- An HTTP error that the taxonomy calls `upstream_network_error`. -/
def Exc.Network (e : Exc) : Prop :=
  e.isinstance "HTTPError" = true ∧ e.isinstance "TimeoutException" = false ∧
    e.isinstance "HTTPStatusError" = false

instance (e : Exc) : Decidable e.Network := inferInstanceAs (Decidable (_ ∧ _))

/-- The message begins with `upstream_network_error`. -/
def BlamesNetwork (message : String) : Prop :=
  "upstream_network_error".toList <+: message.toList

/-- Texts that differ early: the one is no beginning of the other. -/
lemma not_prefix_of_take {p q r : List Char} (k : ℕ) (hp : k ≤ p.length) (hq : k ≤ q.length)
    (hne : p.take k ≠ q.take k) : ¬ p <+: q ++ r := by
  intro ⟨t, ht⟩
  have htake := congrArg (List.take k) ht
  rw [List.take_append_of_le_length hp, List.take_append_of_le_length hq] at htake
  exact hne htake

/-- The taxonomy blames the network for just these errors. -/
theorem blamesNetwork_iff {e : Exc} : BlamesNetwork (classifyError e) ↔ e.Network := by
  have hlabel : ∀ label t : String,
      (label ++ ":" ++ t).toList = label.toList ++ ':' :: t.toList := by
    intro label t
    rw [String.toList_append, String.toList_append, List.append_assoc]
    rfl
  have hother : ∀ (label t : String) (k : ℕ), k ≤ 22 → k ≤ label.toList.length →
      "upstream_network_error".toList.take k ≠ label.toList.take k →
        ¬ BlamesNetwork (label ++ ":" ++ t) := by
    intro label t k hk hlen hne hblames
    have hwords : "upstream_network_error".toList.length = 22 := by decide
    rw [BlamesNetwork, hlabel] at hblames
    exact not_prefix_of_take k (hwords ▸ hk) hlen hne hblames
  unfold classifyError errorTaxonomy Exc.Network
  cases htimeout : e.isinstance "TimeoutException" with
  | true =>
    simp only [List.find?_cons, htimeout]
    exact iff_of_false (hother _ _ 10 (by decide) (by decide) (by decide)) (by simp)
  | false =>
    cases hstatus : e.isinstance "HTTPStatusError" with
    | true =>
      simp only [List.find?_cons, htimeout, hstatus]
      exact iff_of_false (hother _ _ 10 (by decide) (by decide) (by decide)) (by simp)
    | false =>
      cases hhttp : e.isinstance "HTTPError" with
      | true =>
        simp only [List.find?_cons, htimeout, hstatus, hhttp]
        refine iff_of_true ?_ (by simp)
        rw [BlamesNetwork, hlabel]
        exact List.prefix_append _ _
      | false =>
        refine iff_of_false ?_ (by simp)
        simp only [List.find?_cons, htimeout, hstatus, hhttp]
        cases e.isinstance "ValueError" with
        | true => exact hother _ _ 10 (by decide) (by decide) (by decide)
        | false =>
          cases e.isinstance "PluginCredentialMissingError" with
          | true => exact hother _ _ 10 (by decide) (by decide) (by decide)
          | false =>
            cases e.isinstance "PluginExecutionError" with
            | true => exact hother _ _ 10 (by decide) (by decide) (by decide)
            | false => exact hother "unknown" _ 2 (by decide) (by decide) (by decide)

/-! ## The end of a run -/

/-- The audit row says that the run has failed, and the message begins with
`upstream_network_error`. -/
def FailedOnNetwork (st : Store) (runId : UUID) : Prop :=
  ∃ row message, st.runs.find runId = some row ∧ row.status = .failed ∧
    row.errorMessage = some message ∧ BlamesNetwork message

/-- A run that has come to its query: it is started, the credentials are there, and the database
will take the failure if there is one. -/
structure Querying (x : RunExt) (req : RunRequest) (existingRun : Option PluginRun)
    (plugin : OSINTPlugin) (credentials : Option PyDict) (run : PluginRun)
    (s begun : Session Store Write Bucket) : Prop where
  idle : s.Idle
  existing : ∀ r, existingRun = some r →
    s.committed.runs.find r.id = some r ∧ PluginRunner.NoCounts r
  start : PluginRunner.start x req existingRun s = (.ok (plugin, run), begun)
  resolved : PluginRunner.resolveCredentials x req plugin begun = (.ok credentials, begun)
  handled : x.handlerCommit = false

/-- A first part that is done without writes. -/
lemma Plan.bind_of_done {α β : Type} {p : Plan Store Write Bucket Exc α}
    {f : α → Plan Store Write Bucket Exc β} {st : Store} {b b' : Bucket} {a : α}
    (h : p st b = (.done a [], b')) : p.bind f st b = f a st b' := by
  unfold Plan.bind
  rw [h]
  dsimp only
  rw [applyAll_nil]
  cases f a st b' with
  | mk eff b'' => cases eff <;> rfl

section Querying

variable (py : Interp) {x : RunExt} {req : RunRequest} {existingRun : Option PluginRun}
variable {plugin : OSINTPlugin} {credentials : Option PyDict} {run : PluginRun}
variable {s begun : Session Store Write Bucket}

lemma Querying.started (h : Querying x req existingRun plugin credentials run s begun) :
    PluginRunner.Started s run begun :=
  PluginRunner.start_started h.idle h.existing h.start

/-- The session of the query has no open transaction. -/
lemma Querying.session (h : Querying x req existingRun plugin credentials run s begun) :
    begun.work = begun.committed ∧ begun.failed = false :=
  ⟨h.started.idle.work, h.started.idle.failed⟩

/-- Finding the credentials does nothing to the transaction. -/
lemma Querying.plan (h : Querying x req existingRun plugin credentials run s begun) :
    credentialsPlan x req plugin begun.committed begun.outside
      = (.done credentials [], begun.outside) := by
  obtain ⟨ws, o, hplan, hbegun⟩ :=
    (resolveCredentials_runs x req plugin).ok h.session.2 h.resolved
  have hpending := congrArg Session.pending hbegun
  have houtside := congrArg Session.outside hbegun
  have hws : ws = [] := by
    rw [show Session.pending { begun.extend ws with outside := o } = begun.pending ++ ws from rfl]
      at hpending
    exact List.append_right_eq_self.mp hpending.symm
  rw [h.session.1, hws] at hplan
  rw [hplan, show begun.outside = o from houtside]

/-- What the work of the run is, by the outcome of its query. -/
lemma Querying.work (h : Querying x req existingRun plugin credentials run s begun) :
    workPlan py x req plugin begun.committed begun.outside =
      match PluginRunner.queryPlugin req plugin credentials with
      | .error e => (.raised .usable e [], begun.outside)
      | .ok result => persistPlan py x req plugin result begun.committed begun.outside := by
  unfold workPlan
  rw [Plan.bind_of_done h.plan]
  cases PluginRunner.queryPlugin req plugin credentials with
  | error e => rfl
  | ok result => exact Plan.bind_of_done rfl

/-- A `try` leaves such a failure just when its work raises such an error and the handler's
statement gets through. -/
lemma settled_failedOnNetwork {st : Store} {eff : Effect Write Exc Persisted}
    (hfind : st.runs.find run.id = some run) (hstatus : run.status = .running)
    (hgrows : Grows st eff.writes) (hhandled : x.handlerCommit = false) :
    FailedOnNetwork (PluginRunner.settled x plugin run st eff).2 run.id ↔
      ∃ how e ws, eff = .raised how e ws ∧ how ≠ .failed ∧ e.Network := by
  have hrunning : run.status ≠ .failed := by
    rw [hstatus]
    decide
  have hwritten : (applyAll st eff.writes).runs.find run.id = some run := by
    rw [hgrows.runs]
    exact hfind
  have hother : ∀ {st : Store} {row : PluginRun}, st.runs.find run.id = some row →
      row.status ≠ .failed → ¬ FailedOnNetwork st run.id := by
    intro st row hrow hne hfailed
    obtain ⟨row', message, hrow', hstatus', -⟩ := hfailed
    rw [hrow] at hrow'
    exact hne (Option.some.inj hrow' ▸ hstatus')
  -- the message of a failure is the label of its error
  have hrecorded : ∀ {st : Store} {e : Exc}, st.runs.find run.id = some run →
      (FailedOnNetwork (st.apply (PluginRunner.runUpdate run (PluginRunner.failed x run e))) run.id
        ↔ e.Network) := by
    intro st e hrow
    have hrow' := PluginRunner.find_failed (x := x) hrow e
    rw [← blamesNetwork_iff]
    constructor
    · rintro ⟨row, message, hfound, -, hmessage, hblames⟩
      rw [hrow'] at hfound
      obtain rfl := Option.some.inj hfound
      obtain rfl := Option.some.inj hmessage
      exact hblames
    · exact fun hblames => ⟨_, _, hrow', rfl, rfl, hblames⟩
  cases eff with
  | done p ws =>
    refine iff_of_false ?_ fun ⟨how, e, ws, hraised, _⟩ => nomatch hraised
    dsimp only [PluginRunner.settled]
    split
    · exact hother hfind hrunning
    · split
      · exact hother hwritten hrunning
      · split
        · exact hother (PluginRunner.find_succeeded hwritten p) nofun
        · exact hother (PluginRunner.find_succeeded hwritten p) nofun
  | raised how e ws =>
    have hsame : (∃ how' e' ws', (Effect.raised how e ws : Effect Write Exc Persisted)
        = .raised how' e' ws' ∧ how' ≠ .failed ∧ e'.Network) ↔ how ≠ .failed ∧ e.Network := by
      constructor
      · rintro ⟨how', e', ws', hraised, hne, hnetwork⟩
        cases hraised
        exact ⟨hne, hnetwork⟩
      · exact fun ⟨hne, hnetwork⟩ => ⟨how, e, ws, rfl, hne, hnetwork⟩
    rw [hsame]
    cases how with
    | usable =>
      simp only [PluginRunner.settled, hhandled, Bool.false_eq_true, if_false]
      exact (hrecorded hwritten).trans (and_iff_right (by decide)).symm
    | failed => exact iff_of_false (hother hfind hrunning) fun hne => hne.1 rfl
    | undone =>
      simp only [PluginRunner.settled, hhandled, Bool.false_eq_true, if_false]
      exact (hrecorded hfind).trans (and_iff_right (by decide)).symm

lemma Querying.failed (h : Querying x req existingRun plugin credentials run s begun) :
    FailedOnNetwork (PluginRunner.run py x req existingRun s).2.committed run.id ↔
      ∃ how e ws, (workPlan py x req plugin begun.committed begun.outside).1 = .raised how e ws ∧
        how ≠ .failed ∧ e.Network := by
  have hstarted := h.started
  have hsettled := PluginRunner.attempt_settled py x plugin req begun.outside
    (Table.has_of_find hstarted.find)
  rw [← hstarted.session_eq] at hsettled
  rw [show PluginRunner.run py x req existingRun s = PluginRunner.attempt py x req plugin run begun
    from Prog.bind_apply_ok h.start,
    show (PluginRunner.attempt py x req plugin run begun).2.committed = _
      from congrArg Prod.snd hsettled]
  exact settled_failedOnNetwork hstarted.find hstarted.status
    (workPlan_grows py x req plugin begun.committed begun.outside) h.handled

/-- What persisting raises is no HTTP error. -/
lemma persistPlan_not_network {result : QueryResult} {st : Store} {b : Bucket} {how : Leaves}
    {e : Exc} {ws : List Write}
    (h : (persistPlan py x req plugin result st b).1 = .raised how e ws) : ¬ e.Network := by
  have hK : ∀ e ∈ libraryErrors, ¬ e.Network := by decide
  have href : ∀ ref input refs e, PluginRunner.resolveRef ref input refs = .error e →
      ¬ e.Network := by
    intro ref input refs e href
    have hunknown : ∀ text, ¬ (Exc.pluginExecutionError text).Network := fun text => by
      simp [Exc.Network, Exc.pluginExecutionError, Exc.isinstance]
    unfold PluginRunner.resolveRef at href
    split at href
    · cases href
    · split at href
      · split at href
        · split at href
          · cases href
          · cases href
            exact hunknown _
        · cases href
          decide
        · cases href
          decide
        · cases href
          exact hunknown _
      · cases href
        exact hunknown _
  have hcase : ¬ (Exc.endpointNotInCase req.caseId).Network := by
    simp [Exc.Network, Exc.endpointNotInCase, Exc.isinstance]
  have hraising : Raising (fun e => ¬ e.Network)
      (PluginRunner.persistRows py x req plugin result) :=
    PluginRunner.raising_persistRows_of py x hK href hcase result
  have hruns := persistRows_runs py x req plugin result ⟨st, [], false, b⟩ rfl
  simp only [Session.work, applyAll_nil] at hruns
  rw [h] at hruns
  have herror : ∃ s', PluginRunner.persistRows py x req plugin result ⟨st, [], false, b⟩
      = (.error e, s') := by
    rw [hruns]
    cases how <;> exact ⟨_, rfl⟩
  obtain ⟨s', hs'⟩ := herror
  exact hraising.error trivial hs'

/-- **When a run fails on the network**: when its query does. -/
theorem Querying.failed_iff (h : Querying x req existingRun plugin credentials run s begun) :
    FailedOnNetwork (PluginRunner.run py x req existingRun s).2.committed run.id ↔
      ∃ e, plugin.query req.inputEntity credentials = .error e ∧ e.Network := by
  rw [h.failed py, h.work py]
  have hcap : ∀ text, ¬ (Exc.pluginExecutionError text).Network := fun text => by
    simp [Exc.Network, Exc.pluginExecutionError, Exc.isinstance]
  unfold PluginRunner.queryPlugin
  cases hquery : plugin.query req.inputEntity credentials with
  | error e =>
    constructor
    · rintro ⟨how, e', ws, hraised, -, hnetwork⟩
      cases hraised
      exact ⟨e, rfl, hnetwork⟩
    · rintro ⟨e', he, hnetwork⟩
      obtain rfl := Except.error.inj he
      exact ⟨.usable, e, [], rfl, by decide, hnetwork⟩
  | ok result =>
    refine iff_of_false ?_ ?_
    rotate_left
    · rintro ⟨e, he, -⟩
      cases he
    rintro ⟨how, e, ws, hraised, -, hnetwork⟩
    dsimp only [bind, Except.bind] at hraised
    split at hraised
    · rename_i hover
      split at hover
      · cases hover
        cases hraised
        exact hcap _ hnetwork
      · cases hover
    · exact persistPlan_not_network py hraised hnetwork

end Querying

end Sleuthgraph
