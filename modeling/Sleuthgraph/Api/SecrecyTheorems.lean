import Sleuthgraph.Api.IsolationTheorems
import Sleuthgraph.Lib.Agreement
import Sleuthgraph.Plugins.Builtin.Byok

/-!
# Keys stay with the plugin (`plugins/builtin/`, `plugins/runner.py`, `plugins/router.py`)

Two runs of one plugin with two keys, to which the HTTP client answers alike. Up to the runner's
handler the runs may differ in the texts of exceptions; the handler and the router read only their
types.
-/

namespace Sleuthgraph

open Programs Transactions Tables

/-! ## Exceptions and responses that are alike -/

/-- `type(e) is type(f)` -/
def Exc.SameType (e f : Exc) : Prop := e.mro = f.mro

/-- One type, and one text for the exceptions of the runner, some of which are shown. -/
structure Exc.Alike (e f : Exc) : Prop where
  mro : e.mro = f.mro
  text : e.isinstance "PluginExecutionError" = true → e.text = f.text

namespace Exc.Alike

lemma refl (e : Exc) : e.Alike e := ⟨rfl, fun _ => rfl⟩

lemma isinstance {e f : Exc} (h : e.Alike f) (cls : String) :
    e.isinstance cls = f.isinstance cls := by
  unfold Exc.isinstance
  rw [h.mro]

lemma retryable {e f : Exc} (h : e.Alike f) : retryable e = retryable f := by
  unfold Sleuthgraph.retryable
  rw [funext h.isinstance]

lemma classifyError {e f : Exc} (h : e.Alike f) : classifyError e = classifyError f := by
  unfold Sleuthgraph.classifyError Exc.typeName
  simp only [h.isinstance, h.mro]

end Exc.Alike

/-- What a response is read for; where it breaks off, with exceptions of one type. -/
structure HttpResponse.Alike (r r' : HttpResponse) : Prop where
  status : r.status = r'.status
  chunks : r.chunks = r'.chunks
  broken : Option.Rel Exc.SameType r.broken r'.broken

/-- Two requests are answered alike, attempt by attempt. -/
def HttpClient.AnswersAlike (client : HttpClient) (request request' : HttpRequest) : Prop :=
  ∀ n, Alike HttpResponse.Alike Exc.SameType (client.send n request) (client.send n request')

/-- The client raises no exception of the runner's classes, which it does not know. -/
structure HttpClient.Foreign (client : HttpClient) : Prop where
  send : ∀ n request e, client.send n request = .error e →
    e.isinstance "PluginExecutionError" = false
  broken : ∀ n request response e, client.send n request = .ok response →
    response.broken = some e → e.isinstance "PluginExecutionError" = false

/-- Exceptions of one type that is none of the runner's. -/
lemma Exc.SameType.alike {e f : Exc} (h : e.SameType f)
    (hforeign : e.isinstance "PluginExecutionError" = false) : e.Alike f :=
  ⟨h, fun hrunner => by rw [hforeign] at hrunner; cases hrunner⟩

/-! ## Fetching -/

section Fetching

variable {client : HttpClient}

lemma attempts_alike {α : Type} {gaveUp : ℕ → Bool} {attempt attempt' : ℕ → Except Exc α}
    (h : ∀ n, Alike Eq Exc.Alike (attempt n) (attempt' n)) (k n : ℕ) :
    Alike Eq Exc.Alike (attempts gaveUp attempt k n) (attempts gaveUp attempt' k n) := by
  induction k generalizing n with
  | zero => exact h n
  | succ k ih =>
    have hn := h n
    unfold attempts
    generalize attempt n = r at hn ⊢
    generalize attempt' n = r' at hn ⊢
    cases hn with
    | ok hab => exact .ok hab
    | error hef =>
      -- whether there is another attempt is read off the type
      dsimp only
      rw [hef.retryable]
      split
      · exact ih (n + 1)
      · exact .error hef

lemma readChunks_alike (service : String) {broken broken' : Option Exc}
    (h : Option.Rel Exc.Alike broken broken') (raw : Bytes) (chunks : List Bytes) :
    Alike Eq Exc.Alike (readChunks service broken raw chunks)
      (readChunks service broken' raw chunks) := by
  induction chunks generalizing raw with
  | nil =>
    cases h with
    | some h => exact .error h
    | none => exact .ok rfl
  | cons chunk chunks ih =>
    unfold readChunks
    split
    · exact .error (Exc.Alike.refl _)
    · exact ih _

variable (client) in
/-- The texts of status errors differ, since they have the URL; their type is one. -/
lemma readResponse_alike (service : String) (request request' : HttpRequest)
    {response response' : HttpResponse} (h : response.Alike response')
    (hbroken : ∀ e, response.broken = some e → e.isinstance "PluginExecutionError" = false) :
    Alike Eq Exc.Alike (readResponse service client request response)
      (readResponse service client request' response') := by
  have hstatus : Alike Eq Exc.Alike (raiseForStatus client request response)
      (raiseForStatus client request' response') := by
    unfold raiseForStatus
    rw [h.status]
    split
    · exact .ok rfl
    · exact .error (Exc.SameType.alike rfl rfl)
  refine hstatus.bind fun _ _ _ => ?_
  rw [h.chunks]
  refine readChunks_alike service ?_ [] _
  have hrel := h.broken
  generalize response.broken = e at hrel hbroken ⊢
  generalize response'.broken = f at hrel ⊢
  cases hrel with
  | some hef => exact .some (hef.alike (hbroken _ rfl))
  | none => exact .none

end Fetching

namespace BYOKPlugin

variable {u : Upstream}

lemma accept_alike (b : BYOKPlugin) (request request' : HttpRequest)
    {response response' : HttpResponse} (h : response.Alike response')
    (hbroken : ∀ e, response.broken = some e → e.isinstance "PluginExecutionError" = false) :
    Alike Eq Exc.Alike (b.accept u request response) (b.accept u request' response') := by
  have hread := fun service => readResponse_alike u.client service request request' h
    hbroken
  cases b with
  | virustotal => exact (hread "VirusTotal").bind_eq Exc.Alike.refl _
  | shodan => exact (hread "Shodan").bind_eq Exc.Alike.refl _
  | hibp =>
    unfold accept
    rw [h.status]
    split
    · exact .ok rfl
    · exact (hread "HIBP").bind_eq Exc.Alike.refl _

lemma ask_alike (b : BYOKPlugin) (input : Entity) {request request' : HttpRequest}
    (hforeign : u.client.Foreign) (h : u.client.AnswersAlike request request') :
    Alike Eq Exc.Alike (b.ask u input request) (b.ask u input request') := by
  refine Alike.bind_eq Exc.Alike.refl (attempts_alike (fun n => ?_) 2 1) _
  have hn := h n
  unfold fetchOnce
  generalize hsend : u.client.send n request = r at hn ⊢
  generalize u.client.send n request' = r' at hn ⊢
  cases hn with
  | ok hresponse =>
    exact b.accept_alike request request' hresponse
      (hforeign.broken n request _ · hsend)
  | error hef => exact .error (hef.alike (hforeign.send n request _ hsend))

/-- The plugin answers alike with either key. -/
lemma query_alike (b : BYOKPlugin) (input : Entity) {k k' : String}
    (hforeign : u.client.Foreign)
    (h : ∀ r r', b.request u input k = some r → b.request u input k' = some r' →
      u.client.AnswersAlike r r') :
    Alike Eq Exc.Alike ((b.plugin u).query input (keyed k))
      ((b.plugin u).query input (keyed k')) := by
  rw [query_keyed, query_keyed]
  have hsome := b.request_isSome u input k k'
  generalize b.request u input k = r at h hsome ⊢
  generalize b.request u input k' = r' at h hsome ⊢
  cases r with
  | none =>
    cases r' with
    | none => exact Alike.refl Exc.Alike.refl _
    | some r' => cases hsome
  | some r =>
    cases r' with
    | none => cases hsome
    | some r' => exact b.ask_alike input hforeign (h r r' rfl rfl)

end BYOKPlugin

/-! ## Running -/

section Running

variable {py : Interp} {x : RunExt} {req : RunRequest} {plugin : OSINTPlugin} {user : UUID}
variable {vault : UUID → String → Except Exc (Option String)} {k k' : String}

/-- The answers to exceptions that reach the router alike. -/
def SameAnswer (e f : Exc) : Prop := PluginsRouter.runError e = PluginsRouter.runError f

lemma SameAnswer.refl (e : Exc) : SameAnswer e e := rfl

namespace PluginRunner

/-- Each run gets its key, or both fail at the read of the credential. -/
lemma resolveCredentials_agree (hplugin : plugin.requiresCredentials = true)
    (hcredentials : req.credentials = none) (huser : req.createdBy = some user)
    (hkey : req.vault user plugin.name = .ok (some k))
    (hkey' : vault user plugin.name = .ok (some k')) :
    Prog.Agree (fun c c' => c = keyed k ∧ c' = keyed k') Exc.Alike
      (resolveCredentials x req plugin) (resolveCredentials x { req with vault } plugin) := by
  unfold resolveCredentials
  simp only [hplugin, hcredentials, huser, hkey, hkey']
  refine (Prog.Agree.refl Exc.Alike.refl _).bind fun _ _ _ => ?_
  exact Prog.Agree.pure ⟨rfl, rfl⟩

/-! Only the credentials are read with the vault. -/

lemma persistEntities_vault (i : ℕ) (proposals : List EntityProposal) (refs : Refs) :
    persistEntities py x { req with vault } i proposals refs
      = persistEntities py x req i proposals refs := by
  induction proposals generalizing i refs with
  | nil => rfl
  | cons ep proposals ih => simp only [persistEntities, ih]

lemma persistRelationships_vault (refs : Refs) (i : ℕ) (proposals : List RelationshipProposal) :
    persistRelationships py x { req with vault } plugin refs i proposals
      = persistRelationships py x req plugin refs i proposals := by
  induction proposals generalizing i with
  | nil => rfl
  | cons rp proposals ih => simp only [persistRelationships, ih]

lemma persistEvidence_vault (i : ℕ) (proposals : List EvidenceProposal) :
    persistEvidence x { req with vault } plugin i proposals
      = persistEvidence x req plugin i proposals := by
  induction proposals generalizing i with
  | nil => rfl
  | cons evp proposals ih => simp only [persistEvidence, ih]

lemma persistRows_vault (vault : UUID → String → Except Exc (Option String))
    (result : QueryResult) :
    persistRows py x { req with vault } plugin result = persistRows py x req plugin result := by
  simp only [persistRows, persistEntities_vault, persistRelationships_vault, persistEvidence_vault]

/-- What is persisted is what the plugin answered. -/
lemma work_agree (hplugin : plugin.requiresCredentials = true)
    (hcredentials : req.credentials = none) (huser : req.createdBy = some user)
    (hkey : req.vault user plugin.name = .ok (some k))
    (hkey' : vault user plugin.name = .ok (some k'))
    (hquery : Alike Eq Exc.Alike (plugin.query req.inputEntity (keyed k))
      (plugin.query req.inputEntity (keyed k'))) :
    Prog.Agree Eq Exc.Alike (work py x req plugin) (work py x { req with vault } plugin) := by
  refine (resolveCredentials_agree hplugin hcredentials huser hkey hkey').bind ?_
  rintro _ _ ⟨rfl, rfl⟩
  refine (Prog.Agree.ofExcept (hquery.bind_eq Exc.Alike.refl _)).bind fun result _ hresult => ?_
  subst hresult
  rw [persistRows_vault vault]
  exact Prog.Agree.refl Exc.Alike.refl _

/-- The handler writes the type of the exception, and what it raises is answered alike. -/
lemma handle_agree (run : PluginRun) {e f : Exc} (h : e.Alike f) :
    Prog.Agree Eq SameAnswer (handle x plugin run e) (handle x plugin run f) := by
  have hfailed : failed x run e = failed x run f := by
    unfold failed
    rw [h.classifyError]
  unfold handle
  rw [hfailed]
  refine (Prog.Agree.refl SameAnswer.refl _).bind fun _ _ _ => Prog.Agree.throw ?_
  unfold reraised
  rw [← h.isinstance]
  split
  · have heq : e = f := by
      cases e
      cases f
      cases h.mro
      cases h.text ‹_›
      rfl
    exact heq ▸ SameAnswer.refl e
  · rfl

lemma run_agree (hplugin : plugin.requiresCredentials = true)
    (hget : req.registry.get req.pluginName = .ok plugin)
    (hcredentials : req.credentials = none) (huser : req.createdBy = some user)
    (hkey : req.vault user plugin.name = .ok (some k))
    (hkey' : vault user plugin.name = .ok (some k'))
    (hquery : Alike Eq Exc.Alike (plugin.query req.inputEntity (keyed k))
      (plugin.query req.inputEntity (keyed k'))) (existingRun : Option PluginRun) :
    Prog.Agree Eq SameAnswer (run py x req existingRun)
      (run py x { req with vault } existingRun) := by
  have hattempt : ∀ run, Prog.Agree Eq SameAnswer (attempt py x req plugin run)
      (attempt py x { req with vault } plugin run) := by
    intro run
    refine Prog.Agree.tryCatch ?_ fun e f h => handle_agree run h
    exact (work_agree hplugin hcredentials huser hkey hkey' hquery).bind_eq Exc.Alike.refl _
  have hstart : Prog.Agree (fun p p' => p = p' ∧ p.1 = plugin) SameAnswer
      (start x req existingRun) (start x { req with vault } existingRun) := by
    unfold start
    rw [hget]
    show Prog.Agree _ _ (Prog.ofExcept (assertPluginAllowed req.enterprise plugin.premium) >>= _) _
    refine (Prog.Agree.refl SameAnswer.refl _).bind fun _ _ _ => ?_
    refine (Prog.Agree.refl SameAnswer.refl _).bind fun _ _ _ => ?_
    refine (Prog.Agree.refl SameAnswer.refl _).bind ?_
    rintro run _ rfl
    exact Prog.Agree.pure ⟨rfl, rfl⟩
  unfold run
  refine hstart.bind ?_
  rintro ⟨p, row⟩ _ ⟨rfl, rfl⟩
  exact hattempt row

end PluginRunner

end Running

/-! ## Requests -/

/-- The application with a key of a user in its vault. -/
def App.storing (app : App) (user : UUID) (pluginName key : String) : App :=
  { app with
    vault := fun v name =>
      if v = user ∧ name = pluginName then .ok (some key) else app.vault v name }

lemma App.storing_vault (app : App) (user : UUID) (pluginName key : String) :
    (app.storing user pluginName key).vault user pluginName = .ok (some key) :=
  if_pos ⟨rfl, rfl⟩

section Requests

variable (py : Interp) (app : App) (env : Env) (user : UUID) {u : Upstream}

/-- The runner is called with either key, and the client gets the same. -/
lemma runPlugin_sync {b : BYOKPlugin} {k k' : String} (caseId : UUID) (input : Entity)
    (hplugin : app.registry.get (b.plugin u).name = .ok (b.plugin u))
    (hforeign : u.client.Foreign)
    (h : ∀ r r', b.request u input k = some r → b.request u input k' = some r' →
      u.client.AnswersAlike r r') :
    (tryCatch (PluginRunner.run py env.run (PluginsRouter.runRequest
        (app.storing user (b.plugin u).name k) user caseId (b.plugin u).name input) none)
      fun e => throw (PluginsRouter.runError e))
    = tryCatch (PluginRunner.run py env.run (PluginsRouter.runRequest
        (app.storing user (b.plugin u).name k') user caseId (b.plugin u).name input) none)
      fun e => throw (PluginsRouter.runError e) := by
  have hkeyed : (b.plugin u).requiresCredentials = true := by cases b <;> rfl
  have hrun : Prog.Agree Eq SameAnswer
      (PluginRunner.run py env.run (PluginsRouter.runRequest
        (app.storing user (b.plugin u).name k) user caseId (b.plugin u).name input) none)
      (PluginRunner.run py env.run (PluginsRouter.runRequest
        (app.storing user (b.plugin u).name k') user caseId (b.plugin u).name input) none) :=
    PluginRunner.run_agree hkeyed hplugin rfl rfl (app.storing_vault user _ k)
      (app.storing_vault user _ k') (b.query_alike input hforeign h) none
  exact Prog.Agree.eq (hrun.tryCatch fun e f hef => Prog.Agree.throw hef)

/-- What is done from one state depends on what the endpoint does there. -/
lemma withSession_congr {S W O α : Type} [Writes S W] (lost : Bool) {m m' : Sql S W O Exc α}
    {s : Session S W O} (h : m s = m' s) : withSession lost m s = withSession lost m' s := by
  have hbody : rollingBack m s = rollingBack m' s := by
    unfold rollingBack
    rw [Prog.tryCatch_apply, Prog.tryCatch_apply, h]
  unfold withSession
  rw [Prog.bind_apply, Prog.bind_apply, hbody]

/-- **Keys reach neither the database nor the client.** Of two runs of a plugin with two keys, to
which the HTTP client answers alike, the same is stored and answered. Ids and clocks are those of
the environment, the same for both runs. -/
theorem keys_stay_with_plugin (db : Database) (b : BYOKPlugin) (caseId inputEntityId : UUID)
    (k k' : String) (hplugin : app.registry.get (b.plugin u).name = .ok (b.plugin u))
    (hforeign : u.client.Foreign)
    (h : ∀ input ∈ db.store.entities, input.id = inputEntityId →
      ∀ r r', b.request u input k = some r → b.request u input k' = some r' →
        u.client.AnswersAlike r r') :
    let run key := (Request.inCase caseId (.runPlugin (b.plugin u).name inputEntityId)).exec py
      (app.storing user (b.plugin u).name key) env user db
    (run k).2 = (run k').2 ∧ Response.of (run k).1 = Response.of (run k').1 := by
  have hendpoint : (CaseRoute.runPlugin (b.plugin u).name inputEntityId).run py
        (app.storing user (b.plugin u).name k) env user db.cases caseId
        (openSession db.store db.bucket)
      = (CaseRoute.runPlugin (b.plugin u).name inputEntityId).run py
        (app.storing user (b.plugin u).name k') env user db.cases caseId
        (openSession db.store db.bucket) := by
    refine Prog.bind_congr_apply fun _ t hverify => ?_
    let s : Session Store Write Bucket := openSession db.store db.bucket
    have hopen : s.pending = [] ∧
        Holds (fun st _ => st = db.store) (fun st _ => st = db.store) s := ⟨rfl, rfl, fun _ => rfl⟩
    obtain ⟨-, -, ht⟩ := (verifyCaseOwnership_triple env user db.cases).ok hopen hverify
    refine Prog.bind_congr_apply fun found t' hget => ?_
    cases found with
    | none => rfl
    | some input =>
      -- the input entity is a row of the store
      obtain ⟨rfl, husable, hfound⟩ := query_ok hget
      rw [ht.work husable] at hfound
      have hinput := List.find?_some hfound.symm
      simp only [Bool.and_eq_true, decide_eq_true_eq] at hinput
      have hsync := runPlugin_sync py app env user caseId input hplugin hforeign
        (h input (List.mem_of_find?_eq_some hfound.symm) hinput.1.1)
      have hregistry : ∀ key, (app.storing user (b.plugin u).name key).registry = app.registry :=
        fun _ => rfl
      simp only [hregistry, hplugin, hsync]
  intro run
  have hrun : run k = run k' := by
    show (Request.inCase _ _).exec py _ env user db = (Request.inCase _ _).exec py _ env user db
    unfold Request.exec
    dsimp only
    rw [withSession_congr _ hendpoint]
  rw [hrun]
  exact ⟨rfl, rfl⟩

end Requests

/-! ### A key that is not accepted -/

def refusal : HttpResponse := { status := 401, chunks := [], printed := ["Unauthorized"] }

/-- An upstream that turns every request down. -/
def unauthorized : Upstream where
  client := plainClient fun _ _ => .ok refusal
  loads _ := .error Exc.jsonDecodeError
  text := asciiTables
  now := "2026-01-01T00:00:00+00:00"

def shodanRegistry : PluginRegistry :=
  ⟨[shodanPlugin unauthorized], List.nodup_singleton _, by simp [shodanPlugin]⟩

def shodanApp : App := { exampleApp with registry := shodanRegistry }

/-- An address in a case of user 1. -/
def hostActions : List ServerAction :=
  [caseCreated 1 7,
    .request 1 (exampleEnv 1) (.inCase 7 (.createEntity
      ⟨.ipAddress, "198.51.100.7", [], 1, by decide, validateAttrs_nil, unitRange_one⟩))]

lemma unauthorized_foreign : unauthorized.client.Foreign := by
  constructor
  · intro n request e h
    cases haccepted : urlAccepted request.url with
    | true =>
      rw [HttpClient.send_accepted haccepted] at h
      cases h
    | false =>
      rw [HttpClient.send_refused haccepted] at h
      cases h
      decide
  · intro n request response e h hbroken
    cases haccepted : urlAccepted request.url with
    | true =>
      rw [HttpClient.send_accepted haccepted] at h
      cases h
      cases hbroken
    | false =>
      rw [HttpClient.send_refused haccepted] at h
      cases h

/-- Two printable keys of one length make URLs that are accepted or refused alike. -/
lemma urlAccepted_keys (ip : List Char) {key key' : List Char} (hlength : key.length = key'.length)
    (hkey : key.any isAsciiControl = false) (hkey' : key'.any isAsciiControl = false) :
    urlAccepted (Shodan.urlOf ip key) = urlAccepted (Shodan.urlOf ip key') := by
  unfold Shodan.urlOf
  generalize "https://api.shodan.io/shodan/host/".toList ++ ip ++ "?key=".toList = stem
  have hlen : (stem ++ key).length = (stem ++ key').length := by
    rw [List.length_append, hlength, List.length_append]
  have hany : (stem ++ key).any isAsciiControl = (stem ++ key').any isAsciiControl := by
    rw [List.any_append, List.any_append, hkey, hkey']
  rw [urlAccepted, urlAccepted, hlen, hany]

/-- Such keys are turned down alike. -/
lemma unauthorized_alike {input : Entity} {r r' : HttpRequest}
    (hr : BYOKPlugin.shodan.request unauthorized input "sesame" = some r)
    (hr' : BYOKPlugin.shodan.request unauthorized input "mellon" = some r') :
    unauthorized.client.AnswersAlike r r' := by
  unfold BYOKPlugin.request at hr hr'
  dsimp only at hr hr'
  split at hr
  · cases hr
  · rename_i hasked
    rw [if_neg hasked] at hr'
    have haccepted : urlAccepted r.url = urlAccepted r'.url := by
      rw [← Option.some.inj hr, ← Option.some.inj hr']
      exact urlAccepted_keys _ (by decide +kernel) (by decide +kernel) (by decide +kernel)
    intro n
    cases h : urlAccepted r'.url with
    | true =>
      rw [HttpClient.send_accepted (haccepted.trans h), HttpClient.send_accepted h]
      exact .ok ⟨rfl, rfl, .none⟩
    | false =>
      rw [HttpClient.send_refused (haccepted.trans h), HttpClient.send_refused h]
      exact .error rfl

theorem keys_stay_with_plugin_unauthorized :
    let run key := (Request.inCase 7 (.runPlugin "shodan" 1)).exec plainInterp
      (shodanApp.storing 1 "shodan" key) (exampleEnv 9) 1 (databaseAfter hostActions)
    (run "sesame").2 = (run "mellon").2 ∧
      Response.of (run "sesame").1 = Response.of (run "mellon").1 :=
  keys_stay_with_plugin plainInterp shodanApp (exampleEnv 9) 1 (u := unauthorized)
    (databaseAfter hostActions) .shodan 7 1 "sesame" "mellon" rfl unauthorized_foreign
    fun _ _ _ _ _ hr hr' => unauthorized_alike hr hr'

end Sleuthgraph
