import Sleuthgraph.Api.Server
import Sleuthgraph.Graph.Moves
import Sleuthgraph.Evidence.LedgerTheorems

/-!
# What a request does to the data of its case

`CaseStep` lists, once, what anything behind an ownership check does at once: a call of a
repository that gets through, a row of evidence, an upload, and the audit row of a run. What every
such step keeps is kept by every route and by every task, whatever raises and wherever
(`CaseRoute.run_keeps`, `runPluginTask_keeps`). `Rights` says which calls and which links of
evidence a request is entitled to.
-/

namespace Sleuthgraph

open Programs Transactions Tables

/-! ## Rows of a case -/

/-- A row of the case has the id. -/
def EntityOf (c : UUID) (st : Store) (id : UUID) : Prop :=
  ∃ e ∈ st.entities, e.id = id ∧ e.caseId = c

/-- A run of the case has the id. -/
def RunOf (c : UUID) (st : Store) (id : UUID) : Prop :=
  ∃ run ∈ st.runs, run.id = id ∧ run.caseId = c

lemma EntityOf.insert {c id : UUID} {st : Store} (h : EntityOf c st id) {e : Entity}
    (haccepts : st.accepts (.insertEntity e) = true) :
    EntityOf c (st.apply (.insertEntity e)) id := by
  obtain ⟨x, hx, hid, hcase⟩ := h
  exact ⟨x, (Table.mem_insert (accepts_insertEntity haccepts)).mpr (Or.inl hx), hid, hcase⟩

lemma EntityOf.update {c id : UUID} {st : Store} (h : EntityOf c st id) (i : UUID)
    (change : EntityChange) (now : Time) :
    EntityOf c (st.apply (.updateEntity i change now)) id := by
  obtain ⟨x, hx, hid, hcase⟩ := h
  refine ⟨_, (Table.mem_modify (change.set now) fun _ => rfl).mpr ⟨x, hx, rfl⟩, ?_⟩
  split
  · exact ⟨hid, hcase⟩
  · exact ⟨hid, hcase⟩

lemma RunOf.insert {c id : UUID} {st : Store} (h : RunOf c st id) {run : PluginRun}
    (haccepts : st.accepts (.insertRun run) = true) : RunOf c (st.apply (.insertRun run)) id := by
  obtain ⟨x, hx, hid, hcase⟩ := h
  exact ⟨x, (Table.mem_insert (accepts_insertRun haccepts)).mpr (Or.inl hx), hid, hcase⟩

lemma RunOf.update {c id : UUID} {st : Store} (h : RunOf c st id) (i : UUID)
    (change : RunChange) : RunOf c (st.apply (.updateRun i change)) id := by
  obtain ⟨x, hx, hid, hcase⟩ := h
  refine ⟨_, (Table.mem_modify change.set fun _ => rfl).mpr ⟨x, hx, rfl⟩, ?_⟩
  split
  · exact ⟨hid, hcase⟩
  · exact ⟨hid, hcase⟩

/-! ## Steps -/

/-- What a request is entitled to: its calls, and the entities its evidence may link to. -/
structure Rights where
  calls : Call → Prop
  links : Store → Option UUID → Prop

variable (py : Interp)

/-- What is done at once to the data of case `c`. -/
inductive CaseStep (may : Rights) (c : UUID) (st : Store) (b : Bucket) : Store → Bucket → Prop
  | call {call : Call} {x : Ext} {st' : Store} (hmay : may.calls call) (hcase : call.caseId = c)
      (hdoes : call.Does py x st st') : CaseStep may c st b st' b
  | insertEvidence {ev : Evidence} (hcase : ev.caseId = c)
      (huri : ev.responseUri = buildKey c ev.responseHash) (hlink : may.links st ev.entityId)
      (haccepts : st.accepts (.insertEvidence ev)) :
      CaseStep may c st b (st.apply (.insertEvidence ev)) b
  | upload (hash : String) (blob : Blob) : CaseStep may c st b st ((buildKey c hash, blob) :: b)
  | insertRun {run : PluginRun} (hcase : run.caseId = c)
      (hinput : ∀ id, run.inputEntityId = some id → EntityOf c st id)
      (haccepts : st.accepts (.insertRun run)) :
      CaseStep may c st b (st.apply (.insertRun run)) b
  | updateRun {id : UUID} (change : RunChange) (hrun : RunOf c st id) :
      CaseStep may c st b (st.apply (.updateRun id change)) b

/-- `P` is kept by every step. -/
def KeptBy (may : Rights) (c : UUID) (P : Store → Bucket → Prop) : Prop :=
  ∀ st b st' b', P st b → CaseStep py may c st b st' b' → P st' b'

variable {py} {may : Rights} {c : UUID} {P : Store → Bucket → Prop}

/-- Calls leave the entities of every case where they are, with their ids. -/
lemma Call.Does.entityOf {x : Ext} {st st' : Store} {call : Call} (h : call.Does py x st st')
    {c' id : UUID} (he : EntityOf c' st id) : EntityOf c' st' id := by
  cases h with
  | createEntity haccepts => exact he.insert haccepts
  | getOrCreateNew hnone haccepts => exact he.insert haccepts
  | raiseConfidence e hlive hcase hlt => exact he.update e.id _ x.now
  | editEntity e hlive hid hcase haccepts => exact he.update e.id _ x.now
  | remirrorEntity e hlive hid hcase hempty => exact he
  | dropEntity e hlive hid hcase => exact he.update e.id _ x.now
  | createRelationship hsrc hdst haccepts => exact he
  | createMissing hsrc hdst haccepts => exact he
  | dropRelationship r hr hid hcase => exact he

/-- Calls touch neither runs nor evidence. -/
lemma Call.Does.runs_evidence {x : Ext} {st st' : Store} {call : Call}
    (h : call.Does py x st st') : st'.runs = st.runs ∧ st'.evidence = st.evidence := by
  cases h <;> exact ⟨rfl, rfl⟩

/-- What new rows have, and each way of setting columns keeps, every row of an entity has. -/
lemma Call.Does.forall_entities {φ : Entity → Prop} {x : Ext} {st st' : Store} {call : Call}
    (h : call.Does py x st st') (hst : ∀ e ∈ st.entities, φ e)
    (hnew : ∀ caseId createdBy data, φ (EntityRepository.newEntity x caseId createdBy data))
    (hraise : ∀ e confidence, φ e → UnitRange confidence →
      φ ((EntityRepository.confidenceChange confidence).set x.now e))
    (hdelete : ∀ e, φ e → φ ((EntityRepository.deletion x.now).set x.now e))
    (hedit : ∀ (e : Entity) entityId caseId data, call = .updateEntity entityId caseId data →
      e.LiveIn st → e.id = entityId → e.caseId = caseId →
      st.accepts (.updateEntity e.id (data.change py e) x.now) = true → φ e →
      φ ((data.change py e).set x.now e)) :
    ∀ e ∈ st'.entities, φ e := by
  have hset : ∀ (change : EntityChange) (e : Entity), e ∈ st.entities → φ (change.set x.now e) →
      ∀ e' ∈ (st.apply (.updateEntity e.id change x.now)).entities, φ e' := by
    intro change e he hrow e' he'
    obtain ⟨e₀, he₀, rfl⟩ := (Table.mem_modify (change.set x.now) fun _ => rfl).mp he'
    split
    · rwa [Table.eq_of_pk_eq he₀ he ‹_›]
    · exact hst e₀ he₀
  have hput : ∀ {e : Entity}, st.accepts (.insertEntity e) = true → φ e →
      ∀ e' ∈ (st.apply (.insertEntity e)).entities, φ e' := by
    intro e hacc hrow e' he'
    rcases (Table.mem_insert (accepts_insertEntity hacc)).mp he' with he' | rfl
    · exact hst e' he'
    · exact hrow
  cases h with
  | createEntity haccepts => exact hput haccepts (hnew _ _ _)
  | getOrCreateNew hnone haccepts => exact hput haccepts (hnew _ _ _)
  | @raiseConfidence _ _ data _ e he hcase hlt =>
    exact hset _ e he.mem (hraise e _ (hst e he.mem) data.confidence_range)
  | editEntity e he hid hcase haccepts =>
    exact hset _ e he.mem (hedit e _ _ _ rfl he hid hcase haccepts (hst e he.mem))
  | remirrorEntity e he hid hcase hempty => exact hst
  | dropEntity e he hid hcase => exact hset _ e he.mem (hdelete e (hst e he.mem))
  | createRelationship hsrc hdst haccepts => exact hst
  | createMissing hsrc hdst haccepts => exact hst
  | dropRelationship r hr hid hcase => exact hst

/-- No step removes an entity or moves it to another case. -/
lemma CaseStep.entityOf {st st' : Store} {b b' : Bucket} (h : CaseStep py may c st b st' b')
    {c' id : UUID} (he : EntityOf c' st id) : EntityOf c' st' id := by
  cases h with
  | call hmay hcase hdoes => exact hdoes.entityOf he
  | insertEvidence hcase huri hlink haccepts => exact he
  | upload hash blob => exact he
  | insertRun hcase hinput haccepts => exact he
  | updateRun change hrun => exact he

/-- No step removes a run or moves it to another case. -/
lemma CaseStep.runOf {st st' : Store} {b b' : Bucket} (h : CaseStep py may c st b st' b')
    {c' id : UUID} (hrun : RunOf c' st id) : RunOf c' st' id := by
  cases h with
  | call hmay hcase hdoes =>
    obtain ⟨run, hmem, hrow⟩ := hrun
    exact ⟨run, hdoes.runs_evidence.1 ▸ hmem, hrow⟩
  | insertEvidence hcase huri hlink haccepts => exact hrun
  | upload hash blob => exact hrun
  | insertRun hcase hinput haccepts => exact hrun.insert haccepts
  | updateRun change hown => exact hrun.update _ change

lemma KeptBy.and_entityOf (h : KeptBy py may c P) (c' id : UUID) :
    KeptBy py may c fun st b => P st b ∧ EntityOf c' st id :=
  fun st b st' b' hst hstep => ⟨h st b st' b' hst.1 hstep, hstep.entityOf hst.2⟩

lemma KeptBy.and_runOf (h : KeptBy py may c P) (c' id : UUID) :
    KeptBy py may c fun st b => P st b ∧ RunOf c' st id :=
  fun st b st' b' hst hstep => ⟨h st b st' b' hst.1 hstep, hstep.runOf hst.2⟩

/-! ## Evidence -/

section Evidence

variable (hP : KeptBy py may c P)
include hP

/-- A row of evidence and its blob. -/
lemma createEvidence_triple (x : Ext) (p : PutExt) (createdBy : Option UUID)
    (data : EvidenceCreate) (payload : Bytes) (contentType : Option String) (doCommit : Bool)
    (hlink : ∀ st b, P st b → may.links st data.entityId) :
    Prog.Triple (Holds P P)
      (EvidenceRepository.create x p c createdBy data payload contentType doCommit)
      (fun ev s => ev.caseId = c ∧ Holds P P s) fun _ => Holds P P := by
  have hflush := write_triple (P := P) (J := P) x.flush
    (.insertEvidence (EvidenceRepository.newEvidence x c createdBy data payload contentType))
    fun st b hst hacc => hP st b _ b hst (.insertEvidence rfl rfl (hlink st b hst) hacc)
  refine hflush.bind fun _ => ?_
  have hput : ∀ st b, P st b → P st (EvidenceStorage.put p (buildKey c (hashBytes payload)) payload
      (EvidenceRepository.contentTypeFinal contentType) b).2 := fun st b hst =>
    put_keeps (Q := P st) p hst (hP st b _ _ hst (.upload _ _))
  have hupload : Prog.Triple (Holds P P)
      (external (EvidenceStorage.put p (buildKey c (hashBytes payload)) payload
        (EvidenceRepository.contentTypeFinal contentType)) : Db Bucket Unit)
      (fun _ => Holds P P) fun _ => Holds P P :=
    Holds.external _ hput (fun st b _ hst _ => hput st b hst) fun st b _ hst _ => hput st b hst
  have hbody := hupload.bind fun _ => commitIf_triple doCommit x.commit fun _ _ h => h
  refine (Holds.rollingBack hbody).bind fun _ => ?_
  exact (refreshIf_triple doCommit x.refresh).bind fun _ => Prog.Triple.pure fun _ h => ⟨rfl, h⟩

end Evidence

/-! ## The runner -/

/-- What the runner does for a plugin's proposals. -/
structure Rights.AllowsPlugin (may : Rights) (c : UUID) : Prop where
  getOrCreate : ∀ createdBy data, may.calls (.getOrCreate c createdBy data false)
  createIfNotExists : ∀ createdBy data, may.calls (.createIfNotExists c createdBy data false)
  link_none : ∀ st, may.links st none
  link_input : ∀ st id, EntityOf c st id → may.links st (some id)

/-- The rows belong to the case. -/
structure Persisted.In (p : Persisted) (c : UUID) : Prop where
  entities : ∀ e ∈ p.entities, e.caseId = c
  relationships : ∀ r ∈ p.relationships, r.caseId = c
  evidence : ∀ ev ∈ p.evidence, ev.caseId = c

/-- The rows belong to the case. -/
structure RunResult.In (result : RunResult) (c : UUID) : Prop where
  run : result.run.caseId = c
  entities : ∀ e ∈ result.entitiesCreated, e.caseId = c
  relationships : ∀ r ∈ result.relationshipsCreated, r.caseId = c
  evidence : ∀ ev ∈ result.evidenceCreated, ev.caseId = c

namespace PluginRunner

/-- A row in front of the rows of the other proposals, if it is new. -/
lemma forall_mem_created {α : Type} {Q : α → Prop} {a : α} {l : List α} (ha : Q a)
    (hl : ∀ x ∈ l, Q x) (wasCreated : Bool) : ∀ x ∈ if wasCreated then a :: l else l, Q x := by
  split
  · exact List.forall_mem_cons.mpr ⟨ha, hl⟩
  · exact hl

lemma ofExcept_triple {α : Type} (r : Except Exc α) :
    Prog.Triple (Holds P P) (Prog.ofExcept r : Db Bucket α)
      (fun a s => r = .ok a ∧ Holds P P s) fun _ => Holds P P := by
  cases r with
  | ok a => exact Prog.Triple.pure fun _ h => ⟨rfl, h⟩
  | error e => exact Prog.Triple.throw fun _ h => h

section Proposals

variable (hP : KeptBy py may c P) (hmay : may.AllowsPlugin c) (x : RunExt) {req : RunRequest}
  (hreq : req.caseId = c) (plugin : OSINTPlugin)
include hP hmay hreq

lemma persistEntities_triple (proposals : List EntityProposal) (i : ℕ) (refs : Refs) :
    Prog.Triple (Holds P P) (persistEntities py x req i proposals refs)
      (fun a s => (∀ e ∈ a.2, e.caseId = c) ∧ Holds P P s) fun _ => Holds P P := by
  induction proposals generalizing i refs with
  | nil => exact Prog.Triple.pure fun _ h => ⟨nofun, h⟩
  | cons ep proposals ih =>
    refine (ofExcept_triple _).bind fun data => Prog.Triple.assume fun _ => ?_
    have hcall := getOrCreate_triple (P := P) (J := fun _ _ => True) py (x.entity i) req.caseId
      req.createdBy data false fun st st' b hst _ hdoes =>
        hP st b st' b hst (.call (hreq ▸ hmay.getOrCreate _ _) (by exact hreq) hdoes)
    refine (hcall.pre fun _ h => h.weaken fun _ _ h => ⟨h, trivial⟩).bind
      fun (entity, wasCreated) => Prog.Triple.assume fun hentity => ?_
    refine (ih (i + 1) ((ep.ref, entity) :: refs)).bind
      fun (refs, created) => Prog.Triple.assume fun hcreated => ?_
    have hall := forall_mem_created (Q := fun e : Entity => e.caseId = c) (hentity.trans hreq)
      hcreated wasCreated
    exact Prog.Triple.pure fun _ h => ⟨hall, h⟩

lemma persistRelationships_triple (refs : Refs) (proposals : List RelationshipProposal) (i : ℕ) :
    Prog.Triple (Holds P P) (persistRelationships py x req plugin refs i proposals)
      (fun a s => (∀ r ∈ a, r.caseId = c) ∧ Holds P P s) fun _ => Holds P P := by
  induction proposals generalizing i with
  | nil => exact Prog.Triple.pure fun _ h => ⟨nofun, h⟩
  | cons rp proposals ih =>
    refine (ofExcept_triple _).bind fun src => Prog.Triple.assume fun _ => ?_
    refine (ofExcept_triple _).bind fun dst => Prog.Triple.assume fun _ => ?_
    refine (ofExcept_triple _).bind fun data => Prog.Triple.assume fun _ => ?_
    have hcall := createIfNotExists_triple (P := P) (J := fun _ _ => True) py (x.relationship i)
      req.caseId req.createdBy data false fun st st' b hst _ hdoes =>
        hP st b st' b hst (.call (hreq ▸ hmay.createIfNotExists _ _) (by exact hreq) hdoes)
    refine (hcall.pre fun _ h => h.weaken fun _ _ h => ⟨h, trivial⟩).bind
      fun (rel, wasCreated) => Prog.Triple.assume fun hrel => ?_
    refine (ih (i + 1)).bind fun created => Prog.Triple.assume fun hcreated => ?_
    have hall := forall_mem_created (Q := fun r : Relationship => r.caseId = c) (hrel.trans hreq)
      hcreated wasCreated
    exact Prog.Triple.pure fun _ h => ⟨hall, h⟩

variable (hinput : ∀ st b, P st b → EntityOf c st req.inputEntity.id)
include hinput

lemma persistEvidence_triple (proposals : List EvidenceProposal) (i : ℕ) :
    Prog.Triple (Holds P P) (persistEvidence x req plugin i proposals)
      (fun a s => (∀ ev ∈ a, ev.caseId = c) ∧ Holds P P s) fun _ => Holds P P := by
  induction proposals generalizing i with
  | nil => exact Prog.Triple.pure fun _ h => ⟨nofun, h⟩
  | cons evp proposals ih =>
    refine (ofExcept_triple _).bind fun data => Prog.Triple.assume fun hdata => ?_
    have hlink : ∀ st b, P st b → may.links st data.entityId := by
      intro st b hst
      rw [EvidenceCreate.entityId_of_validate hdata]
      split
      · exact hmay.link_input st _ (hinput st b hst)
      · exact hmay.link_none st
    have hcall := createEvidence_triple hP (x.evidence i) (x.blob i) req.createdBy data
      evp.payload evp.contentType false hlink
    rw [← hreq] at hcall
    refine hcall.bind fun ev => Prog.Triple.assume fun hev => ?_
    refine (ih (i + 1)).bind fun created => Prog.Triple.assume fun hcreated => ?_
    exact Prog.Triple.pure fun _ h => ⟨List.forall_mem_cons.mpr ⟨hev.trans hreq, hcreated⟩, h⟩

/-- The work of a run, up to its commit. -/
lemma work_triple :
    Prog.Triple (Holds P P) (work py x req plugin) (fun p s => p.In c ∧ Holds P P s)
      fun _ => Holds P P := by
  have hcredentials : Prog.Triple (Holds P P) (resolveCredentials x req plugin)
      (fun _ => Holds P P) fun _ => Holds P P := by
    unfold resolveCredentials
    split
    · refine ((query_triple _ _).post (fun _ _ h => h.2) fun _ _ h => h).bind fun _ => ?_
      refine ((ofExcept_triple (P := P) _).pre fun _ h => h.weaken fun _ _ h => h.1).bind
        fun decrypted => Prog.Triple.assume fun _ => ?_
      cases decrypted with
      | none => exact Prog.Triple.throw fun _ h => h
      | some key => exact Prog.Triple.pure fun _ h => h
    · exact Prog.Triple.pure fun _ h => h
  refine hcredentials.bind fun credentials => ?_
  refine (ofExcept_triple _).bind fun result => Prog.Triple.assume fun _ => ?_
  refine (persistEntities_triple hP hmay x hreq result.entities 0 []).bind
    fun (refs, entities) => Prog.Triple.assume fun hentities => ?_
  refine (persistRelationships_triple hP hmay x hreq plugin refs result.relationships 0).bind
    fun relationships => Prog.Triple.assume fun hrelationships => ?_
  refine (persistEvidence_triple hP hmay x hreq plugin hinput result.evidence 0).bind
    fun evidence => Prog.Triple.assume fun hevidence => ?_
  exact Prog.Triple.pure fun _ h => ⟨⟨hentities, hrelationships, hevidence⟩, h⟩

end Proposals

/-! ### The audit row -/

section Audit

variable (hP : KeptBy py may c P)
include hP

/-- A row of the case is updated. -/
lemma saveRun_triple (lost : Bool) {loaded : PluginRun}
    (hrun : ∀ st b, P st b → RunOf c st loaded.id) (run : PluginRun) :
    Prog.Triple (Holds P P) (saveRun lost loaded run) (fun _ => Holds P P)
      fun _ => Holds P P := by
  have hwrite := write_triple (P := P) (J := P) (K := P) false (runUpdate loaded run)
    fun st b hst _ => hP st b _ b hst (.updateRun _ (hrun st b hst))
  exact hwrite.bind fun _ => commitIf_triple true lost fun _ _ h => h

/-- A new row of the case, committed. -/
lemma insertRun_triple (lost : Bool) {run : PluginRun} (hcase : run.caseId = c)
    (hinput : ∀ st b, P st b → ∀ id, run.inputEntityId = some id → EntityOf c st id) :
    Prog.Triple (Holds P P)
      (do
        write false (.insertRun run)
        commit lost : Db Bucket Unit)
      (fun _ => Holds (fun st b => P st b ∧ RunOf c st run.id) fun st b =>
        P st b ∧ RunOf c st run.id)
      fun _ => Holds P P := by
  have hwrite := write_triple (P := P) (J := P) (K := fun st b => P st b ∧ RunOf c st run.id) false
    (.insertRun run) fun st b hst hacc =>
      ⟨hP st b _ b hst (.insertRun hcase (hinput st b hst) hacc),
      run, (Table.mem_insert (accepts_insertRun hacc)).mpr (Or.inr rfl), rfl, hcase⟩
  exact hwrite.bind fun _ => (Holds.commit_publishes lost).post (fun _ _ h => h.1)
    fun _ _ h => h.of_stuck

end Audit

/-! ### The run -/

/-- The checks before the audit row. -/
lemma checks_triple {α : Type} {req : RunRequest} {f : OSINTPlugin → Db Bucket α}
    {R : α → Session Store Write Bucket → Prop}
    (hf : ∀ plugin, Prog.Triple (Holds P P) (f plugin) R fun _ => Holds P P) :
    Prog.Triple (Holds P P)
      (do
        let plugin ← Prog.ofExcept (req.registry.get req.pluginName)
        Prog.ofExcept (assertPluginAllowed req.enterprise plugin.premium)
        Prog.ofExcept (checkInputType plugin req.inputEntity)
        f plugin)
      R fun _ => Holds P P := by
  refine (ofExcept_triple _).bind fun plugin => Prog.Triple.assume fun _ => ?_
  refine (ofExcept_triple _).bind fun _ => Prog.Triple.assume fun _ => ?_
  exact (ofExcept_triple _).bind fun _ => Prog.Triple.assume fun _ => hf plugin

section Run

variable (hP : KeptBy py may c P) (hmay : may.AllowsPlugin c) (x : RunExt) {req : RunRequest}
  (hreq : req.caseId = c) (hinput : ∀ st b, P st b → EntityOf c st req.inputEntity.id)
include hP hmay hreq hinput

/-- The `try` of a run, on an audit row of the case. -/
lemma attempt_triple (plugin : OSINTPlugin) {run : PluginRun} (hcase : run.caseId = c)
    (hrun : ∀ st b, P st b → RunOf c st run.id) :
    Prog.Triple (Holds P P) (attempt py x req plugin run)
      (fun result s => result.In c ∧ Holds P P s) fun _ => Holds P P := by
  refine Prog.Triple.tryCatch (F := fun _ => Holds P P) ?_ fun e => ?_
  · refine (work_triple hP hmay x hreq plugin hinput).bind fun p => Prog.Triple.assume fun hp => ?_
    refine (commitIf_triple true x.persistCommit fun _ _ h => h).bind fun _ => ?_
    refine (saveRun_triple hP x.finalCommit hrun _).bind fun _ => ?_
    refine ((query_triple _ _).post (fun _ _ h => h.2) fun _ _ h => h).bind fun _ => ?_
    exact Prog.Triple.pure fun _ h =>
      ⟨⟨hcase, hp.entities, hp.relationships, hp.evidence⟩, h.weaken fun _ _ h => h.1⟩
  · refine (Prog.Triple.tryCatch (F := fun _ => Holds P P)
      (saveRun_triple hP x.handlerCommit hrun _) fun _ => Prog.Triple.pure fun _ h => h).bind
        fun _ => Prog.Triple.throw fun _ h => h

/-- A run with an audit row of its own. -/
lemma run_triple :
    Prog.Triple (Holds P P) (PluginRunner.run py x req none)
      (fun result s => result.In c ∧ Holds P P s) fun _ => Holds P P := by
  have hstart : Prog.Triple (Holds P P) (start x req none)
      (fun a s => a.2.caseId = c ∧ Holds (fun st b => P st b ∧ RunOf c st a.2.id)
        (fun st b => P st b ∧ RunOf c st a.2.id) s) fun _ => Holds P P := by
    refine checks_triple fun plugin => ?_
    have hinsert := insertRun_triple hP x.auditCommit
      (show (newRun x req plugin).caseId = c from hreq) fun st b hst id hid =>
        Option.some.inj hid ▸ hinput st b hst
    have hrow : Prog.Triple (Holds P P) (auditRow x req plugin none)
        (fun run s => run.caseId = c ∧ Holds (fun st b => P st b ∧ RunOf c st run.id)
          (fun st b => P st b ∧ RunOf c st run.id) s) fun _ => Holds P P := by
      have hassoc : auditRow x req plugin none = (do
          (do
            write false (.insertRun (newRun x req plugin))
            commit x.auditCommit : Db Bucket Unit)
          query x.auditRefresh fun _ => ()
          pure (newRun x req plugin)) := (bind_assoc _ _ _).symm
      rw [hassoc]
      refine hinsert.bind fun _ => ?_
      refine ((query_triple _ _).post (fun _ _ h => h.2) fun _ _ h => h.left).bind fun _ => ?_
      exact Prog.Triple.pure fun _ h => ⟨hreq, h.weaken fun _ _ h => h.1⟩
    exact hrow.bind fun run => Prog.Triple.pure fun _ h => h
  refine hstart.bind fun (plugin, run) => Prog.Triple.assume fun hcase => ?_
  have hattempt := attempt_triple (hP.and_runOf c run.id) hmay x hreq
    (fun st b hst => hinput st b hst.1) plugin hcase fun st b hst => hst.2
  exact hattempt.post (fun _ _ h => ⟨h.1, h.2.left⟩) fun _ _ h => h.left

/-- A run on a row of the case. -/
lemma run_existing_triple {run : PluginRun} (hcase : run.caseId = c)
    (hrun : ∀ st b, P st b → RunOf c st run.id) :
    Prog.Triple (Holds P P) (PluginRunner.run py x req (some run))
      (fun result s => result.In c ∧ Holds P P s) fun _ => Holds P P := by
  have hstart : Prog.Triple (Holds P P) (start x req (some run))
      (fun a s => (a.2.caseId = c ∧ a.2.id = run.id) ∧ Holds P P s) fun _ => Holds P P := by
    refine checks_triple fun plugin => ?_
    have hrow : Prog.Triple (Holds P P) (auditRow x req plugin (some run))
        (fun a s => (a.caseId = c ∧ a.id = run.id) ∧ Holds P P s) fun _ => Holds P P := by
      dsimp only [auditRow]
      split
      · exact (saveRun_triple hP x.auditCommit hrun _).bind fun _ =>
          Prog.Triple.pure fun _ h => ⟨⟨hcase, rfl⟩, h⟩
      · exact Prog.Triple.pure fun _ h => ⟨⟨hcase, rfl⟩, h⟩
    exact hrow.bind fun a => Prog.Triple.pure fun _ h => h
  refine hstart.bind fun (plugin, row) => Prog.Triple.assume fun hrow => ?_
  exact attempt_triple hP hmay x hreq hinput plugin hrow.1 fun st b hst =>
    hrow.2 ▸ hrun st b hst

end Run

end PluginRunner

/-! ## Dispatching -/

/-- A queued row, marked when the queue refuses the job. -/
lemma dispatchRun_triple (hP : KeptBy py may c P) (x : DispatchExt) (plugin : OSINTPlugin)
    {inputEntity : Entity} (hinput : ∀ st b, P st b → EntityOf c st inputEntity.id)
    (user : UUID) :
    Prog.Triple (Holds P P) (dispatchRun x plugin c inputEntity user)
      (fun run s => run.caseId = c ∧ Holds P P s) fun _ => Holds P P := by
  have hinsert := PluginRunner.insertRun_triple hP x.commit
    (show (queuedRow x plugin c inputEntity user).caseId = c from rfl)
    fun st b hst id hid => Option.some.inj hid ▸ hinput st b hst
  unfold dispatchRun
  dsimp only
  rw [← bind_assoc]
  refine hinsert.bind fun _ => ?_
  refine ((query_triple _ _).post (fun _ _ h => h.2.weaken fun _ _ h => h.1)
    fun _ _ h => h.left).bind fun _ => ?_
  cases x.enqueue with
  | ok _ => exact Prog.Triple.pure fun _ h => ⟨rfl, h.left⟩
  | error e =>
    refine ((PluginRunner.saveRun_triple (hP.and_runOf c _) x.failCommit
      (fun st b hst => hst.2) _).post (fun _ _ h => h.left) fun _ _ h => h.left).bind fun _ => ?_
    exact Prog.Triple.throw fun _ h => h

/-! ## The worker -/

/-- The store has the row of a run, which keeps its case and its input, an entity of the case. -/
structure TaskOf (run : PluginRun) (st : Store) : Prop where
  row : ∃ row ∈ st.runs, row.id = run.id ∧ row.caseId = run.caseId ∧
    row.inputEntityId = run.inputEntityId
  input : ∀ id, run.inputEntityId = some id → EntityOf run.caseId st id

lemma TaskOf.runOf {run : PluginRun} {st : Store} (h : TaskOf run st) :
    RunOf run.caseId st run.id := by
  obtain ⟨row, hrow, hid, hcase, -⟩ := h.row
  exact ⟨row, hrow, hid, hcase⟩

/-- The row that the id of a run finds. -/
lemma TaskOf.find {run row : PluginRun} {st : Store} (h : TaskOf run st)
    (hfind : st.runs.find run.id = some row) :
    row.id = run.id ∧ row.caseId = run.caseId ∧ row.inputEntityId = run.inputEntityId := by
  obtain ⟨row', hrow', hid, hkept⟩ := h.row
  obtain ⟨hrow, hkey⟩ := Table.find_eq_some_iff.mp hfind
  rw [Table.eq_of_pk_eq hrow hrow' (hkey.trans hid.symm)]
  exact ⟨hid, hkept⟩

lemma CaseStep.taskOf {st st' : Store} {b b' : Bucket} (h : CaseStep py may c st b st' b')
    {run : PluginRun} (ht : TaskOf run st) : TaskOf run st' := by
  refine ⟨?_, fun id hid => h.entityOf (ht.input id hid)⟩
  obtain ⟨row, hrow, hkept⟩ := ht.row
  cases h with
  | call hmay hcase hdoes => exact ⟨row, hdoes.runs_evidence.1 ▸ hrow, hkept⟩
  | insertEvidence hcase huri hlink haccepts => exact ⟨row, hrow, hkept⟩
  | upload hash blob => exact ⟨row, hrow, hkept⟩
  | insertRun hcase hinput haccepts =>
    exact ⟨row, (Table.mem_insert (accepts_insertRun haccepts)).mpr (Or.inl hrow), hkept⟩
  | updateRun change hrun =>
    refine ⟨_, (Table.mem_modify change.set fun _ => rfl).mpr ⟨row, hrow, rfl⟩, ?_⟩
    split
    · exact hkept
    · exact hkept

lemma KeptBy.and_taskOf (h : KeptBy py may c P) (run : PluginRun) :
    KeptBy py may c fun st b => P st b ∧ TaskOf run st :=
  fun st b st' b' hst hstep => ⟨h st b st' b' hst.1 hstep, hstep.taskOf hst.2⟩

/-- A task keeps what the steps of its run's case keep. -/
lemma runPluginTask_triple {run : PluginRun} (hP : KeptBy py may run.caseId P)
    (hmay : may.AllowsPlugin run.caseId) (htask : ∀ st b, P st b → TaskOf run st) (x : TaskExt)
    (w : Worker) :
    Prog.Triple (Holds P P) (runPluginTask py x w run.id) (fun _ => Holds P P)
      fun _ => Holds P P := by
  refine (query_triple _ _).bind fun found => Prog.Triple.assume fun hfound => ?_
  refine Prog.Triple.pre (P := Holds P P) ?_ fun _ h => h.weaken fun _ _ h => h.1
  cases found with
  | none => exact Prog.Triple.pure fun _ h => h
  | some row =>
    obtain ⟨st₀, b₀, hst₀, hfind⟩ := hfound
    obtain ⟨hid, hcase, hinput⟩ := (htask st₀ b₀ hst₀).find hfind.symm
    have hrow : ∀ st b, P st b → RunOf run.caseId st row.id := fun st b hst =>
      hid ▸ (htask st b hst).runOf
    refine Prog.Triple.ite (fun _ => Prog.Triple.pure fun _ h => h) fun _ => ?_
    have hload : Prog.Triple (Holds P P) (loadInput x row)
        (fun a s => (∀ e, a = some e → row.inputEntityId = some e.id) ∧ Holds P P s)
        fun _ => Holds P P := by
      unfold loadInput
      cases row.inputEntityId with
      | none => exact Prog.Triple.pure fun _ h => ⟨nofun, h⟩
      | some entityId =>
        refine (query_triple _ _).post (fun a s h => ⟨fun e he => ?_, h.2.weaken fun _ _ h => h.1⟩)
          fun _ _ h => h
        obtain ⟨⟨st, b, -, rfl⟩, -⟩ := h
        exact congrArg some (Table.find_eq_some_iff.mp he).2.symm
    refine hload.bind fun input => Prog.Triple.assume fun hloaded => ?_
    cases input with
    | none =>
      exact (PluginRunner.saveRun_triple hP x.missingCommit hrow _).bind fun _ =>
        Prog.Triple.pure fun _ h => h
    | some entity =>
      have hentity : ∀ st b, P st b → EntityOf run.caseId st entity.id := fun st b hst =>
        (htask st b hst).input _ (hinput ▸ hloaded entity rfl)
      refine (PluginRunner.saveRun_triple hP x.flipCommit hrow _).bind fun _ => ?_
      have hrun := PluginRunner.run_existing_triple hP hmay x.run
        (show (w.request (flipped row) entity).caseId = run.caseId from hcase) hentity
        (show (flipped row).caseId = run.caseId from hcase) hrow
      refine Prog.Triple.tryCatch (F := fun _ => Holds P P) ?_
        fun e => Prog.Triple.pure fun _ h => h
      exact hrun.bind fun _ => Prog.Triple.pure fun _ h => h.2

end Sleuthgraph
