import Sleuthgraph.Plugins.Runner
import Mathlib.Algebra.Order.BigOperators.Group.List
import Mathlib.Algebra.Order.Ring.Rat
import Mathlib.Tactic.Linarith

/-!
# What a run does to its transaction

`_persist` runs the repositories with `commit=False`, so what it does is a plan: the rows it
writes, and how it leaves the transaction when it raises. A repository call writes a row and its
mirror. When the row is refused the session waits for a rollback; when the mirror (or the
upload) is refused the call rolls back itself; every other exception leaves the session usable,
with all that was flushed so far.
-/

namespace Sleuthgraph

open Programs Transactions Tables

variable {O : Type} (py : Interp)

/-! ## Rows and their mirrors -/

/-- The statement of `upsert_vertex`, when it gets that far. -/
def vertexOp (e : Entity) : Except Exc Cypher :=
  if (EntityType.ofValue e.type).isNone then .error Exc.valueError
  else (encodeProps py.str (vertexProps py e)).map fun _ => vertexMerge py e

/-- The statement of `upsert_edge`, when it gets that far. -/
def edgeOp (r : Relationship) : Except Exc Cypher :=
  if (RelationshipType.ofValue r.relType).isNone then .error Exc.valueError
  else (encodeProps py.str (edgeProps py r)).map fun _ => edgeMerge py r

lemma upsertVertex_eq (x : Ext) (e : Entity) :
    (upsertVertex py x e : Db O Unit) = (do
      let op ← Prog.ofExcept (vertexOp py e)
      write x.mirror (.cypher op)) := by
  unfold upsertVertex vertexOp
  split
  · rfl
  · cases encodeProps py.str (vertexProps py e) <;> rfl

lemma upsertEdge_eq (x : Ext) (r : Relationship) :
    (upsertEdge py x r : Db O Unit) = (do
      let op ← Prog.ofExcept (edgeOp py r)
      write x.mirror (.cypher op)) := by
  unfold upsertEdge edgeOp
  split
  · rfl
  · cases encodeProps py.str (edgeProps py r) <;> rfl

/-- A row that is flushed and then settled by `settle`, under a rollback. -/
def savePlan {α : Type} (lost : Bool) (row : Write) (settle : O → Except Exc (List Write) × O)
    (a : α) : Plan Store Write O Exc α := fun st o =>
  if lost || !st.accepts row then (.raised .failed Exc.dbApiError [], o)
  else match settle o with
    | (.ok ops, o') => (.done a (row :: ops), o')
    | (.error e, o') => (.raised .undone e [row], o')

lemma savePlan_done {α : Type} {lost : Bool} {row : Write}
    {settle : O → Except Exc (List Write) × O} {a a' : α} {st : Store} {o o' : O}
    {ws : List Write} :
    savePlan lost row settle a st o = (.done a' ws, o') ↔
      lost = false ∧ st.accepts row = true ∧
        ∃ ops, settle o = (.ok ops, o') ∧ a' = a ∧ ws = row :: ops := by
  unfold savePlan
  split
  · rename_i h
    rw [Bool.or_eq_true, Bool.not_eq_true'] at h
    constructor
    · intro h'
      cases h'
    · intro ⟨hlost, haccepts, _⟩
      rcases h with h | h
      · rw [hlost] at h
        cases h
      · rw [haccepts] at h
        cases h
  · rename_i h
    rw [Bool.or_eq_true, Bool.not_eq_true', not_or, Bool.not_eq_true, Bool.not_eq_false] at h
    cases hset : settle o with
    | mk r o₁ =>
      cases r with
      | error e => simp
      | ok ops =>
        constructor
        · intro h'
          cases h'
          exact ⟨h.1, h.2, ops, rfl, rfl, rfl⟩
        · intro ⟨_, _, ops', hops, ha, hws⟩
          cases hops
          rw [ha, hws]

/-- The mirror of a row in the graph. -/
def mirrored (lost : Bool) (op : Except Exc Cypher) (o : O) : Except Exc (List Write) × O :=
  match op with
  | .error e => (.error e, o)
  | .ok op => (if lost then .error Exc.dbApiError else .ok [.cypher op], o)

lemma mirrored_ok {lost : Bool} {op : Except Exc Cypher} {o o' : O} {ops : List Write} :
    mirrored lost op o = (.ok ops, o') ↔
      lost = false ∧ o' = o ∧ ∃ c, op = .ok c ∧ ops = [.cypher c] := by
  cases op with
  | error e => simp [mirrored]
  | ok c =>
    cases lost with
    | true => simp [mirrored]
    | false =>
      simp only [mirrored, Bool.false_eq_true, if_false, Prod.mk.injEq, Except.ok.injEq, true_and,
        exists_eq_left']
      rw [and_comm, eq_comm]
      exact and_congr_right fun _ => eq_comm

lemma save_runs {α : Type} {x : Ext} {row : Write} {body : Db O Unit}
    {settle : O → Except Exc (List Write) × O} (a : α)
    (hbody : ∀ s : Session Store Write O, s.failed = false →
      match settle s.outside with
      | (.ok ops, o') => body s = (.ok (), { s.extend ops with outside := o' })
      | (.error e, o') => ∃ s', body s = (.error e, s') ∧
          s'.rolledBack = { s.rolledBack with outside := o' }) :
    Runs
      (do
        write x.flush row
        rollingBack do
          body
          commitIf false x.commit
        refreshIf false x.refresh
        pure a)
      (savePlan x.flush row settle a) := by
  intro s hs
  unfold savePlan
  by_cases hrow : (x.flush || !s.work.accepts row) = true
  -- the flush is refused, and nothing rolls back
  · have hw : (write x.flush row : Db O Unit) s
        = (.error Exc.dbApiError, { s with failed := true }) := write_refused hs hrow
    rw [Prog.bind_apply_error hw, if_pos hrow]
    simp [Effect.on]
  · have hrow' : x.flush = false ∧ s.work.accepts row = true := by simpa using hrow
    have hw : (write x.flush row : Db O Unit) s = (.ok (), s.extend [row]) :=
      hrow'.1 ▸ write_apply hs hrow'.2
    have hb := hbody (s.extend [row]) hs
    rw [Prog.bind_apply_ok hw, if_neg hrow]
    have hout : (s.extend [row]).outside = s.outside := rfl
    rw [hout] at hb
    cases hset : settle s.outside with
    | mk r o' =>
      rw [hset] at hb
      cases r with
      | ok ops =>
        have hroll : (rollingBack (do body; commitIf false x.commit) : Db O Unit)
            (s.extend [row]) = (.ok (), { (s.extend [row]).extend ops with outside := o' }) :=
          Prog.tryCatch_apply_ok (Prog.bind_apply_ok hb)
        rw [Prog.bind_apply_ok hroll]
        simp only [Effect.on, Session.extend_extend, List.singleton_append]
        rfl
      -- the body raises after the flush, and the call rolls back
      | error e =>
        obtain ⟨s', hb, hs'⟩ := hb
        have hroll : (rollingBack (do body; commitIf false x.commit) : Db O Unit)
            (s.extend [row]) = (.error e, s'.rolledBack) :=
          Prog.tryCatch_apply_error (Prog.bind_apply_error hb)
        rw [Prog.bind_apply_error hroll, hs']
        rfl

lemma mirror_runs {α : Type} {x : Ext} {row : Write} {mirror : Db O Unit}
    {op : Except Exc Cypher} (a : α)
    (hmirror : mirror = do
      let op ← Prog.ofExcept op
      write x.mirror (.cypher op)) :
    Runs
      (do
        write x.flush row
        rollingBack do
          mirror
          commitIf false x.commit
        refreshIf false x.refresh
        pure a)
      (savePlan x.flush row (mirrored x.mirror op) a) := by
  refine save_runs a fun s hs => ?_
  subst hmirror
  cases op with
  | error e => exact ⟨s, rfl, rfl⟩
  | ok op =>
    simp only [mirrored]
    cases hx : x.mirror with
    | false => exact write_apply hs rfl
    | true => exact ⟨{ s with failed := true }, write_refused hs rfl, rfl⟩

/-! ## Repository calls -/

/-- `get_or_create(..., commit=False)` -/
def getOrCreatePlan (x : Ext) (caseId : UUID) (createdBy : Option UUID) (data : EntityCreate) :
    Plan Store Write O Exc (Entity × Bool) :=
  Plan.lookup x.lookup
    (fun st => EntityRepository.withKey st caseId data.type.value data.label) fun rows =>
    match scalarOneOrNone rows with
    | .error e => Plan.throw e
    | .ok none =>
      let entity := EntityRepository.newEntity x caseId createdBy data
      savePlan x.flush (.insertEntity entity) (mirrored x.mirror (vertexOp py entity))
        (entity, true)
    | .ok (some existing) =>
      if data.confidence > existing.confidence then
        let bumped := { existing with confidence := data.confidence }
        savePlan x.flush
          (.updateEntity existing.id (EntityRepository.confidenceChange data.confidence) x.now)
          (mirrored x.mirror (vertexOp py bumped)) (bumped, false)
      else Plan.pure (existing, false)

lemma getOrCreate_runs (x : Ext) (caseId : UUID) (createdBy : Option UUID)
    (data : EntityCreate) :
    Runs (EntityRepository.getOrCreate py x caseId createdBy data false : Db O _)
      (getOrCreatePlan py x caseId createdBy data) := by
  unfold EntityRepository.getOrCreate EntityRepository.findByKey
  rw [bind_assoc]
  refine Runs.lookup _ _ fun rows => ?_
  cases scalarOneOrNone rows with
  | error e => exact Runs.throw e
  | ok found =>
    show Runs (EntityRepository.getOrCreateFrom py x caseId createdBy data false found) _
    cases found with
    | none =>
      unfold EntityRepository.getOrCreateFrom EntityRepository.create
      simp only [bind_assoc, pure_bind]
      exact mirror_runs _ (upsertVertex_eq py x _)
    | some existing =>
      unfold EntityRepository.getOrCreateFrom
      dsimp only
      split
      · exact mirror_runs _ (upsertVertex_eq py x _)
      · exact Runs.pure _

/-- `create_if_not_exists(..., commit=False)` -/
def createIfNotExistsPlan (x : Ext) (caseId : UUID) (createdBy : Option UUID)
    (data : RelationshipCreate) : Plan Store Write O Exc (Relationship × Bool) :=
  Plan.lookup x.lookup
    (fun st => RelationshipRepository.withKey st caseId data.srcEntityId data.dstEntityId
      data.relType.value) fun rows =>
    match scalarOneOrNone rows with
    | .error e => Plan.throw e
    | .ok (some existing) => Plan.pure (existing, false)
    | .ok none =>
      Plan.lookup x.endpoints
        (fun st => RelationshipRepository.endpointsInCase st caseId data.srcEntityId
          data.dstEntityId) fun rows =>
        if !(rows.contains data.srcEntityId && rows.contains data.dstEntityId) then
          Plan.throw (Exc.endpointNotInCase caseId)
        else
          let rel := RelationshipRepository.newRelationship x caseId createdBy data
          savePlan x.flush (.insertRelationship rel) (mirrored x.mirror (edgeOp py rel))
            (rel, true)

lemma createIfNotExists_runs (x : Ext) (caseId : UUID) (createdBy : Option UUID)
    (data : RelationshipCreate) :
    Runs (RelationshipRepository.createIfNotExists py x caseId createdBy data false : Db O _)
      (createIfNotExistsPlan py x caseId createdBy data) := by
  unfold RelationshipRepository.createIfNotExists RelationshipRepository.findByKey
  rw [bind_assoc]
  refine Runs.lookup _ _ fun rows => ?_
  cases scalarOneOrNone rows with
  | error e => exact Runs.throw e
  | ok found =>
    show Runs (RelationshipRepository.createIfNotExistsFrom py x caseId createdBy data false found)
      _
    cases found with
    | some existing => exact Runs.pure _
    | none =>
      unfold RelationshipRepository.createIfNotExistsFrom RelationshipRepository.create
        RelationshipRepository.assertEndpointsInCase
      simp only [bind_assoc, pure_bind]
      refine Runs.lookup _ _ fun ids => ?_
      split
      · exact Runs.throw _
      · exact mirror_runs _ (upsertEdge_eq py x _)

/-- The upload of a payload, which writes nothing to the database. -/
def uploaded (x : PutExt) (key : String) (payload : Bytes) (contentType : String) (b : Bucket) :
    Except Exc (List Write) × Bucket :=
  match EvidenceStorage.put x key payload contentType b with
  | (.ok (), b') => (.ok [], b')
  | (.error e, b') => (.error e, b')

/-- `EvidenceRepository.create(..., commit=False)` -/
def createEvidencePlan (x : Ext) (p : PutExt) (caseId : UUID) (createdBy : Option UUID)
    (data : EvidenceCreate) (payload : Bytes) (contentType : Option String) :
    Plan Store Write Bucket Exc Evidence :=
  let ev := EvidenceRepository.newEvidence x caseId createdBy data payload contentType
  savePlan x.flush (.insertEvidence ev)
    (uploaded p ev.responseUri payload (EvidenceRepository.contentTypeFinal contentType)) ev

lemma createEvidence_runs (x : Ext) (p : PutExt) (caseId : UUID) (createdBy : Option UUID)
    (data : EvidenceCreate) (payload : Bytes) (contentType : Option String) :
    Runs (EvidenceRepository.create x p caseId createdBy data payload contentType false)
      (createEvidencePlan x p caseId createdBy data payload contentType) := by
  refine save_runs _ fun s hs => ?_
  unfold uploaded external
  cases EvidenceStorage.put p _ payload _ s.outside with
  | mk r b' =>
    cases r with
    | ok u =>
      dsimp only
      rw [Session.extend_nil]
    | error e => exact ⟨_, rfl, rfl⟩

/-- An upload writes nothing to the database. -/
lemma uploaded_ok {p : PutExt} {key : String} {payload : Bytes} {contentType : String}
    {b b' : Bucket} {ops : List Write}
    (h : uploaded p key payload contentType b = (.ok ops, b')) : ops = [] := by
  unfold uploaded at h
  split at h
  · cases h
    rfl
  · cases h

/-- An upload that meets no failure. -/
lemma uploaded_calm {p : PutExt} (hhead : p.head = false) (hput : p.put = false) (key : String)
    (payload : Bytes) (contentType : String) (b : Bucket) :
    ∃ b', uploaded p key payload contentType b = (.ok [], b') := by
  have hanswer : (EvidenceStorage.put p key payload contentType b).1 = .ok () := by
    unfold EvidenceStorage.put EvidenceStorage.putObject
    rw [hhead, hput, if_neg Bool.false_ne_true, if_neg Bool.false_ne_true]
    cases b.lookup key with
    | none => rfl
    | some blob =>
      dsimp only
      split
      · rfl
      · rfl
  refine ⟨(EvidenceStorage.put p key payload contentType b).2, ?_⟩
  unfold uploaded
  rw [show EvidenceStorage.put p key payload contentType b = (.ok (), _) from
    Prod.ext hanswer rfl]

/-- A row of the ledger that is accepted once is accepted with another id that is new. -/
lemma accepts_newEvidence {x x' : Ext} {caseId : UUID} {createdBy : Option UUID}
    {data : EvidenceCreate} {payload : Bytes} {contentType : Option String} {st st' : Store}
    (h : st.accepts (.insertEvidence
      (EvidenceRepository.newEvidence x caseId createdBy data payload contentType)) = true)
    (hentities : st'.entities = st.entities) (hnew : st'.evidence.has x'.newId = false) :
    st'.accepts (.insertEvidence
      (EvidenceRepository.newEvidence x' caseId createdBy data payload contentType)) = true := by
  simp only [Store.accepts, Bool.and_eq_true, Bool.not_eq_true', hentities] at h ⊢
  obtain ⟨⟨⟨⟨⟨⟨⟨-, hplugin⟩, hquery⟩, hhash⟩, huri⟩, htype⟩, hspec⟩, hentity⟩ := h
  exact ⟨⟨⟨⟨⟨⟨⟨hnew, hplugin⟩, hquery⟩, hhash⟩, huri⟩, htype⟩, hspec⟩, hentity⟩

/-! ## The loops -/

/-- The loop over the entity proposals. -/
def persistEntitiesPlan (x : RunExt) (req : RunRequest) :
    ℕ → List EntityProposal → PluginRunner.Refs →
      Plan Store Write Bucket Exc (PluginRunner.Refs × List Entity)
  | _, [], refs => Plan.pure (refs, [])
  | i, ep :: proposals, refs =>
    (Plan.ofExcept (EntityCreate.validate ep.type.value ep.label ep.attrs ep.confidence)).bind
      fun data => (getOrCreatePlan py (x.entity i) req.caseId req.createdBy data).bind
        fun (entity, wasCreated) =>
          (persistEntitiesPlan x req (i + 1) proposals ((ep.ref, entity) :: refs)).bind
            fun (refs, created) =>
              Plan.pure (refs, if wasCreated then entity :: created else created)

lemma persistEntities_runs (x : RunExt) (req : RunRequest) (i : ℕ)
    (proposals : List EntityProposal) (refs : PluginRunner.Refs) :
    Runs (PluginRunner.persistEntities py x req i proposals refs)
      (persistEntitiesPlan py x req i proposals refs) := by
  induction proposals generalizing i refs with
  | nil => exact Runs.pure _
  | cons ep proposals ih =>
    exact (Runs.ofExcept _).bind fun data => (getOrCreate_runs py _ _ _ data).bind fun _ =>
      (ih _ _).bind fun _ => Runs.pure _

/-- The loop over the relationship proposals. -/
def persistRelationshipsPlan (x : RunExt) (req : RunRequest) (plugin : OSINTPlugin)
    (refs : PluginRunner.Refs) :
    ℕ → List RelationshipProposal → Plan Store Write Bucket Exc (List Relationship)
  | _, [] => Plan.pure []
  | i, rp :: proposals =>
    (Plan.ofExcept (PluginRunner.resolveRef rp.src req.inputEntity refs)).bind fun src =>
      (Plan.ofExcept (PluginRunner.resolveRef rp.dst req.inputEntity refs)).bind fun dst =>
        (Plan.ofExcept (RelationshipCreate.validate src.id dst.id rp.relType.value rp.confidence
          (some plugin.fullName) rp.attrs)).bind fun data =>
          (createIfNotExistsPlan py (x.relationship i) req.caseId req.createdBy data).bind
            fun (rel, wasCreated) =>
              (persistRelationshipsPlan x req plugin refs (i + 1) proposals).bind fun created =>
                Plan.pure (if wasCreated then rel :: created else created)

lemma persistRelationships_runs (x : RunExt) (req : RunRequest) (plugin : OSINTPlugin)
    (refs : PluginRunner.Refs) (i : ℕ) (proposals : List RelationshipProposal) :
    Runs (PluginRunner.persistRelationships py x req plugin refs i proposals)
      (persistRelationshipsPlan py x req plugin refs i proposals) := by
  induction proposals generalizing i with
  | nil => exact Runs.pure _
  | cons rp proposals ih =>
    exact (Runs.ofExcept _).bind fun src => (Runs.ofExcept _).bind fun dst =>
      (Runs.ofExcept _).bind fun data => (createIfNotExists_runs py _ _ _ data).bind fun _ =>
        (ih _).bind fun _ => Runs.pure _

/-- The loop over the evidence proposals. -/
def persistEvidencePlan (x : RunExt) (req : RunRequest) (plugin : OSINTPlugin) :
    ℕ → List EvidenceProposal → Plan Store Write Bucket Exc (List Evidence)
  | _, [] => Plan.pure []
  | i, evp :: proposals =>
    (Plan.ofExcept (EvidenceCreate.validate
      (if evp.linkToInput then some req.inputEntity.id else none) plugin.fullName evp.query
      evp.reproducibilitySpec)).bind fun data =>
      (createEvidencePlan (x.evidence i) (x.blob i) req.caseId req.createdBy data evp.payload
        evp.contentType).bind fun ev =>
          (persistEvidencePlan x req plugin (i + 1) proposals).bind fun created =>
            Plan.pure (ev :: created)

lemma persistEvidence_runs (x : RunExt) (req : RunRequest) (plugin : OSINTPlugin) (i : ℕ)
    (proposals : List EvidenceProposal) :
    Runs (PluginRunner.persistEvidence x req plugin i proposals)
      (persistEvidencePlan x req plugin i proposals) := by
  induction proposals generalizing i with
  | nil => exact Runs.pure _
  | cons evp proposals ih =>
    exact (Runs.ofExcept _).bind fun data => (createEvidence_runs _ _ _ _ data _ _).bind
      fun _ => (ih _).bind fun _ => Runs.pure _

/-- `_persist`, up to its commit. -/
def persistPlan (x : RunExt) (req : RunRequest) (plugin : OSINTPlugin) (result : QueryResult) :
    Plan Store Write Bucket Exc Persisted :=
  (persistEntitiesPlan py x req 0 result.entities []).bind fun (refs, entities) =>
    (persistRelationshipsPlan py x req plugin refs 0 result.relationships).bind
      fun relationships =>
        (persistEvidencePlan x req plugin 0 result.evidence).bind fun evidence =>
          Plan.pure ⟨entities, relationships, evidence⟩

/-- `_resolve_credentials` -/
def credentialsPlan (x : RunExt) (req : RunRequest) (plugin : OSINTPlugin) :
    Plan Store Write Bucket Exc (Option PyDict) :=
  match plugin.requiresCredentials, req.credentials, req.createdBy with
  | true, none, some user =>
    Plan.lookup x.credential (fun _ => ()) fun _ =>
      match req.vault user plugin.name with
      | .error e => Plan.throw e
      | .ok none => Plan.throw (Exc.pluginCredentialMissing ("No API key stored for "
          ++ plugin.name ++ ". Store one via POST /credentials/" ++ plugin.name))
      | .ok (some key) => Plan.pure (some [("api_key", .str key)])
  | _, credentials, _ => Plan.pure credentials

lemma resolveCredentials_runs (x : RunExt) (req : RunRequest) (plugin : OSINTPlugin) :
    Runs (PluginRunner.resolveCredentials x req plugin) (credentialsPlan x req plugin) := by
  unfold PluginRunner.resolveCredentials credentialsPlan
  cases plugin.requiresCredentials with
  | false => exact Runs.pure _
  | true =>
    cases req.credentials with
    | some credentials => exact Runs.pure _
    | none =>
      cases req.createdBy with
      | none => exact Runs.pure _
      | some user =>
        refine Runs.lookup x.credential (fun _ => ()) fun _ => ?_
        cases req.vault user plugin.name with
        | error e => exact Runs.throw e
        | ok decrypted =>
          cases decrypted with
          | none => exact Runs.throw _
          | some key => exact Runs.pure _

/-- What the `try` of a run does before the commit of `_persist`. -/
def workPlan (x : RunExt) (req : RunRequest) (plugin : OSINTPlugin) :
    Plan Store Write Bucket Exc Persisted :=
  (credentialsPlan x req plugin).bind fun credentials =>
    (Plan.ofExcept (PluginRunner.queryPlugin req plugin credentials)).bind fun result =>
      persistPlan py x req plugin result

/-- **The work of a run is its plan.** -/
theorem work_runs (x : RunExt) (req : RunRequest) (plugin : OSINTPlugin) :
    Runs (PluginRunner.work py x req plugin) (workPlan py x req plugin) := by
  refine (resolveCredentials_runs x req plugin).bind fun credentials => ?_
  refine (Runs.ofExcept _).bind fun result => ?_
  exact (persistEntities_runs py x req 0 _ _).bind fun _ =>
    (persistRelationships_runs py x req plugin _ 0 _).bind fun _ =>
      (persistEvidence_runs x req plugin 0 _).bind fun _ => Runs.pure _

/-! ## Every write of the work can be seen -/

/-- A number that every saved row increases. -/
def Store.weight (st : Store) : ℚ :=
  (st.entities.rows.map fun e => 1 + e.confidence).sum + st.relationships.rows.length
    + st.evidence.rows.length

/-- The writes leave the audit rows, and where there are any the store weighs more. -/
structure Grows (st : Store) (ws : List Write) : Prop where
  runs : (applyAll st ws).runs = st.runs
  weight : ws ≠ [] → st.weight < (applyAll st ws).weight

lemma Grows.nil (st : Store) : Grows st [] := ⟨rfl, fun h => absurd rfl h⟩

lemma Grows.append {st : Store} {ws ws' : List Write} (h : Grows st ws)
    (h' : Grows (applyAll st ws) ws') : Grows st (ws ++ ws') := by
  constructor
  · rw [applyAll_append, h'.runs, h.runs]
  · intro hne
    rw [applyAll_append]
    -- a half without writes leaves the store of the other half
    by_cases hws : ws = []
    · subst hws
      exact h'.weight (by simpa using hne)
    · by_cases hws' : ws' = []
      · subst hws'
        exact h.weight hws
      · exact (h.weight hws).trans (h'.weight hws')

/-- One row, and then statements of the graph. -/
lemma Grows.row {st : Store} {row : Write} (hruns : (st.apply row).runs = st.runs)
    (hweight : st.weight < (st.apply row).weight) (ops : List Cypher) :
    Grows st (row :: ops.map .cypher) := by
  have hgraph : ∀ (ops : List Cypher) (st : Store),
      (applyAll st (ops.map Write.cypher)).runs = st.runs ∧
        (applyAll st (ops.map Write.cypher)).weight = st.weight := by
    intro ops
    induction ops with
    | nil => exact fun st => ⟨rfl, rfl⟩
    | cons op ops ih =>
      intro st
      exact ih (st.apply (.cypher op))
  obtain ⟨hr, hw⟩ := hgraph ops (st.apply row)
  exact ⟨hr.trans hruns, fun _ => hw.symm ▸ hweight⟩

lemma grows_insertEntity {st : Store} {e : Entity} (hconf : 0 ≤ e.confidence)
    (h : st.accepts (.insertEntity e) = true) (ops : List Cypher) :
    Grows st (.insertEntity e :: ops.map .cypher) := by
  refine Grows.row rfl ?_ ops
  simp only [Store.weight, Store.apply, Table.rows_insert (accepts_insertEntity h),
    List.map_append, List.sum_append, List.map_singleton, List.sum_singleton]
  linarith

lemma grows_raise {st : Store} {e : Entity} (he : e ∈ st.entities) {confidence : ℚ}
    (hlt : e.confidence < confidence) (now : Time) (ops : List Cypher) :
    Grows st (.updateEntity e.id (EntityRepository.confidenceChange confidence) now
      :: ops.map .cypher) := by
  refine Grows.row rfl ?_ ops
  -- one summand grows, and the others stay
  have hconf : ∀ r ∈ st.entities.rows, pk r = e.id →
      r.confidence < ((EntityRepository.confidenceChange confidence).set now r).confidence := by
    intro r hr hid
    obtain rfl := Table.eq_of_pk_eq hr he hid
    exact hlt
  have hsum : (st.entities.rows.map fun r => 1 + r.confidence).sum <
      (st.entities.rows.map fun r => 1 + (if pk r = e.id then
        (EntityRepository.confidenceChange confidence).set now r else r).confidence).sum := by
    refine List.sum_lt_sum _ _ (fun r hr => ?_) ⟨e, he, ?_⟩
    · split
      · rename_i hid
        have := hconf r hr hid
        linarith
      · exact le_refl _
    · rw [if_pos (show pk e = e.id from rfl)]
      have := hconf e he rfl
      linarith
  simp only [Store.weight, Store.apply, Table.modify, List.map_map, Function.comp_def]
  linarith

lemma grows_insertRelationship {st : Store} {r : Relationship}
    (h : st.accepts (.insertRelationship r) = true) (ops : List Cypher) :
    Grows st (.insertRelationship r :: ops.map .cypher) := by
  refine Grows.row rfl ?_ ops
  simp only [Store.weight, Store.apply, Table.rows_insert (accepts_insertRelationship h),
    List.length_append,
    List.length_singleton, Nat.cast_add, Nat.cast_one]
  linarith

lemma grows_insertEvidence {st : Store} {ev : Evidence}
    (h : st.accepts (.insertEvidence ev) = true) (ops : List Cypher) :
    Grows st (.insertEvidence ev :: ops.map .cypher) := by
  refine Grows.row rfl ?_ ops
  simp only [Store.weight, Store.apply, Table.rows_insert (accepts_insertEvidence h),
    List.length_append,
    List.length_singleton, Nat.cast_add, Nat.cast_one]
  linarith

lemma savePlan_grows {α : Type} {lost : Bool} {row : Write}
    {settle : O → Except Exc (List Write) × O} {a : α} {st : Store} {o : O}
    (hsettle : ∀ o ops, (settle o).1 = .ok ops → ∃ cs : List Cypher, ops = cs.map .cypher)
    (hrow : st.accepts row = true → ∀ ops : List Cypher, Grows st (row :: ops.map .cypher)) :
    Grows st (savePlan lost row settle a st o).1.writes := by
  unfold savePlan
  split
  · exact Grows.nil st
  · rename_i hacc
    have hacc' : st.accepts row = true := by simp_all
    cases hset : settle o with
    | mk r o' =>
      cases r with
      | ok ops =>
        obtain ⟨cs, rfl⟩ := hsettle o ops (by rw [hset])
        exact hrow hacc' cs
      | error e => exact hrow hacc' []

lemma mirrored_cypher {lost : Bool} {op : Except Exc Cypher} (o : O) (ops : List Write)
    (h : (mirrored lost op o).1 = .ok ops) : ∃ cs : List Cypher, ops = cs.map .cypher := by
  unfold mirrored at h
  cases op with
  | error e => cases h
  | ok op =>
    cases lost with
    | true => cases h
    | false => exact ⟨[op], (Except.ok.inj h).symm⟩

lemma uploaded_cypher {p : PutExt} {key : String} {payload : Bytes} {contentType : String}
    (b : Bucket) (ops : List Write) (h : (uploaded p key payload contentType b).1 = .ok ops) :
    ∃ cs : List Cypher, ops = cs.map .cypher := by
  unfold uploaded at h
  split at h
  · exact ⟨[], (Except.ok.inj h).symm⟩
  · cases h

lemma getOrCreatePlan_grows (x : Ext) (caseId : UUID) (createdBy : Option UUID)
    (data : EntityCreate) :
    Plan.Within Grows (getOrCreatePlan py x caseId createdBy data : Plan _ _ O _ _) := by
  refine Plan.Within.lookup Grows.nil fun st o => ?_
  cases hrows : scalarOneOrNone (EntityRepository.withKey st caseId data.type.value data.label) with
  | error e => exact Grows.nil st
  | ok found =>
    cases found with
    | none =>
      exact savePlan_grows mirrored_cypher
        (grows_insertEntity (e := EntityRepository.newEntity x caseId createdBy data)
          data.confidence_range.1)
    | some existing =>
      have hmem : existing ∈ st.entities := by
        refine List.mem_of_mem_filter (p := _) (scalarOneOrNone_some hrows ▸ ?_ :
          existing ∈ EntityRepository.withKey st caseId data.type.value data.label)
        exact List.mem_singleton_self existing
      dsimp only
      split
      · exact savePlan_grows mirrored_cypher fun _ => grows_raise hmem ‹_› x.now
      · exact Grows.nil st

lemma createIfNotExistsPlan_grows (x : Ext) (caseId : UUID) (createdBy : Option UUID)
    (data : RelationshipCreate) :
    Plan.Within Grows (createIfNotExistsPlan py x caseId createdBy data : Plan _ _ O _ _) := by
  refine Plan.Within.lookup Grows.nil fun st o => ?_
  cases scalarOneOrNone (RelationshipRepository.withKey st caseId data.srcEntityId
    data.dstEntityId data.relType.value) with
  | error e => exact Grows.nil st
  | ok found =>
    cases found with
    | some existing => exact Grows.nil st
    | none =>
      refine Plan.Within.lookup Grows.nil (fun st o => ?_) st o
      split
      · exact Grows.nil st
      · exact savePlan_grows mirrored_cypher grows_insertRelationship

lemma createEvidencePlan_grows (x : Ext) (p : PutExt) (caseId : UUID) (createdBy : Option UUID)
    (data : EvidenceCreate) (payload : Bytes) (contentType : Option String) :
    Plan.Within Grows (createEvidencePlan x p caseId createdBy data payload contentType) :=
  fun _ _ => savePlan_grows uploaded_cypher grows_insertEvidence

section

variable {α β : Type} {p : Plan Store Write O Exc α} {f : α → Plan Store Write O Exc β}

lemma grows_pure (a : α) : Plan.Within Grows (Plan.pure a : Plan Store Write O Exc α) :=
  Plan.Within.pure Grows.nil a

lemma grows_ofExcept (r : Except Exc α) :
    Plan.Within Grows (Plan.ofExcept r : Plan Store Write O Exc α) :=
  Plan.Within.ofExcept Grows.nil r

lemma grows_bind (hp : Plan.Within Grows p) (hf : ∀ a, Plan.Within Grows (f a)) :
    Plan.Within Grows (p.bind f) :=
  Plan.Within.bind (fun _ _ _ => Grows.append) hp hf

end

lemma persistEntitiesPlan_grows (x : RunExt) (req : RunRequest) (i : ℕ)
    (proposals : List EntityProposal) (refs : PluginRunner.Refs) :
    Plan.Within Grows (persistEntitiesPlan py x req i proposals refs) := by
  induction proposals generalizing i refs with
  | nil => exact grows_pure _
  | cons ep proposals ih =>
    exact grows_bind (grows_ofExcept _) fun data =>
      grows_bind (getOrCreatePlan_grows py _ _ _ data) fun _ =>
        grows_bind (ih _ _) fun _ => grows_pure _

lemma persistRelationshipsPlan_grows (x : RunExt) (req : RunRequest) (plugin : OSINTPlugin)
    (refs : PluginRunner.Refs) (i : ℕ) (proposals : List RelationshipProposal) :
    Plan.Within Grows (persistRelationshipsPlan py x req plugin refs i proposals) := by
  induction proposals generalizing i with
  | nil => exact grows_pure _
  | cons rp proposals ih =>
    exact grows_bind (grows_ofExcept _) fun _ => grows_bind (grows_ofExcept _) fun _ =>
      grows_bind (grows_ofExcept _) fun data =>
        grows_bind (createIfNotExistsPlan_grows py _ _ _ data) fun _ =>
          grows_bind (ih _) fun _ => grows_pure _

lemma persistEvidencePlan_grows (x : RunExt) (req : RunRequest) (plugin : OSINTPlugin) (i : ℕ)
    (proposals : List EvidenceProposal) :
    Plan.Within Grows (persistEvidencePlan x req plugin i proposals) := by
  induction proposals generalizing i with
  | nil => exact grows_pure _
  | cons evp proposals ih =>
    exact grows_bind (grows_ofExcept _) fun data =>
      grows_bind (createEvidencePlan_grows _ _ _ _ data _ _) fun _ =>
        grows_bind (ih _) fun _ => grows_pure _

lemma credentialsPlan_grows (x : RunExt) (req : RunRequest) (plugin : OSINTPlugin) :
    Plan.Within Grows (credentialsPlan x req plugin) := by
  unfold credentialsPlan
  split
  · rename_i user _ _ _
    refine Plan.Within.lookup Grows.nil fun st o => ?_
    cases req.vault user plugin.name with
    | error e => exact Grows.nil st
    | ok decrypted => cases decrypted <;> exact Grows.nil st
  · exact grows_pure _

/-- **Every write of the work can be seen**, and none of them touches an audit row. -/
theorem workPlan_grows (x : RunExt) (req : RunRequest) (plugin : OSINTPlugin) :
    Plan.Within Grows (workPlan py x req plugin) :=
  grows_bind (credentialsPlan_grows x req plugin) fun _ => grows_bind (grows_ofExcept _) fun _ =>
    grows_bind (persistEntitiesPlan_grows py x req 0 _ _) fun _ =>
      grows_bind (persistRelationshipsPlan_grows py x req plugin _ 0 _) fun _ =>
        grows_bind (persistEvidencePlan_grows x req plugin 0 _) fun _ => grows_pure _

end Sleuthgraph
