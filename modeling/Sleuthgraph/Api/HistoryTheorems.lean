import Sleuthgraph.Api.IsolationTheorems
import Sleuthgraph.Lib.Histories

/-!
# What no request can undo

The server only adds rows and edits live ones. So over any run no row is lost, what says where a row
comes from does not change, a row that is deleted stays as it was when it was deleted, and the
ledger of evidence only grows. A deleted case is gone for everybody. An account that is deleted
takes no row with it: where a row names the user, the column becomes null.
-/

namespace Sleuthgraph

open Programs Transactions Tables Listings

/-! ## Versions of rows -/

/-- A later version of a case. -/
structure Case.Becomes (c c' : Case) : Prop where
  ownerId : Forgets c.ownerId c'.ownerId
  createdAt : c'.createdAt = c.createdAt
  deleted : c.live = false → c' = { c with ownerId := c'.ownerId }

/-- A later version of an entity. -/
structure Entity.Becomes (e e' : Entity) : Prop where
  caseId : e'.caseId = e.caseId
  type : e'.type = e.type
  createdBy : Forgets e.createdBy e'.createdBy
  createdAt : e'.createdAt = e.createdAt
  deleted : e.live = false → e' = { e with createdBy := e'.createdBy }

/-- A later version of a relationship: it may be deleted, and its creator. -/
structure Relationship.Becomes (r r' : Relationship) : Prop where
  createdBy : Forgets r.createdBy r'.createdBy
  deleted : r.live = false → r'.deletedAt = r.deletedAt
  rest : r' = { r with createdBy := r'.createdBy, deletedAt := r'.deletedAt }

/-- A later version of a row of the ledger. -/
structure Evidence.Becomes (ev ev' : Evidence) : Prop where
  createdBy : Forgets ev.createdBy ev'.createdBy
  rest : ev' = { ev with createdBy := ev'.createdBy }

/-- A later version of the audit row of a run. -/
structure PluginRun.Becomes (run run' : PluginRun) : Prop where
  caseId : run'.caseId = run.caseId
  inputEntityId : run'.inputEntityId = run.inputEntityId
  pluginName : run'.pluginName = run.pluginName
  pluginVersion : run'.pluginVersion = run.pluginVersion
  startedAt : run'.startedAt = run.startedAt
  createdBy : Forgets run.createdBy run'.createdBy

lemma Case.Becomes.refl (c : Case) : c.Becomes c := ⟨.refl _, rfl, fun _ => rfl⟩

lemma Case.Becomes.trans (c₁ c₂ c₃ : Case) (h : c₁.Becomes c₂) (h' : c₂.Becomes c₃) :
    c₁.Becomes c₃ where
  ownerId := h.ownerId.trans h'.ownerId
  createdAt := h'.createdAt.trans h.createdAt
  deleted hdead := by
    have h₂ := h.deleted hdead
    have hdead₂ : c₂.live = false := by
      rw [h₂]
      exact hdead
    have h₃ := h'.deleted hdead₂
    rw [h₂] at h₃
    exact h₃

lemma Entity.Becomes.refl (e : Entity) : e.Becomes e := ⟨rfl, rfl, .refl _, rfl, fun _ => rfl⟩

lemma Entity.Becomes.trans (e₁ e₂ e₃ : Entity) (h : e₁.Becomes e₂) (h' : e₂.Becomes e₃) :
    e₁.Becomes e₃ where
  caseId := h'.caseId.trans h.caseId
  type := h'.type.trans h.type
  createdBy := h.createdBy.trans h'.createdBy
  createdAt := h'.createdAt.trans h.createdAt
  deleted hdead := by
    have h₂ := h.deleted hdead
    have hdead₂ : e₂.live = false := by
      rw [h₂]
      exact hdead
    have h₃ := h'.deleted hdead₂
    rw [h₂] at h₃
    exact h₃

lemma Relationship.Becomes.refl (r : Relationship) : r.Becomes r := ⟨.refl _, fun _ => rfl, rfl⟩

lemma Relationship.Becomes.trans (r₁ r₂ r₃ : Relationship) (h : r₁.Becomes r₂)
    (h' : r₂.Becomes r₃) : r₁.Becomes r₃ where
  createdBy := h.createdBy.trans h'.createdBy
  deleted hdead := by
    have h₂ := h.deleted hdead
    have hdead₂ : r₂.live = false := by
      unfold live at hdead ⊢
      rw [h₂]
      exact hdead
    exact (h'.deleted hdead₂).trans h₂
  rest := by
    have h₃ := h'.rest
    rw [h.rest] at h₃
    exact h₃

lemma Evidence.Becomes.refl (ev : Evidence) : ev.Becomes ev := ⟨.refl _, rfl⟩

lemma Evidence.Becomes.trans (ev₁ ev₂ ev₃ : Evidence) (h : ev₁.Becomes ev₂)
    (h' : ev₂.Becomes ev₃) : ev₁.Becomes ev₃ where
  createdBy := h.createdBy.trans h'.createdBy
  rest := by
    have h₃ := h'.rest
    rw [h.rest] at h₃
    exact h₃

lemma PluginRun.Becomes.refl (run : PluginRun) : run.Becomes run :=
  ⟨rfl, rfl, rfl, rfl, rfl, .refl _⟩

lemma PluginRun.Becomes.trans (r₁ r₂ r₃ : PluginRun) (h : r₁.Becomes r₂) (h' : r₂.Becomes r₃) :
    r₁.Becomes r₃ where
  caseId := h'.caseId.trans h.caseId
  inputEntityId := h'.inputEntityId.trans h.inputEntityId
  pluginName := h'.pluginName.trans h.pluginName
  pluginVersion := h'.pluginVersion.trans h.pluginVersion
  startedAt := h'.startedAt.trans h.startedAt
  createdBy := h.createdBy.trans h'.createdBy

/-- The columns of a live row may be set. -/
lemma Entity.becomes_set {e : Entity} (hlive : e.live = true) (change : EntityChange) (now : Time) :
    e.Becomes (change.set now e) :=
  ⟨rfl, rfl, .refl _, rfl, fun hdead => by rw [hlive] at hdead; cases hdead⟩

lemma Case.becomes_set {c : Case} (hlive : c.live = true) (change : CaseChange) (now : Time) :
    c.Becomes (change.set now c) :=
  ⟨.refl _, rfl, fun hdead => by rw [hlive] at hdead; cases hdead⟩

/-- A live relationship may be deleted. -/
lemma Relationship.becomes_retire {r : Relationship} (hlive : r.live = true) (now : Time) :
    r.Becomes (r.retire now) :=
  ⟨.refl _, fun hdead => by simp [hlive] at hdead, rfl⟩

lemma forgets_setNull (user : UUID) (column : Option UUID) :
    Forgets column (setNull user column) := by
  unfold setNull
  split
  · exact Or.inr rfl
  · exact .refl _

/-! ## Versions of the database -/

/-- What a case leaves, and what its worker leaves. -/
structure Store.Becomes (st : Store) (b : Bucket) (st' : Store) (b' : Bucket) : Prop where
  entities : Later Entity.Becomes st.entities st'.entities
  relationships : Later Relationship.Becomes st.relationships st'.relationships
  evidence : Extended Evidence.Becomes st.evidence.rows st'.evidence.rows
  runs : Later PluginRun.Becomes st.runs st'.runs
  bucket : b <:+ b'

structure Database.Becomes (db db' : Database) : Prop where
  cases : Later Case.Becomes db.cases db'.cases
  store : db.store.Becomes db.bucket db'.store db'.bucket

lemma Store.Becomes.refl (st : Store) (b : Bucket) : st.Becomes b st b where
  entities := .refl Entity.Becomes.refl _
  relationships := .refl Relationship.Becomes.refl _
  evidence := .refl Evidence.Becomes.refl _
  runs := .refl PluginRun.Becomes.refl _
  bucket := List.suffix_rfl

lemma Store.Becomes.trans {st₁ st₂ st₃ : Store} {b₁ b₂ b₃ : Bucket} (h : st₁.Becomes b₁ st₂ b₂)
    (h' : st₂.Becomes b₂ st₃ b₃) : st₁.Becomes b₁ st₃ b₃ where
  entities := .trans Entity.Becomes.trans h.entities h'.entities
  relationships := .trans Relationship.Becomes.trans h.relationships h'.relationships
  evidence := .trans Evidence.Becomes.trans h.evidence h'.evidence
  runs := .trans PluginRun.Becomes.trans h.runs h'.runs
  bucket := h.bucket.trans h'.bucket

lemma Database.Becomes.refl (db : Database) : db.Becomes db :=
  ⟨.refl Case.Becomes.refl _, .refl _ _⟩

lemma Database.Becomes.trans {db₁ db₂ db₃ : Database} (h : db₁.Becomes db₂) (h' : db₂.Becomes db₃) :
    db₁.Becomes db₃ :=
  ⟨.trans Case.Becomes.trans h.cases h'.cases, h.store.trans h'.store⟩

/-! ## Steps -/

section Steps

variable {py : Interp} {may : Rights} {c : UUID} {st st' : Store} {b b' : Bucket}

lemma later_insertEntity {e : Entity} (haccepts : st.accepts (.insertEntity e) = true) :
    Later Entity.Becomes st.entities (st.apply (.insertEntity e)).entities :=
  .insert Entity.Becomes.refl (accepts_insertEntity haccepts)

lemma later_updateEntity {e : Entity} (he : e.LiveIn st) (change : EntityChange) (now : Time) :
    Later Entity.Becomes st.entities (st.apply (.updateEntity e.id change now)).entities :=
  .modify Entity.Becomes.refl he.mem (f := change.set now) (fun _ => rfl)
    (Entity.becomes_set he.live change now)

lemma Call.Does.becomes {call : Call} {x : Ext} (h : call.Does py x st st') (b : Bucket) :
    st.Becomes b st' b := by
  have hsame := Store.Becomes.refl st b
  cases h with
  | createEntity haccepts => exact { hsame with entities := later_insertEntity haccepts }
  | getOrCreateNew hnone haccepts => exact { hsame with entities := later_insertEntity haccepts }
  | raiseConfidence e he hcase hlt =>
    exact { hsame with entities := later_updateEntity he _ x.now }
  | editEntity e he hid hcase haccepts =>
    exact { hsame with entities := later_updateEntity he _ x.now }
  | remirrorEntity e he hid hcase hempty =>
    exact ⟨hsame.entities, hsame.relationships, hsame.evidence, hsame.runs, hsame.bucket⟩
  | dropEntity e he hid hcase => exact { hsame with entities := later_updateEntity he _ x.now }
  | createRelationship hsrc hdst haccepts =>
    exact { hsame with
      relationships := .insert Relationship.Becomes.refl (accepts_insertRelationship haccepts) }
  | createMissing hsrc hdst haccepts =>
    exact { hsame with
      relationships := .insert Relationship.Becomes.refl (accepts_insertRelationship haccepts) }
  | dropRelationship r hr hid hcase =>
    exact { hsame with
      relationships := .modify Relationship.Becomes.refl hr.mem (f := Relationship.retire x.now)
        (fun _ => rfl) (Relationship.becomes_retire hr.live x.now) }

/-- One step of a case. -/
lemma CaseStep.becomes (h : CaseStep py may c st b st' b') : st.Becomes b st' b' := by
  have hsame := Store.Becomes.refl st b
  cases h with
  | call hmay hcase hdoes => exact hdoes.becomes b
  | insertEvidence hcase huri hlink haccepts =>
    exact { hsame with
      evidence := .ofPrefix Evidence.Becomes.refl (Table.rows_prefix_insert _ _) }
  | upload hash blob => exact { hsame with bucket := List.suffix_cons _ _ }
  | insertRun hcase hinput haccepts =>
    exact { hsame with runs := .insert PluginRun.Becomes.refl (accepts_insertRun haccepts) }
  | @updateRun id change hrun =>
    obtain ⟨run, hmem, rfl, -⟩ := hrun
    exact { hsame with
      runs := .modify PluginRun.Becomes.refl hmem (f := change.set) (fun _ => rfl)
        ⟨rfl, rfl, rfl, rfl, rfl, .refl _⟩ }

/-- One statement of a request of `cases/router.py`. -/
lemma CaseTableStep.becomes {user : UUID} {cases cases' : Table Case} {r : CaseRequest}
    (h : CaseTableStep py user cases r cases') : Later Case.Becomes cases cases' := by
  cases h with
  | create x haccepts =>
    simp only [CaseWrite.accepts, Bool.and_eq_true, Bool.not_eq_true'] at haccepts
    exact .insert Case.Becomes.refl haccepts.1.1.1
  | update c hc hid now haccepts =>
    exact .modify Case.Becomes.refl hc.mem (f := CaseChange.set _ now) (fun _ => rfl)
      (Case.becomes_set hc.live _ now)
  | delete c hc hid now =>
    exact .modify Case.Becomes.refl hc.mem (f := CaseChange.set _ now) (fun _ => rfl)
      (Case.becomes_set hc.live _ now)

/-- A sweep ends runs. -/
lemma sweepRow_becomes (cutoff finishedAt : Time) (run : PluginRun) :
    run.Becomes (sweepRow cutoff finishedAt run) := by
  unfold sweepRow
  split
  · exact ⟨rfl, rfl, rfl, rfl, rfl, .refl _⟩
  · exact .refl run

/-- A deleted account leaves every row, without its name. -/
lemma Database.becomes_deleteUser (db : Database) (user : UUID) :
    db.Becomes (db.deleteUser user) := by
  have hforgets := forgets_setNull user
  refine ⟨.mapRows (f := Case.withoutUser user) (fun _ => rfl)
    fun c => ⟨hforgets _, rfl, fun _ => rfl⟩, ?_⟩
  constructor
  · exact .mapRows (f := Entity.withoutUser user) (fun _ => rfl)
      fun e => ⟨rfl, rfl, hforgets _, rfl, fun _ => rfl⟩
  · exact .mapRows (f := Relationship.withoutUser user) (fun _ => rfl)
      fun r => ⟨hforgets _, fun _ => rfl, rfl⟩
  · exact .map (f := Evidence.withoutUser user) (fun ev => ⟨hforgets _, rfl⟩) _
  · exact .mapRows (f := PluginRun.withoutUser user) (fun _ => rfl)
      fun run => ⟨rfl, rfl, rfl, rfl, rfl, hforgets _⟩
  · exact List.suffix_rfl

/-- It makes nothing point out of its case. -/
lemma Store.Sound.withoutUser (hs : st.Sound) (user : UUID) : (st.withoutUser user).Sound := by
  have hentity : ∀ {c id : UUID}, EntityOf c st id → EntityOf c (st.withoutUser user) id := by
    rintro c id ⟨e, he, hid, hcase⟩
    exact ⟨e.withoutUser user, List.mem_map_of_mem he, hid, hcase⟩
  constructor
  · intro r hr
    obtain ⟨row, hrow, rfl⟩ := List.mem_map.mp hr
    exact ⟨hentity (hs.endpoints row hrow).1, hentity (hs.endpoints row hrow).2⟩
  · intro v hv
    obtain ⟨c, he, hprops⟩ := hs.vertices v hv
    exact ⟨c, hentity he, hprops⟩
  · intro g hg
    obtain ⟨c, ⟨r, hr, hrow⟩, hprops⟩ := hs.edges g hg
    exact ⟨c, ⟨r.withoutUser user, List.mem_map_of_mem hr, hrow⟩, hprops⟩
  · intro run hrun id hid
    obtain ⟨row, hrow, rfl⟩ := List.mem_map.mp hrun
    exact hentity (hs.inputs row hrow id hid)
  · intro ev hev
    obtain ⟨row, hrow, rfl⟩ := List.mem_map.mp hev
    exact hs.uris row hrow

end Steps

/-! ## Runs -/

/-- What may happen to what is stored: the server acts, or an account is deleted. -/
inductive HistoryAction where
  | server (a : ServerAction)
  | deleteUser (user : UUID)

/-- The database after it. -/
def HistoryAction.exec (py : Interp) (app : App) (db : Database) : HistoryAction → Database
  | .server a => a.exec py app db
  | .deleteUser user => db.deleteUser user

section Runs

variable {py : Interp} {app : App} {db db' : Database}

/-- The databases that a history leads to. -/
abbrev HistoryLeadsTo (py : Interp) (app : App) : Database → Database → Prop :=
  Systems.Reaches (fun db (a : HistoryAction) => some (a.exec py app db)) fun _ _ => True

/-- A run of the server is a history. -/
lemma ServerReaches.leadsTo {allowed : Database → ServerAction → Prop}
    (h : ServerReaches py app allowed db) : HistoryLeadsTo py app Database.empty db := by
  induction h with
  | start => exact .start
  | step a _ _ hstep ih => exact .step (.server a) ih trivial hstep

/-- Every action leaves a later version of what there is. -/
lemma ServerAction.exec_becomes (hs : db.store.Sound) (a : ServerAction) :
    db.Becomes (a.exec py app db) := by
  constructor
  · cases a with
    | request user env r =>
      cases r with
      | cases r =>
        have hstep : ∀ cases (_ : Unit) cases', Later Case.Becomes db.cases cases →
            CaseTableStep py user cases r cases' → Later Case.Becomes db.cases cases' :=
          fun _ _ _ hlater hstep => .trans Case.Becomes.trans hlater hstep.becomes
        exact (r.exec_keeps py user app env (P := fun cases _ => Later Case.Becomes db.cases cases)
          hstep (.refl Case.Becomes.refl _)).1
      | inCase c r => exact .refl Case.Becomes.refl _
    | task x runId => exact .refl Case.Becomes.refl _
    | sweep thresholdMinutes now now' => exact .refl Case.Becomes.refl _
  · have hkept : ∀ (may : Rights) (c : UUID),
        KeptBy py may c fun st b => db.store.Becomes db.bucket st b :=
      fun may c st b st' b' hst hstep => hst.trans hstep.becomes
    have hstart := Store.Becomes.refl db.store db.bucket
    refine a.exec_keeps py app hstart hs.inputs ?_ (fun c => hkept _ c) ?_
    · intro user env c r _
      exact (r.exec_keeps py app env user (hkept _ c) hstart).1
    · intro thresholdMinutes now now' _
      exact { hstart with runs := .mapRows (pk_sweepRow _ _) (sweepRow_becomes _ _) }

/-- One step of a history. -/
lemma HistoryAction.exec_becomes (hs : db.store.Sound) (a : HistoryAction) :
    db.Becomes (a.exec py app db) ∧ (a.exec py app db).store.Sound := by
  cases a with
  | server a => exact ⟨a.exec_becomes hs, hs.exec a⟩
  | deleteUser user => exact ⟨db.becomes_deleteUser user, hs.withoutUser user⟩

lemma HistoryLeadsTo.sound_becomes (hs : db.store.Sound) (h : HistoryLeadsTo py app db db') :
    db'.store.Sound ∧ db.Becomes db' := by
  refine h.invariant (I := fun db' => db'.store.Sound ∧ db.Becomes db') ⟨hs, .refl db⟩ ?_
  intro db₁ a db₂ hdb₁ _ hstep
  cases hstep
  obtain ⟨hbecomes, hsound⟩ := HistoryAction.exec_becomes hdb₁.1 a
  exact ⟨hsound, hdb₁.2.trans hbecomes⟩

/-- **What is stored stays.** Whatever requests, tasks, sweeps and deleted accounts there are, each
row has a later version: its key and what says where it comes from are the same, and a row that was
deleted is the same in every column, up to the name of an account that is gone. The ledger and the
bucket only get longer. -/
theorem history_kept (h : HistoryLeadsTo py app Database.empty db)
    (hlater : HistoryLeadsTo py app db db') : db.Becomes db' :=
  (hlater.sound_becomes (h.sound_becomes .empty).1).2

end Runs

/-! ## Deleted cases -/

/-- The answer shows the row of the case. -/
def Answer.Shows (c : UUID) : Answer → Prop
  | .case _ row => row.id = c
  | .cases items => ∃ row ∈ items, row.id = c
  | _ => False

/-- The request names the case. -/
def Request.Names (c : UUID) : Request → Prop
  | .cases (.get caseId) | .cases (.update caseId _) | .cases (.delete caseId) => caseId = c
  | .cases _ => False
  | .inCase caseId _ => caseId = c

namespace CaseRequest

variable {py : Interp} {user : UUID} {row : Case}

/-- The table holds the row. -/
abbrev HasRow (row : Case) : Table Case → Unit → Prop := fun cases _ => row ∈ cases

/-- A live row is not the deleted one. -/
lemma id_ne_of_live {cases : Table Case} {c : Case} (hrow : row ∈ cases) (hdead : row.live = false)
    (hc : c ∈ cases) (hlive : c.live = true) : c.id ≠ row.id := by
  intro hid
  rw [Table.eq_of_pk_eq hc hrow hid, hdead] at hlive
  cases hlive

/-- The row of another case is answered. -/
lemma shown_triple {status : ℕ} {c : Case} (hne : c.id ≠ row.id) :
    Prog.Triple (Holds (HasRow row) (HasRow row))
      (do return .case status (← Prog.ofExcept (CaseRead.validate c)) : CaseDb Answer)
      (fun a s => ¬ a.Shows row.id ∧ Holds (HasRow row) (HasRow row) s)
      fun _ => Holds (HasRow row) (HasRow row) := by
  unfold CaseRead.validate
  split
  · exact Prog.Triple.pure fun _ h => ⟨hne, h⟩
  · exact Prog.Triple.throw fun _ h => h

/-- `get` does not find a deleted case. -/
lemma getLive_triple (hdead : row.live = false) (x : Ext) (caseId : UUID) :
    Prog.Triple (Holds (HasRow row) (HasRow row)) (CaseRepository.get x caseId user)
      (fun a s => (∀ c, a = some c → c.id = caseId ∧ caseId ≠ row.id) ∧
        Holds (HasRow row) (HasRow row) s)
      fun _ => Holds (HasRow row) (HasRow row) := by
  refine (caseQuery_triple _ _).post (fun a s h => ⟨?_, h.2.weaken fun _ _ h => h.1⟩)
    fun _ _ h => h
  obtain ⟨⟨cases₀, o, hrow, rfl⟩, -⟩ := h
  intro c hc
  obtain ⟨howned, hid⟩ := owned_eq_some_iff.mp hc
  exact ⟨hid, hid ▸ id_ne_of_live hrow hdead howned.mem howned.live⟩

/-- An update of another case leaves the row. -/
lemma mem_update_of_ne {cases : Table Case} (hrow : row ∈ cases) {caseId : UUID}
    (hne : caseId ≠ row.id) (change : CaseChange) (now : Time) :
    row ∈ CaseWrite.apply cases (.update caseId change now) := by
  have hpk : pk row ≠ caseId := Ne.symm hne
  exact (Table.mem_modify (change.set now) fun _ => rfl).mpr ⟨row, hrow, (if_neg hpk).symm⟩

variable (py user) in
/-- **No request about cases gets at a deleted case.** What it answers does not show the row, and it
answers nothing when it names it. -/
lemma endpoint_gone (hdead : row.live = false) (env : Env) (r : CaseRequest) :
    Prog.Triple (Holds (HasRow row) (HasRow row)) (r.endpoint py env user)
      (fun a s => (¬ (Request.cases r).Names row.id ∧ ¬ a.Shows row.id) ∧
        Holds (HasRow row) (HasRow row) s)
      fun _ => Holds (HasRow row) (HasRow row) := by
  cases r with
  | create data =>
    -- the key of the row is taken
    have hfresh : ∀ cases (o : Unit), HasRow row cases o →
        CaseWrite.accepts cases (.insert (CaseRepository.newCase env.x user data)) = true →
        row ∈ CaseWrite.apply cases (.insert (CaseRepository.newCase env.x user data)) ∧
          env.x.newId ≠ row.id := by
      intro cases o hrow hacc
      simp only [CaseWrite.accepts, Bool.and_eq_true, Bool.not_eq_true'] at hacc
      have hnew : cases.has (pk (CaseRepository.newCase env.x user data)) = false := hacc.1.1.1
      exact ⟨(Table.mem_insert hnew).mpr (Or.inl hrow),
        (Table.has_eq_false_iff.mp hnew row hrow).symm⟩
    have hcreate : Prog.Triple (Holds (HasRow row) (HasRow row))
        (CaseRepository.create env.x user data)
        (fun c s => c.id ≠ row.id ∧ Holds (HasRow row) (HasRow row) s)
        fun _ => Holds (HasRow row) (HasRow row) := by
      refine (caseWrite_triple (K := fun cases _ => row ∈ cases ∧ env.x.newId ≠ row.id) _ _
        hfresh).bind fun _ => ?_
      refine (caseCommit_triple _ fun _ _ h => h.1).bind fun _ => ?_
      refine (caseQuery_triple _ _).bind fun _ => Prog.Triple.assume fun hread => ?_
      obtain ⟨cases₀, o, ⟨-, hne⟩, -⟩ := hread
      exact Prog.Triple.pure fun _ h => ⟨hne, h.weaken fun _ _ h => h.1.1⟩
    refine hcreate.bind fun c => Prog.Triple.assume fun hne => ?_
    exact (shown_triple hne).post (fun a s h => ⟨⟨id, h.1⟩, h.2⟩) fun _ _ h => h
  | list status limit offset =>
    refine (caseQuery_triple _ _).bind fun items => Prog.Triple.assume fun hread => ?_
    obtain ⟨cases₀, o, hrow, hitems⟩ := hread
    have hothers : ∀ c ∈ items, c.id ≠ row.id := by
      intro c hc
      have hmem := NewestFirst.mem_of_mem_page _ (hitems ▸ hc)
      simp only [CaseRepository.ofOwner, List.mem_filter, Bool.and_eq_true, decide_eq_true_eq]
        at hmem
      exact id_ne_of_live hrow hdead hmem.1 hmem.2.1.2
    cases hvalid : items.mapM CaseRead.validate with
    | error e => exact Prog.Triple.throw fun _ h => h.weaken fun _ _ h => h.1
    | ok items' =>
      have hsame := mapM_validate_eq CaseRead.validate_eq hvalid
      refine Prog.Triple.pure fun _ h => ⟨⟨id, ?_⟩, h.weaken fun _ _ h => h.1⟩
      show ¬ ∃ c ∈ items', c.id = row.id
      rw [hsame]
      simpa using hothers
  | get caseId =>
    refine (getLive_triple hdead env.x caseId).bind fun a => Prog.Triple.assume fun ha => ?_
    cases a with
    | none => exact Prog.Triple.throw fun _ h => h
    | some c =>
      obtain ⟨rfl, hne⟩ := ha c rfl
      exact (shown_triple hne).post (fun a s h => ⟨⟨hne, h.1⟩, h.2⟩) fun _ _ h => h
  | update caseId data =>
    have hupdate : Prog.Triple (Holds (HasRow row) (HasRow row))
        (CaseRepository.update py env.x caseId user data)
        (fun a s => (∀ c, a = some c → c.id = caseId ∧ caseId ≠ row.id) ∧
          Holds (HasRow row) (HasRow row) s)
        fun _ => Holds (HasRow row) (HasRow row) := by
      refine (getLive_triple hdead env.x caseId).bind fun a => Prog.Triple.assume fun ha => ?_
      cases a with
      | none => exact Prog.Triple.pure fun _ h => ⟨by simp, h⟩
      | some loaded =>
        obtain ⟨rfl, hne⟩ := ha loaded rfl
        have hflush : Prog.Triple (Holds (HasRow row) (HasRow row))
            (CaseRepository.flushChange env.x loaded.id (data.change py loaded))
            (fun _ => Holds (HasRow row) (HasRow row))
            fun _ => Holds (HasRow row) (HasRow row) := by
          unfold CaseRepository.flushChange
          split
          · exact Prog.Triple.pure fun _ h => h
          · exact caseWrite_triple _ _ fun cases o h _ => mem_update_of_ne h hne _ _
        refine hflush.bind fun _ => (caseCommit_triple _ fun _ _ h => h).bind fun _ => ?_
        refine (caseQuery_triple _ _).post (fun a s h => ⟨?_, h.2.weaken fun _ _ h => h.1⟩)
          fun _ _ h => h
        obtain ⟨⟨cases₀, o, -, rfl⟩, -⟩ := h
        intro c hc
        exact ⟨(Table.find_eq_some_iff.mp hc).2, hne⟩
    refine hupdate.bind fun a => Prog.Triple.assume fun ha => ?_
    cases a with
    | none => exact Prog.Triple.throw fun _ h => h
    | some c =>
      obtain ⟨rfl, hne⟩ := ha c rfl
      exact (shown_triple hne).post (fun a s h => ⟨⟨hne, h.1⟩, h.2⟩) fun _ _ h => h
  | delete caseId =>
    have hdelete : Prog.Triple (Holds (HasRow row) (HasRow row))
        (CaseRepository.softDelete env.x caseId user)
        (fun ok s => (ok = true → caseId ≠ row.id) ∧ Holds (HasRow row) (HasRow row) s)
        fun _ => Holds (HasRow row) (HasRow row) := by
      refine (getLive_triple hdead env.x caseId).bind fun a => Prog.Triple.assume fun ha => ?_
      cases a with
      | none => exact Prog.Triple.pure fun _ h => ⟨by simp, h⟩
      | some c =>
        obtain ⟨rfl, hne⟩ := ha c rfl
        refine (caseWrite_triple (K := HasRow row) _ _ fun cases o h _ =>
          mem_update_of_ne h hne _ _).bind fun _ => ?_
        exact (caseCommit_triple _ fun _ _ h => h).bind fun _ =>
          Prog.Triple.pure fun _ h => ⟨fun _ => hne, h⟩
    refine hdelete.bind fun ok => Prog.Triple.assume fun hne => ?_
    unfold deleted
    split
    · exact Prog.Triple.throw fun _ h => h
    · exact Prog.Triple.pure fun _ h => ⟨⟨hne (by simp_all), id⟩, h⟩

end CaseRequest

section Deleted

variable {py : Interp} {app : App} {db db' : Database}

/-- No request gets at a deleted case of a sound database. -/
lemma Request.exec_gone (user : UUID) (env : Env) (r : Request) (hs : db.store.Sound) {row : Case}
    (hmem : row ∈ db.cases) (hdead : row.live = false) :
    (∀ a, (r.exec py app env user db).1 = .ok a → ¬ r.Names row.id ∧ ¬ a.Shows row.id) ∧
      row ∈ (r.exec py app env user db).2.cases ∧
      sliceOf row.id (r.exec py app env user db).2.store (r.exec py app env user db).2.bucket
        = sliceOf row.id db.store db.bucket := by
  cases r with
  | cases r =>
    have hgone := r.endpoint_gone py user hdead env
    exact ⟨(CaseRequest.exec_of_endpoint py user hgone hmem).2,
      (CaseRequest.exec_of_endpoint py user hgone hmem).1, rfl⟩
  | inCase c r =>
    have hunowned : c = row.id → CaseRepository.owned db.cases c user = none := by
      intro hc
      cases hget : CaseRepository.owned db.cases c user with
      | none => rfl
      | some live =>
        obtain ⟨howned, hid⟩ := owned_eq_some_iff.mp hget
        exact absurd (hid.trans hc) (CaseRequest.id_ne_of_live hmem hdead howned.mem howned.live)
    refine ⟨fun a ha => ⟨fun hc => ?_, ?_⟩, hmem, ?_⟩
    · exact (r.exec_unowned py app env user (hunowned hc)).2 a ha
    · have hwithin := ((r.exec_keeps py app env user (P := fun _ _ => True)
        (fun _ _ _ _ _ _ => trivial) trivial).2 a ha).2
      intro hshows
      cases a <;> first | exact hwithin | exact hshows
    · by_cases hc : c = row.id
      · rw [(r.exec_unowned py app env user (hunowned hc)).1]
      · exact (r.exec_keeps py app env user
          (P := fun st b => st.Sound ∧ sliceOf row.id st b = sliceOf row.id db.store db.bucket)
          (fun st b st' b' hst hstep =>
            ⟨hstep.sound hst.1, (hstep.slice_eq hst.1 hc).trans hst.2⟩)
          ⟨hs, rfl⟩).1.2

/-- **A deleted case is gone.** From then on, whatever has happened in between: its row is the same,
up to an owner whose account is gone; a request that names the case does not succeed, whoever makes
it; no request shows the row; and no request changes the row or anything that belongs to the
case. -/
theorem deleted_case_gone (h : HistoryLeadsTo py app Database.empty db) {row : Case}
    (hrow : row ∈ db.cases) (hdead : row.live = false) (hlater : HistoryLeadsTo py app db db') :
    ∃ row' ∈ db'.cases, Forgets row.ownerId row'.ownerId ∧
      row' = { row with ownerId := row'.ownerId } ∧
      ∀ (user : UUID) (env : Env) (r : Request),
        (∀ a, (r.exec py app env user db').1 = .ok a → ¬ r.Names row.id ∧ ¬ a.Shows row.id) ∧
          row' ∈ (r.exec py app env user db').2.cases ∧
          sliceOf row.id (r.exec py app env user db').2.store (r.exec py app env user db').2.bucket
            = sliceOf row.id db'.store db'.bucket := by
  obtain ⟨hsound, hbecomes⟩ := hlater.sound_becomes (h.sound_becomes .empty).1
  obtain ⟨row', hmem, hid, hlast⟩ := hbecomes.cases row hrow
  have hsame := hlast.deleted hdead
  have hdead' : row'.live = false := by
    rw [hsame]
    exact hdead
  refine ⟨row', hmem, hlast.ownerId, hsame, fun user env r => ?_⟩
  rw [show row.id = row'.id from hid.symm]
  exact r.exec_gone user env hsound hmem hdead'

end Deleted

/-! ### A case that is deleted -/

/-- User `user` deletes case `caseId`. -/
def caseDeleted (user caseId : UUID) : ServerAction :=
  .request user (exampleEnv 0) (.cases (.delete caseId))

theorem history_kept_deleted :
    (databaseAfter [caseCreated 1 7]).Becomes
      ((databaseAfter [caseCreated 1 7, caseDeleted 1 7]).deleteUser 1) :=
  history_kept (reaches_databaseAfter [caseCreated 1 7]).leadsTo
    (.step (.deleteUser 1) (.step (.server (caseDeleted 1 7)) .start trivial rfl) trivial rfl)

/-- The row of a case that its user has deleted. -/
def deletedCase : Case where
  id := 7
  ownerId := some 1
  name := "case"
  status := "active"
  tags := tagsValue []
  createdAt := 0
  updatedAt := 0
  deletedAt := some 0

lemma mem_deletedCase :
    deletedCase ∈ (databaseAfter [caseCreated 1 7, caseDeleted 1 7]).cases :=
  (Table.find_eq_some_iff (i := 7)).mp rfl |>.1

theorem deleted_case_gone_accountless :
    ∃ row' ∈ ((databaseAfter [caseCreated 1 7, caseDeleted 1 7, caseCreated 1 8]).deleteUser
        1).cases,
      Forgets (some 1) row'.ownerId ∧ row' = { deletedCase with ownerId := row'.ownerId } := by
  obtain ⟨row', hmem, howner, hsame, -⟩ :=
    deleted_case_gone (reaches_databaseAfter [caseCreated 1 7, caseDeleted 1 7]).leadsTo
      mem_deletedCase rfl
      (.step (.deleteUser 1) (.step (.server (caseCreated 1 8)) .start trivial rfl) trivial rfl)
  exact ⟨row', hmem, howner, hsame⟩

end Sleuthgraph
