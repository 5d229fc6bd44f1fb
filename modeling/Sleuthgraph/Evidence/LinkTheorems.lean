import Sleuthgraph.Graph.MirrorTheorems
import Sleuthgraph.Api.IsolationTheorems

/-!
# Where evidence points

Two kinds of rows point to entities. The repository of relationships asserts that both endpoints
are in the case, and the runner links its evidence to the input entity only. An upload says itself
which entity it is about, and only the foreign key of the column looks at it: the row has to
exist, in whichever case. `EvidenceInCase` holds in every database reached as long as no upload
names a row of another case.
-/

namespace Sleuthgraph

open Programs Transactions Tables

/-- The entity of a row of evidence is in the case of the row. -/
def EvidenceInCase (st : Store) : Prop :=
  ∀ ev ∈ st.evidence, ∀ id, ev.entityId = some id → EntityOf ev.caseId st id

/-! ## Steps -/

section Steps

variable {py : Interp} {may : Rights} {c : UUID} {st st' : Store} {b b' : Bucket}

/-- A step keeps evidence in its case when the links that it may make, and that the foreign key
accepts, stay in the case. -/
lemma CaseStep.evidenceInCase (h : CaseStep py may c st b st' b')
    (hlinks : ∀ id, may.links st (some id) → st.entities.has id = true → EntityOf c st id)
    (hst : EvidenceInCase st) : EvidenceInCase st' := by
  intro ev hev id hid
  have hkept : ∀ ev ∈ st.evidence, ev.entityId = some id → EntityOf ev.caseId st' id :=
    fun ev hev hid => h.entityOf (hst ev hev id hid)
  cases h with
  | call hmay hcase hdoes => exact hkept ev (hdoes.runs_evidence.2 ▸ hev) hid
  | insertEvidence hcase huri hlink haccepts =>
    rcases (Table.mem_insert (accepts_insertEvidence haccepts)).mp hev with hev | rfl
    · exact hkept ev hev hid
    · have hhas : ev.entityId.all st.entities.has = true := by
        simp only [Store.accepts, Bool.and_eq_true] at haccepts
        exact haccepts.2
      rw [hid] at hhas hlink
      rw [hcase]
      exact hlinks id hlink hhas
  | upload hash blob => exact hkept ev hev hid
  | insertRun hcase hinput haccepts => exact hkept ev hev hid
  | updateRun change hrun => exact hkept ev hev hid

/-- Only calls touch entities. -/
lemma CaseStep.entities_eq (h : CaseStep py may c st b st' b') (hcalls : ∀ call, ¬ may.calls call) :
    st'.entities = st.entities := by
  cases h with
  | call hmay hcase hdoes => exact absurd hmay (hcalls _)
  | insertEvidence hcase huri hlink haccepts => rfl
  | upload hash blob => rfl
  | insertRun hcase hinput haccepts => rfl
  | updateRun change hrun => rfl

end Steps

/-! ## Uploads -/

/-- An upload that gets as far as the repository names no row of another case. -/
def ServerAction.LinksInside (app : App) (db : Database) : ServerAction → Prop
  | .request user _ (.inCase c (.createEvidence (.ok data) file _)) =>
    (CaseRepository.owned db.cases c user).isSome → file.length ≤ app.evidenceMaxUploadBytes →
      ∀ e ∈ db.store.entities, data.entityId = some e.id → e.caseId = c
  | _ => True

section Requests

variable {py : Interp} {app : App} {db : Database}

/-- No request but an upload can link evidence to an entity of another case. -/
lemma CaseRoute.links_entityOf {user c : UUID} {r : CaseRoute}
    (hr : ∀ data file contentType, r ≠ .createEvidence (.ok data) file contentType) {st : Store}
    {id : UUID} (hlink : (r.rights app user c).links st (some id)) : EntityOf c st id := by
  cases r with
  | createEvidence metadata file contentType =>
    cases metadata with
    | error e => exact hlink.elim
    | ok data => exact absurd rfl (hr data file contentType)
  | runPlugin pluginName inputEntityId => exact hlink id rfl
  | _ => exact hlink.elim

/-- A request below a case keeps evidence in its case, if its upload does. -/
lemma CaseRoute.exec_evidenceInCase (user : UUID) (env : Env) (c : UUID) (r : CaseRoute)
    (hallowed : (ServerAction.request user env (.inCase c r)).LinksInside app db)
    (hdb : EvidenceInCase db.store) :
    EvidenceInCase ((Request.inCase c r).exec py app env user db).2.store := by
  cases howned : CaseRepository.owned db.cases c user with
  | none => rwa [(r.exec_unowned py app env user howned).1]
  | some row =>
    by_cases hr : ∀ data file contentType, r ≠ .createEvidence (.ok data) file contentType
    · refine (r.exec_keeps py app env user (P := fun st _ => EvidenceInCase st) ?_ hdb).1
      exact fun st b st' b' hst hstep =>
        hstep.evidenceInCase (fun id hlink _ => r.links_entityOf hr hlink) hst
    · push Not at hr
      obtain ⟨data, file, contentType, rfl⟩ := hr
      refine (CaseRoute.exec_keeps py app env user _ (c := c)
        (P := fun st _ => EvidenceInCase st ∧ st.entities = db.store.entities) ?_ ⟨hdb, rfl⟩).1.1
      intro st b st' b' hst hstep
      refine ⟨hstep.evidenceInCase (fun id hlink hhas => ?_) hst.1,
        (hstep.entities_eq fun _ hmay => hmay).trans hst.2⟩
      obtain ⟨e, he, rfl⟩ := Table.has_iff.mp hhas
      have hcase := hallowed (howned ▸ rfl) hlink.2 e (hst.2 ▸ he) hlink.1.symm
      exact ⟨e, he, rfl, hcase⟩

/-- **Evidence stays in its case**, and so do relationships, in every database that is reached by
actions whose uploads name no row of another case. -/
theorem evidence_in_case (h : ServerReaches py app (ServerAction.LinksInside app) db) :
    EvidenceInCase db.store ∧ ∀ r ∈ db.store.relationships,
      EntityOf r.caseId db.store r.srcEntityId ∧ EntityOf r.caseId db.store r.dstEntityId := by
  refine ⟨(h.invariant (I := fun db => db.store.Sound ∧ EvidenceInCase db.store)
    ⟨.empty, fun _ hev => nomatch hev⟩ fun db a ⟨hs, hdb⟩ hallowed => ?_).2, h.sound.endpoints⟩
  refine ⟨hs.exec a, a.exec_keeps py app (P := fun st _ => EvidenceInCase st) hdb hs.inputs ?_ ?_
    fun _ _ _ _ => hdb⟩
  · rintro user env c r rfl
    exact r.exec_evidenceInCase user env c hallowed hdb
  · exact fun c st b st' b' hst hstep =>
      hstep.evidenceInCase (fun id hlink _ => hlink id rfl) hst

end Requests

/-! ### Two uploads -/

/-- An upload by `user` into `caseId`, about the entity `entityId`. -/
def evidenceUploaded (user caseId entityId newId : UUID) : ServerAction :=
  .request user (exampleEnv newId) (.inCase caseId (.createEvidence
    (.ok ⟨some entityId, "manual", "q", [], sourcePlugin_manual, by decide, validateAttrs_nil⟩)
    [] none))

/-- Two users with a case each; entity 1 is in the case of the first. -/
def twoCases : List ServerAction :=
  [caseCreated 1 7, caseCreated 2 8,
    .request 1 (exampleEnv 1) (.inCase 7 (.createEntity
      ⟨.person, "alice", [], 1, alice_length, validateAttrs_nil, unitRange_one⟩))]

theorem evidence_in_case_uploaded :
    EvidenceInCase (databaseAfter (twoCases ++ [evidenceUploaded 1 7 1 20])).store ∧
      ∀ r ∈ (databaseAfter (twoCases ++ [evidenceUploaded 1 7 1 20])).store.relationships,
        EntityOf r.caseId (databaseAfter (twoCases ++ [evidenceUploaded 1 7 1 20])).store
          r.srcEntityId ∧
        EntityOf r.caseId (databaseAfter (twoCases ++ [evidenceUploaded 1 7 1 20])).store
          r.dstEntityId := by
  have hcases : ServerReaches plainInterp exampleApp (ServerAction.LinksInside exampleApp)
      (databaseAfter twoCases) :=
    .step (twoCases[2]) (.step (twoCases[1]) (.step (twoCases[0]) .start trivial rfl) trivial rfl)
      trivial rfl
  refine evidence_in_case (.step (evidenceUploaded 1 7 1 20) hcases ?_ rfl)
  intro _ _ e he hid
  have hrows : ∀ e ∈ (databaseAfter twoCases).store.entities.rows, e.caseId = 7 := by
    decide +kernel
  exact hrows e he

/-- The second user's evidence is about the entity of the first. -/
theorem evidence_leaves_case :
    ¬ ∀ (py : Interp) (app : App) (db : Database), ServerReaches py app (fun _ _ => True) db →
      EvidenceInCase db.store ∧ ∀ r ∈ db.store.relationships,
        EntityOf r.caseId db.store r.srcEntityId ∧ EntityOf r.caseId db.store r.dstEntityId := by
  intro h
  have hrow : ∃ ev ∈ (databaseAfter (twoCases ++ [evidenceUploaded 2 8 1 20])).store.evidence.rows,
      ev.caseId = 8 ∧ ev.entityId = some 1 := by
    decide +kernel
  have hentities : ∀ e ∈ (databaseAfter
      (twoCases ++ [evidenceUploaded 2 8 1 20])).store.entities.rows, e.caseId = 7 := by
    decide +kernel
  obtain ⟨ev, hev, hcase, hentity⟩ := hrow
  obtain ⟨e, he, -, hother⟩ := (h plainInterp exampleApp _
    (reaches_databaseAfter (twoCases ++ [evidenceUploaded 2 8 1 20]))).1 ev hev 1 hentity
  rw [hentities e he, hcase] at hother
  cases hother

end Sleuthgraph
