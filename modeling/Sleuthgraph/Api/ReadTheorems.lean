import Sleuthgraph.Evidence.LinkTheorems
import Sleuthgraph.Graph.MirrorTheorems

/-!
# Stored rows stay readable

The read schemas want an object as the `attrs` of an entity and a list of texts as the `tags` of a
case. The update schemas allow an explicit null for every field. A null label, confidence, name or
status is refused by the `NOT NULL` of its column; but `attrs` and `tags` are JSON columns, whose
null is a value, and the row that has it fails every read from then on. Without such an update,
every row that is stored is readable, and the reads of entities and cases never fail on a row.
-/

namespace Sleuthgraph

open Programs Transactions Tables Listings

/-! ## Readable rows -/

/-- What `EntityRead` asks of a row. -/
structure Entity.Readable (e : Entity) : Prop where
  type : (EntityType.ofValue e.type).isSome
  attrs : e.attrs.isDict = true
  confidence : UnitRange e.confidence

/-- What `CaseRead` asks of a row. -/
structure Case.Readable (c : Case) : Prop where
  name : c.name ≠ ""
  status : (CaseStatus.ofValue c.status).isSome
  tags : c.tags.isTexts = true

lemma Entity.Readable.validate {e : Entity} (h : e.Readable) : EntityRead.validate e = .ok e := by
  simp only [EntityRead.validate, h.type, h.attrs, Bool.and_self, if_true]

lemma Case.Readable.validate {c : Case} (h : c.Readable) : CaseRead.validate c = .ok c := by
  simp only [CaseRead.validate, h.status, h.tags, Bool.and_self, if_true]

lemma LengthIn.ne_empty {n : ℕ} {s : String} (h : LengthIn n s) : s ≠ "" := by
  rintro rfl
  have hpos : 1 ≤ "".length := h.1
  simp at hpos

lemma isTexts_tagsValue (tags : List String) : (tagsValue tags).isTexts = true := by
  simp [tagsValue, PyVal.isTexts]

/-- An explicit null differs from every value. -/
lemma changed_null {α : Type} [DecidableEq α] (old : α) :
    (some none : Option (Option α)).filter (fun v => v ≠ some old) = some none := by
  simp [Option.filter]

/-- The column after an update, whether it had to be set or not. -/
lemma changed_column {α : Type} [DecidableEq α] (new : Option (Option α)) (old : α) :
    ((new.filter fun v => v ≠ some old).getD (some old)).getD old
      = (new.getD (some old)).getD old := by
  cases new with
  | none => rfl
  | some v =>
    by_cases hv : v = some old
    · simp [Option.filter, hv]
    · simp [Option.filter, hv]

/-- A list of readable rows is read as it is. -/
lemma mapM_validate_ok {α : Type} {f : α → Except Exc α} {l : List α}
    (h : ∀ a ∈ l, f a = .ok a) : l.mapM f = .ok l := by
  induction l with
  | nil => rfl
  | cons a l ih =>
    rw [List.mapM_cons, h a List.mem_cons_self, ih fun x hx => h x (List.mem_cons_of_mem _ hx)]
    rfl

/-! ## Entities -/

/-- `attrs` are set to null, and no column that refuses it. -/
def EntityUpdate.NullsAttrs (data : EntityUpdate) : Prop :=
  data.attrs = some none ∧ data.label ≠ some none ∧ data.confidence ≠ some none

section Entities

variable {py : Interp} {st st' : Store} {x : Ext} {call : Call}

lemma newEntity_readable (caseId : UUID) (createdBy : Option UUID) (data : EntityCreate) :
    (EntityRepository.newEntity x caseId createdBy data).Readable where
  type := by
    rw [EntityRepository.newEntity, EntityType.ofValue_value]
    rfl
  attrs := rfl
  confidence := data.confidence_range

/-- A column that refuses null is not set to null. -/
lemma not_null_of_accepts {e : Entity} {data : EntityUpdate} {now : Time}
    (h : st.accepts (.updateEntity e.id (data.change py e) now) = true) :
    data.label ≠ some none ∧ data.confidence ≠ some none := by
  simp only [Store.accepts, Bool.and_eq_true, EntityUpdate.change] at h
  obtain ⟨⟨⟨-, hlabel⟩, hconfidence⟩, -⟩ := h
  constructor
  · intro hnull
    rw [hnull, changed_null] at hlabel
    cases hlabel
  · intro hnull
    rw [hnull, changed_null] at hconfidence
    simp at hconfidence

/-- An update that is stored and does not null `attrs` leaves a readable row. -/
lemma Entity.Readable.edit {e : Entity} (he : e.Readable) {data : EntityUpdate} {now : Time}
    (haccepts : st.accepts (.updateEntity e.id (data.change py e) now) = true)
    (hnull : ¬ data.NullsAttrs) : ((data.change py e).set now e).Readable where
  type := he.type
  attrs := by
    have hattrs : data.attrs ≠ some none := fun h => hnull ⟨h, not_null_of_accepts haccepts⟩
    have hassign : (data.assign e).attrs.isDict = true := by
      rw [EntityUpdate.assign]
      cases hdata : data.attrs with
      | none => exact he.attrs
      | some attrs =>
        cases attrs with
        | none => exact absurd hdata hattrs
        | some attrs => rfl
    simp only [EntityChange.set, EntityUpdate.change]
    split
    · exact he.attrs
    · exact hassign
  confidence := by
    simp only [EntityChange.set, EntityUpdate.change, changed_column]
    cases hdata : data.confidence with
    | none => exact he.confidence
    | some confidence =>
      cases confidence with
      | none => exact he.confidence
      | some q => exact data.confidence_range q hdata

/-- A call leaves every row readable, unless it nulls `attrs`. -/
lemma Call.Does.readable (h : call.Does py x st st')
    (hcall : ∀ entityId caseId data, call = .updateEntity entityId caseId data →
      LiveInCase st caseId entityId → ¬ data.NullsAttrs)
    (hst : ∀ e ∈ st.entities, e.Readable) : ∀ e ∈ st'.entities, e.Readable := by
  refine h.forall_entities hst newEntity_readable ?_ ?_ ?_
  · exact fun e confidence he hrange => ⟨he.type, he.attrs, hrange⟩
  · exact fun e he => ⟨he.type, he.attrs, he.confidence⟩
  · exact fun e entityId caseId data heq he hid hcase haccepts hrow =>
      hrow.edit haccepts (hcall entityId caseId data heq ⟨e, he, hid, hcase⟩)

end Entities

/-! ## Cases -/

/-- `tags` are set to null, and no column that refuses it. -/
def CaseUpdate.NullsTags (data : CaseUpdate) : Prop :=
  data.tags = some none ∧ data.name ≠ some none ∧ data.status ≠ some none

section Cases

variable {py : Interp} {user : UUID} {cases cases' : Table Case}

lemma newCase_readable (x : Ext) (data : CaseCreate) :
    (CaseRepository.newCase x user data).Readable where
  name := data.name_length.ne_empty
  status := rfl
  tags := isTexts_tagsValue data.tags

/-- A column that refuses null is not set to null. -/
lemma not_null_of_acceptsCase {c : Case} {data : CaseUpdate} {now : Time}
    (h : CaseWrite.accepts cases (.update c.id (data.change py c) now) = true) :
    data.name ≠ some none ∧ data.status ≠ some none := by
  simp only [CaseWrite.accepts, Bool.and_eq_true, CaseUpdate.change] at h
  obtain ⟨⟨⟨-, hname⟩, hstatus⟩, -⟩ := h
  constructor
  · intro hnull
    rw [hnull, changed_null] at hname
    cases hname
  · intro hnull
    rw [hnull, Option.map_some, Option.map_none, changed_null] at hstatus
    cases hstatus

/-- An update that is stored and does not null `tags` leaves a readable row. -/
lemma Case.Readable.edit {c : Case} (hc : c.Readable) {data : CaseUpdate} {now : Time}
    (haccepts : CaseWrite.accepts cases (.update c.id (data.change py c) now) = true)
    (hnull : ¬ data.NullsTags) : ((data.change py c).set now c).Readable where
  name := by
    simp only [CaseChange.set, CaseUpdate.change, changed_column]
    cases hdata : data.name with
    | none => exact hc.name
    | some name =>
      cases name with
      | none => exact hc.name
      | some name => exact (data.name_length name hdata).ne_empty
  status := by
    simp only [CaseChange.set, CaseUpdate.change, changed_column]
    cases data.status with
    | none => exact hc.status
    | some status =>
      cases status with
      | none => exact hc.status
      | some status =>
        simp only [Option.map_some, Option.getD_some, CaseStatus.ofValue_value]
        rfl
  tags := by
    have htags : data.tags ≠ some none := fun h => hnull ⟨h, not_null_of_acceptsCase haccepts⟩
    simp only [CaseChange.set, CaseUpdate.change]
    cases hdata : data.tags with
    | none => exact hc.tags
    | some tags =>
      cases tags with
      | none => exact absurd hdata htags
      | some tags =>
        by_cases heq : (tagsValue tags).eq py c.tags = true
        · simp [Option.filter, heq, hc.tags]
        · simp [Option.filter, heq, isTexts_tagsValue]

/-- A request leaves every row readable, unless it nulls `tags`. -/
lemma CaseTableStep.readable {r : CaseRequest} (h : CaseTableStep py user cases r cases')
    (hcall : ∀ caseId data, r = .update caseId data →
      (CaseRepository.owned cases caseId user).isSome → ¬ data.NullsTags)
    (hcases : ∀ c ∈ cases, c.Readable) : ∀ c ∈ cases', c.Readable := by
  have hset : ∀ (change : CaseChange) (now : Time) (c : Case), c ∈ cases →
      (change.set now c).Readable →
      ∀ c' ∈ CaseWrite.apply cases (.update c.id change now), c'.Readable := by
    intro change now c hc hnew c' hc'
    obtain ⟨c₀, hc₀, rfl⟩ := (Table.mem_modify (change.set now) fun _ => rfl).mp hc'
    split
    · rwa [Table.eq_of_pk_eq hc₀ hc ‹_›]
    · exact hcases c₀ hc₀
  cases h with
  | @create data x hacc =>
    have hfresh : cases.has (pk (CaseRepository.newCase x user data)) = false := by
      simp only [CaseWrite.accepts, Bool.and_eq_true, Bool.not_eq_true'] at hacc
      exact hacc.1.1.1
    intro c hc
    rcases (Table.mem_insert hfresh).mp hc with hc | rfl
    · exact hcases c hc
    · exact newCase_readable x data
  | update c hc hid now hacc =>
    have howned := owned_eq_some_iff.mpr ⟨hc, hid⟩
    exact hset _ now c hc.mem
      ((hcases c hc.mem).edit hacc (hcall _ _ rfl (howned ▸ rfl)))
  | delete c hc hid now =>
    have hrow := hcases c hc.mem
    exact hset _ now c hc.mem ⟨hrow.name, hrow.status, hrow.tags⟩

/-- An update of columns makes no case the user's. -/
lemma CaseTableStep.owned_update {caseId : UUID} {data : CaseUpdate}
    (h : CaseTableStep py user cases (.update caseId data) cases') {id : UUID}
    (howned : (CaseRepository.owned cases' id user).isSome) :
    (CaseRepository.owned cases id user).isSome := by
  obtain ⟨c', hc'⟩ := Option.isSome_iff_exists.mp howned
  obtain ⟨hrow, rfl⟩ := owned_eq_some_iff.mp hc'
  cases h with
  | update c hc hid now hacc =>
    obtain ⟨c₀, hc₀, rfl⟩ :=
      (Table.mem_modify ((data.change py c).set now) fun _ => rfl).mp hrow.mem
    have hrow₀ : c₀.OwnedIn user cases := by
      refine ⟨hc₀, ?_, ?_⟩
      · have howner := hrow.owner
        split at howner <;> exact howner
      · have hlive := hrow.live
        split at hlive <;> exact hlive
    have hid₀ : c₀.id = (if pk c₀ = c.id then (data.change py c).set now c₀ else c₀).id := by
      split <;> rfl
    rw [owned_eq_some_iff.mpr ⟨hrow₀, hid₀⟩]
    rfl

end Cases

/-! ## Actions -/

/-- An update that gets as far as the repository nulls neither `attrs` nor `tags`, unless it nulls
a column that refuses it too. -/
def ServerAction.KeepsReadable (db : Database) : ServerAction → Prop
  | .request user _ (.cases (.update caseId data)) =>
    (CaseRepository.owned db.cases caseId user).isSome → ¬ data.NullsTags
  | .request user _ (.inCase c (.updateEntity entityId data)) =>
    (CaseRepository.owned db.cases c user).isSome → LiveInCase db.store c entityId →
      ¬ data.NullsAttrs
  | _ => True

/-- Every row of the two tables is readable. -/
structure Database.Readable (db : Database) : Prop where
  cases : ∀ c ∈ db.cases, c.Readable
  entities : ∀ e ∈ db.store.entities, e.Readable

section Actions

variable {py : Interp} {app : App} {db : Database}

lemma CaseRequest.exec_readable (user : UUID) (env : Env) (r : CaseRequest)
    (hallowed : (ServerAction.request user env (.cases r)).KeepsReadable db)
    (hdb : ∀ c ∈ db.cases, c.Readable) :
    ∀ c ∈ ((Request.cases r).exec py app env user db).2.cases, c.Readable := by
  by_cases hr : ∀ caseId data, r ≠ .update caseId data
  · refine (r.exec_keeps py user app env (P := fun cases _ => ∀ c ∈ cases, c.Readable) ?_ hdb).1
    exact fun cases o cases' hcases hstep =>
      hstep.readable (fun caseId data h => absurd h (hr caseId data)) hcases
  · push Not at hr
    obtain ⟨caseId, data, rfl⟩ := hr
    refine (CaseRequest.exec_keeps py user app env (.update caseId data)
      (P := fun cases _ => (∀ c ∈ cases, c.Readable) ∧
        ∀ id, (CaseRepository.owned cases id user).isSome →
          (CaseRepository.owned db.cases id user).isSome) ?_ ⟨hdb, fun _ h => h⟩).1.1
    intro cases o cases' hcases hstep
    refine ⟨hstep.readable (fun caseId' data' h howned => ?_) hcases.1,
      fun id howned => hcases.2 id (hstep.owned_update howned)⟩
    cases h
    exact hallowed (hcases.2 caseId howned)

/-- An update of columns makes no entity live in a case. -/
lemma Call.Does.liveInCase_update {x : Ext} {st st' : Store} {entityId caseId : UUID}
    {data : EntityUpdate} (h : (Call.updateEntity entityId caseId data).Does py x st st')
    {c id : UUID} (hlive : LiveInCase st' c id) : LiveInCase st c id := by
  obtain ⟨e', he', hid', hcase'⟩ := hlive
  cases h with
  | editEntity e he hid hcase haccepts =>
    obtain ⟨e₀, he₀, rfl⟩ := (liveIn_updateEntity (c := data.change py e) rfl).mp he'
    refine ⟨e₀, he₀, ?_, ?_⟩
    · rw [← hid']
      split <;> rfl
    · rw [← hcase']
      split <;> rfl
  | remirrorEntity e he hid hcase hempty => exact ⟨e', he', hid', hcase'⟩

/-- A step leaves every row readable, unless it is a call that nulls `attrs`. -/
lemma CaseStep.readable {may : Rights} {c : UUID} {st st' : Store} {b b' : Bucket}
    (h : CaseStep py may c st b st' b')
    (hcalls : ∀ entityId data, may.calls (.updateEntity entityId c data) →
      LiveInCase st c entityId → ¬ data.NullsAttrs)
    (hst : ∀ e ∈ st.entities, e.Readable) : ∀ e ∈ st'.entities, e.Readable := by
  cases h with
  | call hmay hcase hdoes =>
    refine hdoes.readable (fun entityId caseId data hcall hlive => ?_) hst
    subst hcall
    cases hcase
    exact hcalls entityId data hmay hlive
  | insertEvidence hcase huri hlink haccepts => exact hst
  | upload hash blob => exact hst
  | insertRun hcase hinput haccepts => exact hst
  | updateRun change hrun => exact hst

/-- The runner updates no entity. -/
lemma pluginRights_updateEntity {c entityId caseId : UUID} {data : EntityUpdate} :
    ¬ (pluginRights c).calls (.updateEntity entityId caseId data) := by
  rintro (⟨_, _, h⟩ | ⟨_, _, h⟩)
  · cases h
  · cases h

/-- One route updates entities. -/
lemma CaseRoute.calls_updateEntity {user c : UUID} {r : CaseRoute} {entityId : UUID}
    {data : EntityUpdate} (h : (r.rights app user c).calls (.updateEntity entityId c data)) :
    r = .updateEntity entityId data := by
  cases r with
  | updateEntity entityId' data' =>
    cases h
    rfl
  | createEvidence metadata file contentType =>
    cases metadata with
    | error e => exact h.elim
    | ok data => exact h.elim
  | runPlugin pluginName inputEntityId => exact absurd h pluginRights_updateEntity
  | createEntity data' => cases h
  | deleteEntity entityId' => cases h
  | createRelationship data' => cases h
  | deleteRelationship relId => cases h
  | _ => exact h.elim

lemma CaseRoute.exec_readable (user : UUID) (env : Env) (c : UUID) (r : CaseRoute)
    (hallowed : (ServerAction.request user env (.inCase c r)).KeepsReadable db)
    (hdb : ∀ e ∈ db.store.entities, e.Readable) :
    ∀ e ∈ ((Request.inCase c r).exec py app env user db).2.store.entities, e.Readable := by
  cases howned : CaseRepository.owned db.cases c user with
  | none => rwa [(r.exec_unowned py app env user howned).1]
  | some row =>
    by_cases hr : ∀ entityId data, r ≠ .updateEntity entityId data
    · refine (r.exec_keeps py app env user (P := fun st _ => ∀ e ∈ st.entities, e.Readable)
        ?_ hdb).1
      exact fun st b st' b' hst hstep => hstep.readable (fun entityId data hmay _ =>
        absurd (CaseRoute.calls_updateEntity hmay) (hr entityId data)) hst
    · push Not at hr
      obtain ⟨entityId, data, rfl⟩ := hr
      refine (CaseRoute.exec_keeps py app env user (.updateEntity entityId data)
        (P := fun st _ => (∀ e ∈ st.entities, e.Readable) ∧
          ∀ id, LiveInCase st c id → LiveInCase db.store c id) ?_ ⟨hdb, fun _ h => h⟩).1.1
      intro st b st' b' hst hstep
      refine ⟨hstep.readable (fun entityId' data' hmay hlive => ?_) hst.1, fun id hlive => ?_⟩
      · cases hmay
        exact hallowed (howned ▸ rfl) (hst.2 entityId hlive)
      · cases hstep with
        | call hmay hcase hdoes =>
          cases hmay
          exact hst.2 id (hdoes.liveInCase_update hlive)
        | insertEvidence hcase huri hlink haccepts => exact hlink.elim
        | upload hash blob => exact hst.2 id hlive
        | insertRun hcase hinput haccepts => exact hst.2 id hlive
        | updateRun change hrun => exact hst.2 id hlive

/-- Every action that does not null a JSON column keeps the rows readable. -/
lemma Database.Readable.exec (hdb : db.Readable) (hs : db.store.Sound) {a : ServerAction}
    (hallowed : a.KeepsReadable db) : (a.exec py app db).Readable where
  cases := by
    cases a with
    | request user env r =>
      cases r with
      | cases r => exact r.exec_readable user env hallowed hdb.cases
      | inCase c r => exact hdb.cases
    | task x runId => exact hdb.cases
    | sweep thresholdMinutes now now' => exact hdb.cases
  entities := by
    refine a.exec_keeps py app (P := fun st _ => ∀ e ∈ st.entities, e.Readable) hdb.entities
      hs.inputs ?_ ?_ fun _ _ _ _ => hdb.entities
    · rintro user env c r rfl
      exact r.exec_readable user env c hallowed hdb.entities
    · exact fun c st b st' b' hst hstep => hstep.readable (fun entityId data hmay _ =>
        absurd hmay pluginRights_updateEntity) hst

end Actions

/-! ## Reads -/

/-- The reads of cases and of entities. -/
def Request.reads : Request → Bool
  | .cases (.get _) => true
  | .cases (.list _ _ _) => true
  | .inCase _ (.getEntity _) => true
  | .inCase _ (.listEntities _ _ _) => true
  | _ => false

/-- An error that no row is to blame for: a statement that did not get through, or nothing to
answer. -/
def Exc.Blameless (e : Exc) : Prop := SessionErrors.IsOwn e ∨ e = Exc.notFound

section Blameless

variable {S W O α : Type} [Writes S W] {A : Session S W O → Prop} {P : S → O → Prop}

lemma blameless_query {J : S → O → Prop} (lost : Bool) (q : S → α) :
    Prog.Triple (Holds P J) (query lost q : Sql S W O Exc α)
      (fun a s => (∃ st o, J st o ∧ a = q st) ∧ Holds P (fun st o => J st o ∧ a = q st) s)
      fun e _ => e.Blameless :=
  Prog.Triple.intro (fun _ _ _ hs h => (Holds.query_reads lost q).ok hs h)
    fun _ _ _ _ h => Or.inl (query_raises h)

omit [Writes S W] in
lemma blameless_found {Q : α → Session S W O → Prop} {a : Option α}
    (h : ∀ row, a = some row → ∀ s, A s → Q row s) :
    Prog.Triple A (found a : Sql S W O Exc α) Q fun e _ => e.Blameless := by
  cases a with
  | none => exact Prog.Triple.throw fun _ _ => Or.inr rfl
  | some row => exact Prog.Triple.pure (h row rfl)

/-- The session around an endpoint adds errors of its own only. -/
lemma blameless_session {Q : α → Session S W O → Prop} {m : Sql S W O Exc α}
    (hm : Prog.Triple A m Q fun e _ => e.Blameless) (lost : Bool) :
    Prog.Triple A (withSession lost m) (fun _ _ => True) fun e _ => e.Blameless := by
  have hbody : Prog.Triple A (rollingBack m) Q fun e _ => e.Blameless :=
    Prog.Triple.tryCatch hm fun e => Prog.Triple.bind (Q := fun _ _ => e.Blameless)
      (fun _ h => h) fun _ => Prog.Triple.throw fun _ h => h
  refine hbody.bind fun a => Prog.Triple.bind (Q := fun _ _ => True) ?_ fun _ =>
    Prog.Triple.pure fun _ h => h
  exact Prog.Triple.intro (fun _ _ _ _ _ => trivial) fun _ _ _ _ h => Or.inl (commit_raises h)

end Blameless

section Reads

variable {py : Interp} {app : App} {db : Database}

lemma blameless_ownership (env : Env) (user c : UUID) (cases : Table Case)
    {P : Store → Bucket → Prop} :
    Prog.Triple (Holds P P) (verifyCaseOwnership env user cases c) (fun _ => Holds P P)
      fun e _ => e.Blameless := by
  refine (blameless_query _ _).bind fun _ => ?_
  refine Prog.Triple.bind (Q := fun _ => Holds P P) (blameless_found fun row _ s h => ?_)
    fun _ => Prog.Triple.pure fun _ h => h
  exact h.2.weaken fun _ _ h => h.1

/-- Reads of entities fail on no row. -/
lemma CaseRoute.blameless_reads (hdb : ∀ e ∈ db.store.entities, e.Readable) (user : UUID)
    (env : Env) (c : UUID) {r : CaseRoute} (hr : (Request.inCase c r).reads = true) {e : Exc}
    (h : ((Request.inCase c r).exec py app env user db).1 = .error e) : e.Blameless := by
  have hrun : Prog.Triple
      (Holds (fun st _ => ∀ e ∈ st.entities, e.Readable) fun st _ => ∀ e ∈ st.entities, e.Readable)
      (r.run py app env user db.cases c) (fun _ _ => True) fun e _ => e.Blameless := by
    refine (blameless_ownership env user c db.cases).bind fun _ => ?_
    cases r with
    | getEntity entityId =>
      refine (blameless_query _ _).bind fun a => Prog.Triple.assume fun ha => ?_
      obtain ⟨st, b, hst, rfl⟩ := ha
      refine Prog.Triple.bind (Q := fun row _ => EntityRead.validate row = .ok row ∧ True)
        (blameless_found fun row hrow s _ =>
          ⟨(hst row (List.mem_of_find?_eq_some hrow)).validate, trivial⟩)
        fun row => Prog.Triple.assume fun hvalid => ?_
      rw [hvalid]
      exact Prog.Triple.pure fun _ _ => trivial
    | listEntities type limit offset =>
      refine (blameless_query _ _).bind fun items => Prog.Triple.assume fun hitems => ?_
      obtain ⟨st, b, hst, rfl⟩ := hitems
      have hrows : ∀ e ∈ env.entities.page limit offset (EntityRepository.inCase st c type),
          EntityRead.validate e = .ok e := fun e he =>
        (hst e (List.mem_of_mem_filter (NewestFirst.mem_of_mem_page _ he))).validate
      rw [mapM_validate_ok hrows]
      exact Prog.Triple.pure fun _ _ => trivial
    | _ => cases hr
  have hstart : Holds (fun st _ => ∀ e ∈ st.entities, e.Readable)
      (fun st _ => ∀ e ∈ st.entities, e.Readable)
      (openSession db.store db.bucket : Session Store Write Bucket) := ⟨hdb, fun _ => hdb⟩
  simp only [Request.exec] at h
  cases hres : withSession env.finish (r.run py app env user db.cases c)
      (openSession db.store db.bucket) with
  | mk res s =>
    rw [hres] at h
    dsimp only at h
    subst h
    exact (blameless_session hrun env.finish).error hstart hres

/-- Reads of cases fail on no row. -/
lemma CaseRequest.blameless_reads (hdb : ∀ c ∈ db.cases, c.Readable) (user : UUID) (env : Env)
    {r : CaseRequest} (hr : (Request.cases r).reads = true) {e : Exc}
    (h : ((Request.cases r).exec py app env user db).1 = .error e) : e.Blameless := by
  have hrun : Prog.Triple
      (Holds (fun cases _ => ∀ c ∈ cases, c.Readable) fun cases _ => ∀ c ∈ cases, c.Readable)
      (r.endpoint py env user) (fun _ _ => True) fun e _ => e.Blameless := by
    cases r with
    | get caseId =>
      refine (blameless_query _ _).bind fun a => Prog.Triple.assume fun ha => ?_
      obtain ⟨cases, o, hcases, rfl⟩ := ha
      refine Prog.Triple.bind (Q := fun row _ => CaseRead.validate row = .ok row ∧ True)
        (blameless_found fun row hrow s _ =>
          ⟨(hcases row (owned_eq_some_iff.mp hrow).1.mem).validate, trivial⟩)
        fun row => Prog.Triple.assume fun hvalid => ?_
      rw [hvalid]
      exact Prog.Triple.pure fun _ _ => trivial
    | list status limit offset =>
      refine (blameless_query _ _).bind fun items => Prog.Triple.assume fun hitems => ?_
      obtain ⟨cases, o, hcases, rfl⟩ := hitems
      have hrows : ∀ c ∈ env.cases.page limit offset (CaseRepository.ofOwner cases user status),
          CaseRead.validate c = .ok c := fun c hc =>
        (hcases c (List.mem_of_mem_filter (NewestFirst.mem_of_mem_page _ hc))).validate
      rw [mapM_validate_ok hrows]
      exact Prog.Triple.pure fun _ _ => trivial
    | _ => cases hr
  have hstart : Holds (fun cases _ => ∀ c ∈ cases, c.Readable)
      (fun cases _ => ∀ c ∈ cases, c.Readable)
      (openSession db.cases () : Session (Table Case) CaseWrite Unit) := ⟨hdb, fun _ => hdb⟩
  simp only [Request.exec] at h
  cases hres : withSession env.finish (r.endpoint py env user) (openSession db.cases ()) with
  | mk res s =>
    rw [hres] at h
    dsimp only at h
    subst h
    exact (blameless_session hrun env.finish).error hstart hres

end Reads

/-! ## Updates that cannot be stored -/

/-- The table refuses the columns of the update, or its `UPDATE`, the mirror of the row or the
commit does not get through. -/
def EntityUpdate.Unstorable (py : Interp) (x : Ext) (data : EntityUpdate) (st : Store)
    (e : Entity) : Prop :=
  (x.flush = true ∨ st.accepts (.updateEntity e.id (data.change py e) x.now) = false) ∨
    (∀ props, encodeProps py.str (vertexProps py (data.assign e)) ≠ .ok props) ∨
    x.mirror = true ∨ x.commit = true

/-- The table refuses the columns of the update, or its `UPDATE` or the commit does not get
through. -/
def CaseUpdate.Unstorable (py : Interp) (x : Ext) (data : CaseUpdate) (cases : Table Case)
    (c : Case) : Prop :=
  (x.flush = true ∨ CaseWrite.accepts cases (.update c.id (data.change py c) x.now) = false) ∨
    x.commit = true

section Unstorable

variable {py : Interp} {app : App} {db : Database} {user : UUID} {env : Env}

/-- An update that cannot be stored leaves the table of entities as it is. -/
lemma update_unstorable_triple {x : Ext} {c entityId : UUID} {data : EntityUpdate} {st₀ : Store}
    (hrefused : ∀ e : Entity, e.LiveIn st₀ → e.id = entityId → e.caseId = c →
      data.Unstorable py x st₀ e) :
    Prog.Triple
      (Holds (fun st _ => st.entities = st₀.entities) fun st _ => st.entities = st₀.entities)
      (EntityRepository.update py x entityId c data : Db Bucket (Option Entity))
      (fun _ => Holds (fun st _ => st.entities = st₀.entities)
        fun st _ => st.entities = st₀.entities)
      fun _ => Holds (fun st _ => st.entities = st₀.entities)
        fun st _ => st.entities = st₀.entities := by
  refine (query_triple _ _).bind fun a => Prog.Triple.assume fun ha => ?_
  refine Prog.Triple.pre (P := Holds (fun st _ => st.entities = st₀.entities)
    fun st _ => st.entities = st₀.entities) ?_ fun _ h => h.weaken fun _ _ h => h.1
  cases a with
  | none => exact Prog.Triple.pure fun _ h => h
  | some loaded =>
    obtain ⟨st, o, hst, hfind⟩ := ha
    have hcond := List.find?_some hfind.symm
    simp only [Bool.and_eq_true, decide_eq_true_eq] at hcond
    have hlive : loaded.LiveIn st₀ :=
      ⟨hst ▸ List.mem_of_find?_eq_some hfind.symm, hcond.2⟩
    rcases hrefused loaded hlive hcond.1.1 hcond.1.2 with hflush | hsave
    -- no column is set, or the statement raises
    · refine save_triple (Q := fun st _ => st.entities = st₀.entities)
        (K := fun st _ => st.entities = st₀.entities) true x.commit (fun _ _ h => h) ?_
        (upsertVertex_triple py x (data.assign loaded) fun _ _ h => h) ?_
      · unfold flushChange
        split
        · exact Prog.Triple.pure fun _ h => h
        · refine (Holds.write_raises fun st o hst => ?_).post (fun _ _ h => h.elim)
            fun _ _ h => h.of_stuck
          rcases hflush with hflush | haccepts
          · rw [hflush, Bool.true_or]
          · have hrefuses : st.accepts (.updateEntity (data.assign loaded).id
                (data.change py loaded) x.now) = false := by
              simp only [Store.accepts, hst] at haccepts ⊢
              exact haccepts
            show (x.flush || !st.accepts _) = true
            rw [hrefuses, Bool.not_false, Bool.or_true]
      · exact (query_triple _ _).post (fun _ _ h => h.2.weaken fun _ _ h => h.1) fun _ _ h => h
    -- whatever the statement did is rolled back
    · have hflush : Prog.Triple
          (Holds (fun st _ => st.entities = st₀.entities) fun st _ => st.entities = st₀.entities)
          (flushChange x (data.assign loaded).id (data.change py loaded) : Db Bucket Unit)
          (fun _ => Holds (fun st _ => st.entities = st₀.entities) fun _ _ => True)
          fun _ => Holds (fun st _ => st.entities = st₀.entities)
            fun st _ => st.entities = st₀.entities := by
        unfold flushChange
        split
        · exact Prog.Triple.pure fun _ h => h.weaken fun _ _ _ => trivial
        · exact write_triple _ _ fun _ _ _ _ => trivial
      have hbody : Prog.Triple (Holds (fun st _ => st.entities = st₀.entities) fun _ _ => True)
          (do
            upsertVertex py x (data.assign loaded)
            commit x.commit : Db Bucket Unit)
          (fun _ _ => False)
          fun _ => Holds (fun st _ => st.entities = st₀.entities) fun _ _ => True := by
        rcases hsave with hencode | hmirror | hcommit
        · refine Prog.Triple.never ?_
          unfold upsertVertex
          split
          · exact Prog.Triple.throw fun _ h => h
          · cases henc : encodeProps py.str (vertexProps py (data.assign loaded)) with
            | ok props => exact absurd henc (hencode props)
            | error e => exact Prog.Triple.throw fun _ h => h
        · refine Prog.Triple.never ?_
          unfold upsertVertex
          split
          · exact Prog.Triple.throw fun _ h => h
          · refine (Holds.ofExcept _).bind fun _ => ?_
            exact (Holds.write_raises fun _ _ _ => by rw [hmirror, Bool.true_or]).post
              (fun _ _ h => h) fun _ _ h => h.of_stuck
        · rw [hcommit]
          exact (upsertVertex_triple py x (data.assign loaded) (Q := fun _ _ => True)
            fun _ _ _ => trivial).bind fun _ =>
              Holds.commit_raises.post (fun _ _ h => h) fun _ _ h => h.of_stuck
      exact hflush.bind fun _ => Prog.Triple.never (Holds.rollingBack hbody)

/-- An update that cannot be stored leaves the table of entities as it is. -/
lemma CaseRoute.update_unstorable {c entityId : UUID} {data : EntityUpdate}
    (hrefused : ∀ e : Entity, e.LiveIn db.store → e.id = entityId → e.caseId = c →
      data.Unstorable py env.x db.store e) :
    ((Request.inCase c (.updateEntity entityId data)).exec py app env user db).2.store.entities
      = db.store.entities := by
  refine (CaseRoute.exec_of_run py app env user (P := fun st _ => st.entities = db.store.entities)
    (Q := fun _ _ _ => True) ?_ rfl).1
  refine (verifyCaseOwnership_triple env user db.cases).bind fun _ => Prog.Triple.assume fun _ => ?_
  refine ((update_unstorable_triple hrefused).pre fun _ h => h.2).bind fun a => ?_
  refine (found_triple (φ := fun _ => True) fun _ _ => trivial).bind fun e =>
    Prog.Triple.assume fun _ => ?_
  unfold EntityRead.validate
  split
  · exact Prog.Triple.pure fun _ h => h.weaken fun _ _ h => ⟨h, trivial⟩
  · exact Prog.Triple.throw fun _ h => h

/-- An update that cannot be stored leaves the table of cases as it is. -/
lemma CaseRequest.update_unstorable {caseId : UUID} {data : CaseUpdate}
    (hrefused : ∀ c : Case, c.OwnedIn user db.cases → c.id = caseId →
      data.Unstorable py env.x db.cases c) :
    ((Request.cases (.update caseId data)).exec py app env user db).2.cases = db.cases := by
  refine (CaseRequest.exec_of_endpoint py user (P := fun cases _ => cases = db.cases)
    (φ := fun _ => True) ?_ rfl).1
  have hupdate : Prog.Triple
      (Holds (fun cases _ => cases = db.cases) fun cases _ => cases = db.cases)
      (CaseRepository.update py env.x caseId user data)
      (fun _ => Holds (fun cases _ => cases = db.cases) fun cases _ => cases = db.cases)
      fun _ => Holds (fun cases _ => cases = db.cases) fun cases _ => cases = db.cases := by
    refine (caseQuery_triple _ _).bind fun a => Prog.Triple.assume fun ha => ?_
    refine Prog.Triple.pre (P := Holds (fun cases _ => cases = db.cases)
      fun cases _ => cases = db.cases) ?_ fun _ h => h.weaken fun _ _ h => h.1
    cases a with
    | none => exact Prog.Triple.pure fun _ h => h
    | some loaded =>
      obtain ⟨cases, o, rfl, hfind⟩ := ha
      obtain ⟨howned, hid⟩ := owned_eq_some_iff.mp hfind.symm
      have hrefresh : Prog.Triple
          (Holds (fun cases _ => cases = db.cases) fun cases _ => cases = db.cases)
          (query env.x.refresh fun cases => cases.find loaded.id : CaseDb (Option Case))
          (fun _ => Holds (fun cases _ => cases = db.cases) fun cases _ => cases = db.cases)
          fun _ => Holds (fun cases _ => cases = db.cases) fun cases _ => cases = db.cases :=
        (caseQuery_triple _ _).post (fun _ _ h => h.2.weaken fun _ _ h => h.1) fun _ _ h => h
      rcases hrefused loaded howned hid with hflush | hcommit
      -- no column is set, or the statement raises
      · refine Prog.Triple.bind (Q := fun _ => Holds (fun cases _ => cases = db.cases)
          fun cases _ => cases = db.cases) ?_ fun _ =>
            (caseCommit_triple _ fun _ _ h => h).bind fun _ => hrefresh
        unfold CaseRepository.flushChange
        split
        · exact Prog.Triple.pure fun _ h => h
        · refine (Holds.write_raises fun cases o hcases => ?_).post (fun _ _ h => h.elim)
            fun _ _ h => h.of_stuck
          rcases hflush with hflush | haccepts
          · rw [hflush, Bool.true_or]
          · show (env.x.flush || !CaseWrite.accepts cases _) = true
            rw [hcases, haccepts, Bool.not_false, Bool.or_true]
      -- whatever the statement did is lost with the commit
      · refine Prog.Triple.bind (Q := fun _ => Holds (fun cases _ => cases = db.cases)
          fun _ _ => True) ?_ fun _ => ?_
        · unfold CaseRepository.flushChange
          split
          · exact Prog.Triple.pure fun _ h => h.weaken fun _ _ _ => trivial
          · exact caseWrite_triple _ _ fun _ _ _ _ => trivial
        · rw [hcommit]
          exact Prog.Triple.never (Holds.commit_raises.post (fun _ _ h => h)
            fun _ _ h => h.of_stuck)
  refine hupdate.bind fun a => ?_
  cases a with
  | none => exact Prog.Triple.throw fun _ h => h
  | some c =>
    show Prog.Triple _ (do return .case 200 (← Prog.ofExcept (CaseRead.validate c)) :
      CaseDb Answer) _ _
    unfold CaseRead.validate
    split
    · exact Prog.Triple.pure fun _ h => ⟨trivial, h⟩
    · exact Prog.Triple.throw fun _ h => h

end Unstorable

/-! ## Databases -/

/-- Every live row is readable, so that no read of a case or an entity fails on a row, and an update
that cannot be stored changes no row. -/
structure Database.StaysReadable (py : Interp) (app : App) (db : Database) : Prop where
  cases : ∀ c ∈ db.cases, c.live = true → c.Readable
  entities : ∀ e : Entity, e.LiveIn db.store → e.Readable
  reads : ∀ (user : UUID) (env : Env) (r : Request) (e : Exc), r.reads = true →
    (r.exec py app env user db).1 = .error e → e.Blameless
  unstorable : ∀ (user : UUID) (env : Env) (c entityId : UUID) (data : EntityUpdate),
    (∀ e : Entity, e.LiveIn db.store → e.id = entityId → e.caseId = c →
      data.Unstorable py env.x db.store e) →
    ((Request.inCase c (.updateEntity entityId data)).exec py app env user db).2.store.entities
      = db.store.entities
  unstorable_case : ∀ (user : UUID) (env : Env) (caseId : UUID) (data : CaseUpdate),
    (∀ c : Case, c.OwnedIn user db.cases → c.id = caseId →
      data.Unstorable py env.x db.cases c) →
    ((Request.cases (.update caseId data)).exec py app env user db).2.cases = db.cases

section Databases

variable {py : Interp} {app : App} {db : Database}

/-- **Every stored row stays readable** in every database that is reached without storing a null in
a JSON column. -/
theorem stored_rows_stay_readable (h : ServerReaches py app ServerAction.KeepsReadable db) :
    db.StaysReadable py app := by
  have hdb : db.Readable := by
    refine (h.invariant (I := fun db => db.store.Sound ∧ db.Readable)
      ⟨.empty, fun _ hc => (nomatch hc), fun _ he => (nomatch he)⟩ ?_).2
    exact fun db a ⟨hs, hdb⟩ hallowed => ⟨hs.exec a, hdb.exec hs hallowed⟩
  refine ⟨fun c hc _ => hdb.cases c hc, fun e he => hdb.entities e he.mem, ?_,
    fun user env c entityId data hrefused => CaseRoute.update_unstorable hrefused,
    fun user env caseId data hrefused => CaseRequest.update_unstorable hrefused⟩
  intro user env r e hr herror
  cases r with
  | cases r => exact r.blameless_reads hdb.cases user env hr herror
  | inCase c r => exact r.blameless_reads hdb.entities user env c hr herror

end Databases

/-! ### Two updates -/

/-- User 1 replaces the `attrs` of entity 1. -/
def attrsReplaced (attrs : Option PyDict) (hattrs : ∀ a, some attrs = some (some a) →
    validateAttrs a = .ok ()) : ServerAction :=
  .request 1 (exampleEnv 0) (.inCase 7 (.updateEntity 1
    ⟨none, some attrs, none, label_kept, hattrs, confidence_kept⟩))

theorem stored_rows_stay_readable_replaced :
    (databaseAfter (twoCases ++ [attrsReplaced (some []) fun a h => by
      cases h
      rfl])).StaysReadable plainInterp exampleApp := by
  have hcases : ServerReaches plainInterp exampleApp ServerAction.KeepsReadable
      (databaseAfter twoCases) :=
    .step (twoCases[2]) (.step (twoCases[1]) (.step (twoCases[0]) .start trivial rfl) trivial rfl)
      trivial rfl
  refine stored_rows_stay_readable (.step (attrsReplaced (some []) fun a h => by
    cases h
    rfl) hcases ?_ rfl)
  rintro _ _ ⟨hnull, -⟩
  cases hnull

/-- The object of an entity is replaced by null. -/
theorem stored_row_unreadable :
    ¬ ∀ (py : Interp) (app : App) (db : Database), ServerReaches py app (fun _ _ => True) db →
      db.StaysReadable py app := by
  intro h
  have hrow : ∃ e ∈ (databaseAfter (twoCases ++ [attrsReplaced none nofun])).store.entities.rows,
      e.live = true ∧ e.attrs.isDict = false := by
    decide +kernel
  obtain ⟨e, he, hlive, hattrs⟩ := hrow
  have hreadable := (h plainInterp exampleApp _ (reaches_databaseAfter
    (twoCases ++ [attrsReplaced none nofun]))).entities e ⟨he, hlive⟩
  rw [hreadable.attrs] at hattrs
  cases hattrs

end Sleuthgraph
