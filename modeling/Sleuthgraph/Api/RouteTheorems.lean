import Sleuthgraph.Api.CaseSteps

/-!
# What a route does and answers

`CaseRoute.endpoint_triple` is the one specification of the routes below a case: what the steps of
the case keep is kept, and the answer is made of rows of the case. `CaseRoute.exec_keeps` and
`taskExec_keeps` carry it to a whole request and to a whole task, the ownership check and the
session included.
-/

namespace Sleuthgraph

open Programs Transactions Tables Listings

/-! ## Rights -/

/-- No calls, and no evidence. -/
def noRights : Rights := ⟨fun _ => False, fun _ _ => False⟩

/-- One call. -/
def Rights.just (call : Call) : Rights := { noRights with calls := fun x => x = call }

/-- The calls of the runner; its evidence may link to entities of the case. -/
def pluginRights (c : UUID) : Rights where
  calls call := (∃ createdBy data, call = .getOrCreate c createdBy data false) ∨
    ∃ createdBy data, call = .createIfNotExists c createdBy data false
  links st entityId := ∀ id, entityId = some id → EntityOf c st id

lemma pluginRights_allowsPlugin (c : UUID) : (pluginRights c).AllowsPlugin c where
  getOrCreate createdBy data := Or.inl ⟨createdBy, data, rfl⟩
  createIfNotExists createdBy data := Or.inr ⟨createdBy, data, rfl⟩
  link_none _ := nofun
  link_input _ _ h _ hid := Option.some.inj hid ▸ h

/-- What a request of `user` to case `c` is entitled to. -/
def CaseRoute.rights (app : App) (user c : UUID) : CaseRoute → Rights
  | .createEntity data => .just (.createEntity c (some user) data true)
  | .updateEntity entityId data => .just (.updateEntity entityId c data)
  | .deleteEntity entityId => .just (.softDeleteEntity entityId c)
  | .createRelationship data => .just (.createRelationship c (some user) data true)
  | .deleteRelationship relId => .just (.softDeleteRelationship relId c)
  | .createEvidence (.ok data) file _ => { noRights with
      links := fun _ id => id = data.entityId ∧ file.length ≤ app.evidenceMaxUploadBytes }
  | .runPlugin _ _ => pluginRights c
  | _ => noRights

/-! ## Answers -/

/-- The answer is made of rows of case `c`, as the session sees them. -/
def Answer.Within (env : Env) (c : UUID) (st : Store) (b : Bucket) : Answer → Prop
  | .case _ _ => False
  | .cases _ => False
  | .noContent => True
  | .entity _ e => e.caseId = c
  | .entities items => ∀ e ∈ items, e.caseId = c
  | .relationship _ r => r.caseId = c
  | .relationships items => ∀ r ∈ items, r.caseId = c
  | .evidence _ ev => ev.caseId = c
  | .evidenceList items _ _ _ => ∀ ev ∈ items, ev.caseId = c
  | .redirect url => ∃ ev ∈ st.evidence, ev.caseId = c ∧ env.presign ev.responseUri = .ok url
  | .verified expected actual => ∃ ev ∈ st.evidence, ev.caseId = c ∧ expected = ev.responseHash ∧
      ∃ blob, b.lookup ev.responseUri = some blob ∧ actual = hashBytes blob.body
  | .ledger caseId _ _ items => caseId = c ∧ ∀ ev ∈ items, ev.caseId = c
  | .graph dump => (∀ v ∈ dump.vertices, EntityOf c st v.id) ∧
      ∀ e ∈ dump.edges, ∃ r ∈ st.relationships, r.id = e.id ∧ r.caseId = c ∧
        r.srcEntityId = e.source ∧ r.dstEntityId = e.target
  | .pluginRun _ row es rs evs => row.caseId = c ∧
      (∀ e ∈ es, e.caseId = c) ∧ (∀ r ∈ rs, r.caseId = c) ∧ ∀ ev ∈ evs, ev.caseId = c
  | .runs items _ _ _ => ∀ row ∈ items, row.caseId = c
  | .run row => row.caseId = c

/-! ## Sessions -/

section Sessions

variable {O α : Type} {P : Store → O → Prop}

/-- What an endpoint keeps is what its session leaves. -/
lemma withSession_triple {A : Session Store Write O → Prop} {Q : α → Store → O → Prop}
    (lost : Bool) {m : Db O α}
    (hm : Prog.Triple A m (fun a => Holds P fun st o => P st o ∧ Q a st o) fun _ => Holds P P) :
    Prog.Triple A (withSession lost m)
      (fun a s => P s.committed s.outside ∧ Q a s.committed s.outside)
      fun _ s => P s.committed s.outside := by
  have hbody := (Holds.rollingBack hm).post (fun _ _ h => h) fun _ _ h => h.committed
  refine hbody.bind fun a => ?_
  have hcommit := (Holds.commit_publishes (S := Store) (W := Write) (ε := Exc) (I := P)
    (J := fun st o => P st o ∧ Q a st o) lost).post (fun _ _ h => h.1.committed)
    fun _ _ h => h.committed
  exact hcommit.bind fun _ => Prog.Triple.pure fun _ h => h

end Sessions

/-! ## Routes -/

section Pieces

variable {P : Store → Bucket → Prop}

/-- What every store answers. -/
lemma answer_triple {α : Type} {φ : α → Prop} (lost : Bool) (q : Store → α)
    (hq : ∀ st, φ (q st)) :
    Prog.Triple (Holds P P) (query lost q : Db Bucket α) (fun a s => φ a ∧ Holds P P s)
      fun _ => Holds P P := by
  refine (query_triple lost q).post (fun a s h => ⟨?_, h.2.weaken fun _ _ h => h.1⟩) fun _ _ h => h
  obtain ⟨⟨st, o, -, rfl⟩, -⟩ := h
  exact hq st

lemma found_triple {α : Type} {φ : α → Prop} {a : Option α} (h : ∀ row, a = some row → φ row) :
    Prog.Triple (Holds P P) (found a : Db Bucket α) (fun row s => φ row ∧ Holds P P s)
      fun _ => Holds P P := by
  cases a with
  | none => exact Prog.Triple.throw fun _ h => h
  | some row => exact Prog.Triple.pure fun _ hs => ⟨h row rfl, hs⟩

lemma deleted_triple {env : Env} {c : UUID} (ok : Bool) :
    Prog.Triple (Holds P P) (deleted ok : Db Bucket Answer)
      (fun a => Holds P fun st b => P st b ∧ a.Within env c st b) fun _ => Holds P P := by
  unfold deleted
  split
  · exact Prog.Triple.throw fun _ h => h
  · exact Prog.Triple.pure fun _ h => h.weaken fun _ _ h => ⟨h, trivial⟩

/-- An answer of rows that the read schema accepts. -/
lemma validated_triple {env : Env} {c : UUID} {α : Type} {r : Except Exc α} {f : α → Answer}
    (h : ∀ a, r = .ok a → ∀ st b, (f a).Within env c st b) :
    Prog.Triple (Holds P P) (do return f (← Prog.ofExcept r) : Db Bucket Answer)
      (fun a => Holds P fun st b => P st b ∧ a.Within env c st b) fun _ => Holds P P := by
  cases r with
  | ok a => exact Prog.Triple.pure fun _ hs => hs.weaken fun st b hst => ⟨hst, h a rfl st b⟩
  | error e => exact Prog.Triple.throw fun _ h => h

end Pieces

section Endpoints

variable (py : Interp) (app : App) (env : Env) (user : UUID) {c : UUID}
variable {P : Store → Bucket → Prop}

/-! ### `entities/router.py` -/

namespace EntitiesRouter

lemma createEntity_triple {data : EntityCreate}
    (hP : KeptBy py ((CaseRoute.createEntity data).rights app user c) c P) :
    Prog.Triple (Holds P P) (createEntity py env user c data)
      (fun a => Holds P fun st b => P st b ∧ a.Within env c st b) fun _ => Holds P P := by
  refine (Sleuthgraph.createEntity_triple py env.x c (some user) data true fun st b hst hacc =>
    hP st b _ b hst (.call rfl rfl (.createEntity hacc))).bind fun e => Prog.Triple.assume ?_
  rintro rfl
  exact validated_triple fun e he st b => congrArg Entity.caseId (EntityRead.validate_eq he)

lemma listEntities_triple (type : Option String) (limit offset : ℕ) :
    Prog.Triple (Holds P P) (listEntities env c type limit offset)
      (fun a => Holds P fun st b => P st b ∧ a.Within env c st b) fun _ => Holds P P := by
  refine (answer_triple (φ := fun items : List Entity => ∀ e ∈ items, e.caseId = c) _ _
    fun st e he => ?_).bind fun items => Prog.Triple.assume fun hitems => ?_
  · have hmem := NewestFirst.mem_of_mem_page _ he
    simp only [EntityRepository.inCase, List.mem_filter, Bool.and_eq_true, decide_eq_true_eq]
      at hmem
    exact hmem.2.1.1
  · exact validated_triple fun items' h st b =>
      (mapM_validate_eq EntityRead.validate_eq h).symm ▸ hitems

lemma getEntity_triple (entityId : UUID) :
    Prog.Triple (Holds P P) (getEntity env c entityId)
      (fun a => Holds P fun st b => P st b ∧ a.Within env c st b) fun _ => Holds P P := by
  refine (Sleuthgraph.getEntity_triple env.x entityId c).bind fun a =>
    Prog.Triple.assume fun ha => ?_
  refine (Prog.Triple.pre (P := Holds P P) ?_ fun _ h => h.weaken fun _ _ h => h.1)
  refine (found_triple fun e he => (ha e he).2).bind fun e => Prog.Triple.assume fun hcase => ?_
  exact validated_triple fun e' he st b => (EntityRead.validate_eq he).symm ▸ hcase

lemma updateEntity_triple {entityId : UUID} {data : EntityUpdate}
    (hP : KeptBy py ((CaseRoute.updateEntity entityId data).rights app user c) c P) :
    Prog.Triple (Holds P P) (updateEntity py env c entityId data)
      (fun a => Holds P fun st b => P st b ∧ a.Within env c st b) fun _ => Holds P P := by
  have hcall := Sleuthgraph.updateEntity_triple (P := P) (J := fun _ _ => True) py env.x entityId c
    data fun st st' b hst _ hdoes => hP st b st' b hst (.call rfl rfl hdoes)
  refine (hcall.pre fun _ h => h.weaken fun _ _ h => ⟨h, trivial⟩).bind fun a =>
    Prog.Triple.assume fun ha => ?_
  refine (found_triple fun e he => (ha e he).2).bind fun e => Prog.Triple.assume fun hcase => ?_
  exact validated_triple fun e' he st b => (EntityRead.validate_eq he).symm ▸ hcase

lemma deleteEntity_triple {entityId : UUID}
    (hP : KeptBy py ((CaseRoute.deleteEntity entityId).rights app user c) c P) :
    Prog.Triple (Holds P P) (deleteEntity env c entityId)
      (fun a => Holds P fun st b => P st b ∧ a.Within env c st b) fun _ => Holds P P := by
  have hcall := softDeleteEntity_triple (P := P) (J := fun _ _ => True) py env.x entityId c
    fun st st' b hst _ hdoes => hP st b st' b hst (.call rfl rfl hdoes)
  exact (hcall.pre fun _ h => h.weaken fun _ _ h => ⟨h, trivial⟩).bind fun ok => deleted_triple ok

end EntitiesRouter

/-! ### `relationships/router.py` -/

namespace RelationshipsRouter

lemma createRelationship_triple {data : RelationshipCreate}
    (hP : KeptBy py ((CaseRoute.createRelationship data).rights app user c) c P) :
    Prog.Triple (Holds P P) (createRelationship py env user c data)
      (fun a => Holds P fun st b => P st b ∧ a.Within env c st b) fun _ => Holds P P := by
  have hcall := Sleuthgraph.createRelationship_triple (P := P) (J := fun _ _ => True) py env.x c
    (some user) data true fun st b hst _ hsrc hdst hacc =>
      hP st b _ b hst (.call rfl rfl (.createRelationship hsrc hdst hacc))
  refine (Prog.Triple.tryCatch (hcall.pre fun _ h => h.weaken fun _ _ h => ⟨h, trivial⟩)
    fun e => Prog.Triple.throw fun _ h => h).bind fun r => Prog.Triple.assume ?_
  rintro rfl
  exact validated_triple fun r hr st b =>
    congrArg Relationship.caseId (RelationshipRead.validate_eq hr)

lemma listRelationships_triple (relType : Option String) (src dst : Option UUID)
    (limit offset : ℕ) :
    Prog.Triple (Holds P P) (listRelationships env c relType src dst limit offset)
      (fun a => Holds P fun st b => P st b ∧ a.Within env c st b) fun _ => Holds P P := by
  refine (answer_triple (φ := fun items : List Relationship => ∀ r ∈ items, r.caseId = c) _ _
    fun st r hr => ?_).bind fun items => Prog.Triple.assume fun hitems => ?_
  · have hmem := NewestFirst.mem_of_mem_page _ hr
    simp only [RelationshipRepository.inCase, List.mem_filter, Bool.and_eq_true,
      decide_eq_true_eq] at hmem
    exact hmem.2.1.1.1.1
  · exact validated_triple fun items' h st b =>
      (mapM_validate_eq RelationshipRead.validate_eq h).symm ▸ hitems

lemma getRelationship_triple (relId : UUID) :
    Prog.Triple (Holds P P) (getRelationship env c relId)
      (fun a => Holds P fun st b => P st b ∧ a.Within env c st b) fun _ => Holds P P := by
  refine (Sleuthgraph.getRelationship_triple env.x relId c).bind fun a =>
    Prog.Triple.assume fun ha => ?_
  refine (Prog.Triple.pre (P := Holds P P) ?_ fun _ h => h.weaken fun _ _ h => h.1)
  refine (found_triple fun r hr => (ha r hr).2).bind fun r => Prog.Triple.assume fun hcase => ?_
  exact validated_triple fun r' hr st b => (RelationshipRead.validate_eq hr).symm ▸ hcase

lemma deleteRelationship_triple {relId : UUID}
    (hP : KeptBy py ((CaseRoute.deleteRelationship relId).rights app user c) c P) :
    Prog.Triple (Holds P P) (deleteRelationship env c relId)
      (fun a => Holds P fun st b => P st b ∧ a.Within env c st b) fun _ => Holds P P := by
  have hcall := softDeleteRelationship_triple (P := P) (J := fun _ _ => True) py env.x relId c
    fun st st' b hst _ hdoes => hP st b st' b hst (.call rfl rfl hdoes)
  exact (hcall.pre fun _ h => h.weaken fun _ _ h => ⟨h, trivial⟩).bind fun ok => deleted_triple ok

end RelationshipsRouter

/-! ### `evidence/router.py` and `evidence/export.py` -/

namespace EvidenceRouter

lemma createEvidence_triple {metadata : Except String EvidenceCreate} {file : Bytes}
    {contentType : Option String}
    (hP : KeptBy py ((CaseRoute.createEvidence metadata file contentType).rights app user c) c P) :
    Prog.Triple (Holds P P) (createEvidence app env user c metadata file contentType)
      (fun a => Holds P fun st b => P st b ∧ a.Within env c st b) fun _ => Holds P P := by
  cases metadata with
  | error e => exact Prog.Triple.throw fun _ h => h
  | ok data =>
    refine Prog.Triple.ite (fun _ => Prog.Triple.throw fun _ h => h) fun hcap => ?_
    refine (Sleuthgraph.createEvidence_triple hP env.x env.put (some user) data file contentType
      true fun _ _ _ => ⟨rfl, not_lt.mp hcap⟩).bind fun ev => Prog.Triple.assume fun hcase => ?_
    exact Prog.Triple.pure fun _ h => h.weaken fun _ _ h => ⟨h, hcase⟩

/-- A page of the case's evidence. -/
lemma page_triple (x : Ext) (order : NewestFirst Evidence.timestamp) (entityId : Option UUID)
    (sourcePlugin : Option String) (limit offset : ℕ) :
    Prog.Triple (Holds P P)
      (EvidenceRepository.listForCase x order c entityId sourcePlugin limit offset :
        Db Bucket (List Evidence × ℕ))
      (fun a s => (∀ ev ∈ a.1, ev.caseId = c) ∧ Holds P P s) fun _ => Holds P P := by
  refine (answer_triple (φ := fun _ => True) _ _ fun _ => trivial).bind
    fun total => Prog.Triple.assume fun _ => ?_
  refine (answer_triple (φ := fun items : List Evidence => ∀ ev ∈ items, ev.caseId = c) _ _
    fun st ev hev => ?_).bind fun items => Prog.Triple.pure fun _ h => h
  have hmem := NewestFirst.mem_of_mem_page _ hev
  simp only [EvidenceRepository.inCase, List.mem_filter, Bool.and_eq_true, decide_eq_true_eq]
    at hmem
  exact hmem.2.1.1

/-- What is done with the row that `get` finds, one of the case. -/
lemma row_triple (x : Ext) (evId : UUID) {f : Evidence → Db Bucket Answer}
    {R : Answer → Session Store Write Bucket → Prop}
    (hf : ∀ ev, ev.caseId = c → Prog.Triple (Holds P fun st b => P st b ∧ ev ∈ st.evidence) (f ev)
      R fun _ => Holds P P) :
    Prog.Triple (Holds P P)
      (do
        let ev ← found (← EvidenceRepository.get x evId c)
        f ev)
      R fun _ => Holds P P := by
  have hrow : ∀ {st : Store} {ev : Evidence}, st.evidence.rows.find? (fun ev =>
      ev.id = evId && ev.caseId = c) = some ev → ev.caseId = c ∧ ev ∈ st.evidence := by
    intro st ev hev
    have hcond := List.find?_some hev
    simp only [Bool.and_eq_true, decide_eq_true_eq] at hcond
    exact ⟨hcond.2, List.mem_of_find?_eq_some hev⟩
  refine (query_triple x.lookup _).bind fun a => Prog.Triple.assume fun hread => ?_
  cases a with
  | none => exact Prog.Triple.throw fun _ h => h.weaken fun _ _ h => h.1
  | some ev =>
    obtain ⟨st, b, -, hev⟩ := hread
    refine (hf ev (hrow hev.symm).1).pre fun _ h => ?_
    exact h.weaken fun st b h => ⟨h.1, (hrow h.2.symm).2⟩

lemma listEvidence_triple (entityId : Option UUID) (sourcePlugin : Option String)
    (limit offset : ℕ) :
    Prog.Triple (Holds P P) (listEvidence env c entityId sourcePlugin limit offset)
      (fun a => Holds P fun st b => P st b ∧ a.Within env c st b) fun _ => Holds P P :=
  (page_triple env.x env.evidence entityId sourcePlugin limit offset).bind fun _ =>
    Prog.Triple.assume fun hitems =>
      Prog.Triple.pure fun _ h => h.weaken fun _ _ h => ⟨h, hitems⟩

lemma getEvidence_triple (evId : UUID) :
    Prog.Triple (Holds P P) (getEvidence env c evId)
      (fun a => Holds P fun st b => P st b ∧ a.Within env c st b) fun _ => Holds P P := by
  refine row_triple env.x evId fun ev hcase => ?_
  exact Prog.Triple.pure fun _ h => h.weaken fun _ _ h => ⟨h.1, hcase⟩

lemma getEvidenceBlob_triple (evId : UUID) :
    Prog.Triple (Holds P P) (getEvidenceBlob env c evId)
      (fun a => Holds P fun st b => P st b ∧ a.Within env c st b) fun _ => Holds P P := by
  refine row_triple env.x evId fun ev hcase => ?_
  cases hurl : env.presign ev.responseUri with
  | error e => exact Prog.Triple.throw fun _ h => h.weaken fun _ _ h => h.1
  | ok url =>
    exact Prog.Triple.pure fun _ h => h.weaken fun _ _ h => ⟨h.1, ev, h.2, hcase, hurl⟩

lemma verifyEvidenceHash_triple (evId : UUID) :
    Prog.Triple (Holds P P) (verifyEvidenceHash env c evId)
      (fun a => Holds P fun st b => P st b ∧ a.Within env c st b) fun _ => Holds P P := by
  refine row_triple env.x evId fun ev hcase => ?_
  have hread := Holds.external_reads (S := Store) (W := Write) (I := P)
    (J := fun st b => P st b ∧ ev ∈ st.evidence) fun b : Bucket =>
      if env.unreadable then .error Exc.clientError else EvidenceStorage.get ev.responseUri b
  refine (hread.post (fun _ _ h => h) fun _ _ h => h.weaken fun _ _ h => h.1).bind fun blob => ?_
  refine Prog.Triple.pure fun _ h => h.weaken fun st b h => ⟨h.1.1, ev, h.1.2, hcase, rfl, ?_⟩
  have hget := h.2
  split at hget
  · cases hget
  · unfold EvidenceStorage.get at hget
    split at hget
    · rename_i found hlookup
      cases hget
      exact ⟨found, hlookup, rfl⟩
    · cases hget

lemma exportEvidenceLedger_triple (csv : Bool) :
    Prog.Triple (Holds P P) (exportEvidenceLedger env c csv)
      (fun a => Holds P fun st b => P st b ∧ a.Within env c st b) fun _ => Holds P P :=
  (page_triple env.x env.evidence none none 100000 0).bind fun _ =>
    Prog.Triple.assume fun hitems =>
      Prog.Triple.pure fun _ h => h.weaken fun _ _ h => ⟨h, rfl, hitems⟩

end EvidenceRouter

/-! ### `graph/router.py` -/

namespace GraphRouter

/-- The vertices of a dump are the entities it is made of, in order. -/
lemma graphVertex_id {e : Entity} {v : GraphVertex} (h : graphVertex e = .ok v) : v.id = e.id := by
  unfold graphVertex at h
  split at h <;> cases h
  rfl

lemma mapM_graphVertex_ids {entities : List Entity} {vertices : List GraphVertex}
    (h : entities.mapM graphVertex = .ok vertices) :
    vertices.map GraphVertex.id = entities.map Entity.id := by
  induction entities generalizing vertices with
  | nil =>
    cases h
    rfl
  | cons e entities ih =>
    rw [List.mapM_cons] at h
    obtain ⟨v, hv, h⟩ := bind_eq_ok.mp h
    obtain ⟨vs, hvs, h⟩ := bind_eq_ok.mp h
    cases h
    rw [List.map_cons, List.map_cons, graphVertex_id hv, ih hvs]

/-- What a dump is made of. -/
lemma dump_eq {entities : List Entity} {rels : List Relationship} {d : GraphDump}
    (h : dump entities rels = .ok d) :
    d.vertices.map GraphVertex.id = (entities.take graphLimit).map Entity.id ∧
      d.edges = (rels.take graphLimit).map graphEdge ∧
      d.truncated
        = (decide (graphLimit < entities.length) || decide (graphLimit < rels.length)) := by
  obtain ⟨vertices, hvertices, h⟩ := bind_eq_ok.mp h
  cases h
  exact ⟨mapM_graphVertex_ids hvertices, rfl, rfl⟩

lemma getGraph_triple :
    Prog.Triple (Holds P P) (getGraph env c)
      (fun a => Holds P fun st b => P st b ∧ a.Within env c st b) fun _ => Holds P P := by
  refine (query_triple env.x.lookup _).bind fun entities => Prog.Triple.assume fun _ => ?_
  refine (query_triple env.y.lookup _).bind fun rels => Prog.Triple.assume fun _ => ?_
  cases hdump : dump entities rels with
  | error e => exact Prog.Triple.throw fun _ h => h.weaken fun _ _ h => h.1.1
  | ok d =>
    refine Prog.Triple.pure fun _ h => h.weaken ?_
    rintro st b ⟨⟨hst, rfl⟩, rfl⟩
    obtain ⟨hvertices, hedges, -⟩ := dump_eq hdump
    refine ⟨hst, fun v hv => ?_, fun e he => ?_⟩
    · have hid := hvertices ▸ List.mem_map_of_mem (f := GraphVertex.id) hv
      obtain ⟨e, he, hid⟩ := List.mem_map.mp hid
      have hmem := NewestFirst.mem_of_mem_page _ (List.mem_of_mem_take he)
      simp only [EntityRepository.inCase, List.mem_filter, Bool.and_eq_true, decide_eq_true_eq]
        at hmem
      exact ⟨e, hmem.1, hid, hmem.2.1.1⟩
    · rw [hedges] at he
      obtain ⟨r, hr, rfl⟩ := List.mem_map.mp he
      have hmem := NewestFirst.mem_of_mem_page _ (List.mem_of_mem_take hr)
      simp only [RelationshipRepository.inCase, List.mem_filter, Bool.and_eq_true,
        decide_eq_true_eq] at hmem
      exact ⟨r, hmem.1, rfl, hmem.2.1.1.1.1, rfl, rfl⟩

end GraphRouter

/-! ### `plugins/router.py` -/

namespace PluginsRouter

/-- Without an open transaction, the input that `get` finds is a committed row of the case. -/
lemma input_triple (x : Ext) (entityId : UUID) :
    Prog.Triple (fun s => s.pending = [] ∧ Holds P P s)
      (EntityRepository.get x entityId c : Db Bucket (Option Entity))
      (fun a => Holds (fun st b => P st b ∧ ∀ e, a = some e → EntityOf c st e.id)
        fun st b => P st b ∧ ∀ e, a = some e → EntityOf c st e.id) fun _ => Holds P P := by
  have hget := Sleuthgraph.getEntity_triple (P := P) (J := P) x entityId c
  refine Prog.Triple.intro (fun s a s' hs h => ?_) fun s e s' hs h => hget.error hs.2 h
  obtain ⟨hrow, hholds⟩ := hget.ok hs.2 h
  obtain ⟨rfl, hfailed, -⟩ := query_ok h
  have hwork : s'.work = s'.committed := by rw [Session.work, hs.1, applyAll_nil]
  obtain ⟨hP, hlive⟩ := hholds.work hfailed
  have hinput : ∀ e, a = some e → EntityOf c s'.work e.id := fun e he =>
    ⟨e, (hlive e he).mem, rfl, (hrow e he).2⟩
  exact ⟨⟨hholds.committed, hwork ▸ hinput⟩, fun _ => ⟨hP, hinput⟩⟩

lemma runPlugin_triple {pluginName : String} {inputEntityId : UUID}
    (hP : KeptBy py ((CaseRoute.runPlugin pluginName inputEntityId).rights app user c) c P) :
    Prog.Triple (fun s => s.pending = [] ∧ Holds P P s)
      (runPlugin py app env user c pluginName inputEntityId)
      (fun a => Holds P fun st b => P st b ∧ a.Within env c st b) fun _ => Holds P P := by
  refine (input_triple env.x inputEntityId).bind fun a => ?_
  cases a with
  | none => exact Prog.Triple.throw fun _ h => h.left
  | some inputEntity =>
    have hP' := hP.and_entityOf c inputEntity.id
    refine Prog.Triple.pre (P := Holds (fun st b => P st b ∧ EntityOf c st inputEntity.id)
      fun st b => P st b ∧ EntityOf c st inputEntity.id) ?_
      fun _ h => ⟨⟨h.committed.1, h.committed.2 _ rfl⟩,
        fun hs => ⟨(h.work hs).1, (h.work hs).2 _ rfl⟩⟩
    cases app.registry.get pluginName with
    | error e => exact Prog.Triple.throw fun _ h => h.left
    | ok plugin =>
      refine Prog.Triple.ite (fun _ => ?_) fun _ => ?_
      · have hdispatch := dispatchRun_triple hP' env.dispatch plugin (fun st b hst => hst.2)
          user
        refine (hdispatch.post (fun _ _ h => h) fun _ _ h => h.left).bind fun row =>
          Prog.Triple.assume fun hcase => ?_
        exact Prog.Triple.pure fun _ h => h.left.weaken fun _ _ h => ⟨h, hcase, nofun, nofun, nofun⟩
      · have hrun := PluginRunner.run_triple hP' (pluginRights_allowsPlugin c) env.run
          (show (runRequest app user c pluginName inputEntity).caseId = c from rfl)
          fun st b hst => hst.2
        refine (Prog.Triple.tryCatch hrun fun e => Prog.Triple.throw fun _ h => h.left).bind
          fun result => Prog.Triple.assume fun hresult => ?_
        cases hanswer : runAnswer result with
        | error e => exact Prog.Triple.throw fun _ h => h.left
        | ok answer =>
          refine Prog.Triple.pure fun _ h => h.left.weaken fun st b h => ⟨h, ?_⟩
          obtain ⟨es, hes, hanswer⟩ := bind_eq_ok.mp hanswer
          obtain ⟨rs, hrs, hanswer⟩ := bind_eq_ok.mp hanswer
          cases hanswer
          rw [mapM_validate_eq EntityRead.validate_eq hes,
            mapM_validate_eq RelationshipRead.validate_eq hrs]
          exact ⟨hresult.run, hresult.entities, hresult.relationships, hresult.evidence⟩

lemma listRuns_triple (status pluginName : Option String) (limit offset : ℕ) :
    Prog.Triple (Holds P P) (listRuns env c status pluginName limit offset)
      (fun a => Holds P fun st b => P st b ∧ a.Within env c st b) fun _ => Holds P P := by
  have hpage : Prog.Triple (Holds P P)
      (PluginRunRepository.listForCase env.x env.runs c status pluginName limit offset)
      (fun a s => (∀ row ∈ a.1, row.caseId = c) ∧ Holds P P s) fun _ => Holds P P := by
    refine (answer_triple (φ := fun _ => True) _ _ fun _ => trivial).bind
      fun total => Prog.Triple.assume fun _ => ?_
    refine (answer_triple (φ := fun items : List PluginRun => ∀ row ∈ items, row.caseId = c) _ _
      fun st row hrow => ?_).bind fun items => Prog.Triple.pure fun _ h => h
    have hmem := NewestFirst.mem_of_mem_page _ hrow
    simp only [PluginRunRepository.inCase, List.mem_filter, Bool.and_eq_true, decide_eq_true_eq]
      at hmem
    exact hmem.2.1.1
  exact hpage.bind fun _ => Prog.Triple.assume fun hitems =>
    Prog.Triple.pure fun _ h => h.weaken fun _ _ h => ⟨h, hitems⟩

lemma getRun_triple (runId : UUID) :
    Prog.Triple (Holds P P) (getRun env c runId)
      (fun a => Holds P fun st b => P st b ∧ a.Within env c st b) fun _ => Holds P P := by
  refine (answer_triple (φ := fun a : Option PluginRun => ∀ row, a = some row → row.caseId = c) _ _
    fun st row hrow => ?_).bind fun a => Prog.Triple.assume fun ha => ?_
  · have hcond := List.find?_some hrow
    simp only [Bool.and_eq_true, decide_eq_true_eq] at hcond
    exact hcond.2
  · exact (found_triple ha).bind fun row => Prog.Triple.assume fun hrow =>
      Prog.Triple.pure fun _ h => h.weaken fun _ _ h => ⟨h, hrow⟩

end PluginsRouter

/-- **The specification of a route.** It keeps what the steps of its case keep, whatever raises,
and answers with rows of the case. -/
theorem CaseRoute.endpoint_triple (r : CaseRoute) (hP : KeptBy py (r.rights app user c) c P) :
    Prog.Triple (fun s => s.pending = [] ∧ Holds P P s) (r.endpoint py app env user c)
      (fun a => Holds P fun st b => P st b ∧ a.Within env c st b) fun _ => Holds P P := by
  have hweaken : ∀ {m : Db Bucket Answer} {R : Answer → Session Store Write Bucket → Prop},
      Prog.Triple (Holds P P) m R (fun _ => Holds P P) →
        Prog.Triple (fun s => s.pending = [] ∧ Holds P P s) m R fun _ => Holds P P :=
    fun hm => hm.pre fun _ h => h.2
  cases r with
  | createEntity data => exact hweaken (EntitiesRouter.createEntity_triple py app env user hP)
  | listEntities type limit offset =>
    exact hweaken (EntitiesRouter.listEntities_triple env type limit offset)
  | getEntity entityId => exact hweaken (EntitiesRouter.getEntity_triple env entityId)
  | updateEntity entityId data =>
    exact hweaken (EntitiesRouter.updateEntity_triple py app env user hP)
  | deleteEntity entityId => exact hweaken (EntitiesRouter.deleteEntity_triple py app env user hP)
  | createRelationship data =>
    exact hweaken (RelationshipsRouter.createRelationship_triple py app env user hP)
  | listRelationships relType src dst limit offset =>
    exact hweaken (RelationshipsRouter.listRelationships_triple env relType src dst limit offset)
  | getRelationship relId => exact hweaken (RelationshipsRouter.getRelationship_triple env relId)
  | deleteRelationship relId =>
    exact hweaken (RelationshipsRouter.deleteRelationship_triple py app env user hP)
  | createEvidence metadata file contentType =>
    exact hweaken (EvidenceRouter.createEvidence_triple py app env user hP)
  | listEvidence entityId sourcePlugin limit offset =>
    exact hweaken (EvidenceRouter.listEvidence_triple env entityId sourcePlugin limit offset)
  | getEvidence evId => exact hweaken (EvidenceRouter.getEvidence_triple env evId)
  | getEvidenceBlob evId => exact hweaken (EvidenceRouter.getEvidenceBlob_triple env evId)
  | verifyEvidenceHash evId => exact hweaken (EvidenceRouter.verifyEvidenceHash_triple env evId)
  | exportEvidenceLedger csv => exact hweaken (EvidenceRouter.exportEvidenceLedger_triple env csv)
  | getGraph => exact hweaken (GraphRouter.getGraph_triple env)
  | runPlugin pluginName inputEntityId => exact PluginsRouter.runPlugin_triple py app env user hP
  | listRuns status pluginName limit offset =>
    exact hweaken (PluginsRouter.listRuns_triple env status pluginName limit offset)
  | getRun runId => exact hweaken (PluginsRouter.getRun_triple env runId)

end Endpoints

/-! ## Requests and tasks -/

section Requests

variable (py : Interp) (app : App) (env : Env) (user : UUID) {c : UUID}
variable {P : Store → Bucket → Prop}

/-- The ownership check lets a live case of the user through, and nothing else. -/
lemma verifyCaseOwnership_triple (cases : Table Case) :
    Prog.Triple (fun s => s.pending = [] ∧ Holds P P s)
      (verifyCaseOwnership env user cases c)
      (fun _ s => (CaseRepository.owned cases c user).isSome ∧ s.pending = [] ∧ Holds P P s)
      fun _ => Holds P P := by
  refine Prog.Triple.bind (Q := fun _ s => s.pending = [] ∧ Holds P P s) ?_ fun _ => ?_
  · have hquery := answer_triple (P := P) (φ := fun _ => True) env.ownership (fun _ => ())
      fun _ => trivial
    refine Prog.Triple.intro (fun s a s' hs h => ⟨?_, (hquery.ok hs.2 h).2⟩)
      fun s e s' hs h => hquery.error hs.2 h
    rw [(query_ok h).1]
    exact hs.1
  · cases howned : CaseRepository.owned cases c user with
    | none => exact Prog.Triple.throw fun _ h => h.2
    | some row => exact Prog.Triple.pure fun _ h => ⟨rfl, h⟩

/-- What the ownership check and the endpoint behind it keep is what the request leaves. -/
lemma CaseRoute.exec_of_run {r : CaseRoute} {db : Database} {Q : Answer → Store → Bucket → Prop}
    (hrun : Prog.Triple (fun s => s.pending = [] ∧ Holds P P s) (r.run py app env user db.cases c)
      (fun a => Holds P fun st b => P st b ∧ Q a st b) fun _ => Holds P P)
    (hdb : P db.store db.bucket) :
    P ((Request.inCase c r).exec py app env user db).2.store
        ((Request.inCase c r).exec py app env user db).2.bucket ∧
      ∀ a, ((Request.inCase c r).exec py app env user db).1 = .ok a →
        Q a ((Request.inCase c r).exec py app env user db).2.store
          ((Request.inCase c r).exec py app env user db).2.bucket := by
  have hsession := withSession_triple env.finish hrun
  have hstart : (openSession db.store db.bucket : Session Store Write Bucket).pending = [] ∧
      Holds P P (openSession db.store db.bucket : Session Store Write Bucket) :=
    ⟨rfl, hdb, fun _ => hdb⟩
  simp only [Request.exec]
  cases hres : withSession env.finish (r.run py app env user db.cases c)
      (openSession db.store db.bucket) with
  | mk res s =>
    cases res with
    | ok a =>
      have hok := hsession.ok hstart hres
      refine ⟨hok.1, fun a' ha => ?_⟩
      cases ha
      exact hok.2
    | error e => exact ⟨hsession.error hstart hres, nofun⟩

/-- A request below a case keeps what the steps of the case keep, and answers with rows of the
case, which is a live one of the user. -/
theorem CaseRoute.exec_keeps (r : CaseRoute) (hP : KeptBy py (r.rights app user c) c P)
    {db : Database} (hdb : P db.store db.bucket) :
    P ((Request.inCase c r).exec py app env user db).2.store
        ((Request.inCase c r).exec py app env user db).2.bucket ∧
      ∀ a, ((Request.inCase c r).exec py app env user db).1 = .ok a →
        (CaseRepository.owned db.cases c user).isSome ∧
          a.Within env c ((Request.inCase c r).exec py app env user db).2.store
            ((Request.inCase c r).exec py app env user db).2.bucket := by
  have hrun : Prog.Triple (fun s => s.pending = [] ∧ Holds P P s)
      (r.run py app env user db.cases c)
      (fun a => Holds P fun st b => P st b ∧
        (CaseRepository.owned db.cases c user).isSome ∧ a.Within env c st b)
      fun _ => Holds P P :=
    (verifyCaseOwnership_triple env user db.cases).bind fun _ => Prog.Triple.assume fun howned =>
      (r.endpoint_triple py app env user hP).post
        (fun _ _ h => h.weaken fun _ _ h => ⟨h.1, howned, h.2⟩) fun _ _ h => h
  exact CaseRoute.exec_of_run py app env user hrun hdb

/-- A request below a case that is no live one of the user changes nothing. -/
theorem CaseRoute.exec_unowned (r : CaseRoute) {db : Database}
    (howned : CaseRepository.owned db.cases c user = none) :
    ((Request.inCase c r).exec py app env user db).2 = db ∧
      ∀ a, ((Request.inCase c r).exec py app env user db).1 ≠ .ok a := by
  have hverify : Prog.Triple (fun s => s = openSession db.store db.bucket)
      (verifyCaseOwnership env user db.cases c) (fun _ _ => False)
      fun _ s => s.committed = db.store ∧ s.outside = db.bucket := by
    rintro s rfl
    unfold verifyCaseOwnership
    rw [howned]
    cases env.ownership with
    | true => exact ⟨rfl, rfl⟩
    | false => exact ⟨rfl, rfl⟩
  have hrun : Prog.Triple (fun s => s = openSession db.store db.bucket)
      (withSession env.finish (r.run py app env user db.cases c)) (fun _ _ => False)
      fun _ s => s.committed = db.store ∧ s.outside = db.bucket := by
    have hbody := hverify.bind (f := fun _ => r.endpoint py app env user c) (R := fun _ _ => False)
      fun _ s hs => hs.elim
    have hrolled : Prog.Triple (fun s => s = openSession db.store db.bucket)
        (rollingBack (r.run py app env user db.cases c)) (fun _ _ => False)
        fun _ s => s.committed = db.store ∧ s.outside = db.bucket :=
      Prog.Triple.tryCatch hbody fun e s hs => hs
    exact hrolled.bind fun _ s hs => hs.elim
  simp only [Request.exec]
  cases hres : withSession env.finish (r.run py app env user db.cases c)
      (openSession db.store db.bucket) with
  | mk res s =>
    cases res with
    | ok a => exact (hrun.ok rfl hres).elim
    | error e =>
      obtain ⟨hcommitted, houtside⟩ := hrun.error rfl hres
      exact ⟨by simp only [hcommitted, houtside], nofun⟩

/-- A task keeps what the steps of its run's case keep. -/
theorem taskExec_keeps {run : PluginRun} (hP : KeptBy py (pluginRights run.caseId) run.caseId P)
    {db : Database} (hrun : db.store.runs.find run.id = some run)
    (hinput : ∀ id, run.inputEntityId = some id → EntityOf run.caseId db.store id)
    (hdb : P db.store db.bucket) (x : TaskExt) :
    P (taskExec py app x run.id db).2.store (taskExec py app x run.id db).2.bucket := by
  have htask : TaskOf run db.store :=
    ⟨⟨run, (Table.find_eq_some_iff.mp hrun).1, rfl, rfl, rfl⟩, hinput⟩
  have hkeeps := runPluginTask_triple (hP.and_taskOf run) (pluginRights_allowsPlugin _)
    (fun st b hst => hst.2) x app.worker
  have hstart : Holds (fun st b => P st b ∧ TaskOf run st) (fun st b => P st b ∧ TaskOf run st)
      (openSession db.store db.bucket : Session Store Write Bucket) :=
    ⟨⟨hdb, htask⟩, fun _ => ⟨hdb, htask⟩⟩
  simp only [taskExec]
  cases hres : runPluginTask py x app.worker run.id (openSession db.store db.bucket) with
  | mk res s =>
    cases res with
    | ok a => exact (hkeeps.ok hstart hres).committed.1
    | error e => exact (hkeeps.error hstart hres).committed.1

/-- A task whose run is not there changes nothing. -/
theorem taskExec_missing {runId : UUID} {db : Database} (hrun : db.store.runs.find runId = none)
    (x : TaskExt) : (taskExec py app x runId db).2 = db := by
  have htask : Prog.Triple (fun s => s = openSession db.store db.bucket)
      (runPluginTask py x app.worker runId)
      (fun _ s => s.committed = db.store ∧ s.outside = db.bucket)
      fun _ s => s.committed = db.store ∧ s.outside = db.bucket := by
    rintro s rfl
    unfold runPluginTask
    cases x.runLookup with
    | true => exact ⟨rfl, rfl⟩
    | false =>
      rw [Prog.bind_apply_ok (query_apply rfl _)]
      have hwork : (openSession db.store db.bucket : Session Store Write Bucket).work.runs.find
          runId = none := hrun
      rw [hwork]
      exact ⟨rfl, rfl⟩
  simp only [taskExec]
  cases hres : runPluginTask py x app.worker runId (openSession db.store db.bucket) with
  | mk res s =>
    have hsame : s.committed = db.store ∧ s.outside = db.bucket := by
      cases res with
      | ok a => exact htask.ok rfl hres
      | error e => exact htask.error rfl hres
    simp only [hsame]

/-- An action keeps what its request keeps, what the steps of the runner keep, and what a sweep
keeps. -/
theorem ServerAction.exec_keeps (a : ServerAction) {db : Database} (hdb : P db.store db.bucket)
    (hinputs : ∀ run ∈ db.store.runs, ∀ id, run.inputEntityId = some id →
      EntityOf run.caseId db.store id)
    (hroute : ∀ user env c r, a = .request user env (.inCase c r) →
      P ((Request.inCase c r).exec py app env user db).2.store
        ((Request.inCase c r).exec py app env user db).2.bucket)
    (htask : ∀ c, KeptBy py (pluginRights c) c P)
    (hsweep : ∀ thresholdMinutes now now', a = .sweep thresholdMinutes now now' →
      P { db.store with runs := (sweepStuckRuns thresholdMinutes now now' db.store.runs).1 }
        db.bucket) :
    P (a.exec py app db).store (a.exec py app db).bucket := by
  cases a with
  | request user env r =>
    cases r with
    | cases r => exact hdb
    | inCase c r => exact hroute user env c r rfl
  | task x runId =>
    cases hfind : db.store.runs.find runId with
    | none =>
      have hsame := taskExec_missing py app hfind x
      simp only [ServerAction.exec, hsame]
      exact hdb
    | some run =>
      obtain ⟨hrun, rfl⟩ := Table.find_eq_some_iff.mp hfind
      exact taskExec_keeps py app (htask _) hfind (hinputs run hrun) hdb x
  | sweep thresholdMinutes now now' => exact hsweep thresholdMinutes now now' rfl

end Requests

end Sleuthgraph
