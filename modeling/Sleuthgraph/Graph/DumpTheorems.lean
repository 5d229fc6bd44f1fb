import Sleuthgraph.Api.IsolationTheorems
import Sleuthgraph.Graph.MirrorTheorems

/-!
# The dump of a case's graph

`get_graph` makes a query for the vertices and another one for the edges, each in the order of
`created_at` and each cut off after `graphLimit` rows. Nothing ties the two together: the deletion
of an entity leaves its relationships, and a recent relationship may be between entities that are
too old to be shown. `EndpointsShown` says when neither shows in a dump, whatever order the database
picks among rows of the same time.
-/

namespace Sleuthgraph

open Programs Transactions Tables Listings GraphRouter

/-! ## Dumps -/

/-- Both ends of every edge are among the vertices. -/
def GraphDump.Closed (d : GraphDump) : Prop :=
  ∀ e ∈ d.edges, (∃ v ∈ d.vertices, v.id = e.source) ∧ ∃ v ∈ d.vertices, v.id = e.target

/-- The dump shows the live rows of the case, each once, and nothing else. -/
structure GraphDump.Exact (d : GraphDump) (st : Store) (c : UUID) : Prop where
  vertices : ∃ entities : List Entity, entities.Perm (EntityRepository.inCase st c none) ∧
    entities.mapM graphVertex = .ok d.vertices
  edges : d.edges.Perm
    ((RelationshipRepository.inCase st c none none none).map graphEdge)

/-- An entity that every dump of the case shows: fewer than `graphLimit` others may precede it. -/
def AlwaysShown (st : Store) (c : UUID) (e : Entity) : Prop :=
  e ∈ EntityRepository.inCase st c none ∧
    notOlder Entity.createdAt (EntityRepository.inCase st c none) e < graphLimit

/-- A relationship that some dump of the case shows: fewer than `graphLimit` must precede it. -/
def MayShow (st : Store) (c : UUID) (r : Relationship) : Prop :=
  r ∈ RelationshipRepository.inCase st c none none none ∧
    newer Relationship.createdAt (RelationshipRepository.inCase st c none none none) r < graphLimit

/-- What may be shown as an edge is between what is always shown as vertices. -/
def EndpointsShown (st : Store) (c : UUID) : Prop :=
  ∀ r, MayShow st c r → (∃ e, AlwaysShown st c e ∧ e.id = r.srcEntityId) ∧
    ∃ e, AlwaysShown st c e ∧ e.id = r.dstEntityId

/-- The dump that the orders of `env` give. -/
def dumpOf (env : Env) (st : Store) (c : UUID) : Except Exc GraphDump :=
  dump (env.entities.page (graphLimit + 1) 0 (EntityRepository.inCase st c none))
    (env.relationships.page (graphLimit + 1) 0 (RelationshipRepository.inCase st c none none none))

section Dumps

variable {st : Store} {c : UUID} {env : Env} {d : GraphDump}

lemma nodup_entities (st : Store) (c : UUID) : (EntityRepository.inCase st c none).Nodup :=
  (List.Nodup.of_map _ st.entities.nodup).filter _

lemma nodup_relationships (st : Store) (c : UUID) :
    (RelationshipRepository.inCase st c none none none).Nodup :=
  (List.Nodup.of_map _ st.relationships.nodup).filter _

/-- The ids of the vertices are those of the first entities. -/
lemma vertex_iff (h : dumpOf env st c = .ok d) (id : UUID) :
    (∃ v ∈ d.vertices, v.id = id) ↔
      ∃ e ∈ (env.entities.arrange (EntityRepository.inCase st c none)).take graphLimit,
        e.id = id := by
  have hids := (dump_eq h).1
  rw [env.entities.take_page (Nat.le_succ graphLimit)] at hids
  rw [← List.mem_map, hids, List.mem_map]

/-- The edges are the first relationships. -/
lemma edge_iff (h : dumpOf env st c = .ok d) (e : GraphEdge) :
    e ∈ d.edges ↔ ∃ r ∈ (env.relationships.arrange
      (RelationshipRepository.inCase st c none none none)).take graphLimit, graphEdge r = e := by
  have hedges := (dump_eq h).2.1
  rw [env.relationships.take_page (Nat.le_succ graphLimit)] at hedges
  rw [hedges, List.mem_map]

/-- A dump whose possible edges are between certain vertices is closed. -/
lemma EndpointsShown.closed (hst : EndpointsShown st c) (h : dumpOf env st c = .ok d) :
    d.Closed := by
  intro e he
  obtain ⟨r, hr, rfl⟩ := (edge_iff h e).mp he
  have hmay : MayShow st c r := ⟨env.relationships.mem_arrange.mp (List.mem_of_mem_take hr),
    newer_lt_of_mem_head _ (nodup_relationships st c) hr⟩
  have hshown : ∀ {id : UUID}, (∃ e, AlwaysShown st c e ∧ e.id = id) →
      ∃ v ∈ d.vertices, v.id = id := by
    rintro _ ⟨e, ⟨hmem, hrank⟩, rfl⟩
    exact (vertex_iff h e.id).mpr
      ⟨e, mem_head_of_all _ (nodup_entities st c) hmem hrank, rfl⟩
  exact ⟨hshown (hst r hmay).1, hshown (hst r hmay).2⟩

/-- Some order of the entities hides an id that is not always shown. -/
lemma exists_hiding {id : UUID} (h : ¬ ∃ e, AlwaysShown st c e ∧ e.id = id) :
    ∃ o : NewestFirst Entity.createdAt,
      ∀ e ∈ (o.arrange (EntityRepository.inCase st c none)).take graphLimit, e.id ≠ id := by
  by_cases hlive : ∃ e ∈ EntityRepository.inCase st c none, e.id = id
  · obtain ⟨e, he, rfl⟩ := hlive
    have hrank : graphLimit ≤ notOlder Entity.createdAt (EntityRepository.inCase st c none) e :=
      not_lt.mp fun hlt => h ⟨e, ⟨he, hlt⟩, rfl⟩
    obtain ⟨o, ho⟩ := not_mem_head_of_some (nodup_entities st c) he hrank
    refine ⟨o, fun e' he' hid => ho ?_⟩
    have hmem : ∀ {x}, x ∈ EntityRepository.inCase st c none → x ∈ st.entities :=
      fun hx => List.mem_of_mem_filter hx
    have hsame : e' = e := Table.eq_of_pk_eq
      (hmem (o.mem_arrange.mp (List.mem_of_mem_take he'))) (hmem he) hid
    exact hsame ▸ he'
  · exact ⟨default, fun e he hid =>
      hlive ⟨e, NewestFirst.mem_arrange _ |>.mp (List.mem_of_mem_take he), hid⟩⟩

/-- A dump that is not truncated shows everything. -/
lemma dump_exact (h : dumpOf env st c = .ok d) (htruncated : d.truncated = false) :
    d.Exact st c := by
  have hcut := (dump_eq h).2.2
  rw [htruncated, eq_comm, Bool.or_eq_false_iff, decide_eq_false_iff_not, decide_eq_false_iff_not,
    NewestFirst.length_page_zero, NewestFirst.length_page_zero] at hcut
  have hentities : (EntityRepository.inCase st c none).length ≤ graphLimit + 1 := by omega
  have hrels : (RelationshipRepository.inCase st c none none none).length ≤ graphLimit + 1 := by
    omega
  have hvertices := env.entities.page_perm hentities
  have hedges := env.relationships.page_perm hrels
  obtain ⟨vertices, hmap, hd⟩ := bind_eq_ok.mp h
  cases hd
  rw [List.take_of_length_le (by rw [hvertices.length_eq]; omega)] at hmap
  refine ⟨⟨_, hvertices, hmap⟩, ?_⟩
  show (List.map graphEdge (List.take graphLimit _)).Perm _
  rw [List.take_of_length_le (by rw [hedges.length_eq]; omega)]
  exact hedges.map graphEdge

end Dumps

/-! ## The attributes of a vertex -/

/-- The `attrs` of a row are an object, or null, which is shown as the empty object. -/
def Entity.Showable (e : Entity) : Prop := e.attrs.isDict = true ∨ e.attrs = .none

lemma Entity.Showable.graphVertex {e : Entity} (h : e.Showable) :
    ∃ v, GraphRouter.graphVertex e = .ok v := by
  unfold GraphRouter.graphVertex
  rcases h with h | h
  · cases hattrs : e.attrs with
    | dict attrs =>
      split
      · exact ⟨_, rfl⟩
      · rename_i hno
        split at hno
        · exact absurd rfl (hno attrs)
        · exact absurd rfl (hno [])
    | _ =>
      rw [hattrs] at h
      cases h
  · rw [h]
    exact ⟨_, rfl⟩

lemma mapM_graphVertex_ok {entities : List Entity} (h : ∀ e ∈ entities, e.Showable) :
    ∃ vertices, entities.mapM GraphRouter.graphVertex = .ok vertices := by
  induction entities with
  | nil => exact ⟨[], rfl⟩
  | cons e entities ih =>
    obtain ⟨v, hv⟩ := (h e List.mem_cons_self).graphVertex
    obtain ⟨vs, hvs⟩ := ih fun x hx => h x (List.mem_cons_of_mem _ hx)
    refine ⟨v :: vs, ?_⟩
    rw [List.mapM_cons, hv, hvs]
    rfl

/-- A store whose rows are all showable has a dump for every order. -/
lemma dumpOf_ok {st : Store} (h : ∀ e ∈ st.entities, e.Showable) (env : Env) (c : UUID) :
    ∃ d, dumpOf env st c = .ok d := by
  have hpage : ∀ e ∈ (env.entities.page (graphLimit + 1) 0
      (EntityRepository.inCase st c none)).take graphLimit, e.Showable := fun e he =>
    h e (List.mem_of_mem_filter (NewestFirst.mem_of_mem_page _ (List.mem_of_mem_take he)))
  obtain ⟨vertices, hvertices⟩ := mapM_graphVertex_ok hpage
  exact ⟨_, bind_eq_ok.mpr ⟨vertices, hvertices, rfl⟩⟩

/-- No call gives a row other `attrs`. -/
lemma CaseStep.showable {py : Interp} {may : Rights} {c : UUID} {st st' : Store} {b b' : Bucket}
    (h : CaseStep py may c st b st' b') (hst : ∀ e ∈ st.entities, e.Showable) :
    ∀ e ∈ st'.entities, e.Showable := by
  cases h with
  | call hmay hcase hdoes =>
    refine hdoes.forall_entities hst (fun _ _ _ => Or.inl rfl) (fun _ _ h _ => h) (fun _ h => h) ?_
    intro e entityId caseId data _ _ _ _ _ hrow
    simp only [Entity.Showable, EntityChange.set, EntityUpdate.change]
    split
    · exact hrow
    · rw [Option.getD_some, EntityUpdate.assign]
      cases data.attrs with
      | none => exact hrow
      | some attrs =>
        cases attrs with
        | none => exact Or.inr rfl
        | some attrs => exact Or.inl rfl
  | insertEvidence hcase huri hlink haccepts => exact hst
  | upload hash blob => exact hst
  | insertRun hcase hinput haccepts => exact hst
  | updateRun change hrun => exact hst

section Server

variable {py : Interp} {app : App} {db : Database} {allowed : Database → ServerAction → Prop}

lemma ServerReaches.showable (h : ServerReaches py app allowed db) :
    ∀ e ∈ db.store.entities, e.Showable := by
  have hkept : ∀ (may : Rights) (c : UUID),
      KeptBy py may c fun st _ => ∀ e ∈ st.entities, e.Showable :=
    fun may c st b st' b' hst hstep => hstep.showable hst
  refine (h.invariant (I := fun db => db.store.Sound ∧ ∀ e ∈ db.store.entities, e.Showable)
    ⟨.empty, fun _ he => (nomatch he)⟩ fun db a ⟨hs, hdb⟩ _ => ⟨hs.exec a, ?_⟩).2
  refine a.exec_keeps py app (P := fun st _ => ∀ e ∈ st.entities, e.Showable) hdb hs.inputs ?_
    (fun c => hkept _ c) fun _ _ _ _ => hdb
  exact fun user env c r _ => (r.exec_keeps py app env user (hkept _ c) hdb).1

/-! ## Deletions that spare endpoints -/

/-- A deletion that gets as far as the repository spares the endpoints of live relationships. -/
def ServerAction.SparesEndpoints (db : Database) : ServerAction → Prop
  | .request user _ (.inCase c (.deleteEntity entityId)) =>
    (CaseRepository.owned db.cases c user).isSome →
      ∀ e : Entity, e.LiveIn db.store → e.id = entityId → e.caseId = c → Spared db.store e
  | _ => True

/-- A step keeps live endpoints, unless it is a call that deletes one. -/
lemma CaseStep.anchored {may : Rights} {c : UUID} {st st' : Store} {b b' : Bucket}
    (h : CaseStep py may c st b st' b')
    (hcalls : ∀ call, may.calls call → call.caseId = c → call.Allowed Spared st)
    (hst : Anchored st) : Anchored st' := by
  cases h with
  | call hmay hcase hdoes => exact hst.move py (hdoes.move (hcalls _ hmay hcase))
  | insertEvidence hcase huri hlink haccepts => exact hst
  | upload hash blob => exact hst
  | insertRun hcase hinput haccepts => exact hst
  | updateRun change hrun => exact hst

/-- The runner deletes no entity. -/
lemma pluginRights_allowed {c : UUID} {call : Call} (h : (pluginRights c).calls call)
    (mayDrop : Store → Entity → Prop) (st : Store) : call.Allowed mayDrop st := by
  rcases h with ⟨_, _, rfl⟩ | ⟨_, _, rfl⟩
  · exact trivial
  · exact trivial

/-- One route deletes entities. -/
lemma CaseRoute.calls_allowed {user c : UUID} {r : CaseRoute} {call : Call}
    (hr : ∀ entityId, r ≠ .deleteEntity entityId) (h : (r.rights app user c).calls call)
    (mayDrop : Store → Entity → Prop) (st : Store) : call.Allowed mayDrop st := by
  cases r with
  | deleteEntity entityId => exact absurd rfl (hr entityId)
  | createEvidence metadata file contentType =>
    cases metadata with
    | error e => exact h.elim
    | ok data => exact h.elim
  | runPlugin pluginName inputEntityId => exact pluginRights_allowed h mayDrop st
  | createEntity data =>
    cases h
    exact trivial
  | updateEntity entityId data =>
    cases h
    exact trivial
  | createRelationship data =>
    cases h
    exact trivial
  | deleteRelationship relId =>
    cases h
    exact trivial
  | _ => exact h.elim

lemma CaseRoute.exec_anchored (user : UUID) (env : Env) (c : UUID) (r : CaseRoute)
    (hallowed : (ServerAction.request user env (.inCase c r)).SparesEndpoints db)
    (hdb : Anchored db.store) :
    Anchored ((Request.inCase c r).exec py app env user db).2.store := by
  cases howned : CaseRepository.owned db.cases c user with
  | none => rwa [(r.exec_unowned py app env user howned).1]
  | some row =>
    by_cases hr : ∀ entityId, r ≠ .deleteEntity entityId
    · refine (r.exec_keeps py app env user (P := fun st _ => Anchored st) ?_ hdb).1
      exact fun st b st' b' hst hstep => hstep.anchored
        (fun call hmay _ => CaseRoute.calls_allowed hr hmay _ st) hst
    · push Not at hr
      obtain ⟨entityId, rfl⟩ := hr
      refine (CaseRoute.exec_keeps py app env user (.deleteEntity entityId)
        (P := fun st _ => Anchored st ∧ ∀ e : Entity, e.LiveIn st → e.id = entityId →
          e.caseId = c → Spared st e) ?_ ⟨hdb, hallowed (howned ▸ rfl)⟩).1.1
      intro st b st' b' hst hstep
      refine ⟨hstep.anchored (fun call hmay _ => ?_) hst.1, ?_⟩
      · cases hmay
        exact hst.2
      · cases hstep with
        | call hmay hcase hdoes =>
          cases hmay
          cases hdoes with
          -- nothing live is left with the id
          | dropEntity e he hid hcase' =>
            intro e' he' hid' _
            exact absurd (hid'.trans hid.symm) (liveIn_deletion.mp he').2
        | insertEvidence hcase huri hlink haccepts => exact hlink.elim
        | upload hash blob => exact hst.2
        | insertRun hcase hinput haccepts => exact hst.2
        | updateRun change hrun => exact hst.2

/-- In a run whose deletions spare endpoints, no live relationship loses one. -/
lemma ServerReaches.anchored (h : ServerReaches py app allowed db)
    (hallowed : ∀ db a, allowed db a → a.SparesEndpoints db) : Anchored db.store := by
  refine (h.invariant (I := fun db => db.store.Sound ∧ Anchored db.store)
    ⟨.empty, fun _ hr => (nomatch hr.mem)⟩ fun db a ⟨hs, hdb⟩ ha => ⟨hs.exec a, ?_⟩).2
  refine a.exec_keeps py app (P := fun st _ => Anchored st) hdb hs.inputs ?_ ?_ fun _ _ _ _ => hdb
  · rintro user env c r rfl
    exact r.exec_anchored user env c (hallowed db _ ha) hdb
  · exact fun c st b st' b' hst hstep => hstep.anchored
      (fun call hmay _ => pluginRights_allowed hmay _ st) hst

/-- Live endpoints of a case that is not too large are always shown. -/
lemma endpointsShown_of_anchored {st : Store} {c : UUID} (hs : st.Sound) (hst : Anchored st)
    (hsize : (EntityRepository.inCase st c none).length ≤ graphLimit) : EndpointsShown st c := by
  have hshown : ∀ {id : UUID}, LiveId st id → EntityOf c st id →
      ∃ e, AlwaysShown st c e ∧ e.id = id := by
    rintro id ⟨e, he, hid⟩ hcase
    have hsame : e.caseId = c := (hid ▸ EntityOf.of_mem he.mem).unique hcase
    have hmem : e ∈ EntityRepository.inCase st c none := by
      simp only [EntityRepository.inCase, List.mem_filter, Bool.and_eq_true, decide_eq_true_eq]
      exact ⟨he.mem, ⟨hsame, he.live⟩, rfl⟩
    exact ⟨e, ⟨hmem, (notOlder_lt_length hmem).trans_le hsize⟩, hid⟩
  rintro r ⟨hr, -⟩
  simp only [RelationshipRepository.inCase, List.mem_filter, Bool.and_eq_true, decide_eq_true_eq]
    at hr
  obtain ⟨hmem, ⟨⟨⟨hcase, hlive⟩, -⟩, -⟩, -⟩ := hr
  obtain ⟨hsrc, hdst⟩ := hs.endpoints r hmem
  rw [hcase] at hsrc hdst
  exact ⟨hshown (hst r ⟨hmem, hlive⟩).1 hsrc, hshown (hst r ⟨hmem, hlive⟩).2 hdst⟩

/-! ## What the route answers -/

/-- An answered dump is that of the database, in the orders that were picked. -/
lemma getGraph_answer {env : Env} {user c : UUID} {d : GraphDump}
    (h : ((Request.inCase c .getGraph).exec py app env user db).1 = .ok (.graph d)) :
    dumpOf env db.store c = .ok d := by
  have hendpoint : Prog.Triple
      (Holds (fun st _ => st = db.store) fun st _ => st = db.store)
      (getGraph env c)
      (fun a => Holds (fun st _ => st = db.store) fun st _ => st = db.store ∧
        ∃ d, a = .graph d ∧ dumpOf env db.store c = .ok d)
      fun _ => Holds (fun st _ => st = db.store) fun st _ => st = db.store := by
    refine (query_triple env.x.lookup _).bind fun entities => Prog.Triple.assume fun hentities => ?_
    refine (query_triple env.y.lookup _).bind fun rels => Prog.Triple.assume fun hrels => ?_
    obtain ⟨_, _, rfl, rfl⟩ := hentities
    obtain ⟨_, _, ⟨rfl, -⟩, rfl⟩ := hrels
    cases hdump : dumpOf env db.store c with
    | error e =>
      have hraise : dump _ _ = .error e := hdump
      rw [hraise]
      exact Prog.Triple.throw fun _ h => h.weaken fun _ _ h => h.1.1
    | ok d =>
      have hdump' : dump _ _ = .ok d := hdump
      rw [hdump']
      exact Prog.Triple.pure fun _ h => h.weaken fun _ _ h => ⟨h.1.1, d, rfl, rfl⟩
  have hrun : Prog.Triple
      (fun s => s.pending = [] ∧ Holds (fun st _ => st = db.store) (fun st _ => st = db.store) s)
      (CaseRoute.getGraph.run py app env user db.cases c)
      (fun a => Holds (fun st _ => st = db.store) fun st _ => st = db.store ∧
        ∃ d, a = .graph d ∧ dumpOf env db.store c = .ok d)
      fun _ => Holds (fun st _ => st = db.store) fun st _ => st = db.store :=
    (verifyCaseOwnership_triple env user db.cases).bind fun _ =>
      hendpoint.pre fun _ h => h.2.2
  obtain ⟨d', ha, hd'⟩ := (CaseRoute.exec_of_run py app env user hrun rfl).2 _ h
  cases ha
  exact hd'

/-- Every dump of a live case of the user is answered when every statement gets through. -/
lemma getGraph_answers {env : Env} {user c : UUID} {d : GraphDump}
    (howned : (CaseRepository.owned db.cases c user).isSome) (hownership : env.ownership = false)
    (hx : env.x.lookup = false) (hy : env.y.lookup = false) (hfinish : env.finish = false)
    (h : dumpOf env db.store c = .ok d) :
    ((Request.inCase c .getGraph).exec py app env user db).1 = .ok (.graph d) := by
  obtain ⟨row, hrow⟩ := Option.isSome_iff_exists.mp howned
  have hverify : verifyCaseOwnership env user db.cases c (openSession db.store db.bucket)
      = (.ok (), openSession db.store db.bucket) := by
    unfold verifyCaseOwnership
    rw [hownership, hrow, Prog.bind_apply_ok (query_apply rfl _)]
    rfl
  have hendpoint : getGraph env c (openSession db.store db.bucket : Session Store Write Bucket)
      = (.ok (.graph d), openSession db.store db.bucket) := by
    unfold getGraph EntityRepository.listForCase RelationshipRepository.listForCase
    rw [hx, hy, Prog.bind_apply_ok (query_apply rfl _), Prog.bind_apply_ok (query_apply rfl _)]
    have hdump : dump _ _ = .ok d := h
    exact congrArg (fun r => ((do return .graph (← Prog.ofExcept r) : Db Bucket Answer)
      (openSession db.store db.bucket))) hdump
  have hrun : CaseRoute.getGraph.run py app env user db.cases c
      (openSession db.store db.bucket) = (.ok (.graph d), openSession db.store db.bucket) := by
    unfold CaseRoute.run
    rw [Prog.bind_apply_ok hverify]
    exact hendpoint
  have hbody : rollingBack (CaseRoute.getGraph.run py app env user db.cases c)
      (openSession db.store db.bucket) = (.ok (.graph d), openSession db.store db.bucket) :=
    Prog.tryCatch_apply_ok hrun
  simp only [Request.exec, withSession]
  rw [Prog.bind_apply_ok hbody, hfinish, Prog.bind_apply_ok (commit_apply rfl)]
  rfl

/-- **When every dump of a case is a graph.** In every database reached, every dump of a live case
of the user is closed exactly when what may be shown as an edge is between what is always shown
as vertices, and a dump that is not truncated shows the live rows of the case. In a run whose
deletions spare the endpoints of live relationships, this is so for every case of at most
`graphLimit` live entities. -/
theorem graph_dump_closed_iff (h : ServerReaches py app allowed db) {user c : UUID}
    (howned : (CaseRepository.owned db.cases c user).isSome) :
    ((∀ env d, ((Request.inCase c .getGraph).exec py app env user db).1 = .ok (.graph d) →
      d.Closed) ↔ EndpointsShown db.store c) ∧
    (∀ env d, ((Request.inCase c .getGraph).exec py app env user db).1 = .ok (.graph d) →
      d.truncated = false → d.Exact db.store c) ∧
    ((∀ db a, allowed db a → a.SparesEndpoints db) →
      (EntityRepository.inCase db.store c none).length ≤ graphLimit →
      EndpointsShown db.store c) := by
  refine ⟨⟨fun hclosed r ⟨hr, hrank⟩ => ?_, fun hst env d hd => hst.closed (getGraph_answer hd)⟩,
    fun env d hd => dump_exact (getGraph_answer hd),
    fun hallowed => endpointsShown_of_anchored h.sound (h.anchored hallowed)⟩
  -- an order that shows the relationship and hides the end
  obtain ⟨oRel, hshows⟩ := mem_head_of_some (nodup_relationships db.store c) hr hrank
  have hend : ∀ {id : UUID}, (∀ d : GraphDump, d.Closed → graphEdge r ∈ d.edges →
      ∃ v ∈ d.vertices, v.id = id) → ∃ e, AlwaysShown db.store c e ∧ e.id = id := by
    intro id hvertex
    by_contra hnot
    obtain ⟨oEnt, hhides⟩ := exists_hiding hnot
    have hdump := dumpOf_ok h.showable
      { exampleEnv 0 with entities := oEnt, relationships := oRel } c
    obtain ⟨d, hd⟩ := hdump
    have hanswer : ((Request.inCase c .getGraph).exec py app _ user db).1 = .ok (.graph d) :=
      getGraph_answers howned rfl rfl rfl rfl hd
    obtain ⟨e, he, hid⟩ := (vertex_iff hd id).mp
      (hvertex d (hclosed _ d hanswer) ((edge_iff hd _).mpr ⟨r, hshows, rfl⟩))
    exact hhides e he hid
  exact ⟨hend fun d hd he => (hd _ he).1, hend fun d hd he => (hd _ he).2⟩

end Server

/-! ### Two dumps -/

/-- Two entities of a case of user 1, and a relationship between them. -/
def linkedActions : List ServerAction :=
  [caseCreated 1 7,
    .request 1 (exampleEnv 1) (.inCase 7 (.createEntity alice)),
    .request 1 (exampleEnv 2) (.inCase 7 (.createEntity bob)),
    .request 1 (exampleEnv 3) (.inCase 7 (.createRelationship aliceKnowsBob))]

/-- Then one of them is deleted. -/
def orphanedActions : List ServerAction :=
  linkedActions ++ [.request 1 (exampleEnv 0) (.inCase 7 (.deleteEntity 1))]

theorem graph_dump_closed_iff_linked :
    (CaseRepository.owned (databaseAfter linkedActions).cases 7 1).isSome ∧
      ∀ env d, ((Request.inCase 7 .getGraph).exec plainInterp exampleApp env 1
        (databaseAfter linkedActions)).1 = .ok (.graph d) → d.Closed := by
  -- no action of the run deletes anything
  have hreach : ServerReaches plainInterp exampleApp (fun db a => a.SparesEndpoints db)
      (databaseAfter linkedActions) :=
    .step (linkedActions[3]) (.step (linkedActions[2]) (.step (linkedActions[1])
      (.step (linkedActions[0]) .start trivial rfl) trivial rfl) trivial rfl) trivial rfl
  have howned : (CaseRepository.owned (databaseAfter linkedActions).cases 7 1).isSome := by
    decide +kernel
  have hgraph := graph_dump_closed_iff hreach howned
  exact ⟨howned, hgraph.1.mpr (hgraph.2.2 (fun _ _ h => h) (by decide +kernel))⟩

/-- The relationship is still shown, without its source. -/
theorem graph_dump_open :
    ¬ ∀ (py : Interp) (app : App) (db : Database), ServerReaches py app (fun _ _ => True) db →
      ∀ (user c : UUID) (env : Env) (d : GraphDump),
        ((Request.inCase c .getGraph).exec py app env user db).1 = .ok (.graph d) →
        d.Closed ∧ (d.truncated = false → d.Exact db.store c) := by
  intro h
  have hanswer : ((Request.inCase 7 .getGraph).exec plainInterp exampleApp (exampleEnv 0) 1
      (databaseAfter orphanedActions)).1 = .ok (.graph ⟨[⟨2, "PERSON", "bob", 1, []⟩],
        [⟨3, 1, 2, "ASSOCIATED_WITH", 1, none, []⟩], false⟩) := by
    decide +kernel
  have hclosed := (h plainInterp exampleApp _ (reaches_databaseAfter orphanedActions) 1 7 _ _
    hanswer).1
  obtain ⟨v, hv, hid⟩ := (hclosed _ List.mem_cons_self).1
  obtain rfl := List.mem_singleton.mp hv
  cases hid

end Sleuthgraph
