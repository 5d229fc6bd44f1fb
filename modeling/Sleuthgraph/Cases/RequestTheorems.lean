import Sleuthgraph.Api.Server

/-!
# What a request does to the table of cases

`CaseTableStep` lists what the requests of `cases/router.py` do when they get through. What it
keeps is kept by the whole request, and the rows that are answered are live ones of the user.
-/

namespace Sleuthgraph

open Programs Transactions Tables Listings

/-- A live case of the user. -/
structure Case.OwnedIn (c : Case) (user : UUID) (cases : Table Case) : Prop where
  mem : c ∈ cases
  owner : c.ownerId = some user
  live : c.live = true

/-- `get` finds the live case of the user with the id, if there is one. -/
lemma owned_eq_some_iff {cases : Table Case} {caseId user : UUID} {c : Case} :
    CaseRepository.owned cases caseId user = some c ↔ c.OwnedIn user cases ∧ c.id = caseId := by
  constructor
  · intro h
    have hcond := List.find?_some h
    simp only [Bool.and_eq_true, decide_eq_true_eq] at hcond
    exact ⟨⟨List.mem_of_find?_eq_some h, hcond.1.2, hcond.2⟩, hcond.1.1⟩
  · intro ⟨hc, hid⟩
    cases hfind : CaseRepository.owned cases caseId user with
    | none =>
      have hnone := List.find?_eq_none.mp hfind c hc.mem
      simp [hid, hc.owner, hc.live] at hnone
    | some c' =>
      have hcond := List.find?_some hfind
      simp only [Bool.and_eq_true, decide_eq_true_eq] at hcond
      have hmem : c' ∈ cases := List.mem_of_find?_eq_some hfind
      rw [Table.eq_of_pk_eq hmem hc.mem (hcond.1.1.trans hid.symm)]

variable (py : Interp) (user : UUID)

/-- What a request does to the table when it gets through and writes. -/
inductive CaseTableStep (cases : Table Case) : CaseRequest → Table Case → Prop
  | create {data : CaseCreate} (x : Ext)
      (haccepts : CaseWrite.accepts cases (.insert (CaseRepository.newCase x user data))) :
      CaseTableStep cases (.create data)
        (CaseWrite.apply cases (.insert (CaseRepository.newCase x user data)))
  | update {caseId : UUID} {data : CaseUpdate} (c : Case) (hc : c.OwnedIn user cases)
      (hid : c.id = caseId) (now : Time)
      (haccepts : CaseWrite.accepts cases (.update c.id (data.change py c) now)) :
      CaseTableStep cases (.update caseId data)
        (CaseWrite.apply cases (.update c.id (data.change py c) now))
  | delete {caseId : UUID} (c : Case) (hc : c.OwnedIn user cases) (hid : c.id = caseId)
      (now : Time) :
      CaseTableStep cases (.delete caseId)
        (CaseWrite.apply cases (.update c.id { deletedAt := some (some now) } now))

/-- The answer is made of live cases of the user. -/
def Answer.OwnedBy : Answer → Prop
  | .case _ row => row.ownerId = some user ∧ row.live = true
  | .cases items => ∀ row ∈ items, row.ownerId = some user ∧ row.live = true
  | .noContent => True
  | _ => False

section Pieces

variable {P J K : Table Case → Unit → Prop}

lemma caseWrite_triple (lost : Bool) (w : CaseWrite)
    (h : ∀ cases o, J cases o → CaseWrite.accepts cases w = true → K (CaseWrite.apply cases w) o) :
    Prog.Triple (Holds P J) (write lost w : CaseDb Unit) (fun _ => Holds P K)
      fun _ => Holds P P :=
  (Holds.write lost w h).post (fun _ _ h => h) fun _ _ h => h.of_stuck

lemma caseCommit_triple (lost : Bool) (h : ∀ cases o, J cases o → P cases o) :
    Prog.Triple (Holds P J) (commit lost : CaseDb Unit) (fun _ => Holds P J)
      fun _ => Holds P P :=
  (Holds.commit lost h).post (fun _ _ h => h) fun _ _ h => h.of_stuck

lemma caseQuery_triple {α : Type} (lost : Bool) (q : Table Case → α) :
    Prog.Triple (Holds P J) (query lost q : CaseDb α)
      (fun a s => (∃ cases o, J cases o ∧ a = q cases) ∧
        Holds P (fun cases o => J cases o ∧ a = q cases) s)
      fun _ => Holds P P :=
  (Holds.query_reads lost q).post (fun _ _ h => h) fun _ _ h => h.of_stuck

end Pieces

namespace CaseRequest

variable {P : Table Case → Unit → Prop}

/-- An answered row, a live case of the user. -/
lemma validated_triple {status : ℕ} {c : Case} (hc : c.ownerId = some user ∧ c.live = true) :
    Prog.Triple (Holds P P)
      (do return .case status (← Prog.ofExcept (CaseRead.validate c)) : CaseDb Answer)
      (fun a s => a.OwnedBy user ∧ Holds P P s) fun _ => Holds P P := by
  unfold CaseRead.validate
  split
  · exact Prog.Triple.pure fun _ h => ⟨hc, h⟩
  · exact Prog.Triple.throw fun _ h => h

/-- Live cases of the user, answered as a list. -/
lemma listCases_triple (env : Env) (status : Option String) (limit offset : ℕ) :
    Prog.Triple (Holds P P) (CasesRouter.listCases env user status limit offset)
      (fun a s => a.OwnedBy user ∧ Holds P P s) fun _ => Holds P P := by
  refine (caseQuery_triple _ _).bind fun items => Prog.Triple.assume fun hread => ?_
  obtain ⟨cases₀, -, -, hitems⟩ := hread
  have howned : ∀ row ∈ items, row.ownerId = some user ∧ row.live = true := by
    intro row hrow
    have hmem := NewestFirst.mem_of_mem_page _ (hitems ▸ hrow)
    simp only [CaseRepository.ofOwner, List.mem_filter, Bool.and_eq_true, decide_eq_true_eq]
      at hmem
    exact ⟨hmem.2.1.1, hmem.2.1.2⟩
  cases hvalid : items.mapM CaseRead.validate with
  | error e => exact Prog.Triple.throw fun _ h => h.weaken fun _ _ h => h.1
  | ok items' =>
    have hsame := mapM_validate_eq CaseRead.validate_eq hvalid
    exact Prog.Triple.pure fun _ h => ⟨hsame.symm ▸ howned, h.weaken fun _ _ h => h.1⟩

/-- The row that `get` finds. -/
lemma get_triple (x : Ext) (caseId : UUID) :
    Prog.Triple (Holds P P) (CaseRepository.get x caseId user)
      (fun a s => (∀ c, a = some c → c.id = caseId ∧ c.ownerId = some user ∧ c.live = true) ∧
        Holds P (fun cases o => P cases o ∧ ∀ c, a = some c → c.OwnedIn user cases) s)
      fun _ => Holds P P := by
  refine (caseQuery_triple _ _).post (fun a s h => ⟨?_, h.2.weaken ?_⟩) fun _ _ h => h
  · obtain ⟨⟨cases₀, -, -, rfl⟩, -⟩ := h
    intro c hc
    obtain ⟨howned, hid⟩ := owned_eq_some_iff.mp hc
    exact ⟨hid, howned.owner, howned.live⟩
  · rintro cases o ⟨hP, rfl⟩
    exact ⟨hP, fun c hc => (owned_eq_some_iff.mp hc).1⟩

lemma getCase_triple (env : Env) (caseId : UUID) :
    Prog.Triple (Holds P P) (CasesRouter.getCase env user caseId)
      (fun a s => a.OwnedBy user ∧ Holds P P s) fun _ => Holds P P := by
  refine (get_triple user env.x caseId).bind fun a => Prog.Triple.assume fun ha => ?_
  refine Prog.Triple.pre (P := Holds P P) ?_ fun _ h => h.weaken fun _ _ h => h.1
  cases a with
  | none => exact Prog.Triple.throw fun _ h => h
  | some c => exact validated_triple user (ha c rfl).2

section Writers

variable {r : CaseRequest}

lemma createCase_triple (env : Env) {data : CaseCreate}
    (hP : ∀ cases o cases', P cases o → CaseTableStep py user cases (.create data) cases' →
      P cases' o) :
    Prog.Triple (Holds P P) (CasesRouter.createCase env user data)
      (fun a s => a.OwnedBy user ∧ Holds P P s) fun _ => Holds P P := by
  have hcreate : Prog.Triple (Holds P P) (CaseRepository.create env.x user data)
      (fun c s => c = CaseRepository.newCase env.x user data ∧ Holds P P s) fun _ => Holds P P := by
    refine (caseWrite_triple _ _ fun cases o h hacc =>
      hP cases o _ h (.create env.x hacc)).bind fun _ => ?_
    refine (caseCommit_triple _ fun _ _ h => h).bind fun _ => ?_
    refine (caseQuery_triple _ _).bind fun _ => ?_
    exact Prog.Triple.pure fun _ h => ⟨rfl, h.2.weaken fun _ _ h => h.1⟩
  refine hcreate.bind fun c => Prog.Triple.assume ?_
  rintro rfl
  exact validated_triple user ⟨rfl, rfl⟩

lemma updateCase_triple (env : Env) {caseId : UUID} {data : CaseUpdate}
    (hP : ∀ cases o cases', P cases o → CaseTableStep py user cases (.update caseId data) cases' →
      P cases' o) :
    Prog.Triple (Holds P P) (CasesRouter.updateCase py env user caseId data)
      (fun a s => a.OwnedBy user ∧ Holds P P s) fun _ => Holds P P := by
  have hupdate : Prog.Triple (Holds P P) (CaseRepository.update py env.x caseId user data)
      (fun a s => (∀ c, a = some c → c.ownerId = some user ∧ c.live = true) ∧ Holds P P s)
      fun _ => Holds P P := by
    refine (get_triple user env.x caseId).bind fun a => Prog.Triple.assume fun ha => ?_
    cases a with
    | none => exact Prog.Triple.pure fun _ h => ⟨nofun, h.weaken fun _ _ h => h.1⟩
    | some loaded =>
      obtain ⟨hid, howner, hlive⟩ := ha loaded rfl
      -- the row is still the user's when it is read again
      have hset : ∀ {cases : Table Case}, loaded.OwnedIn user cases → ∀ c ∈ CaseWrite.apply cases
          (.update loaded.id (data.change py loaded) env.x.now), c.id = loaded.id →
            c.ownerId = some user ∧ c.live = true := by
        intro cases hloaded c hc hcid
        obtain ⟨c₀, hc₀, rfl⟩ := (Table.mem_modify
          ((data.change py loaded).set env.x.now) fun _ => rfl).mp hc
        split at hcid
        · rename_i hpk
          rw [if_pos hpk, Table.eq_of_pk_eq hc₀ hloaded.mem hpk]
          exact ⟨howner, hlive⟩
        · exact absurd hcid ‹_›
      have hflush : Prog.Triple
          (Holds P fun cases o => P cases o ∧ ∀ c, some loaded = some c → c.OwnedIn user cases)
          (CaseRepository.flushChange env.x loaded.id (data.change py loaded))
          (fun _ => Holds P fun cases o => P cases o ∧ ∀ c ∈ cases, c.id = loaded.id →
            c.ownerId = some user ∧ c.live = true) fun _ => Holds P P := by
        unfold CaseRepository.flushChange
        split
        · refine Prog.Triple.pure fun _ h => h.weaken fun cases o h => ⟨h.1, fun c hc hcid => ?_⟩
          rw [Table.eq_of_pk_eq hc (h.2 loaded rfl).mem hcid]
          exact ⟨howner, hlive⟩
        · exact caseWrite_triple _ _ fun cases o h hacc =>
            ⟨hP cases o _ h.1 (.update loaded (h.2 loaded rfl) hid env.x.now hacc),
              hset (h.2 loaded rfl)⟩
      refine hflush.bind fun _ => (caseCommit_triple _ fun _ _ h => h.1).bind fun _ => ?_
      refine (caseQuery_triple _ _).post (fun a s h => ⟨?_, h.2.weaken fun _ _ h => h.1.1⟩)
        fun _ _ h => h
      obtain ⟨⟨cases₀, o, ⟨-, hrows⟩, rfl⟩, -⟩ := h
      intro c hc
      obtain ⟨hmem, hkey⟩ := Table.find_eq_some_iff.mp hc
      exact hrows c hmem hkey
  refine hupdate.bind fun a => Prog.Triple.assume fun ha => ?_
  cases a with
  | none => exact Prog.Triple.throw fun _ h => h
  | some c => exact validated_triple user (ha c rfl)

lemma deleteCase_triple (env : Env) {caseId : UUID}
    (hP : ∀ cases o cases', P cases o → CaseTableStep py user cases (.delete caseId) cases' →
      P cases' o) :
    Prog.Triple (Holds P P) (CasesRouter.deleteCase env user caseId)
      (fun a s => a.OwnedBy user ∧ Holds P P s) fun _ => Holds P P := by
  have hdelete : Prog.Triple (Holds P P) (CaseRepository.softDelete env.x caseId user)
      (fun _ => Holds P P) fun _ => Holds P P := by
    refine (get_triple user env.x caseId).bind fun a => Prog.Triple.assume fun ha => ?_
    cases a with
    | none => exact Prog.Triple.pure fun _ h => h.weaken fun _ _ h => h.1
    | some c =>
      refine (caseWrite_triple _ _ fun cases o h hacc =>
        hP cases o _ h.1 (.delete c (h.2 c rfl) (ha c rfl).1 env.x.now)).bind fun _ => ?_
      exact (caseCommit_triple _ fun _ _ h => h).bind fun _ => Prog.Triple.pure fun _ h => h
  refine hdelete.bind fun ok => ?_
  unfold deleted
  split
  · exact Prog.Triple.throw fun _ h => h
  · exact Prog.Triple.pure fun _ h => ⟨trivial, h⟩

end Writers

/-- **The specification of a request.** It keeps what its step on the table keeps, whatever raises,
and answers with live cases of the user. -/
theorem endpoint_triple (env : Env) (r : CaseRequest)
    (hP : ∀ cases o cases', P cases o → CaseTableStep py user cases r cases' → P cases' o) :
    Prog.Triple (Holds P P) (r.endpoint py env user) (fun a s => a.OwnedBy user ∧ Holds P P s)
      fun _ => Holds P P := by
  cases r with
  | create data => exact createCase_triple py user env hP
  | list status limit offset => exact listCases_triple user env status limit offset
  | get caseId => exact getCase_triple user env caseId
  | update caseId data => exact updateCase_triple py user env hP
  | delete caseId => exact deleteCase_triple py user env hP

/-- What the endpoint keeps is what the request leaves. -/
lemma exec_of_endpoint {app : App} {env : Env} {r : CaseRequest} {φ : Answer → Prop}
    (hendpoint : Prog.Triple (Holds P P) (r.endpoint py env user) (fun a s => φ a ∧ Holds P P s)
      fun _ => Holds P P)
    {db : Database} (hdb : P db.cases ()) :
    P ((Request.cases r).exec py app env user db).2.cases () ∧
      ∀ a, ((Request.cases r).exec py app env user db).1 = .ok a → φ a := by
  have hsession : Prog.Triple (Holds P P) (withSession env.finish (r.endpoint py env user))
      (fun a s => φ a ∧ Holds P P s) fun _ => Holds P P :=
    (Holds.rollingBack hendpoint).bind fun _ =>
      Prog.Triple.assume fun ha => (caseCommit_triple env.finish fun _ _ h => h).bind
        fun _ => Prog.Triple.pure fun _ h => ⟨ha, h⟩
  have hstart : Holds P P (openSession db.cases () : Session (Table Case) CaseWrite Unit) :=
    ⟨hdb, fun _ => hdb⟩
  simp only [Request.exec]
  cases hres : withSession env.finish (r.endpoint py env user) (openSession db.cases ()) with
  | mk res s =>
    cases res with
    | ok a =>
      obtain ⟨ha, hs⟩ := hsession.ok hstart hres
      refine ⟨hs.committed, fun a' ha' => ?_⟩
      cases ha'
      exact ha
    | error e => exact ⟨(hsession.error hstart hres).committed, nofun⟩

/-- A request keeps what its step on the table keeps, and answers with live cases of the user. -/
theorem exec_keeps (app : App) (env : Env) (r : CaseRequest)
    (hP : ∀ cases o cases', P cases o → CaseTableStep py user cases r cases' → P cases' o)
    {db : Database} (hdb : P db.cases ()) :
    P ((Request.cases r).exec py app env user db).2.cases () ∧
      ∀ a, ((Request.cases r).exec py app env user db).1 = .ok a → a.OwnedBy user :=
  exec_of_endpoint py user (r.endpoint_triple py user env hP) hdb

end CaseRequest

end Sleuthgraph
