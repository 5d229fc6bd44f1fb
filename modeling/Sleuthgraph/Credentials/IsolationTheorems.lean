import Sleuthgraph.Credentials.VaultTheorems

/-!
# Users do not disturb each other

What a request does to the table is one of four steps (`CredentialInput.Step`). A step of one user
leaves the rows of the others as they are, and a request is answered from the rows of its own user,
so the requests of others can be left out. A row's id is the one thing all users share.
-/

namespace Sleuthgraph

open Programs Transactions Tables Listings

variable {lib : CryptoLib}
variable {s t : CredentialTable} {user : UUID} {p : String} {i : CredentialInput}
variable {rest : List CredentialInput}

lemma find_eq_find_ofUser (t : CredentialTable) (user : UUID) (p : String) :
    t.find (user, p) = (CredentialRepository.ofUser t user).find? fun c => c.pluginName = p := by
  rw [CredentialRepository.ofUser, List.find?_filter, UniqueTable.find]
  congr 1
  funext c
  by_cases huser : c.userId = user <;> by_cases hname : c.pluginName = p <;>
    simp [Credential.owner, huser, hname]

/-- What a request does to the rows: it adds one, seals one anew, drops one, or does nothing. -/
inductive CredentialInput.Step (lib : CryptoLib) (t : CredentialTable) :
    CredentialInput → CredentialTable → Prop
  | same (i : CredentialInput) : Step lib t i t
  | added (env : CredentialEnv) (u : UUID) (q : String) (body : CredentialCreate)
      (hfree : t.free (rowOf lib env u q body) = true) :
      Step lib t ⟨env, u, .store q body⟩ (t.insert (rowOf lib env u q body))
  | resealed (env : CredentialEnv) (u : UUID) (q : String) (body : CredentialCreate)
      (c : Credential) (hfind : t.find (u, q) = some c) :
      Step lib t ⟨env, u, .store q body⟩
        (CredentialWrite.apply t (.setKey c.id (tokenOf lib env body)))
  | removed (env : CredentialEnv) (u : UUID) (q : String) :
      Step lib t ⟨env, u, .remove q⟩ (t.delete (u, q))

lemma CredentialInput.exec_step (i : CredentialInput) (t : CredentialTable) :
    i.Step lib t (i.exec lib t).2 := by
  obtain ⟨env, user, request⟩ := i
  cases request with
  | list =>
    rw [exec_list]
    split <;> exact .same _
  | remove p =>
    by_cases hlost : (env.x.flush || !sendable p) = true
    · rw [exec_remove_lost hlost]
      exact .same _
    · rw [Bool.not_eq_true] at hlost
      cases hfind : t.find (user, p) with
      | none =>
        rw [exec_remove_none hlost hfind]
        exact .same _
      | some c =>
        rw [exec_remove_some hlost hfind]
        split
        · exact .same _
        · exact .removed env user p
  | store p body =>
    by_cases hsent : env.unsent p = true
    · rw [exec_store_unsent hsent]
      exact .same _
    · rw [Bool.not_eq_true] at hsent
      cases hfind : t.find (user, p) with
      | some c =>
        rw [exec_store_found hsent hfind]
        split
        · exact .same _
        · exact .resealed env user p body c hfind
      | none =>
        rw [exec_store_new hsent hfind]
        split
        · exact .same _
        · rename_i hlost
          simp only [Bool.or_eq_true, Bool.not_eq_true', not_or, Bool.not_eq_false] at hlost
          have haccepts := hlost.1.1.2
          simp only [CredentialWrite.accepts, Bool.and_eq_true] at haccepts
          exact .added env user p body haccepts.1.1

/-- A row that is left has an id that was there, or the one that the request has drawn. -/
lemma CredentialInput.Step.id_mem (h : i.Step lib s t) {c : Credential} (hc : c ∈ t) :
    c.id = i.env.x.newId ∨ ∃ c' ∈ s, c'.id = c.id := by
  cases h with
  | same => exact Or.inr ⟨c, hc, rfl⟩
  | added env u q body hfree =>
    rcases (UniqueTable.mem_insert hfree).mp hc with hold | hnew
    · exact Or.inr ⟨c, hold, rfl⟩
    · exact Or.inl (congrArg Credential.id hnew)
  | resealed env u q body c₀ hfind =>
    obtain ⟨c', hc', heq⟩ := List.mem_map.mp hc
    refine Or.inr ⟨c', hc', ?_⟩
    rw [← heq]
    split <;> rfl
  | removed => exact Or.inr ⟨c, (UniqueTable.mem_delete.mp hc).1, rfl⟩

/-! A user's rows after each step. -/

lemma ofUser_insert {c : Credential} (hfree : s.free c = true) (user : UUID) :
    CredentialRepository.ofUser (s.insert c) user
      = CredentialRepository.ofUser s user ++ if c.userId = user then [c] else [] := by
  rw [CredentialRepository.ofUser, UniqueTable.rows_insert hfree, List.filter_append]
  by_cases huser : c.userId = user <;> simp [CredentialRepository.ofUser, huser]

lemma ofUser_setKey (s : CredentialTable) (id : UUID) (token : String) (user : UUID) :
    CredentialRepository.ofUser (CredentialWrite.apply s (.setKey id token)) user
      = (CredentialRepository.ofUser s user).map fun r =>
          if r.id = id then { r with encryptedKey := token } else r := by
  show ((s.rows.map fun r => if r.id = id then { r with encryptedKey := token } else r).filter
    fun c => c.userId = user) = _
  rw [List.filter_map, CredentialRepository.ofUser]
  congr 2
  funext r
  rw [Function.comp_apply]
  split <;> rfl

lemma ofUser_delete (s : CredentialTable) (u : UUID) (q : String) (user : UUID) :
    CredentialRepository.ofUser (s.delete (u, q)) user
      = (CredentialRepository.ofUser s user).filter fun c => c.owner ≠ (u, q) := by
  rw [CredentialRepository.ofUser, UniqueTable.rows_delete, List.filter_filter,
    CredentialRepository.ofUser, List.filter_filter]
  simp only [Bool.and_comm]

/-- The rows of other users stay. -/
lemma CredentialInput.Step.ofUser_eq (h : i.Step lib s t) (hother : i.user ≠ user) :
    CredentialRepository.ofUser t user = CredentialRepository.ofUser s user := by
  cases h with
  | same => rfl
  | added env u q body hfree =>
    have hnot : (rowOf lib env u q body).userId ≠ user := hother
    rw [ofUser_insert hfree, if_neg hnot, List.append_nil]
  | resealed env u q body c hfind =>
    obtain ⟨hc, howner⟩ := UniqueTable.find_eq_some_iff.mp hfind
    rw [ofUser_setKey]
    refine (List.map_congr_left fun r hr => ?_).trans (List.map_id _)
    obtain ⟨hrs, hruser⟩ := List.mem_filter.mp hr
    have hid : r.id ≠ c.id := by
      intro heq
      have hrc : r = c := Table.eq_of_pk_eq hrs hc heq
      exact hother ((congrArg Prod.fst howner).symm.trans (hrc ▸ of_decide_eq_true hruser))
    rw [if_neg hid]
    rfl
  | removed env u q =>
    rw [ofUser_delete]
    refine List.filter_eq_self.mpr fun c hc => decide_eq_true fun howner => ?_
    have hcuser : c.userId = user := of_decide_eq_true (List.mem_filter.mp hc).2
    exact hother ((congrArg Prod.fst howner).symm.trans hcuser)

/-- A user's own request is answered from the user's rows, if the id it draws is new. -/
lemma CredentialInput.exec_ofUser (i : CredentialInput) (lib : CryptoLib)
    (hrows : CredentialRepository.ofUser s i.user = CredentialRepository.ofUser t i.user)
    (hs : s.table.has i.env.x.newId = false) (ht : t.table.has i.env.x.newId = false) :
    (i.exec lib s).1 = (i.exec lib t).1 ∧
      CredentialRepository.ofUser (i.exec lib s).2 i.user
        = CredentialRepository.ofUser (i.exec lib t).2 i.user := by
  obtain ⟨env, user, request⟩ := i
  have hfind : ∀ p, s.find (user, p) = t.find (user, p) := fun p => by
    rw [find_eq_find_ofUser, find_eq_find_ofUser, hrows]
  cases request with
  | list =>
    rw [exec_list, exec_list, hrows]
    split <;> exact ⟨rfl, hrows⟩
  | remove p =>
    by_cases hlost : (env.x.flush || !sendable p) = true
    · rw [exec_remove_lost hlost, exec_remove_lost hlost]
      exact ⟨rfl, hrows⟩
    rw [Bool.not_eq_true] at hlost
    cases ht' : t.find (user, p) with
    | none =>
      rw [exec_remove_none hlost ht', exec_remove_none hlost ((hfind p).trans ht')]
      exact ⟨rfl, hrows⟩
    | some c =>
      rw [exec_remove_some hlost ht', exec_remove_some hlost ((hfind p).trans ht')]
      split
      · exact ⟨rfl, hrows⟩
      · refine ⟨rfl, ?_⟩
        rw [ofUser_delete, ofUser_delete, hrows]
  | store p body =>
    by_cases hsent : env.unsent p = true
    · rw [exec_store_unsent hsent, exec_store_unsent hsent]
      exact ⟨rfl, hrows⟩
    rw [Bool.not_eq_true] at hsent
    cases ht' : t.find (user, p) with
    | some c =>
      rw [exec_store_found hsent ht', exec_store_found hsent ((hfind p).trans ht')]
      split
      · exact ⟨rfl, hrows⟩
      · refine ⟨rfl, ?_⟩
        rw [ofUser_setKey, ofUser_setKey, hrows]
    | none =>
      have hs' := (hfind p).trans ht'
      have hfree : ∀ {t : CredentialTable}, t.table.has env.x.newId = false →
          t.find (user, p) = none → t.free (rowOf lib env user p body) = true :=
        fun hid hnone => UniqueTable.free_iff.mpr ⟨hid, hnone⟩
      have haccepts : CredentialWrite.accepts s (.insert (rowOf lib env user p body))
          = CredentialWrite.accepts t (.insert (rowOf lib env user p body)) := by
        simp only [CredentialWrite.accepts, hfree hs hs', hfree ht ht']
      rw [exec_store_new hsent ht', exec_store_new hsent hs', haccepts]
      split
      · exact ⟨rfl, hrows⟩
      · refine ⟨rfl, ?_⟩
        rw [ofUser_insert (hfree hs hs'), ofUser_insert (hfree ht ht'), hrows]

/-- Two tables that are the same to a user, before the requests that are left. -/
structure VaultAlike (user : UUID) (rest : List CredentialInput) (s t : CredentialTable) :
    Prop where
  rows : CredentialRepository.ofUser s user = CredentialRepository.ofUser t user
  freshLeft : ∀ i ∈ rest, ∀ c ∈ s, c.id ≠ i.env.x.newId
  freshRight : ∀ i ∈ rest, ∀ c ∈ t, c.id ≠ i.env.x.newId
  nodup : (rest.map fun i => i.env.x.newId).Nodup

lemma CredentialInput.Step.fresh (h : i.Step lib s t)
    (hnodup : ((i :: rest).map fun i => i.env.x.newId).Nodup)
    (hs : ∀ j ∈ i :: rest, ∀ c ∈ s, c.id ≠ j.env.x.newId) :
    ∀ j ∈ rest, ∀ c ∈ t, c.id ≠ j.env.x.newId := by
  intro j hj c hc heq
  rcases h.id_mem hc with hnew | ⟨c', hc', hid⟩
  · have hnot := (List.nodup_cons.mp hnodup).1
    exact hnot (List.mem_map.mpr ⟨j, hj, heq.symm.trans hnew⟩)
  · exact hs j (List.mem_cons_of_mem _ hj) c' hc' (hid.trans heq)

lemma VaultAlike.own (h : VaultAlike (i.user) (i :: rest) s t) :
    (i.exec lib s).1 = (i.exec lib t).1 ∧
      VaultAlike i.user rest (i.exec lib s).2 (i.exec lib t).2 := by
  have hnew : ∀ {t : CredentialTable}, (∀ c ∈ t, c.id ≠ i.env.x.newId) →
      t.table.has i.env.x.newId = false := by
    intro t hfresh
    rw [← Bool.not_eq_true, Table.has_iff]
    rintro ⟨c, hc, hid⟩
    exact hfresh c hc hid
  have hfirst : i ∈ i :: rest := List.mem_cons_self
  obtain ⟨hanswer, hrows⟩ := i.exec_ofUser lib h.rows (hnew (h.freshLeft i hfirst))
    (hnew (h.freshRight i hfirst))
  exact ⟨hanswer, hrows, (i.exec_step s).fresh h.nodup h.freshLeft,
    (i.exec_step t).fresh h.nodup h.freshRight, (List.nodup_cons.mp h.nodup).2⟩

lemma VaultAlike.other (h : VaultAlike user (i :: rest) s t) (hother : i.user ≠ user) :
    VaultAlike user rest (i.exec lib s).2 t where
  rows := ((i.exec_step s).ofUser_eq hother).trans h.rows
  freshLeft := (i.exec_step s).fresh h.nodup h.freshLeft
  freshRight := fun j hj => h.freshRight j (List.mem_cons_of_mem _ hj)
  nodup := (List.nodup_cons.mp h.nodup).2

/-- **Users do not disturb each other.** The answers to a user's requests are those that the user
would get if nobody else used the vault, as long as no two requests draw the same id. -/
theorem vault_isolates (inputs : List CredentialInput)
    (hids : (inputs.map fun i => i.env.x.newId).Nodup) (user : UUID) :
    ((vaultHistory lib inputs).filter fun h => h.1.user = user).map Prod.snd
      = (vaultRun lib (inputs.filter fun i => i.user = user)).1 := by
  have hstart : VaultAlike user inputs .empty .empty :=
    ⟨rfl, fun i _ c hc => by simp [UniqueTable.mem_iff, UniqueTable.rows_empty] at hc,
      fun i _ c hc => by simp [UniqueTable.mem_iff, UniqueTable.rows_empty] at hc, hids⟩
  refine Systems.answers_filter (fun i => decide (i.user = user)) ?_ ?_ inputs hstart
  · intro i rest s t halike hmine
    have huser : i.user = user := of_decide_eq_true hmine
    subst huser
    exact halike.own
  · intro i rest s t halike hmine
    exact halike.other (of_decide_eq_false hmine)

theorem vault_isolates_replaced :
    ((vaultHistory openLib threeStores).filter fun h => h.1.user = 1).map Prod.snd
      = (vaultRun openLib (threeStores.filter fun i => i.user = 1)).1 :=
  vault_isolates threeStores (by decide) 1

end Sleuthgraph
