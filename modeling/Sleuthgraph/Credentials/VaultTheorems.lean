import Sleuthgraph.Credentials.Repository
import Sleuthgraph.Plugins.RunnerTheorems

/-!
# The vault is a map

One request does one thing to the table, or raises and leaves it as it was (`exec_store_found` and
its companions). So the table refines a map from users and plugins to what is stored for them, and
the answers are those of the map, whatever other users do.
-/

namespace Sleuthgraph

open Programs Transactions Tables Listings

variable {lib : CryptoLib}

lemma scalarOneOrNone_toList {α : Type} (o : Option α) : scalarOneOrNone o.toList = .ok o := by
  cases o <;> rfl

/-! ## What a request does -/

namespace CredentialRepository

variable {t : CredentialTable} {user : UUID} {p : String} {x : Ext}
variable {s : Session CredentialTable CredentialWrite Unit}

lemma ofOwner_eq (t : CredentialTable) (user : UUID) (p : String) :
    ofOwner t user p = (t.find (user, p)).toList := t.filter_key (user, p)

/-- The select finds the one row there can be. -/
lemma select_apply (user : UUID) (hs : s.failed = false)
    (hlost : (x.lookup || !sendable p) = false) :
    select x user p s = (.ok (s.work.find (user, p)), s) := by
  have hquery : (query (x.lookup || !sendable p) fun t => ofOwner t user p :
      CredentialDb (List Credential)) s = (.ok (ofOwner s.work user p), s) := by
    rw [hlost]
    exact query_apply hs _
  rw [select, Prog.bind_apply_ok hquery, ofOwner_eq, scalarOneOrNone_toList]
  rfl

lemma select_lost (user : UUID) (hs : s.failed = false) (hlost : (x.lookup || !sendable p) = true) :
    select x user p s = (.error Exc.dbApiError, { s with failed := true }) := by
  have hquery : (query (x.lookup || !sendable p) fun t => ofOwner t user p :
      CredentialDb (List Credential)) s = (.error Exc.dbApiError, { s with failed := true }) := by
    rw [hlost]
    exact query_lost hs _
  rw [select, Prog.bind_apply_error hquery]

lemma lookup_none {secretKey : String} (h : t.find (user, p) = none) :
    lookup lib secretKey t user p = .ok none := by
  rw [lookup, ofOwner_eq, h]
  rfl

lemma lookup_some {secretKey : String} {c : Credential} (h : t.find (user, p) = some c) :
    lookup lib secretKey t user p = (decryptKey lib secretKey c.encryptedKey).map some := by
  rw [lookup, ofOwner_eq, h]
  show (decryptKey lib secretKey c.encryptedKey >>= fun k => .ok (some k)) = _
  cases hkey : decryptKey lib secretKey c.encryptedKey <;> rfl

end CredentialRepository

namespace CredentialInput

variable {t : CredentialTable} {i : CredentialInput} {a : CredentialAnswer} {e : Exc}
variable {s : Session CredentialTable CredentialWrite Unit}

lemma exec_of_error (h : i.request.endpoint lib i.env i.user (openSession t ()) = (.error e, s))
    (hs : s.committed = t) : i.exec lib t = (.error e, t) := by
  rw [exec, withSession_error h]
  exact congrArg _ hs

lemma exec_of_ok (h : i.request.endpoint lib i.env i.user (openSession t ()) = (.ok a, s))
    (hs : s.failed = false) (hcommitted : s.committed = t) :
    i.exec lib t = if i.env.finish then (.error Exc.dbApiError, t) else (.ok a, s.work) := by
  cases hfinish : i.env.finish with
  | true =>
    rw [exec, hfinish, withSession_lost h hs]
    exact congrArg _ hcommitted
  | false =>
    rw [exec, hfinish, withSession_ok h hs]
    rfl

end CredentialInput

/-! ### Storing -/

section Store

variable {t : CredentialTable} {user : UUID} {p : String} {env : CredentialEnv}
variable {body : CredentialCreate} {c : Credential}

/-- The ciphertext of a request. -/
def tokenOf (lib : CryptoLib) (env : CredentialEnv) (body : CredentialCreate) : String :=
  CredentialRepository.encryptKey lib env.secretKey env.draw body.apiKey

/-- The row that a request would add. -/
def rowOf (lib : CryptoLib) (env : CredentialEnv) (user : UUID) (p : String)
    (body : CredentialCreate) : Credential :=
  CredentialRepository.newCredential env.x user p (tokenOf lib env body)

/-- The select of the request is lost. -/
def CredentialEnv.unsent (env : CredentialEnv) (p : String) : Bool := env.x.lookup || !sendable p

lemma exec_store_unsent (h : env.unsent p = true) :
    (⟨env, user, .store p body⟩ : CredentialInput).exec lib t = (.error Exc.dbApiError, t) := by
  have hselect := CredentialRepository.select_lost (s := openSession t ()) user rfl h
  refine CredentialInput.exec_of_error (s := { openSession t () with failed := true }) ?_ rfl
  show CredentialsRouter.storeKey lib env user p body _ = _
  rw [CredentialsRouter.storeKey, CredentialRepository.storeCredential]
  exact Prog.bind_apply_error (Prog.bind_apply_error hselect)

section Tail

variable {m : CredentialDb Unit} (row : Credential) {x : Ext}
variable {s s' : Session CredentialTable CredentialWrite Unit}

/-- The end of `store_credential`: a statement that writes, and the refresh. -/
lemma store_tail_ok (hm : m s = (.ok (), s')) (hs' : s'.failed = false) (hx : x.refresh = false) :
    (do
      m
      query x.refresh fun _ => ()
      pure row : CredentialDb Credential) s = (.ok row, s') := by
  rw [Prog.bind_apply_ok hm, hx]
  exact Prog.bind_apply_ok (query_apply hs' _)

lemma store_tail_lost (hm : m s = (.ok (), s')) (hs' : s'.failed = false) (hx : x.refresh = true) :
    (do
      m
      query x.refresh fun _ => ()
      pure row : CredentialDb Credential) s
        = (.error Exc.dbApiError, { s' with failed := true }) := by
  rw [Prog.bind_apply_ok hm, hx]
  exact Prog.bind_apply_error (query_lost hs' _)

end Tail

/-- The row to replace is written, unless its key is the same or the statement is lost. -/
lemma flushKey_apply (hfind : t.find (user, p) = some c) (x : Ext) (token : String) :
    CredentialRepository.flushKey x c token (openSession t ())
      = if decide (c.encryptedKey ≠ token) && (x.flush || !sendable token)
        then (.error Exc.dbApiError, { openSession t () with failed := true })
        else (.ok (), (openSession t ()).extend
          (if c.encryptedKey = token then [] else [.setKey c.id token])) := by
  have hhas : t.table.has c.id = true :=
    Table.has_iff.mpr ⟨c, (UniqueTable.find_eq_some_iff.mp hfind).1, rfl⟩
  unfold CredentialRepository.flushKey
  by_cases hsame : c.encryptedKey = token
  · simp only [hsame, if_true, ne_eq, not_true_eq_false, decide_false, Bool.false_and,
      Bool.false_eq_true, if_false, Session.extend_nil]
    rfl
  · have haccepts : CredentialWrite.accepts t (.setKey c.id token) = sendable token := by
      simp [CredentialWrite.accepts, hhas]
    simp only [hsame, if_false, ne_eq, not_false_eq_true, decide_true, Bool.true_and]
    by_cases hlost : (x.flush || !sendable token) = true
    · rw [if_pos hlost]
      refine write_refused rfl ?_
      show (x.flush || !CredentialWrite.accepts t (.setKey c.id token)) = true
      rw [haccepts]
      exact hlost
    · rw [if_neg hlost]
      simp only [Bool.or_eq_true, Bool.not_eq_true', not_or, Bool.not_eq_true, Bool.not_eq_false]
        at hlost
      rw [hlost.1]
      exact write_apply rfl (haccepts.trans hlost.2)

/-- Writing the key that is there changes nothing. -/
lemma apply_setKey_same (hfind : t.find (user, p) = some c) :
    CredentialWrite.apply t (.setKey c.id c.encryptedKey) = t := by
  have hc := (UniqueTable.find_eq_some_iff.mp hfind).1
  refine UniqueTable.ext_rows ?_
  show (t.rows.map fun r =>
    if r.id = c.id then { r with encryptedKey := c.encryptedKey } else r) = _
  refine (List.map_congr_left fun r hr => ?_).trans (List.map_id _)
  split
  · rename_i hid
    have hrc : r = c := Table.eq_of_pk_eq hr hc hid
    rw [hrc]
    rfl
  · rfl

/-- A key that replaces another one. -/
lemma exec_store_found (hsent : env.unsent p = false) (hfind : t.find (user, p) = some c) :
    (⟨env, user, .store p body⟩ : CredentialInput).exec lib t
      = if decide (c.encryptedKey ≠ tokenOf lib env body)
            && (env.x.flush || !sendable (tokenOf lib env body)) || env.x.refresh || env.finish
        then (.error Exc.dbApiError, t)
        else (.ok (.stored ⟨p, c.createdAt⟩),
          CredentialWrite.apply t (.setKey c.id (tokenOf lib env body))) := by
  have hname : c.pluginName = p := congrArg Prod.snd (UniqueTable.find_eq_some_iff.mp hfind).2
  have hselect := CredentialRepository.select_apply (s := openSession t ()) user rfl hsent
  rw [show (openSession t () : Session CredentialTable CredentialWrite Unit).work = t from rfl,
    hfind] at hselect
  have hflush := flushKey_apply hfind env.x (tokenOf lib env body)
  generalize htoken : tokenOf lib env body = token at hflush ⊢
  -- the endpoint is the select, the statement that writes, and the refresh
  have hendpoint : CredentialRequest.endpoint lib env user (.store p body) (openSession t ())
      = ((do
          CredentialRepository.flushKey env.x c token
          query env.x.refresh fun _ => ()
          pure { c with encryptedKey := token } : CredentialDb Credential) >>= fun cred =>
        pure (.stored (CredentialRead.validate cred))) (openSession t ()) := by
    show CredentialsRouter.storeKey lib env user p body _ = _
    rw [CredentialsRouter.storeKey, CredentialRepository.storeCredential, Prog.bind_apply,
      Prog.bind_apply_ok hselect, Prog.bind_apply, ← htoken]
    rfl
  by_cases hlost : (decide (c.encryptedKey ≠ token) && (env.x.flush || !sendable token)) = true
  · rw [if_pos hlost] at hflush
    rw [hlost, Bool.true_or, Bool.true_or, if_pos rfl]
    exact CredentialInput.exec_of_error (s := { openSession t () with failed := true })
      (hendpoint.trans (Prog.bind_apply_error (Prog.bind_apply_error hflush))) rfl
  · rw [if_neg hlost] at hflush
    rw [Bool.not_eq_true] at hlost
    rw [hlost, Bool.false_or]
    cases hrefresh : env.x.refresh with
    | true =>
      rw [Bool.true_or, if_pos rfl]
      have htail := store_tail_lost { c with encryptedKey := token } hflush rfl hrefresh
      exact CredentialInput.exec_of_error (hendpoint.trans (Prog.bind_apply_error htail)) rfl
    | false =>
      have htail := store_tail_ok { c with encryptedKey := token } hflush rfl hrefresh
      rw [Bool.false_or]
      refine (CredentialInput.exec_of_ok (t := t) (hendpoint.trans (Prog.bind_apply_ok htail)) rfl
        rfl).trans ?_
      have hwork : ((openSession t () : Session CredentialTable CredentialWrite Unit).extend
          (if c.encryptedKey = token then [] else [.setKey c.id token])).work
            = CredentialWrite.apply t (.setKey c.id token) := by
        rw [Session.work_extend]
        split
        · rename_i hsame
          exact hsame ▸ (apply_setKey_same hfind).symm
        · rfl
      rw [hwork, CredentialRead.validate, hname]

/-- A key for a plugin that had none. -/
lemma exec_store_new (hsent : env.unsent p = false) (hfind : t.find (user, p) = none) :
    (⟨env, user, .store p body⟩ : CredentialInput).exec lib t
      = if env.x.flush || !CredentialWrite.accepts t (.insert (rowOf lib env user p body))
            || env.x.refresh || env.finish
        then (.error Exc.dbApiError, t)
        else (.ok (.stored ⟨p, env.x.now⟩), t.insert (rowOf lib env user p body)) := by
  have hselect := CredentialRepository.select_apply (s := openSession t ()) user rfl hsent
  rw [show (openSession t () : Session CredentialTable CredentialWrite Unit).work = t from rfl,
    hfind] at hselect
  have hendpoint : CredentialRequest.endpoint lib env user (.store p body) (openSession t ())
      = ((do
          write env.x.flush (.insert (rowOf lib env user p body))
          query env.x.refresh fun _ => ()
          pure (rowOf lib env user p body) : CredentialDb Credential) >>= fun cred =>
        pure (.stored (CredentialRead.validate cred))) (openSession t ()) := by
    show CredentialsRouter.storeKey lib env user p body _ = _
    rw [CredentialsRouter.storeKey, CredentialRepository.storeCredential, Prog.bind_apply,
      Prog.bind_apply_ok hselect, Prog.bind_apply]
    rfl
  by_cases hlost :
      (env.x.flush || !CredentialWrite.accepts t (.insert (rowOf lib env user p body))) = true
  · have hwrite : (write env.x.flush (.insert (rowOf lib env user p body)) : CredentialDb Unit)
        (openSession t ()) = (.error Exc.dbApiError, { openSession t () with failed := true }) :=
      write_refused rfl hlost
    rw [hlost, Bool.true_or, Bool.true_or, if_pos rfl]
    exact CredentialInput.exec_of_error (s := { openSession t () with failed := true })
      (hendpoint.trans (Prog.bind_apply_error (Prog.bind_apply_error hwrite))) rfl
  · rw [Bool.not_eq_true] at hlost
    have hsplit := hlost
    rw [Bool.or_eq_false_iff, Bool.not_eq_false'] at hsplit
    have hwrite : (write env.x.flush (.insert (rowOf lib env user p body)) : CredentialDb Unit)
        (openSession t ())
          = (.ok (), (openSession t ()).extend [.insert (rowOf lib env user p body)]) := by
      rw [hsplit.1]
      exact write_apply rfl hsplit.2
    rw [hlost, Bool.false_or]
    cases hrefresh : env.x.refresh with
    | true =>
      rw [Bool.true_or, if_pos rfl]
      have htail := store_tail_lost (rowOf lib env user p body) hwrite rfl hrefresh
      exact CredentialInput.exec_of_error (hendpoint.trans (Prog.bind_apply_error htail)) rfl
    | false =>
      rw [Bool.false_or]
      have htail := store_tail_ok (rowOf lib env user p body) hwrite rfl hrefresh
      have hdone := CredentialInput.exec_of_ok (i := ⟨env, user, .store p body⟩)
        (hendpoint.trans (Prog.bind_apply_ok htail)) rfl rfl
      exact hdone

end Store

/-! ### Listing and removing -/

section Others

variable {t : CredentialTable} {user : UUID} {p : String} {env : CredentialEnv} {c : Credential}

lemma exec_list :
    (⟨env, user, .list⟩ : CredentialInput).exec lib t
      = if env.x.lookup || env.finish then (.error Exc.dbApiError, t)
        else (.ok (.listed ((env.order.arrange (CredentialRepository.ofUser t user)).map
          CredentialRead.validate)), t) := by
  cases hlookup : env.x.lookup with
  | true =>
    have hquery : CredentialRepository.listCredentials env.x env.order user (openSession t ())
        = (.error Exc.dbApiError, { openSession t () with failed := true }) := by
      rw [CredentialRepository.listCredentials, hlookup]
      exact query_lost rfl _
    have hendpoint : CredentialRequest.endpoint lib env user .list (openSession t ())
        = (.error Exc.dbApiError, { openSession t () with failed := true }) :=
      Prog.bind_apply_error hquery
    rw [Bool.true_or, if_pos rfl]
    exact CredentialInput.exec_of_error hendpoint rfl
  | false =>
    have hquery : CredentialRepository.listCredentials env.x env.order user (openSession t ())
        = (.ok (env.order.arrange (CredentialRepository.ofUser t user)), openSession t ()) := by
      rw [CredentialRepository.listCredentials, hlookup]
      exact query_apply rfl _
    have hendpoint : CredentialRequest.endpoint lib env user .list (openSession t ())
        = (.ok (.listed ((env.order.arrange (CredentialRepository.ofUser t user)).map
            CredentialRead.validate)), openSession t ()) := Prog.bind_apply_ok hquery
    have hdone := CredentialInput.exec_of_ok (i := ⟨env, user, .list⟩) hendpoint rfl rfl
    rw [Bool.false_or]
    exact hdone

/-- What `delete_credential` does when its statement gets through. -/
lemma deleteCredential_apply (t : CredentialTable) (user : UUID)
    (hflush : env.x.flush = false) (hp : sendable p = true) :
    CredentialRepository.deleteCredential env.x user p (openSession t ())
      = (.ok (t.find (user, p)).isSome, (openSession t ()).extend [.delete user p]) := by
  have hquery : (query env.x.flush fun t => (CredentialRepository.ofOwner t user p).length :
      CredentialDb ℕ) (openSession t ())
        = (.ok (CredentialRepository.ofOwner t user p).length, openSession t ()) := by
    rw [hflush]
    exact query_apply rfl _
  have hwrite : (write false (.delete user p) : CredentialDb Unit) (openSession t ())
      = (.ok (), (openSession t ()).extend [.delete user p]) := write_apply rfl hp
  have hcount : decide (0 < (CredentialRepository.ofOwner t user p).length)
      = (t.find (user, p)).isSome := by
    rw [CredentialRepository.ofOwner_eq]
    cases t.find (user, p) <;> rfl
  rw [CredentialRepository.deleteCredential, Prog.bind_apply_ok hquery, Prog.bind_apply_ok hwrite,
    hcount]
  rfl

lemma deleteCredential_lost (t : CredentialTable) (user : UUID)
    (hlost : (env.x.flush || !sendable p) = true) :
    ∃ s, CredentialRepository.deleteCredential env.x user p (openSession t ())
      = (.error Exc.dbApiError, s) ∧ s.committed = t := by
  cases hflush : env.x.flush with
  | true =>
    have hquery : (query env.x.flush fun t => (CredentialRepository.ofOwner t user p).length :
        CredentialDb ℕ) (openSession t ())
          = (.error Exc.dbApiError, { openSession t () with failed := true }) := by
      rw [hflush]
      exact query_lost rfl _
    exact ⟨_, Prog.bind_apply_error hquery, rfl⟩
  | false =>
    rw [hflush, Bool.false_or] at hlost
    have hquery : (query env.x.flush fun t => (CredentialRepository.ofOwner t user p).length :
        CredentialDb ℕ) (openSession t ())
          = (.ok (CredentialRepository.ofOwner t user p).length, openSession t ()) := by
      rw [hflush]
      exact query_apply rfl _
    have hwrite : (write false (.delete user p) : CredentialDb Unit) (openSession t ())
        = (.error Exc.dbApiError, { openSession t () with failed := true }) :=
      write_refused rfl hlost
    exact ⟨_, (Prog.bind_apply_ok hquery).trans (Prog.bind_apply_error hwrite), rfl⟩

lemma exec_remove_lost (hlost : (env.x.flush || !sendable p) = true) :
    (⟨env, user, .remove p⟩ : CredentialInput).exec lib t = (.error Exc.dbApiError, t) := by
  obtain ⟨s, hdelete, hs⟩ := deleteCredential_lost t user hlost
  have hendpoint : CredentialRequest.endpoint lib env user (.remove p) (openSession t ())
      = (.error Exc.dbApiError, s) := Prog.bind_apply_error hdelete
  exact CredentialInput.exec_of_error hendpoint hs

lemma exec_remove_none (hlost : (env.x.flush || !sendable p) = false)
    (hfind : t.find (user, p) = none) :
    (⟨env, user, .remove p⟩ : CredentialInput).exec lib t
      = (.error (Exc.http 404 "credential not found"), t) := by
  rw [Bool.or_eq_false_iff, Bool.not_eq_false'] at hlost
  have hdelete := deleteCredential_apply t user hlost.1 hlost.2
  rw [hfind] at hdelete
  have hendpoint : CredentialRequest.endpoint lib env user (.remove p) (openSession t ())
      = (.error (Exc.http 404 "credential not found"),
        (openSession t ()).extend [.delete user p]) :=
    Prog.bind_apply_ok hdelete
  exact CredentialInput.exec_of_error hendpoint rfl

lemma exec_remove_some (hlost : (env.x.flush || !sendable p) = false)
    (hfind : t.find (user, p) = some c) :
    (⟨env, user, .remove p⟩ : CredentialInput).exec lib t
      = if env.finish then (.error Exc.dbApiError, t)
        else (.ok .noContent, t.delete (user, p)) := by
  rw [Bool.or_eq_false_iff, Bool.not_eq_false'] at hlost
  have hdelete := deleteCredential_apply t user hlost.1 hlost.2
  rw [hfind] at hdelete
  have hendpoint : CredentialRequest.endpoint lib env user (.remove p) (openSession t ())
      = (.ok .noContent, (openSession t ()).extend [.delete user p]) := Prog.bind_apply_ok hdelete
  have hdone := CredentialInput.exec_of_ok (i := ⟨env, user, .remove p⟩) hendpoint rfl rfl
  exact hdone

end Others

/-! ## The map -/

/-- What is kept for a user and a plugin: the key, what it is sealed with, and the columns of the
row that stay. -/
structure Kept where
  id : UUID
  sealedWith : List Char
  apiKey : String
  createdAt : Time

/-- A map from users and plugins to what is kept for them. -/
abbrev Vault := UUID → String → Option Kept

/-- A statement of the request is lost. -/
def CredentialEnv.Troubled (env : CredentialEnv) : Prop :=
  env.x.lookup = true ∨ env.x.flush = true ∨ env.x.refresh = true ∨ env.finish = true

namespace Vault

def empty : Vault := fun _ _ => none

def set (v : Vault) (user : UUID) (p : String) (kept : Option Kept) : Vault := fun u q =>
  if u = user ∧ q = p then kept else v u q

/-- The vault after a request that went through. -/
def after (lib : CryptoLib) (v : Vault) (i : CredentialInput) : Vault :=
  match i.request with
  | .store p body => v.set i.user p (some
      { id := (v i.user p).elim i.env.x.newId Kept.id
        sealedWith := fernetKey lib i.env.secretKey
        apiKey := body.apiKey
        createdAt := (v i.user p).elim i.env.x.now Kept.createdAt })
  | .list => v
  | .remove p => v.set i.user p none

/-- What a request that goes through is answered. -/
def Answers (v : Vault) (i : CredentialInput) (a : CredentialAnswer) : Prop :=
  match i.request with
  | .store p _ => a = .stored ⟨p, (v i.user p).elim i.env.x.now Kept.createdAt⟩
  | .list => ∃ items, a = .listed items ∧ items.Nodup ∧
      (items.Pairwise fun r r' => r'.createdAt ≤ r.createdAt) ∧
      ∀ r, r ∈ items ↔ ∃ kept, v i.user r.pluginName = some kept ∧ kept.createdAt = r.createdAt
  | .remove p => a = .noContent ∧ (v i.user p).isSome = true

/-- Why a request does not go through. -/
def Refuses (lib : CryptoLib) (v : Vault) (i : CredentialInput) (e : Exc) : Prop :=
  match i.request with
  | .store p body => e = Exc.dbApiError ∧ (i.env.Troubled ∨ fitsColumn 128 p = false ∨
      sendable (tokenOf lib i.env body) = false ∨ ∃ u q kept, v u q = some kept ∧
        kept.id = i.env.x.newId)
  | .list => e = Exc.dbApiError ∧ i.env.Troubled
  | .remove p => e = Exc.http 404 "credential not found" ∧ v i.user p = none ∨
      e = Exc.dbApiError ∧ (i.env.Troubled ∨ sendable p = false)

/-- Requests with what came of them, from the first one on. -/
abbrev History := List (CredentialInput × Except Exc CredentialAnswer)

/-- The vault after a history: only what went through counts. -/
def afterAll (lib : CryptoLib) : Vault → History → Vault
  | v, [] => v
  | v, (i, .ok _) :: rest => afterAll lib (v.after lib i) rest
  | v, (_, .error _) :: rest => afterAll lib v rest

/-- The vault gives every answer of a history, and has a reason for every error. -/
def Explains (lib : CryptoLib) : Vault → History → Prop
  | _, [] => True
  | v, (i, .ok a) :: rest => v.Answers i a ∧ Explains lib (v.after lib i) rest
  | v, (i, .error e) :: rest => v.Refuses lib i e ∧ Explains lib v rest

/-- What a plugin of the user is called with. -/
def credentials (lib : CryptoLib) (v : Vault) (secretKey : String) (user : UUID) (p : String) :
    Except Exc (Option PyDict) :=
  match v user p with
  | none => .error (Exc.pluginCredentialMissing ("No API key stored for " ++ p
      ++ ". Store one via POST /credentials/" ++ p))
  | some kept => if kept.sealedWith = fernetKey lib secretKey
    then .ok (some [("api_key", .str kept.apiKey)]) else .error Exc.fernetInvalidToken

end Vault

/-- A row holds what is kept. -/
structure Credential.Seals (lib : CryptoLib) (c : Credential) (kept : Kept) : Prop where
  id : c.id = kept.id
  createdAt : c.createdAt = kept.createdAt
  token : ∃ draw, c.encryptedKey = lib.encrypt kept.sealedWith draw (utf8 kept.apiKey.toList)

/-- The table holds the vault. -/
def Refines (lib : CryptoLib) (t : CredentialTable) (v : Vault) : Prop :=
  ∀ user p, Option.Rel (Credential.Seals lib) (t.find (user, p)) (v user p)

section Refinement

variable {t : CredentialTable} {v : Vault} {user : UUID} {p : String} {i : CredentialInput}

lemma Refines.empty : Refines lib .empty Vault.empty := fun _ _ => .none

lemma Refines.none_iff (h : Refines lib t v) : t.find (user, p) = none ↔ v user p = none := by
  have hrel := h user p
  constructor
  · intro ht
    rw [ht] at hrel
    cases hv : v user p with
    | none => rfl
    | some kept =>
      rw [hv] at hrel
      cases hrel
  · intro hv
    rw [hv] at hrel
    cases ht : t.find (user, p) with
    | none => rfl
    | some c =>
      rw [ht] at hrel
      cases hrel

lemma Refines.seals (h : Refines lib t v) {c : Credential} (hc : t.find (user, p) = some c) :
    ∃ kept, v user p = some kept ∧ c.Seals lib kept := by
  have hrel := h user p
  rw [hc] at hrel
  cases hv : v user p with
  | none =>
    rw [hv] at hrel
    cases hrel
  | some kept =>
    rw [hv] at hrel
    cases hrel with
    | some hseals => exact ⟨kept, rfl, hseals⟩

/-- A row for one user and plugin, and the others as they were. -/
lemma Refines.set (h : Refines lib t v) {t' : CredentialTable} {row : Option Credential}
    {kept : Option Kept}
    (hfind : ∀ u q, t'.find (u, q) = if (u, q) = (user, p) then row else t.find (u, q))
    (hrow : Option.Rel (Credential.Seals lib) row kept) : Refines lib t' (v.set user p kept) := by
  intro u q
  rw [hfind, Vault.set]
  by_cases hkey : u = user ∧ q = p
  · rw [if_pos hkey, if_pos (Prod.ext hkey.1 hkey.2)]
    exact hrow
  · rw [if_neg hkey, if_neg fun heq => hkey ⟨congrArg Prod.fst heq, congrArg Prod.snd heq⟩]
    exact h u q

/-- A request that does what the vault says, or is refused for a reason of the vault. -/
def CredentialInput.Agrees (lib : CryptoLib) (t : CredentialTable) (v : Vault)
    (i : CredentialInput) : Prop :=
  (∀ a, (i.exec lib t).1 = .ok a → v.Answers i a ∧ Refines lib (i.exec lib t).2 (v.after lib i)) ∧
    ∀ e, (i.exec lib t).1 = .error e → v.Refuses lib i e ∧ (i.exec lib t).2 = t

lemma CredentialInput.agrees_of_error {e : Exc} (hexec : i.exec lib t = (.error e, t))
    (hrefuses : v.Refuses lib i e) : i.Agrees lib t v := by
  rw [CredentialInput.Agrees, hexec]
  constructor
  · intro a ha
    cases ha
  · intro e' he
    cases he
    exact ⟨hrefuses, rfl⟩

lemma CredentialInput.agrees_of_ite {c : Bool} {e : Exc} {a : CredentialAnswer}
    {t' : CredentialTable} (hexec : i.exec lib t = if c then (.error e, t) else (.ok a, t'))
    (hrefuses : c = true → v.Refuses lib i e) (hanswers : v.Answers i a)
    (hrefines : c = false → Refines lib t' (v.after lib i)) : i.Agrees lib t v := by
  cases hc : c with
  | true =>
    rw [hc] at hexec
    exact agrees_of_error hexec (hrefuses hc)
  | false =>
    rw [hc] at hexec
    rw [CredentialInput.Agrees, hexec]
    constructor
    · intro a' ha
      cases ha
      exact ⟨hanswers, hrefines hc⟩
    · intro e' he
      cases he

variable {env : CredentialEnv} {body : CredentialCreate}

/-- An id that is taken is that of something kept. -/
lemma Refines.kept_of_has (h : Refines lib t v) {id : UUID} (hhas : t.table.has id = true) :
    ∃ u q kept, v u q = some kept ∧ kept.id = id := by
  obtain ⟨c, hc, hid⟩ := Table.has_iff.mp hhas
  obtain ⟨kept, hkept, hseals⟩ := h.seals (UniqueTable.find_key (t := t) hc)
  exact ⟨c.userId, c.pluginName, kept, hkept, hseals.id.symm.trans hid⟩

lemma agrees_store (h : Refines lib t v) :
    (⟨env, user, .store p body⟩ : CredentialInput).Agrees lib t v := by
  by_cases hsent : env.unsent p = true
  · refine CredentialInput.agrees_of_error (exec_store_unsent hsent) ⟨rfl, ?_⟩
    rcases (Bool.or_eq_true _ _).mp hsent with hlookup | hname
    · exact Or.inl (Or.inl hlookup)
    · -- a name that cannot be sent fits no column
      refine Or.inr (Or.inl ?_)
      rw [fitsColumn, show (!p.toList.contains '\x00') = sendable p from rfl,
        (Bool.not_eq_true' _).mp hname, Bool.and_false]
  rw [Bool.not_eq_true] at hsent
  cases hfind : t.find (user, p) with
  | some c =>
    obtain ⟨kept, hkept, hseals⟩ := h.seals hfind
    refine CredentialInput.agrees_of_ite (exec_store_found hsent hfind) (fun hlost => ⟨rfl, ?_⟩)
      ?_ ?_
    · simp only [Bool.or_eq_true, Bool.and_eq_true, Bool.not_eq_true'] at hlost
      rcases hlost with (⟨-, hflush | htoken⟩ | hrefresh) | hfinish
      · exact Or.inl (Or.inr (Or.inl hflush))
      · exact Or.inr (Or.inr (Or.inl htoken))
      · exact Or.inl (Or.inr (Or.inr (Or.inl hrefresh)))
      · exact Or.inl (Or.inr (Or.inr (Or.inr hfinish)))
    · show _ = CredentialAnswer.stored ⟨p, (v user p).elim env.x.now Kept.createdAt⟩
      rw [hkept, hseals.createdAt]
      rfl
    · intro _
      have hrow : Credential.Seals lib { c with encryptedKey := tokenOf lib env body }
          { id := (v user p).elim env.x.newId Kept.id
            sealedWith := fernetKey lib env.secretKey
            apiKey := body.apiKey
            createdAt := (v user p).elim env.x.now Kept.createdAt } := by
        rw [hkept]
        exact ⟨hseals.id, hseals.createdAt, env.draw, rfl⟩
      refine h.set (fun u q => ?_) (.some hrow)
      exact UniqueTable.find_modify_of_find
        (f := fun c => { c with encryptedKey := tokenOf lib env body }) (fun _ => rfl)
        (fun _ => rfl)
        hfind (u, q)
  | none =>
    have hnone := h.none_iff.mp hfind
    refine CredentialInput.agrees_of_ite (exec_store_new hsent hfind) (fun hlost => ⟨rfl, ?_⟩) ?_ ?_
    · simp only [Bool.or_eq_true, Bool.not_eq_true'] at hlost
      rcases hlost with ((hflush | haccepts) | hrefresh) | hfinish
      · exact Or.inl (Or.inr (Or.inl hflush))
      · simp only [CredentialWrite.accepts, Bool.and_eq_false_iff] at haccepts
        rcases haccepts with (hfree | hname) | htoken
        · -- the pair is free, so it is the id that is taken
          refine Or.inr (Or.inr (Or.inr (h.kept_of_has ?_)))
          by_contra hhas
          rw [Bool.not_eq_true] at hhas
          have hfree' : t.free (rowOf lib env user p body) = true :=
            UniqueTable.free_iff.mpr ⟨hhas, hfind⟩
          rw [hfree'] at hfree
          cases hfree
        · exact Or.inr (Or.inl hname)
        · exact Or.inr (Or.inr (Or.inl htoken))
      · exact Or.inl (Or.inr (Or.inr (Or.inl hrefresh)))
      · exact Or.inl (Or.inr (Or.inr (Or.inr hfinish)))
    · show _ = CredentialAnswer.stored ⟨p, (v user p).elim env.x.now Kept.createdAt⟩
      rw [hnone]
      rfl
    · intro hlost
      simp only [Bool.or_eq_false_iff, Bool.not_eq_false'] at hlost
      have haccepts := hlost.1.1.2
      simp only [CredentialWrite.accepts, Bool.and_eq_true] at haccepts
      have hrow : Credential.Seals lib (rowOf lib env user p body)
          { id := (v user p).elim env.x.newId Kept.id
            sealedWith := fernetKey lib env.secretKey
            apiKey := body.apiKey
            createdAt := (v user p).elim env.x.now Kept.createdAt } := by
        rw [hnone]
        exact ⟨rfl, rfl, env.draw, rfl⟩
      exact h.set (fun u q => UniqueTable.find_insert haccepts.1.1 (u, q)) (.some hrow)

/-- The user's rows as the read schema shows them. -/
lemma mem_listed (h : Refines lib t v) {rows : List Credential}
    (hrows : ∀ c, c ∈ rows ↔ c ∈ CredentialRepository.ofUser t user) (r : CredentialRead) :
    r ∈ rows.map CredentialRead.validate ↔
      ∃ kept, v user r.pluginName = some kept ∧ kept.createdAt = r.createdAt := by
  have hmem : ∀ c, c ∈ rows ↔ c ∈ t ∧ c.userId = user := by
    intro c
    rw [hrows, CredentialRepository.ofUser, List.mem_filter, decide_eq_true_eq]
    rfl
  constructor
  · intro hr
    obtain ⟨c, hc, rfl⟩ := List.mem_map.mp hr
    obtain ⟨hct, huser⟩ := (hmem c).mp hc
    obtain ⟨kept, hkept, hseals⟩ := h.seals (UniqueTable.find_key (t := t) hct)
    exact ⟨kept, huser ▸ hkept, hseals.createdAt.symm⟩
  · rintro ⟨kept, hkept, hcreated⟩
    cases hfind : t.find (user, r.pluginName) with
    | none =>
      rw [h.none_iff.mp hfind] at hkept
      cases hkept
    | some c =>
      obtain ⟨kept', hkept', hseals⟩ := h.seals hfind
      have hsame : kept' = kept := Option.some.inj (hkept'.symm.trans hkept)
      obtain ⟨hct, howner⟩ := UniqueTable.find_eq_some_iff.mp hfind
      have hc : c ∈ rows := (hmem c).mpr ⟨hct, congrArg Prod.fst howner⟩
      have hread : CredentialRead.validate c = r := by
        rw [CredentialRead.validate, hseals.createdAt, hsame, hcreated,
          show c.pluginName = r.pluginName from congrArg Prod.snd howner]
      exact List.mem_map.mpr ⟨c, hc, hread⟩

/-- Each of the user's rows is shown once. -/
lemma nodup_listed {rows : List Credential}
    (hperm : rows.Perm (CredentialRepository.ofUser t user)) :
    (rows.map CredentialRead.validate).Nodup := by
  have hrows : (CredentialRepository.ofUser t user).Nodup :=
    (List.Nodup.of_map _ t.unique).filter _
  refine List.Nodup.map_on (fun c hc c' hc' hread => ?_) (hperm.nodup_iff.mpr hrows)
  have hcu := List.mem_filter.mp (hperm.mem_iff.mp hc)
  have hcu' := List.mem_filter.mp (hperm.mem_iff.mp hc')
  have huser : c.userId = c'.userId :=
    (of_decide_eq_true hcu.2).trans (of_decide_eq_true hcu'.2).symm
  have hname : c.pluginName = c'.pluginName := congrArg CredentialRead.pluginName hread
  exact UniqueTable.eq_of_key_eq hcu.1 hcu'.1 (Prod.ext huser hname)

lemma agrees_list (h : Refines lib t v) :
    (⟨env, user, .list⟩ : CredentialInput).Agrees lib t v := by
  have hperm := env.order.perm (CredentialRepository.ofUser t user)
  refine CredentialInput.agrees_of_ite exec_list (fun hlost => ⟨rfl, ?_⟩)
    ⟨_, rfl, nodup_listed hperm, ?_, mem_listed h fun c => hperm.mem_iff⟩ fun _ => h
  · rcases (Bool.or_eq_true _ _).mp hlost with hlookup | hfinish
    · exact Or.inl hlookup
    · exact Or.inr (Or.inr (Or.inr hfinish))
  · exact List.pairwise_map.mpr (env.order.newest_first _)

lemma agrees_remove (h : Refines lib t v) :
    (⟨env, user, .remove p⟩ : CredentialInput).Agrees lib t v := by
  by_cases hlost : (env.x.flush || !sendable p) = true
  · refine CredentialInput.agrees_of_error (exec_remove_lost hlost) (Or.inr ⟨rfl, ?_⟩)
    rcases (Bool.or_eq_true _ _).mp hlost with hflush | hname
    · exact Or.inl (Or.inr (Or.inl hflush))
    · exact Or.inr ((Bool.not_eq_true' _).mp hname)
  rw [Bool.not_eq_true] at hlost
  cases hfind : t.find (user, p) with
  | none =>
    exact CredentialInput.agrees_of_error (exec_remove_none hlost hfind)
      (Or.inl ⟨rfl, h.none_iff.mp hfind⟩)
  | some c =>
    obtain ⟨kept, hkept, -⟩ := h.seals hfind
    have hthere : (v user p).isSome = true := by rw [hkept]; rfl
    refine CredentialInput.agrees_of_ite (exec_remove_some hlost hfind)
      (fun hfinish => Or.inr ⟨rfl, Or.inl (Or.inr (Or.inr (Or.inr hfinish)))⟩) ⟨rfl, hthere⟩ ?_
    intro _
    exact h.set (fun u q => UniqueTable.find_delete t (user, p) (u, q)) .none

/-- One request: the table and the vault agree on it, and go on agreeing. -/
lemma CredentialInput.agrees (h : Refines lib t v) (i : CredentialInput) : i.Agrees lib t v := by
  obtain ⟨env, user, request⟩ := i
  cases request with
  | store p body => exact agrees_store h
  | list => exact agrees_list h
  | remove p => exact agrees_remove h

end Refinement

/-! ## Runs -/

/-- What requests of any users, one after the other, are answered, and the table they leave. -/
def vaultRun (lib : CryptoLib) (inputs : List CredentialInput) :
    List (Except Exc CredentialAnswer) × CredentialTable :=
  Systems.answers (fun t i => CredentialInput.exec lib t i) .empty inputs

/-- The requests with what came of them. -/
def vaultHistory (lib : CryptoLib) (inputs : List CredentialInput) : Vault.History :=
  inputs.zip (vaultRun lib inputs).1

/-- The vault after requests of any users. -/
def vaultAfter (lib : CryptoLib) (inputs : List CredentialInput) : Vault :=
  Vault.empty.afterAll lib (vaultHistory lib inputs)

lemma refines_answers (inputs : List CredentialInput) {t : CredentialTable} {v : Vault}
    (h : Refines lib t v) :
    v.Explains lib
        (inputs.zip (Systems.answers (fun t i => CredentialInput.exec lib t i) t inputs).1) ∧
      Refines lib (Systems.answers (fun t i => CredentialInput.exec lib t i) t inputs).2
        (v.afterAll lib
          (inputs.zip (Systems.answers (fun t i => CredentialInput.exec lib t i) t inputs).1)) := by
  induction inputs generalizing t v with
  | nil => exact ⟨trivial, h⟩
  | cons i inputs ih =>
    obtain ⟨hok, herr⟩ := i.agrees h
    rw [Systems.answers]
    cases hexec : i.exec lib t with
    | mk res t' =>
      rw [hexec] at hok herr
      cases res with
      | ok a =>
        obtain ⟨hanswers, hrefines⟩ := hok a rfl
        obtain ⟨hexplains, hlast⟩ := ih hrefines
        exact ⟨⟨hanswers, hexplains⟩, hlast⟩
      | error e =>
        obtain ⟨hrefuses, hsame⟩ := herr e rfl
        have hsame' : t' = t := hsame
        subst hsame'
        obtain ⟨hexplains, hlast⟩ := ih h
        exact ⟨⟨hrefuses, hexplains⟩, hlast⟩

/-- **The vault refines a map.** Whatever users ask in whatever order, and whatever statement is
lost, the answers are those of a map from users and plugins to keys, and the table holds that
map. -/
theorem vault_refines_map (inputs : List CredentialInput) :
    Vault.empty.Explains lib (vaultHistory lib inputs) ∧
      Refines lib (vaultRun lib inputs).2 (vaultAfter lib inputs) :=
  refines_answers inputs Refines.empty

/-! ## What a plugin gets -/

section Handing

variable {t : CredentialTable} {v : Vault} {user : UUID} {p secretKey : String} {kept : Kept}

lemma Refines.lookup_none (h : Refines lib t v) (hv : v user p = none) :
    CredentialRepository.lookup lib secretKey t user p = .ok none :=
  CredentialRepository.lookup_none (h.none_iff.mpr hv)

lemma Refines.lookup_some (hlib : lib.Documented) (h : Refines lib t v)
    (hv : v user p = some kept) :
    CredentialRepository.lookup lib secretKey t user p
      = if kept.sealedWith = fernetKey lib secretKey then .ok (some kept.apiKey)
        else .error Exc.fernetInvalidToken := by
  cases hfind : t.find (user, p) with
  | none =>
    rw [h.none_iff.mp hfind] at hv
    cases hv
  | some c =>
    obtain ⟨kept', hkept', hseals⟩ := h.seals hfind
    have hsame : kept' = kept := Option.some.inj (hkept'.symm.trans hv)
    subst hsame
    obtain ⟨draw, htoken⟩ := hseals.token
    rw [CredentialRepository.lookup_some hfind, CredentialRepository.decryptKey, htoken]
    split
    · rename_i hkey
      rw [← hkey, hlib.decrypt_encrypt]
      show (decodeUtf8 (utf8 kept'.apiKey.toList)).map some = _
      rw [decodeUtf8_utf8]
      rfl
    · rename_i hkey
      rw [hlib.decrypt_other _ _ _ _ (Ne.symm hkey)]
      rfl

/-- `_resolve_credentials` of a plugin that needs a key, when its select gets through. -/
lemma resolveCredentials_apply {x : RunExt} {req : RunRequest} {plugin : OSINTPlugin}
    {s : Session Store Write Bucket} (hs : s.failed = false) (hx : x.credential = false)
    (hplugin : plugin.requiresCredentials = true) (hcredentials : req.credentials = none)
    (huser : req.createdBy = some user) {found : Except Exc (Option String)}
    (hfound : req.vault user plugin.name = found) :
    PluginRunner.resolveCredentials x req plugin s
      = (found >>= fun decrypted => match decrypted with
          | none => .error (Exc.pluginCredentialMissing ("No API key stored for " ++ plugin.name
            ++ ". Store one via POST /credentials/" ++ plugin.name))
          | some key => .ok (some [("api_key", .str key)]), s) := by
  have hquery : (query x.credential fun _ => () : Db Bucket Unit) s = (.ok (), s) := by
    rw [hx]
    exact query_apply hs _
  unfold PluginRunner.resolveCredentials
  rw [hplugin, hcredentials, huser]
  dsimp only
  rw [Prog.bind_apply_ok hquery, hfound]
  cases found with
  | error e => rfl
  | ok decrypted => cases decrypted <;> rfl

end Handing

/-- **A plugin gets the last key.** After any requests of any users, a run of a user's plugin is
given the key that this user has stored last for this plugin and not removed since, if the
`SECRET_KEY` is still the one it was stored under; else the token is refused, and without a key the
run fails for the want of one. -/
theorem plugin_gets_last_key (hlib : lib.Documented) (inputs : List CredentialInput)
    {secretKey : String} {user : UUID} {x : RunExt} {req : RunRequest} {plugin : OSINTPlugin}
    {s : Session Store Write Bucket} (hs : s.failed = false) (hx : x.credential = false)
    (hplugin : plugin.requiresCredentials = true) (hcredentials : req.credentials = none)
    (huser : req.createdBy = some user)
    (hvault : req.vault = CredentialRepository.lookup lib secretKey (vaultRun lib inputs).2) :
    PluginRunner.resolveCredentials x req plugin s
      = ((vaultAfter lib inputs).credentials lib secretKey user plugin.name, s) := by
  have hrefines := (refines_answers inputs (Refines.empty : Refines lib .empty _)).2
  rw [resolveCredentials_apply hs hx hplugin hcredentials huser rfl, hvault, Vault.credentials]
  cases hv : vaultAfter lib inputs user plugin.name with
  | none =>
    rw [show CredentialRepository.lookup lib secretKey (vaultRun lib inputs).2 user plugin.name
      = .ok none from hrefines.lookup_none hv]
    rfl
  | some kept =>
    rw [show CredentialRepository.lookup lib secretKey (vaultRun lib inputs).2 user plugin.name
      = _ from hrefines.lookup_some hlib hv]
    dsimp only
    split <;> rfl

/-! A library without a cipher, to look at a vault with: a token is the key and then the data. -/

def openSeal (key data : List Char) : List Char := key.flatMap (fun c => ['k', c]) ++ 'd' :: data

def openUnseal : List Char → List Char → Option (List Char)
  | [], tag :: data => if tag = 'd' then some data else none
  | k :: key, tag :: c :: rest => if tag = 'k' ∧ c = k then openUnseal key rest else none
  | _, _ => none

lemma openUnseal_openSeal (key key' data : List Char) :
    openUnseal key' (openSeal key data) = if key' = key then some data else none := by
  induction key generalizing key' with
  | nil =>
    cases key' with
    | nil => rfl
    | cons k key' => cases data <;> simp [openSeal, openUnseal]
  | cons c key ih =>
    cases key' with
    | nil => simp [openSeal, openUnseal]
    | cons k key' =>
      show (if 'k' = 'k' ∧ c = k then openUnseal key' (openSeal key data) else none) = _
      rw [ih]
      by_cases hk : c = k
      · simp [hk]
      · simp [hk, Ne.symm hk]

def openLib : CryptoLib where
  hkdf secret purpose := secret ++ purpose
  encrypt key _ data := String.ofList (openSeal key (data.map fun b => Char.ofNat b.toNat))
  decrypt key token := match openUnseal key token.toList with
    | some data => .ok (data.map fun c => UInt8.ofNat c.toNat)
    | none => .error Exc.fernetInvalidToken

lemma openLib_documented : openLib.Documented where
  decrypt_encrypt := by
    intro key draw data
    have hbyte : ∀ b : UInt8, UInt8.ofNat (Char.ofNat b.toNat).toNat = b := by
      intro b
      have hvalid : b.toNat.isValidChar := Or.inl (by have := b.toNat_lt; omega)
      rw [Char.ofNat, dif_pos hvalid]
      exact UInt8.ofNat_toNat
    simp [openLib, openUnseal_openSeal, Function.comp_def, hbyte]
  decrypt_other := by
    intro key key' draw data hne
    simp [openLib, openUnseal_openSeal, hne]

lemma old_length : LengthIn 4096 "old" := by decide

lemma new_length : LengthIn 4096 "new" := by decide

/-- A user stores a key for `"hibp"`. -/
def storing (newId : UUID) (now : Time) (user : UUID) (body : CredentialCreate) : CredentialInput :=
  ⟨⟨"secret", ⟨0, []⟩, { newId, now }, default, false⟩, user, .store "hibp" body⟩

/-- A user stores two keys in a row, another user stores one between. -/
def threeStores : List CredentialInput :=
  [storing 11 0 1 ⟨"old", old_length⟩, storing 12 1 2 ⟨"old", old_length⟩,
    storing 13 2 1 ⟨"new", new_length⟩]

/-- A plugin that asks for a key. -/
def storedPlugin : OSINTPlugin where
  name := "hibp"
  version := "1"
  entityTypesAccepted := [.email]
  requiresCredentials := true
  dispatchMode := .sync
  premium := false
  query _ _ := .error Exc.dbApiError

/-- A run of the first user after the three requests. -/
def storedRequest : RunRequest where
  registry := .empty
  enterprise := false
  vault := CredentialRepository.lookup openLib "secret" (vaultRun openLib threeStores).2
  pluginName := "hibp"
  caseId := 0
  inputEntity := exampleDomain
  createdBy := some 1
  credentials := none

theorem plugin_gets_last_key_replaced :
    PluginRunner.resolveCredentials calm storedRequest storedPlugin ⟨.empty, [], false, []⟩
        = ((vaultAfter openLib threeStores).credentials openLib "secret" 1 "hibp",
          ⟨.empty, [], false, []⟩) ∧
      (vaultAfter openLib threeStores).credentials openLib "secret" 1 "hibp"
        = .ok (some [("api_key", .str "new")]) :=
  ⟨plugin_gets_last_key openLib_documented threeStores rfl rfl rfl rfl rfl rfl, rfl⟩

end Sleuthgraph
