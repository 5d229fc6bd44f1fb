import Sleuthgraph.Auth.OidcProvisionTheorems

/-!
# The admin account (`auth/bootstrap.py`)

`bootstrap_admin` runs at every start. It looks for a user with exactly the configured address,
the schema lower-cases the domain of the address, and the user manager refuses an address that is
taken up to case. So the second start is a no-op if the first has found the address, or stored it
as it is configured.
-/

namespace Sleuthgraph

open Programs Transactions Tables

/-! ## Configuration -/

/-- `auth_admin_email` and `auth_admin_password` -/
structure AdminSettings where
  email : Option String
  password : Option String

/-- The address and the password, when both are set. -/
def AdminSettings.configured (settings : AdminSettings) : Option (String × String) :=
  match settings.email, settings.password with
  | some email, some password =>
    if email = "" then none else if password = "" then none else some (email, password)
  | _, _ => none

/-- What a call draws, and whether the password is among the breached ones. -/
structure BootstrapExt where
  drawn : Drawn
  pwned : Bool

/-! ## Addresses -/

/-- The address up to its last `@`. -/
def localPart (email : String) : String :=
  String.ofList (email.toList.reverse.dropWhile (· ≠ '@')).reverse

/-- The address after its last `@`. -/
def domainPart (email : String) : String :=
  String.ofList (email.toList.reverse.takeWhile (· ≠ '@')).reverse

lemma localPart_append_domainPart (email : String) :
    localPart email ++ domainPart email = email := by
  refine String.toList_inj.mp ?_
  rw [String.toList_append, localPart, domainPart, String.toList_ofList, String.toList_ofList,
    ← List.reverse_append, List.takeWhile_append_dropWhile, List.reverse_reverse]

/-! ## The call -/

/-- `MIN_PASSWORD_LENGTH` -/
def minPasswordLength : ℕ := 12

/-- `InvalidPasswordException` -/
def Exc.invalidPassword : Exc := { mro := ["InvalidPasswordException", "Exception"] }

/-- `UserAlreadyExists` -/
def Exc.userAlreadyExists : Exc := { mro := ["UserAlreadyExists", "Exception"] }

/-- `UserManager.validate_password` -/
def validatePassword (pwned : Bool) (password : String) : Except Exc Unit :=
  if password.length < minPasswordLength then .error Exc.invalidPassword
  else if pwned then .error Exc.invalidPassword
  else .ok ()

/-- The row of the admin. -/
def adminUser (drawn : Drawn) (email : String) : User where
  id := drawn.userId
  email
  hashedPassword := drawn.secretHash
  isActive := true
  isSuperuser := true
  isVerified := true
  name := none
  oidcSub := none

/-- The rows with exactly this address. -/
def withAddress (st : UserStore) (email : String) : List User :=
  st.users.rows.filter fun u => u.email = email

/-- `select(User).where(User.email == email)` -/
def findByAddress (email : String) : AuthDb (Option User) := do
  let rows ← query false fun st => withAddress st email
  Prog.ofExcept (scalarOneOrNone rows)

variable (lower : String → String)

/-- `manager.create(user_create, safe=False)` -/
def managerCreate (x : BootstrapExt) (email password : String) : AuthDb User := do
  Prog.ofExcept (validatePassword x.pwned password)
  match ← findByEmailCi lower (.str email) with
  | some _ => throw Exc.userAlreadyExists
  | none => do
    write false (.insertUser (adminUser x.drawn email))
    commit false
    pure (adminUser x.drawn email)

/-- `bootstrap_admin`, where `emailStr` is what `UserCreate` makes of an address. -/
def bootstrapAdmin (emailStr : String → Except Exc String) (settings : AdminSettings)
    (x : BootstrapExt) : AuthDb Unit :=
  match settings.configured with
  | none => pure ()
  | some (email, password) => do
    match ← findByAddress email with
    | some _ => pure ()
    | none => do
      let address ← Prog.ofExcept (emailStr email)
      let _ ← managerCreate lower x address password
      commit false

/-! ## One call -/

/-- What a call does to the store `st`. -/
inductive Bootstraps (emailStr : String → Except Exc String) (settings : AdminSettings)
    (x : BootstrapExt) (st : UserStore) : Except Exc Unit × UserStore → Prop
  | raised (e : Exc) : Bootstraps emailStr settings x st (.error e, st)
  | skipped (hnone : settings.configured = none) : Bootstraps emailStr settings x st (.ok (), st)
  | found (email password : String) (hsome : settings.configured = some (email, password))
      (user : User) (huser : withAddress st email = [user]) :
      Bootstraps emailStr settings x st (.ok (), st)
  | created (email password address : String)
      (hsome : settings.configured = some (email, password)) (hnew : withAddress st email = [])
      (haddress : emailStr email = .ok address) (hfree : withEmail lower st address = [])
      (haccepts : st.accepts (.insertUser (adminUser x.drawn address)) = true) :
      Bootstraps emailStr settings x st
        (.ok (), st.apply (.insertUser (adminUser x.drawn address)))

/-- A check before a program. -/
lemma committedBy_check {α β : Type} (r : Except Exc α) (f : α → AuthDb β) (st : UserStore) :
    committedBy (do let a ← Prog.ofExcept r; f a) st
      = match r with
        | .ok a => committedBy (f a) st
        | .error e => (.error e, st) := by
  cases r with
  | ok a => rfl
  | error e => rfl

/-- The insertion of the admin, once nobody has the address. -/
lemma committedBy_insert (user : User) (st : UserStore) :
    committedBy (do
      let _ ← (do write false (.insertUser user); commit false; pure user : AuthDb User)
      commit false : AuthDb Unit) st
      = if st.accepts (.insertUser user) then (.ok (), st.apply (.insertUser user))
        else (.error Exc.dbApiError, st) := by
  by_cases h : st.accepts (.insertUser user) = true
  · have hw : (write false (.insertUser user) : AuthDb Unit) ⟨st, [], false, ()⟩
        = (.ok (), ⟨st, [.insertUser user], false, ()⟩) := write_apply rfl h
    have hcreate : (do write false (.insertUser user); commit false; pure user : AuthDb User)
        ⟨st, [], false, ()⟩ = (.ok user, ⟨st.apply (.insertUser user), [], false, ()⟩) := by
      rw [Prog.bind_apply_ok hw]
      rfl
    rw [if_pos h, committedBy, Prog.bind_apply_ok hcreate]
    rfl
  · have hw : (write false (.insertUser user) : AuthDb Unit) ⟨st, [], false, ()⟩
        = (.error Exc.dbApiError, ⟨st, [], true, ()⟩) := by
      have h' : Writes.accepts st (UserWrite.insertUser user) = false := Bool.eq_false_iff.mpr h
      simp [write, Session.work, h']
      rfl
    have hcreate : (do write false (.insertUser user); commit false; pure user : AuthDb User)
        ⟨st, [], false, ()⟩ = (.error Exc.dbApiError, ⟨st, [], true, ()⟩) :=
      Prog.bind_apply_error hw
    rw [if_neg h, committedBy, Prog.bind_apply_error hcreate]

variable {lower}

variable (lower) in
/-- Every call is one of the four. -/
theorem bootstrapAdmin_bootstraps (emailStr : String → Except Exc String)
    (settings : AdminSettings) (x : BootstrapExt) (st : UserStore) :
    Bootstraps lower emailStr settings x st
      (committedBy (bootstrapAdmin lower emailStr settings x) st) := by
  unfold bootstrapAdmin
  split
  · rename_i hnone
    exact .skipped hnone
  · rename_i email password hsome
    rw [findByAddress, committedBy_find]
    split
    · rename_i found hfound
      cases found with
      | some user => exact .found email password hsome user (scalarOneOrNone_some hfound)
      | none =>
        have hnew := scalarOneOrNone_none hfound
        dsimp only
        rw [committedBy_check]
        split
        · rename_i address haddress
          rw [managerCreate, bind_assoc, committedBy_check]
          split
          · rw [findByEmailCi, bind_assoc, committedBy_find]
            split
            · rename_i byEmail hby
              cases byEmail with
              | some other => exact .raised _
              | none =>
                rw [committedBy_insert]
                split
                · rename_i haccepts
                  exact .created email password address hsome hnew haddress
                    (scalarOneOrNone_none hby) haccepts
                · exact .raised _
            · exact .raised _
          · exact .raised _
        · exact .raised _
    · exact .raised _

/-! ## Later calls -/

lemma mem_withAddress {st : UserStore} {email : String} {u : User} :
    u ∈ withAddress st email ↔ u ∈ st.users ∧ u.email = email := by
  simp [withAddress, Table.mem_iff]

/-- No two users have the same address: the unique column `email`. -/
def EmailsUnique (st : UserStore) : Prop :=
  ∀ u ∈ st.users, ∀ v ∈ st.users, u.email = v.email → u = v

/-- The user a call that took `st` to `st'` has found or created. -/
def Bootstrapped (email : String) (st st' : UserStore) (user : User) : Prop :=
  user ∈ st'.users ∧ (user.email = email ∨ user ∉ st.users)

/-- A store after further activity that left the address of the bootstrapped user alone. -/
structure KeptSince (email : String) (st st₁ st₂ : UserStore) : Prop where
  unique : EmailsUnique st₂
  kept : ∀ user, Bootstrapped email st st₁ user →
    ∃ user' ∈ st₂.users, user'.id = user.id ∧ user'.email = user.email

/-- The insert keeps the unique column. -/
lemma EmailsUnique.insert {st : UserStore} (h : EmailsUnique st) {user : User}
    (haccepts : st.accepts (.insertUser user) = true) :
    EmailsUnique (st.apply (.insertUser user)) := by
  have hnew := accepts_insertUser haccepts
  have hfree : ∀ u ∈ st.users, u.email ≠ user.email := by
    simp only [UserStore.accepts, Bool.and_eq_true, List.all_eq_true, decide_eq_true_eq] at haccepts
    exact fun u hu => (haccepts.2 u hu).1
  intro u hu v hv heq
  rcases (Table.mem_insert hnew).mp hu with hu' | rfl
  · rcases (Table.mem_insert hnew).mp hv with hv' | rfl
    · exact h u hu' v hv' heq
    · exact absurd heq (hfree u hu')
  · rcases (Table.mem_insert hnew).mp hv with hv' | rfl
    · exact absurd heq.symm (hfree v hv')
    · rfl

variable {emailStr : String → Except Exc String} {settings : AdminSettings}
variable {email password : String}

/-- A call that finds the address does nothing. -/
lemma bootstrapAdmin_of_mem (hset : settings.configured = some (email, password))
    {st : UserStore} (hunique : EmailsUnique st) {user : User} (huser : user ∈ st.users)
    (hemail : user.email = email) (x : BootstrapExt) :
    committedBy (bootstrapAdmin lower emailStr settings x) st = (.ok (), st) := by
  have hrows : withAddress st email = [user] := by
    refine Table.filter_rows_eq_singleton huser (by simpa using hemail) ?_
    intro u hu hp
    exact hunique u hu user huser ((by simpa using hp : u.email = email).trans hemail.symm)
  rw [bootstrapAdmin, hset]
  dsimp only
  rw [findByAddress, committedBy_find, hrows]
  rfl

/-- A call that does not find the address, where somebody has it up to case, does not return. -/
lemma bootstrapAdmin_ne_ok (hset : settings.configured = some (email, password))
    {st : UserStore} (hnew : ∀ u ∈ st.users, u.email ≠ email) {address : String}
    (haddress : emailStr email = .ok address) {user : User} (huser : user ∈ st.users)
    (hlower : lower user.email = lower address) (x : BootstrapExt) (st' : UserStore) :
    committedBy (bootstrapAdmin lower emailStr settings x) st ≠ (.ok (), st') := by
  intro hout
  have hcall := bootstrapAdmin_bootstraps lower emailStr settings x st
  rw [hout] at hcall
  cases hcall with
  | skipped hnone =>
    rw [hset] at hnone
    cases hnone
  | found email' password' hsome other hother =>
    rw [hset] at hsome
    cases hsome
    have hmem := mem_withAddress.mp (hother ▸ List.mem_singleton_self other)
    exact hnew other hmem.1 hmem.2
  | created email' password' address' hsome _ haddress' hfree _ =>
    rw [hset] at hsome
    cases hsome
    rw [haddress] at haddress'
    cases haddress'
    exact email_ne_of_withEmail hfree user huser hlower

/-- After a call that returned, every later call is a no-op exactly if the address was taken
as configured, or its domain is in lower case. -/
theorem bootstrapAdmin_again_iff (hset : settings.configured = some (email, password))
    (hnormal : ∀ address, emailStr email = .ok address →
      address = localPart email ++ lower (domainPart email))
    {st st₁ : UserStore} (hunique : EmailsUnique st) {x : BootstrapExt}
    (hfirst : committedBy (bootstrapAdmin lower emailStr settings x) st = (.ok (), st₁)) :
    (∀ x' st₂, KeptSince email st st₁ st₂ →
      committedBy (bootstrapAdmin lower emailStr settings x') st₂ = (.ok (), st₂)) ↔
      (∃ user ∈ st.users, user.email = email) ∨ lower (domainPart email) = domainPart email := by
  have hcall := bootstrapAdmin_bootstraps lower emailStr settings x st
  rw [hfirst] at hcall
  cases hcall with
  | skipped hnone =>
    rw [hset] at hnone
    cases hnone
  | found email' password' hsome user hrows =>
    rw [hset] at hsome
    cases hsome
    obtain ⟨huser, hemail⟩ := mem_withAddress.mp (hrows ▸ List.mem_singleton_self user)
    refine iff_of_true ?_ (.inl ⟨user, huser, hemail⟩)
    intro x' st₂ hlater
    obtain ⟨user', huser', -, hemail'⟩ := hlater.kept user ⟨huser, .inl hemail⟩
    exact bootstrapAdmin_of_mem hset hlater.unique huser' (hemail'.trans hemail) x'
  | created email' password' address hsome hnone haddress hfree haccepts =>
    rw [hset] at hsome
    cases hsome
    obtain rfl := hnormal address haddress
    have hnew := accepts_insertUser haccepts
    have hadmin := (Table.mem_insert hnew).mpr (.inr rfl)
    have hnotin : ∀ u ∈ st.users, u.email ≠ email := by
      intro u hu hemail
      have hmem := mem_withAddress.mpr ⟨hu, hemail⟩
      rw [hnone] at hmem
      cases hmem
    constructor
    · -- the next start sees the store as the first one left it
      intro h
      by_contra hnot
      have hdomain : lower (domainPart email) ≠ domainPart email := fun h => hnot (.inr h)
      have hchanged : localPart email ++ lower (domainPart email) ≠ email := by
        intro heq
        have hparts := heq.trans (localPart_append_domainPart email).symm
        exact hdomain (String.append_right_inj _ |>.mp hparts)
      refine bootstrapAdmin_ne_ok hset ?_ haddress hadmin rfl x _
        (h x _ ⟨hunique.insert haccepts, fun user huser => ⟨user, huser.1, rfl, rfl⟩⟩)
      intro u hu
      rcases (Table.mem_insert hnew).mp hu with hu | rfl
      · exact hnotin u hu
      · exact hchanged
    · rintro (⟨user, huser, hemail⟩ | hdomain)
      · exact absurd hemail (hnotin user huser)
      · intro x' st₂ hlater
        have hstored : localPart email ++ lower (domainPart email) = email := by
          rw [hdomain, localPart_append_domainPart]
        obtain ⟨user', huser', -, hemail'⟩ := hlater.kept _ ⟨hadmin, .inl hstored⟩
        exact bootstrapAdmin_of_mem hset hlater.unique huser' (hemail'.trans hstored) x'

/-! ## Two starts -/

/-- ASCII case folding. -/
def asciiFold (s : String) : String := String.ofList (s.toList.map Char.toLower)

/-- A schema that lower-cases the domain. -/
def domainFolded (email : String) : Except Exc String :=
  .ok (localPart email ++ asciiFold (domainPart email))

def adminSettings (email : String) : AdminSettings := ⟨some email, some "adminpass1234"⟩

def emptyStore : UserStore := ⟨⟨[], List.nodup_nil⟩, ⟨[], List.nodup_nil⟩⟩

def adminDrawn : BootstrapExt := ⟨⟨0, "hash"⟩, false⟩

/-- The first start on an empty store. -/
def firstStart (email : String) : Except Exc Unit × UserStore :=
  committedBy (bootstrapAdmin asciiFold domainFolded (adminSettings email) adminDrawn) emptyStore

lemma firstStart_ok (email : String) (h : (firstStart email).1.toOption = some ()) :
    firstStart email = (.ok (), (firstStart email).2) := by
  cases hr : (firstStart email).1 with
  | ok => exact Prod.ext hr rfl
  | error e =>
    rw [hr] at h
    cases h

theorem bootstrapAdmin_again_iff_first :
    firstStart "admin@Example.com" = (.ok (), (firstStart "admin@Example.com").2) ∧
    ((∀ x' st₂, KeptSince "admin@Example.com" emptyStore (firstStart "admin@Example.com").2 st₂ →
      committedBy (bootstrapAdmin asciiFold domainFolded (adminSettings "admin@Example.com") x')
        st₂ = (.ok (), st₂)) ↔
      (∃ user ∈ emptyStore.users, user.email = "admin@Example.com") ∨
        asciiFold (domainPart "admin@Example.com") = domainPart "admin@Example.com") :=
  have hfirst := firstStart_ok "admin@Example.com" (by decide)
  ⟨hfirst, @bootstrapAdmin_again_iff asciiFold domainFolded (adminSettings "admin@Example.com")
    "admin@Example.com" "adminpass1234" rfl (fun _ h => (Except.ok.inj h).symm) emptyStore _
    (fun _ hu => by cases hu) adminDrawn hfirst⟩

/-- The second start with a capital in the domain raises. -/
theorem bootstrapAdmin_again_fails :
    ¬ ∀ (lower : String → String) (emailStr : String → Except Exc String)
      (settings : AdminSettings) (email password : String),
      settings.configured = some (email, password) →
      (∀ address, emailStr email = .ok address →
        address = localPart email ++ lower (domainPart email)) →
      ∀ (st st₁ : UserStore), EmailsUnique st → ∀ x : BootstrapExt,
      committedBy (bootstrapAdmin lower emailStr settings x) st = (.ok (), st₁) →
      ∀ x' st₂, KeptSince email st st₁ st₂ →
        committedBy (bootstrapAdmin lower emailStr settings x') st₂ = (.ok (), st₂) := by
  intro h
  have hfirst := firstStart_ok "admin@Example.COM" (by decide)
  have hunique : EmailsUnique (firstStart "admin@Example.COM").2 := by
    unfold EmailsUnique
    decide
  have hagain := h asciiFold domainFolded (adminSettings "admin@Example.COM") "admin@Example.COM"
    "adminpass1234" rfl (fun _ h => (Except.ok.inj h).symm) emptyStore _ (fun _ hu => by cases hu)
    adminDrawn hfirst adminDrawn _ ⟨hunique, fun user huser => ⟨user, huser.1, rfl, rfl⟩⟩
  have hraises : (committedBy (bootstrapAdmin asciiFold domainFolded
      (adminSettings "admin@Example.COM") adminDrawn) (firstStart "admin@Example.COM").2).1.toOption
      = none := by
    decide
  rw [hagain] at hraises
  cases hraises

end Sleuthgraph
