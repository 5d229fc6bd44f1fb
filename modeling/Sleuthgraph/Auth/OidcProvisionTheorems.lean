import Sleuthgraph.Auth.OidcProvision

/-!
# Account linking

`Resolves` says what one call can do: raise and leave the store, find the account of the
subject, link the one account of the email, or add an account. Both uniqueness invariants, and
what a call may change, are read off its four cases.
-/

namespace Sleuthgraph

open Programs Transactions Tables

variable {lower : String → String}

/-! ## One call -/

/-- What a call does to the store `st`. -/
inductive Resolves (lower : String → String) (st : UserStore) (drawn : Drawn) (sub email : PyVal)
    (emailVerified allowSignup : Bool) : Except Exc User × UserStore → Prop
  | raised (e : Exc) : Resolves lower st drawn sub email emailVerified allowSignup (.error e, st)
  | known (s : String) (hs : sub = .str s) (hs' : s ≠ "") (user : User)
      (huser : user ∈ withSub st s) :
      Resolves lower st drawn sub email emailVerified allowSignup (.ok user, st)
  | linked (s t : String) (hs : sub = .str s) (ht : email = .str t) (hs' : s ≠ "") (ht' : t ≠ "")
      (hsub : withSub st s = []) (user : User) (huser : withEmail lower st t = [user])
      (hnull : user.oidcSub = none) (hverified : emailVerified = true)
      (haccepts : st.accepts (.linkUser user.id s drawn.secretHash) = true) :
      Resolves lower st drawn sub email emailVerified allowSignup
        (.ok (user.link s drawn.secretHash), st.apply (.linkUser user.id s drawn.secretHash))
  | created (s t : String) (hs : sub = .str s) (ht : email = .str t) (hs' : s ≠ "") (ht' : t ≠ "")
      (hsub : withSub st s = []) (hemail : withEmail lower st t = [])
      (hsignup : allowSignup = true) (hverified : emailVerified = true)
      (haccepts : st.accepts (.insertUser (newUser drawn t s)) = true) :
      Resolves lower st drawn sub email emailVerified allowSignup
        (.ok (newUser drawn t s), st.apply (.insertUser (newUser drawn t s)))

/-- The answer of a program in a fresh session, and what it leaves committed. -/
def committedBy {α : Type} (m : AuthDb α) (st : UserStore) : Except Exc α × UserStore :=
  ((m ⟨st, [], false, ()⟩).1, (m ⟨st, [], false, ()⟩).2.committed)

/-- A write and its commit: refused as a whole or published as a whole. -/
lemma committedBy_write {α : Type} (w : UserWrite) (a : α) (st : UserStore) :
    committedBy (do write false w; commit false; pure a : AuthDb α) st
      = if st.accepts w then (.ok a, st.apply w) else (.error Exc.dbApiError, st) := by
  by_cases h : st.accepts w = true
  -- the write is accepted, so the commit publishes it
  · have hw : (write false w : AuthDb Unit) ⟨st, [], false, ()⟩ = (.ok (), ⟨st, [w], false, ()⟩) :=
      write_apply rfl h
    rw [if_pos h, committedBy, Prog.bind_apply_ok hw]
    rfl
  · have hw : (write false w : AuthDb Unit) ⟨st, [], false, ()⟩
        = (.error Exc.dbApiError, ⟨st, [], true, ()⟩) := by
      have h' : Writes.accepts st w = false := Bool.eq_false_iff.mpr h
      simp [write, Session.work, h']
      rfl
    rw [if_neg h, committedBy, Prog.bind_apply_error hw]

/-- A lookup, and what the program makes of its answer. -/
lemma committedBy_find {α β : Type} (q : UserStore → List α) (f : Option α → AuthDb β)
    (st : UserStore) :
    committedBy
      (do
        let found ← (do
          let rows ← query false q
          Prog.ofExcept (scalarOneOrNone rows) : AuthDb (Option α))
        f found) st
      = match scalarOneOrNone (q st) with
        | .ok found => committedBy (f found) st
        | .error e => (.error e, st) := by
  have hq : (query false q : AuthDb (List α)) ⟨st, [], false, ()⟩
      = (.ok (q st), ⟨st, [], false, ()⟩) := query_apply rfl q
  cases h : scalarOneOrNone (q st) with
  | ok found =>
    have hfind : (do
        let rows ← query false q
        Prog.ofExcept (scalarOneOrNone rows) : AuthDb (Option α)) ⟨st, [], false, ()⟩
        = (.ok found, ⟨st, [], false, ()⟩) := by
      rw [Prog.bind_apply_ok hq, h]
      rfl
    simp only [committedBy]
    rw [Prog.bind_apply_ok hfind]
  | error e =>
    have hfind : (do
        let rows ← query false q
        Prog.ofExcept (scalarOneOrNone rows) : AuthDb (Option α)) ⟨st, [], false, ()⟩
        = (.error e, ⟨st, [], false, ()⟩) := by
      rw [Prog.bind_apply_ok hq, h]
      rfl
    simp only [committedBy]
    rw [Prog.bind_apply_error hfind]

variable (lower) in
/-- Every call is one of the four. -/
theorem resolveOidcUser_resolves (st : UserStore) (drawn : Drawn) (sub email : PyVal)
    (emailVerified allowSignup : Bool) :
    Resolves lower st drawn sub email emailVerified allowSignup
      (committedBy (resolveOidcUser lower drawn sub email emailVerified allowSignup) st) := by
  unfold resolveOidcUser
  split
  · exact .raised _
  · rename_i hsub
    split
    · exact .raised _
    · rename_i hemail
      cases sub with
      -- 1. a row of the subject
      | str s =>
        have hs : s ≠ "" := by simpa [PyVal.truthy] using hsub
        rw [findBySub, committedBy_find]
        split
        · rename_i found hfound
          cases found with
          | some user =>
            exact .known s rfl hs user
              (by rw [scalarOneOrNone_some hfound]; exact List.mem_singleton_self _)
          | none =>
            have hnosub := scalarOneOrNone_none hfound
            cases email with
            | str t =>
              have ht : t ≠ "" := by simpa [PyVal.truthy] using hemail
              simp only [findByEmailCi]
              rw [committedBy_find]
              split
              · rename_i byEmail hby
                cases byEmail with
                -- 2./3. a row of the email, linked now or bound already
                | some user =>
                  have huser := scalarOneOrNone_some hby
                  dsimp only
                  split
                  · rename_i hnull
                    split
                    · exact .raised _
                    · rename_i hverified
                      rw [committedBy_write]
                      split
                      · exact .linked s t rfl rfl hs ht hnosub user huser hnull
                          (by simpa using hverified) ‹_›
                      · exact .raised _
                  · rename_i bound hbound
                    split
                    · exact .raised _
                    · rename_i hsame
                      have hmem : user ∈ st.users.rows :=
                        List.mem_of_mem_filter (huser ▸ List.mem_singleton_self user)
                      obtain rfl : bound = s := by simpa using hsame
                      exact .known bound rfl hs user
                        (List.mem_filter.mpr ⟨hmem, by simpa using hbound⟩)
                -- 4./5. no row of either
                | none =>
                  dsimp only
                  split
                  · exact .raised _
                  · rename_i hsignup
                    split
                    · exact .raised _
                    · rename_i hverified
                      rw [committedBy_write]
                      split
                      · exact .created s t rfl rfl hs ht hnosub (scalarOneOrNone_none hby)
                          (by simpa using hsignup) (by simpa using hverified) ‹_›
                      · exact .raised _
              · exact .raised _
            | _ => exact .raised _
        · exact .raised _
      | _ => exact .raised _

lemma mem_withSub {st : UserStore} {s : String} {u : User} :
    u ∈ withSub st s ↔ u ∈ st.users ∧ u.oidcSub = some s := by
  simp [withSub, Table.mem_iff]

lemma mem_withEmail {st : UserStore} {t : String} {u : User} :
    u ∈ withEmail lower st t ↔ u ∈ st.users ∧ lower u.email = lower t := by
  simp [withEmail, Table.mem_iff]

/-- A lookup by subject that finds nothing. -/
lemma sub_ne_of_withSub {st : UserStore} {s : String} (h : withSub st s = []) :
    ∀ u ∈ st.users, u.oidcSub ≠ some s := by
  intro u hu hs
  have hmem := mem_withSub.mpr ⟨hu, hs⟩
  rw [h] at hmem
  cases hmem

/-- A lookup by email that finds nothing. -/
lemma email_ne_of_withEmail {st : UserStore} {t : String} (h : withEmail lower st t = []) :
    ∀ u ∈ st.users, lower u.email ≠ lower t := by
  intro u hu ht
  have hmem := mem_withEmail.mpr ⟨hu, ht⟩
  rw [h] at hmem
  cases hmem

/-- The one account of a subject is found whatever email comes with it. -/
lemma resolveOidcUser_known {st : UserStore} {s t : String} {user : User} (hs : s ≠ "")
    (ht : t ≠ "") (huser : withSub st s = [user]) (drawn : Drawn)
    (emailVerified allowSignup : Bool) :
    committedBy (resolveOidcUser lower drawn (.str s) (.str t) emailVerified allowSignup) st
      = (.ok user, st) := by
  have hs' : ¬ (!(PyVal.str s).truthy) = true := by simpa [PyVal.truthy] using hs
  have ht' : ¬ (!(PyVal.str t).truthy) = true := by simpa [PyVal.truthy] using ht
  rw [resolveOidcUser, if_neg hs', if_neg ht', findBySub, committedBy_find, huser]
  rfl

/-! ## What a call keeps -/

/-- Subjects are unique, and so are emails up to case. -/
structure Unique (lower : String → String) (st : UserStore) : Prop where
  sub : ∀ u ∈ st.users, ∀ v ∈ st.users, ∀ s, u.oidcSub = some s → v.oidcSub = some s → u = v
  email : ∀ u ∈ st.users, ∀ v ∈ st.users, lower u.email = lower v.email → u = v

lemma mem_linkUser {st : UserStore} {id : UUID} {sub hash : String} {u : User} :
    u ∈ (st.apply (.linkUser id sub hash)).users ↔
      ∃ v ∈ st.users, u = if pk v = id then v.link sub hash else v :=
  Table.mem_modify (User.link sub hash) fun _ => rfl

lemma accepts_insertUser {st : UserStore} {user : User}
    (h : st.accepts (.insertUser user) = true) : st.users.has (pk user) = false := by
  simp only [UserStore.accepts, Bool.and_eq_true, Bool.not_eq_true'] at h
  exact h.1.1.1.1

/-- What one call keeps and changes: the clauses of the linking policy. -/
structure Keeps (lower : String → String) (st : UserStore) (c : OidcCall) : Prop where
  unique : Unique lower (c.exec lower st).2
  raise_unchanged : ∀ e, (c.exec lower st).1 = .error e → (c.exec lower st).2 = st
  unverified_unchanged : c.emailVerified = false → (c.exec lower st).2 = st
  identity : ∀ u ∈ st.users, ∃ u' ∈ (c.exec lower st).2.users,
    u'.id = u.id ∧ u'.email = u.email ∧ (u.oidcSub ≠ none → u'.oidcSub = u.oidcSub)
  links : ∀ u ∈ st.users, ∀ u' ∈ (c.exec lower st).2.users, u'.id = u.id →
    u.oidcSub = none → u'.oidcSub ≠ none →
      u'.hashedPassword = c.drawn.secretHash ∧
      ∀ v : User, v.id ≠ u.id → (v ∈ (c.exec lower st).2.users ↔ v ∈ st.users)
  creates : ∀ u' ∈ (c.exec lower st).2.users, (∀ u ∈ st.users, u.id ≠ u'.id) →
    c.allowSignup = true ∧ u'.isSuperuser = false
  returns : ∀ u, (c.exec lower st).1 = .ok u →
    u ∈ (c.exec lower st).2.users ∧ u.oidcSub = some c.sub

variable (lower) in
lemma OidcCall.exec_resolves (st : UserStore) (c : OidcCall) :
    Resolves lower st c.drawn (.str c.sub) (.str c.email) c.emailVerified c.allowSignup
      (c.exec lower st) :=
  resolveOidcUser_resolves lower st c.drawn _ _ _ _

/-- A store in which nothing happened keeps everything. -/
lemma keeps_of_same {st : UserStore} (h : Unique lower st) {c : OidcCall}
    (hst : (c.exec lower st).2 = st)
    (hreturns : ∀ u, (c.exec lower st).1 = .ok u → u ∈ st.users ∧ u.oidcSub = some c.sub) :
    Keeps lower st c where
  unique := by rw [hst]; exact h
  raise_unchanged _ _ := hst
  unverified_unchanged _ := hst
  identity u hu := ⟨u, by rw [hst]; exact hu, rfl, rfl, fun _ => rfl⟩
  links u hu u' hu' hid hnull hlinked := by
    rw [hst] at hu'
    exact absurd hnull (Table.eq_of_pk_eq hu' hu hid ▸ hlinked)
  creates u' hu' hnew := by
    rw [hst] at hu'
    exact absurd rfl (hnew u' hu')
  returns u hu := by
    rw [hst]
    exact hreturns u hu

lemma Unique.link {st : UserStore} (h : Unique lower st) {id : UUID} {s hash : String}
    (hsub : withSub st s = []) : Unique lower (st.apply (.linkUser id s hash)) := by
  have hnone := sub_ne_of_withSub hsub
  constructor
  · intro u hu v hv s' hus hvs
    obtain ⟨u₀, hu₀, rfl⟩ := mem_linkUser.mp hu
    obtain ⟨v₀, hv₀, rfl⟩ := mem_linkUser.mp hv
    -- the linked row has the subject alone, and the other rows kept theirs
    by_cases hui : pk u₀ = id <;> by_cases hvi : pk v₀ = id
    · rw [Table.eq_of_pk_eq hu₀ hv₀ (hui.trans hvi.symm)]
    · rw [if_pos hui] at hus
      rw [if_neg hvi] at hvs
      exact absurd (hvs.trans hus.symm) (hnone v₀ hv₀)
    · rw [if_neg hui] at hus
      rw [if_pos hvi] at hvs
      exact absurd (hus.trans hvs.symm) (hnone u₀ hu₀)
    · rw [if_neg hui] at hus ⊢
      rw [if_neg hvi] at hvs ⊢
      exact h.sub u₀ hu₀ v₀ hv₀ s' hus hvs
  · have hemail : ∀ u : User, (if pk u = id then u.link s hash else u).email = u.email := by
      intro u
      split <;> rfl
    intro u hu v hv heq
    obtain ⟨u₀, hu₀, rfl⟩ := mem_linkUser.mp hu
    obtain ⟨v₀, hv₀, rfl⟩ := mem_linkUser.mp hv
    rw [hemail, hemail] at heq
    rw [h.email u₀ hu₀ v₀ hv₀ heq]

lemma Unique.insert {st : UserStore} (h : Unique lower st) {drawn : Drawn} {s t : String}
    (hsub : withSub st s = []) (hemail : withEmail lower st t = [])
    (hnew : st.users.has (pk (newUser drawn t s)) = false) :
    Unique lower (st.apply (.insertUser (newUser drawn t s))) := by
  have hnosub := sub_ne_of_withSub hsub
  have hnoemail := email_ne_of_withEmail hemail
  constructor
  · intro u hu v hv s' hus hvs
    rcases (Table.mem_insert hnew).mp hu with hu | rfl <;>
      rcases (Table.mem_insert hnew).mp hv with hv | rfl
    · exact h.sub u hu v hv s' hus hvs
    · exact absurd (hus.trans hvs.symm) (hnosub u hu)
    · exact absurd (hvs.trans hus.symm) (hnosub v hv)
    · rfl
  · intro u hu v hv heq
    rcases (Table.mem_insert hnew).mp hu with hu | rfl <;>
      rcases (Table.mem_insert hnew).mp hv with hv | rfl
    · exact h.email u hu v hv heq
    · exact absurd heq (hnoemail u hu)
    · exact absurd heq.symm (hnoemail v hv)
    · rfl

/-- Every call on a store with unique subjects and emails keeps the policy. -/
theorem OidcCall.keeps {st : UserStore} (h : Unique lower st) (c : OidcCall) :
    Keeps lower st c := by
  have hres := c.exec_resolves lower st
  generalize hout : c.exec lower st = out at hres
  cases hres with
  | raised e =>
    exact keeps_of_same h (congrArg Prod.snd hout) fun u hu => by rw [hout] at hu; cases hu
  | known s hs hs' user huser =>
    refine keeps_of_same h (congrArg Prod.snd hout) fun u hu => ?_
    rw [hout] at hu
    cases hu
    rw [PyVal.str.inj hs]
    exact mem_withSub.mp huser
  | linked s t hs ht hs' ht' hsub user huser hnull hverified haccepts =>
    obtain rfl := PyVal.str.inj hs
    have hst : (c.exec lower st).2 = st.apply (.linkUser user.id c.sub c.drawn.secretHash) :=
      congrArg Prod.snd hout
    have hmem : user ∈ st.users := (mem_withEmail.mp (huser ▸ List.mem_singleton_self user)).1
    constructor
    · rw [hst]
      exact h.link hsub
    · intro e he
      rw [hout] at he
      cases he
    · intro hun
      rw [hun] at hverified
      cases hverified
    · intro u hu
      rw [hst]
      refine ⟨_, mem_linkUser.mpr ⟨u, hu, rfl⟩, ?_⟩
      split
      · rename_i hid
        refine ⟨rfl, rfl, fun hsome => absurd ?_ hsome⟩
        rw [Table.eq_of_pk_eq hu hmem hid, hnull]
      · exact ⟨rfl, rfl, fun _ => rfl⟩
    · intro u hu u' hu' hid hunull hu'some
      rw [hst] at hu' ⊢
      obtain ⟨v, hv, rfl⟩ := mem_linkUser.mp hu'
      by_cases hvid : pk v = user.id
      -- the row that was linked: every other row is untouched
      · rw [if_pos hvid] at hid ⊢
        refine ⟨rfl, fun w hw => ?_⟩
        have hwid : ¬ pk w = user.id := fun hwid => hw (hwid.trans (hvid.symm.trans hid))
        constructor
        · intro hw'
          obtain ⟨w₀, hw₀, rfl⟩ := mem_linkUser.mp hw'
          by_cases hw₀id : pk w₀ = user.id
          · rw [if_pos hw₀id] at hwid
            exact absurd hw₀id hwid
          · rwa [if_neg hw₀id]
        · exact fun hw' => mem_linkUser.mpr ⟨w, hw', (if_neg hwid).symm⟩
      -- any other row has the subject it had
      · rw [if_neg hvid] at hid hu'some
        rw [Table.eq_of_pk_eq hv hu hid] at hu'some
        exact absurd hunull hu'some
    · intro u' hu' hnew
      rw [hst] at hu'
      obtain ⟨v, hv, rfl⟩ := mem_linkUser.mp hu'
      refine absurd ?_ (hnew v hv)
      split <;> rfl
    · intro u hu
      rw [hout] at hu
      cases hu
      rw [hst]
      exact ⟨mem_linkUser.mpr ⟨user, hmem, (if_pos rfl).symm⟩, rfl⟩
  | created s t hs ht hs' ht' hsub hemail hsignup hverified haccepts =>
    obtain rfl := PyVal.str.inj hs
    obtain rfl := PyVal.str.inj ht
    have hst : (c.exec lower st).2
        = st.apply (.insertUser (newUser c.drawn c.email c.sub)) := congrArg Prod.snd hout
    have hnew := accepts_insertUser haccepts
    constructor
    · rw [hst]
      exact h.insert hsub hemail hnew
    · intro e he
      rw [hout] at he
      cases he
    · intro hun
      rw [hun] at hverified
      cases hverified
    · intro u hu
      rw [hst]
      exact ⟨u, (Table.mem_insert hnew).mpr (Or.inl hu), rfl, rfl, fun _ => rfl⟩
    · intro u hu u' hu' hid hunull hu'some
      rw [hst] at hu'
      rcases (Table.mem_insert hnew).mp hu' with hu' | rfl
      · rw [Table.eq_of_pk_eq hu' hu hid] at hu'some
        exact absurd hunull hu'some
      · exact absurd hid.symm (Table.has_eq_false_iff.mp hnew u hu)
    · intro u' hu' hfresh
      rw [hst] at hu'
      rcases (Table.mem_insert hnew).mp hu' with hu' | rfl
      · exact absurd rfl (hfresh u' hu')
      · exact ⟨hsignup, rfl⟩
    · intro u hu
      rw [hout] at hu
      cases hu
      rw [hst]
      exact ⟨(Table.mem_insert hnew).mpr (Or.inr rfl), rfl⟩

/-! ## Runs of calls -/

lemma OidcCall.run_unique {st : UserStore} (h : Unique lower st) (calls : List OidcCall) :
    Unique lower (OidcCall.run lower st calls) := by
  induction calls generalizing st with
  | nil => exact h
  | cons c calls ih => exact ih (c.keeps h).unique

/-- A linked account stays as it is. -/
lemma OidcCall.exec_linked {st : UserStore} (c : OidcCall) {u : User} (hu : u ∈ st.users)
    (hsub : u.oidcSub ≠ none) : u ∈ (c.exec lower st).2.users := by
  have hres := c.exec_resolves lower st
  generalize c.exec lower st = out at hres
  cases hres with
  | raised e => exact hu
  | known => exact hu
  | linked s t hs ht hs' ht' hnosub user huser hnull hverified haccepts =>
    have hmem : user ∈ st.users := (mem_withEmail.mp (huser ▸ List.mem_singleton_self user)).1
    refine mem_linkUser.mpr ⟨u, hu, (if_neg fun hid => hsub ?_).symm⟩
    rw [Table.eq_of_pk_eq hu hmem hid, hnull]
  | created s t hs ht hs' ht' hnosub hemail hsignup hverified haccepts =>
    exact (Table.mem_insert (accepts_insertUser haccepts)).mpr (Or.inl hu)

variable (lower) in
lemma OidcCall.run_linked {st : UserStore} (calls : List OidcCall) {u : User} (hu : u ∈ st.users)
    (hsub : u.oidcSub ≠ none) : u ∈ (OidcCall.run lower st calls).users := by
  induction calls generalizing st with
  | nil => exact hu
  | cons c calls ih => exact ih (c.exec_linked hu hsub)

/-- A call that returns had a subject. -/
lemma OidcCall.sub_ne_empty {st : UserStore} {c : OidcCall} {u : User}
    (h : (c.exec lower st).1 = .ok u) : c.sub ≠ "" := by
  have hres := c.exec_resolves lower st
  generalize c.exec lower st = out at h hres
  cases hres with
  | raised e => cases h
  | known s hs hs' => exact PyVal.str.inj hs ▸ hs'
  | linked s t hs ht hs' => exact PyVal.str.inj hs ▸ hs'
  | created s t hs ht hs' => exact PyVal.str.inj hs ▸ hs'

/-- **Account linking over whole runs.** From a store with unique subjects and emails, every call
of a run keeps the policy, and the user it returns is the user every later call with that
subject returns, whatever non-empty email it carries. -/
theorem oidc_linking {st : UserStore} (h : Unique lower st) (calls : List OidcCall)
    (c : OidcCall) :
    Keeps lower (OidcCall.run lower st calls) c ∧
    ∀ u, (c.exec lower (OidcCall.run lower st calls)).1 = .ok u →
      ∀ (later : List OidcCall) (d : OidcCall), d.sub = c.sub → d.email ≠ "" →
        (d.exec lower
          (OidcCall.run lower (c.exec lower (OidcCall.run lower st calls)).2 later)).1 = .ok u := by
  have hkeeps := c.keeps (OidcCall.run_unique h calls)
  refine ⟨hkeeps, fun u hu later d hsub hemail => ?_⟩
  obtain ⟨hmem, husub⟩ := hkeeps.returns u hu
  have hunique := OidcCall.run_unique hkeeps.unique later
  have hstays := OidcCall.run_linked lower later hmem (by rw [husub]; exact nofun)
  have hone : withSub (OidcCall.run lower (c.exec lower (OidcCall.run lower st calls)).2 later)
      d.sub = [u] := by
    refine Table.filter_rows_eq_singleton hstays (by simp [husub, hsub]) fun v hv hvsub => ?_
    exact hunique.sub v hv u hstays d.sub (by simpa using hvsub) (hsub ▸ husub)
  exact congrArg Prod.fst (resolveOidcUser_known (hsub ▸ OidcCall.sub_ne_empty hu) hemail hone
    d.drawn d.emailVerified d.allowSignup)

/-- An account set up by password. -/
def ann : User where
  id := 1
  email := "ann@example.com"
  hashedPassword := "h"
  isActive := true
  isSuperuser := false
  isVerified := false
  name := none
  oidcSub := none

def passwordOnly : UserStore := ⟨⟨[ann], List.nodup_singleton _⟩, .empty⟩

lemma passwordOnly_unique : Unique lower passwordOnly where
  sub _ hu _ hv _ _ _ := (List.mem_singleton.mp hu).trans (List.mem_singleton.mp hv).symm
  email _ hu _ hv _ := (List.mem_singleton.mp hu).trans (List.mem_singleton.mp hv).symm

/-- A verified login of the account's owner. -/
def annLogin : OidcCall := ⟨⟨2, "h2"⟩, "ann", "ann@example.com", true, false⟩

theorem oidc_linking_ann :
    Keeps String.toLower (OidcCall.run String.toLower passwordOnly [annLogin]) annLogin ∧
    ∀ u, (annLogin.exec String.toLower
        (OidcCall.run String.toLower passwordOnly [annLogin])).1 = .ok u →
      ∀ (later : List OidcCall) (d : OidcCall), d.sub = annLogin.sub → d.email ≠ "" →
        (d.exec String.toLower (OidcCall.run String.toLower
          (annLogin.exec String.toLower
            (OidcCall.run String.toLower passwordOnly [annLogin])).2 later)).1 = .ok u :=
  oidc_linking passwordOnly_unique [annLogin] annLogin

/-- A later call of the same subject without an email is refused before its `sub` is looked up. -/
theorem oidc_missing_email :
    ¬ ∀ (lower : String → String) (st : UserStore), Unique lower st →
      ∀ (c : OidcCall) (u : User), (c.exec lower st).1 = .ok u →
        ∀ d : OidcCall, d.sub = c.sub → (d.exec lower (c.exec lower st).2).1 = .ok u := by
  intro h
  have hlater := h id passwordOnly passwordOnly_unique annLogin (ann.link "ann" "h2") rfl
    { annLogin with email := "" } rfl
  cases hlater

end Sleuthgraph
