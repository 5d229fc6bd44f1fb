import Sleuthgraph.Auth.OidcCallback
import Sleuthgraph.Auth.OidcProvisionTheorems

/-!
# Which identity the callback lets in

The callback changes the accounts exactly when the policy links or provisions
(`oidcCallback_changes_iff`), so what it admits can be said about the claims, the userinfo answer
and the accounts alone. Two kinds of identity slip through: an `email_verified` claim that is
truthy without being `true` (the callback applies `bool`), and an email of a userinfo answer
about another subject (its `sub` is dropped).
-/

namespace Sleuthgraph

open Programs Transactions Tables

variable {lower : String → String}

/-! ## The policy on a new identity -/

/-- The accounts have no one under the subject `s`, and the email `t` can be linked or
provisioned for it. -/
structure NewIdentity (lower : String → String) (st : UserStore) (drawn : Drawn)
    (allowSignup : Bool) (s t : String) : Prop where
  sub : s ≠ ""
  email : t ≠ ""
  unknown : withSub st s = []
  room : (∃ user : User, withEmail lower st t = [user] ∧ user.oidcSub = none ∧
      st.accepts (.linkUser user.id s drawn.secretHash) = true) ∨
    (withEmail lower st t = [] ∧ allowSignup = true ∧
      st.accepts (.insertUser (newUser drawn t s)) = true)

/-- The one account of the email, not linked yet, is linked. -/
lemma resolveOidcUser_link {st : UserStore} {s t : String} {user : User} (hs : s ≠ "")
    (ht : t ≠ "") (hsub : withSub st s = []) (hemail : withEmail lower st t = [user])
    (hnull : user.oidcSub = none) {drawn : Drawn}
    (haccepts : st.accepts (.linkUser user.id s drawn.secretHash) = true) (allowSignup : Bool) :
    committedBy (resolveOidcUser lower drawn (.str s) (.str t) true allowSignup) st
      = (.ok (user.link s drawn.secretHash), st.apply (.linkUser user.id s drawn.secretHash)) := by
  have hs' : ¬ (!(PyVal.str s).truthy) = true := by simpa [PyVal.truthy] using hs
  have ht' : ¬ (!(PyVal.str t).truthy) = true := by simpa [PyVal.truthy] using ht
  have hnone : scalarOneOrNone ([] : List User) = .ok none := rfl
  have hone : scalarOneOrNone [user] = .ok (some user) := rfl
  rw [resolveOidcUser, if_neg hs', if_neg ht', findBySub, committedBy_find, hsub, hnone]
  dsimp only
  rw [findByEmailCi, committedBy_find, hemail, hone]
  simp only [hnull, Bool.not_true, Bool.false_eq_true, if_false, PyVal.text]
  rw [committedBy_write, if_pos haccepts]

/-- An email of no account is provisioned. -/
lemma resolveOidcUser_create {st : UserStore} {s t : String} (hs : s ≠ "") (ht : t ≠ "")
    (hsub : withSub st s = []) (hemail : withEmail lower st t = []) {drawn : Drawn}
    (haccepts : st.accepts (.insertUser (newUser drawn t s)) = true) :
    committedBy (resolveOidcUser lower drawn (.str s) (.str t) true true) st
      = (.ok (newUser drawn t s), st.apply (.insertUser (newUser drawn t s))) := by
  have hs' : ¬ (!(PyVal.str s).truthy) = true := by simpa [PyVal.truthy] using hs
  have ht' : ¬ (!(PyVal.str t).truthy) = true := by simpa [PyVal.truthy] using ht
  have hnone : scalarOneOrNone ([] : List User) = .ok none := rfl
  rw [resolveOidcUser, if_neg hs', if_neg ht', findBySub, committedBy_find, hsub, hnone]
  dsimp only
  rw [findByEmailCi, committedBy_find, hemail, hnone]
  simp only [Bool.not_true, Bool.false_eq_true, if_false, PyVal.text]
  rw [committedBy_write, if_pos haccepts]

/-- **When the policy changes the accounts.** -/
theorem resolveOidcUser_changes_iff (st : UserStore) (drawn : Drawn) (sub email : PyVal)
    (emailVerified allowSignup : Bool) :
    (committedBy (resolveOidcUser lower drawn sub email emailVerified allowSignup) st).2.users
        ≠ st.users ↔
      emailVerified = true ∧ ∃ s t, sub = .str s ∧ email = .str t ∧
        NewIdentity lower st drawn allowSignup s t := by
  constructor
  · intro hne
    have hres := resolveOidcUser_resolves lower st drawn sub email emailVerified allowSignup
    generalize committedBy _ st = out at hne hres
    cases hres with
    | raised e => exact absurd rfl hne
    | known s hs hs' user huser => exact absurd rfl hne
    | linked s t hs ht hs' ht' hsub user huser hnull hverified haccepts =>
      exact ⟨hverified, s, t, hs, ht, hs', ht', hsub, Or.inl ⟨user, huser, hnull, haccepts⟩⟩
    | created s t hs ht hs' ht' hsub hemail hsignup hverified haccepts =>
      exact ⟨hverified, s, t, hs, ht, hs', ht', hsub, Or.inr ⟨hemail, hsignup, haccepts⟩⟩
  · rintro ⟨rfl, s, t, rfl, rfl, hnew⟩ heq
    rcases hnew.room with ⟨user, huser, hnull, haccepts⟩ | ⟨hemail, hsignup, haccepts⟩
    · rw [resolveOidcUser_link hnew.sub hnew.email hnew.unknown huser hnull haccepts] at heq
      -- the linked row answers to the subject, which no row did
      have hmem : user ∈ st.users := (mem_withEmail.mp (huser ▸ List.mem_singleton_self user)).1
      have hlinked : user.link s drawn.secretHash ∈ st.users :=
        heq ▸ mem_linkUser.mpr ⟨user, hmem, (if_pos rfl).symm⟩
      have hsub := mem_withSub.mpr ⟨hlinked, rfl⟩
      rw [hnew.unknown] at hsub
      cases hsub
    -- the new row answers to the subject as well
    · subst hsignup
      rw [resolveOidcUser_create hnew.sub hnew.email hnew.unknown hemail haccepts] at heq
      have hadded : newUser drawn t s ∈ st.users :=
        heq ▸ (Table.mem_insert (accepts_insertUser haccepts)).mpr (Or.inr rfl)
      have hsub := mem_withSub.mpr ⟨hadded, rfl⟩
      rw [hnew.unknown] at hsub
      cases hsub

/-! ## The callback around the policy -/

section Idle

variable {P : Session UserStore UserWrite Unit → Prop}

/-- No statement is pending when the program returns; a raise may leave anything. -/
abbrev Settles {α : Type} (m : AuthDb α) : Prop :=
  Prog.Triple Session.Idle m (fun _ => Session.Idle) fun _ _ => True

lemma settles_query {α : Type} (lost : Bool) (q : UserStore → α) :
    Settles (query lost q) := by
  refine Prog.Triple.intro (fun s a s' hs h => ?_) fun _ _ _ _ _ => trivial
  cases lost
  · rw [query_apply hs.failed] at h
    cases h
    exact hs
  · rw [query_lost hs.failed] at h
    cases h

lemma settles_ofExcept {α : Type} (r : Except Exc α) :
    Settles (Prog.ofExcept r) := by
  cases r with
  | ok a => exact Prog.Triple.pure fun _ h => h
  | error e => exact Prog.Triple.throw fun _ _ => trivial

lemma settles_write {α : Type} (w : UserWrite) (a : α) :
    Settles (do write false w; commit false; pure a) := by
  have hcommit : Prog.Triple (fun _ => True) (commit false : AuthDb Unit) (fun _ => Session.Idle)
      fun _ _ => True := by
    refine Prog.Triple.intro (fun s u s' _ h => ?_) fun _ _ _ _ _ => trivial
    unfold commit at h
    split at h
    · cases h
    · rename_i hf
      cases h
      exact ⟨rfl, by simpa using hf⟩
  refine Prog.Triple.bind (Q := fun _ _ => True) ?_ fun _ => hcommit.bind fun _ =>
    Prog.Triple.pure fun _ h => h
  exact Prog.Triple.intro (fun _ _ _ _ _ => trivial) fun _ _ _ _ _ => trivial

variable (lower) in
lemma resolveOidcUser_settles (drawn : Drawn) (sub email : PyVal)
    (emailVerified allowSignup : Bool) :
    Settles (resolveOidcUser lower drawn sub email emailVerified allowSignup) := by
  have hthrow : ∀ {α : Type} (e : Exc), Settles (throw e : AuthDb α) :=
    fun e => Prog.Triple.throw fun _ _ => trivial
  have hsub : Settles (findBySub sub) := by
    cases sub with
    | str s => exact (settles_query _ _).bind fun _ => settles_ofExcept _
    | _ => exact settles_query true fun _ => (none : Option User)
  have hemail : Settles (findByEmailCi lower email) := by
    cases email with
    | str t => exact (settles_query _ _).bind fun _ => settles_ofExcept _
    | _ => exact hthrow _
  refine Prog.Triple.ite (fun _ => hthrow _) fun _ => ?_
  refine Prog.Triple.ite (fun _ => hthrow _) fun _ => ?_
  refine hsub.bind fun found => ?_
  cases found with
  | some existing => exact Prog.Triple.pure fun _ h => h
  | none =>
    refine hemail.bind fun byEmail => ?_
    cases byEmail with
    | some user =>
      dsimp only
      split
      · exact Prog.Triple.ite (fun _ => hthrow _) fun _ => settles_write _ _
      · exact Prog.Triple.ite (fun _ => hthrow _) fun _ => Prog.Triple.pure fun _ h => h
    | none =>
      exact Prog.Triple.ite (fun _ => hthrow _) fun _ =>
        Prog.Triple.ite (fun _ => hthrow _) fun _ => settles_write _ _

end Idle

/-- What is issued after a resolution: nothing if it raises, and else a token, if the table takes
it. -/
lemma committedBy_issue {m : AuthDb User} (hm : Settles m) (handler : Exc → Exc)
    (token : User → AccessToken) (answer : String × String) (st : UserStore) :
    committedBy
      (do
        let user ← tryCatch m fun e => throw (handler e)
        write false (.insertToken (token user))
        commit false
        pure answer) st
      = match committedBy m st with
        | (.error e, st') => (.error (handler e), st')
        | (.ok user, st') =>
          if st'.accepts (.insertToken (token user)) then
            (.ok answer, st'.apply (.insertToken (token user)))
          else (.error Exc.dbApiError, st') := by
  have hidle : Session.Idle (⟨st, [], false, ()⟩ : Session UserStore UserWrite Unit) := ⟨rfl, rfl⟩
  simp only [committedBy]
  cases hms : m ⟨st, [], false, ()⟩ with
  | mk r s' =>
    cases r with
    -- the handler raises in its turn, and issues nothing
    | error e => rw [Prog.bind_apply_error (Prog.tryCatch_apply_error hms)]
    | ok user =>
      obtain ⟨hpending, hfailed⟩ := hm.ok hidle hms
      rw [Prog.bind_apply_ok (Prog.tryCatch_apply_ok hms)]
      have hwork : s'.work = s'.committed := Session.Idle.work ⟨hpending, hfailed⟩
      by_cases h : Writes.accepts s'.work (UserWrite.insertToken (token user)) = true
      · have hcommit := commit_apply (ε := Exc) (s := s'.extend [.insertToken (token user)]) hfailed
        have haccepts : s'.committed.accepts (.insertToken (token user)) = true := hwork ▸ h
        rw [Prog.bind_apply_ok (write_apply hfailed h), Prog.bind_apply_ok hcommit,
          Session.work_extend, hwork]
        exact (if_pos haccepts).symm
      · have hrefused : (write false (.insertToken (token user)) : AuthDb Unit) s'
            = (.error Exc.dbApiError, { s' with failed := true }) :=
          write_refused hfailed (by simpa using h)
        have hrefuses : ¬ s'.committed.accepts (.insertToken (token user)) = true := hwork ▸ h
        rw [Prog.bind_apply_error hrefused]
        exact (if_neg hrefuses).symm

/-- The session token has a table of its own, so the accounts are those the policy leaves. -/
lemma users_issue {m : AuthDb User} (hm : Settles m) (handler : Exc → Exc)
    (token : User → AccessToken) (answer : String × String) (st : UserStore) :
    (committedBy
      (do
        let user ← tryCatch m fun e => throw (handler e)
        write false (.insertToken (token user))
        commit false
        pure answer) st).2.users
      = (committedBy m st).2.users := by
  rw [committedBy_issue hm handler token answer st]
  generalize committedBy m st = out
  obtain ⟨r, st'⟩ := out
  cases r with
  | error e => rfl
  | ok user =>
    dsimp only
    split
    · rfl
    · rfl

/-- The email the callback works with: the claim, or without one the answer of userinfo. -/
def EmailUsed (w : Exchange) (token claims : PyDict) (t : String) : Prop :=
  PyDict.get claims "email" = .str t ∨
  ((PyDict.get claims "email").truthy = false ∧ PyDict.contains token "access_token" = true ∧
    ∃ sub, w.userinfo (PyDict.get token "access_token") = .ok (sub, .str t))

/-- The claims and userinfo ask for an account that the store would link or provision. -/
def Admits (lower : String → String) (st : UserStore) (drawn : Drawn) (allowSignup : Bool)
    (w : Exchange) (token claims : PyDict) : Prop :=
  (PyDict.get claims "email_verified").truthy = true ∧
  ∃ s t, PyDict.get claims "sub" = .str s ∧ EmailUsed w token claims t ∧
    NewIdentity lower st drawn allowSignup s t

lemma catching_ok {α : Type} {classes : List String} {e : Exc} {r : Except Exc α} {a : α} :
    catching classes e r = .ok a ↔ r = .ok a := by
  cases r <;> simp [catching]

lemma truthy_str {t : String} : (PyVal.str t).truthy = true ↔ t ≠ "" := by simp [PyVal.truthy]

lemma userinfoEmail_ok {w : Exchange} {token : PyDict} {v : PyVal} :
    userinfoEmail w token = .ok v ↔ PyDict.contains token "access_token" = true ∧
      ∃ sub, w.userinfo (PyDict.get token "access_token") = .ok (sub, v) := by
  unfold userinfoEmail
  split
  · rename_i h
    rw [catching_ok]
    cases w.userinfo (PyDict.get token "access_token") with
    | error e => simp [Except.map]
    | ok answer => simp [Except.map, h, Prod.ext_iff]
  · rename_i h
    simp [h]

/-- What the identity is made of. -/
lemma callbackIdentity_ok {w : Exchange} {token claims : PyDict} {identity : Identity} :
    callbackIdentity w token claims = .ok identity ↔
      (PyDict.get claims "sub").truthy = true ∧
      callbackEmail w token claims = .ok identity.email ∧
      identity.email.truthy = true ∧
      identity = ⟨PyDict.get claims "sub", identity.email,
        (PyDict.get claims "email_verified").truthy⟩ := by
  rw [callbackIdentity, guard_eq_ok, bind_eq_ok]
  refine and_congr_right fun _ => ?_
  constructor
  · intro ⟨email, hemail, h⟩
    obtain ⟨htruthy, h⟩ := guard_eq_ok.mp h
    obtain rfl := Except.ok.inj h
    exact ⟨hemail, htruthy, rfl⟩
  · intro ⟨hemail, htruthy, h⟩
    exact ⟨identity.email, hemail, guard_eq_ok.mpr ⟨htruthy, congrArg Except.ok h.symm⟩⟩

/-- A text that is truthy is the email used exactly when the callback picks it. -/
lemma emailUsed_iff {w : Exchange} {token claims : PyDict} {t : String} (ht : t ≠ "") :
    callbackEmail w token claims = .ok (.str t) ↔ EmailUsed w token claims t := by
  have htruthy := truthy_str.mpr ht
  unfold EmailUsed callbackEmail
  by_cases h : (PyDict.get claims "email").truthy = true
  · simp [h]
  · have hne : PyDict.get claims "email" ≠ .str t := fun heq => h (heq ▸ htruthy)
    simp [h, hne, userinfoEmail_ok]

/-- **When the callback changes the accounts**, as a condition on what it is given. -/
theorem oidcCallback_changes_iff {w : Exchange} {payload : StatePayload} {token claims : PyDict}
    (hclaims : callbackClaims w = .ok (payload, token, claims)) (st : UserStore)
    (allowSignup : Bool) (drawn : Drawn) (sessionToken : String) (now : Time) :
    (committedBy (oidcCallback lower w allowSignup drawn sessionToken now) st).2.users ≠ st.users ↔
      Admits lower st drawn allowSignup w token claims := by
  have hrun : oidcCallback lower w allowSignup drawn sessionToken now = (do
      let identity ← Prog.ofExcept (callbackIdentity w token claims)
      let user ← tryCatch
        (resolveOidcUser lower drawn identity.sub identity.email identity.emailVerified allowSignup)
        fun e => throw (provisionError e)
      write false (.insertToken ⟨sessionToken, user.id, now⟩)
      commit false
      pure (payload.nextPath, sessionToken)) := by
    rw [oidcCallback, hclaims]
    rfl
  rw [hrun]
  cases hidentity : callbackIdentity w token claims with
  -- the claims give no identity, so they ask for no account
  | error e =>
    refine iff_of_false (fun h => h rfl) ?_
    rintro ⟨-, s, t, hs, ht, hnew⟩
    have hok : callbackIdentity w token claims
        = .ok ⟨.str s, .str t, (PyDict.get claims "email_verified").truthy⟩ :=
      callbackIdentity_ok.mpr ⟨by rw [hs, truthy_str]; exact hnew.sub,
        (emailUsed_iff hnew.email).mpr ht, truthy_str.mpr hnew.email, by rw [hs]⟩
    rw [hidentity] at hok
    cases hok
  | ok identity =>
    obtain ⟨-, hpick, hemail, hmade⟩ := callbackIdentity_ok.mp hidentity
    have husers := users_issue
      (resolveOidcUser_settles lower drawn identity.sub identity.email identity.emailVerified
        allowSignup) provisionError (fun user => ⟨sessionToken, user.id, now⟩)
      (payload.nextPath, sessionToken) st
    refine (not_congr (Eq.congr_left husers)).trans ?_
    rw [← ne_eq, resolveOidcUser_changes_iff]
    have hsub : identity.sub = PyDict.get claims "sub" := congrArg Identity.sub hmade
    have hverified : identity.emailVerified = (PyDict.get claims "email_verified").truthy :=
      congrArg Identity.emailVerified hmade
    unfold Admits
    rw [hsub, hverified]
    refine and_congr_right fun _ => exists_congr fun s => exists_congr fun t =>
      and_congr_right fun _ => ⟨?_, ?_⟩
    · intro ⟨ht, hnew⟩
      exact ⟨(emailUsed_iff hnew.email).mp (hpick.trans (congrArg Except.ok ht)), hnew⟩
    · intro ⟨ht, hnew⟩
      have := (emailUsed_iff hnew.email).mpr ht
      rw [hpick] at this
      exact ⟨Except.ok.inj this, hnew⟩

/-! ## Whose email it is -/

/-- The email is verified, and was asserted for the id_token's own subject. -/
structure OwnVerifiedEmail (w : Exchange) (token claims : PyDict) : Prop where
  verified : PyDict.get claims "email_verified" = .bool true
  own : (PyDict.get claims "email").truthy = true ∨
    ∃ sub email, w.userinfo (PyDict.get token "access_token") = .ok (sub, email) ∧
      PyDict.get claims "sub" = .str sub

/-- What lets a wrong identity through: `email_verified` is truthy without being `true`, or
userinfo answered about another subject. -/
def Misread (w : Exchange) (token claims : PyDict) : Prop :=
  PyDict.get claims "email_verified" ≠ .bool true ∨
  ((PyDict.get claims "email").truthy = false ∧
    ∃ sub email, w.userinfo (PyDict.get token "access_token") = .ok (sub, email) ∧
      PyDict.get claims "sub" ≠ .str sub)

/-- **Only a verified email of the same subject** links or provisions, exactly when the identity
that the accounts would admit is not misread. -/
theorem oidcCallback_ownVerifiedEmail_iff {w : Exchange} {payload : StatePayload}
    {token claims : PyDict} (hclaims : callbackClaims w = .ok (payload, token, claims))
    (st : UserStore) (allowSignup : Bool) (drawn : Drawn) (sessionToken : String) (now : Time) :
    ((committedBy (oidcCallback lower w allowSignup drawn sessionToken now) st).2.users ≠ st.users →
      OwnVerifiedEmail w token claims) ↔
      ¬ (Admits lower st drawn allowSignup w token claims ∧ Misread w token claims) := by
  rw [oidcCallback_changes_iff hclaims]
  constructor
  · intro hown ⟨hadmits, hmisread⟩
    obtain ⟨hverified, hown⟩ := hown hadmits
    rcases hmisread with hne | ⟨hfalsy, sub, email, hui, hne⟩
    · exact hne hverified
    · rcases hown with htruthy | ⟨sub', email', hui', hsub⟩
      · rw [hfalsy] at htruthy
        cases htruthy
      · rw [hui] at hui'
        cases hui'
        exact hne hsub
  · intro hok hadmits
    obtain ⟨-, s, t, hs, ht, hnew⟩ := id hadmits
    have hread : ¬ Misread w token claims := fun h => hok ⟨hadmits, h⟩
    constructor
    · by_contra hne
      exact hread (Or.inl hne)
    · rcases ht with ht | ⟨hfalsy, -, sub, hui⟩
      · exact Or.inl (by rw [ht, truthy_str]; exact hnew.email)
      · refine Or.inr ⟨sub, .str t, hui, ?_⟩
        by_contra hne
        exact hread (Or.inr ⟨hfalsy, sub, _, hui, hne⟩)

/-- Claims of a provider that sends `email_verified` as a text. -/
def malloryClaims : PyDict :=
  [("sub", .str "mallory"), ("email", .str "ann@example.com"), ("email_verified", .str "false")]

/-- A callback that reaches `malloryClaims`. -/
def malloryLogin : Exchange where
  configured := true
  state := .ok ⟨"verifier", "/", "nonce"⟩
  accessToken _ := .ok [("access_token", .str "at"), ("id_token", .str "jwt")]
  validateIdToken _ _ := .ok malloryClaims
  userinfo _ := .ok ("mallory", .str "ann@example.com")

lemma malloryLogin_claims :
    callbackClaims malloryLogin = .ok (⟨"verifier", "/", "nonce"⟩,
      [("access_token", .str "at"), ("id_token", .str "jwt")], malloryClaims) := rfl

theorem oidcCallback_ownVerifiedEmail_iff_mallory :
    ((committedBy (oidcCallback String.toLower malloryLogin false ⟨2, "h2"⟩ "t" 0)
        passwordOnly).2.users ≠ passwordOnly.users →
      OwnVerifiedEmail malloryLogin [("access_token", .str "at"), ("id_token", .str "jwt")]
        malloryClaims) ↔
      ¬ (Admits String.toLower passwordOnly ⟨2, "h2"⟩ false malloryLogin
          [("access_token", .str "at"), ("id_token", .str "jwt")] malloryClaims ∧
        Misread malloryLogin [("access_token", .str "at"), ("id_token", .str "jwt")]
          malloryClaims) :=
  oidcCallback_ownVerifiedEmail_iff malloryLogin_claims passwordOnly false ⟨2, "h2"⟩ "t" 0

/-- The text `"false"` is truthy: ann's account is linked to mallory's subject. -/
theorem oidcCallback_unverified :
    ¬ ∀ (lower : String → String) (w : Exchange) (payload : StatePayload) (token claims : PyDict),
      callbackClaims w = .ok (payload, token, claims) →
      ∀ (st : UserStore) (allowSignup : Bool) (drawn : Drawn) (sessionToken : String) (now : Time),
        (committedBy (oidcCallback lower w allowSignup drawn sessionToken now) st).2.users
          ≠ st.users → OwnVerifiedEmail w token claims := by
  intro h
  have hadmits : Admits String.toLower passwordOnly ⟨2, "h2"⟩ false malloryLogin
      [("access_token", .str "at"), ("id_token", .str "jwt")] malloryClaims := by
    refine ⟨rfl, "mallory", "ann@example.com", rfl, Or.inl rfl, by decide, by decide, rfl,
      Or.inl ⟨ann, ?_, rfl, by decide⟩⟩
    simp [withEmail, passwordOnly, ann]
  have hverified := (h String.toLower malloryLogin _ _ _ malloryLogin_claims passwordOnly false
    ⟨2, "h2"⟩ "t" 0
    ((oidcCallback_changes_iff malloryLogin_claims passwordOnly false _ _ _).mpr hadmits)).verified
  cases hverified

end Sleuthgraph
