import Sleuthgraph.Auth.OidcCallbackTheorems
import Sleuthgraph.Auth.RateLimit

/-!
# Two ways in (`auth/login.py`, `auth/oidc.py`)

`login` and `oidc_callback` both write session tokens. `login` refuses a user who is not active;
`oidc_callback` does not look at `is_active`. `Doors` is the store under both, with the counters of
the rate limits and a record of the tokens written that no request reads.
-/

namespace Sleuthgraph

open Programs Transactions Tables Systems

/-! ## Requests -/

structure Credentials where
  username : String
  password : String

/-- A request to `/auth/login`, with what it draws and its clock. -/
structure LoginRequest where
  client : ClientRequest
  credentials : Credentials
  token : String
  now : Time

/-- A request to `/auth/oidc/callback`, likewise, with how the world answers it. -/
structure CallbackRequest where
  client : ClientRequest
  world : Exchange
  drawn : Drawn
  token : String
  now : Time

/-- `user_manager.authenticate(credentials)`: it may upgrade a hash, so it leaves a store. -/
abbrev Authenticate := UserStore → Credentials → Except Exc (Option User) × UserStore

/-- A user that is found is a row of the table. -/
structure Authenticate.Documented (authenticate : Authenticate) : Prop where
  row : ∀ st credentials user st', authenticate st credentials = (.ok (some user), st') →
    user ∈ st'.users
  tokens : ∀ st credentials, (authenticate st credentials).2.tokens = st.tokens

/-- The settings and libraries of the server. -/
structure DoorServer (Counters : Type) where
  limits : RateLimiters Counters
  settings : RateSettings
  allowSignup : Bool
  lower : String → String
  authenticate : Authenticate

variable {Counters : Type} (server : DoorServer Counters)

/-- `HTTPException(400, ErrorCode.LOGIN_BAD_CREDENTIALS)` -/
def Exc.loginBadCredentials : Exc := Exc.http 400 "LOGIN_BAD_CREDENTIALS"

/-- `strategy.write_token(user)` -/
def writeToken (user : User) (token : String) (now : Time) : AuthDb String := do
  write false (.insertToken ⟨token, user.id, now⟩)
  commit false
  pure token

/-- `login`, below its decorator. -/
def login (req : LoginRequest) (st : UserStore) (c : Counters) :
    Except Exc String × UserStore × Counters :=
  let (allowed, c) := server.limits.bodyStrategy c req.now server.settings.authLoginUsernameRate
    ("login:" ++ server.lower req.credentials.username).toList
  if !allowed then (.error Exc.tooManyRequests, st, c)
  else
    match server.authenticate st req.credentials with
    | (.error e, st) => (.error e, st, c)
    | (.ok none, st) => (.error Exc.loginBadCredentials, st, c)
    | (.ok (some user), st) =>
      if !user.isActive then (.error Exc.loginBadCredentials, st, c)
      else
        let (r, st) := committedBy (writeToken user req.token req.now) st
        (r, st, c)

/-- `oidc_callback`, below its decorator. -/
def callback (req : CallbackRequest) (st : UserStore) (c : Counters) :
    Except Exc String × UserStore × Counters :=
  let (r, st) := committedBy
    (oidcCallback server.lower req.world server.allowSignup req.drawn req.token req.now) st
  (r.map Prod.snd, st, c)

/-- The decorator `@ip_limiter.limit(rate)`. -/
def doorLimited (client : ClientRequest) (now : Time) (rate route : String)
    (handler : UserStore → Counters → Except Exc String × UserStore × Counters)
    (st : UserStore) (c : Counters) : Except Exc String × UserStore × Counters :=
  let ip := getClientIp server.settings.trustCloudflareEdge client
  let (allowed, c) := server.limits.ipLimiter c now rate ip route
  if !allowed then (.error Exc.rateLimitExceeded, st, c) else handler st c

/-! ## The system -/

/-- Every token written is recorded, with the row its user had then. -/
structure Doors (Counters : Type) where
  store : UserStore
  counters : Counters
  written : List (AccessToken × Option User)
deriving DecidableEq

inductive DoorAction where
  | setActive (id : UUID) (active : Bool)
  | login (req : LoginRequest)
  | callback (req : CallbackRequest)

/-- `is_active` of an account is set. -/
def UserStore.setActive (st : UserStore) (id : UUID) (active : Bool) : UserStore :=
  { st with users := st.users.modify id (fun u => { u with isActive := active }) fun _ => rfl }

/-- The tokens of `st'` that `st` does not have, with the rows of their users. -/
def newTokens (st st' : UserStore) : List (AccessToken × Option User) :=
  (st'.tokens.rows.filter fun t => !st.tokens.has t.token).map fun t =>
    (t, st'.users.find t.userId)

/-- What is left after a request. -/
def Doors.after (s : Doors Counters) (out : Except Exc String × UserStore × Counters) :
    Doors Counters :=
  ⟨out.2.1, out.2.2, newTokens s.store out.2.1 ++ s.written⟩

def doorStep (s : Doors Counters) : DoorAction → Option (Doors Counters)
  | .setActive id active => some { s with store := s.store.setActive id active }
  | .login req => some <| s.after <|
    doorLimited server req.client req.now server.settings.authLoginIpRate "login"
      (login server req) s.store s.counters
  | .callback req => some <| s.after <|
    doorLimited server req.client req.now server.settings.authOidcCallbackIpRate "oidc_callback"
      (callback server req) s.store s.counters

/-! ## The condition -/

/-- The account of an identity: that of its subject, or for a new subject the one account of its
verified email, when that is not linked. -/
inductive LeadsTo (lower : String → String) (st : UserStore) (identity : Identity) (user : User) :
    Prop
  | bySub (s : String) : identity.sub = .str s → user ∈ withSub st s →
      LeadsTo lower st identity user
  | byEmail (s t : String) : identity.sub = .str s → identity.email = .str t →
      identity.emailVerified = true → withSub st s = [] → withEmail lower st t = [user] →
      user.oidcSub = none → LeadsTo lower st identity user

/-- The identity of a callback does not lead to an account that is not active. -/
def ActiveOnly (s : Doors Counters) : DoorAction → Prop
  | .callback req => ∀ payload token claims identity,
      callbackClaims req.world = .ok (payload, token, claims) →
      callbackIdentity req.world token claims = .ok identity →
      ∀ user, LeadsTo server.lower s.store identity user → user.isActive = true
  | _ => True

/-! ## One request -/

/-- A token of an active user, as it was recorded. -/
def OfActive (w : AccessToken × Option User) : Prop :=
  ∃ user, w.2 = some user ∧ user.isActive = true

/-- A store with the tokens of another has no new ones. -/
lemma newTokens_of_same {st st' : UserStore} (h : st'.tokens = st.tokens) :
    newTokens st st' = [] := by
  have hnone : (st'.tokens.rows.filter fun t => !st.tokens.has t.token) = [] := by
    refine List.filter_eq_nil_iff.mpr fun t ht => ?_
    have hhas : st.tokens.has t.token = true := Table.has_iff.mpr ⟨t, h ▸ ht, rfl⟩
    rw [hhas]
    decide
  rw [newTokens, hnone, List.map_nil]

/-- The one token added, with the row of its user. -/
lemma mem_newTokens_insert {st st' : UserStore} {token : AccessToken} (h : st'.tokens = st.tokens)
    (haccepts : st'.accepts (.insertToken token) = true) {w : AccessToken × Option User}
    (hw : w ∈ newTokens st (st'.apply (.insertToken token))) :
    w = (token, st'.users.find token.userId) := by
  have hfresh : st'.tokens.has (pk token) = false := by
    simp only [UserStore.accepts, Bool.and_eq_true, Bool.not_eq_true'] at haccepts
    exact haccepts.1
  obtain ⟨t, ht, rfl⟩ := List.mem_map.mp hw
  obtain ⟨hmem, hnew⟩ := List.mem_filter.mp ht
  rcases (Table.mem_insert hfresh).mp hmem with hold | rfl
  · have hhas : st.tokens.has t.token = true := Table.has_iff.mpr ⟨t, h ▸ hold, rfl⟩
    rw [hhas] at hnew
    cases hnew
  · rfl

/-- A token for a row that is active. -/
lemma ofActive_insert {st st' : UserStore} {user : User} {token : String} {now : Time}
    (h : st'.tokens = st.tokens)
    (haccepts : st'.accepts (.insertToken ⟨token, user.id, now⟩) = true)
    (hmem : user ∈ st'.users) (hactive : user.isActive = true) :
    ∀ w ∈ newTokens st (st'.apply (.insertToken ⟨token, user.id, now⟩)), OfActive w := by
  intro w hw
  rw [mem_newTokens_insert h haccepts hw]
  exact ⟨user, Table.find_eq_some_iff.mpr ⟨hmem, rfl⟩, hactive⟩

/-- A write of a token, in a session of its own. -/
lemma newTokens_writeToken {st st' : UserStore} {user : User} (h : st'.tokens = st.tokens)
    (hmem : user ∈ st'.users) (hactive : user.isActive = true) (token : String) (now : Time) :
    ∀ w ∈ newTokens st (committedBy (writeToken user token now) st').2, OfActive w := by
  rw [writeToken, committedBy_write]
  split
  · rename_i haccepts
    exact ofActive_insert h haccepts hmem hactive
  · rw [newTokens_of_same h]
    exact fun w hw => nomatch hw

variable {server}

/-- A login is refused to a user who is not active. -/
lemma newTokens_login (hdoc : server.authenticate.Documented) (req : LoginRequest)
    (st : UserStore) (c : Counters) :
    ∀ w ∈ newTokens st (login server req st c).2.1, OfActive w := by
  have hnone : ∀ {st' : UserStore}, st'.tokens = st.tokens →
      ∀ w ∈ newTokens st st', OfActive w := by
    intro st' h
    rw [newTokens_of_same h]
    exact fun w hw => nomatch hw
  have htokens := hdoc.tokens st req.credentials
  unfold login
  dsimp only
  split
  · exact hnone rfl
  · cases hcheck : server.authenticate st req.credentials with
    | mk r st' =>
      rw [hcheck] at htokens
      cases r with
      | error e => exact hnone htokens
      | ok found =>
        cases found with
        | none => exact hnone htokens
        | some user =>
          dsimp only
          split
          · exact hnone htokens
          · rename_i hactive
            have hmem : user ∈ st'.users := hdoc.row st req.credentials user st' hcheck
            exact newTokens_writeToken htokens hmem (by simpa using hactive) _ _

/-- What a resolution finds, links or adds is a row; it is active if the identity leads to active
accounts only. -/
lemma Resolves.active {lower : String → String} {st : UserStore} {drawn : Drawn}
    {identity : Identity} {allowSignup : Bool} {user : User} {st' : UserStore}
    (h : Resolves lower st drawn identity.sub identity.email identity.emailVerified allowSignup
      (.ok user, st'))
    (hleads : ∀ u, LeadsTo lower st identity u → u.isActive = true) :
    user ∈ st'.users ∧ user.isActive = true ∧ st'.tokens = st.tokens := by
  cases h with
  | known s hs hs' _ huser =>
    exact ⟨(mem_withSub.mp huser).1, hleads user (.bySub s hs huser), rfl⟩
  | linked s t hs ht hs' ht' hsub u hu hnull hverified haccepts =>
    have hmem : u ∈ st.users := (mem_withEmail.mp (hu ▸ List.mem_singleton_self u)).1
    have hactive := hleads u (.byEmail s t hs ht hverified hsub hu hnull)
    exact ⟨mem_linkUser.mpr ⟨u, hmem, (if_pos rfl).symm⟩, hactive, rfl⟩
  | created s t hs ht hs' ht' hsub hemail hsignup hverified haccepts =>
    exact ⟨(Table.mem_insert (accepts_insertUser haccepts)).mpr (Or.inr rfl), rfl, rfl⟩

/-- A resolution that raises has changed nothing. -/
lemma Resolves.unchanged {lower : String → String} {st : UserStore} {drawn : Drawn}
    {sub email : PyVal} {emailVerified allowSignup : Bool} {e : Exc} {st' : UserStore}
    (h : Resolves lower st drawn sub email emailVerified allowSignup (.error e, st')) :
    st' = st := by
  cases h
  rfl

/-- A callback with an identity: its account is resolved, and then a token is issued. -/
lemma oidcCallback_eq {lower : String → String} {w : Exchange} {payload : StatePayload}
    {token claims : PyDict} {identity : Identity}
    (hclaims : callbackClaims w = .ok (payload, token, claims))
    (hidentity : callbackIdentity w token claims = .ok identity) (allowSignup : Bool)
    (drawn : Drawn) (sessionToken : String) (now : Time) :
    oidcCallback lower w allowSignup drawn sessionToken now = (do
      let user ← tryCatch
        (resolveOidcUser lower drawn identity.sub identity.email identity.emailVerified allowSignup)
        fun e => throw (provisionError e)
      write false (.insertToken ⟨sessionToken, user.id, now⟩)
      commit false
      pure (payload.nextPath, sessionToken)) := by
  rw [oidcCallback, hclaims]
  show (do
    let identity ← Prog.ofExcept (callbackIdentity w token claims)
    _) = _
  rw [hidentity]
  rfl

/-- A callback of an identity that leads to active accounts only. -/
lemma newTokens_callback {req : CallbackRequest} {s : Doors Counters}
    (hleads : ActiveOnly server s (.callback req)) (c : Counters) :
    ∀ w ∈ newTokens s.store (callback server req s.store c).2.1, OfActive w := by
  have hnone : ∀ {st' : UserStore}, st'.tokens = s.store.tokens →
      ∀ w ∈ newTokens s.store st', OfActive w := by
    intro st' h
    rw [newTokens_of_same h]
    exact fun w hw => nomatch hw
  show ∀ w ∈ newTokens s.store (committedBy (oidcCallback server.lower req.world
    server.allowSignup req.drawn req.token req.now) s.store).2, OfActive w
  cases hclaims : callbackClaims req.world with
  | error e =>
    rw [oidcCallback, hclaims]
    exact hnone rfl
  | ok found =>
    obtain ⟨payload, token, claims⟩ := found
    cases hidentity : callbackIdentity req.world token claims with
    | error e =>
      rw [oidcCallback, hclaims]
      show ∀ w ∈ newTokens s.store (committedBy (do
        let identity ← Prog.ofExcept (callbackIdentity req.world token claims)
        _) s.store).2, OfActive w
      rw [hidentity]
      exact hnone rfl
    | ok identity =>
      have hres := resolveOidcUser_resolves server.lower s.store req.drawn identity.sub
        identity.email identity.emailVerified server.allowSignup
      rw [oidcCallback_eq hclaims hidentity, committedBy_issue
        (resolveOidcUser_settles server.lower req.drawn identity.sub identity.email
          identity.emailVerified server.allowSignup) provisionError
        (fun user => ⟨req.token, user.id, req.now⟩)]
      generalize committedBy _ s.store = out at hres ⊢
      obtain ⟨r, st'⟩ := out
      cases r with
      | error e =>
        obtain rfl := hres.unchanged
        exact hnone rfl
      | ok user =>
        obtain ⟨hmem, hactive, htokens⟩ :=
          hres.active (hleads payload token claims identity hclaims hidentity)
        dsimp only
        split
        · rename_i haccepts
          exact ofActive_insert htokens haccepts hmem hactive
        · exact hnone htokens

/-- The decorator adds no token. -/
lemma newTokens_doorLimited {s : Doors Counters}
    {handler : UserStore → Counters → Except Exc String × UserStore × Counters}
    (h : ∀ c, ∀ w ∈ newTokens s.store (handler s.store c).2.1, OfActive w)
    (client : ClientRequest) (now : Time) (rate route : String) :
    ∀ w ∈ newTokens s.store
      (doorLimited server client now rate route handler s.store s.counters).2.1, OfActive w := by
  unfold doorLimited
  dsimp only
  split
  · rw [newTokens_of_same rfl]
    exact fun w hw => nomatch hw
  · exact h _

/-! ## Runs -/

/-- What one step records. -/
lemma doorStep_written (hdoc : server.authenticate.Documented) {s s' : Doors Counters}
    {a : DoorAction} (hs : ∀ w ∈ s.written, OfActive w) (ha : ActiveOnly server s a)
    (hstep : doorStep server s a = some s') : ∀ w ∈ s'.written, OfActive w := by
  have hafter : ∀ {out : Except Exc String × UserStore × Counters},
      (∀ w ∈ newTokens s.store out.2.1, OfActive w) → ∀ w ∈ (s.after out).written, OfActive w := by
    intro out hout w hw
    rcases List.mem_append.mp hw with hw | hw
    · exact hout w hw
    · exact hs w hw
  cases a with
  | setActive id active =>
    cases hstep
    exact hs
  | login req =>
    cases hstep
    exact hafter (newTokens_doorLimited (newTokens_login hdoc req s.store) _ _ _ _)
  | callback req =>
    cases hstep
    exact hafter (newTokens_doorLimited (newTokens_callback ha) _ _ _ _)

/-- **Deactivated users stay out.** In every run whose callbacks lead to active accounts only, each
token is written for a user who is active then. -/
theorem written_ofActive (hdoc : server.authenticate.Documented) (store : UserStore)
    (counters : Counters) {s : Doors Counters}
    (h : Reaches (doorStep server) (ActiveOnly server) ⟨store, counters, []⟩ s) :
    ∀ w ∈ s.written, ∃ user, w.2 = some user ∧ user.isActive = true :=
  Reaches.invariant (I := fun s => ∀ w ∈ s.written, OfActive w)
    (fun _ hw => absurd hw List.not_mem_nil)
    (fun _ _ _ hs ha hstep => doorStep_written hdoc hs ha hstep) h

/-! ### Two runs -/

/-- A user of both doors. -/
def bobAccount (active : Bool) : User :=
  ⟨1, "bob@example.org", "secret", active, false, true, none, some "bob"⟩

/-- A table with that user. -/
def bobOnly (active : Bool) : UserStore := ⟨⟨[bobAccount active], List.nodup_singleton _⟩, .empty⟩

/-- Passwords are their own hashes here, and no attempt is refused. -/
def lenientServer : DoorServer Unit where
  limits := ⟨fun c _ _ _ _ => (true, c), fun c _ _ _ => (true, c)⟩
  settings := {}
  allowSignup := false
  lower := String.toLower
  authenticate st credentials := (.ok (st.users.rows.find? fun u =>
    u.email = credentials.username && u.hashedPassword = credentials.password), st)

lemma lenientServer_documented : lenientServer.authenticate.Documented where
  row st credentials user st' h := by
    obtain ⟨hfound, rfl⟩ := Prod.mk.inj h
    exact List.mem_of_find?_eq_some (Except.ok.inj hfound)
  tokens _ _ := rfl

/-- The identity provider vouches for the subject `bob`. -/
def bobCallback : CallbackRequest where
  client := ⟨[], none⟩
  world :=
    { configured := true
      state := .ok ⟨"v", "/", "n"⟩
      accessToken := fun _ => .ok [("id_token", .str "t")]
      validateIdToken := fun _ _ => .ok [("sub", .str "bob"), ("email", .str "bob@example.org")]
      userinfo := fun _ => .ok ("bob", .str "bob@example.org") }
  drawn := ⟨2, "h"⟩
  token := "s"
  now := 0

/-- The state in which he has signed in. -/
def bobSignedIn (active : Bool) : Doors Unit where
  store := { bobOnly active with tokens := ⟨[⟨"s", 1, 0⟩], List.nodup_singleton _⟩ }
  counters := ()
  written := [(⟨"s", 1, 0⟩, some (bobAccount active))]

/-- The callback does not ask whether the account is active. -/
lemma bobCallback_step (active : Bool) :
    doorStep lenientServer ⟨bobOnly active, (), []⟩ (.callback bobCallback)
      = some (bobSignedIn active) := by
  cases active with
  | false => decide +kernel
  | true => decide +kernel

lemma LeadsTo.mem {lower : String → String} {st : UserStore} {identity : Identity} {user : User}
    (h : LeadsTo lower st identity user) : user ∈ st.users := by
  cases h with
  | bySub s hs huser => exact (mem_withSub.mp huser).1
  | byEmail s t hs ht hverified hsub huser hnull =>
    exact (mem_withEmail.mp (huser ▸ List.mem_singleton_self user)).1

theorem written_ofActive_bob :
    ∃ user, some (bobAccount true) = some user ∧ user.isActive = true := by
  have hallowed : ActiveOnly lenientServer ⟨bobOnly true, (), []⟩ (.callback bobCallback) := by
    intro payload token claims identity _ _ user huser
    obtain rfl : user = bobAccount true := List.mem_singleton.mp huser.mem
    rfl
  have hreached : Reaches (doorStep lenientServer) (ActiveOnly lenientServer) ⟨bobOnly true, (), []⟩
      (bobSignedIn true) := .step _ .start hallowed (bobCallback_step true)
  exact written_ofActive lenientServer_documented (bobOnly true) () hreached (⟨"s", 1, 0⟩, _)
    (List.mem_singleton_self _)

/-- A deactivated user signs in through the other door. -/
theorem deactivated_signs_in :
    ¬ ∀ (server : DoorServer Unit), server.authenticate.Documented → ∀ (store : UserStore) s,
      Reaches (doorStep server) (fun _ _ => True) ⟨store, (), []⟩ s →
        ∀ w ∈ s.written, ∃ user, w.2 = some user ∧ user.isActive = true := by
  intro h
  have hoff : doorStep lenientServer ⟨bobOnly true, (), []⟩ (.setActive 1 false)
      = some ⟨bobOnly false, (), []⟩ := rfl
  have hreached : Reaches (doorStep lenientServer) (fun _ _ => True) ⟨bobOnly true, (), []⟩
      (bobSignedIn false) := .step _ (.step _ .start trivial hoff) trivial (bobCallback_step false)
  obtain ⟨user, huser, hactive⟩ := h lenientServer lenientServer_documented (bobOnly true) _
    hreached (⟨"s", 1, 0⟩, some (bobAccount false)) (List.mem_singleton_self _)
  cases huser
  cases hactive

end Sleuthgraph
