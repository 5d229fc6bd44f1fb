import Sleuthgraph.Auth.ClientIp
import Sleuthgraph.Auth.OidcProvision
import Sleuthgraph.Lib.Systems

/-!
# Reset and verification requests (`auth/forgot_password.py`, `auth/verify.py`)

Both routes count an attempt by the client's address and one by the email before they look the
address up, and answer 202 whatever they find. The counters are those of `auth/rate_limit.py`.
`UserManager` and the counting are libraries, so they are parameters here.
-/

namespace Sleuthgraph

open Programs Systems

/-! ## Exceptions -/

/-- The exceptions of `fastapi_users`. -/
def Exc.fastApiUsers (name : String) : Exc :=
  { mro := [name, "FastAPIUsersException", "Exception"] }

def Exc.userNotExists : Exc := Exc.fastApiUsers "UserNotExists"
def Exc.userInactive : Exc := Exc.fastApiUsers "UserInactive"
def Exc.userAlreadyVerified : Exc := Exc.fastApiUsers "UserAlreadyVerified"

/-- What the handlers raise when the attempts on an email are used up. -/
def Exc.tooManyRequests : Exc := Exc.http 429 "Too many requests. Please try again later."

/-- What the decorator of slowapi raises when the attempts of an address are used up. -/
def Exc.rateLimitExceeded : Exc := { mro := ["RateLimitExceeded", "HTTPException", "Exception"] }

/-! ## Libraries and settings -/

structure RateSettings where
  trustCloudflareEdge : Bool := true
  authForgotPasswordIpRate : String := "5/minute"
  authForgotPasswordEmailRate : String := "3/hour"
  authLoginIpRate : String := "10/minute"
  authLoginUsernameRate : String := "5/minute"
  authOidcCallbackIpRate : String := "30/minute"
  authVerifyIpRate : String := "5/minute"
  authVerifyEmailRate : String := "3/hour"

/-- The two limiters: an attempt at a time, against a rate and the keys of a bucket, is counted and
allowed or not. -/
structure RateLimiters (Counters : Type) where
  ipLimiter : Counters → Time → String → List Char → String → Bool × Counters
  bodyStrategy : Counters → Time → String → List Char → Bool × Counters

/-- `BaseUserManager`. The last two raise, or call their hook with a token. -/
structure UserManager where
  getByEmail : UserStore → List Char → Except Exc User
  forgotPassword : Time → User → Except Exc String
  requestVerify : Time → User → Except Exc String

/-- The exceptions the methods are documented to raise. -/
structure UserManager.Documented (manager : UserManager) : Prop where
  getByEmail : ∀ users email e, manager.getByEmail users email = .error e →
    e.isinstance "UserNotExists"
  forgotPassword : ∀ now user e, manager.forgotPassword now user = .error e →
    e.isinstance "UserInactive"
  requestVerify : ∀ now user e, manager.requestVerify now user = .error e →
    e.isinstance "UserInactive" ∨ e.isinstance "UserAlreadyVerified"

/-- What the `EmailSender` was asked to send. -/
inductive Mail where
  | passwordReset (email token : String)
  | emailVerify (email token : String)

/-- The counters, and the mail sent. -/
structure Mailroom (Counters : Type) where
  counters : Counters
  sent : List Mail

/-- Programs of the handlers. -/
abbrev Handler (Counters α : Type) := Prog (Mailroom Counters) Exc α

/-! ## Handlers -/

section Handlers

variable {Counters : Type} (limits : RateLimiters Counters) (manager : UserManager)
variable (settings : RateSettings) (lower : List Char → List Char)

/-- An attempt is counted. -/
def hit (count : Counters → Bool × Counters) : Handler Counters Bool := fun s =>
  let (allowed, counters) := count s.counters
  (.ok allowed, { s with counters })

/-- The sender does not raise. -/
def sendMail (mail : Mail) : Handler Counters Unit := fun s =>
  (.ok (), { s with sent := mail :: s.sent })

/-- `email_rate_limit_hit` -/
def emailRateLimitHit (now : Time) (email : List Char) : Handler Counters Bool :=
  hit fun c => limits.bodyStrategy c now settings.authForgotPasswordEmailRate
    ("forgot:".toList ++ lower email)

/-- `verify_email_rate_limit_hit` -/
def verifyEmailRateLimitHit (now : Time) (email : List Char) : Handler Counters Bool :=
  hit fun c => limits.bodyStrategy c now settings.authVerifyEmailRate
    ("verify:".toList ++ lower email)

/-- `except` with exceptions of these classes and no body. -/
def suppress (classes : List String) (m : Handler Counters Unit) : Handler Counters Unit :=
  tryCatch m fun e => if classes.any e.isinstance then pure () else throw e

/-- `user_manager.forgot_password(user, request)`, with `on_after_forgot_password`. -/
def UserManager.sendReset (now : Time) (user : User) : Handler Counters Unit := do
  let token ← Prog.ofExcept (manager.forgotPassword now user)
  sendMail (.passwordReset user.email token)

/-- `user_manager.request_verify(user, request)`, with `on_after_request_verify`. -/
def UserManager.sendVerify (now : Time) (user : User) : Handler Counters Unit := do
  let token ← Prog.ofExcept (manager.requestVerify now user)
  sendMail (.emailVerify user.email token)

/-- `forgot_password` -/
def forgotPassword (users : UserStore) (now : Time) (email : List Char) :
    Handler Counters Unit := do
  let allowed ← emailRateLimitHit limits settings lower now email
  if !allowed then throw Exc.tooManyRequests
  else match manager.getByEmail users email with
    | .error e => if e.isinstance "UserNotExists" then pure () else throw e
    | .ok user => suppress ["UserInactive"] (manager.sendReset now user)

/-- `request_verify_token` -/
def requestVerifyToken (users : UserStore) (now : Time) (email : List Char) :
    Handler Counters Unit := do
  let allowed ← verifyEmailRateLimitHit limits settings lower now email
  if !allowed then throw Exc.tooManyRequests
  else suppress ["UserNotExists", "UserInactive", "UserAlreadyVerified"] do
    let user ← Prog.ofExcept (manager.getByEmail users email)
    manager.sendVerify now user

/-! ## Requests -/

inductive AuthRoute where
  | forgotPassword
  | requestVerifyToken

/-- A request with an email in its body, and its time. -/
structure AuthRequest where
  route : AuthRoute
  client : ClientRequest
  email : List Char
  now : Time

/-- What the client gets: 202 without a body, or a status and a detail. -/
inductive AuthResponse where
  | accepted
  | error (text : String)
deriving DecidableEq

/-- `rate_limit_exceeded_handler` answers for the decorator. An exception without a status of its
own is an internal error. -/
def AuthResponse.of : Except Exc Unit → AuthResponse
  | .ok () => .accepted
  | .error e => .error
    (if e.isinstance "RateLimitExceeded" then Exc.tooManyRequests.text
      else if e.isinstance "HTTPException" then e.text else "500 Internal Server Error")

/-- The decorator `@ip_limiter.limit(rate)`. It counts per route. -/
def ipLimited (rate route : String) (req : AuthRequest) (handler : Handler Counters Unit) :
    Handler Counters Unit := do
  let ip := getClientIp settings.trustCloudflareEdge req.client
  let allowed ← hit fun c => limits.ipLimiter c req.now rate ip route
  if !allowed then throw Exc.rateLimitExceeded else handler

/-- The decorated handler of a route. -/
def AuthRequest.handler (users : UserStore) (req : AuthRequest) (email : List Char) :
    Handler Counters Unit :=
  match req.route with
  | .forgotPassword =>
    ipLimited limits settings settings.authForgotPasswordIpRate "forgot_password" req
      (forgotPassword limits manager settings lower users req.now email)
  | .requestVerifyToken =>
    ipLimited limits settings settings.authVerifyIpRate "request_verify_token" req
      (requestVerifyToken limits manager settings lower users req.now email)

/-- A request is answered. The body is read first: `emailStr` is the validation of `EmailStr`, which
normalizes the address or says what is wrong with it. -/
def AuthRequest.answer (emailStr : List Char → Except String (List Char)) (users : UserStore)
    (s : Mailroom Counters) (req : AuthRequest) : AuthResponse × Mailroom Counters :=
  match emailStr req.email with
  | .error detail => (.error ("422 " ++ detail), s)
  | .ok email =>
    let (r, s') := req.handler limits manager settings lower users email s
    (.of r, s')

/-! ## Two databases -/

/-- From states with the same counters, the same outcome and the same counters. -/
def Unaware {α : Type} (m m' : Handler Counters α) : Prop :=
  ∀ s t, s.counters = t.counters →
    (m s).1 = (m' t).1 ∧ (m s).2.counters = (m' t).2.counters

/-- It returns, and counts no attempt. -/
def Quiet (m : Handler Counters Unit) : Prop :=
  ∀ s, (m s).1 = .ok () ∧ (m s).2.counters = s.counters

namespace Unaware

variable {α β : Type}

lemma throw (e : Exc) : Unaware (throw e : Handler Counters α) (throw e) :=
  fun _ _ h => ⟨rfl, h⟩

lemma of_quiet {m m' : Handler Counters Unit} (hm : Quiet m) (hm' : Quiet m') :
    Unaware m m' := by
  intro s t h
  rw [(hm s).1, (hm' t).1, (hm s).2, (hm' t).2]
  exact ⟨rfl, h⟩

/-- An attempt is counted before anything is known of the user. -/
lemma hit_bind (count : Counters → Bool × Counters) {f f' : Bool → Handler Counters α}
    (hf : ∀ allowed, Unaware (f allowed) (f' allowed)) :
    Unaware (hit count >>= f) (hit count >>= f') := by
  intro s t h
  have hcount : count s.counters = count t.counters := by rw [h]
  show (f (count s.counters).1 { s with counters := (count s.counters).2 }).1
      = (f' (count t.counters).1 { t with counters := (count t.counters).2 }).1
    ∧ (f (count s.counters).1 { s with counters := (count s.counters).2 }).2.counters
      = (f' (count t.counters).1 { t with counters := (count t.counters).2 }).2.counters
  rw [hcount]
  exact hf _ _ _ rfl

end Unaware

namespace Quiet

lemma pure : Quiet (pure () : Handler Counters Unit) := fun _ => ⟨rfl, rfl⟩

/-- An exception of one of the classes goes no further. -/
lemma suppress_error {classes : List String} {e : Exc}
    (he : classes.any e.isinstance = true) (s : Mailroom Counters) :
    suppress classes (throw e) s = (.ok (), s) := by
  have hhandler : (if classes.any e.isinstance = true then Pure.pure () else throw e :
      Handler Counters Unit) = Pure.pure () := if_pos he
  show (if classes.any e.isinstance = true then Pure.pure () else throw e :
    Handler Counters Unit) s = (.ok (), s)
  rw [hhandler, Prog.pure_apply]

/-- A call whose exceptions are all suppressed. -/
lemma suppress_bind {α : Type} {classes : List String} {r : Except Exc α}
    {f : α → Handler Counters Unit} (hr : ∀ e, r = .error e → classes.any e.isinstance = true)
    (hf : ∀ a, Quiet (suppress classes (f a))) :
    Quiet (suppress classes (Prog.ofExcept r >>= f)) := by
  intro s
  cases r with
  | ok a => exact hf a s
  | error e =>
    have hthrow : suppress classes (Prog.ofExcept (.error e) >>= f) s = (.ok (), s) :=
      suppress_error (hr e rfl) s
    rw [hthrow]
    exact ⟨rfl, rfl⟩

/-- A mail that is sent raises nothing to suppress. -/
lemma suppress_sendMail (classes : List String) (mail : Mail) :
    Quiet (suppress classes (sendMail mail) : Handler Counters Unit) := fun _ => ⟨rfl, rfl⟩

end Quiet

section Documented

variable {manager : UserManager} (hdoc : manager.Documented)
include hdoc

/-- `forgot_password` of the manager raises what the route suppresses. -/
lemma quiet_sendReset (now : Time) (user : User) :
    Quiet (suppress ["UserInactive"] (manager.sendReset now user) : Handler Counters Unit) := by
  refine Quiet.suppress_bind (fun e he => ?_) fun token => Quiet.suppress_sendMail _ _
  have hclass := hdoc.forgotPassword now user e he
  simp [hclass]

/-- So do the lookup and `request_verify`. -/
lemma quiet_verify (users : UserStore) (now : Time) (email : List Char) :
    Quiet (suppress ["UserNotExists", "UserInactive", "UserAlreadyVerified"] (do
      let user ← Prog.ofExcept (manager.getByEmail users email)
      manager.sendVerify now user) : Handler Counters Unit) := by
  refine Quiet.suppress_bind (fun e he => ?_) fun user =>
    Quiet.suppress_bind (fun e he => ?_) fun token => Quiet.suppress_sendMail _ _
  · have hclass := hdoc.getByEmail users email e he
    simp [hclass]
  · have hclass := hdoc.requestVerify now user e he
    simpa using Or.inr hclass

/-- The reset route does not tell one table from another. -/
lemma unaware_forgotPassword (users users' : UserStore) (now : Time) (email : List Char) :
    Unaware (forgotPassword limits manager settings lower users now email)
      (forgotPassword limits manager settings lower users' now email) := by
  have hquiet : ∀ users, Quiet ((match manager.getByEmail users email with
      | .error e => if e.isinstance "UserNotExists" then pure () else throw e
      | .ok user => suppress ["UserInactive"] (manager.sendReset now user)) :
        Handler Counters Unit) := by
    intro users
    cases hfound : manager.getByEmail users email with
    | error e =>
      have hclass := hdoc.getByEmail users email e hfound
      show Quiet (if e.isinstance "UserNotExists" then pure () else throw e)
      rw [if_pos hclass]
      exact Quiet.pure
    | ok user => exact quiet_sendReset hdoc now user
  refine Unaware.hit_bind _ fun allowed => ?_
  cases allowed with
  | false => exact Unaware.throw _
  | true => exact Unaware.of_quiet (hquiet users) (hquiet users')

/-- Neither does the verification route. -/
lemma unaware_requestVerifyToken (users users' : UserStore) (now : Time) (email : List Char) :
    Unaware (requestVerifyToken limits manager settings lower users now email)
      (requestVerifyToken limits manager settings lower users' now email) := by
  refine Unaware.hit_bind _ fun allowed => ?_
  cases allowed with
  | false => exact Unaware.throw _
  | true =>
    exact Unaware.of_quiet (quiet_verify hdoc users now email) (quiet_verify hdoc users' now email)

lemma unaware_handler (users users' : UserStore) (req : AuthRequest) (email : List Char) :
    Unaware (req.handler limits manager settings lower users email)
      (req.handler limits manager settings lower users' email) := by
  have hlimited : ∀ {rate name : String} {m m' : Handler Counters Unit}, Unaware m m' →
      Unaware (ipLimited limits settings rate name req m)
        (ipLimited limits settings rate name req m') := by
    intro rate name m m' hm
    refine Unaware.hit_bind _ fun allowed => ?_
    cases allowed with
    | false => exact Unaware.throw _
    | true => exact hm
  unfold AuthRequest.handler
  cases req.route with
  | forgotPassword =>
    exact hlimited (unaware_forgotPassword limits settings lower hdoc users users' _ _)
  | requestVerifyToken =>
    exact hlimited (unaware_requestVerifyToken limits settings lower hdoc users users' _ _)

/-- One request: the same answer, and the same counters. -/
lemma answer_eq (emailStr : List Char → Except String (List Char)) (users users' : UserStore)
    {s t : Mailroom Counters} (h : s.counters = t.counters) (req : AuthRequest) :
    (req.answer limits manager settings lower emailStr users s).1
        = (req.answer limits manager settings lower emailStr users' t).1 ∧
      (req.answer limits manager settings lower emailStr users s).2.counters
        = (req.answer limits manager settings lower emailStr users' t).2.counters := by
  unfold AuthRequest.answer
  cases emailStr req.email with
  | error detail => exact ⟨rfl, h⟩
  | ok email =>
    obtain ⟨hres, hcounters⟩ :=
      unaware_handler limits settings lower hdoc users users' req email s t h
    exact ⟨congrArg AuthResponse.of hres, hcounters⟩

/-- **No enumeration.** Over any two tables of users, any requests get the same answers, from any
counters. -/
theorem no_enumeration (emailStr : List Char → Except String (List Char))
    (users users' : UserStore) (counters : Counters) (sent sent' : List Mail)
    (requests : List AuthRequest) :
    (answers (AuthRequest.answer limits manager settings lower emailStr users)
        ⟨counters, sent⟩ requests).1
      = (answers (AuthRequest.answer limits manager settings lower emailStr users')
        ⟨counters, sent'⟩ requests).1 :=
  (answers_eq (R := fun s t => s.counters = t.counters)
    (fun _ _ req h => answer_eq limits settings lower hdoc emailStr users users' h req)
    rfl requests).1

end Documented

end Handlers

/-! ### Two tables -/

/-- A limiter that allows one attempt for each bucket. -/
def onceLimiters : RateLimiters (List (List Char)) where
  ipLimiter c _ _ ip route := (!c.contains (route.toList ++ ip), (route.toList ++ ip) :: c)
  bodyStrategy c _ _ key := (!c.contains key, key :: c)

/-- The manager as its library has it, with a token that is always the same. -/
def exampleManager : UserManager where
  getByEmail users email :=
    match users.users.rows.find? fun u =>
        u.email.toList.map Char.toLower = email.map Char.toLower with
    | some user => .ok user
    | none => .error Exc.userNotExists
  forgotPassword _ user := if user.isActive then .ok "token" else .error Exc.userInactive
  requestVerify _ user :=
    if !user.isActive then .error Exc.userInactive
    else if user.isVerified then .error Exc.userAlreadyVerified
    else .ok "token"

lemma exampleManager_documented : exampleManager.Documented where
  getByEmail users email e h := by
    unfold exampleManager at h
    dsimp only at h
    split at h
    · cases h
    · cases h
      decide
  forgotPassword now user e h := by
    unfold exampleManager at h
    dsimp only at h
    split at h
    · cases h
    · cases h
      decide
  requestVerify now user e h := by
    unfold exampleManager at h
    dsimp only at h
    split at h
    · cases h
      exact Or.inl (by decide)
    · split at h
      · cases h
        exact Or.inr (by decide)
      · cases h

/-- One account. -/
def accountOf (active : Bool) : UserStore where
  users := ⟨[⟨0, "ann@example.org", "", active, false, false, none, none⟩], List.nodup_singleton _⟩
  tokens := .empty

/-- A reset, from an address of its own. -/
def resetRequest (ip email : String) : AuthRequest :=
  ⟨.forgotPassword, ⟨[], some ip.toList⟩, email.toList, 0⟩

/-- An active account, and one that is not: the second attempt is refused for both. -/
theorem no_enumeration_accounts :
    (answers (AuthRequest.answer onceLimiters exampleManager {} (List.map Char.toLower) .ok
        (accountOf true)) ⟨[], []⟩
        [resetRequest "1.1.1.1" "Ann@example.org", resetRequest "2.2.2.2" "ann@example.org"]).1
      = (answers (AuthRequest.answer onceLimiters exampleManager {} (List.map Char.toLower) .ok
        (accountOf false)) ⟨[], []⟩
        [resetRequest "1.1.1.1" "Ann@example.org", resetRequest "2.2.2.2" "ann@example.org"]).1 :=
  no_enumeration onceLimiters {} _ exampleManager_documented .ok (accountOf true)
    (accountOf false) [] [] [] _

end Sleuthgraph
