import Sleuthgraph.Auth.FrontDoors
import Sleuthgraph.Lib.MovingWindows

/-!
# What the rate limits bound (`auth/rate_limit.py`)

The limits by email and by username are moving windows of the library `limits`, which are parameters
here: `RateLimiters.Documented` says that they log and allow as the library documents it, and
`RateLimiters.Keyed` that an attempt touches the bucket of its key and no other. Then nobody is sent
more mail, and no password is tried more often, than the settings say, however many addresses the
requests come from; and requests that share no bucket do not disturb each other.
-/

namespace Sleuthgraph

open Programs Systems MovingWindows

variable {Counters : Type}

/-! ## The library -/

/-- The key of a bucket: the rate, and what is counted. -/
abbrev BodyKey := String × List Char

/-- What `limits` documents of a moving window: an attempt is allowed if the `amount`-th latest one
is not there or out of the window, and then it is logged. `stands` says which logs the storage
stands for. The limits by address are kept apart. -/
structure RateLimiters.Documented (limits : RateLimiters Counters) (parse : String → Rate)
    (stands : Counters → (BodyKey → List Time) → Prop) : Prop where
  body : ∀ c logs, stands c logs → ∀ now, (∀ k, ∀ t ∈ logs k, t ≤ now) → ∀ rate key,
    (limits.bodyStrategy c now rate key).1
        = (MovingWindows.hit (parse rate) logs (rate, key) now).1 ∧
      stands (limits.bodyStrategy c now rate key).2
        (MovingWindows.hit (parse rate) logs (rate, key) now).2
  ip : ∀ c logs, stands c logs → ∀ now rate ip route,
    stands (limits.ipLimiter c now rate ip route).2 logs

/-- What an attempt by an address is counted under: the rate, the address and the route. -/
structure IpKey where
  rate : String
  ip : List Char
  route : String
deriving DecidableEq

/-- An attempt depends on the bucket of its key, and changes no other bucket. -/
structure RateLimiters.Keyed {β : Type} (limits : RateLimiters Counters)
    (ipBucket : Counters → IpKey → β) (bodyBucket : Counters → BodyKey → β) : Prop where
  ipSame : ∀ c c' (k : IpKey), ipBucket c k = ipBucket c' k → ∀ now,
    (limits.ipLimiter c now k.rate k.ip k.route).1
        = (limits.ipLimiter c' now k.rate k.ip k.route).1 ∧
      ipBucket (limits.ipLimiter c now k.rate k.ip k.route).2 k
        = ipBucket (limits.ipLimiter c' now k.rate k.ip k.route).2 k
  ipOther : ∀ c (k k' : IpKey), k' ≠ k → ∀ now,
    ipBucket (limits.ipLimiter c now k.rate k.ip k.route).2 k' = ipBucket c k'
  ipBody : ∀ c (k : IpKey) now k',
    bodyBucket (limits.ipLimiter c now k.rate k.ip k.route).2 k' = bodyBucket c k'
  bodySame : ∀ c c' (k : BodyKey), bodyBucket c k = bodyBucket c' k → ∀ now,
    (limits.bodyStrategy c now k.1 k.2).1 = (limits.bodyStrategy c' now k.1 k.2).1 ∧
      bodyBucket (limits.bodyStrategy c now k.1 k.2).2 k
        = bodyBucket (limits.bodyStrategy c' now k.1 k.2).2 k
  bodyOther : ∀ c (k k' : BodyKey), k' ≠ k → ∀ now,
    bodyBucket (limits.bodyStrategy c now k.1 k.2).2 k' = bodyBucket c k'
  bodyIp : ∀ c (k : BodyKey) now k',
    ipBucket (limits.bodyStrategy c now k.1 k.2).2 k' = ipBucket c k'

/-- The logs that counters stand for, with nothing in them that the clock has not seen. -/
def LogsAt (parse : String → Rate) (stands : Counters → (BodyKey → List Time) → Prop)
    (c : Counters) (clock : Time) (logs : BodyKey → List Time) : Prop :=
  stands c logs ∧ ∀ k, Kept (parse k.1) (logs k) clock

section Documented

variable {limits : RateLimiters Counters} {parse : String → Rate}
variable {stands : Counters → (BodyKey → List Time) → Prop} {c : Counters} {clock now : Time}
variable {logs : BodyKey → List Time}

lemma LogsAt.start (h : stands c fun _ => []) (clock : Time) :
    LogsAt parse stands c clock fun _ => [] :=
  ⟨h, fun _ => .nil _ _⟩

lemma LogsAt.wait (h : LogsAt parse stands c clock logs) (hclock : clock ≤ now) :
    LogsAt parse stands c now logs :=
  ⟨h.1, fun k => (h.2 k).wait hclock⟩

lemma LogsAt.ip (hdoc : limits.Documented parse stands) (h : LogsAt parse stands c clock logs)
    (now : Time) (rate : String) (ip : List Char) (route : String) :
    LogsAt parse stands (limits.ipLimiter c now rate ip route).2 clock logs :=
  ⟨hdoc.ip c logs h.1 now rate ip route, h.2⟩

/-- An attempt leaves logs that have its time, if it is allowed. -/
lemma LogsAt.body (hdoc : limits.Documented parse stands) (h : LogsAt parse stands c now logs)
    (k : BodyKey) : ∃ logs',
      LogsAt parse stands (limits.bodyStrategy c now k.1 k.2).2 now logs' ∧
      (∀ k, (logs k).Sublist (logs' k)) ∧
      ((limits.bodyStrategy c now k.1 k.2).1 = true → logs' k = now :: logs k) := by
  obtain ⟨hallowed, hleft⟩ := hdoc.body c logs h.1 now (fun k => (h.2 k).past) k.1 k.2
  have hkept := Kept.hit (fun k : BodyKey => parse k.1) h.2 k
  refine ⟨_, ⟨hleft, hkept⟩, sublist_hit (parse k.1) logs k now, fun hok => ?_⟩
  rw [hit_self, if_pos (hallowed ▸ hok)]

end Documented

/-! ## Both limits -/

section Pass

/-- What the limits of a request make of the counters, and whether they let it through. -/
def RateLimiters.pass (limits : RateLimiters Counters) (c : Counters) (now : Time) (ip : IpKey)
    (body : BodyKey) : Except Exc Unit × Counters :=
  let (allowed, c) := limits.ipLimiter c now ip.rate ip.ip ip.route
  if !allowed then (.error Exc.rateLimitExceeded, c)
  else
    let (allowed, c) := limits.bodyStrategy c now body.1 body.2
    if !allowed then (.error Exc.tooManyRequests, c) else (.ok (), c)

variable {limits : RateLimiters Counters} {c c' : Counters} {now : Time} {ip : IpKey}
variable {body : BodyKey}

/-- The counters after the attempt of the address. -/
abbrev RateLimiters.afterIp (limits : RateLimiters Counters) (c : Counters) (now : Time)
    (ip : IpKey) : Counters := (limits.ipLimiter c now ip.rate ip.ip ip.route).2

/-- The address is refused. -/
lemma pass_refused (h : (limits.ipLimiter c now ip.rate ip.ip ip.route).1 = false) :
    limits.pass c now ip body = (.error Exc.rateLimitExceeded, limits.afterIp c now ip) := by
  show (if (!(limits.ipLimiter c now ip.rate ip.ip ip.route).1) = true then _ else _) = _
  rw [h]
  rfl

/-- The attempt counts on the bucket. -/
lemma pass_counted (h : (limits.ipLimiter c now ip.rate ip.ip ip.route).1 = true) :
    limits.pass c now ip body
      = (if (limits.bodyStrategy (limits.afterIp c now ip) now body.1 body.2).1 then .ok ()
          else .error Exc.tooManyRequests,
        (limits.bodyStrategy (limits.afterIp c now ip) now body.1 body.2).2) := by
  show (if (!(limits.ipLimiter c now ip.rate ip.ip ip.route).1) = true then _ else
    if (!(limits.bodyStrategy (limits.afterIp c now ip) now body.1 body.2).1) = true
      then (Except.error Exc.tooManyRequests,
        (limits.bodyStrategy (limits.afterIp c now ip) now body.1 body.2).2)
      else (Except.ok (), (limits.bodyStrategy (limits.afterIp c now ip) now body.1 body.2).2)) = _
  rw [h]
  cases (limits.bodyStrategy (limits.afterIp c now ip) now body.1 body.2).1 with
  | false => rfl
  | true => rfl

/-- A request that is let through is logged in the bucket of its body. -/
lemma LogsAt.pass {parse : String → Rate} {stands : Counters → (BodyKey → List Time) → Prop}
    {logs : BodyKey → List Time} (hdoc : limits.Documented parse stands)
    (h : LogsAt parse stands c now logs) (ip : IpKey) (body : BodyKey) : ∃ logs',
      LogsAt parse stands (limits.pass c now ip body).2 now logs' ∧
      (∀ k, (logs k).Sublist (logs' k)) ∧
      ((limits.pass c now ip body).1 = .ok () → logs' body = now :: logs body) := by
  have hip := h.ip hdoc now ip.rate ip.ip ip.route
  cases hallowed : (limits.ipLimiter c now ip.rate ip.ip ip.route).1 with
  | false =>
    rw [pass_refused hallowed]
    exact ⟨logs, hip, fun k => List.Sublist.refl _, nofun⟩
  | true =>
    rw [pass_counted hallowed]
    obtain ⟨logs', hlogs', hlonger, hnew⟩ := hip.body hdoc body
    refine ⟨logs', hlogs', hlonger, fun hok => hnew ?_⟩
    dsimp only at hok
    split at hok
    · assumption
    · cases hok

/-! ### Buckets apart -/

variable {β : Type} {ipBucket : Counters → IpKey → β} {bodyBucket : Counters → BodyKey → β}

/-- The buckets of a request are the same. -/
def SameBuckets (ipBucket : Counters → IpKey → β) (bodyBucket : Counters → BodyKey → β)
    (c c' : Counters) (ip : IpKey) (body : BodyKey) : Prop :=
  ipBucket c ip = ipBucket c' ip ∧ bodyBucket c body = bodyBucket c' body

/-- An attempt by an address leaves the same buckets the same. -/
lemma RateLimiters.Keyed.ip_same (hkeyed : limits.Keyed ipBucket bodyBucket) {k k' : IpKey}
    (hk : ipBucket c k = ipBucket c' k) (hk' : ipBucket c k' = ipBucket c' k') (now : Time) :
    ipBucket (limits.afterIp c now k) k' = ipBucket (limits.afterIp c' now k) k' := by
  by_cases h : k' = k
  · subst h
    exact (hkeyed.ipSame c c' k' hk now).2
  · rw [hkeyed.ipOther c k k' h, hkeyed.ipOther c' k k' h, hk']

/-- So does an attempt on what is in the body. -/
lemma RateLimiters.Keyed.body_same (hkeyed : limits.Keyed ipBucket bodyBucket) {k k' : BodyKey}
    (hk : bodyBucket c k = bodyBucket c' k) (hk' : bodyBucket c k' = bodyBucket c' k')
    (now : Time) :
    bodyBucket (limits.bodyStrategy c now k.1 k.2).2 k'
      = bodyBucket (limits.bodyStrategy c' now k.1 k.2).2 k' := by
  by_cases h : k' = k
  · subst h
    exact (hkeyed.bodySame c c' k' hk now).2
  · rw [hkeyed.bodyOther c k k' h, hkeyed.bodyOther c' k k' h, hk']

/-- Where its buckets are the same, a request gets through or not alike, and leaves the same buckets
the same. -/
lemma SameBuckets.pass (hkeyed : limits.Keyed ipBucket bodyBucket)
    (h : SameBuckets ipBucket bodyBucket c c' ip body) (now : Time) :
    (limits.pass c now ip body).1 = (limits.pass c' now ip body).1 ∧
      ∀ {ip' body'}, SameBuckets ipBucket bodyBucket c c' ip' body' →
        SameBuckets ipBucket bodyBucket (limits.pass c now ip body).2
          (limits.pass c' now ip body).2 ip' body' := by
  obtain ⟨hip, hbody⟩ := h
  have hallowed := (hkeyed.ipSame c c' ip hip now).1
  have hbody' : bodyBucket (limits.afterIp c now ip) body
      = bodyBucket (limits.afterIp c' now ip) body := by
    rw [hkeyed.ipBody, hkeyed.ipBody, hbody]
  cases hrun : (limits.ipLimiter c now ip.rate ip.ip ip.route).1 with
  | false =>
    rw [pass_refused hrun, pass_refused (hallowed ▸ hrun)]
    refine ⟨rfl, fun {ip' body'} h' => ⟨hkeyed.ip_same hip h'.1 now, ?_⟩⟩
    rw [hkeyed.ipBody, hkeyed.ipBody, h'.2]
  | true =>
    rw [pass_counted hrun, pass_counted (hallowed ▸ hrun),
      (hkeyed.bodySame _ _ body hbody' now).1]
    refine ⟨rfl, fun {ip' body'} h' => ⟨?_, hkeyed.body_same hbody' ?_ now⟩⟩
    · rw [hkeyed.bodyIp, hkeyed.bodyIp]
      exact hkeyed.ip_same hip h'.1 now
    · rw [hkeyed.ipBody, hkeyed.ipBody, h'.2]

/-- A request leaves the buckets of others. -/
lemma RateLimiters.Keyed.pass_other (hkeyed : limits.Keyed ipBucket bodyBucket) {ip' : IpKey}
    {body' : BodyKey} (hip : ip' ≠ ip) (hbody : body' ≠ body) (c : Counters) (now : Time) :
    SameBuckets ipBucket bodyBucket (limits.pass c now ip body).2 c ip' body' := by
  cases hallowed : (limits.ipLimiter c now ip.rate ip.ip ip.route).1 with
  | false =>
    rw [pass_refused hallowed]
    exact ⟨hkeyed.ipOther c ip ip' hip now, hkeyed.ipBody c ip now body'⟩
  | true =>
    rw [pass_counted hallowed]
    refine ⟨?_, ?_⟩
    · rw [hkeyed.bodyIp, hkeyed.ipOther c ip ip' hip]
    · rw [hkeyed.bodyOther _ body body' hbody, hkeyed.ipBody]

end Pass

/-! ## Guarded handlers -/

section Guarded

variable (limits : RateLimiters Counters)

/-- A handler behind both limits. -/
def guarded (now : Time) (ip : IpKey) (body : BodyKey) (inner : Handler Counters Unit) :
    Handler Counters Unit := do
  let allowed ← hit fun c => limits.ipLimiter c now ip.rate ip.ip ip.route
  if !allowed then throw Exc.rateLimitExceeded
  else do
    let allowed ← hit fun c => limits.bodyStrategy c now body.1 body.2
    if !allowed then throw Exc.tooManyRequests else inner

/-- It reads nothing of the room, and leaves the counters and at most one mail, of the kind. -/
structure Inner (kind : Mail → Prop) (m : Handler Counters Unit) : Prop where
  same : ∀ s t, (m s).1 = (m t).1
  counters : ∀ s, (m s).2.counters = s.counters
  sent : ∀ s, (m s).2.sent = s.sent ∨ ∃ mail, kind mail ∧ (m s).2.sent = mail :: s.sent

namespace Inner

variable {kind : Mail → Prop}

lemma pure : Inner kind (pure () : Handler Counters Unit) :=
  ⟨fun _ _ => rfl, fun _ => rfl, fun _ => Or.inl rfl⟩

lemma throw (e : Exc) : Inner kind (throw e : Handler Counters Unit) :=
  ⟨fun _ _ => rfl, fun _ => rfl, fun _ => Or.inl rfl⟩

lemma sendMail {mail : Mail} (h : kind mail) :
    Inner kind (sendMail mail : Handler Counters Unit) :=
  ⟨fun _ _ => rfl, fun _ => rfl, fun _ => Or.inr ⟨mail, h, rfl⟩⟩

lemma ofExcept_bind {α : Type} {r : Except Exc α} {f : α → Handler Counters Unit}
    (h : ∀ a, r = .ok a → Inner kind (f a)) : Inner kind (Prog.ofExcept r >>= f) := by
  cases r with
  | ok a => exact h a rfl
  | error e => exact throw e

/-- What `suppress` makes of an outcome. -/
def suppressed (classes : List String) : Except Exc Unit → Except Exc Unit
  | .ok () => .ok ()
  | .error e => if classes.any e.isinstance then .ok () else .error e

lemma suppress_apply (classes : List String) (m : Handler Counters Unit) (s : Mailroom Counters) :
    suppress classes m s = (suppressed classes (m s).1, (m s).2) := by
  rw [suppress, Prog.tryCatch_apply]
  cases m s with
  | mk r s' =>
    cases r with
    | ok a => rfl
    | error e =>
      show (if classes.any e.isinstance = true then Pure.pure () else MonadExcept.throw e :
          Handler Counters Unit) s'
        = (if classes.any e.isinstance = true then .ok () else .error e, s')
      split
      · rfl
      · rfl

/-- Exceptions that go no further. -/
lemma suppress {m : Handler Counters Unit} (h : Inner kind m) (classes : List String) :
    Inner kind (suppress classes m) where
  same s t := by
    rw [suppress_apply, suppress_apply, h.same s t]
  counters s := by
    rw [suppress_apply]
    exact h.counters s
  sent s := by
    rw [suppress_apply]
    exact h.sent s

end Inner

variable {limits} {now : Time} {ip : IpKey} {body : BodyKey} {inner : Handler Counters Unit}

lemma hit_bind_apply {α : Type} (count : Counters → Bool × Counters)
    (f : Bool → Handler Counters α) (s : Mailroom Counters) :
    (hit count >>= f) s = f (count s.counters).1 { s with counters := (count s.counters).2 } := rfl

/-- The handler is reached when both limits let the request through. -/
lemma guarded_apply (s : Mailroom Counters) :
    guarded limits now ip body inner s
      = (Prog.ofExcept (limits.pass s.counters now ip body).1 >>= fun _ => inner)
        { s with counters := (limits.pass s.counters now ip body).2 } := by
  rw [guarded, hit_bind_apply]
  cases hip : (limits.ipLimiter s.counters now ip.rate ip.ip ip.route).1 with
  | false =>
    rw [pass_refused hip]
    rfl
  | true =>
    rw [pass_counted hip]
    show (hit _ >>= _ : Handler Counters Unit) _ = _
    rw [hit_bind_apply]
    dsimp only
    cases (limits.bodyStrategy (limits.afterIp s.counters now ip) now body.1 body.2).1 with
    | false => rfl
    | true => rfl

/-- A handler that answers by what `pass` makes of the counters. It leaves these counters, and mail
only when the request gets through. -/
structure Guards (pass : Counters → Except Exc Unit × Counters) (kind : Mail → Prop)
    (m : Handler Counters Unit) : Prop where
  counters : ∀ s, (m s).2.counters = (pass s.counters).2
  same : ∀ s t, (pass s.counters).1 = (pass t.counters).1 → (m s).1 = (m t).1
  sent : ∀ s, (m s).2.sent = s.sent ∨
    (pass s.counters).1 = .ok () ∧ ∃ mail, kind mail ∧ (m s).2.sent = mail :: s.sent

lemma Inner.guarded {kind : Mail → Prop} (h : Inner kind inner) :
    Guards (fun c => limits.pass c now ip body) kind (guarded limits now ip body inner) where
  counters s := by
    rw [guarded_apply]
    cases (limits.pass s.counters now ip body).1 with
    | error e => rfl
    | ok a => exact h.counters _
  same s t hpass := by
    rw [guarded_apply, guarded_apply, hpass]
    cases (limits.pass t.counters now ip body).1 with
    | error e => rfl
    | ok a => exact h.same _ _
  sent s := by
    rw [guarded_apply]
    cases (limits.pass s.counters now ip body).1 with
    | error e => exact Or.inl rfl
    | ok a => exact (h.sent _).imp_right fun hmail => ⟨rfl, hmail⟩

end Guarded

/-! ## The routes of `auth/forgot_password.py` and `auth/verify.py` -/

section Mailing

variable {limits : RateLimiters Counters} {manager : UserManager} {settings : RateSettings}
variable {lower : List Char → List Char}

/-- The bucket of an address. -/
def AuthRoute.ipKey (settings : RateSettings) (ip : List Char) : AuthRoute → IpKey
  | .forgotPassword => ⟨settings.authForgotPasswordIpRate, ip, "forgot_password"⟩
  | .requestVerifyToken => ⟨settings.authVerifyIpRate, ip, "request_verify_token"⟩

/-- The bucket of an email in lower case. -/
def AuthRoute.bodyKey (settings : RateSettings) (email : List Char) : AuthRoute → BodyKey
  | .forgotPassword => (settings.authForgotPasswordEmailRate, "forgot:".toList ++ email)
  | .requestVerifyToken => (settings.authVerifyEmailRate, "verify:".toList ++ email)

/-- A mail of the route to a mailbox, whatever the case of its name. -/
def AuthRoute.mails (lower : List Char → List Char) (mailbox : List Char) :
    AuthRoute → Mail → Bool
  | .forgotPassword, .passwordReset email _ => lower email.toList = mailbox
  | .requestVerifyToken, .emailVerify email _ => lower email.toList = mailbox
  | _, _ => false

/-- `SQLAlchemyUserDatabase.get_by_email` compares in lower case. -/
def UserManager.FindsByEmail (manager : UserManager) (lower : List Char → List Char) : Prop :=
  ∀ users email user, manager.getByEmail users email = .ok user →
    lower user.email.toList = lower email

variable (limits settings lower) in
/-- The limits of a request. -/
def AuthRequest.pass (req : AuthRequest) (email : List Char) (c : Counters) :
    Except Exc Unit × Counters :=
  limits.pass c req.now
    (req.route.ipKey settings (getClientIp settings.trustCloudflareEdge req.client))
    (req.route.bodyKey settings (lower email))

/-- The mail of a route. -/
def AuthRoute.mail (email token : String) : AuthRoute → Mail
  | .forgotPassword => .passwordReset email token
  | .requestVerifyToken => .emailVerify email token

/-- Both routes are guarded, and mail to the account that is found. -/
lemma AuthRequest.handler_guards {kind : Mail → Prop} (users : UserStore) (req : AuthRequest)
    (email : List Char) (hkind : ∀ user, manager.getByEmail users email = .ok user →
      ∀ token, kind (req.route.mail user.email token)) :
    Guards (req.pass limits settings lower email) kind
      (req.handler limits manager settings lower users email) := by
  unfold AuthRequest.pass AuthRequest.handler
  cases hroute : req.route with
  | forgotPassword =>
    rw [hroute] at hkind
    refine Inner.guarded ?_
    cases hfound : manager.getByEmail users email with
    | error e =>
      show Inner _ (if e.isinstance "UserNotExists" then pure () else throw e)
      split
      · exact Inner.pure
      · exact Inner.throw e
    | ok user =>
      exact Inner.suppress (Inner.ofExcept_bind fun token _ =>
        Inner.sendMail (hkind user hfound token)) _
  | requestVerifyToken =>
    rw [hroute] at hkind
    exact Inner.guarded (Inner.suppress (Inner.ofExcept_bind fun user hfound =>
      Inner.ofExcept_bind fun token _ => Inner.sendMail (hkind user hfound token)) _)

/-! ### Mail that is sent -/

/-- A request, with the table of users that it meets. -/
structure Visit where
  users : UserStore
  req : AuthRequest

/-- The room, the time of the last request, and the mail sent since the start with its times. -/
structure PostOffice (Counters : Type) where
  room : Mailroom Counters
  clock : Time
  posted : List (Time × Mail)

variable (limits manager settings lower) in
/-- A request is answered, and the mail it sends is stamped. -/
def PostOffice.visit (emailStr : List Char → Except String (List Char)) (s : PostOffice Counters)
    (v : Visit) : Option (PostOffice Counters) :=
  let room := (v.req.answer limits manager settings lower emailStr v.users s.room).2
  let new := room.sent.take (room.sent.length - s.room.sent.length)
  some ⟨room, v.req.now, new.map (fun mail => (v.req.now, mail)) ++ s.posted⟩

/-- The times of the mails of a route to a mailbox. -/
def mailTimes (lower : List Char → List Char) (route : AuthRoute) (mailbox : List Char)
    (posted : List (Time × Mail)) : List Time :=
  (posted.filter fun p => route.mails lower mailbox p.2).map Prod.fst

/-- Each mail is logged in the bucket of its mailbox. -/
def Logged (parse : String → Rate) (stands : Counters → (BodyKey → List Time) → Prop)
    (settings : RateSettings) (lower : List Char → List Char) (s : PostOffice Counters) : Prop :=
  ∃ logs, LogsAt parse stands s.room.counters s.clock logs ∧ ∀ (route : AuthRoute) mailbox,
    (mailTimes lower route mailbox s.posted).Sublist (logs (route.bodyKey settings mailbox))

/-- A mail is of one route, and to one mailbox. -/
lemma AuthRoute.mails_unique {route route' : AuthRoute} {mailbox mailbox' : List Char} {mail : Mail}
    (h : route.mails lower mailbox mail = true) (h' : route'.mails lower mailbox' mail = true) :
    route.bodyKey settings mailbox = route'.bodyKey settings mailbox' := by
  cases route <;> cases route' <;> cases mail <;>
    simp_all [AuthRoute.mails, AuthRoute.bodyKey]

variable {parse : String → Rate} {stands : Counters → (BodyKey → List Time) → Prop}
variable {emailStr : List Char → Except String (List Char)}

/-- Mail that is sent is new. -/
lemma take_of_cons {α : Type} (a : α) (l : List α) :
    (a :: l).take ((a :: l).length - l.length) = [a] := by
  have hlen : (a :: l).length - l.length = 1 := by
    rw [List.length_cons]
    omega
  rw [hlen]
  rfl

/-- A mail that is logged in the bucket of its mailbox. -/
lemma mailTimes_sublist_cons {route' route : AuthRoute} {mailbox' mailbox : List Char} {mail : Mail}
    {posted : List (Time × Mail)} {now : Time} {logs logs' : BodyKey → List Time}
    (hkind : route'.mails lower mailbox' mail = true)
    (hmails : (mailTimes lower route mailbox posted).Sublist
      (logs (route.bodyKey settings mailbox)))
    (hlonger : ∀ k, (logs k).Sublist (logs' k))
    (hnew : logs' (route'.bodyKey settings mailbox')
      = now :: logs (route'.bodyKey settings mailbox')) :
    (mailTimes lower route mailbox ((now, mail) :: posted)).Sublist
      (logs' (route.bodyKey settings mailbox)) := by
  unfold mailTimes
  rw [List.filter_cons]
  split
  · rename_i hmine
    have hkey : route'.bodyKey settings mailbox' = route.bodyKey settings mailbox :=
      AuthRoute.mails_unique hkind hmine
    rw [← hkey, hnew, hkey, List.map_cons]
    exact hmails.cons_cons now
  · exact hmails.trans (hlonger _)

/-- One request. -/
lemma Logged.visit (hdoc : limits.Documented parse stands) (hfinds : manager.FindsByEmail lower)
    {s s' : PostOffice Counters} {v : Visit} (h : Logged parse stands settings lower s)
    (hclock : s.clock ≤ v.req.now)
    (hvisit : s.visit limits manager settings lower emailStr v = some s') :
    Logged parse stands settings lower s' := by
  obtain ⟨logs, hlogs, hmails⟩ := h
  replace hlogs := hlogs.wait hclock
  cases hvisit
  unfold AuthRequest.answer
  cases emailStr v.req.email with
  | error detail =>
    refine ⟨logs, hlogs, fun route mailbox => ?_⟩
    simpa using hmails route mailbox
  | ok email =>
    have hguards : Guards (v.req.pass limits settings lower email)
        (fun mail => v.req.route.mails lower (lower email) mail = true)
        (v.req.handler limits manager settings lower v.users email) := by
      refine v.req.handler_guards v.users email fun user hfound token => ?_
      have hmailbox := hfinds v.users email user hfound
      cases v.req.route with
      | forgotPassword => exact decide_eq_true hmailbox
      | requestVerifyToken => exact decide_eq_true hmailbox
    obtain ⟨logs', hlogs', hlonger, hnew⟩ := hlogs.pass hdoc
      (v.req.route.ipKey settings (getClientIp settings.trustCloudflareEdge v.req.client))
      (v.req.route.bodyKey settings (lower email))
    have hcounters := hguards.counters s.room
    refine ⟨logs', hcounters ▸ hlogs', fun route mailbox => ?_⟩
    rcases hguards.sent s.room with hsent | ⟨hok, mail, hkind, hsent⟩
    · dsimp only
      rw [hsent]
      simpa using (hmails route mailbox).trans (hlonger _)
    · dsimp only
      rw [hsent, take_of_cons]
      exact mailTimes_sublist_cons hkind (hmails route mailbox) hlonger (hnew hok)

/-- **Nobody is flooded with mail.** In every run of reset and verification requests, from any
addresses and whatever the table of users is at each of them, a mailbox gets no more reset links and
no more verification links in a window than the settings allow. -/
theorem mails_capped (hdoc : limits.Documented parse stands) (hfinds : manager.FindsByEmail lower)
    {counters : Counters} (hstart : stands counters fun _ => []) (sent : List Mail) (clock : Time)
    {s : PostOffice Counters}
    (h : Reaches (PostOffice.visit limits manager settings lower emailStr)
      (fun s v => s.clock ≤ v.req.now) ⟨⟨counters, sent⟩, clock, []⟩ s)
    (route : AuthRoute) (mailbox : List Char) (start : Time) :
    let rate := parse (route.bodyKey settings mailbox).1
    (s.posted.filter fun p => route.mails lower mailbox p.2 &&
      (start ≤ p.1 && p.1 ≤ start + rate.period)).length ≤ rate.amount := by
  intro rate
  have hlogged : Logged parse stands settings lower s :=
    h.invariant ⟨_, .start hstart clock, fun _ _ => List.nil_sublist _⟩
      fun s v s' hs hclock hvisit => hs.visit hdoc hfinds hclock hvisit
  obtain ⟨logs, hlogs, hmails⟩ := hlogged
  have hwindow : (s.posted.filter fun p => route.mails lower mailbox p.2 &&
      (start ≤ p.1 && p.1 ≤ start + rate.period)).length
      = ((mailTimes lower route mailbox s.posted).filter fun t =>
        start ≤ t && t ≤ start + rate.period).length := by
    rw [mailTimes, List.filter_map, List.length_map, List.filter_filter]
    simp only [Function.comp_def, Bool.and_comm]
  calc _ = _ := hwindow
    _ ≤ _ := ((hmails route mailbox).filter _).length_le
    _ ≤ rate.amount := (hlogs.2 (route.bodyKey settings mailbox)).spaced.count_le start

/-! ### Requests that share no bucket -/

section Apart

variable {β : Type} {ipBucket : Counters → IpKey → β} {bodyBucket : Counters → BodyKey → β}

/-- The buckets of a request. One that is not read has none. -/
def AuthRequest.HasBuckets (settings : RateSettings) (lower : List Char → List Char)
    (emailStr : List Char → Except String (List Char)) (req : AuthRequest) (ip : IpKey)
    (body : BodyKey) : Prop :=
  ∃ email, emailStr req.email = .ok email ∧
    ip = req.route.ipKey settings (getClientIp settings.trustCloudflareEdge req.client) ∧
    body = req.route.bodyKey settings (lower email)

/-- Two requests share no bucket. -/
def Apart (settings : RateSettings) (lower : List Char → List Char)
    (emailStr : List Char → Except String (List Char)) (req req' : AuthRequest) : Prop :=
  ∀ ip body ip' body', req.HasBuckets settings lower emailStr ip body →
    req'.HasBuckets settings lower emailStr ip' body' → ip ≠ ip' ∧ body ≠ body'

/-- The routes have buckets of their own. -/
lemma apart_of_route_ne {req req' : AuthRequest} (h : req.route ≠ req'.route) :
    Apart settings lower emailStr req req' := by
  rintro ip body ip' body' ⟨email, -, rfl, rfl⟩ ⟨email', -, rfl, rfl⟩
  cases hroute : req.route <;> cases hroute' : req'.route
  all_goals rw [hroute, hroute'] at h
  all_goals simp [AuthRoute.ipKey, AuthRoute.bodyKey] at h ⊢

/-- The states of two runs before the requests `rest`: what is left of mine finds the same
buckets, and shares none with what is left of the others. -/
structure LeftAlone (ipBucket : Counters → IpKey → β) (bodyBucket : Counters → BodyKey → β)
    (settings : RateSettings) (lower : List Char → List Char)
    (emailStr : List Char → Except String (List Char)) (mine : AuthRequest → Bool)
    (rest : List AuthRequest) (s t : Mailroom Counters) : Prop where
  same : ∀ req ∈ rest, mine req = true → ∀ ip body,
    req.HasBuckets settings lower emailStr ip body →
      SameBuckets ipBucket bodyBucket s.counters t.counters ip body
  apart : ∀ req ∈ rest, ∀ req' ∈ rest, mine req = true → mine req' = false →
    Apart settings lower emailStr req req'

section Step

variable {mine : AuthRequest → Bool} {req : AuthRequest} {rest : List AuthRequest}
variable {s t : Mailroom Counters}

/-- A request of mine. -/
lemma LeftAlone.own (hkeyed : limits.Keyed ipBucket bodyBucket) (users : UserStore)
    (h : LeftAlone ipBucket bodyBucket settings lower emailStr mine (req :: rest) s t)
    (hmine : mine req = true) :
    (req.answer limits manager settings lower emailStr users s).1
        = (req.answer limits manager settings lower emailStr users t).1 ∧
      LeftAlone ipBucket bodyBucket settings lower emailStr mine rest
        (req.answer limits manager settings lower emailStr users s).2
        (req.answer limits manager settings lower emailStr users t).2 := by
  have hrest : ∀ req' ∈ rest, req' ∈ req :: rest := fun _ => List.mem_cons_of_mem req
  have hapart := fun req₁ h₁ req₂ h₂ => h.apart req₁ (hrest req₁ h₁) req₂ (hrest req₂ h₂)
  unfold AuthRequest.answer
  cases hemail : emailStr req.email with
  | error detail => exact ⟨rfl, fun req' hreq' => h.same req' (hrest req' hreq'), hapart⟩
  | ok email =>
    have hown := h.same req List.mem_cons_self hmine _ _ ⟨email, hemail, rfl, rfl⟩
    obtain ⟨hpass, hleft⟩ := hown.pass hkeyed req.now
    have hguards : Guards (req.pass limits settings lower email) (fun _ => True)
        (req.handler limits manager settings lower users email) :=
      req.handler_guards users email fun _ _ _ => trivial
    refine ⟨congrArg AuthResponse.of (hguards.same s t hpass),
      fun req' hreq' hmine' ip body hbuckets => ?_, hapart⟩
    have hkept := hleft (h.same req' (hrest req' hreq') hmine' ip body hbuckets)
    show SameBuckets _ _ (req.handler limits manager settings lower users email s).2.counters
      (req.handler limits manager settings lower users email t).2.counters ip body
    rw [hguards.counters, hguards.counters]
    exact hkept

/-- A request of the others. -/
lemma LeftAlone.other (hkeyed : limits.Keyed ipBucket bodyBucket) (users : UserStore)
    (h : LeftAlone ipBucket bodyBucket settings lower emailStr mine (req :: rest) s t)
    (hmine : mine req = false) :
    LeftAlone ipBucket bodyBucket settings lower emailStr mine rest
      (req.answer limits manager settings lower emailStr users s).2 t := by
  have hrest : ∀ req' ∈ rest, req' ∈ req :: rest := fun _ => List.mem_cons_of_mem req
  refine ⟨fun req' hreq' hmine' ip body hbuckets => ?_,
    fun req₁ h₁ req₂ h₂ => h.apart req₁ (hrest req₁ h₁) req₂ (hrest req₂ h₂)⟩
  have hsame := h.same req' (hrest req' hreq') hmine' ip body hbuckets
  unfold AuthRequest.answer
  cases hemail : emailStr req.email with
  | error detail => exact hsame
  | ok email =>
    have hguards : Guards (req.pass limits settings lower email) (fun _ => True)
        (req.handler limits manager settings lower users email) :=
      req.handler_guards users email fun _ _ _ => trivial
    obtain ⟨hip, hbody⟩ := h.apart req' (hrest req' hreq') req List.mem_cons_self hmine' hmine
      ip body _ _ hbuckets ⟨email, hemail, rfl, rfl⟩
    have hother := hkeyed.pass_other hip hbody s.counters req.now
    show SameBuckets _ _ (req.handler limits manager settings lower users email s).2.counters
      t.counters ip body
    rw [hguards.counters]
    exact ⟨hother.1.trans hsame.1, hother.2.trans hsame.2⟩

end Step

/-- **Requests that share no bucket do not disturb each other.** Whatever else is asked, some
requests get the answers that they would get alone, as long as no other request of their route
counts on a bucket of theirs. So neither flow starves the other, whatever the addresses and the
emails. -/
theorem flows_apart (hkeyed : limits.Keyed ipBucket bodyBucket) (users : UserStore)
    (room : Mailroom Counters) (mine : AuthRequest → Bool) (requests : List AuthRequest)
    (hapart : ∀ req ∈ requests, ∀ req' ∈ requests, mine req = true → mine req' = false →
      req.route ≠ req'.route ∨ Apart settings lower emailStr req req') :
    ((requests.zip (answers (AuthRequest.answer limits manager settings lower emailStr users) room
        requests).1).filter fun p => mine p.1).map Prod.snd
      = (answers (AuthRequest.answer limits manager settings lower emailStr users) room
        (requests.filter mine)).1 := by
  have hstart : LeftAlone ipBucket bodyBucket settings lower emailStr mine requests room room :=
    ⟨fun _ _ _ _ _ _ => ⟨rfl, rfl⟩, fun req hreq req' hreq' hmine hother =>
      (hapart req hreq req' hreq' hmine hother).elim apart_of_route_ne id⟩
  exact answers_filter mine (fun req rest s t h hmine => h.own hkeyed users hmine)
    (fun req rest s t h hmine => h.other hkeyed users hmine) requests hstart

end Apart

end Mailing

/-! ## Logins -/

section Logins

variable {server : DoorServer Counters}

/-- The answer of a limit. -/
def refused : Except Exc String → Bool
  | .ok _ => false
  | .error e => e == Exc.tooManyRequests || e == Exc.rateLimitExceeded

/-- Both doors, the time of the last request, and the logins that were not refused by a limit, with
their times and usernames. -/
structure Turnstile (Counters : Type) where
  doors : Doors Counters
  clock : Time
  tried : List (Time × String)

/-- What a login answers. -/
def loginAnswer (server : DoorServer Counters) (s : Doors Counters) (req : LoginRequest) :
    Except Exc String :=
  (doorLimited server req.client req.now server.settings.authLoginIpRate "login"
    (login server req) s.store s.counters).1

variable (server) in
/-- A step of the doors. -/
def Turnstile.step (s : Turnstile Counters) (a : DoorAction) : Option (Turnstile Counters) :=
  (doorStep server s.doors a).map fun doors =>
    match a with
    | .setActive _ _ => { s with doors }
    | .callback req => { s with doors, clock := req.now }
    | .login req =>
      { doors, clock := req.now,
        tried := if refused (loginAnswer server s.doors req) then s.tried
          else (req.now, req.credentials.username) :: s.tried }

/-- The clock does not go back. -/
def Turnstile.Next (s : Turnstile Counters) : DoorAction → Prop
  | .setActive _ _ => True
  | .callback req => s.clock ≤ req.now
  | .login req => s.clock ≤ req.now

/-- The bucket of a username in lower case. -/
def loginKey (settings : RateSettings) (username : String) : BodyKey :=
  (settings.authLoginUsernameRate, ("login:" ++ username).toList)

/-- The times of the logins under a name, whatever its case. -/
def loginTimes (lower : String → String) (username : String) (tried : List (Time × String)) :
    List Time :=
  (tried.filter fun p => lower p.2 = lower username).map Prod.fst

/-- Each login is logged in the bucket of its name. -/
def Counted (parse : String → Rate) (stands : Counters → (BodyKey → List Time) → Prop)
    (server : DoorServer Counters) (s : Turnstile Counters) : Prop :=
  ∃ logs, LogsAt parse stands s.doors.counters s.clock logs ∧ ∀ username,
    (loginTimes server.lower username s.tried).Sublist
      (logs (loginKey server.settings (server.lower username)))

variable {parse : String → Rate} {stands : Counters → (BodyKey → List Time) → Prop}

variable (server) in
/-- A login is refused, or its attempt is allowed. Nothing else touches the counters. -/
lemma login_counters (req : LoginRequest) (st : UserStore) (c : Counters) :
    let h := server.limits.bodyStrategy c req.now server.settings.authLoginUsernameRate
      ("login:" ++ server.lower req.credentials.username).toList
    (login server req st c).2.2 = h.2 ∧
      (h.1 = false → refused (login server req st c).1 = true) := by
  intro h
  have hh : h = server.limits.bodyStrategy c req.now server.settings.authLoginUsernameRate
    ("login:" ++ server.lower req.credentials.username).toList := rfl
  unfold login
  rw [← hh]
  obtain ⟨allowed, c'⟩ := h
  cases allowed with
  | false => exact ⟨rfl, fun _ => by simp [refused]⟩
  | true =>
    refine ⟨?_, nofun⟩
    obtain ⟨r, st'⟩ := server.authenticate st req.credentials
    dsimp only
    cases r with
    | error e => rfl
    | ok found =>
      cases found with
      | none => rfl
      | some user =>
        show (if (!user.isActive) = true then _ else _ :
          Except Exc String × UserStore × Counters).2.2 = c'
        split
        · rfl
        · rfl

variable (server) in
/-- A request behind the decorator: the address is refused, or the handler is run. -/
lemma doorLimited_eq (client : ClientRequest) (now : Time) (rate route : String)
    (handler : UserStore → Counters → Except Exc String × UserStore × Counters) (st : UserStore)
    (c : Counters) :
    let h := server.limits.ipLimiter c now rate
      (getClientIp server.settings.trustCloudflareEdge client) route
    doorLimited server client now rate route handler st c
      = if h.1 then handler st h.2 else (.error Exc.rateLimitExceeded, st, h.2) := by
  intro h
  show (if (!h.1) = true then (.error Exc.rateLimitExceeded, st, h.2) else handler st h.2) = _
  cases h.1 with
  | false => rfl
  | true => rfl

/-- A login that is not refused is logged. -/
lemma Counted.after {doors : Doors Counters} {now : Time} {name : String}
    {tried : List (Time × String)} {logs logs' : BodyKey → List Time}
    {out : Except Exc String × UserStore × Counters}
    (hlogins : ∀ username, (loginTimes server.lower username tried).Sublist
      (logs (loginKey server.settings (server.lower username))))
    (hlogs' : LogsAt parse stands out.2.2 now logs') (hlonger : ∀ k, (logs k).Sublist (logs' k))
    (hnew : refused out.1 = false →
      logs' (loginKey server.settings (server.lower name))
        = now :: logs (loginKey server.settings (server.lower name))) :
    Counted parse stands server
      ⟨doors.after out, now, if refused out.1 then tried else (now, name) :: tried⟩ := by
  refine ⟨logs', hlogs', fun username => ?_⟩
  dsimp only
  split
  · exact (hlogins username).trans (hlonger _)
  · rename_i hallowed
    unfold loginTimes
    rw [List.filter_cons]
    split
    · rename_i hname
      have hlower : server.lower name = server.lower username := of_decide_eq_true hname
      rw [← hlower, hnew (by simpa using hallowed), hlower, List.map_cons]
      exact (hlogins username).cons_cons now
    · exact (hlogins username).trans (hlonger _)

/-- One step. -/
lemma Counted.step (hdoc : server.limits.Documented parse stands) {s s' : Turnstile Counters}
    {a : DoorAction} (h : Counted parse stands server s) (hclock : s.Next a)
    (hstep : s.step server a = some s') : Counted parse stands server s' := by
  obtain ⟨logs, hlogs, hlogins⟩ := h
  cases a with
  | setActive id active =>
    cases hstep
    exact ⟨logs, hlogs, hlogins⟩
  | callback req =>
    cases hstep
    refine ⟨logs, ?_, hlogins⟩
    show LogsAt parse stands (doorLimited server _ _ _ _ _ s.doors.store s.doors.counters).2.2
      req.now logs
    rw [doorLimited_eq]
    have hleft := (hlogs.wait hclock).ip hdoc req.now server.settings.authOidcCallbackIpRate
      (getClientIp server.settings.trustCloudflareEdge req.client) "oidc_callback"
    split
    · exact hleft
    · exact hleft
  | login req =>
    replace hlogs := hlogs.wait hclock
    have hip := hlogs.ip hdoc req.now server.settings.authLoginIpRate
      (getClientIp server.settings.trustCloudflareEdge req.client) "login"
    have hanswer := doorLimited_eq server req.client req.now
      server.settings.authLoginIpRate "login" (login server req) s.doors.store s.doors.counters
    cases hstep
    show Counted parse stands server ⟨s.doors.after (doorLimited server _ _ _ _ _ _ _), _,
      if refused (doorLimited server _ _ _ _ _ _ _).1 then _ else _⟩
    rw [hanswer]
    split
    · obtain ⟨hcounters, hrefused⟩ := login_counters server req s.doors.store
        (server.limits.ipLimiter s.doors.counters req.now server.settings.authLoginIpRate
          (getClientIp server.settings.trustCloudflareEdge req.client) "login").2
      obtain ⟨logs', hlogs', hlonger, hnew⟩ := hip.body hdoc
        (loginKey server.settings (server.lower req.credentials.username))
      refine Counted.after hlogins (hcounters ▸ hlogs') hlonger fun hallowed => hnew ?_
      rw [← Bool.not_eq_false]
      intro hexhausted
      rw [hrefused hexhausted] at hallowed
      cases hallowed
    · refine Counted.after hlogins hip (fun k => List.Sublist.refl _) fun hallowed => ?_
      have hrefused : refused (.error Exc.rateLimitExceeded) = true := by simp [refused]
      rw [hrefused] at hallowed
      cases hallowed

/-- **Passwords are not guessed faster.** In every run of logins, callbacks and changes of accounts,
from any addresses, no more logins under a username are answered in a window otherwise than by the
refusal of a limit than the settings allow, in whatever case the username is written. -/
theorem logins_capped (hdoc : server.limits.Documented parse stands) {counters : Counters}
    (hstart : stands counters fun _ => []) (store : UserStore) (clock : Time)
    {s : Turnstile Counters}
    (h : Reaches (Turnstile.step server) Turnstile.Next ⟨⟨store, counters, []⟩, clock, []⟩ s)
    (username : String) (start : Time) :
    let rate := parse server.settings.authLoginUsernameRate
    (s.tried.filter fun p => server.lower p.2 = server.lower username &&
      (start ≤ p.1 && p.1 ≤ start + rate.period)).length ≤ rate.amount := by
  intro rate
  have hcounted : Counted parse stands server s :=
    h.invariant ⟨_, .start hstart clock, fun _ => List.nil_sublist _⟩
      fun s a s' hs hclock hstep => hs.step hdoc hclock hstep
  obtain ⟨logs, hlogs, hlogins⟩ := hcounted
  have hwindow : (s.tried.filter fun p => server.lower p.2 = server.lower username &&
      (start ≤ p.1 && p.1 ≤ start + rate.period)).length
      = ((loginTimes server.lower username s.tried).filter fun t =>
        start ≤ t && t ≤ start + rate.period).length := by
    rw [loginTimes, List.filter_map, List.length_map, List.filter_filter]
    simp only [Function.comp_def, Bool.and_comm]
  calc _ = _ := hwindow
    _ ≤ _ := ((hlogins username).filter _).length_le
    _ ≤ rate.amount :=
      (hlogs.2 (loginKey server.settings (server.lower username))).spaced.count_le start

end Logins

/-! ### Limiters in memory -/

/-- The rates of the settings, in microseconds. -/
def parseRate (rate : String) : Rate :=
  if rate = "3/hour" then ⟨3, 3600000000⟩
  else if rate = "10/minute" then ⟨10, 60000000⟩
  else ⟨5, 60000000⟩

/-- The logs of both limiters. -/
structure WindowLogs where
  ip : IpKey → List Time
  body : BodyKey → List Time

def WindowLogs.empty : WindowLogs := ⟨fun _ => [], fun _ => []⟩

def windowLimiters : RateLimiters WindowLogs where
  ipLimiter c now rate ip route :=
    let (allowed, logs) := MovingWindows.hit (parseRate rate) c.ip ⟨rate, ip, route⟩ now
    (allowed, { c with ip := logs })
  bodyStrategy c now rate key :=
    let (allowed, logs) := MovingWindows.hit (parseRate rate) c.body (rate, key) now
    (allowed, { c with body := logs })

lemma windowLimiters_documented :
    windowLimiters.Documented parseRate fun c logs => c.body = logs where
  body c logs h now _ rate key := by
    subst h
    exact ⟨rfl, rfl⟩
  ip _ _ h _ _ _ _ := h

lemma hit_same {κ : Type} [DecidableEq κ] {logs logs' : κ → List Time} {k : κ}
    (h : logs k = logs' k) (rate : Rate) (now : Time) :
    (MovingWindows.hit rate logs k now).1 = (MovingWindows.hit rate logs' k now).1 ∧
      (MovingWindows.hit rate logs k now).2 k = (MovingWindows.hit rate logs' k now).2 k := by
  have hallowed : (MovingWindows.hit rate logs k now).1
      = (MovingWindows.hit rate logs' k now).1 := by
    show rate.admits (logs k) now = rate.admits (logs' k) now
    rw [h]
  refine ⟨hallowed, ?_⟩
  rw [hit_self, hit_self, hallowed, h]

lemma windowLimiters_keyed : windowLimiters.Keyed WindowLogs.ip WindowLogs.body where
  ipSame _ _ k h now := hit_same h (parseRate k.rate) now
  ipOther _ k _ h _ := hit_of_ne (parseRate k.rate) h
  ipBody _ _ _ _ := rfl
  bodySame _ _ k h now := hit_same h (parseRate k.1) now
  bodyOther _ k _ h _ := hit_of_ne (parseRate k.1) h
  bodyIp _ _ _ _ := rfl

lemma exampleManager_finds : exampleManager.FindsByEmail (List.map Char.toLower) := by
  intro users email user h
  unfold exampleManager at h
  dsimp only at h
  split at h
  · rename_i hfound
    cases h
    have hcond := List.find?_some hfound
    exact of_decide_eq_true hcond
  · cases h

/-- A visit to the office below, which has an account of Ann. -/
def officeVisit (s : PostOffice WindowLogs) (v : Visit) : Option (PostOffice WindowLogs) :=
  s.visit windowLimiters exampleManager {} (List.map Char.toLower) .ok v

/-- The office after some visits. -/
def officeAfter (visits : List Visit) : PostOffice WindowLogs :=
  visits.foldl (fun s v => (officeVisit s v).getD s) ⟨⟨.empty, []⟩, 0, []⟩

lemma reaches_officeAfter {visits : List Visit}
    (h : visits.Pairwise fun v v' => v.req.now ≤ v'.req.now)
    (hstart : ∀ v ∈ visits, 0 ≤ v.req.now) :
    Reaches officeVisit (fun s v => s.clock ≤ v.req.now) ⟨⟨.empty, []⟩, 0, []⟩
      (officeAfter visits) := by
  have hrun : ∀ s : PostOffice WindowLogs, (∀ v ∈ visits, s.clock ≤ v.req.now) →
      Reaches officeVisit (fun s v => s.clock ≤ v.req.now) ⟨⟨.empty, []⟩, 0, []⟩ s →
      Reaches officeVisit (fun s v => s.clock ≤ v.req.now) ⟨⟨.empty, []⟩, 0, []⟩
        (visits.foldl (fun s v => (officeVisit s v).getD s) s) := by
    induction visits with
    | nil => exact fun s _ hs => hs
    | cons v visits ih =>
      intro s hclock hs
      obtain ⟨hlater, hvisits⟩ := List.pairwise_cons.mp h
      exact ih hvisits (fun v' hv' => hstart v' (List.mem_cons_of_mem v hv')) _ hlater
        (hs.step v (hclock v List.mem_cons_self) rfl)
  exact hrun _ hstart .start

/-- Two reset requests for a mailbox, from addresses of their own. -/
def twoResets : List Visit :=
  [⟨accountOf true, resetRequest "1.1.1.1" "Ann@example.org"⟩,
    ⟨accountOf true, resetRequest "2.2.2.2" "ann@example.org"⟩]

theorem mails_capped_resets :
    ((officeAfter twoResets).posted.filter fun p =>
      AuthRoute.forgotPassword.mails (List.map Char.toLower) "ann@example.org".toList p.2 &&
        (0 ≤ p.1 && p.1 ≤ 0 + (parseRate "3/hour").period)).length ≤ (parseRate "3/hour").amount :=
  mails_capped windowLimiters_documented exampleManager_finds rfl [] 0
    (reaches_officeAfter (by decide) (by decide)) .forgotPassword "ann@example.org".toList 0

/-- A login, from an address. -/
def loginFrom (ip username : String) : LoginRequest :=
  ⟨⟨[], some ip.toList⟩, ⟨username, "guess"⟩, "t", 0⟩

/-- No password is right. -/
def strictServer : DoorServer WindowLogs where
  limits := windowLimiters
  settings := {}
  allowSignup := false
  lower s := String.ofList (s.toList.map Char.toLower)
  authenticate st _ := (.ok none, st)

lemma strictServer_documented :
    strictServer.limits.Documented parseRate fun c logs => c.body = logs :=
  windowLimiters_documented

/-- The doors after a login. -/
def afterLogin (s : Turnstile WindowLogs) (req : LoginRequest) : Turnstile WindowLogs :=
  (s.step strictServer (.login req)).getD s

/-- The doors after two guesses under a username, from addresses of their own. -/
def twoGuesses : Turnstile WindowLogs :=
  afterLogin (afterLogin ⟨⟨accountOf true, .empty, []⟩, 0, []⟩ (loginFrom "1.1.1.1" "Ann"))
    (loginFrom "2.2.2.2" "ann")

theorem logins_capped_guesses :
    (twoGuesses.tried.filter fun p => strictServer.lower p.2 = strictServer.lower "ann" &&
      (0 ≤ p.1 && p.1 ≤ 0 + (parseRate "5/minute").period)).length
        ≤ (parseRate "5/minute").amount :=
  logins_capped strictServer_documented rfl (accountOf true) 0
    (.step (.login (loginFrom "2.2.2.2" "ann"))
      (.step (.login (loginFrom "1.1.1.1" "Ann")) .start (le_refl 0) rfl) (le_refl 0) rfl) "ann" 0

/-- A verification request, from an address. -/
def verifyRequest (ip email : String) : AuthRequest :=
  ⟨.requestVerifyToken, ⟨[], some ip.toList⟩, email.toList, 0⟩

/-- The request is for a reset. -/
def isReset (req : AuthRequest) : Bool :=
  match req.route with
  | .forgotPassword => true
  | .requestVerifyToken => false

lemma route_ne_of_isReset {req req' : AuthRequest} (h : isReset req = true)
    (h' : isReset req' = false) : req.route ≠ req'.route := by
  intro hroute
  rw [isReset, ← hroute] at h'
  exact Bool.false_ne_true (h'.symm.trans h)

/-- A reset and a verification, from one address and for one mailbox. -/
def oneOfEach : List AuthRequest :=
  [resetRequest "1.1.1.1" "ann@example.org", verifyRequest "1.1.1.1" "ann@example.org"]

theorem flows_apart_each :
    ((oneOfEach.zip (answers (AuthRequest.answer windowLimiters exampleManager {}
        (List.map Char.toLower) .ok (accountOf true)) ⟨.empty, []⟩ oneOfEach).1).filter
          fun p => isReset p.1).map Prod.snd
      = (answers (AuthRequest.answer windowLimiters exampleManager {} (List.map Char.toLower) .ok
        (accountOf true)) ⟨.empty, []⟩ (oneOfEach.filter isReset)).1 :=
  flows_apart windowLimiters_keyed (accountOf true) ⟨.empty, []⟩ isReset oneOfEach
    fun _ _ _ _ h h' => Or.inl (route_ne_of_isReset h h')

end Sleuthgraph
