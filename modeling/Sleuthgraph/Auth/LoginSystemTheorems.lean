import Sleuthgraph.Auth.LoginSystem
import Sleuthgraph.Auth.OidcStateTheorems

/-!
# Whose login a callback completes

Nothing ties a state to the browser it was handed to: the `csrf` field is signed, read back and
never compared with anything. So a callback that is given both the state and the code of one
login goes through in every browser. It takes both: PKCE and the nonce tie the code to the
state, and a browser that brings only one of them is refused (`signIn_ownState`).
-/

namespace Sleuthgraph

open Urls Programs Transactions Tables Systems

variable {Browser Token : Type} {server : LoginServer Token}

/-- Each sign-in presented a state that was handed out to the same browser. -/
def OwnStates (s : LoginState Browser Token) : Prop :=
  ∀ x ∈ s.signIns, ∃ i ∈ s.issued, i.browser = x.browser ∧ i.state = x.state

/-- The code comes from the authorization request of the login, and is not spent. -/
def CodeOf (s : LoginState Browser Token) (i : Issued Browser Token) (code : String) : Prop :=
  ∃ g, s.idp.find code = some g ∧ g.challenge = s.idp.challenge i.draw.codeVerifier ∧
    g.nonce = i.draw.oidcNonce

/-- The callback does not bring, while the state is fresh, both the state and the code of a login
whose state was handed out to other browsers only. -/
def NotCarried (s : LoginState Browser Token) : LoginAction Browser Token → Prop
  | .callback browser code state draw =>
    ∀ i ∈ s.issued, i.state = state → i.draw.now ≤ draw.now →
      draw.now < i.draw.now + stateTtlSeconds → CodeOf s i code →
        ∃ j ∈ s.issued, j.browser = browser ∧ j.state = state
  | _ => True

/-! ## What a callback that returns has seen -/

lemma checkNonce_ok {claims claims' : PyDict} {nonce : String}
    (h : checkNonce claims nonce = .ok claims') : PyDict.get claims "nonce" = .str nonce := by
  unfold checkNonce at h
  dsimp only at h
  split at h
  · cases h
  · split at h
    · cases h
    · rename_i hnonce
      exact not_not.mp hnonce

lemma redeem_eq_some {idp : Provider} {code verifier : String} {g : Grant}
    (h : idp.redeem code verifier = some g) :
    idp.find code = some g ∧ g.challenge = idp.challenge verifier := by
  obtain ⟨hfind, hchallenge⟩ := Option.filter_eq_some_iff.mp h
  exact ⟨hfind, by simpa using hchallenge⟩

/-- The exchange goes through for the verifier and the nonce of the request only. -/
lemma callbackClaims_exchange {jwt : Jwt Token} {now : ℤ} {idp : Provider} {code : String}
    {state : Token} {payload : StatePayload} {token claims : PyDict}
    (h : callbackClaims (exchange jwt now idp code state) = .ok (payload, token, claims)) :
    (∃ csrf, decodeState jwt now state = .ok ⟨payload, csrf⟩) ∧
      ∃ g, idp.find code = some g ∧ g.challenge = idp.challenge payload.codeVerifier ∧
        g.nonce = payload.oidcNonce := by
  rw [callbackClaims, if_neg (by simp [exchange])] at h
  obtain ⟨payload', hstate, h⟩ := bind_eq_ok.mp h
  obtain ⟨token', htoken, h⟩ := bind_eq_ok.mp h
  obtain ⟨-, h⟩ := guard_eq_ok.mp h
  obtain ⟨claims', hclaims, h⟩ := bind_eq_ok.mp h
  obtain ⟨rfl, rfl, rfl⟩ : payload' = payload ∧ token' = token ∧ claims' = claims := by
    simpa [Prod.ext_iff] using Except.ok.inj h
  rw [catching_ok] at hstate htoken hclaims
  constructor
  · simp only [exchange] at hstate
    cases hdecode : decodeState jwt now state with
    | error e =>
      rw [hdecode] at hstate
      cases hstate
    | ok s =>
      rw [hdecode] at hstate
      obtain rfl := Except.ok.inj hstate
      exact ⟨s.csrf, rfl⟩
  · simp only [exchange] at hclaims
    split at hclaims
    · rename_i g hg
      obtain ⟨hfind, hchallenge⟩ := redeem_eq_some hg
      have hnonce := checkNonce_ok hclaims
      rw [Grant.idToken, PyDict.get, List.lookup_cons_self] at hnonce
      exact ⟨g, hfind, hchallenge, PyVal.str.inj hnonce⟩
    · cases hclaims

/-! ## Runs -/

/-- The state of every login is what was signed for it. -/
def Signed (server : LoginServer Token) (s : LoginState Browser Token) : Prop :=
  ∀ i ∈ s.issued, i.state = server.jwt.encode (statePayload i.draw i.nextPath)

lemma oidcLogin_issued (server : LoginServer Token) (browser : Browser) (draw : LoginDraw)
    (nextPath : Option String) (s : LoginState Browser Token) :
    (oidcLogin server browser draw nextPath s).issued = s.issued ∨
      ∃ n, (oidcLogin server browser draw nextPath s).issued
        = ⟨browser, draw, n, server.jwt.encode (statePayload draw n)⟩ :: s.issued := by
  unfold oidcLogin
  split
  · exact Or.inl rfl
  · rename_i n _
    exact Or.inr ⟨n, rfl⟩

/-- A callback that is not given a carried state signs in to a state of its own browser. -/
lemma callback_ownState {s : LoginState Browser Token} (hsigned : Signed server s)
    (hown : OwnStates s) {browser : Browser} {code : String} {state : Token}
    {draw : CallbackDraw} (hunforged : Unforged server s (.callback browser code state draw))
    (hcarried : NotCarried s (.callback browser code state draw)) :
    OwnStates (callbackStep server browser code state draw s) := by
  intro x hx
  simp only [callbackStep] at hx
  cases hrun : callbackRun server code state draw s with
  | mk r session =>
    rw [hrun] at hx
    cases r with
    | error e => exact hown x hx
    | ok answer =>
      rcases List.mem_cons.mp hx with rfl | hx
      -- the sign-in of this callback: its state decodes, so it was handed out
      · obtain ⟨target, cookie⟩ := answer
        obtain ⟨payload, token, claims, hclaims, -, -⟩ := oidcCallback_redirects hrun
        obtain ⟨⟨csrf, hdecode⟩, g, hfind, hchallenge, hnonce⟩ := callbackClaims_exchange hclaims
        obtain ⟨i, hi, histate⟩ : ∃ i ∈ s.issued, i.state = state := by
          refine hunforged.resolve_right ?_
          rintro ⟨e, herror⟩
          rw [hdecode] at herror
          cases herror
        -- what decodes is the draw of that login, and it is fresh
        rw [← histate, hsigned i hi, decodeState_encode] at hdecode
        split at hdecode
        · rename_i hfresh
          have hpayload := congrArg OidcState.toStatePayload (Except.ok.inj hdecode)
          obtain rfl : StatePayload.mk i.draw.codeVerifier i.nextPath i.draw.oidcNonce = payload :=
            hpayload
          exact hcarried i hi histate hfresh.1 hfresh.2 ⟨g, hfind, hchallenge, hnonce⟩
        · cases hdecode
      · exact hown x hx

/-- What the runs keep. -/
structure LoginInvariant (server : LoginServer Token) (s : LoginState Browser Token) : Prop where
  signed : Signed server s
  own : OwnStates s

lemma LoginInvariant.step {s s' : LoginState Browser Token} {a : LoginAction Browser Token}
    (h : LoginInvariant server s) (hunforged : Unforged server s a) (hcarried : NotCarried s a)
    (hstep : loginStep server s a = some s') : LoginInvariant server s' := by
  cases a with
  | login browser draw nextPath =>
    obtain rfl := Option.some.inj hstep
    have hsignIns : (oidcLogin server browser draw nextPath s).signIns = s.signIns := by
      unfold oidcLogin
      split <;> rfl
    rcases oidcLogin_issued server browser draw nextPath s with hsame | ⟨n, hnew⟩
    · exact ⟨fun i hi => h.signed i (hsame ▸ hi), fun x hx => hsame ▸ h.own x (hsignIns ▸ hx)⟩
    · constructor
      · intro i hi
        rw [hnew] at hi
        rcases List.mem_cons.mp hi with rfl | hi
        · rfl
        · exact h.signed i hi
      · intro x hx
        obtain ⟨i, hi, heq⟩ := h.own x (hsignIns ▸ hx)
        exact ⟨i, hnew ▸ List.mem_cons_of_mem _ hi, heq⟩
  | authorize grant =>
    simp only [loginStep] at hstep
    split at hstep
    · cases hstep
    · obtain rfl := Option.some.inj hstep
      exact ⟨h.signed, h.own⟩
  | callback browser code state draw =>
    obtain rfl := Option.some.inj hstep
    exact ⟨h.signed, callback_ownState h.signed h.own hunforged hcarried⟩

/-- **Login CSRF**: in every run whose callbacks carry no state together with its code from one
browser to another, a session cookie is set in a browser only for a state that was handed out to
that browser. -/
theorem signIn_ownState {users : UserStore} {challenge : String → String}
    {s : LoginState Browser Token}
    (h : Reaches (loginStep server) (fun s a => Unforged server s a ∧ NotCarried s a)
      (LoginState.start users challenge) s) : OwnStates s := by
  have hinv : LoginInvariant server s :=
    h.invariant ⟨fun _ hi => (nomatch hi), fun _ hx => (nomatch hx)⟩
      fun _ _ _ hs ha hstep => hs.step ha.1 ha.2 hstep
  exact hinv.own

/-! ### Two runs -/

/-- A server without accounts that lets everyone sign up. -/
def openServer : LoginServer PyDict := ⟨plainJwt, laxNetlocs, String.toLower, true⟩

def noUsers : UserStore := ⟨.empty, .empty⟩

def malloryDraw : LoginDraw := ⟨"csrf", "nonce", "verifier", 0⟩

/-- The state handed out to mallory. -/
def malloryState : PyDict := statePayload malloryDraw "/"

/-- The code mallory gets for her own account with the request of that login. -/
def malloryGrant : Grant where
  code := "code"
  challenge := "verifier"
  nonce := "nonce"
  response := [("access_token", .str "at"), ("id_token", .str "jwt")]
  claims := [("sub", .str "mallory"), ("email", .str "m@example.com"),
    ("email_verified", .bool true)]
  userinfo := ("mallory", .str "m@example.com")

/-- After mallory's login and the provider's answer. -/
def codeIssued : LoginState String PyDict where
  users := noUsers
  idp := ⟨id, [malloryGrant]⟩
  issued := [⟨"mallory", malloryDraw, "/", malloryState⟩]
  signIns := []

/-- Both requests before the callback are what they are for any condition on callbacks. -/
lemma codeIssued_reaches {allowed : LoginState String PyDict → LoginAction String PyDict → Prop}
    (hlogin : ∀ s b d n, allowed s (.login b d n)) (hgrant : ∀ s g, allowed s (.authorize g)) :
    Reaches (loginStep openServer) allowed (LoginState.start noUsers id) codeIssued := by
  have hloggedIn : Reaches (loginStep openServer) allowed (LoginState.start noUsers id)
      (oidcLogin openServer "mallory" malloryDraw (some "/") (LoginState.start noUsers id)) :=
    .step (.login "mallory" malloryDraw (some "/")) .start (hlogin _ _ _ _) rfl
  exact .step (.authorize malloryGrant) hloggedIn (hgrant _ _) rfl

/-- The state after the callback of the browser `b`. -/
def afterCallback (b : String) : LoginState String PyDict :=
  callbackStep openServer b "code" malloryState ⟨1, ⟨1, "hash"⟩, "cookie", 0⟩ codeIssued

/-- Mallory's own browser makes the callback. -/
theorem signIn_ownState_mallory : OwnStates (afterCallback "mallory") := by
  have hown : ∃ i ∈ codeIssued.issued, i.browser = "mallory" ∧ i.state = malloryState :=
    ⟨_, List.mem_singleton_self _, rfl, rfl⟩
  have hreach : Reaches (loginStep openServer)
      (fun s a => Unforged openServer s a ∧ NotCarried s a) (LoginState.start noUsers id)
      (afterCallback "mallory") := by
    refine .step (.callback "mallory" "code" malloryState ⟨1, ⟨1, "hash"⟩, "cookie", 0⟩)
      (codeIssued_reaches (fun _ _ _ _ => ⟨trivial, trivial⟩) fun _ _ => ⟨trivial, trivial⟩) ?_ rfl
    obtain ⟨i, hi, -, hstate⟩ := id hown
    exact ⟨Or.inl ⟨i, hi, hstate⟩, fun _ _ _ _ _ _ => hown⟩
  exact signIn_ownState hreach

/-- The victim's browser makes the callback with mallory's state and code, and is signed in. -/
theorem signIn_carriedState :
    ¬ ∀ (server : LoginServer PyDict) (users : UserStore) (challenge : String → String)
      (s : LoginState String PyDict),
      Reaches (loginStep server) (Unforged server) (LoginState.start users challenge) s →
        OwnStates s := by
  intro h
  have hreach : Reaches (loginStep openServer) (Unforged openServer)
      (LoginState.start noUsers id) (afterCallback "victim") := by
    refine .step (.callback "victim" "code" malloryState ⟨1, ⟨1, "hash"⟩, "cookie", 0⟩)
      (codeIssued_reaches (fun _ _ _ _ => trivial) fun _ _ => trivial) ?_ rfl
    exact Or.inl ⟨_, List.mem_singleton_self _, rfl⟩
  have hsigned : (afterCallback "victim").signIns.map SignIn.browser = ["victim"] := by
    decide +kernel
  have hissued : (afterCallback "victim").issued.map Issued.browser = ["mallory"] := rfl
  obtain ⟨x, hx, hbrowser⟩ : ∃ x ∈ (afterCallback "victim").signIns, x.browser = "victim" :=
    List.mem_map.mp (hsigned ▸ List.mem_singleton_self _)
  obtain ⟨i, hi, hib, -⟩ := h openServer noUsers id _ hreach x hx
  have hmem : i.browser ∈ (afterCallback "victim").issued.map Issued.browser :=
    List.mem_map_of_mem hi
  rw [hissued, hib, hbrowser] at hmem
  exact absurd hmem (by decide)

end Sleuthgraph
