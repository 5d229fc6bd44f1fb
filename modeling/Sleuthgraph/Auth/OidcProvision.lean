import Sleuthgraph.Store

/-!
# Resolving an OIDC identity (`auth/oidc_provision.py`)

The policy that turns a validated identity into a row of `users`: match by `sub`, link by email,
refuse, or provision. `lower` is the case folding that Python and the database share.
-/

namespace Sleuthgraph

open Programs Transactions Tables

/-! ## Users -/

structure User where
  id : UUID
  email : String
  hashedPassword : String
  isActive : Bool
  isSuperuser : Bool
  isVerified : Bool
  name : Option String
  oidcSub : Option String
deriving DecidableEq, Repr

structure AccessToken where
  token : String
  userId : UUID
  createdAt : Time
deriving DecidableEq, Repr

instance : Keyed User UUID := ⟨User.id⟩
instance : Keyed AccessToken String := ⟨AccessToken.token⟩

/-- The tables of accounts and session tokens. -/
structure UserStore where
  users : Table User
  tokens : Table AccessToken
deriving DecidableEq

/-- The row of an account after it is linked. -/
def User.link (sub hash : String) (user : User) : User :=
  { user with oidcSub := some sub, isVerified := true, hashedPassword := hash }

inductive UserWrite where
  | insertUser (user : User)
  | linkUser (id : UUID) (sub hash : String)
  | insertToken (token : AccessToken)

namespace UserStore

def apply (st : UserStore) : UserWrite → UserStore
  | .insertUser user => { st with users := st.users.insert user }
  | .linkUser id sub hash =>
    { st with users := st.users.modify id (User.link sub hash) fun _ => rfl }
  | .insertToken token => { st with tokens := st.tokens.insert token }

/-- The constraints of the tables: primary keys, column types, and the unique columns `email`
and `oidc_sub`. -/
def accepts (st : UserStore) : UserWrite → Bool
  | .insertUser user =>
    !st.users.has user.id && fitsColumn 320 user.email && fitsColumn 1024 user.hashedPassword
      && user.oidcSub.all (fitsColumn 255)
      && st.users.rows.all fun u =>
        u.email ≠ user.email && (u.oidcSub.isNone || u.oidcSub ≠ user.oidcSub)
  | .linkUser id sub hash =>
    st.users.has id && fitsColumn 255 sub && fitsColumn 1024 hash
      && st.users.rows.all fun u => u.id = id || u.oidcSub ≠ some sub
  | .insertToken token => !st.tokens.has token.token && fitsColumn 43 token.token

end UserStore

instance : Writes UserStore UserWrite := ⟨UserStore.apply, UserStore.accepts⟩

/-- Programs over a session on the account tables. -/
abbrev AuthDb (α : Type) := Sql UserStore UserWrite Unit Exc α

/-! ## The policy -/

/-- `OidcAccountNotLinked(reason)` -/
def Exc.oidcAccountNotLinked (reason : String) : Exc :=
  { mro := ["OidcAccountNotLinked", "Exception"], text := reason }

/-- `OidcAccountConflict("email_sub_mismatch")` -/
def Exc.oidcAccountConflict : Exc :=
  { mro := ["OidcAccountConflict", "Exception"], text := "email_sub_mismatch" }

/-- What a call draws: `uuid4()` and the hash of a random secret. -/
structure Drawn where
  userId : UUID
  secretHash : String

/-- The rows `_find_by_sub` selects. -/
def withSub (st : UserStore) (sub : String) : List User :=
  st.users.rows.filter fun u => u.oidcSub = some sub

variable (lower : String → String)

/-- The rows `_find_by_email_ci` selects. -/
def withEmail (st : UserStore) (email : String) : List User :=
  st.users.rows.filter fun u => lower u.email = lower email

/-- `_find_by_sub`. The column is a text, so the driver refuses a parameter of another type. -/
def findBySub : PyVal → AuthDb (Option User)
  | .str sub => do
    let rows ← query false fun st => withSub st sub
    Prog.ofExcept (scalarOneOrNone rows)
  | _ => query true fun _ => none

/-- `_find_by_email_ci`. Only a text has `lower()`. -/
def findByEmailCi : PyVal → AuthDb (Option User)
  | .str email => do
    let rows ← query false fun st => withEmail lower st email
    Prog.ofExcept (scalarOneOrNone rows)
  | _ => throw Exc.attributeError

/-- The row of a new account. -/
def newUser (drawn : Drawn) (email sub : String) : User where
  id := drawn.userId
  email
  hashedPassword := drawn.secretHash
  isActive := true
  isSuperuser := false
  isVerified := true
  name := none
  oidcSub := some sub

/-- The text of a value that has passed the lookups by `sub` and by email. -/
def PyVal.text : PyVal → String
  | .str s => s
  | _ => ""

/-- `resolve_oidc_user` -/
def resolveOidcUser (drawn : Drawn) (sub email : PyVal) (emailVerified allowSignup : Bool) :
    AuthDb User := do
  if !sub.truthy then throw (Exc.oidcAccountNotLinked "missing_sub")
  else if !email.truthy then throw (Exc.oidcAccountNotLinked "missing_email")
  else
    -- 1. the subject has logged in before
    match ← findBySub sub with
    | some existing => pure existing
    | none =>
      -- 2./3. the email is known
      match ← findByEmailCi lower email with
      | some byEmail =>
        match byEmail.oidcSub with
        | none =>
          if !emailVerified then throw (Exc.oidcAccountNotLinked "unverified_email")
          else do
            write false (.linkUser byEmail.id sub.text drawn.secretHash)
            commit false
            pure (byEmail.link sub.text drawn.secretHash)
        | some bound =>
          if PyVal.str bound ≠ sub then throw Exc.oidcAccountConflict
          else pure byEmail
      | none =>
        -- 4./5. neither is
        if !allowSignup then throw (Exc.oidcAccountNotLinked "no_matching_account")
        else if !emailVerified then throw (Exc.oidcAccountNotLinked "unverified_email")
        else do
          let user := newUser drawn email.text sub.text
          write false (.insertUser user)
          commit false
          pure user

/-! ## Requests -/

/-- The arguments of one call, and what it draws. -/
structure OidcCall where
  drawn : Drawn
  sub : String
  email : String
  emailVerified : Bool
  allowSignup : Bool

/-- A call in a session of its own: what it returns or raises, and the store it leaves
committed. -/
def OidcCall.exec (st : UserStore) (c : OidcCall) : Except Exc User × UserStore :=
  let (r, s) := resolveOidcUser lower c.drawn (.str c.sub) (.str c.email) c.emailVerified
    c.allowSignup ⟨st, [], false, ()⟩
  (r, s.committed)

/-- The store after a run of calls. -/
def OidcCall.run (st : UserStore) (calls : List OidcCall) : UserStore :=
  calls.foldl (fun st c => (c.exec lower st).2) st

end Sleuthgraph
