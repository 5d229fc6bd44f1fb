import Sleuthgraph.Api.Server
import Sleuthgraph.Lib.UniqueTables
import Sleuthgraph.Text

/-!
# The credential vault (`credentials/`, `crypto.py`)

A table with at most one API key for each user and plugin, encrypted with a key that is derived
from `SECRET_KEY`. HKDF and Fernet are libraries, so they are parameters here. `lookup` is what
`get_credential` makes of the table: it is what the runner calls the vault, which reads it with a
statement of its own session.
-/

namespace Sleuthgraph

open Programs Transactions Tables Listings

/-! ## Rows -/

structure Credential where
  id : UUID
  userId : UUID
  pluginName : String
  encryptedKey : String
  createdAt : Time
deriving DecidableEq, Repr

instance : Keyed Credential UUID := ⟨Credential.id⟩

/-- `UniqueConstraint("user_id", "plugin_name")` -/
def Credential.owner (c : Credential) : UUID × String := (c.userId, c.pluginName)

abbrev CredentialTable := UniqueTable Credential Credential.owner

/-- The statements that write the table. -/
inductive CredentialWrite where
  | insert (c : Credential)
  | setKey (id : UUID) (encryptedKey : String)
  | delete (userId : UUID) (pluginName : String)

/-- A text that a statement can carry: PostgreSQL has no NUL in text. -/
def sendable (s : String) : Bool := !s.toList.contains '\x00'

namespace CredentialWrite

def apply (t : CredentialTable) : CredentialWrite → CredentialTable
  | .insert c => t.insert c
  | .setKey id encryptedKey =>
    t.modify id (fun c => { c with encryptedKey }) (fun _ => rfl) fun _ => rfl
  | .delete userId pluginName => t.delete (userId, pluginName)

def accepts (t : CredentialTable) : CredentialWrite → Bool
  | .insert c => t.free c && fitsColumn 128 c.pluginName && sendable c.encryptedKey
  | .setKey id encryptedKey => t.table.has id && sendable encryptedKey
  | .delete _ pluginName => sendable pluginName

end CredentialWrite

instance : Writes CredentialTable CredentialWrite :=
  ⟨CredentialWrite.apply, CredentialWrite.accepts⟩

/-- Programs over a session that reads and writes credentials. -/
abbrev CredentialDb (α : Type) := Sql CredentialTable CredentialWrite Unit Exc α

/-! ## `crypto.py` -/

/-- What a call of `Fernet.encrypt` draws. -/
structure FernetDraw where
  time : ℕ
  iv : Bytes
deriving DecidableEq

/-- The libraries: `hkdf` derives a key from a secret for a purpose. -/
structure CryptoLib where
  hkdf : Bytes → Bytes → Bytes
  encrypt : List Char → FernetDraw → Bytes → String
  decrypt : List Char → String → Except Exc Bytes

/-- `cryptography.fernet.InvalidToken` -/
def Exc.fernetInvalidToken : Exc := { mro := ["InvalidToken", "Exception"] }

/-- A token is read back with its key, and with no other. -/
structure CryptoLib.Documented (lib : CryptoLib) : Prop where
  decrypt_encrypt : ∀ key draw data, lib.decrypt key (lib.encrypt key draw data) = .ok data
  decrypt_other : ∀ key key' draw data, key' ≠ key →
    lib.decrypt key' (lib.encrypt key draw data) = .error Exc.fernetInvalidToken

/-- `base64.urlsafe_b64encode` -/
def urlsafeB64encode (b : Bytes) : List Char :=
  base64Url b ++ List.replicate ((3 - b.length % 3) % 3) '='

/-- `bytes.decode("utf-8")` -/
def decodeUtf8 (b : Bytes) : Except Exc String :=
  match b.toByteArray.utf8Decode? with
  | some cs => .ok (String.ofList cs.toList)
  | none => .error { mro := ["UnicodeDecodeError", "UnicodeError", "ValueError", "Exception"] }

lemma decodeUtf8_utf8 (s : String) : decodeUtf8 (utf8 s.toList) = .ok s := by
  have hdecode : (utf8 s.toList).toByteArray.utf8Decode? = some s.toList.toArray :=
    List.utf8Decode?_utf8Encode
  rw [decodeUtf8, hdecode]
  simp

variable (lib : CryptoLib)

/-- `credential_encryption_key` -/
def credentialEncryptionKey (secretKey : String) : Bytes :=
  lib.hkdf (utf8 secretKey.toList) (utf8 "sleuthgraph/creds/v1".toList)

/-- The key of `_fernet()`. -/
def fernetKey (secretKey : String) : List Char :=
  urlsafeB64encode (credentialEncryptionKey lib secretKey)

/-! ## The repository -/

namespace CredentialRepository

/-- The ciphertext that `store_credential` writes. -/
def encryptKey (secretKey : String) (draw : FernetDraw) (apiKey : String) : String :=
  lib.encrypt (fernetKey lib secretKey) draw (utf8 apiKey.toList)

/-- `_fernet().decrypt(...).decode("utf-8")` -/
def decryptKey (secretKey encryptedKey : String) : Except Exc String := do
  decodeUtf8 (← lib.decrypt (fernetKey lib secretKey) encryptedKey)

/-- The rows for a user and a plugin. -/
def ofOwner (t : CredentialTable) (userId : UUID) (pluginName : String) : List Credential :=
  t.rows.filter fun c => c.owner = (userId, pluginName)

/-- `select(Credential).where(...)`, `scalar_one_or_none()` -/
def select (x : Ext) (userId : UUID) (pluginName : String) : CredentialDb (Option Credential) := do
  let rows ← query (x.lookup || !sendable pluginName) fun t => ofOwner t userId pluginName
  Prog.ofExcept (scalarOneOrNone rows)

/-- The row a new credential is flushed as. -/
def newCredential (x : Ext) (userId : UUID) (pluginName encryptedKey : String) : Credential where
  id := x.newId
  userId
  pluginName
  encryptedKey
  createdAt := x.now

/-- `session.flush()` of the key: no column that differs, no statement. -/
def flushKey (x : Ext) (existing : Credential) (encryptedKey : String) : CredentialDb Unit :=
  if existing.encryptedKey = encryptedKey then pure ()
  else write x.flush (.setKey existing.id encryptedKey)

/-- `store_credential` -/
def storeCredential (x : Ext) (secretKey : String) (draw : FernetDraw) (userId : UUID)
    (pluginName apiKey : String) : CredentialDb Credential := do
  let ciphertext := encryptKey lib secretKey draw apiKey
  match ← select x userId pluginName with
  | some existing =>
    flushKey x existing ciphertext
    query x.refresh fun _ => ()
    pure { existing with encryptedKey := ciphertext }
  | none =>
    let cred := newCredential x userId pluginName ciphertext
    write x.flush (.insert cred)
    query x.refresh fun _ => ()
    pure cred

/-- What `get_credential` makes of the rows of a table. -/
def lookup (secretKey : String) (t : CredentialTable) (userId : UUID) (pluginName : String) :
    Except Exc (Option String) := do
  match ← scalarOneOrNone (ofOwner t userId pluginName) with
  | none => return none
  | some cred => return some (← decryptKey lib secretKey cred.encryptedKey)

/-- The rows `list_credentials` selects. -/
def ofUser (t : CredentialTable) (userId : UUID) : List Credential :=
  t.rows.filter fun c => c.userId = userId

/-- `list_credentials` -/
def listCredentials (x : Ext) (order : NewestFirst Credential.createdAt) (userId : UUID) :
    CredentialDb (List Credential) :=
  query x.lookup fun t => order.arrange (ofUser t userId)

/-- `delete_credential`: one statement, and whether it hit a row. -/
def deleteCredential (x : Ext) (userId : UUID) (pluginName : String) : CredentialDb Bool := do
  let rowcount ← query x.flush fun t => (ofOwner t userId pluginName).length
  write false (.delete userId pluginName)
  pure (decide (0 < rowcount))

end CredentialRepository

/-! ## `credentials/router.py` -/

/-- `CredentialCreate` -/
structure CredentialCreate where
  apiKey : String
  apiKey_length : LengthIn 4096 apiKey

/-- `CredentialRead` -/
structure CredentialRead where
  pluginName : String
  createdAt : Time
deriving DecidableEq, Repr

/-- `CredentialRead.model_validate(row)` -/
def CredentialRead.validate (c : Credential) : CredentialRead := ⟨c.pluginName, c.createdAt⟩

inductive CredentialRequest where
  | store (pluginName : String) (body : CredentialCreate)
  | list
  | remove (pluginName : String)

inductive CredentialAnswer where
  | stored (read : CredentialRead)
  | listed (items : List CredentialRead)
  | noContent
deriving DecidableEq, Repr

/-- What a request meets outside its own code, the `SECRET_KEY` of its process included. -/
structure CredentialEnv where
  secretKey : String
  draw : FernetDraw
  x : Ext
  order : NewestFirst Credential.createdAt := default
  finish : Bool := false

namespace CredentialsRouter

variable (env : CredentialEnv) (user : UUID)

/-- `store_key` -/
def storeKey (pluginName : String) (body : CredentialCreate) : CredentialDb CredentialAnswer := do
  let cred ← CredentialRepository.storeCredential lib env.x env.secretKey env.draw user pluginName
    body.apiKey
  return .stored (CredentialRead.validate cred)

/-- `list_keys` -/
def listKeys : CredentialDb CredentialAnswer := do
  let items ← CredentialRepository.listCredentials env.x env.order user
  return .listed (items.map CredentialRead.validate)

/-- `remove_key` -/
def removeKey (pluginName : String) : CredentialDb CredentialAnswer := do
  let deleted ← CredentialRepository.deleteCredential env.x user pluginName
  if !deleted then throw (Exc.http 404 "credential not found") else return .noContent

end CredentialsRouter

/-- The endpoint of a request. -/
def CredentialRequest.endpoint (env : CredentialEnv) (user : UUID) :
    CredentialRequest → CredentialDb CredentialAnswer
  | .store pluginName body => CredentialsRouter.storeKey lib env user pluginName body
  | .list => CredentialsRouter.listKeys env user
  | .remove pluginName => CredentialsRouter.removeKey env user pluginName

/-- A request of a user, with what it meets. -/
structure CredentialInput where
  env : CredentialEnv
  user : UUID
  request : CredentialRequest

/-- What a request answers or raises, and the table it leaves. -/
def CredentialInput.exec (t : CredentialTable) (i : CredentialInput) :
    Except Exc CredentialAnswer × CredentialTable :=
  let (res, s) := withSession i.env.finish (i.request.endpoint lib i.env i.user) (openSession t ())
  (res, s.committed)

end Sleuthgraph
