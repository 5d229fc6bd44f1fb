import Sleuthgraph.Entities.Repository
import Sleuthgraph.Lib.Sha256

/-!
# The evidence ledger (`evidence/`)

A row in the database and a blob in the bucket. The bucket is outside the transaction: what was
uploaded stays there when the row is rolled back. Blobs are addressed by the hash of their
content, and an upload is skipped when an object of the same size is already there.
-/

namespace Sleuthgraph

open Programs Transactions Tables Listings

variable {O : Type}

/-! ## Hashes and keys -/

/-- The `bytes` type. -/
abbrev Bytes := List UInt8

/-- `hash_bytes` -/
def hashBytes (data : Bytes) : String :=
  String.ofList ((Sha256.digest data).flatMap fun word => hexText 8 word.toNat)

/-- `build_key` -/
def buildKey (caseId : UUID) (sha256Hex : String) : String :=
  String.ofList ("case/".toList ++ uuidText caseId ++ "/ev/".toList ++ sha256Hex.toList)

/-! ## The bucket -/

/-- An object of the bucket. -/
structure Blob where
  body : Bytes
  contentType : String
deriving DecidableEq, Repr

/-- Objects by key, the latest upload first. -/
abbrev Bucket := List (String × Blob)

/-- `botocore.exceptions.ClientError` -/
def Exc.clientError : Exc := { mro := ["ClientError", "Exception"] }

/-- What an upload meets: a `head_object` that fails otherwise than with a 404, a `put_object`
that fails, and whether the object of a failed `put_object` is there all the same. -/
structure PutExt where
  head : Bool := false
  put : Bool := false
  landed : Bool := false

namespace EvidenceStorage

/-- `put_object` -/
def putObject (x : PutExt) (key : String) (data : Bytes) (contentType : String) (b : Bucket) :
    Except Exc Unit × Bucket :=
  let stored := (key, ⟨data, contentType⟩) :: b
  if x.put then (.error Exc.clientError, if x.landed then stored else b) else (.ok (), stored)

/-- `EvidenceStorage.put` -/
def put (x : PutExt) (key : String) (data : Bytes) (contentType : String) (b : Bucket) :
    Except Exc Unit × Bucket :=
  if x.head then (.error Exc.clientError, b)
  else match b.lookup key with
    | some blob =>
      if blob.body.length = data.length then (.ok (), b) else putObject x key data contentType b
    | none => putObject x key data contentType b

/-- `EvidenceStorage.get` -/
def get (key : String) (b : Bucket) : Except Exc Bytes :=
  match b.lookup key with
  | some blob => .ok blob.body
  | none => .error Exc.clientError

end EvidenceStorage

/-! ## The repository -/

namespace EvidenceRepository

/-- `content_type or "application/octet-stream"` -/
def contentTypeFinal : Option String → String
  | some t => if t = "" then "application/octet-stream" else t
  | none => "application/octet-stream"

/-- The row a payload is flushed as. -/
def newEvidence (x : Ext) (caseId : UUID) (createdBy : Option UUID) (data : EvidenceCreate)
    (payload : Bytes) (contentType : Option String) : Evidence where
  id := x.newId
  caseId
  entityId := data.entityId
  sourcePlugin := data.sourcePlugin
  query := data.query
  responseHash := hashBytes payload
  responseUri := buildKey caseId (hashBytes payload)
  responseBytes := payload.length
  responseContentType := some (contentTypeFinal contentType)
  timestamp := x.now
  reproducibilitySpec := data.reproducibilitySpec
  createdBy

/-- `EvidenceRepository.create` -/
def create (x : Ext) (p : PutExt) (caseId : UUID) (createdBy : Option UUID)
    (data : EvidenceCreate) (payload : Bytes) (contentType : Option String) (doCommit : Bool) :
    Db Bucket Evidence := do
  let evidence := newEvidence x caseId createdBy data payload contentType
  write x.flush (.insertEvidence evidence)
  rollingBack do
    external (EvidenceStorage.put p evidence.responseUri payload
      (contentTypeFinal contentType))
    commitIf doCommit x.commit
  refreshIf doCommit x.refresh
  pure evidence

/-- `EvidenceRepository.get` -/
def get (x : Ext) (evId caseId : UUID) : Db O (Option Evidence) :=
  query x.lookup fun st => st.evidence.rows.find? fun ev => ev.id = evId && ev.caseId = caseId

/-- The rows of `base_filter`. -/
def inCase (st : Store) (caseId : UUID) (entityId : Option UUID) (sourcePlugin : Option String) :
    List Evidence :=
  st.evidence.rows.filter fun ev =>
    ev.caseId = caseId && (entityId.all fun id => ev.entityId = some id)
      && sourcePlugin.all fun p => ev.sourcePlugin = p

/-- `EvidenceRepository.list_for_case`: the page and the total. -/
def listForCase (x : Ext) (order : NewestFirst Evidence.timestamp) (caseId : UUID)
    (entityId : Option UUID) (sourcePlugin : Option String) (limit offset : ℕ) :
    Db O (List Evidence × ℕ) := do
  let total ← query x.lookup fun st => (inCase st caseId entityId sourcePlugin).length
  let items ← query x.refresh fun st =>
    order.page limit offset (inCase st caseId entityId sourcePlugin)
  pure (items, total)

end EvidenceRepository

/-! ## Integrity -/

structure HashMismatch where
  evId : UUID
  caseId : UUID
  expected : String
  actual : String
deriving DecidableEq, Repr

/-- `verify_single` -/
def verifySingle (ev : Evidence) (b : Bucket) : Except Exc (Option HashMismatch) := do
  let blob ← EvidenceStorage.get ev.responseUri b
  let actual := hashBytes blob
  if actual ≠ ev.responseHash then
    pure (some ⟨ev.id, ev.caseId, ev.responseHash, actual⟩)
  else pure none

end Sleuthgraph
