import Sleuthgraph.Entities.Repository

/-!
# `CaseRepository` (`cases/`)

The cases of all users in one table. Every method is scoped to an owner. A column that an update
sets to null is written as such: the `NOT NULL` of `name` and `status` refuses it, but `tags` is a
JSON column, whose null is a value.
-/

namespace Sleuthgraph

open Programs Transactions Tables Listings

/-! ## Rows -/

/-- `CaseStatus` -/
inductive CaseStatus where
  | active | archived
deriving DecidableEq, Repr

namespace CaseStatus

def value : CaseStatus → String
  | active => "active"
  | archived => "archived"

def all : List CaseStatus := [active, archived]

/-- The status with a value. -/
def ofValue (s : String) : Option CaseStatus := all.find? fun t => t.value = s

theorem ofValue_value (t : CaseStatus) : ofValue t.value = some t := by cases t <;> decide

end CaseStatus

structure Case where
  id : UUID
  ownerId : Option UUID
  name : String
  status : String
  tags : PyVal
  createdAt : Time
  updatedAt : Time
  deletedAt : Option Time
deriving DecidableEq, Repr

instance : Keyed Case UUID := ⟨Case.id⟩

/-- `deleted_at IS NULL` -/
def Case.live (c : Case) : Bool := c.deletedAt.isNone

/-- Columns of a `Case` to set; `some none` is an explicit null. -/
structure CaseChange where
  name : Option (Option String) := none
  status : Option (Option String) := none
  tags : Option PyVal := none
  deletedAt : Option (Option Time) := none
deriving DecidableEq, Repr

/-- No column to set, so no `UPDATE` is emitted. -/
def CaseChange.isEmpty (change : CaseChange) : Bool :=
  change.name.isNone && change.status.isNone && change.tags.isNone && change.deletedAt.isNone

/-- Set the columns, and `updated_at` by its `onupdate`. -/
def CaseChange.set (change : CaseChange) (now : Time) (c : Case) : Case :=
  { c with
    name := (change.name.getD (some c.name)).getD c.name
    status := (change.status.getD (some c.status)).getD c.status
    tags := change.tags.getD c.tags
    deletedAt := change.deletedAt.getD c.deletedAt
    updatedAt := now }

/-! ## Statements -/

/-- The statements that write the table. -/
inductive CaseWrite where
  | insert (c : Case)
  | update (id : UUID) (change : CaseChange) (now : Time)

/-- A value for a `NOT NULL` text column of `n` characters, if there is one. -/
def acceptsText (n : ℕ) : Option (Option String) → Bool
  | none => true
  | some none => false
  | some (some s) => fitsColumn n s

namespace CaseWrite

def apply (cases : Table Case) : CaseWrite → Table Case
  | .insert c => cases.insert c
  | .update id change now => cases.modify id (change.set now) fun _ => rfl

def accepts (cases : Table Case) : CaseWrite → Bool
  | .insert c =>
    !cases.has c.id && fitsColumn 255 c.name && fitsColumn 32 c.status && isJson c.tags
  | .update id change _ =>
    cases.has id && acceptsText 255 change.name && acceptsText 32 change.status
      && change.tags.all isJson

end CaseWrite

instance : Writes (Table Case) CaseWrite := ⟨CaseWrite.apply, CaseWrite.accepts⟩

/-- Programs over a session that reads and writes cases. -/
abbrev CaseDb (α : Type) := Sql (Table Case) CaseWrite Unit Exc α

/-! ## Schemas -/

structure CaseCreate where
  name : String
  tags : List String
  name_length : LengthIn 255 name

/-- The fields a request has set; `some none` is an explicit null. -/
structure CaseUpdate where
  name : Option (Option String)
  status : Option (Option CaseStatus)
  tags : Option (Option (List String))
  name_length : ∀ s, name = some (some s) → LengthIn 255 s

/-- Whether a value is a list of texts. -/
def PyVal.isTexts : PyVal → Bool
  | .list items => items.all fun
    | .str _ => true
    | _ => false
  | _ => false

/-- `CaseRead.model_validate(row)`: the row, if its fields have the declared types. -/
def CaseRead.validate (c : Case) : Except Exc Case :=
  if (CaseStatus.ofValue c.status).isSome && c.tags.isTexts then .ok c
  else .error Exc.validationError

lemma CaseRead.validate_eq {c c' : Case} (h : CaseRead.validate c = .ok c') : c' = c := by
  unfold CaseRead.validate at h
  split at h <;> cases h
  rfl

/-- The `tags` of a row as they are stored. -/
def tagsValue (tags : List String) : PyVal := .list (tags.map .str)

variable (py : Interp)

/-- The columns the flush sets: those whose new value differs from the loaded one. -/
def CaseUpdate.change (data : CaseUpdate) (c : Case) : CaseChange where
  name := data.name.filter fun name => name ≠ some c.name
  status := (data.status.map (Option.map CaseStatus.value)).filter fun s => s ≠ some c.status
  tags := (data.tags.map fun tags => tags.elim .none tagsValue).filter fun tags =>
    !tags.eq py c.tags

/-! ## The repository -/

namespace CaseRepository

/-- The row a new case is flushed as. -/
def newCase (x : Ext) (ownerId : UUID) (data : CaseCreate) : Case where
  id := x.newId
  ownerId := some ownerId
  name := data.name
  status := "active"
  tags := tagsValue data.tags
  createdAt := x.now
  updatedAt := x.now
  deletedAt := none

/-- `CaseRepository.create` -/
def create (x : Ext) (ownerId : UUID) (data : CaseCreate) : CaseDb Case := do
  let c := newCase x ownerId data
  write x.flush (.insert c)
  commit x.commit
  query x.refresh fun _ => ()
  pure c

/-- The row `get` selects. -/
def owned (cases : Table Case) (caseId ownerId : UUID) : Option Case :=
  cases.rows.find? fun c => c.id = caseId && c.ownerId = some ownerId && c.live

/-- `CaseRepository.get` -/
def get (x : Ext) (caseId ownerId : UUID) : CaseDb (Option Case) :=
  query x.lookup fun cases => owned cases caseId ownerId

/-- The rows `list_for_owner` selects. An empty filter is no filter. -/
def ofOwner (cases : Table Case) (ownerId : UUID) (status : Option String) : List Case :=
  cases.rows.filter fun c =>
    c.ownerId = some ownerId && c.live && status.all fun s => s = "" || c.status = s

/-- `CaseRepository.list_for_owner` -/
def listForOwner (x : Ext) (order : NewestFirst Case.createdAt) (ownerId : UUID)
    (status : Option String) (limit offset : ℕ) : CaseDb (List Case) :=
  query x.lookup fun cases => order.page limit offset (ofOwner cases ownerId status)

/-- `session.flush()` of a case's changed columns: no column, no statement. -/
def flushChange (x : Ext) (caseId : UUID) (change : CaseChange) : CaseDb Unit :=
  if change.isEmpty then pure () else write x.flush (.update caseId change x.now)

/-- `CaseRepository.update` -/
def update (x : Ext) (caseId ownerId : UUID) (data : CaseUpdate) : CaseDb (Option Case) := do
  match ← get x caseId ownerId with
  | none => pure none
  | some loaded =>
    flushChange x loaded.id (data.change py loaded)
    commit x.commit
    query x.refresh fun cases => cases.find loaded.id

/-- `CaseRepository.soft_delete` -/
def softDelete (x : Ext) (caseId ownerId : UUID) : CaseDb Bool := do
  match ← get x caseId ownerId with
  | none => pure false
  | some c =>
    write x.flush (.update c.id { deletedAt := some (some x.now) } x.now)
    commit x.commit
    pure true

end CaseRepository

end Sleuthgraph
