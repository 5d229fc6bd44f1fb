import Sleuthgraph.Graph.Age
import Sleuthgraph.Graph.Validators
import Sleuthgraph.Lib.Tables
import Sleuthgraph.Lib.Transactions

/-!
# The database

Rows of the four tables that the plugin pipeline writes, the AGE graph next to them, and the
statements SQLAlchemy emits. An `UPDATE` goes by primary key and sets the columns whose value
differs from the loaded one, so a change of a row is a record of columns to set.
-/

namespace Sleuthgraph

open Tables Transactions

/-- A `timestamptz`. -/
abbrev Time := ℤ

/-! ## Enumerations -/

/-- `EntityType` -/
inductive EntityType where
  | person | organization | domain | ipAddress | email | phone | url | cryptoAddress
deriving DecidableEq, Repr

namespace EntityType

def value : EntityType → String
  | person => "PERSON"
  | organization => "ORGANIZATION"
  | domain => "DOMAIN"
  | ipAddress => "IP_ADDRESS"
  | email => "EMAIL"
  | phone => "PHONE"
  | url => "URL"
  | cryptoAddress => "CRYPTO_ADDRESS"

def all : List EntityType :=
  [person, organization, domain, ipAddress, email, phone, url, cryptoAddress]

/-- `EntityType(value)` -/
def ofValue (s : String) : Option EntityType := all.find? fun t => t.value = s

theorem ofValue_value (t : EntityType) : ofValue t.value = some t := by cases t <;> decide

end EntityType

/-- `RelationshipType` -/
inductive RelationshipType where
  | owns | employedBy | registeredBy | hostedOn | resolvesTo | associatedWith
  | communicatedWith | mentions | subdomainOf
deriving DecidableEq, Repr

namespace RelationshipType

def value : RelationshipType → String
  | owns => "OWNS"
  | employedBy => "EMPLOYED_BY"
  | registeredBy => "REGISTERED_BY"
  | hostedOn => "HOSTED_ON"
  | resolvesTo => "RESOLVES_TO"
  | associatedWith => "ASSOCIATED_WITH"
  | communicatedWith => "COMMUNICATED_WITH"
  | mentions => "MENTIONS"
  | subdomainOf => "SUBDOMAIN_OF"

def all : List RelationshipType :=
  [owns, employedBy, registeredBy, hostedOn, resolvesTo, associatedWith, communicatedWith,
    mentions, subdomainOf]

/-- `RelationshipType(value)` -/
def ofValue (s : String) : Option RelationshipType := all.find? fun t => t.value = s

theorem ofValue_value (t : RelationshipType) : ofValue t.value = some t := by
  cases t <;> decide

end RelationshipType

/-- The `status` column of a `PluginRun`. -/
inductive RunStatus where
  | queued | running | succeeded | failed
deriving DecidableEq, Repr

/-- The text in the column. -/
def RunStatus.value : RunStatus → String
  | queued => "queued"
  | running => "running"
  | succeeded => "succeeded"
  | failed => "failed"

/-! ## Rows -/

structure Entity where
  id : UUID
  caseId : UUID
  type : String
  label : String
  attrs : PyVal
  confidence : ℚ
  createdBy : Option UUID
  createdAt : Time
  updatedAt : Time
  deletedAt : Option Time
deriving DecidableEq, Repr

structure Relationship where
  id : UUID
  caseId : UUID
  srcEntityId : UUID
  dstEntityId : UUID
  relType : String
  confidence : ℚ
  sourcePlugin : Option String
  attrs : PyDict
  createdBy : Option UUID
  createdAt : Time
  deletedAt : Option Time
deriving DecidableEq, Repr

structure Evidence where
  id : UUID
  caseId : UUID
  entityId : Option UUID
  sourcePlugin : String
  query : String
  responseHash : String
  responseUri : String
  responseBytes : ℕ
  responseContentType : Option String
  timestamp : Time
  reproducibilitySpec : PyDict
  createdBy : Option UUID
deriving DecidableEq, Repr

structure PluginRun where
  id : UUID
  caseId : UUID
  inputEntityId : Option UUID
  pluginName : String
  pluginVersion : String
  startedAt : Time
  finishedAt : Option Time
  status : RunStatus
  errorMessage : Option String
  entitiesCreatedCount : ℕ
  relationshipsCreatedCount : ℕ
  evidenceCount : ℕ
  createdBy : Option UUID
deriving DecidableEq, Repr

instance : Keyed Entity UUID := ⟨Entity.id⟩
instance : Keyed Relationship UUID := ⟨Relationship.id⟩
instance : Keyed Evidence UUID := ⟨Evidence.id⟩
instance : Keyed PluginRun UUID := ⟨PluginRun.id⟩

/-- `deleted_at IS NULL` -/
def Entity.live (e : Entity) : Bool := e.deletedAt.isNone

/-- `deleted_at IS NULL` -/
def Relationship.live (r : Relationship) : Bool := r.deletedAt.isNone

/-! ## Changes -/

/-- `rel.deleted_at = now` -/
def Relationship.retire (now : Time) (r : Relationship) : Relationship :=
  { r with deletedAt := some now }

/-- Columns of an `Entity` to set; `some none` is an explicit null. -/
structure EntityChange where
  label : Option (Option String) := none
  attrs : Option PyVal := none
  confidence : Option (Option ℚ) := none
  deletedAt : Option (Option Time) := none
deriving DecidableEq, Repr

/-- No column to set, so no `UPDATE` is emitted. -/
def EntityChange.isEmpty (c : EntityChange) : Bool :=
  c.label.isNone && c.attrs.isNone && c.confidence.isNone && c.deletedAt.isNone

/-- Set the columns, and `updated_at` by its `onupdate`. -/
def EntityChange.set (c : EntityChange) (now : Time) (e : Entity) : Entity :=
  { e with
    label := (c.label.getD (some e.label)).getD e.label
    attrs := c.attrs.getD e.attrs
    confidence := (c.confidence.getD (some e.confidence)).getD e.confidence
    deletedAt := c.deletedAt.getD e.deletedAt
    updatedAt := now }

/-- Columns of a `PluginRun` to set. -/
structure RunChange where
  status : Option RunStatus := none
  finishedAt : Option (Option Time) := none
  errorMessage : Option (Option String) := none
  entitiesCreatedCount : Option ℕ := none
  relationshipsCreatedCount : Option ℕ := none
  evidenceCount : Option ℕ := none
deriving DecidableEq, Repr

/-- `some b` when it differs from `a`. -/
def changed {α : Type} [DecidableEq α] (a b : α) : Option α := if a = b then none else some b

theorem changed_getD {α : Type} [DecidableEq α] (a b : α) : (changed a b).getD a = b := by
  unfold changed
  split
  · simpa
  · rfl

/-- The columns in which `run'` differs from the loaded `run`. -/
def RunChange.between (run run' : PluginRun) : RunChange where
  status := changed run.status run'.status
  finishedAt := changed run.finishedAt run'.finishedAt
  errorMessage := changed run.errorMessage run'.errorMessage
  entitiesCreatedCount := changed run.entitiesCreatedCount run'.entitiesCreatedCount
  relationshipsCreatedCount := changed run.relationshipsCreatedCount run'.relationshipsCreatedCount
  evidenceCount := changed run.evidenceCount run'.evidenceCount

def RunChange.set (c : RunChange) (run : PluginRun) : PluginRun :=
  { run with
    status := c.status.getD run.status
    finishedAt := c.finishedAt.getD run.finishedAt
    errorMessage := c.errorMessage.getD run.errorMessage
    entitiesCreatedCount := c.entitiesCreatedCount.getD run.entitiesCreatedCount
    relationshipsCreatedCount := c.relationshipsCreatedCount.getD run.relationshipsCreatedCount
    evidenceCount := c.evidenceCount.getD run.evidenceCount }

/-! ## Statements -/

/-- Everything one transaction of the pipeline can touch. -/
structure Store where
  entities : Table Entity
  relationships : Table Relationship
  evidence : Table Evidence
  runs : Table PluginRun
  graph : Graph
deriving DecidableEq

def Store.empty : Store := ⟨.empty, .empty, .empty, .empty, .empty⟩

instance : Inhabited Store := ⟨.empty⟩

/-- The writing statements. -/
inductive Write where
  | insertEntity (e : Entity)
  | updateEntity (id : UUID) (c : EntityChange) (now : Time)
  | insertRelationship (r : Relationship)
  | retireRelationship (id : UUID) (now : Time)
  | insertEvidence (ev : Evidence)
  | insertRun (run : PluginRun)
  | updateRun (id : UUID) (c : RunChange)
  | cypher (op : Cypher)
deriving DecidableEq

/-- A text that a `VARCHAR(n)` column takes: PostgreSQL has no NUL in text. It would cut a longer
text whose excess is spaces; no such text is assumed to reach a column that no schema guards
(`credentials.plugin_name`, `users.oidc_sub`), and here it is refused like the others. -/
def fitsColumn (n : ℕ) (s : String) : Bool := s.length ≤ n && !s.toList.contains '\x00'

mutual

/-- A value whose `json.dumps` is JSON, as a `JSON` column wants it. -/
def isJson : PyVal → Bool
  | .float repr => repr ≠ "nan" && repr ≠ "inf" && repr ≠ "-inf"
  | .int i => decide (StrIntDefined i)
  | .list items => areJson items
  | .dict items => entriesJson items
  | .obj _ => false
  | _ => true

/-- `isJson` along a list. -/
def areJson : List PyVal → Bool
  | [] => true
  | v :: items => isJson v && areJson items

/-- `isJson` for the values of a dict. -/
def entriesJson : PyDict → Bool
  | [] => true
  | (_, v) :: items => isJson v && entriesJson items

end

namespace Store

def apply (st : Store) : Write → Store
  | .insertEntity e => { st with entities := st.entities.insert e }
  | .updateEntity id c now =>
    { st with entities := st.entities.modify id (c.set now) fun _ => rfl }
  | .insertRelationship r => { st with relationships := st.relationships.insert r }
  | .retireRelationship id now =>
    { st with relationships := st.relationships.modify id (Relationship.retire now) fun _ => rfl }
  | .insertEvidence ev => { st with evidence := st.evidence.insert ev }
  | .insertRun run => { st with runs := st.runs.insert run }
  | .updateRun id c => { st with runs := st.runs.modify id c.set fun _ => rfl }
  | .cypher op => { st with graph := op.run st.graph }

/-- The constraints of the tables: primary keys, column types, `NOT NULL`, and the foreign key of
`evidence.entity_id` (the other foreign keys hold wherever the code inserts). An `UPDATE` must
hit its row. -/
def accepts (st : Store) : Write → Bool
  | .insertEntity e =>
    !st.entities.has e.id && fitsColumn 32 e.type && fitsColumn 512 e.label && isJson e.attrs
  | .updateEntity id c _ =>
    st.entities.has id
      && (match c.label with
        | some none => false
        | some (some l) => fitsColumn 512 l
        | none => true)
      && c.confidence != some none
      && c.attrs.all isJson
  | .insertRelationship r =>
    !st.relationships.has r.id && fitsColumn 32 r.relType
      && r.sourcePlugin.all (fitsColumn 128) && isJson (.dict r.attrs)
  | .retireRelationship id _ => st.relationships.has id
  | .insertEvidence ev =>
    !st.evidence.has ev.id && fitsColumn 128 ev.sourcePlugin && fitsColumn 1024 ev.query
      && fitsColumn 64 ev.responseHash && fitsColumn 512 ev.responseUri
      && ev.responseContentType.all (fitsColumn 128) && isJson (.dict ev.reproducibilitySpec)
      && ev.entityId.all st.entities.has
  | .insertRun run =>
    !st.runs.has run.id && fitsColumn 128 run.pluginName && fitsColumn 32 run.pluginVersion
  | .updateRun id _ => st.runs.has id
  -- a statement that AGE refuses counts as one that does not get through
  | .cypher _ => true

end Store

/-! ### New rows have new keys -/

section Accepts

variable {st : Store}

lemma accepts_insertEntity {e : Entity} (h : st.accepts (.insertEntity e) = true) :
    st.entities.has (pk e) = false := by
  simp only [Store.accepts, Bool.and_eq_true, Bool.not_eq_true'] at h
  exact h.1.1.1

lemma accepts_insertRelationship {r : Relationship}
    (h : st.accepts (.insertRelationship r) = true) : st.relationships.has (pk r) = false := by
  simp only [Store.accepts, Bool.and_eq_true, Bool.not_eq_true'] at h
  exact h.1.1.1

lemma accepts_insertEvidence {ev : Evidence} (h : st.accepts (.insertEvidence ev) = true) :
    st.evidence.has (pk ev) = false := by
  simp only [Store.accepts, Bool.and_eq_true, Bool.not_eq_true'] at h
  exact h.1.1.1.1.1.1.1

lemma accepts_insertRun {run : PluginRun} (h : st.accepts (.insertRun run) = true) :
    st.runs.has (pk run) = false := by
  simp only [Store.accepts, Bool.and_eq_true, Bool.not_eq_true'] at h
  exact h.1.1

end Accepts

/-- `scalar_one_or_none()` -/
def scalarOneOrNone {α : Type} : List α → Except Exc (Option α)
  | [] => .ok none
  | [row] => .ok (some row)
  | _ => .error Exc.multipleResultsFound

lemma scalarOneOrNone_some {α : Type} {rows : List α} {row : α}
    (h : scalarOneOrNone rows = .ok (some row)) : rows = [row] := by
  match rows, h with
  | [_], h => cases h; rfl

lemma scalarOneOrNone_none {α : Type} {rows : List α} (h : scalarOneOrNone rows = .ok none) :
    rows = [] := by
  match rows, h with
  | [], _ => rfl
  | [_], h => cases h
  | _ :: _ :: _, h => cases h

instance : Writes Store Write := ⟨Store.apply, Store.accepts⟩

instance : SessionErrors Exc := ⟨Exc.dbApiError, Exc.pendingRollbackError⟩

end Sleuthgraph
