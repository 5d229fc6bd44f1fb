import Sleuthgraph.Store

/-!
# Create and update schemas

The pydantic models at the entrance of the repositories. A value of such a type has passed its
validators, so the validated facts are fields. `validate` builds one from raw fields the way
pydantic does: a `ValueError` of a validator turns into a `ValidationError`, any other exception
of a validator goes through as it is.
-/

namespace Sleuthgraph

/-- What pydantic makes of an exception of a validator. -/
def pydanticError (e : Exc) : Exc :=
  if e.isinstance "ValueError" then Exc.validationError else e

/-- `Field(min_length=1, max_length=n)` -/
def LengthIn (n : ℕ) (s : String) : Prop := 1 ≤ s.length ∧ s.length ≤ n

instance (n : ℕ) (s : String) : Decidable (LengthIn n s) := inferInstanceAs (Decidable (_ ∧ _))

/-- `Field(ge=0.0, le=1.0)` -/
def UnitRange (q : ℚ) : Prop := 0 ≤ q ∧ q ≤ 1

instance (q : ℚ) : Decidable (UnitRange q) := inferInstanceAs (Decidable (_ ∧ _))

/-- A read schema along a list answers the list it is given. -/
lemma mapM_validate_eq {α : Type} {f : α → Except Exc α} (hf : ∀ {a a'}, f a = .ok a' → a' = a)
    {l l' : List α} (h : l.mapM f = .ok l') : l' = l := by
  induction l generalizing l' with
  | nil =>
    cases h
    rfl
  | cons a l ih =>
    rw [List.mapM_cons] at h
    obtain ⟨a', ha, h⟩ := bind_eq_ok.mp h
    obtain ⟨l'', hl, h⟩ := bind_eq_ok.mp h
    cases h
    rw [hf ha, ih hl]

/-! ## Entities -/

structure EntityCreate where
  type : EntityType
  label : String
  attrs : PyDict
  confidence : ℚ
  label_length : LengthIn 512 label
  attrs_valid : validateAttrs attrs = .ok ()
  confidence_range : UnitRange confidence

/-- The default confidence is in range, and no attributes are valid attributes. -/
lemma unitRange_one : UnitRange 1 := by decide

lemma validateAttrs_nil : validateAttrs [] = .ok () := rfl

/-- `EntityCreate(type=..., label=...)` -/
def EntityCreate.ofLabel (type : EntityType) (label : String) (hlabel : LengthIn 512 label) :
    EntityCreate :=
  ⟨type, label, [], 1, hlabel, validateAttrs_nil, unitRange_one⟩

/-- `EntityCreate(type=..., label=..., attrs=..., confidence=...)` -/
def EntityCreate.validate (type label : String) (attrs : PyDict) (confidence : ℚ) :
    Except Exc EntityCreate :=
  match hattrs : validateAttrs attrs with
  | .error e => .error (pydanticError e)
  | .ok () =>
    match EntityType.ofValue type with
    | none => .error Exc.validationError
    | some t =>
      if h : LengthIn 512 label ∧ UnitRange confidence then
        .ok ⟨t, label, attrs, confidence, h.1, hattrs, h.2⟩
      else .error Exc.validationError

/-- The fields a request has set; `some none` is an explicit null. -/
structure EntityUpdate where
  label : Option (Option String)
  attrs : Option (Option PyDict)
  confidence : Option (Option ℚ)
  label_length : ∀ l, label = some (some l) → LengthIn 512 l
  attrs_valid : ∀ a, attrs = some (some a) → validateAttrs a = .ok ()
  confidence_range : ∀ q, confidence = some (some q) → UnitRange q

lemma label_kept (l : String) : (none : Option (Option String)) = some (some l) → LengthIn 512 l :=
  nofun

lemma confidence_kept (q : ℚ) : (none : Option (Option ℚ)) = some (some q) → UnitRange q := nofun

/-- Whether a value is a dict. -/
def PyVal.isDict : PyVal → Bool
  | .dict _ => true
  | _ => false

/-- `EntityRead.model_validate(row)`: the row, if its fields have the declared types. -/
def EntityRead.validate (e : Entity) : Except Exc Entity :=
  if (EntityType.ofValue e.type).isSome && e.attrs.isDict then .ok e
  else .error Exc.validationError

/-- A read schema answers the row it is given. -/
lemma EntityRead.validate_eq {e e' : Entity} (h : EntityRead.validate e = .ok e') : e' = e := by
  unfold EntityRead.validate at h
  split at h <;> cases h
  rfl

/-! ## Relationships -/

structure RelationshipCreate where
  srcEntityId : UUID
  dstEntityId : UUID
  relType : RelationshipType
  confidence : ℚ
  sourcePlugin : Option String
  attrs : PyDict
  confidence_range : UnitRange confidence
  sourcePlugin_length : ∀ p, sourcePlugin = some p → p.length ≤ 128
  attrs_valid : validateAttrs attrs = .ok ()

/-- `RelationshipCreate(src_entity_id=..., dst_entity_id=..., rel_type=...)` -/
def RelationshipCreate.ofEndpoints (src dst : UUID) (relType : RelationshipType) :
    RelationshipCreate :=
  ⟨src, dst, relType, 1, none, [], unitRange_one, nofun, validateAttrs_nil⟩

/-- `RelationshipCreate(src_entity_id=..., ...)` -/
def RelationshipCreate.validate (src dst : UUID) (relType : String) (confidence : ℚ)
    (sourcePlugin : Option String) (attrs : PyDict) : Except Exc RelationshipCreate :=
  match hattrs : validateAttrs attrs with
  | .error e => .error (pydanticError e)
  | .ok () =>
    match RelationshipType.ofValue relType with
    | none => .error Exc.validationError
    | some t =>
      if h : UnitRange confidence ∧ ∀ p, sourcePlugin = some p → p.length ≤ 128 then
        .ok ⟨src, dst, t, confidence, sourcePlugin, attrs, h.1, h.2, hattrs⟩
      else .error Exc.validationError

/-- `RelationshipRead.model_validate(row)` -/
def RelationshipRead.validate (r : Relationship) : Except Exc Relationship :=
  if (RelationshipType.ofValue r.relType).isSome then .ok r else .error Exc.validationError

lemma RelationshipRead.validate_eq {r r' : Relationship}
    (h : RelationshipRead.validate r = .ok r') : r' = r := by
  unfold RelationshipRead.validate at h
  split at h <;> cases h
  rfl

/-! ## Evidence -/

/-- `[a-z0-9_-]` -/
def isPluginChar (c : Char) : Bool := c.isLower || c.isDigit || c == '_' || c == '-'

/-- `[0-9a-z._-]` -/
def isVersionChar (c : Char) : Bool := isPluginChar c || c == '.'

/-- The whole text is of the form `[a-z][a-z0-9_-]{0,63}(@[0-9][0-9a-z._-]{0,31})?`. -/
def fullSourcePlugin (s : List Char) : Bool :=
  (match s.takeWhile (· ≠ '@') with
    | c :: cs => c.isLower && cs.all isPluginChar && decide (cs.length ≤ 63)
    | [] => false)
  && (match s.dropWhile (· ≠ '@') with
    | [] => true
    | _ :: d :: cs => d.isDigit && cs.all isVersionChar && decide (cs.length ≤ 31)
    | _ => false)

/-- `_SOURCE_PLUGIN_RE.match(s)`: `$` also matches just before a final newline. -/
def sourcePluginRe (s : List Char) : Bool :=
  fullSourcePlugin s || (s.getLast? == some '\n' && fullSourcePlugin s.dropLast)

structure EvidenceCreate where
  entityId : Option UUID
  sourcePlugin : String
  query : String
  reproducibilitySpec : PyDict
  sourcePlugin_valid : LengthIn 96 sourcePlugin ∧ sourcePluginRe sourcePlugin.toList = true
  query_length : LengthIn 1024 query
  spec_valid : validateAttrs reproducibilitySpec = .ok ()

lemma sourcePlugin_manual :
    LengthIn 96 "manual" ∧ sourcePluginRe "manual".toList = true := by decide

/-- `EvidenceCreate(entity_id=..., ...)` -/
def EvidenceCreate.validate (entityId : Option UUID) (sourcePlugin query : String)
    (spec : PyDict) : Except Exc EvidenceCreate :=
  match hspec : validateAttrs spec with
  | .error e => .error (pydanticError e)
  | .ok () =>
    if h : (LengthIn 96 sourcePlugin ∧ sourcePluginRe sourcePlugin.toList = true)
        ∧ LengthIn 1024 query then
      .ok ⟨entityId, sourcePlugin, query, spec, h.1, h.2, hspec⟩
    else .error Exc.validationError

lemma EvidenceCreate.entityId_of_validate {entityId : Option UUID} {sourcePlugin query : String}
    {spec : PyDict} {data : EvidenceCreate}
    (h : EvidenceCreate.validate entityId sourcePlugin query spec = .ok data) :
    data.entityId = entityId := by
  unfold EvidenceCreate.validate at h
  split at h
  · cases h
  · split at h <;> cases h
    rfl

end Sleuthgraph
