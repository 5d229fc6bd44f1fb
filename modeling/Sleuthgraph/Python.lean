import Mathlib.Algebra.Ring.Nat
import Mathlib.Data.Int.Notation
import Mathlib.Data.Rat.Init
import Mathlib.Tactic.Common

/-!
# Python values and exceptions

The values that travel through untyped `dict` fields (entity `attrs`, token claims,
relationship endpoints) and the exceptions that the code distinguishes by class.
-/

namespace Sleuthgraph

/-! ## Values -/

/-- A Python value as `json.loads` or a plugin builds it. A float is known by its `repr`, an
object of any other class by a tag. -/
inductive PyVal where
  | none
  | bool (b : Bool)
  | int (i : ℤ)
  | float (repr : String)
  | str (s : String)
  | list (items : List PyVal)
  | dict (items : List (String × PyVal))
  | obj (tag : String)
deriving Repr, Inhabited

/-- A `dict` with string keys, in insertion order. -/
abbrev PyDict := List (String × PyVal)

mutual

/-- Structural comparison of values. -/
def PyVal.same : PyVal → PyVal → Bool
  | .none, .none => true
  | .bool a, .bool b => a == b
  | .int a, .int b => a == b
  | .float a, .float b => a == b
  | .str a, .str b => a == b
  | .list xs, .list ys => sameItems xs ys
  | .dict xs, .dict ys => sameEntries xs ys
  | .obj a, .obj b => a == b
  | _, _ => false

/-- `PyVal.same` along two lists. -/
def sameItems : List PyVal → List PyVal → Bool
  | [], [] => true
  | x :: xs, y :: ys => x.same y && sameItems xs ys
  | _, _ => false

/-- `PyVal.same` along the entries of two dicts. -/
def sameEntries : PyDict → PyDict → Bool
  | [], [] => true
  | (k, x) :: xs, (l, y) :: ys => k == l && x.same y && sameEntries xs ys
  | _, _ => false

end

mutual

theorem PyVal.same_iff : ∀ a b : PyVal, a.same b = true ↔ a = b
  | .none, b => by cases b <;> simp [PyVal.same]
  | .bool _, b => by cases b <;> simp [PyVal.same]
  | .int _, b => by cases b <;> simp [PyVal.same]
  | .float _, b => by cases b <;> simp [PyVal.same]
  | .str _, b => by cases b <;> simp [PyVal.same]
  | .list xs, b => by cases b <;> simp [PyVal.same, sameItems_iff xs]
  | .dict xs, b => by cases b <;> simp [PyVal.same, sameEntries_iff xs]
  | .obj _, b => by cases b <;> simp [PyVal.same]

theorem sameItems_iff : ∀ xs ys : List PyVal, sameItems xs ys = true ↔ xs = ys
  | [], ys => by cases ys <;> simp [sameItems]
  | x :: xs, ys => by cases ys <;> simp [sameItems, PyVal.same_iff x, sameItems_iff xs]

theorem sameEntries_iff : ∀ xs ys : PyDict, sameEntries xs ys = true ↔ xs = ys
  | [], ys => by cases ys <;> simp [sameEntries]
  | (k, x) :: xs, ys => by
    cases ys <;> simp [sameEntries, Prod.ext_iff, PyVal.same_iff x, sameEntries_iff xs]

end

instance : DecidableEq PyVal := fun a b => decidable_of_iff _ (PyVal.same_iff a b)

/-- Python truthiness. -/
def PyVal.truthy : PyVal → Bool
  | .none => false
  | .bool b => b
  | .int i => i != 0
  | .float repr => repr != "0.0" && repr != "-0.0"
  | .str s => s != ""
  | .list items => !items.isEmpty
  | .dict items => !items.isEmpty
  | .obj _ => true

/-- `d.get(key)`. -/
def PyDict.get (d : PyDict) (key : String) : PyVal := (d.lookup key).getD .none

/-- `key in d`. -/
def PyDict.contains (d : PyDict) (key : String) : Bool := (d.lookup key).isSome

/-! ## Text -/

/-- What the interpreter does with the values that are known here by a text only: `str()` of a
list or an object, where it is defined (`StrDefined`), `repr` of a float, and the number a
`repr` stands for (none for `nan`). -/
structure Interp where
  str : PyVal → String
  repr : ℚ → String
  number : String → Option ℚ

/-- An interpreter for runs whose only float is `1.0`. -/
def plainInterp : Interp := ⟨fun _ => "", fun _ => "1.0", fun _ => none⟩

/-- The default of `sys.set_int_max_str_digits`: converting an integer of more decimal digits
to text raises `ValueError`. -/
def intMaxStrDigits : ℕ := 4300

/-- `str(i)` is defined. -/
def StrIntDefined (i : ℤ) : Prop := (Nat.toDigits 10 i.natAbs).length ≤ intMaxStrDigits

instance (i : ℤ) : Decidable (StrIntDefined i) := inferInstanceAs (Decidable (_ ≤ _))

theorem strIntDefined_iff (i : ℤ) : StrIntDefined i ↔ i.natAbs < 10 ^ intMaxStrDigits :=
  Nat.length_toDigits_le_iff (by decide) (by decide)

section Integers

variable (ints : ℤ → Prop)

mutual

/-- Every integer inside a value satisfies `ints`. -/
def EveryInt : PyVal → Prop
  | .int i => ints i
  | .list items => EveryIntItems items
  | .dict items => EveryIntEntries items
  | _ => True

/-- `EveryInt` along a list. -/
def EveryIntItems : List PyVal → Prop
  | [] => True
  | v :: items => EveryInt v ∧ EveryIntItems items

/-- `EveryInt` along the entries of a dict. -/
def EveryIntEntries : PyDict → Prop
  | [] => True
  | (_, v) :: items => EveryInt v ∧ EveryIntEntries items

end

variable {ints} [DecidablePred ints]

mutual

def EveryInt.decide : ∀ v : PyVal, Decidable (EveryInt ints v)
  | .int i => inferInstanceAs (Decidable (ints i))
  | .list items => EveryIntItems.decide items
  | .dict items => EveryIntEntries.decide items
  | .none | .bool _ | .float _ | .str _ | .obj _ => isTrue trivial

def EveryIntItems.decide : ∀ items : List PyVal, Decidable (EveryIntItems ints items)
  | [] => isTrue trivial
  | v :: items =>
    haveI := EveryInt.decide v
    haveI := EveryIntItems.decide items
    inferInstanceAs (Decidable (_ ∧ _))

def EveryIntEntries.decide : ∀ items : PyDict, Decidable (EveryIntEntries ints items)
  | [] => isTrue trivial
  | (_, v) :: items =>
    haveI := EveryInt.decide v
    haveI := EveryIntEntries.decide items
    inferInstanceAs (Decidable (_ ∧ _))

end

instance (v : PyVal) : Decidable (EveryInt ints v) := EveryInt.decide v

end Integers

/-- `str(v)` is defined: the text of a container writes out the integers inside it. -/
abbrev StrDefined (v : PyVal) : Prop := EveryInt StrIntDefined v

/-- The last `width` hexadecimal digits of `n`. -/
def hexText (width n : ℕ) : List Char :=
  (List.range width).map fun i => Nat.digitChar (n / 16 ^ (width - 1 - i) % 16)

@[simp] theorem length_hexText (width n : ℕ) : (hexText width n).length = width := by
  simp [hexText]

/-- A `uuid.UUID`. -/
abbrev UUID := BitVec 128

/-- `str(id)` -/
def uuidText (id : UUID) : List Char :=
  let group (width shift : ℕ) := hexText width (id.toNat / 2 ^ shift)
  group 8 96 ++ '-' :: group 4 80 ++ '-' :: group 4 64 ++ '-' :: group 4 48 ++ '-' :: group 12 0

lemma digitChar_inj : ∀ a < 16, ∀ b < 16, Nat.digitChar a = Nat.digitChar b → a = b := by decide

/-- The number is read off its last digits, in any base up to 16. -/
lemma digits_inj {base width n m : ℕ} (hpos : 0 < base) (hle : base ≤ 16)
    (h : ((List.range width).map fun i => Nat.digitChar (n / base ^ (width - 1 - i) % base))
      = (List.range width).map fun i => Nat.digitChar (m / base ^ (width - 1 - i) % base)) :
    n % base ^ width = m % base ^ width := by
  have hdigit : ∀ k < width, n / base ^ k % base = m / base ^ k % base := by
    intro k hk
    have hget := List.map_inj_left.mp h (width - 1 - k) (List.mem_range.mpr (by omega))
    rw [show width - 1 - (width - 1 - k) = k by omega] at hget
    exact digitChar_inj _ (Nat.lt_of_lt_of_le (Nat.mod_lt _ hpos) hle) _
      (Nat.lt_of_lt_of_le (Nat.mod_lt _ hpos) hle) hget
  clear h
  induction width with
  | zero => rw [Nat.pow_zero, Nat.mod_one, Nat.mod_one]
  | succ width ih =>
    rw [Nat.mod_pow_succ, Nat.mod_pow_succ, ih fun k hk => hdigit k (by omega),
      hdigit width (by omega)]

/-- The digits of a hexadecimal text are read off it. -/
lemma hexText_inj {width n m : ℕ} (h : hexText width n = hexText width m) :
    n % 16 ^ width = m % 16 ^ width := digits_inj (by decide) (by decide) h

/-- Different ids have different texts. -/
lemma uuidText_injective : Function.Injective uuidText := by
  intro a b h
  simp only [uuidText, List.append_assoc, List.cons_append] at h
  obtain ⟨h₁, h⟩ := List.append_inj h (by rw [length_hexText, length_hexText])
  obtain ⟨h₂, h⟩ := List.append_inj (List.cons.inj h).2 (by rw [length_hexText, length_hexText])
  obtain ⟨h₃, h⟩ := List.append_inj (List.cons.inj h).2 (by rw [length_hexText, length_hexText])
  obtain ⟨h₄, h⟩ := List.append_inj (List.cons.inj h).2 (by rw [length_hexText, length_hexText])
  have h₅ := hexText_inj (List.cons.inj h).2
  have h₁ := hexText_inj h₁
  have h₂ := hexText_inj h₂
  have h₃ := hexText_inj h₃
  have h₄ := hexText_inj h₄
  have ha := a.isLt
  have hb := b.isLt
  apply BitVec.eq_of_toNat_eq
  simp only [Nat.reducePow, Nat.div_one] at h₁ h₂ h₃ h₄ h₅ ha hb
  omega
@[simp] lemma length_uuidText (id : UUID) : (uuidText id).length = 36 := by
  simp [uuidText]

/-! ## Equality -/

section Equality

variable (py : Interp)

/-- The number a value compares as; booleans are numbers. -/
def PyVal.number : PyVal → Option ℚ
  | .bool b => some (if b then 1 else 0)
  | .int i => some i
  | .float repr => py.number repr
  | _ => Option.none

mutual

/-- `a == b`: numbers by value, so `1 == True`, and dicts without regard to order. -/
def PyVal.eq : PyVal → PyVal → Bool
  | .none, b => b == .none
  | .str s, b => b == .str s
  | .obj tag, b => b == .obj tag
  | .list xs, b => match b with
    | .list ys => eqItems xs ys
    | _ => false
  | .dict xs, b => match b with
    | .dict ys => xs.length == ys.length && eqEntries xs ys
    | _ => false
  | a, b => match a.number py, b.number py with
    | some x, some y => x == y
    | _, _ => false

/-- `PyVal.eq` along two lists. -/
def eqItems : List PyVal → List PyVal → Bool
  | [], ys => ys.isEmpty
  | x :: xs, ys => match ys with
    | [] => false
    | y :: ys => x.eq y && eqItems xs ys

/-- Every entry of the first dict is one of the second. -/
def eqEntries : PyDict → PyDict → Bool
  | [], _ => true
  | (k, x) :: xs, ys =>
    (match ys.lookup k with
      | some y => x.eq y
      | Option.none => false) && eqEntries xs ys

end

end Equality

/-! ## Exceptions -/

/-- An exception, known by the names of its class and of that class's bases, and by its text
where the code gives it a fixed one. -/
structure Exc where
  mro : List String
  text : String := ""
deriving DecidableEq, Repr

namespace Exc

/-- `isinstance(e, cls)`. -/
def isinstance (e : Exc) (cls : String) : Bool := e.mro.contains cls

/-- `type(e).__name__`. -/
def typeName (e : Exc) : String := e.mro.headD ""

def valueError : Exc := { mro := ["ValueError", "Exception"] }
def typeError : Exc := { mro := ["TypeError", "Exception"] }
def keyError : Exc := { mro := ["KeyError", "LookupError", "Exception"] }
def attributeError : Exc := { mro := ["AttributeError", "Exception"] }

/-- `HTTPException(status_code=status, detail=detail)` -/
def http (status : ℕ) (detail : String) : Exc :=
  { mro := ["HTTPException", "Exception"], text := toString status ++ " " ++ detail }

/-- pydantic's rejection of a model's input. -/
def validationError : Exc := { mro := ["ValidationError", "ValueError", "Exception"] }

/-- A statement that the database refused or that did not get through. -/
def dbApiError : Exc := { mro := ["DBAPIError", "StatementError", "SQLAlchemyError", "Exception"] }

/-- A session used after a failed statement, before its rollback. -/
def pendingRollbackError : Exc :=
  { mro := ["PendingRollbackError", "InvalidRequestError", "SQLAlchemyError", "Exception"] }

/-- `scalar_one_or_none` on more than one row. -/
def multipleResultsFound : Exc :=
  { mro := ["MultipleResultsFound", "InvalidRequestError", "SQLAlchemyError", "Exception"] }

end Exc

lemma bind_eq_ok {α β : Type} {r : Except Exc α} {f : α → Except Exc β} {b : β} :
    (r >>= f) = .ok b ↔ ∃ a, r = .ok a ∧ f a = .ok b := by
  cases r <;> simp [bind, Except.bind]

lemma ok_of_isOk {α : Type} {r : Except Exc α} (h : r.isOk = true) (default : α) :
    r = .ok (r.toOption.getD default) := by
  cases r with
  | ok a => rfl
  | error e => cases h

lemma guard_eq_ok {α : Type} {c : Bool} {e : Exc} {r : Except Exc α} {a : α} :
    (if (!c) = true then .error e else r) = .ok a ↔ c = true ∧ r = .ok a := by
  cases c <;> simp

/-- Elements that are paired. -/
lemma exists_paired {α β : Type} {R : α → β → Prop} {l : List α} {l' : List β}
    (h : List.Forall₂ R l l') {a : α} (ha : a ∈ l) : ∃ b ∈ l', R a b := by
  induction h with
  | nil => cases ha
  | cons hhead htail ih =>
    rcases List.mem_cons.mp ha with rfl | ha
    · exact ⟨_, List.mem_cons_self, hhead⟩
    · obtain ⟨b, hb, hab⟩ := ih ha
      exact ⟨b, List.mem_cons_of_mem _ hb, hab⟩

end Sleuthgraph
