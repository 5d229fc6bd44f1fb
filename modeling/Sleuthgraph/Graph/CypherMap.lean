import Sleuthgraph.Lib.Readers
import Sleuthgraph.Python

/-!
# Cypher map literals (`graph/age.py`)

`_encode_props` writes a property map as a Cypher map literal. AGE's own grammar wants
unquoted keys and single-quoted strings, so this is not JSON: keys are asserted against
`_KEY_RE`, strings are escaped in two replacements, and whatever is neither a number, a
boolean, `None` nor a `dict` is coerced with `str()`.

The second half of the file is the grammar from the other side: a reader of map literals,
written without looking at the encoder.
-/

namespace Sleuthgraph

open Readers

/-! ## `_KEY_RE` -/

/-- `[A-Za-z_]` -/
def isKeyStart (c : Char) : Bool := c.isAlpha || c == '_'

/-- `[A-Za-z0-9_]` -/
def isKeyRest (c : Char) : Bool := c.isAlphanum || c == '_'

/-- The whole of `k` is of the form `[A-Za-z_][A-Za-z0-9_]{0,63}`. -/
def fullKey : List Char → Bool
  | [] => false
  | c :: cs => isKeyStart c && cs.all isKeyRest && decide (cs.length ≤ 63)

/-- `_KEY_RE.match(k)`: Python's `$` also matches just before a final newline. -/
def keyRe (k : List Char) : Bool :=
  fullKey k || (k.getLast? == some '\n' && fullKey k.dropLast)

/-! ## The encoder -/

section Encoder

-- `str(value)` on the values that reach the encoder's default branch
variable (str : PyVal → String)

/-- A single-quoted Cypher string. -/
def quoteText (s : String) : List Char :=
  '\'' :: replaceChar '\'' ['\\', '\''] (replaceChar '\\' ['\\', '\\'] s.toList) ++ ['\'']

mutual

/-- `_cypher_scalar` -/
def cypherScalar : PyVal → Except Exc (List Char)
  | .none => .ok "null".toList
  | .bool b => .ok (if b then "true".toList else "false".toList)
  | .int i => if StrIntDefined i then .ok (writeInt i) else .error Exc.valueError
  | .float repr => .ok repr.toList
  | .dict items => do
      let parts ← encodeParts items
      .ok ('{' :: [',', ' '].intercalate parts ++ ['}'])
  | .str s => .ok (quoteText s)
  -- `str` of a list writes the integers in it, however deep
  | .list items =>
    if StrDefined (.list items) then .ok (quoteText (str (.list items)))
    else .error Exc.valueError
  | .obj tag => .ok (quoteText (str (.obj tag)))

/-- The loop of `_encode_props`: one `key: value` text per item. -/
def encodeParts : PyDict → Except Exc (List (List Char))
  | [] => .ok []
  | (k, v) :: items =>
    if keyRe k.toList then do
      let scalar ← cypherScalar v
      let parts ← encodeParts items
      .ok ((k.toList ++ [':', ' '] ++ scalar) :: parts)
    else .error Exc.valueError

end

/-- `_encode_props` -/
def encodeProps (props : PyDict) : Except Exc (List Char) := do
  let parts ← encodeParts str props
  .ok ('{' :: [',', ' '].intercalate parts ++ ['}'])

mutual

/-- What a reader gets back for a value: coerced values come back as their text. -/
def stored : PyVal → PyVal
  | .dict items => .dict (storedProps items)
  | .list items => .str (str (.list items))
  | .obj tag => .str (str (.obj tag))
  | v => v

/-- `stored` on every value of a map. -/
def storedProps : PyDict → PyDict
  | [] => []
  | (k, v) :: items => (k, stored v) :: storedProps items

end

end Encoder

/-! ## The grammar -/

/-- An unquoted key. -/
def readKey : Reader String := fun s =>
  match readRun isKeyRest s with
  | (w, rest) => if fullKey w then some (String.ofList w, rest) else none

/-- `null`, `true` or `false`. -/
def readKeyword : Reader PyVal := fun s =>
  match expect "null".toList s with
  | some rest => some (.none, rest)
  | none =>
    match expect "true".toList s with
    | some rest => some (.bool true, rest)
    | none => (expect "false".toList s).map fun rest => (.bool false, rest)

mutual

/-- A value of the grammar, from at most `n` nested tokens. -/
def readScalar : ℕ → Reader PyVal
  | 0, _ => none
  | n + 1, s =>
    match s with
    | '\'' :: s => (readQuoted '\\' '\'' s).map fun (t, rest) => (.str (String.ofList t), rest)
    | '{' :: '}' :: rest => some (.dict [], rest)
    | '{' :: s => (readItems n s).map fun (items, rest) => (.dict items, rest)
    | s =>
      match readInt s with
      | some (i, rest) => some (.int i, rest)
      | none => readKeyword s

/-- The `key: value` items of a map, at least one, and its closing brace. -/
def readItems : ℕ → Reader PyDict
  | 0, _ => none
  | n + 1, s => do
    let (k, s) ← readKey s
    let s ← expect [':', ' '] s
    let (v, s) ← readScalar n s
    match s with
    | '}' :: rest => some ([(k, v)], rest)
    | ',' :: ' ' :: s =>
      let (items, rest) ← readItems n s
      some ((k, v) :: items, rest)
    | _ => none

end

/-- Read one map literal off the front of a text. -/
def readProps : Reader PyDict := fun s =>
  match readScalar (s.length + 1) s with
  | some (.dict items, rest) => some (items, rest)
  | _ => none

end Sleuthgraph
