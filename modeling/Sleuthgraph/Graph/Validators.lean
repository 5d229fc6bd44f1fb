import Sleuthgraph.Graph.CypherMap

/-!
# Validation of `attrs` (`graph/validators.py`)

`_validate_attrs` runs when a request or a proposal is turned into a create schema: every key
at every depth is an identifier, the nesting is bounded, and so is the size of the value as
JSON text.
-/

namespace Sleuthgraph

/-- `_MAX_DEPTH` -/
def maxDepth : ℕ := 4

/-- `_MAX_BYTES` -/
def maxBytes : ℕ := 64 * 1024

/-! ## `json.dumps` -/

/-- `\uXXXX` -/
def jsonUnicode (n : ℕ) : List Char := '\\' :: 'u' :: hexText 4 n

/-- One character of a JSON string, with `ensure_ascii`. -/
def jsonChar (c : Char) : List Char :=
  match c with
  | '"' => ['\\', '"']
  | '\\' => ['\\', '\\']
  | '\n' => ['\\', 'n']
  | '\r' => ['\\', 'r']
  | '\t' => ['\\', 't']
  | '\x0c' => ['\\', 'f']
  | '\x08' => ['\\', 'b']
  | c =>
    let n := c.toNat
    if 0x20 ≤ n ∧ n ≤ 0x7e then [c]
    else if n < 0x10000 then jsonUnicode n
    -- outside the basic plane: a surrogate pair
    else jsonUnicode (0xd800 + (n - 0x10000) / 0x400)
      ++ jsonUnicode (0xdc00 + (n - 0x10000) % 0x400)

/-- A JSON string. -/
def jsonString (s : String) : List Char := '"' :: s.toList.flatMap jsonChar ++ ['"']

/-- A float as JSON: its `repr`, but for the three values JSON has no notation for. -/
def jsonFloat (repr : String) : List Char :=
  if repr = "nan" then "NaN".toList
  else if repr = "inf" then "Infinity".toList
  else if repr = "-inf" then "-Infinity".toList
  else repr.toList

mutual

/-- `json.dumps(value)` -/
def jsonDumps : PyVal → Except Exc (List Char)
  | .none => .ok "null".toList
  | .bool b => .ok (if b then "true".toList else "false".toList)
  | .int i => if StrIntDefined i then .ok (Readers.writeInt i) else .error Exc.valueError
  | .float repr => .ok (jsonFloat repr)
  | .str s => .ok (jsonString s)
  | .list items => do
    let texts ← jsonItems items
    .ok ('[' :: [',', ' '].intercalate texts ++ [']'])
  | .dict items => do
    let texts ← jsonEntries items
    .ok ('{' :: [',', ' '].intercalate texts ++ ['}'])
  | .obj _ => .error Exc.typeError

/-- The texts of the items of a list. -/
def jsonItems : List PyVal → Except Exc (List (List Char))
  | [] => .ok []
  | v :: items => do
    let text ← jsonDumps v
    let texts ← jsonItems items
    .ok (text :: texts)

/-- The texts of the entries of a dict. -/
def jsonEntries : PyDict → Except Exc (List (List Char))
  | [] => .ok []
  | (k, v) :: items => do
    let text ← jsonDumps v
    let texts ← jsonEntries items
    .ok ((jsonString k ++ [':', ' '] ++ text) :: texts)

end

/-! ## `_validate_attrs` -/

mutual

/-- `_walk` -/
def walk (depth : ℕ) : PyVal → Except Exc Unit
  | .dict items =>
    if maxDepth < depth then .error Exc.valueError else walkEntries (depth + 1) items
  | .list items =>
    if maxDepth < depth then .error Exc.valueError else walkItems (depth + 1) items
  | _ => if maxDepth < depth then .error Exc.valueError else .ok ()

/-- The loop of `_walk` over a list. -/
def walkItems (depth : ℕ) : List PyVal → Except Exc Unit
  | [] => .ok ()
  | v :: items => do
    walk depth v
    walkItems depth items

/-- The loop of `_walk` over a dict. -/
def walkEntries (depth : ℕ) : PyDict → Except Exc Unit
  | [] => .ok ()
  | (k, v) :: items =>
    if keyRe k.toList then do
      walk depth v
      walkEntries depth items
    else .error Exc.valueError

end

/-- `_validate_attrs` -/
def validateAttrs (value : PyDict) : Except Exc Unit := do
  walk 0 (.dict value)
  let text ← jsonDumps (.dict value)
  if maxBytes < text.length then .error Exc.valueError else .ok ()

end Sleuthgraph
