import Sleuthgraph.Graph.CypherMap
import Mathlib.Data.List.Basic

/-!
# The map encoder against the grammar

`readProps_encodeProps` is the round trip: on every map that the encoder accepts, with any
text after it, the grammar's reader consumes exactly the encoded literal and returns the map
with each coerced value replaced by its text.

The induction is mutual over values and items. Its invariant carries the fuel: a value of
`nodes v` tokens is read with any fuel from `nodes v` on, and its literal is at least that
long, so the length of the text is always enough.
-/

namespace Sleuthgraph

open Readers

/-! ## The maps the round trip is about -/

section Grammar

-- which integers a map may hold
variable (ints : ℤ → Prop)

mutual

/-- A value without floats whose keys are identifiers and whose integers satisfy `ints`, those
inside a coerced list too. -/
def InGrammar : PyVal → Prop
  | .float _ => False
  | .int i => ints i
  | .dict items => ItemsInGrammar items
  | .list items => EveryInt ints (.list items)
  | _ => True

/-- `InGrammar` for a map: every key an identifier, every value in the grammar. -/
def ItemsInGrammar : PyDict → Prop
  | [] => True
  | (k, v) :: items => fullKey k.toList = true ∧ InGrammar v ∧ ItemsInGrammar items

end

end Grammar

mutual

/-- Tokens of a value, counting nested ones: the fuel its reader needs. -/
def nodes : PyVal → ℕ
  | .dict items => nodesItems items + 1
  | _ => 1

/-- Tokens of the items of a map. -/
def nodesItems : PyDict → ℕ
  | [] => 0
  | (_, v) :: items => nodes v + nodesItems items + 1

end

/-! ## Tokens -/

lemma fullKey_eq_cons {k : List Char} (h : fullKey k = true) :
    ∃ c cs, k = c :: cs ∧ isKeyStart c = true ∧ ∀ d ∈ k, isKeyRest d = true := by
  cases k with
  | nil => simp [fullKey] at h
  | cons c cs =>
    simp only [fullKey, Bool.and_eq_true, List.all_eq_true, decide_eq_true_eq] at h
    refine ⟨c, cs, rfl, h.1.1, fun d hd => ?_⟩
    rcases List.mem_cons.mp hd with rfl | hd
    · have hstart := h.1.1
      simp only [isKeyStart, Bool.or_eq_true] at hstart
      simp only [isKeyRest, Char.isAlphanum, Bool.or_eq_true]
      tauto
    · exact h.1.2 d hd

/-- A key ends where its characters end, here at the colon. -/
lemma readKey_append {k : List Char} (h : fullKey k = true) (rest : List Char) :
    readKey (k ++ ':' :: rest) = some (String.ofList k, ':' :: rest) := by
  obtain ⟨c, cs, hk, -, hrest⟩ := fullKey_eq_cons h
  rw [readKey, readRun_append hrest (stops_cons (by decide))]
  simp only [h, if_true]

lemma quoteText_append (s : String) (rest : List Char) :
    quoteText s ++ rest = '\'' :: (escape '\\' '\'' s.toList ++ '\'' :: rest) := by
  rw [quoteText, replaceChar_replaceChar (by decide)]
  simp

lemma readScalar_quoteText (n : ℕ) (s : String) (rest : List Char) :
    readScalar (n + 1) (quoteText s ++ rest) = some (.str s, rest) := by
  rw [quoteText_append, readScalar, readQuoted_escape (by decide)]
  simp

/-- A text that opens neither a string nor a map is read as a number or a keyword. -/
lemma readScalar_of_head {n : ℕ} {c : Char} {s : List Char} (hq : c ≠ '\'') (hb : c ≠ '{') :
    readScalar (n + 1) (c :: s) = match readInt (c :: s) with
      | some (i, rest) => some (.int i, rest)
      | none => readKeyword (c :: s) := by
  have hquote : ∀ t, c :: s = '\'' :: t → False := fun t h => hq (List.cons.inj h).1
  have hbrace : ∀ t, c :: s = '{' :: t → False := fun t h => hb (List.cons.inj h).1
  exact readScalar.eq_5 _ n hquote (fun t => hbrace _) hbrace

/-- No number starts with a letter. -/
lemma readInt_of_head {c : Char} {s : List Char} (hm : c ≠ '-') (hd : c.isDigit = false) :
    readInt (c :: s) = none := by
  rw [readInt.eq_2 _ (by rintro t ⟨⟩; exact hm rfl), readNat, readRun,
    List.takeWhile_cons_of_neg (by simp [hd])]
  rfl

lemma readScalar_null (n : ℕ) (rest : List Char) :
    readScalar (n + 1) ("null".toList ++ rest) = some (.none, rest) := by
  have hword : "null".toList ++ rest = 'n' :: 'u' :: 'l' :: 'l' :: rest := rfl
  rw [hword, readScalar_of_head (by decide) (by decide), readInt_of_head (by decide) (by decide)]
  simp only [readKeyword, ← hword, expect_append]

lemma readScalar_bool (n : ℕ) (b : Bool) (rest : List Char) :
    readScalar (n + 1) ((if b then "true".toList else "false".toList) ++ rest)
      = some (.bool b, rest) := by
  cases b with
  | true =>
    have hword : "true".toList ++ rest = 't' :: 'r' :: 'u' :: 'e' :: rest := rfl
    rw [if_pos rfl, hword, readScalar_of_head (by decide) (by decide),
      readInt_of_head (by decide) (by decide)]
    rfl
  | false =>
    have hword : "false".toList ++ rest = 'f' :: 'a' :: 'l' :: 's' :: 'e' :: rest := rfl
    rw [if_neg (by decide), hword, readScalar_of_head (by decide) (by decide),
      readInt_of_head (by decide) (by decide)]
    rfl

lemma writeInt_eq_cons (i : ℤ) :
    ∃ c cs, writeInt i = c :: cs ∧ c ≠ '\'' ∧ c ≠ '{' := by
  obtain ⟨d, ds, hd, hdig⟩ := exists_toDigits_eq_cons i.natAbs
  unfold writeInt
  split
  · exact ⟨'-', _, rfl, by decide, by decide⟩
  · refine ⟨d, ds, hd, ?_, ?_⟩ <;> rintro rfl <;> exact absurd hdig (by decide)

lemma readScalar_writeInt (n : ℕ) (i : ℤ) {rest : List Char} (hrest : Stops Char.isDigit rest) :
    readScalar (n + 1) (writeInt i ++ rest) = some (.int i, rest) := by
  obtain ⟨c, cs, hc, hq, hb⟩ := writeInt_eq_cons i
  have hread := readInt_writeInt i hrest
  rw [hc, List.cons_append] at hread ⊢
  rw [readScalar_of_head hq hb, hread]

/-! ## The round trip -/

section RoundTrip

variable (str : PyVal → String)

/-- `t` is a literal of `v`: with any fuel from its token count on, and before any text that
does not continue a number, it is read back as `v`. -/
def LiteralOf (v : PyVal) (need : ℕ) (t : List Char) : Prop :=
  need ≤ t.length ∧ ∀ n rest, need ≤ n → Stops Char.isDigit rest →
    readScalar n (t ++ rest) = some (v, rest)

lemma LiteralOf.of_token {v : PyVal} {t : List Char} (hlen : 1 ≤ t.length)
    (hread : ∀ n rest, Stops Char.isDigit rest → readScalar (n + 1) (t ++ rest) = some (v, rest)) :
    LiteralOf v 1 t := by
  refine ⟨hlen, fun n rest hn hrest => ?_⟩
  obtain ⟨m, rfl⟩ := Nat.exists_eq_add_of_le' hn
  exact hread m rest hrest

/-- What the items of a map need: the texts joined by commas and closed by a brace are read
back as the items. -/
def ItemsOf (items : PyDict) (need : ℕ) (parts : List (List Char)) : Prop :=
  need ≤ ([',', ' '].intercalate parts).length + 1 ∧
  (∃ c cs, [',', ' '].intercalate parts = c :: cs ∧ isKeyStart c = true) ∧
  ∀ n rest, need ≤ n →
    readItems n ([',', ' '].intercalate parts ++ '}' :: rest) = some (items, rest)

/-- Items between braces are read as a map, whatever follows. -/
lemma ItemsOf.readScalar_braces {items : PyDict} {need : ℕ} {parts : List (List Char)}
    (h : ItemsOf items need parts) {n : ℕ} (hn : need ≤ n) (rest : List Char) :
    readScalar (n + 1) ('{' :: [',', ' '].intercalate parts ++ ['}'] ++ rest)
      = some (.dict items, rest) := by
  obtain ⟨-, ⟨c, cs, hc, hstart⟩, hread⟩ := h
  have htext : '{' :: [',', ' '].intercalate parts ++ ['}'] ++ rest
      = '{' :: ([',', ' '].intercalate parts ++ '}' :: rest) := by simp
  -- the first character of the items starts a key, so this is not the empty map
  have hne : c ≠ '}' := by
    rintro rfl
    exact absurd hstart (by decide)
  rw [htext, readScalar.eq_4, hread n rest hn]
  · rfl
  · rw [hc]
    rintro t ⟨⟩
    exact hne rfl

/-- One more item in front of the items already read. -/
lemma readItems_cons {k : String} {v : PyVal} {need : ℕ} {t : List Char}
    (hk : fullKey k.toList = true) (ht : LiteralOf v need t) {n : ℕ} (hn : need ≤ n)
    (tail : List Char) : Stops Char.isDigit tail →
    readItems (n + 1) (k.toList ++ [':', ' '] ++ t ++ tail) = match tail with
      | '}' :: rest => some ([(k, v)], rest)
      | ',' :: ' ' :: s => do
        let (items, rest) ← readItems n s
        some ((k, v) :: items, rest)
      | _ => none := by
  intro htail
  have hkey : k.toList ++ [':', ' '] ++ t ++ tail = k.toList ++ ':' :: (' ' :: (t ++ tail)) := by
    simp
  have hsep : ∀ s : List Char, expect [':', ' '] (':' :: ' ' :: s) = some s :=
    fun s => expect_append [':', ' '] s
  rw [hkey, readItems, readKey_append hk, String.ofList_toList]
  -- the key is read: next the separator, then the value
  simp only [Option.bind_eq_bind, Option.bind_some, hsep]
  rewrite [ht.2 n tail hn htail]
  rfl

mutual

/-- Every value in the grammar is written as a literal of its stored form. -/
theorem cypherScalar_literal : ∀ v : PyVal, InGrammar StrIntDefined v →
    ∃ t, cypherScalar str v = .ok t ∧ LiteralOf (stored str v) (nodes v) t
  | .none, _ => ⟨_, rfl, .of_token (by decide) fun n rest _ => readScalar_null n rest⟩
  | .bool b, _ => ⟨_, rfl, .of_token (by cases b <;> decide) fun n rest _ =>
      readScalar_bool n b rest⟩
  | .int i, h => by
    have hdef : StrIntDefined i := h
    refine ⟨writeInt i, by rw [cypherScalar, if_pos hdef], .of_token ?_ fun n rest hrest =>
      readScalar_writeInt n i hrest⟩
    obtain ⟨c, cs, hc, -, -⟩ := writeInt_eq_cons i
    rw [hc, List.length_cons]
    exact Nat.le_add_left 1 _
  | .str s, _ => ⟨_, rfl, .of_token (by simp [quoteText]) fun n rest _ =>
      readScalar_quoteText n s rest⟩
  | .list items, h => by
    have hdef : StrDefined (.list items) := h
    exact ⟨_, by rw [cypherScalar, if_pos hdef], .of_token (by simp [quoteText])
      fun n rest _ => readScalar_quoteText n _ rest⟩
  | .obj tag, _ => ⟨_, rfl, .of_token (by simp [quoteText]) fun n rest _ =>
      readScalar_quoteText n _ rest⟩
  -- the empty map is a token of its own
  | .dict [], _ => by
    refine ⟨['{', '}'], rfl, by simp [nodes, nodesItems], fun n rest hn _ => ?_⟩
    obtain ⟨m, rfl⟩ := Nat.exists_eq_add_of_le' hn
    rfl
  | .dict (item :: items), h => by
    obtain ⟨parts, hparts, hitems⟩ := encodeParts_items (item :: items) (List.cons_ne_nil _ _) h
    refine ⟨'{' :: [',', ' '].intercalate parts ++ ['}'], ?_, ?_, fun n rest hn _ => ?_⟩
    · rw [cypherScalar, hparts]
      rfl
    · have := hitems.1
      simp only [nodes, List.length_append, List.length_cons, List.length_nil]
      omega
    · obtain ⟨m, rfl⟩ := Nat.exists_eq_add_of_le' (Nat.le_of_add_left_le hn)
      exact hitems.readScalar_braces (by simp only [nodes] at hn; omega) rest

/-- The items of a non-empty map are written as items of their stored form. -/
theorem encodeParts_items : ∀ items : PyDict, items ≠ [] → ItemsInGrammar StrIntDefined items →
    ∃ parts, encodeParts str items = .ok parts ∧
      ItemsOf (storedProps str items) (nodesItems items) parts
  | [], hne, _ => absurd rfl hne
  -- the last item is followed by the closing brace
  | [(k, v)], _, h => by
    obtain ⟨hk, hv, -⟩ := h
    obtain ⟨t, ht, hlit⟩ := cypherScalar_literal v hv
    have hre : keyRe k.toList = true := by rw [keyRe, hk, Bool.true_or]
    obtain ⟨c, cs, hc, hstart, -⟩ := fullKey_eq_cons hk
    refine ⟨[k.toList ++ [':', ' '] ++ t], ?_, ?_, ?_, ?_⟩
    · simp only [encodeParts, hre, if_true, ht]
      rfl
    · have := hlit.1
      simp only [nodesItems, List.intercalate_singleton, List.length_append]
      omega
    · exact ⟨c, cs ++ [':', ' '] ++ t, by simp [hc], hstart⟩
    · intro n rest hn
      simp only [nodesItems] at hn
      obtain ⟨m, rfl⟩ := Nat.exists_eq_add_of_le' (Nat.le_of_add_left_le hn)
      rw [List.intercalate_singleton, readItems_cons hk hlit (by omega) _ (stops_cons (by decide))]
      rfl
  -- any other item is followed by a comma and the rest
  | (k, v) :: item :: items, _, h => by
    obtain ⟨hk, hv, hitems⟩ := h
    obtain ⟨t, ht, hlit⟩ := cypherScalar_literal v hv
    obtain ⟨parts, hparts, hlen, ⟨c₂, cs₂, hc₂, -⟩, hread⟩ :=
      encodeParts_items (item :: items) (List.cons_ne_nil _ _) hitems
    have hre : keyRe k.toList = true := by rw [keyRe, hk, Bool.true_or]
    obtain ⟨c, cs, hc, hstart, -⟩ := fullKey_eq_cons hk
    have hjoin : [',', ' '].intercalate ((k.toList ++ [':', ' '] ++ t) :: parts)
        = k.toList ++ [':', ' '] ++ t ++ [',', ' '] ++ [',', ' '].intercalate parts := by
      cases parts with
      | nil => simp at hc₂
      | cons p ps => rw [List.intercalate_cons_cons]
    refine ⟨(k.toList ++ [':', ' '] ++ t) :: parts, ?_, ?_, ?_, ?_⟩
    · rw [encodeParts, if_pos hre, ht, hparts]
      rfl
    · have := hlit.1
      rw [nodesItems, hjoin]
      simp only [List.length_append, List.length_cons, List.length_nil]
      omega
    · rw [hjoin, hc]
      exact ⟨c, cs ++ [':', ' '] ++ t ++ [',', ' '] ++ [',', ' '].intercalate parts, by simp,
        hstart⟩
    · intro n rest hn
      simp only [nodesItems] at hn hread
      obtain ⟨m, rfl⟩ := Nat.exists_eq_add_of_le' (Nat.le_of_add_left_le hn)
      have htext : [',', ' '].intercalate ((k.toList ++ [':', ' '] ++ t) :: parts) ++ '}' :: rest
          = k.toList ++ [':', ' '] ++ t
            ++ (',' :: ' ' :: ([',', ' '].intercalate parts ++ '}' :: rest)) := by
        rw [hjoin]
        simp
      rw [htext, readItems_cons hk hlit (by omega) _ (stops_cons (by decide))]
      simp only [hread m rest (by omega)]
      rfl

end

/-- A map of the grammar is encoded, and its literal is read off any text. -/
lemma encodeProps_read (m : PyDict) (h : ItemsInGrammar StrIntDefined m) :
    ∃ text, encodeProps str m = .ok text ∧
      ∀ rest, readProps (text ++ rest) = some (storedProps str m, rest) := by
  cases m with
  | nil => exact ⟨['{', '}'], rfl, fun rest => rfl⟩
  | cons item items =>
    obtain ⟨parts, hparts, hitems⟩ :=
      encodeParts_items str (item :: items) (List.cons_ne_nil _ _) h
    -- the text is longer than the fuel that its items need
    refine ⟨'{' :: [',', ' '].intercalate parts ++ ['}'], by rw [encodeProps, hparts]; rfl,
      fun rest => ?_⟩
    have hlen := hitems.1
    rw [readProps, hitems.readScalar_braces]
    simp only [List.length_append, List.length_cons, List.length_nil]
    omega

/-- **Round trip.** The encoder accepts every map of the grammar whose integers, at every depth
and inside coerced lists, convert to text, a reader takes exactly its literal off any text that
starts with it, and so two such maps with one literal are stored alike. -/
theorem readProps_encodeProps (m : PyDict) (h : ItemsInGrammar StrIntDefined m) :
    ∃ text, encodeProps str m = .ok text ∧
      (∀ rest, readProps (text ++ rest) = some (storedProps str m, rest)) ∧
      ∀ m', ItemsInGrammar StrIntDefined m' → encodeProps str m' = .ok text →
        storedProps str m' = storedProps str m := by
  obtain ⟨text, htext, hread⟩ := encodeProps_read str m h
  refine ⟨text, htext, hread, fun m' h' hsame => ?_⟩
  obtain ⟨text', htext', hread'⟩ := encodeProps_read str m' h'
  have heq : text' = text := Except.ok.inj (htext'.symm.trans hsame)
  have := (hread' []).symm.trans (heq ▸ hread [])
  exact congrArg Prod.fst (Option.some.inj this)

/-- A label that tries to leave its string, beside a list that is coerced. -/
def evilProps : PyDict :=
  [("label", .str "evil' SET v.x = \\"), ("n", .int (-3)), ("tags", .list [.int 7, .str "'"])]

theorem readProps_encodeProps_evil :
    ∃ text, encodeProps (fun _ => "[7, \"'\"]") evilProps = .ok text ∧
      (∀ rest, readProps (text ++ rest)
        = some (storedProps (fun _ => "[7, \"'\"]") evilProps, rest)) ∧
      ∀ m', ItemsInGrammar StrIntDefined m' → encodeProps (fun _ => "[7, \"'\"]") m' = .ok text →
        storedProps (fun _ => "[7, \"'\"]") m' = storedProps (fun _ => "[7, \"'\"]") evilProps :=
  readProps_encodeProps _ evilProps
    ⟨by decide, trivial, by decide, (by decide : StrIntDefined (-3)), by decide,
      (by decide : StrDefined (.list [.int 7, .str "'"])), trivial⟩

/-- An integer of more than 4300 digits is in the grammar but not encoded. -/
theorem encodeProps_long_int :
    ¬ ∀ (str : PyVal → String) (m : PyDict), ItemsInGrammar (fun _ => True) m →
      ∀ rest, ∃ text, encodeProps str m = .ok text ∧
        readProps (text ++ rest) = some (storedProps str m, rest) := by
  intro h
  obtain ⟨text, htext, -⟩ := h (fun _ => "") [("a", .int (10 ^ intMaxStrDigits : ℕ))]
    ⟨by decide, trivial, trivial⟩ []
  have hlong : ¬ StrIntDefined ((10 ^ intMaxStrDigits : ℕ) : ℤ) := by
    rw [strIntDefined_iff, Int.natAbs_natCast]
    exact Nat.lt_irrefl _
  have hkey : keyRe "a".toList = true := by decide
  rw [encodeProps, encodeParts, if_pos hkey, cypherScalar, if_neg hlong] at htext
  cases htext

end RoundTrip

end Sleuthgraph
