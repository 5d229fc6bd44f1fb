import Sleuthgraph.Graph.Validators
import Sleuthgraph.Text

/-!
# What `_validate_attrs` accepts (`graph/validators.py`)

The grammar has three conditions: on the keys of a tree, on the steps from its root, and on its
size as JSON. The walk and the size check decide them, but for the keys: the pattern takes an
identifier that a newline follows.
-/

namespace Sleuthgraph

/-! ## The grammar -/

mutual

/-- The keys at every depth. -/
def keysOf : PyVal → List String
  | .list items => itemKeys items
  | .dict items => entryKeys items
  | _ => []

/-- `keysOf` along a list. -/
def itemKeys : List PyVal → List String
  | [] => []
  | v :: items => keysOf v ++ itemKeys items

/-- The keys of the entries of a dict, and those of their values. -/
def entryKeys : PyDict → List String
  | [] => []
  | (k, v) :: items => k :: (keysOf v ++ entryKeys items)

end

mutual

/-- The number of dict and list steps on the longest path. -/
def height : PyVal → ℕ
  | .list items => itemsHeight items
  | .dict items => entriesHeight items
  | _ => 0

/-- The longest path through an item. -/
def itemsHeight : List PyVal → ℕ
  | [] => 0
  | v :: items => max (height v + 1) (itemsHeight items)

/-- The longest path through an entry. -/
def entriesHeight : PyDict → ℕ
  | [] => 0
  | (_, v) :: items => max (height v + 1) (entriesHeight items)

end

mutual

/-- A value that `json.loads` builds: no object of another class, and a `repr` of a float is a
text in ASCII. -/
def isJsonTree : PyVal → Bool
  | .float repr => repr.toList.all fun c => decide (c.toNat < 0x80)
  | .list items => areJsonTrees items
  | .dict items => entriesJsonTrees items
  | .obj _ => false
  | _ => true

/-- `isJsonTree` along a list. -/
def areJsonTrees : List PyVal → Bool
  | [] => true
  | v :: items => isJsonTree v && areJsonTrees items

/-- `isJsonTree` for the values of a dict. -/
def entriesJsonTrees : PyDict → Bool
  | [] => true
  | (_, v) :: items => isJsonTree v && entriesJsonTrees items

end

/-- The limits on depth and size. -/
structure WithinLimits (value : PyDict) : Prop where
  depth : height (.dict value) ≤ maxDepth
  size : ∃ text, jsonDumps (.dict value) = .ok text ∧ (utf8 text).length ≤ maxBytes

/-- The grammar of `attrs`: every key is an identifier as a whole. -/
structure AttrsGrammar (value : PyDict) : Prop extends WithinLimits value where
  keys : ∀ k ∈ keysOf (.dict value), fullKey k.toList = true

/-! ## The walk -/

/-- What the walk over a value, its items or its entries comes to. -/
def Decides (r : Except Exc Unit) (p : Prop) : Prop :=
  (p → r = .ok ()) ∧ (¬ p → r = .error Exc.valueError)

namespace Decides

variable {r r' : Except Exc Unit} {p q : Prop}

lemma congr (h : Decides r p) (hpq : p ↔ q) : Decides r q :=
  ⟨fun hq => h.1 (hpq.mpr hq), fun hq => h.2 fun hp => hq (hpq.mp hp)⟩

lemma ok (h : p) : Decides (.ok ()) p := ⟨fun _ => rfl, fun hp => absurd h hp⟩

lemma error (h : ¬ p) : Decides (.error Exc.valueError) p := ⟨fun hp => absurd hp h, fun _ => rfl⟩

lemma bind (h : Decides r p) (h' : Decides r' q) : Decides (r >>= fun _ => r') (p ∧ q) := by
  by_cases hp : p
  · rw [h.1 hp]
    exact h'.congr ⟨fun hq => ⟨hp, hq⟩, fun hpq => hpq.2⟩
  · rw [h.2 hp]
    exact error fun hpq => hp hpq.1

lemma ok_iff (h : Decides r p) : r = .ok () ↔ p := by
  constructor
  · intro hr
    by_contra hp
    rw [h.2 hp] at hr
    cases hr
  · exact h.1

end Decides

/-- The keys match the pattern, and no path goes deeper than the walk may. -/
def Walks (depth : ℕ) (keys : List String) (height : ℕ) : Prop :=
  (∀ k ∈ keys, keyRe k.toList = true) ∧ depth + height ≤ maxDepth

lemma Walks.nil {depth : ℕ} (h : depth ≤ maxDepth) : Walks depth [] 0 :=
  ⟨fun _ hk => (nomatch hk), h⟩

/-- One step down, and then the rest of the items. -/
lemma walks_cons {depth h h' : ℕ} {keys keys' : List String} :
    Walks (depth + 1) keys h ∧ Walks depth keys' h' ↔
      Walks depth (keys ++ keys') (max (h + 1) h') := by
  unfold Walks
  rw [List.forall_mem_append]
  constructor
  · intro ⟨⟨hkeys, hdepth⟩, hkeys', hdepth'⟩
    exact ⟨⟨hkeys, hkeys'⟩, by omega⟩
  · intro ⟨⟨hkeys, hkeys'⟩, hdepth⟩
    exact ⟨⟨hkeys, by omega⟩, hkeys', by omega⟩

/-- A value without parts is refused by its depth alone. -/
lemma walk_scalar (depth : ℕ) :
    Decides (if maxDepth < depth then .error Exc.valueError else .ok ()) (Walks depth [] 0) := by
  by_cases hdepth : maxDepth < depth
  · rw [if_pos hdepth]
    exact Decides.error fun h => absurd h.2 (by omega)
  · rw [if_neg hdepth]
    exact Decides.ok (Walks.nil (by omega))

mutual

/-- The walk decides the keys and the depth below a value. -/
theorem walk_decides (depth : ℕ) :
    ∀ v : PyVal, Decides (walk depth v) (Walks depth (keysOf v) (height v))
  | .none => walk_scalar depth
  | .bool _ => walk_scalar depth
  | .int _ => walk_scalar depth
  | .float _ => walk_scalar depth
  | .str _ => walk_scalar depth
  | .obj _ => walk_scalar depth
  | .list items => by
    rw [walk, keysOf, height]
    by_cases hdepth : maxDepth < depth
    · rw [if_pos hdepth]
      exact Decides.error fun h => absurd h.2 (by omega)
    · rw [if_neg hdepth]
      exact walkItems_decides depth (by omega) items
  | .dict items => by
    rw [walk, keysOf, height]
    by_cases hdepth : maxDepth < depth
    · rw [if_pos hdepth]
      exact Decides.error fun h => absurd h.2 (by omega)
    · rw [if_neg hdepth]
      exact walkEntries_decides depth (by omega) items

theorem walkItems_decides (depth : ℕ) (hdepth : depth ≤ maxDepth) :
    ∀ items : List PyVal,
      Decides (walkItems (depth + 1) items) (Walks depth (itemKeys items) (itemsHeight items))
  | [] => Decides.ok (Walks.nil hdepth)
  | v :: items => by
    rw [walkItems, itemKeys, itemsHeight]
    exact ((walk_decides (depth + 1) v).bind (walkItems_decides depth hdepth items)).congr
      walks_cons

theorem walkEntries_decides (depth : ℕ) (hdepth : depth ≤ maxDepth) :
    ∀ items : PyDict,
      Decides (walkEntries (depth + 1) items)
        (Walks depth (entryKeys items) (entriesHeight items))
  | [] => Decides.ok (Walks.nil hdepth)
  | (k, v) :: items => by
    rw [walkEntries, entryKeys, entriesHeight]
    have hrest := ((walk_decides (depth + 1) v).bind
      (walkEntries_decides depth hdepth items)).congr walks_cons
    by_cases hkey : keyRe k.toList = true
    · rw [if_pos hkey]
      refine hrest.congr ?_
      unfold Walks
      rw [List.forall_mem_cons]
      exact ⟨fun h => ⟨⟨hkey, h.1⟩, h.2⟩, fun h => ⟨h.1.2, h.2⟩⟩
    · rw [if_neg hkey]
      exact Decides.error fun h => hkey (h.1 k List.mem_cons_self)

end

/-! ## The size -/

/-- A text in ASCII. -/
def Ascii (s : List Char) : Prop := ∀ c ∈ s, c.toNat < 0x80

lemma ascii_of_all {s : List Char} (h : s.all (fun c => decide (c.toNat < 0x80)) = true) :
    Ascii s := fun c hc => of_decide_eq_true (List.all_eq_true.mp h c hc)

lemma Ascii.cons {c : Char} {s : List Char} (hc : c.toNat < 0x80) (h : Ascii s) :
    Ascii (c :: s) := List.forall_mem_cons.mpr ⟨hc, h⟩

lemma Ascii.append {s t : List Char} (hs : Ascii s) (ht : Ascii t) : Ascii (s ++ t) :=
  List.forall_mem_append.mpr ⟨hs, ht⟩

/-- An ASCII text has as many bytes as characters. -/
lemma Ascii.length_utf8 {s : List Char} (h : Ascii s) : (utf8 s).length = s.length := by
  induction s with
  | nil => rfl
  | cons c s ih =>
    have hc : c.toNat < 0x80 := h c List.mem_cons_self
    have hsize : c.utf8Size = 1 := by
      rw [Char.utf8Size, if_pos]
      rw [UInt32.le_iff_toNat_le]
      show c.toNat ≤ 0x7f
      omega
    rw [utf8, List.flatMap_cons, List.length_append, String.length_utf8EncodeChar, hsize,
      ← utf8, ih fun d hd => h d (List.mem_cons_of_mem c hd), List.length_cons, Nat.add_comm]

lemma ascii_digitChar {n : ℕ} (h : n < 16) : (Nat.digitChar n).toNat < 0x80 := by
  revert n
  decide

lemma ascii_jsonUnicode (n : ℕ) : Ascii (jsonUnicode n) := by
  refine Ascii.cons (by decide) (Ascii.cons (by decide) fun c hc => ?_)
  obtain ⟨i, -, rfl⟩ := List.mem_map.mp hc
  exact ascii_digitChar (Nat.mod_lt _ (by decide))

lemma ascii_jsonChar (c : Char) : Ascii (jsonChar c) := by
  unfold jsonChar
  split
  case h_8 =>
    dsimp only
    split
    · rename_i hplain
      exact Ascii.cons (by omega) fun _ hc => nomatch hc
    · split
      · exact ascii_jsonUnicode _
      · exact (ascii_jsonUnicode _).append (ascii_jsonUnicode _)
  all_goals exact ascii_of_all (by decide)

lemma ascii_jsonString (s : String) : Ascii (jsonString s) := by
  refine Ascii.cons (by decide) (Ascii.append (fun c hc => ?_) (ascii_of_all (by decide)))
  obtain ⟨d, -, hd⟩ := List.mem_flatMap.mp hc
  exact ascii_jsonChar d c hd

lemma ascii_writeInt (i : ℤ) : Ascii (Readers.writeInt i) := by
  have hdigits : Ascii (Nat.toDigits 10 i.natAbs) := by
    intro c hc
    have hdigit := Nat.isDigit_of_mem_toDigits (by decide) (by decide) hc
    rw [Char.isDigit, Bool.and_eq_true, decide_eq_true_eq, decide_eq_true_eq,
      UInt32.le_iff_toNat_le] at hdigit
    have hnine : c.toNat ≤ 57 := hdigit.2
    omega
  unfold Readers.writeInt
  split
  · exact hdigits.cons (by decide)
  · exact hdigits

lemma ascii_jsonFloat {repr : String} (h : Ascii repr.toList) : Ascii (jsonFloat repr) := by
  unfold jsonFloat
  split
  · exact ascii_of_all (by decide)
  · split
    · exact ascii_of_all (by decide)
    · split
      · exact ascii_of_all (by decide)
      · exact h

lemma ascii_intercalate {sep : List Char} (hsep : Ascii sep) {texts : List (List Char)}
    (h : ∀ text ∈ texts, Ascii text) : Ascii (sep.intercalate texts) := by
  induction texts with
  | nil => exact fun _ hc => nomatch hc
  | cons text texts ih =>
    have htext := h text List.mem_cons_self
    have hrest := ih fun t ht => h t (List.mem_cons_of_mem text ht)
    cases texts with
    | nil => rwa [List.intercalate_singleton]
    | cons text' texts =>
      rw [List.intercalate_cons_cons]
      exact (htext.append hsep).append hrest

/-- What a result is when it is one, and that nothing but a `ValueError` is raised. -/
def Yields {α : Type} (q : α → Prop) (r : Except Exc α) : Prop :=
  (∀ a, r = .ok a → q a) ∧ ∀ e, r = .error e → e = Exc.valueError

namespace Yields

variable {α β : Type} {q : α → Prop} {p : β → Prop}

lemma ok {a : α} (h : q a) : Yields q (.ok a) :=
  ⟨fun _ hb => Except.ok.inj hb ▸ h, fun _ he => nomatch he⟩

lemma error : Yields q (.error Exc.valueError) :=
  ⟨fun _ ha => (nomatch ha), fun _ he => (Except.error.inj he).symm⟩

lemma bind {r : Except Exc α} {f : α → Except Exc β} (h : Yields q r)
    (hf : ∀ a, q a → Yields p (f a)) : Yields p (r >>= f) := by
  cases r with
  | ok a => exact hf a (h.1 a rfl)
  | error e =>
    rw [h.2 e rfl]
    exact error

end Yields

mutual

/-- The JSON of a tree is ASCII; numbers that are too long are its only error. -/
theorem jsonDumps_yields :
    ∀ v : PyVal, isJsonTree v = true → Yields Ascii (jsonDumps v)
  | .none, _ => Yields.ok (ascii_of_all (by decide))
  | .bool true, _ => Yields.ok (ascii_of_all (by decide))
  | .bool false, _ => Yields.ok (ascii_of_all (by decide))
  | .int i, _ => by
    rw [jsonDumps]
    split
    · exact Yields.ok (ascii_writeInt i)
    · exact Yields.error
  | .float repr, h => by
    rw [isJsonTree] at h
    rw [jsonDumps]
    exact Yields.ok (ascii_jsonFloat (ascii_of_all h))
  | .str s, _ => Yields.ok (ascii_jsonString s)
  | .list items, h => by
    rw [isJsonTree] at h
    rw [jsonDumps]
    refine (jsonItems_yields items h).bind fun texts htexts => Yields.ok ?_
    exact Ascii.cons (by decide)
      ((ascii_intercalate (ascii_of_all (by decide)) htexts).append (ascii_of_all (by decide)))
  | .dict items, h => by
    rw [isJsonTree] at h
    rw [jsonDumps]
    refine (jsonEntries_yields items h).bind fun texts htexts => Yields.ok ?_
    exact Ascii.cons (by decide)
      ((ascii_intercalate (ascii_of_all (by decide)) htexts).append (ascii_of_all (by decide)))
  | .obj _, h => by
    rw [isJsonTree] at h
    cases h

theorem jsonItems_yields : ∀ items : List PyVal, areJsonTrees items = true →
    Yields (fun texts => ∀ text ∈ texts, Ascii text) (jsonItems items)
  | [], _ => Yields.ok fun _ ht => nomatch ht
  | v :: items, h => by
    rw [areJsonTrees, Bool.and_eq_true] at h
    rw [jsonItems]
    refine (jsonDumps_yields v h.1).bind fun text htext => ?_
    refine (jsonItems_yields items h.2).bind fun texts htexts => Yields.ok ?_
    exact List.forall_mem_cons.mpr ⟨htext, htexts⟩

theorem jsonEntries_yields : ∀ items : PyDict, entriesJsonTrees items = true →
    Yields (fun texts => ∀ text ∈ texts, Ascii text) (jsonEntries items)
  | [], _ => Yields.ok fun _ ht => nomatch ht
  | (k, v) :: items, h => by
    rw [entriesJsonTrees, Bool.and_eq_true] at h
    rw [jsonEntries]
    refine (jsonDumps_yields v h.1).bind fun text htext => ?_
    refine (jsonEntries_yields items h.2).bind fun texts htexts => Yields.ok ?_
    refine List.forall_mem_cons.mpr ⟨?_, htexts⟩
    exact ((ascii_jsonString k).append (ascii_of_all (by decide))).append htext

end

/-! ## The encoder -/

section Encoder

variable (str : PyVal → String)

mutual

/-- What is written as JSON has no integer too long for its text. -/
theorem strDefined_of_jsonDumps : ∀ v : PyVal, (∃ text, jsonDumps v = .ok text) → StrDefined v
  | .none, _ | .bool _, _ | .float _, _ | .str _, _ | .obj _, _ => trivial
  | .int i, ⟨text, h⟩ => by
    rw [jsonDumps] at h
    by_contra hlong
    have hint : ¬ StrIntDefined i := hlong
    rw [if_neg hint] at h
    cases h
  | .list items, ⟨text, h⟩ => by
    rw [jsonDumps] at h
    obtain ⟨texts, htexts, -⟩ := bind_eq_ok.mp h
    exact strDefined_of_jsonItems items ⟨texts, htexts⟩
  | .dict items, ⟨text, h⟩ => by
    rw [jsonDumps] at h
    obtain ⟨texts, htexts, -⟩ := bind_eq_ok.mp h
    exact strDefined_of_jsonEntries items ⟨texts, htexts⟩

theorem strDefined_of_jsonItems : ∀ items : List PyVal, (∃ texts, jsonItems items = .ok texts) →
    EveryIntItems StrIntDefined items
  | [], _ => trivial
  | v :: items, ⟨texts, h⟩ => by
    rw [jsonItems] at h
    obtain ⟨text, htext, h⟩ := bind_eq_ok.mp h
    obtain ⟨rest, hrest, -⟩ := bind_eq_ok.mp h
    exact ⟨strDefined_of_jsonDumps v ⟨text, htext⟩, strDefined_of_jsonItems items ⟨rest, hrest⟩⟩

theorem strDefined_of_jsonEntries : ∀ items : PyDict,
    (∃ texts, jsonEntries items = .ok texts) → EveryIntEntries StrIntDefined items
  | [], _ => trivial
  | (k, v) :: items, ⟨texts, h⟩ => by
    rw [jsonEntries] at h
    obtain ⟨text, htext, h⟩ := bind_eq_ok.mp h
    obtain ⟨rest, hrest, -⟩ := bind_eq_ok.mp h
    exact ⟨strDefined_of_jsonDumps v ⟨text, htext⟩, strDefined_of_jsonEntries items ⟨rest, hrest⟩⟩

end

mutual

/-- A tree whose keys match and whose numbers are not too long is encoded. -/
theorem cypherScalar_ok : ∀ v : PyVal, (∀ k ∈ keysOf v, keyRe k.toList = true) →
    (∃ text, jsonDumps v = .ok text) → ∃ scalar, cypherScalar str v = .ok scalar
  | .none, _, _ => ⟨_, rfl⟩
  | .bool _, _, _ => ⟨_, rfl⟩
  | .int i, _, h => by
    rw [jsonDumps] at h
    rw [cypherScalar]
    split
    · exact ⟨_, rfl⟩
    · rename_i hlong
      rw [if_neg hlong] at h
      obtain ⟨_, h⟩ := h
      cases h
  | .float _, _, _ => ⟨_, rfl⟩
  | .str _, _, _ => ⟨_, rfl⟩
  | .list items, _, h => by
    have hdef : StrDefined (.list items) := strDefined_of_jsonDumps _ h
    rw [cypherScalar, if_pos hdef]
    exact ⟨_, rfl⟩
  | .obj _, _, _ => ⟨_, rfl⟩
  | .dict items, hkeys, ⟨text, h⟩ => by
    rw [jsonDumps] at h
    obtain ⟨texts, htexts, -⟩ := bind_eq_ok.mp h
    rw [keysOf] at hkeys
    obtain ⟨parts, hparts⟩ := encodeParts_ok items hkeys ⟨texts, htexts⟩
    rw [cypherScalar, hparts]
    exact ⟨_, rfl⟩

theorem encodeParts_ok : ∀ items : PyDict, (∀ k ∈ entryKeys items, keyRe k.toList = true) →
    (∃ texts, jsonEntries items = .ok texts) → ∃ parts, encodeParts str items = .ok parts
  | [], _, _ => ⟨_, rfl⟩
  | (k, v) :: items, hkeys, ⟨texts, h⟩ => by
    rw [jsonEntries] at h
    obtain ⟨text, htext, h⟩ := bind_eq_ok.mp h
    obtain ⟨rest, hrest, -⟩ := bind_eq_ok.mp h
    rw [entryKeys, List.forall_mem_cons, List.forall_mem_append] at hkeys
    obtain ⟨scalar, hscalar⟩ := cypherScalar_ok v hkeys.2.1 ⟨text, htext⟩
    obtain ⟨parts, hparts⟩ := encodeParts_ok items hkeys.2.2 ⟨rest, hrest⟩
    rw [encodeParts, if_pos hkeys.1, hscalar, hparts]
    exact ⟨_, rfl⟩

end

end Encoder

/-! ## What is accepted -/

/-- An identifier that a newline follows: the pattern's `$` matches before the newline. -/
def NewlineKey (k : String) : Prop :=
  k.toList.getLast? = some '\n' ∧ fullKey k.toList.dropLast = true

/-- Every key matches the pattern. -/
def KeysMatch (value : PyDict) : Prop :=
  ∀ k ∈ keysOf (.dict value), keyRe k.toList = true

lemma keyRe_iff {k : String} : keyRe k.toList = true ↔ fullKey k.toList = true ∨ NewlineKey k := by
  rw [keyRe, Bool.or_eq_true, Bool.and_eq_true, beq_iff_eq]
  exact Iff.rfl

/-- A newline is no part of an identifier. -/
lemma NewlineKey.not_fullKey {k : String} (h : NewlineKey k) : ¬ fullKey k.toList = true := by
  intro hfull
  have hmem : '\n' ∈ k.toList := List.mem_of_getLast? h.1
  cases hk : k.toList with
  | nil =>
    rw [hk] at hmem
    cases hmem
  | cons c cs =>
    rw [hk, fullKey, Bool.and_eq_true, Bool.and_eq_true, List.all_eq_true] at hfull
    rw [hk] at hmem
    rcases List.mem_cons.mp hmem with hc | hcs
    · rw [← hc] at hfull
      exact absurd hfull.1.1 (by decide)
    · exact absurd (hfull.1.2 _ hcs) (by decide)

section Accepted

variable {value : PyDict}

/-- The validator decides the pattern and the limits. -/
lemma validateAttrs_decides (htree : isJsonTree (.dict value) = true) :
    Decides (validateAttrs value) (KeysMatch value ∧ WithinLimits value) := by
  have hsize : Decides
      (do
        let text ← jsonDumps (.dict value)
        if maxBytes < text.length then .error Exc.valueError else .ok () : Except Exc Unit)
      (∃ text, jsonDumps (.dict value) = .ok text ∧ (utf8 text).length ≤ maxBytes) := by
    have hyields := jsonDumps_yields _ htree
    cases hdumps : jsonDumps (.dict value) with
    | error e =>
      rw [hyields.2 e hdumps]
      refine Decides.error ?_
      intro ⟨text, htext, _⟩
      cases htext
    | ok text =>
      have hlen := (hyields.1 text hdumps).length_utf8
      show Decides (if maxBytes < text.length then .error Exc.valueError else .ok ()) _
      split
      · refine Decides.error ?_
        intro ⟨text', htext, hle⟩
        cases htext
        omega
      · exact Decides.ok ⟨text, rfl, by omega⟩
  refine ((walk_decides 0 (.dict value)).bind hsize).congr ?_
  unfold Walks
  constructor
  · intro ⟨⟨hkeys, hdepth⟩, hsize⟩
    exact ⟨hkeys, by omega, hsize⟩
  · intro ⟨hkeys, hdepth, hsize⟩
    exact ⟨⟨hkeys, by omega⟩, hsize⟩

lemma attrsGrammar_of_not_newline (hkeys : KeysMatch value) (hlimits : WithinLimits value)
    (h : ¬ ∃ k ∈ keysOf (.dict value), NewlineKey k) : AttrsGrammar value := by
  refine ⟨hlimits, fun k hk => ?_⟩
  rcases keyRe_iff.mp (hkeys k hk) with hfull | hnewline
  · exact hfull
  · exact absurd ⟨k, hk, hnewline⟩ h

/-- What is accepted is encoded. -/
lemma encodeProps_of_validateAttrs (htree : isJsonTree (.dict value) = true)
    (h : validateAttrs value = .ok ()) (str : PyVal → String) :
    ∃ text, encodeProps str value = .ok text := by
  obtain ⟨hkeys, hlimits⟩ := (validateAttrs_decides htree).ok_iff.mp h
  obtain ⟨text, hdumps, -⟩ := hlimits.size
  obtain ⟨scalar, hscalar⟩ := cypherScalar_ok str (.dict value) hkeys ⟨text, hdumps⟩
  exact ⟨scalar, hscalar⟩

end Accepted

/-- **The grammar of `attrs`.** The validator accepts the grammar, refuses all else with a
`ValueError`, and the encoder does not raise on what it accepts, just when the tree has no key that
a newline follows, or is refused for another reason. -/
theorem attrs_grammar_iff (value : PyDict) (htree : isJsonTree (.dict value) = true) :
    ((AttrsGrammar value → validateAttrs value = .ok ()) ∧
      (¬ AttrsGrammar value → validateAttrs value = .error Exc.valueError) ∧
      (validateAttrs value = .ok () →
        ∀ str : PyVal → String, ∃ text, encodeProps str value = .ok text)) ↔
    ((∃ k ∈ keysOf (.dict value), NewlineKey k) → ¬ (KeysMatch value ∧ WithinLimits value)) := by
  have hdecides := validateAttrs_decides htree
  constructor
  · intro ⟨_, hrefuses, _⟩ ⟨k, hk, hnewline⟩ haccepted
    have herror := hrefuses fun hgrammar => hnewline.not_fullKey (hgrammar.keys k hk)
    rw [hdecides.1 haccepted] at herror
    cases herror
  · intro h
    refine ⟨fun hgrammar => hdecides.1 ⟨fun k hk => ?_, hgrammar.toWithinLimits⟩,
      fun hgrammar => hdecides.2 fun haccepted => ?_, encodeProps_of_validateAttrs htree⟩
    · exact keyRe_iff.mpr (Or.inl (hgrammar.keys k hk))
    · exact hgrammar (attrsGrammar_of_not_newline haccepted.1 haccepted.2 fun hnewline =>
        h hnewline haccepted)

/-! ### Two trees -/

/-- A dict in a list. -/
def nestedAttrs : PyDict := [("ports", .list [.dict [("port", .int 443)]])]

/-- The key is `name` and a newline. -/
def newlineAttrs : PyDict := [("name\n", .str "x")]

theorem attrs_grammar_iff_nested :
    ((AttrsGrammar nestedAttrs → validateAttrs nestedAttrs = .ok ()) ∧
      (¬ AttrsGrammar nestedAttrs → validateAttrs nestedAttrs = .error Exc.valueError) ∧
      (validateAttrs nestedAttrs = .ok () →
        ∀ str : PyVal → String, ∃ text, encodeProps str nestedAttrs = .ok text)) := by
  refine (attrs_grammar_iff nestedAttrs (by decide)).mpr fun ⟨k, hk, hnewline⟩ => ?_
  have hkeys : keysOf (.dict nestedAttrs) = ["ports", "port"] := by decide
  rw [hkeys, List.mem_cons, List.mem_singleton] at hk
  rcases hk with rfl | rfl
  · exact absurd hnewline.1 (by decide)
  · exact absurd hnewline.1 (by decide)

/-- A key that is no identifier is accepted. -/
theorem attrs_newline_key :
    ¬ ∀ value : PyDict, isJsonTree (.dict value) = true →
      ((AttrsGrammar value → validateAttrs value = .ok ()) ∧
        (¬ AttrsGrammar value → validateAttrs value = .error Exc.valueError) ∧
        (validateAttrs value = .ok () →
          ∀ str : PyVal → String, ∃ text, encodeProps str value = .ok text)) := by
  intro h
  have hgrammar : ¬ AttrsGrammar newlineAttrs := by
    intro hin
    have hkeys : keysOf (.dict newlineAttrs) = ["name\n"] := by decide
    have hkey := hin.keys "name\n" (hkeys ▸ List.mem_singleton_self _)
    exact absurd hkey (by decide)
  have hrefused := (h newlineAttrs (by decide)).2.1 hgrammar
  exact absurd hrefused (by decide)

end Sleuthgraph
