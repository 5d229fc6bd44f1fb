import Sleuthgraph.Graph.ValidatorTheorems
import Sleuthgraph.Plugins.BodyTheorems
import Sleuthgraph.Plugins.Builtin.ExtractTheorems
import Sleuthgraph.Plugins.Builtin.ReportTheorems

/-!
# What the plugins make of malformed JSON (`plugins/builtin/`, `plugins/runner.py`)

`crtsh`, `virustotal` and `shodan` take an answer apart with `.get`, loops and methods of texts.
They check some types and not others, and the runner validates what they propose once more. An
answer is tolerated when all of this goes through.
-/

namespace Sleuthgraph

open Caps Firsts

/-! ## Flat attributes -/

lemma length_jsonChar_le (c : Char) : (jsonChar c).length ≤ 12 := by
  unfold jsonChar
  split
  case h_8 =>
    dsimp only
    split
    · exact Nat.succ_le_succ (Nat.zero_le _)
    · split
      · rw [jsonUnicode, List.length_cons, List.length_cons, length_hexText]
        omega
      · rw [List.length_append, jsonUnicode, jsonUnicode]
        simp only [List.length_cons, length_hexText]
        omega
  all_goals decide

/-- An escape of a character has at most twelve characters. -/
lemma length_jsonString_le (s : String) : (jsonString s).length ≤ s.length * 12 + 2 := by
  have hchars := length_flatMap_le length_jsonChar_le s.toList
  rw [String.length_toList] at hchars
  simp only [jsonString, List.length_cons, List.length_append, List.length_nil]
  omega

/-- A text without escapes. -/
lemma length_jsonString_plain {s : List Char} (h : ∀ c ∈ s, (jsonChar c).length = 1) :
    (jsonString (String.ofList s)).length = s.length + 2 := by
  have hchars : (s.flatMap jsonChar).length = s.length := by
    induction s with
    | nil => rfl
    | cons c s ih =>
      rw [List.forall_mem_cons] at h
      rw [List.flatMap_cons, List.length_append, h.1, ih h.2, List.length_cons, Nat.add_comm]
  simp only [jsonString, String.toList_ofList, List.length_cons, List.length_append, hchars,
    List.length_nil]

/-- Each text but the last is followed by the separator. -/
lemma length_intercalate (sep : List Char) {texts : List (List Char)} (h : texts ≠ []) :
    (sep.intercalate texts).length + sep.length
      = (texts.map List.length).sum + texts.length * sep.length := by
  induction texts with
  | nil => exact absurd rfl h
  | cons text texts ih =>
    cases texts with
    | nil =>
      simp only [List.intercalate_singleton, List.map_cons, List.map_nil, List.sum_cons,
        List.sum_nil, List.length_cons, List.length_nil]
      omega
    | cons text' texts =>
      have hrest := ih (List.cons_ne_nil _ _)
      rw [List.intercalate_cons_cons, List.map_cons, List.sum_cons, List.length_append,
        List.length_append, List.length_cons, Nat.succ_mul]
      omega

/-- The texts have `n` characters together. -/
def HasSize (r : Except Exc (List (List Char))) (n : ℕ) : Prop :=
  ∃ texts, r = .ok texts ∧ (texts.map List.length).sum = n

lemma hasSize_nil {n : ℕ} : HasSize (.ok []) n ↔ n = 0 :=
  ⟨fun ⟨_, h, hn⟩ => by cases h; exact hn.symm, fun h => ⟨[], rfl, h.symm⟩⟩

lemma hasSize_items {v : PyVal} {items : List PyVal} {n : ℕ} :
    HasSize (jsonItems (v :: items)) n ↔
      ∃ text m, jsonDumps v = .ok text ∧ HasSize (jsonItems items) m ∧ n = text.length + m := by
  unfold HasSize
  rw [jsonItems]
  constructor
  · rintro ⟨_, h, rfl⟩
    obtain ⟨text, htext, h⟩ := bind_eq_ok.mp h
    obtain ⟨texts, htexts, h⟩ := bind_eq_ok.mp h
    cases h
    exact ⟨text, _, htext, ⟨texts, htexts, rfl⟩, by rw [List.map_cons, List.sum_cons]⟩
  · rintro ⟨text, _, htext, ⟨texts, htexts, rfl⟩, rfl⟩
    exact ⟨text :: texts, bind_eq_ok.mpr ⟨text, htext, bind_eq_ok.mpr ⟨texts, htexts, rfl⟩⟩,
      by rw [List.map_cons, List.sum_cons]⟩

lemma hasSize_entries {k : String} {v : PyVal} {value : PyDict} {n : ℕ} :
    HasSize (jsonEntries ((k, v) :: value)) n ↔
      ∃ text m, jsonDumps v = .ok text ∧ HasSize (jsonEntries value) m ∧
        n = (jsonString k).length + 2 + text.length + m := by
  have hentry : ∀ text : List Char, (jsonString k ++ [':', ' '] ++ text).length
      = (jsonString k).length + 2 + text.length := by
    intro text
    rw [List.length_append, List.length_append]
    rfl
  unfold HasSize
  rw [jsonEntries]
  constructor
  · rintro ⟨_, h, rfl⟩
    obtain ⟨text, htext, h⟩ := bind_eq_ok.mp h
    obtain ⟨texts, htexts, h⟩ := bind_eq_ok.mp h
    cases h
    exact ⟨text, _, htext, ⟨texts, htexts, rfl⟩, by rw [List.map_cons, List.sum_cons, hentry]⟩
  · rintro ⟨text, _, htext, ⟨texts, htexts, rfl⟩, rfl⟩
    exact ⟨_, bind_eq_ok.mpr ⟨text, htext, bind_eq_ok.mpr ⟨texts, htexts, rfl⟩⟩,
      by rw [List.map_cons, List.sum_cons, hentry]⟩

/-- The texts of the entries are those of the values, behind the keys. -/
lemma hasSize_jsonEntries {value : PyDict} {n : ℕ} :
    HasSize (jsonEntries value) n ↔ ∃ m, HasSize (jsonItems (value.map Prod.snd)) m ∧
      n = (value.map fun entry => (jsonString entry.1).length + 2).sum + m := by
  induction value generalizing n with
  | nil =>
    rw [jsonEntries, List.map_nil, jsonItems, hasSize_nil]
    simp [hasSize_nil]
  | cons entry value ih =>
    obtain ⟨k, v⟩ := entry
    rw [hasSize_entries, List.map_cons, List.map_cons, List.sum_cons]
    simp only [hasSize_items, ih]
    constructor
    · rintro ⟨text, _, htext, ⟨m, hm, rfl⟩, rfl⟩
      exact ⟨text.length + m, ⟨text, m, htext, hm, rfl⟩, by omega⟩
    · rintro ⟨_, ⟨text, m, htext, hm, rfl⟩, rfl⟩
      exact ⟨text, _, htext, ⟨m, hm, rfl⟩, by omega⟩

/-- An item whose text is known. -/
lemma hasSize_items_of {v : PyVal} {text : List Char} (htext : jsonDumps v = .ok text)
    {items : List PyVal} {n : ℕ} :
    HasSize (jsonItems (v :: items)) n ↔
      ∃ m, HasSize (jsonItems items) m ∧ n = text.length + m := by
  rw [hasSize_items]
  constructor
  · rintro ⟨text', m, htext', hm, rfl⟩
    obtain rfl := Except.ok.inj (htext.symm.trans htext')
    exact ⟨m, hm, rfl⟩
  · rintro ⟨m, hm, rfl⟩
    exact ⟨text, m, htext, hm, rfl⟩

lemma length_jsonEntries {value : PyDict} {texts : List (List Char)}
    (h : jsonEntries value = .ok texts) : texts.length = value.length := by
  induction value generalizing texts with
  | nil =>
    cases h
    rfl
  | cons entry value ih =>
    rw [jsonEntries] at h
    obtain ⟨text, -, h⟩ := bind_eq_ok.mp h
    obtain ⟨rest, hrest, h⟩ := bind_eq_ok.mp h
    cases h
    rw [List.length_cons, List.length_cons, ih hrest]

/-- What is accepted: besides the texts of its entries a dict has two characters for each. -/
lemma validateAttrs_iff {value : PyDict} (hne : value ≠ []) : validateAttrs value = .ok () ↔
    walk 0 (.dict value) = .ok () ∧
      ∃ n, HasSize (jsonEntries value) n ∧ n + value.length * 2 ≤ maxBytes := by
  have hlength : ∀ {texts}, jsonEntries value = .ok texts →
      ('\x7b' :: [',', ' '].intercalate texts ++ ['\x7d']).length
        = (texts.map List.length).sum + value.length * 2 := by
    intro texts htexts
    have hcount := length_jsonEntries htexts
    have htexts : texts ≠ [] := by
      rintro rfl
      exact hne (List.length_eq_zero_iff.mp hcount.symm)
    have hinter := length_intercalate [',', ' '] htexts
    simp only [List.length_cons, List.length_append, List.length_nil, hcount] at hinter ⊢
    omega
  unfold validateAttrs
  simp only [bind_eq_ok, jsonDumps]
  constructor
  · rintro ⟨_, hwalk, _, ⟨texts, htexts, htext⟩, hsize⟩
    cases htext
    refine ⟨hwalk, _, ⟨texts, htexts, rfl⟩, ?_⟩
    rw [hlength htexts] at hsize
    split at hsize
    · cases hsize
    · omega
  · rintro ⟨hwalk, _, ⟨texts, htexts, rfl⟩, hsize⟩
    refine ⟨(), hwalk, _, ⟨texts, htexts, rfl⟩, ?_⟩
    rw [hlength htexts]
    exact if_neg (by omega)

/-- A value without parts, of at most `n` characters as JSON. -/
structure JsonLeaf (n : ℕ) (v : PyVal) : Prop where
  walks : walk 1 v = .ok ()
  dumps : ∃ text, jsonDumps v = .ok text ∧ text.length ≤ n

lemma JsonLeaf.str {n : ℕ} {s : String} (h : (jsonString s).length ≤ n) : JsonLeaf n (.str s) :=
  ⟨rfl, _, rfl, h⟩

lemma JsonLeaf.bool (b : Bool) : JsonLeaf 5 (.bool b) := by
  cases b with
  | true => exact ⟨rfl, _, rfl, by decide⟩
  | false => exact ⟨rfl, _, rfl, by decide⟩

/-- A count below `10 ^ 9`. -/
lemma JsonLeaf.count {i : ℕ} (h : i < 10 ^ 9) : JsonLeaf 9 (.int i) := by
  have hlength : (Nat.toDigits 10 i).length ≤ 9 :=
    (Nat.length_toDigits_le_iff (by decide) (by decide)).mpr h
  have hdefined : StrIntDefined i := by
    show (Nat.toDigits 10 (Int.natAbs i)).length ≤ 4300
    rw [Int.natAbs_natCast]
    omega
  refine ⟨rfl, Readers.writeInt i, ?_, ?_⟩
  · rw [jsonDumps, if_pos hdefined]
  · rw [Readers.writeInt, if_neg (by omega), Int.natAbs_natCast]
    exact hlength

/-- The entries have keys of the pattern and values without parts; the bounds are of the values. -/
def FlatEntries (value : PyDict) (bounds : List ℕ) : Prop :=
  List.Forall₂ (fun entry n => keyRe entry.1.toList = true ∧ entry.1.length ≤ 20 ∧
    JsonLeaf n entry.2) value bounds

lemma FlatEntries.nil : FlatEntries [] [] := List.Forall₂.nil

lemma FlatEntries.cons {value : PyDict} {bounds : List ℕ} {k : String} {v : PyVal} {n : ℕ}
    (hkey : keyRe k.toList = true) (hlength : k.length ≤ 20) (hleaf : JsonLeaf n v)
    (h : FlatEntries value bounds) : FlatEntries ((k, v) :: value) (n :: bounds) :=
  List.Forall₂.cons ⟨hkey, hlength, hleaf⟩ h

lemma FlatEntries.walks {value : PyDict} {bounds : List ℕ} (h : FlatEntries value bounds) :
    walkEntries 1 value = .ok () := by
  induction h with
  | nil => rfl
  | cons hentry _ ih =>
    obtain ⟨hkey, -, hleaf⟩ := hentry
    rw [walkEntries, if_pos hkey, hleaf.walks]
    exact ih

/-- The texts of the entries, together. -/
lemma FlatEntries.size {value : PyDict} {bounds : List ℕ} (h : FlatEntries value bounds) :
    ∃ n, HasSize (jsonEntries value) n ∧ n ≤ bounds.sum + bounds.length * 244 := by
  induction h with
  | nil => exact ⟨0, hasSize_nil.mpr rfl, Nat.le_refl _⟩
  | @cons entry n value bounds hentry _ ih =>
    obtain ⟨-, hkey, -, text, htext, hlength⟩ := hentry
    obtain ⟨m, hm, hsum⟩ := ih
    have hkeyText := length_jsonString_le entry.1
    refine ⟨_, hasSize_entries.mpr ⟨text, m, htext, hm, rfl⟩, ?_⟩
    rw [List.sum_cons, List.length_cons]
    omega

/-- Flat entries that are short together are valid attributes. -/
lemma FlatEntries.valid {value : PyDict} {bounds : List ℕ} (h : FlatEntries value bounds)
    (hne : value ≠ []) (hsize : bounds.sum + bounds.length * 246 ≤ maxBytes) :
    validateAttrs value = .ok () := by
  obtain ⟨n, hn, hle⟩ := h.size
  have hsame : value.length = bounds.length := List.Forall₂.length_eq h
  refine (validateAttrs_iff hne).mpr ⟨?_, n, hn, by omega⟩
  rw [walk, if_neg (by decide)]
  exact h.walks

/-! ### Quoted texts -/

/-- JSON has no escape for the character. -/
def IsJsonPlain (c : Char) : Prop := (jsonChar c).length = 1

instance (c : Char) : Decidable (IsJsonPlain c) := inferInstanceAs (Decidable (_ = _))

lemma isJsonPlain_of_isUnreserved {c : Char} (h : isUnreserved c = true) : IsJsonPlain c := by
  have hascii : ∀ n < 128, isUnreserved (Char.ofNat n) = true → IsJsonPlain (Char.ofNat n) := by
    decide
  have hsmall : c.toNat < 128 := by
    have hcases := h
    simp only [isUnreserved, Char.isAlphanum, isAlpha_iff, Bool.or_eq_true, isDigit_iff_toNat,
      isUpper_iff_toNat, isLower_iff_toNat, decide_eq_true_eq] at hcases
    rcases hcases with (((hletter | rfl) | rfl) | rfl) | rfl
    · omega
    all_goals decide
  have hc := hascii c.toNat hsmall
  rw [Char.ofNat_toNat] at hc
  exact hc h

lemma isJsonPlain_percentByte {b : UInt8} {c : Char} (h : c ∈ percentByte b) : IsJsonPlain c := by
  have hdigit : ∀ n < 16, IsJsonPlain (upperHexDigit n) := by decide
  have hb := b.toNat_lt
  simp only [percentByte, List.mem_cons, List.not_mem_nil, or_false] at h
  rcases h with rfl | rfl | rfl
  · decide
  · exact hdigit _ (by omega)
  · exact hdigit _ (by omega)

lemma isJsonPlain_quotePlus {s : List Char} : ∀ c ∈ quotePlus s, IsJsonPlain c := by
  intro c hc
  obtain ⟨d, -, hd⟩ := List.mem_flatMap.mp hc
  split at hd
  · obtain rfl := List.mem_singleton.mp hd
    decide
  · obtain ⟨d', hd', hc'⟩ := List.mem_flatMap.mp hd
    split at hc'
    · rename_i hunreserved
      obtain rfl := List.mem_singleton.mp hc'
      exact isJsonPlain_of_isUnreserved hunreserved
    · obtain ⟨b, -, hb⟩ := List.mem_flatMap.mp hc'
      exact isJsonPlain_percentByte hb

/-- A quoted character is at most four escapes. -/
lemma length_quotePlus_le (s : List Char) : (quotePlus s).length ≤ s.length * 12 := by
  refine length_flatMap_le (fun c => ?_) s
  split
  · exact Nat.succ_le_succ (Nat.zero_le _)
  · have hbytes := length_utf8_le [c]
    have hescapes := length_flatMap_le (fun b => Nat.le_of_eq (show (percentByte b).length = 3
      from rfl)) (utf8 [c])
    rw [quote, List.flatMap_cons, List.flatMap_nil, List.append_nil]
    split
    · exact Nat.succ_le_succ (Nat.zero_le _)
    · rw [List.length_singleton] at hbytes
      omega

lemma isJsonPlain_urlencode (params : List (List Char × List Char)) :
    ∀ c ∈ urlencode params, IsJsonPlain c := by
  have hequals : IsJsonPlain '=' := by decide
  have hand : ∀ c ∈ ['&'], IsJsonPlain c := List.all_iff_forall_prop.mp (by decide)
  unfold urlencode
  induction params with
  | nil => exact fun c hc => absurd hc List.not_mem_nil
  | cons param params ih =>
    have hparam : ∀ c ∈ quotePlus param.1 ++ '=' :: quotePlus param.2, IsJsonPlain c :=
      List.forall_mem_append.mpr ⟨isJsonPlain_quotePlus,
        List.forall_mem_cons.mpr ⟨hequals, isJsonPlain_quotePlus⟩⟩
    cases params with
    | nil =>
      rw [List.map_cons, List.map_nil, List.intercalate_singleton]
      exact hparam
    | cons param' params =>
      rw [List.map_cons, List.map_cons, List.intercalate_cons_cons]
      exact List.forall_mem_append.mpr ⟨List.forall_mem_append.mpr ⟨hparam, hand⟩, ih⟩

lemma length_urlencode_le (params : List (List Char × List Char)) :
    (urlencode params).length
      ≤ (params.map fun param => (param.1.length + param.2.length) * 12 + 2).sum := by
  have hparam : ∀ param : List Char × List Char,
      (quotePlus param.1 ++ '=' :: quotePlus param.2).length
        ≤ (param.1.length + param.2.length) * 12 + 1 := by
    intro param
    have hkey := length_quotePlus_le param.1
    have hvalue := length_quotePlus_le param.2
    rw [List.length_append, List.length_cons]
    omega
  unfold urlencode
  induction params with
  | nil => exact Nat.zero_le _
  | cons param params ih =>
    have hfirst := hparam param
    cases params with
    | nil =>
      simp only [List.map_cons, List.map_nil, List.intercalate_singleton, List.sum_cons,
        List.sum_nil]
      omega
    | cons param' params =>
      simp only [List.map_cons, List.intercalate_cons_cons, List.length_append,
        List.length_singleton, List.sum_cons] at ih hfirst ⊢
      omega

/-! ## Validated once more -/

/-- The runner's schemas take what a query returns. -/
structure Revalidated (plugin : OSINTPlugin) (input : Entity) (result : QueryResult) : Prop where
  entities : ∀ ep ∈ result.entities,
    (EntityCreate.validate ep.type.value ep.label ep.attrs ep.confidence).isOk = true
  relationships : ∀ rp ∈ result.relationships, ∀ src dst : UUID,
    (RelationshipCreate.validate src dst rp.relType.value rp.confidence (some plugin.fullName)
      rp.attrs).isOk = true
  evidence : ∀ evp ∈ result.evidence,
    (EvidenceCreate.validate (if evp.linkToInput then some input.id else none) plugin.fullName
      evp.query evp.reproducibilitySpec).isOk = true

/-- A query that tolerates its answer: it returns one evidence with the raw body, and what it
returns is validated once more. -/
def Tolerated (plugin : OSINTPlugin) (input : Entity) (raw : Bytes)
    (answer : Except Exc QueryResult) : Prop :=
  ∃ result ev, answer = .ok result ∧ result.evidence = [ev] ∧ ev.payload = raw ∧
    Revalidated plugin input result

lemma Tolerated.not_error {plugin : OSINTPlugin} {input : Entity} {raw : Bytes} {e : Exc} :
    ¬ Tolerated plugin input raw (.error e) :=
  fun ⟨_, _, h, _⟩ => nomatch h

section Revalidated

variable {plugin : OSINTPlugin} {input : Entity}

lemma entityCreate_isOk {type : EntityType} {label : String} {attrs : PyDict} {confidence : ℚ}
    (hlabel : LengthIn 512 label) (hattrs : validateAttrs attrs = .ok ())
    (hconfidence : UnitRange confidence) :
    (EntityCreate.validate type.value label attrs confidence).isOk = true := by
  have htype : EntityType.ofValue type.value = some type := by
    cases type <;> rfl
  unfold EntityCreate.validate
  split
  · rename_i e herror
    rw [hattrs] at herror
    cases herror
  · rw [htype]
    dsimp only
    rw [dif_pos ⟨hlabel, hconfidence⟩]
    rfl

lemma relationshipCreate_isOk {src dst : UUID} {relType : RelationshipType} {confidence : ℚ}
    {source : String} (hconfidence : UnitRange confidence) (hsource : source.length ≤ 128) :
    (RelationshipCreate.validate src dst relType.value confidence (some source) []).isOk
      = true := by
  have htype : RelationshipType.ofValue relType.value = some relType := by
    cases relType <;> rfl
  have hshort : ∀ p, some source = some p → p.length ≤ 128 := by
    intro p hp
    obtain rfl := Option.some.inj hp
    exact hsource
  unfold RelationshipCreate.validate
  split
  · rename_i e herror
    rw [validateAttrs_nil] at herror
    cases herror
  · rw [htype]
    dsimp only
    rw [dif_pos ⟨hconfidence, hshort⟩]
    rfl

/-- Evidence of a question that has been validated depends on its spec alone. -/
lemma evidenceCreate_isOk_iff {entityId : Option UUID} {source query : String} {spec : PyDict}
    (hsource : LengthIn 96 source ∧ sourcePluginRe source.toList = true)
    (hquery : LengthIn 1024 query) :
    (EvidenceCreate.validate entityId source query spec).isOk = true
      ↔ validateAttrs spec = .ok () := by
  unfold EvidenceCreate.validate
  split
  · rename_i e herror
    rw [herror]
    exact iff_of_false (fun h => nomatch h) fun h => nomatch h
  · rename_i hspec
    rw [dif_pos ⟨hsource, hquery⟩]
    exact iff_of_true rfl hspec

/-- The proposals fit the schemas of the rows; the relationships have no attributes. -/
structure Sound (entities : List EntityProposal) (relationships : List RelationshipProposal) :
    Prop where
  entities : ∀ ep ∈ entities,
    LengthIn 512 ep.label ∧ validateAttrs ep.attrs = .ok () ∧ UnitRange ep.confidence
  relationships : ∀ rp ∈ relationships, rp.attrs = [] ∧ UnitRange rp.confidence

lemma Sound.nil : Sound [] [] :=
  ⟨fun _ h => absurd h List.not_mem_nil, fun _ h => absurd h List.not_mem_nil⟩

lemma Sound.add {entities : List EntityProposal} {relationships : List RelationshipProposal}
    (h : Sound entities relationships) {ep : EntityProposal} {rp : RelationshipProposal}
    (hlabel : LengthIn 512 ep.label) (hattrs : validateAttrs ep.attrs = .ok ())
    (hconfidence : UnitRange ep.confidence) (hempty : rp.attrs = [])
    (hrelConfidence : UnitRange rp.confidence) :
    Sound (entities ++ [ep]) (relationships ++ [rp]) := by
  constructor
  · refine List.forall_mem_append.mpr ⟨h.entities, fun ep' hep' => ?_⟩
    obtain rfl := List.mem_singleton.mp hep'
    exact ⟨hlabel, hattrs, hconfidence⟩
  · refine List.forall_mem_append.mpr ⟨h.relationships, fun rp' hrp' => ?_⟩
    obtain rfl := List.mem_singleton.mp hrp'
    exact ⟨hempty, hrelConfidence⟩

/-- A label of the pattern fits. -/
lemma lengthIn_of_domainRe {name : List Char} (h : domainRe name = true) :
    LengthIn 512 (String.ofList name) := by
  obtain ⟨hpos, hle⟩ := length_of_domainRe h
  unfold LengthIn
  rw [String.length_ofList]
  omega

/-- The full name is a source of evidence and of relationships. -/
structure OSINTPlugin.Sources (plugin : OSINTPlugin) : Prop where
  evidence : LengthIn 96 plugin.fullName ∧ sourcePluginRe plugin.fullName.toList = true
  relationships : plugin.fullName.length ≤ 128

lemma tolerated_bind {α : Type} {raw : Bytes} {r : Except Exc α}
    {f : α → Except Exc QueryResult} :
    Tolerated plugin input raw (r >>= f) ↔ ∃ a, r = .ok a ∧ Tolerated plugin input raw (f a) := by
  constructor
  · rintro ⟨result, ev, hanswer, hrest⟩
    obtain ⟨a, ha, hf⟩ := bind_eq_ok.mp hanswer
    exact ⟨a, ha, result, ev, hf, hrest⟩
  · rintro ⟨a, ha, result, ev, hf, hrest⟩
    exact ⟨result, ev, bind_eq_ok.mpr ⟨a, ha, hf⟩, hrest⟩

/-- The last step of a query, with proposals that fit. -/
lemma tolerated_validate_iff (hplugin : plugin.Sources) {entities : List EntityProposal}
    {relationships : List RelationshipProposal} (hsound : Sound entities relationships)
    {question : List Char} {raw : Bytes} {spec : PyDict} :
    Tolerated plugin input raw (EvidenceProposal.validate question raw spec >>= fun evidence =>
        .ok ⟨entities, relationships, [evidence]⟩) ↔
      LengthIn 1024 (String.ofList question) ∧ validateAttrs spec = .ok () := by
  rw [tolerated_bind]
  constructor
  · rintro ⟨evidence, hevidence, result, ev, hanswer, hone, -, hvalid⟩
    obtain ⟨hquestion, rfl⟩ := evidenceProposal_ok.mp hevidence
    obtain rfl := Except.ok.inj hanswer
    have hspec := hvalid.evidence _ List.mem_cons_self
    exact ⟨hquestion, (evidenceCreate_isOk_iff hplugin.evidence hquestion).mp hspec⟩
  · rintro ⟨hquestion, hspec⟩
    refine ⟨_, evidenceProposal_ok.mpr ⟨hquestion, rfl⟩, _, _, rfl, rfl, rfl, ?_, ?_, ?_⟩
    · intro ep hep
      obtain ⟨hlabel, hattrs, hconfidence⟩ := hsound.entities ep hep
      exact entityCreate_isOk hlabel hattrs hconfidence
    · intro rp hrp src dst
      obtain ⟨hattrs, hconfidence⟩ := hsound.relationships rp hrp
      rw [hattrs]
      exact relationshipCreate_isOk hconfidence hplugin.relationships
    · intro evp hevp
      obtain rfl := List.mem_singleton.mp hevp
      exact (evidenceCreate_isOk_iff hplugin.evidence hquestion).mpr hspec

end Revalidated

/-- The clock's text is one of `isoformat` in UTC, which has at most 32 characters. -/
def Upstream.IsoClock (u : Upstream) : Prop := u.now.length ≤ 32

lemma Upstream.IsoClock.leaf {u : Upstream} (h : u.IsoClock) : JsonLeaf 386 (.str u.now) := by
  have hlength := length_jsonString_le u.now
  unfold Upstream.IsoClock at h
  exact JsonLeaf.str (by omega)

/-! ## `crtsh` -/

namespace CrtSh

variable {u : Upstream} {domain : List Char}

/-- An answer that `crtsh` tolerates: its entries are dicts as far as they are read, and the names
that are taken and the question fit their fields. -/
structure Digestible (u : Upstream) (domain : List Char) (data : List PyVal) : Prop where
  read : ComesFull (names u domain data) ∨ allDicts data = true
  short : ∀ name ∈ (distinctNames u domain data).take maxSubdomains, name.length ≤ 512
  question : (evidenceQuery domain).length ≤ 1024

lemma entityProposals_sound {i : ℕ} {subs : List (List Char)} {eps : List EntityProposal}
    (h : entityProposals i subs = .ok eps) :
    Sound eps ((List.range eps.length).map relationshipProposal) := by
  have hattrs : validateAttrs [("discovered_via", .str "crt.sh")] = .ok () := rfl
  have hconfidence : UnitRange (9 / 10) := ⟨by norm_num, by norm_num⟩
  constructor
  · induction subs generalizing i eps with
    | nil =>
      cases h
      exact fun _ hep => absurd hep List.not_mem_nil
    | cons sub subs ih =>
      obtain ⟨ep, hep, h⟩ := bind_eq_ok.mp h
      obtain ⟨⟨-, hlabel, hrange⟩, rfl⟩ := entityProposal_ok.mp hep
      obtain ⟨rest, hrest, h⟩ := bind_eq_ok.mp h
      cases h
      exact List.forall_mem_cons.mpr ⟨⟨hlabel, hattrs, hrange⟩, ih hrest⟩
  · intro rp hrp
    obtain ⟨n, -, rfl⟩ := List.mem_map.mp hrp
    exact ⟨rfl, hconfidence⟩

lemma urlOf_plain (domain : List Char) : ∀ c ∈ urlOf domain, IsJsonPlain c := by
  have hhead : ∀ c ∈ "https://crt.sh/?".toList, IsJsonPlain c :=
    List.all_iff_forall_prop.mp (by decide)
  exact List.forall_mem_append.mpr ⟨hhead, isJsonPlain_urlencode _⟩

lemma length_urlOf_le (domain : List Char) :
    (urlOf domain).length ≤ domain.length * 12 + 160 := by
  have hparams := length_urlencode_le [("q".toList, domain), ("output".toList, "json".toList)]
  have hhead : "https://crt.sh/?".toList.length = 16 := rfl
  have hq : "q".toList.length = 1 := rfl
  have houtput : "output".toList.length = 6 := rfl
  have hjson : "json".toList.length = 4 := rfl
  simp only [List.map_cons, List.map_nil, List.sum_cons, List.sum_nil, hq, houtput, hjson]
    at hparams
  unfold urlOf
  rw [List.length_append, hhead]
  omega

lemma length_evidenceQuery (domain : List Char) :
    (evidenceQuery domain).length = 28 + domain.length := by
  have hwords : "crt.sh subdomain lookup for ".toList.length = 28 := rfl
  unfold evidenceQuery
  rw [List.length_append, hwords]

/-- The spec of a question that fits is small. -/
lemma spec_valid (hclock : u.IsoClock) (hquestion : (evidenceQuery domain).length ≤ 1024)
    {count : ℕ} (hcount : count ≤ maxSubdomains) {truncated : Bool} :
    validateAttrs (spec u (urlOf domain) count truncated) = .ok () := by
  have hurl : (jsonString (String.ofList (urlOf domain))).length ≤ 12200 := by
    have hasked := length_evidenceQuery domain
    have hlength := length_urlOf_le domain
    have hplain := length_jsonString_plain (urlOf_plain domain)
    omega
  have hcap : maxSubdomains = 1000 := rfl
  have hflat : FlatEntries (spec u (urlOf domain) count truncated) [12200, 5, 386, 9, 5, 9] :=
    .cons (by decide) (by decide) (.str hurl) <|
      .cons (by decide) (by decide) (.str (by decide)) <|
        .cons (by decide) (by decide) hclock.leaf <|
          .cons (by decide) (by decide) (.count (by omega)) <|
            .cons (by decide) (by decide) (.bool truncated) <|
              .cons (by decide) (by decide) (.count (by decide)) .nil
  exact hflat.valid (List.cons_ne_nil _ _) (by decide)

lemma sources (u : Upstream) : (crtShPlugin u).Sources := by
  have hname : (crtShPlugin u).fullName = "crtsh" ++ "@" ++ "0.1.0" := rfl
  constructor
  · rw [hname]
    decide
  · rw [hname]
    decide

/-- **When `crtsh` tolerates an answer**. -/
theorem finish_tolerated_iff (hclock : u.IsoClock) {input : Entity} {raw : Bytes}
    {data : List PyVal} :
    Tolerated (crtShPlugin u) input raw (finish u domain raw data) ↔ Digestible u domain data := by
  have hlast : ∀ {eps : List EntityProposal} {truncated : Bool},
      Sound eps ((List.range eps.length).map relationshipProposal) →
      (Tolerated (crtShPlugin u) input raw
        (EvidenceProposal.validate (evidenceQuery domain) raw
          (spec u (urlOf domain) eps.length truncated) >>= fun evidence =>
            .ok ⟨eps, (List.range eps.length).map relationshipProposal, [evidence]⟩) ↔
        LengthIn 1024 (String.ofList (evidenceQuery domain)) ∧
          validateAttrs (spec u (urlOf domain) eps.length truncated) = .ok ()) :=
    fun hsound => tolerated_validate_iff (sources u) hsound
  unfold finish
  rw [tolerated_bind]
  constructor
  · rintro ⟨⟨subdomains, truncated⟩, hextract, h⟩
    obtain ⟨eps, heps, h⟩ := tolerated_bind.mp h
    obtain ⟨hquestion, -⟩ := (hlast (entityProposals_sound heps)).mp h
    obtain ⟨hread, hcollect⟩ := extractSubdomains_ok.mp hextract
    obtain rfl := extracted_eq hcollect
    exact ⟨hread, labels_valid_iff.mp ((entityProposals_ok (taken_length_le data)).mp ⟨eps, heps⟩),
      query_length_iff.mp hquestion⟩
  · intro h
    obtain ⟨subdomains, truncated, hcollect⟩ :
        ∃ subdomains truncated, collect maxSubdomains [] (names u domain data)
          = (subdomains, truncated) := ⟨_, _, rfl⟩
    have hextract := extractSubdomains_ok.mpr ⟨h.read, hcollect⟩
    obtain rfl := extracted_eq hcollect
    obtain ⟨eps, heps⟩ := (entityProposals_ok (taken_length_le data)).mpr
      (labels_valid_iff.mpr h.short)
    have hcount : eps.length ≤ maxSubdomains := by
      rw [entityProposals_length heps, length_sortedNames]
      exact List.length_take_le _ _
    refine ⟨_, hextract, tolerated_bind.mpr ⟨eps, heps, ?_⟩⟩
    exact (hlast (entityProposals_sound heps)).mpr
      ⟨query_length_iff.mpr h.question, spec_valid hclock h.question hcount⟩

end CrtSh

/-! ## `virustotal` -/

/-- `data.get(key, {})`, if it is a dict. -/
def dictAt (data : PyDict) (key : String) : Option PyDict :=
  match (data.lookup key).getD (.dict []) with
  | .dict entries => some entries
  | _ => none

/-- A `.get` goes through on dicts only. -/
lemma pyGet_eq_ok {value : PyVal} {key : String} {default v : PyVal} :
    pyGet value key default = .ok v ↔
      ∃ entries, value = .dict entries ∧ (entries.lookup key).getD default = v := by
  cases value with
  | dict entries => simp [pyGet]
  | _ => simp [pyGet]

lemma dictAt_eq_some {data : PyDict} {key : String} {entries : PyDict} :
    dictAt data key = some entries ↔ (data.lookup key).getD (.dict []) = .dict entries := by
  unfold dictAt
  split
  · rename_i found hfound
    rw [hfound, Option.some.injEq, PyVal.dict.injEq]
  · rename_i hother
    exact iff_of_false (by simp) (hother entries)

namespace VirusTotal

variable {u : Upstream} {domain : List Char}

/-- `data.get("data", {}).get("attributes", {})`, if it is a dict. -/
def attributesOf (data : PyDict) : Option PyDict :=
  (dictAt data "data").bind fun inner => dictAt inner "attributes"

lemma attributeOf_eq_ok {data : PyDict} {key : String} {default v : PyVal} :
    attributeOf data key default = .ok v ↔
      ∃ attributes, attributesOf data = some attributes ∧
        (attributes.lookup key).getD default = v := by
  unfold attributeOf attributesOf
  simp only [bind_eq_ok, pyGet_eq_ok, Option.bind_eq_some_iff, dictAt_eq_some]
  constructor
  · rintro ⟨inner, ⟨entries, hdata, hinner⟩, attributes, ⟨innerDict, rfl, hattributes⟩, found, rfl,
      hv⟩
    cases hdata
    exact ⟨found, ⟨innerDict, hinner, hattributes⟩, hv⟩
  · rintro ⟨found, ⟨innerDict, hinner, hattributes⟩, hv⟩
    exact ⟨_, ⟨data, rfl, hinner⟩, _, ⟨innerDict, rfl, hattributes⟩, found, rfl, hv⟩

/-- The value of a record is a text, if there is one. -/
def hasText : PyVal → Bool
  | .dict rec => match (rec.lookup "value").getD (.str "") with
    | .str _ => true
    | _ => false
  | _ => false

/-- A record that the loops get over: its value is a text, and an address fits a label. -/
structure Readable (u : Upstream) (rec : PyVal) : Prop where
  text : hasText rec = true
  short : ∀ address, addressOf u rec = some address → address.length ≤ 512

/-- A name of a certificate, as the loop proposes it. -/
def altNameOf (u : Upstream) : PyVal → Option (List Char)
  | .str name =>
    let name := u.text.lower (rstrip (· = '.') (strip name.toList))
    if !name.isEmpty && domainRe name then some name else none
  | _ => none

def isText : PyVal → Bool
  | .str _ => true
  | _ => false

/-- The attributes of a domain that the plugin tolerates: the records that are met before the cap
are readable. -/
def DigestibleRecords (u : Upstream) (attributes : PyDict) : Prop :=
  ∃ records, pyIter ((attributes.lookup "last_dns_records").getD (.list [])) = .ok records ∧
    AllMet maxEntities (addressOf u) (Readable u) 0 records

/-- The attributes of an address that the plugin tolerates: the names of its certificate that are
met before the cap are texts. -/
def DigestibleNames (u : Upstream) (attributes : PyDict) : Prop :=
  ∀ cert, (attributes.lookup "last_https_certificate").getD (.dict []) = .dict cert →
    ∃ extensions names, dictAt cert "extensions" = some extensions ∧
      pyIter ((extensions.lookup "subject_alternative_name").getD (.list [])) = .ok names ∧
      AllMet maxEntities (altNameOf u) (fun name => isText name = true) 0 names

/-- An answer that `virustotal` tolerates for an entity of the type. For a URL it is not looked
at. -/
structure Digestible (u : Upstream) (type : Option EntityType) (data : PyDict) : Prop where
  domain : type = some .domain →
    ∃ attributes, attributesOf data = some attributes ∧ DigestibleRecords u attributes
  address : type = some .ipAddress →
    ∃ attributes, attributesOf data = some attributes ∧ DigestibleNames u attributes

/-! ### The loops -/

/-- A loop goes through when its body does on each record that it meets. -/
lemma eachRecord_returns_iff {body : Found → PyVal → Except Exc Found}
    {f : PyVal → Option (EntityType × List Char)} (hbody : Picks body f) {P : PyVal → Prop}
    (hreturns : ∀ found rec, found.entityCount < maxEntities →
      ((∃ next, body found rec = .ok next) ↔ P rec))
    (found : Found) (records : List PyVal) :
    (∃ found', eachRecord body found records = .ok found') ↔
      AllMet maxEntities f P found.entityCount records := by
  induction records generalizing found with
  | nil => exact iff_of_true ⟨found, rfl⟩ allMet_nil
  | cons rec records ih =>
    unfold eachRecord
    by_cases hcap : maxEntities ≤ found.entityCount
    · rw [if_pos hcap]
      exact iff_of_true ⟨_, rfl⟩ (allMet_of_full hcap _)
    · have hroom : found.entityCount < maxEntities := Nat.lt_of_not_le hcap
      -- what the record gives is counted
      have hcount : ∀ next, body found rec = .ok next →
          next.entityCount = found.entityCount + (f rec).toList.length := by
        intro next hnext
        have hlabels := congrArg List.length (hbody _ _ _ hnext).1
        rw [proposed, List.length_map] at hlabels
        rw [Found.entityCount, hlabels, pick]
        cases f rec with
        | none => rw [proposed, List.length_map]; rfl
        | some label => rw [List.length_append, proposed, List.length_map]; rfl
      rw [if_neg hcap, allMet_cons, ← hreturns found rec hroom]
      constructor
      · rintro ⟨found', h⟩
        obtain ⟨next, hnext, hrest⟩ := bind_eq_ok.mp h
        refine ⟨fun _ => ⟨next, hnext⟩, ?_⟩
        rw [← hcount next hnext]
        exact (ih next).mp ⟨found', hrest⟩
      · rintro ⟨hmet, hrest⟩
        obtain ⟨next, hnext⟩ := hmet hroom
        rw [← hcount next hnext] at hrest
        obtain ⟨found', hfound'⟩ := (ih next).mpr hrest
        exact ⟨found', bind_eq_ok.mpr ⟨next, hnext, hfound'⟩⟩

lemma hasText_iff {rec : PyVal} : hasText rec = true ↔ ∃ entries value,
    rec = .dict entries ∧ (entries.lookup "value").getD (.str "") = .str value := by
  cases rec with
  | dict entries =>
    rw [hasText]
    constructor
    · intro h
      split at h
      · rename_i value hvalue
        exact ⟨entries, value, rfl, hvalue⟩
      · cases h
    · rintro ⟨_, value, heq, hvalue⟩
      cases heq
      rw [hvalue]
  | _ => simp [hasText]

/-- The value of a record is read just when it is a text. -/
lemma valueOf_eq_ok {rec : PyVal} {value : List Char} : valueOf rec = .ok value ↔
    ∃ entries text, rec = .dict entries ∧ (entries.lookup "value").getD (.str "") = .str text ∧
      strip text.toList = value := by
  unfold valueOf
  rw [bind_eq_ok]
  constructor
  · rintro ⟨item, hitem, h⟩
    obtain ⟨entries, rfl, rfl⟩ := pyGet_eq_ok.mp hitem
    split at h
    · rename_i text htext
      exact ⟨entries, text, rfl, htext, Except.ok.inj h⟩
    · cases h
  · rintro ⟨entries, text, rfl, htext, rfl⟩
    exact ⟨_, pyGet_eq_ok.mpr ⟨entries, rfl, htext⟩, rfl⟩

/-- A record below the cap goes through just when it is readable. -/
lemma addAddress_returns_iff {found : Found} {rec : PyVal}
    (hroom : found.entityCount < maxEntities) :
    (∃ next, addAddress u found rec = .ok next) ↔ Readable u rec := by
  have hcap : maxEntities = 50 := rfl
  have href : LengthIn 64 (numbered "ip" found.entityCount) :=
    numbered_length (by decide) (by omega)
  have hconfidence : UnitRange (17 / 20) := ⟨by norm_num, by norm_num⟩
  constructor
  · rintro ⟨next, h⟩
    have hpicked := (addAddress_picks [] found rec next h).1
    constructor
    · obtain ⟨rtype, -, h⟩ := bind_eq_ok.mp h
      obtain ⟨value, hvalue, -⟩ := bind_eq_ok.mp h
      obtain ⟨entries, text, hrec, htext, -⟩ := valueOf_eq_ok.mp hvalue
      exact hasText_iff.mpr ⟨entries, text, hrec, htext⟩
    · intro address haddress
      rw [pick, candidateOf, haddress] at hpicked
      rcases addAddress_ok h with rfl | ⟨value, rdtype, hvalue, -, rfl⟩
      · exact absurd (congrArg List.length hpicked) (by simp)
      · obtain ⟨value, rfl⟩ : ∃ s, value = String.ofList s := ⟨value.toList, by simp⟩
        rw [proposed_add] at hpicked
        have hsame := (Prod.mk.inj (List.singleton_inj.mp (List.append_cancel_left hpicked))).2
        rw [← hsame]
        unfold LengthIn at hvalue
        rw [String.length_ofList] at hvalue
        exact hvalue.2
  · rintro ⟨htext, hshort⟩
    obtain ⟨entries, value, rfl, hvalue⟩ := hasText_iff.mp htext
    unfold addAddress
    rw [valueOf_eq_ok.mpr ⟨entries, value, rfl, hvalue, rfl⟩]
    dsimp only [pyGet, bind, Except.bind]
    split
    · rename_i hqualifies
      have haddress : addressOf u (.dict entries) = some (strip value.toList) := by
        rw [addressOf]
        dsimp only
        rw [hvalue]
        exact if_pos hqualifies
      have hlabel : LengthIn 512 (String.ofList (strip value.toList)) := by
        have hlong := hshort _ haddress
        have hpos : 0 < (strip value.toList).length := by
          simp only [Bool.and_eq_true, Bool.not_eq_true', List.isEmpty_eq_false_iff] at hqualifies
          exact List.length_pos_iff.mpr hqualifies.1.2
        unfold LengthIn
        rw [String.length_ofList]
        omega
      exact ⟨_, bind_eq_ok.mpr ⟨_, entityProposal_ok.mpr ⟨⟨href, hlabel, hconfidence⟩, rfl⟩, rfl⟩⟩
    · exact ⟨_, rfl⟩

/-- The second loop has no length to check: a domain name fits. -/
lemma addSubdomain_returns_iff {found : Found} {rec : PyVal}
    (hroom : found.entityCount < maxEntities) :
    (∃ next, addSubdomain u domain found rec = .ok next) ↔ hasText rec = true := by
  have hcap : maxEntities = 50 := rfl
  have href : LengthIn 64 (numbered "sub" found.entityCount) :=
    numbered_length (by decide) (by omega)
  have hconfidence : UnitRange (4 / 5) := ⟨by norm_num, by norm_num⟩
  constructor
  · rintro ⟨next, h⟩
    obtain ⟨rtype, -, h⟩ := bind_eq_ok.mp h
    obtain ⟨stripped, hvalue, -⟩ := bind_eq_ok.mp h
    obtain ⟨entries, text, hrec, htext, -⟩ := valueOf_eq_ok.mp hvalue
    exact hasText_iff.mpr ⟨entries, text, hrec, htext⟩
  · intro htext
    obtain ⟨entries, value, rfl, hvalue⟩ := hasText_iff.mp htext
    unfold addSubdomain
    rw [valueOf_eq_ok.mpr ⟨entries, value, rfl, hvalue, rfl⟩]
    dsimp only [pyGet, bind, Except.bind]
    split
    · rename_i hqualifies
      simp only [Bool.and_eq_true] at hqualifies
      have hlabel := lengthIn_of_domainRe hqualifies.1.1.2
      exact ⟨_, bind_eq_ok.mpr ⟨_, entityProposal_ok.mpr ⟨⟨href, hlabel, hconfidence⟩, rfl⟩, rfl⟩⟩
    · exact ⟨_, rfl⟩

lemma addAltName_returns_iff {found : Found} {name : PyVal}
    (hroom : found.entityCount < maxEntities) :
    (∃ next, addAltName u found name = .ok next) ↔ isText name = true := by
  have hcap : maxEntities = 50 := rfl
  have href : LengthIn 64 (numbered "domain" found.entityCount) :=
    numbered_length (by decide) (by omega)
  have hconfidence : UnitRange (7 / 10) := ⟨by norm_num, by norm_num⟩
  cases name with
  | str name =>
    refine iff_of_true ?_ rfl
    unfold addAltName
    dsimp only
    split
    · rename_i hname
      rw [Bool.and_eq_true] at hname
      have hlabel := lengthIn_of_domainRe hname.2
      exact ⟨_, bind_eq_ok.mpr ⟨_, entityProposal_ok.mpr ⟨⟨href, hlabel, hconfidence⟩, rfl⟩, rfl⟩⟩
    · exact ⟨_, rfl⟩
  | _ => exact iff_of_false (fun ⟨_, h⟩ => nomatch h) fun h => nomatch h

lemma addAltName_picks :
    Picks (addAltName u) fun name => (altNameOf u name).map fun name => (.domain, name) := by
  intro found name found' h
  cases name with
  | str name =>
    unfold addAltName at h
    rw [pick, altNameOf]
    dsimp only at h ⊢
    split at h
    · rename_i hname
      obtain ⟨entity, hentity, h⟩ := bind_eq_ok.mp h
      obtain ⟨-, rfl⟩ := entityProposal_ok.mp hentity
      cases h
      rw [if_pos hname]
      exact ⟨proposed_add _ _ _ _ _ _ _, rfl⟩
    · rename_i hname
      cases h
      rw [if_neg hname]
      exact ⟨rfl, rfl⟩
  | _ => cases h

/-! ### What is extracted -/

/-- The first loop proposes the addresses up to the cap. -/
lemma addresses_count {records : List PyVal} {found : Found}
    (h : eachRecord (addAddress u) Found.empty records = .ok found) :
    found.entityCount = min maxEntities (records.filterMap (addressOf u)).length := by
  have hlabels := congrArg Prod.fst (eachRecord_capped_eq (addAddress_picks []) h)
  have hempty : (proposed Found.empty.entities).length ≤ maxEntities := Nat.zero_le _
  rw [capped_fst (grows_pick _) hempty, foldl_pick] at hlabels
  have hlength := congrArg List.length hlabels
  have hcount : (records.filterMap fun rec => candidateOf u [] (.inl rec)).length
      = (records.filterMap (addressOf u)).length := by
    have hmap := List.map_filterMap (f := addressOf u)
      (g := fun address => (EntityType.ipAddress, address)) (l := records)
    exact (congrArg List.length hmap).symm.trans (List.length_map _)
  rw [proposed, List.length_map] at hlength
  rw [Found.entityCount, hlength, List.length_take]
  exact congrArg (min maxEntities) hcount

/-- The second loop goes through if the first does: it starts below the cap only behind a first
that has met every record. -/
lemma extractDomain_returns_iff {data : PyDict} :
    (∃ found, extractDomain u domain data = .ok found) ↔
      ∃ attributes, attributesOf data = some attributes ∧ DigestibleRecords u attributes := by
  have hfirst : ∀ records, (∃ found, eachRecord (addAddress u) Found.empty records = .ok found) ↔
      AllMet maxEntities (addressOf u) (Readable u) 0 records := by
    intro records
    rw [eachRecord_returns_iff (addAddress_picks []) fun _ _ hroom =>
      addAddress_returns_iff hroom]
    exact allMet_map _
  constructor
  · rintro ⟨found, h⟩
    obtain ⟨value, hvalue, h⟩ := bind_eq_ok.mp h
    obtain ⟨records, hrecords, h⟩ := bind_eq_ok.mp h
    obtain ⟨between, hbetween, -⟩ := bind_eq_ok.mp h
    obtain ⟨attributes, hattributes, rfl⟩ := attributeOf_eq_ok.mp hvalue
    exact ⟨attributes, hattributes, records, hrecords, (hfirst records).mp ⟨between, hbetween⟩⟩
  · rintro ⟨attributes, hattributes, records, hrecords, hmet⟩
    obtain ⟨between, hbetween⟩ := (hfirst records).mpr hmet
    have hsecond : AllMet maxEntities (fun rec => candidateOf u domain (.inr rec))
        (fun rec => hasText rec = true) between.entityCount records := by
      by_cases hfull : maxEntities ≤ between.entityCount
      · exact allMet_of_full hfull records
      · have hcount := addresses_count hbetween
        have hall := hmet.all (by omega)
        exact allMet_of_all fun rec hrec => (hall rec hrec).text
    obtain ⟨found, hfound⟩ := (eachRecord_returns_iff addSubdomain_picks
      (fun _ _ hroom => addSubdomain_returns_iff hroom) between records).mpr hsecond
    refine ⟨found, bind_eq_ok.mpr ⟨_, attributeOf_eq_ok.mpr ⟨attributes, hattributes, rfl⟩, ?_⟩⟩
    exact bind_eq_ok.mpr ⟨records, hrecords, bind_eq_ok.mpr ⟨between, hbetween, hfound⟩⟩

/-- The names of a certificate, and none of one that is no dict. -/
lemma altNames_eq_ok {data : PyDict} {names : PyVal} : altNames data = .ok names ↔
    ∃ attributes, attributesOf data = some attributes ∧
      ((∃ cert extensions,
        (attributes.lookup "last_https_certificate").getD (.dict []) = .dict cert ∧
          dictAt cert "extensions" = some extensions ∧
            (extensions.lookup "subject_alternative_name").getD (.list []) = names) ∨
        ((∀ cert, (attributes.lookup "last_https_certificate").getD (.dict []) ≠ .dict cert) ∧
          names = .list [])) := by
  unfold altNames
  rw [bind_eq_ok]
  constructor
  · rintro ⟨value, hvalue, h⟩
    obtain ⟨attributes, hattributes, hlookup⟩ := attributeOf_eq_ok.mp hvalue
    refine ⟨attributes, hattributes, ?_⟩
    rw [hlookup]
    cases value with
    | dict cert =>
      obtain ⟨inner, hinner, hget⟩ := bind_eq_ok.mp h
      obtain ⟨extensions, rfl, hnames⟩ := pyGet_eq_ok.mp hget
      obtain ⟨_, heq, hinner⟩ := pyGet_eq_ok.mp hinner
      cases heq
      exact Or.inl ⟨cert, extensions, rfl, dictAt_eq_some.mpr hinner, hnames⟩
    | _ => exact Or.inr ⟨fun _ heq => (nomatch heq), (Except.ok.inj h).symm⟩
  · rintro ⟨attributes, hattributes, ⟨cert, extensions, hcert, hextensions, hnames⟩ | ⟨hother, rfl⟩⟩
    · refine ⟨.dict cert, attributeOf_eq_ok.mpr ⟨attributes, hattributes, hcert⟩, ?_⟩
      exact bind_eq_ok.mpr ⟨_, pyGet_eq_ok.mpr ⟨cert, rfl, dictAt_eq_some.mp hextensions⟩,
        pyGet_eq_ok.mpr ⟨extensions, rfl, hnames⟩⟩
    · refine ⟨_, attributeOf_eq_ok.mpr ⟨attributes, hattributes, rfl⟩, ?_⟩
      cases hlookup : (attributes.lookup "last_https_certificate").getD (.dict []) with
      | dict cert => exact absurd hlookup (hother cert)
      | _ => rfl

lemma extractIp_returns_iff {data : PyDict} :
    (∃ found, extractIp u data = .ok found) ↔
      ∃ attributes, attributesOf data = some attributes ∧ DigestibleNames u attributes := by
  have hloop : ∀ names, (∃ found, eachRecord (addAltName u) Found.empty names = .ok found) ↔
      AllMet maxEntities (altNameOf u) (fun name => isText name = true) 0 names := by
    intro names
    rw [eachRecord_returns_iff addAltName_picks fun _ _ hroom => addAltName_returns_iff hroom]
    exact allMet_map _
  constructor
  · rintro ⟨found, h⟩
    obtain ⟨value, hvalue, h⟩ := bind_eq_ok.mp h
    obtain ⟨names, hnames, hfound⟩ := bind_eq_ok.mp h
    obtain ⟨attributes, hattributes, hcert⟩ := altNames_eq_ok.mp hvalue
    refine ⟨attributes, hattributes, fun cert heq => ?_⟩
    rcases hcert with ⟨_, extensions, heq', hextensions, rfl⟩ | ⟨hother, -⟩
    · cases heq.symm.trans heq'
      exact ⟨extensions, names, hextensions, hnames, (hloop names).mp ⟨found, hfound⟩⟩
    · exact absurd heq (hother cert)
  · rintro ⟨attributes, hattributes, hdigestible⟩
    by_cases hcert : ∃ cert,
        (attributes.lookup "last_https_certificate").getD (.dict []) = .dict cert
    · obtain ⟨cert, hcert⟩ := hcert
      obtain ⟨extensions, names, hextensions, hnames, hmet⟩ := hdigestible cert hcert
      obtain ⟨found, hfound⟩ := (hloop names).mpr hmet
      exact ⟨found, bind_eq_ok.mpr ⟨_, altNames_eq_ok.mpr ⟨attributes, hattributes,
        Or.inl ⟨cert, extensions, hcert, hextensions, rfl⟩⟩,
          bind_eq_ok.mpr ⟨names, hnames, hfound⟩⟩⟩
    -- a certificate that is no dict has no names
    · exact ⟨Found.empty, bind_eq_ok.mpr ⟨.list [], altNames_eq_ok.mpr ⟨attributes, hattributes,
        Or.inr ⟨fun cert heq => hcert ⟨cert, heq⟩, rfl⟩⟩, rfl⟩⟩

/-! ### What is proposed -/

lemma addAddress_sound {found found' : Found} {rec : PyVal}
    (hfound : Sound found.entities found.relationships) (h : addAddress u found rec = .ok found') :
    Sound found'.entities found'.relationships := by
  have hattrs : ∀ rdtype, rdtype = .str "A" ∨ rdtype = .str "AAAA" →
      validateAttrs [("discovered_via", .str "virustotal"), ("rdtype", rdtype)] = .ok () := by
    rintro rdtype (rfl | rfl)
    · decide
    · decide
  have hconfidence : UnitRange (17 / 20) := ⟨by norm_num, by norm_num⟩
  rcases addAddress_ok h with rfl | ⟨value, rdtype, hvalue, hrdtype, rfl⟩
  · exact hfound
  · exact hfound.add hvalue (hattrs rdtype hrdtype) hconfidence rfl hconfidence

lemma addSubdomain_sound {found found' : Found} {rec : PyVal}
    (hfound : Sound found.entities found.relationships)
    (h : addSubdomain u domain found rec = .ok found') :
    Sound found'.entities found'.relationships := by
  have hattrs : validateAttrs [("discovered_via", .str "virustotal")] = .ok () := rfl
  have hconfidence : UnitRange (4 / 5) := ⟨by norm_num, by norm_num⟩
  rcases addSubdomain_ok h with rfl | ⟨name, hname, rfl⟩
  · exact hfound
  · exact hfound.add (lengthIn_of_domainRe hname) hattrs hconfidence rfl hconfidence

lemma addAltName_sound {found found' : Found} {name : PyVal}
    (hfound : Sound found.entities found.relationships) (h : addAltName u found name = .ok found') :
    Sound found'.entities found'.relationships := by
  have hattrs : validateAttrs [("discovered_via", .str "virustotal")] = .ok () := rfl
  have hconfidence : UnitRange (7 / 10) := ⟨by norm_num, by norm_num⟩
  rcases addAltName_ok h with rfl | ⟨name, hname, rfl⟩
  · exact hfound
  · exact hfound.add (lengthIn_of_domainRe hname) hattrs hconfidence rfl hconfidence

lemma extractDomain_sound {data : PyDict} {found : Found}
    (h : extractDomain u domain data = .ok found) : Sound found.entities found.relationships := by
  obtain ⟨value, -, h⟩ := bind_eq_ok.mp h
  obtain ⟨records, -, h⟩ := bind_eq_ok.mp h
  obtain ⟨between, hbetween, h⟩ := bind_eq_ok.mp h
  have hfirst := eachRecord_keeps (fun _ _ _ => addAddress_sound) Sound.nil hbetween
  exact eachRecord_keeps (fun _ _ _ => addSubdomain_sound) hfirst h

lemma extractIp_sound {data : PyDict} {found : Found} (h : extractIp u data = .ok found) :
    Sound found.entities found.relationships := by
  obtain ⟨value, -, h⟩ := bind_eq_ok.mp h
  obtain ⟨names, -, h⟩ := bind_eq_ok.mp h
  exact eachRecord_keeps (fun _ _ _ => addAltName_sound) Sound.nil h

lemma length_base64Url_le (bytes : List UInt8) : (base64Url bytes).length ≤ bytes.length * 2 := by
  fun_induction base64Url bytes with
  | case1 a b c bytes n ih =>
    simp only [List.length_cons]
    omega
  | case2 a b n => exact Nat.le_succ 3
  | case3 a => exact le_refl 2
  | case4 => exact le_refl 0

/-- The spec of a URL that is not too long is small. -/
lemma spec_valid (hclock : u.IsoClock) {url : List Char} (hurl : url.length ≤ 5000) {found : Found}
    (hcount : found.entityCount ≤ maxEntities) : validateAttrs (spec u url found) = .ok () := by
  have hlength := length_jsonString_le (String.ofList url)
  rw [String.length_ofList] at hlength
  have hcap : maxEntities = 50 := rfl
  have hflat : FlatEntries (spec u url found) [60002, 5, 386, 9, 5, 9] :=
    .cons (by decide) (by decide) (.str (by omega)) <|
      .cons (by decide) (by decide) (.str (by decide)) <|
        .cons (by decide) (by decide) hclock.leaf <|
          .cons (by decide) (by decide) (.count (by omega)) <|
            .cons (by decide) (by decide) (.bool found.truncated) <|
              .cons (by decide) (by decide) (.count (by decide)) .nil
  exact hflat.valid (List.cons_ne_nil _ _) (by decide)

lemma sources (u : Upstream) : (virusTotalPlugin u).Sources := by
  have hname : (virusTotalPlugin u).fullName = "virustotal" ++ "@" ++ "0.1.0" := rfl
  constructor
  · rw [hname]
    decide
  · rw [hname]
    decide

/-- The evidence of a lookup below the cap is accepted. -/
lemma resultOf_tolerated (hclock : u.IsoClock) {input : Entity} {raw : Bytes} {words : String}
    {subject url : List Char} {found : Found}
    (hsound : Sound found.entities found.relationships)
    (hcount : found.entityCount ≤ maxEntities) (hurl : url.length ≤ 5000)
    (hwords : 1 ≤ words.length ∧ words.length ≤ 512) (hsubject : subject.length ≤ 512) :
    Tolerated (virusTotalPlugin u) input raw (resultOf u words subject url raw found) :=
  (tolerated_validate_iff (sources u) hsound).mpr
    ⟨lengthIn_question hwords hsubject (le_refl 512), spec_valid hclock hurl hcount⟩

/-- **When `virustotal` tolerates an answer**. -/
theorem finish_tolerated_iff (hclock : u.IsoClock) {input : Entity} {raw : Bytes} {data : PyDict}
    (hlabel : LengthIn 512 input.label)
    (hdomain : EntityType.ofValue input.type = some .domain → domainRe (domainOf u input) = true) :
    Tolerated (virusTotalPlugin u) input raw (BYOKPlugin.finish u input .virustotal (raw, data)) ↔
      Digestible u (EntityType.ofValue input.type) data := by
  have hshort : (strip input.label.toList).length ≤ 512 := length_term_le hlabel
  have hbase : baseUrl.length = 33 := rfl
  have hdomains : "/domains/".toList.length = 9 := rfl
  have haddresses : "/ip_addresses/".toList.length = 14 := rfl
  have hurls : "/urls/".toList.length = 6 := rfl
  unfold BYOKPlugin.finish
  dsimp only
  split
  · rename_i htype
    have hname := (length_of_domainRe (hdomain htype)).2
    have hurl : (baseUrl ++ "/domains/".toList ++ domainOf u input).length ≤ 5000 := by
      simp only [List.length_append]
      omega
    have hreturns : (∃ found, extractDomain u (domainOf u input) data = .ok found) ↔ _ :=
      extractDomain_returns_iff
    have hdigestible : Digestible u (EntityType.ofValue input.type) data ↔ _ :=
      ⟨fun h => h.domain htype, fun h => ⟨fun _ => h, fun hip => (nomatch htype.symm.trans hip)⟩⟩
    rw [hdigestible, ← hreturns, tolerated_bind]
    refine exists_congr fun found => and_iff_left_of_imp fun hfound => ?_
    exact resultOf_tolerated hclock (extractDomain_sound hfound)
      (extractDomain_capped hfound).entities hurl (by decide) (hname.trans (by decide))
  · rename_i htype
    have hurl : (baseUrl ++ "/ip_addresses/".toList ++ strip input.label.toList).length
        ≤ 5000 := by
      simp only [List.length_append]
      omega
    have hdigestible : Digestible u (EntityType.ofValue input.type) data ↔ _ :=
      ⟨fun h => h.address htype,
        fun h => ⟨fun hname => (nomatch htype.symm.trans hname), fun _ => h⟩⟩
    rw [hdigestible, ← extractIp_returns_iff, tolerated_bind]
    refine exists_congr fun found => and_iff_left_of_imp fun hfound => ?_
    exact resultOf_tolerated hclock (extractIp_sound hfound) (extractIp_capped hfound).entities hurl
      (by decide) hshort
  · rename_i hnoDomain hnoAddress
    have hurl : (baseUrl ++ "/urls/".toList ++ base64Url (utf8 (strip input.label.toList))).length
        ≤ 5000 := by
      have hbytes := length_utf8_le (strip input.label.toList)
      have hencoded := length_base64Url_le (utf8 (strip input.label.toList))
      simp only [List.length_append]
      omega
    have hsubject : ((strip input.label.toList).take 120).length ≤ 512 :=
      (List.length_take_le _ _).trans (by decide)
    have htolerated : Tolerated (virusTotalPlugin u) input raw
        (resultOf u "VirusTotal URL analysis for " ((strip input.label.toList).take 120)
          (baseUrl ++ "/urls/".toList ++ base64Url (utf8 (strip input.label.toList))) raw
          Found.empty) :=
      resultOf_tolerated hclock Sound.nil (show 0 ≤ maxEntities from Nat.zero_le _) hurl
        (by decide) hsubject
    refine iff_of_true htolerated ⟨fun h => ?_, fun h => ?_⟩
    · exact (hnoDomain h).elim
    · exact (hnoAddress h).elim

end VirusTotal

/-! ## `shodan` -/

namespace Shodan

variable {u : Upstream} {ip : List Char}

/-- The lists of an answer that the spec quotes. -/
def quoted (data : PyDict) (services : List PyVal) : List PyVal :=
  [.list (listAt data "ports"), .list (listAt data "vulns"), .list (services.take 20)]

/-- The number of host names that are proposed. -/
def hostCount (u : Upstream) (data : PyDict) : ℕ :=
  min maxEntities (hostNames u (itemsOf data)).length

/-- The cap is reached before the last item. -/
def stopsEarly (u : Upstream) (data : PyDict) : Bool :=
  decide (maxEntities ≤ (hostNames u (itemsOf data).dropLast).length)

/-- The characters of the spec around the lists that it quotes. -/
def frameSize (u : Upstream) (ip : List Char) (data : PyDict) : ℕ :=
  144 + (jsonString (String.ofList (redactedUrl ip))).length + (jsonString u.now).length
    + (Nat.toDigits 10 (hostCount u data)).length + (if stopsEarly u data then 4 else 5)

/-- Lists that the spec can quote: identifiers for keys, no deep nesting and no more characters
than the spec leaves. -/
structure Quotable (frame : ℕ) (lists : List PyVal) : Prop where
  keys : ∀ v ∈ lists, ∀ k ∈ keysOf v, keyRe k.toList = true
  depth : ∀ v ∈ lists, height v < maxDepth
  size : ∃ n, HasSize (jsonItems lists) n ∧ frame + n ≤ maxBytes

/-- An answer that `shodan` tolerates: its services can be gone through, and the spec can quote
its lists. -/
def Digestible (u : Upstream) (ip : List Char) (data : PyDict) : Prop :=
  ∃ services, servicesSummary data = .ok services ∧
    Quotable (frameSize u ip data) (quoted data services)

lemma extract_counts {data : PyDict} {found : Found} (h : extract u data = .ok found) :
    found.entityCount = hostCount u data ∧ found.truncated = stopsEarly u data := by
  have hcapped := extract_capped_eq h
  have hnames : ∀ items, items.foldl (pickNew (hostName u)) [] = hostNames u items :=
    fun items => foldl_pickNew _ _ _
  have hempty : ([] : List (List Char)).length < maxEntities := by decide
  constructor
  · have hlabels := congrArg List.length (congrArg Prod.fst hcapped)
    rw [capped_fst (grows_pickNew _) hempty.le, hnames, List.length_take, proposed,
      List.length_map] at hlabels
    exact hlabels
  · have hflag : found.truncated = _ := congrArg Prod.snd hcapped
    rw [hflag, Bool.eq_iff_iff, capped_snd_dropLast (grows_pickNew _) hempty, hnames, stopsEarly,
      decide_eq_true_eq]

lemma addName_sound {confidence : ℚ} (hconfidence : UnitRange confidence) {found found' : Found}
    {name : PyVal} (hfound : Sound found.entities found.relationships)
    (h : addName u confidence found name = .ok found') :
    Sound found'.entities found'.relationships := by
  have hattrs : validateAttrs [("discovered_via", .str "shodan")] = .ok () := rfl
  rcases addName_ok h with rfl | ⟨name, hname, hentities, hrelationships⟩
  · exact hfound
  · rw [hentities, hrelationships]
    exact hfound.add (lengthIn_of_domainRe hname) hattrs hconfidence rfl hconfidence

lemma extract_sound {data : PyDict} {found : Found} (h : extract u data = .ok found) :
    Sound found.entities found.relationships := by
  have hhost : UnitRange (4 / 5) := ⟨by norm_num, by norm_num⟩
  have hdomain : UnitRange (7 / 10) := ⟨by norm_num, by norm_num⟩
  obtain ⟨between, hbetween, h⟩ := bind_eq_ok.mp h
  have hfirst := eachName_keeps (fun _ _ _ => addName_sound hhost) Sound.nil hbetween
  exact eachName_keeps (fun _ _ _ => addName_sound hdomain) hfirst h

/-- The spec is accepted just when its lists can be quoted. -/
lemma spec_valid_iff {data : PyDict} {found : Found} (hfound : extract u data = .ok found)
    {services : List PyVal} :
    validateAttrs (spec u ip data found services) = .ok () ↔
      Quotable (frameSize u ip data) (quoted data services) := by
  obtain ⟨hcount, hflag⟩ := extract_counts hfound
  have hcountText : jsonDumps (.int found.entityCount)
      = .ok (Nat.toDigits 10 (hostCount u data)) := by
    have hcap : hostCount u data ≤ 50 := Nat.min_le_left _ _
    have hdigits : (Nat.toDigits 10 (hostCount u data)).length ≤ 2 :=
      (Nat.length_toDigits_le_iff (by decide) (by decide)).mpr (by omega)
    have hdefined : StrIntDefined (hostCount u data) := by
      show (Nat.toDigits 10 (Int.natAbs (hostCount u data))).length ≤ 4300
      rw [Int.natAbs_natCast]
      omega
    rw [hcount, jsonDumps, if_pos hdefined, Readers.writeInt, if_neg (by omega),
      Int.natAbs_natCast]
  have hmaxText : jsonDumps (.int maxEntities) = .ok ['5', '0'] := by
    decide
  have hflagText : jsonDumps (.bool found.truncated)
      = .ok (if stopsEarly u data then "true".toList else "false".toList) := by
    rw [hflag, jsonDumps]
  have hkeys : (∀ k ∈ keysOf (.dict (spec u ip data found services)), keyRe k.toList = true) ↔
      ∀ v ∈ quoted data services, ∀ k ∈ keysOf v, keyRe k.toList = true := by
    have hnames : ∀ k ∈ (spec u ip data found services).map Prod.fst, keyRe k.toList = true := by
      simp only [spec, List.map_cons, List.map_nil]
      decide
    simp only [spec, List.map_cons, List.map_nil, List.forall_mem_cons] at hnames
    simp only [spec, quoted, keysOf, entryKeys, List.nil_append, List.append_nil,
      List.forall_mem_cons, List.forall_mem_append, hnames, true_and]
    simp
  have hheight : 0 + height (.dict (spec u ip data found services)) ≤ maxDepth ↔
      ∀ v ∈ quoted data services, height v < maxDepth := by
    have hdepth : maxDepth = 4 := rfl
    simp only [spec, quoted, height, entriesHeight, List.forall_mem_cons, List.not_mem_nil,
      false_implies, implies_true, and_true]
    omega
  have hsize : ∀ n, HasSize (jsonEntries (spec u ip data found services)) n ↔
      ∃ m, HasSize (jsonItems (quoted data services)) m ∧ n + 18 = frameSize u ip data + m := by
    intro n
    have htext : ∀ text, jsonDumps (.str text) = .ok (jsonString text) := fun _ => rfl
    have hget : (jsonString "GET").length = 5 := by decide
    have hmax : ['5', '0'].length = 2 := rfl
    have hflagLength : (if stopsEarly u data then "true".toList else "false".toList).length
        = if stopsEarly u data then 4 else 5 := by
      cases stopsEarly u data with
      | true => decide
      | false => decide
    have hnames : ((spec u ip data found services).map
        fun entry => (jsonString entry.1).length + 2).sum = 119 := by
      simp only [spec, List.map_cons, List.map_nil]
      decide
    rw [hasSize_jsonEntries, hnames]
    simp only [spec, List.map_cons, List.map_nil, hasSize_items_of (htext _),
      hasSize_items_of hcountText, hasSize_items_of hmaxText, hasSize_items_of hflagText, hget,
      hmax, hflagLength]
    unfold frameSize
    constructor
    · rintro ⟨_, ⟨_, ⟨_, ⟨_, ⟨_, ⟨_, ⟨m, hm, rfl⟩, rfl⟩, rfl⟩, rfl⟩, rfl⟩, rfl⟩, rfl⟩
      exact ⟨m, hm, by omega⟩
    · rintro ⟨m, hm, hn⟩
      exact ⟨_, ⟨_, ⟨_, ⟨_, ⟨_, ⟨_, ⟨m, hm, rfl⟩, rfl⟩, rfl⟩, rfl⟩, rfl⟩, rfl⟩, by omega⟩
  have hne : spec u ip data found services ≠ [] := List.cons_ne_nil _ _
  rw [validateAttrs_iff hne, (walk_decides 0 _).ok_iff]
  unfold Walks
  rw [hkeys, hheight]
  simp only [hsize]
  constructor
  · rintro ⟨⟨hkeys, hdepth⟩, n, ⟨m, hm, hframe⟩, hle⟩
    rw [show (spec u ip data found services).length = 9 from rfl] at hle
    exact ⟨hkeys, hdepth, m, hm, by omega⟩
  · rintro ⟨hkeys, hdepth, m, hm, hle⟩
    have hframe : 144 ≤ frameSize u ip data := by
      unfold frameSize
      omega
    refine ⟨⟨hkeys, hdepth⟩, frameSize u ip data + m - 18, ⟨m, hm, by omega⟩, ?_⟩
    rw [show (spec u ip data found services).length = 9 from rfl]
    omega

lemma sources (u : Upstream) : (shodanPlugin u).Sources := by
  have hname : (shodanPlugin u).fullName = "shodan" ++ "@" ++ "0.1.0" := rfl
  constructor
  · rw [hname]
    decide
  · rw [hname]
    decide

/-- **When `shodan` tolerates an answer**. -/
theorem resultOf_tolerated_iff {input : Entity} {raw : Bytes} {data : PyDict}
    (hip : ip.length ≤ 512) :
    Tolerated (shodanPlugin u) input raw (resultOf u ip raw data) ↔ Digestible u ip data := by
  obtain ⟨found, hfound⟩ := extract_returns u data
  have hquestion : LengthIn 1024 (String.ofList ("Shodan host lookup for ".toList ++ ip)) :=
    lengthIn_question (by decide) hip (le_refl 512)
  have hlast : ∀ services, Tolerated (shodanPlugin u) input raw
      (EvidenceProposal.validate ("Shodan host lookup for ".toList ++ ip) raw
        (spec u ip data found services) >>= fun evidence =>
          .ok ⟨found.entities, found.relationships, [evidence]⟩) ↔
      Quotable (frameSize u ip data) (quoted data services) := by
    intro services
    rw [tolerated_validate_iff (sources u) (extract_sound hfound), spec_valid_iff hfound]
    exact and_iff_right hquestion
  unfold resultOf Digestible
  rw [tolerated_bind]
  constructor
  · rintro ⟨found', hfound', h⟩
    obtain rfl := Except.ok.inj (hfound.symm.trans hfound')
    obtain ⟨services, hservices, h⟩ := tolerated_bind.mp h
    exact ⟨services, hservices, (hlast services).mp h⟩
  · rintro ⟨services, hservices, h⟩
    exact ⟨found, hfound, tolerated_bind.mpr ⟨services, hservices, (hlast services).mpr h⟩⟩

end Shodan

/-! ## The three plugins -/

/-- A plugin that takes its answers apart without a schema. -/
inductive Dissector where
  | crtsh | virustotal | shodan
deriving DecidableEq, Repr

namespace Dissector

def builtin : Dissector → Builtin
  | crtsh => .crtsh
  | virustotal => .virustotal
  | shodan => .shodan

/-- The JSON values that a plugin tolerates for an entity. -/
def Digestible (u : Upstream) (input : Entity) (parsed : Option PyVal) : Dissector → Prop
  | crtsh => CrtSh.Digestible u (CrtSh.domainOf u input) (listOrEmpty parsed)
  | virustotal => VirusTotal.Digestible u (EntityType.ofValue input.type) (dictOrEmpty parsed)
  | shodan => Shodan.Digestible u (strip input.label.toList) (dictOrEmpty parsed)

section Tolerance

variable {w : Surroundings} {input : Entity} {credentials : Option PyDict} {request : HttpRequest}
variable {answers : ℕ → Except Exc HttpResponse} {response : HttpResponse}

/-- A body that is read and parsed goes to the rest of the query. -/
lemma tolerated_reading_iff {plugin : OSINTPlugin} {tooLarge : Exc}
    (hcomplete : response.broken = none) (hstatus : response.status = 200)
    {finish : Bytes → Option PyVal → Except Exc QueryResult} :
    Tolerated plugin input response.body
        (readBody tooLarge w.upstream.client request response >>= fun raw =>
          parseBody w.upstream raw >>= fun parsed => finish raw parsed) ↔
      response.body.length ≤ maxResponseBytes ∧ ∃ parsed,
        parseBody w.upstream response.body = .ok parsed ∧
          Tolerated plugin input response.body (finish response.body parsed) := by
  have hsuccess : response.IsSuccess := by
    unfold HttpResponse.IsSuccess
    omega
  by_cases hover : maxResponseBytes < response.body.length
  · rw [readBody_over hsuccess hover]
    exact iff_of_false Tolerated.not_error fun h => by omega
  · have hwithin : response.body.length ≤ maxResponseBytes := by omega
    rw [readBody_within hcomplete hsuccess hwithin, and_iff_right hwithin]
    show Tolerated _ _ _ (parseBody w.upstream response.body >>= finish response.body) ↔ _
    exact tolerated_bind

/-- What is asked about a domain, `virustotal` has checked. -/
lemma virustotal_domain
    (hexchange : Builtin.virustotal.exchange w input credentials = some (request, answers))
    (htype : EntityType.ofValue input.type = some .domain) :
    domainRe (VirusTotal.domainOf w.upstream input) = true := by
  have hkeyed : Builtin.exchange.keyedExchange w input credentials .virustotal
      = some (request, answers) := hexchange
  unfold Builtin.exchange.keyedExchange at hkeyed
  split at hkeyed
  · obtain ⟨asked, hrequest, -⟩ := Option.map_eq_some_iff.mp hkeyed
    obtain ⟨url, hurl, -⟩ := Option.map_eq_some_iff.mp hrequest
    unfold BYOKPlugin.virusTotalUrl at hurl
    dsimp only at hurl
    rw [htype] at hurl
    dsimp only at hurl
    rw [← VirusTotal.domainOf] at hurl
    split at hurl
    · cases hurl
    · split at hurl
      · cases hurl
      · rename_i hasked
        rw [Bool.not_eq_true, Bool.not_eq_false'] at hasked
        exact hasked
  · cases hkeyed

/-- **When malformed JSON is tolerated**: the body is within the cap, `json.loads` raises nothing
but that it is no JSON, and the value is one that the plugin digests. -/
theorem tolerates_json_iff {b : Dissector} (hclock : w.upstream.IsoClock)
    (hparses : w.upstream.ParsesApart) (hlabel : LengthIn 512 input.label)
    (hexchange : b.builtin.exchange w input credentials = some (request, answers))
    (harrives : Arrives (b.builtin.gaveUp w) (b.builtin.reading w.upstream request) answers
      response) (hstatus : response.status = 200) :
    Tolerated (b.builtin.plugin w) input response.body
        ((b.builtin.plugin w).query input credentials) ↔
      response.body.length ≤ maxResponseBytes ∧ ∃ parsed,
        parseBody w.upstream response.body = .ok parsed ∧
          b.Digestible w.upstream input parsed := by
  have hcomplete := harrives.complete
  cases b with
  | crtsh =>
    have hstatus' : response.status ≠ 429 := by omega
    rw [show (crtsh.builtin.plugin w).query input credentials = _ from
      crtsh_query_eq hparses hexchange harrives]
    unfold Builtin.reading
    dsimp only
    rw [if_neg hstatus', readResponse_eq_readBody, tolerated_reading_iff hcomplete hstatus]
    refine and_congr_right fun _ => exists_congr fun parsed => and_congr_right fun _ => ?_
    exact CrtSh.finish_tolerated_iff hclock
  | virustotal =>
    have hdomain := fun htype => virustotal_domain hexchange htype
    have hrest : ∀ raw, BYOKPlugin.virustotal.parse w.upstream response raw >>=
        BYOKPlugin.virustotal.finish w.upstream input
          = parseBody w.upstream raw >>= fun parsed =>
            BYOKPlugin.virustotal.finish w.upstream input (raw, dictOrEmpty parsed) :=
      fun raw => bind_assoc _ _ _
    rw [show (virustotal.builtin.plugin w).query input credentials = _ from
      keyed_query_eq hparses hexchange harrives]
    simp only [hrest]
    rw [show BYOKPlugin.virustotal.builtin.reading w.upstream request response = _
      from readResponse_eq_readBody "VirusTotal" _ _ _, tolerated_reading_iff hcomplete hstatus]
    refine and_congr_right fun _ => exists_congr fun parsed => and_congr_right fun _ => ?_
    exact VirusTotal.finish_tolerated_iff hclock hlabel hdomain
  | shodan =>
    have hrest : ∀ raw, BYOKPlugin.shodan.parse w.upstream response raw >>=
        BYOKPlugin.shodan.finish w.upstream input
          = parseBody w.upstream raw >>= fun parsed =>
            BYOKPlugin.shodan.finish w.upstream input (raw, dictOrEmpty parsed) :=
      fun raw => bind_assoc _ _ _
    rw [show (shodan.builtin.plugin w).query input credentials = _ from
      keyed_query_eq hparses hexchange harrives]
    simp only [hrest]
    rw [show BYOKPlugin.shodan.builtin.reading w.upstream request response = _
      from readResponse_eq_readBody "Shodan" _ _ _, tolerated_reading_iff hcomplete hstatus]
    refine and_congr_right fun _ => exists_congr fun parsed => and_congr_right fun _ => ?_
    exact Shodan.resultOf_tolerated_iff (length_term_le hlabel)

end Tolerance

/-! ### Entries of other types -/

/-- Every request is answered 200 with the body, which is parsed to the value. -/
def serving (body : Bytes) (data : PyVal) : Surroundings where
  upstream := replying body data
  resolver := ⟨fun _ _ => .ok [], fun _ => .ok []⟩
  post := fun _ _ _ => .ok { status := 200, chunks := [body] }
  py := plainInterp

lemma serving_exchange (body : Bytes) (data : PyVal) :
    Builtin.crtsh.exchange (serving body data) exampleDomain none
      = some (CrtSh.requestOf exampleCom, fun n =>
        (serving body data).upstream.client.send n (CrtSh.requestOf exampleCom)) := by
  have hdomain : CrtSh.domainOf (serving body data).upstream exampleDomain = exampleCom := by
    show CrtSh.domainOf (answering [] []) exampleDomain = exampleCom
    decide
  unfold Builtin.exchange
  rw [hdomain]
  rfl

/-- The first response arrives. -/
lemma serving_arrives {body : Bytes} (data : PyVal) (hbody : body.length ≤ maxResponseBytes) :
    Arrives (Builtin.crtsh.gaveUp (serving body data))
      (Builtin.crtsh.reading (serving body data).upstream (CrtSh.requestOf exampleCom))
      (fun n => (serving body data).upstream.client.send n (CrtSh.requestOf exampleCom))
      { status := 200, chunks := [body] } where
  complete := rfl
  answered := by
    refine ⟨1, le_refl 1, by decide, HttpClient.send_accepted (by decide +kernel),
      fun m hm hlt => by omega, Or.inr (Or.inr ?_)⟩
    intro e he
    have hread : Builtin.crtsh.reading (serving body data).upstream (CrtSh.requestOf exampleCom)
        { status := 200, chunks := [body] } = .ok body := by
      unfold Builtin.reading
      exact readResponse_one hbody
    rw [hread] at he
    cases he

lemma serving_clock (body : Bytes) (data : PyVal) : (serving body data).upstream.IsoClock := by
  show "2026-01-01T00:00:00+00:00".length ≤ 32
  decide

lemma serving_loads (body : Bytes) (data : PyVal) :
    (serving body data).upstream.loads body = .ok data := if_pos rfl

/-- A dict without names, and one whose name is a number. -/
def namelessBody : Bytes := utf8 "[\x7b\x7d, \x7b\"name_value\": 5\x7d]".toList

def nameless : PyVal := .list [.dict [], .dict [("name_value", .int 5)]]

theorem tolerates_json_iff_nameless :
    Tolerated (crtsh.builtin.plugin (serving namelessBody nameless)) exampleDomain namelessBody
      ((crtsh.builtin.plugin (serving namelessBody nameless)).query exampleDomain none) := by
  have hbody : namelessBody.length ≤ maxResponseBytes := by decide
  have hwhole : [namelessBody].flatten = namelessBody := List.append_nil _
  have hparsed : parseBody (serving namelessBody nameless).upstream namelessBody
      = .ok (some nameless) := by
    rw [parseBody, serving_loads]
  have hnames : CrtSh.distinctNames (serving namelessBody nameless).upstream exampleCom
      [.dict [], .dict [("name_value", .int 5)]] = [] := rfl
  have hdigestible : CrtSh.Digestible (serving namelessBody nameless).upstream exampleCom
      [.dict [], .dict [("name_value", .int 5)]] := by
    refine ⟨Or.inr rfl, ?_, by decide⟩
    rw [hnames]
    exact fun _ hname => absurd hname List.not_mem_nil
  have hiff := tolerates_json_iff (b := crtsh) (serving_clock _ _) (replying_parsesApart _ _)
    (by decide) (serving_exchange _ _) (serving_arrives nameless hbody) rfl
  rw [show HttpResponse.body { status := 200, chunks := [namelessBody] } = namelessBody
    from hwhole] at hiff
  exact hiff.mpr ⟨hbody, some nameless, hparsed, hdigestible⟩

/-- A list with an entry that is no dict. -/
def nullBody : Bytes := utf8 "[null]".toList

/-- `None` has no `get`. -/
theorem json_not_tolerated :
    ¬ ∀ (w : Surroundings) (b : Dissector) (input : Entity) (credentials : Option PyDict)
      (request : HttpRequest) (answers : ℕ → Except Exc HttpResponse) (response : HttpResponse)
      (data : PyVal), w.upstream.IsoClock → w.upstream.ParsesApart → LengthIn 512 input.label →
      b.builtin.exchange w input credentials = some (request, answers) →
      Arrives (b.builtin.gaveUp w) (b.builtin.reading w.upstream request) answers response →
      response.status = 200 → w.upstream.loads response.body = .ok data →
        Tolerated (b.builtin.plugin w) input response.body
          ((b.builtin.plugin w).query input credentials) := by
  intro h
  have hbody : nullBody.length ≤ maxResponseBytes := by decide
  have hraises : ((crtsh.builtin.plugin (serving nullBody (.list [.none]))).query exampleDomain
      none).isOk = false := by
    decide
  have hwhole : [nullBody].flatten = nullBody := List.append_nil _
  obtain ⟨result, -, hresult, -⟩ := h (serving nullBody (.list [.none])) crtsh exampleDomain none
    _ _ _ (.list [.none]) (serving_clock _ _) (replying_parsesApart _ _) (by decide)
    (serving_exchange _ _) (serving_arrives _ hbody) rfl
    ((congrArg _ hwhole).trans (serving_loads _ _))
  rw [hresult] at hraises
  cases hraises

end Dissector

end Sleuthgraph
