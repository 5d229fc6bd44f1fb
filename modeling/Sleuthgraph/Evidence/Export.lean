import Sleuthgraph.Datetime
import Sleuthgraph.Evidence.LedgerTheorems
import Sleuthgraph.Lib.Csv

/-!
# The export of a ledger (`evidence/export.py`)

A ledger is handed over as JSON or as CSV. In the CSV a text that a spreadsheet would run as a
formula gets a quote in front; the other cells need none.
-/

namespace Sleuthgraph

/-! ## `json.dumps(..., sort_keys=True, separators=(",", ":"))` -/

mutual

/-- The text of a value that `_validate_attrs` has dumped before. -/
def sortedDumps : PyVal → List Char
  | .none => "null".toList
  | .bool b => if b then "true".toList else "false".toList
  | .int i => Readers.writeInt i
  | .float repr => jsonFloat repr
  | .str s => jsonString s
  | .list items => '[' :: [','].intercalate (sortedItems items) ++ [']']
  | .dict items =>
    '{' :: [','].intercalate
      (((sortedEntries items).mergeSort fun a b => a.1 ≤ b.1).map fun (k, text) =>
        jsonString k ++ ':' :: text) ++ ['}']
  -- no JSON column holds an object
  | .obj _ => []

/-- `sortedDumps` of the items of a list. -/
def sortedItems : List PyVal → List (List Char)
  | [] => []
  | v :: items => sortedDumps v :: sortedItems items

/-- `sortedDumps` of the values of a dict. -/
def sortedEntries : PyDict → List (String × List Char)
  | [] => []
  | (k, v) :: items => (k, sortedDumps v) :: sortedEntries items

end

mutual

/-- A value with its keys in order, at every depth. -/
def sortKeys : PyVal → PyVal
  | .list items => .list (sortKeysItems items)
  | .dict items => .dict ((sortKeysEntries items).mergeSort fun a b => a.1 ≤ b.1)
  | v => v

/-- `sortKeys` along a list. -/
def sortKeysItems : List PyVal → List PyVal
  | [] => []
  | v :: items => sortKeys v :: sortKeysItems items

/-- `sortKeys` for the values of a dict. -/
def sortKeysEntries : PyDict → PyDict
  | [] => []
  | (k, v) :: items => (k, sortKeys v) :: sortKeysEntries items

end

/-! ## Cells -/

/-- `_FORMULA_PREFIXES` -/
def formulaPrefixes : List Char := ['=', '+', '-', '@']

/-- `s.startswith(_FORMULA_PREFIXES)` -/
def startsFormula (s : List Char) : Bool := s.head?.any formulaPrefixes.contains

/-- `_csv_safe` -/
def csvSafe (s : List Char) : List Char := if startsFormula s then '\x27' :: s else s

/-- `CSV_COLUMNS` -/
def csvColumns : List (List Char) :=
  ["id", "timestamp", "source_plugin", "query", "response_hash", "response_bytes",
    "response_content_type", "entity_id", "reproducibility_spec"].map String.toList

/-- The cells of a row. -/
def csvRow (ev : Evidence) : List (List Char) :=
  [uuidText ev.id,
    isoformat "+00:00".toList ev.timestamp,
    csvSafe ev.sourcePlugin.toList,
    csvSafe ev.query.toList,
    ev.responseHash.toList,
    Nat.toDigits 10 ev.responseBytes,
    csvSafe (ev.responseContentType.getD "").toList,
    (ev.entityId.map uuidText).getD [],
    csvSafe (sortedDumps (.dict ev.reproducibilitySpec))]

/-- `str(id)`, or null. -/
def idOrNull (id : Option UUID) : PyVal :=
  (id.map fun id => PyVal.str (String.ofList (uuidText id))).getD .none

/-- `EvidenceRead.model_validate(e).model_dump(mode="json")` -/
def jsonItem (ev : Evidence) : PyDict :=
  [("id", .str (String.ofList (uuidText ev.id))),
    ("case_id", .str (String.ofList (uuidText ev.caseId))),
    ("entity_id", idOrNull ev.entityId),
    ("source_plugin", .str ev.sourcePlugin),
    ("query", .str ev.query),
    ("response_hash", .str ev.responseHash),
    ("response_uri", .str ev.responseUri),
    ("response_bytes", .int ev.responseBytes),
    ("response_content_type", (ev.responseContentType.map PyVal.str).getD .none),
    ("timestamp", .str (String.ofList (isoformat ['Z'] ev.timestamp))),
    ("reproducibility_spec", .dict ev.reproducibilitySpec),
    ("created_by", idOrNull ev.createdBy),
    ("blob_url", .none)]

/-- What the response of an export holds. -/
inductive LedgerExport where
  | json (payload : PyDict)
  | csv (filename text : List Char)

/-- What the `csv.writer` has written in the end. -/
def csvText (items : List Evidence) : List Char := Csv.write (csvColumns :: items.map csvRow)

/-- The response for the rows of a case. -/
def LedgerExport.of (csv : Bool) (caseId : UUID) (exportedAt : Time) (items : List Evidence) :
    LedgerExport :=
  if csv then
    .csv ("case-".toList ++ uuidText caseId ++ "-evidence.csv".toList) (csvText items)
  else
    .json [("case_id", .str (String.ofList (uuidText caseId))),
      ("exported_at", .str (String.ofList (isoformat "+00:00".toList exportedAt))),
      ("items", .list (items.map fun ev => .dict (jsonItem ev)))]

/-! ## No cell is a formula -/

lemma startsFormula_csvSafe (s : List Char) : startsFormula (csvSafe s) = false := by
  unfold csvSafe
  split
  · rfl
  · simp_all

/-- A cell that gets no quote. -/
lemma csvSafe_of_plain {s : List Char} (h : startsFormula s = false) : csvSafe s = s := by
  rw [csvSafe, if_neg (Bool.eq_false_iff.mp h)]

lemma startsFormula_digit : ∀ d < 16, ∀ s, startsFormula (Nat.digitChar d :: s) = false := by
  intro d hd s
  have hdigit : ∀ d < 16, formulaPrefixes.contains (Nat.digitChar d) = false := by decide
  exact hdigit d hd

lemma startsFormula_uuidText (id : UUID) : startsFormula (uuidText id) = false :=
  startsFormula_digit _ (Nat.mod_lt _ (by decide)) _

/-- A digit or a letter begins no formula. -/
lemma not_formulaPrefix {c : Char} (h : (c.isDigit || c.isLower) = true) :
    formulaPrefixes.contains c = false := by
  refine Bool.eq_false_iff.mpr fun hmem => ?_
  have hmem' : c = '=' ∨ c = '+' ∨ c = '-' ∨ c = '@' := by
    simpa [formulaPrefixes] using hmem
  rcases hmem' with rfl | rfl | rfl | rfl <;> cases h

lemma startsFormula_toDigits (n : ℕ) : startsFormula (Nat.toDigits 10 n) = false := by
  obtain ⟨d, ds, hd, hdig⟩ := Readers.exists_toDigits_eq_cons n
  rw [hd]
  exact not_formulaPrefix (by rw [hdig, Bool.true_or])

/-- A name of a plugin begins with a letter. -/
lemma startsFormula_sourcePlugin {s : List Char} (h : sourcePluginRe s = true) :
    startsFormula s = false := by
  have hfull : ∀ s, fullSourcePlugin s = true → ∃ c t, s = c :: t ∧ c.isLower = true := by
    intro s h
    cases s with
    | nil => cases h
    | cons c t =>
      unfold fullSourcePlugin at h
      by_cases hc : c = '@'
      · rw [List.takeWhile_cons_of_neg (by simpa using hc)] at h
        cases h
      · rw [List.takeWhile_cons_of_pos (by simpa using hc)] at h
        simp only [Bool.and_eq_true] at h
        exact ⟨c, t, rfl, h.1.1.1⟩
  obtain ⟨c, t, hs, hlower⟩ : ∃ c t, s = c :: t ∧ c.isLower = true := by
    unfold sourcePluginRe at h
    rw [Bool.or_eq_true, Bool.and_eq_true] at h
    rcases h with h | ⟨-, h⟩
    · exact hfull s h
    · obtain ⟨c, t, hs, hlower⟩ := hfull _ h
      cases s with
      | nil => cases hs
      | cons c' s =>
        cases s with
        | nil => cases hs
        | cons d s =>
          cases hs
          exact ⟨c, d :: s, rfl, hlower⟩
  rw [hs]
  exact not_formulaPrefix (by rw [hlower, Bool.or_true])

/-- A row as `create` makes it. -/
def MadeByCreate (ev : Evidence) : Prop :=
  ∃ x caseId createdBy data payload contentType,
    ev = EvidenceRepository.newEvidence x caseId createdBy data payload contentType

section Made

variable {ev ev' : Evidence}

lemma startsFormula_isoformat (offset : List Char) (t : Time) :
    startsFormula (isoformat offset t) = false := by
  obtain ⟨d, hd, s, hs⟩ := isoformat_head offset t
  rw [hs]
  exact startsFormula_digit d (by omega) s

lemma startsFormula_hash (data : Bytes) : startsFormula (hashBytes data).toList = false := by
  rw [hashBytes, String.toList_ofList]
  cases Sha256.digest data with
  | nil => rfl
  | cons w words => exact startsFormula_digit _ (Nat.mod_lt _ (by decide)) _

/-- **No cell is a formula.** -/
lemma startsFormula_csvRow (h : MadeByCreate ev) :
    ∀ cell ∈ csvRow ev, startsFormula cell = false := by
  obtain ⟨x, caseId, createdBy, data, payload, contentType, rfl⟩ := h
  intro cell hcell
  simp only [csvRow, List.mem_cons, List.not_mem_nil, or_false] at hcell
  rcases hcell with rfl | rfl | rfl | rfl | rfl | rfl | rfl | rfl | rfl
  · exact startsFormula_uuidText _
  · exact startsFormula_isoformat _ _
  · exact startsFormula_csvSafe _
  · exact startsFormula_csvSafe _
  · exact startsFormula_hash payload
  · exact startsFormula_toDigits _
  · exact startsFormula_csvSafe _
  · cases (EvidenceRepository.newEvidence x caseId createdBy data payload contentType).entityId with
    | none => rfl
    | some id => exact startsFormula_uuidText id
  · exact startsFormula_csvSafe _

end Made

/-! ## What the cells say -/

/-- A quote before what may be a formula: it is one of the text, or the one put in front. -/
def quotedFormula (cell : List Char) : Bool :=
  cell.head? = some '\x27' && startsFormula cell.tail

/-- A text is read off its cell, unless that begins with such a quote. -/
lemma csvSafe_inj {s t : List Char} (h : csvSafe s = csvSafe t)
    (hcell : quotedFormula (csvSafe s) = false) : s = t := by
  have hplain : ∀ {u : List Char}, quotedFormula (csvSafe u) = false → csvSafe u = u := by
    intro u hu
    refine csvSafe_of_plain (Bool.eq_false_iff.mpr fun hformula => ?_)
    rw [csvSafe, if_pos hformula, quotedFormula, List.tail_cons, hformula] at hu
    cases hu
  rw [← hplain hcell, h, hplain (h ▸ hcell)]

/-- The columns of a row that are read off its cells: a query or a content type only if its cell
does not begin with a quote before what may be a formula. -/
structure SameColumns (ev ev' : Evidence) : Prop where
  id : ev.id = ev'.id
  timestamp : ev.timestamp = ev'.timestamp
  sourcePlugin : ev.sourcePlugin = ev'.sourcePlugin
  query : quotedFormula (csvSafe ev.query.toList) = false → ev.query = ev'.query
  responseHash : ev.responseHash = ev'.responseHash
  responseBytes : ev.responseBytes = ev'.responseBytes
  responseContentType :
    quotedFormula (csvSafe (ev.responseContentType.getD "").toList) = false →
      ev.responseContentType = ev'.responseContentType
  entityId : ev.entityId = ev'.entityId
  reproducibilitySpec : sortKeys (.dict ev.reproducibilitySpec)
    = sortKeys (.dict ev'.reproducibilitySpec)

/-- The specs are dumped without loss, but for the order of keys. -/
def DumpsInjective (items items' : List Evidence) : Prop :=
  ∀ ev ∈ items, ∀ ev' ∈ items',
    sortedDumps (.dict ev.reproducibilitySpec) = sortedDumps (.dict ev'.reproducibilitySpec) →
      sortKeys (.dict ev.reproducibilitySpec) = sortKeys (.dict ev'.reproducibilitySpec)

lemma toDigits_inj {n m : ℕ} (h : Nat.toDigits 10 n = Nat.toDigits 10 m) : n = m := by
  rw [← Nat.ofDigitChars_ten_toDigits (n := n), h, Nat.ofDigitChars_ten_toDigits]

lemma idCell_inj {id id' : Option UUID}
    (h : (id.map uuidText).getD [] = (id'.map uuidText).getD []) : id = id' := by
  have hlength := congrArg List.length h
  cases id with
  | none =>
    cases id' with
    | none => rfl
    | some id' => simp at hlength
  | some id =>
    cases id' with
    | none => simp at hlength
    | some id' => rw [uuidText_injective h]

lemma startsFormula_dumps (spec : PyDict) : startsFormula (sortedDumps (.dict spec)) = false := by
  rw [sortedDumps]
  rfl

/-- **The columns are read off the cells.** -/
lemma csvRow_inj {ev ev' : Evidence} (hmade : MadeByCreate ev) (hmade' : MadeByCreate ev')
    (hdate : IsDatetime ev.timestamp) (hdate' : IsDatetime ev'.timestamp)
    (hdumps : sortedDumps (.dict ev.reproducibilitySpec)
        = sortedDumps (.dict ev'.reproducibilitySpec) →
      sortKeys (.dict ev.reproducibilitySpec) = sortKeys (.dict ev'.reproducibilitySpec))
    (h : csvRow ev = csvRow ev') : SameColumns ev ev' := by
  simp only [csvRow, List.cons.injEq, and_true] at h
  obtain ⟨hid, htime, hplugin, hquery, hhash, hbytes, htype, hentity, hspec⟩ := h
  obtain ⟨x, caseId, createdBy, data, payload, contentType, rfl⟩ := hmade
  obtain ⟨x', caseId', createdBy', data', payload', contentType', rfl⟩ := hmade'
  refine ⟨uuidText_injective hid, isoformat_inj hdate hdate' htime, ?_, fun hcell => ?_,
    String.toList_inj.mp hhash, toDigits_inj hbytes, fun hcell => ?_, idCell_inj hentity, ?_⟩
  · have hplain : startsFormula data.sourcePlugin.toList = false :=
      startsFormula_sourcePlugin data.sourcePlugin_valid.2
    have hplain' : startsFormula data'.sourcePlugin.toList = false :=
      startsFormula_sourcePlugin data'.sourcePlugin_valid.2
    refine String.toList_inj.mp ?_
    calc data.sourcePlugin.toList
      _ = csvSafe data.sourcePlugin.toList := (csvSafe_of_plain hplain).symm
      _ = csvSafe data'.sourcePlugin.toList := hplugin
      _ = data'.sourcePlugin.toList := csvSafe_of_plain hplain'
  · exact String.toList_inj.mp (csvSafe_inj hquery hcell)
  · have htext := String.toList_inj.mp (csvSafe_inj htype hcell)
    exact congrArg some htext
  · rw [csvSafe_of_plain (startsFormula_dumps _), csvSafe_of_plain (startsFormula_dumps _)] at hspec
    exact hdumps hspec

end Sleuthgraph
