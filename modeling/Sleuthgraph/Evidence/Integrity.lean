import Sleuthgraph.Evidence.Repository

/-!
# The integrity sweep (`evidence/integrity.py`)

`sweep_all` verifies the rows of all cases, the oldest first. A blob that is altered gives a
mismatch; for one that is missing `storage.get` raises, and nothing catches that. So the sweep
reports just the anomalies if no blob is missing, and nothing at all if one is.
-/

namespace Sleuthgraph

open Listings Tables

/-- What a database may do for `ORDER BY timestamp ASC`. -/
abbrev OldestFirst : Type := NewestFirst fun ev : Evidence => OrderDual.toDual ev.timestamp

/-- The loop of `sweep_all` over the records. -/
def sweepRecords (b : Bucket) : List Evidence → Except Exc (List HashMismatch)
  | [] => .ok []
  | ev :: records => do
    let mismatch ← verifySingle ev b
    let mismatches ← sweepRecords b records
    .ok (mismatch.toList ++ mismatches)

/-- `sweep_all` -/
def sweepAll (order : OldestFirst) (st : Store) (b : Bucket) : Except Exc (List HashMismatch) :=
  sweepRecords b (order.arrange st.evidence.rows)

/-! ## Anomalies -/

/-- The bucket has no blob for the row. -/
def Evidence.missing (b : Bucket) (ev : Evidence) : Bool := (b.lookup ev.responseUri).isNone

/-- The blob of the row is missing, or its hash is another. -/
def Evidence.anomalous (b : Bucket) (ev : Evidence) : Bool :=
  match b.lookup ev.responseUri with
  | some blob => hashBytes blob.body != ev.responseHash
  | none => true

/-- The rows that are reported are the anomalies, each once. -/
def ReportsAnomalies (st : Store) (b : Bucket) (report : List HashMismatch) : Prop :=
  (report.map fun m => (m.evId, m.caseId)).Perm
    ((st.evidence.rows.filter (Evidence.anomalous b)).map fun ev => (ev.id, ev.caseId))

section Sweep

variable {b : Bucket} {ev : Evidence} {records : List Evidence} {report : List HashMismatch}

lemma verifySingle_of_missing (h : ev.missing b = true) :
    verifySingle ev b = .error Exc.clientError := by
  have hget : EvidenceStorage.get ev.responseUri b = .error Exc.clientError := by
    rw [EvidenceStorage.get, Option.isNone_iff_eq_none.mp h]
  rw [verifySingle, hget]
  rfl

/-- A row whose blob is there is reported if its hash is another. -/
lemma verifySingle_of_present (h : ev.missing b = false) :
    ∃ mismatch, verifySingle ev b = .ok mismatch ∧
      mismatch.toList.map (fun m => (m.evId, m.caseId))
        = ([ev].filter (Evidence.anomalous b)).map fun ev => (ev.id, ev.caseId) := by
  cases hlookup : b.lookup ev.responseUri with
  | none =>
    rw [Evidence.missing, hlookup] at h
    cases h
  | some blob =>
    have hget : EvidenceStorage.get ev.responseUri b = .ok blob.body := by
      rw [EvidenceStorage.get, hlookup]
    have hanomalous : Evidence.anomalous b ev = (hashBytes blob.body != ev.responseHash) := by
      rw [Evidence.anomalous, hlookup]
    rw [verifySingle, hget, List.filter_singleton, hanomalous]
    by_cases hhash : hashBytes blob.body = ev.responseHash
    · refine ⟨none, if_neg (not_not_intro hhash), ?_⟩
      rw [hhash, bne_self_eq_false]
      rfl
    · refine ⟨_, if_pos hhash, ?_⟩
      rw [bne_iff_ne.mpr hhash]
      rfl

/-- The loop reports the anomalies in the order of the records, if no blob is missing. -/
lemma sweepRecords_report (h : ∀ ev ∈ records, ev.missing b = false) :
    ∃ report, sweepRecords b records = .ok report ∧
      report.map (fun m => (m.evId, m.caseId))
        = (records.filter (Evidence.anomalous b)).map fun ev => (ev.id, ev.caseId) := by
  induction records with
  | nil => exact ⟨[], rfl, rfl⟩
  | cons ev records ih =>
    obtain ⟨hev, hrecords⟩ := List.forall_mem_cons.mp h
    obtain ⟨mismatch, hverify, hreport⟩ := verifySingle_of_present hev
    obtain ⟨mismatches, hsweep, hreports⟩ := ih hrecords
    refine ⟨mismatch.toList ++ mismatches, ?_, ?_⟩
    · rw [sweepRecords, hverify]
      show (sweepRecords b records >>= _) = _
      rw [hsweep]
      rfl
    · rw [List.map_append, hreport, hreports, ← List.map_append, ← List.filter_append,
        List.singleton_append]

/-- A loop that returns has met no missing blob. -/
lemma present_of_sweepRecords (h : sweepRecords b records = .ok report) :
    ∀ ev ∈ records, ev.missing b = false := by
  induction records generalizing report with
  | nil => exact fun _ hev => absurd hev List.not_mem_nil
  | cons ev records ih =>
    obtain ⟨mismatch, hverify, hrest⟩ := bind_eq_ok.mp h
    obtain ⟨mismatches, hsweep, -⟩ := bind_eq_ok.mp hrest
    refine List.forall_mem_cons.mpr ⟨eq_false_of_ne_true fun hmissing => ?_, ih hsweep⟩
    rw [verifySingle_of_missing hmissing] at hverify
    cases hverify

end Sweep

/-- **The sweep reports every anomaly if no blob is missing**, and returns in no other case. -/
theorem sweepAll_reports_iff (order : OldestFirst) (st : Store) (b : Bucket) :
    (∃ report, sweepAll order st b = .ok report ∧ ReportsAnomalies st b report) ↔
      ∀ ev ∈ st.evidence.rows, ev.missing b = false := by
  constructor
  · intro ⟨report, hsweep, _⟩ ev hev
    exact present_of_sweepRecords hsweep ev (order.mem_arrange.mpr hev)
  · intro hpresent
    obtain ⟨report, hsweep, hreport⟩ := sweepRecords_report (b := b)
      fun ev hev => hpresent ev (order.mem_arrange.mp hev)
    refine ⟨report, hsweep, ?_⟩
    unfold ReportsAnomalies
    rw [hreport]
    exact ((order.perm st.evidence.rows).filter _).map _

/-! ### A blob that is gone -/

/-- Two rows of the ledger, the first of which names a blob that is not in the bucket. -/
def sweptStore : Store :=
  let row (id : UUID) (uri : String) (t : Time) : Evidence :=
    { id, caseId := 0, entityId := none, sourcePlugin := "crtsh@0.1.0", query := "q"
      responseHash := "", responseUri := uri, responseBytes := 0, responseContentType := none
      timestamp := t, reproducibilitySpec := [], createdBy := none }
  { Store.empty with evidence := ⟨[row 1 "gone" 0, row 2 "altered" 1], by decide⟩ }

/-- The sweep raises at the first row, and the altered blob of the second is never looked at. -/
theorem sweepAll_stops :
    ¬ ∀ (order : OldestFirst) (st : Store) (b : Bucket),
      ∃ report, sweepAll order st b = .ok report ∧ ReportsAnomalies st b report := by
  intro h
  obtain ⟨report, hsweep, -⟩ := h default sweptStore [("altered", ⟨[], "text/plain"⟩)]
  obtain ⟨ev, hev, hgone⟩ : ∃ ev ∈ sweptStore.evidence.rows,
      ev.missing [("altered", ⟨[], "text/plain"⟩)] = true := ⟨_, List.mem_cons_self, rfl⟩
  have hpresent := present_of_sweepRecords hsweep ev (NewestFirst.mem_arrange _ |>.mpr hev)
  rw [hpresent] at hgone
  cases hgone

end Sleuthgraph
