import Sleuthgraph.Api.Routes
import Sleuthgraph.Evidence.Export
import Sleuthgraph.Plugins.RunnerTheorems

/-!
# What an export says of its ledger (`evidence/export.py`)

The export shows the newest rows of the ledger, up to its bound, each once in either format, and
the columns are read off the CSV. What is lost is told apart: rows beyond the bound, and whether a
quote before a formula is part of the text.
-/

namespace Sleuthgraph

open Programs Transactions Tables Listings

/-! ## Rows that were made by `create` -/

/-- Every row of evidence was made by `create`. -/
def AllMade (st : Store) (_ : Bucket) : Prop := ∀ ev ∈ st.evidence, MadeByCreate ev

/-- `create` leaves rows as it makes them, whatever fails. -/
lemma create_keeps_made (x : Ext) (p : PutExt) (caseId : UUID) (createdBy : Option UUID)
    (data : EvidenceCreate) (payload : Bytes) (contentType : Option String) (doCommit : Bool) :
    Prog.Triple (Holds AllMade AllMade)
      (EvidenceRepository.create x p caseId createdBy data payload contentType doCommit)
      (fun _ => Holds AllMade AllMade) fun _ => Holds AllMade AllMade := by
  have hflush : Prog.Triple (Holds AllMade AllMade)
      (write x.flush (.insertEvidence (EvidenceRepository.newEvidence x caseId createdBy data
        payload contentType)) : Db Bucket Unit) (fun _ => Holds AllMade AllMade)
      fun _ => Stuck AllMade := by
    refine Holds.write x.flush _ fun st _ hst haccepts ev hev => ?_
    rcases (Table.mem_insert (accepts_insertEvidence haccepts)).mp hev with hev | rfl
    · exact hst ev hev
    · exact ⟨x, caseId, createdBy, data, payload, contentType, rfl⟩
  refine (hflush.post (fun _ _ h => h) fun _ _ h => h.of_stuck).bind fun _ => ?_
  have hupload : Prog.Triple (Holds AllMade AllMade)
      (external (EvidenceStorage.put p
        (EvidenceRepository.newEvidence x caseId createdBy data payload contentType).responseUri
        payload (EvidenceRepository.contentTypeFinal contentType)) : Db Bucket Unit)
      (fun _ => Holds AllMade AllMade) fun _ => Holds AllMade AllMade :=
    Holds.external _ (fun _ _ h => h) (fun _ _ _ h _ => h) fun _ _ _ h _ => h
  have hbody := hupload.bind fun _ => commitIf_triple doCommit x.commit fun _ _ h => h
  exact (Holds.rollingBack hbody).bind fun _ =>
    (refreshIf_triple doCommit x.refresh).bind fun _ => Prog.Triple.pure fun _ h => h

/-- Every ledger that the repository commits. -/
lemma run_made (start : EmptyLedger) (steps : List LedgerStep) :
    ∀ ev ∈ (LedgerStep.run start steps).committed.evidence, MadeByCreate ev := by
  have hsteps : ∀ (steps : List LedgerStep) (s : Session Store Write Bucket),
      Holds AllMade AllMade s → Holds AllMade AllMade (steps.foldl LedgerStep.exec s) := by
    intro steps
    induction steps with
    | nil => exact fun s hs => hs
    | cons step steps ih =>
      intro s hs
      refine ih _ (LedgerStep.exec_keeps ?_ hs)
      cases step with
      | create x p caseId createdBy data payload contentType doCommit =>
        exact (create_keeps_made x p caseId createdBy data payload contentType doCommit).drop
      | other lost w hw =>
        refine (Holds.write lost w fun st _ h _ => ?_).post (fun _ _ h => h)
          fun _ _ h => h.of_stuck
        intro ev hev
        exact h ev (evidence_apply hw st ▸ hev)
      | commit lost => exact commitIf_triple true lost fun _ _ h => h
      | rollback => exact Holds.rollback.post (fun _ _ h => h) fun _ _ h => h.of_stuck
  have hempty : AllMade start.toStore [] := by
    intro ev hev
    rw [start.noEvidence] at hev
    cases hev
  exact (hsteps steps ⟨start.toStore, [], false, []⟩ ⟨hempty, fun _ => hempty⟩).committed

/-! ## What is exported -/

/-- The ledger of a case after a run of the repository. -/
def ledgerOf (start : EmptyLedger) (steps : List LedgerStep) (c : UUID) : List Evidence :=
  EvidenceRepository.inCase (LedgerStep.run start steps).committed c none none

/-- The rows that an export shows. -/
def exportedRows (o : NewestFirst Evidence.timestamp) (ledger : List Evidence) : List Evidence :=
  o.page 100000 0 ledger

/-- The route answers the rows, if its two queries get through. -/
lemma exportEvidenceLedger_answer (env : Env) (c : UUID) (csv : Bool)
    {s : Session Store Write Bucket} (hs : s.Idle) (hlookup : env.x.lookup = false)
    (hrefresh : env.x.refresh = false) :
    (EvidenceRouter.exportEvidenceLedger env c csv s).1
      = .ok (.ledger c csv env.x.now (exportedRows env.evidence
          (EvidenceRepository.inCase s.committed c none none))) := by
  have hlist : (EvidenceRepository.listForCase env.x env.evidence c none none 100000 0 :
      Db Bucket (List Evidence × ℕ)) s
        = (.ok (exportedRows env.evidence (EvidenceRepository.inCase s.work c none none),
            (EvidenceRepository.inCase s.work c none none).length), s) := by
    unfold EvidenceRepository.listForCase
    rw [hlookup, hrefresh, Prog.bind_apply_ok (query_apply hs.failed _),
      Prog.bind_apply_ok (query_apply hs.failed _)]
    rfl
  unfold EvidenceRouter.exportEvidenceLedger
  rw [Prog.bind_apply_ok hlist, hs.work]
  rfl

/-- The items of a JSON export. -/
def LedgerExport.items : LedgerExport → List PyVal
  | .json payload =>
    match PyDict.get payload "items" with
    | .list items => items
    | _ => []
  | .csv _ _ => []

/-- The records of a CSV export, as a reader finds them. -/
def LedgerExport.records : LedgerExport → Option (List (List (List Char)))
  | .json _ => none
  | .csv _ text => Csv.read text

/-- Up to the bound the newest rows of the ledger, each once in either format, and no formula. -/
structure ShowsNewest (c : UUID) (exportedAt : Time) (ledger items : List Evidence) : Prop where
  mem : ∀ ev ∈ items, ev ∈ ledger
  length : items.length = min 100000 ledger.length
  newest : ∀ ev ∈ items, ∀ other ∈ ledger, other ∉ items → other.timestamp ≤ ev.timestamp
  json : ∀ ev ∈ items,
    (LedgerExport.of false c exportedAt items).items.count (.dict (jsonItem ev)) = 1
  csv : (LedgerExport.of true c exportedAt items).records
    = some (csvColumns :: items.map csvRow)
  csv_once : ∀ ev ∈ items, (items.map csvRow).count (csvRow ev) = 1
  cells : ∀ ev ∈ items, ∀ cell ∈ csvRow ev, startsFormula cell = false

/-- Rows of a ledger with the same id are the same. -/
lemma eq_of_id_eq {start : EmptyLedger} {steps : List LedgerStep} {c : UUID} {ev ev' : Evidence}
    (hev : ev ∈ ledgerOf start steps c) (hev' : ev' ∈ ledgerOf start steps c) (h : ev.id = ev'.id) :
    ev = ev' := by
  refine Table.eq_of_pk_eq (t := (LedgerStep.run start steps).committed.evidence) ?_ ?_ h
  · exact List.mem_of_mem_filter hev
  · exact List.mem_of_mem_filter hev'

lemma nodup_ledgerOf (start : EmptyLedger) (steps : List LedgerStep) (c : UUID) :
    (ledgerOf start steps c).Nodup :=
  (List.Nodup.of_map _ (LedgerStep.run start steps).committed.evidence.nodup).filter _

/-- The id of a row is in its item. -/
lemma jsonItem_inj {start : EmptyLedger} {steps : List LedgerStep} {c : UUID} {ev ev' : Evidence}
    (hev : ev ∈ ledgerOf start steps c) (hev' : ev' ∈ ledgerOf start steps c)
    (h : PyVal.dict (jsonItem ev) = .dict (jsonItem ev')) : ev = ev' := by
  have hitem := PyVal.dict.inj h
  simp only [jsonItem, List.cons.injEq, Prod.mk.injEq, PyVal.str.injEq, true_and] at hitem
  exact eq_of_id_eq hev hev' (uuidText_injective (String.ofList_injective hitem.1))

/-- The id of a row is in its record. -/
lemma csvRow_id_inj {start : EmptyLedger} {steps : List LedgerStep} {c : UUID} {ev ev' : Evidence}
    (hev : ev ∈ ledgerOf start steps c) (hev' : ev' ∈ ledgerOf start steps c)
    (h : csvRow ev = csvRow ev') : ev = ev' := by
  simp only [csvRow, List.cons.injEq] at h
  exact eq_of_id_eq hev hev' (uuidText_injective h.1)

lemma exportedRows_showsNewest (start : EmptyLedger) (steps : List LedgerStep) (c : UUID)
    (o : NewestFirst Evidence.timestamp) (exportedAt : Time) :
    ShowsNewest c exportedAt (ledgerOf start steps c)
      (exportedRows o (ledgerOf start steps c)) := by
  have hmem : ∀ ev ∈ exportedRows o (ledgerOf start steps c), ev ∈ ledgerOf start steps c :=
    fun ev hev => o.mem_of_mem_page hev
  have hnodup : (exportedRows o (ledgerOf start steps c)).Nodup := by
    have harranged : (o.arrange (ledgerOf start steps c)).Nodup :=
      (o.perm _).nodup_iff.mpr (nodup_ledgerOf start steps c)
    exact (harranged.sublist (List.drop_sublist _ _)).sublist (List.take_sublist _ _)
  refine ⟨hmem, o.length_page_zero _ _, fun ev hev other hother hout =>
    o.newest_first_page hev hother hout, fun ev hev => ?_, ?_, fun ev hev => ?_, fun ev hev => ?_⟩
  · refine List.count_eq_one_of_mem (hnodup.map_on fun ev hev ev' hev' h => ?_)
      (List.mem_map_of_mem hev)
    exact jsonItem_inj (hmem ev hev) (hmem ev' hev') h
  · refine Csv.read_write fun row hrow => ?_
    rcases List.mem_cons.mp hrow with rfl | hrow
    · exact List.cons_ne_nil _ _
    · obtain ⟨ev, -, rfl⟩ := List.mem_map.mp hrow
      exact List.cons_ne_nil _ _
  · refine List.count_eq_one_of_mem (hnodup.map_on fun ev hev ev' hev' h => ?_)
      (List.mem_map_of_mem hev)
    exact csvRow_id_inj (hmem ev hev) (hmem ev' hev') h
  · exact startsFormula_csvRow (run_made start steps ev (List.mem_of_mem_filter (hmem ev hev)))

/-- Of more rows than the bound an export leaves one out. -/
lemma exists_left_out {start : EmptyLedger} {steps : List LedgerStep} {c : UUID}
    (h : 100000 < (ledgerOf start steps c).length) (o : NewestFirst Evidence.timestamp)
    (exportedAt : Time) : ∃ ev ∈ ledgerOf start steps c,
      (LedgerExport.of false c exportedAt (exportedRows o (ledgerOf start steps c))).items.count
        (.dict (jsonItem ev)) ≠ 1 := by
  by_contra hnone
  have hall : ∀ ev ∈ ledgerOf start steps c, ev ∈ exportedRows o (ledgerOf start steps c) := by
    intro ev hev
    have hcount : ((exportedRows o (ledgerOf start steps c)).map
        fun ev => PyVal.dict (jsonItem ev)).count (.dict (jsonItem ev)) = 1 := by
      by_contra hne
      exact hnone ⟨ev, hev, hne⟩
    have hpos : 0 < ((exportedRows o (ledgerOf start steps c)).map fun ev =>
        PyVal.dict (jsonItem ev)).count (.dict (jsonItem ev)) := by omega
    obtain ⟨ev', hev', heq⟩ := List.mem_map.mp (List.count_pos_iff.mp hpos)
    exact jsonItem_inj (o.mem_of_mem_page hev') hev heq ▸ hev'
  have hle := (List.subperm_of_subset (nodup_ledgerOf start steps c) hall).length_le
  rw [exportedRows, o.length_page_zero] at hle
  omega

/-- The rows of two exports with the same CSV, one by one. -/
lemma csvText_inj {items items' : List Evidence} (hmade : ∀ ev ∈ items, MadeByCreate ev)
    (hmade' : ∀ ev ∈ items', MadeByCreate ev) (hdates : ∀ ev ∈ items, IsDatetime ev.timestamp)
    (hdates' : ∀ ev ∈ items', IsDatetime ev.timestamp) (hdumps : DumpsInjective items items')
    (h : csvText items = csvText items') : List.Forall₂ SameColumns items items' := by
  have hne : ∀ items : List Evidence, ∀ row ∈ csvColumns :: items.map csvRow, row ≠ [] := by
    intro items row hrow
    rcases List.mem_cons.mp hrow with rfl | hrow
    · exact List.cons_ne_nil _ _
    · obtain ⟨ev, -, rfl⟩ := List.mem_map.mp hrow
      exact List.cons_ne_nil _ _
  have hrows := (List.cons.inj (Csv.write_injOn (hne items) (hne items') h)).2
  have hrel : List.Forall₂ (fun ev ev' => csvRow ev = csvRow ev') items items' := by
    have heq : List.Forall₂ (· = ·) (items.map csvRow) (items'.map csvRow) := by
      rw [List.forall₂_eq_eq_eq]
      exact hrows
    rw [List.forall₂_map_left_iff, List.forall₂_map_right_iff] at heq
    exact heq
  rw [List.forall₂_iff_zip] at hrel ⊢
  refine ⟨hrel.1, fun {ev ev'} hmem => ?_⟩
  have hev := (List.of_mem_zip hmem).1
  have hev' := (List.of_mem_zip hmem).2
  exact csvRow_inj (hmade ev hev) (hmade' ev' hev') (hdates ev hev) (hdates' ev' hev')
    (hdumps ev hev ev' hev') (hrel.2 hmem)

/-- **The export of a ledger.** The route shows the newest rows up to its bound, each once in
either format; no cell begins as a formula; and two ledgers of the same CSV have, row by row, the
same columns. -/
theorem ledger_export (start start' : EmptyLedger) (steps steps' : List LedgerStep) (c c' : UUID)
    (env env' : Env)
    (hdates : ∀ ev ∈ ledgerOf start steps c, IsDatetime ev.timestamp)
    (hdates' : ∀ ev ∈ ledgerOf start' steps' c', IsDatetime ev.timestamp)
    (hdumps : DumpsInjective (ledgerOf start steps c) (ledgerOf start' steps' c')) :
    (env.x.lookup = false → env.x.refresh = false → ∀ csv,
      (EvidenceRouter.exportEvidenceLedger env c csv
        ⟨(LedgerStep.run start steps).committed, [], false,
          (LedgerStep.run start steps).outside⟩).1
      = .ok (.ledger c csv env.x.now (exportedRows env.evidence (ledgerOf start steps c)))) ∧
    ShowsNewest c env.x.now (ledgerOf start steps c)
      (exportedRows env.evidence (ledgerOf start steps c)) ∧
    ((ledgerOf start steps c).length ≤ 100000 →
      ∀ ev ∈ ledgerOf start steps c, ev ∈ exportedRows env.evidence (ledgerOf start steps c)) ∧
    (csvText (exportedRows env.evidence (ledgerOf start steps c))
        = csvText (exportedRows env'.evidence (ledgerOf start' steps' c')) →
      List.Forall₂ SameColumns (exportedRows env.evidence (ledgerOf start steps c))
        (exportedRows env'.evidence (ledgerOf start' steps' c'))) := by
  have hmem : ∀ (start : EmptyLedger) (steps : List LedgerStep) (c : UUID)
      (o : NewestFirst Evidence.timestamp),
      ∀ ev ∈ exportedRows o (ledgerOf start steps c), ev ∈ ledgerOf start steps c :=
    fun start steps c o ev hev => o.mem_of_mem_page hev
  have hmade : ∀ (start : EmptyLedger) (steps : List LedgerStep) (c : UUID)
      (o : NewestFirst Evidence.timestamp),
      ∀ ev ∈ exportedRows o (ledgerOf start steps c), MadeByCreate ev :=
    fun start steps c o ev hev =>
      run_made start steps ev (List.mem_of_mem_filter (hmem start steps c o ev hev))
  have hshows := exportedRows_showsNewest start steps c env.evidence env.x.now
  refine ⟨fun hlookup hrefresh csv => exportEvidenceLedger_answer env c csv ⟨rfl, rfl⟩ hlookup
    hrefresh, hshows, fun hlength ev hev => ?_, fun htext => ?_⟩
  · exact (env.evidence.page_perm hlength).mem_iff.mpr hev
  · refine csvText_inj (hmade _ _ _ _) (hmade _ _ _ _)
      (fun ev hev => hdates ev (hmem _ _ _ _ ev hev))
      (fun ev hev => hdates' ev (hmem _ _ _ _ ev hev)) (fun ev hev ev' hev' => ?_) htext
    exact hdumps ev (hmem _ _ _ _ ev hev) ev' (hmem _ _ _ _ ev' hev')

/-! ### Some ledgers -/

/-- The evidence of a query about the person. -/
def queried (query : String) (h : LengthIn 1024 query) : EvidenceCreate where
  entityId := some subject.id
  sourcePlugin := "manual"
  query := query
  reproducibilitySpec := []
  sourcePlugin_valid := sourcePlugin_manual
  query_length := h
  spec_valid := validateAttrs_nil

/-- A run that makes and commits one row. -/
def oneQuery (query : String) (h : LengthIn 1024 query) : List LedgerStep :=
  [.create { newId := 1, now := 0 } {} 0 none (queried query h) [] none true]

/-- The row it makes. -/
def queryRow (query : String) (h : LengthIn 1024 query) : Evidence :=
  EvidenceRepository.newEvidence { newId := 1, now := 0 } 0 none (queried query h) [] none

/-- A query that is a formula, and one with a quote in front. -/
lemma formula_length : LengthIn 1024 "=1" := by decide

lemma quoted_length : LengthIn 1024 "'=1" := by decide

lemma ledgerOf_formula :
    ledgerOf oneSubject (oneQuery "=1" formula_length) 0 = [queryRow "=1" formula_length] := by
  decide +kernel

lemma ledgerOf_quoted :
    ledgerOf oneSubject (oneQuery "'=1" quoted_length) 0 = [queryRow "'=1" quoted_length] := by
  decide +kernel

/-- A ledger of one row is exported as it is. -/
lemma exportedRows_singleton (o : NewestFirst Evidence.timestamp) (ev : Evidence) :
    exportedRows o [ev] = [ev] := by
  have harranged : o.arrange [ev] = [ev] := List.perm_singleton.mp (o.perm [ev])
  rw [exportedRows, NewestFirst.page, harranged]
  rfl

/-- An environment in which every statement gets through. -/
def exportEnv : Env where
  x := { newId := 0, now := 0 }
  y := { newId := 0, now := 0 }
  run := calm
  dispatch := { newId := 0, startedAt := 0, enqueue := .ok () }
  presign := .ok

theorem ledger_export_formula :
    ShowsNewest 0 exportEnv.x.now (ledgerOf oneSubject (oneQuery "=1" formula_length) 0)
      (exportedRows exportEnv.evidence (ledgerOf oneSubject (oneQuery "=1" formula_length) 0)) := by
  have hdates : ∀ ev ∈ ledgerOf oneSubject (oneQuery "=1" formula_length) 0,
      IsDatetime ev.timestamp := by
    rw [ledgerOf_formula]
    decide
  have hdumps : DumpsInjective (ledgerOf oneSubject (oneQuery "=1" formula_length) 0)
      (ledgerOf oneSubject (oneQuery "=1" formula_length) 0) := by
    rw [ledgerOf_formula]
    intro ev hev ev' hev' _
    rw [List.mem_singleton.mp hev, List.mem_singleton.mp hev']
  exact (ledger_export oneSubject oneSubject (oneQuery "=1" formula_length)
    (oneQuery "=1" formula_length) 0 0 exportEnv exportEnv hdates hdates hdumps).2.1

/-- A row with a number for its id. -/
def numberedRow (n : ℕ) : Evidence :=
  EvidenceRepository.newEvidence { newId := BitVec.ofNat 128 n, now := 0 } 0 none
    (queried "'=1" quoted_length) [] none

/-- The step that makes it, and leaves its transaction open. -/
def numberedStep (n : ℕ) : LedgerStep :=
  .create { newId := BitVec.ofNat 128 n, now := 0 } {} 0 none (queried "'=1" quoted_length) [] none
    false

/-- After `n` of these steps: as many rows, with the ids below `n`. -/
structure Filled (n : ℕ) (s : Session Store Write Bucket) : Prop where
  failed : s.failed = false
  entities : s.work.entities = oneSubject.entities
  length : s.work.evidence.rows.length = n
  rows : ∀ ev ∈ s.work.evidence, ev.id.toNat < n ∧ ev.caseId = 0

lemma Filled.next {n : ℕ} (hn : n < 2 ^ 128) {s : Session Store Write Bucket} (h : Filled n s) :
    Filled (n + 1) (LedgerStep.exec s (numberedStep n)) := by
  have hid : (numberedRow n).id.toNat = n := by
    show (BitVec.ofNat 128 n).toNat = n
    rw [BitVec.toNat_ofNat, Nat.mod_eq_of_lt hn]
  have hnew : s.work.evidence.has (numberedRow n).id = false := by
    refine Table.has_eq_false_iff.mpr fun ev hev hsame => ?_
    have hlt := (h.rows ev hev).1
    rw [show ev.id = (numberedRow n).id from hsame, hid] at hlt
    exact lt_irrefl _ hlt
  have haccepted : oneSubject.accepts (.insertEvidence (queryRow "'=1" quoted_length)) = true := by
    decide +kernel
  have haccepts : s.work.accepts (.insertEvidence (numberedRow n)) = true :=
    accepts_newEvidence haccepted h.entities hnew
  obtain ⟨b', hupload⟩ := uploaded_calm (p := {}) rfl rfl (numberedRow n).responseUri []
    (EvidenceRepository.contentTypeFinal none) s.outside
  have hplan : createEvidencePlan { newId := BitVec.ofNat 128 n, now := 0 } {} 0 none
      (queried "'=1" quoted_length) [] none s.work s.outside
        = (.done (numberedRow n) [.insertEvidence (numberedRow n)], b') :=
    savePlan_done.mpr ⟨rfl, haccepts, [], hupload, rfl, rfl⟩
  have hrun := createEvidence_runs { newId := BitVec.ofNat 128 n, now := 0 } {} 0 none
    (queried "'=1" quoted_length) [] none s h.failed
  rw [hplan] at hrun
  have hexec : LedgerStep.exec s (numberedStep n)
      = { s.extend [.insertEvidence (numberedRow n)] with outside := b' } :=
    congrArg Prod.snd (Prog.bind_apply_ok hrun)
  have hwork : (LedgerStep.exec s (numberedStep n)).work
      = s.work.apply (.insertEvidence (numberedRow n)) := by
    rw [hexec]
    exact Session.work_extend s _
  refine ⟨?_, ?_, ?_, fun ev hev => ?_⟩
  · rw [hexec]
    exact h.failed
  · rw [hwork]
    exact h.entities
  · rw [hwork]
    show (s.work.evidence.insert (numberedRow n)).rows.length = n + 1
    rw [Table.rows_insert (accepts_insertEvidence haccepts), List.length_append, h.length]
    rfl
  · rw [hwork] at hev
    rcases (Table.mem_insert (accepts_insertEvidence haccepts)).mp hev with hev | rfl
    · obtain ⟨hlt, hcase⟩ := h.rows ev hev
      exact ⟨by omega, hcase⟩
    · exact ⟨by omega, rfl⟩

/-- A run that makes `n` rows and commits them. -/
def numberedSteps (n : ℕ) : List LedgerStep := (List.range n).map numberedStep ++ [.commit false]

lemma length_ledgerOf_numbered {n : ℕ} (hn : n ≤ 2 ^ 128) :
    (ledgerOf oneSubject (numberedSteps n) 0).length = n := by
  have hfilled : ∀ k ≤ n,
      Filled k (LedgerStep.run oneSubject ((List.range k).map numberedStep)) := by
    intro k hk
    induction k with
    | zero => exact ⟨rfl, rfl, rfl, fun _ h => by cases h⟩
    | succ k ih =>
      have hstep := (ih (by omega)).next (by omega)
      rw [List.range_succ, List.map_append, LedgerStep.run, List.foldl_append]
      exact hstep
  have hlast := hfilled n (le_refl n)
  have hcommitted : (LedgerStep.run oneSubject (numberedSteps n)).committed
      = (LedgerStep.run oneSubject ((List.range n).map numberedStep)).work := by
    rw [numberedSteps, LedgerStep.run, List.foldl_append]
    show (LedgerStep.exec (LedgerStep.run oneSubject ((List.range n).map numberedStep))
      (.commit false)).committed = _
    have hcommit := commit_apply (O := Bucket) (ε := Exc) hlast.failed
    rw [LedgerStep.exec, LedgerStep.prog, hcommit]
  rw [ledgerOf, EvidenceRepository.inCase, hcommitted, List.filter_eq_self.mpr, hlast.length]
  intro ev hev
  simp [(hlast.rows ev hev).2]

/-- Of one row more than the bound, an export leaves one out; and a formula is exported as the
same text with a quote in front. -/
theorem ledger_export_lossy :
    (¬ ∀ (start : EmptyLedger) (steps : List LedgerStep) (c : UUID)
      (o : NewestFirst Evidence.timestamp) (exportedAt : Time), ∀ ev ∈ ledgerOf start steps c,
        (LedgerExport.of false c exportedAt (exportedRows o (ledgerOf start steps c))).items.count
          (.dict (jsonItem ev)) = 1) ∧
    ¬ ∀ (start start' : EmptyLedger) (steps steps' : List LedgerStep) (c : UUID)
      (o : NewestFirst Evidence.timestamp),
      csvText (exportedRows o (ledgerOf start steps c))
          = csvText (exportedRows o (ledgerOf start' steps' c)) →
        (ledgerOf start steps c).map Evidence.query
          = (ledgerOf start' steps' c).map Evidence.query := by
  constructor
  · intro h
    have hlength : (ledgerOf oneSubject (numberedSteps 100001) 0).length = 100001 :=
      length_ledgerOf_numbered (by decide)
    have hmore : 100000 < (ledgerOf oneSubject (numberedSteps 100001) 0).length := by
      rw [hlength]
      exact Nat.lt_succ_self 100000
    obtain ⟨ev, hev, hne⟩ := exists_left_out hmore default 0
    exact hne (h oneSubject (numberedSteps 100001) 0 default 0 ev hev)
  · intro h
    have htext :
        csvText (exportedRows default (ledgerOf oneSubject (oneQuery "=1" formula_length) 0))
        = csvText
          (exportedRows default (ledgerOf oneSubject (oneQuery "'=1" quoted_length) 0)) := by
      have hcell : csvSafe "=1".toList = csvSafe "'=1".toList := by decide
      have hrow : csvRow (queryRow "=1" formula_length) = csvRow (queryRow "'=1" quoted_length) :=
        congrArg (fun cell => [uuidText 1, isoformat "+00:00".toList 0, csvSafe "manual".toList,
          cell, (hashBytes []).toList, Nat.toDigits 10 0,
          csvSafe (EvidenceRepository.contentTypeFinal none).toList, uuidText subject.id,
          csvSafe (sortedDumps (.dict []))]) hcell
      rw [ledgerOf_formula, ledgerOf_quoted, exportedRows_singleton, exportedRows_singleton,
        csvText, csvText, List.map_singleton, List.map_singleton, hrow]
    have hquery := h _ _ _ _ 0 default htext
    rw [ledgerOf_formula, ledgerOf_quoted] at hquery
    exact absurd hquery (by decide)

end Sleuthgraph
