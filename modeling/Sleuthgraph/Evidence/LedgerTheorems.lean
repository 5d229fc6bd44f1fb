import Sleuthgraph.Evidence.Repository

/-!
# The ledger and the bucket agree

The invariant spans both stores: every blob under a ledger key hashes to the hash in its key,
and every row, committed or pending, has such a blob under the key it names. The first half is
what makes the size check of an upload harmless. Between the flush of a row and its upload only
the other rows have their blob; if the upload raises, the rollback discards the row.
-/

namespace Sleuthgraph

open Programs Transactions Tables

/-! ## Keys -/

lemma length_flatMap_hexText (words : List UInt32) :
    (words.flatMap fun word => hexText 8 word.toNat).length = 8 * words.length := by
  induction words with
  | nil => rfl
  | cons w words ih =>
    rw [List.flatMap_cons, List.length_append, length_hexText, ih, List.length_cons]
    omega

lemma length_hashBytes (data : Bytes) : (hashBytes data).toList.length = 64 := by
  rw [hashBytes, String.toList_ofList, length_flatMap_hexText, Sha256.length_digest]

/-- The hash is read off the end of a key. -/
lemma buildKey_hash {c c' : UUID} {h h' : String} (heq : buildKey c h = buildKey c' h')
    (hlen : h.toList.length = h'.toList.length) : h = h' := by
  have hlists : _ ++ h.toList = _ ++ h'.toList := String.ofList_injective heq
  exact String.toList_inj.mp (List.append_inj_right' hlists hlen)

/-! ## Columns -/

lemma nul_notMem_hexText (width n : ℕ) : '\x00' ∉ hexText width n := by
  have hdigits : ∀ digit < 16, Nat.digitChar digit ≠ '\x00' := by decide
  intro hmem
  obtain ⟨i, -, hi⟩ := List.mem_map.mp hmem
  exact hdigits _ (Nat.mod_lt _ (by decide)) hi

lemma nul_notMem_uuidText (id : UUID) : '\x00' ∉ uuidText id := by
  simp [uuidText, nul_notMem_hexText]

lemma nul_notMem_hashBytes (data : Bytes) : '\x00' ∉ (hashBytes data).toList := by
  rw [hashBytes, String.toList_ofList, List.mem_flatMap]
  intro hwords
  obtain ⟨word, -, hmem⟩ := hwords
  exact nul_notMem_hexText _ _ hmem

lemma fitsColumn_of {n : ℕ} {s : String} (hlen : s.toList.length ≤ n)
    (hnul : '\x00' ∉ s.toList) : fitsColumn n s = true := by
  rw [fitsColumn, Bool.and_eq_true, decide_eq_true_eq, Bool.not_eq_true', ← String.length_toList]
  exact ⟨hlen, by simpa using hnul⟩

lemma fitsColumn_hashBytes (data : Bytes) : fitsColumn 64 (hashBytes data) = true :=
  fitsColumn_of (length_hashBytes data).le (nul_notMem_hashBytes data)

lemma fitsColumn_buildKey (c : UUID) (data : Bytes) :
    fitsColumn 512 (buildKey c (hashBytes data)) = true := by
  have hlen := length_hashBytes data
  have hnul := nul_notMem_hashBytes data
  generalize hashBytes data = hash at hlen hnul
  have hkey : (buildKey c hash).toList
      = "case/".toList ++ uuidText c ++ "/ev/".toList ++ hash.toList := String.toList_ofList
  have hstart : '\x00' ∉ "case/".toList := by decide
  have hmiddle : '\x00' ∉ "/ev/".toList := by decide
  have hfits : (buildKey c hash).toList.length = 109 := by
    rw [hkey, List.length_append, List.length_append, List.length_append, length_uuidText, hlen]
    rfl
  refine fitsColumn_of (by omega) ?_
  rw [hkey]
  simp only [List.mem_append, hstart, hmiddle, hnul, nul_notMem_uuidText, or_self,
    not_false_eq_true]

/-- A row is accepted for what it says; its hash and its key always fit. -/
lemma accepts_of_newEvidence {st : Store} {x : Ext} {c : UUID} {createdBy : Option UUID}
    {data : EvidenceCreate} {payload : Bytes} {contentType : Option String}
    (hnew : st.evidence.has x.newId = false)
    (hcolumns : fitsColumn 128 data.sourcePlugin = true ∧ fitsColumn 1024 data.query = true ∧
      fitsColumn 128 (EvidenceRepository.contentTypeFinal contentType) = true)
    (hspec : isJson (.dict data.reproducibilitySpec) = true)
    (hentity : data.entityId.all st.entities.has = true) :
    st.accepts (.insertEvidence
      (EvidenceRepository.newEvidence x c createdBy data payload contentType)) = true := by
  simp only [Store.accepts, Bool.and_eq_true, Bool.not_eq_true']
  obtain ⟨hplugin, hquery, htype⟩ := hcolumns
  exact ⟨⟨⟨⟨⟨⟨⟨hnew, hplugin⟩, hquery⟩, fitsColumn_hashBytes _⟩, fitsColumn_buildKey _ _⟩, htype⟩,
    hspec⟩, hentity⟩

/-! ## The two halves of the invariant -/

/-- Every blob under a ledger key hashes to the hash in its key. -/
def Intact (b : Bucket) : Prop :=
  ∀ c h blob, h.toList.length = 64 → b.lookup (buildKey c h) = some blob →
    hashBytes blob.body = h

/-- The row names the blob of its hash, and the blob is there. -/
structure Backed (b : Bucket) (ev : Evidence) : Prop where
  uri : ev.responseUri = buildKey ev.caseId ev.responseHash
  blob : ∃ blob, b.lookup ev.responseUri = some blob ∧ hashBytes blob.body = ev.responseHash

/-- All rows are backed, in an intact bucket, and they extend the rows `base`. -/
structure Ledger (base : List Evidence) (st : Store) (b : Bucket) : Prop where
  intact : Intact b
  backed : ∀ ev ∈ st.evidence, Backed b ev
  extends_base : base <+: st.evidence.rows

/-- A database in which the ledger is empty; cases, entities and runs may be there already. -/
structure EmptyLedger extends Store where
  noEvidence : toStore.evidence = .empty

lemma EmptyLedger.ledger (start : EmptyLedger) : Ledger [] start.toStore [] where
  intact _ _ _ _ h := nomatch h
  backed ev h := by
    rw [start.noEvidence] at h
    cases h
  extends_base := List.nil_prefix

/-- A backed row verifies. -/
lemma Backed.verifySingle {b : Bucket} {ev : Evidence} (h : Backed b ev) :
    verifySingle ev b = .ok none := by
  obtain ⟨blob, hblob, hhash⟩ := h.blob
  have hget : EvidenceStorage.get ev.responseUri b = .ok blob.body := by
    rw [EvidenceStorage.get, hblob]
  rw [Sleuthgraph.verifySingle, hget]
  exact if_neg (not_not_intro hhash)

/-! ## Uploads -/

section Uploads

variable {b : Bucket} {c : UUID} {data : Bytes} {contentType : String}

/-- Storing a payload under the key of its hash keeps the bucket intact. -/
lemma Intact.store (h : Intact b) :
    Intact ((buildKey c (hashBytes data), ⟨data, contentType⟩) :: b) := by
  intro c' h' blob hlen hlookup
  rw [List.lookup_cons] at hlookup
  split at hlookup
  -- the key that was stored ends in the hash of what was stored
  · rename_i hkey
    rw [← Option.some.inj hlookup]
    exact (buildKey_hash (by simpa using hkey) (by rw [hlen, length_hashBytes])).symm
  · exact h c' h' blob hlen hlookup

/-- Storing a payload under the key of its hash keeps every row backed. -/
lemma Backed.store {ev : Evidence} (h : Backed b ev) :
    Backed ((buildKey c (hashBytes data), ⟨data, contentType⟩) :: b) ev := by
  obtain ⟨blob, hblob, hhash⟩ := h.blob
  have hlen : ev.responseHash.toList.length = 64 := hhash ▸ length_hashBytes _
  refine ⟨h.uri, ?_⟩
  rw [List.lookup_cons]
  split
  -- the blob of the row is replaced by one with the same hash
  · rename_i hkey
    rw [h.uri, beq_iff_eq] at hkey
    exact ⟨_, rfl, (buildKey_hash hkey (by rw [hlen, length_hashBytes])).symm⟩
  · exact ⟨blob, hblob, hhash⟩

/-- What a state of the bucket keeps through an upload, whether it is skipped, made, refused,
or refused and made. -/
lemma put_keeps {Q : Bucket → Prop} (p : PutExt) (hb : Q b)
    (hstore : Q ((buildKey c (hashBytes data), ⟨data, contentType⟩) :: b)) :
    Q (EvidenceStorage.put p (buildKey c (hashBytes data)) data contentType b).2 := by
  have hobject :
      Q (EvidenceStorage.putObject p (buildKey c (hashBytes data)) data contentType b).2 := by
    unfold EvidenceStorage.putObject
    split
    · show Q (if p.landed then _ else _)
      split
      · exact hstore
      · exact hb
    · exact hstore
  unfold EvidenceStorage.put
  split
  · exact hb
  · split
    · split
      · exact hb
      · exact hobject
    · exact hobject

/-- After an upload that returns, the blob is there. -/
lemma put_blob (p : PutExt) (hb : Intact b)
    (hok : (EvidenceStorage.put p (buildKey c (hashBytes data)) data contentType b).1 = .ok ()) :
    ∃ blob, (EvidenceStorage.put p (buildKey c (hashBytes data)) data contentType b).2.lookup
        (buildKey c (hashBytes data)) = some blob ∧ hashBytes blob.body = hashBytes data := by
  have hobject : (EvidenceStorage.putObject p (buildKey c (hashBytes data)) data contentType b).1
        = .ok () →
      ∃ blob,
        (EvidenceStorage.putObject p (buildKey c (hashBytes data)) data contentType b).2.lookup
          (buildKey c (hashBytes data)) = some blob ∧ hashBytes blob.body = hashBytes data := by
    unfold EvidenceStorage.putObject
    split
    · exact fun h => nomatch h
    · exact fun _ => ⟨_, List.lookup_cons_self, rfl⟩
  unfold EvidenceStorage.put at hok ⊢
  split at hok
  · cases hok
  · split at hok
    · rename_i blob hlookup
      split at hok
      · -- the upload is skipped: the blob that is there is intact
        rename_i hsize
        exact ⟨blob, by rw [if_neg ‹_›]; simp only [hlookup, if_pos hsize],
          hb c _ blob (length_hashBytes data) hlookup⟩
      · rename_i hsize
        simp only [if_neg ‹¬p.head = true›, if_neg hsize]
        exact hobject hok
    · rename_i hlookup
      simp only [if_neg ‹¬p.head = true›]
      exact hobject hok

end Uploads

/-! ## Calls -/

/-- The ledger while the row `ev` waits for its blob. -/
structure Awaits (ev : Evidence) (base : List Evidence) (st : Store) (b : Bucket) : Prop where
  intact : Intact b
  backed : ∀ x ∈ st.evidence, Backed b x ∨ x = ev
  extends_base : base <+: st.evidence.rows

variable {base : List Evidence}

lemma Ledger.store {st : Store} {b : Bucket} (h : Ledger base st b) {c : UUID} {data : Bytes}
    {contentType : String} :
    Ledger base st ((buildKey c (hashBytes data), ⟨data, contentType⟩) :: b) :=
  ⟨h.intact.store, fun x hx => (h.backed x hx).store, h.extends_base⟩

/-- A row flushed on a ledger waits for its blob. -/
lemma Ledger.insertEvidence {st : Store} {b : Bucket} (h : Ledger base st b) {ev : Evidence}
    (haccepts : st.accepts (.insertEvidence ev) = true) :
    Awaits ev base (st.apply (.insertEvidence ev)) b := by
  have hnew := accepts_insertEvidence haccepts
  refine ⟨h.intact, fun x hx => ?_, h.extends_base.trans (Table.rows_prefix_insert _ _)⟩
  rcases (Table.mem_insert hnew).mp hx with hx | rfl
  · exact Or.inl (h.backed x hx)
  · exact Or.inr rfl

/-- The upload a row waits for makes it a row of the ledger. -/
lemma Awaits.uploaded {st : Store} {b : Bucket} {ev : Evidence} {data : Bytes}
    (h : Awaits ev base st b)
    (huri : ev.responseUri = buildKey ev.caseId ev.responseHash)
    (hhash : ev.responseHash = hashBytes data) (p : PutExt) (contentType : String)
    (hok : (EvidenceStorage.put p ev.responseUri data contentType b).1 = .ok ()) :
    Ledger base st (EvidenceStorage.put p ev.responseUri data contentType b).2 := by
  have hkey : ev.responseUri = buildKey ev.caseId (hashBytes data) := by rw [huri, hhash]
  rw [hkey] at hok ⊢
  refine ⟨put_keeps p h.intact h.intact.store, fun x hx => ?_, h.extends_base⟩
  rcases h.backed x hx with hx | rfl
  · exact put_keeps (Q := fun b => Backed b x) p hx hx.store
  · refine ⟨huri, ?_⟩
    rw [hkey, hhash]
    exact put_blob p h.intact hok

/-- `create` keeps the ledger, whatever fails. -/
theorem create_keeps_ledger (x : Ext) (p : PutExt) (caseId : UUID) (createdBy : Option UUID)
    (data : EvidenceCreate) (payload : Bytes) (contentType : Option String) (doCommit : Bool) :
    Prog.Triple (Holds (Ledger base) (Ledger base))
      (EvidenceRepository.create x p caseId createdBy data payload contentType doCommit)
      (fun _ => Holds (Ledger base) (Ledger base)) fun _ => Holds (Ledger base) (Ledger base) := by
  -- between the flush and the upload the row has no blob yet
  have hflush := Holds.write (S := Store) (W := Write) (ε := Exc) (I := Ledger base)
    (J := Ledger base) x.flush
    (.insertEvidence (EvidenceRepository.newEvidence x caseId createdBy data payload contentType))
    fun _ _ h hacc => h.insertEvidence hacc
  refine (hflush.post (fun _ _ h => h) fun _ _ h => h.of_stuck).bind fun _ => ?_
  have hupload : Prog.Triple
      (Holds (Ledger base)
        (Awaits (EvidenceRepository.newEvidence x caseId createdBy data payload contentType) base))
      (external (EvidenceStorage.put p
        (EvidenceRepository.newEvidence x caseId createdBy data payload contentType).responseUri
        payload (EvidenceRepository.contentTypeFinal contentType)) : Db Bucket Unit)
      (fun _ => Holds (Ledger base) (Ledger base)) fun _ => Holds (Ledger base) fun _ _ => True :=
    Holds.external _ (fun st b h => put_keeps (Q := Ledger base st) p h h.store)
      (fun st b _ h hok => h.uploaded rfl rfl p _ hok) fun _ _ _ _ _ => trivial
  -- what the upload leaves when it raises is rolled back
  have hbody := hupload.bind fun _ =>
    (commitIf_triple doCommit x.commit fun _ _ h => h).post (fun _ _ h => h)
      fun _ _ h => h.weaken fun _ _ _ => trivial
  exact (Holds.rollingBack hbody).bind fun _ =>
    (refreshIf_triple doCommit x.refresh).bind fun _ => Prog.Triple.pure fun _ h => h

/-! ## Runs -/

/-- The statement flushes a row of evidence. -/
def Write.makesEvidence : Write → Bool
  | .insertEvidence _ => true
  | _ => false

/-- The other statements leave the ledger alone. -/
lemma evidence_apply {w : Write} (hw : w.makesEvidence = false) (st : Store) :
    (st.apply w).evidence = st.evidence := by
  cases w with
  | insertEvidence ev => cases hw
  | _ => rfl

lemma Ledger.other {st : Store} {b : Bucket} (h : Ledger base st b) {w : Write}
    (hw : w.makesEvidence = false) : Ledger base (st.apply w) b := by
  have hsame := evidence_apply hw st
  exact ⟨h.intact, fun ev hev => h.backed ev (hsame ▸ hev), hsame ▸ h.extends_base⟩

/-- A call, another statement of the caller's session, or how the caller ends a transaction. -/
inductive LedgerStep where
  | create (x : Ext) (p : PutExt) (caseId : UUID) (createdBy : Option UUID)
      (data : EvidenceCreate) (payload : Bytes) (contentType : Option String) (doCommit : Bool)
  | other (lost : Bool) (w : Write) (hw : w.makesEvidence = false)
  | commit (lost : Bool)
  | rollback

namespace LedgerStep

def prog : LedgerStep → Db Bucket Unit
  | .create x p caseId createdBy data payload contentType doCommit => do
    let _ ← EvidenceRepository.create x p caseId createdBy data payload contentType doCommit
  | .other lost w _ => write lost w
  | .commit lost => Transactions.commit lost
  | .rollback => Transactions.rollback

/-- The session after the step, whether it returned or raised. -/
def exec (s : Session Store Write Bucket) (step : LedgerStep) : Session Store Write Bucket :=
  (step.prog s).2

/-- The session after a run from an empty ledger and bucket. -/
def run (start : EmptyLedger) (steps : List LedgerStep) : Session Store Write Bucket :=
  steps.foldl exec ⟨start.toStore, [], false, []⟩

/-- A step keeps what its program keeps. -/
lemma exec_keeps {A : Session Store Write Bucket → Prop} {step : LedgerStep}
    (h : Prog.Triple A step.prog (fun _ => A) fun _ => A) {s : Session Store Write Bucket}
    (hs : A s) : A (exec s step) := by
  unfold exec
  cases hms : step.prog s with
  | mk r s' => cases r with
    | ok a => exact h.ok hs hms
    | error e => exact h.error hs hms

lemma exec_ledger {s : Session Store Write Bucket} (hs : Holds (Ledger base) (Ledger base) s)
    (step : LedgerStep) : Holds (Ledger base) (Ledger base) (exec s step) := by
  refine exec_keeps ?_ hs
  cases step with
  | create x p caseId createdBy data payload contentType doCommit =>
    exact (create_keeps_ledger x p caseId createdBy data payload contentType doCommit).drop
  | other lost w hw =>
    refine (Holds.write lost w fun st b h _ => ?_).post (fun _ _ h => h) fun _ _ h => h.of_stuck
    exact h.other hw
  | commit lost => exact commitIf_triple true lost fun _ _ h => h
  | rollback => exact Holds.rollback.post (fun _ _ h => h) fun _ _ h => h.of_stuck

lemma foldl_ledger (steps : List LedgerStep) {s : Session Store Write Bucket}
    (hs : Holds (Ledger base) (Ledger base) s) :
    Holds (Ledger base) (Ledger base) (steps.foldl exec s) := by
  induction steps generalizing s with
  | nil => exact hs
  | cons step steps ih => exact ih (exec_ledger hs step)

lemma run_ledger (start : EmptyLedger) (steps : List LedgerStep) :
    Holds (Ledger []) (Ledger []) (run start steps) :=
  foldl_ledger steps ⟨start.ledger, fun _ => start.ledger⟩

end LedgerStep

/-- No statement changes or removes a row of evidence. -/
lemma evidence_prefix_apply (st : Store) (w : Write) :
    st.evidence.rows <+: (st.apply w).evidence.rows := by
  cases hw : w.makesEvidence with
  | false => simp only [evidence_apply hw, List.prefix_rfl]
  | true =>
    cases w with
    | insertEvidence ev => exact Table.rows_prefix_insert _ _
    | _ => cases hw

lemma evidence_prefix_work (s : Session Store Write Bucket) :
    s.committed.evidence.rows <+: s.work.evidence.rows := by
  have hall : ∀ (ws : List Write) (st : Store),
      st.evidence.rows <+: (applyAll st ws).evidence.rows := by
    intro ws
    induction ws with
    | nil => exact fun st => List.prefix_rfl
    | cons w ws ih => exact fun st => (evidence_prefix_apply st w).trans (ih _)
  exact hall s.pending s.committed

/-- The invariant, counted from the rows committed so far. -/
lemma rebase {s : Session Store Write Bucket} (h : Holds (Ledger base) (Ledger base) s) :
    Holds (Ledger s.committed.evidence.rows) (Ledger s.committed.evidence.rows) s where
  committed := ⟨h.committed.intact, h.committed.backed, List.prefix_rfl⟩
  work hs := ⟨(h.work hs).intact, (h.work hs).backed, evidence_prefix_work s⟩

/-- **Ledger integrity.** After every run, each committed row has the key of its hash, the blob
under that key hashes to it, and the row verifies; and whatever comes later, the committed rows
stay as they are, in their order, with new rows after them. -/
theorem ledger_integrity (start : EmptyLedger) (steps later : List LedgerStep) :
    (∀ ev ∈ (LedgerStep.run start steps).committed.evidence,
      ev.responseUri = buildKey ev.caseId ev.responseHash ∧
      (∃ blob, (LedgerStep.run start steps).outside.lookup ev.responseUri = some blob ∧
        hashBytes blob.body = ev.responseHash) ∧
      verifySingle ev (LedgerStep.run start steps).outside = .ok none) ∧
    (LedgerStep.run start steps).committed.evidence.rows
      <+: (LedgerStep.run start (steps ++ later)).committed.evidence.rows := by
  have hrun := LedgerStep.run_ledger start steps
  refine ⟨fun ev hev => ?_, ?_⟩
  · have hbacked := hrun.committed.backed ev hev
    exact ⟨hbacked.uri, hbacked.blob, hbacked.verifySingle⟩
  · have hlater := LedgerStep.foldl_ledger later (rebase hrun)
    have happend : LedgerStep.run start (steps ++ later)
        = later.foldl LedgerStep.exec (LedgerStep.run start steps) := List.foldl_append
    rw [happend]
    exact hlater.committed.extends_base

/-- A person of the case. -/
def subject : Entity where
  id := 9
  caseId := 0
  type := "PERSON"
  label := "alice"
  attrs := .dict []
  confidence := 1
  createdBy := none
  createdAt := 0
  updatedAt := 0
  deletedAt := none

/-- A database with an entity and no evidence. -/
def oneSubject : EmptyLedger := ⟨Store.empty.apply (.insertEntity subject), rfl⟩

end Sleuthgraph
