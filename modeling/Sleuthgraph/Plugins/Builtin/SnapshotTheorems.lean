import Sleuthgraph.Lib.Spans
import Sleuthgraph.Plugins.Builtin.CapTheorems
import Mathlib.Data.String.Basic

/-!
# The snapshots of `wayback_cdx`

The dictionary that `_extract_snapshots` fills is a table of spans: each URL with the least and
the greatest of its timestamps. Sorting and cutting it at `MAX_SNAPSHOTS` leaves the earliest.
-/

namespace Sleuthgraph

namespace WaybackCdx

open Spans

variable {py : Interp}

/-! ## Collapsing -/

/-- Rows of three fields and more begin with three texts. -/
def Textual (rows : List (List PyVal)) : Prop :=
  ∀ row ∈ rows, 3 ≤ row.length → ∃ timestamp original statuscode rest,
    row = .str timestamp :: .str original :: .str statuscode :: rest

/-- The URL of a row that counts, with its timestamp. -/
def captureOf : List PyVal → Option (String × String)
  | .str timestamp :: .str original :: _ :: _ =>
    if original = "" then none else some (original, timestamp)
  | _ => none

/-- The captures of the rows, in order. -/
def captures (rows : List (List PyVal)) : List (String × String) := rows.filterMap captureOf

/-- The snapshot has this span. -/
structure Snapshot.Has (s : Snapshot) (e : Span String String) : Prop where
  url : s.url = e.key
  first : s.firstSeen = .str e.least
  last : s.lastSeen = .str e.greatest

@[simp] lemma lt_str (a b : String) : (PyVal.str a).lt py (.str b) = .ok (decide (a < b)) := by
  rw [PyVal.lt]

/-- Widening an interval of texts. -/
lemma Snapshot.Has.seen {s : Snapshot} {e : Span String String} (h : s.Has e)
    (timestamp : String) :
    ∃ s', s.seen py (.str timestamp) = .ok s' ∧ s'.Has (e.widen timestamp) := by
  obtain ⟨url, firstSeen, lastSeen, statusCode⟩ := s
  obtain ⟨rfl, rfl, rfl⟩ := h
  have hfirst : (PyVal.str (min timestamp e.least)) =
      if timestamp < e.least then .str timestamp else .str e.least := by
    split
    · rename_i hlt
      rw [min_eq_left hlt.le]
    · rename_i hnot
      rw [min_eq_right (not_lt.mp hnot)]
  have hlast : (PyVal.str (max timestamp e.greatest)) =
      if e.greatest < timestamp then .str timestamp else .str e.greatest := by
    split
    · rename_i hlt
      rw [max_eq_left hlt.le]
    · rename_i hnot
      rw [max_eq_right (not_lt.mp hnot)]
  refine ⟨⟨e.key, .str (min timestamp e.least), .str (max timestamp e.greatest), statusCode⟩, ?_,
    rfl, rfl, rfl⟩
  rw [hfirst, hlast, Snapshot.seen]
  simp only [lt_str]
  by_cases h1 : timestamp < e.least
  · by_cases h2 : e.greatest < timestamp
    · simp [h1, h2, bind, Except.bind]
    · simp [h1, h2, bind, Except.bind]
  · by_cases h2 : e.greatest < timestamp
    · simp [h1, h2, bind, Except.bind]
    · simp [h1, h2, bind, Except.bind]

/-- The dictionary follows the table of spans. -/
lemma enter_has {byUrl : List Snapshot} {es : List (Span String String)}
    (h : List.Forall₂ Snapshot.Has byUrl es) (timestamp original : String) (statuscode : PyVal) :
    ∃ byUrl', enter py (.str timestamp) original statuscode byUrl = .ok byUrl' ∧
      List.Forall₂ Snapshot.Has byUrl' (Spans.enter (original, timestamp) es) := by
  induction h with
  | nil => exact ⟨_, rfl, .cons ⟨rfl, rfl, rfl⟩ .nil⟩
  | cons hentry hentries ih =>
    rename_i s e byUrl es
    rw [enter, Spans.enter]
    by_cases hurl : s.url = original
    · rw [if_pos hurl, if_pos (hentry.url.symm.trans hurl)]
      obtain ⟨s', hseen, hs'⟩ := hentry.seen timestamp
      exact ⟨_, bind_eq_ok.mpr ⟨s', hseen, rfl⟩, .cons hs' hentries⟩
    · rw [if_neg hurl, if_neg fun hkey => hurl (hentry.url.trans hkey)]
      obtain ⟨byUrl', hrest, hhas⟩ := ih
      exact ⟨_, bind_eq_ok.mpr ⟨byUrl', hrest, rfl⟩, .cons hentry hhas⟩

variable (py) in
/-- One row: it counts as its capture. -/
lemma enterRow_has {byUrl : List Snapshot} {es : List (Span String String)}
    (h : List.Forall₂ Snapshot.Has byUrl es) {row : List PyVal}
    (hrow : 3 ≤ row.length → ∃ timestamp original statuscode rest,
      row = .str timestamp :: .str original :: .str statuscode :: rest) :
    ∃ byUrl', enterRow py byUrl row = .ok byUrl' ∧
      List.Forall₂ Snapshot.Has byUrl' ((captureOf row).elim es fun p => Spans.enter p es) := by
  by_cases hlong : 3 ≤ row.length
  · obtain ⟨timestamp, original, statuscode, rest, rfl⟩ := hrow hlong
    rw [enterRow, captureOf]
    by_cases hempty : original = ""
    · rw [if_pos hempty, if_pos hempty]
      exact ⟨byUrl, rfl, h⟩
    · rw [if_neg hempty, if_neg hempty]
      exact enter_has h timestamp original _
  -- a short row is passed over by both
  · match row, hlong with
    | [], _ => exact ⟨byUrl, rfl, h⟩
    | [_], _ => exact ⟨byUrl, by simp [enterRow], by simpa [captureOf] using h⟩
    | [_, _], _ => exact ⟨byUrl, by simp [enterRow], by simpa [captureOf] using h⟩
    | _ :: _ :: _ :: _, hshort => exact absurd (by simp) hshort

variable (py) in
/-- **The loop over the rows** gives the spans of the captures. -/
lemma foldlM_has {rows : List (List PyVal)} (hrows : Textual rows) {byUrl : List Snapshot}
    {es : List (Span String String)} (h : List.Forall₂ Snapshot.Has byUrl es) :
    ∃ byUrl', rows.foldlM (enterRow py) byUrl = .ok byUrl' ∧
      List.Forall₂ Snapshot.Has byUrl'
        ((captures rows).foldl (fun es p => Spans.enter p es) es) := by
  induction rows generalizing byUrl es with
  | nil => exact ⟨byUrl, rfl, h⟩
  | cons row rows ih =>
    obtain ⟨next, hnext, hhas⟩ := enterRow_has py h (hrows row List.mem_cons_self)
    obtain ⟨byUrl', hrest, hdone⟩ := ih (fun row h => hrows row (List.mem_cons_of_mem _ h)) hhas
    refine ⟨byUrl', bind_eq_ok.mpr ⟨next, hnext, hrest⟩, ?_⟩
    rw [captures, List.filterMap_cons]
    cases hcapture : captureOf row with
    | none =>
      rw [hcapture] at hdone
      exact hdone
    | some p =>
      rw [hcapture] at hdone
      exact hdone

/-! ## Sorting -/

/-- The earlier first. -/
def InOrder (s s' : Snapshot) : Prop :=
  ∀ x y, s.firstSeen = .str x → s'.firstSeen = .str y → x ≤ y

/-- The first timestamps are texts. -/
def Timed (out : List Snapshot) : Prop := ∀ s ∈ out, ∃ x, s.firstSeen = .str x

variable (py) in
lemma insertByFirstSeen_spec {s : Snapshot} {out : List Snapshot} (hs : ∃ x, s.firstSeen = .str x)
    (hout : Timed out) :
    ∃ out', insertByFirstSeen py s out = .ok out' ∧ out'.Perm (s :: out) ∧
      (out.Pairwise InOrder → out'.Pairwise InOrder) := by
  obtain ⟨x, hx⟩ := hs
  induction out with
  | nil => exact ⟨[s], rfl, .refl _, fun _ => List.pairwise_singleton _ _⟩
  | cons entry out ih =>
    obtain ⟨y, hy⟩ := hout entry List.mem_cons_self
    have hlt : entry.firstSeen.lt py s.firstSeen = .ok (decide (y < x)) := by
      rw [hx, hy, lt_str]
    by_cases hless : y < x
    · obtain ⟨out', hrest, hperm, hsorted⟩ := ih fun s h => hout s (List.mem_cons_of_mem _ h)
      refine ⟨entry :: out', ?_, (hperm.cons entry).trans (.swap _ _ _), ?_⟩
      · refine bind_eq_ok.mpr ⟨_, hlt, ?_⟩
        rw [if_pos (by simpa using hless)]
        exact bind_eq_ok.mpr ⟨out', hrest, rfl⟩
      · intro h
        obtain ⟨hhead, htail⟩ := List.pairwise_cons.mp h
        refine List.pairwise_cons.mpr ⟨fun s' hs' => ?_, hsorted htail⟩
        rcases List.mem_cons.mp (hperm.mem_iff.mp hs') with rfl | hs'
        · intro a b ha hb
          rw [hy] at ha
          rw [hx] at hb
          cases ha
          cases hb
          exact hless.le
        · exact hhead s' hs'
    · refine ⟨s :: entry :: out, ?_, .refl _, ?_⟩
      · refine bind_eq_ok.mpr ⟨_, hlt, ?_⟩
        rw [if_neg (by simpa using hless)]
      · intro h
        obtain ⟨hhead, -⟩ := List.pairwise_cons.mp h
        refine List.pairwise_cons.mpr ⟨fun s' hs' => ?_, h⟩
        intro a b ha hb
        rw [hx] at ha
        cases ha
        rcases List.mem_cons.mp hs' with rfl | hs'
        · rw [hy] at hb
          cases hb
          exact not_lt.mp hless
        · exact (not_lt.mp hless).trans (hhead s' hs' y b hy hb)

variable (py) in
lemma sortByFirstSeen_spec {out : List Snapshot} (hout : Timed out) :
    ∃ out', sortByFirstSeen py out = .ok out' ∧ out'.Perm out ∧ out'.Pairwise InOrder := by
  induction out with
  | nil => exact ⟨[], rfl, .refl _, .nil⟩
  | cons s out ih =>
    obtain ⟨sorted, hrest, hperm, hsorted⟩ := ih fun s h => hout s (List.mem_cons_of_mem _ h)
    have htimed : Timed sorted := fun s' hs' =>
      hout s' (List.mem_cons_of_mem _ (hperm.mem_iff.mp hs'))
    obtain ⟨out', hinsert, hperm', hsorted'⟩ :=
      insertByFirstSeen_spec py (hout s List.mem_cons_self) htimed
    refine ⟨out', ?_, hperm'.trans (hperm.cons s), hsorted' hsorted⟩
    rw [sortByFirstSeen, List.foldrM_cons]
    exact bind_eq_ok.mpr ⟨sorted, hrest, hinsert⟩

/-! ## The snapshots of a list of rows -/

/-- A URL with its first and its last timestamp. -/
def Snapshot.span (s : Snapshot) : String × PyVal × PyVal := (s.url, s.firstSeen, s.lastSeen)

/-- The timestamps of a URL in the rows of three fields and more. -/
def timestamps (rows : List (List PyVal)) (url : String) : Set String :=
  {timestamp | ∃ statuscode rest, .str timestamp :: .str url :: statuscode :: rest ∈ rows}

/-- One snapshot for each URL of the rows, with its first and last timestamp, in order. -/
structure Collapsed (rows : List (List PyVal)) (snapshots : List Snapshot) : Prop where
  distinct : (snapshots.map Snapshot.url).Nodup
  urls : ∀ url, url ∈ snapshots.map Snapshot.url ↔ url ≠ "" ∧ (timestamps rows url).Nonempty
  first : ∀ s ∈ snapshots, ∃ x, s.firstSeen = .str x ∧ IsLeast (timestamps rows s.url) x
  last : ∀ s ∈ snapshots, ∃ y, s.lastSeen = .str y ∧ IsGreatest (timestamps rows s.url) y
  sorted : snapshots.Pairwise InOrder

lemma mem_captures {rows : List (List PyVal)} {url timestamp : String} :
    (url, timestamp) ∈ captures rows ↔ url ≠ "" ∧ timestamp ∈ timestamps rows url := by
  rw [captures, List.mem_filterMap]
  constructor
  · rintro ⟨row, hrow, hcapture⟩
    unfold captureOf at hcapture
    split at hcapture
    · rename_i statuscode rest
      split at hcapture
      · cases hcapture
      · rename_i hurl
        cases hcapture
        exact ⟨hurl, statuscode, rest, hrow⟩
    · cases hcapture
  · rintro ⟨hurl, statuscode, rest, hrow⟩
    exact ⟨_, hrow, if_neg hurl⟩

/-- Under a URL that is not empty, its captures are its timestamps. -/
lemma valuesOf_captures {rows : List (List PyVal)} {url : String} (h : url ≠ "") :
    valuesOf (captures rows) url = timestamps rows url :=
  Set.ext fun _ => mem_captures.trans (and_iff_right h)

lemma map_url_eq {byUrl : List Snapshot} {es : List (Span String String)}
    (h : List.Forall₂ Snapshot.Has byUrl es) : byUrl.map Snapshot.url = es.map Span.key := by
  induction h with
  | nil => rfl
  | cons hentry _ ih => rw [List.map_cons, List.map_cons, hentry.url, ih]

/-- Snapshots with the spans of the captures. -/
lemma collapsed_of_has {rows : List (List PyVal)} {byUrl snapshots : List Snapshot}
    (h : List.Forall₂ Snapshot.Has byUrl (spans (captures rows))) (hperm : snapshots.Perm byUrl)
    (hsorted : snapshots.Pairwise InOrder) : Collapsed rows snapshots := by
  have hspans := spans_spanning (captures rows)
  have hkeys : ∀ url, url ∈ snapshots.map Snapshot.url ↔
      url ≠ "" ∧ (timestamps rows url).Nonempty := by
    intro url
    rw [(hperm.map Snapshot.url).mem_iff, map_url_eq h, hspans.keys, List.mem_map]
    constructor
    · rintro ⟨⟨_, timestamp⟩, hmem, rfl⟩
      exact (mem_captures.mp hmem).imp_right fun ht => ⟨timestamp, ht⟩
    · rintro ⟨hurl, timestamp, ht⟩
      exact ⟨(url, timestamp), mem_captures.mpr ⟨hurl, ht⟩, rfl⟩
  have hspan : ∀ s ∈ snapshots, ∃ e ∈ spans (captures rows), s.Has e ∧ s.url ≠ "" := by
    intro s hs
    obtain ⟨e, he, hhas⟩ := exists_paired h (hperm.mem_iff.mp hs)
    exact ⟨e, he, hhas, ((hkeys s.url).mp (List.mem_map_of_mem hs)).1⟩
  refine ⟨?_, hkeys, fun s hs => ?_, fun s hs => ?_, hsorted⟩
  · rw [(hperm.map Snapshot.url).nodup_iff, map_url_eq h]
    exact hspans.nodup
  · obtain ⟨e, he, hhas, hurl⟩ := hspan s hs
    refine ⟨e.least, hhas.first, ?_⟩
    rw [← valuesOf_captures hurl, hhas.url]
    exact hspans.least e he
  · obtain ⟨e, he, hhas, hurl⟩ := hspan s hs
    refine ⟨e.greatest, hhas.last, ?_⟩
    rw [← valuesOf_captures hurl, hhas.url]
    exact hspans.greatest e he

variable (py) in
/-- `_extract_snapshots` collapses rows of texts. -/
lemma extractSnapshots_collapsed {rows : List (List PyVal)} (hrows : Textual rows) :
    ∃ snapshots, extractSnapshots py rows = .ok snapshots ∧ Collapsed rows snapshots := by
  obtain ⟨byUrl, hfold, hhas⟩ := foldlM_has py hrows .nil
  have htimed : Timed byUrl := by
    intro s hs
    obtain ⟨e, -, he⟩ := exists_paired hhas hs
    exact ⟨e.least, he.first⟩
  obtain ⟨snapshots, hsort, hperm, hsorted⟩ := sortByFirstSeen_spec py htimed
  exact ⟨snapshots, bind_eq_ok.mpr ⟨byUrl, hfold, hsort⟩, collapsed_of_has hhas hperm hsorted⟩

/-- A URL and its timestamps say what its span is. -/
lemma Collapsed.mem_span {rows : List (List PyVal)} {snapshots : List Snapshot}
    (h : Collapsed rows snapshots) (url : String) (first last : PyVal) :
    (url, first, last) ∈ snapshots.map Snapshot.span ↔ url ≠ "" ∧
      (∃ x, first = .str x ∧ IsLeast (timestamps rows url) x) ∧
        ∃ y, last = .str y ∧ IsGreatest (timestamps rows url) y := by
  constructor
  · intro hmem
    obtain ⟨s, hs, hspan⟩ := List.mem_map.mp hmem
    cases hspan
    exact ⟨((h.urls s.url).mp (List.mem_map_of_mem hs)).1, h.first s hs, h.last s hs⟩
  · rintro ⟨hurl, ⟨x, rfl, hleast⟩, ⟨y, rfl, hgreatest⟩⟩
    have hmem := (h.urls url).mpr ⟨hurl, ⟨x, hleast.1⟩⟩
    obtain ⟨s, hs, rfl⟩ := List.mem_map.mp hmem
    obtain ⟨x', hx', hleast'⟩ := h.first s hs
    obtain ⟨y', hy', hgreatest'⟩ := h.last s hs
    refine List.mem_map.mpr ⟨s, hs, ?_⟩
    rw [Snapshot.span, hx', hy', hleast'.unique hleast, hgreatest'.unique hgreatest]

/-- Two lists of the same rows have the same spans. -/
lemma Collapsed.perm {rows rows' : List (List PyVal)} {snapshots snapshots' : List Snapshot}
    (h : Collapsed rows snapshots) (h' : Collapsed rows' snapshots') (hperm : rows.Perm rows')
    (span : String × PyVal × PyVal) :
    span ∈ snapshots.map Snapshot.span ↔ span ∈ snapshots'.map Snapshot.span := by
  obtain ⟨url, first, last⟩ := span
  have htimes : timestamps rows url = timestamps rows' url :=
    Set.ext fun _ => exists₂_congr fun _ _ => hperm.mem_iff
  rw [h.mem_span, h'.mem_span, htimes]

/-! ## The result -/

/-- The entities and the snapshots that are skipped are the first `MAX_SNAPSHOTS`, and the flag
says whether there are more. -/
structure Accounts (snapshots : List Snapshot) (result : QueryResult) : Prop where
  labels : result.entities.map EntityProposal.label
    = ((snapshots.take maxSnapshots).filter Snapshot.fits).map Snapshot.url
  evidence : ∃ evidence skipped, result.evidence = [evidence] ∧
    evidence.reproducibilitySpec.lookup "truncated"
      = some (.bool (decide (maxSnapshots < snapshots.length))) ∧
    evidence.reproducibilitySpec.lookup "skipped_too_long" = some (.int (skipped : ℕ)) ∧
    result.entities.length + skipped = min snapshots.length maxSnapshots

/-- The loop makes an entity of each snapshot whose URL fits. -/
lemma proposals_labels (i : ℕ) {snapshots : List Snapshot} (hi : i + snapshots.length ≤ 10 ^ 50)
    (hurls : ∀ s ∈ snapshots, s.url ≠ "") :
    ∃ entities relationships, proposals i snapshots = .ok (entities, relationships) ∧
      entities.map EntityProposal.label = (snapshots.filter Snapshot.fits).map Snapshot.url := by
  induction snapshots generalizing i with
  | nil => exact ⟨[], [], rfl, rfl⟩
  | cons s snapshots ih =>
    rw [List.length_cons] at hi
    obtain ⟨entities, relationships, hrest, hlabels⟩ :=
      ih (i + 1) (by omega) fun s hs => hurls s (List.mem_cons_of_mem _ hs)
    rw [proposals]
    by_cases hfits : s.fits = true
    · have hlabel : LengthIn 512 (String.ofList s.url.toList) := by
        have hle : s.url.length ≤ maxUrlLen := of_decide_eq_true hfits
        have hne : s.url.length ≠ 0 := fun h =>
          hurls s List.mem_cons_self (String.length_eq_zero_iff.mp h)
        have hmax : maxUrlLen = 500 := rfl
        rw [String.ofList_toList]
        unfold LengthIn
        omega
      have hentity : entityProposal i s = .ok _ := entityProposal_ok.mpr
        ⟨⟨numbered_length (by decide) (by omega), hlabel, by decide +kernel⟩, rfl⟩
      rw [if_pos hfits, List.filter_cons_of_pos hfits, List.map_cons]
      refine ⟨_, _, bind_eq_ok.mpr ⟨_, hentity, bind_eq_ok.mpr ⟨_, hrest, rfl⟩⟩, ?_⟩
      rw [List.map_cons, hlabels, String.ofList_toList]
    · rw [if_neg hfits, List.filter_cons_of_neg hfits]
      exact ⟨entities, relationships, hrest, hlabels⟩

/-- A label of a valid entity fits the question. -/
lemma question_fits {label : String} (h : LengthIn 512 label) :
    LengthIn 1024 (String.ofList ("wayback CDX lookup for ".toList ++ strip label.toList)) := by
  have hstrip := length_strip_le label.toList
  have hstem : "wayback CDX lookup for ".toList.length = 23 := by decide +kernel
  unfold LengthIn at h ⊢
  rw [String.length_toList] at hstrip
  rw [String.length_ofList, List.length_append, hstem]
  omega

/-- `query` accounts for the snapshots of its rows. -/
lemma query_accounts {u : Upstream} {input : Entity} (hinput : LengthIn 512 input.label)
    (hlabel : strip input.label.toList ≠ []) {raw : Bytes} {rows : List (List PyVal)}
    {status : String}
    (hfetched : fetched u ⟨urlOf input (strip input.label.toList), [userAgent]⟩
      = .ok (raw, rows, status))
    {snapshots : List Snapshot} (hextract : extractSnapshots py rows = .ok snapshots)
    (hcollapsed : Collapsed rows snapshots) :
    ∃ result, query py u input = .ok result ∧ Accounts snapshots result := by
  have hasked : ¬ (strip input.label.toList).isEmpty = true := by
    rwa [List.isEmpty_iff]
  have hlength : (snapshots.take maxSnapshots).length = min maxSnapshots snapshots.length :=
    List.length_take
  have hcap : maxSnapshots = 500 := rfl
  obtain ⟨entities, relationships, hproposals, hlabels⟩ :=
    proposals_labels 0 (by omega : 0 + (snapshots.take maxSnapshots).length ≤ 10 ^ 50) fun s hs =>
      ((hcollapsed.urls s.url).mp (List.mem_map_of_mem (List.mem_of_mem_take hs))).1
  have hcount : entities.length = ((snapshots.take maxSnapshots).filter Snapshot.fits).length := by
    simpa using congrArg List.length hlabels
  have hparts := List.length_eq_length_filter_add (l := snapshots.take maxSnapshots) Snapshot.fits
  let skipped := ((snapshots.take maxSnapshots).filter fun s => !s.fits).length
  let stated := spec u (urlOf input (strip input.label.toList)) entities.length skipped
    (decide (maxSnapshots < snapshots.length)) status
  obtain ⟨evidence, hevidence, hspec⟩ : ∃ evidence, EvidenceProposal.validate
      ("wayback CDX lookup for ".toList ++ strip input.label.toList)
      (if raw.isEmpty then utf8 "[]".toList else raw) stated = .ok evidence ∧
        evidence.reproducibilitySpec = stated :=
    ⟨_, evidenceProposal_ok.mpr ⟨question_fits hinput, rfl⟩, rfl⟩
  refine ⟨⟨entities, relationships, [evidence]⟩, ?_, hlabels, evidence, skipped, rfl, ?_, ?_, ?_⟩
  · rw [query]
    dsimp only
    rw [if_neg hasked]
    refine bind_eq_ok.mpr ⟨_, hfetched, bind_eq_ok.mpr ⟨_, hextract, ?_⟩⟩
    exact bind_eq_ok.mpr ⟨_, hproposals, bind_eq_ok.mpr ⟨_, hevidence, rfl⟩⟩
  · rw [hspec]
    rfl
  · rw [hspec]
    rfl
  · show entities.length + skipped = _
    omega

/-- Rows are collapsed to one snapshot for each URL, with its first and last timestamp, in order;
the order of the rows does not matter for the spans; and `query` makes entities of the earliest, or
counts them as skipped. -/
def CollapsesRows (py : Interp) (rows : List (List PyVal)) : Prop :=
  ∃ snapshots, extractSnapshots py rows = .ok snapshots ∧ Collapsed rows snapshots ∧
    (∀ rows', rows.Perm rows' → ∃ snapshots', extractSnapshots py rows' = .ok snapshots' ∧
      ∀ span, span ∈ snapshots.map Snapshot.span ↔ span ∈ snapshots'.map Snapshot.span) ∧
    ∀ (u : Upstream) (input : Entity) (raw : Bytes) (status : String),
      LengthIn 512 input.label → strip input.label.toList ≠ [] →
      fetched u ⟨urlOf input (strip input.label.toList), [userAgent]⟩ = .ok (raw, rows, status) →
        ∃ result, query py u input = .ok result ∧ Accounts snapshots result

/-- **Snapshots** of rows of texts. -/
theorem extractSnapshots_collapses (py : Interp) {rows : List (List PyVal)}
    (hrows : Textual rows) : CollapsesRows py rows := by
  obtain ⟨snapshots, hextract, hcollapsed⟩ := extractSnapshots_collapsed py hrows
  refine ⟨snapshots, hextract, hcollapsed, fun rows' hperm => ?_, ?_⟩
  · have hrows' : Textual rows' := fun row hrow => hrows row (hperm.mem_iff.mpr hrow)
    obtain ⟨snapshots', hextract', hcollapsed'⟩ := extractSnapshots_collapsed py hrows'
    exact ⟨snapshots', hextract', hcollapsed.perm hcollapsed' hperm⟩
  · intro u input raw status hinput hlabel hfetched
    exact query_accounts hinput hlabel hfetched hextract hcollapsed

/-- Two captures of one page, out of order, and a short row. -/
def archivedRows : List (List PyVal) :=
  [[.str "20200102", .str "http://example.com/", .str "200"], [.str "20200103"],
    [.str "20200101", .str "http://example.com/", .str "200"]]

theorem extractSnapshots_collapses_archived : CollapsesRows plainInterp archivedRows := by
  refine extractSnapshots_collapses plainInterp fun row hrow hlong => ?_
  simp only [archivedRows, List.mem_cons, List.not_mem_nil, or_false] at hrow
  rcases hrow with rfl | rfl | rfl
  · exact ⟨_, _, _, [], rfl⟩
  · exact absurd hlong (by decide)
  · exact ⟨_, _, _, [], rfl⟩

end WaybackCdx

end Sleuthgraph
