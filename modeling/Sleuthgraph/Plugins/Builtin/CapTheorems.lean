import Sleuthgraph.Plugins.Builtin.CrtSh
import Sleuthgraph.Plugins.Builtin.WaybackCdx
import Sleuthgraph.Plugins.Builtin.VirusTotal
import Sleuthgraph.Plugins.Builtin.Shodan
import Sleuthgraph.Plugins.Runner

/-!
# The plugins' caps against the runner's

A plugin that truncates bounds its entities, and adds a relationship for each and one evidence
record. With 500 or 50 entities that stays under `MAX_PROPOSALS_PER_RUN`; with the 1000 of
`crtsh` it does not, so the runner refuses an answer just when it fills the set.
-/

namespace Sleuthgraph

open Firsts

/-- What the plugin returns, if it returns, is within the runner's cap. -/
def FitsRunner (plugin : OSINTPlugin) (input : Entity) (credentials : Option PyDict) : Prop :=
  ∀ result, plugin.query input credentials = .ok result → result.total ≤ maxProposalsPerRun

/-! ## Proposals -/

/-- Any number a loop reaches is short enough for a reference. -/
lemma numbered_length {stem : String} (hstem : stem.length ≤ 9) {i : ℕ} (hi : i < 10 ^ 50) :
    LengthIn 64 (numbered stem i) := by
  have hdigits : (toString i).length ≤ 50 := (Nat.length_repr_le_iff (by decide)).mpr hi
  have hlen : (numbered stem i).length = stem.length + 1 + (toString i).length := by
    rw [numbered, String.length_append, String.length_append]
    rfl
  unfold LengthIn
  omega

lemma entityProposal_ok {ref : String} {type : EntityType} {label : List Char} {attrs : PyDict}
    {confidence : ℚ} {ep : EntityProposal} :
    EntityProposal.validate ref type label attrs confidence = .ok ep ↔
      (LengthIn 64 ref ∧ LengthIn 512 (String.ofList label) ∧ UnitRange confidence) ∧
        ⟨ref, type, String.ofList label, attrs, confidence⟩ = ep := by
  unfold EntityProposal.validate
  split
  · rename_i h
    simp [h]
  · rename_i h
    simp [h]

lemma evidenceProposal_ok {query : List Char} {payload : Bytes} {spec : PyDict}
    {evp : EvidenceProposal} :
    EvidenceProposal.validate query payload spec = .ok evp ↔
      LengthIn 1024 (String.ofList query) ∧
        ⟨String.ofList query, payload, some "application/json", spec, true⟩ = evp := by
  unfold EvidenceProposal.validate
  split
  · rename_i h
    simp [h]
  · rename_i h
    simp [h]

/-! ## `wayback_cdx` -/

namespace WaybackCdx

lemma proposals_length {i : ℕ} {snapshots : List Snapshot} {entities : List EntityProposal}
    {relationships : List RelationshipProposal}
    (h : proposals i snapshots = .ok (entities, relationships)) :
    entities.length ≤ snapshots.length ∧ relationships.length = entities.length := by
  induction snapshots generalizing i entities relationships with
  | nil =>
    cases h
    exact ⟨Nat.le_refl _, rfl⟩
  | cons s snapshots ih =>
    unfold proposals at h
    split at h
    · obtain ⟨entity, -, h⟩ := bind_eq_ok.mp h
      obtain ⟨⟨es, rs⟩, hrest, h⟩ := bind_eq_ok.mp h
      cases h
      obtain ⟨hle, heq⟩ := ih hrest
      simp only [List.length_cons]
      omega
    -- a URL that is too long is skipped
    · obtain ⟨hle, heq⟩ := ih h
      rw [List.length_cons]
      omega

lemma query_total {py : Interp} {u : Upstream} {input : Entity} {result : QueryResult}
    (h : query py u input = .ok result) : result.total ≤ 2 * maxSnapshots + 1 := by
  unfold query at h
  dsimp only at h
  split at h
  · cases h
    show 0 ≤ _
    omega
  · obtain ⟨⟨raw, rows, fetchStatus⟩, -, h⟩ := bind_eq_ok.mp h
    obtain ⟨all, -, h⟩ := bind_eq_ok.mp h
    obtain ⟨⟨entities, relationships⟩, hproposals, h⟩ := bind_eq_ok.mp h
    obtain ⟨evidence, -, h⟩ := bind_eq_ok.mp h
    cases h
    obtain ⟨hle, heq⟩ := proposals_length hproposals
    have htake : (all.take maxSnapshots).length ≤ maxSnapshots := List.length_take_le _ _
    simp only [QueryResult.total, List.length_singleton]
    omega

end WaybackCdx

/-! ## `virustotal` -/

namespace VirusTotal

/-- Below the cap, with a relationship for each entity. -/
structure Found.Capped (found : Found) : Prop where
  entities : found.entities.length ≤ maxEntities
  relationships : found.relationships.length = found.entities.length

/-- `found'` has at most one entity more, with its relationship. -/
def Found.OneMore (found found' : Found) : Prop :=
  found' = found ∨ ∃ entity relationship, found' = found.add entity relationship

lemma Found.empty_capped : Found.empty.Capped := ⟨Nat.zero_le _, rfl⟩

lemma Found.Capped.oneMore {found found' : Found} (h : found.Capped)
    (hroom : found.entityCount < maxEntities) (hone : found.OneMore found') : found'.Capped := by
  rcases hone with rfl | ⟨entity, relationship, rfl⟩
  · exact h
  · have hrel := h.relationships
    unfold entityCount at hroom
    constructor
    · simp only [add, List.length_append, List.length_singleton]
      omega
    · simp only [add, List.length_append, List.length_singleton, hrel]

/-- A loop whose body adds at most one entity stays below the cap. -/
lemma eachRecord_capped {body : Found → PyVal → Except Exc Found}
    (hbody : ∀ found rec found', body found rec = .ok found' → found.OneMore found')
    {records : List PyVal} {found found' : Found} (hfound : found.Capped)
    (h : eachRecord body found records = .ok found') : found'.Capped := by
  induction records generalizing found with
  | nil =>
    cases h
    exact hfound
  | cons rec records ih =>
    unfold eachRecord at h
    split at h
    -- the cap is reached: only the flag changes
    · cases h
      exact ⟨hfound.entities, hfound.relationships⟩
    · rename_i hroom
      obtain ⟨next, hnext, h⟩ := bind_eq_ok.mp h
      exact ih (hfound.oneMore (by omega) (hbody _ _ _ hnext)) h

variable {u : Upstream}

lemma addAddress_oneMore {found found' : Found} {rec : PyVal}
    (h : addAddress u found rec = .ok found') : found.OneMore found' := by
  obtain ⟨rtype, -, h⟩ := bind_eq_ok.mp h
  obtain ⟨value, -, h⟩ := bind_eq_ok.mp h
  split at h
  · obtain ⟨entity, -, h⟩ := bind_eq_ok.mp h
    cases h
    exact Or.inr ⟨_, _, rfl⟩
  · cases h
    exact Or.inl rfl

lemma addSubdomain_oneMore {domain : List Char} {found found' : Found} {rec : PyVal}
    (h : addSubdomain u domain found rec = .ok found') : found.OneMore found' := by
  obtain ⟨rtype, -, h⟩ := bind_eq_ok.mp h
  obtain ⟨stripped, -, h⟩ := bind_eq_ok.mp h
  dsimp only at h
  split at h
  · obtain ⟨entity, -, h⟩ := bind_eq_ok.mp h
    cases h
    exact Or.inr ⟨_, _, rfl⟩
  · cases h
    exact Or.inl rfl

lemma addAltName_oneMore {found found' : Found} {name : PyVal}
    (h : addAltName u found name = .ok found') : found.OneMore found' := by
  unfold addAltName at h
  split at h
  · dsimp only at h
    split at h
    · obtain ⟨entity, -, h⟩ := bind_eq_ok.mp h
      cases h
      exact Or.inr ⟨_, _, rfl⟩
    · cases h
      exact Or.inl rfl
  · cases h

lemma extractDomain_capped {domain : List Char} {data : PyDict} {found : Found}
    (h : extractDomain u domain data = .ok found) : found.Capped := by
  obtain ⟨records, -, h⟩ := bind_eq_ok.mp h
  obtain ⟨items, -, h⟩ := bind_eq_ok.mp h
  obtain ⟨addresses, haddresses, h⟩ := bind_eq_ok.mp h
  have hcapped := eachRecord_capped (fun _ _ _ => addAddress_oneMore) Found.empty_capped haddresses
  exact eachRecord_capped (fun _ _ _ => addSubdomain_oneMore) hcapped h

lemma extractIp_capped {data : PyDict} {found : Found} (h : extractIp u data = .ok found) :
    found.Capped := by
  obtain ⟨names, -, h⟩ := bind_eq_ok.mp h
  obtain ⟨items, -, h⟩ := bind_eq_ok.mp h
  exact eachRecord_capped (fun _ _ _ => addAltName_oneMore) Found.empty_capped h

lemma resultOf_total {question : String} {subject url : List Char} {raw : Bytes} {found : Found}
    (hfound : found.Capped) {result : QueryResult}
    (h : resultOf u question subject url raw found = .ok result) :
    result.total ≤ 2 * maxEntities + 1 := by
  obtain ⟨evidence, -, h⟩ := bind_eq_ok.mp h
  cases h
  have hentities := hfound.entities
  have hrelationships := hfound.relationships
  simp only [QueryResult.total, List.length_singleton]
  omega

lemma empty_total : QueryResult.total ⟨[], [], []⟩ ≤ 2 * maxEntities + 1 := Nat.zero_le _

lemma queryDomain_total {label : List Char} {apiKey : String} {result : QueryResult}
    (h : queryDomain u label apiKey = .ok result) : result.total ≤ 2 * maxEntities + 1 := by
  unfold queryDomain at h
  dsimp only at h
  split at h
  · cases h
    exact empty_total
  · obtain ⟨⟨raw, data⟩, -, h⟩ := bind_eq_ok.mp h
    obtain ⟨found, hfound, h⟩ := bind_eq_ok.mp h
    exact resultOf_total (extractDomain_capped hfound) h

lemma queryIp_total {ip : List Char} {apiKey : String} {result : QueryResult}
    (h : queryIp u ip apiKey = .ok result) : result.total ≤ 2 * maxEntities + 1 := by
  unfold queryIp at h
  split at h
  · cases h
    exact empty_total
  · obtain ⟨⟨raw, data⟩, -, h⟩ := bind_eq_ok.mp h
    obtain ⟨found, hfound, h⟩ := bind_eq_ok.mp h
    exact resultOf_total (extractIp_capped hfound) h

lemma queryUrl_total {urlLabel : List Char} {apiKey : String} {result : QueryResult}
    (h : queryUrl u urlLabel apiKey = .ok result) : result.total ≤ 2 * maxEntities + 1 := by
  obtain ⟨⟨raw, data⟩, -, h⟩ := bind_eq_ok.mp h
  exact resultOf_total Found.empty_capped h

lemma query_total {input : Entity} {credentials : Option PyDict} {result : QueryResult}
    (h : query u input credentials = .ok result) : result.total ≤ 2 * maxEntities + 1 := by
  obtain ⟨apiKey, -, h⟩ := bind_eq_ok.mp h
  split at h
  · cases h
  · rename_i type _
    dsimp only at h
    split at h
    · cases h
      exact empty_total
    · cases type
      case domain => exact queryDomain_total h
      case ipAddress => exact queryIp_total h
      case url => exact queryUrl_total h
      all_goals
        cases h
        exact empty_total

end VirusTotal

/-! ## `shodan` -/

namespace Shodan

variable {u : Upstream}

/-- Below the cap, with a relationship for each entity. -/
structure Found.Capped (found : Found) : Prop where
  entities : found.entities.length ≤ maxEntities
  relationships : found.relationships.length = found.entities.length

lemma addName_capped {confidence : ℚ} {found found' : Found} {name : PyVal}
    (hfound : found.Capped) (hroom : found.entityCount < maxEntities)
    (h : addName u confidence found name = .ok found') : found'.Capped := by
  unfold addName at h
  split at h
  · dsimp only at h
    split at h
    · cases h
      exact hfound
    · obtain ⟨entity, -, h⟩ := bind_eq_ok.mp h
      cases h
      have hrelationships := hfound.relationships
      unfold Found.entityCount at hroom
      constructor
      · simp only [List.length_append, List.length_singleton]
        omega
      · simp only [List.length_append, List.length_singleton, hrelationships]
  · cases h
    exact hfound

lemma eachName_capped {confidence : ℚ} {names : List PyVal} {found found' : Found}
    (hfound : found.Capped) (h : eachName u confidence found names = .ok found') :
    found'.Capped := by
  induction names generalizing found with
  | nil =>
    cases h
    exact hfound
  | cons name names ih =>
    unfold eachName at h
    split at h
    · cases h
      exact ⟨hfound.entities, hfound.relationships⟩
    · rename_i hroom
      obtain ⟨next, hnext, h⟩ := bind_eq_ok.mp h
      exact ih (addName_capped hfound (by omega) hnext) h

lemma query_total {input : Entity} {credentials : Option PyDict} {result : QueryResult}
    (h : query u input credentials = .ok result) : result.total ≤ 2 * maxEntities + 1 := by
  obtain ⟨apiKey, -, h⟩ := bind_eq_ok.mp h
  dsimp only at h
  split at h
  · cases h
    exact Nat.zero_le _
  · obtain ⟨⟨raw, data⟩, -, h⟩ := bind_eq_ok.mp h
    obtain ⟨found, hfound, h⟩ := bind_eq_ok.mp h
    obtain ⟨services, -, h⟩ := bind_eq_ok.mp h
    obtain ⟨evidence, -, h⟩ := bind_eq_ok.mp h
    cases h
    obtain ⟨hostnames, hhostnames, hdomains⟩ := bind_eq_ok.mp hfound
    have hcapped := eachName_capped (eachName_capped ⟨Nat.zero_le _, rfl⟩ hhostnames) hdomains
    have hentities := hcapped.entities
    have hrelationships := hcapped.relationships
    simp only [QueryResult.total, List.length_singleton]
    omega

end Shodan

/-! ## `crtsh` -/

namespace CrtSh

variable {u : Upstream} {domain : List Char}

/-- The names that pass the tests, up to the first entry that is no dict. -/
def names (u : Upstream) (domain : List Char) : List PyVal → List (List Char)
  | .dict entry :: data => entryNames u domain entry ++ names u domain data
  | _ => []

/-- Every entry is a dict. -/
def allDicts : List PyVal → Bool
  | [] => true
  | .dict _ :: data => allDicts data
  | _ :: _ => false

/-- The loop collects names, and raises when it meets no dict before the set is full. -/
lemma extractFrom_eq (data : List PyVal) (acc : List (List Char)) :
    extractFrom u domain acc data =
      if (collect maxSubdomains acc (names u domain data)).2 || allDicts data then
        .ok (collect maxSubdomains acc (names u domain data))
      else .error Exc.attributeError := by
  induction data generalizing acc with
  | nil => rfl
  | cons entry data ih =>
    cases entry with
    | dict entry =>
      rw [extractFrom, names, collect_append, allDicts]
      obtain ⟨result, stopped⟩ := collect maxSubdomains acc (entryNames u domain entry)
      cases stopped with
      | true => rfl
      | false => exact ih result
    | _ => rfl

/-- The distinct names of an answer. -/
def distinctNames (u : Upstream) (domain : List Char) (data : List PyVal) : List (List Char) :=
  firsts (names u domain data)

/-- A name comes when the set is already full. -/
def ComesFull (names : List (List Char)) : Prop :=
  ∃ init x rest, names = init ++ x :: rest ∧ maxSubdomains ≤ (firsts init).length

/-- The answer fills the set: it has `MAX_SUBDOMAINS` distinct names, its entries are dicts as
far as they are read, and the texts that become labels and the query fit their fields. -/
structure Fills (u : Upstream) (domain : List Char) (data : List PyVal) : Prop where
  many : maxSubdomains ≤ (distinctNames u domain data).length
  read : ComesFull (names u domain data) ∨ allDicts data = true
  short : ∀ name ∈ (distinctNames u domain data).take maxSubdomains, name.length ≤ 512
  query_short : (evidenceQuery domain).length ≤ 1024

/-- `crt.sh` answers the question about the domain with an answer that fills the set. -/
def Overfull (u : Upstream) (input : Entity) : Prop :=
  domainOf u input ≠ [] ∧ ∃ raw data, fetch u (requestOf (domainOf u input)) = .ok (raw, data) ∧
    Fills u (domainOf u input) data

lemma extractSubdomains_ok {data : List PyVal} {subdomains : List (List Char)} {truncated : Bool} :
    extractSubdomains u data domain = .ok (subdomains, truncated) ↔
      (ComesFull (names u domain data) ∨ allDicts data = true) ∧
        collect maxSubdomains [] (names u domain data) = (subdomains, truncated) := by
  have hstop : (collect maxSubdomains [] (names u domain data)).2 = true ↔
      ComesFull (names u domain data) := collect_snd _
  rw [extractSubdomains, extractFrom_eq, ← hstop, ← Bool.or_eq_true]
  split
  · rename_i h
    simp [h]
  · rename_i h
    simp [h]

/-- What is extracted. -/
lemma extracted_eq {data : List PyVal} {subdomains : List (List Char)} {truncated : Bool}
    (h : collect maxSubdomains [] (names u domain data) = (subdomains, truncated)) :
    subdomains = (distinctNames u domain data).take maxSubdomains := by
  have hempty : ([] : List (List Char)).length ≤ maxSubdomains := Nat.zero_le _
  have := collect_fst hempty (names u domain data)
  rw [h] at this
  exact this

lemma name_length_pos {data : List PyVal} {name : List Char} (h : name ∈ names u domain data) :
    1 ≤ name.length := by
  fun_induction names u domain data with
  | case1 entry data ih =>
    rcases List.mem_append.mp h with h | h
    · unfold entryNames at h
      split at h
      · obtain ⟨-, haccepted⟩ := List.mem_filter.mp h
        simp only [accepted, Bool.and_eq_true, Bool.not_eq_true'] at haccepted
        have hne : name ≠ [] := by simpa using haccepted.1.1.1.1
        exact List.length_pos_of_ne_nil hne
      · cases h
    · exact ih h
  | case2 => cases h

lemma entityProposals_ok {i : ℕ} {subs : List (List Char)} (hi : i + subs.length ≤ 10 ^ 50) :
    (∃ eps, entityProposals i subs = .ok eps) ↔
      ∀ sub ∈ subs, LengthIn 512 (String.ofList sub) := by
  induction subs generalizing i with
  | nil => exact iff_of_true ⟨[], rfl⟩ (by simp)
  | cons sub subs ih =>
    rw [List.length_cons] at hi
    have hih := ih (i := i + 1) (by omega)
    have href : LengthIn 64 (numbered "sub" i) := numbered_length (by decide) (by omega)
    have hconfidence : UnitRange (4 / 5) := by decide +kernel
    simp only [entityProposals, bind_eq_ok, entityProposal_ok, href, hconfidence, List.mem_cons,
      forall_eq_or_imp, ← hih]
    grind

lemma entityProposals_length {i : ℕ} {subs : List (List Char)} {eps : List EntityProposal}
    (h : entityProposals i subs = .ok eps) : eps.length = subs.length := by
  induction subs generalizing i eps with
  | nil =>
    cases h
    rfl
  | cons sub subs ih =>
    obtain ⟨ep, -, h⟩ := bind_eq_ok.mp h
    obtain ⟨rest, hrest, h⟩ := bind_eq_ok.mp h
    cases h
    rw [List.length_cons, List.length_cons, ih hrest]

lemma mem_sortedNames {l : List (List Char)} {name : List Char} :
    name ∈ sortedNames l ↔ name ∈ l := (List.perm_insertionSort _ l).mem_iff

lemma length_sortedNames (l : List (List Char)) : (sortedNames l).length = l.length :=
  List.length_insertionSort _ l

/-- The labels are valid when the names are short; a name is never empty. -/
lemma labels_valid_iff {data : List PyVal} :
    (∀ sub ∈ sortedNames ((distinctNames u domain data).take maxSubdomains),
        LengthIn 512 (String.ofList sub)) ↔
      ∀ name ∈ (distinctNames u domain data).take maxSubdomains, name.length ≤ 512 := by
  refine forall_congr' fun name => ?_
  rw [mem_sortedNames]
  refine imp_congr_right fun hname => ?_
  have hmem : name ∈ names u domain data := by
    rcases mem_firstsAfter.mp (List.mem_of_mem_take hname) with h | h
    · cases h
    · exact h
  have hpos := name_length_pos hmem
  unfold LengthIn
  rw [String.length_ofList]
  omega

lemma query_length_iff :
    LengthIn 1024 (String.ofList (evidenceQuery domain))
      ↔ (evidenceQuery domain).length ≤ 1024 := by
  have hpos : 1 ≤ (evidenceQuery domain).length :=
    List.length_pos_of_ne_nil (List.append_ne_nil_of_left_ne_nil (by simp) _)
  generalize evidenceQuery domain = query at hpos ⊢
  unfold LengthIn
  rw [String.length_ofList]
  omega

/-- Few enough entities for their references. -/
lemma taken_length_le (data : List PyVal) :
    0 + (sortedNames ((distinctNames u domain data).take maxSubdomains)).length ≤ 10 ^ 50 := by
  have htake : ((distinctNames u domain data).take maxSubdomains).length ≤ maxSubdomains :=
    List.length_take_le _ _
  have hcap : maxSubdomains = 1000 := rfl
  rw [length_sortedNames]
  omega

/-- An answer that fills the set makes 1000 entities, 1000 relationships and one evidence. -/
lemma Overfull.exceeds {input : Entity} (h : Overfull u input) :
    ∃ result, query u input = .ok result ∧ maxProposalsPerRun < result.total := by
  obtain ⟨hdomain, raw, data, hfetch, hfills⟩ := h
  generalize hd : domainOf u input = domain at hdomain hfetch hfills
  obtain ⟨subdomains, truncated, hcollect⟩ :
      ∃ subdomains truncated, collect maxSubdomains [] (names u domain data)
        = (subdomains, truncated) := ⟨_, _, rfl⟩
  have hextract := extractSubdomains_ok.mpr ⟨hfills.read, hcollect⟩
  obtain rfl := extracted_eq hcollect
  obtain ⟨eps, heps⟩ := (entityProposals_ok (taken_length_le data)).mpr
    (labels_valid_iff.mpr hfills.short)
  have hlength : eps.length = 1000 := by
    have hmany := hfills.many
    have hcap : maxSubdomains = 1000 := rfl
    rw [entityProposals_length heps, length_sortedNames, List.length_take]
    omega
  obtain ⟨evidence, hevidence⟩ : ∃ evidence, EvidenceProposal.validate (evidenceQuery domain) raw
      (spec u (urlOf domain) eps.length truncated) = .ok evidence :=
    ⟨_, evidenceProposal_ok.mpr ⟨query_length_iff.mpr hfills.query_short, rfl⟩⟩
  refine ⟨⟨eps, (List.range eps.length).map relationshipProposal, [evidence]⟩, ?_, ?_⟩
  · unfold query
    dsimp only
    rw [hd, if_neg (by simpa using hdomain)]
    refine bind_eq_ok.mpr ⟨_, hfetch, ?_⟩
    refine bind_eq_ok.mpr ⟨_, hextract, ?_⟩
    refine bind_eq_ok.mpr ⟨_, heps, ?_⟩
    exact bind_eq_ok.mpr ⟨_, hevidence, rfl⟩
  · have hcap : maxProposalsPerRun = 2000 := rfl
    simp only [QueryResult.total, List.length_map, List.length_range, List.length_singleton]
    omega

/-- A result over the cap comes from an answer that fills the set. -/
lemma overfull_of_exceeds {input : Entity} {result : QueryResult}
    (h : query u input = .ok result) (htotal : maxProposalsPerRun < result.total) :
    Overfull u input := by
  unfold query at h
  dsimp only at h
  split at h
  · cases h
    exact absurd htotal (Nat.not_lt_zero _)
  · rename_i hdomain
    generalize hd : domainOf u input = domain at hdomain h
    obtain ⟨⟨raw, data⟩, hfetch, h⟩ := bind_eq_ok.mp h
    obtain ⟨⟨subdomains, truncated⟩, hextract, h⟩ := bind_eq_ok.mp h
    obtain ⟨eps, heps, h⟩ := bind_eq_ok.mp h
    obtain ⟨evidence, hevidence, h⟩ := bind_eq_ok.mp h
    cases h
    obtain ⟨hread, hcollect⟩ := extractSubdomains_ok.mp hextract
    obtain rfl := extracted_eq hcollect
    have hlength := entityProposals_length heps
    rw [length_sortedNames, List.length_take] at hlength
    have hcap : maxProposalsPerRun = 2000 := rfl
    have hsubs : maxSubdomains = 1000 := rfl
    simp only [QueryResult.total, List.length_map, List.length_range, List.length_singleton]
      at htotal
    refine ⟨by rw [hd]; simpa using hdomain, raw, data, hd ▸ hfetch, hd ▸ ?_⟩
    dsimp only at hlength hread
    refine ⟨by omega, hread, ?_, ?_⟩
    · exact labels_valid_iff.mp ((entityProposals_ok (taken_length_le data)).mp ⟨eps, heps⟩)
    · exact query_length_iff.mp (evidenceProposal_ok.mp hevidence).1

lemma fitsRunner_iff {input : Entity} {credentials : Option PyDict} :
    FitsRunner (crtShPlugin u) input credentials ↔ ¬ Overfull u input := by
  constructor
  · intro hfits hover
    obtain ⟨result, hquery, htotal⟩ := hover.exceeds
    have := hfits result hquery
    omega
  · intro hover result hquery
    by_contra htotal
    exact hover (overfull_of_exceeds hquery (by omega))

end CrtSh

/-! ## The four plugins -/

/-- The built-in plugins that truncate their output. -/
def truncatingPlugins (py : Interp) (u : Upstream) : List OSINTPlugin :=
  [crtShPlugin u, waybackCdxPlugin py u, virusTotalPlugin u, shodanPlugin u]

/-- **Caps within the cap.** Whatever the upstream answers and whatever the input: all results
fit the runner, unless `crt.sh` lists 1000 subdomains or more. -/
theorem truncated_results_fit_iff (py : Interp) (u : Upstream) (input : Entity)
    (credentials : Option PyDict) :
    (∀ plugin ∈ truncatingPlugins py u, FitsRunner plugin input credentials) ↔
      ¬ CrtSh.Overfull u input := by
  simp only [truncatingPlugins, List.mem_cons, List.not_mem_nil, or_false, forall_eq_or_imp,
    forall_eq]
  have hcap : maxProposalsPerRun = 2000 := rfl
  constructor
  · intro ⟨hcrtsh, _⟩
    exact CrtSh.fitsRunner_iff.mp hcrtsh
  · intro hover
    refine ⟨CrtSh.fitsRunner_iff.mpr hover, ?_, ?_, ?_⟩
    · intro result h
      have := WaybackCdx.query_total h
      have : WaybackCdx.maxSnapshots = 500 := rfl
      omega
    · intro result h
      have := VirusTotal.query_total h
      have : VirusTotal.maxEntities = 50 := rfl
      omega
    · intro result h
      have := Shodan.query_total h
      have : Shodan.maxEntities = 50 := rfl
      omega

/-! ### A popular domain -/

/-- A character that every step of the extraction leaves alone. -/
def isPlain (c : Char) : Bool :=
  (c.isLower || c.isDigit || c = '.' || c = '_' || c = '-') && !isPySpace c && !isLineBreak c
    && c.toLower = c && c ≠ '\r'

lemma splitLinesFrom_plain {line s : List Char} (hs : s.all isPlain = true)
    (hne : line ≠ [] ∨ s ≠ []) : splitLinesFrom line s = [line.reverse ++ s] := by
  induction s generalizing line with
  | nil =>
    have hline : line ≠ [] := by simpa using hne
    rw [splitLinesFrom]
    · rw [List.append_nil]
    · exact hline
  | cons c s ih =>
    rw [List.all_cons, Bool.and_eq_true] at hs
    obtain ⟨hc, hs⟩ := hs
    simp only [isPlain, Bool.and_eq_true, Bool.not_eq_true', decide_eq_true_eq] at hc
    rw [splitLinesFrom.eq_4 _ _ _ fun _ hcr => absurd hcr hc.2, if_neg (by simp [hc.1.1.2]),
      ih hs (Or.inl (List.cons_ne_nil _ _)), List.reverse_cons, List.append_assoc]
    rfl

lemma dropWhile_plain {s : List Char} (hs : s.all isPlain = true) :
    s.dropWhile isPySpace = s := by
  cases s with
  | nil => rfl
  | cons c s =>
    rw [List.all_cons, Bool.and_eq_true] at hs
    simp only [isPlain, Bool.and_eq_true, Bool.not_eq_true'] at hs
    exact List.dropWhile_cons_of_neg (by simp [hs.1.1.1.1.2])

lemma normalName_plain {u : Upstream} (hu : u.text = asciiTables) {s : List Char}
    (hs : s.all isPlain = true) : CrtSh.normalName u s = s := by
  have hreverse : s.reverse.all isPlain = true := by rw [List.all_reverse, hs]
  rw [CrtSh.normalName, strip, dropWhile_plain hs, rstrip, dropWhile_plain hreverse,
    List.reverse_reverse, hu]
  show s.map Char.toLower = s
  refine (List.map_congr_left fun c hc => ?_).trans (List.map_id s)
  have := List.all_eq_true.mp hs c hc
  simp only [isPlain, Bool.and_eq_true, decide_eq_true_eq] at this
  exact this.1.2

/-- A name of plain characters under the domain is extracted as it is. -/
lemma entryNames_plain {u : Upstream} (hu : u.text = asciiTables) {domain sub : List Char}
    (hdomain : domain.all isPlain = true) (hsub : sub.all isPlain = true) (hne : sub ≠ [])
    (hstar : sub.head? ≠ some '*') :
    CrtSh.entryNames u domain
      [("name_value", .str (String.ofList (sub ++ '.' :: domain)))] = [sub ++ '.' :: domain] := by
  have hname : (sub ++ '.' :: domain).all isPlain = true := by
    rw [List.all_append, List.all_cons, hsub, hdomain]
    decide
  have hnonempty : sub ++ '.' :: domain ≠ [] := by simp
  have haccepted : CrtSh.accepted domain (sub ++ '.' :: domain) = true := by
    have hchars : (sub ++ '.' :: domain).all
        (fun c => c.isLower || c.isDigit || c = '.' || c = '_' || c = '-') = true := by
      refine List.all_eq_true.mpr fun c hc => ?_
      have := List.all_eq_true.mp hname c hc
      simp only [isPlain, Bool.and_eq_true] at this
      exact this.1.1.1.1
    have hlonger : sub ++ '.' :: domain ≠ domain := by
      intro h
      have hlength := congrArg List.length h
      rw [List.length_append, List.length_cons] at hlength
      omega
    have hhead : (sub ++ '.' :: domain).head? = sub.head? := by
      cases sub with
      | nil => exact absurd rfl hne
      | cons c sub => rfl
    simp [CrtSh.accepted, CrtSh.nameRe, dollar, runOf, hchars, hlonger, hhead, hstar]
  have hlines : splitLines (sub ++ '.' :: domain) = [sub ++ '.' :: domain] :=
    splitLinesFrom_plain hname (Or.inr hnonempty)
  simp [CrtSh.entryNames, hlines, normalName_plain hu hname, haccepted]

lemma length_flatMap_le {α β : Type} {f : α → List β} {n : ℕ} (hf : ∀ x, (f x).length ≤ n)
    (l : List α) : (l.flatMap f).length ≤ l.length * n := by
  induction l with
  | nil => exact Nat.zero_le _
  | cons x l ih =>
    have hx := hf x
    rw [List.flatMap_cons, List.length_append, List.length_cons, Nat.add_mul, Nat.one_mul]
    omega

/-- A character has at most four bytes. -/
lemma length_utf8_le (s : List Char) : (utf8 s).length ≤ s.length * 4 :=
  length_flatMap_le (fun c => by rw [String.length_utf8EncodeChar]; exact c.utf8Size_le_four) s

/-- `example.com` -/
def exampleCom : List Char := "example.com".toList

/-- The `i`-th subdomain: `000.example.com`, and so on in hexadecimal. -/
def subdomain (i : ℕ) : List Char := hexText 3 i ++ '.' :: exampleCom

/-- An entry of the answer, as a value and as text. -/
def popularEntry (i : ℕ) : PyVal := .dict [("name_value", .str (String.ofList (subdomain i)))]

def popularEntryText (i : ℕ) : List Char :=
  (if i = 0 then [] else ", ".toList) ++ "\x7b\"name_value\": \"".toList ++ subdomain i
    ++ "\"\x7d".toList

/-- An answer with 1000 subdomains. -/
def popularBody : Bytes :=
  utf8 ('[' :: (List.range 1000).flatMap popularEntryText ++ [']'])

def popularEntries : List PyVal := (List.range 1000).map popularEntry

/-- An upstream that answers every request with one body. -/
def answering (body : Bytes) (data : List PyVal) : Upstream where
  client := plainClient fun _ _ => .ok { status := 200, chunks := [body] }
  loads raw := if raw = body then .ok (.list data) else .error Exc.jsonDecodeError
  text := asciiTables
  now := "2026-01-01T00:00:00+00:00"

lemma answering_loads (body : Bytes) (data : List PyVal) :
    (answering body data).loads body = .ok (.list data) := if_pos rfl

/-- An upstream that answers every request with one JSON value. -/
def replying (body : Bytes) (data : PyVal) : Upstream :=
  { answering body [] with
    loads := fun raw => if raw = body then .ok data else .error Exc.jsonDecodeError }

def exampleCredentials : Option PyDict := some [("api_key", .str "k")]

def popularUpstream : Upstream := answering popularBody popularEntries

/-- The domain `example.com` of a case. -/
def popularDomain : Entity where
  id := 1
  caseId := 2
  type := "DOMAIN"
  label := "example.com"
  attrs := .dict []
  confidence := 1
  createdBy := none
  createdAt := 0
  updatedAt := 0
  deletedAt := none

lemma exampleCom_plain : exampleCom.all isPlain = true := by decide

lemma hexText_plain (width n : ℕ) : (hexText width n).all isPlain = true := by
  have hdigit : ∀ d < 16, isPlain (Nat.digitChar d) = true := by decide
  refine List.all_eq_true.mpr fun c hc => ?_
  obtain ⟨i, -, rfl⟩ := List.mem_map.mp hc
  exact hdigit _ (Nat.mod_lt _ (by decide))

lemma subdomain_injOn {i j : ℕ} (hi : i < 1000) (hj : j < 1000) (h : subdomain i = subdomain j) :
    i = j := by
  have hdigit : ∀ a < 16, ∀ b < 16, Nat.digitChar a = Nat.digitChar b → a = b := by
    decide +kernel
  have hhex : hexText 3 i = hexText 3 j := List.append_cancel_right h
  have hlt : ∀ n : ℕ, n % 16 < 16 := fun n => Nat.mod_lt n (by decide)
  simp only [hexText, List.range_succ, List.range_zero, List.nil_append, List.cons_append,
    List.map_cons, List.map_nil, List.cons.injEq, and_true] at hhex
  obtain ⟨h2, h1, h0⟩ := hhex
  have h2 := hdigit _ (hlt _) _ (hlt _) h2
  have h1 := hdigit _ (hlt _) _ (hlt _) h1
  have h0 := hdigit _ (hlt _) _ (hlt _) h0
  omega

lemma popular_names :
    CrtSh.names popularUpstream exampleCom popularEntries = (List.range 1000).map subdomain := by
  have hall : ∀ l : List ℕ, CrtSh.names popularUpstream exampleCom (l.map popularEntry)
      = l.map subdomain := by
    intro l
    induction l with
    | nil => rfl
    | cons i l ih =>
      have hhead : (hexText 3 i).head? ≠ some '*' := by
        intro hstar
        have hmem := List.mem_of_mem_head? (Option.mem_def.mpr hstar)
        have := List.all_eq_true.mp (hexText_plain 3 i) _ hmem
        exact absurd this (by decide)
      have hne : hexText 3 i ≠ [] := by
        intro hnil
        have := length_hexText 3 i
        rw [hnil] at this
        cases this
      have hentry := entryNames_plain (u := popularUpstream) rfl exampleCom_plain
        (hexText_plain 3 i) hne hhead
      rw [List.map_cons, List.map_cons, popularEntry, CrtSh.names, ih, subdomain, hentry]
      rfl
  exact hall (List.range 1000)

lemma popular_distinct :
    CrtSh.distinctNames popularUpstream exampleCom popularEntries
      = (List.range 1000).map subdomain := by
  have hnodup : ((List.range 1000).map subdomain).Nodup := by
    refine List.Nodup.map_on (fun i hi j hj h => ?_) List.nodup_range
    exact subdomain_injOn (List.mem_range.mp hi) (List.mem_range.mp hj) h
  rw [CrtSh.distinctNames, popular_names, firsts_of_nodup hnodup]

lemma popularEntryText_length (i : ℕ) : (popularEntryText i).length ≤ 64 := by
  have hcomma : (if i = 0 then [] else ", ".toList).length ≤ 2 := by split <;> decide
  have hcom : exampleCom.length = 11 := rfl
  have hopen : "\x7b\"name_value\": \"".toList.length = 16 := rfl
  have hclose : "\"\x7d".toList.length = 2 := rfl
  rw [popularEntryText, List.length_append, List.length_append, List.length_append, subdomain,
    List.length_append, length_hexText, List.length_cons, hcom, hopen, hclose]
  generalize (if i = 0 then [] else ", ".toList).length = comma at hcomma ⊢
  omega

lemma popularBody_length : popularBody.length ≤ maxResponseBytes := by
  have hentries := length_flatMap_le popularEntryText_length (List.range 1000)
  have hbytes := length_utf8_le ('[' :: (List.range 1000).flatMap popularEntryText ++ [']'])
  have hmax : maxResponseBytes = 10485760 := by decide
  rw [List.length_range] at hentries
  rw [List.length_append, List.length_cons, List.length_singleton] at hbytes
  unfold popularBody
  omega

/-- An answer in one chunk below the cap is read whole. -/
lemma fetch_of_chunk {u : Upstream} {request : HttpRequest} {body : Bytes} {data : List PyVal}
    (hsend : u.client.send 1 request = .ok { status := 200, chunks := [body] })
    (hlength : body.length ≤ maxResponseBytes) (hloads : u.loads body = .ok (.list data)) :
    CrtSh.fetch u request = .ok (body, data) := by
  have hbody : parseBody u body = .ok (some (.list data)) := by rw [parseBody, hloads]
  refine withRetry_of_ok (bind_eq_ok.mpr ⟨_, hsend, ?_⟩)
  exact bind_eq_ok.mpr ⟨body, readResponse_one hlength, bind_eq_ok.mpr ⟨_, hbody, rfl⟩⟩

/-- 1000 subdomains fill the set. -/
lemma popular_overfull : CrtSh.Overfull popularUpstream popularDomain := by
  have hdomain : CrtSh.domainOf popularUpstream popularDomain = exampleCom := rfl
  refine ⟨by rw [hdomain]; decide, popularBody, popularEntries,
    fetch_of_chunk (HttpClient.send_accepted (by decide +kernel)) popularBody_length
      (answering_loads _ _), ?_⟩
  rw [hdomain]
  have hcom : exampleCom.length = 11 := rfl
  have hlength : ∀ name ∈ (List.range 1000).map subdomain, name.length = 15 := by
    intro name hname
    obtain ⟨i, -, rfl⟩ := List.mem_map.mp hname
    rw [subdomain, List.length_append, length_hexText, List.length_cons, hcom]
  refine ⟨?_, Or.inr ?_, fun name hname => ?_, by decide⟩
  · rw [popular_distinct, List.length_map, List.length_range]
    exact Nat.le_refl _
  · have hall : ∀ l : List ℕ, CrtSh.allDicts (l.map popularEntry) = true := by
      intro l
      induction l with
      | nil => rfl
      | cons i l ih => exact ih
    exact hall _
  · rw [popular_distinct] at hname
    rw [hlength name (List.mem_of_mem_take hname)]
    decide

/-- With 1000 subdomains `crt.sh` gives 2001 proposals. -/
theorem truncated_results_exceed :
    ¬ ∀ (py : Interp) (u : Upstream) (input : Entity) (credentials : Option PyDict),
      ∀ plugin ∈ truncatingPlugins py u, FitsRunner plugin input credentials := by
  intro h
  have hfits := h plainInterp popularUpstream popularDomain none (crtShPlugin popularUpstream)
    List.mem_cons_self
  exact CrtSh.fitsRunner_iff.mp hfits popular_overfull

end Sleuthgraph
