import Sleuthgraph.Plugins.Builtin.CapTheorems
import Sleuthgraph.Plugins.Builtin.LabelTheorems

/-!
# What the loops take from an answer

Each plugin that truncates tests its cap before it looks at an item. So an item that it would have
passed over sets the flag as well, if it comes behind the item that fills the cap.
-/

namespace Sleuthgraph

open Firsts Caps

/-! ## `crtsh` -/

namespace CrtSh

variable {u : Upstream} {domain : List Char}

/-- `[a-z0-9_-]` -/
def isLabelChar (c : Char) : Bool := c.isLower || c.isDigit || c = '_' || c = '-'

/-- `[a-z0-9._-]` -/
def isNameChar (c : Char) : Bool := c.isLower || c.isDigit || c = '.' || c = '_' || c = '-'

/-- The labels before the domain. -/
def subLabels (domain name : List Char) : List (List Char) :=
  splitAt '.' (name.take (name.length - (domain.length + 1)))

/-- One or more labels, then the domain. -/
def validName (domain name : List Char) : Bool :=
  List.isSuffixOf ('.' :: domain) name && (subLabels domain name).all (runOf isLabelChar)

/-- The lines of an entry, stripped and lower-cased. -/
def entryLines (u : Upstream) (entry : PyDict) : List (List Char) :=
  match (entry.lookup "name_value").getD (.str "") with
  | .str names => (splitLines names.toList).map (normalName u)
  | _ => []

/-- The lines of all entries. -/
def listed (u : Upstream) : List PyVal → List (List Char)
  | .dict entry :: data => entryLines u entry ++ listed u data
  | _ => []

/-- The valid names of an answer, in order. -/
def validNames (u : Upstream) (domain : List Char) (data : List PyVal) : List (List Char) :=
  (listed u data).filter (validName domain)

lemma isNameChar_iff (c : Char) : isNameChar c = true ↔ c = '.' ∨ isLabelChar c = true := by
  simp only [isNameChar, isLabelChar, Bool.or_eq_true, decide_eq_true_eq]
  tauto

lemma names_eq_filter (data : List PyVal) :
    names u domain data = (listed u data).filter (accepted domain) := by
  fun_induction names u domain data with
  | case1 entry data ih =>
    have hentry : entryNames u domain entry = (entryLines u entry).filter (accepted domain) := by
      unfold entryNames entryLines
      cases (entry.lookup "name_value").getD (.str "") with
      | _ => rfl
    rw [listed, List.filter_append, ih, hentry]
  | case2 data hdata =>
    unfold listed
    split
    · exact absurd rfl (hdata _ _)
    · rfl

lemma isSuffixOf_iff {name : List Char} :
    List.isSuffixOf ('.' :: domain) name = true ↔ ∃ sub, name = sub ++ '.' :: domain := by
  rw [List.isSuffixOf_iff_suffix]
  exact ⟨fun ⟨sub, h⟩ => ⟨sub, h.symm⟩, fun ⟨sub, h⟩ => ⟨sub, h.symm⟩⟩

lemma subLabels_append (sub : List Char) :
    subLabels domain (sub ++ '.' :: domain) = splitAt '.' sub := by
  have hlen : (sub ++ '.' :: domain).length - (domain.length + 1) = sub.length := by
    rw [List.length_append, List.length_cons]
    omega
  rw [subLabels, hlen, List.take_left]

/-- The tests of the loop, for a domain of `[a-z0-9._-]`. -/
lemma accepted_iff (hne : domain ≠ []) (hdomain : ∀ c ∈ domain, isNameChar c = true)
    (name : List Char) :
    accepted domain name = true ↔
      ∃ sub, name = sub ++ '.' :: domain ∧ ∀ c ∈ sub, isNameChar c = true := by
  constructor
  · intro h
    simp only [accepted, Bool.and_eq_true] at h
    obtain ⟨⟨-, hsuffix⟩, hname⟩ := h
    obtain ⟨sub, rfl⟩ := isSuffixOf_iff.mp hsuffix
    refine ⟨sub, rfl, ?_⟩
    rw [nameRe, dollar, Bool.or_eq_true] at hname
    rcases hname with hname | hname
    · rw [runOf, Bool.and_eq_true, List.all_eq_true] at hname
      exact fun c hc => hname.2 c (List.mem_append_left _ hc)
    -- the last character is one of the domain, so no newline
    · rw [Bool.and_eq_true, beq_iff_eq] at hname
      have hlast : domain.getLast? = some '\n' := by
        have hsub := hname.1
        rwa [List.getLast?_append_of_ne_nil _ (List.cons_ne_nil _ _), List.getLast?_cons_of_ne_nil
          hne] at hsub
      exact absurd (hdomain '\n' (List.mem_of_getLast? hlast)) (by decide)
  · rintro ⟨sub, rfl, hsub⟩
    have hall : ∀ c ∈ sub ++ '.' :: domain, isNameChar c = true := by
      intro c hc
      rcases List.mem_append.mp hc with hc | hc
      · exact hsub c hc
      · rcases List.mem_cons.mp hc with rfl | hc
        · rfl
        · exact hdomain c hc
    have hstar : (sub ++ '.' :: domain).head? ≠ some '*' := by
      intro hhead
      exact absurd (hall '*' (List.mem_of_head? hhead)) (by decide)
    have hlong : sub ++ '.' :: domain ≠ domain := by
      intro heq
      have hlen := congrArg List.length heq
      rw [List.length_append, List.length_cons] at hlen
      omega
    have hre : nameRe (sub ++ '.' :: domain) = true := by
      rw [nameRe, dollar, Bool.or_eq_true, runOf, Bool.and_eq_true, List.all_eq_true]
      exact Or.inl ⟨by simp, hall⟩
    simp only [accepted, Bool.and_eq_true]
    exact ⟨⟨⟨⟨by simp, by simpa using hstar⟩, by simpa using hlong⟩, isSuffixOf_iff.mpr ⟨sub, rfl⟩⟩,
      hre⟩

/-- What the tests let through is valid unless a label is empty. -/
lemma validName_eq_of_accepted (hne : domain ≠ []) (hdomain : ∀ c ∈ domain, isNameChar c = true)
    {name : List Char} (h : accepted domain name = true) :
    validName domain name = true ↔ [] ∉ subLabels domain name := by
  obtain ⟨sub, rfl, hsub⟩ := (accepted_iff hne hdomain name).mp h
  rw [validName, isSuffixOf_iff.mpr ⟨sub, rfl⟩, Bool.true_and, subLabels_append, List.all_eq_true]
  constructor
  · intro hall hmem
    exact absurd (hall [] hmem) (by decide)
  · intro hnil label hlabel
    have hnonempty : label ≠ [] := fun heq => hnil (heq ▸ hlabel)
    rw [runOf, Bool.and_eq_true, List.all_eq_true]
    refine ⟨by simpa using hnonempty, fun c hc => ?_⟩
    obtain ⟨hmem, hdot⟩ := of_mem_splitAt hlabel hc
    exact ((isNameChar_iff c).mp (hsub c hmem)).resolve_left hdot

/-- A name with no empty label is valid, whatever the entries are. -/
lemma accepted_of_validName (hne : domain ≠ []) (hdomain : ∀ c ∈ domain, isNameChar c = true)
    {name : List Char} (h : validName domain name = true) : accepted domain name = true := by
  rw [validName, Bool.and_eq_true] at h
  obtain ⟨hsuffix, hlabels⟩ := h
  obtain ⟨sub, rfl⟩ := isSuffixOf_iff.mp hsuffix
  rw [subLabels_append, List.all_eq_true] at hlabels
  refine (accepted_iff hne hdomain _).mpr ⟨sub, rfl, fun c hc => (isNameChar_iff c).mpr ?_⟩
  rcases mem_splitAt '.' hc with hdot | ⟨label, hlabel, hmem⟩
  · exact Or.inl hdot
  · have hrun := hlabels label hlabel
    rw [runOf, Bool.and_eq_true, List.all_eq_true] at hrun
    exact Or.inr (hrun.2 c hmem)

lemma validNames_eq_filter (hne : domain ≠ []) (hdomain : ∀ c ∈ domain, isNameChar c = true)
    (data : List PyVal) :
    validNames u domain data = (names u domain data).filter (validName domain) := by
  rw [validNames, names_eq_filter, List.filter_filter]
  refine List.filter_congr fun name _ => ?_
  cases hvalid : validName domain name with
  | false => rfl
  | true => rw [accepted_of_validName hne hdomain hvalid, Bool.and_self]

/-- The set is the first valid names, and the flag says that there are more. -/
def ExtractsValid (u : Upstream) (domain : List Char) (data : List PyVal) : Prop :=
  ∃ subdomains truncated, extractSubdomains u data domain = .ok (subdomains, truncated) ∧
    (∀ name, name ∈ subdomains ↔ name ∈ (firsts (validNames u domain data)).take maxSubdomains) ∧
    (truncated = true ↔ maxSubdomains < (firsts (validNames u domain data)).length)

/-- The extraction is exact just when none of the first names that pass the tests has an empty
label, and no name follows the one that fills the set unless a valid new one does. -/
theorem extractSubdomains_exact_iff (hne : domain ≠ [])
    (hdomain : ∀ c ∈ domain, isNameChar c = true) {data : List PyVal}
    (hdata : allDicts data = true) :
    ExtractsValid u domain data ↔
      (∀ name ∈ (distinctNames u domain data).take maxSubdomains, [] ∉ subLabels domain name) ∧
        ∀ init rest, names u domain data = init ++ rest → (firsts init).length = maxSubdomains →
          rest = [] ∨ ∃ name ∈ rest, [] ∉ subLabels domain name ∧ name ∉ init := by
  have hvalid : ∀ name ∈ names u domain data,
      validName domain name = true ↔ [] ∉ subLabels domain name := by
    intro name hname
    rw [names_eq_filter] at hname
    exact validName_eq_of_accepted hne hdomain (List.mem_filter.mp hname).2
  have hlabels : (∀ name ∈ (distinctNames u domain data).take maxSubdomains,
      validName domain name = true) ↔
        ∀ name ∈ (distinctNames u domain data).take maxSubdomains, [] ∉ subLabels domain name :=
    forall₂_congr fun name hname => hvalid name (mem_firsts.mp (List.mem_of_mem_take hname))
  have hfollows : ∀ init rest, names u domain data = init ++ rest →
      ((∃ name ∈ rest, validName domain name = true ∧ name ∉ init) ↔
        ∃ name ∈ rest, [] ∉ subLabels domain name ∧ name ∉ init) := by
    intro init rest hsplit
    refine exists_congr fun name => and_congr_right fun hname => and_congr_left fun _ => ?_
    exact hvalid name (hsplit ▸ List.mem_append_right _ hname)
  have hcollect := collect_filter_iff maxSubdomains (names u domain data)
    (p := validName domain)
  rw [← validNames_eq_filter hne hdomain] at hcollect
  calc ExtractsValid u domain data
    _ ↔ _ := by
        constructor
        · rintro ⟨subdomains, truncated, hextract, hset, hflag⟩
          obtain ⟨-, hcollected⟩ := extractSubdomains_ok.mp hextract
          rw [hcollected]
          exact ⟨hset, hflag⟩
        · rintro ⟨hset, hflag⟩
          exact ⟨_, _, extractSubdomains_ok.mpr ⟨Or.inr hdata, rfl⟩, hset, hflag⟩
    _ ↔ _ := hcollect
    _ ↔ _ := by
        refine and_congr hlabels ?_
        refine forall_congr' fun init => forall_congr' fun rest => ?_
        exact imp_congr_right fun hsplit => imp_congr_right fun _ =>
          or_congr_right (hfollows init rest hsplit)

/-- An answer with one name. -/
def oneName (name : String) : List PyVal := [.dict [("name_value", .str name)]]

lemma exampleCom_nameChars : ∀ c ∈ exampleCom, isNameChar c = true :=
  List.all_iff_forall_prop.mp (by decide +kernel)

theorem extractSubdomains_exact_iff_one :
    ExtractsValid (answering [] []) exampleCom (oneName "www.example.com") ↔
      (∀ name ∈ (distinctNames (answering [] []) exampleCom (oneName "www.example.com")).take
        maxSubdomains, [] ∉ subLabels exampleCom name) ∧
        ∀ init rest, names (answering [] []) exampleCom (oneName "www.example.com") = init ++ rest →
          (firsts init).length = maxSubdomains →
            rest = [] ∨ ∃ name ∈ rest, [] ∉ subLabels exampleCom name ∧ name ∉ init :=
  extractSubdomains_exact_iff (by decide) exampleCom_nameChars (by decide)

/-- A name with an empty label is taken for a subdomain. -/
theorem extractSubdomains_takes_empty_label :
    ¬ ∀ (u : Upstream) (domain : List Char) (data : List PyVal), domain ≠ [] →
      (∀ c ∈ domain, isNameChar c = true) → allDicts data = true → ExtractsValid u domain data := by
  intro h
  obtain ⟨subdomains, truncated, hextract, hset, -⟩ := h (answering [] []) exampleCom
    (oneName "www..example.com") (by decide) exampleCom_nameChars (by decide)
  have hcode : extractSubdomains (answering [] []) (oneName "www..example.com") exampleCom
      = .ok (["www..example.com".toList], false) := by
    rfl
  have hvalid : validNames (answering [] []) exampleCom (oneName "www..example.com") = [] := by
    decide +kernel
  rw [hcode] at hextract
  cases hextract
  have hmem := (hset _).mp List.mem_cons_self
  rw [hvalid] at hmem
  cases hmem

end CrtSh

/-! ## What the evidence says of a cap -/

/-- The proposals are the first candidates, and the spec says how many they are and whether there
are more. -/
structure Honest {γ : Type} (cap : ℕ) (candidates proposed : List γ) (spec : PyDict) : Prop where
  first : proposed = candidates.take cap
  flag : spec.lookup "truncated" = some (.bool true) ↔ cap < candidates.length
  count : spec.lookup "entity_count" = some (.int proposed.length)

/-- Only the flag can be wrong. -/
lemma honest_iff {γ : Type} {cap : ℕ} {candidates proposed : List γ} {spec : PyDict}
    {truncated : Bool} (hfirst : proposed = candidates.take cap)
    (hflag : spec.lookup "truncated" = some (.bool truncated))
    (hcount : spec.lookup "entity_count" = some (.int proposed.length)) :
    Honest cap candidates proposed spec ↔ (truncated = true ↔ cap < candidates.length) := by
  have hsays : spec.lookup "truncated" = some (.bool true) ↔ truncated = true := by
    rw [hflag]
    simp
  exact ⟨fun h => hsays.symm.trans h.flag, fun h => ⟨hfirst, hsays.trans h, hcount⟩⟩

/-! ## `shodan` -/

namespace Shodan

variable {u : Upstream}

/-- The host name of an item. -/
def hostName (u : Upstream) : PyVal → Option (List Char)
  | .str item =>
    let hostname := u.text.lower (rstrip (· = '.') (strip item.toList))
    if hostname.isEmpty || !domainRe hostname then none else some hostname
  | _ => none

/-- The distinct host names of the items, in order. -/
def hostNames (u : Upstream) (items : List PyVal) : List (List Char) :=
  firsts (items.filterMap (hostName u))

/-- The items of the two loops. -/
def itemsOf (data : PyDict) : List PyVal := listAt data "hostnames" ++ listAt data "domains"

/-- The labels that are proposed. -/
def proposed (entities : List EntityProposal) : List (List Char) :=
  entities.map fun ep => ep.label.toList

/-- The names that are taken are the labels. -/
def Found.Seen (found : Found) : Prop :=
  ∀ name, found.seenHostnames.contains name = true ↔ name ∈ proposed found.entities

lemma addName_pick {confidence : ℚ} {found found' : Found} {item : PyVal} (hseen : found.Seen)
    (h : addName u confidence found item = .ok found') :
    proposed found'.entities = pickNew (hostName u) (proposed found.entities) item ∧
      found'.truncated = found.truncated ∧ found'.Seen := by
  cases item with
  | str item =>
    rw [addName] at h
    rw [pickNew, hostName]
    dsimp only at h ⊢
    generalize u.text.lower (rstrip (· = '.') (strip item.toList)) = hostname at h ⊢
    by_cases hvalid : (hostname.isEmpty || !domainRe hostname) = true
    · rw [if_pos (by rw [hvalid, Bool.true_or])] at h
      cases h
      rw [if_pos hvalid]
      exact ⟨rfl, rfl, hseen⟩
    · rw [if_neg hvalid]
      rw [Bool.eq_false_iff.mpr hvalid, Bool.false_or] at h
      dsimp only
      rw [addNew]
      by_cases htaken : found.seenHostnames.contains hostname = true
      · rw [if_pos htaken] at h
        cases h
        rw [if_pos ((hseen hostname).mp htaken)]
        exact ⟨rfl, rfl, hseen⟩
      · rw [if_neg htaken] at h
        obtain ⟨entity, hentity, h⟩ := bind_eq_ok.mp h
        obtain ⟨-, rfl⟩ := entityProposal_ok.mp hentity
        cases h
        rw [if_neg fun hmem => htaken ((hseen hostname).mpr hmem)]
        have hlabels : proposed (found.entities ++ [⟨numbered "host" found.entityCount, .domain,
            String.ofList hostname, [("discovered_via", .str "shodan")], confidence⟩])
            = proposed found.entities ++ [hostname] := by
          rw [proposed, List.map_append, List.map_singleton, String.toList_ofList, proposed]
        refine ⟨hlabels, rfl, fun name => ?_⟩
        rw [hlabels, List.mem_append, List.mem_singleton, ← hseen name]
        simp [or_comm]
  | _ =>
    cases h
    exact ⟨rfl, rfl, hseen⟩

/-- A loop takes the new host names up to the cap. -/
lemma eachName_capped_eq {confidence : ℚ} {items : List PyVal} {found found' : Found}
    (hseen : found.Seen) (h : eachName u confidence found items = .ok found') :
    (proposed found'.entities, found'.truncated) =
      ((capped maxEntities (pickNew (hostName u)) (proposed found.entities) items).1,
        found.truncated
          || (capped maxEntities (pickNew (hostName u)) (proposed found.entities) items).2) ∧
      found'.Seen := by
  induction items generalizing found with
  | nil =>
    cases h
    rw [capped, Bool.or_false]
    exact ⟨rfl, hseen⟩
  | cons item items ih =>
    have hcount : (proposed found.entities).length = found.entityCount := List.length_map _
    rw [eachName] at h
    rw [capped, hcount]
    split at h
    · rename_i hcap
      cases h
      rw [if_pos hcap, Bool.or_true]
      exact ⟨rfl, hseen⟩
    · rename_i hroom
      obtain ⟨next, hnext, h⟩ := bind_eq_ok.mp h
      obtain ⟨hlabels, htruncated, hseen'⟩ := addName_pick hseen hnext
      rw [if_neg hroom, ← hlabels, ← htruncated]
      exact ih hseen' h

/-- Both loops together. -/
lemma extract_capped_eq {data : PyDict} {found : Found} (h : extract u data = .ok found) :
    (proposed found.entities, found.truncated)
      = capped maxEntities (pickNew (hostName u)) [] (itemsOf data) := by
  obtain ⟨between, hhostnames, hdomains⟩ := bind_eq_ok.mp h
  have hempty : Found.empty.Seen := fun name => by simp [Found.empty, proposed]
  obtain ⟨hfirst, hseen⟩ := eachName_capped_eq hempty hhostnames
  obtain ⟨hsecond, -⟩ := eachName_capped_eq hseen hdomains
  obtain ⟨hlabels, hflag⟩ := Prod.mk.inj hfirst
  rw [hsecond, hlabels, hflag, itemsOf, capped_two]
  rfl

/-- The loops never raise: a host name fits a label, and the count a reference. -/
lemma eachName_returns {confidence : ℚ} (hconfidence : UnitRange confidence) (items : List PyVal)
    (found : Found) : ∃ found', eachName u confidence found items = .ok found' := by
  induction items generalizing found with
  | nil => exact ⟨found, rfl⟩
  | cons item items ih =>
    rw [eachName]
    split
    · exact ⟨_, rfl⟩
    · rename_i hroom
      have hnext : ∃ next, addName u confidence found item = .ok next := by
        unfold addName
        split
        · dsimp only
          split
          · exact ⟨_, rfl⟩
          · rename_i hskip
            rw [Bool.or_eq_true, not_or, Bool.or_eq_true, not_or] at hskip
            obtain ⟨hpos, hle⟩ := length_of_domainRe (by simpa using hskip.1.2)
            have href : LengthIn 64 (numbered "host" found.entityCount) :=
              numbered_length (by decide) (by unfold maxEntities at hroom; omega)
            refine ⟨_, bind_eq_ok.mpr
              ⟨_, entityProposal_ok.mpr ⟨⟨href, ?_, hconfidence⟩, rfl⟩, rfl⟩⟩
            unfold LengthIn
            rw [String.length_ofList]
            omega
        · exact ⟨_, rfl⟩
      obtain ⟨next, hnext⟩ := hnext
      obtain ⟨found', hrest⟩ := ih next
      exact ⟨found', bind_eq_ok.mpr ⟨next, hnext, hrest⟩⟩

lemma extract_returns (u : Upstream) (data : PyDict) : ∃ found, extract u data = .ok found := by
  obtain ⟨between, hhostnames⟩ :=
    eachName_returns (u := u) (by decide +kernel : UnitRange (4 / 5)) (listAt data "hostnames")
      Found.empty
  obtain ⟨found, hdomains⟩ :=
    eachName_returns (by decide +kernel : UnitRange (7 / 10)) (listAt data "domains") between
  exact ⟨found, bind_eq_ok.mpr ⟨between, hhostnames, hdomains⟩⟩

/-- What `query` has got and made of it, for an input that it asks about. -/
structure Answered (u : Upstream) (input : Entity) (credentials : Option PyDict) (data : PyDict)
    (result : QueryResult) : Prop where
  valid : ipInputRe (strip input.label.toList) = true
  fetched : ∃ apiKey raw, apiKeyOf credentials = .ok apiKey ∧
    fetch u (requestOf (strip input.label.toList) apiKey) = .ok (raw, data)
  returned : query u input credentials = .ok result

lemma ipInputRe_ne_nil {s : List Char} (h : ipInputRe s = true) : s ≠ [] := by
  rintro rfl
  exact absurd h (by decide)

lemma Answered.resultOf {input : Entity} {credentials : Option PyDict} {data : PyDict}
    {result : QueryResult} (h : Answered u input credentials data result) :
    ∃ raw, resultOf u (strip input.label.toList) raw data = .ok result := by
  obtain ⟨apiKey, raw, hkey, hfetch⟩ := h.fetched
  have hasked : ¬ ((strip input.label.toList).isEmpty || !ipInputRe (strip input.label.toList))
      = true := by
    rw [h.valid, Bool.not_true, Bool.or_false, List.isEmpty_iff]
    exact ipInputRe_ne_nil h.valid
  obtain ⟨apiKey', hkey', hquery⟩ := bind_eq_ok.mp h.returned
  rw [hkey] at hkey'
  cases hkey'
  dsimp only at hquery
  rw [if_neg hasked] at hquery
  obtain ⟨⟨raw', data'⟩, hfetch', hquery⟩ := bind_eq_ok.mp hquery
  rw [hfetch] at hfetch'
  cases hfetch'
  exact ⟨raw, hquery⟩

/-- The evidence is honest about the host names. -/
def HonestResult (u : Upstream) (data : PyDict) (result : QueryResult) : Prop :=
  ∃ evidence, result.evidence = [evidence] ∧
    Honest maxEntities (hostNames u (itemsOf data)) (proposed result.entities)
      evidence.reproducibilitySpec

/-- No item follows the one that fills the cap, or one that does is a new host name. -/
def Conclusive (u : Upstream) (items : List PyVal) : Prop :=
  ∀ init rest, items = init ++ rest → (hostNames u init).length = maxEntities →
    rest = [] ∨ ∃ item ∈ rest, ∃ name, hostName u item = some name ∧ name ∉ hostNames u init

lemma honestResult_iff {ip : List Char} {raw : Bytes} {data : PyDict} {result : QueryResult}
    (h : resultOf u ip raw data = .ok result) :
    HonestResult u data result ↔ Conclusive u (itemsOf data) := by
  obtain ⟨found, hfound, h⟩ := bind_eq_ok.mp h
  obtain ⟨services, -, h⟩ := bind_eq_ok.mp h
  obtain ⟨evidence, hevidence, h⟩ := bind_eq_ok.mp h
  obtain ⟨-, rfl⟩ := evidenceProposal_ok.mp hevidence
  cases h
  have hcapped := extract_capped_eq hfound
  have hlabels : proposed found.entities = _ := congrArg Prod.fst hcapped
  have hflag : found.truncated = _ := congrArg Prod.snd hcapped
  have hcandidates : ∀ items, items.foldl (pickNew (hostName u)) [] = hostNames u items :=
    fun items => foldl_pickNew _ _ _
  rw [capped_fst (grows_pickNew _) (Nat.zero_le _), hcandidates] at hlabels
  have hcount : (spec u ip data found services).lookup "entity_count"
      = some (.int (proposed found.entities).length) := by
    rw [proposed, List.length_map]
    rfl
  calc HonestResult u data _
    _ ↔ Honest maxEntities (hostNames u (itemsOf data)) (proposed found.entities)
          (spec u ip data found services) := by
        constructor
        · rintro ⟨evidence, hevidence, hhonest⟩
          cases hevidence
          exact hhonest
        · exact fun hhonest => ⟨_, rfl, hhonest⟩
    _ ↔ (found.truncated = true ↔ maxEntities < (hostNames u (itemsOf data)).length) :=
        honest_iff hlabels rfl hcount
    _ ↔ Conclusive u (itemsOf data) := by
        have hempty : ([] : List (List Char)).length ≤ maxEntities := Nat.zero_le _
        have hright := capped_flag_iff (grows_pickNew (hostName u)) hempty (itemsOf data)
        simp only [hcandidates, pickNew_ne_self_iff] at hright
        rw [hflag]
        exact hright

end Shodan

/-! ## `virustotal` -/

namespace VirusTotal

variable {u : Upstream} {domain : List Char}

/-- The address of a record. -/
def addressOf (u : Upstream) : PyVal → Option (List Char)
  | .dict rec =>
    let rtype := (rec.lookup "type").getD (.str "")
    match (rec.lookup "value").getD (.str "") with
    | .str value =>
      let value := strip value.toList
      if (rtype = .str "A" || rtype = .str "AAAA") && !value.isEmpty && isIp u value then some value
      else none
    | _ => none
  | _ => none

/-- The subdomain that a record is an alias for. -/
def aliasOf (u : Upstream) (domain : List Char) : PyVal → Option (List Char)
  | .dict rec =>
    let rtype := (rec.lookup "type").getD (.str "")
    match (rec.lookup "value").getD (.str "") with
    | .str value =>
      let value := u.text.lower (rstrip (· = '.') (strip value.toList))
      if rtype = .str "CNAME" && !value.isEmpty && domainRe value && value != domain
          && List.isSuffixOf ('.' :: domain) value then some value
      else none
    | _ => none
  | _ => none

/-- What the records qualify: the addresses, then the subdomains. -/
def candidates (u : Upstream) (domain : List Char) (records : List PyVal) :
    List (EntityType × List Char) :=
  (records.filterMap (addressOf u)).map (fun address => (.ipAddress, address))
    ++ (records.filterMap (aliasOf u domain)).map (fun name => (.domain, name))

/-- The records as the two loops meet them. -/
def visits (records : List PyVal) : List (PyVal ⊕ PyVal) :=
  records.map .inl ++ records.map .inr

/-- What a record gives in the first loop or in the second. -/
def candidateOf (u : Upstream) (domain : List Char) :
    PyVal ⊕ PyVal → Option (EntityType × List Char)
  | .inl rec => (addressOf u rec).map fun address => (.ipAddress, address)
  | .inr rec => (aliasOf u domain rec).map fun name => (.domain, name)

lemma filterMap_visits (records : List PyVal) :
    (visits records).filterMap (candidateOf u domain) = candidates u domain records := by
  rw [visits, candidates, List.filterMap_append, List.filterMap_map, List.filterMap_map,
    List.map_filterMap, List.map_filterMap]
  rfl

/-- The types and labels that are proposed. -/
def proposed (entities : List EntityProposal) : List (EntityType × List Char) :=
  entities.map fun ep => (ep.type, ep.label.toList)

lemma proposed_add (found : Found) (ref : String) (type : EntityType) (label : List Char)
    (attrs : PyDict) (confidence : ℚ) (relationship : RelationshipProposal) :
    proposed (found.add ⟨ref, type, String.ofList label, attrs, confidence⟩ relationship).entities
      = proposed found.entities ++ [(type, label)] := by
  rw [Found.add, proposed, List.map_append, List.map_singleton, String.toList_ofList, proposed]

/-- A turn of a loop proposes what the record gives, and leaves the flag. -/
def Picks (body : Found → PyVal → Except Exc Found)
    (f : PyVal → Option (EntityType × List Char)) : Prop :=
  ∀ found rec found', body found rec = .ok found' →
    proposed found'.entities = pick f (proposed found.entities) rec ∧
      found'.truncated = found.truncated

lemma valueOf_dict {rec : PyDict} {value : List Char} (h : valueOf (.dict rec) = .ok value) :
    ∃ text, (rec.lookup "value").getD (.str "") = .str text ∧ strip text.toList = value := by
  obtain ⟨item, hitem, h⟩ := bind_eq_ok.mp h
  cases hitem
  split at h
  · rename_i text htext
    cases h
    exact ⟨text, htext, rfl⟩
  · cases h

lemma addAddress_picks (domain : List Char) :
    Picks (addAddress u) fun rec => candidateOf u domain (.inl rec) := by
  intro found rec found' h
  obtain ⟨rtype, hrtype, h⟩ := bind_eq_ok.mp h
  obtain ⟨value, hvalue, h⟩ := bind_eq_ok.mp h
  cases rec with
  | dict rec =>
    cases hrtype
    obtain ⟨text, htext, rfl⟩ := valueOf_dict hvalue
    rw [pick, candidateOf, addressOf]
    dsimp only
    rw [htext]
    dsimp only
    split at h
    · rename_i hqualifies
      obtain ⟨entity, hentity, h⟩ := bind_eq_ok.mp h
      obtain ⟨-, rfl⟩ := entityProposal_ok.mp hentity
      cases h
      rw [if_pos hqualifies]
      exact ⟨proposed_add _ _ _ _ _ _ _, rfl⟩
    · rename_i hqualifies
      cases h
      rw [if_neg hqualifies]
      exact ⟨rfl, rfl⟩
  | _ => cases hrtype

lemma addSubdomain_picks :
    Picks (addSubdomain u domain) fun rec => candidateOf u domain (.inr rec) := by
  intro found rec found' h
  obtain ⟨rtype, hrtype, h⟩ := bind_eq_ok.mp h
  obtain ⟨value, hvalue, h⟩ := bind_eq_ok.mp h
  cases rec with
  | dict rec =>
    cases hrtype
    obtain ⟨text, htext, rfl⟩ := valueOf_dict hvalue
    rw [pick, candidateOf, aliasOf]
    dsimp only at h ⊢
    rw [htext]
    dsimp only
    split at h
    · rename_i hqualifies
      obtain ⟨entity, hentity, h⟩ := bind_eq_ok.mp h
      obtain ⟨-, rfl⟩ := entityProposal_ok.mp hentity
      cases h
      rw [if_pos hqualifies]
      exact ⟨proposed_add _ _ _ _ _ _ _, rfl⟩
    · rename_i hqualifies
      cases h
      rw [if_neg hqualifies]
      exact ⟨rfl, rfl⟩
  | _ => cases hrtype

/-- A loop takes what its records give up to the cap. -/
lemma eachRecord_capped_eq {body : Found → PyVal → Except Exc Found}
    {f : PyVal → Option (EntityType × List Char)} (hbody : Picks body f) {records : List PyVal}
    {found found' : Found} (h : eachRecord body found records = .ok found') :
    (proposed found'.entities, found'.truncated) =
      ((capped maxEntities (pick f) (proposed found.entities) records).1,
        found.truncated || (capped maxEntities (pick f) (proposed found.entities) records).2) := by
  induction records generalizing found with
  | nil =>
    cases h
    rw [capped, Bool.or_false]
  | cons rec records ih =>
    have hcount : (proposed found.entities).length = found.entityCount := List.length_map _
    rw [eachRecord] at h
    rw [capped, hcount]
    split at h
    · rename_i hcap
      cases h
      rw [if_pos hcap, Bool.or_true]
    · rename_i hroom
      obtain ⟨next, hnext, h⟩ := bind_eq_ok.mp h
      obtain ⟨hlabels, htruncated⟩ := hbody _ _ _ hnext
      rw [if_neg hroom, ← hlabels, ← htruncated]
      exact ih h

/-- The records of an answer. -/
def recordsOf (data : PyDict) : Except Exc (List PyVal) := do
  let records ← attributeOf data "last_dns_records" (.list [])
  pyIter records

/-- Both loops together. -/
lemma extractDomain_capped_eq {data : PyDict} {records : List PyVal}
    (hrecords : recordsOf data = .ok records) {found : Found}
    (h : extractDomain u domain data = .ok found) :
    (proposed found.entities, found.truncated)
      = capped maxEntities (pick (candidateOf u domain)) [] (visits records) := by
  obtain ⟨value, hvalue, h⟩ := bind_eq_ok.mp h
  obtain ⟨items, hitems, h⟩ := bind_eq_ok.mp h
  have hsame : recordsOf data = .ok items := bind_eq_ok.mpr ⟨value, hvalue, hitems⟩
  rw [hrecords] at hsame
  cases hsame
  obtain ⟨between, haddresses, hsubdomains⟩ := bind_eq_ok.mp h
  obtain ⟨hlabels, hflag⟩ :=
    Prod.mk.inj (eachRecord_capped_eq (addAddress_picks domain) haddresses)
  rw [eachRecord_capped_eq addSubdomain_picks hsubdomains, hlabels, hflag, visits, capped_two,
    capped_map, capped_map]
  rfl

/-- The domain that is asked about. -/
def domainOf (u : Upstream) (input : Entity) : List Char :=
  rstrip (· = '.') (u.text.lower (strip input.label.toList))

/-- What `query` has got and made of it, for a domain that it asks about. -/
structure Answered (u : Upstream) (input : Entity) (credentials : Option PyDict)
    (records : List PyVal) (result : QueryResult) : Prop where
  type : EntityType.ofValue input.type = some .domain
  labelled : strip input.label.toList ≠ []
  valid : domainRe (domainOf u input) = true
  fetched : ∃ apiKey raw data, apiKeyOf credentials = .ok apiKey ∧
    fetch u (requestOf (baseUrl ++ "/domains/".toList ++ domainOf u input) apiKey)
      = .ok (raw, data) ∧ recordsOf data = .ok records
  returned : query u input credentials = .ok result

/-- The evidence is honest about the records. -/
def HonestResult (u : Upstream) (domain : List Char) (records : List PyVal)
    (result : QueryResult) : Prop :=
  ∃ evidence, result.evidence = [evidence] ∧
    Honest maxEntities (candidates u domain records) (proposed result.entities)
      evidence.reproducibilitySpec

/-- Neither loop meets a record behind the one that fills the cap, or one that it meets
qualifies. -/
def Conclusive (u : Upstream) (domain : List Char) (records : List PyVal) : Prop :=
  ∀ init rest, visits records = init ++ rest →
    (init.filterMap (candidateOf u domain)).length = maxEntities →
      rest = [] ∨ ∃ visit ∈ rest, candidateOf u domain visit ≠ none

lemma Answered.extracted {input : Entity} {credentials : Option PyDict} {records : List PyVal}
    {result : QueryResult} (h : Answered u input credentials records result) :
    ∃ raw data found, recordsOf data = .ok records ∧
      extractDomain u (domainOf u input) data = .ok found ∧
      resultOf u "VirusTotal domain lookup for " (domainOf u input)
        (baseUrl ++ "/domains/".toList ++ domainOf u input) raw found = .ok result := by
  obtain ⟨apiKey, raw, data, hkey, hfetch, hrecords⟩ := h.fetched
  have hasked : ¬ (!domainRe (domainOf u input)) = true := by
    rw [h.valid, Bool.not_true]
    exact Bool.false_ne_true
  have hlabelled : ¬ (strip input.label.toList).isEmpty = true := by
    rw [List.isEmpty_iff]
    exact h.labelled
  obtain ⟨apiKey', hkey', hquery⟩ := bind_eq_ok.mp h.returned
  rw [hkey] at hkey'
  cases hkey'
  rw [h.type] at hquery
  dsimp only at hquery
  rw [if_neg hlabelled, queryDomain] at hquery
  dsimp only at hquery
  rw [← domainOf, if_neg hasked] at hquery
  obtain ⟨⟨raw', data'⟩, hfetch', hquery⟩ := bind_eq_ok.mp hquery
  rw [hfetch] at hfetch'
  cases hfetch'
  obtain ⟨found, hfound, hquery⟩ := bind_eq_ok.mp hquery
  exact ⟨raw, data, found, hrecords, hfound, hquery⟩

lemma honestResult_iff {question : String} {url : List Char} {raw : Bytes} {data : PyDict}
    {records : List PyVal} (hrecords : recordsOf data = .ok records) {found : Found}
    (hfound : extractDomain u domain data = .ok found) {result : QueryResult}
    (h : resultOf u question domain url raw found = .ok result) :
    HonestResult u domain records result ↔ Conclusive u domain records := by
  obtain ⟨evidence, hevidence, h⟩ := bind_eq_ok.mp h
  obtain ⟨-, rfl⟩ := evidenceProposal_ok.mp hevidence
  cases h
  have hcapped := extractDomain_capped_eq hrecords hfound
  have hlabels : proposed found.entities = _ := congrArg Prod.fst hcapped
  have hflag : found.truncated = _ := congrArg Prod.snd hcapped
  have hpicked : ∀ items : List (PyVal ⊕ PyVal), items.foldl (pick (candidateOf u domain)) []
      = items.filterMap (candidateOf u domain) :=
    fun items => foldl_pick _ _ _
  have hempty : ([] : List (EntityType × List Char)).length ≤ maxEntities := Nat.zero_le _
  rw [capped_fst (grows_pick _) hempty, hpicked, filterMap_visits] at hlabels
  have hcount : (spec u url found).lookup "entity_count"
      = some (.int (proposed found.entities).length) := by
    rw [proposed, List.length_map]
    rfl
  calc HonestResult u domain records _
    _ ↔ Honest maxEntities (candidates u domain records) (proposed found.entities)
          (spec u url found) := by
        constructor
        · rintro ⟨evidence, hevidence, hhonest⟩
          cases hevidence
          exact hhonest
        · exact fun hhonest => ⟨_, rfl, hhonest⟩
    _ ↔ (found.truncated = true ↔ maxEntities < (candidates u domain records).length) :=
        honest_iff hlabels rfl hcount
    _ ↔ Conclusive u domain records := by
        have hright := capped_flag_iff (grows_pick (candidateOf u domain)) hempty (visits records)
        simp only [hpicked, filterMap_visits, pick_ne_self_iff] at hright
        rw [hflag]
        exact hright

end VirusTotal

/-- What both plugins say of their caps is right just when nothing that they pass over comes
behind the item that fills the cap, or something that they would have proposed does. -/
theorem truncation_honest_iff {u u' : Upstream} {address domain : Entity}
    {credentials credentials' : Option PyDict} {data : PyDict} {records : List PyVal}
    {hosts names : QueryResult} (hshodan : Shodan.Answered u address credentials data hosts)
    (hvirusTotal : VirusTotal.Answered u' domain credentials' records names) :
    (Shodan.HonestResult u data hosts ↔ Shodan.Conclusive u (Shodan.itemsOf data)) ∧
      (VirusTotal.HonestResult u' (VirusTotal.domainOf u' domain) records names ↔
        VirusTotal.Conclusive u' (VirusTotal.domainOf u' domain) records) := by
  obtain ⟨raw, hresult⟩ := hshodan.resultOf
  obtain ⟨raw', data', found, hrecords, hfound, hresult'⟩ := hvirusTotal.extracted
  exact ⟨Shodan.honestResult_iff hresult, VirusTotal.honestResult_iff hrecords hfound hresult'⟩

/-! ### Answers at the cap -/

/-- An address of the case. -/
def popularAddress : Entity := { popularDomain with type := "IP_ADDRESS", label := "192.0.2.1" }

/-- A host's record with these names, as text and as a value. -/
def hostBody (names : List (List Char)) : Bytes :=
  utf8 ("\x7b\"hostnames\": [".toList
    ++ ", ".toList.intercalate (names.map fun name => '"' :: name ++ ['"']) ++ "]\x7d".toList)

def hostItems (names : List (List Char)) : List PyVal :=
  names.map fun name => .str (String.ofList name)

def hostAnswer (names : List (List Char)) : Upstream :=
  replying (hostBody names) (.dict [("hostnames", .list (hostItems names))])

lemma hostNames_hostItems (u : Upstream) (names : List (List Char)) :
    Shodan.hostNames u (hostItems names) = firsts (names.filterMap fun name =>
      let hostname := u.text.lower (rstrip (· = '.') (strip name))
      if hostname.isEmpty || !domainRe hostname then none else some hostname) := by
  rw [Shodan.hostNames, hostItems, List.filterMap_map]
  refine congrArg firsts (List.filterMap_congr fun name _ => ?_)
  rw [Function.comp_apply, Shodan.hostName, String.toList_ofList]

/-- An answer below the byte cap is read, and its names are looked at. -/
lemma host_answered (names : List (List Char))
    (hlength : (hostBody names).length ≤ maxResponseBytes) :
    ∃ result, Shodan.Answered (hostAnswer names) popularAddress exampleCredentials
      [("hostnames", .list (hostItems names))] result := by
  have hparsed : parseBody (hostAnswer names) (hostBody names)
      = .ok (some (.dict [("hostnames", .list (hostItems names))])) := by
    rw [parseBody, hostAnswer, replying]
    dsimp only
    rw [if_pos rfl]
  have hfetch : Shodan.fetch (hostAnswer names)
      (Shodan.requestOf (strip popularAddress.label.toList) "k")
      = .ok (hostBody names, [("hostnames", .list (hostItems names))]) := by
    refine withRetry_of_ok (bind_eq_ok.mpr ⟨_, rfl, ?_⟩)
    exact bind_eq_ok.mpr ⟨_, readResponse_one hlength, bind_eq_ok.mpr ⟨_, hparsed, rfl⟩⟩
  obtain ⟨found, hfound⟩ :=
    Shodan.extract_returns (hostAnswer names) [("hostnames", .list (hostItems names))]
  have hquestion : LengthIn 1024 (String.ofList
      ("Shodan host lookup for ".toList ++ strip popularAddress.label.toList)) := by
    decide
  have hasked : ¬ ((strip popularAddress.label.toList).isEmpty
      || !ipInputRe (strip popularAddress.label.toList)) = true := by
    decide
  obtain ⟨result, hresult⟩ : ∃ result, Shodan.resultOf (hostAnswer names)
      (strip popularAddress.label.toList) (hostBody names)
      [("hostnames", .list (hostItems names))] = .ok result :=
    ⟨_, bind_eq_ok.mpr ⟨found, hfound, bind_eq_ok.mpr ⟨[], rfl,
      bind_eq_ok.mpr ⟨_, evidenceProposal_ok.mpr ⟨hquestion, rfl⟩, rfl⟩⟩⟩⟩
  have hquery : Shodan.query (hostAnswer names) popularAddress exampleCredentials
      = .ok result := by
    refine bind_eq_ok.mpr ⟨"k", rfl, ?_⟩
    dsimp only
    rw [if_neg hasked]
    exact bind_eq_ok.mpr ⟨_, hfetch, hresult⟩
  exact ⟨result, by decide, ⟨"k", _, rfl, hfetch⟩, hquery⟩

/-- Fifty host names, and the first one again. -/
def repeatedHosts : List (List Char) := (List.range 50).map subdomain ++ [subdomain 0]

lemma repeatedHosts_inconclusive :
    ¬ Shodan.Conclusive (hostAnswer repeatedHosts) (hostItems repeatedHosts) := by
  intro h
  have hsplit : hostItems repeatedHosts
      = hostItems ((List.range 50).map subdomain) ++ hostItems [subdomain 0] := List.map_append
  have hfull : (Shodan.hostNames (hostAnswer repeatedHosts)
      (hostItems ((List.range 50).map subdomain))).length = Shodan.maxEntities := by
    rw [hostNames_hostItems]
    decide +kernel
  rcases h _ _ hsplit hfull with hnil | ⟨item, hitem, name, hname, hnew⟩
  · cases hnil
  -- the one item behind the cap is the first one again
  · refine hnew (mem_firsts.mpr (List.mem_filterMap.mpr ⟨item, ?_, hname⟩))
    obtain rfl := List.mem_singleton.mp hitem
    exact List.mem_map_of_mem (List.mem_map_of_mem (List.mem_range.mpr (by decide)))

/-- `192.0.2.i` -/
def numberedAddress (i : ℕ) : List Char := "192.0.2.".toList ++ (toString i).toList

/-- A domain's record with 51 addresses, as text and as a value. -/
def recordBody : Bytes :=
  utf8 ("\x7b\"data\": \x7b\"attributes\": \x7b\"last_dns_records\": [".toList
    ++ ", ".toList.intercalate ((List.range 51).map fun i =>
      "\x7b\"type\": \"A\", \"value\": \"".toList ++ numberedAddress i ++ "\"\x7d".toList)
    ++ "]\x7d\x7d\x7d".toList)

def addressRecords : List PyVal :=
  (List.range 51).map fun i =>
    .dict [("type", .str "A"), ("value", .str (String.ofList (numberedAddress i)))]

def recordData : PyDict :=
  [("data", .dict [("attributes", .dict [("last_dns_records", .list addressRecords)])])]

def recordAnswer : Upstream := replying recordBody (.dict recordData)

lemma record_answered : ∃ result, VirusTotal.Answered recordAnswer popularDomain exampleCredentials
    addressRecords result := by
  have hparsed : parseBody recordAnswer recordBody = .ok (some (.dict recordData)) := by
    rw [parseBody, recordAnswer, replying]
    dsimp only
    rw [if_pos rfl]
  have hfetch : VirusTotal.fetch recordAnswer (VirusTotal.requestOf (VirusTotal.baseUrl
      ++ "/domains/".toList ++ VirusTotal.domainOf recordAnswer popularDomain) "k")
      = .ok (recordBody, recordData) := by
    refine withRetry_of_ok (bind_eq_ok.mpr ⟨_, rfl, ?_⟩)
    exact bind_eq_ok.mpr ⟨_, readResponse_one (by decide +kernel),
      bind_eq_ok.mpr ⟨_, hparsed, rfl⟩⟩
  have hquery : (VirusTotal.query recordAnswer popularDomain exampleCredentials).isOk = true := by
    decide +kernel
  exact ⟨_, by decide, by decide, by decide, ⟨"k", _, _, rfl, hfetch, rfl⟩,
    ok_of_isOk hquery ⟨[], [], []⟩⟩

/-- Fifty host names, and one more. -/
def newHosts : List (List Char) := (List.range 51).map subdomain

/-- Both answers go past the caps. -/
theorem truncation_honest_iff_capped :
    ∃ hosts names,
      (Shodan.HonestResult (hostAnswer newHosts) [("hostnames", .list (hostItems newHosts))] hosts ↔
        Shodan.Conclusive (hostAnswer newHosts)
          (Shodan.itemsOf [("hostnames", .list (hostItems newHosts))])) ∧
      (VirusTotal.HonestResult recordAnswer (VirusTotal.domainOf recordAnswer popularDomain)
          addressRecords names ↔
        VirusTotal.Conclusive recordAnswer (VirusTotal.domainOf recordAnswer popularDomain)
          addressRecords) := by
  obtain ⟨hosts, hhosts⟩ := host_answered newHosts (by decide +kernel)
  obtain ⟨names, hnames⟩ := record_answered
  exact ⟨hosts, names, truncation_honest_iff hhosts hnames⟩

/-- A name that is there already sets the flag behind fifty of them. -/
theorem truncation_flag_overstates :
    ¬ ∀ (u u' : Upstream) (address domain : Entity) (credentials credentials' : Option PyDict)
      (data : PyDict) (records : List PyVal) (hosts names : QueryResult),
      Shodan.Answered u address credentials data hosts →
      VirusTotal.Answered u' domain credentials' records names →
      Shodan.HonestResult u data hosts ∧
        VirusTotal.HonestResult u' (VirusTotal.domainOf u' domain) records names := by
  intro h
  obtain ⟨hosts, hhosts⟩ := host_answered repeatedHosts (by decide +kernel)
  obtain ⟨names, hnames⟩ := record_answered
  obtain ⟨hhonest, -⟩ := h _ _ _ _ _ _ _ _ _ _ hhosts hnames
  obtain ⟨raw, hresult⟩ := hhosts.resultOf
  refine repeatedHosts_inconclusive ?_
  have hitems : Shodan.itemsOf [("hostnames", .list (hostItems repeatedHosts))]
      = hostItems repeatedHosts := List.append_nil _
  exact hitems ▸ (Shodan.honestResult_iff hresult).mp hhonest

end Sleuthgraph
