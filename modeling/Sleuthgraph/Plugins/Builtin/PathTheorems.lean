import Sleuthgraph.Lib.UrlPaths
import Sleuthgraph.Plugins.Builtin.Requests
import Sleuthgraph.Plugins.Builtin.LabelTheorems

/-!
# Where a label goes in a request (`virustotal`, `shodan`)

Both plugins put the label of an entity into the path of a URL. The patterns that guard it keep
delimiters out. They let a newline through at the end of a domain, when dots follow it in the
label, which httpx refuses, and addresses that are one or two dots.
-/

namespace Sleuthgraph

open UrlPaths Logs

/-! ## Lookups -/

/-- A plugin with the type of its input. -/
inductive Lookup where
  | domain
  | ipAddress
  | host
deriving DecidableEq, Repr

namespace Lookup

/-- The type of the input. -/
def inputType : Lookup → EntityType
  | .domain => .domain
  | .ipAddress | .host => .ipAddress

/-- The path before the label. -/
def root : Lookup → List Char
  | .domain => "/api/v3/domains/".toList
  | .ipAddress => "/api/v3/ip_addresses/".toList
  | .host => "/shodan/host/".toList

/-- `query` of the plugin. -/
def query : Lookup → Upstream → Entity → Option PyDict → Except Exc QueryResult
  | .domain | .ipAddress => VirusTotal.query
  | .host => Shodan.query

/-- The same, with a log of the requests. -/
def issuing : Lookup → Upstream → Entity → Option PyDict → Issuing QueryResult
  | .domain | .ipAddress => VirusTotal.issuingQuery
  | .host => Shodan.issuingQuery

/-- All requests of a lookup, in their order. -/
def requests (l : Lookup) (u : Upstream) (input : Entity) (credentials : Option PyDict) :
    List HttpRequest := records (l.issuing u input credentials) ()

/-- The request with the label in normal form. -/
def requestOf : Lookup → List Char → String → HttpRequest
  | .domain, segment, apiKey =>
    VirusTotal.requestOf (VirusTotal.baseUrl ++ "/domains/".toList ++ segment) apiKey
  | .ipAddress, segment, apiKey =>
    VirusTotal.requestOf (VirusTotal.baseUrl ++ "/ip_addresses/".toList ++ segment) apiKey
  | .host, segment, apiKey => Shodan.requestOf segment apiKey

/-- The label in normal form, if it is looked up. -/
def segment (u : Upstream) (input : Entity) : Lookup → Option (List Char)
  | .domain =>
    let domain := rstrip (· = '.') (u.text.lower (strip input.label.toList))
    if strip input.label.toList ≠ [] ∧ domainRe domain = true then some domain else none
  | .ipAddress | .host =>
    if ipInputRe (strip input.label.toList) = true then some (strip input.label.toList) else none

end Lookup

variable {u : Upstream} {input : Entity} {credentials : Option PyDict} {apiKey : String}

/-- Without its requests, a lookup is the query of its plugin. -/
theorem Lookup.issuing_without (l : Lookup) :
    Without (l.issuing u input credentials) (l.query u input credentials) := by
  cases l with
  | domain | ipAddress => exact VirusTotal.issuingQuery_without u input credentials
  | host => exact Shodan.issuingQuery_without u input credentials

lemma quiet_bind {α β : Type} (a : α) (f : α → Issuing β) : (quiet (.ok a) >>= f) = f a := rfl

lemma ipInputRe_nil : ipInputRe [] = false := by decide

/-- `VirusTotalPlugin.query` for a domain. -/
lemma VirusTotal.issuingQuery_domain (hkey : apiKeyOf credentials = .ok apiKey)
    (htype : EntityType.ofValue input.type = some .domain) :
    VirusTotal.issuingQuery u input credentials =
      if (strip input.label.toList).isEmpty then pure ⟨[], [], []⟩
      else issuingDomain u (strip input.label.toList) apiKey := by
  rw [VirusTotal.issuingQuery, hkey, htype]
  rfl

/-- `VirusTotalPlugin.query` for an address. -/
lemma VirusTotal.issuingQuery_ipAddress (hkey : apiKeyOf credentials = .ok apiKey)
    (htype : EntityType.ofValue input.type = some .ipAddress) :
    VirusTotal.issuingQuery u input credentials =
      if (strip input.label.toList).isEmpty then pure ⟨[], [], []⟩
      else issuingIp u (strip input.label.toList) apiKey := by
  rw [VirusTotal.issuingQuery, hkey, htype]
  rfl

/-- What a lookup requests for a label that is looked up. -/
lemma Lookup.issuing_just {l : Lookup} (hkey : apiKeyOf credentials = .ok apiKey)
    (htype : EntityType.ofValue input.type = some l.inputType) {segment : List Char}
    (hsegment : l.segment u input = some segment) :
    IssuesJust (l.requestOf segment apiKey) (l.issuing u input credentials) := by
  cases l with
  | domain =>
    simp only [Lookup.segment, Option.ite_none_right_eq_some, Option.some.injEq] at hsegment
    obtain ⟨⟨hlabel, hvalid⟩, rfl⟩ := hsegment
    rw [Lookup.issuing, VirusTotal.issuingQuery_domain hkey htype, if_neg (by simpa using hlabel),
      VirusTotal.issuingDomain, hvalid, Bool.not_true, if_neg Bool.false_ne_true]
    exact (issuingRetry_just "VirusTotal" u _).bind fun P _ =>
      (Adds.silent _).bind fun _ => Adds.silent _
  | ipAddress =>
    simp only [Lookup.segment, Option.ite_none_right_eq_some, Option.some.injEq] at hsegment
    obtain ⟨hvalid, rfl⟩ := hsegment
    have hlabel : strip input.label.toList ≠ [] := fun hnil => by
      rw [hnil, ipInputRe_nil] at hvalid
      cases hvalid
    rw [Lookup.issuing, VirusTotal.issuingQuery_ipAddress hkey htype,
      if_neg (by simpa using hlabel), VirusTotal.issuingIp, hvalid, Bool.not_true,
      if_neg Bool.false_ne_true]
    exact (issuingRetry_just "VirusTotal" u _).bind fun P _ =>
      (Adds.silent _).bind fun _ => Adds.silent _
  | host =>
    simp only [Lookup.segment, Option.ite_none_right_eq_some, Option.some.injEq] at hsegment
    obtain ⟨hvalid, rfl⟩ := hsegment
    have hasked : ¬ ((strip input.label.toList).isEmpty || !ipInputRe (strip input.label.toList))
        = true := by
      rw [hvalid, Bool.not_true, Bool.or_false, List.isEmpty_iff]
      intro hnil
      rw [hnil, ipInputRe_nil] at hvalid
      cases hvalid
    rw [Lookup.issuing, Shodan.issuingQuery, hkey, quiet_bind]
    dsimp only
    rw [if_neg hasked]
    exact (issuingRetry_just "Shodan" u _).bind fun P _ => Adds.silent _

/-- A label that is not looked up. -/
lemma Lookup.requests_of_none {l : Lookup} (hkey : apiKeyOf credentials = .ok apiKey)
    (htype : EntityType.ofValue input.type = some l.inputType)
    (hsegment : l.segment u input = none) : l.requests u input credentials = [] := by
  have hquiet : l.issuing u input credentials = pure ⟨[], [], []⟩ := by
    cases l with
    | domain =>
      simp only [Lookup.segment, ite_eq_right_iff, reduceCtorEq, imp_false, not_and] at hsegment
      rw [Lookup.issuing, VirusTotal.issuingQuery_domain hkey htype]
      split
      · rfl
      · rename_i hlabel
        have hinvalid := hsegment (by simpa using hlabel)
        rw [VirusTotal.issuingDomain, Bool.eq_false_iff.mpr hinvalid, Bool.not_false, if_pos rfl]
    | ipAddress =>
      simp only [Lookup.segment, ite_eq_right_iff, reduceCtorEq, imp_false] at hsegment
      rw [Lookup.issuing, VirusTotal.issuingQuery_ipAddress hkey htype]
      split
      · rfl
      · rw [VirusTotal.issuingIp, Bool.eq_false_iff.mpr hsegment, Bool.not_false, if_pos rfl]
    | host =>
      simp only [Lookup.segment, ite_eq_right_iff, reduceCtorEq, imp_false] at hsegment
      rw [Lookup.issuing, Shodan.issuingQuery, hkey, quiet_bind]
      dsimp only
      rw [Bool.eq_false_iff.mpr hsegment, Bool.not_false, Bool.or_true, if_pos rfl]
  rw [Lookup.requests, hquiet]
  rfl

/-- The requests of a lookup: the one with its label, as often as it is tried, if its URL is
accepted. -/
theorem Lookup.mem_requests_iff {l : Lookup} (hkey : apiKeyOf credentials = .ok apiKey)
    (htype : EntityType.ofValue input.type = some l.inputType) (request : HttpRequest) :
    request ∈ l.requests u input credentials ↔ ∃ segment, l.segment u input = some segment ∧
      request = l.requestOf segment apiKey ∧ urlAccepted request.url = true := by
  cases hsegment : l.segment u input with
  | none => simp [Lookup.requests_of_none hkey htype hsegment]
  | some segment =>
    rw [Lookup.requests, (Lookup.issuing_just hkey htype hsegment).mem_records]
    constructor
    · rintro ⟨rfl, haccepted⟩
      exact ⟨segment, rfl, rfl, haccepted⟩
    · rintro ⟨segment', hsegment', rfl, haccepted⟩
      obtain rfl := Option.some.inj hsegment'
      exact ⟨rfl, haccepted⟩

/-! ## Paths -/

/-- `[A-Za-z0-9.:-]` -/
def isSegmentChar (c : Char) : Bool := c.isAlphanum || c = '.' || c = ':' || c = '-'

/-- The path is the root with one segment of these characters, no dot segment, so it is the same
after dot segments are removed. -/
def PlainPath (root url : List Char) : Prop :=
  ∃ segment, pathOf url = root ++ segment ∧ segment ≠ [] ∧
    (∀ c ∈ segment, isSegmentChar c = true) ∧ segment ≠ ['.'] ∧ segment ≠ ['.', '.'] ∧
    removeDotSegments (pathOf url) = pathOf url

lemma Lookup.pathOf_request (l : Lookup) {segment : List Char} (apiKey : String)
    (h : ∀ c ∈ segment, endsPath c = false) :
    pathOf (l.requestOf segment apiKey).url = l.root ++ segment := by
  have hpath : ∀ c ∈ l.root ++ segment, endsPath c = false := by
    intro c hc
    rcases List.mem_append.mp hc with hc | hc
    · have hroot : ∀ c ∈ l.root, endsPath c = false := by
        cases l <;> exact List.all_iff_forall_prop.mp (by decide +kernel)
      exact hroot c hc
    · exact h c hc
  have hslash : (l.root ++ segment).head? = some '/' := by cases l <;> rfl
  have hauthority : ∀ c ∈ "www.virustotal.com".toList, endsAuthority c = false :=
    List.all_iff_forall_prop.mp (by decide +kernel)
  have hshodan : ∀ c ∈ "api.shodan.io".toList, endsAuthority c = false :=
    List.all_iff_forall_prop.mp (by decide +kernel)
  have hscheme : '/' ∉ "https:".toList := by decide +kernel
  cases l with
  | domain =>
    have hparts := @pathOf_append _ _ _ [] hscheme hauthority hslash hpath (by simp)
    rw [List.append_nil] at hparts
    exact hparts
  | ipAddress =>
    have hparts := @pathOf_append _ _ _ [] hscheme hauthority hslash hpath (by simp)
    rw [List.append_nil] at hparts
    exact hparts
  | host =>
    have hparts := @pathOf_append _ _ _ ("?key=".toList ++ apiKey.toList) hscheme hshodan
      hslash hpath (by intro c hc; cases hc; rfl)
    have hurl : (Lookup.host.requestOf segment apiKey).url = "https://api.shodan.io".toList
        ++ (Lookup.host.root ++ segment ++ ("?key=".toList ++ apiKey.toList)) := by
      rw [← List.append_assoc (Lookup.host.root ++ segment), ← List.append_assoc,
        ← List.append_assoc]
      rfl
    rw [hurl]
    exact hparts

lemma isSegmentChar_of_label {label : List Char} (h : domainLabel label = true) :
    ∀ c ∈ label, isSegmentChar c = true := by
  intro c hc
  simp only [domainLabel, runOf, Bool.and_eq_true, List.all_eq_true, Bool.or_eq_true,
    decide_eq_true_eq] at h
  rcases h.1.1.1.2 c hc with halnum | rfl
  · simp [isSegmentChar, halnum]
  · rfl

/-- A domain has plain characters, but for the newline that may end it. -/
lemma segmentChars_of_domainRe {s : List Char} (h : domainRe s = true) :
    (∀ c ∈ s, isSegmentChar c = true) ∨
      ∃ init, s = init ++ ['\n'] ∧ ∀ c ∈ init, isSegmentChar c = true := by
  have hbody : ∀ {body : List Char}, (decide (body.length ≤ 253)
      && decide (2 ≤ (splitAt '.' body).length) && (splitAt '.' body).all domainLabel) = true →
        ∀ c ∈ body, isSegmentChar c = true := by
    intro body hbody c hc
    simp only [Bool.and_eq_true, List.all_eq_true] at hbody
    rcases mem_splitAt '.' hc with rfl | ⟨label, hlabel, hmem⟩
    · rfl
    · exact isSegmentChar_of_label (hbody.2 label hlabel) c hmem
  rcases dollar_iff.mp h with hs | ⟨init, rfl, hinit⟩
  · exact Or.inl (hbody hs)
  · exact Or.inr ⟨init, rfl, hbody hinit⟩

/-- An address after `strip` has plain characters. -/
lemma segmentChars_of_ipInputRe {s : List Char} (h : ipInputRe (strip s) = true) :
    ∀ c ∈ strip s, isSegmentChar c = true := by
  have hchar : ∀ c, (isHexDigit c || c = '.' || c = ':') = true → isSegmentChar c = true := by
    intro c hc
    simp only [Bool.or_eq_true, decide_eq_true_eq] at hc
    rcases hc with (hhex | rfl) | rfl
    · have halnum : c.isAlphanum = true := by
        simp only [Char.isAlphanum, isAlpha_iff, Bool.or_eq_true, isDigit_iff_toNat,
          isUpper_iff_toNat, isLower_iff_toNat]
        have hrange := isHexDigit_iff_toNat.mp hhex
        omega
      simp [isSegmentChar, halnum]
    · rfl
    · rfl
  rcases dollar_iff.mp h with hs | ⟨init, hinit, -⟩
  · rw [runOf, Bool.and_eq_true, List.all_eq_true] at hs
    exact fun c hc => hchar c (hs.2 c hc)
  -- `strip` leaves no newline at the end
  · have hlast : (strip s).getLast? = some '\n' := by rw [hinit, List.getLast?_concat]
    exact absurd (getLast?_rstrip hlast) (by decide)

lemma endsPath_of_isSegmentChar {c : Char} (h : isSegmentChar c = true) : endsPath c = false := by
  rw [endsPath, Bool.or_eq_false_iff, decide_eq_false_iff_not, decide_eq_false_iff_not]
  constructor
  · rintro rfl
    exact absurd h (by decide)
  · rintro rfl
    exact absurd h (by decide)

/-- A plain segment behind a root is no dot segment. -/
lemma plainPath_of_segment {l : Lookup} {segment : List Char} (apiKey : String)
    (hne : segment ≠ []) (hchars : ∀ c ∈ segment, isSegmentChar c = true)
    (hdot : segment ≠ ['.']) (hdots : segment ≠ ['.', '.']) :
    PlainPath l.root (l.requestOf segment apiKey).url := by
  have hpath := l.pathOf_request apiKey fun c hc => endsPath_of_isSegmentChar (hchars c hc)
  have hslash : '/' ∉ segment := fun hmem => absurd (hchars '/' hmem) (by decide)
  refine ⟨segment, hpath, hne, hchars, hdot, hdots, ?_⟩
  rw [hpath]
  refine removeDotSegments_eq fun s hs => ?_
  -- the segments of the root, then this one
  obtain ⟨stem, hroot, hstem⟩ : ∃ stem, l.root = stem ++ ['/'] ∧
      ∀ s ∈ splitAt '/' stem, s ≠ ['.'] ∧ s ≠ ['.', '.'] := by
    cases l with
    | domain => exact ⟨"/api/v3/domains".toList, by decide +kernel, by decide +kernel⟩
    | ipAddress => exact ⟨"/api/v3/ip_addresses".toList, by decide +kernel, by decide +kernel⟩
    | host => exact ⟨"/shodan/host".toList, by decide +kernel, by decide +kernel⟩
  rw [hroot, List.append_assoc, List.singleton_append, ← splitAt_eq_splitOn, splitAt_append_cons,
    splitAt_of_notMem hslash, List.mem_append, List.mem_singleton] at hs
  rcases hs with hs | rfl
  · exact hstem s hs
  · exact ⟨hdot, hdots⟩

/-- The label does not lead elsewhere: an address is not one or two dots, or, where the key is
in the URL too, the URL is refused. -/
def Lookup.Stays (input : Entity) (apiKey : String) : Lookup → Prop
  | .domain => True
  | .ipAddress => strip input.label.toList ≠ ['.'] ∧ strip input.label.toList ≠ ['.', '.']
  | .host => strip input.label.toList = ['.'] ∨ strip input.label.toList = ['.', '.'] →
    urlAccepted (Shodan.urlOf (strip input.label.toList) apiKey.toList) = false

/-- What a domain lookup puts into the path. -/
lemma Lookup.domain_segment {segment : List Char}
    (h : Lookup.domain.segment u input = some segment) : domainRe segment = true := by
  simp only [Lookup.segment, Option.ite_none_right_eq_some, Option.some.injEq] at h
  exact h.2 ▸ h.1.2

/-- What an address lookup puts into the path. -/
lemma Lookup.address_segment {l : Lookup} (hl : l ≠ .domain) {segment : List Char} :
    l.segment u input = some segment ↔
      ipInputRe (strip input.label.toList) = true ∧ strip input.label.toList = segment := by
  cases l with
  | domain => exact absurd rfl hl
  | ipAddress => simp [Lookup.segment]
  | host => simp [Lookup.segment]

/-- A URL that is accepted has no newline. -/
lemma newline_notMem_of_urlAccepted {url : List Char} (h : urlAccepted url = true) :
    '\n' ∉ url := by
  intro hmem
  rw [urlAccepted, Bool.and_eq_true, Bool.not_eq_true', List.any_eq_false] at h
  exact h.2 '\n' hmem (by decide)

/-- The label is at the end of a domain's URL. -/
lemma Lookup.mem_domain_url {segment : List Char} {c : Char} (hc : c ∈ segment) :
    c ∈ (Lookup.domain.requestOf segment apiKey).url := List.mem_append_right _ hc

/-- What is requested for a label that stays is a plain segment. -/
lemma Lookup.plain_of_stays {l : Lookup} {segment : List Char}
    (h : l.segment u input = some segment) (hstays : l.Stays input apiKey)
    (haccepted : urlAccepted (l.requestOf segment apiKey).url = true) :
    segment ≠ [] ∧ (∀ c ∈ segment, isSegmentChar c = true) ∧ segment ≠ ['.'] ∧
      segment ≠ ['.', '.'] := by
  by_cases hl : l = .domain
  · subst hl
    have hvalid := Lookup.domain_segment h
    refine ⟨?_, ?_, ?_, ?_⟩
    · rintro rfl
      exact absurd hvalid (by decide)
    · rcases segmentChars_of_domainRe hvalid with hchars | ⟨init, rfl, -⟩
      · exact hchars
      · have hmem : '\n' ∈ init ++ ['\n'] := List.mem_append_right _ List.mem_cons_self
        exact absurd (Lookup.mem_domain_url hmem) (newline_notMem_of_urlAccepted haccepted)
    · rintro rfl
      exact absurd hvalid (by decide)
    · rintro rfl
      exact absurd hvalid (by decide)
  · obtain ⟨hvalid, rfl⟩ := (Lookup.address_segment hl).mp h
    have hdots : strip input.label.toList ≠ ['.'] ∧ strip input.label.toList ≠ ['.', '.'] := by
      cases l with
      | domain => exact absurd rfl hl
      | ipAddress => exact hstays
      | host =>
        rw [← not_or]
        intro hdots
        have hrefused : urlAccepted (Lookup.host.requestOf (strip input.label.toList) apiKey).url
          = false := hstays hdots
        rw [hrefused] at haccepted
        cases haccepted
    refine ⟨?_, segmentChars_of_ipInputRe hvalid, hdots⟩
    intro hnil
    rw [hnil, ipInputRe_nil] at hvalid
    cases hvalid

/-- A plain path under a root has no dots for its segment. -/
lemma dots_of_plainPath {l : Lookup} {dots : List Char} (hdots : dots = ['.'] ∨ dots = ['.', '.'])
    (h : PlainPath l.root (l.requestOf dots apiKey).url) : False := by
  have hchars : ∀ c ∈ dots, endsPath c = false := by
    rcases hdots with rfl | rfl <;> exact List.all_iff_forall_prop.mp (by decide)
  obtain ⟨segment, hpath, -, -, hdot, hdotdot, -⟩ := h
  rw [l.pathOf_request apiKey hchars] at hpath
  obtain rfl := List.append_cancel_left hpath
  exact hdots.elim hdot hdotdot

/-- The URL of one or two dots is accepted where the key is not in it. -/
lemma urlAccepted_dots {dots : List Char} (hdots : dots = ['.'] ∨ dots = ['.', '.']) :
    urlAccepted (Lookup.ipAddress.requestOf dots apiKey).url = true := by
  show urlAccepted (VirusTotal.baseUrl ++ "/ip_addresses/".toList ++ dots) = true
  rcases hdots with rfl | rfl <;> decide +kernel

/-- One or two dots pass the pattern of an address. -/
lemma Lookup.segment_dots {l : Lookup} (hl : l ≠ .domain)
    (hdots : strip input.label.toList = ['.'] ∨ strip input.label.toList = ['.', '.']) :
    l.segment u input = some (strip input.label.toList) := by
  refine (Lookup.address_segment hl).mpr ⟨?_, rfl⟩
  rcases hdots with hdots | hdots <;> rw [hdots] <;> decide

/-- **Paths of requests**: all requests of a lookup go to a plain path under its root just when the
label stays there. -/
theorem request_paths_iff {l : Lookup} (hkey : apiKeyOf credentials = .ok apiKey)
    (htype : EntityType.ofValue input.type = some l.inputType) :
    (∀ request ∈ l.requests u input credentials, PlainPath l.root request.url) ↔
      l.Stays input apiKey := by
  constructor
  · intro hpaths
    -- dots whose URL is accepted are requested
    have hleaves : l ≠ .domain → ∀ hdots : strip input.label.toList = ['.'] ∨
        strip input.label.toList = ['.', '.'],
        urlAccepted (l.requestOf (strip input.label.toList) apiKey).url = true → False := by
      intro hl hdots haccepted
      have hmem := (Lookup.mem_requests_iff hkey htype _).mpr
        ⟨_, Lookup.segment_dots (u := u) hl hdots, rfl, haccepted⟩
      exact dots_of_plainPath hdots (hpaths _ hmem)
    cases l with
    | domain => trivial
    | ipAddress =>
      rw [Lookup.Stays, ← not_or]
      exact fun hdots => hleaves (by decide) hdots (urlAccepted_dots hdots)
    | host =>
      intro hdots
      exact Bool.eq_false_iff.mpr (hleaves (by decide) hdots)
  · intro hstays request hrequest
    obtain ⟨segment, hsegment, rfl, haccepted⟩ :=
      (Lookup.mem_requests_iff hkey htype request).mp hrequest
    obtain ⟨hne, hchars, hdot, hdots⟩ := Lookup.plain_of_stays hsegment hstays haccepted
    exact plainPath_of_segment apiKey hne hchars hdot hdots

/-- An address of a case, with this label. -/
def addressLabelled (label : String) : Entity where
  id := 1
  caseId := 2
  type := "IP_ADDRESS"
  label
  attrs := .dict []
  confidence := 1
  createdBy := none
  createdAt := 0
  updatedAt := 0
  deletedAt := none

/-- An upstream whose answers never arrive. -/
def unreachable : Upstream where
  client := plainClient fun _ _ => .error (Exc.transportError "unreachable")
  loads _ := .error Exc.jsonDecodeError
  text := asciiTables
  now := "2026-01-01T00:00:00+00:00"

/-- An address is requested three times. -/
example : Lookup.ipAddress.requests unreachable (addressLabelled "192.0.2.1")
    (some [("api_key", .str "k")])
      = List.replicate 3 (Lookup.ipAddress.requestOf "192.0.2.1".toList "k") := by decide +kernel

theorem request_paths_iff_address :
    (∀ request ∈ Lookup.ipAddress.requests unreachable (addressLabelled "192.0.2.1")
        (some [("api_key", .str "k")]), PlainPath Lookup.ipAddress.root request.url) ↔
      Lookup.ipAddress.Stays (addressLabelled "192.0.2.1") "k" :=
  request_paths_iff rfl rfl

/-- The address `..` is requested, and leads to the parent. -/
theorem request_paths_leave_root :
    ¬ ∀ (l : Lookup) (u : Upstream) (input : Entity) (credentials : Option PyDict)
      (apiKey : String), apiKeyOf credentials = .ok apiKey →
      EntityType.ofValue input.type = some l.inputType → LengthIn 512 input.label →
      ∀ request ∈ l.requests u input credentials, PlainPath l.root request.url := by
  intro h
  have hsent := (@Lookup.mem_requests_iff unreachable (addressLabelled "..")
    (some [("api_key", .str "k")]) "k" .ipAddress rfl rfl
    (Lookup.ipAddress.requestOf ['.', '.'] "k")).mpr
      ⟨_, by decide +kernel, rfl, urlAccepted_dots (Or.inr rfl)⟩
  exact dots_of_plainPath (Or.inr rfl) (h .ipAddress unreachable (addressLabelled "..")
    (some [("api_key", .str "k")]) "k" rfl rfl (by decide +kernel) _ hsent)

end Sleuthgraph
