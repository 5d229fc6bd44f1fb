import Sleuthgraph.Plugins.Builtin.CapTheorems
import Sleuthgraph.Plugins.Builtin.DnsWhois
import Sleuthgraph.Plugins.Builtin.LabelTheorems

/-!
# What the plugins report of hosts and addresses (`plugins/builtin/`)

Each RESOLVES_TO that a plugin proposes ties an entity of its result to the input, in a direction
that is the plugin's own: `virustotal` and `shodan` go from the domain to the address, `dns_whois`
from the address to the domain. `virustotal` and `shodan` propose normal labels only; `crtsh`
keeps a dot at the end of the input's label, and `dns_whois` the upper-case letters of NS and MX
answers.
-/

namespace Sleuthgraph

/-! ## Relationships that are tied to entities -/

/-- The endpoints of a relationship between the input and the entity of a `ref`. -/
def endsOf (inputFirst : Bool) (ref : String) : PyDict × PyDict :=
  if inputFirst then (inputEnd, refEnd ref) else (refEnd ref, inputEnd)

/-- The relationship is a RESOLVES_TO if the entity is of the type, and then it lies between the
input and the entity. -/
structure Tied (type : EntityType) (inputFirst : Bool) (ep : EntityProposal)
    (rp : RelationshipProposal) : Prop where
  type_iff : rp.relType = .resolvesTo ↔ ep.type = type
  ends : rp.relType = .resolvesTo → (rp.src, rp.dst) = endsOf inputFirst ep.ref

lemma Tied.resolves {type : EntityType} {inputFirst : Bool} {ep : EntityProposal}
    {rp : RelationshipProposal} (hrel : rp.relType = .resolvesTo) (htype : ep.type = type)
    (hends : (rp.src, rp.dst) = endsOf inputFirst ep.ref) : Tied type inputFirst ep rp :=
  ⟨iff_of_true hrel htype, fun _ => hends⟩

lemma Tied.other {type : EntityType} {inputFirst : Bool} {ep : EntityProposal}
    {rp : RelationshipProposal} (hrel : rp.relType ≠ .resolvesTo) (htype : ep.type ≠ type) :
    Tied type inputFirst ep rp :=
  ⟨iff_of_false hrel htype, fun h => absurd h hrel⟩

/-- One relationship for each entity, and no `ref` twice. -/
structure Ties (type : EntityType) (inputFirst : Bool) (entities : List EntityProposal)
    (relationships : List RelationshipProposal) : Prop where
  tied : List.Forall₂ (Tied type inputFirst) entities relationships
  refs : (entities.map EntityProposal.ref).Nodup

section Ties

variable {type : EntityType} {inputFirst : Bool} {entities : List EntityProposal}
variable {relationships : List RelationshipProposal}

/-- An entity of the type has its RESOLVES_TO. -/
lemma Ties.resolvesTo (h : Ties type inputFirst entities relationships) {ep : EntityProposal}
    (hep : ep ∈ entities) (htype : ep.type = type) :
    ∃ rp ∈ relationships,
      rp.relType = .resolvesTo ∧ (rp.src, rp.dst) = endsOf inputFirst ep.ref := by
  obtain ⟨rp, hrp, htied⟩ := exists_paired h.tied hep
  have hrel := htied.type_iff.mpr htype
  exact ⟨rp, hrp, hrel, htied.ends hrel⟩

/-- A RESOLVES_TO lies between the input and an entity of the result. -/
lemma Ties.ends (h : Ties type inputFirst entities relationships) {rp : RelationshipProposal}
    (hrp : rp ∈ relationships) (hrel : rp.relType = .resolvesTo) :
    ∃ ref, (rp.src, rp.dst) = endsOf inputFirst ref := by
  obtain ⟨ep, -, htied⟩ :=
    exists_paired (R := fun rp ep => Tied type inputFirst ep rp) h.tied.flip hrp
  exact ⟨ep.ref, htied.ends hrel⟩

end Ties

/-- References count the entities, whatever their stem is. -/
structure CountedRefs (entities : List EntityProposal) : Prop where
  refs : (entities.map EntityProposal.ref).Nodup
  counted : ∀ ep ∈ entities, ∃ stem i, i < entities.length ∧ ep.ref = numbered stem i

lemma CountedRefs.nil : CountedRefs [] := ⟨List.nodup_nil, fun _ h => absurd h List.not_mem_nil⟩

/-- The next number is new, under any stem. -/
lemma CountedRefs.add {entities : List EntityProposal} (h : CountedRefs entities)
    {ep : EntityProposal} {stem : String} (href : ep.ref = numbered stem entities.length) :
    CountedRefs (entities ++ [ep]) := by
  have hlength : (entities ++ [ep]).length = entities.length + 1 := by
    rw [List.length_append, List.length_singleton]
  refine ⟨?_, fun e he => ?_⟩
  · rw [List.map_append, List.map_singleton, ← List.concat_eq_append, List.nodup_concat]
    refine ⟨fun hmem => ?_, h.refs⟩
    obtain ⟨e, he, hsame⟩ := List.mem_map.mp hmem
    obtain ⟨stem', i, hi, hnumber⟩ := h.counted e he
    have hcount := (numbered_inj (hnumber.symm.trans (hsame.trans href))).2
    omega
  · rw [hlength]
    rcases List.mem_append.mp he with he | he
    · obtain ⟨stem', i, hi, hnumber⟩ := h.counted e he
      exact ⟨stem', i, by omega, hnumber⟩
    · rw [List.mem_singleton.mp he]
      exact ⟨stem, entities.length, by omega, href⟩

/-- What the loops of `virustotal` and `shodan` keep: references count the entities, whatever
their stem is, and labels are normal. -/
structure Steady (type : EntityType) (inputFirst : Bool) (entities : List EntityProposal)
    (relationships : List RelationshipProposal) : Prop where
  ties : Ties type inputFirst entities relationships
  counted : ∀ ep ∈ entities, ∃ stem i, i < entities.length ∧ ep.ref = numbered stem i
  labels : NormalLabels entities

lemma Steady.nil (type : EntityType) (inputFirst : Bool) : Steady type inputFirst [] [] :=
  ⟨⟨.nil, List.nodup_nil⟩, fun _ h => absurd h List.not_mem_nil, NormalLabels.nil⟩

lemma Steady.add {type : EntityType} {inputFirst : Bool} {entities : List EntityProposal}
    {relationships : List RelationshipProposal} (h : Steady type inputFirst entities relationships)
    {ep : EntityProposal} {rp : RelationshipProposal} {stem : String}
    (href : ep.ref = numbered stem entities.length) (htied : Tied type inputFirst ep rp)
    (hlabel : ep.type = .domain → NormalLabel ep.label.toList) :
    Steady type inputFirst (entities ++ [ep]) (relationships ++ [rp]) := by
  have hrefs : CountedRefs entities := ⟨h.ties.refs, h.counted⟩
  have hadded := hrefs.add href
  exact ⟨⟨List.rel_append h.ties.tied (.cons htied .nil), hadded.refs⟩, hadded.counted,
    h.labels.add hlabel⟩

/-! ## `virustotal` -/

namespace VirusTotal

variable {u : Upstream} {type : EntityType} {inputFirst : Bool}

/-- What the bodies of the loops keep. -/
abbrev Found.Steady (type : EntityType) (inputFirst : Bool) (found : Found) : Prop :=
  Sleuthgraph.Steady type inputFirst found.entities found.relationships

/-- What a body keeps, a loop keeps. -/
lemma eachRecord_keeps {P : List EntityProposal → List RelationshipProposal → Prop}
    {body : Found → PyVal → Except Exc Found}
    (hbody : ∀ found rec found', P found.entities found.relationships →
      body found rec = .ok found' → P found'.entities found'.relationships)
    {records : List PyVal} {found found' : Found} (hfound : P found.entities found.relationships)
    (h : eachRecord body found records = .ok found') : P found'.entities found'.relationships := by
  induction records generalizing found with
  | nil =>
    cases h
    exact hfound
  | cons rec records ih =>
    unfold eachRecord at h
    split at h
    -- the cap is reached: only the flag changes
    · cases h
      exact hfound
    · obtain ⟨next, hnext, h⟩ := bind_eq_ok.mp h
      exact ih (hbody found rec next hfound hnext) h

/-- What the first loop adds for a record, if anything. -/
lemma addAddress_ok {found found' : Found} {rec : PyVal} (h : addAddress u found rec = .ok found') :
    found' = found ∨ ∃ value rdtype, LengthIn 512 value ∧
      (rdtype = .str "A" ∨ rdtype = .str "AAAA") ∧ found' = found.add
        ⟨numbered "ip" found.entityCount, .ipAddress, value,
          [("discovered_via", .str "virustotal"), ("rdtype", rdtype)], 17 / 20⟩
        ⟨inputEnd, refEnd (numbered "ip" found.entityCount), .resolvesTo, 17 / 20, []⟩ := by
  obtain ⟨rtype, -, h⟩ := bind_eq_ok.mp h
  obtain ⟨value, -, h⟩ := bind_eq_ok.mp h
  split at h
  · rename_i hvalue
    simp only [Bool.and_eq_true, Bool.or_eq_true, decide_eq_true_eq] at hvalue
    obtain ⟨entity, hentity, h⟩ := bind_eq_ok.mp h
    obtain ⟨⟨-, hlength, -⟩, rfl⟩ := entityProposal_ok.mp hentity
    cases h
    exact Or.inr ⟨_, rtype, hlength, hvalue.1.1, rfl⟩
  · cases h
    exact Or.inl rfl

/-- What the second loop adds for a record, if anything. -/
lemma addSubdomain_ok {domain : List Char} {found found' : Found} {rec : PyVal}
    (h : addSubdomain u domain found rec = .ok found') :
    found' = found ∨ ∃ name, domainRe (u.text.lower name) = true ∧ found' = found.add
      ⟨numbered "sub" found.entityCount, .domain, String.ofList (u.text.lower name),
        [("discovered_via", .str "virustotal")], 4 / 5⟩
      ⟨refEnd (numbered "sub" found.entityCount), inputEnd, .subdomainOf, 4 / 5, []⟩ := by
  obtain ⟨rtype, -, h⟩ := bind_eq_ok.mp h
  obtain ⟨stripped, -, h⟩ := bind_eq_ok.mp h
  dsimp only at h
  split at h
  · rename_i hvalue
    simp only [Bool.and_eq_true] at hvalue
    obtain ⟨entity, hentity, h⟩ := bind_eq_ok.mp h
    obtain ⟨-, rfl⟩ := entityProposal_ok.mp hentity
    cases h
    exact Or.inr ⟨_, hvalue.1.1.2, rfl⟩
  · cases h
    exact Or.inl rfl

/-- What the loop over the names of a certificate adds for a name, if anything. -/
lemma addAltName_ok {found found' : Found} {name : PyVal}
    (h : addAltName u found name = .ok found') :
    found' = found ∨ ∃ name, domainRe (u.text.lower name) = true ∧ found' = found.add
      ⟨numbered "domain" found.entityCount, .domain, String.ofList (u.text.lower name),
        [("discovered_via", .str "virustotal")], 7 / 10⟩
      ⟨refEnd (numbered "domain" found.entityCount), inputEnd, .resolvesTo, 7 / 10, []⟩ := by
  unfold addAltName at h
  split at h
  · dsimp only at h
    split at h
    · rename_i hname
      rw [Bool.and_eq_true] at hname
      obtain ⟨entity, hentity, h⟩ := bind_eq_ok.mp h
      obtain ⟨-, rfl⟩ := entityProposal_ok.mp hentity
      cases h
      exact Or.inr ⟨_, hname.2, rfl⟩
    · cases h
      exact Or.inl rfl
  · cases h

lemma addAddress_steady {found found' : Found} {rec : PyVal} (hfound : found.Steady .ipAddress true)
    (h : addAddress u found rec = .ok found') : found'.Steady .ipAddress true := by
  rcases addAddress_ok h with rfl | ⟨value, rdtype, -, -, rfl⟩
  · exact hfound
  · exact hfound.add rfl (.resolves rfl rfl rfl) fun h => nomatch h

lemma addSubdomain_steady (hlowers : u.text.Lowers) {domain : List Char} {found found' : Found}
    {rec : PyVal} (hfound : found.Steady .ipAddress true)
    (h : addSubdomain u domain found rec = .ok found') : found'.Steady .ipAddress true := by
  rcases addSubdomain_ok h with rfl | ⟨name, hname, rfl⟩
  · exact hfound
  · refine hfound.add rfl (.other (fun h => nomatch h) (fun h => nomatch h)) fun _ => ?_
    rw [String.toList_ofList]
    exact normalLabel_of_domainRe hlowers hname

lemma addAltName_steady (hlowers : u.text.Lowers) {found found' : Found} {name : PyVal}
    (hfound : found.Steady .domain false) (h : addAltName u found name = .ok found') :
    found'.Steady .domain false := by
  rcases addAltName_ok h with rfl | ⟨name, hname, rfl⟩
  · exact hfound
  · refine hfound.add rfl (.resolves rfl rfl rfl) fun _ => ?_
    rw [String.toList_ofList]
    exact normalLabel_of_domainRe hlowers hname

lemma queryDomain_steady (hlowers : u.text.Lowers) {label : List Char} {apiKey : String}
    {result : QueryResult} (h : queryDomain u label apiKey = .ok result) :
    Steady .ipAddress true result.entities result.relationships := by
  unfold queryDomain at h
  dsimp only at h
  split at h
  · cases h
    exact .nil _ _
  · obtain ⟨⟨raw, data⟩, -, h⟩ := bind_eq_ok.mp h
    obtain ⟨found, hfound, h⟩ := bind_eq_ok.mp h
    obtain ⟨evidence, -, h⟩ := bind_eq_ok.mp h
    cases h
    obtain ⟨records, -, hfound⟩ := bind_eq_ok.mp hfound
    obtain ⟨items, -, hfound⟩ := bind_eq_ok.mp hfound
    obtain ⟨resolved, hresolved, haliases⟩ := bind_eq_ok.mp hfound
    have hfirst : resolved.Steady .ipAddress true :=
      eachRecord_keeps (fun _ _ _ => addAddress_steady) (.nil _ _) hresolved
    exact eachRecord_keeps (fun _ _ _ => addSubdomain_steady hlowers) hfirst haliases

lemma queryIp_steady (hlowers : u.text.Lowers) {ip : List Char} {apiKey : String}
    {result : QueryResult} (h : queryIp u ip apiKey = .ok result) :
    Steady .domain false result.entities result.relationships := by
  unfold queryIp at h
  split at h
  · cases h
    exact .nil _ _
  · obtain ⟨⟨raw, data⟩, -, h⟩ := bind_eq_ok.mp h
    obtain ⟨found, hfound, h⟩ := bind_eq_ok.mp h
    obtain ⟨evidence, -, h⟩ := bind_eq_ok.mp h
    cases h
    obtain ⟨names, -, hfound⟩ := bind_eq_ok.mp hfound
    obtain ⟨items, -, hfound⟩ := bind_eq_ok.mp hfound
    exact eachRecord_keeps (fun _ _ _ => addAltName_steady hlowers) (.nil _ _) hfound

/-- On a domain and on an address the plugin goes from the domain to the address. -/
theorem query_steady (hlowers : u.text.Lowers) {input : Entity} {credentials : Option PyDict}
    {result : QueryResult} (h : query u input credentials = .ok result) :
    (input.type = EntityType.domain.value →
      Steady .ipAddress true result.entities result.relationships) ∧
    (input.type = EntityType.ipAddress.value →
      Steady .domain false result.entities result.relationships) ∧
    NormalLabels result.entities := by
  obtain ⟨apiKey, -, h⟩ := bind_eq_ok.mp h
  split at h
  · cases h
  · rename_i type htype
    dsimp only at h
    split at h
    · cases h
      exact ⟨fun _ => .nil _ _, fun _ => .nil _ _, .nil⟩
    · cases type
      case domain =>
        have hsteady := queryDomain_steady hlowers h
        refine ⟨fun _ => hsteady, fun hip => ?_, hsteady.labels⟩
        rw [hip] at htype
        cases htype
      case ipAddress =>
        have hsteady := queryIp_steady hlowers h
        refine ⟨fun hdomain => ?_, fun _ => hsteady, hsteady.labels⟩
        rw [hdomain] at htype
        cases htype
      case url =>
        obtain ⟨⟨raw, data⟩, -, h⟩ := bind_eq_ok.mp h
        obtain ⟨evidence, -, h⟩ := bind_eq_ok.mp h
        cases h
        exact ⟨fun _ => .nil _ _, fun _ => .nil _ _, .nil⟩
      all_goals
        cases h
        exact ⟨fun _ => .nil _ _, fun _ => .nil _ _, .nil⟩

end VirusTotal

/-! ## `shodan` -/

namespace Shodan

variable {u : Upstream}

/-- What a loop adds for a name, if anything. -/
lemma addName_ok {confidence : ℚ} {found found' : Found} {name : PyVal}
    (h : addName u confidence found name = .ok found') :
    found' = found ∨ ∃ name, domainRe (u.text.lower name) = true ∧
      found'.entities = found.entities ++ [⟨numbered "host" found.entityCount, .domain,
        String.ofList (u.text.lower name), [("discovered_via", .str "shodan")], confidence⟩] ∧
      found'.relationships = found.relationships ++
        [⟨refEnd (numbered "host" found.entityCount), inputEnd, .resolvesTo, confidence, []⟩] := by
  unfold addName at h
  split at h
  · dsimp only at h
    split at h
    · cases h
      exact Or.inl rfl
    · rename_i hname
      simp only [Bool.or_eq_true, Bool.not_eq_true', not_or, Bool.not_eq_false] at hname
      obtain ⟨entity, hentity, h⟩ := bind_eq_ok.mp h
      obtain ⟨-, rfl⟩ := entityProposal_ok.mp hentity
      cases h
      exact Or.inr ⟨_, hname.1.2, rfl, rfl⟩
  · cases h
    exact Or.inl rfl

lemma addName_steady (hlowers : u.text.Lowers) {confidence : ℚ} {found found' : Found}
    {name : PyVal} (hfound : Steady .domain false found.entities found.relationships)
    (h : addName u confidence found name = .ok found') :
    Steady .domain false found'.entities found'.relationships := by
  rcases addName_ok h with rfl | ⟨name, hname, hentities, hrelationships⟩
  · exact hfound
  · rw [hentities, hrelationships]
    refine hfound.add rfl (.resolves rfl rfl rfl) fun _ => ?_
    rw [String.toList_ofList]
    exact normalLabel_of_domainRe hlowers hname

/-- What a name keeps, a loop keeps. -/
lemma eachName_keeps {P : List EntityProposal → List RelationshipProposal → Prop} {confidence : ℚ}
    (hname : ∀ found name found', P found.entities found.relationships →
      addName u confidence found name = .ok found' → P found'.entities found'.relationships)
    {names : List PyVal} {found found' : Found} (hfound : P found.entities found.relationships)
    (h : eachName u confidence found names = .ok found') :
    P found'.entities found'.relationships := by
  induction names generalizing found with
  | nil =>
    cases h
    exact hfound
  | cons name names ih =>
    unfold eachName at h
    split at h
    · cases h
      exact hfound
    · obtain ⟨next, hnext, h⟩ := bind_eq_ok.mp h
      exact ih (hname found name next hfound hnext) h

/-- The plugin goes from the domain to the address, which is its input. -/
theorem query_steady (hlowers : u.text.Lowers) {input : Entity} {credentials : Option PyDict}
    {result : QueryResult} (h : query u input credentials = .ok result) :
    Steady .domain false result.entities result.relationships := by
  obtain ⟨apiKey, -, h⟩ := bind_eq_ok.mp h
  dsimp only at h
  split at h
  · cases h
    exact .nil _ _
  · obtain ⟨⟨raw, data⟩, -, h⟩ := bind_eq_ok.mp h
    obtain ⟨found, hfound, h⟩ := bind_eq_ok.mp h
    obtain ⟨services, -, h⟩ := bind_eq_ok.mp h
    obtain ⟨evidence, -, h⟩ := bind_eq_ok.mp h
    cases h
    obtain ⟨hosts, hhosts, hdomains⟩ := bind_eq_ok.mp hfound
    exact eachName_keeps (fun _ _ _ => addName_steady hlowers)
      (eachName_keeps (fun _ _ _ => addName_steady hlowers) (.nil _ _) hhosts) hdomains

end Shodan

/-! ## `dns_whois` -/

namespace DnsWhois

/-- What a loop over records makes of them. -/
structure Recorded (stem : String) (type : EntityType) (relType : RelationshipType) (i : ℕ)
    (records : List (List Char × PyDict)) (entities : List EntityProposal)
    (relationships : List RelationshipProposal) : Prop where
  tied : List.Forall₂ (fun ep rp => ep.type = type ∧ rp.relType = relType ∧
    (rp.src, rp.dst) = endsOf false ep.ref) entities relationships
  refs : entities.map EntityProposal.ref = (List.range' i records.length).map (numbered stem)
  labels : entities.map (fun ep => ep.label.toList) = records.map Prod.fst

lemma eachRecord_recorded {stem : String} {type : EntityType} {relType : RelationshipType}
    {confidence : ℚ} {i : ℕ} {records : List (List Char × PyDict)}
    {entities : List EntityProposal} {relationships : List RelationshipProposal}
    (h : eachRecord stem type relType confidence i records = .ok (entities, relationships)) :
    Recorded stem type relType i records entities relationships := by
  induction records generalizing i entities relationships with
  | nil =>
    cases h
    exact ⟨.nil, rfl, rfl⟩
  | cons record records ih =>
    obtain ⟨label, attrs⟩ := record
    obtain ⟨entity, hentity, h⟩ := bind_eq_ok.mp h
    obtain ⟨-, rfl⟩ := entityProposal_ok.mp hentity
    obtain ⟨⟨restEntities, restRelationships⟩, hrest, h⟩ := bind_eq_ok.mp h
    cases h
    have hih := ih hrest
    refine ⟨.cons ⟨rfl, rfl, rfl⟩ hih.tied, ?_, ?_⟩
    · rw [List.map_cons, hih.refs, List.length_cons, List.range'_succ, List.map_cons]
    · rw [List.map_cons, hih.labels, List.map_cons, String.toList_ofList]

section Recorded

variable {stem : String} {type : EntityType} {relType : RelationshipType} {i : ℕ}
variable {records : List (List Char × PyDict)} {entities : List EntityProposal}
variable {relationships : List RelationshipProposal}

lemma Recorded.refs_nodup (h : Recorded stem type relType i records entities relationships) :
    (entities.map EntityProposal.ref).Nodup := by
  rw [h.refs]
  exact List.Nodup.map (fun i j hij => (numbered_inj hij).2) List.nodup_range'

lemma Recorded.ref_stem (h : Recorded stem type relType i records entities relationships)
    {ref : String} (href : ref ∈ entities.map EntityProposal.ref) : ∃ j, ref = numbered stem j := by
  rw [h.refs] at href
  obtain ⟨j, -, rfl⟩ := List.mem_map.mp href
  exact ⟨j, rfl⟩

/-- References with different stems differ. -/
lemma Recorded.disjoint {stem' : String} {type' : EntityType} {relType' : RelationshipType}
    {i' : ℕ} {records' : List (List Char × PyDict)} {entities' : List EntityProposal}
    {relationships' : List RelationshipProposal}
    (h : Recorded stem type relType i records entities relationships)
    (h' : Recorded stem' type' relType' i' records' entities' relationships')
    (hne : stem ≠ stem') :
    List.Disjoint (entities.map EntityProposal.ref) (entities'.map EntityProposal.ref) := by
  intro ref href href'
  obtain ⟨j, hj⟩ := h.ref_stem href
  obtain ⟨j', hj'⟩ := h'.ref_stem href'
  exact hne (numbered_inj (hj.symm.trans hj')).1

lemma Recorded.mem_type (h : Recorded stem type relType i records entities relationships)
    {ep : EntityProposal} (hep : ep ∈ entities) : ep.type = type := by
  obtain ⟨rp, -, htype, -⟩ := exists_paired h.tied hep
  exact htype

end Recorded

variable {u : Upstream} {resolver : Resolver} {input : Entity} {result : QueryResult}

/-- The four loops of a query about a domain name. -/
structure Answered (resolver : Resolver) (domain : List Char) (result : QueryResult)
    (a aaaa ns mx : List EntityProposal × List RelationshipProposal) : Prop where
  recorded_a : Recorded "ip-a" .ipAddress .resolvesTo 0
    ((tryResolve resolver domain "A").map fun ip => (ip, [("rdtype", .str "A")])) a.1 a.2
  recorded_aaaa : Recorded "ip-aaaa" .ipAddress .resolvesTo 0
    ((tryResolve resolver domain "AAAA").map fun ip => (ip, [("rdtype", .str "AAAA")]))
      aaaa.1 aaaa.2
  recorded_ns : Recorded "ns" .domain .associatedWith 0
    ((tryResolve resolver domain "NS").map fun ns => (ns, [("role", .str "nameserver")])) ns.1 ns.2
  recorded_mx : Recorded "mx" .domain .associatedWith 0
    ((tryResolveMx resolver domain).map fun (preference, host) =>
      (host, [("role", .str "mx"), ("preference", .int preference)])) mx.1 mx.2
  entities : result.entities = a.1 ++ aaaa.1 ++ ns.1 ++ mx.1
  relationships : result.relationships = a.2 ++ aaaa.2 ++ ns.2 ++ mx.2

lemma query_answered (h : query u resolver input = .ok result) :
    (domainRe (domainOf u input) = false ∧ result = ⟨[], [], []⟩) ∨
      (domainRe (domainOf u input) = true ∧
        ∃ a aaaa ns mx, Answered resolver (domainOf u input) result a aaaa ns mx) := by
  unfold query at h
  dsimp only at h
  split at h
  · rename_i hrejected
    cases h
    refine Or.inl ⟨?_, rfl⟩
    rw [Bool.or_eq_true, Bool.not_eq_true', List.isEmpty_iff] at hrejected
    rcases hrejected with hempty | hpattern
    · rw [hempty]
      rfl
    · exact hpattern
  · rename_i haccepted
    rw [Bool.or_eq_true, not_or, Bool.not_eq_true', Bool.not_eq_false] at haccepted
    obtain ⟨⟨a, a'⟩, ha, h⟩ := bind_eq_ok.mp h
    obtain ⟨⟨aaaa, aaaa'⟩, haaaa, h⟩ := bind_eq_ok.mp h
    obtain ⟨⟨ns, ns'⟩, hns, h⟩ := bind_eq_ok.mp h
    obtain ⟨⟨mx, mx'⟩, hmx, h⟩ := bind_eq_ok.mp h
    obtain ⟨evidence, -, h⟩ := bind_eq_ok.mp h
    cases h
    exact Or.inr ⟨haccepted.2, (a, a'), (aaaa, aaaa'), (ns, ns'), (mx, mx'),
      eachRecord_recorded ha, eachRecord_recorded haaaa, eachRecord_recorded hns,
      eachRecord_recorded hmx, rfl, rfl⟩

/-- The plugin goes from the address to the domain, which is its input. -/
theorem query_ties (h : query u resolver input = .ok result) :
    Ties .ipAddress false result.entities result.relationships := by
  rcases query_answered h with ⟨-, rfl⟩ | ⟨-, a, aaaa, ns, mx, hanswered⟩
  · exact ⟨.nil, List.nodup_nil⟩
  · have haddress : ∀ ep rp, ep.type = .ipAddress ∧ rp.relType = .resolvesTo ∧
        (rp.src, rp.dst) = endsOf false ep.ref → Tied .ipAddress false ep rp :=
      fun ep rp h => .resolves h.2.1 h.1 h.2.2
    have hhost : ∀ ep rp, ep.type = .domain ∧ rp.relType = .associatedWith ∧
        (rp.src, rp.dst) = endsOf false ep.ref → Tied .ipAddress false ep rp := by
      intro ep rp ⟨htype, hrel, _⟩
      refine .other ?_ ?_
      · rw [hrel]
        exact fun h => nomatch h
      · rw [htype]
        exact fun h => nomatch h
    rw [hanswered.entities, hanswered.relationships]
    refine ⟨List.rel_append
      (List.rel_append (List.rel_append (hanswered.recorded_a.tied.imp haddress)
      (hanswered.recorded_aaaa.tied.imp haddress)) (hanswered.recorded_ns.tied.imp hhost))
        (hanswered.recorded_mx.tied.imp hhost), ?_⟩
    rw [List.map_append, List.map_append, List.map_append]
    refine List.Nodup.append (List.Nodup.append (List.Nodup.append hanswered.recorded_a.refs_nodup
      hanswered.recorded_aaaa.refs_nodup ?_) hanswered.recorded_ns.refs_nodup ?_)
      hanswered.recorded_mx.refs_nodup ?_
    · exact hanswered.recorded_a.disjoint hanswered.recorded_aaaa (by decide)
    · rw [List.disjoint_append_left]
      exact ⟨hanswered.recorded_a.disjoint hanswered.recorded_ns (by decide),
        hanswered.recorded_aaaa.disjoint hanswered.recorded_ns (by decide)⟩
    · rw [List.disjoint_append_left, List.disjoint_append_left]
      exact ⟨⟨hanswered.recorded_a.disjoint hanswered.recorded_mx (by decide),
        hanswered.recorded_aaaa.disjoint hanswered.recorded_mx (by decide)⟩,
        hanswered.recorded_ns.disjoint hanswered.recorded_mx (by decide)⟩

/-! ### Labels -/

/-- A character that `strip` and `rstrip` do not strip stays. -/
lemma mem_hostText {text : List Char} {c : Char} (hspace : isPySpace c = false) (hdot : c ≠ '.') :
    c ∈ hostText text ↔ c ∈ text := by
  have hkept : ∀ (p : Char → Bool) (s : List Char), p c = false → (c ∈ s.dropWhile p ↔ c ∈ s) := by
    intro p s hp
    refine ⟨fun h => (List.dropWhile_suffix p).subset h, fun h => ?_⟩
    rw [← List.takeWhile_append_dropWhile (p := p) (l := s)] at h
    refine (List.mem_append.mp h).resolve_left fun htaken => ?_
    have := List.mem_takeWhile_imp htaken
    rw [hp] at this
    cases this
  have hright : ∀ (p : Char → Bool) (s : List Char), p c = false → (c ∈ rstrip p s ↔ c ∈ s) := by
    intro p s hp
    rw [rstrip, List.mem_reverse, hkept p _ hp, List.mem_reverse]
  rw [hostText, hright _ _ (by simpa using hdot), strip, hright _ _ hspace, hkept _ _ hspace]

lemma not_space_of_isUpper {c : Char} (h : c.isUpper = true) : isPySpace c = false ∧ c ≠ '.' := by
  have hrange := isUpper_iff_toNat.mp h
  constructor
  · unfold isPySpace
    simp only [Bool.or_eq_false_iff, Bool.and_eq_false_iff, decide_eq_false_iff_not]
    omega
  · rintro rfl
    exact absurd h (by decide)

lemma NormalLabel.empty : NormalLabel [] := ⟨fun _ h => absurd h List.not_mem_nil, by decide⟩

/-- The text of an answer makes a normal label if it has no upper-case letters, and only then. -/
lemma normalLabel_hostText_iff {text : List Char} :
    NormalLabel (hostText text) ↔ ∀ c ∈ text, c.isUpper = false := by
  constructor
  · intro h c hc
    by_contra hupper
    rw [Bool.not_eq_false] at hupper
    obtain ⟨hspace, hdot⟩ := not_space_of_isUpper hupper
    rw [h.lower c ((mem_hostText hspace hdot).mpr hc)] at hupper
    cases hupper
  · intro h
    refine ⟨fun c hc => ?_, fun hlast => ?_⟩
    · by_contra hupper
      rw [Bool.not_eq_false] at hupper
      obtain ⟨hspace, hdot⟩ := not_space_of_isUpper hupper
      rw [h c ((mem_hostText hspace hdot).mp hc)] at hupper
      cases hupper
    · have hdot := getLast?_rstrip hlast
      simp at hdot

/-- The name servers that the resolver answers, as texts. -/
def nsAnswers (resolver : Resolver) (domain : List Char) : List (List Char) :=
  match resolver.resolve domain "NS" with
  | .ok answers => answers
  | .error _ => []

/-- The mail hosts that the resolver answers, as texts. -/
def mxAnswers (resolver : Resolver) (domain : List Char) : List (List Char) :=
  match resolver.resolveMx domain with
  | .ok answers => answers.map Prod.snd
  | .error _ => []

/-- Empty texts are no records, and they have no upper-case letters. -/
lemma normal_records_iff {answers : List (List Char)} :
    (∀ host ∈ (answers.map hostText).filter fun text => !text.isEmpty, NormalLabel host) ↔
      ∀ text ∈ answers, ∀ c ∈ text, c.isUpper = false := by
  constructor
  · intro h text htext
    rw [← normalLabel_hostText_iff]
    by_cases hempty : hostText text = []
    · rw [hempty]
      exact NormalLabel.empty
    · exact h _ (List.mem_filter.mpr ⟨List.mem_map_of_mem htext, by simpa using hempty⟩)
  · intro h host hhost
    obtain ⟨htext, -⟩ := List.mem_filter.mp hhost
    obtain ⟨text, hmem, rfl⟩ := List.mem_map.mp htext
    exact normalLabel_hostText_iff.mpr (h text hmem)

lemma normal_ns_iff {domain : List Char} :
    (∀ host ∈ tryResolve resolver domain "NS", NormalLabel host) ↔
      ∀ text ∈ nsAnswers resolver domain, ∀ c ∈ text, c.isUpper = false := by
  unfold tryResolve nsAnswers
  cases resolver.resolve domain "NS" with
  | ok answers => exact normal_records_iff
  | error e => exact iff_of_true (fun _ h => nomatch h) fun _ h => nomatch h

lemma normal_mx_iff {domain : List Char} :
    (∀ host ∈ (tryResolveMx resolver domain).map Prod.snd, NormalLabel host) ↔
      ∀ text ∈ mxAnswers resolver domain, ∀ c ∈ text, c.isUpper = false := by
  unfold tryResolveMx mxAnswers
  cases resolver.resolveMx domain with
  | ok answers =>
    have hhosts : ((answers.map fun (preference, host) => (preference, hostText host)).filter
        fun (_, host) => !host.isEmpty).map Prod.snd
        = ((answers.map Prod.snd).map hostText).filter fun text => !text.isEmpty := by
      rw [List.filter_map, List.map_map, List.map_map, List.filter_map]
      rfl
    dsimp only
    rw [hhosts, normal_records_iff]
  | error e => exact iff_of_true (fun _ h => nomatch h) fun _ h => nomatch h

/-- The labels that a loop over hosts makes. -/
lemma Recorded.labels_iff {stem : String} {relType : RelationshipType} {i : ℕ}
    {records : List (List Char × PyDict)} {entities : List EntityProposal}
    {relationships : List RelationshipProposal}
    (h : Recorded stem .domain relType i records entities relationships) :
    NormalLabels entities ↔ ∀ host ∈ records.map Prod.fst, NormalLabel host := by
  rw [← h.labels, List.forall_mem_map]
  exact forall₂_congr fun ep hep => by rw [h.mem_type hep, imp_iff_right rfl]

lemma normalLabels_append {entities entities' : List EntityProposal} :
    NormalLabels (entities ++ entities') ↔ NormalLabels entities ∧ NormalLabels entities' :=
  List.forall_mem_append

/-- Every label is normal if no NS or MX answer has an upper-case letter, and only then. -/
theorem query_labels_iff (h : query u resolver input = .ok result) :
    NormalLabels result.entities ↔ (domainRe (domainOf u input) = true →
      ∀ text ∈ nsAnswers resolver (domainOf u input) ++ mxAnswers resolver (domainOf u input),
        ∀ c ∈ text, c.isUpper = false) := by
  rcases query_answered h with ⟨hrejected, rfl⟩ | ⟨haccepted, a, aaaa, ns, mx, hanswered⟩
  · refine iff_of_true .nil fun haccepted => ?_
    rw [hrejected] at haccepted
    cases haccepted
  · have haddresses : ∀ {stem : String} {records entities relationships},
        Recorded stem .ipAddress .resolvesTo 0 records entities relationships →
          NormalLabels entities := by
      intro stem records entities relationships h ep hep htype
      rw [h.mem_type hep] at htype
      cases htype
    have hdomains : NormalLabels result.entities ↔ NormalLabels ns.1 ∧ NormalLabels mx.1 := by
      have hnone : NormalLabels (a.1 ++ aaaa.1) :=
        normalLabels_append.mpr ⟨haddresses hanswered.recorded_a,
          haddresses hanswered.recorded_aaaa⟩
      rw [hanswered.entities, normalLabels_append, normalLabels_append, and_iff_right hnone]
    have hns : NormalLabels ns.1 ↔
        ∀ text ∈ nsAnswers resolver (domainOf u input), ∀ c ∈ text, c.isUpper = false := by
      rw [hanswered.recorded_ns.labels_iff, List.map_map, ← normal_ns_iff]
      exact Iff.of_eq (congrArg (fun l => ∀ host ∈ l, NormalLabel host) (List.map_id _))
    have hmx : NormalLabels mx.1 ↔
        ∀ text ∈ mxAnswers resolver (domainOf u input), ∀ c ∈ text, c.isUpper = false := by
      rw [hanswered.recorded_mx.labels_iff, List.map_map, ← normal_mx_iff]
      rfl
    rw [imp_iff_right haccepted, hdomains, hns, hmx, List.forall_mem_append]

end DnsWhois

/-! ## `crtsh` -/

namespace CrtSh

open Firsts

variable {u : Upstream} {input : Entity} {result : QueryResult}

lemma entityProposals_domains {i : ℕ} {subs : List (List Char)} {eps : List EntityProposal}
    (h : entityProposals i subs = .ok eps) :
    (∀ ep ∈ eps, ep.type = .domain) ∧ eps.map (fun ep => ep.label.toList) = subs := by
  induction subs generalizing i eps with
  | nil =>
    cases h
    exact ⟨fun _ h => absurd h List.not_mem_nil, rfl⟩
  | cons sub subs ih =>
    obtain ⟨ep, hep, h⟩ := bind_eq_ok.mp h
    obtain ⟨-, rfl⟩ := entityProposal_ok.mp hep
    obtain ⟨rest, hrest, h⟩ := bind_eq_ok.mp h
    cases h
    obtain ⟨htypes, hlabels⟩ := ih hrest
    refine ⟨List.forall_mem_cons.mpr ⟨rfl, htypes⟩, ?_⟩
    rw [List.map_cons, hlabels, String.toList_ofList]

lemma accepted_of_mem_names {domain : List Char} {data : List PyVal} {name : List Char}
    (h : name ∈ names u domain data) : accepted domain name = true := by
  fun_induction names u domain data with
  | case1 entry data ih =>
    rcases List.mem_append.mp h with h | h
    · unfold entryNames at h
      split at h
      · exact (List.mem_filter.mp h).2
      · cases h
    · exact ih h
  | case2 => cases h

/-- A name that is accepted is lower-case, and ends as the domain does. -/
lemma normalLabel_accepted_iff {domain name : List Char} (hdomain : domain ≠ [])
    (h : accepted domain name = true) : NormalLabel name ↔ domain.getLast? ≠ some '.' := by
  unfold accepted at h
  simp only [Bool.and_eq_true] at h
  obtain ⟨⟨-, hsuffix⟩, hname⟩ := h
  have hlower : ∀ c ∈ name, c.isUpper = false := by
    intro c hc
    by_contra hupper
    rw [Bool.not_eq_false] at hupper
    rcases all_of_dollar_runOf hname c hc with hrun | rfl
    · simp only [Bool.or_eq_true, decide_eq_true_eq] at hrun
      rcases hrun with (((hrun | hrun) | rfl) | rfl) | rfl
      · rw [isUpper_iff_toNat] at hupper
        rw [isLower_iff_toNat] at hrun
        omega
      · rw [isUpper_iff_toNat] at hupper
        rw [isDigit_iff_toNat] at hrun
        omega
      · exact absurd hupper (by decide)
      · exact absurd hupper (by decide)
      · exact absurd hupper (by decide)
    · exact absurd hupper (by decide)
  have hlast : name.getLast? = domain.getLast? := by
    obtain ⟨before, rfl⟩ := List.isSuffixOf_iff_suffix.mp hsuffix
    rw [List.getLast?_append_of_ne_nil _ (List.cons_ne_nil _ _),
      List.getLast?_cons_of_ne_nil hdomain]
  rw [← hlast]
  exact ⟨NormalLabel.undotted, fun h => ⟨hlower, h⟩⟩

/-- Every proposal is a domain. Its label is normal if the input's label does not end with a dot;
with one, there is no normal label but where no name is accepted. -/
theorem query_labels_iff (h : query u input = .ok result) :
    (∀ ep ∈ result.entities, ep.type = .domain) ∧
    (NormalLabels result.entities ↔ ((domainOf u input).getLast? = some '.' →
      ∀ raw data, fetch u (requestOf (domainOf u input)) = .ok (raw, data) →
        names u (domainOf u input) data = [])) := by
  unfold query at h
  dsimp only at h
  split at h
  · rename_i hempty
    cases h
    refine ⟨fun _ h => absurd h List.not_mem_nil, iff_of_true .nil fun hdot => ?_⟩
    rw [List.isEmpty_iff.mp hempty] at hdot
    cases hdot
  · rename_i hdomain
    rw [List.isEmpty_iff] at hdomain
    generalize domainOf u input = domain at hdomain h ⊢
    obtain ⟨⟨raw, data⟩, hfetch, h⟩ := bind_eq_ok.mp h
    obtain ⟨⟨subdomains, truncated⟩, hextract, h⟩ := bind_eq_ok.mp h
    obtain ⟨eps, heps, h⟩ := bind_eq_ok.mp h
    obtain ⟨evidence, -, h⟩ := bind_eq_ok.mp h
    cases h
    obtain ⟨htypes, hlabels⟩ := entityProposals_domains heps
    refine ⟨htypes, ?_⟩
    obtain ⟨-, hcollect⟩ := extractSubdomains_ok.mp hextract
    obtain rfl := extracted_eq hcollect
    have hmem : ∀ {name}, name ∈ distinctNames u domain data ↔ name ∈ names u domain data := by
      intro name
      rw [distinctNames, firsts, mem_firstsAfter, or_iff_right List.not_mem_nil]
    have hempty : distinctNames u domain data = [] ↔ names u domain data = [] := by
      rw [List.eq_nil_iff_forall_not_mem, List.eq_nil_iff_forall_not_mem]
      exact forall_congr' fun name => not_congr hmem
    have hnormal : NormalLabels eps ↔ ∀ name ∈ (distinctNames u domain data).take maxSubdomains,
        domain.getLast? ≠ some '.' := by
      have heach : NormalLabels eps ↔ ∀ name ∈ eps.map (fun ep => ep.label.toList),
          NormalLabel name := by
        rw [List.forall_mem_map]
        exact forall₂_congr fun ep hep => imp_iff_right (htypes ep hep)
      rw [heach, hlabels]
      refine forall_congr' fun name => ?_
      rw [mem_sortedNames]
      refine imp_congr_right fun hname => ?_
      exact normalLabel_accepted_iff hdomain
        (accepted_of_mem_names (hmem.mp (List.mem_of_mem_take hname)))
    have htaken : (distinctNames u domain data).take maxSubdomains = [] ↔
        distinctNames u domain data = [] := by
      rw [List.take_eq_nil_iff, or_iff_right (by decide)]
    rw [hnormal]
    constructor
    · intro h hdot raw' data' hfetch'
      obtain ⟨-, rfl⟩ := Prod.mk.inj (Except.ok.inj (hfetch.symm.trans hfetch'))
      refine hempty.mp (htaken.mp (List.eq_nil_iff_forall_not_mem.mpr fun name hname => ?_))
      exact h name hname hdot
    · intro h name hname hdot
      rw [htaken.mpr (hempty.mpr (h hdot raw data hfetch))] at hname
      cases hname

end CrtSh

/-! ## The four plugins -/

/-- A plugin that reports hosts or addresses, with what it runs against. -/
inductive Source where
  | crtSh (u : Upstream)
  | dnsWhois (u : Upstream) (resolver : Resolver)
  | virusTotal (u : Upstream)
  | shodan (u : Upstream)

namespace Source

def plugin : Source → OSINTPlugin
  | crtSh u => crtShPlugin u
  | dnsWhois u resolver => dnsWhoisPlugin u resolver
  | virusTotal u => virusTotalPlugin u
  | shodan u => shodanPlugin u

def upstream : Source → Upstream
  | crtSh u | dnsWhois u _ | virusTotal u | shodan u => u

/-- Its RESOLVES_TO goes from the address to the domain. -/
def reversed : Source → Bool
  | dnsWhois _ _ => true
  | _ => false

/-- For `crtsh`, the input's label does not end with a dot, or no name is accepted; for
`dns_whois`, the input is no domain name, or no NS or MX answer has an upper-case letter. -/
def LabelsFit : Source → Entity → Prop
  | crtSh u, input => (CrtSh.domainOf u input).getLast? = some '.' →
    ∀ raw data, CrtSh.fetch u (CrtSh.requestOf (CrtSh.domainOf u input)) = .ok (raw, data) →
      CrtSh.names u (CrtSh.domainOf u input) data = []
  | dnsWhois u resolver, input => domainRe (DnsWhois.domainOf u input) = true →
    ∀ text ∈ DnsWhois.nsAnswers resolver (DnsWhois.domainOf u input)
        ++ DnsWhois.mxAnswers resolver (DnsWhois.domainOf u input),
      ∀ c ∈ text, c.isUpper = false
  | virusTotal _, _ | shodan _, _ => True

/-- When the labels of a result are normal. -/
theorem labels_iff {source : Source} (hlowers : source.upstream.text.Lowers) {input : Entity}
    {credentials : Option PyDict} {result : QueryResult}
    (h : source.plugin.query input credentials = .ok result) :
    NormalLabels result.entities ↔ source.LabelsFit input := by
  cases source with
  | crtSh u => exact (CrtSh.query_labels_iff h).2
  | dnsWhois u resolver => exact DnsWhois.query_labels_iff h
  | virusTotal u => exact iff_of_true (VirusTotal.query_steady hlowers h).2.2 trivial
  | shodan u => exact iff_of_true (Shodan.query_steady hlowers h).labels trivial

end Source

end Sleuthgraph
