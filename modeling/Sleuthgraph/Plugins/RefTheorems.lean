import Sleuthgraph.Plugins.Builtin.Builtins
import Sleuthgraph.Plugins.FactTheorems

/-!
# References of a result (`plugins/runner.py`, `plugins/builtin/`)

A plugin names its entities by references, and its relationships name them back. The references of
a built-in plugin differ, and each entity but those of `opencorporates` has one relationship, which
lies between it and the input. So the table of references never fails, and an entity that is new
has the relationship on its own row.
-/

namespace Sleuthgraph

open Programs Transactions Tables

/-! ## Closed results -/

/-- The relationship lies between the input and the entity, in one of the two directions. -/
def EntityProposal.Joined (ep : EntityProposal) (rp : RelationshipProposal) : Prop :=
  ∃ inputFirst, (rp.src, rp.dst) = endsOf inputFirst ep.ref

/-- One relationship for each entity, between it and the input, and no `ref` twice. -/
structure RefsClosed (result : QueryResult) : Prop where
  joined : List.Forall₂ EntityProposal.Joined result.entities result.relationships
  refs : (result.entities.map EntityProposal.ref).Nodup

lemma RefsClosed.evidenceOnly (evidence : List EvidenceProposal) : RefsClosed ⟨[], [], evidence⟩ :=
  ⟨.nil, List.nodup_nil⟩

/-- What a loop with the numbers from `i` on makes: it may leave numbers out. -/
structure NumberedFrom (stem : String) (i : ℕ) (entities : List EntityProposal)
    (relationships : List RelationshipProposal) : Prop where
  joined : List.Forall₂ EntityProposal.Joined entities relationships
  numbers : ∃ numbers : List ℕ, entities.map EntityProposal.ref = numbers.map (numbered stem) ∧
    numbers.Pairwise (· < ·) ∧ ∀ n ∈ numbers, i ≤ n

section NumberedFrom

variable {stem : String} {i : ℕ} {entities : List EntityProposal}
variable {relationships : List RelationshipProposal}

lemma NumberedFrom.nil : NumberedFrom stem i [] [] :=
  ⟨.nil, [], rfl, .nil, fun _ h => absurd h List.not_mem_nil⟩

/-- The loop takes the number. -/
lemma NumberedFrom.cons (h : NumberedFrom stem (i + 1) entities relationships)
    {ep : EntityProposal} {rp : RelationshipProposal} (href : ep.ref = numbered stem i)
    (hjoined : ep.Joined rp) : NumberedFrom stem i (ep :: entities) (rp :: relationships) := by
  obtain ⟨numbers, hnumbers, hincreasing, hfrom⟩ := h.numbers
  refine ⟨.cons hjoined h.joined, i :: numbers, ?_, ?_, ?_⟩
  · rw [List.map_cons, List.map_cons, hnumbers, href]
  · refine List.pairwise_cons.mpr ⟨fun n hn => ?_, hincreasing⟩
    have hle := hfrom n hn
    omega
  · refine List.forall_mem_cons.mpr ⟨le_refl i, fun n hn => ?_⟩
    have hle := hfrom n hn
    omega

/-- The loop leaves the number out. -/
lemma NumberedFrom.skip (h : NumberedFrom stem (i + 1) entities relationships) :
    NumberedFrom stem i entities relationships := by
  obtain ⟨numbers, hnumbers, hincreasing, hfrom⟩ := h.numbers
  refine ⟨h.joined, numbers, hnumbers, hincreasing, fun n hn => ?_⟩
  have hle := hfrom n hn
  omega

lemma NumberedFrom.closed (h : NumberedFrom stem i entities relationships)
    (evidence : List EvidenceProposal) : RefsClosed ⟨entities, relationships, evidence⟩ := by
  obtain ⟨numbers, hnumbers, hincreasing, -⟩ := h.numbers
  refine ⟨h.joined, ?_⟩
  show (entities.map EntityProposal.ref).Nodup
  rw [hnumbers]
  refine List.Nodup.map (fun i j hij => (numbered_inj hij).2) ?_
  exact hincreasing.imp fun hlt => Nat.ne_of_lt hlt

end NumberedFrom

/-- What a loop that numbers by the count of its entities makes. -/
structure NumberedByCount (entities : List EntityProposal)
    (relationships : List RelationshipProposal) : Prop where
  joined : List.Forall₂ EntityProposal.Joined entities relationships
  counted : CountedRefs entities

section NumberedByCount

variable {entities : List EntityProposal} {relationships : List RelationshipProposal}

lemma NumberedByCount.nil : NumberedByCount [] [] := ⟨.nil, CountedRefs.nil⟩

lemma NumberedByCount.add (h : NumberedByCount entities relationships) {ep : EntityProposal}
    {rp : RelationshipProposal} {stem : String} (href : ep.ref = numbered stem entities.length)
    (hjoined : ep.Joined rp) : NumberedByCount (entities ++ [ep]) (relationships ++ [rp]) :=
  ⟨List.rel_append h.joined (.cons hjoined .nil), h.counted.add href⟩

lemma NumberedByCount.closed (h : NumberedByCount entities relationships)
    (evidence : List EvidenceProposal) : RefsClosed ⟨entities, relationships, evidence⟩ :=
  ⟨h.joined, h.counted.refs⟩

end NumberedByCount

/-! ## The plugins -/

section Plugins

variable {u : Upstream} {input : Entity} {credentials : Option PyDict} {result : QueryResult}

lemma CrtSh.proposals_numbered {i : ℕ} {subs : List (List Char)} {entities : List EntityProposal}
    (h : CrtSh.entityProposals i subs = .ok entities) :
    NumberedFrom "sub" i entities
      ((List.range' i entities.length).map CrtSh.relationshipProposal) := by
  induction subs generalizing i entities with
  | nil =>
    cases h
    exact .nil
  | cons sub subs ih =>
    obtain ⟨ep, hep, h⟩ := bind_eq_ok.mp h
    obtain ⟨-, rfl⟩ := entityProposal_ok.mp hep
    obtain ⟨eps, heps, h⟩ := bind_eq_ok.mp h
    cases h
    rw [List.length_cons, List.range'_succ, List.map_cons]
    exact (ih heps).cons rfl ⟨false, rfl⟩

lemma CrtSh.query_closed (h : CrtSh.query u input = .ok result) : RefsClosed result := by
  unfold CrtSh.query at h
  dsimp only at h
  split at h
  · cases h
    exact .evidenceOnly []
  · obtain ⟨⟨raw, data⟩, -, h⟩ := bind_eq_ok.mp h
    obtain ⟨⟨subdomains, truncated⟩, -, h⟩ := bind_eq_ok.mp h
    obtain ⟨entities, hentities, h⟩ := bind_eq_ok.mp h
    obtain ⟨evidence, -, h⟩ := bind_eq_ok.mp h
    cases h
    rw [List.range_eq_range']
    exact (CrtSh.proposals_numbered hentities).closed [evidence]

lemma DnsWhois.query_closed {resolver : Resolver}
    (h : DnsWhois.query u resolver input = .ok result) : RefsClosed result := by
  refine ⟨?_, (DnsWhois.query_ties h).refs⟩
  rcases DnsWhois.query_answered h with ⟨-, rfl⟩ | ⟨-, a, aaaa, ns, mx, hanswered⟩
  · exact .nil
  · have hjoined : ∀ {stem type relType records entities relationships},
        DnsWhois.Recorded stem type relType 0 records entities relationships →
          List.Forall₂ EntityProposal.Joined entities relationships :=
      fun hrecorded => hrecorded.tied.imp fun _ _ htied => ⟨false, htied.2.2⟩
    rw [hanswered.entities, hanswered.relationships]
    exact List.rel_append (List.rel_append (List.rel_append (hjoined hanswered.recorded_a)
      (hjoined hanswered.recorded_aaaa)) (hjoined hanswered.recorded_ns))
      (hjoined hanswered.recorded_mx)

lemma VirusTotal.extractDomain_numbered {domain : List Char} {data : PyDict} {found : Found}
    (h : extractDomain u domain data = .ok found) :
    NumberedByCount found.entities found.relationships := by
  obtain ⟨records, -, h⟩ := bind_eq_ok.mp h
  obtain ⟨items, -, h⟩ := bind_eq_ok.mp h
  obtain ⟨resolved, hresolved, haliases⟩ := bind_eq_ok.mp h
  refine eachRecord_keeps (fun found rec found' hfound hadd => ?_)
    (eachRecord_keeps (fun found rec found' hfound hadd => ?_) .nil hresolved) haliases
  · rcases addSubdomain_ok hadd with rfl | ⟨name, -, rfl⟩
    · exact hfound
    · exact hfound.add rfl ⟨false, rfl⟩
  · rcases addAddress_ok hadd with rfl | ⟨value, rdtype, -, -, rfl⟩
    · exact hfound
    · exact hfound.add rfl ⟨true, rfl⟩

lemma VirusTotal.extractIp_numbered {data : PyDict} {found : Found}
    (h : extractIp u data = .ok found) : NumberedByCount found.entities found.relationships := by
  obtain ⟨names, -, h⟩ := bind_eq_ok.mp h
  obtain ⟨items, -, h⟩ := bind_eq_ok.mp h
  refine eachRecord_keeps (fun found rec found' hfound hadd => ?_) .nil h
  rcases addAltName_ok hadd with rfl | ⟨name, -, rfl⟩
  · exact hfound
  · exact hfound.add rfl ⟨false, rfl⟩

lemma VirusTotal.query_closed (h : VirusTotal.query u input credentials = .ok result) :
    RefsClosed result := by
  obtain ⟨apiKey, -, h⟩ := bind_eq_ok.mp h
  split at h
  · cases h
  · rename_i type htype
    dsimp only at h
    split at h
    · cases h
      exact .evidenceOnly []
    · cases type
      case domain =>
        unfold queryDomain at h
        dsimp only at h
        split at h
        · cases h
          exact .evidenceOnly []
        · obtain ⟨⟨raw, data⟩, -, h⟩ := bind_eq_ok.mp h
          obtain ⟨found, hfound, h⟩ := bind_eq_ok.mp h
          obtain ⟨evidence, -, h⟩ := bind_eq_ok.mp h
          cases h
          exact (extractDomain_numbered hfound).closed [evidence]
      case ipAddress =>
        unfold queryIp at h
        dsimp only at h
        split at h
        · cases h
          exact .evidenceOnly []
        · obtain ⟨⟨raw, data⟩, -, h⟩ := bind_eq_ok.mp h
          obtain ⟨found, hfound, h⟩ := bind_eq_ok.mp h
          obtain ⟨evidence, -, h⟩ := bind_eq_ok.mp h
          cases h
          exact (extractIp_numbered hfound).closed [evidence]
      case url =>
        obtain ⟨⟨raw, data⟩, -, h⟩ := bind_eq_ok.mp h
        obtain ⟨evidence, -, h⟩ := bind_eq_ok.mp h
        cases h
        exact .evidenceOnly [evidence]
      all_goals
        cases h
        exact .evidenceOnly []

lemma Shodan.addName_numbered {confidence : ℚ} {found found' : Found} {name : PyVal}
    (hfound : NumberedByCount found.entities found.relationships)
    (h : addName u confidence found name = .ok found') :
    NumberedByCount found'.entities found'.relationships := by
  rcases addName_ok h with rfl | ⟨name, -, hentities, hrelationships⟩
  · exact hfound
  · rw [hentities, hrelationships]
    exact hfound.add rfl ⟨false, rfl⟩

lemma Shodan.query_closed (h : Shodan.query u input credentials = .ok result) :
    RefsClosed result := by
  obtain ⟨apiKey, -, h⟩ := bind_eq_ok.mp h
  dsimp only at h
  split at h
  · cases h
    exact .evidenceOnly []
  · obtain ⟨⟨raw, data⟩, -, h⟩ := bind_eq_ok.mp h
    obtain ⟨found, hfound, h⟩ := bind_eq_ok.mp h
    obtain ⟨services, -, h⟩ := bind_eq_ok.mp h
    obtain ⟨evidence, -, h⟩ := bind_eq_ok.mp h
    cases h
    obtain ⟨hosts, hhosts, hdomains⟩ := bind_eq_ok.mp hfound
    have hfirst := eachName_keeps (fun _ _ _ => addName_numbered) .nil hhosts
    exact (eachName_keeps (fun _ _ _ => addName_numbered) hfirst hdomains).closed [evidence]

lemma Hibp.query_closed (h : Hibp.query u input credentials = .ok result) : RefsClosed result := by
  obtain ⟨apiKey, -, h⟩ := bind_eq_ok.mp h
  dsimp only at h
  split at h
  · cases h
    exact .evidenceOnly []
  · obtain ⟨answer, -, h⟩ := bind_eq_ok.mp h
    cases answer with
    | none =>
      cases h
      exact .evidenceOnly []
    | some answer =>
      obtain ⟨classes, -, h⟩ := bind_eq_ok.mp h
      obtain ⟨evidence, -, h⟩ := bind_eq_ok.mp h
      cases h
      exact .evidenceOnly [evidence]

lemma WaybackCdx.proposals_numbered {i : ℕ} {snapshots : List Snapshot}
    {entities : List EntityProposal} {relationships : List RelationshipProposal}
    (h : proposals i snapshots = .ok (entities, relationships)) :
    NumberedFrom "snap" i entities relationships := by
  induction snapshots generalizing i entities relationships with
  | nil =>
    cases h
    exact .nil
  | cons s snapshots ih =>
    unfold proposals at h
    split at h
    · obtain ⟨entity, hentity, h⟩ := bind_eq_ok.mp h
      obtain ⟨-, rfl⟩ := entityProposal_ok.mp hentity
      obtain ⟨⟨restEntities, restRelationships⟩, hrest, h⟩ := bind_eq_ok.mp h
      cases h
      exact (ih hrest).cons rfl ⟨false, rfl⟩
    -- a URL that is too long still takes its number
    · exact (ih h).skip

lemma WaybackCdx.query_closed {py : Interp} (h : WaybackCdx.query py u input = .ok result) :
    RefsClosed result := by
  unfold WaybackCdx.query at h
  dsimp only at h
  split at h
  · cases h
    exact .evidenceOnly []
  · obtain ⟨⟨raw, rows, fetchStatus⟩, -, h⟩ := bind_eq_ok.mp h
    obtain ⟨all, -, h⟩ := bind_eq_ok.mp h
    obtain ⟨⟨entities, relationships⟩, hproposals, h⟩ := bind_eq_ok.mp h
    obtain ⟨evidence, -, h⟩ := bind_eq_ok.mp h
    cases h
    exact (proposals_numbered hproposals).closed [evidence]

lemma GithubPublic.itemProposals_numbered {i : ℕ} {items : List PyVal}
    {entities : List EntityProposal} {relationships : List RelationshipProposal}
    (h : itemProposals i items = .ok (entities, relationships)) :
    NumberedFrom "gh" i entities relationships := by
  induction items generalizing i entities relationships with
  | nil =>
    cases h
    exact .nil
  | cons item items ih =>
    unfold itemProposals at h
    split at h
    · rename_i heq
      cases heq
    · rename_i item' items' heq
      obtain ⟨rfl, rfl⟩ := List.cons.inj heq
      split at h
      · obtain ⟨entity, hentity, h⟩ := bind_eq_ok.mp h
        obtain ⟨-, rfl⟩ := entityProposal_ok.mp hentity
        obtain ⟨⟨restEntities, restRelationships⟩, hrest, h⟩ := bind_eq_ok.mp h
        cases h
        exact (ih hrest).cons rfl ⟨false, rfl⟩
      · exact (ih h).skip
    · rename_i heq
      obtain ⟨-, rfl⟩ := List.cons.inj heq
      exact (ih h).skip

lemma GithubPublic.proposals_numbered {parsed : Option PyVal} {entities : List EntityProposal}
    {relationships : List RelationshipProposal}
    (h : proposals input parsed = .ok (entities, relationships)) :
    NumberedFrom "gh" 0 entities relationships := by
  unfold proposals at h
  split at h
  · split at h
    · exact itemProposals_numbered h
    · unfold profileProposals at h
      split at h
      · obtain ⟨entity, hentity, h⟩ := bind_eq_ok.mp h
        obtain ⟨-, rfl⟩ := entityProposal_ok.mp hentity
        cases h
        exact NumberedFrom.nil.cons rfl ⟨false, rfl⟩
      · cases h
        exact .nil
  · cases h
    exact .nil

lemma GithubPublic.query_closed (h : GithubPublic.query u input = .ok result) :
    RefsClosed result := by
  unfold GithubPublic.query at h
  dsimp only at h
  split at h
  · cases h
    exact .evidenceOnly []
  · obtain ⟨⟨raw, parsed, fetchStatus⟩, -, h⟩ := bind_eq_ok.mp h
    obtain ⟨⟨entities, relationships⟩, hproposals, h⟩ := bind_eq_ok.mp h
    obtain ⟨evidence, -, h⟩ := bind_eq_ok.mp h
    cases h
    exact (proposals_numbered hproposals).closed [evidence]

lemma HitSearch.query_closed {s : HitSearch} (h : s.query u input = .ok result) :
    RefsClosed result := by
  unfold HitSearch.query at h
  dsimp only at h
  split at h
  · cases h
    exact .evidenceOnly []
  · obtain ⟨⟨raw, hits⟩, -, h⟩ := bind_eq_ok.mp h
    obtain ⟨evidence, -, h⟩ := bind_eq_ok.mp h
    cases h
    exact .evidenceOnly [evidence]

lemma Urlhaus.query_closed {py : Interp} {post : FormClient}
    (h : Urlhaus.query py u post input = .ok result) : RefsClosed result := by
  unfold Urlhaus.query at h
  dsimp only at h
  split at h
  · cases h
    exact .evidenceOnly []
  · obtain ⟨⟨raw, parsed⟩, -, h⟩ := bind_eq_ok.mp h
    obtain ⟨evidence, -, h⟩ := bind_eq_ok.mp h
    cases h
    exact .evidenceOnly [evidence]

end Plugins

/-- The results of all plugins but one are closed; `opencorporates` links nothing to the input. -/
theorem Builtin.query_closed {b : Builtin} (hb : b ≠ .openCorporates) {w : Surroundings}
    {input : Entity} {credentials : Option PyDict} {result : QueryResult}
    (h : (b.plugin w).query input credentials = .ok result) : RefsClosed result := by
  cases b with
  | crtsh => exact CrtSh.query_closed h
  | dnsWhois => exact DnsWhois.query_closed h
  | virustotal => exact VirusTotal.query_closed h
  | shodan => exact Shodan.query_closed h
  | hibp => exact Hibp.query_closed h
  | waybackCdx => exact WaybackCdx.query_closed h
  | githubPublic => exact GithubPublic.query_closed h
  | openCorporates => exact absurd rfl hb
  | alephOccrp | openSanctions => exact HitSearch.query_closed h
  | urlhaus => exact Urlhaus.query_closed h

/-! ## The table of references -/

lemma resolveRef_of_lookup {ref : String} {input e : Entity} {refs : PluginRunner.Refs}
    (h : refs.lookup ref = some e) : PluginRunner.resolveRef (refEnd ref) input refs = .ok e := by
  have htruthy : (PyDict.get (refEnd ref) "input").truthy = false := rfl
  have hcontains : PyDict.contains (refEnd ref) "ref" = true := rfl
  have hkey : PyDict.get (refEnd ref) "ref" = .str ref := rfl
  rw [PluginRunner.resolveRef, htruthy, if_neg Bool.false_ne_true, if_pos hcontains, hkey]
  dsimp only
  rw [h]

/-- A relationship of a closed result is resolved by every table that has the references of its
entities. -/
lemma RefsClosed.resolves {result : QueryResult} (h : RefsClosed result)
    {refs : PluginRunner.Refs} (hrefs : ∀ ep ∈ result.entities, ∃ e, refs.lookup ep.ref = some e)
    {rp : RelationshipProposal} (hrp : rp ∈ result.relationships) (input : Entity) :
    ∃ src dst, PluginRunner.resolveRef rp.src input refs = .ok src ∧
      PluginRunner.resolveRef rp.dst input refs = .ok dst := by
  obtain ⟨ep, hep, inputFirst, hends⟩ :=
    exists_paired (R := fun rp ep => EntityProposal.Joined ep rp) h.joined.flip hrp
  obtain ⟨e, he⟩ := hrefs ep hep
  obtain ⟨hsrc, hdst⟩ := Prod.mk.inj hends
  rw [hsrc, hdst]
  cases inputFirst with
  | true => exact ⟨input, e, resolveRef_inputEnd input refs, resolveRef_of_lookup he⟩
  | false => exact ⟨e, input, resolveRef_of_lookup he, resolveRef_inputEnd input refs⟩

/-- The loop over the entities leaves a table with all their references. -/
lemma MergedRows.lookup {caseId : UUID} {proposals : List EntityProposal}
    {refs : PluginRunner.Refs} {st st' : Store} {created : List Entity}
    (h : MergedRows caseId proposals [] refs st st' created) {ep : EntityProposal}
    (hep : ep ∈ proposals) : ∃ e, refs.lookup ep.ref = some e := by
  obtain ⟨entries, hentries, hkeys, -⟩ := h.refs
  rw [List.append_nil] at hentries
  subst hentries
  cases hlookup : refs.lookup ep.ref with
  | some e => exact ⟨e, rfl⟩
  | none =>
    have hkey := lookup_map_key refs ep.ref
    rw [hlookup, hkeys, Option.map_none, List.lookup_eq_none_iff] at hkey
    have hmem : (ep.ref, ep.key) ∈ (proposals.map fun ep => (ep.ref, ep.key)).reverse :=
      List.mem_reverse.mpr (List.mem_map.mpr ⟨ep, hep, rfl⟩)
    have hne := hkey _ hmem
    simp at hne

/-! ## New entities -/

variable (py : Interp)

/-- Proposals with new keys that differ: each creates its own row. -/
theorem persistEntitiesPlan_new {x : RunExt} {req : RunRequest} {i : ℕ}
    {proposals : List EntityProposal} {refs refs' : PluginRunner.Refs} {created : List Entity}
    {st : Store} {b b' : Bucket} {ws : List Write}
    (h : persistEntitiesPlan py x req i proposals refs st b = (.done (refs', created) ws, b'))
    (hnew : ∀ ep ∈ proposals, keyRows st req.caseId ep.key = [])
    (hdistinct : (proposals.map EntityProposal.key).Nodup) :
    List.Forall₂ (fun ep row => row.key = ep.key) proposals created ∧
      refs' = ((proposals.map EntityProposal.ref).zip created).reverse ++ refs := by
  induction proposals generalizing i refs created st b ws with
  | nil =>
    cases h
    exact ⟨.nil, rfl⟩
  | cons ep proposals ih =>
    obtain ⟨data, entity, wasCreated, ws₁, b₁, created₁, ws₂, -, hkey, -, hgot, hloop, rfl,
      rfl⟩ := persistEntitiesPlan_cons py h
    rw [List.map_cons, List.nodup_cons] at hdistinct
    have hnone : keyRows st req.caseId data.key = [] := hkey ▸ hnew ep List.mem_cons_self
    cases hgot with
    | created _ hnewId hentities hrest =>
      -- the new row is no row of the keys that are still to come
      have hlater : ∀ ep' ∈ proposals, keyRows (applyAll st ws₁) req.caseId ep'.key = [] := by
        intro ep' hep'
        have hother : ¬ (EntityRepository.newEntity (x.entity i) req.caseId req.createdBy data).key
            = ep'.key := fun hsame =>
          hdistinct.1 (List.mem_map.mpr ⟨ep', hep', hsame.symm.trans hkey⟩)
        rw [keyRows_insert hnewId hentities, hnew ep' (List.mem_cons_of_mem _ hep'),
          if_neg fun hmatch => hother hmatch.2.1]
        rfl
      obtain ⟨hrows, hrefs⟩ := ih hloop hlater hdistinct.2
      refine ⟨.cons hkey hrows, ?_⟩
      rw [hrefs, List.map_cons, if_pos rfl, List.singleton_append, List.zip_cons_cons,
        List.reverse_cons, List.append_assoc, List.singleton_append]
    | bumped existing hone hlt hentities hrest =>
      rw [hnone] at hone
      cases hone
    | kept existing hone hle =>
      rw [hnone] at hone
      cases hone

/-- The row of a relationship lies between the input and the row of an entity, as its proposal
does between the input and the entity's. -/
structure OnOwnRow (input : Entity) (ep : EntityProposal) (rp : RelationshipProposal)
    (row : Entity) (srcId dstId : UUID) : Prop where
  key : row.key = ep.key
  ends : ∃ inputFirst, (rp.src, rp.dst) = endsOf inputFirst ep.ref ∧
    (srcId, dstId) = endIds inputFirst input.id row.id

/-- What stands at a place of the one list, and at the same place of the other. -/
lemma getElem?_paired {α β : Type} {R : α → β → Prop} {l : List α} {l' : List β}
    (h : List.Forall₂ R l l') {i : ℕ} {b : β} (hb : l'[i]? = some b) :
    ∃ a, l[i]? = some a ∧ R a b := by
  induction h generalizing i with
  | nil => cases hb
  | cons hhead htail ih =>
    cases i with
    | zero =>
      cases hb
      exact ⟨_, rfl, hhead⟩
    | succ i => exact ih hb

/-- What a closed result leaves when its entities are new: a row for each of them, and each
relationship on the row of the entity that it was proposed with. -/
structure OwnRows (req : RunRequest) (result : QueryResult) (st' : Store) (p : Persisted) :
    Prop where
  rows : List.Forall₂ (fun ep row => row.key = ep.key) result.entities p.entities
  names : ∀ row ∈ p.entities, Names st' req.caseId row.key row.id
  /-- each relationship that is created is the one of an entity -/
  created : ∀ rel ∈ p.relationships, ∃ (i : ℕ) (ep : EntityProposal) (rp : RelationshipProposal)
    (row : Entity), result.entities[i]? = some ep ∧ result.relationships[i]? = some rp ∧
      p.entities[i]? = some row ∧ rel.relType = rp.relType.value ∧
        OnOwnRow req.inputEntity ep rp row rel.srcEntityId rel.dstEntityId
  /-- and each entity has its relationship -/
  linked : ∀ (i : ℕ) (ep : EntityProposal) (rp : RelationshipProposal) (row : Entity),
    result.entities[i]? = some ep → result.relationships[i]? = some rp →
      p.entities[i]? = some row → ∃ srcId dstId,
        OnOwnRow req.inputEntity ep rp row srcId dstId ∧
          (RelationshipRepository.withKey st' req.caseId srcId dstId rp.relType.value).length = 1

/-- **A closed result on its own rows.** -/
theorem RefsClosed.ownRows {x : RunExt} {req : RunRequest} {plugin : OSINTPlugin}
    {result : QueryResult} (hclosed : RefsClosed result) {st : Store} {b b' : Bucket}
    {p : Persisted} {ws : List Write}
    (h : persistPlan py x req plugin result st b = (.done p ws, b'))
    (hnew : ∀ ep ∈ result.entities, keyRows st req.caseId ep.key = [])
    (hdistinct : (result.entities.map EntityProposal.key).Nodup) :
    OwnRows req result (applyAll st ws) p := by
  obtain ⟨refs, ws₁, b₁, ws₂, b₂, ws₃, hentities, hrelationships, hevidence, rfl⟩ :=
    persistPlan_loops py h
  have hmerged := persistEntitiesPlan_rows py hentities
  have hlinked := persistRelationshipsPlan_rows py hrelationships
  have hsame := (persistEvidencePlan_added hevidence).same
  obtain ⟨hrows, hrefs⟩ := persistEntitiesPlan_new py hentities hnew hdistinct
  have hlength : result.entities.length = p.entities.length := hrows.length_eq
  have hkeys : (refs.map Prod.fst).Nodup := by
    rw [hrefs, List.append_nil, List.map_reverse, List.nodup_reverse,
      List.map_fst_zip (by rw [List.length_map]; omega)]
    exact hclosed.refs
  -- the table leads from the reference of an entity to its row
  have hlookup : ∀ {i : ℕ} {ep : EntityProposal} {row : Entity}, result.entities[i]? = some ep →
      p.entities[i]? = some row → refs.lookup ep.ref = some row := by
    intro i ep row hep hrow
    refine lookup_of_nodup hkeys ?_
    rw [hrefs, List.append_nil, List.mem_reverse]
    refine List.mem_of_getElem? (i := i) (List.getElem?_zip_eq_some.mpr ⟨?_, hrow⟩)
    rw [List.getElem?_map, hep, Option.map_some]
  rw [applyAll_append, applyAll_append]
  refine ⟨hrows, fun row hrow => ?_, fun rel hrel => ?_, fun i ep rp row hep hrp hrow => ?_⟩
  · obtain ⟨i, hi⟩ := List.mem_iff_getElem?.mp hrow
    obtain ⟨ep, hep, hkey⟩ := getElem?_paired hrows hi
    have hnames := hmerged.ref_names hclosed.refs (List.mem_of_getElem? hep) (hlookup hep hi)
    unfold Names
    rw [hkey, keyRows_congr (hsame.entities.trans hlinked.same.entities)]
    exact hnames
  · obtain ⟨rp, hrp, src, dst, data, hproposed, hsrc, hdst, htype⟩ := hlinked.created rel hrel
    obtain ⟨i, hi⟩ := List.mem_iff_getElem?.mp hrp
    obtain ⟨ep, hep, inputFirst, hends⟩ := getElem?_paired hclosed.joined hi
    obtain ⟨e, he, hids⟩ := hproposed.endIds_eq hends
    obtain ⟨row, hrow, hkey⟩ :=
      getElem?_paired (R := fun (row : Entity) (ep : EntityProposal) => row.key = ep.key)
        hrows.flip hep
    rw [hlookup hep hrow] at he
    obtain rfl := Option.some.inj he
    refine ⟨i, ep, rp, row, hep, hi, hrow, htype, hkey, inputFirst, hends, ?_⟩
    rw [hsrc, hdst]
    exact hids
  · obtain ⟨src, dst, data, hproposed, hone⟩ := hlinked.one rp (List.mem_of_getElem? hrp)
    obtain ⟨hsrc, hdst, htype⟩ := RelationshipCreate.validate_ok hproposed.validates
    obtain ⟨ep', hep', inputFirst, hends⟩ := getElem?_paired hclosed.joined hrp
    rw [hep] at hep'
    obtain rfl := Option.some.inj hep'
    obtain ⟨e, he, hids⟩ := hproposed.endIds_eq hends
    rw [hlookup hep hrow] at he
    obtain rfl := Option.some.inj he
    obtain ⟨ep', hep', hkey⟩ := getElem?_paired hrows hrow
    rw [hep] at hep'
    obtain rfl := Option.some.inj hep'
    refine ⟨src.id, dst.id, ⟨hkey, inputFirst, hends, hids⟩, ?_⟩
    rw [hsrc, hdst, htype] at hone
    unfold RelationshipRepository.withKey
    rw [hsame.relationships]
    exact hone

/-! ## Results on the runner -/

/-- **References are closed and unique**: the references of a result differ, and each relationship
lies between the input and its own entity; the runner resolves them all, and new entities have
their relationships on their own rows. -/
theorem query_refs_closed {b : Builtin} (hb : b ≠ .openCorporates) {w : Surroundings}
    {input : Entity} {credentials : Option PyDict} {result : QueryResult}
    (h : (b.plugin w).query input credentials = .ok result) :
    RefsClosed result ∧
    (∀ (x : RunExt) (req : RunRequest) (s s' : Session Store Write Bucket)
      (refs : PluginRunner.Refs) (created : List Entity), s.failed = false →
      PluginRunner.persistEntities py x req 0 result.entities [] s = (.ok (refs, created), s') →
      ∀ rp ∈ result.relationships, ∃ src dst,
        PluginRunner.resolveRef rp.src req.inputEntity refs = .ok src ∧
        PluginRunner.resolveRef rp.dst req.inputEntity refs = .ok dst) ∧
    ∀ (x : RunExt) (req : RunRequest) (s s' : Session Store Write Bucket) (p : Persisted),
      s.failed = false →
      PluginRunner.persistRows py x req (b.plugin w) result s = (.ok p, s') →
      (∀ ep ∈ result.entities, keyRows s.work req.caseId ep.key = []) →
      (result.entities.map EntityProposal.key).Nodup →
      OwnRows req result s'.work p := by
  have hclosed := Builtin.query_closed hb h
  refine ⟨hclosed, ?_, ?_⟩
  · intro x req s s' refs created hs hpersist rp hrp
    obtain ⟨ws, b', hplan, -⟩ := (persistEntities_runs py x req 0 _ _).ok hs hpersist
    have hmerged := persistEntitiesPlan_rows py hplan
    exact hclosed.resolves (fun ep hep => hmerged.lookup hep) hrp req.inputEntity
  · intro x req s s' p hs hpersist hnew hdistinct
    obtain ⟨ws, b', hplan, rfl⟩ := (persistRows_runs py x req _ _).ok hs hpersist
    rw [show Session.work { s.extend ws with outside := b' } = applyAll s.work ws
      from Session.work_extend s _]
    exact hclosed.ownRows py hplan hnew hdistinct

/-- What the report of `dns_whois` on a domain has run against. -/
def recordSurroundings : Surroundings where
  upstream := bodyUpstream "\x7b\x7d" (.dict [])
  resolver := capitalResolver
  post _ _ _ := .error (Exc.httpError "unreachable")
  py := plainInterp

theorem query_refs_closed_dnsWhois :
    RefsClosed dnsWhoisReport.result ∧ ∃ (s s' : Session Store Write Bucket) (p : Persisted),
      PluginRunner.persistRows plainInterp calm dnsWhoisReport.request
          (Builtin.dnsWhois.plugin recordSurroundings) dnsWhoisReport.result s = (.ok p, s') ∧
        dnsWhoisReport.result.entities.length = 2 ∧
          OwnRows dnsWhoisReport.request dnsWhoisReport.result s'.work p := by
  obtain ⟨hclosed, -, hrows⟩ := @query_refs_closed plainInterp .dnsWhois (by decide)
    recordSurroundings exampleDomain exampleCredentials dnsWhoisReport.result
    dnsWhoisReport.answers
  have hfits : fits calm dnsWhoisReport domainStore = true := by decide +kernel
  obtain ⟨s, s', p, hwork, hsaves, -⟩ := saves_of_fits example_live ⟨rfl, rfl, rfl⟩ hfits
  refine ⟨hclosed, s, s', p, hsaves.persists, by decide +kernel, ?_⟩
  refine hrows calm dnsWhoisReport.request s s' p hsaves.usable hsaves.persists ?_ ?_
  · rw [hwork]
    decide +kernel
  · decide +kernel

end Sleuthgraph
