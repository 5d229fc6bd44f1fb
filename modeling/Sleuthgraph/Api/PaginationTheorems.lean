import Sleuthgraph.Api.Server
import Sleuthgraph.Plugins.RunnerTheorems

/-!
# Paging through the listings (`*/repository.py`)

The five listings order by a time only. Rows of one transaction have one time, since `now()` is
constant there, so the rows that a run of a plugin adds are tied, and each request may meet them in
another order.
-/

namespace Sleuthgraph

open Programs Transactions Tables Listings

/-! ## Tiling -/

section Tiling

variable {α β : Type} [LinearOrder β] [DecidableEq α]

/-- The requests for the pages at `0`, `limit`, `2 * limit`, … list the rows, each exactly once.
Each request meets ties in an order of its own, and the last ones find nothing more. -/
def Tiles (created : α → β) (rows : List α) (limit : ℕ)
    (list : NewestFirst created → ℕ → Except Exc (List α)) : Prop :=
  ∀ n, rows.length ≤ n * limit → ∀ o : ℕ → NewestFirst created, ∃ items : ℕ → List α,
    (∀ k, list (o k) (k * limit) = .ok (items k)) ∧ ((List.range n).flatMap items).Perm rows

/-- No two rows of one time are on different pages. -/
def TiesOnOnePage (created : α → β) (rows : List α) (limit : ℕ) : Prop :=
  ∀ a ∈ rows, OnOnePage created rows limit a

instance (created : α → β) (rows : List α) (limit : ℕ) :
    Decidable (TiesOnOnePage created rows limit) :=
  inferInstanceAs (Decidable (∀ a ∈ rows, _))

/-- A listing that answers pages tiles just when ties are on one page. -/
lemma tiles_iff {created : α → β} {rows : List α} {limit : ℕ}
    {list : NewestFirst created → ℕ → Except Exc (List α)} (hnodup : rows.Nodup)
    (hlimit : 1 ≤ limit) (hlist : ∀ o offset, list o offset = .ok (o.page limit offset rows)) :
    Tiles created rows limit list ↔ TiesOnOnePage created rows limit := by
  constructor
  · intro htiles
    have hn : rows.length ≤ rows.length * limit := Nat.le_mul_of_pos_right _ hlimit
    refine (pages_perm_iff hnodup hlimit hn).mp fun o => ?_
    obtain ⟨items, hitems, hperm⟩ := htiles rows.length hn o
    have hpages : items = fun k => (o k).page limit (k * limit) rows := by
      funext k
      exact Except.ok.inj ((hitems k).symm.trans (hlist (o k) (k * limit)))
    rw [hpages] at hperm
    exact hperm
  · intro hties n hn o
    exact ⟨fun k => (o k).page limit (k * limit) rows, fun k => hlist (o k) (k * limit),
      (pages_perm_iff hnodup hlimit hn).mpr hties o⟩

end Tiling

/-! ## The listings -/

/-- A request whose statements get through. -/
def reading : Ext := { newId := 0, now := 0 }

section Listings

variable (db : Database)

/-- What `list_for_case` of the entities answers. -/
def listedEntities (c : UUID) (type : Option String) (limit : ℕ)
    (o : NewestFirst Entity.createdAt) (offset : ℕ) : Except Exc (List Entity) :=
  (EntityRepository.listForCase reading o c type limit offset
    (openSession db.store db.bucket : Session Store Write Bucket)).1

/-- What `list_for_case` of the relationships answers. -/
def listedRelationships (c : UUID) (relType : Option String) (src dst : Option UUID) (limit : ℕ)
    (o : NewestFirst Relationship.createdAt) (offset : ℕ) : Except Exc (List Relationship) :=
  (RelationshipRepository.listForCase reading o c relType src dst limit offset
    (openSession db.store db.bucket : Session Store Write Bucket)).1

/-- The items of what `list_for_case` of the evidence answers. -/
def listedEvidence (c : UUID) (entityId : Option UUID) (sourcePlugin : Option String) (limit : ℕ)
    (o : NewestFirst Evidence.timestamp) (offset : ℕ) : Except Exc (List Evidence) :=
  (EvidenceRepository.listForCase reading o c entityId sourcePlugin limit offset
    (openSession db.store db.bucket : Session Store Write Bucket)).1.map Prod.fst

/-- The items of what `list_for_case` of the runs answers. -/
def listedRuns (c : UUID) (status pluginName : Option String) (limit : ℕ)
    (o : NewestFirst PluginRun.startedAt) (offset : ℕ) : Except Exc (List PluginRun) :=
  (PluginRunRepository.listForCase reading o c status pluginName limit offset
    (openSession db.store db.bucket : Session Store Write Bucket)).1.map Prod.fst

/-- What `list_for_owner` of the cases answers. -/
def listedCases (owner : UUID) (status : Option String) (limit : ℕ)
    (o : NewestFirst Case.createdAt) (offset : ℕ) : Except Exc (List Case) :=
  (CaseRepository.listForOwner reading o owner status limit offset
    (openSession db.cases () : Session (Table Case) CaseWrite Unit)).1

lemma nodup_filter {ρ ι : Type} [Keyed ρ ι] (t : Table ρ) (p : ρ → Bool) :
    (t.rows.filter p).Nodup := (List.Nodup.of_map _ t.nodup).filter p

/-- **Paging.** Each listing tiles under a filter and a limit just when no two matching rows of one
time are on different pages. -/
theorem pagination_iff (limit : ℕ) (hlimit : 1 ≤ limit) :
    (∀ c type, Tiles Entity.createdAt (EntityRepository.inCase db.store c type) limit
        (listedEntities db c type limit) ↔
      TiesOnOnePage Entity.createdAt (EntityRepository.inCase db.store c type) limit) ∧
    (∀ c relType src dst, Tiles Relationship.createdAt
        (RelationshipRepository.inCase db.store c relType src dst) limit
        (listedRelationships db c relType src dst limit) ↔
      TiesOnOnePage Relationship.createdAt
        (RelationshipRepository.inCase db.store c relType src dst) limit) ∧
    (∀ c entityId sourcePlugin, Tiles Evidence.timestamp
        (EvidenceRepository.inCase db.store c entityId sourcePlugin) limit
        (listedEvidence db c entityId sourcePlugin limit) ↔
      TiesOnOnePage Evidence.timestamp
        (EvidenceRepository.inCase db.store c entityId sourcePlugin) limit) ∧
    (∀ c status pluginName, Tiles PluginRun.startedAt
        (PluginRunRepository.inCase db.store c status pluginName) limit
        (listedRuns db c status pluginName limit) ↔
      TiesOnOnePage PluginRun.startedAt
        (PluginRunRepository.inCase db.store c status pluginName) limit) ∧
    ∀ owner status, Tiles Case.createdAt (CaseRepository.ofOwner db.cases owner status) limit
        (listedCases db owner status limit) ↔
      TiesOnOnePage Case.createdAt (CaseRepository.ofOwner db.cases owner status) limit := by
  refine ⟨fun c type => ?_, fun c relType src dst => ?_, fun c entityId sourcePlugin => ?_,
    fun c status pluginName => ?_, fun owner status => ?_⟩
  · exact tiles_iff (nodup_filter db.store.entities _) hlimit fun _ _ => rfl
  · exact tiles_iff (nodup_filter db.store.relationships _) hlimit fun _ _ => rfl
  · exact tiles_iff (nodup_filter db.store.evidence _) hlimit fun _ _ => rfl
  · exact tiles_iff (nodup_filter db.store.runs _) hlimit fun _ _ => rfl
  · exact tiles_iff (nodup_filter db.cases _) hlimit fun _ _ => rfl

end Listings

/-! ### Two databases -/

/-- Two entities of different times. -/
def agedDatabase : Database :=
  { Database.empty with
    store := { Store.empty with
      entities := ⟨[exampleDomain, { exampleDomain with id := 2, createdAt := 1 }], by decide⟩ } }

theorem pagination_iff_aged :
    Tiles Entity.createdAt (EntityRepository.inCase agedDatabase.store 0 none) 1
      (listedEntities agedDatabase 0 none 1) :=
  ((pagination_iff agedDatabase 1 (by decide)).1 0 none).mpr (by decide)

/-- Two entities of one run. -/
def pairResult : QueryResult where
  entities := [⟨"a", .person, "alice", [], 1⟩, ⟨"b", .person, "bob", [], 1⟩]
  relationships := []
  evidence := []

/-- What a run leaves that finds two entities. -/
def pairDatabase : Database :=
  { Database.empty with
    store := (PluginRunner.run plainInterp calm (domainRequest pairResult) none
      domainSession).2.committed }

/-- Pages of one row may show one of the two twice and skip the other. -/
theorem pages_skip_row :
    ¬ ∀ (db : Database) (limit : ℕ), 1 ≤ limit → ∀ c type,
      Tiles Entity.createdAt (EntityRepository.inCase db.store c type) limit
        (listedEntities db c type limit) := by
  intro h
  have hties := (tiles_iff (nodup_filter pairDatabase.store.entities _) (by decide)
    fun _ _ => rfl).mp (h pairDatabase 1 (by decide) 0 (some "PERSON"))
  exact absurd hties (by decide +kernel)

end Sleuthgraph
