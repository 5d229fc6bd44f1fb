import Sleuthgraph.Dedup.Scripts

/-!
# The dedup keys

No index makes the keys of the two dedup calls unique, so they are unique as long as the sessions
behave: a plain create and a rename take only keys that no live row has, and no session is after
a key that another one has looked up in vain or given to a row it has not committed. Between the
lookup and the commit of `get_or_create` nothing but good luck keeps another session off its key.
-/

namespace Sleuthgraph

open Programs Transactions Tables
open Systems (runAll)

/-! ## Rows and their keys -/

inductive RowId where
  | entity (id : UUID)
  | relationship (id : UUID)
deriving DecidableEq, Repr

def Entity.dedupKey (e : Entity) : DedupKey := .entity e.caseId e.type e.label

def Relationship.dedupKey (r : Relationship) : DedupKey :=
  .relationship r.caseId r.srcEntityId r.dstEntityId r.relType

namespace Store

def rowAt (st : Store) : RowId → Option (Entity ⊕ Relationship)
  | .entity id => (st.entities.find id).map .inl
  | .relationship id => (st.relationships.find id).map .inr

/-- The key of a live row. -/
def keyOf : Entity ⊕ Relationship → Option DedupKey
  | .inl e => if e.live then some e.dedupKey else none
  | .inr r => if r.live then some r.dedupKey else none

/-- The lookup of the key finds nothing. -/
def freeKey (st : Store) : DedupKey → Bool
  | .entity caseId type label => (EntityRepository.withKey st caseId type label).isEmpty
  | .relationship caseId src dst relType =>
    (RelationshipRepository.withKey st caseId src dst relType).isEmpty

end Store

variable {st : Store}

lemma mem_withKey_entity {caseId : UUID} {type label : String} {e : Entity} :
    e ∈ EntityRepository.withKey st caseId type label ↔
      e.LiveIn st ∧ e.dedupKey = .entity caseId type label := by
  simp only [EntityRepository.withKey, List.mem_filter, Bool.and_eq_true, decide_eq_true_eq,
    Entity.dedupKey, DedupKey.entity.injEq]
  constructor
  · rintro ⟨hmem, ⟨⟨hcase, htype⟩, hlabel⟩, hlive⟩
    exact ⟨⟨hmem, hlive⟩, hcase, htype, hlabel⟩
  · rintro ⟨⟨hmem, hlive⟩, hcase, htype, hlabel⟩
    exact ⟨hmem, ⟨⟨hcase, htype⟩, hlabel⟩, hlive⟩

lemma mem_withKey_relationship {caseId src dst : UUID} {relType : String} {r : Relationship} :
    r ∈ RelationshipRepository.withKey st caseId src dst relType ↔
      r.LiveIn st ∧ r.dedupKey = .relationship caseId src dst relType := by
  simp only [RelationshipRepository.withKey, List.mem_filter, Bool.and_eq_true,
    decide_eq_true_eq, Relationship.dedupKey, DedupKey.relationship.injEq]
  constructor
  · rintro ⟨hmem, ⟨⟨⟨hcase, hsrc⟩, hdst⟩, htype⟩, hlive⟩
    exact ⟨⟨hmem, hlive⟩, hcase, hsrc, hdst, htype⟩
  · rintro ⟨⟨hmem, hlive⟩, hcase, hsrc, hdst, htype⟩
    exact ⟨hmem, ⟨⟨⟨hcase, hsrc⟩, hdst⟩, htype⟩, hlive⟩

lemma if_eq_some_iff {b : Bool} {k k' : DedupKey} :
    (if b then some k' else none) = some k ↔ b = true ∧ k' = k := by
  cases b <;> simp

/-- The key of an entity's row. -/
lemma keyOf_entity {id : UUID} {k : DedupKey} :
    (st.rowAt (.entity id)).bind Store.keyOf = some k ↔
      ∃ e : Entity, e.LiveIn st ∧ e.id = id ∧ e.dedupKey = k := by
  show ((st.entities.find id).map Sum.inl).bind Store.keyOf = some k ↔ _
  rw [Option.bind_map, Table.find_bind_eq_some_iff]
  constructor
  · intro ⟨e, hmem, hid, hkey⟩
    obtain ⟨hlive, hkey⟩ := if_eq_some_iff.mp hkey
    exact ⟨e, ⟨hmem, hlive⟩, hid, hkey⟩
  · intro ⟨e, he, hid, hkey⟩
    exact ⟨e, he.mem, hid, if_eq_some_iff.mpr ⟨he.live, hkey⟩⟩

/-- The key of a relationship's row. -/
lemma keyOf_relationship {id : UUID} {k : DedupKey} :
    (st.rowAt (.relationship id)).bind Store.keyOf = some k ↔
      ∃ r : Relationship, r.LiveIn st ∧ r.id = id ∧ r.dedupKey = k := by
  show ((st.relationships.find id).map Sum.inr).bind Store.keyOf = some k ↔ _
  rw [Option.bind_map, Table.find_bind_eq_some_iff]
  constructor
  · intro ⟨r, hmem, hid, hkey⟩
    obtain ⟨hlive, hkey⟩ := if_eq_some_iff.mp hkey
    exact ⟨r, ⟨hmem, hlive⟩, hid, hkey⟩
  · intro ⟨r, hr, hid, hkey⟩
    exact ⟨r, hr.mem, hid, if_eq_some_iff.mpr ⟨hr.live, hkey⟩⟩

lemma freeKey_iff {k : DedupKey} :
    st.freeKey k = true ↔ ∀ i, (st.rowAt i).bind Store.keyOf ≠ some k := by
  cases k with
  | entity caseId type label =>
    simp only [Store.freeKey, List.isEmpty_iff]
    constructor
    · intro hempty i hi
      -- a row of the other table has a key of the other kind
      cases i with
      | entity id =>
        obtain ⟨e, he, -, hkey⟩ := keyOf_entity.mp hi
        have hmem := mem_withKey_entity.mpr ⟨he, hkey⟩
        rw [hempty] at hmem
        cases hmem
      | relationship id =>
        obtain ⟨r, -, -, hkey⟩ := keyOf_relationship.mp hi
        cases hkey
    · intro hnone
      refine List.eq_nil_iff_forall_not_mem.mpr fun e he => ?_
      obtain ⟨hlive, hkey⟩ := mem_withKey_entity.mp he
      exact hnone (.entity e.id) (keyOf_entity.mpr ⟨e, hlive, rfl, hkey⟩)
  | relationship caseId src dst relType =>
    simp only [Store.freeKey, List.isEmpty_iff]
    constructor
    · intro hempty i hi
      cases i with
      | entity id =>
        obtain ⟨e, -, -, hkey⟩ := keyOf_entity.mp hi
        cases hkey
      | relationship id =>
        obtain ⟨r, hr, -, hkey⟩ := keyOf_relationship.mp hi
        have hmem := mem_withKey_relationship.mpr ⟨hr, hkey⟩
        rw [hempty] at hmem
        cases hmem
    · intro hnone
      refine List.eq_nil_iff_forall_not_mem.mpr fun r hr => ?_
      obtain ⟨hlive, hkey⟩ := mem_withKey_relationship.mp hr
      exact hnone (.relationship r.id) (keyOf_relationship.mpr ⟨r, hlive, rfl, hkey⟩)

instance : KeyedRows Store RowId (Option (Entity ⊕ Relationship)) DedupKey where
  row := Store.rowAt
  keyAt st i := (st.rowAt i).bind Store.keyOf
  free := Store.freeKey
  keyAt_congr h := by rw [h]
  free_iff := freeKey_iff

/-- The row of a statement. -/
def Write.rowId : Write → Option RowId
  | insertEntity e => some (.entity e.id)
  | updateEntity id _ _ => some (.entity id)
  | insertRelationship r => some (.relationship r.id)
  | retireRelationship id _ => some (.relationship id)
  | _ => none

instance : Targets Write RowId := ⟨Write.rowId⟩

/-- What a statement makes of its row. -/
def Write.onRow : Write → Option (Entity ⊕ Relationship) → Option (Entity ⊕ Relationship)
  | insertEntity e => fun found => some (found.getD (.inl e))
  | updateEntity _ c now => Option.map (Sum.map (c.set now) id)
  | insertRelationship r => fun found => some (found.getD (.inr r))
  | retireRelationship _ now => Option.map (Sum.map id (Relationship.retire now))
  | _ => id

lemma rowAt_apply (w : Write) (i : RowId) :
    (st.apply w).rowAt i = if w.rowId = some i then w.onRow (st.rowAt i) else st.rowAt i := by
  -- a statement changes one table, and in it the row of its id
  cases w with
  | insertEntity e =>
    cases i with
    | entity id =>
      have hfind : (st.entities.insert e).find id
          = if id = e.id then some ((st.entities.find id).getD e) else st.entities.find id :=
        Table.find_insert st.entities e id
      simp only [Store.apply, Store.rowAt, hfind, Write.rowId, Option.some.injEq,
        RowId.entity.injEq, eq_comm (a := e.id)]
      split
      · cases st.entities.find id <;> rfl
      · rfl
    | relationship id => rfl
  | updateEntity id' c now =>
    cases i with
    | entity id =>
      have hfind : (st.entities.modify id' (c.set now) fun _ => rfl).find id = if id = id' then
          (st.entities.find id).map (c.set now) else st.entities.find id :=
        Table.find_modify st.entities id' _ _ id
      simp only [Store.apply, Store.rowAt, hfind, Write.rowId, Option.some.injEq,
        RowId.entity.injEq, eq_comm (a := id')]
      split
      · cases st.entities.find id <;> rfl
      · rfl
    | relationship id => rfl
  | insertRelationship r =>
    cases i with
    | entity id => rfl
    | relationship id =>
      have hfind : (st.relationships.insert r).find id = if id = r.id then
          some ((st.relationships.find id).getD r) else st.relationships.find id :=
        Table.find_insert st.relationships r id
      simp only [Store.apply, Store.rowAt, hfind, Write.rowId, Option.some.injEq,
        RowId.relationship.injEq, eq_comm (a := r.id)]
      split
      · cases st.relationships.find id <;> rfl
      · rfl
  | retireRelationship id' now =>
    cases i with
    | entity id => rfl
    | relationship id =>
      have hfind : (st.relationships.modify id' (Relationship.retire now) fun _ => rfl).find id
          = if id = id' then (st.relationships.find id).map (Relationship.retire now)
            else st.relationships.find id :=
        Table.find_modify st.relationships id' _ _ id
      simp only [Store.apply, Store.rowAt, hfind, Write.rowId, Option.some.injEq,
        RowId.relationship.injEq, eq_comm (a := id')]
      split
      · cases st.relationships.find id <;> rfl
      · rfl
  | insertEvidence ev => rfl
  | insertRun run => rfl
  | updateRun id' c => rfl
  | cypher op => rfl

instance : LocalWrites Store Write where
  frame st w i h := (rowAt_apply w i).trans (if_neg h)
  congr {st st'} w i h := by
    show (st.apply w).rowAt i = (st'.apply w).rowAt i
    rw [rowAt_apply, rowAt_apply, show st.rowAt i = st'.rowAt i from h]

/-! ## What unique keys give -/

/-- At most one live row for each dedup key. -/
structure KeysUnique (st : Store) : Prop where
  entities : ∀ e e' : Entity, e.LiveIn st → e'.LiveIn st →
    e.caseId = e'.caseId → e.type = e'.type → e.label = e'.label → e = e'
  relationships : ∀ r r' : Relationship, r.LiveIn st → r'.LiveIn st → r.caseId = r'.caseId →
    r.srcEntityId = r'.srcEntityId → r.dstEntityId = r'.dstEntityId → r.relType = r'.relType →
      r = r'

/-- No lookup of a dedup key raises `MultipleResultsFound`. -/
structure LookupsAnswer (st : Store) : Prop where
  entities : ∀ caseId type label,
    ∃ found, scalarOneOrNone (EntityRepository.withKey st caseId type label) = .ok found
  relationships : ∀ caseId src dst relType,
    ∃ found, scalarOneOrNone (RelationshipRepository.withKey st caseId src dst relType) = .ok found

lemma scalarOneOrNone_ok {α : Type} {rows : List α} (hnodup : rows.Nodup)
    (h : ∀ a ∈ rows, ∀ b ∈ rows, a = b) : ∃ found, scalarOneOrNone rows = .ok found := by
  match rows with
  | [] => exact ⟨none, rfl⟩
  | [a] => exact ⟨some a, rfl⟩
  | a :: b :: rest =>
    have hab : a = b := h a (by simp) b (by simp)
    simp [hab] at hnodup

lemma keysUnique_of_uniqueKeys (h : UniqueKeys st) : KeysUnique st where
  entities e e' he he' hcase htype hlabel := by
    have hkey : e'.dedupKey = e.dedupKey := by
      simp only [Entity.dedupKey, hcase, htype, hlabel]
    have hid := h (.entity e.id) (.entity e'.id) e.dedupKey
      (keyOf_entity.mpr ⟨e, he, rfl, rfl⟩) (keyOf_entity.mpr ⟨e', he', rfl, hkey⟩)
    exact Table.eq_of_pk_eq he.mem he'.mem (RowId.entity.inj hid)
  relationships r r' hr hr' hcase hsrc hdst htype := by
    have hkey : r'.dedupKey = r.dedupKey := by
      simp only [Relationship.dedupKey, hcase, hsrc, hdst, htype]
    have hid := h (.relationship r.id) (.relationship r'.id) r.dedupKey
      (keyOf_relationship.mpr ⟨r, hr, rfl, rfl⟩) (keyOf_relationship.mpr ⟨r', hr', rfl, hkey⟩)
    exact Table.eq_of_pk_eq hr.mem hr'.mem (RowId.relationship.inj hid)

lemma KeysUnique.lookups (h : KeysUnique st) : LookupsAnswer st where
  entities caseId type label := by
    refine scalarOneOrNone_ok ((List.Nodup.of_map _ st.entities.nodup).filter _)
      fun a ha b hb => ?_
    obtain ⟨halive, hakey⟩ := mem_withKey_entity.mp ha
    obtain ⟨hblive, hbkey⟩ := mem_withKey_entity.mp hb
    obtain ⟨hcase, htype, hlabel⟩ := DedupKey.entity.inj (hakey.trans hbkey.symm)
    exact h.entities a b halive hblive hcase htype hlabel
  relationships caseId src dst relType := by
    refine scalarOneOrNone_ok ((List.Nodup.of_map _ st.relationships.nodup).filter _)
      fun a ha b hb => ?_
    obtain ⟨halive, hakey⟩ := mem_withKey_relationship.mp ha
    obtain ⟨hblive, hbkey⟩ := mem_withKey_relationship.mp hb
    obtain ⟨hcase, hsrc, hdst, htype⟩ := DedupKey.relationship.inj (hakey.trans hbkey.symm)
    exact h.relationships a b halive hblive hcase hsrc hdst htype

/-! ## Every run -/

/-- The database, and the sessions on it. -/
abbrev Sessions (N : Type) := Shared Store Write DedupKey Exc N

/-- A statement, or the start of a call, in one of the sessions. -/
def Sessions.step {N : Type} [Fintype N] [DecidableEq N] (py : Interp) :
    Sessions N → SharedAction Step N → Option (Sessions N) :=
  Shared.step (Step.script py)

variable (py : Interp) {N : Type} [Fintype N] [DecidableEq N] {s : Sessions N}

/-- A session by itself makes the call: its statements lead to where the call ends. -/
theorem call_alone (step : Step) {n : N} (hscript : (s.conns n).script = some (step.script py))
    (halone : s.Alone n) : s.Finishes (Step.script py) n (step.exec py (s.session n)) := by
  rw [Step.exec, ← Step.run_script]
  exact Shared.finishes_alone hscript halone

/-- **The dedup keys stay unique** in every run in which no two sessions are after the same key
at the same time and plain creates and renames take free keys. -/
theorem dedup_keys_unique
    (h : Systems.Reaches (Sessions.step py) Shared.Serialized (Shared.start Store.empty) s) :
    KeysUnique s.committed ∧ ∀ n, LookupsAnswer (s.view n) := by
  have hempty : UniqueKeys Store.empty := by
    rintro (id | id) j k hi hj <;> cases hi
  have hexclusive := Shared.exclusive_of_reaches hempty h
  exact ⟨keysUnique_of_uniqueKeys hexclusive.committed,
    fun n => (keysUnique_of_uniqueKeys (hexclusive.views n)).lookups⟩

/-! ### Two sessions -/

omit [Fintype N] [DecidableEq N] in
/-- A session without a transaction that has looked up nothing holds no key. -/
lemma not_holds_of_idle {s : Sessions N} {n : N} (hpending : (s.conns n).pending = [])
    (hsought : (s.conns n).sought = none) (k : DedupKey) : ¬ s.Holds n k := by
  rintro (hk | ⟨i, hi, hne⟩)
  · rw [hsought] at hk
    cases hk
  · rw [Shared.view, hpending] at hi
    exact hne hi

def carol : EntityCreate := .ofLabel .person "carol" (by decide)

/-- The call of the `n`-th session, which would create the row `n + 1`. -/
def getCarol (n : Fin 2) : SharedAction Step (Fin 2) :=
  .call n (.call (.getOrCreate 0 none carol true) { newId := n + 1, now := 0 })

/-- The first session creates `carol`, and the lookup of the second finds her row. -/
theorem dedup_keys_unique_lookup :
    ∃ s : Sessions (Fin 2),
      runAll (Sessions.step plainInterp) (Shared.start Store.empty)
          [getCarol 0, .next 0, .next 0, .next 0, .next 0, getCarol 1, .next 1] = some s ∧
        KeysUnique s.committed ∧ ∀ n, LookupsAnswer (s.view n) := by
  -- the second session has neither written nor looked up anything when the first one acts
  have hidle : ∀ {s : Sessions (Fin 2)} {k : DedupKey}, (s.conns 1).pending = [] →
      (s.conns 1).sought = none → ∀ m, m ≠ 0 → ¬ s.Holds m k := by
    intro s k hpending hsought m hm
    obtain rfl : m = 1 := by omega
    exact not_holds_of_idle hpending hsought k
  refine ⟨_, rfl, dedup_keys_unique plainInterp
    (((((((Systems.Reaches.start.step (getCarol 0) trivial rfl).step (.next 0) ?_ rfl).step
      (.next 0) ?_ rfl).step (.next 0) ?_ rfl).step (.next 0) trivial rfl).step (getCarol 1)
      trivial rfl).step (.next 1) ?_ rfl)⟩
  · exact fun _ _ => hidle rfl rfl
  -- the key that the row is given is the one looked up
  · intro _ _ k hgives
    obtain ⟨i, hi, hk⟩ := hgives.target_eq
    cases hi
    exact ⟨Or.inl hk, hidle rfl rfl⟩
  -- a statement on the graph gives no key
  · intro _ _ k hgives
    obtain ⟨i, hi, -⟩ := hgives.target_eq
    cases hi
  · intro _ hfree
    cases hfree

/-- Both sessions look `carol` up before either inserts her. -/
def racingCalls : List (SharedAction Step (Fin 2)) :=
  [getCarol 0, getCarol 1, .next 0, .next 1, .next 0, .next 0, .next 0, .next 1, .next 1, .next 1]

/-- Both insert, and the next lookup raises. -/
theorem dedup_keys_duplicated :
    ¬ ∀ s : Sessions (Fin 2),
      Systems.Reaches (Sessions.step plainInterp) (fun _ _ => True) (Shared.start Store.empty) s →
        KeysUnique s.committed ∧ ∀ n, LookupsAnswer (s.view n) := by
  intro h
  have hrun : (runAll (Sessions.step plainInterp) (Shared.start Store.empty) racingCalls).map
      (fun s => (EntityRepository.withKey s.committed 0 "PERSON" "carol").length) = some 2 := by
    decide +kernel
  obtain ⟨s, hs, hlength⟩ := Option.map_eq_some_iff.mp hrun
  obtain ⟨a, b, hab⟩ := List.length_eq_two.mp hlength
  have hunique := (h s (Systems.Reaches.start.runAll hs)).1
  obtain ⟨found, hfound⟩ := hunique.lookups.entities 0 "PERSON" "carol"
  rw [hab] at hfound
  cases hfound

end Sleuthgraph
