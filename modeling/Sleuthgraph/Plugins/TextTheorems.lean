import Sleuthgraph.Plugins.Builtin.Byok
import Sleuthgraph.Plugins.Runner

/-!
# Texts of exceptions

Most exceptions of the code are raised by a library with a text that the model leaves empty. The
texts that the code gives itself are those of the HTTP exchange and the few of `ownTexts`.
-/

namespace Sleuthgraph

open Programs Transactions Tables

/-! ## Functions -/

/-- What is raised has no text of the code. -/
def Textless {α : Type} (r : Except Exc α) : Prop := ∀ e, r = .error e → e.text = ""

/-- The exceptions that the libraries under the repositories raise. -/
def libraryErrors : List Exc :=
  [Exc.valueError, Exc.typeError, Exc.validationError, Exc.multipleResultsFound, Exc.clientError,
    Exc.dbApiError, Exc.pendingRollbackError]

/-- What is raised is an exception of a library. -/
def Library {α : Type} (r : Except Exc α) : Prop := ∀ e, r = .error e → e ∈ libraryErrors

section Raises

variable {α β : Type} {K : Exc → Prop} {r : Except Exc α} {f : α → Except Exc β}

lemma raises_bind (hr : ∀ e, r = .error e → K e) (hf : ∀ a e, f a = .error e → K e) :
    ∀ e, (r >>= f) = .error e → K e := by
  cases r with
  | ok a => exact hf a
  | error e =>
    intro e' he
    rw [← Except.error.inj he]
    exact hr e rfl

lemma raises_ite {c : Prop} [Decidable c] {r' : Except Exc α} (hr : ∀ e, r = .error e → K e)
    (hr' : ∀ e, r' = .error e → K e) : ∀ e, (if c then r else r') = .error e → K e := by
  split
  · exact hr
  · exact hr'

lemma raises_error {e : Exc} : (∀ e', (.error e : Except Exc α) = .error e' → K e') ↔ K e :=
  ⟨fun h => h e rfl, fun h _ he => Except.error.inj he ▸ h⟩

end Raises

namespace Textless

variable {α β : Type} {r : Except Exc α} {f : α → Except Exc β}

@[simp] lemma ok (a : α) : Textless (.ok a : Except Exc α) := fun _ h => (nomatch h)

@[simp] lemma error {e : Exc} : Textless (.error e : Except Exc α) ↔ e.text = "" := raises_error

lemma bind (hr : Textless r) (hf : ∀ a, Textless (f a)) : Textless (r >>= f) := raises_bind hr hf

lemma ite {c : Prop} [Decidable c] {r' : Except Exc α} (hr : Textless r) (hr' : Textless r') :
    Textless (if c then r else r') := raises_ite hr hr'

end Textless

namespace Library

variable {α β : Type} {r : Except Exc α} {f : α → Except Exc β}

lemma ok (a : α) : Library (.ok a : Except Exc α) := fun _ h => (nomatch h)

lemma error {e : Exc} : Library (.error e : Except Exc α) ↔ e ∈ libraryErrors := raises_error

lemma bind (hr : Library r) (hf : ∀ a, Library (f a)) : Library (r >>= f) := raises_bind hr hf

lemma ite {c : Prop} [Decidable c] {r' : Except Exc α} (hr : Library r) (hr' : Library r') :
    Library (if c then r else r') := raises_ite hr hr'

end Library

/-! ### Attributes -/

mutual

theorem library_walk (depth : ℕ) : ∀ v : PyVal, Library (walk depth v)
  | .dict items => by
    unfold walk
    exact Library.ite (Library.error.mpr (by decide)) (library_walkEntries _ items)
  | .list items => by
    unfold walk
    exact Library.ite (Library.error.mpr (by decide)) (library_walkItems _ items)
  | .none | .bool _ | .int _ | .float _ | .str _ | .obj _ => by
    unfold walk
    exact Library.ite (Library.error.mpr (by decide)) (Library.ok _)

theorem library_walkItems (depth : ℕ) : ∀ items : List PyVal, Library (walkItems depth items)
  | [] => Library.ok _
  | v :: items => by
    unfold walkItems
    exact (library_walk depth v).bind fun _ => library_walkItems depth items

theorem library_walkEntries (depth : ℕ) : ∀ items : PyDict, Library (walkEntries depth items)
  | [] => Library.ok _
  | (k, v) :: items => by
    unfold walkEntries
    exact Library.ite ((library_walk depth v).bind fun _ => library_walkEntries depth items)
      (Library.error.mpr (by decide))

end

mutual

theorem library_jsonDumps : ∀ v : PyVal, Library (jsonDumps v)
  | .dict items => by
    unfold jsonDumps
    exact (library_jsonEntries items).bind fun _ => Library.ok _
  | .list items => by
    unfold jsonDumps
    exact (library_jsonItems items).bind fun _ => Library.ok _
  | .int i => by
    unfold jsonDumps
    exact Library.ite (Library.ok _) (Library.error.mpr (by decide))
  | .none | .bool _ | .float _ | .str _ => Library.ok _
  | .obj _ => Library.error.mpr (by decide)

theorem library_jsonItems : ∀ items : List PyVal, Library (jsonItems items)
  | [] => Library.ok _
  | v :: items => by
    unfold jsonItems
    exact (library_jsonDumps v).bind fun _ =>
      (library_jsonItems items).bind fun _ => Library.ok _

theorem library_jsonEntries : ∀ items : PyDict, Library (jsonEntries items)
  | [] => Library.ok _
  | (_, v) :: items => by
    unfold jsonEntries
    exact (library_jsonDumps v).bind fun _ =>
      (library_jsonEntries items).bind fun _ => Library.ok _

end

lemma library_validateAttrs (value : PyDict) : Library (validateAttrs value) :=
  (library_walk 0 _).bind fun _ => (library_jsonDumps _).bind fun _ =>
    Library.ite (Library.error.mpr (by decide)) (Library.ok _)

mutual

theorem library_cypherScalar (str : PyVal → String) :
    ∀ v : PyVal, Library (cypherScalar str v)
  | .dict items => by
    unfold cypherScalar
    exact (library_encodeParts str items).bind fun _ => Library.ok _
  | .int _ | .list _ => by
    unfold cypherScalar
    exact Library.ite (Library.ok _) (Library.error.mpr (by decide))
  | .none | .bool _ | .float _ | .str _ | .obj _ => by
    unfold cypherScalar
    exact Library.ok _

theorem library_encodeParts (str : PyVal → String) :
    ∀ items : PyDict, Library (encodeParts str items)
  | [] => Library.ok _
  | (_, v) :: items => by
    unfold encodeParts
    exact Library.ite ((library_cypherScalar str v).bind fun _ =>
      (library_encodeParts str items).bind fun _ => Library.ok _) (Library.error.mpr (by decide))

end

lemma library_encodeProps (str : PyVal → String) (props : PyDict) :
    Library (encodeProps str props) :=
  (library_encodeParts str props).bind fun _ => Library.ok _

/-! ### Schemas -/

lemma pydanticError_library {e : Exc} (h : e ∈ libraryErrors) :
    pydanticError e ∈ libraryErrors := by
  unfold pydanticError
  split
  · decide
  · exact h

lemma EntityCreate.library (type label : String) (attrs : PyDict) (confidence : ℚ) :
    Library (EntityCreate.validate type label attrs confidence) := by
  unfold EntityCreate.validate
  split
  · rename_i e hattrs
    exact Library.error.mpr (pydanticError_library (library_validateAttrs attrs e hattrs))
  · split
    · exact Library.error.mpr (by decide)
    · split
      · exact Library.ok _
      · exact Library.error.mpr (by decide)

lemma RelationshipCreate.library (src dst : UUID) (relType : String) (confidence : ℚ)
    (sourcePlugin : Option String) (attrs : PyDict) :
    Library (RelationshipCreate.validate src dst relType confidence sourcePlugin attrs) := by
  unfold RelationshipCreate.validate
  split
  · rename_i e hattrs
    exact Library.error.mpr (pydanticError_library (library_validateAttrs attrs e hattrs))
  · split
    · exact Library.error.mpr (by decide)
    · split
      · exact Library.ok _
      · exact Library.error.mpr (by decide)

lemma EvidenceCreate.library (entityId : Option UUID) (sourcePlugin query : String)
    (spec : PyDict) : Library (EvidenceCreate.validate entityId sourcePlugin query spec) := by
  unfold EvidenceCreate.validate
  split
  · rename_i e hspec
    exact Library.error.mpr (pydanticError_library (library_validateAttrs spec e hspec))
  · split
    · exact Library.ok _
    · exact Library.error.mpr (by decide)

lemma library_scalarOneOrNone {α : Type} (rows : List α) : Library (scalarOneOrNone rows) := by
  unfold scalarOneOrNone
  split
  · exact Library.ok _
  · exact Library.ok _
  · exact Library.error.mpr (by decide)

/-! ### Answers -/

lemma textless_pyIter (v : PyVal) : Textless (pyIter v) := by
  cases v with
  | list _ | dict _ | str _ => exact Textless.ok _
  | none | bool _ | int _ | float _ | obj _ => exact Textless.error.mpr rfl

lemma textless_pyGet (v : PyVal) (key : String) (default : PyVal) :
    Textless (pyGet v key default) := by
  cases v with
  | dict _ => exact Textless.ok _
  | none | bool _ | int _ | float _ | str _ | list _ | obj _ => exact Textless.error.mpr rfl

lemma EntityProposal.textless (ref : String) (type : EntityType) (label : List Char)
    (attrs : PyDict) (confidence : ℚ) :
    Textless (EntityProposal.validate ref type label attrs confidence) :=
  Textless.ite (Textless.ok _) (Textless.error.mpr rfl)

lemma EvidenceProposal.textless (query : List Char) (payload : Bytes) (spec : PyDict) :
    Textless (EvidenceProposal.validate query payload spec) :=
  Textless.ite (Textless.ok _) (Textless.error.mpr rfl)

namespace VirusTotal

variable (u : Upstream)

lemma textless_attributeOf (data : PyDict) (key : String) (default : PyVal) :
    Textless (attributeOf data key default) :=
  (textless_pyGet _ _ _).bind fun _ => (textless_pyGet _ _ _).bind fun _ => textless_pyGet _ _ _

lemma textless_valueOf (rec : PyVal) : Textless (valueOf rec) := by
  refine (textless_pyGet _ _ _).bind fun value => ?_
  cases value with
  | str _ => exact Textless.ok _
  | none | bool _ | int _ | float _ | list _ | dict _ | obj _ => exact Textless.error.mpr rfl

lemma textless_addAddress (found : Found) (rec : PyVal) : Textless (addAddress u found rec) :=
  (textless_pyGet _ _ _).bind fun _ => (textless_valueOf rec).bind fun _ =>
    Textless.ite ((EntityProposal.textless _ _ _ _ _).bind fun _ => Textless.ok _) (Textless.ok _)

lemma textless_addSubdomain (domain : List Char) (found : Found) (rec : PyVal) :
    Textless (addSubdomain u domain found rec) :=
  (textless_pyGet _ _ _).bind fun _ => (textless_valueOf rec).bind fun _ =>
    Textless.ite ((EntityProposal.textless _ _ _ _ _).bind fun _ => Textless.ok _) (Textless.ok _)

lemma textless_addAltName (found : Found) (name : PyVal) : Textless (addAltName u found name) := by
  unfold addAltName
  cases name with
  | str name =>
    exact Textless.ite ((EntityProposal.textless _ _ _ _ _).bind fun _ => Textless.ok _)
      (Textless.ok _)
  | none | bool _ | int _ | float _ | list _ | dict _ | obj _ => exact Textless.error.mpr rfl

lemma textless_eachRecord {body : Found → PyVal → Except Exc Found}
    (hbody : ∀ found rec, Textless (body found rec)) (found : Found) (records : List PyVal) :
    Textless (eachRecord body found records) := by
  induction records generalizing found with
  | nil => exact Textless.ok _
  | cons rec records ih =>
    unfold eachRecord
    exact Textless.ite (Textless.ok _) ((hbody found rec).bind fun found => ih found)

lemma textless_extractDomain (domain : List Char) (data : PyDict) :
    Textless (extractDomain u domain data) :=
  (textless_attributeOf _ _ _).bind fun _ => (textless_pyIter _).bind fun _ =>
    (textless_eachRecord (textless_addAddress u) _ _).bind fun _ =>
      textless_eachRecord (textless_addSubdomain u domain) _ _

lemma textless_altNames (data : PyDict) : Textless (altNames data) := by
  refine (textless_attributeOf _ _ _).bind fun cert => ?_
  cases cert with
  | dict _ => exact (textless_pyGet _ _ _).bind fun _ => textless_pyGet _ _ _
  | none | bool _ | int _ | float _ | str _ | list _ | obj _ => exact Textless.ok _

lemma textless_extractIp (data : PyDict) : Textless (extractIp u data) :=
  (textless_altNames data).bind fun _ => (textless_pyIter _).bind fun _ =>
    textless_eachRecord (textless_addAltName u) _ _

lemma textless_resultOf (question : String) (subject url : List Char) (raw : Bytes)
    (found : Found) : Textless (resultOf u question subject url raw found) :=
  (EvidenceProposal.textless _ _ _).bind fun _ => Textless.ok _

end VirusTotal

namespace Shodan

variable (u : Upstream)

lemma textless_addName (confidence : ℚ) (found : Found) (name : PyVal) :
    Textless (addName u confidence found name) := by
  unfold addName
  cases name with
  | str name =>
    exact Textless.ite (Textless.ok _)
      ((EntityProposal.textless _ _ _ _ _).bind fun _ => Textless.ok _)
  | none | bool _ | int _ | float _ | list _ | dict _ | obj _ => exact Textless.ok _

lemma textless_eachName (confidence : ℚ) (found : Found) (names : List PyVal) :
    Textless (eachName u confidence found names) := by
  induction names generalizing found with
  | nil => exact Textless.ok _
  | cons name names ih =>
    unfold eachName
    exact Textless.ite (Textless.ok _)
      ((textless_addName u confidence found name).bind fun found => ih found)

lemma textless_resultOf (ip : List Char) (raw : Bytes) (data : PyDict) :
    Textless (resultOf u ip raw data) := by
  have hextract : Textless (extract u data) :=
    (textless_eachName u _ _ _).bind fun _ => textless_eachName u _ _ _
  have hservices : Textless (servicesSummary data) :=
    (textless_pyIter _).bind fun _ => Textless.ok _
  exact hextract.bind fun _ => hservices.bind fun _ =>
    (EvidenceProposal.textless _ _ _).bind fun _ => Textless.ok _

end Shodan

namespace Hibp

lemma textless_dataClasses (breaches : List PyVal) : Textless (dataClasses breaches) := by
  induction breaches with
  | nil => exact Textless.ok _
  | cons breach breaches ih =>
    cases breach with
    | dict _ =>
      unfold dataClasses
      exact (textless_pyIter _).bind fun _ => ih.bind fun _ => Textless.ok _
    | none | bool _ | int _ | float _ | str _ | list _ | obj _ => exact ih

lemma textless_resultOf (u : Upstream) (email : List Char) (raw : Bytes)
    (breaches : List PyVal) : Textless (resultOf u email raw breaches) :=
  (textless_dataClasses breaches).bind fun _ =>
    (EvidenceProposal.textless _ _ _).bind fun _ => Textless.ok _

end Hibp

namespace BYOKPlugin

/-- What is made of an answer raises nothing with a text of its own. -/
lemma textless_finish (u : Upstream) (b : BYOKPlugin) (input : Entity) (answer : b.Answer) :
    Textless (b.finish u input answer) := by
  cases b with
  | virustotal =>
    obtain ⟨raw, data⟩ := answer
    unfold finish
    dsimp only
    split
    · exact (VirusTotal.textless_extractDomain u _ _).bind fun _ =>
        VirusTotal.textless_resultOf u _ _ _ _ _
    · exact (VirusTotal.textless_extractIp u _).bind fun _ =>
        VirusTotal.textless_resultOf u _ _ _ _ _
    · exact VirusTotal.textless_resultOf u _ _ _ _ _
  | shodan => exact Shodan.textless_resultOf u _ _ _
  | hibp =>
    cases answer with
    | none => exact Textless.ok _
    | some answer => exact Hibp.textless_resultOf u _ _ _

lemma textless_unasked (b : BYOKPlugin) (input : Entity) : Textless (b.unasked input) := by
  cases b with
  | virustotal => exact Textless.ite (Textless.error.mpr rfl) (Textless.ok _)
  | shodan | hibp => exact Textless.ok _

end BYOKPlugin

/-! ## Statements -/

/-- What a session raises by itself. -/
lemma own_library {e : Exc} (h : SessionErrors.IsOwn e) : e ∈ libraryErrors := by
  rcases h with rfl | rfl
  · show Exc.dbApiError ∈ libraryErrors
    decide
  · show Exc.pendingRollbackError ∈ libraryErrors
    decide

section Statements

variable {S W O α β : Type} [Writes S W] {K : Exc → Prop}

/-- From any session, `m` raises exceptions in `K` only. -/
abbrev Raising (K : Exc → Prop) (m : Sql S W O Exc α) : Prop :=
  Prog.Triple (fun _ => True) m (fun _ _ => True) fun e _ => K e

namespace Raising

omit [Writes S W] in
lemma pure (a : α) : Raising K (Pure.pure a : Sql S W O Exc α) :=
  Prog.Triple.pure fun _ _ => trivial

omit [Writes S W] in
lemma throw {e : Exc} (h : K e) : Raising K (MonadExcept.throw e : Sql S W O Exc α) :=
  Prog.Triple.throw fun _ _ => h

omit [Writes S W] in
lemma bind {m : Sql S W O Exc α} {f : α → Sql S W O Exc β} (hm : Raising K m)
    (hf : ∀ a, Raising K (f a)) : Raising K (m >>= f) :=
  Prog.Triple.bind hm hf

omit [Writes S W] in
lemma ofExcept {r : Except Exc α} (h : ∀ e, r = .error e → K e) :
    Raising K (Prog.ofExcept r : Sql S W O Exc α) := by
  cases r with
  | ok a => exact pure a
  | error e => exact throw (h e rfl)

omit [Writes S W] in
lemma rollingBack {m : Sql S W O Exc α} (hm : Raising K m) : Raising K (rollingBack m) :=
  Prog.Triple.tryCatch hm fun e => Prog.Triple.bind (Q := fun _ _ => K e) (fun _ h => h)
    fun _ => Prog.Triple.throw fun _ h => h

variable (hK : ∀ e ∈ libraryErrors, K e)

include hK

omit [Writes S W] in
/-- A statement raises what the session raises by itself. -/
lemma statement {m : Sql S W O Exc α}
    (h : ∀ s e s', m s = (.error e, s') → SessionErrors.IsOwn e) : Raising K m :=
  Prog.Triple.intro (fun _ _ _ _ _ => trivial) fun s e s' _ hs =>
    hK e (own_library (h s e s' hs))

lemma query (lost : Bool) (q : S → α) : Raising K (query lost q : Sql S W O Exc α) :=
  statement hK fun _ _ _ h => query_raises h

lemma write (lost : Bool) (w : W) : Raising K (write lost w : Sql S W O Exc Unit) :=
  statement hK fun _ _ _ h => write_raises h

lemma commit (lost : Bool) : Raising K (commit lost : Sql S W O Exc Unit) :=
  statement hK fun _ _ _ h => commit_raises h

end Raising

end Statements

/-! ## Repositories -/

lemma library_put (p : PutExt) (key : String) (data : Bytes) (contentType : String)
    (b : Bucket) : Library (EvidenceStorage.put p key data contentType b).1 := by
  have hobject : Library (EvidenceStorage.putObject p key data contentType b).1 := by
    unfold EvidenceStorage.putObject
    dsimp only
    split
    · exact Library.error.mpr (by decide)
    · exact Library.ok _
  unfold EvidenceStorage.put
  split
  · exact Library.error.mpr (by decide)
  · split
    · split
      · exact Library.ok _
      · exact hobject
    · exact hobject

section Repositories

variable (py : Interp) {O : Type} {K : Exc → Prop} (hK : ∀ e ∈ libraryErrors, K e)

include hK

lemma Raising.of_library {α : Type} {r : Except Exc α} (h : Library r) :
    Raising K (Prog.ofExcept r : Db O α) :=
  Raising.ofExcept fun e he => hK e (h e he)

lemma raising_commitIf (doCommit lost : Bool) : Raising K (commitIf doCommit lost : Db O Unit) := by
  have hcommit : Raising K (commit lost : Db O Unit) := Raising.commit hK lost
  cases doCommit
  · exact Raising.pure ()
  · exact hcommit

lemma raising_refreshIf (doCommit lost : Bool) :
    Raising K (refreshIf doCommit lost : Db O Unit) := by
  have hrefresh : Raising K (query lost fun _ => () : Db O Unit) := Raising.query hK lost _
  cases doCommit
  · exact Raising.pure ()
  · exact hrefresh

lemma raising_upsertVertex (x : Ext) (entity : Entity) :
    Raising K (upsertVertex py x entity : Db O Unit) := by
  have hencode : Raising K (do
      let _ ← Prog.ofExcept (encodeProps py.str (vertexProps py entity))
      write x.mirror (.cypher (vertexMerge py entity)) : Db O Unit) :=
    (Raising.of_library hK (library_encodeProps _ _)).bind fun _ => Raising.write hK _ _
  unfold upsertVertex
  dsimp only
  split
  · exact (Raising.throw (hK _ (by decide))).bind fun _ => hencode
  · exact hencode

lemma raising_upsertEdge (x : Ext) (rel : Relationship) :
    Raising K (upsertEdge py x rel : Db O Unit) := by
  have hencode : Raising K (do
      let _ ← Prog.ofExcept (encodeProps py.str (edgeProps py rel))
      write x.mirror (.cypher (edgeMerge py rel)) : Db O Unit) :=
    (Raising.of_library hK (library_encodeProps _ _)).bind fun _ => Raising.write hK _ _
  unfold upsertEdge
  dsimp only
  split
  · exact (Raising.throw (hK _ (by decide))).bind fun _ => hencode
  · exact hencode

lemma EntityRepository.raising_create (x : Ext) (caseId : UUID) (createdBy : Option UUID)
    (data : EntityCreate) (doCommit : Bool) :
    Raising K (create py x caseId createdBy data doCommit : Db O Entity) :=
  (Raising.write hK _ _).bind fun _ =>
    (Raising.rollingBack ((raising_upsertVertex py hK x _).bind fun _ =>
      raising_commitIf hK _ _)).bind fun _ =>
      (raising_refreshIf hK _ _).bind fun _ => Raising.pure _

lemma EntityRepository.raising_getOrCreate (x : Ext) (caseId : UUID) (createdBy : Option UUID)
    (data : EntityCreate) (doCommit : Bool) :
    Raising K (getOrCreate py x caseId createdBy data doCommit : Db O (Entity × Bool)) := by
  have hfind : Raising K (findByKey x caseId data : Db O (Option Entity)) :=
    (Raising.query hK _ _).bind fun rows =>
      Raising.of_library hK (library_scalarOneOrNone rows)
  refine hfind.bind fun existing => ?_
  cases existing with
  | none =>
    exact (raising_create py hK x caseId createdBy data doCommit).bind fun _ => Raising.pure _
  | some existing =>
    unfold getOrCreateFrom
    dsimp only
    split
    · exact (Raising.write hK _ _).bind fun _ =>
        (Raising.rollingBack ((raising_upsertVertex py hK x _).bind fun _ =>
          raising_commitIf hK _ _)).bind fun _ =>
          (raising_refreshIf hK _ _).bind fun _ => Raising.pure _
    · exact Raising.pure _

lemma RelationshipRepository.raising_createIfNotExists (x : Ext) (caseId : UUID)
    (createdBy : Option UUID) (data : RelationshipCreate) (doCommit : Bool)
    (hcase : K (Exc.endpointNotInCase caseId)) :
    Raising K (createIfNotExists py x caseId createdBy data doCommit :
      Db O (Relationship × Bool)) := by
  have hfind : Raising K (findByKey x caseId data : Db O (Option Relationship)) :=
    (Raising.query hK _ _).bind fun rows =>
      Raising.of_library hK (library_scalarOneOrNone rows)
  have hends : Raising K (assertEndpointsInCase x caseId data.srcEntityId data.dstEntityId :
      Db O Unit) := by
    refine (Raising.query hK _ _).bind fun rows => ?_
    split
    · exact Raising.throw hcase
    · exact Raising.pure _
  refine hfind.bind fun existing => ?_
  cases existing with
  | some existing => exact Raising.pure _
  | none =>
    refine Raising.bind ?_ fun _ => Raising.pure _
    exact hends.bind fun _ => (Raising.write hK _ _).bind fun _ =>
      (Raising.rollingBack ((raising_upsertEdge py hK x _).bind fun _ =>
        raising_commitIf hK _ _)).bind fun _ =>
        (raising_refreshIf hK _ _).bind fun _ => Raising.pure _

lemma EvidenceRepository.raising_create (x : Ext) (p : PutExt) (caseId : UUID)
    (createdBy : Option UUID) (data : EvidenceCreate) (payload : Bytes)
    (contentType : Option String) (doCommit : Bool) :
    Raising K (create x p caseId createdBy data payload contentType doCommit) := by
  have hput : ∀ key type, Raising K
      (external (EvidenceStorage.put p key payload type) : Db Bucket Unit) := by
    intro key type
    refine Prog.Triple.intro (fun _ _ _ _ _ => trivial) fun s e s' _ h => hK e ?_
    exact library_put p key payload type s.outside e (congrArg Prod.fst h)
  exact (Raising.write hK _ _).bind fun _ =>
    (Raising.rollingBack ((hput _ _).bind fun _ => raising_commitIf hK _ _)).bind fun _ =>
      (raising_refreshIf hK _ _).bind fun _ => Raising.pure _

end Repositories

/-! ## The runner -/

namespace PluginRunner

/-- The texts that `run` and its repositories give to exceptions. -/
def ownTexts (req : RunRequest) : List String :=
  ["unknown entity type: " ++ req.inputEntity.type,
    "plugin " ++ req.pluginName ++ " does not accept entity type " ++ req.inputEntity.type,
    "proposal references unknown entity ref",
    "relationship endpoint must have 'input' or 'ref' key",
    (Exc.endpointNotInCase req.caseId).text]

/-- No text, or one of `run`'s own. -/
def OwnText (req : RunRequest) (e : Exc) : Prop := e.text = "" ∨ e.text ∈ ownTexts req

variable (py : Interp) (x : RunExt) {req : RunRequest} {plugin : OSINTPlugin}

lemma ownText_of_library (req : RunRequest) : ∀ e ∈ libraryErrors, OwnText req e := by
  have htextless : ∀ e ∈ libraryErrors, e.text = "" := by decide
  exact fun e he => Or.inl (htextless e he)

lemma ownText_resolveRef (ref : PyDict) (inputEntity : Entity) (refs : Refs) (e : Exc)
    (h : resolveRef ref inputEntity refs = .error e) : OwnText req e := by
  unfold resolveRef at h
  split at h
  · cases h
  · split at h
    · split at h
      · split at h <;> cases h
        exact Or.inr (by simp [ownTexts, Exc.pluginExecutionError])
      · cases h
        exact Or.inl rfl
      · cases h
        exact Or.inl rfl
      · cases h
        exact Or.inr (by simp [ownTexts, Exc.pluginExecutionError])
    · cases h
      exact Or.inr (by simp [ownTexts, Exc.pluginExecutionError])

/-- What persisting raises is of a library, or from the resolution of references, or about the
endpoints of a relationship. -/
lemma raising_persistRows_of {K : Exc → Prop} (hK : ∀ e ∈ libraryErrors, K e)
    (href : ∀ ref inputEntity refs e, resolveRef ref inputEntity refs = .error e → K e)
    (hcase : K (Exc.endpointNotInCase req.caseId)) (result : QueryResult) :
    Raising K (persistRows py x req plugin result) := by
  have hentities : ∀ proposals i refs,
      Raising K (persistEntities py x req i proposals refs) := by
    intro proposals
    induction proposals with
    | nil => exact fun _ _ => Raising.pure _
    | cons ep proposals ih =>
      intro i refs
      exact (Raising.of_library hK (EntityCreate.library _ _ _ _)).bind fun _ =>
        (EntityRepository.raising_getOrCreate py hK _ _ _ _ _).bind fun _ =>
          (ih _ _).bind fun _ => Raising.pure _
  have hrelationships : ∀ refs proposals i,
      Raising K (persistRelationships py x req plugin refs i proposals) := by
    intro refs proposals
    induction proposals with
    | nil => exact fun _ => Raising.pure _
    | cons rp proposals ih =>
      intro i
      exact (Raising.ofExcept (href _ _ _)).bind fun _ =>
        (Raising.ofExcept (href _ _ _)).bind fun _ =>
          (Raising.of_library hK (RelationshipCreate.library _ _ _ _ _ _)).bind fun _ =>
            (RelationshipRepository.raising_createIfNotExists py hK _ _ _ _ _ hcase).bind
              fun _ => (ih _).bind fun _ => Raising.pure _
  have hevidence : ∀ proposals i,
      Raising K (persistEvidence x req plugin i proposals) := by
    intro proposals
    induction proposals with
    | nil => exact fun _ => Raising.pure _
    | cons evp proposals ih =>
      intro i
      exact (Raising.of_library hK (EvidenceCreate.library _ _ _ _)).bind fun _ =>
        (EvidenceRepository.raising_create hK _ _ _ _ _ _ _ _).bind fun _ =>
          (ih _).bind fun _ => Raising.pure _
  exact (hentities _ _ _).bind fun _ => (hrelationships _ _ _).bind fun _ =>
    (hevidence _ _).bind fun _ => Raising.pure _

/-- What persisting raises has an own text, or none. -/
lemma raising_persistRows (result : QueryResult) :
    Raising (OwnText req) (persistRows py x req plugin result) :=
  raising_persistRows_of py x (ownText_of_library req) ownText_resolveRef
    (Or.inr (by simp [ownTexts])) result

lemma raising_saveRun (lost : Bool) (loaded run : PluginRun) {K : Exc → Prop}
    (hK : ∀ e ∈ libraryErrors, K e) : Raising K (saveRun lost loaded run) :=
  (Raising.write hK _ _).bind fun _ => Raising.commit hK _

/-- What is raised before the `try`, for a plugin that needs no license. -/
lemma raising_start {existingRun : Option PluginRun}
    (hget : req.registry.get req.pluginName = .ok plugin) (hpremium : plugin.premium = false) :
    Raising (OwnText req) (start x req existingRun) := by
  have hK := ownText_of_library req
  have hname : plugin.name = req.pluginName := (PluginRegistry.get_eq_ok_iff.mp hget).2
  have htype : Raising (OwnText req)
      (Prog.ofExcept (checkInputType plugin req.inputEntity) : Db Bucket Unit) := by
    refine Raising.ofExcept fun e h => ?_
    unfold checkInputType at h
    split at h
    · cases h
      exact Or.inr (by simp [ownTexts, Exc.pluginTypeError])
    · split at h <;> cases h
      exact Or.inr (by simp [ownTexts, Exc.pluginTypeError, hname])
  have haudit : Raising (OwnText req) (auditRow x req plugin existingRun) := by
    cases existingRun with
    | none =>
      exact (Raising.write hK _ _).bind fun _ => (Raising.commit hK _).bind fun _ =>
        (Raising.query hK _ _).bind fun _ => Raising.pure _
    | some run =>
      unfold auditRow
      dsimp only
      split
      · exact (raising_saveRun _ _ _ hK).bind fun _ => Raising.pure _
      · exact Raising.pure _
  have hallowed : assertPluginAllowed req.enterprise plugin.premium = .ok () := by
    rw [hpremium]
    rfl
  unfold start
  rw [hget]
  show Raising _ (Prog.ofExcept (assertPluginAllowed req.enterprise plugin.premium) >>= _)
  rw [hallowed]
  exact (Raising.pure ()).bind fun _ => htype.bind fun _ => haudit.bind fun _ => Raising.pure _

end PluginRunner

end Sleuthgraph
