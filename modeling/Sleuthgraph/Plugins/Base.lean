import Sleuthgraph.Evidence.Repository

/-!
# Plugins (`plugins/base.py`, `plugins/registry.py`, `licensing.py`)

A plugin consumes one entity and answers with proposals: entities, relationships between them
and the input, and evidence. The checks pydantic makes of a proposal's fields are made again by
the create schemas, so a proposal is any tuple of fields here.
-/

namespace Sleuthgraph

/-! ## Proposals -/

structure EntityProposal where
  ref : String
  type : EntityType
  label : String
  attrs : PyDict
  confidence : ℚ

/-- Each endpoint is `{"ref": ...}` or `{"input": True}`. -/
structure RelationshipProposal where
  src : PyDict
  dst : PyDict
  relType : RelationshipType
  confidence : ℚ
  attrs : PyDict

structure EvidenceProposal where
  query : String
  payload : Bytes
  contentType : Option String
  reproducibilitySpec : PyDict
  linkToInput : Bool

/-- What a plugin returns from `query`. -/
structure QueryResult where
  entities : List EntityProposal
  relationships : List RelationshipProposal
  evidence : List EvidenceProposal

/-- The number of proposals. -/
def QueryResult.total (result : QueryResult) : ℕ :=
  result.entities.length + result.relationships.length + result.evidence.length

/-! ## Plugins -/

inductive DispatchMode where
  | sync | async
deriving DecidableEq, Repr

/-- A plugin: its class attributes, and what its `query` answers or raises for an entity and
credentials. -/
structure OSINTPlugin where
  name : String
  version : String
  entityTypesAccepted : List EntityType
  requiresCredentials : Bool
  dispatchMode : DispatchMode
  premium : Bool
  query : Entity → Option PyDict → Except Exc QueryResult

/-- `full_name` -/
def OSINTPlugin.fullName (plugin : OSINTPlugin) : String := plugin.name ++ "@" ++ plugin.version

/-- `PluginNotFoundError` -/
def Exc.pluginNotFound (name : String) : Exc :=
  { mro := ["PluginNotFoundError", "KeyError", "LookupError", "Exception"], text := name }

/-- The plugins by name. -/
structure PluginRegistry where
  plugins : List OSINTPlugin
  names_nodup : (plugins.map OSINTPlugin.name).Nodup
  names_nonempty : ∀ plugin ∈ plugins, plugin.name ≠ ""

lemma names_nodup_one (plugin : OSINTPlugin) : ([plugin].map OSINTPlugin.name).Nodup :=
  List.nodup_singleton _

lemma names_nonempty_one {plugin : OSINTPlugin} (hname : plugin.name ≠ "") :
    ∀ p ∈ [plugin], p.name ≠ "" := by
  simpa using hname

namespace PluginRegistry

def empty : PluginRegistry := ⟨[], List.nodup_nil, fun _ h => (nomatch h)⟩

/-- `PluginRegistry.register` -/
def register (registry : PluginRegistry) (plugin : OSINTPlugin) : Except Exc PluginRegistry :=
  if hname : plugin.name = "" then .error Exc.valueError
  else if hnew : plugin.name ∈ registry.plugins.map OSINTPlugin.name then .error Exc.valueError
  else .ok
    { plugins := plugin :: registry.plugins
      names_nodup := List.nodup_cons.mpr ⟨hnew, registry.names_nodup⟩
      names_nonempty := fun p hp => by
        rcases List.mem_cons.mp hp with rfl | hp
        · exact hname
        · exact registry.names_nonempty p hp }

/-- `PluginRegistry.get` -/
def get (registry : PluginRegistry) (name : String) : Except Exc OSINTPlugin :=
  match registry.plugins.find? fun plugin => plugin.name = name with
  | some plugin => .ok plugin
  | none => .error (Exc.pluginNotFound name)

/-- A name leads to one plugin, the one of that name. -/
lemma get_eq_ok_iff {registry : PluginRegistry} {name : String} {plugin : OSINTPlugin} :
    registry.get name = .ok plugin ↔ plugin ∈ registry.plugins ∧ plugin.name = name := by
  unfold get
  constructor
  · intro h
    split at h
    · rename_i found hfound
      cases h
      exact ⟨List.mem_of_find?_eq_some hfound, by simpa using List.find?_some hfound⟩
    · cases h
  · intro ⟨hmem, hname⟩
    split
    · rename_i found hfound
      have hsame : found.name = plugin.name := by
        rw [hname]
        simpa using List.find?_some hfound
      rw [List.inj_on_of_nodup_map registry.names_nodup (List.mem_of_find?_eq_some hfound) hmem
        hsame]
    · rename_i hnone
      have := List.find?_eq_none.mp hnone plugin hmem
      simp [hname] at this

end PluginRegistry

/-! ## Editions -/

/-- `FeatureUnavailable` -/
def Exc.featureUnavailable : Exc := { mro := ["FeatureUnavailable", "RuntimeError", "Exception"] }

/-- `assert_plugin_allowed`, where `enterprise` is what the edition provider answers. -/
def assertPluginAllowed (enterprise : Bool) (premium : Bool) : Except Exc Unit :=
  if premium && !enterprise then .error Exc.featureUnavailable else .ok ()

end Sleuthgraph
