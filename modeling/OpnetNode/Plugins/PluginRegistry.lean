import Mathlib.Data.List.Sort
import OpnetNode.JsMap

/-!
# The plugin registry

A `PluginRegistry` holds the registered plugins by their name.  What a plugin depends on is said
twice: by its metadata (`RegisteredPlugin.declared`), and by the sets `dependencies` and
`dependents`, which are empty when a plugin is registered and which only `buildDependencyGraph`
fills.  The checks before a plugin is loaded or unloaded (`areDependenciesReady`, `getDependents`)
read the sets.
-/

namespace OpnetNode

/-- The states in the life of a plugin. -/
inductive PluginState
  | discovered
  | validated
  | loading
  | loaded
  | syncing
  | enabled
  | disabled
  | crashed
  | error
  | unloading
  deriving DecidableEq

namespace PluginState

def text : PluginState → String
  | discovered => "discovered"
  | validated => "validated"
  | loading => "loading"
  | loaded => "loaded"
  | syncing => "syncing"
  | enabled => "enabled"
  | disabled => "disabled"
  | crashed => "crashed"
  | error => "error"
  | unloading => "unloading"

def validStateTransitions : PluginState → List PluginState
  | discovered => [validated, error]
  | validated => [loading, error]
  | loading => [loaded, error]
  | loaded => [syncing, enabled, disabled, unloading]
  | syncing => [enabled, error, crashed]
  | enabled => [disabled, crashed, unloading]
  | disabled => [enabled, syncing, unloading]
  | crashed => [enabled, syncing, unloading]
  | error => [discovered]
  | unloading => [discovered]

def isValidStateTransition (old new : PluginState) : Bool := new ∈ validStateTransitions old

end PluginState

/-- What the metadata of a plugin says.  `dependencies` gives a version range for each name. -/
structure PluginMetadata where
  name : String
  version : String
  dependencies : List (String × String)
  loadPriority : Option Int
  enabledByDefault : Option Bool
  deriving DecidableEq

structure ParsedPluginFile where
  metadata : PluginMetadata
  bytecode : List UInt8
  deriving DecidableEq

/-- Add an element to a set that iterates in insertion order. -/
def addToSet (s : List String) (a : String) : List String := if a ∈ s then s else s ++ [a]

theorem mem_addToSet {s : List String} {a b : String} : b ∈ addToSet s a ↔ b ∈ s ∨ b = a := by
  unfold addToSet
  by_cases h : a ∈ s
  · rw [if_pos h]
    exact ⟨Or.inl, fun hb => hb.elim id fun heq => heq ▸ h⟩
  · rw [if_neg h, List.mem_append, List.mem_singleton]

theorem nodup_addToSet {l : List String} (h : l.Nodup) (a : String) : (addToSet l a).Nodup := by
  unfold addToSet
  split_ifs with ha
  · exact h
  · exact List.nodup_append.mpr ⟨h, List.nodup_singleton a, fun x hx y hy hxy => by
      rw [List.mem_singleton.mp hy] at hxy
      exact ha (hxy ▸ hx)⟩

/-- A set of texts, in the order they were added. -/
structure StringSet where
  items : List String
  nodup : items.Nodup
  deriving DecidableEq

namespace StringSet

def empty : StringSet := ⟨[], List.nodup_nil⟩

def add (s : StringSet) (a : String) : StringSet := ⟨addToSet s.items a, nodup_addToSet s.nodup a⟩

def delete (s : StringSet) (a : String) : StringSet := ⟨s.items.erase a, s.nodup.erase a⟩

end StringSet

/-- A registered plugin, with the plugins recorded to depend on it and those it depends on. -/
structure RegisteredPlugin where
  id : String
  filePath : String
  file : ParsedPluginFile
  state : PluginState
  dependents : StringSet
  dependencies : List String
  deriving DecidableEq

namespace RegisteredPlugin

def metadata (plugin : RegisteredPlugin) : PluginMetadata := plugin.file.metadata

/-- The names a plugin declares as dependencies. -/
def declared (plugin : RegisteredPlugin) : List String :=
  plugin.metadata.dependencies.map Prod.fst

end RegisteredPlugin

/-- The registered plugins, each under its own name. -/
structure PluginRegistry where
  plugins : JsMap String RegisteredPlugin
  id_eq : ∀ k plugin, plugins.get k = some plugin → plugin.id = k
  deriving DecidableEq

namespace PluginRegistry

def empty : PluginRegistry := ⟨JsMap.empty, by simp⟩

instance : Inhabited PluginRegistry := ⟨empty⟩

def get (r : PluginRegistry) (id : String) : Option RegisteredPlugin := r.plugins.get id

/-- Write a plugin under its name. -/
def put (r : PluginRegistry) (plugin : RegisteredPlugin) : PluginRegistry where
  plugins := r.plugins.set plugin.id plugin
  id_eq := by
    intro k p hget
    rw [JsMap.get_set] at hget
    split_ifs at hget with hk
    · rw [← Option.some.inj hget, hk]
    · exact r.id_eq k p hget

theorem get_put (r : PluginRegistry) (plugin : RegisteredPlugin) (id : String) :
    (r.put plugin).get id = if id = plugin.id then some plugin else r.get id :=
  JsMap.get_set r.plugins plugin.id id plugin

theorem id_of_get {r : PluginRegistry} {id : String} {plugin : RegisteredPlugin}
    (h : r.get id = some plugin) : plugin.id = id := r.id_eq id plugin h

/-- Take a plugin out. -/
def delete (r : PluginRegistry) (id : String) : PluginRegistry where
  plugins := r.plugins.erase id
  id_eq := by
    intro k p hget
    rw [JsMap.get_erase] at hget
    split_ifs at hget
    exact r.id_eq k p hget

theorem get_delete (r : PluginRegistry) (id id' : String) :
    (r.delete id).get id' = if id' = id then none else r.get id' :=
  JsMap.get_erase r.plugins id id'

def updateSets (r : PluginRegistry) (id : String) (dependents : StringSet → StringSet)
    (dependencies : List String → List String) : PluginRegistry :=
  match r.get id with
  | none => r
  | some plugin =>
    r.put { plugin with
      dependents := dependents plugin.dependents
      dependencies := dependencies plugin.dependencies }

/-! ### Registering -/

/-- Register a plugin.  Its sets are empty. -/
def register (r : PluginRegistry) (filePath : String) (file : ParsedPluginFile) :
    Except String (RegisteredPlugin × PluginRegistry) :=
  let id := file.metadata.name
  if (r.get id).isSome then .error s!"Plugin already registered: {id}"
  else
    let plugin : RegisteredPlugin :=
      { id, filePath, file, state := .discovered, dependents := .empty, dependencies := [] }
    .ok (plugin, r.put plugin)

/-- Unregister a plugin, and remove it from the dependents of the plugins it is recorded to depend
on. -/
def unregister (r : PluginRegistry) (id : String) : PluginRegistry :=
  match r.get id with
  | none => r
  | some plugin =>
    (plugin.dependencies.foldl (fun r depId => r.updateSets depId (·.delete id) (fun s => s)) r).delete
      id

def setState (r : PluginRegistry) (id : String) (newState : PluginState) :
    Except String PluginRegistry :=
  match r.get id with
  | none => .error s!"Plugin not found: {id}"
  | some plugin =>
    let old := plugin.state.text
    let new := newState.text
    if plugin.state.isValidStateTransition newState = false then
      .error s!"Invalid state transition for {id}: {old} -> {new}"
    else .ok (r.put { plugin with state := newState })

/-! ### Dependencies -/

/-- The registered plugins among the recorded dependents of a plugin. -/
def getDependents (r : PluginRegistry) (id : String) : List RegisteredPlugin :=
  match r.get id with
  | none => []
  | some plugin => plugin.dependents.items.filterMap r.get

/-- Whether all recorded dependencies of a plugin are enabled. -/
def areDependenciesReady (r : PluginRegistry) (id : String) : Bool :=
  match r.get id with
  | none => false
  | some plugin => plugin.dependencies.all fun depId =>
      match r.get depId with
      | none => false
      | some dep => dep.state = .enabled

def clearSets (r : PluginRegistry) : PluginRegistry where
  plugins := r.plugins.mapVals fun plugin => { plugin with dependencies := [], dependents := .empty }
  id_eq := by
    intro k p hget
    rw [JsMap.get_mapVals] at hget
    obtain ⟨p', hget', rfl⟩ := Option.map_eq_some_iff.mp hget
    exact r.id_eq k p' hget'

/-- Record one declared dependency, if the plugin it names is registered. -/
def addDependency (id : String) (r : PluginRegistry) (depName : String) : PluginRegistry :=
  match r.get depName with
  | none => r
  | some _ =>
    (r.updateSets id (fun s => s) (addToSet · depName)).updateSets depName (·.add id)
      (fun s => s)

def addDependencies (r : PluginRegistry) (plugin : RegisteredPlugin) : PluginRegistry :=
  plugin.declared.foldl (addDependency plugin.id) r

def buildDependencyGraph (r : PluginRegistry) : PluginRegistry :=
  r.clearSets.plugins.vals.foldl addDependencies r.clearSets

/-- Search below a plugin for a cycle.  `path` holds the plugins whose search is running, which are
those of the recursion stack; the plugins visited so far are returned.  The plugins of a path are
distinct, so that `fuel` is enough if it is above their number. -/
def detectCyclesFrom (r : PluginRegistry) :
    Nat → List String → String → List String → Except String (List String)
  | 0, _, _, visited => .ok visited
  | fuel + 1, path, id, visited =>
    let path := path ++ [id]
    let dependencies := match r.get id with
      | none => []
      | some plugin => plugin.dependencies
    dependencies.foldlM
      (fun visited depId =>
        if depId ∉ visited then detectCyclesFrom r fuel path depId visited
        else if depId ∈ path then
          let cycle := " -> ".intercalate (path.drop (path.idxOf depId) ++ [depId])
          .error s!"Circular dependency detected: {cycle}"
        else .ok visited)
      (addToSet visited id)

def detectCycles (r : PluginRegistry) : Except String (List String) :=
  (r.plugins.entries.map Prod.fst).foldlM
    (fun visited id =>
      if id ∉ visited then r.detectCyclesFrom (r.plugins.size + 1) [] id visited else .ok visited)
    []

/-- Check one declared dependency: it is registered, in a version of the range. -/
def validateDependency (satisfies : String → String → Bool) (r : PluginRegistry)
    (dep : String × String) : Except String Unit :=
  match r.get dep.1 with
  | none =>
    let depName := dep.1
    .error s!"Missing dependency: {depName}"
  | some plugin =>
    if satisfies plugin.metadata.version dep.2 = false then
      let depName := dep.1
      let versionRange := dep.2
      let version := plugin.metadata.version
      .error s!"Version mismatch for {depName}: requires {versionRange}, found {version}"
    else .ok ()

/-- Validate all dependencies exist and versions are compatible. -/
def validateDependencies (satisfies : String → String → Bool) (r : PluginRegistry) :
    Except String Unit :=
  r.plugins.vals.forM fun plugin =>
    plugin.metadata.dependencies.forM (r.validateDependency satisfies)

/-- Append a plugin to the order, after the plugins it depends on.  `temp` holds the plugins being
visited. -/
def visit (r : PluginRegistry) :
    Nat → List String → List RegisteredPlugin → String → List RegisteredPlugin
  | 0, _, result, _ => result
  | fuel + 1, temp, result, id =>
    if id ∈ result.map RegisteredPlugin.id then result
    else if id ∈ temp then result
    else
      match r.get id with
      | none => result
      | some plugin =>
        plugin.dependencies.foldl (fun result depId => visit r fuel (id :: temp) result depId) result
          ++ [plugin]

/-- The load priority of a registered plugin, 100 where its metadata does not say. -/
def loadPriority (r : PluginRegistry) (id : String) : Int :=
  ((r.get id).bind fun plugin => plugin.metadata.loadPriority).getD 100

/-- The plugins in dependency order. -/
def topologicalSort (r : PluginRegistry) : List RegisteredPlugin :=
  let sortedIds := (r.plugins.entries.map Prod.fst).insertionSort fun a b =>
    r.loadPriority a ≤ r.loadPriority b
  sortedIds.foldl (r.visit (r.plugins.size + 1) []) []

/-- The load order of the plugins of a registry whose graph is built. -/
def loadOrder (satisfies : String → String → Bool) (r : PluginRegistry) :
    Except String (List RegisteredPlugin) := do
  let _ ← r.detectCycles
  r.validateDependencies satisfies
  return r.topologicalSort

/-- Resolve dependencies and return load order, and the registry with its graph. -/
def resolveDependencies (satisfies : String → String → Bool) (r : PluginRegistry) :
    Except String (List RegisteredPlugin) × PluginRegistry :=
  (r.buildDependencyGraph.loadOrder satisfies, r.buildDependencyGraph)

/-- Get the reverse unload order (dependents before dependencies). -/
def getUnloadOrder (satisfies : String → String → Bool) (r : PluginRegistry) :
    Except String (List RegisteredPlugin) × PluginRegistry :=
  Prod.map (Except.map List.reverse) id (r.resolveDependencies satisfies)

end PluginRegistry

end OpnetNode
