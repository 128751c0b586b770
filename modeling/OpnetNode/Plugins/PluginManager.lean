import OpnetNode.Plugins.PluginRegistry
import OpnetNode.Proc

/-!
# The plugin manager

The operations of the plugin manager over the registry.  What lies outside (the plugin files, the
validator, the workers) answers through a `PluginHost`, by the number of the question: each parse
and each request to a worker is one question.  While the answer of a worker is awaited, plugins may
crash.

`moments`, `events` and `unloads` record a run: every registry there has been, what the outside did
during an operation, and the registry each unloading began in.  No operation reads them.
-/

namespace OpnetNode

/-- An error of the plugin loader: its own, or any other, by its text. -/
inductive PluginLoadError
  | load (message : String)
  | other (text : String)
  deriving DecidableEq

namespace PluginLoadError

/-- The message of the error `registerPlugin` throws. -/
def message : PluginLoadError → String
  | load message => message
  | other text => s!"Parse error: {text}"

def text : PluginLoadError → String
  | load message => s!"PluginLoadError: {message}"
  | other text => text

end PluginLoadError

/-- What the plugin manager asks of the outside. -/
structure PluginHost where
  /-- The default of `autoEnable` is applied. -/
  autoEnable : Bool
  discoverPlugins : Nat → List String
  parsePluginFile : Nat → String → Except PluginLoadError ParsedPluginFile
  /-- The messages of the validator's errors. -/
  validate : ParsedPluginFile → List String
  satisfies : String → String → Bool
  /-- The answer of a worker, or of the handlers that are told with it. -/
  answer : Nat → Except String Unit
  /-- The plugins that crash before a worker's answer. -/
  crashes : Nat → List String

/-- What the outside does during an operation. -/
inductive HostEvent
  | crashed (pluginId : String)
  /-- A plugin file is there to be registered. -/
  | registered (plugin : RegisteredPlugin)
  deriving DecidableEq

/-- The state of the manager, with the record of the run. -/
structure PluginManager where
  registry : PluginRegistry
  /-- The number of questions asked. -/
  clock : Nat
  moments : List PluginRegistry
  /-- The events of the operation, each with the registry before it. -/
  events : List (HostEvent × PluginRegistry)
  unloads : List (String × PluginRegistry)
  deriving DecidableEq

namespace PluginManager

/-- A manager that has not discovered any plugin yet. -/
def initial : PluginManager :=
  { registry := .empty, clock := 0, moments := [.empty], events := [], unloads := [] }

abbrev ManagerM (α : Type) := Proc PluginManager String α

open Proc

/-! ### Steps -/

def write (r : PluginRegistry) : ManagerM Unit :=
  modify fun m => { m with registry := r, moments := r :: m.moments }

def record (event : HostEvent) : ManagerM Unit :=
  modify fun m => { m with events := (event, m.registry) :: m.events }

/-- Return a value, or throw. -/
def liftExcept {α : Type} : Except String α → ManagerM α
  | .ok a => pure a
  | .error e => throw e

/-- Ask a question: its number. -/
def ask : ManagerM Nat := fun m => (.ok m.clock, { m with clock := m.clock + 1 })

def setState (pluginId : String) (newState : PluginState) : ManagerM Unit := do
  let m ← get
  let r ← liftExcept (m.registry.setState pluginId newState)
  write r

def getPlugin (pluginId : String) : ManagerM RegisteredPlugin := do
  let m ← get
  match m.registry.get pluginId with
  | none => throw s!"Plugin not found: {pluginId}"
  | some plugin => pure plugin

def isInState (pluginId : String) (state : PluginState) : ManagerM Bool := do
  let m ← get
  return (m.registry.get pluginId).map RegisteredPlugin.state = some state

/-- Run a procedure if a condition holds. -/
def runIf (condition : Bool) (p : ManagerM Unit) : ManagerM Unit := if condition then p else pure ()

/-- Run a procedure, and go on if it throws. -/
def ignoreErrors (p : ManagerM Unit) : ManagerM Unit := tryCatch p fun _ => pure ()

def handlePluginCrash (pluginId : String) : ManagerM Unit := do
  let m ← get
  match m.registry.get pluginId with
  | none => pure ()
  | some _ => do
    record (.crashed pluginId)
    setState pluginId .crashed

variable (host : PluginHost)

/-- Wait for the answer of a worker.  An error of the crash handler goes to the worker's events. -/
def awaitWorker : ManagerM Unit := do
  let question ← ask
  forEach (fun pluginId => ignoreErrors (handlePluginCrash pluginId)) (host.crashes question)
  liftExcept (host.answer question)

def parsePluginFile (filePath : String) : ManagerM (Except PluginLoadError ParsedPluginFile) := do
  let question ← ask
  return host.parsePluginFile question filePath

/-! ### Operations on one plugin -/

def registerPlugin (filePath : String) : ManagerM RegisteredPlugin := do
  let parsed ← parsePluginFile host filePath
  let parsedFile ← liftExcept (parsed.mapError PluginLoadError.message)
  let m ← get
  let registered ← liftExcept (m.registry.register filePath parsedFile)
  record (.registered registered.1)
  write registered.2
  let errors := host.validate parsedFile
  if errors ≠ [] then do
    setState registered.1.id .error
    throw ("; ".intercalate errors)
  else do
    setState registered.1.id .validated
    return registered.1

def loadPlugin (pluginId : String) : ManagerM Unit := do
  let plugin ← getPlugin pluginId
  let state := plugin.state.text
  throwIf (plugin.state ≠ .validated ∧ plugin.state ≠ .discovered)
    s!"Plugin {pluginId} cannot be loaded from state {state}"
  let m ← get
  throwIf (m.registry.areDependenciesReady pluginId = false)
    s!"Dependencies not ready for plugin {pluginId}"
  setState pluginId .loading
  tryCatch
    (do
      awaitWorker host
      setState pluginId .loaded)
    (fun error => do
      setState pluginId .error
      throw error)

/-- Check that no recorded dependent is enabled, and begin to unload. -/
def beginUnload (pluginId : String) : ManagerM Unit := do
  let _ ← getPlugin pluginId
  let m ← get
  let enabledDependents := (m.registry.getDependents pluginId).filter (·.state = .enabled)
  let ids := ", ".intercalate (enabledDependents.map RegisteredPlugin.id)
  throwIf (enabledDependents ≠ [])
    s!"Cannot unload {pluginId}: dependents still enabled: {ids}"
  setState pluginId .unloading
  modify fun m' => { m' with unloads := (pluginId, m.registry) :: m'.unloads }

/-- Take a plugin out of the registry. -/
def unregister (pluginId : String) : ManagerM Unit := do
  let m ← get
  write (m.registry.unregister pluginId)

def unloadPlugin (pluginId : String) : ManagerM Unit := do
  beginUnload pluginId
  tryCatch
    (do
      awaitWorker host
      unregister pluginId)
    (fun error => do
      -- Even on error, mark as unloaded.
      unregister pluginId
      throw error)

def enablePlugin (pluginId : String) : ManagerM Unit := do
  let plugin ← getPlugin pluginId
  let state := plugin.state.text
  throwIf (plugin.state ≠ .loaded ∧ plugin.state ≠ .disabled ∧ plugin.state ≠ .crashed)
    s!"Plugin {pluginId} cannot be enabled from state {state}"
  tryCatch
    (do
      awaitWorker host
      setState pluginId .enabled)
    (fun error => do
      setState pluginId .error
      throw error)

def disablePlugin (pluginId : String) : ManagerM Unit := do
  let plugin ← getPlugin pluginId
  throwIf (plugin.state ≠ .enabled) s!"Plugin {pluginId} is not enabled"
  awaitWorker host
  setState pluginId .disabled

/-! ### Operations on several plugins -/

/-- Enable a plugin after it is loaded, if it is to be. -/
def autoEnablePlugin (plugin : RegisteredPlugin) : ManagerM Unit :=
  runIf (host.autoEnable && plugin.metadata.enabledByDefault ≠ some false)
    (enablePlugin host plugin.id)

def loadNewPlugin (filePath : String) : ManagerM Unit := do
  let plugin ← registerPlugin host filePath
  loadPlugin host plugin.id
  autoEnablePlugin host plugin

/-- Disable a plugin if it is enabled, and then unload it if it is loaded or disabled. -/
def disableAndUnload (pluginId : String) : ManagerM Unit := do
  let isEnabled ← isInState pluginId .enabled
  runIf isEnabled (disablePlugin host pluginId)
  let isLoaded ← isInState pluginId .loaded
  let isDisabled ← isInState pluginId .disabled
  runIf (isLoaded || isDisabled) (unloadPlugin host pluginId)

/-- Register and load a plugin again, and enable it if it was. -/
def restorePlugin (filePath pluginId : String) (enabled : Bool) : ManagerM Unit := do
  let _ ← registerPlugin host filePath
  loadPlugin host pluginId
  runIf enabled (enablePlugin host pluginId)

def validateNewVersion (filePath : String) : ManagerM Unit := do
  let parsed ← parsePluginFile host filePath
  match parsed with
  | .error error => do
    let text := error.text
    throw s!"Reload aborted: validation failed - {text}"
  | .ok newParsedFile => do
    let errors := host.validate newParsedFile
    let message := "; ".intercalate errors
    throwIf (errors ≠ [])
      s!"Reload aborted: validation failed - PluginValidationError: {message}"

/-- Reload a plugin (unload and re-load). -/
def reloadPlugin (pluginId : String) : ManagerM Unit := do
  let plugin ← getPlugin pluginId
  let wasEnabled := decide (plugin.state = .enabled)
  validateNewVersion host plugin.filePath
  let m ← get
  let dependents := m.registry.getDependents pluginId
  forEach (fun dep => disableAndUnload host dep.id) dependents.reverse
  runIf wasEnabled (disablePlugin host pluginId)
  unloadPlugin host pluginId
  restorePlugin host plugin.filePath pluginId wasEnabled
  forEach
    (fun dep => ignoreErrors (restorePlugin host dep.filePath dep.id (dep.state = .enabled)))
    dependents

def handlePluginRemoved (pluginId : String) : ManagerM Unit := do
  let m ← get
  match m.registry.get pluginId with
  | none => pure ()
  | some _ => do
    forEach (fun dep => disableAndUnload host dep.id) (m.registry.getDependents pluginId).reverse
    disableAndUnload host pluginId

def loadDiscovered (plugin : RegisteredPlugin) : ManagerM Unit := do
  loadPlugin host plugin.id
  autoEnablePlugin host plugin

def discoverAndLoadPlugins : ManagerM Unit := do
  let question ← ask
  let pluginFiles := host.discoverPlugins question
  if pluginFiles = [] then pure ()
  else do
    forEach (fun filePath => ignoreErrors (do let _ ← registerPlugin host filePath; pure ()))
      pluginFiles
    let m ← get
    let r := m.registry.buildDependencyGraph
    write r
    let loadOrder ← liftExcept (r.loadOrder host.satisfies)
    forEach (fun plugin => ignoreErrors (loadDiscovered host plugin)) loadOrder

/-! ### Runs -/

/-- An operation of the manager, as its users, the file watcher and the workers call it. -/
inductive Operation
  | discoverAndLoadPlugins
  | registerPlugin (filePath : String)
  | loadPlugin (pluginId : String)
  | loadNewPlugin (filePath : String)
  | enablePlugin (pluginId : String)
  | disablePlugin (pluginId : String)
  | unloadPlugin (pluginId : String)
  | reloadPlugin (pluginId : String)
  | handlePluginRemoved (pluginId : String)
  | handlePluginCrash (pluginId : String)
  deriving DecidableEq

def Operation.procedure : Operation → ManagerM Unit
  | .discoverAndLoadPlugins => PluginManager.discoverAndLoadPlugins host
  | .registerPlugin filePath => do
    let _ ← PluginManager.registerPlugin host filePath
    pure ()
  | .loadPlugin pluginId => PluginManager.loadPlugin host pluginId
  | .loadNewPlugin filePath => PluginManager.loadNewPlugin host filePath
  | .enablePlugin pluginId => PluginManager.enablePlugin host pluginId
  | .disablePlugin pluginId => PluginManager.disablePlugin host pluginId
  | .unloadPlugin pluginId => PluginManager.unloadPlugin host pluginId
  | .reloadPlugin pluginId => PluginManager.reloadPlugin host pluginId
  | .handlePluginRemoved pluginId => PluginManager.handlePluginRemoved host pluginId
  | .handlePluginCrash pluginId => PluginManager.handlePluginCrash pluginId

/-- Run one operation.  The record of events starts anew. -/
def runOperation (m : PluginManager) (operation : Operation) : PluginManager :=
  (operation.procedure host { m with events := [] }).2

/-- Run operations one after the other. -/
def run (m : PluginManager) (operations : List Operation) : PluginManager :=
  operations.foldl (runOperation host) m

end PluginManager

end OpnetNode
