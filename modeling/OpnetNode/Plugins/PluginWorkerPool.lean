import OpnetNode.Plugins.PluginRegistry
import OpnetNode.Proc

/-!
# The plugin manager and its worker pool

The life cycle of plugins, event by event.  An event is a call of an operation, the answer of a
worker to a request, a message or a failure of a worker, or a part of the shutdown.  An operation
runs up to the request it sends; what follows runs when the request is settled.  So calls on the
same plugin may overlap, and plugins and workers may crash while a request is open.

The operations on several plugins (discovering, reloading, removing, shutting down) are sequences of
these calls.  What lies outside (the plugin files, the validator, the workers, the registries of
handlers) is part of the events.

Three tables are kept: the states in the registry, the worker each plugin is mapped to, and the
plugins each worker knows.  `transitions` and `enableFailures` record a run: the state transitions
requested, and how enabling failed.  No operation reads them, nor the mark `gone` of a worker whose
thread has ended.
-/

namespace OpnetNode

/-- An error kept with a plugin. -/
structure IPluginError where
  code : String
  message : String
  deriving DecidableEq

/-- The requests whose answers the manager waits for. -/
inductive WorkerMessageType
  | LOAD_PLUGIN
  | UNLOAD_PLUGIN
  | ENABLE_PLUGIN
  | DISABLE_PLUGIN
  deriving DecidableEq

/-- A request to a worker, with the error it is rejected with if the worker has crashed. -/
structure IPendingRequest where
  requestId : ℕ
  workerId : ℕ
  type : WorkerMessageType
  pluginId : String
  rejected : Option String
  deriving DecidableEq

/-- A worker, with the plugins that were loaded into it. -/
structure IWorkerInfo where
  plugins : List String
  ready : Bool
  gone : Bool
  deriving DecidableEq

/-- How a call that should enable a plugin failed: the error that made it fail, the error it
reported, and the plugin's state and error after it. -/
structure EnableFailure where
  pluginId : String
  original : String
  reported : String
  state : Option PluginState
  error : Option IPluginError
  deriving DecidableEq

/-- A requested state transition. -/
structure Transition where
  pluginId : String
  previousState : PluginState
  newState : PluginState
  deriving DecidableEq

/-- The state of the manager and the pool. -/
structure PluginSystem where
  registry : PluginRegistry
  errors : JsMap String IPluginError
  /-- The workers created, in the pool or not. -/
  workerInfos : JsMap ℕ IWorkerInfo
  workers : List ℕ
  pluginWorkerMap : JsMap String ℕ
  nextWorkerId : ℕ
  isShuttingDown : Bool
  requests : List IPendingRequest
  nextRequestId : ℕ
  transitions : List Transition
  enableFailures : List EnableFailure
  deriving DecidableEq

/-- How a request is settled by its worker: a response, or a rejection such as a timeout. -/
inductive Answer
  | response (success : Bool) (error : Option String)
  | rejection (error : String)
  deriving DecidableEq

/-- What comes back of a request: an error if it is rejected or the response is no success. -/
def Answer.check (answer : Answer) (default : String) : Except String Unit :=
  match answer with
  | .response true _ => .ok ()
  | .response false error =>
    .error (match error with
      | none => default
      | some message => if message = "" then default else message)
  | .rejection error => .error error

/-- How a request is settled: a worker that has crashed has rejected it. -/
def IPendingRequest.settled (request : IPendingRequest) (answer : Answer) : Answer :=
  match request.rejected with
  | some error => .rejection error
  | none => answer

namespace PluginSystem

abbrev SystemM (α : Type) := Proc PluginSystem String α

open Proc

/-- Return a value, or throw. -/
def liftExcept {α : Type} : Except String α → SystemM α
  | .ok a => pure a
  | .error e => throw e

def stateOf (s : PluginSystem) (pluginId : String) : Option PluginState :=
  (s.registry.get pluginId).map RegisteredPlugin.state

/-! ### The registry -/

def requested (s : PluginSystem) (transition : Transition) : PluginSystem :=
  { s with transitions := transition :: s.transitions }

/-- A plugin has a new state, and the error that came with it, or none. -/
def withState (s : PluginSystem) (registry : PluginRegistry) (pluginId : String)
    (error : Option IPluginError) : PluginSystem :=
  { s with
    registry
    errors := match error with
      | some error => s.errors.set pluginId error
      | none => s.errors.erase pluginId }

def setState (pluginId : String) (newState : PluginState) (error : Option IPluginError) :
    SystemM Unit := fun s =>
  match s.registry.get pluginId with
  | none => (.error s!"Plugin not found: {pluginId}", s)
  | some plugin =>
    match s.registry.setState pluginId newState with
    | .error e => (.error e, s.requested ⟨pluginId, plugin.state, newState⟩)
    | .ok registry =>
      (.ok (), (s.requested ⟨pluginId, plugin.state, newState⟩).withState registry pluginId error)

def getPlugin (pluginId : String) : SystemM RegisteredPlugin := do
  let s ← get
  match s.registry.get pluginId with
  | none => throw s!"Plugin not found: {pluginId}"
  | some plugin => pure plugin

def unregister (pluginId : String) : SystemM Unit :=
  modify fun s =>
    { s with registry := s.registry.unregister pluginId, errors := s.errors.erase pluginId }

/-! ### The pool -/

def pluginsOf (s : PluginSystem) (workerId : ℕ) : List String :=
  ((s.workerInfos.get workerId).map IWorkerInfo.plugins).getD []

/-- Change what is known of a worker. -/
def updateWorker (s : PluginSystem) (workerId : ℕ) (f : IWorkerInfo → IWorkerInfo) : PluginSystem :=
  match s.workerInfos.get workerId with
  | none => s
  | some info => { s with workerInfos := s.workerInfos.set workerId (f info) }

def sendMessage (workerId : ℕ) (type : WorkerMessageType) (pluginId : String) : SystemM Unit :=
  modify fun s =>
    { s with
      requests :=
        s.requests ++ [{ requestId := s.nextRequestId, workerId, type, pluginId, rejected := none }]
      nextRequestId := s.nextRequestId + 1 }

/-- Create a new worker.  It joins the pool when it is ready. -/
def createWorker : SystemM Unit :=
  modify fun s =>
    { s with
      workerInfos := s.workerInfos.set s.nextWorkerId { plugins := [], ready := false, gone := false }
      nextWorkerId := s.nextWorkerId + 1 }

/-- One step of the search for the worker with the fewest plugins. -/
def betterWorker (s : PluginSystem) (best : ℕ × Option ℕ) (workerId : ℕ) : ℕ × Option ℕ :=
  match s.workerInfos.get workerId with
  | none => best
  | some info =>
    let fewer := match best.2 with
      | none => true
      | some minPlugins => info.plugins.length < minPlugins
    if info.ready && fewer then (workerId, some info.plugins.length) else best

def selectWorkerForPlugin (s : PluginSystem) : ℕ := (s.workers.foldl s.betterWorker (0, none)).1

def getWorkerForPlugin (pluginId : String) : SystemM ℕ := do
  let s ← get
  match s.pluginWorkerMap.get pluginId with
  | none => throw s!"Plugin {pluginId} is not loaded in any worker"
  | some workerId =>
    if workerId ∈ s.workers then pure workerId
    else throw s!"Worker {workerId} not found for plugin {pluginId}"

/-! ### Crashes -/

/-- Handle a plugin crash, in the pool and then in the manager. -/
def handlePluginCrash (pluginId error : String) : SystemM Unit := do
  modify fun s => { s with pluginWorkerMap := s.pluginWorkerMap.erase pluginId }
  let s ← get
  match s.registry.get pluginId with
  | none => pure ()
  | some _ => setState pluginId .crashed (some { code := "PLUGIN_CRASHED", message := error })

def rejectRequests (s : PluginSystem) (workerId : ℕ) (error : String) : PluginSystem :=
  { s with
    requests := s.requests.map fun request =>
      if request.workerId = workerId ∧ request.rejected = none then
        { request with rejected := some error }
      else request }

def handleWorkerCrash (workerId : ℕ) (error : String) : SystemM Unit := do
  modify fun s => s.rejectRequests workerId error
  let s ← get
  forEach (fun pluginId => handlePluginCrash pluginId error) (s.pluginsOf workerId)
  -- Not reached if a crash is refused: the worker stays in the pool then.
  modify fun s => { s with workers := s.workers.erase workerId }
  let s ← get
  if s.isShuttingDown then pure () else createWorker

/-! ### Operations -/

/-- Register a plugin from file: the file as it was parsed, and the validator's errors. -/
def registerPlugin (filePath : String) (parsed : Except String ParsedPluginFile)
    (errors : List String) : SystemM Unit := do
  let parsedFile ← liftExcept parsed
  let s ← get
  let registered ← liftExcept (s.registry.register filePath parsedFile)
  modify fun s =>
    { s with registry := registered.2, errors := s.errors.erase registered.1.id }
  let message := "; ".intercalate errors
  if errors ≠ [] then do
    setState registered.1.id .error (some { code := "VALIDATION_FAILED", message })
    throw message
  else setState registered.1.id .validated none

/-- Record the dependencies of all plugins. -/
def resolveDependencies : SystemM Unit :=
  modify fun s => { s with registry := s.registry.buildDependencyGraph }

def loadFailed (pluginId error : String) : SystemM Unit := do
  setState pluginId .error (some { code := "LOAD_FAILED", message := error })
  throw error

/-- Load a plugin into a worker, up to the request.  `prepared` tells whether its data directory
could be created. -/
def loadPlugin (pluginId : String) (prepared : Except String Unit) : SystemM Unit := do
  let plugin ← getPlugin pluginId
  let state := plugin.state.text
  throwIf (plugin.state ≠ .validated ∧ plugin.state ≠ .discovered)
    s!"Plugin {pluginId} cannot be loaded from state {state}"
  let s ← get
  throwIf (s.registry.areDependenciesReady pluginId = false)
    s!"Dependencies not ready for plugin {pluginId}"
  setState pluginId .loading none
  tryCatch
    (do
      liftExcept prepared
      let s ← get
      let workerId := s.selectWorkerForPlugin
      throwIf (workerId ∉ s.workers) s!"Worker {workerId} not found"
      sendMessage workerId .LOAD_PLUGIN pluginId)
    (loadFailed pluginId)

/-- The rest of a load.  `handlers` tells whether the plugin's handlers could be registered. -/
def loadAnswered (workerId : ℕ) (pluginId : String) (answer : Answer)
    (handlers : Except String Unit) : SystemM Unit :=
  tryCatch
    (do
      liftExcept (answer.check "Failed to load plugin")
      modify fun s => s.updateWorker workerId fun info =>
        { info with plugins := addToSet info.plugins pluginId }
      modify fun s => { s with pluginWorkerMap := s.pluginWorkerMap.set pluginId workerId }
      liftExcept handlers
      setState pluginId .loaded none)
    (loadFailed pluginId)

/-- Unload a plugin from its worker, up to the request, if there is one. -/
def unloadPlugin (pluginId : String) : SystemM Unit := do
  let _ ← getPlugin pluginId
  let s ← get
  let enabledDependents := (s.registry.getDependents pluginId).filter (·.state = .enabled)
  let ids := ", ".intercalate (enabledDependents.map RegisteredPlugin.id)
  throwIf (enabledDependents ≠ [])
    s!"Cannot unload {pluginId}: dependents still enabled: {ids}"
  setState pluginId .unloading none
  let s ← get
  match s.pluginWorkerMap.get pluginId with
  | none => unregister pluginId
  | some workerId =>
    if workerId ∈ s.workers then sendMessage workerId .UNLOAD_PLUGIN pluginId
    else unregister pluginId

/-- The rest of an unload.  What the worker answers does not matter. -/
def unloadAnswered (workerId : ℕ) (pluginId : String) : SystemM Unit := do
  modify fun s => s.updateWorker workerId fun info =>
    { info with plugins := info.plugins.erase pluginId }
  modify fun s => { s with pluginWorkerMap := s.pluginWorkerMap.erase pluginId }
  unregister pluginId

/-- Record how enabling failed. -/
def noteEnableFailure (pluginId original reported : String) : SystemM Unit :=
  modify fun s =>
    { s with
      enableFailures :=
        { pluginId, original, reported, state := s.stateOf pluginId
          error := s.errors.get pluginId } :: s.enableFailures }

/-- Enabling failed: the plugin is to have the state of an error. -/
def enableFailed (pluginId error : String) : SystemM Unit := do
  tryCatch (setState pluginId .error (some { code := "ENABLE_FAILED", message := error }))
    (fun refused => do
      noteEnableFailure pluginId error refused
      throw refused)
  noteEnableFailure pluginId error error
  throw error

/-- Enable a plugin, up to the request. -/
def enablePlugin (pluginId : String) : SystemM Unit := do
  let plugin ← getPlugin pluginId
  let state := plugin.state.text
  throwIf (plugin.state ≠ .loaded ∧ plugin.state ≠ .disabled ∧ plugin.state ≠ .crashed)
    s!"Plugin {pluginId} cannot be enabled from state {state}"
  tryCatch
    (do
      let workerId ← getWorkerForPlugin pluginId
      sendMessage workerId .ENABLE_PLUGIN pluginId)
    (enableFailed pluginId)

def enableAnswered (pluginId : String) (answer : Answer) : SystemM Unit :=
  tryCatch
    (do
      liftExcept (answer.check "Failed to enable plugin")
      setState pluginId .enabled none)
    (enableFailed pluginId)

/-- Disable a plugin, up to the request. -/
def disablePlugin (pluginId : String) : SystemM Unit := do
  let plugin ← getPlugin pluginId
  throwIf (plugin.state ≠ .enabled) s!"Plugin {pluginId} is not enabled"
  let workerId ← getWorkerForPlugin pluginId
  sendMessage workerId .DISABLE_PLUGIN pluginId

def disableAnswered (pluginId : String) (answer : Answer) : SystemM Unit := do
  liftExcept (answer.check "Failed to disable plugin")
  setState pluginId .disabled none

def request (s : PluginSystem) (requestId : ℕ) : Option IPendingRequest :=
  s.requests.find? (·.requestId = requestId)

/-- Settle a request, and run what waits for it. -/
def answered (requestId : ℕ) (answer : Answer) (handlers : Except String Unit) : SystemM Unit := do
  let s ← get
  match s.request requestId with
  | none => pure ()
  | some request => do
    modify fun s => { s with requests := s.requests.erase request }
    match request.type with
    | .LOAD_PLUGIN =>
      loadAnswered request.workerId request.pluginId (request.settled answer) handlers
    | .UNLOAD_PLUGIN => unloadAnswered request.workerId request.pluginId
    | .ENABLE_PLUGIN => enableAnswered request.pluginId (request.settled answer)
    | .DISABLE_PLUGIN => disableAnswered request.pluginId (request.settled answer)

/-! ### Workers -/

/-- A worker is ready, and joins the pool. -/
def workerReady (workerId : ℕ) : SystemM Unit := do
  let s ← get
  match s.workerInfos.get workerId with
  | none => pure ()
  | some info =>
    if info.ready || info.gone then pure ()
    else
      modify fun s =>
        { s.updateWorker workerId (fun info => { info with ready := true }) with
          workers := s.workers ++ [workerId] }

def threadEnded (workerId : ℕ) : SystemM Unit :=
  modify fun s => s.updateWorker workerId fun info => { info with gone := true }

/-- A worker has thrown an error, which ends its thread. -/
def workerError (workerId : ℕ) (message : String) : SystemM Unit := do
  threadEnded workerId
  handleWorkerCrash workerId message

/-- Whether the exit of a worker is handled as a crash. -/
def isCrash (s : PluginSystem) (code : ℕ) : Bool := code ≠ 0 && !s.isShuttingDown

def workerExit (workerId code : ℕ) : SystemM Unit := do
  threadEnded workerId
  let s ← get
  if s.isCrash code then handleWorkerCrash workerId s!"Worker exited with code {code}" else pure ()

/-! ### Runs -/

inductive Event
  | registerPlugin (filePath : String) (parsed : Except String ParsedPluginFile)
      (errors : List String)
  | resolveDependencies
  | loadPlugin (pluginId : String) (prepared : Except String Unit)
  | unloadPlugin (pluginId : String)
  | enablePlugin (pluginId : String)
  | disablePlugin (pluginId : String)
  | answered (requestId : ℕ) (answer : Answer) (handlers : Except String Unit)
  | pluginCrashed (pluginId error : String)
  | workerReady (workerId : ℕ)
  | workerError (workerId : ℕ) (message : String)
  | workerExit (workerId code : ℕ)
  | shutdownBegins
  | shutdownEnds

/-- What runs at an event. -/
def handle : Event → SystemM Unit
  | .registerPlugin filePath parsed errors => PluginSystem.registerPlugin filePath parsed errors
  | .resolveDependencies => PluginSystem.resolveDependencies
  | .loadPlugin pluginId prepared => PluginSystem.loadPlugin pluginId prepared
  | .unloadPlugin pluginId => PluginSystem.unloadPlugin pluginId
  | .enablePlugin pluginId => PluginSystem.enablePlugin pluginId
  | .disablePlugin pluginId => PluginSystem.disablePlugin pluginId
  | .answered requestId answer handlers => PluginSystem.answered requestId answer handlers
  | .pluginCrashed pluginId error => handlePluginCrash pluginId error
  | .workerReady workerId => PluginSystem.workerReady workerId
  | .workerError workerId message => PluginSystem.workerError workerId message
  | .workerExit workerId code => PluginSystem.workerExit workerId code
  | .shutdownBegins => modify fun s => { s with isShuttingDown := true }
  | .shutdownEnds =>
    modify fun s => { s with workers := [], pluginWorkerMap := JsMap.empty }

/-- The state after an event, whether its handler throws or not. -/
def step (s : PluginSystem) (event : Event) : PluginSystem := (handle event s).2

/-- The state after some events. -/
def run (s : PluginSystem) (events : List Event) : PluginSystem := events.foldl step s

/-- A pool without workers. -/
def empty : PluginSystem where
  registry := .empty
  errors := JsMap.empty
  workerInfos := JsMap.empty
  workers := []
  pluginWorkerMap := JsMap.empty
  nextWorkerId := 0
  isShuttingDown := false
  requests := []
  nextRequestId := 0
  transitions := []
  enableFailures := []

/-- Initialize the worker pool: none of its workers is ready yet. -/
def initial : ℕ → PluginSystem
  | 0 => empty
  | workerCount + 1 => (createWorker (initial workerCount)).2

end PluginSystem

end OpnetNode
