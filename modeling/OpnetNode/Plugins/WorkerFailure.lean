import OpnetNode.Plugins.PluginRegistry
import OpnetNode.Proc
import OpnetNode.Transition

/-!
# Failing workers

The worker pool, with its pending requests. A worker that fails gives an `error` event, an `exit`
event, or both, and either one is handled by `handleWorkerCrash`: it rejects the pending requests,
reports the plugins, takes the worker out of the pool and creates another one.

* `sendMessage`, `handleWorkerMessage`, `handleWorkerCrash`, `handlePluginCrash`, `createWorker`: the
  methods of the pool. The crash callback is the manager's, and may throw.
* `afterRequest`: what the caller of a request does when it is settled.
* `PluginWorkerPool.step`: a request is made, times out, or is answered; a worker tells of a crash or
  fails; the manager changes the states of its plugins.

`settlements`, `crashes` and `failures` record a run: the calls that settled a request, the calls of
the crash callback, and the workers that failed, with the plugins they had. Nothing reads them. The
numbers of requests are in the order the requests are made. Shutting down is left out, and with it
the exit code 0.
-/

namespace OpnetNode

namespace PluginWorkerPool

/-- What a request is for: to load or to unload a plugin, or what leaves the tables as they are. -/
inductive RequestKind where
  | load
  | unload
  | other
  deriving DecidableEq, Repr

structure IPendingRequest where
  requestId : ℕ
  kind : RequestKind
  pluginId : String
  deriving DecidableEq, Repr

/-- A worker. Its id is its place among the workers created. -/
structure IWorkerInfo where
  plugins : List String
  ready : Bool
  /-- Whether the handler of the first message is still registered. -/
  awaitsReady : Bool
  pendingRequests : List IPendingRequest
  failed : Bool
  exited : Bool
  deriving DecidableEq, Repr

inductive Settlement where
  | resolved
  | rejected (error : String)
  deriving DecidableEq, Repr

/-- A call of the crash callback, with the worker that failed, if one has. -/
structure CrashReport where
  workerId : Option ℕ
  pluginId : String
  error : String
  deriving DecidableEq, Repr

end PluginWorkerPool

structure PluginWorkerPool where
  infos : List PluginWorkerPool.IWorkerInfo
  workers : List ℕ
  pluginWorkerMap : JsMap String ℕ
  isShuttingDown : Bool
  nextRequestId : ℕ
  /-- The manager's registry. -/
  registry : PluginRegistry
  settlements : List (ℕ × PluginWorkerPool.Settlement)
  crashes : List PluginWorkerPool.CrashReport
  failures : List (ℕ × List String)
  deriving DecidableEq

namespace PluginWorkerPool

open Proc

abbrev PoolM := Proc PluginWorkerPool String

/-! ### Workers -/

def updateWorker (s : PluginWorkerPool) (workerId : ℕ) (f : IWorkerInfo → IWorkerInfo) :
    PluginWorkerPool :=
  { s with infos := s.infos.modify workerId f }

def pluginsOf (s : PluginWorkerPool) (workerId : ℕ) : List String :=
  (s.infos[workerId]?.map IWorkerInfo.plugins).getD []

def pendingOf (s : PluginWorkerPool) (workerId : ℕ) : List IPendingRequest :=
  (s.infos[workerId]?.map IWorkerInfo.pendingRequests).getD []

/-- Create a new worker.  It joins the pool when it is ready. -/
def createWorker (s : PluginWorkerPool) : PluginWorkerPool :=
  { s with
    infos := s.infos ++
      [{ plugins := [], ready := false, awaitsReady := true, pendingRequests := [], failed := false
         exited := false }] }

/-- One step of the search for the worker with the fewest plugins. -/
def betterWorker (s : PluginWorkerPool) (best : ℕ × Option ℕ) (workerId : ℕ) : ℕ × Option ℕ :=
  match s.infos[workerId]? with
  | none => best
  | some info =>
    let fewer := match best.2 with
      | none => true
      | some minPlugins => info.plugins.length < minPlugins
    if info.ready && fewer then (workerId, some info.plugins.length) else best

def selectWorkerForPlugin (s : PluginWorkerPool) : ℕ := (s.workers.foldl s.betterWorker (0, none)).1

/-! ### Requests -/

def sendMessage (workerId : ℕ) (kind : RequestKind) (pluginId : String) (s : PluginWorkerPool) :
    PluginWorkerPool :=
  { s.updateWorker workerId fun info =>
      { info with
        pendingRequests := info.pendingRequests ++ [⟨s.nextRequestId, kind, pluginId⟩] } with
    nextRequestId := s.nextRequestId + 1 }

/-- What the caller does when its request is settled. -/
def afterRequest (workerId : ℕ) (request : IPendingRequest) (success : Bool)
    (s : PluginWorkerPool) : PluginWorkerPool :=
  match request.kind with
  | .load =>
    if success then
      { s.updateWorker workerId fun info =>
          { info with plugins := addToSet info.plugins request.pluginId } with
        pluginWorkerMap := s.pluginWorkerMap.set request.pluginId workerId }
    else s
  | .unload =>
    { s.updateWorker workerId fun info =>
        { info with plugins := info.plugins.erase request.pluginId } with
      pluginWorkerMap := s.pluginWorkerMap.erase request.pluginId }
  | .other => s

/-- Take a request off the pending ones and settle it. -/
def settle (workerId : ℕ) (request : IPendingRequest) (settlement : Settlement)
    (s : PluginWorkerPool) : PluginWorkerPool :=
  { s.updateWorker workerId fun info =>
      { info with pendingRequests := info.pendingRequests.erase request } with
    settlements := s.settlements ++ [(request.requestId, settlement)] }

def pending (s : PluginWorkerPool) (workerId requestId : ℕ) : Option IPendingRequest :=
  (s.pendingOf workerId).find? fun request => request.requestId = requestId

/-- Load a plugin into a worker, up to the request. -/
def loadPlugin (pluginId : String) (s : PluginWorkerPool) : PluginWorkerPool :=
  let workerId := s.selectWorkerForPlugin
  if workerId ∈ s.workers then s.sendMessage workerId .load pluginId else s

/-- A request to the worker of a plugin, if it has one in the pool.  Where it has none, unloading
returns and the other requests throw. -/
def request (kind : RequestKind) (pluginId : String) (s : PluginWorkerPool) : PluginWorkerPool :=
  match s.pluginWorkerMap.get pluginId with
  | none => s
  | some workerId => if workerId ∈ s.workers then s.sendMessage workerId kind pluginId else s

/-! ### Crashes -/

def onPluginCrash (pluginId : String) : PoolM Unit := fun s =>
  match s.registry.get pluginId with
  | none => (.ok (), s)
  | some _ =>
    match s.registry.setState pluginId .crashed with
    | .error refused => (.error refused, s)
    | .ok registry => (.ok (), { s with registry })

def handlePluginCrash (source : Option ℕ) (error pluginId : String) : PoolM Unit := do
  modify fun s =>
    { s with
      pluginWorkerMap := s.pluginWorkerMap.erase pluginId
      crashes := s.crashes ++ [⟨source, pluginId, error⟩] }
  onPluginCrash pluginId

def rejectAll (workerId : ℕ) (error : String) (s : PluginWorkerPool) : PluginWorkerPool :=
  { s.updateWorker workerId fun info => { info with pendingRequests := [] } with
    settlements := s.settlements ++
      (s.pendingOf workerId).map fun request => (request.requestId, .rejected error) }

def handleWorkerCrash (workerId : ℕ) (error : String) : PoolM Unit := do
  modify (rejectAll workerId error)
  let s ← get
  forEach (handlePluginCrash (some workerId) error) (s.pluginsOf workerId)
  -- Not reached if a crash is refused: the worker stays in the pool then.
  modify fun s => { s with workers := s.workers.erase workerId }
  let s ← get
  if s.isShuttingDown then pure () else modify createWorker

/-- A worker has failed.  Its plugins are recorded the first time. -/
def noteFailure (workerId : ℕ) (s : PluginWorkerPool) : PluginWorkerPool :=
  match s.infos[workerId]? with
  | none => s
  | some info =>
    if info.failed then s
    else
      { s.updateWorker workerId fun info => { info with failed := true } with
        failures := s.failures ++ [(workerId, info.plugins)] }

/-- The failure of a worker is handled, and those whose requests it rejects go on. -/
def workerFails (workerId : ℕ) (error : String) (s : PluginWorkerPool) : PluginWorkerPool :=
  (s.pendingOf workerId).foldl (fun s request => s.afterRequest workerId request false)
    (handleWorkerCrash workerId error (s.noteFailure workerId)).2

/-! ### Messages -/

/-- What a worker sends. -/
inductive WorkerResponse where
  | ready
  | pluginCrashed (pluginId errorMessage : String)
  | answer (requestId : ℕ) (success : Bool)
  deriving DecidableEq, Repr

def handleWorkerMessage (workerId : ℕ) : WorkerResponse → PoolM Unit
  | .ready => pure ()
  | .pluginCrashed pluginId errorMessage => handlePluginCrash none errorMessage pluginId
  | .answer requestId success => modify fun s =>
    match s.pending workerId requestId with
    | none => s
    | some request => (s.settle workerId request .resolved).afterRequest workerId request success

/-- The handler of the first message. -/
def readyHandler (workerId : ℕ) (response : WorkerResponse) (s : PluginWorkerPool) :
    PluginWorkerPool :=
  match s.infos[workerId]? with
  | none => s
  | some info =>
    if info.awaitsReady then
      if response = .ready then
        { s.updateWorker workerId fun info => { info with awaitsReady := false, ready := true } with
          workers := s.workers ++ [workerId] }
      else s.updateWorker workerId fun info => { info with awaitsReady := false }
    else s

/-- The handlers of a message, one after the other. -/
def onMessage (workerId : ℕ) (response : WorkerResponse) : PoolM Unit := do
  handleWorkerMessage workerId response
  modify (readyHandler workerId response)

/-! ### Runs -/

inductive Event where
  | loadPlugin (pluginId : String)
  | unloadPlugin (pluginId : String)
  | request (pluginId : String)
  | timeout (workerId requestId timeoutMs : ℕ)
  | message (workerId : ℕ) (response : WorkerResponse)
  | workerError (workerId : ℕ) (message : String)
  | workerExit (workerId code : ℕ)
  | managed (registry : PluginRegistry)

/-- Whether a worker can send this.  One that has failed answers no request made after that. -/
def canSend (s : PluginWorkerPool) (workerId : ℕ) (response : WorkerResponse) : Bool :=
  match s.infos[workerId]? with
  | none => false
  | some info =>
    !info.exited && (!info.failed || match response with
      | .answer requestId _ => (s.pending workerId requestId).isNone
      | _ => true)

/-- Whether a worker runs, and has not thrown an error. -/
def runs (s : PluginWorkerPool) (workerId : ℕ) : Bool :=
  (s.infos[workerId]?.map fun info => !info.failed).getD false

/-- Whether a worker has not exited. -/
def canExit (s : PluginWorkerPool) (workerId : ℕ) : Bool :=
  (s.infos[workerId]?.map fun info => !info.exited).getD false

def step (s : PluginWorkerPool) : Event → Option PluginWorkerPool
  | .loadPlugin pluginId => some (s.loadPlugin pluginId)
  | .unloadPlugin pluginId => some (PluginWorkerPool.request .unload pluginId s)
  | .request pluginId => some (PluginWorkerPool.request .other pluginId s)
  | .timeout workerId requestId timeoutMs =>
    match s.pending workerId requestId with
    | none => none
    | some request =>
      let error := s!"Request {requestId} timed out after {timeoutMs}ms"
      some ((s.settle workerId request (.rejected error)).afterRequest workerId request false)
  | .message workerId response =>
    if s.canSend workerId response then some (onMessage workerId response s).2 else none
  | .workerError workerId message =>
    if s.runs workerId then some (s.workerFails workerId message) else none
  | .workerExit workerId code =>
    if s.canExit workerId && code ≠ 0 then
      let s := s.updateWorker workerId fun info => { info with exited := true }
      some (if code ≠ 0 && !s.isShuttingDown then
        s.workerFails workerId s!"Worker exited with code {code}" else s)
    else none
  | .managed registry => some { s with registry }

def empty (registry : PluginRegistry) : PluginWorkerPool where
  infos := []
  workers := []
  pluginWorkerMap := JsMap.empty
  isShuttingDown := false
  nextRequestId := 0
  registry := registry
  settlements := []
  crashes := []
  failures := []

/-- Initialize the worker pool: none of its workers is ready yet. -/
def start (registry : PluginRegistry) : ℕ → PluginWorkerPool
  | 0 => empty registry
  | workerCount + 1 => (start registry workerCount).createWorker

end PluginWorkerPool

end OpnetNode
