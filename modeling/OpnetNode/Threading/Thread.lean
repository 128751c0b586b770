import Mathlib.Data.List.GetD
import Mathlib.Logic.Function.Basic
import Mathlib.Logic.Function.Iterate
import Mathlib.Data.Nat.Notation
import OpnetNode.JsMap

/-!
# Threads

The threads of a node talk over channels that their managers make between them, two by two.  A thread
asks another one by a message with a task id, and the answer comes back under this id.

* `Thread`: what a thread does with its ports and its tasks.
* `Threads.step`: a manager links two threads, a thread is told of a link or of a thread that died, it
  sends, a message comes in, a handler is done, a timer goes off.

Messages between two ports arrive in the order in which they are posted; a thread that has died takes no
step any more.  The handlers (`onLinkMessage`), the random task ids and the messages that cannot be
cloned or logged are parameters.  `received`, `posts`, `handled`, `generated` and `failed` are not in the program:
they say what has happened.

Left out are what is logged, the messages from a manager, to which a thread answers by `onMessage` and under
no task id, and the two ways by which a manager hands on a message.
-/

namespace OpnetNode

inductive ThreadTypes where
  | INDEXER
  | API
  | DOCS
  | RPC
  | P2P
  | MEMPOOL
  | MEMPOOL_MANAGER
  | SSH
  | SYNCHRONISATION
  | PLUGIN
  | WITNESS
  deriving DecidableEq, Repr

inductive LinkType where
  | RX
  | TX
  deriving DecidableEq, Repr

/-- An end of a channel. -/
structure MessagePort where
  channel : ℕ
  type : LinkType
  deriving DecidableEq, Repr

/-- The other end. -/
def MessagePort.other (port : MessagePort) : MessagePort :=
  ⟨port.channel, if port.type = .RX then .TX else .RX⟩

inductive MessageType where
  | THREAD_RESPONSE
  /-- Any other one. -/
  | other (type : ℕ)
  deriving DecidableEq, Repr

/-- `ThreadMessageBase`; `none` is `null` or `undefined`. -/
structure ThreadMessage (δ : Type) where
  type : MessageType
  taskId : Option String
  toServer : Bool
  data : Option δ
  deriving DecidableEq, Repr

structure LinkData where
  type : LinkType
  targetThreadType : ThreadTypes
  sourceThreadType : ThreadTypes
  targetThreadId : ℕ
  sourceThreadId : ℕ
  port : MessagePort
  deriving DecidableEq, Repr

inductive Settlement (δ : Type) where
  | resolved (data : Option δ)
  | rejected
  deriving DecidableEq, Repr

/-- The promise of `sendMessage`, for the message as it was posted; `timeout`: its timer is running. -/
structure SendPromise (δ : Type) where
  message : ThreadMessage δ
  port : MessagePort
  timeout : Bool
  settled : Option (Settlement δ)
  deriving DecidableEq, Repr

/-- `promise` is what `resolve` settles. -/
structure ThreadTaskCallback where
  promise : ℕ
  port : MessagePort
  deriving DecidableEq, Repr

/-- A call that waits for a link; `toAll` is one of `sendMessageToAllThreads`. -/
structure SendRetry (δ : Type) where
  toAll : Bool
  threadType : ThreadTypes
  message : ThreadMessage δ
  i : ℕ
  deriving DecidableEq, Repr

structure Thread (δ : Type) where
  threadType : ThreadTypes
  threadRelations : ThreadTypes → Option (JsMap ℕ MessagePort)
  threadRelationsArray : ThreadTypes → Option (List MessagePort)
  availableThreads : ThreadTypes → ℕ
  portMeta : JsMap MessagePort (ThreadTypes × ℕ)
  tasks : JsMap String ThreadTaskCallback
  promises : List (SendPromise δ)
  retries : List (SendRetry δ)
  /-- The ports that `createEvents` was called with. -/
  listening : List MessagePort
  closed : List MessagePort
  /-- The messages whose handler is not done. -/
  running : List (MessagePort × ThreadMessage δ)
  received : List (MessagePort × ThreadMessage δ)
  posts : List (MessagePort × ThreadMessage δ)
  handled : List ((MessagePort × ThreadMessage δ) × Option δ)
  generated : ℕ
  failed : ℕ

namespace Thread

variable {δ : Type} [DecidableEq δ]

def new (threadType : ThreadTypes) : Thread δ where
  threadType
  threadRelations := fun _ => none
  threadRelationsArray := fun _ => none
  availableThreads := fun _ => 0
  portMeta := JsMap.empty
  tasks := JsMap.empty
  promises := []
  retries := []
  listening := []
  closed := []
  running := []
  received := []
  posts := []
  handled := []
  generated := 0
  failed := 0

def relationsOf (s : Thread δ) (threadType : ThreadTypes) : List MessagePort :=
  (s.threadRelationsArray threadType).getD []

/-! ### Promises -/

/-- The first settlement of a promise is the one that counts. -/
def settle (promise : ℕ) (settlement : Settlement δ) (s : Thread δ) : Thread δ :=
  { s with
    promises := s.promises.modify promise fun p =>
      { p with settled := p.settled.or (some settlement) } }

/-- `clearTimeout`, or the timer goes off. -/
def clearTimeout (promise : ℕ) (s : Thread δ) : Thread δ :=
  { s with promises := s.promises.modify promise fun p => { p with timeout := false } }

/-! ### Messages -/

/-- `clones`: the message can be cloned, else `postMessage` throws; `logs`: its data can be written as
JSON, else the log of a timer throws. -/
structure Environment (δ : Type) where
  clones : ThreadMessage δ → Bool
  generateTaskId : ℕ → String
  logs : ThreadMessage δ → Bool

variable (env : Environment δ)

/-- The timer of `sendMessage` goes off; the task is left where it is.  It logs the message before it
resolves. -/
def onTimeout (promise : ℕ) (s : Thread δ) : Thread δ :=
  let s := s.clearTimeout promise
  if (s.promises[promise]?).any fun p => env.logs p.message then s.settle promise (.resolved none) else s

/-- Nothing goes out of a port that is closed. -/
def postMessage (port : MessagePort) (m : ThreadMessage δ) (s : Thread δ) : Thread δ :=
  if port ∈ s.closed then s else { s with posts := s.posts ++ [(port, m)] }

def sendMessage (m : ThreadMessage δ) (port : MessagePort) (s : Thread δ) : Thread δ :=
  match m.taskId with
  | none =>
    let taskId := env.generateTaskId s.generated
    let m := { m with taskId := some taskId }
    let settled := if env.clones m then none else some .rejected
    let sent : Thread δ :=
      { s with
        generated := s.generated + 1
        promises := s.promises ++ [⟨m, port, true, settled⟩]
        tasks := s.tasks.set taskId ⟨s.promises.length, port⟩ }
    if env.clones m then sent.postMessage port m else sent
  | some _ =>
    let settled := if env.clones m then .resolved none else .rejected
    let sent : Thread δ := { s with promises := s.promises ++ [⟨m, port, false, some settled⟩] }
    if env.clones m then sent.postMessage port m else sent

/-- The next port of the type, round robin, if there is one. -/
def getNextAvailableThread (threadType : ThreadTypes) (s : Thread δ) : Option MessagePort × Thread δ :=
  let relation := s.relationsOf threadType
  if relation.length = 0 then (none, s)
  else
    let currentIndex := s.availableThreads threadType % relation.length
    (relation[currentIndex]?,
      { s with
        availableThreads :=
          Function.update s.availableThreads threadType ((currentIndex + 1) % relation.length) })

def sendMessageToThread (threadType : ThreadTypes) (m : ThreadMessage δ) (allowRetries : Bool) (i : ℕ)
    (s : Thread δ) : Thread δ :=
  match s.getNextAvailableThread threadType with
  | (some port, s) => s.sendMessage env m port
  | (none, s) =>
    if i ≠ 5 && allowRetries then { s with retries := s.retries ++ [⟨false, threadType, m, i + 1⟩] }
    else { s with failed := s.failed + 1 }

def sendMessageToAllThreads (threadType : ThreadTypes) (m : ThreadMessage δ) (i : ℕ) (s : Thread δ) :
    Thread δ :=
  match s.threadRelationsArray threadType with
  | some relation => relation.foldl (fun s port => s.sendMessage env m port) s
  | none =>
    if i ≠ 5 then { s with retries := s.retries ++ [⟨true, threadType, m, i + 1⟩] }
    else { s with failed := s.failed + 1 }

/-- The timer of a call that waits goes off. -/
def onRetry (retry : SendRetry δ) (s : Thread δ) : Thread δ :=
  let s := { s with retries := s.retries.erase retry }
  if retry.toAll then s.sendMessageToAllThreads env retry.threadType retry.message retry.i
  else s.sendMessageToThread env retry.threadType retry.message true retry.i

def onThreadResponse (m : ThreadMessage δ) (s : Thread δ) : Thread δ :=
  match m.taskId with
  | none => s
  | some taskId =>
    if taskId = "" || m.toServer then s
    else
      match s.tasks.get taskId with
      | none => s
      | some task =>
        ({ s with tasks := s.tasks.erase taskId }.clearTimeout task.promise).settle task.promise
          (.resolved m.data)

/-- `onEventMessage`, up to the `await` of the handler. -/
def onEventMessage (messagePort : MessagePort) (m : ThreadMessage δ) (s : Thread δ) : Thread δ :=
  if m.type = .THREAD_RESPONSE then s.onThreadResponse m
  else { s with running := s.running ++ [(messagePort, m)] }

/-- A message at a port, for every listener that it has. -/
def onPortMessage (messagePort : MessagePort) (m : ThreadMessage δ) (s : Thread δ) : Thread δ :=
  (onEventMessage messagePort m)^[s.listening.count messagePort]
    { s with received := s.received ++ [(messagePort, m)] }

/-- The rest of `onEventMessage`. -/
def onHandled (messagePort : MessagePort) (m : ThreadMessage δ) (response : Option δ) (s : Thread δ) :
    Thread δ :=
  let s :=
    { s with
      running := s.running.erase (messagePort, m)
      handled := s.handled ++ [((messagePort, m), response)] }
  match m.taskId, response with
  | some taskId, some data =>
    if taskId = "" then s
    else s.sendMessage env ⟨.THREAD_RESPONSE, some taskId, false, some data⟩ messagePort
  | _, _ => s

/-! ### Links -/

def createInternalThreadLink (data : LinkData) (s : Thread δ) : Thread δ :=
  let threadType := data.sourceThreadType
  if s.threadType ≠ data.targetThreadType then s
  else
    let id := if data.type = .TX then data.sourceThreadId else data.targetThreadId
    let relation := (s.threadRelations threadType).getD JsMap.empty
    let array := s.relationsOf threadType
    { s with
      threadRelationsArray := Function.update s.threadRelationsArray threadType
        (some (if data.port ∈ array then array else array ++ [data.port]))
      threadRelations := Function.update s.threadRelations threadType (some (relation.set id data.port))
      portMeta := s.portMeta.set data.port (data.sourceThreadType, data.sourceThreadId)
      listening := s.listening ++ [data.port] }

/-- What `onUnlinkThread` does with a port of the thread that died. -/
def dropPort (threadType : ThreadTypes) (s : Thread δ) (port : MessagePort) : Thread δ :=
  { s with
    portMeta := s.portMeta.erase port
    threadRelationsArray := Function.update s.threadRelationsArray threadType
      ((s.threadRelationsArray threadType).map fun array => array.erase port)
    threadRelations := Function.update s.threadRelations threadType
      ((s.threadRelations threadType).map fun relation =>
        relation.filterKeys fun k => relation.get k ≠ some port)
    closed := s.closed ++ [port] }

/-- What it does with a task. -/
def cancelTask (deadPorts : List MessagePort) (s : Thread δ) (taskId : String) : Thread δ :=
  match s.tasks.get taskId with
  | none => s
  | some task =>
    if task.port ∈ deadPorts then
      { (s.clearTimeout task.promise).settle task.promise (.resolved none) with
        tasks := s.tasks.erase taskId }
    else s

def deadPorts (threadType : ThreadTypes) (threadId : ℕ) (s : Thread δ) : List MessagePort :=
  (s.portMeta.entries.filter fun e => e.2.1 = threadType && e.2.2 = threadId).map Prod.fst

def onUnlinkThread (threadType : ThreadTypes) (threadId : ℕ) (s : Thread δ) : Thread δ :=
  let deadPorts := s.deadPorts threadType threadId
  if deadPorts.length = 0 then s
  else
    let dropped := deadPorts.foldl (dropPort threadType) s
    let cancelled := dropped.tasks.keys.foldl (cancelTask deadPorts) dropped
    { cancelled with availableThreads := Function.update cancelled.availableThreads threadType 0 }

end Thread

/-! ### The threads of a node -/

/-- `channels`: the threads that a channel links, that of its `RX` end first; `links`: the messages
`LINK_THREAD` on their way, by the thread that they are for. -/
structure Threads (δ : Type) where
  threads : List (Thread δ)
  channels : List (ℕ × ℕ)
  links : List (ℕ × LinkData)

inductive ThreadEvent (δ : Type) where
  | createThread (threadType : ThreadTypes)
  | createThreadLinkBetween (thread target : ℕ)
  | linkThread (thread : ℕ) (data : LinkData)
  | unlinkThread (thread : ℕ) (threadType : ThreadTypes) (threadId : ℕ)
  | sendMessageToThread (thread : ℕ) (threadType : ThreadTypes) (m : ThreadMessage δ)
      (allowRetries : Bool)
  | sendMessageToAllThreads (thread : ℕ) (threadType : ThreadTypes) (m : ThreadMessage δ)
  | retry (thread : ℕ) (retry : SendRetry δ)
  | message (thread : ℕ) (port : MessagePort)
  | handled (thread : ℕ) (port : MessagePort) (m : ThreadMessage δ) (response : Option δ)
  | timeout (thread : ℕ) (promise : ℕ)
  deriving DecidableEq

namespace Threads

variable {δ : Type} [DecidableEq δ]

def start : Threads δ := ⟨[], [], []⟩

def owner (s : Threads δ) (port : MessagePort) : Option ℕ :=
  (s.channels[port.channel]?).map fun ends => if port.type = .RX then ends.1 else ends.2

/-- One thread takes a step. -/
def onThread (s : Threads δ) (i : ℕ) (f : Thread δ → Option (Thread δ)) : Option (Threads δ) :=
  (s.threads[i]?.bind f).map fun thread => { s with threads := s.threads.set i thread }

def messagesOf (port : MessagePort) (log : List (MessagePort × ThreadMessage δ)) :
    List (ThreadMessage δ) :=
  (log.filter fun e => e.1 = port).map Prod.snd

/-- What was posted at the other end of a port. -/
def postedTo (s : Threads δ) (port : MessagePort) : List (ThreadMessage δ) :=
  ((s.owner port.other).bind fun j => s.threads[j]?).elim [] fun thread =>
    messagesOf port.other thread.posts

def nextMessage (s : Threads δ) (port : MessagePort) (thread : Thread δ) : Option (ThreadMessage δ) :=
  (s.postedTo port)[(messagesOf port thread.received).length]?

/-- The threads are given their task ids by `env i`. -/
def step (env : ℕ → Thread.Environment δ) (s : Threads δ) : ThreadEvent δ → Option (Threads δ)
  | .createThread threadType => some { s with threads := s.threads ++ [.new threadType] }
  | .createThreadLinkBetween thread target =>
    if thread = target then none
    else
      s.threads[thread]?.bind fun t => s.threads[target]?.map fun t' =>
        let channel := s.channels.length
        { s with
          channels := s.channels ++ [(thread, target)]
          links := s.links ++
            [(thread, ⟨.RX, t.threadType, t'.threadType, thread, target, ⟨channel, .RX⟩⟩),
              (target, ⟨.TX, t'.threadType, t.threadType, target, thread, ⟨channel, .TX⟩⟩)] }
  | .linkThread thread data =>
    if (thread, data) ∈ s.links then
      { s with links := s.links.erase (thread, data) }.onThread thread fun t =>
        some (t.createInternalThreadLink data)
    else none
  | .unlinkThread thread threadType threadId =>
    s.onThread thread fun t => some (t.onUnlinkThread threadType threadId)
  | .sendMessageToThread thread threadType m allowRetries =>
    s.onThread thread fun t => some (t.sendMessageToThread (env thread) threadType m allowRetries 0)
  | .sendMessageToAllThreads thread threadType m =>
    s.onThread thread fun t => some (t.sendMessageToAllThreads (env thread) threadType m 0)
  | .retry thread retry =>
    s.onThread thread fun t => if retry ∈ t.retries then some (t.onRetry (env thread) retry) else none
  | .message thread port =>
    s.onThread thread fun t =>
      if port ∈ t.listening then (s.nextMessage port t).map fun m => t.onPortMessage port m else none
  | .handled thread port m response =>
    s.onThread thread fun t =>
      if (port, m) ∈ t.running then some (t.onHandled (env thread) port m response) else none
  | .timeout thread promise =>
    s.onThread thread fun t =>
      if (t.promises[promise]?).elim false SendPromise.timeout then some (t.onTimeout (env thread) promise)
      else none

end Threads

end OpnetNode
