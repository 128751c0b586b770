import OpnetNode.Hex
import OpnetNode.Transition

/-!
# The outbound queue of a stream

`ReusableStream` gives its messages to the underlying stream one behind the other: `processQueue`
leaves the message it is writing at the head of the queue, and goes on when the write has settled.
While it waits, messages are accepted, and the stream may be closed by its owner, by the other side
or by the idle timer.

* `sendMessage`, `closeStream`, `processQueue`, `writeData`: the methods, up to their next `await`.
* `ReusableStream.step`: a method is called, a drain ends, a write goes on, or the stream closes.

A run of `processQueue` that waits is one of `loops`, so nothing but the code keeps a second one from
starting. The promise of a message is settled by the first call that does so. `accepted`, `offered`
and `handed` record a run: the messages whose promise was made, those that `send` was called with,
and those it took. Nothing reads them. Inbound messages, and what is written for them, are left out.
-/

namespace OpnetNode

structure ReusableStreamOptions where
  idleTimeoutMs : ℤ
  maxMessageSize : ℕ
  deriving DecidableEq

inductive PromiseState
  | pending
  | resolved
  | rejected (error : String)
  deriving DecidableEq

/-- A message with the number of its promise. -/
structure QueuedMessage where
  data : Bytes
  promise : ℕ
  deriving DecidableEq

/-- What a call of `send` does: the stream may close in the middle of it, it may throw, and it may
ask to wait for a drain. -/
structure SendOutcome where
  closes : Bool
  thrown : Option String
  needsDrain : Bool
  deriving DecidableEq

/-- How the write stands that a run of `processQueue` waits for. -/
inductive Write
  | draining
  | written
  | failed (error : String)
  deriving DecidableEq

/-- A run of `processQueue` at its `await`. -/
structure ProcessLoop where
  item : QueuedMessage
  write : Write
  deriving DecidableEq

structure ReusableStream where
  peerIdStr : String
  opts : ReusableStreamOptions
  isClosed : Bool
  messageQueue : List QueuedMessage
  isProcessingQueue : Bool
  idleTimer : Bool
  /-- Whether the close handler is registered. -/
  listening : Bool
  outboundMessageCount : ℕ
  /-- Whether the underlying stream is closing. -/
  closing : Bool
  /-- How often the manager was told that the stream is closed. -/
  onCloseCalls : ℕ
  loops : List ProcessLoop
  promises : List PromiseState
  accepted : List QueuedMessage
  offered : List QueuedMessage
  handed : List QueuedMessage
  deriving DecidableEq

namespace ReusableStream

def MAX_QUEUE_SIZE : ℕ := 100

def create (peerIdStr : String) (opts : ReusableStreamOptions) : ReusableStream where
  peerIdStr := peerIdStr
  opts := opts
  isClosed := false
  messageQueue := []
  isProcessingQueue := false
  idleTimer := false
  listening := true
  outboundMessageCount := 0
  closing := false
  onCloseCalls := 0
  loops := []
  promises := []
  accepted := []
  offered := []
  handed := []

def settle (promises : List PromiseState) (promise : ℕ) (state : PromiseState) :
    List PromiseState :=
  promises.modify promise fun old => if old = .pending then state else old

/-- Close the stream, cancelling any queued messages. -/
def closeStream (s : ReusableStream) : ReusableStream :=
  if s.isClosed then s
  else
    { s with
      isClosed := true
      isProcessingQueue := false
      idleTimer := false
      listening := false
      messageQueue := []
      promises := s.messageQueue.foldl (fun promises message =>
        settle promises message.promise
          (.rejected "Stream closed before message was processed.")) s.promises
      closing := true }

/-- Reset idle timer after a successful send. -/
def resetIdleTimer (s : ReusableStream) : ReusableStream :=
  { s with idleTimer := 0 < s.opts.idleTimeoutMs }

/-- Actually writes the data, and waits. -/
def writeData (item : QueuedMessage) (outcome : SendOutcome) (s : ReusableStream) :
    ReusableStream :=
  let s := s.resetIdleTimer
  let s :=
    { s with
      outboundMessageCount := s.outboundMessageCount + 1
      offered := s.offered ++ [item] }
  let s := if outcome.closes then s.closeStream else s
  match outcome.thrown with
  | some error => { s with loops := s.loops ++ [⟨item, .failed error⟩] }
  | none =>
    { s with
      handed := s.handed ++ [item]
      loops := s.loops ++ [⟨item, if outcome.needsDrain then .draining else .written⟩] }

/-- The loop of `processQueue` from its test on. -/
def processNext (outcome : SendOutcome) (s : ReusableStream) : ReusableStream :=
  match s.messageQueue with
  | [] => { s with isProcessingQueue := false }
  | item :: _ =>
    if s.isClosed then { s with isProcessingQueue := false } else writeData item outcome s

/-- Process outbound messages in FIFO, sending each in turn. -/
def processQueue (outcome : SendOutcome) (s : ReusableStream) : ReusableStream :=
  processNext outcome { s with isProcessingQueue := true }

/-- Enqueues a message to send.  What comes back is the number of its promise, or the error it is
rejected with. -/
def sendMessage (data : Bytes) (outcome : SendOutcome) (s : ReusableStream) :
    Except String ℕ × ReusableStream :=
  let size := data.length
  let maximum := s.opts.maxMessageSize
  if s.isClosed then (.error s!"Stream to peer {s.peerIdStr} is closed.", s)
  else if size > maximum then (.error s!"Message exceeds max size: {size} > {maximum}", s)
  else if s.messageQueue.length ≥ MAX_QUEUE_SIZE then
    (.error s!"Outbound queue is full (max: {MAX_QUEUE_SIZE}) for {s.peerIdStr}", s)
  else
    let message : QueuedMessage := ⟨data, s.promises.length⟩
    let s :=
      { s with
        messageQueue := s.messageQueue ++ [message]
        promises := s.promises ++ [.pending]
        accepted := s.accepted ++ [message] }
    (.ok message.promise,
      if s.messageQueue.length = 1 && !s.isProcessingQueue then processQueue outcome s else s)

/-- A write has settled, and the loop takes its message from the queue and goes on. -/
def resume (loop : ProcessLoop) (state : PromiseState) (outcome : SendOutcome)
    (s : ReusableStream) : ReusableStream :=
  processNext outcome
    { s with
      messageQueue := s.messageQueue.drop 1
      promises := settle s.promises loop.item.promise state }

/-! ### Runs -/

inductive Event
  | sendMessage (data : Bytes) (outcome : SendOutcome)
  /-- The drain ends that a loop waits for. -/
  | drained (loop : ℕ)
  | drainFailed (loop : ℕ) (error : String)
  /-- A loop goes on whose write has settled. -/
  | resumed (loop : ℕ) (outcome : SendOutcome)
  | idleTimeout
  /-- The close event of the underlying stream. -/
  | closeEvent
  | closeStream
  /-- The underlying stream is closed, or failed to close. -/
  | closeSettled
  deriving DecidableEq

/-- The write of a loop that waits for a drain settles. -/
def settleDrain (k : ℕ) (write : Write) (s : ReusableStream) : Option ReusableStream :=
  match s.loops[k]? with
  | some ⟨item, .draining⟩ => some { s with loops := s.loops.set k ⟨item, write⟩ }
  | _ => none

def step (s : ReusableStream) : Event → Option ReusableStream
  | .sendMessage data outcome => some (s.sendMessage data outcome).2
  | .drained k => s.settleDrain k .written
  | .drainFailed k error => s.settleDrain k (.failed error)
  | .resumed k outcome =>
    match s.loops[k]? with
    | some ⟨item, .written⟩ =>
      some (resume ⟨item, .written⟩ .resolved outcome { s with loops := s.loops.eraseIdx k })
    | some ⟨item, .failed error⟩ =>
      some (resume ⟨item, .failed error⟩ (.rejected error) outcome
        { s with loops := s.loops.eraseIdx k })
    | _ => none
  | .idleTimeout => if s.idleTimer then some s.closeStream else none
  | .closeEvent => if s.listening then some s.closeStream else none
  | .closeStream => some s.closeStream
  | .closeSettled =>
    if s.closing then some { s with closing := false, onCloseCalls := s.onCloseCalls + 1 } else none

end ReusableStream

end OpnetNode
