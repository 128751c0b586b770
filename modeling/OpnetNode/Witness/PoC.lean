import OpnetNode.Transition

/-!
# The announcement of processed blocks

`PoC.onBlockProcessed` waits for the broadcast that is in `blockProcessedLock`, puts its own there,
waits for it and sends the block to one witness thread. Calls overlap at every `await`; what goes on
after a promise is settled is a microtask, and microtasks run in the order in which they came up.

* `onBlockProcessed`, `lockPassed`, `broadcastSettled`: the three parts of a call.
* `PoC.step`: a message arrives, a broadcast ends, or a microtask runs.

What is sent, and the consensus height of the thread, are left out.
-/

namespace OpnetNode

/-- A call of `onBlockProcessed`, with the promise that it found in `blockProcessedLock`: the
broadcast of a call, or the promise that is settled from the start. -/
structure BlockProcessedCall where
  blockNumber : ℕ
  lock : Option ℕ
  deriving DecidableEq, Repr

/-- What goes on after a promise is settled; calls are numbered in the order in which they arrive. -/
inductive Microtask where
  /-- The `catch` of the lock, for a call. -/
  | lockSettled (k : ℕ)
  /-- The call, after its wait for the lock. -/
  | lockPassed (k : ℕ)
  /-- The call, after its own broadcast. -/
  | broadcastSettled (k : ℕ)
  deriving DecidableEq, Repr

/-- `started`, `finished` and `dispatched` are not in the program: they list the calls whose height
broadcast has started and has ended, and whose block was sent to a witness thread. -/
structure PoC where
  calls : List BlockProcessedCall
  blockProcessedLock : Option ℕ
  microtasks : List Microtask
  started : List ℕ
  finished : List ℕ
  dispatched : List ℕ
  deriving DecidableEq, Repr

namespace PoC

def init : PoC where
  calls := []
  blockProcessedLock := none
  microtasks := []
  started := []
  finished := []
  dispatched := []

/-- Whether a promise is settled. -/
def settled (s : PoC) (lock : Option ℕ) : Bool := lock.all fun k => s.finished.contains k

/-- The calls that wait for the broadcast of a call. -/
def waiters (s : PoC) (k : ℕ) : List ℕ :=
  (List.range s.calls.length).filter fun j =>
    (s.calls[j]?.map BlockProcessedCall.lock) = some (some k)

/-- `onBlockProcessed`, up to its first `await`. -/
def onBlockProcessed (s : PoC) (blockNumber : ℕ) : PoC :=
  { s with
    calls := s.calls ++ [⟨blockNumber, s.blockProcessedLock⟩]
    microtasks :=
      if s.settled s.blockProcessedLock then s.microtasks ++ [.lockSettled s.calls.length]
      else s.microtasks }

/-- A call starts its broadcast, which is the lock from now on. -/
def lockPassed (s : PoC) (k : ℕ) : PoC :=
  { s with started := s.started ++ [k], blockProcessedLock := some k }

/-- A call sends its block to a witness thread. -/
def broadcastSettled (s : PoC) (k : ℕ) : PoC := { s with dispatched := s.dispatched ++ [k] }

def runMicrotask (s : PoC) : Microtask → PoC
  | .lockSettled k => { s with microtasks := s.microtasks ++ [.lockPassed k] }
  | .lockPassed k => s.lockPassed k
  | .broadcastSettled k => s.broadcastSettled k

/-- A broadcast has ended or failed: first the call goes on, then those that wait for it. -/
def settleBroadcast (s : PoC) (k : ℕ) : PoC :=
  { s with
    finished := s.finished ++ [k]
    microtasks := s.microtasks ++ .broadcastSettled k :: (s.waiters k).map .lockSettled }

end PoC

inductive PoCEvent where
  /-- `BLOCK_PROCESSED`. -/
  | blockProcessed (blockNumber : ℕ)
  /-- The height broadcast of a call ends, or fails. -/
  | broadcastEnds (k : ℕ)
  | microtask
  deriving DecidableEq, Repr

namespace PoC

def step (s : PoC) : PoCEvent → Option PoC
  | .blockProcessed blockNumber => some (s.onBlockProcessed blockNumber)
  | .broadcastEnds k =>
    if k ∈ s.started ∧ k ∉ s.finished then some (s.settleBroadcast k) else none
  | .microtask =>
    match s.microtasks with
    | [] => none
    | task :: rest => some ({ s with microtasks := rest }.runMicrotask task)

end PoC

end OpnetNode
