import OpnetNode.Transition
import OpnetNode.Witness.BlockWitnessManager

/-!
# The queue of the node's own witnesses

`BlockWitnessManager` has the loop over this queue without its last `await`. Here the loop may be left
at each of them: while it waits for a slot, while a height is set, which may fail, and between its end
and the `finally` that releases `selfQueueDraining`.

* `queueSelfWitness`, `drainSelfWitnessQueue`: a call, which starts the loop unless it is flagged.
* `processSelfQueue`, `shiftSelfWitness`, `startSelfProof`: the loop, from one `await` to the next.
* `settleSelfProof`: what follows a proof.

The callbacks `onComplete` and `onHeightSet` cannot throw out of the loop; a call without them is one
whose callbacks do nothing.
-/

namespace OpnetNode

/-- What is queued by a call; calls are numbered. -/
structure SelfWitnessItem where
  call : ℕ
  data : BlockProcessedData
  deriving DecidableEq, Repr

inductive SelfLoopPhase where
  /-- No loop is under way. -/
  | idle
  /-- The promise that the loop waits for is in `slotWaiters`. -/
  | waitingForSlot
  /-- That promise is resolved. -/
  | slotFreed
  /-- `setCurrentBlock` is under way. -/
  | settingHeight (item : SelfWitnessItem)
  /-- The loop is over, and its `finally` is still to run. -/
  | ended
  deriving DecidableEq, Repr

/-- The queue, next to the manager that has the height. `queued`, `taken`, `started` and `completed`
are not in the program: they list the items that were queued, taken from the queue, started as a proof
(at a height), and completed by a call of `onComplete`. -/
structure SelfWitnessQueue where
  manager : BlockWitnessManager
  selfWitnessQueue : List SelfWitnessItem
  activeSelfProofs : ℕ
  selfQueueDraining : Bool
  slotWaiters : ℕ
  loop : SelfLoopPhase
  /-- The calls of `generateSelfProof` that are under way. -/
  proofs : List SelfWitnessItem
  queued : List SelfWitnessItem
  taken : List SelfWitnessItem
  started : List (SelfWitnessItem × ℤ)
  completed : List SelfWitnessItem

namespace SelfWitnessQueue

open BlockWitnessManager (MAX_CONCURRENT_SELF_PROOFS)

def init : SelfWitnessQueue where
  manager := BlockWitnessManager.init
  selfWitnessQueue := []
  activeSelfProofs := 0
  selfQueueDraining := false
  slotWaiters := 0
  loop := .idle
  proofs := []
  queued := []
  taken := []
  started := []
  completed := []

/-- The height of an item is set; one below the current height is a reorg. -/
def setHeightOf (data : BlockProcessedData) (m : BlockWitnessManager) : BlockWitnessManager :=
  if (data.blockNumber : ℤ) < m.currentBlock then
    (m.revertKnownWitnessesReorg data.blockNumber).setCurrentBlock data.blockNumber
  else m.setCurrentBlock data.blockNumber

/-- The body of the loop, from `shift` on. With nothing to shift the loop goes on to its test, and
ends. -/
def shiftSelfWitness (q : SelfWitnessQueue) : SelfWitnessQueue :=
  match q.selfWitnessQueue with
  | [] => { q with loop := .ended }
  | item :: rest =>
    { q with
      manager := setHeightOf item.data q.manager
      selfWitnessQueue := rest
      loop := .settingHeight item
      taken := q.taken ++ [item] }

/-- The loop, from its test on. -/
def processSelfQueue (q : SelfWitnessQueue) : SelfWitnessQueue :=
  if q.selfWitnessQueue = [] then { q with loop := .ended }
  else if MAX_CONCURRENT_SELF_PROOFS ≤ q.activeSelfProofs then
    { q with loop := .waitingForSlot, slotWaiters := q.slotWaiters + 1 }
  else q.shiftSelfWitness

def drainSelfWitnessQueue (q : SelfWitnessQueue) : SelfWitnessQueue :=
  if q.selfQueueDraining then q
  else processSelfQueue { q with selfQueueDraining := true }

/-- A call adds its item to the queue. -/
def pushSelfWitness (data : BlockProcessedData) (q : SelfWitnessQueue) : SelfWitnessQueue :=
  { q with
    selfWitnessQueue := q.selfWitnessQueue ++ [⟨q.queued.length, data⟩]
    queued := q.queued ++ [⟨q.queued.length, data⟩] }

def queueSelfWitness (data : BlockProcessedData) (q : SelfWitnessQueue) : SelfWitnessQueue :=
  (q.pushSelfWitness data).drainSelfWitnessQueue

/-- A proof is under way. -/
def addSelfProof (item : SelfWitnessItem) (q : SelfWitnessQueue) : SelfWitnessQueue :=
  { q with
    activeSelfProofs := q.activeSelfProofs + 1
    proofs := q.proofs ++ [item]
    started := q.started ++ [(item, q.manager.currentBlock)] }

/-- The rest of the body, once the height is set, and on to the next item. -/
def startSelfProof (item : SelfWitnessItem) (q : SelfWitnessQueue) : SelfWitnessQueue :=
  (q.addSelfProof item).processSelfQueue

/-- A waiter is woken, if there is one. -/
def wakeSlotWaiter (q : SelfWitnessQueue) : SelfWitnessQueue :=
  if 0 < q.slotWaiters then { q with slotWaiters := q.slotWaiters - 1, loop := .slotFreed } else q

/-- The `finally` of a proof, however it ended. -/
def settleSelfProof (k : ℕ) (item : SelfWitnessItem) (q : SelfWitnessQueue) : SelfWitnessQueue :=
  wakeSlotWaiter
    { q with
      activeSelfProofs := q.activeSelfProofs - 1
      proofs := q.proofs.eraseIdx k
      completed := q.completed ++ [item] }

end SelfWitnessQueue

inductive SelfQueueEvent where
  | queueSelfWitness (data : BlockProcessedData)
  /-- The loop goes on after its wait for a slot. -/
  | slotFreed
  /-- `setCurrentBlock` is done. -/
  | heightSet
  /-- `setCurrentBlock` has thrown, and the loop with it. -/
  | heightFailed
  /-- The `finally` of the loop. -/
  | released
  /-- The `finally` of a proof that is complete or has failed. -/
  | proofSettled (k : ℕ)
  deriving DecidableEq, Repr

namespace SelfWitnessQueue

def step (q : SelfWitnessQueue) : SelfQueueEvent → Option SelfWitnessQueue
  | .queueSelfWitness data => some (q.queueSelfWitness data)
  | .slotFreed => if q.loop = .slotFreed then some q.shiftSelfWitness else none
  | .heightSet =>
    match q.loop with
    | .settingHeight item => some (q.startSelfProof item)
    | _ => none
  | .heightFailed =>
    match q.loop with
    | .settingHeight _ => some { q with loop := .ended }
    | _ => none
  | .released =>
    if q.loop = .ended then some { q with selfQueueDraining := false, loop := .idle } else none
  | .proofSettled k => q.proofs[k]?.map fun item => q.settleSelfProof k item

end SelfWitnessQueue

end OpnetNode
