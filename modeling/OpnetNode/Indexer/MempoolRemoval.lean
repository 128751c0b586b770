import Mathlib.Data.Nat.Notation
import Mathlib.Tactic.Common
import OpnetNode.Collection
import OpnetNode.Transition

/-!
# What a task removes from the mempool

Once its block is executed and verified, `IndexingTask.process` removes the block's transactions from
the mempool, and then finalises the block and removes the transactions in conflict with it, the two
side by side.  The task can be cancelled at any time, any awaited call may throw (a deletion that is
reported as failed may have landed), and other components change the mempool meanwhile.

* `MempoolTask`: a task that is processed, with the mempool; `removed` is not in the program: it
  records what the task has removed.
* `step`: one event of the task or of its surroundings.
* `Intact`: a task that was stopped has removed nothing.
-/

namespace OpnetNode

structure SpentOutPoint where
  transactionId : String
  outputIndex : ℕ
  deriving DecidableEq, Repr

/-- What the removal reads of a transaction, of the block or of the mempool. -/
structure SpendingTransaction where
  id : String
  inputs : List SpentOutPoint
  deriving DecidableEq, Repr

namespace MempoolRepository

/-- The stored transactions `deleteTransactionsById` removes. -/
def withIds (ids : List String) (mempool : Collection SpendingTransaction) :
    Collection SpendingTransaction :=
  mempool.filter fun tx => ids.contains tx.id

def deleteTransactionsById (ids : List String) :
    Collection SpendingTransaction → Collection SpendingTransaction :=
  Collection.deleteMany fun tx => ids.contains tx.id

/-- The stored transactions other than the given one that spend one of its outpoints. -/
def findConflictingTransactions (transaction : SpendingTransaction)
    (mempool : Collection SpendingTransaction) : Collection SpendingTransaction :=
  mempool.filter fun tx =>
    transaction.inputs.any (fun input => tx.inputs.contains input) && decide (tx.id ≠ transaction.id)

end MempoolRepository

/-- Where `detectAndRemoveConflictingTransactions` is. -/
inductive ConflictScan where
  /-- The queries of a batch are under way; `later` is the rest of the block. -/
  | querying (batch later : List SpendingTransaction) (conflictIds : List String)
  | removing (conflictIds : List String)
  /-- It has ended: there was nothing to remove. -/
  | nothing
  | removed
  deriving DecidableEq, Repr

/-- Where `finalizeBlock` is. -/
inductive Finalization where
  | notStarted
  | saving
  /-- The block was aborted before, or a write failed: it is reverted. -/
  | reverting
  | finished (result : Bool)
  deriving DecidableEq, Repr

/-- How `process` ended. -/
inductive TaskOutcome where
  | completed
  | foundAborted
  | failed
  deriving DecidableEq, Repr

/-- Where `process` is. -/
inductive RemovalPhase where
  | prefetching
  | executing
  | submitting
  | verifying
  | removingTransactions
  /-- Both sides are awaited. -/
  | finalizing (scan : ConflictScan)
  /-- `onComplete` is awaited. -/
  | completing
  | ended (outcome : TaskOutcome)
  deriving DecidableEq, Repr

namespace RemovalPhase

/-- The phases before the finalisation of the block. -/
def isEarly : RemovalPhase → Bool
  | .prefetching | .executing | .submitting | .verifying | .removingTransactions => true
  | .finalizing _ | .completing | .ended _ => false

/-- The phases between the last look at the abort flag in `execute` and the last one of all. -/
def isExposed : RemovalPhase → Bool
  | .submitting | .verifying | .removingTransactions | .finalizing _ => true
  | .prefetching | .executing | .completing | .ended _ => false

/-- The removal of the conflicting transactions has begun. -/
def removesConflicts : RemovalPhase → Bool
  | .finalizing (.removing _) | .finalizing .removed => true
  | _ => false

end RemovalPhase

structure MempoolTask where
  /-- `Config.DEV.RESYNC_BLOCK_HEIGHTS` is set. -/
  resync : Bool
  transactions : List SpendingTransaction
  mempool : Collection SpendingTransaction
  phase : RemovalPhase
  finalization : Finalization
  aborted : Bool
  chainReorged : Bool
  /-- `verifyReorg` has returned true. -/
  foundReorged : Bool
  removed : List SpendingTransaction
  deriving DecidableEq, Repr

namespace MempoolTask

open MempoolRepository

def BATCH_SIZE : ℕ := 500

/-- `process` is called. -/
def start (resync : Bool) (transactions : List SpendingTransaction)
    (mempool : Collection SpendingTransaction) : MempoolTask where
  resync := resync
  transactions := transactions
  mempool := mempool
  phase := .prefetching
  finalization := .notStarted
  aborted := false
  chainReorged := false
  foundReorged := false
  removed := []

inductive ProcessEvent where
  /-- `cancel(reorged)`. -/
  | cancel (reorged : Bool)
  | mempoolChanged (mempool : Collection SpendingTransaction)
  /-- The awaited call of the process throws, landed or not where it is a deletion. -/
  | threw (landed : Bool)
  /-- The block is there. -/
  | prefetched
  /-- `Block.execute` returns. -/
  | executed
  /-- `Block.processSubmissions` returns. -/
  | submitted
  /-- `verifyReorg` returns. -/
  | verified (reorged : Bool)
  /-- `deleteTransactionsById` of the block's transactions returns. -/
  | transactionsDeleted
  /-- `finalizeBlock` has saved the block. -/
  | saved
  /-- A call of `finalizeBlock` throws. -/
  | saveFailed
  /-- The revert in `finalizeBlock` ends. -/
  | reverted
  /-- The conflict query of the `i`-th transaction of the batch returns. -/
  | queried (i : ℕ)
  /-- The conflict query of the `i`-th transaction of the batch throws. -/
  | queryFailed (i : ℕ)
  /-- All queries of the batch have returned. -/
  | batchDone
  /-- `deleteTransactionsById` of the conflicting transactions returns. -/
  | conflictsDeleted
  /-- Both sides have ended. -/
  | joined
  /-- `onComplete` returns. -/
  | completed
  deriving DecidableEq, Repr

def blockTxHashes (s : MempoolTask) : List String := s.transactions.map SpendingTransaction.id

/-- Remove transactions from the mempool, and record what was there. -/
def delete (ids : List String) (s : MempoolTask) : MempoolTask :=
  { s with
    mempool := deleteTransactionsById ids s.mempool
    removed := s.removed ++ withIds ids s.mempool }

def nextBatch (later : List SpendingTransaction) (conflictIds : List String) : ConflictScan :=
  .querying (later.take BATCH_SIZE) (later.drop BATCH_SIZE) conflictIds

/-- The start of `finalizeBlock`, which looks at the abort flag, and of
`detectAndRemoveConflictingTransactions`. -/
def startFinalization (s : MempoolTask) : MempoolTask :=
  { s with
    finalization := if s.aborted then .reverting else .saving
    phase :=
      .finalizing
        (if s.resync ∨ s.transactions = [] then .nothing else nextBatch s.transactions []) }

/-- After `verifyReorg`: in resync mode nothing is removed. -/
def afterVerification (s : MempoolTask) : MempoolTask :=
  if s.resync then startFinalization s else { s with phase := .removingTransactions }

def addConflicts (s : MempoolTask) (tx : SpendingTransaction) (conflictIds : List String) :
    List String :=
  conflictIds ++ ((findConflictingTransactions tx s.mempool).map SpendingTransaction.id).filter
    fun id => !s.blockTxHashes.contains id && !conflictIds.contains id

/-- What follows a batch of conflict queries. -/
def afterBatch (s : MempoolTask) (later : List SpendingTransaction) (conflictIds : List String) :
    MempoolTask :=
  -- a throw here ends the process while the block may still be saved
  if s.aborted then { s with phase := .ended .foundAborted }
  else if later = [] then
    { s with phase := .finalizing (if conflictIds = [] then .nothing else .removing conflictIds) }
  else { s with phase := .finalizing (nextBatch later conflictIds) }

/-- What follows the two sides. -/
def afterFinalization (s : MempoolTask) : MempoolTask :=
  if s.aborted then { s with phase := .ended .foundAborted }
  else if s.finalization = .finished true then { s with phase := .completing }
  else { s with phase := .ended .failed }

def step (s : MempoolTask) : ProcessEvent → Option MempoolTask
  | .cancel reorged => some { s with aborted := true, chainReorged := reorged }
  | .mempoolChanged mempool => some { s with mempool }
  | .threw landed =>
    match s.phase with
    | .removingTransactions =>
      some { (if landed then s.delete s.blockTxHashes else s) with phase := .ended .failed }
    | .finalizing (.removing conflictIds) =>
      some { (if landed then s.delete conflictIds else s) with phase := .ended .failed }
    | .finalizing _ | .ended _ => none
    | _ => some { s with phase := .ended .failed }
  | .prefetched =>
    match s.phase with
    | .prefetching => some { s with phase := .executing }
    | _ => none
  | .executed =>
    match s.phase with
    -- an aborted block throws
    | .executing => if s.aborted then none else some { s with phase := .submitting }
    | _ => none
  | .submitted =>
    match s.phase with
    | .submitting =>
      some (if s.chainReorged then afterVerification s else { s with phase := .verifying })
    | _ => none
  | .verified reorged =>
    match s.phase with
    | .verifying =>
      -- nothing asks for the flag here
      some (afterVerification
        { s with chainReorged := reorged, foundReorged := s.foundReorged || reorged })
    | _ => none
  | .transactionsDeleted =>
    match s.phase with
    | .removingTransactions => some (startFinalization (s.delete s.blockTxHashes))
    | _ => none
  -- `finalizeBlock` goes on when the process has ended
  | .saved =>
    if s.finalization = .saving then some { s with finalization := .finished true } else none
  | .saveFailed =>
    if s.finalization = .saving then some { s with finalization := .reverting } else none
  | .reverted =>
    if s.finalization = .reverting then some { s with finalization := .finished false } else none
  | .queried i =>
    match s.phase with
    | .finalizing (.querying batch later conflictIds) =>
      (batch[i]?).map fun tx =>
        { s with
          phase := .finalizing
            (.querying (batch.eraseIdx i) later (addConflicts s tx conflictIds)) }
    | _ => none
  | .queryFailed i =>
    match s.phase with
    | .finalizing (.querying batch later conflictIds) =>
      (batch[i]?).map fun _ =>
        { s with phase := .finalizing (.querying (batch.eraseIdx i) later conflictIds) }
    | _ => none
  | .batchDone =>
    match s.phase with
    | .finalizing (.querying [] later conflictIds) => some (afterBatch s later conflictIds)
    | _ => none
  | .conflictsDeleted =>
    match s.phase with
    | .finalizing (.removing conflictIds) =>
      some { s.delete conflictIds with phase := .finalizing .removed }
    | _ => none
  | .joined =>
    match s.finalization, s.phase with
    | .finished _, .finalizing .nothing | .finished _, .finalizing .removed =>
      some (afterFinalization s)
    | _, _ => none
  | .completed =>
    match s.phase with
    | .completing => some { s with phase := .ended .completed }
    | _ => none

/-- A process that ended found reorged, found aborted or without its block finalised has removed
nothing from the mempool. -/
def Intact (s : MempoolTask) : Prop :=
  ∀ outcome, s.phase = .ended outcome →
    s.foundReorged = true ∨ outcome = .foundAborted ∨ s.finalization ≠ .finished true →
      s.removed = []

/-- The steps for which the order of the removals and the looks at the flag is enough.  `absent`: the
deletion of the block's transactions finds none of them in the mempool; `clear`: nor does that of the
conflicting ones. -/
def Orderly (absent clear : Bool) (s : MempoolTask) : ProcessEvent → Prop
  -- `execute` ends a task that is cancelled before the removals, a batch one that is cancelled before
  -- the second of them
  | .cancel _ =>
    s.phase.isExposed = true →
      absent = true ∧ (clear = true ∨ s.phase.removesConflicts = false)
  -- nothing but a cancellation keeps a reorged task from removing
  | .verified reorged => reorged = true → absent = true ∧ (clear = true ∨ s.aborted = true)
  | .saveFailed =>
    ∀ scan, s.phase = .finalizing scan →
      absent = true ∧ (clear = true ∨ s.aborted = true ∨ scan = .nothing)
  | .transactionsDeleted => absent = true → withIds s.blockTxHashes s.mempool = []
  | .conflictsDeleted =>
    ∀ conflictIds, s.phase = .finalizing (.removing conflictIds) →
      clear = true → withIds conflictIds s.mempool = []
  | .threw landed =>
    (s.phase = .removingTransactions → landed = true → withIds s.blockTxHashes s.mempool = []) ∧
      ∀ conflictIds, s.phase = .finalizing (.removing conflictIds) →
        (landed = true → clear = true → withIds conflictIds s.mempool = []) ∧
          (s.finalization = .finished true ∨ (absent = true ∧ (landed = true → clear = true)))
  | _ => True

end MempoolTask

end OpnetNode
