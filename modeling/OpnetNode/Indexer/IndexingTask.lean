import OpnetNode.Epoch.EpochRepository
import OpnetNode.Transition

/-!
# An indexing task beside a revert

`process` is a chain of awaited calls, with the finalisation of the block beside the search for
conflicting transactions near its end. `cancel` sets an abort flag and waits for the prefetch only: the
task goes on until it looks at the flag again, and so do the saves that it does not wait for and the
finalisation, which no other failure stops. A revert cancels the tasks and then deletes from one
collection after another.

* `ProcessPoint`: the places where `process` waits; `TaskRun.returned`: what it does from one to the next.
* `TaskRun.move`: a step of a task, of its finalisation or of a save in the background.
* `TaskSystem`: the tasks, the reverts, and the writes that have landed.

A write that is reported as failed may have landed. What is read, and `updateWitnessProofs`, which
changes only documents that are there, of lower blocks, are left out.
-/

namespace OpnetNode

/-- Where a write goes. -/
inductive StoredIn where
  | transactions
  | contracts
  | pointers
  | mldsaPublicKeys
  | epochSubmissions
  | blockHeaders
  | epochs
  | targetEpochs
  | mempool
  /-- The in-progress height. -/
  | blockchainInfo
  deriving DecidableEq, Repr

/-- What there is to do in a block. -/
structure BlockWork where
  /-- `Config.DEV.RESYNC_BLOCK_HEIGHTS` is set. -/
  resync : Bool
  genericTransactions : Bool
  /-- For each OP_NET transaction, how many contracts it deploys. -/
  opnetTransactions : List ℕ
  mldsaPublicKeys : Bool
  storagePointers : Bool
  epochSubmissions : ℕ
  /-- The batches of the search for conflicting transactions. -/
  batches : ℕ
  deriving DecidableEq, Repr

/-- Where `process` waits. -/
inductive ProcessPoint where
  /-- For the block. -/
  | prefetching
  /-- The block is there. -/
  | readingSolutions
  | readingPreviousHeader
  /-- A transaction, with the contracts that it still deploys and the transactions after it. -/
  | executing (deployed : ℕ) (later : List ℕ)
  | savingMLDSAPublicKeys
  | savingPointers
  | signing
  | readingSubmissions
  /-- Submissions are saved side by side. -/
  | savingSubmissions (left : ℕ) (failed : Bool)
  | verifyingReorg
  | deletingTransactions
  /-- A batch of conflict queries, with the batches after it; the block is finalised beside it. -/
  | scanning (left : ℕ)
  | deletingConflicts
  | awaitingFinalization
  | readingEpoch
  /-- What `finalizeEpoch` saves side by side. -/
  | savingEpoch (left : List StoredIn)
  | notifyingEpoch
  | savingHeight
  | ended
  deriving DecidableEq, Repr

/-- Where `finalizeBlock` waits. -/
inductive FinalizationPoint where
  | notStarted
  /-- For the saves in the background. -/
  | joining
  | savingHeader
  | reverting
  | finished (result : Bool)
  deriving DecidableEq, Repr

/-- A save in the background, of the transactions of one kind. -/
inductive TransactionSave where
  | generic
  | opnet
  deriving DecidableEq, Repr

/-- A task that is processed; `background`: the saves that have not ended, and whether one of the
OP_NET transactions has failed. -/
structure TaskRun where
  tip : ℕ
  work : BlockWork
  point : ProcessPoint
  finalization : FinalizationPoint
  background : List TransactionSave
  saveFailed : Bool
  aborted : Bool
  chainReorged : Bool
  deriving DecidableEq, Repr

/-- A step of a task. -/
inductive TaskMove where
  /-- The awaited call returns, with its write landed; `answer`: it has found a reorg, conflicts, or has
  deployed the contract. -/
  | returned (answer : Bool)
  /-- The awaited call throws, with its write landed or not. -/
  | threw (landed : Bool)
  /-- One of the saves that are awaited side by side ends. -/
  | settled (collection : StoredIn) (landed rejected : Bool)
  /-- The awaited call of `finalizeBlock` returns. -/
  | finalizationReturned
  | finalizationThrew (landed : Bool)
  | transactionsSaved (save : TransactionSave)
  | transactionsNotSaved (save : TransactionSave) (landed : Bool)
  deriving DecidableEq, Repr

namespace TaskRun

/-- `process` is called. -/
def start (tip : ℕ) (work : BlockWork) : TaskRun :=
  ⟨tip, work, .prefetching, .notStarted, [], false, false, false⟩

def goTo (point : ProcessPoint) (t : TaskRun) : TaskRun := { t with point }

/-- `verifyIfBlockAborted`, and on. -/
def goUnlessAborted (point : ProcessPoint) (t : TaskRun) : TaskRun :=
  t.goTo (if t.aborted then .ended else point)

/-- `insertPartialTransactions`, and `saveOPNetTransactions`. -/
def saveInBackground (save : TransactionSave) (some : Bool) (t : TaskRun) : TaskRun :=
  if some && !t.work.resync then { t with background := save :: t.background } else t

def savePointers (t : TaskRun) : TaskRun :=
  if t.work.storagePointers && !t.work.resync then t.goTo .savingPointers
  else t.goUnlessAborted .signing

def saveBlockStateChanges (t : TaskRun) : TaskRun :=
  if t.work.mldsaPublicKeys && !t.work.resync then t.goTo .savingMLDSAPublicKeys else t.savePointers

def executeOPNetTransactions (transactions : List ℕ) (t : TaskRun) : TaskRun :=
  match transactions with
  | [] => t.saveBlockStateChanges
  | deployed :: later => t.goTo (.executing deployed later)

/-- `finalizeBlock` begins, and looks at the flag, and the search for conflicts beside it. -/
def startFinalization (t : TaskRun) : TaskRun :=
  { t with
    finalization := if t.aborted then .reverting else .joining
    point :=
      if t.work.resync || t.work.batches = 0 then .awaitingFinalization
      else .scanning (t.work.batches - 1) }

def onCompletedTask (t : TaskRun) : TaskRun :=
  if t.chainReorged then t.goTo .ended
  else if t.tip % BLOCKS_PER_EPOCH = 0 ∧ 0 < t.tip then t.goTo .readingEpoch
  else t.goTo .savingHeight

/-- `process` from the return of an awaited call to the next one, and the write that has landed. -/
def returned (answer : Bool) (t : TaskRun) : Option (TaskRun × Option StoredIn) :=
  match t.point with
  -- an abort ends the prefetch with an error
  | .prefetching => some (t.goUnlessAborted .readingSolutions, none)
  | .readingSolutions =>
    some ((t.saveInBackground .generic t.work.genericTransactions).goTo .readingPreviousHeader, none)
  | .readingPreviousHeader => some (t.executeOPNetTransactions t.work.opnetTransactions, none)
  -- a deployment that fails is caught
  | .executing (deployed + 1) later =>
    some (t.goTo (.executing deployed later), if answer then some .contracts else none)
  | .executing 0 later =>
    some (if t.aborted then t.goTo .ended else t.executeOPNetTransactions later, none)
  | .savingMLDSAPublicKeys => some (t.savePointers, some .mldsaPublicKeys)
  | .savingPointers => some (t.goUnlessAborted .signing, some .pointers)
  | .signing =>
    some
      (if t.aborted then t.goTo .ended
        else (t.saveInBackground .opnet (!t.work.opnetTransactions.isEmpty)).goTo .readingSubmissions,
        none)
  | .readingSubmissions => some (t.goTo (.savingSubmissions t.work.epochSubmissions false), none)
  | .savingSubmissions left failed =>
    if left = 0 then some (t.goTo (if failed then .ended else .verifyingReorg), none) else none
  -- nothing looks at the answer or at the flag
  | .verifyingReorg =>
    let t := { t with chainReorged := t.chainReorged || answer }
    some (if t.work.resync then t.startFinalization else t.goTo .deletingTransactions, none)
  | .deletingTransactions => some (t.startFinalization, some .mempool)
  | .scanning left =>
    some
      (t.goUnlessAborted
        (if left ≠ 0 then .scanning (left - 1)
          else if answer then .deletingConflicts else .awaitingFinalization), none)
  | .deletingConflicts => some (t.goTo .awaitingFinalization, some .mempool)
  | .awaitingFinalization =>
    match t.finalization with
    | .finished result =>
      some (if t.aborted || !result then t.goTo .ended else t.onCompletedTask, none)
    | _ => none
  | .readingEpoch => some (t.goTo (.savingEpoch [.epochs, .targetEpochs]), none)
  | .savingEpoch left => if left = [] then some (t.goTo .notifyingEpoch, none) else none
  | .notifyingEpoch => some (t.goTo .savingHeight, none)
  | .savingHeight => some (t.goTo .ended, some .blockchainInfo)
  | .ended => none

/-- The write that is awaited, if there is one. -/
def awaited : ProcessPoint → Option StoredIn
  | .executing (_ + 1) _ => some .contracts
  | .savingMLDSAPublicKeys => some .mldsaPublicKeys
  | .savingPointers => some .pointers
  | .deletingTransactions | .deletingConflicts => some .mempool
  | .savingHeight => some .blockchainInfo
  | _ => none

/-- The awaited call throws, and `process` ends; what goes on beside it is not stopped. -/
def threw (landed : Bool) (t : TaskRun) : Option (TaskRun × Option StoredIn) :=
  match t.point with
  -- the errors of these are caught, or come after all of them
  | .scanning _ | .awaitingFinalization | .savingSubmissions _ _ | .savingEpoch _ | .ended => none
  | point => some (t.goTo .ended, if landed then awaited point else none)

/-- One of the saves that are awaited side by side ends. -/
def settled (collection : StoredIn) (landed rejected : Bool) (t : TaskRun) :
    Option (TaskRun × Option StoredIn) :=
  match t.point with
  | .savingSubmissions (left + 1) failed =>
    if collection = .epochSubmissions then
      some (t.goTo (.savingSubmissions left (failed || rejected)),
        if landed then some collection else none)
    else none
  | .savingEpoch left =>
    -- `Promise.allSettled`
    if collection ∈ left then
      some (t.goTo (.savingEpoch (left.erase collection)), if landed then some collection else none)
    else none
  | _ => none

/-- `finalizeBlock` from one awaited call to the next. -/
def finalizationReturned (t : TaskRun) : Option (TaskRun × Option StoredIn) :=
  match t.finalization with
  | .joining =>
    if t.background = [] then
      some ({ t with finalization := if t.saveFailed then .reverting else .savingHeader }, none)
    else none
  | .savingHeader => some ({ t with finalization := .finished true }, some .blockHeaders)
  | .reverting =>
    if t.background = [] then some ({ t with finalization := .finished false }, none) else none
  | _ => none

def finalizationThrew (landed : Bool) (t : TaskRun) : Option (TaskRun × Option StoredIn) :=
  if t.finalization = .savingHeader then
    some ({ t with finalization := .reverting }, if landed then some .blockHeaders else none)
  else none

/-- A save in the background that fails: that of the generic transactions aborts the task. -/
def transactionsNotSaved (save : TransactionSave) (landed : Bool) (t : TaskRun) :
    Option (TaskRun × Option StoredIn) :=
  if save ∈ t.background then
    some
      ({ t with
        background := t.background.erase save
        aborted := t.aborted || save = .generic
        saveFailed := t.saveFailed || save = .opnet }, if landed then some .transactions else none)
  else none

def transactionsSaved (save : TransactionSave) (t : TaskRun) : Option (TaskRun × Option StoredIn) :=
  if save ∈ t.background then
    some ({ t with background := t.background.erase save }, some .transactions)
  else none

/-- The task after a step, and the write that has landed. -/
def move (t : TaskRun) : TaskMove → Option (TaskRun × Option StoredIn)
  | .returned answer => t.returned answer
  | .threw landed => t.threw landed
  | .settled collection landed rejected => t.settled collection landed rejected
  | .finalizationReturned => t.finalizationReturned
  | .finalizationThrew landed => t.finalizationThrew landed
  | .transactionsSaved save => t.transactionsSaved save
  | .transactionsNotSaved save landed => t.transactionsNotSaved save landed

end TaskRun

/-- A write that has landed, of the task with a number. -/
structure TaskWrite where
  task : ℕ
  tip : ℕ
  collection : StoredIn
  deriving DecidableEq, Repr

/-- A revert: it has cancelled the first `cancelled` tasks. -/
structure TaskRevert where
  fromHeight : ℕ
  cancelled : ℕ
  /-- The collections it has deleted from, each with how many writes had landed. -/
  deleted : List (StoredIn × ℕ)
  deriving DecidableEq, Repr

structure TaskSystem where
  tasks : List TaskRun
  reverts : List TaskRevert
  writes : List TaskWrite
  deriving DecidableEq, Repr

namespace TaskSystem

def initial : TaskSystem := ⟨[], [], []⟩

inductive TaskEvent where
  /-- `process` is called. -/
  | startTask (tip : ℕ) (work : BlockWork)
  | moved (i : ℕ) (move : TaskMove)
  /-- A revert cancels the tasks. -/
  | stopAllTasks (fromHeight : ℕ)
  /-- The `k`-th revert deletes from a collection; of the in-progress height, sets it back. -/
  | deleted (k : ℕ) (collection : StoredIn)
  deriving DecidableEq, Repr

/-- Replace a task, and record what has landed. -/
def update (i : ℕ) (t : TaskRun) (landed : Option StoredIn) (s : TaskSystem) : TaskSystem :=
  { s with
    tasks := s.tasks.set i t
    writes := s.writes ++ (landed.map fun collection => ⟨i, t.tip, collection⟩).toList }

def step (s : TaskSystem) : TaskEvent → Option TaskSystem
  | .startTask tip work => some { s with tasks := s.tasks ++ [.start tip work] }
  | .moved i move =>
    s.tasks[i]?.bind fun t => (t.move move).map fun (t', landed) => update i t' landed s
  | .stopAllTasks fromHeight =>
    some { s with
      tasks := s.tasks.map fun t => { t with aborted := true }
      reverts := s.reverts ++ [⟨fromHeight, s.tasks.length, []⟩] }
  | .deleted k collection =>
    s.reverts[k]?.map fun revert =>
      let deleted := (collection, s.writes.length) :: revert.deleted
      { s with reverts := s.reverts.set k { revert with deleted } }

end TaskSystem

end OpnetNode
