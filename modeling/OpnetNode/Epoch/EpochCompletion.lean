import OpnetNode.Epoch.EpochMerkleTree

/-!
# The completion of a block, as far as its epoch goes

`onCompletedTask` updates the epoch and then advances the height.  Between its check of the abort
flag and `setNewHeight` it waits for the reads of `finalizeEpochCompletion`, for the three writes of
`finalizeEpoch` and for the messages to the plugin thread; each of these may fail, and a revert may
come in between.

* `CompletingTask`: a task that has passed the check, and how far it is.
* `step`: a block is stored and its task passes the check; the task reads what finalising an epoch
  needs, its writes settle, it advances the height; a revert.

The proofs of the witnesses and the target epochs, which the other two writes change, are left out.
-/

namespace OpnetNode

/-- How a write settles; one that is rejected may have landed. -/
inductive WriteOutcome where
  | fulfilled
  | rejected (landed : Bool)
  deriving DecidableEq, Repr

/-- What a write leaves of what it finds. -/
def WriteOutcome.leaves {α : Type} (write : α → α) (found : α) : WriteOutcome → α
  | .fulfilled => write found
  | .rejected true => write found
  | .rejected false => found

/-- What the writes of `finalizeEpoch` come to. -/
structure FinalizeOutcomes where
  updateWitnessProofs : WriteOutcome
  saveEpoch : WriteOutcome
  deleteOldTargetEpochs : WriteOutcome
  deriving DecidableEq, Repr

/-- What the storage answers to the reads of `finalizeEpochCompletion` that are not of headers or
epochs. -/
structure FinalizeReads where
  getSubmissionsByEpochNumber : ℕ → List EpochSubmissionDocument
  getWitnesses : ℕ → List BlockWitness

/-- How far a task is that is not found reorged or aborted. -/
inductive CompletionPhase (Hash : Type) where
  /-- In `updateEpoch`. -/
  | updating
  /-- In the writes of `finalizeEpoch`. -/
  | saving (epoch : FinalEpoch Hash)
  /-- `updateEpoch` has returned, or waits for the plugin thread. -/
  | updated

/-- A task in `onCompletedTask`. -/
structure CompletingTask (Hash : Type) where
  tip : ℕ
  phase : CompletionPhase Hash

/-- The checksum roots of the stored headers, the epochs, the height of the next block (one more than
`pendingBlockHeight`), the tasks in `onCompletedTask`, and the blocks whose `saveEpoch` was rejected
without `updateEpoch` rejecting. -/
structure CompletionNode (Hash : Type) where
  checksumRoots : List Bytes
  epochs : Collection (FinalEpoch Hash)
  height : ℕ
  tasks : List (CompletingTask Hash)
  unreported : List ℕ

/-- What can happen to a node, as far as the completion of its blocks goes. -/
inductive CompletionEvent where
  /-- The next block is stored, and its task is neither reorged nor aborted. -/
  | storeBlock (checksumRoot : Bytes)
  /-- The next block is stored, no further. -/
  | interruptBlock (checksumRoot : Bytes)
  /-- The reads of `updateEpoch`; `none` if one of them rejects. -/
  | readEpoch (i : ℕ) (reads : Option FinalizeReads)
  /-- The writes of `finalizeEpoch` settle. -/
  | settleWrites (i : ℕ) (outcomes : FinalizeOutcomes)
  /-- `setNewHeight`, which changes the height before it writes it. -/
  | setNewHeight (i : ℕ) (taskInProgress : Bool)
  | revertDataUntilBlock (blockId : ℕ)

namespace EpochRepository

/-- `saveEpoch`, with what the tree of the epoch adds. -/
def saveFinalEpoch {Hash : Type} (epoch : FinalEpoch Hash) :
    Collection (FinalEpoch Hash) → Collection (FinalEpoch Hash) :=
  Collection.upsertOne (fun e => decide (e.epochNumber = epoch.epochNumber)) (fun _ => epoch) epoch

/-- `deleteEpochFromBitcoinBlockNumber`. -/
def deleteFinalEpochs {Hash : Type} (blockId : ℕ) :
    Collection (FinalEpoch Hash) → Collection (FinalEpoch Hash) :=
  Collection.deleteMany fun epoch => decide (blockId ≤ epoch.startBlock)

end EpochRepository

namespace CompletionNode

open EpochManager EpochRepository

variable (env : EpochEnvironment) (tenv : EpochTreeEnvironment)

def init : CompletionNode tenv.rust.Hash := ⟨[], [], 0, [], []⟩

/-- Whether the block at a height is the first one of a new epoch. -/
def closesEpoch (tip : ℕ) : Bool := decide (tip % BLOCKS_PER_EPOCH = 0 ∧ 0 < tip)

/-- The task `i` moves on. -/
def withTask {Hash : Type} (node : CompletionNode Hash) (i : ℕ) (task : CompletingTask Hash) :
    CompletionNode Hash :=
  { node with tasks := node.tasks.set i task }

/-- The task `i` ends: it throws, or has nothing more to do here. -/
def endTask {Hash : Type} (node : CompletionNode Hash) (i : ℕ) : CompletionNode Hash :=
  { node with tasks := node.tasks.eraseIdx i }

/-- `updateEpoch` up to the writes. -/
def readEpoch (node : CompletionNode tenv.rust.Hash) (i : ℕ) (task : CompletingTask tenv.rust.Hash)
    (reads : Option FinalizeReads) : CompletionNode tenv.rust.Hash :=
  if closesEpoch task.tip then
    match reads with
    | none => node.endTask i
    | some reads =>
      match completeEpoch env tenv
        ⟨node.checksumRoots, reads.getSubmissionsByEpochNumber, reads.getWitnesses⟩ node.epochs
        (task.tip / BLOCKS_PER_EPOCH - 1) with
      | .error _ => node.endTask i
      | .ok epoch => node.withTask i ⟨task.tip, .saving epoch⟩
  else node.withTask i ⟨task.tip, .updated⟩

/-- The writes of `finalizeEpoch`: `Promise.allSettled` does not reject, and nothing looks at what it
resolves to. -/
def settleWrites {Hash : Type} (node : CompletionNode Hash) (i tip : ℕ) (epoch : FinalEpoch Hash)
    (outcomes : FinalizeOutcomes) : CompletionNode Hash :=
  { node with
    epochs := outcomes.saveEpoch.leaves (saveFinalEpoch epoch) node.epochs
    tasks := node.tasks.set i ⟨tip, .updated⟩
    unreported :=
      if outcomes.saveEpoch = .fulfilled then node.unreported else node.unreported ++ [tip] }

def step (node : CompletionNode tenv.rust.Hash) :
    CompletionEvent → Option (CompletionNode tenv.rust.Hash)
  | .storeBlock checksumRoot =>
    if node.checksumRoots.length = node.height then
      some
        { node with
          checksumRoots := node.checksumRoots ++ [checksumRoot]
          tasks := node.tasks ++ [⟨node.height, .updating⟩] }
    else none
  | .interruptBlock checksumRoot =>
    if node.checksumRoots.length = node.height then
      some { node with checksumRoots := node.checksumRoots ++ [checksumRoot] }
    else none
  | .readEpoch i reads =>
    match node.tasks[i]? with
    | some ⟨tip, .updating⟩ => some (readEpoch env tenv node i ⟨tip, .updating⟩ reads)
    | _ => none
  | .settleWrites i outcomes =>
    match node.tasks[i]? with
    | some ⟨tip, .saving epoch⟩ => some (node.settleWrites i tip epoch outcomes)
    | _ => none
  | .setNewHeight i taskInProgress =>
    match node.tasks[i]? with
    | some ⟨tip, .updated⟩ =>
      if taskInProgress then some { node.endTask i with height := tip + 1 }
      -- "Two tasks are running at the same time."
      else some (node.endTask i)
    | _ => none
  | .revertDataUntilBlock blockId =>
    if blockId ≤ node.height then
      some
        { node with
          checksumRoots := node.checksumRoots.take blockId
          epochs := deleteFinalEpochs blockId node.epochs
          height := blockId }
    else none

end CompletionNode

end OpnetNode
