import OpnetNode.Vm.VMManager

/-!
# Executing the transactions of a block

`Block` runs its OP_NET transactions one after the other over a `VMManager`: each evaluation is
written into the storage and receipt trees of the block by `updateBlockValuesFromResult`, and a
transaction that throws anywhere, also in that update, is recorded as failed.
`updateEvaluatedStates` freezes both trees and saves the storage.

Not in the model: the ML-DSA keys saved along with the storage (they are in `Mldsa`), and the
resynchronisation mode of the development settings, in which nothing is saved.
-/

namespace OpnetNode

/-! ### Saving storage -/

namespace VMStorage

/-- The `updateOne` with `upsert` of one slot: the first document of that slot and height gets the
value, or a new one is added. -/
def upsertPointer (doc : PointerDocument) : List PointerDocument → List PointerDocument
  | [] => [doc]
  | d :: docs =>
    if d.contractAddress = doc.contractAddress ∧ d.pointer = doc.pointer ∧
        d.lastSeenAt = doc.lastSeenAt then doc :: docs
    else d :: upsertPointer doc docs

/-- The documents of the slots of a block; those of the address used for padding are left out. -/
def pointerDocuments (dead : Bytes) (storage : Slots) (lastSeenAt : Nat) : List PointerDocument :=
  (storage.entries.filter fun entry => entry.1 ≠ dead).flatMap fun entry =>
    entry.2.entries.map fun slot => ⟨entry.1, slot.1, slot.2, lastSeenAt⟩

def setStoragePointers (dead : Bytes) (storage : Slots) (lastSeenAt : Nat) (db : VMStorage) :
    VMStorage :=
  { db with
    pointers := (pointerDocuments dead storage lastSeenAt).foldl
      (fun docs doc => upsertPointer doc docs) db.pointers }

end VMStorage

namespace VMManager

variable (env : VmEnvironment) (T : RustMerkleTree)

def prepareBlock (blockId : Nat) (vm : VMManager) : VMManager :=
  { vm with height := blockId, blockState := some .new, receiptState := some .new }

/-- The error of a tree as the VM throws it. -/
def ofMerkleError : MerkleError → VmError
  | .frozen => .treeFrozen
  | .rustConstructor => .treeNotBuilt

/-- A step on the storage tree of the block. -/
def onBlockState
    (f : MerkleTree U256 U256 → Except MerkleError (MerkleTree U256 U256)) : VmM Unit := fun vm =>
  match vm.blockState with
  | none => (.error .blockStateNotFound, vm)
  | some tree =>
    match f tree with
    | .ok tree => (.ok (), { vm with blockState := some tree })
    | .error e => (.error (ofMerkleError e), vm)

/-- A step on the receipt tree of the block. -/
def onReceiptState
    (f : MerkleTree ReceiptKey Bytes → Except MerkleError (MerkleTree ReceiptKey Bytes)) :
    VmM Unit := fun vm =>
  match vm.receiptState with
  | none => (.error .receiptStateNotFound, vm)
  | some tree =>
    match f tree with
    | .ok tree => (.ok (), { vm with receiptState := some tree })
    | .error e => (.error (ofMerkleError e), vm)

section

variable {vm : VMManager}

variable {tree : MerkleTree U256 U256}
  {f : MerkleTree U256 U256 → Except MerkleError (MerkleTree U256 U256)}

theorem onBlockState_of_ok {tree' : MerkleTree U256 U256}
    (hstate : vm.blockState = some tree) (hf : f tree = .ok tree') :
    onBlockState f vm = (.ok (), { vm with blockState := some tree' }) := by
  unfold onBlockState
  rw [hstate]
  dsimp only
  rw [hf]

variable {e : MerkleError}

theorem onBlockState_of_error (hstate : vm.blockState = some tree) (hf : f tree = .error e) :
    onBlockState f vm = (.error (ofMerkleError e), vm) := by
  unfold onBlockState
  rw [hstate]
  dsimp only
  rw [hf]

theorem onReceiptState_of_ok {tree tree' : MerkleTree ReceiptKey Bytes}
    {f : MerkleTree ReceiptKey Bytes → Except MerkleError (MerkleTree ReceiptKey Bytes)}
    (hstate : vm.receiptState = some tree) (hf : f tree = .ok tree') :
    onReceiptState f vm = (.ok (), { vm with receiptState := some tree' }) := by
  unfold onReceiptState
  rw [hstate]
  dsimp only
  rw [hf]

theorem onReceiptState_of_error {tree : MerkleTree ReceiptKey Bytes}
    {f : MerkleTree ReceiptKey Bytes → Except MerkleError (MerkleTree ReceiptKey Bytes)}
    (hstate : vm.receiptState = some tree) (hf : f tree = .error e) :
    onReceiptState f vm = (.error (ofMerkleError e), vm) := by
  unfold onReceiptState
  rw [hstate]
  dsimp only
  rw [hf]

end

/-- Write the changed storage of a transaction into the tree of the block. -/
def updateStorage (changedStorage : Slots) (tree : MerkleTree U256 U256) : MerkleTree U256 U256 :=
  changedStorage.entries.foldl (fun tree entry => stateKind.updateValues entry.1 entry.2 tree) tree

/-- What is recorded of a transaction that reverted or failed. -/
def revertMarker : Bytes := [0]

/-- The changed storage and the result of an evaluation that is saved. -/
def savedResult (evaluation : Option Locals) : Option (Option Slots × Bytes) :=
  (evaluation.filter fun l => l.evaluation.revert.isNone).bind fun l =>
    l.getEvaluationResult.result.map fun result => (l.getEvaluationResult.changedStorage, result)

/-- The part of `updateBlockValuesFromResult` that writes the two trees. -/
def recordResult (evaluation : Option Locals) (contractAddress transactionId : Bytes) :
    VmM Unit :=
  match savedResult evaluation with
  | some (none, _) => Proc.throw .changedStorageNotFound
  | some (some changedStorage, result) => do
    onBlockState fun tree => .ok (updateStorage changedStorage tree)
    onReceiptState (receiptKind.updateValue contractAddress (.transaction transactionId) result)
  | none =>
    onReceiptState
      (receiptKind.updateValue contractAddress (.transaction transactionId) revertMarker)

def updateBlockValuesFromResult (evaluation : Option Locals) (contractAddress transactionId : Bytes)
    (disableStorageCheck : Bool) : VmM Unit := do
  let vm ← Proc.get
  if vm.isExecutor then pure ()
  else
    Proc.throwIf (vm.blockState.isNone = true) .blockStateNotFound
    Proc.throwIf (vm.receiptState.isNone = true) .receiptStateNotFound
    Proc.throwIf (transactionId = []) .transactionIdNotFound
    recordResult evaluation contractAddress transactionId
    if disableStorageCheck then pure () else onBlockState (stateKind.generateTree T)

/-- `updateReceiptState`; the checksum of the previous block is given, `none` for the zero hash. -/
def updateReceiptState (lastChecksum : Option Bytes) : VmM Unit := do
  Proc.throwIf ((lastChecksum.any fun checksum => checksum.length ≠ 32) = true) .invalidChecksumLength
  onReceiptState (receiptKind.updateValue env.dead .MAX_HASH (lastChecksum.getD []))
  onReceiptState (receiptKind.updateValue env.dead .MAX_MINUS_ONE [1])
  onReceiptState (receiptKind.freeze T env.dead)

/-- Whether `getEverythingWithProofs` finds a proof of every slot. -/
def provesEverything (tree : MerkleTree U256 U256) : Bool :=
  tree.values.entries.all fun entry => entry.2.entries.all fun slot =>
    (getValueWithProofs T tree entry.1 slot.1).isOk

def saveBlockStateChanges : VmM Unit := fun vm =>
  if vm.isExecutor then (.error .executorCannotSave, vm)
  else
    match vm.blockState with
    | none => (.error .blockStateNotFound, vm)
    | some tree =>
      if tree.tree.isNone then (.ok (), vm)
      else if provesEverything T tree then
        (.ok (), { vm with
          database := vm.database.setStoragePointers env.dead tree.values vm.height })
      else (.error .proofNotFound, vm)

/-- `updateEvaluatedStates`: the two trees of the block, once its storage is saved. -/
def updateEvaluatedStates (lastChecksum : Option Bytes) :
    VmM (Option (MerkleTree U256 U256) × Option (MerkleTree ReceiptKey Bytes)) := do
  updateReceiptState env T lastChecksum
  onBlockState (stateKind.freeze T env.dead)
  saveBlockStateChanges env T
  let vm ← Proc.get
  Proc.modify fun vm => { vm with blockState := none, receiptState := none }
  return (vm.blockState, vm.receiptState)

end VMManager

/-! ### The block -/

/-- The settings of the node that the execution of a block reads. -/
structure BlockSettings where
  /-- `Config.OP_NET.DISABLE_SCANNED_BLOCK_STORAGE_CHECK`. -/
  disableStorageCheck : Bool
  /-- `isOPNetEnabled`. -/
  opnetEnabled : Bool

/-- A transaction with what `Block` checks of it before it is executed. -/
structure BlockTransaction where
  tx : VMManager.OPNetTransaction
  /-- The first input has no `originalTransactionId`. -/
  isCoinbase : Bool
  /-- The error that `assignMLDSAToLegacy` throws. -/
  mldsaError : Option VmError
  /-- `from.isDead()`. -/
  fromDead : Bool

namespace BlockTransaction

/-- `transactionIdString`. -/
def transactionId (t : BlockTransaction) : Bytes := t.tx.transactionId

def address (t : BlockTransaction) : Bytes :=
  match t.tx with
  | .interaction tx => tx.address
  | .deployment tx => tx.contract.contractPublicKey

/-- `specialSettings.bypassBlockLimit`. -/
def bypassBlockLimit (t : BlockTransaction) : Bool :=
  match t.tx with
  | .interaction tx => tx.specialSettings.any fun settings => settings.bypassBlockLimit
  | .deployment _ => false

end BlockTransaction

/-- `OPNetConsensus.consensus.GAS.MAX_THEORETICAL_GAS`. -/
def MAX_THEORETICAL_GAS : Nat := 20000000000000

/-- `OPNetConsensus.consensus.GAS.PANIC_GAS_COST`. -/
def PANIC_GAS_COST : Nat := 100000000

/-- A block while its transactions are executed. -/
structure BlockExecution where
  vm : VMManager
  blockUsedGas : Nat

abbrev BlockM := Proc BlockExecution VmError

namespace BlockExecution

variable (env : VmEnvironment) (T : RustMerkleTree) (settings : BlockSettings) (height : Nat)

/-- Run a method of the VM. -/
def onVm {α : Type} (m : VmM α) : BlockM α := Proc.zoom BlockExecution.vm (fun vm b => { b with vm }) m

def useGas (gas : Nat) : BlockM Unit :=
  Proc.modify fun b => { b with blockUsedGas := b.blockUsedGas + gas }

/-- `checkConstraintsBlock` and the checks after it. -/
def checkTransaction (t : BlockTransaction) : BlockM Unit := do
  let b ← Proc.get
  Proc.throwIf (settings.opnetEnabled = false) .opnetNotEnabled
  Proc.throwIf (t.bypassBlockLimit = false ∧ MAX_THEORETICAL_GAS < b.blockUsedGas) .blockOutOfGas
  Proc.throwIf (t.isCoinbase = true) .coinbaseNotAllowed
  match t.mldsaError with
  | some e => Proc.throw e
  | none => Proc.throwIf (t.fromDead = true) .deadAddressNotAllowed

/-- The evaluation of a transaction: its checks, then `executeTransaction` or `deployContract`. -/
def evaluate (t : BlockTransaction) : BlockM Locals := do
  checkTransaction settings t
  onVm (VMManager.runTransaction env T height t.tx)

/-- `processEvaluation`, and what is counted before it. -/
def processEvaluation (l : Locals) : BlockM Unit := do
  useGas (l.ctx.gasTracker.gasUsed + l.ctx.gasTracker.specialGasUsed)
  onVm (VMManager.updateBlockValuesFromResult T (some l) l.evaluation.contractAddress
    l.evaluation.transactionId settings.disableStorageCheck)

def processTransactionFailure (t : BlockTransaction) : BlockM Unit := do
  useGas PANIC_GAS_COST
  onVm (VMManager.updateBlockValuesFromResult T none t.address t.transactionId true)

/-- `executeInteractionTransaction` and `executeDeploymentTransaction`. -/
def executeTransaction (t : BlockTransaction) : BlockM Unit :=
  Proc.tryCatch
    (do
      let l ← evaluate env T settings height t
      processEvaluation T settings l)
    fun _ => processTransactionFailure T t

def executeTransactions (transactions : List BlockTransaction) : BlockM Unit :=
  Proc.forEach (executeTransaction env T settings height) transactions

/-- A block over a database, before its first transaction. -/
def start (db : VMStorage) : BlockExecution :=
  ⟨(VMManager.create false db).prepareBlock height, 0⟩

end BlockExecution

end OpnetNode
