import OpnetNode.AddressMap

/-!
# `GasTracker`

The gas of a transaction, shared by all frames of its call tree.  Gas is counted in natural numbers;
`maxGasVM` is a difference and may be negative.
-/

namespace OpnetNode

/-- Errors of an evaluation, by the place that throws them. -/
inductive VmError where
  | outOfGas
  | specialGasNotZero
  | callStackTooDeep
  | deployDepthExceeded
  | updateDepthExceeded
  | invalidContract
  | invalidContractBytecode
  | storageAlreadySet
  | maximumEventLength
  | maximumEventTypeLength
  | maximumTotalEventLength
  | maximumReceiptLength
  | contractAlreadyDeployed
  | contractAlreadyDeployedCache
  | contractAlreadyDeployedEval
  | contractNotFound
  | deploymentFailed
  | preloadExceedsGas
  | methodNotImplemented
  | blockStateNotFound
  | proofNotFound
  | contractAlreadyExists
  | unableToInsertContract
  | vmEvaluatorNotFound
  | blockHeightMismatch
  | invalidBlockHeight
  | receiptStateNotFound
  | transactionIdNotFound
  | changedStorageNotFound
  | treeFrozen
  | treeNotBuilt
  | blockOutOfGas
  | opnetNotEnabled
  | coinbaseNotAllowed
  | deadAddressNotAllowed
  | executorCannotSave
  | invalidChecksumLength
  /-- An error raised by the Rust VM itself: a trap, running out of gas inside the VM, ... -/
  | vm (message : Bytes)
  deriving DecidableEq, Repr

/-- The settings of a special contract. -/
structure SpecialContract where
  address : Bytes
  freeGas : Bool
  bypassBlockLimit : Bool
  maxExternalGas : Nat
  transactionGasLimit : Nat
  deriving DecidableEq, Repr

/-- `OPNetConsensus.consensus.GAS.TRANSACTION_MAX_GAS`. -/
def TRANSACTION_MAX_GAS : Nat := 150000000000

/-- A `GasTracker`; `paidCap` is its field `#paidMaximum`. -/
structure GasTracker where
  gasUsed : Nat
  maxGas : Nat
  specialGasUsed : Nat
  paidCap : Nat
  settings : Option SpecialContract
  deriving DecidableEq, Repr

namespace GasTracker

/-- `settings.transactionGasLimit ? settings.transactionGasLimit : TRANSACTION_MAX_GAS`. -/
def gasLimit (settings : SpecialContract) : Nat :=
  if settings.transactionGasLimit = 0 then TRANSACTION_MAX_GAS else settings.transactionGasLimit

/-- The constructor, followed by the `setGasUsed(usedGas, 0n, true)` of `getGasTracker` at zero. -/
def new (maxGas : Nat) (settings : Option SpecialContract) : GasTracker :=
  match settings with
  | some special =>
    if special.freeGas then
      ⟨0, min maxGas special.maxExternalGas, 0, min maxGas (gasLimit special), settings⟩
    else ⟨0, min maxGas TRANSACTION_MAX_GAS, 0, min maxGas TRANSACTION_MAX_GAS, settings⟩
  | none => ⟨0, min maxGas TRANSACTION_MAX_GAS, 0, min maxGas TRANSACTION_MAX_GAS, settings⟩

/-- The getter `paidMaximum`. -/
def paidMaximum (t : GasTracker) : Nat := max t.paidCap (t.specialGasUsed + t.gasUsed)

def combinedGas (t : GasTracker) (external : Bool) : Nat :=
  if external then t.gasUsed else t.gasUsed + t.specialGasUsed

def maxGasVM (t : GasTracker) (external : Bool) : Int :=
  match t.settings with
  | some special =>
    if external && special.freeGas then special.maxExternalGas
    else (gasLimit special : Int) - special.maxExternalGas
  | none => t.maxGas

/-- `setGasUsed`: the gas of a special contract itself is free but counted apart. -/
def setGasUsed (t : GasTracker) (gas specialGas : Nat) (isExternCall : Bool) (contract : Bytes) :
    Except VmError GasTracker :=
  let maxGas := t.maxGasVM isExternCall
  let free := !isExternCall && t.settings.any fun s => s.freeGas && s.address = contract
  if free then
    if maxGas < (gas + specialGas : Nat) then .error .outOfGas
    else .ok { t with specialGasUsed := gas + specialGas }
  else if specialGas ≠ 0 then .error .specialGasNotZero
  else if maxGas < (gas : Nat) then .error .outOfGas
  else .ok { t with gasUsed := gas }

def setFinalGasUsed (t : GasTracker) (gas specialGas : Nat) : GasTracker :=
  { t with gasUsed := gas, specialGasUsed := specialGas }

end GasTracker

end OpnetNode
