import OpnetNode.Merkle.MerkleTree
import OpnetNode.Proc
import OpnetNode.Vm.GasTracker

/-!
# `ContractEvaluation`

The state of one frame of a call tree.  What the source passes from frame to frame by reference
(gas, call stack, depth counters, storage, deployed contracts) is a `TransactionContext`; what each
frame has for itself is a `ContractEvaluation`.  A method of the class is a procedure over both.

`TransactionContext.trace` is not part of the source: it lists what the frames of the transaction
did, in order, so that results can be compared with it.
-/

namespace OpnetNode

/-- `AddressMap<PointerStorage>`: values by contract and pointer. -/
abbrev Slots := TreeValues U256 U256

/-- An event of a contract. -/
structure NetEvent where
  type : Bytes
  data : Bytes
  deriving DecidableEq, Repr

/-- The part of a `ContractInformation` that the VM reads. -/
structure ContractInformation where
  blockHeight : Nat
  contractAddress : Bytes
  contractPublicKey : Bytes
  bytecode : Bytes
  deployedTransactionId : Bytes
  deployerAddress : Bytes
  deriving DecidableEq, Repr

/-- What a frame of a call tree did. -/
inductive FrameAction where
  | wrote (address : Bytes) (pointer value : U256)
  | emitted (address : Bytes) (event : NetEvent)
  | deployed (contract : ContractInformation)
  /-- The frame of a contract ended with a revert, for whatever reason. -/
  | reverted (address : Bytes)
  | loaded (address : Bytes) (pointer value : U256)
  /-- An attempt to deploy a contract: how many the transaction had deployed, where the counter
  stood, and whether the attempt was refused for its depth. -/
  | deployAttempt (deployed depth : Nat) (refused : Bool)
  | updateAttempt (depth : Nat) (refused : Bool)
  deriving DecidableEq, Repr

/-- What the frames of a transaction share. -/
structure TransactionContext where
  gasTracker : GasTracker
  callStack : List Bytes
  contractDeployDepth : Nat
  contractUpdateDepth : Nat
  storage : Slots
  preloadStorage : Slots
  deployedContracts : JsMap Bytes ContractInformation
  trace : List FrameAction

/-- One frame. -/
structure ContractEvaluation where
  contractAddress : Bytes
  transactionId : Bytes
  blockNumber : Nat
  externalCall : Bool
  revert : Option Bytes
  result : Option Bytes
  modifiedStorage : Option Slots
  events : JsMap Bytes (List NetEvent)
  totalEventSize : Nat
  touchedAddresses : JsMap Bytes Bool

/-- A frame with what it shares. -/
structure Locals where
  ctx : TransactionContext
  evaluation : ContractEvaluation

/-- A method of `ContractEvaluation`. -/
abbrev Method := Proc Locals VmError

/-- `OPNetConsensus.consensus.TRANSACTIONS.MAXIMUM_DEPLOYMENT_DEPTH`. -/
def MAXIMUM_DEPLOYMENT_DEPTH : Nat := 2

/-- `OPNetConsensus.consensus.TRANSACTIONS.MAXIMUM_UPDATE_DEPTH`. -/
def MAXIMUM_UPDATE_DEPTH : Nat := 1

/-- `OPNetConsensus.consensus.TRANSACTIONS.MAXIMUM_CALL_DEPTH`. -/
def MAXIMUM_CALL_DEPTH : Nat := 50

/-- `OPNetConsensus.consensus.TRANSACTIONS.EVENTS.MAXIMUM_EVENT_LENGTH`. -/
def MAXIMUM_EVENT_LENGTH : Nat := 1024 * 1024

/-- `OPNetConsensus.consensus.TRANSACTIONS.EVENTS.MAXIMUM_TOTAL_EVENT_LENGTH`. -/
def MAXIMUM_TOTAL_EVENT_LENGTH : Nat := 1024 * 1024 * 2

/-- `OPNetConsensus.consensus.TRANSACTIONS.EVENTS.MAXIMUM_EVENT_NAME_LENGTH`. -/
def MAXIMUM_EVENT_NAME_LENGTH : Nat := 64

namespace Slots

/-- `mergeStorage`: write the slots of `storage` over those of `modified`. -/
def merge (modified storage : Slots) : Slots :=
  storage.entries.foldl (fun modified entry =>
    modified.set entry.1 (((modified.get entry.1).getD .empty).setAll entry.2)) modified

end Slots

namespace TransactionContext

/-- Add to the trace. -/
def record (action : FrameAction) (ctx : TransactionContext) : TransactionContext :=
  { ctx with trace := ctx.trace ++ [action] }

def incrementContractDeployDepth (ctx : TransactionContext) : Except VmError TransactionContext :=
  if MAXIMUM_DEPLOYMENT_DEPTH ≤ ctx.contractDeployDepth then .error .deployDepthExceeded
  else .ok { ctx with contractDeployDepth := ctx.contractDeployDepth + 1 }

def incrementContractUpdates (ctx : TransactionContext) : Except VmError TransactionContext :=
  if MAXIMUM_UPDATE_DEPTH ≤ ctx.contractUpdateDepth then .error .updateDepthExceeded
  else .ok { ctx with contractUpdateDepth := ctx.contractUpdateDepth + 1 }

theorem incrementContractDeployDepth_eq_ok {ctx ctx' : TransactionContext}
    (h : ctx.incrementContractDeployDepth = .ok ctx') :
    ctx.contractDeployDepth < MAXIMUM_DEPLOYMENT_DEPTH ∧
      ctx' = { ctx with contractDeployDepth := ctx.contractDeployDepth + 1 } := by
  unfold incrementContractDeployDepth at h
  split_ifs at h with hdepth
  exact ⟨Nat.lt_of_not_le hdepth, (Except.ok.inj h).symm⟩

theorem incrementContractUpdates_eq_ok {ctx ctx' : TransactionContext}
    (h : ctx.incrementContractUpdates = .ok ctx') :
    ctx.contractUpdateDepth < MAXIMUM_UPDATE_DEPTH ∧
      ctx' = { ctx with contractUpdateDepth := ctx.contractUpdateDepth + 1 } := by
  unfold incrementContractUpdates at h
  split_ifs at h with hdepth
  exact ⟨Nat.lt_of_not_le hdepth, (Except.ok.inj h).symm⟩

/-- What is added to the trace for an attempt to deploy that began here. -/
def deployAttempt (ctx : TransactionContext) (thrown : Option VmError) : FrameAction :=
  .deployAttempt ctx.deployedContracts.size ctx.contractDeployDepth
    (decide (thrown = some .deployDepthExceeded))

/-- What is added to the trace for an attempt to update that began here. -/
def updateAttempt (ctx : TransactionContext) (thrown : Option VmError) : FrameAction :=
  .updateAttempt ctx.contractUpdateDepth (decide (thrown = some .updateDepthExceeded))

end TransactionContext

namespace Method

/-- Change the shared part by a function that may throw. -/
def onContext (f : TransactionContext → Except VmError TransactionContext) : Method Unit := fun l =>
  match f l.ctx with
  | .ok ctx => (.ok (), { l with ctx })
  | .error e => (.error e, l)

/-- Change the frame. -/
def onEvaluation (f : ContractEvaluation → ContractEvaluation) : Method Unit :=
  Proc.modify fun l => { l with evaluation := f l.evaluation }

/-- Add to the trace. -/
def note (action : FrameAction) : Method Unit :=
  Proc.modify fun l => { l with ctx := l.ctx.record action }

/-- The setter `revert`; `error` is the error as it is written to a buffer. -/
def setRevert (error : Bytes) : Method Unit := onEvaluation fun ev => { ev with revert := some error }

def setGasUsed (gas : Nat) : Method Unit := fun l =>
  onContext (fun ctx => do
    let gasTracker ← ctx.gasTracker.setGasUsed gas 0 l.evaluation.externalCall
      l.evaluation.contractAddress
    return { ctx with gasTracker }) l

def setStorage (pointer value : U256) : Method Unit := Proc.modify fun l =>
  { l with
    ctx := { l.ctx with storage := l.ctx.storage.setSlot l.evaluation.contractAddress pointer value }.record
      (.wrote l.evaluation.contractAddress pointer value) }

/-- `getStorage`: a slot the transaction wrote, or one it loaded. -/
def storageOf (l : Locals) (pointer : U256) : Option U256 :=
  (l.ctx.storage.slot l.evaluation.contractAddress pointer).or
    (l.ctx.preloadStorage.slot l.evaluation.contractAddress pointer)

def addToStorage (pointer value : U256) : Method Unit := fun l =>
  if (l.ctx.preloadStorage.slot l.evaluation.contractAddress pointer).isSome then
    (.error .storageAlreadySet, l)
  else
    (.ok (), { l with
      ctx := { l.ctx with
        preloadStorage := l.ctx.preloadStorage.setSlot l.evaluation.contractAddress pointer value } })

def enforceEventLimits (event : NetEvent) : Method Unit := fun l =>
  if MAXIMUM_EVENT_LENGTH < event.data.length then (.error .maximumEventLength, l)
  else if MAXIMUM_EVENT_NAME_LENGTH < event.type.length then (.error .maximumEventTypeLength, l)
  else if MAXIMUM_TOTAL_EVENT_LENGTH < l.evaluation.totalEventSize + event.data.length then
    (.error .maximumTotalEventLength, l)
  else
    (.ok (), { l with
      evaluation := { l.evaluation with
        totalEventSize := l.evaluation.totalEventSize + event.data.length } })

def pushEvent (address : Bytes) (event : NetEvent) (ev : ContractEvaluation) : ContractEvaluation :=
  { ev with events := ev.events.set address ((ev.events.get address).getD [] ++ [event]) }

def emitEvent (event : NetEvent) : Method Unit := do
  enforceEventLimits event
  Proc.modify fun l =>
    { l with
      ctx := l.ctx.record (.emitted l.evaluation.contractAddress event)
      evaluation := pushEvent l.evaluation.contractAddress event l.evaluation }

/-- `mergeEvents`: take over the events of a frame, the limits checked again. -/
def mergeEvents (events : JsMap Bytes (List NetEvent)) : Method Unit :=
  Proc.forEach (fun entry => Proc.forEach (fun event => do
    enforceEventLimits event
    onEvaluation (pushEvent entry.1 event)) entry.2) events.entries

def mergeStorage (storage : Slots) : Method Unit :=
  onEvaluation fun ev =>
    { ev with modifiedStorage := some ((ev.modifiedStorage.getD .empty).merge storage) }

def setResult (result : Bytes) : Method Unit := do
  onEvaluation fun ev => { ev with result := some result }
  let l ← Proc.get
  mergeStorage l.ctx.storage

/-- `merge`: take over what an inner frame did.  Both frames have the same gas tracker, call stack
and depth counters, so only the gas check and the contents of the inner frame are left. -/
def merge (inner : ContractEvaluation) : Method Unit := do
  let l ← Proc.get
  onContext fun ctx => do
    let gasTracker ← ctx.gasTracker.setGasUsed ctx.gasTracker.gasUsed 0 true
      l.evaluation.contractAddress
    return { ctx with gasTracker }
  match inner.revert with
  | some error => setRevert error
  | none =>
    match inner.modifiedStorage with
    | some storage => mergeStorage storage
    | none => pure ()
    mergeEvents inner.events

def addContractInformation (contract : ContractInformation) : Method Unit := fun l =>
  if l.ctx.deployedContracts.has contract.contractPublicKey then (.error .contractAlreadyDeployed, l)
  else
    (.ok (), { l with
      ctx := { l.ctx with
        deployedContracts :=
          l.ctx.deployedContracts.set contract.contractPublicKey contract }.record
          (.deployed contract) })

end Method

/-- The part of an `EvaluatedResult` that depends on the evaluation. -/
structure EvaluatedResult where
  changedStorage : Option Slots
  loadedStorage : Slots
  result : Option Bytes
  events : JsMap Bytes (List NetEvent)
  gasUsed : Nat
  specialGasUsed : Nat
  deployedContracts : List ContractInformation
  revert : Option Bytes

def Locals.getEvaluationResult (l : Locals) : EvaluatedResult where
  changedStorage := if l.evaluation.revert.isSome then some .empty else l.evaluation.modifiedStorage
  loadedStorage := l.ctx.preloadStorage
  result := if l.evaluation.revert.isSome then some [0] else l.evaluation.result
  events := if l.evaluation.revert.isSome then .empty else l.evaluation.events
  gasUsed := l.ctx.gasTracker.gasUsed
  specialGasUsed := l.ctx.gasTracker.specialGasUsed
  deployedContracts := if l.evaluation.revert.isSome then [] else l.ctx.deployedContracts.vals
  revert := l.evaluation.revert

end OpnetNode
