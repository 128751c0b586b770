import OpnetNode.Transition
import OpnetNode.Vm.ContractEvaluation

/-!
# `ContractEvaluator`

How the frames of a transaction are run.  What a contract does is given by an `Execution`: the tree
of the calls that the bytecode makes of its host, each continued by what the host answers, down to
how the execution ends.  The callee of a call is a tree for each contract the VM may find at the
address, so that a tree can stand for any bytecode in any state of the chain.

The methods that `VMManager` binds to an evaluator are a `Host` over its own state `σ`; the
evaluator is generic in it.
-/

namespace OpnetNode

/-- The response of a call; the gas is what `writeU64` makes of it. -/
structure CallResponse where
  isWarm : Bool
  gasUsed : Nat
  status : Nat
  result : Bytes
  deriving DecidableEq, Repr

/-- The response of a deployment or of an update. -/
structure DeployResponse where
  contractAddress : Bytes
  bytecodeLength : Nat
  gasUsed : Nat
  status : Nat
  result : Bytes
  deriving DecidableEq, Repr

/-- What the Rust VM returns for an execution that ended by itself. -/
structure ExitDataResponse where
  gasUsed : Nat
  status : Nat
  data : Bytes
  deriving DecidableEq, Repr

/-- What a contract does in one frame: the host calls it makes, and how it ends. -/
inductive Execution where
  | exit (response : ExitDataResponse)
  /-- The VM gives up: a trap, an exhausted gas counter. -/
  | abort (message : Bytes)
  | load (pointer : U256) (next : U256 → Bool → Execution)
  | store (pointer value : U256) (next : Execution)
  | emit (event : NetEvent) (next : Execution)
  | accountType (address : Bytes) (next : Bool → Bool → Execution)
  | call (gasUsed : Nat) (address : Bytes) (callee : ContractInformation → Execution)
      (next : CallResponse → Execution)
  | deployFromAddress (gasUsed : Nat) (address salt : Bytes)
      (onDeploy : ContractInformation → Execution) (next : DeployResponse → Execution)
  | updateFromAddress (gasUsed : Nat) (address : Bytes) (next : DeployResponse → Execution)

/-- What the evaluator takes from outside the repository. -/
structure VmEnvironment where
  /-- Whether the Rust VM can instantiate a bytecode. -/
  instantiates : Bytes → Bool
  /-- `RustContract.getErrorAsBuffer`, cut to the longest revert allowed. -/
  getErrorAsBuffer : VmError → Bytes
  /-- The gas counter of a VM that gave up with an error; `none` if it cannot be read. -/
  usedGas : VmError → Option Nat
  NEW_STORAGE_SLOT_GAS_COST : Nat
  UPDATED_STORAGE_SLOT_GAS_COST : Nat
  COLD_STORAGE_LOAD : Nat
  /-- `generateAddress(salt, deployer, bytecode)`. -/
  generateAddress : Bytes → Bytes → Bytes → Bytes
  /-- `address.p2op(network)`. -/
  p2op : Bytes → Bytes
  /-- `Address.dead()`. -/
  dead : Bytes
  insertFails : ContractInformation → Bool

/-- The methods that `VMManager` binds to an evaluator. -/
structure Host (σ : Type) where
  getStorage : Bytes → U256 → Nat → Proc σ VmError (Option U256)
  getStorageMultiple : List (Bytes × U256) → Nat →
    Proc σ VmError (List ((Bytes × U256) × Option U256))
  isContract : Bytes → Proc σ VmError Bool
  getContractInformation : Bytes → Nat → Proc σ VmError (Option ContractInformation)
  /-- `contractCache.has`. -/
  isCached : Bytes → Proc σ VmError Bool
  /-- `vmStorage.getContractAt(address, height)` of `deployContractAtAddress`. -/
  contractExistsBelow : Bytes → Nat → Proc σ VmError Bool
  /-- `deployContractFromInfo`. -/
  deployContract : ContractInformation → Proc σ VmError Unit

/-- The state a frame runs on. -/
structure Frame (σ : Type) where
  host : σ
  locals : Locals

abbrev EvalM (σ : Type) := Proc (Frame σ) VmError

namespace EvalM

variable {σ α : Type}

def method (m : Method α) : EvalM σ α := Proc.zoom Frame.locals (fun locals f => { f with locals }) m

/-- Run a method of the host. -/
def onHost (m : Proc σ VmError α) : EvalM σ α := Proc.zoom Frame.host (fun host f => { f with host }) m

def locals : EvalM σ Locals := method Proc.get

/-- Run a new frame on the shared state and return its evaluation; the frame that called keeps
its own. -/
def inFrame (start : TransactionContext → Except VmError Locals) (body : EvalM σ Unit) :
    EvalM σ ContractEvaluation := fun f =>
  match start f.locals.ctx with
  | .error e => (.error e, f)
  | .ok inner =>
    let after := (body { f with locals := inner }).2
    (.ok after.locals.evaluation,
      { host := after.host, locals := { f.locals with ctx := after.locals.ctx } })

end EvalM

/-! ### One frame -/

/-- What is passed to a frame. -/
structure FrameParameters where
  contractAddress : Bytes
  transactionId : Bytes
  blockNumber : Nat
  externalCall : Bool
  isDeployment : Bool
  /-- Slots to preload; only the outermost frame has any. -/
  preloadStorageList : List (Bytes × U256)

/-- The frame that the constructor of `ContractEvaluation` makes. -/
def FrameParameters.started (params : FrameParameters) (ctx : TransactionContext) : Locals where
  ctx := { ctx with callStack := ctx.callStack ++ [params.contractAddress] }
  evaluation := {
    contractAddress := params.contractAddress
    transactionId := params.transactionId
    blockNumber := params.blockNumber
    externalCall := params.externalCall
    revert := none
    result := none
    modifiedStorage := none
    events := .empty
    totalEventSize := 0
    touchedAddresses := JsMap.empty.set params.contractAddress true }

/-- The constructor of `ContractEvaluation`: a deployment is counted first. -/
def newEvaluation (params : FrameParameters) (ctx : TransactionContext) : Except VmError Locals := do
  let ctx ← if params.isDeployment then ctx.incrementContractDeployDepth else .ok ctx
  return params.started ctx

variable {params : FrameParameters} {ctx : TransactionContext} {l : Locals}

theorem newEvaluation_cases (h : newEvaluation params ctx = .ok l) :
    (∃ ctx', ctx.incrementContractDeployDepth = .ok ctx' ∧ params.isDeployment = true ∧
        l = params.started ctx') ∨
      (params.isDeployment = false ∧ l = params.started ctx) := by
  unfold newEvaluation at h
  by_cases hdeploy : params.isDeployment = true
  · rw [if_pos hdeploy] at h
    obtain ⟨ctx', hctx', hret⟩ := exceptBind_eq_ok h
    exact Or.inl ⟨ctx', hctx', hdeploy, (Except.ok.inj hret).symm⟩
  · rw [if_neg hdeploy] at h
    exact Or.inr ⟨Bool.eq_false_iff.mpr hdeploy, (Except.ok.inj h).symm⟩

theorem newEvaluation_eq_ok (h : newEvaluation params ctx = .ok l) :
    ∃ depth, l = params.started { ctx with contractDeployDepth := depth } := by
  rcases newEvaluation_cases h with ⟨ctx', hctx', -, rfl⟩ | ⟨-, rfl⟩
  · obtain ⟨-, rfl⟩ := TransactionContext.incrementContractDeployDepth_eq_ok hctx'
    exact ⟨ctx.contractDeployDepth + 1, rfl⟩
  · exact ⟨ctx.contractDeployDepth, rfl⟩

/-- `evaluation.specialContract`: the settings are not forwarded to external calls. -/
def Locals.specialContract (l : Locals) : Option SpecialContract :=
  if l.evaluation.externalCall then none else l.ctx.gasTracker.settings

/-- Whether the frame runs with free gas. -/
def Locals.freeGas (l : Locals) : Bool := l.specialContract.any fun special => special.freeGas

section

variable {σ : Type} (env : VmEnvironment) (host : Host σ)

open EvalM

/-- The setter `revert` with an error. -/
def revertWith (e : VmError) : EvalM σ Unit := method (Method.setRevert (env.getErrorAsBuffer e))

/-- `load`: the value and whether the slot was cold. -/
def load (pointer : U256) : EvalM σ (U256 × Bool) := do
  let l ← locals
  match Method.storageOf l pointer with
  | some value =>
    method (Method.note (.loaded l.evaluation.contractAddress pointer value))
    return (value, false)
  | none =>
    let stored ← onHost (host.getStorage l.evaluation.contractAddress pointer
      l.evaluation.blockNumber)
    let value := stored.getD 0
    method (Method.addToStorage pointer value)
    method (Method.note (.loaded l.evaluation.contractAddress pointer value))
    return (value, true)

/-- `getAccountType`: whether the address is a contract and whether it was known. -/
def getAccountType (address : Bytes) : EvalM σ (Bool × Bool) := do
  let l ← locals
  match l.evaluation.touchedAddresses.get address with
  | some isContract => return (isContract, isContract)
  | none =>
    let isContract ← onHost (host.isContract address)
    method (Method.onEvaluation fun ev =>
      { ev with touchedAddresses := ev.touchedAddresses.set address isContract })
    return (isContract, false)

/-- `setContractInformation` accepts the contract: it has a version byte and a bytecode. -/
def validContractInformation (contract : ContractInformation) : Bool := 2 ≤ contract.bytecode.length

/-- The contract that `executeCallInternal` runs: one deployed by this transaction, or a stored
one. -/
def findContract (address : Bytes) : EvalM σ ContractInformation := do
  let l ← locals
  match (l.ctx.deployedContracts.get address).filter validContractInformation with
  | some contract => return contract
  | none =>
    let stored ← onHost (host.getContractInformation address l.evaluation.blockNumber)
    match stored.filter validContractInformation with
    | some contract => return contract
    | none => Proc.throw .invalidContract

/-- `internalCall`: run another frame and take over what it did.  `run` is the evaluator's `run`. -/
def internalCall (run : ContractInformation → FrameParameters → EvalM σ ContractEvaluation)
    (address : Bytes) (isDeployment : Bool) : EvalM σ (Bool × ContractEvaluation) := do
  let l ← locals
  let isWarm := (l.evaluation.touchedAddresses.get address).getD false
  let contract ← findContract host address
  let response ← run contract {
    contractAddress := address
    transactionId := l.evaluation.transactionId
    blockNumber := l.evaluation.blockNumber
    externalCall := true
    isDeployment
    preloadStorageList := [] }
  method (Method.merge response)
  return (isWarm, response)

/-- The status and the data that a caller gets of an inner frame. -/
def callOutcome (response : ContractEvaluation) : Nat × Bytes :=
  match response.revert with
  | some error => (1, error)
  | none => (0, response.result.getD [])

/-- The gas a caller is told: nothing in a special contract with free gas. -/
def reportedGas (l : Locals) (before : Nat) : Nat :=
  u64 (if l.freeGas then 0 else (l.ctx.gasTracker.gasUsed : Int) - before)

def call (run : ContractInformation → FrameParameters → EvalM σ ContractEvaluation)
    (gasUsed : Nat) (address : Bytes) : EvalM σ CallResponse :=
  Proc.tryCatch
    (do
      method (Method.setGasUsed gasUsed)
      let l ← locals
      Proc.throwIf (MAXIMUM_CALL_DEPTH ≤ l.ctx.callStack.length) .callStackTooDeep
      let (isWarm, response) ← internalCall host run address false
      let l ← locals
      return {
        isWarm
        gasUsed := reportedGas l gasUsed
        status := (callOutcome response).1
        result := (callOutcome response).2 })
    fun e => do
      revertWith env e
      let l ← locals
      return ⟨false, u64 (l.ctx.gasTracker.gasUsed - gasUsed), 1, []⟩

/-- `VMManager.deployContractAtAddress`.  The first guard of the source compares the template with
the running contract by object identity and never holds. -/
def deployContractAtAddress (address salt : Bytes) : EvalM σ (Bytes × Nat) := do
  let l ← locals
  let template ← onHost (host.getContractInformation address l.evaluation.blockNumber)
  match template with
  | none => Proc.throw .contractNotFound
  | some template =>
    let deployResult := env.generateAddress salt l.evaluation.contractAddress
      (template.bytecode.drop 1)
    let cached ← onHost (host.isCached deployResult)
    Proc.throwIf (cached = true) .contractAlreadyDeployedCache
    Proc.throwIf (l.ctx.deployedContracts.has deployResult = true) .contractAlreadyDeployedEval
    let isStored ← onHost (host.contractExistsBelow deployResult l.evaluation.blockNumber)
    if isStored then return (List.replicate 32 0, 0)
    else
      method (Method.addContractInformation {
        blockHeight := l.evaluation.blockNumber
        contractAddress := env.p2op deployResult
        contractPublicKey := deployResult
        bytecode := template.bytecode
        deployedTransactionId := l.evaluation.transactionId
        deployerAddress := l.evaluation.contractAddress })
      return (deployResult, template.bytecode.length)

/-- The variable `usedGas` of a deployment that failed: the request is only read after its depth was
counted. -/
def Locals.gasBeforeDeploy (start : Locals) (gasUsed : Nat) : Int :=
  if MAXIMUM_DEPLOYMENT_DEPTH ≤ start.ctx.contractDeployDepth then start.ctx.gasTracker.gasUsed
  else gasUsed

/-- The same of an update. -/
def Locals.gasBeforeUpdate (start : Locals) (gasUsed : Nat) : Int :=
  if MAXIMUM_UPDATE_DEPTH ≤ start.ctx.contractUpdateDepth then start.ctx.gasTracker.gasUsed
  else gasUsed

def deployContractFromAddressRaw
    (run : ContractInformation → FrameParameters → EvalM σ ContractEvaluation)
    (gasUsed : Nat) (address salt : Bytes) : EvalM σ DeployResponse := do
  let start ← locals
  Proc.tryCatch
    (do
      method (Method.onContext TransactionContext.incrementContractDeployDepth)
      method (Method.setGasUsed gasUsed)
      let (contractAddress, bytecodeLength) ← deployContractAtAddress env host address salt
      Proc.throwIf (contractAddress = env.dead) .deploymentFailed
      let (_, response) ← internalCall host run contractAddress true
      method (Method.note (start.ctx.deployAttempt none))
      let l ← locals
      return {
        contractAddress
        bytecodeLength
        gasUsed := reportedGas l gasUsed
        status := (callOutcome response).1
        result := (callOutcome response).2 })
    fun e => do
      method (Method.note (start.ctx.deployAttempt (some e)))
      revertWith env e
      let l ← locals
      return ⟨env.dead, 0, u64 (l.ctx.gasTracker.gasUsed - start.gasBeforeDeploy gasUsed), 1,
        l.evaluation.revert.getD []⟩

/-- `updateContractFromAddressRaw`: `VMManager` binds no `updateFromAddressJsFunction`, so the
default that throws is called. -/
def updateContractFromAddressRaw (gasUsed : Nat) : EvalM σ DeployResponse := do
  let start ← locals
  Proc.tryCatch
    (do
      method (Method.onContext TransactionContext.incrementContractUpdates)
      method (Method.setGasUsed gasUsed)
      Proc.throw .methodNotImplemented)
    fun e => do
      method (Method.note (start.ctx.updateAttempt (some e)))
      revertWith env e
      let l ← locals
      return ⟨[], 0, u64 (l.ctx.gasTracker.gasUsed - start.gasBeforeUpdate gasUsed), 1,
        l.evaluation.revert.getD []⟩

/-! ### The end of a frame -/

/-- `OPNetConsensus.consensus.TRANSACTIONS.MAXIMUM_RECEIPT_LENGTH`. -/
def MAXIMUM_RECEIPT_LENGTH : Nat := 2048

/-- `onExecutionResult` for an execution that returned nothing. -/
def onNoResult (e : VmError) : EvalM σ Unit := do
  let l ← locals
  Proc.tryCatch
    (match env.usedGas e with
      | some gas => method (Method.setGasUsed gas)
      | none => Proc.throw e)
    fun _ => method (Method.setGasUsed l.ctx.gasTracker.paidMaximum)
  revertWith env e

/-- `onExecutionResult` and `processResult` for an execution that returned. -/
def onExit (response : ExitDataResponse) : EvalM σ Unit := do
  method (Method.setGasUsed response.gasUsed)
  if MAXIMUM_RECEIPT_LENGTH < response.data.length then revertWith env .maximumReceiptLength
  else if response.status ≠ 0 then method (Method.setRevert response.data)
  else
    let l ← locals
    if l.evaluation.revert.isNone then method (Method.setResult response.data) else pure ()

def preloadPointers (pointers : List (Bytes × U256)) : EvalM σ Unit := do
  let l ← locals
  Proc.throwIf (l.ctx.gasTracker.maxGas < env.COLD_STORAGE_LOAD * pointers.length)
    .preloadExceedsGas
  let values ← onHost (host.getStorageMultiple pointers l.evaluation.blockNumber)
  method (Proc.modify fun l =>
    { l with
      ctx := { l.ctx with
        preloadStorage := values.foldl (fun preload entry =>
          preload.setSlot entry.1.1 entry.1.2 (entry.2.getD 0)) l.ctx.preloadStorage } })

/-- Running out of gas while storage is charged: all gas is used. -/
def outOfStorageGas {α : Type} : EvalM σ α := do
  let l ← locals
  method (Method.setGasUsed l.ctx.gasTracker.paidMaximum)
  Proc.throw .outOfGas

/-- The cost of one slot, added to the cost of the contract so far. -/
def chargeSlot (isSpecial : Bool) (gasUsed : Nat) (cost : Nat) (slot : U256 × U256) :
    EvalM σ Nat := do
  let l ← locals
  let maxGas := l.ctx.gasTracker.maxGas
  if !isSpecial && maxGas < gasUsed + cost + env.UPDATED_STORAGE_SLOT_GAS_COST then outOfStorageGas
  else
    -- The current value is read at the address of the running contract, whatever the slot's own.
    let current ← onHost (host.getStorage l.evaluation.contractAddress slot.1
      l.evaluation.blockNumber)
    let cost := match current with
      | none => cost + env.NEW_STORAGE_SLOT_GAS_COST
      | some value => if value = slot.2 then cost else cost + env.UPDATED_STORAGE_SLOT_GAS_COST
    if !isSpecial && maxGas < gasUsed + cost then outOfStorageGas
    else return cost

/-- The cost of the slots of one contract, added to the totals for ordinary and special gas. -/
def chargeContract (total : Nat × Nat) (contract : Bytes × JsMap U256 U256) :
    EvalM σ (Nat × Nat) := do
  let l ← locals
  let isSpecial := l.specialContract.any fun special =>
    special.freeGas && special.address = contract.1
  let gasUsed := if isSpecial then l.ctx.gasTracker.specialGasUsed + total.2
    else l.ctx.gasTracker.gasUsed + total.1
  let cost ← Proc.foldEach (chargeSlot env host isSpecial gasUsed) 0 contract.2.entries
  return if isSpecial then (total.1, total.2 + cost) else (total.1 + cost, total.2)

def calculateGasCostStore : EvalM σ Unit := do
  let l ← locals
  match l.evaluation.modifiedStorage with
  | none => pure ()
  | some storage =>
    let total ← Proc.foldEach (chargeContract env host) (0, 0) storage.entries
    method (Proc.modify fun l =>
      { l with
        ctx := { l.ctx with
          gasTracker := l.ctx.gasTracker.setFinalGasUsed
            (l.ctx.gasTracker.gasUsed + total.1) (l.ctx.gasTracker.specialGasUsed + total.2) } })

/-- One of the promises of `Promise.safeAll`: its error is kept and the others go on. -/
def settle (failure : Option VmError) (contract : ContractInformation) :
    EvalM σ (Option VmError) :=
  Proc.tryCatch
    (do
      onHost (host.deployContract contract)
      return failure)
    fun e => return (failure.or (some e))

/-- The deployments of `terminateEvaluation`: all are attempted, then the first error is thrown. -/
def deployContracts : EvalM σ Unit := do
  let l ← locals
  let failure ← Proc.foldEach (settle host) none l.ctx.deployedContracts.vals
  match failure with
  | some e => Proc.throw e
  | none => pure ()

def terminateEvaluation : EvalM σ Unit := do
  let l ← locals
  if l.evaluation.externalCall || l.evaluation.revert.isSome then pure ()
  else
    calculateGasCostStore env host
    deployContracts host

/-- `attemptToSetGasUsed`: errors are swallowed. -/
def attemptToSetGasUsed (e : VmError) : EvalM σ Unit := do
  let l ← locals
  let gas := (env.usedGas e).getD l.ctx.gasTracker.paidMaximum
  if l.ctx.gasTracker.gasUsed + l.ctx.gasTracker.specialGasUsed ≤ gas then
    Proc.tryCatch (method (Method.setGasUsed gas)) fun _ => pure ()
  else pure ()

/-- Note in the trace that a frame ended with a revert. -/
def recordRevert : EvalM σ Unit := method (Proc.modify fun l =>
  if l.evaluation.revert.isSome then
    { l with ctx := l.ctx.record (.reverted l.evaluation.contractAddress) }
  else l)

/-- `run` from the loading of the bytecode to the end of the execution.  `interpret` runs the
contract. -/
def runContract (interpret : EvalM σ ExitDataResponse) (contract : ContractInformation)
    (params : FrameParameters) : EvalM σ Unit := do
  let l ← locals
  Proc.throwIf (l.ctx.gasTracker.maxGas < l.ctx.gasTracker.gasUsed ∨
    env.instantiates (contract.bytecode.drop 1) = false) .invalidContractBytecode
  method (Method.setGasUsed (l.ctx.gasTracker.combinedGas l.evaluation.externalCall))
  preloadPointers env host params.preloadStorageList
  let result ← Proc.tryCatch (do return some (← interpret))
    fun e => do
      onNoResult env e
      return none
  match result with
  | some response => onExit env response
  | none => pure ()

/-- The body of `run`, after the constructor of the evaluation. -/
def frameBody (interpret : EvalM σ ExitDataResponse) (contract : ContractInformation)
    (params : FrameParameters) : EvalM σ Unit := do
  Proc.tryCatch
    (do
      runContract env host interpret contract params
      terminateEvaluation env host)
    fun e => do
      attemptToSetGasUsed env e
      revertWith env e
  recordRevert

/-- `run` of an inner frame. -/
def runFrame (interpret : EvalM σ ExitDataResponse) (contract : ContractInformation)
    (params : FrameParameters) : EvalM σ ContractEvaluation :=
  inFrame (newEvaluation params) (frameBody env host interpret contract params)

/-- `run` of the outermost frame, on the shared state of a new transaction. -/
def runRoot (ctx : TransactionContext) (interpret : EvalM σ ExitDataResponse)
    (contract : ContractInformation) (params : FrameParameters) : Proc σ VmError Locals := fun s =>
  match newEvaluation params ctx with
  | .error e => (.error e, s)
  | .ok locals =>
    let after := (frameBody env host interpret contract params { host := s, locals }).2
    (.ok after.locals, after.host)

/-- The Rust VM running a contract: it makes its host calls one after the other, and a host call
that is rejected ends the execution with that error. -/
def interpret : Execution → EvalM σ ExitDataResponse
  | .exit response => return response
  | .abort message => Proc.throw (.vm message)
  | .load pointer next => do
    let (value, wasCold) ← load host pointer
    interpret (next value wasCold)
  | .store pointer value next => do
    method (Method.setStorage pointer value)
    interpret next
  | .emit event next => do
    method (Method.emitEvent event)
    interpret next
  | .accountType address next => do
    let (isContract, isWarm) ← getAccountType host address
    interpret (next isContract isWarm)
  | .call gasUsed address callee next => do
    let response ← call env host
      (fun contract params => runFrame env host (interpret (callee contract)) contract params)
      gasUsed address
    interpret (next response)
  | .deployFromAddress gasUsed address salt onDeploy next => do
    let response ← deployContractFromAddressRaw env host
      (fun contract params => runFrame env host (interpret (onDeploy contract)) contract params)
      gasUsed address salt
    interpret (next response)
  | .updateFromAddress gasUsed _ next => do
    let response ← updateContractFromAddressRaw env gasUsed
    interpret (next response)

end

end OpnetNode
