import OpnetNode.Mldsa.LinkRequest
import OpnetNode.Vm.ContractEvaluator

/-!
# The host calls of a transaction, noted

`HostCalls` are the call trees of `Execution` with the lookups of ML-DSA keys, whose counter the frames
of a transaction share.  `observe` runs them as `interpret` does and notes what the frames did and what
they were told.  Of an `Observed` state only the host and the counter are part of the source.
-/

namespace OpnetNode

/-- What a contract does in one frame, with its lookups of ML-DSA keys. -/
inductive HostCalls where
  | exit (response : ExitDataResponse)
  | abort (message : Bytes)
  | load (pointer : U256) (next : U256 → Bool → HostCalls)
  | store (pointer value : U256) (next : HostCalls)
  | emit (event : NetEvent) (next : HostCalls)
  | accountType (address : Bytes) (next : Bool → Bool → HostCalls)
  | call (gasUsed : Nat) (address : Bytes) (callee : ContractInformation → HostCalls)
      (next : CallResponse → HostCalls)
  | deployFromAddress (gasUsed : Nat) (address salt : Bytes)
      (onDeploy : ContractInformation → HostCalls) (next : DeployResponse → HostCalls)
  | updateFromAddress (gasUsed : Nat) (address : Bytes) (next : DeployResponse → HostCalls)
  /-- The level is a byte of the request; `none` stands for one that is no level. -/
  | loadMLDSA (level : Option MLDSASecurityLevel) (address : Bytes) (next : Option Bytes → HostCalls)

/-- A call tree that looks no key up. -/
def Execution.hostCalls : Execution → HostCalls
  | .exit response => .exit response
  | .abort message => .abort message
  | .load pointer next => .load pointer fun value wasCold => (next value wasCold).hostCalls
  | .store pointer value next => .store pointer value next.hostCalls
  | .emit event next => .emit event next.hostCalls
  | .accountType address next =>
    .accountType address fun isContract isWarm => (next isContract isWarm).hostCalls
  | .call gasUsed address callee next =>
    .call gasUsed address (fun contract => (callee contract).hostCalls)
      fun response => (next response).hostCalls
  | .deployFromAddress gasUsed address salt onDeploy next =>
    .deployFromAddress gasUsed address salt (fun contract => (onDeploy contract).hostCalls)
      fun response => (next response).hostCalls
  | .updateFromAddress gasUsed address next =>
    .updateFromAddress gasUsed address fun response => (next response).hostCalls

/-- An access to an address, by a frame. -/
structure AddressAccess where
  frame : Nat
  address : Bytes
  /-- It asked for the type of the account. -/
  isQuery : Bool
  deriving DecidableEq, Repr

/-- How an address was accessed, and how that ended. -/
inductive AddressQuestion where
  | accountType (isContract : Bool)
  /-- A call, and whether nothing was thrown in its `try` block. -/
  | call (completed : Bool)
  deriving DecidableEq, Repr

/-- What a frame was told of an address. -/
structure AddressAnswer where
  frame : Nat
  /-- The contract of the frame. -/
  self : Bytes
  address : Bytes
  question : AddressQuestion
  isWarm : Bool
  /-- The transaction had deployed a contract there. -/
  deployed : Bool
  /-- The accesses before this one. -/
  earlier : List AddressAccess
  deriving DecidableEq, Repr

/-- A host with the counter of ML-DSA lookups and the notes. -/
structure Observed (σ : Type) where
  host : σ
  mldsaLoadCounter : Nat
  /-- The keys the host was asked for. -/
  mldsaLookups : List Bytes
  /-- The number of frames, which numbers them. -/
  frames : Nat
  /-- How many of them were entered by a call. -/
  entered : Nat
  accesses : List AddressAccess
  answers : List AddressAnswer

/-- `OPNetConsensus.consensus.MLDSA.MAX_LOADS`. -/
def MAX_LOADS : Nat := 50

/-- `OPNetConsensus.consensus.MLDSA.ENABLED_LEVELS`. -/
def ENABLED_LEVELS : List MLDSASecurityLevel := [.LEVEL2]

namespace Observed

variable {σ α : Type}

/-- The start of a transaction, which counts as an access to some addresses. -/
def start (accessed : List Bytes) (s : σ) : Observed σ :=
  ⟨s, 0, [], 1, 0, accessed.map fun address => ⟨0, address, false⟩, []⟩

/-- Run a procedure of the host. -/
def onPart (m : Proc σ VmError α) : Proc (Observed σ) VmError α :=
  Proc.zoom Observed.host (fun host s => { s with host }) m

def noteAccess (access : AddressAccess) : Proc (Observed σ) VmError Unit :=
  Proc.modify fun s => { s with accesses := s.accesses ++ [access] }

def noteAnswer (answer : AddressAnswer) : Proc (Observed σ) VmError Unit :=
  Proc.modify fun s => { s with answers := s.answers ++ [answer] }

/-- A new frame. -/
def enter (byCall : Bool) (s : Observed σ) : Observed σ :=
  { s with frames := s.frames + 1, entered := if byCall then s.entered + 1 else s.entered }

def incrementMLDSALoadCounter : Proc (Observed σ) VmError Unit :=
  Proc.modify fun s => { s with mldsaLoadCounter := s.mldsaLoadCounter + 1 }

end Observed

def Host.observed {σ : Type} (host : Host σ) : Host (Observed σ) where
  getStorage a p n := Observed.onPart (host.getStorage a p n)
  getStorageMultiple l n := Observed.onPart (host.getStorageMultiple l n)
  isContract a := Observed.onPart (host.isContract a)
  getContractInformation a n := Observed.onPart (host.getContractInformation a n)
  isCached a := Observed.onPart (host.isCached a)
  contractExistsBelow a n := Observed.onPart (host.contractExistsBelow a n)
  deployContract c := Observed.onPart (host.deployContract c)

section

variable {σ : Type} (env : VmEnvironment) (host : Host σ)
  (getMLDSAPublicKey : Bytes → Proc σ VmError (Option MLDSAPublicKey))

open EvalM Observed

/-- Ask the host for a key. -/
def lookupMLDSA (address : Bytes) : Proc (Observed σ) VmError (Option MLDSAPublicKey) := do
  Proc.modify fun s => { s with mldsaLookups := s.mldsaLookups ++ [address] }
  onPart (getMLDSAPublicKey address)

/-- `loadMLDSA`: the key, if it is known with the level that was asked for. -/
def loadMLDSA (level : Option MLDSASecurityLevel) (address : Bytes) :
    Proc (Observed σ) VmError (Option Bytes) := do
  let s ← Proc.get
  if MAX_LOADS ≤ s.mldsaLoadCounter then return none
  else do
    incrementMLDSALoadCounter
    match level with
    | none => return none
    | some level =>
      if level ∉ ENABLED_LEVELS then return none
      else do
        let publicKeyData ← lookupMLDSA getMLDSAPublicKey address
        return publicKeyData.bind fun data =>
          if data.level ≠ level then none
          else data.publicKey.filter fun publicKey => publicKey.length = MLDSANode.fromLevel level

def observeAccountType (frame : Nat) (address : Bytes) : EvalM (Observed σ) (Bool × Bool) := do
  let f ← Proc.get
  onHost (noteAccess ⟨frame, address, true⟩)
  let type ← getAccountType host.observed address
  onHost (noteAnswer {
    frame
    self := f.locals.evaluation.contractAddress
    address
    question := .accountType type.1
    isWarm := type.2
    deployed := f.locals.ctx.deployedContracts.has address
    earlier := f.host.accesses })
  return type

/-- The `try` block of `call`. -/
def callAttempt {τ : Type} (host : Host τ)
    (run : ContractInformation → FrameParameters → EvalM τ ContractEvaluation)
    (gasUsed : Nat) (address : Bytes) : EvalM τ CallResponse := do
  method (Method.setGasUsed gasUsed)
  let l ← locals
  Proc.throwIf (MAXIMUM_CALL_DEPTH ≤ l.ctx.callStack.length) .callStackTooDeep
  let (isWarm, response) ← internalCall host run address false
  let l ← locals
  return {
    isWarm
    gasUsed := reportedGas l gasUsed
    status := (callOutcome response).1
    result := (callOutcome response).2 }

def observeCall (run : ContractInformation → FrameParameters → EvalM (Observed σ) ContractEvaluation)
    (frame gasUsed : Nat) (address : Bytes) : EvalM (Observed σ) CallResponse := do
  let f ← Proc.get
  onHost (noteAccess ⟨frame, address, false⟩)
  let start ← Proc.get
  let response ← call env host.observed run gasUsed address
  onHost (noteAnswer {
    frame
    self := f.locals.evaluation.contractAddress
    address
    question := .call (callAttempt host.observed run gasUsed address start).1.isOk
    isWarm := response.isWarm
    deployed := f.locals.ctx.deployedContracts.has address
    earlier := f.host.accesses })
  return response

/-- Run an inner frame. -/
def observeFrame (byCall : Bool)
    (body : Nat → ContractInformation → EvalM (Observed σ) ExitDataResponse)
    (contract : ContractInformation) (params : FrameParameters) :
    EvalM (Observed σ) ContractEvaluation := do
  let f ← Proc.get
  Proc.modify fun f => { f with host := f.host.enter byCall }
  runFrame env host.observed (body f.host.frames contract) contract params

/-- The Rust VM running a contract, in the frame with a number. -/
def observe : HostCalls → Nat → EvalM (Observed σ) ExitDataResponse
  | .exit response, _ => return response
  | .abort message, _ => Proc.throw (.vm message)
  | .load pointer next, frame => do
    let (value, wasCold) ← load host.observed pointer
    observe (next value wasCold) frame
  | .store pointer value next, frame => do
    method (Method.setStorage pointer value)
    observe next frame
  | .emit event next, frame => do
    method (Method.emitEvent event)
    observe next frame
  | .accountType address next, frame => do
    let (isContract, isWarm) ← observeAccountType host frame address
    observe (next isContract isWarm) frame
  | .call gasUsed address callee next, frame => do
    let response ← observeCall env host
      (observeFrame env host true fun inner contract => observe (callee contract) inner)
      frame gasUsed address
    observe (next response) frame
  | .deployFromAddress gasUsed address salt onDeploy next, frame => do
    let response ← deployContractFromAddressRaw env host.observed
      (observeFrame env host false fun inner contract => observe (onDeploy contract) inner)
      gasUsed address salt
    observe (next response) frame
  | .updateFromAddress gasUsed _ next, frame => do
    let response ← updateContractFromAddressRaw env gasUsed
    observe (next response) frame
  | .loadMLDSA level address next, frame => do
    let publicKey ← onHost (loadMLDSA getMLDSAPublicKey level address)
    observe (next publicKey) frame

/-- A transaction that counts as an access to some addresses. -/
def observeRoot (accessed : List Bytes) (ctx : TransactionContext) (calls : HostCalls)
    (contract : ContractInformation) (params : FrameParameters) (s : σ) :
    Except VmError Locals × Observed σ :=
  runRoot env host.observed ctx (observe env host getMLDSAPublicKey calls 0) contract params
    (Observed.start accessed s)

end

end OpnetNode
