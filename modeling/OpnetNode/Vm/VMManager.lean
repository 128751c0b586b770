import OpnetNode.Vm.ContractEvaluator

/-!
# `VMManager`

The VM of a node: the database it reads and writes, the caches it keeps between the calls of
`clear`, and the trees of the block it is executing.  `vmHost` are the methods it binds to an
evaluator; `execute`, `executeTransaction` and `deployContract` run a transaction over them.

Proofs of storage slots are not validated before an execution (the consensus sets
`SKIP_PROOF_VALIDATION_FOR_EXECUTION_BEFORE_TRANSACTION`), so a cached or stored slot is its value.
`VMManager.lookups` is not part of the source: it lists what the VM was asked for.
-/

namespace OpnetNode

/-! ### The database -/

/-- A document of the pointer collection. -/
structure PointerDocument where
  contractAddress : Bytes
  pointer : U256
  value : U256
  lastSeenAt : Nat
  deriving DecidableEq

/-- The collections of the database that an execution reads. -/
structure VMStorage where
  contracts : List ContractInformation
  pointers : List PointerDocument
  blockHeaders : List Nat

/-- The document of greatest `lastSeenAt`. -/
def latestDocument : List PointerDocument → Option PointerDocument
  | [] => none
  | doc :: docs =>
    match latestDocument docs with
    | none => some doc
    | some latest => if latest.lastSeenAt ≤ doc.lastSeenAt then some doc else some latest

namespace VMStorage

/-- `getByContractAndPointer`: the latest value below a height. -/
def getStorage (db : VMStorage) (address : Bytes) (pointer : U256) (height : Nat) : Option U256 :=
  (latestDocument (db.pointers.filter fun doc =>
    doc.contractAddress = address ∧ doc.pointer = pointer ∧ doc.lastSeenAt < height)).map
    PointerDocument.value

/-- `getContractFromTweakedPubKey`: the contract at an address, up to a height. -/
def getContractAt (db : VMStorage) (address : Bytes) (height : Nat) : Option ContractInformation :=
  db.contracts.find? fun contract =>
    contract.contractPublicKey = address ∧ contract.blockHeight ≤ height

/-- Whether `getContractAt(address, height - 1n)` finds a contract. -/
def contractExistsBelow (db : VMStorage) (address : Bytes) (height : Nat) : Bool :=
  db.contracts.any fun contract =>
    contract.contractPublicKey = address ∧ contract.blockHeight < height

/-- `getContractAddressAt` without a height. -/
def getContractAddressAt (db : VMStorage) (contractAddress : Bytes) : Option Bytes :=
  (db.contracts.find? fun contract => contract.contractAddress = contractAddress).map
    ContractInformation.contractPublicKey

/-- `setContract`: refused if the address string is taken, at any height, or if the insertion
fails.  The collection has unique indexes on both addresses. -/
def setContract (env : VmEnvironment) (contract : ContractInformation) (db : VMStorage) :
    Except VmError VMStorage :=
  if (db.getContractAddressAt contract.contractAddress).isSome then .error .contractAlreadyExists
  else if env.insertFails contract ∨
      db.contracts.any (fun c => c.contractPublicKey = contract.contractPublicKey) then
    .error .unableToInsertContract
  else .ok { db with contracts := db.contracts ++ [contract] }

end VMStorage

/-! ### The manager -/

/-- How a contract is named in a request: by its address string or by its address itself. -/
inductive ContractReference where
  | p2op (contractAddress : Bytes)
  | hex (address : Bytes)
  deriving DecidableEq, Repr

/-- What the VM was asked for. -/
inductive Lookup where
  | slot (address : Bytes) (pointer : U256)
  | contract (address : Bytes)
  | reference (reference : ContractReference)
  | cached (address : Bytes)
  | exists_ (address : Bytes)
  /-- An insertion, and whether the database accepted it. -/
  | insertion (contract : ContractInformation) (accepted : Bool)
  deriving DecidableEq

structure VMManager where
  isExecutor : Bool
  database : VMStorage
  /-- `vmBitcoinBlock.height`. -/
  height : Nat
  blockState : Option (MerkleTree U256 U256)
  receiptState : Option (MerkleTree ReceiptKey Bytes)
  contractCache : JsMap Bytes ContractInformation
  contractAddressCache : JsMap ContractReference Bytes
  pointerCache : JsMap (Bytes × U256) (Option U256)
  lookups : List Lookup

/-- A procedure of the manager. -/
abbrev VmM := Proc VMManager VmError

namespace VMManager

def create (isExecutor : Bool) (database : VMStorage) : VMManager :=
  ⟨isExecutor, database, 0, none, none, .empty, .empty, .empty, []⟩

def clear (vm : VMManager) : VMManager :=
  { vm with
    blockState := none
    receiptState := none
    contractCache := .empty
    contractAddressCache := .empty
    pointerCache := .empty }

def note (lookup : Lookup) : VmM Unit :=
  Proc.modify fun vm => { vm with lookups := vm.lookups ++ [lookup] }

/-- `StateMerkleTree.getValueWithProofs`: the value of a slot; once the tree was generated, its
proof must be found too. -/
def getValueWithProofs (T : RustMerkleTree) (tree : MerkleTree U256 U256) (address : Bytes)
    (pointer : U256) : Except VmError (Option U256) :=
  match tree.values.slot address pointer, tree.tree with
  | none, _ => .ok none
  | some value, none => .ok (some value)
  | some value, some leaves =>
    let leaf := MerkleKind.toBytes [u256ToBytes pointer, u256ToBytes value]
    let proof := (T.getIndexData leaves leaf).bind fun index => T.getProof leaves index
    if (proof.getD []).isEmpty then .error .proofNotFound else .ok (some value)

/-- `getFromInternalCache`: the tree of the block first, then the pointer cache.  A cached `null`
counts as unknown. -/
def getFromInternalCache (T : RustMerkleTree) (vm : VMManager) (address : Bytes)
    (pointer : U256) : Except VmError (Option U256) := do
  let fromState ← match vm.blockState with
    | some tree => getValueWithProofs T tree address pointer
    | none => .ok none
  return fromState.or (vm.pointerCache.get (address, pointer)).join

/-- A computation on the manager that may throw. -/
def ofExcept {α : Type} (f : VMManager → Except VmError α) : VmM α := fun vm => (f vm, vm)

def storePointerInCache (address : Bytes) (pointer : U256) (value : Option U256) : VmM Unit :=
  Proc.modify fun vm =>
    { vm with pointerCache := vm.pointerCache.set (address, pointer) value }

/-- The guard at the top of the storage methods. -/
def requireBlockState : VmM Unit := fun vm =>
  (if vm.blockState.isNone && !vm.isExecutor then .error .blockStateNotFound else .ok (), vm)

def getStorage (T : RustMerkleTree) (address : Bytes) (pointer : U256) (blockNumber : Nat) :
    VmM (Option U256) := do
  requireBlockState
  note (.slot address pointer)
  let known ← ofExcept fun vm => getFromInternalCache T vm address pointer
  match known with
  | some value => return some value
  | none =>
    let vm ← Proc.get
    let stored := vm.database.getStorage address pointer blockNumber
    storePointerInCache address pointer stored
    return stored

/-- The value that `getStorageMultiple` collects for one slot. -/
def collectSlot (T : RustMerkleTree) (blockNumber : Nat)
    (collected : List ((Bytes × U256) × Option U256)) (slot : Bytes × U256) :
    VmM (List ((Bytes × U256) × Option U256)) := do
  note (.slot slot.1 slot.2)
  let known ← ofExcept fun vm => getFromInternalCache T vm slot.1 slot.2
  let vm ← Proc.get
  return collected ++ [(slot, known.or (vm.database.getStorage slot.1 slot.2 blockNumber))]

/-- `getStorageMultiple`: slots that are found are put into the pointer cache. -/
def getStorageMultiple (T : RustMerkleTree) (pointers : List (Bytes × U256)) (blockNumber : Nat) :
    VmM (List ((Bytes × U256) × Option U256)) := do
  requireBlockState
  let collected ← Proc.foldEach (collectSlot T blockNumber) [] pointers
  Proc.forEach (fun entry =>
    match entry.2 with
    | some value => storePointerInCache entry.1.1 entry.1.2 (some value)
    | none => pure ()) collected
  return collected

/-- `getContractAddress`: no height is passed on. -/
def getContractAddress (reference : ContractReference) : VmM (Option Bytes) := do
  note (.reference reference)
  let vm ← Proc.get
  match vm.contractAddressCache.get reference with
  | some address => return some address
  | none =>
    let found := match reference with
      | .hex address => some address
      | .p2op contractAddress => vm.database.getContractAddressAt contractAddress
    match found with
    | some address =>
      Proc.modify fun vm =>
        { vm with contractAddressCache := vm.contractAddressCache.set reference address }
      return some address
    | none => return none

def isContract (env : VmEnvironment) (address : Bytes) : VmM Bool := do
  let contract ← getContractAddress (.p2op (env.p2op address))
  return contract = some address

def getContractInformation (address : Bytes) (height : Nat) : VmM (Option ContractInformation) := do
  note (.contract address)
  let vm ← Proc.get
  match vm.contractCache.get address with
  | some contract => return some contract
  | none =>
    match vm.database.getContractAt address height with
    | some contract =>
      Proc.modify fun vm => { vm with contractCache := vm.contractCache.set address contract }
      return some contract
    | none => return none

/-- `contractCache.has`. -/
def isCached (address : Bytes) : VmM Bool := do
  note (.cached address)
  let vm ← Proc.get
  return vm.contractCache.has address

/-- The check of committed blocks in `deployContractAtAddress`. -/
def contractExistsBelow (address : Bytes) (height : Nat) : VmM Bool := do
  note (.exists_ address)
  let vm ← Proc.get
  return vm.database.contractExistsBelow address height

/-- `setContractAt`: the cache is written first. -/
def setContractAt (env : VmEnvironment) (contract : ContractInformation) : VmM Unit := do
  Proc.modify fun vm =>
    { vm with contractCache := vm.contractCache.set contract.contractPublicKey contract }
  fun vm =>
    match vm.database.setContract env contract with
    | .ok database =>
      (.ok (), { vm with database, lookups := vm.lookups ++ [.insertion contract true] })
    | .error e => (.error e, { vm with lookups := vm.lookups ++ [.insertion contract false] })

/-- `deployContractFromInfo`: emulators do not deploy contracts. -/
def deployContractFromInfo (env : VmEnvironment) (contract : ContractInformation) : VmM Unit := do
  let vm ← Proc.get
  if vm.isExecutor then pure () else setContractAt env contract

end VMManager

/-- The methods that `VMManager` binds to an evaluator. -/
def vmHost (env : VmEnvironment) (T : RustMerkleTree) : Host VMManager where
  getStorage := VMManager.getStorage T
  getStorageMultiple := VMManager.getStorageMultiple T
  isContract := VMManager.isContract env
  getContractInformation := VMManager.getContractInformation
  isCached := VMManager.isCached
  contractExistsBelow := VMManager.contractExistsBelow
  deployContract := VMManager.deployContractFromInfo env

/-! ### Transactions -/

/-- The shared state that a transaction starts with. -/
def newContext (gasTracker : GasTracker) (deployDepth : Nat) (storage : Slots)
    (deployedContracts : JsMap Bytes ContractInformation) : TransactionContext where
  gasTracker
  callStack := []
  contractDeployDepth := deployDepth
  contractUpdateDepth := 0
  storage
  preloadStorage := .empty
  deployedContracts
  trace := []

/-- An interaction with a contract. -/
structure InteractionTransaction where
  transactionId : Bytes
  contractAddress : Bytes
  address : Bytes
  gasSatFee : Nat
  /-- `calculateMaxGas` of the fee. -/
  maxGas : Nat
  specialSettings : Option SpecialContract
  preloadStorageList : List (Bytes × U256)
  /-- What a contract does when it is called with the calldata of the transaction. -/
  execution : ContractInformation → Execution

/-- The deployment of a contract. -/
structure DeploymentTransaction where
  transactionId : Bytes
  /-- `ContractInformation.fromTransaction`. -/
  contract : ContractInformation
  gasSatFee : Nat
  maxGas : Nat
  preloadStorageList : List (Bytes × U256)
  /-- What the contract does when it is deployed. -/
  onDeploy : Execution

namespace VMManager

variable (env : VmEnvironment) (T : RustMerkleTree)

/-- The root call of `executeCallInternal`: find the contract and run it. -/
def executeCallInternal (ctx : TransactionContext) (params : FrameParameters)
    (execution : ContractInformation → Execution) : VmM Locals := do
  let stored ← getContractInformation params.contractAddress params.blockNumber
  match stored.filter validContractInformation with
  | some contract =>
    runRoot env (vmHost env T) ctx (interpret env (vmHost env T) (execution contract)) contract
      params
  | none => Proc.throw .invalidContract

def executeTransaction (blockHeight : Nat) (tx : InteractionTransaction) : VmM Locals := do
  let vm ← Proc.get
  Proc.throwIf (vm.height ≠ blockHeight) .blockHeightMismatch
  let address ← getContractAddress (.p2op tx.contractAddress)
  match address with
  | none => Proc.throw .contractNotFound
  | some address =>
    Proc.throwIf (tx.gasSatFee = 0) .outOfGas
    executeCallInternal env T
      (newContext (GasTracker.new tx.maxGas tx.specialSettings) 0 .empty .empty)
      { contractAddress := address
        transactionId := tx.transactionId
        blockNumber := blockHeight
        externalCall := false
        isDeployment := false
        preloadStorageList := tx.preloadStorageList }
      tx.execution

def deployContract (blockHeight : Nat) (tx : DeploymentTransaction) : VmM Locals := do
  let vm ← Proc.get
  Proc.throwIf (vm.height ≠ blockHeight) .blockHeightMismatch
  Proc.throwIf (validContractInformation tx.contract = false) .vmEvaluatorNotFound
  Proc.throwIf (tx.gasSatFee = 0) .outOfGas
  runRoot env (vmHost env T)
    (newContext (GasTracker.new tx.maxGas none) 1 .empty
      (JsMap.empty.set tx.contract.contractPublicKey tx.contract))
    (interpret env (vmHost env T) tx.onDeploy) tx.contract
    { contractAddress := tx.contract.contractPublicKey
      transactionId := tx.transactionId
      blockNumber := blockHeight
      externalCall := false
      isDeployment := true
      preloadStorageList := tx.preloadStorageList }

/-- A transaction of a block that is executed by the VM. -/
inductive OPNetTransaction where
  | interaction (tx : InteractionTransaction)
  | deployment (tx : DeploymentTransaction)

def OPNetTransaction.transactionId : OPNetTransaction → Bytes
  | .interaction tx => tx.transactionId
  | .deployment tx => tx.transactionId

def runTransaction (blockHeight : Nat) : OPNetTransaction → VmM Locals
  | .interaction tx => executeTransaction env T blockHeight tx
  | .deployment tx => deployContract env T blockHeight tx

/-- A read-only call of an executor. -/
structure SimulationRequest where
  target : ContractReference
  height : Option Nat
  specialSettings : Option SpecialContract
  accessList : Slots
  preloadList : List (Bytes × U256)
  execution : ContractInformation → Execution

/-- `OPNetConsensus.consensus.GAS.EMULATION_MAX_GAS`. -/
def EMULATION_MAX_GAS : Nat := 149000000000

def SIMULATION_TRANSACTION_ID : Bytes :=
  toBigEndian 32 0x61e1ca05754b6990c56d8f0f06c33da411f086c5abae59572e63549361c8f5fc

/-- The height a request is executed at: its own, if that block is stored, or the one after the
latest block. -/
def executionHeight (db : VMStorage) : Option Nat → Except VmError Nat
  | some height => if height ∈ db.blockHeaders then .ok height else .error .invalidBlockHeight
  | none =>
    match db.blockHeaders.max? with
    | some latest => .ok (latest + 1)
    | none => .error .invalidBlockHeight

def execute (request : SimulationRequest) : VmM EvaluatedResult := do
  let address ← getContractAddress request.target
  match address with
  | none => Proc.throw .contractNotFound
  | some address =>
    let blockHeight ← ofExcept fun vm => executionHeight vm.database request.height
    let locals ← executeCallInternal env T
      (newContext (GasTracker.new EMULATION_MAX_GAS request.specialSettings) 0 request.accessList
        .empty)
      { contractAddress := address
        transactionId := SIMULATION_TRANSACTION_ID
        blockNumber := blockHeight
        externalCall := false
        isDeployment := false
        preloadStorageList := request.preloadList }
      request.execution
    return locals.getEvaluationResult

end VMManager

end OpnetNode
