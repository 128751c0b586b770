import OpnetNode.Vm.Equiv.CallTree
import OpnetNode.Vm.Equiv.HostSimulation
import OpnetNode.Vm.VMManager

/-!
# What an evaluation does to the VM

The reading methods of the VM only fill its caches (`hostKeeps_vmHost`).  Writing is left to the
last step of the outermost frame: `run_eq_insertions` cuts a transaction into what comes before it
and the insertions.
-/

namespace OpnetNode

open Proc EvalM

/-! ### What the methods answer -/

namespace VMManager

/-- What the database has for a reference. -/
def findReference (db : VMStorage) : ContractReference → Option Bytes
  | .hex address => some address
  | .p2op contractAddress => db.getContractAddressAt contractAddress

/-- A cache after a lookup that found `found` where the cache had nothing. -/
def fillCache {κ β : Type} [DecidableEq κ] (cache : JsMap κ β) (k : κ) (found : Option β) :
    JsMap κ β :=
  if (cache.get k).isSome then cache
  else
    match found with
    | some v => cache.set k v
    | none => cache

theorem getContractAddress_eq (reference : ContractReference) (vm : VMManager) :
    getContractAddress reference vm =
      (.ok ((vm.contractAddressCache.get reference).or (findReference vm.database reference)),
        { vm with
          lookups := vm.lookups ++ [.reference reference]
          contractAddressCache := fillCache vm.contractAddressCache reference
            (findReference vm.database reference) }) := by
  unfold getContractAddress fillCache
  show bindResult _ (.ok (), { vm with lookups := vm.lookups ++ [Lookup.reference reference] }) = _
  rw [bindResult_ok]
  show bindResult _ (.ok { vm with lookups := vm.lookups ++ [Lookup.reference reference] }, _) = _
  rw [bindResult_ok]
  dsimp only
  cases vm.contractAddressCache.get reference with
  | some address => rfl
  | none =>
    cases reference with
    | hex address => rfl
    | p2op contractAddress =>
      have hfind : findReference vm.database (.p2op contractAddress) =
        vm.database.getContractAddressAt contractAddress := rfl
      rw [hfind]
      dsimp only
      cases vm.database.getContractAddressAt contractAddress <;> rfl

theorem isContract_eq (env : VmEnvironment) (address : Bytes) (vm : VMManager) :
    isContract env address vm =
      (.ok ((vm.contractAddressCache.get (.p2op (env.p2op address))).or
          (findReference vm.database (.p2op (env.p2op address))) = some address),
        (getContractAddress (.p2op (env.p2op address)) vm).2) := by
  show bindResult _ _ = _
  rw [getContractAddress_eq]
  rfl

theorem getContractInformation_eq (address : Bytes) (height : Nat) (vm : VMManager) :
    getContractInformation address height vm =
      (.ok ((vm.contractCache.get address).or (vm.database.getContractAt address height)),
        { vm with
          lookups := vm.lookups ++ [.contract address]
          contractCache := fillCache vm.contractCache address
            (vm.database.getContractAt address height) }) := by
  unfold getContractInformation fillCache
  show bindResult _ (.ok (), { vm with lookups := vm.lookups ++ [Lookup.contract address] }) = _
  rw [bindResult_ok]
  show bindResult _ (.ok { vm with lookups := vm.lookups ++ [Lookup.contract address] }, _) = _
  rw [bindResult_ok]
  dsimp only
  cases vm.contractCache.get address with
  | some contract => rfl
  | none =>
    dsimp only
    cases vm.database.getContractAt address height <;> rfl

theorem isCached_eq (address : Bytes) (vm : VMManager) :
    isCached address vm = (.ok (vm.contractCache.has address),
      { vm with lookups := vm.lookups ++ [.cached address] }) := rfl

theorem contractExistsBelow_eq (address : Bytes) (height : Nat) (vm : VMManager) :
    contractExistsBelow address height vm =
      (.ok (vm.database.contractExistsBelow address height),
        { vm with lookups := vm.lookups ++ [.exists_ address] }) := rfl

end VMManager

/-! ### Reading methods -/

/-- A property of the VM that looking for contracts keeps. -/
structure ContractReadClosed (J : VMManager → Prop) : Prop where
  lookups : ∀ vm lookup, J vm → J { vm with lookups := vm.lookups ++ [lookup] }
  contractAddressCache : ∀ vm reference address, J vm →
    VMManager.findReference vm.database reference = some address →
    J { vm with contractAddressCache := vm.contractAddressCache.set reference address }
  contractCache : ∀ vm address contract, J vm → contract ∈ vm.database.contracts →
    J { vm with contractCache := vm.contractCache.set address contract }

/-- A property of the VM that filling its caches keeps. -/
structure ReadClosed (J : VMManager → Prop) : Prop extends ContractReadClosed J where
  pointerCache : ∀ vm pointerCache, J vm → J { vm with pointerCache }

namespace VMManager

section Storage

variable {J : VMManager → Prop} (hJ : ReadClosed J) (T : RustMerkleTree)

theorem keeps_note (hJ : ContractReadClosed J) (lookup : Lookup) : Keeps J (note lookup) :=
  keeps_modify fun vm hvm => hJ.lookups vm _ hvm

include hJ

theorem keeps_storePointerInCache (address : Bytes) (pointer : U256) (value : Option U256) :
    Keeps J (storePointerInCache address pointer value) :=
  keeps_modify fun vm hvm => hJ.pointerCache vm _ hvm

omit hJ in
theorem keeps_ofExcept {α : Type} (f : VMManager → Except VmError α) : Keeps J (ofExcept f) :=
  fun _ hvm => hvm

omit hJ in
theorem keeps_requireBlockState : Keeps J requireBlockState := fun _ hvm => hvm

theorem keeps_getStorage (address : Bytes) (pointer : U256) (height : Nat) :
    Keeps J (getStorage T address pointer height) := by
  unfold getStorage
  refine keeps_bind keeps_requireBlockState fun _ => ?_
  refine keeps_bind (keeps_note hJ.toContractReadClosed _) fun _ => ?_
  refine keeps_bind (keeps_ofExcept _) fun known => ?_
  cases known with
  | some value => exact keeps_pure _
  | none =>
    refine keeps_bind keeps_get fun vm => ?_
    exact keeps_bind (keeps_storePointerInCache hJ _ _ _) fun _ => keeps_pure _

theorem keeps_getStorageMultiple (pointers : List (Bytes × U256)) (height : Nat) :
    Keeps J (getStorageMultiple T pointers height) := by
  unfold getStorageMultiple
  refine keeps_bind keeps_requireBlockState fun _ => ?_
  refine keeps_bind (keeps_foldEach (fun collected slot => ?_) _ _) fun collected => ?_
  · refine keeps_bind (keeps_note hJ.toContractReadClosed _) fun _ => ?_
    refine keeps_bind (keeps_ofExcept _) fun known => ?_
    exact keeps_bind keeps_get fun vm => keeps_pure _
  · refine keeps_bind (keeps_forEach (fun entry => ?_) _) fun _ => keeps_pure _
    cases entry.2 with
    | some value => exact keeps_storePointerInCache hJ _ _ _
    | none => exact keeps_pure _

end Storage

section Contracts

variable {J : VMManager → Prop} (hJ : ContractReadClosed J) (env : VmEnvironment)

include hJ

theorem keeps_getContractAddress (reference : ContractReference) :
    Keeps J (getContractAddress reference) := by
  intro vm hvm
  have hnoted := hJ.lookups vm (.reference reference) hvm
  rw [getContractAddress_eq]
  unfold fillCache
  split_ifs with hcached
  · exact hnoted
  · rcases hfound : findReference vm.database reference with _ | address
    · exact hnoted
    · exact hJ.contractAddressCache _ reference address hnoted hfound

theorem keeps_isContract (address : Bytes) : Keeps J (isContract env address) :=
  keeps_bind (keeps_getContractAddress hJ _) fun _ => keeps_pure _

theorem keeps_getContractInformation (address : Bytes) (height : Nat) :
    Keeps J (getContractInformation address height) := by
  unfold getContractInformation
  refine keeps_bind (keeps_note hJ _) fun _ => keeps_get_bind fun vm hvm => ?_
  cases vm.contractCache.get address with
  | some contract => exact hvm
  | none =>
    dsimp only
    cases hfound : vm.database.getContractAt address height with
    | some contract => exact hJ.contractCache vm address contract hvm (List.mem_of_find?_eq_some hfound)
    | none => exact hvm

theorem keeps_isCached (address : Bytes) : Keeps J (isCached address) :=
  keeps_bind (keeps_note hJ _) fun _ => keeps_bind keeps_get fun _ => keeps_pure _

theorem keeps_contractExistsBelow (address : Bytes) (height : Nat) :
    Keeps J (contractExistsBelow address height) :=
  keeps_bind (keeps_note hJ _) fun _ => keeps_bind keeps_get fun _ => keeps_pure _

end Contracts

end VMManager

theorem hostKeeps_vmHost {J : VMManager → Prop} (hJ : ReadClosed J) (env : VmEnvironment)
    (T : RustMerkleTree) : HostKeeps J (vmHost env T) where
  getStorage := VMManager.keeps_getStorage hJ T
  getStorageMultiple := VMManager.keeps_getStorageMultiple hJ T
  isContract := VMManager.keeps_isContract hJ.toContractReadClosed env
  getContractInformation := VMManager.keeps_getContractInformation hJ.toContractReadClosed
  isCached := VMManager.keeps_isCached hJ.toContractReadClosed
  contractExistsBelow := VMManager.keeps_contractExistsBelow hJ.toContractReadClosed

/-! ### Transactions as root calls -/

/-- The contract a transaction deploys itself. -/
def VMManager.OPNetTransaction.ownContract :
    VMManager.OPNetTransaction → List ContractInformation
  | .interaction _ => []
  | .deployment tx => [tx.contract]

/-- What the outermost frame of a transaction is run with. -/
structure RootCall where
  ctx : TransactionContext
  params : FrameParameters
  contract : ContractInformation
  execution : Execution

namespace RootCall

variable (env : VmEnvironment) (T : RustMerkleTree)

/-- The contract of a call and what it does. -/
def ofContract (ctx : TransactionContext) (params : FrameParameters)
    (execution : ContractInformation → Execution) : VmM RootCall := do
  let stored ← VMManager.getContractInformation params.contractAddress params.blockNumber
  match stored.filter validContractInformation with
  | some contract => return ⟨ctx, params, contract, execution contract⟩
  | none => Proc.throw .invalidContract

/-- The checks of a transaction, up to its outermost frame. -/
def ofTransaction (blockHeight : Nat) : VMManager.OPNetTransaction → VmM RootCall
  | .interaction tx => do
    let vm ← Proc.get
    Proc.throwIf (vm.height ≠ blockHeight) .blockHeightMismatch
    let address ← VMManager.getContractAddress (.p2op tx.contractAddress)
    match address with
    | none => Proc.throw .contractNotFound
    | some address =>
      Proc.throwIf (tx.gasSatFee = 0) .outOfGas
      ofContract (newContext (GasTracker.new tx.maxGas tx.specialSettings) 0 .empty .empty)
        { contractAddress := address
          transactionId := tx.transactionId
          blockNumber := blockHeight
          externalCall := false
          isDeployment := false
          preloadStorageList := tx.preloadStorageList }
        tx.execution
  | .deployment tx => do
    let vm ← Proc.get
    Proc.throwIf (vm.height ≠ blockHeight) .blockHeightMismatch
    Proc.throwIf (validContractInformation tx.contract = false) .vmEvaluatorNotFound
    Proc.throwIf (tx.gasSatFee = 0) .outOfGas
    return {
      ctx := newContext (GasTracker.new tx.maxGas none) 1 .empty
        (JsMap.empty.set tx.contract.contractPublicKey tx.contract)
      params := {
        contractAddress := tx.contract.contractPublicKey
        transactionId := tx.transactionId
        blockNumber := blockHeight
        externalCall := false
        isDeployment := true
        preloadStorageList := tx.preloadStorageList }
      contract := tx.contract
      execution := tx.onDeploy }

/-- Run the outermost frame over a host. -/
def runOn {σ : Type} (host : Host σ) (call : RootCall) : Proc σ VmError Locals :=
  runRoot env host call.ctx (interpret env host call.execution) call.contract call.params

/-- Run the outermost frame over the VM. -/
def run (call : RootCall) : VmM Locals := call.runOn env (vmHost env T)

variable {σ : Type} {host : Host σ} {call : RootCall}

theorem simulates_runOn {τ : Type} {R : σ → τ → Prop} {good : σ → Prop} {host' : Host τ}
    (h : HostSimulates call.params.blockNumber R good host host') :
    OnHosts R good (call.runOn env host) (call.runOn env host') :=
  simulates_runRoot env h call.ctx call.execution call.contract

theorem executeCallInternal_eq (ctx : TransactionContext) (params : FrameParameters)
    (execution : ContractInformation → Execution) :
    VMManager.executeCallInternal env T ctx params execution =
      ofContract ctx params execution >>= fun call => call.run env T := by
  unfold VMManager.executeCallInternal ofContract
  rw [Proc.bind_assoc]
  congr 1
  funext stored
  cases stored.filter validContractInformation with
  | some | none => rfl

theorem runTransaction_eq (blockHeight : Nat) (tx : VMManager.OPNetTransaction) :
    VMManager.runTransaction env T blockHeight tx =
      ofTransaction blockHeight tx >>= fun call => call.run env T := by
  cases tx with
  | interaction tx =>
    show VMManager.executeTransaction env T blockHeight tx = _
    unfold VMManager.executeTransaction ofTransaction
    simp only [Proc.bind_assoc, executeCallInternal_eq]
    congr 1
    funext vm
    congr 1
    funext _
    congr 1
    funext address
    cases address with
    | none => rfl
    | some address => simp only [Proc.bind_assoc]
  | deployment tx =>
    show VMManager.deployContract env T blockHeight tx = _
    unfold VMManager.deployContract ofTransaction
    simp only [Proc.bind_assoc]
    rfl

/-- What the checks of a transaction hand to its outermost frame. -/
structure Of (blockHeight : Nat) (tx : VMManager.OPNetTransaction) (call : RootCall) : Prop where
  blockNumber : call.params.blockNumber = blockHeight
  transactionId : call.params.transactionId = tx.transactionId
  external : call.params.externalCall = false
  trace : call.ctx.trace = []
  storage : call.ctx.storage = .empty
  preloadStorage : call.ctx.preloadStorage = .empty
  deployDepth : call.ctx.contractDeployDepth = tx.ownContract.length
  updateDepth : call.ctx.contractUpdateDepth = 0
  isDeployment : call.params.isDeployment = !tx.ownContract.isEmpty
  deployed : call.ctx.deployedContracts.vals = tx.ownContract
  keyed : ∀ c ∈ call.ctx.deployedContracts.vals,
    call.ctx.deployedContracts.get c.contractPublicKey = some c

theorem ensures_ofTransaction {J : VMManager → Prop} (hJ : ContractReadClosed J)
    (blockHeight : Nat) (tx : VMManager.OPNetTransaction) :
    Ensures J (ofTransaction blockHeight tx) (fun call vm => J vm ∧ Of blockHeight tx call) J := by
  cases tx with
  | interaction tx =>
    unfold ofTransaction
    refine ensures_bind (ensures_of_keeps keeps_get) fun _ => ?_
    refine ensures_bind (ensures_of_keeps (keeps_throwIf _ _)) fun _ => ?_
    refine ensures_bind (ensures_of_keeps (VMManager.keeps_getContractAddress hJ _))
      fun address => ?_
    cases address with
    | none => exact ensures_throw _
    | some address =>
      refine ensures_bind (ensures_of_keeps (keeps_throwIf _ _)) fun _ => ?_
      refine ensures_bind (ensures_of_keeps (VMManager.keeps_getContractInformation hJ _ _))
        fun stored => ?_
      cases stored.filter validContractInformation with
      | none => exact ensures_throw _
      | some contract =>
        exact fun vm h => ⟨h, rfl, rfl, rfl, rfl, rfl, rfl, rfl, rfl, rfl, rfl,
          fun c hc => absurd hc List.not_mem_nil⟩
  | deployment tx =>
    unfold ofTransaction
    refine ensures_bind (ensures_of_keeps keeps_get) fun _ => ?_
    refine ensures_bind (ensures_of_keeps (keeps_throwIf _ _)) fun _ => ?_
    refine ensures_bind (ensures_of_keeps (keeps_throwIf _ _)) fun _ => ?_
    refine ensures_bind (ensures_of_keeps (keeps_throwIf _ _)) fun _ => ?_
    refine fun vm h => ⟨h, rfl, rfl, rfl, rfl, rfl, rfl, rfl, rfl, rfl, rfl, fun c hc => ?_⟩
    obtain rfl := List.mem_singleton.mp hc
    exact JsMap.get_set_self _ _ _

theorem readClosed_true : ReadClosed fun _ => True :=
  ⟨⟨fun _ _ _ => trivial, fun _ _ _ _ _ => trivial, fun _ _ _ _ _ => trivial⟩,
    fun _ _ _ => trivial⟩

theorem hostSimulates_refl (n : Nat) (host : Host σ) :
    HostSimulates n Eq (fun _ => True) host host := by
  have hrefl : ∀ {α : Type} (m : Proc σ VmError α), OnHosts Eq (fun _ => True) m m := by
    intro α m
    refine ⟨fun _ _ => trivial, fun _ _ _ => trivial, ?_⟩
    rintro s t - rfl -
    exact ⟨rfl, rfl⟩
  exact ⟨fun a p => hrefl _, fun l => hrefl _, fun a => hrefl _, fun a => hrefl _,
    fun a => hrefl _, fun a => hrefl _, fun c => hrefl _⟩

variable {l : Locals}

theorem runOn_id {s s' : σ} (h : call.runOn env host s = (.ok l, s')) : l.id = call.params.id := by
  have hhost := hostSimulates_refl call.params.blockNumber host
  have hbody := simulates_frameBody env hhost
    (simulates_interpret env hhost call.execution call.params.id rfl) call.contract call.params
  unfold runOn runRoot at h
  cases hstart : newEvaluation call.params call.ctx with
  | error e =>
    rw [hstart] at h
    cases h
  | ok l₀ =>
    rw [hstart] at h
    obtain ⟨hl, -⟩ := Prod.mk.inj h
    rw [← Except.ok.inj hl]
    exact hbody.keeps { host := s, locals := l₀ } (newEvaluation_id hstart)

theorem runTransaction_transactionId {n : Nat} {tx : VMManager.OPNetTransaction}
    {vm vm' : VMManager}
    (h : VMManager.runTransaction env T n tx vm = (.ok l, vm')) :
    l.evaluation.transactionId = tx.transactionId := by
  have hchecks := ensures_ofTransaction (J := fun _ => True) readClosed_true.toContractReadClosed n
    tx vm trivial
  rw [runTransaction_eq] at h
  replace h : bindResult (fun call => call.run env T) (ofTransaction n tx vm) = (.ok l, vm') := h
  rcases hof : ofTransaction n tx vm with ⟨e | call, vm₁⟩
  · rw [hof, bindResult_error] at h
    cases h
  · rw [hof] at hchecks h
    rw [bindResult_ok] at h
    rw [← hchecks.2.transactionId]
    exact congrArg FrameId.transactionId (runOn_id env h)

/-! ### The outermost frame -/

/-- The outermost frame up to the insertion of the contracts it deployed. -/
def beforeInsertions (call : RootCall) : EvalM VMManager Unit := do
  runContract env (vmHost env T) (interpret env (vmHost env T) call.execution) call.contract
    call.params
  let l ← locals
  if l.evaluation.externalCall || l.evaluation.revert.isSome then pure ()
  else calculateGasCostStore env (vmHost env T)

/-- The insertion of the contracts that the outermost frame deployed. -/
def insertions : EvalM VMManager Unit := do
  let l ← locals
  if l.evaluation.externalCall || l.evaluation.revert.isSome then pure ()
  else deployContracts (vmHost env T)

theorem run_eq_insertions (call : RootCall) :
    (do
      runContract env (vmHost env T) (interpret env (vmHost env T) call.execution) call.contract
        call.params
      terminateEvaluation env (vmHost env T)) =
      (do
        beforeInsertions env T call
        insertions env T : EvalM VMManager Unit) := by
  unfold beforeInsertions
  rw [Proc.bind_assoc]
  congr 1
  funext _ f
  have hterminate : terminateEvaluation env (vmHost env T) f =
      (if f.locals.evaluation.externalCall || f.locals.evaluation.revert.isSome then pure ()
        else calculateGasCostStore env (vmHost env T) >>= fun _ => deployContracts (vmHost env T))
        f := rfl
  have hcut : ((do
      let l ← locals
      if l.evaluation.externalCall || l.evaluation.revert.isSome then pure ()
      else calculateGasCostStore env (vmHost env T)) >>= fun _ => insertions env T) f =
      bindResult (fun _ => insertions env T)
        ((if f.locals.evaluation.externalCall || f.locals.evaluation.revert.isSome then pure ()
          else calculateGasCostStore env (vmHost env T) : EvalM VMManager Unit) f) := rfl
  rw [hterminate, hcut]
  have hinsert (f : Frame VMManager) : insertions env T f =
      (if f.locals.evaluation.externalCall || f.locals.evaluation.revert.isSome then pure ()
        else deployContracts (vmHost env T) : EvalM VMManager Unit) f := rfl
  by_cases hskip : (f.locals.evaluation.externalCall || f.locals.evaluation.revert.isSome) = true
  · rw [if_pos hskip, if_pos hskip]
    show (.ok (), f) = insertions env T f
    rw [hinsert, if_pos hskip]
    rfl
  · rw [if_neg hskip, if_neg hskip]
    show bindResult _ _ = _
    -- Charging for the storage does not change whether the frame reverted.
    have hsame := keeps_calculateGasCostStore (P := fun e => e = f.locals.effects) env
      (hostKeeps_vmHost readClosed_true env T) f ⟨trivial, rfl⟩
    rcases hcalc : calculateGasCostStore env (vmHost env T) f with ⟨e | u, f'⟩
    · rfl
    · rw [hcalc] at hsame
      have hrevert : f'.locals.evaluation.revert = f.locals.evaluation.revert :=
        congrArg Effects.revert hsame.2
      have hexternal : f'.locals.evaluation.externalCall = f.locals.evaluation.externalCall :=
        congrArg Effects.externalCall hsame.2
      show deployContracts (vmHost env T) f' = insertions env T f'
      rw [hinsert, hrevert, hexternal, if_neg hskip]

/-- The contracts that a frame has to insert: none if it reverted or threw. -/
def toInsert : Except VmError Unit × Frame VMManager → List ContractInformation
  | (.error _, _) => []
  | (.ok _, f) =>
    if f.locals.evaluation.revert.isSome then [] else f.locals.ctx.deployedContracts.vals

/-- The contracts that are left to insert when the outermost frame comes to the insertions. -/
def pending (call : RootCall) (vm : VMManager) : List ContractInformation :=
  match newEvaluation call.params call.ctx with
  | .error _ => []
  | .ok locals => toInsert (beforeInsertions env T call { host := vm, locals })

end RootCall

/-! ### Insertions -/

namespace VMManager

variable (env : VmEnvironment) (T : RustMerkleTree)

/-- All insertions attempted one after the other: the first refusal and the database after them. -/
def insertAll : List ContractInformation → VMStorage → Option VmError × VMStorage
  | [], db => (none, db)
  | contract :: contracts, db =>
    match db.setContract env contract with
    | .ok db' => insertAll contracts db'
    | .error e => (some e, (insertAll contracts db).2)

/-- The VM after all insertions were attempted. -/
def insertContracts (contracts : List ContractInformation) (vm : VMManager) : VMManager :=
  contracts.foldl (fun vm contract => (setContractAt env contract vm).2) vm

theorem setContractAt_eq (contract : ContractInformation) (vm : VMManager) :
    setContractAt env contract vm =
      ((vm.database.setContract env contract).map fun _ => (),
        { vm with
          lookups := vm.lookups ++
            [.insertion contract (vm.database.setContract env contract).isOk]
          contractCache := vm.contractCache.set contract.contractPublicKey contract
          database := match vm.database.setContract env contract with
            | .ok database => database
            | .error _ => vm.database }) := by
  show (match vm.database.setContract env contract with
    | .ok database => _
    | .error e => _) = _
  cases vm.database.setContract env contract with
  | ok | error => rfl

theorem setContract_eq {contract : ContractInformation} {db db' : VMStorage}
    (h : db.setContract env contract = .ok db') : db' = { db with contracts := db'.contracts } := by
  unfold VMStorage.setContract at h
  split at h
  · cases h
  · split at h
    · cases h
    · cases h
      rfl

theorem insertAll_eq (contracts : List ContractInformation) (db : VMStorage) :
    (insertAll env contracts db).2 =
      { db with contracts := (insertAll env contracts db).2.contracts } := by
  induction contracts generalizing db with
  | nil => rfl
  | cons contract contracts ih =>
    rw [insertAll]
    cases hset : db.setContract env contract with
    | error e => exact ih db
    | ok db' =>
      show (insertAll env contracts db').2 = _
      rw [ih db', setContract_eq env hset]

theorem insertContracts_database (contracts : List ContractInformation) (vm : VMManager) :
    (insertContracts env contracts vm).database = (insertAll env contracts vm.database).2 := by
  induction contracts generalizing vm with
  | nil => rfl
  | cons contract contracts ih =>
    show (insertContracts env contracts (setContractAt env contract vm).2).database = _
    rw [ih, setContractAt_eq, insertAll]
    cases vm.database.setContract env contract with
    | ok | error => rfl

theorem insertContracts_cons (contract : ContractInformation) (contracts : List ContractInformation)
    (vm : VMManager) : insertContracts env (contract :: contracts) vm =
      insertContracts env contracts (setContractAt env contract vm).2 := rfl

theorem get_contractCache_setContractAt (contract : ContractInformation) (vm : VMManager)
    (k : Bytes) : (setContractAt env contract vm).2.contractCache.get k =
      if k = contract.contractPublicKey then some contract else vm.contractCache.get k := by
  rw [setContractAt_eq]
  exact JsMap.get_set _ _ _ _

variable {contracts : List ContractInformation} {vm : VMManager} {c : ContractInformation}

theorem get_insertContracts {k : Bytes}
    (h : (insertContracts env contracts vm).contractCache.get k = some c) :
    (c ∈ contracts ∧ k = c.contractPublicKey) ∨ vm.contractCache.get k = some c := by
  induction contracts generalizing vm with
  | nil => exact .inr h
  | cons contract contracts ih =>
    rcases ih h with hmem | hget
    · exact .inl ⟨List.mem_cons_of_mem _ hmem.1, hmem.2⟩
    · rw [get_contractCache_setContractAt] at hget
      split at hget
      next hk =>
        cases hget
        exact .inl ⟨List.mem_cons_self, hk⟩
      · exact .inr hget

/-- A contract whose address no other one of the insertions has is found in the cache after them,
whether it was refused or not. -/
theorem get_insertContracts_self (vm : VMManager)
    (h : ∀ c' ∈ contracts, c'.contractPublicKey = c.contractPublicKey → c' = c) :
    (insertContracts env contracts vm).contractCache.get c.contractPublicKey =
      if c ∈ contracts then some c else vm.contractCache.get c.contractPublicKey := by
  induction contracts generalizing vm with
  | nil => rfl
  | cons contract contracts ih =>
    rw [insertContracts_cons, ih _ fun c' hc' => h c' (List.mem_cons_of_mem _ hc'),
      get_contractCache_setContractAt]
    by_cases hc : c = contract
    · simp [hc]
    · have hne : c.contractPublicKey ≠ contract.contractPublicKey := fun heq =>
        hc (h contract List.mem_cons_self heq.symm).symm
      simp [hc, hne]

theorem deployContractFromInfo_eq (contract : ContractInformation) (h : vm.isExecutor = false) :
    deployContractFromInfo env contract vm = setContractAt env contract vm := by
  show (if vm.isExecutor then _ else _ : VmM Unit) vm = _
  rw [h]
  rfl

theorem isExecutor_setContractAt (contract : ContractInformation) (vm : VMManager) :
    (setContractAt env contract vm).2.isExecutor = vm.isExecutor := by
  rw [setContractAt_eq]

/-- The fold of `deployContracts`: every insertion is attempted and the first refusal is kept. -/
theorem foldEach_settle (contracts : List ContractInformation) (failure : Option VmError)
    (f : Frame VMManager) (hexecutor : f.host.isExecutor = false) :
    Proc.foldEach (settle (vmHost env T)) failure contracts f =
      (.ok (failure.or (insertAll env contracts f.host.database).1),
        { f with host := insertContracts env contracts f.host }) := by
  induction contracts generalizing failure f with
  | nil =>
    rw [show (insertAll env [] f.host.database).1 = none from rfl, Option.or_none]
    rfl
  | cons contract contracts ih =>
    have hdeploy : settle (vmHost env T) failure contract f =
        (.ok (failure.or (match f.host.database.setContract env contract with
          | .ok _ => none
          | .error e => some e)),
          { f with host := (setContractAt env contract f.host).2 }) := by
      show catchResult _ (bindResult _ ((deployContractFromInfo env contract f.host).1,
        { f with host := (deployContractFromInfo env contract f.host).2 })) = _
      rw [deployContractFromInfo_eq env contract hexecutor, setContractAt_eq]
      cases f.host.database.setContract env contract with
      | ok database =>
        rw [Option.or_none]
        rfl
      | error e => rfl
    refine (bind_of_ok hdeploy).trans ?_
    show Proc.foldEach (settle (vmHost env T)) _ contracts _ = _
    rw [ih _ _ ((isExecutor_setContractAt env contract f.host).trans hexecutor),
      insertContracts_cons, insertAll]
    rw [show (setContractAt env contract f.host).2.database = _ from
      congrArg (fun r => r.2.database) (setContractAt_eq env contract f.host)]
    cases f.host.database.setContract env contract with
    | ok | error => simp

theorem foldEach_settle_of_isExecutor (contracts : List ContractInformation)
    (failure : Option VmError) (f : Frame VMManager) (hexecutor : f.host.isExecutor = true) :
    Proc.foldEach (settle (vmHost env T)) failure contracts f = (.ok failure, f) := by
  induction contracts with
  | nil => rfl
  | cons contract contracts ih =>
    have hinfo : deployContractFromInfo env contract f.host = (.ok (), f.host) := by
      show (if f.host.isExecutor then _ else _ : VmM Unit) f.host = _
      rw [hexecutor]
      rfl
    show bindResult _ (catchResult _ (bindResult _ ((deployContractFromInfo env contract f.host).1,
      { f with host := (deployContractFromInfo env contract f.host).2 }))) = _
    rw [hinfo]
    exact ih

end VMManager

end OpnetNode
