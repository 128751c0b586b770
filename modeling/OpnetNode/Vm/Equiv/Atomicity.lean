import OpnetNode.Vm.Equiv.VMManager

/-!
# Whole-transaction atomicity

A transaction takes effect as a whole or not at all: if any frame of its call tree reverted, the
transaction did, and then its result is empty and it wrote no contract; else its result has all
that its frames did.  `setContractAt` writes the contract cache before the database, and
`terminateEvaluation` does not undo it, so this holds exactly if no insertion of a contract is
refused, or all of them are and the VM knew the contracts before (`runTransaction_atomic_iff`).
-/

namespace OpnetNode

open Proc EvalM VMManager

/-! ### The property -/

/-- No contract was written: the stored contracts are the same, and a cached one was cached before
or is stored. -/
structure NoContractWritten (vm vm' : VMManager) : Prop where
  stored : vm'.database.contracts = vm.database.contracts
  cached : ∀ k c, vm'.contractCache.get k = some c →
    vm.contractCache.get k = some c ∨ c ∈ vm.database.contracts

/-- The result has no storage, events and deployments. -/
structure EvaluatedResult.IsEmpty (r : EvaluatedResult) : Prop where
  changedStorage : r.changedStorage = some .empty
  events : r.events = .empty
  deployedContracts : r.deployedContracts = []

/-- The result has all that the frames of a transaction did. -/
structure EvaluatedResult.IsComplete (tx : OPNetTransaction) (trace : List FrameAction)
    (r : EvaluatedResult) : Prop where
  changedStorage : ∃ s, r.changedStorage = some s ∧ ∀ a p, s.slot a p = written trace a p
  events : ∀ a, (r.events.get a).getD [] = eventsOf trace a
  deployedContracts : r.deployedContracts = tx.ownContract ++ deploymentsOf trace

/-- A transaction took effect as a whole or not at all. -/
def Atomic (tx : OPNetTransaction) (vm : VMManager) : Except VmError Locals × VMManager → Prop
  | (.error _, vm') => NoContractWritten vm vm'
  | (.ok l, vm') =>
    ((∃ action ∈ l.ctx.trace, action.isRevert = true) → l.evaluation.revert.isSome) ∧
    (l.evaluation.revert.isSome → l.getEvaluationResult.IsEmpty ∧ NoContractWritten vm vm') ∧
    (l.evaluation.revert = none → l.getEvaluationResult.IsComplete tx l.ctx.trace)

/-- The contracts that a transaction comes to insert: what its call tree deployed, unless it
reverted or threw before the insertions. -/
def pendingInsertions (env : VmEnvironment) (T : RustMerkleTree) (blockHeight : Nat)
    (tx : OPNetTransaction) (vm : VMManager) : List ContractInformation :=
  match RootCall.ofTransaction blockHeight tx vm with
  | (.error _, _) => []
  | (.ok call, vm') => call.pending env T vm'

/-- A contract that the VM has cached or stored. -/
def Known (vm : VMManager) (c : ContractInformation) : Prop :=
  vm.contractCache.get c.contractPublicKey = some c ∨ c ∈ vm.database.contracts

/-- The database accepts all insertions, or it refuses all of them and the VM knew the contracts;
an executor does not insert. -/
def Insertable (env : VmEnvironment) (vm : VMManager) (contracts : List ContractInformation) :
    Prop :=
  vm.isExecutor = true ∨ (insertAll env contracts vm.database).1 = none ∨
    ((insertAll env contracts vm.database).2 = vm.database ∧ ∀ c ∈ contracts, Known vm c)

/-! ### Reading writes no contract -/

/-- What reading leaves of the VM. -/
structure OnlyRead (vm vm' : VMManager) : Prop where
  database : vm'.database = vm.database
  isExecutor : vm'.isExecutor = vm.isExecutor
  cached : ∀ k c, vm'.contractCache.get k = some c →
    vm.contractCache.get k = some c ∨ c ∈ vm.database.contracts

theorem OnlyRead.refl (vm : VMManager) : OnlyRead vm vm := ⟨rfl, rfl, fun _ _ h => .inl h⟩

theorem OnlyRead.noContractWritten {vm vm' : VMManager} (h : OnlyRead vm vm') :
    NoContractWritten vm vm' := ⟨by rw [h.database], h.cached⟩

theorem readClosed_onlyRead (vm : VMManager) : ReadClosed (OnlyRead vm) where
  lookups _ _ h := ⟨h.database, h.isExecutor, h.cached⟩
  pointerCache _ _ h := ⟨h.database, h.isExecutor, h.cached⟩
  contractAddressCache _ _ _ h _ := ⟨h.database, h.isExecutor, h.cached⟩
  contractCache vm' address contract h hmem := by
    refine ⟨h.database, h.isExecutor, fun k c hget => ?_⟩
    replace hget : (vm'.contractCache.set address contract).get k = some c := hget
    rw [JsMap.get_set] at hget
    split at hget
    · rw [← Option.some.inj hget, ← h.database]
      exact .inr hmem
    · exact h.cached k c hget

/-! ### The outermost frame -/

section

variable {n : Nat} {tx : OPNetTransaction} {call : RootCall} {vm vm' : VMManager}

variable {l : Locals}

theorem isComplete_of_endInv (hroot : RootCall.Of n tx call)
    (h : EndInv call.ctx [] false l.effects) (hnone : l.evaluation.revert = none) :
    l.getEvaluationResult.IsComplete tx l.ctx.trace := by
  obtain ⟨s, hs, hslots⟩ := h.handsOn hnone
  replace hs : l.evaluation.modifiedStorage = some s := hs
  refine ⟨⟨s, by simp [Locals.getEvaluationResult, hnone, hs], fun a p => ?_⟩, fun a => ?_, ?_⟩
  · rw [hslots a p, h.storage a p, hroot.storage]
    exact Option.or_none
  · simp only [Locals.getEvaluationResult, hnone]
    exact (h.exact_ hnone l.ctx.trace rfl).2 a
  · simp only [Locals.getEvaluationResult, hnone]
    rw [← hroot.deployed]
    exact h.deployed

/-- At the end of the outermost frame, all that is left open is whether a reverted transaction
wrote a contract. -/
theorem atomic_iff_of_endInv (hroot : RootCall.Of n tx call)
    (h : EndInv call.ctx [] false l.effects) :
    Atomic tx vm (.ok l, vm') ↔ (l.evaluation.revert.isSome → NoContractWritten vm vm') := by
  have hexact : l.evaluation.revert = none → Accounts l.ctx.trace l.evaluation.events :=
    fun hnone => h.exact_ hnone l.ctx.trace rfl
  constructor
  · intro hatomic hrevert
    exact (hatomic.2.1 hrevert).2
  · intro hwritten
    refine ⟨?_, fun hrevert => ⟨?_, hwritten hrevert⟩, fun hnone => ?_⟩
    · rintro ⟨action, haction, hisRevert⟩
      by_contra hrevert
      have hnone : l.evaluation.revert = none := by simpa using hrevert
      rw [(hexact hnone).1 action haction] at hisRevert
      cases hisRevert
    · constructor <;> simp [Locals.getEvaluationResult, hrevert]
    · exact isComplete_of_endInv hroot h hnone

variable (env : VmEnvironment) (T : RustMerkleTree)

/-- Up to the insertions, the outermost frame reads and keeps its invariant. -/
theorem ensures_beforeInsertions (call : RootCall) :
    Ensures (Both (OnlyRead vm) (FrameInv call.ctx [] false))
      (RootCall.beforeInsertions env T call)
      (fun _ => Both (OnlyRead vm) (EndInv call.ctx [] false))
      (Both (OnlyRead vm) (FrameInv call.ctx [] false)) := by
  have hhost := hostKeeps_vmHost (readClosed_onlyRead vm) env T
  unfold RootCall.beforeInsertions
  refine ensures_bind (ensures_runContract env hhost
    (keeps_interpret env hhost call.execution [] false) call.contract call.params) fun _ => ?_
  refine (ensures_of_keeps (keeps_bind keeps_locals fun l => ?_)).mono (fun _ _ hf => hf)
    fun _ hf => ⟨hf.1, hf.2.toFrameInv⟩
  exact keeps_ite (keeps_pure _) (keeps_calculateGasCostStore env hhost)

theorem frameInv_root (hroot : RootCall.Of n tx call)
    (hstart : newEvaluation call.params call.ctx = .ok l) :
    FrameInv call.ctx [] false l.effects := by
  have hctx : Consistent call.ctx [] false
      ⟨call.ctx.trace, call.ctx.storage, call.ctx.deployedContracts, false, none, none, .empty⟩ := by
    refine ⟨⟨call.ctx.trace, rfl⟩, rfl, ?_, ?_, hroot.keyed, fun s hs => nomatch hs⟩
    · intro a p
      rw [hroot.trace]
      rfl
    · rw [hroot.trace]
      exact (List.append_nil _).symm
  have hnew := frameInv_newEvaluation hstart hctx rfl rfl rfl
  rwa [hroot.trace, hroot.external] at hnew

/-- The `try` block of the outermost frame with its handler. -/
def tryInsertions (call : RootCall) : EvalM VMManager Unit :=
  Proc.tryCatch
    (do
      RootCall.beforeInsertions env T call
      RootCall.insertions env T)
    fun e => do
      attemptToSetGasUsed env e
      revertWith env e

variable {f : Frame VMManager}

/-- A root call that came through its `try` block. -/
theorem run_of_tryInsertions (hstart : newEvaluation call.params call.ctx = .ok l)
    (htry : tryInsertions env T call { host := vm, locals := l } = (.ok (), f)) :
    call.run env T vm = (.ok (recordRevert f).2.locals, (recordRevert f).2.host) := by
  have hbody : frameBody env (vmHost env T) (interpret env (vmHost env T) call.execution)
      call.contract call.params { host := vm, locals := l } = recordRevert f := by
    unfold frameBody
    rw [RootCall.run_eq_insertions]
    exact bind_of_ok htry
  unfold RootCall.run RootCall.runOn runRoot
  rw [hstart]
  show (Except.ok (frameBody env _ _ _ _ _).2.locals, (frameBody env _ _ _ _ _).2.host) = _
  rw [hbody]

/-- The frame that `recordRevert` leaves. -/
theorem endInv_recordRevert {J : VMManager → Prop} (h : Both J (EndInv call.ctx [] false) f) :
    Both J (EndInv call.ctx [] false) (recordRevert f).2 :=
  ensures_recordRevert (fun _ => False) f h

theorem handler_returns (e : VmError) (h : FrameInv call.ctx [] false f.locals.effects) :
    ∃ f', ((do
        attemptToSetGasUsed env e
        revertWith env e) : EvalM VMManager Unit) f = (.ok (), f') ∧ f'.host = f.host ∧
      EndInv call.ctx [] false f'.locals.effects ∧ f'.locals.evaluation.revert.isSome := by
  obtain ⟨_, f', hrun, hhost, hend, hrevert⟩ :=
    (ensures_frameHandler (J := fun vm => vm = f.host) env e (fun _ => False) f ⟨rfl, h⟩).returns
  exact ⟨f', hrun, hhost, hend, hrevert⟩

/-- How the outermost frame ends: without insertions, or after all of them were attempted. -/
def RootEnds (vm : VMManager) (contracts : List ContractInformation) (l : Locals)
    (vm' : VMManager) : Prop :=
  (OnlyRead vm vm' ∧ (vm.isExecutor = true ∨ contracts = [])) ∨
  (vm.isExecutor = false ∧
    (∃ vm₁, OnlyRead vm vm₁ ∧ vm' = insertContracts env contracts vm₁) ∧
    (l.evaluation.revert.isSome ↔ (insertAll env contracts vm.database).1.isSome) ∧
    ∀ c ∈ contracts, ∀ c' ∈ contracts, c'.contractPublicKey = c.contractPublicKey → c' = c)

variable {contracts : List ContractInformation}

theorem rootEnds_congr (h : RootEnds env vm contracts f.locals f.host) :
    RootEnds env vm contracts (recordRevert f).2.locals (recordRevert f).2.host := by
  unfold RootEnds
  rw [evaluation_recordRevert]
  exact h

theorem insertions_eq (hexternal : f.locals.evaluation.externalCall = false)
    (hrevert : f.locals.evaluation.revert = none) :
    RootCall.insertions env T f =
      bindResult (fun failure => match failure with
        | some e => Proc.throw e
        | none => pure ())
        (Proc.foldEach (settle (vmHost env T)) none f.locals.ctx.deployedContracts.vals f) := by
  show (if f.locals.evaluation.externalCall || f.locals.evaluation.revert.isSome then pure ()
    else deployContracts (vmHost env T) : EvalM VMManager Unit) f = _
  rw [hexternal, hrevert]
  rfl

/-- The end of the `try` block of a frame that has not reverted when it comes to its insertions. -/
theorem catch_insertions {f₁ : Frame VMManager} (hread : OnlyRead vm f₁.host)
    (hend : EndInv call.ctx [] false f₁.locals.effects)
    (hrevert : f₁.locals.evaluation.revert = none) :
    ∃ f, catchResult (fun e => do
          attemptToSetGasUsed env e
          revertWith env e) (RootCall.insertions env T f₁) = (.ok (), f) ∧
      EndInv call.ctx [] false f.locals.effects ∧
      RootEnds env vm f₁.locals.ctx.deployedContracts.vals f.locals f.host := by
  have hexternal : f₁.locals.evaluation.externalCall = false := hend.external
  rw [insertions_eq env T hexternal hrevert]
  cases hexecutor : f₁.host.isExecutor with
  | true =>
    rw [foldEach_settle_of_isExecutor env T _ _ _ hexecutor]
    exact ⟨f₁, rfl, hend, .inl ⟨hread, .inl (hread.isExecutor ▸ hexecutor)⟩⟩
  | false =>
    rw [foldEach_settle env T _ _ _ hexecutor, Option.none_or, hread.database]
    have hdistinct : ∀ c ∈ f₁.locals.ctx.deployedContracts.vals,
        ∀ c' ∈ f₁.locals.ctx.deployedContracts.vals,
          c'.contractPublicKey = c.contractPublicKey → c' = c := by
      intro c hc c' hc' hkey
      have hget := hend.keyed c' hc'
      rw [hkey, hend.keyed c hc] at hget
      exact (Option.some.inj hget).symm
    have hnot : vm.isExecutor = false := hread.isExecutor ▸ hexecutor
    generalize f₁.locals.ctx.deployedContracts.vals = contracts at hdistinct
    cases hfailure : (insertAll env contracts vm.database).1 with
    | none =>
      refine ⟨{ f₁ with host := insertContracts env contracts f₁.host }, rfl, hend,
        .inr ⟨hnot, ⟨f₁.host, hread, rfl⟩, ?_, hdistinct⟩⟩
      rw [hfailure]
      simp [hrevert]
    | some e =>
      obtain ⟨f, hhandler, hhost, hend', hrevert'⟩ := handler_returns env e
        (f := { f₁ with host := insertContracts env contracts f₁.host }) hend.toFrameInv
      refine ⟨f, hhandler, hend', .inr ⟨hnot, ⟨f₁.host, hread, hhost⟩, ?_, hdistinct⟩⟩
      rw [hfailure]
      simp [hrevert']

/-- The `try` block with its handler returns, with the invariant and an end of the right kind. -/
theorem tryInsertions_returns {f₀ : Frame VMManager}
    (h₀ : Both (OnlyRead vm) (FrameInv call.ctx [] false) f₀)
    (hstart : newEvaluation call.params call.ctx = .ok f₀.locals) :
    ∃ f, tryInsertions env T call f₀ = (.ok (), f) ∧ EndInv call.ctx [] false f.locals.effects ∧
      RootEnds env vm (call.pending env T f₀.host) f.locals f.host := by
  have hbefore := ensures_beforeInsertions env T call f₀ h₀
  have htry : tryInsertions env T call f₀ = catchResult _ (bindResult (fun _ =>
    RootCall.insertions env T) (RootCall.beforeInsertions env T call f₀)) := rfl
  have hpending : call.pending env T f₀.host =
      RootCall.toInsert (RootCall.beforeInsertions env T call f₀) := by
    unfold RootCall.pending
    rw [hstart]
  rw [hpending]
  rcases hrun : RootCall.beforeInsertions env T call f₀ with ⟨e | u, f₁⟩
  · -- The execution or the charge for its storage threw.
    rw [hrun] at hbefore htry
    obtain ⟨f, hhandler, hhost, hend, -⟩ := handler_returns env e hbefore.2
    refine ⟨f, htry.trans hhandler, hend, .inl ⟨?_, .inr rfl⟩⟩
    rw [hhost]
    exact hbefore.1
  · rw [hrun] at hbefore htry
    obtain ⟨hread, hend⟩ := hbefore
    have hto : RootCall.toInsert (.ok u, f₁) =
      if f₁.locals.evaluation.revert.isSome then [] else f₁.locals.ctx.deployedContracts.vals := rfl
    rw [hto]
    cases hrevert : f₁.locals.evaluation.revert with
    | some error =>
      refine ⟨f₁, htry.trans ?_, hend, .inl ⟨hread, .inr rfl⟩⟩
      show catchResult _ ((if f₁.locals.evaluation.externalCall ||
        f₁.locals.evaluation.revert.isSome then pure () else _ : EvalM VMManager Unit) f₁) = _
      rw [hrevert, Option.isSome_some, Bool.or_true]
      rfl
    | none =>
      obtain ⟨f, hcatch, hrest⟩ := catch_insertions env T hread hend hrevert
      exact ⟨f, htry.trans hcatch, hrest⟩

variable {vm₁ : VMManager}

theorem rootCall_ends (hroot : RootCall.Of n tx call) (hread : OnlyRead vm vm₁)
    {l₀ : Locals} (hstart : newEvaluation call.params call.ctx = .ok l₀) :
    ∃ l vm', call.run env T vm₁ = (.ok l, vm') ∧ EndInv call.ctx [] false l.effects ∧
      RootEnds env vm (call.pending env T vm₁) l vm' := by
  have h₀ : Both (OnlyRead vm) (FrameInv call.ctx [] false) { host := vm₁, locals := l₀ } :=
    ⟨hread, frameInv_root hroot hstart⟩
  obtain ⟨f, htry, hend, hends⟩ := tryInsertions_returns env T h₀ hstart
  have hrecord := endInv_recordRevert (J := fun _ => True) ⟨trivial, hend⟩
  exact ⟨_, _, run_of_tryInsertions env T hstart htry, hrecord.2, rootEnds_congr env hends⟩

/-- If all insertions were attempted, a reverted transaction wrote no contract exactly if they were
all refused and the contracts were known. -/
theorem noContractWritten_insertContracts_iff (hread : OnlyRead vm vm₁)
    (hdistinct : ∀ c ∈ contracts, ∀ c' ∈ contracts,
      c'.contractPublicKey = c.contractPublicKey → c' = c) :
    NoContractWritten vm (insertContracts env contracts vm₁) ↔
      (insertAll env contracts vm.database).2 = vm.database ∧ ∀ c ∈ contracts, Known vm c := by
  have hdatabase : (insertContracts env contracts vm₁).database =
      (insertAll env contracts vm.database).2 := by
    rw [insertContracts_database, hread.database]
  constructor
  · intro h
    constructor
    · rw [insertAll_eq, ← hdatabase, h.stored]
    · intro c hc
      have hget := get_insertContracts_self env vm₁ fun c' hc' => hdistinct c hc c' hc'
      rw [if_pos hc] at hget
      exact h.cached _ c hget
  · rintro ⟨hsame, hknown⟩
    constructor
    · rw [hdatabase, hsame]
    · intro k c hget
      rcases get_insertContracts env hget with ⟨hc, rfl⟩ | hold
      · exact hknown c hc
      · exact hread.cached k c hold

end

/-- **Atomicity of transactions.** A transaction, whatever its call tree does, takes effect as a
whole or not at all exactly if the contracts it comes to insert are insertable. -/
theorem runTransaction_atomic_iff (env : VmEnvironment) (T : RustMerkleTree) (blockHeight : Nat)
    (tx : OPNetTransaction) (vm : VMManager) :
    Atomic tx vm (runTransaction env T blockHeight tx vm) ↔
      Insertable env vm (pendingInsertions env T blockHeight tx vm) := by
  have hchecks := RootCall.ensures_ofTransaction (readClosed_onlyRead vm).toContractReadClosed
    blockHeight tx vm (OnlyRead.refl vm)
  have hrun : runTransaction env T blockHeight tx vm =
      bindResult (fun call => call.run env T) (RootCall.ofTransaction blockHeight tx vm) := by
    rw [RootCall.runTransaction_eq]
    rfl
  have hnone : Insertable env vm [] := .inr (.inl rfl)
  unfold pendingInsertions
  rw [hrun]
  rcases hof : RootCall.ofTransaction blockHeight tx vm with ⟨e | call, vm₁⟩
  · rw [hof] at hchecks
    exact iff_of_true (OnlyRead.noContractWritten hchecks) hnone
  · rw [hof] at hchecks
    obtain ⟨hread, hroot⟩ := hchecks
    show Atomic tx vm (call.run env T vm₁) ↔ Insertable env vm (call.pending env T vm₁)
    cases hstart : newEvaluation call.params call.ctx with
    -- the outermost frame is refused, so that nothing is pending
    | error e =>
      have hpending : call.pending env T vm₁ = [] := by
        unfold RootCall.pending
        rw [hstart]
      have hcall : call.run env T vm₁ = (.error e, vm₁) := by
        unfold RootCall.run RootCall.runOn runRoot
        rw [hstart]
      rw [hpending, hcall]
      exact iff_of_true hread.noContractWritten hnone
    | ok l₀ =>
      obtain ⟨l, vm', hcall, hend, hends⟩ := rootCall_ends env T hroot hread hstart
      rw [hcall, atomic_iff_of_endInv hroot hend]
      -- the call was emulated, it has nothing to insert, or it inserts what is pending
      rcases hends with ⟨hread', hexecutor | hempty⟩ | ⟨hnot, ⟨vm₂, hread₂, rfl⟩, hrevert, hdistinct⟩
      · exact iff_of_true (fun _ => hread'.noContractWritten) (.inl hexecutor)
      · rw [hempty]
        exact iff_of_true (fun _ => hread'.noContractWritten) hnone
      · rw [hrevert, noContractWritten_insertContracts_iff env hread₂ hdistinct]
        unfold Insertable
        rw [hnot]
        cases (insertAll env (call.pending env T vm₁) vm.database).1 with
        | none | some => simp

/-- Whether a transaction was evaluated and reverted. -/
def isReverted : Except VmError Locals × VMManager → Bool
  | (.ok l, _) => l.evaluation.revert.isSome
  | (.error _, _) => false

theorem not_atomic_of_cached {tx : OPNetTransaction} {vm : VMManager}
    {r : Except VmError Locals × VMManager} (hrevert : isReverted r = true) (k : Bytes)
    (c : ContractInformation) (hget : r.2.contractCache.get k = some c)
    (hcached : vm.contractCache.get k ≠ some c) (hstored : c ∉ vm.database.contracts) :
    ¬ Atomic tx vm r := by
  intro h
  obtain ⟨e | l, vm'⟩ := r
  · cases hrevert
  · rcases (h.2.1 hrevert).2.cached k c hget with hold | hold
    · exact hcached hold
    · exact hstored hold

/-- An environment in which everything the VM asks for succeeds. -/
def plainEnvironment : VmEnvironment where
  instantiates _ := true
  getErrorAsBuffer _ := [1]
  usedGas _ := some 0
  NEW_STORAGE_SLOT_GAS_COST := 2
  UPDATED_STORAGE_SLOT_GAS_COST := 1
  COLD_STORAGE_LOAD := 1
  generateAddress salt deployer bytecode := salt ++ deployer ++ bytecode
  p2op address := 0 :: address
  dead := []
  insertFails _ := false

/-- A contract with the address `[7]`, deployed by a transaction at a height. -/
def contractOf (transactionId : Bytes) (blockHeight : Nat) : ContractInformation where
  blockHeight
  contractAddress := [0, 7]
  contractPublicKey := [7]
  bytecode := [0, 1]
  deployedTransactionId := transactionId
  deployerAddress := [2]

/-- A deployment of the contract `[7]` whose execution returns at once. -/
def redeployment : DeploymentTransaction where
  transactionId := [5]
  contract := contractOf [5] 5
  gasSatFee := 1
  maxGas := 1000
  preloadStorageList := []
  onDeploy := .exit ⟨1, 0, []⟩

/-- A VM at height 5 over a database that has the contract `[7]` of block 3. -/
def deployedBefore : VMManager :=
  { VMManager.create false ⟨[contractOf [3] 3], [], [3, 4]⟩ with
    height := 5
    blockState := some .new
    receiptState := some .new }

/-- Deploying an address again reverts, but the contract of the reverted transaction stays in the
cache. -/
theorem redeployment_not_atomic :
    ¬ Atomic (.deployment redeployment) deployedBefore
      (runTransaction plainEnvironment RustMerkleTree.multisetTree 5 (.deployment redeployment)
        deployedBefore) := by
  refine not_atomic_of_cached ?_ [7] (contractOf [5] 5) ?_ ?_ ?_
  all_goals decide +kernel

end OpnetNode
