import OpnetNode.Vm.Block
import OpnetNode.Vm.Equiv.BlockFold
import OpnetNode.Vm.Equiv.HostSimulation
import OpnetNode.Vm.Equiv.VMManager

/-!
# Blocks over two VMs

If the methods of one VM simulate those of another, a transaction over the first ends as over the
second (`simulates_runTransaction`), and so do the transactions of a block, one after the other
(`outcomes_eq_of_simulates`).
-/

namespace OpnetNode

open Proc VMManager BlockExecution

variable (env : VmEnvironment) (T : RustMerkleTree)

/-- What `R` and `good` must satisfy for one transaction of a block at height `n`. -/
structure TransactionSimulates (n : Nat) (R : VMManager → VMManager → Prop)
    (good : VMManager → Prop) : Prop where
  host : HostSimulates n R good (vmHost env T) (vmHost env T)
  height : ∀ vm vm', R vm vm' → vm.height = vm'.height
  getContractAddress : ∀ reference,
    OnHosts R good (getContractAddress reference) (getContractAddress reference)

/-- What they must satisfy for the transactions of a block one after the other. -/
structure VmSimulates (n : Nat) (R : VMManager → VMManager → Prop) (good : VMManager → Prop) :
    Prop extends TransactionSimulates env T n R good where
  update : ∀ evaluation a id disable,
    OnHosts R good (updateBlockValuesFromResult T evaluation a id disable)
      (updateBlockValuesFromResult T evaluation a id disable)

/-- The executions stand at related VMs and have used the same gas. -/
def BlockRel (R : VMManager → VMManager → Prop) (b b' : BlockExecution) : Prop :=
  R b.vm b'.vm ∧ b.blockUsedGas = b'.blockUsedGas

/-- A procedure of the block that simulates itself. -/
abbrev OnBlocks {α : Type} (R : VMManager → VMManager → Prop) (good : VMManager → Prop)
    (m : BlockM α) : Prop := Simulates (fun _ => True) (BlockRel R) (fun b => good b.vm) m m

section

variable {env} {T} {n : Nat} {R : VMManager → VMManager → Prop} {good : VMManager → Prop}

/-! ### Transactions -/

theorem simulates_ofContract (h : TransactionSimulates env T n R good) (ctx : TransactionContext)
    {params : FrameParameters} (hparams : params.blockNumber = n)
    (execution : ContractInformation → Execution) :
    OnHosts R good (RootCall.ofContract ctx params execution)
      (RootCall.ofContract ctx params execution) := by
  subst hparams
  refine simulates_bind (h.host.getContractInformation params.contractAddress) fun stored => ?_
  cases stored.filter validContractInformation with
  | some contract => exact simulates_pure _
  | none => exact simulates_throw _

theorem simulates_ofTransaction (h : TransactionSimulates env T n R good) (tx : OPNetTransaction) :
    OnHosts R good (RootCall.ofTransaction n tx) (RootCall.ofTransaction n tx) := by
  cases tx with
  | interaction tx =>
    refine simulates_get_bind VMManager.height (fun vm vm' _ hR => h.height vm vm' hR)
      fun vm vm' hheight => ?_
    rw [hheight]
    refine simulates_bind (simulates_throwIf _ _) fun _ => ?_
    refine simulates_bind (h.getContractAddress _) fun address => ?_
    cases address with
    | none => exact simulates_throw _
    | some address =>
      refine simulates_bind (simulates_throwIf _ _) fun _ => ?_
      exact simulates_ofContract h _ rfl _
  | deployment tx =>
    refine simulates_get_bind VMManager.height (fun vm vm' _ hR => h.height vm vm' hR)
      fun vm vm' hheight => ?_
    rw [hheight]
    refine simulates_bind (simulates_throwIf _ _) fun _ => ?_
    refine simulates_bind (simulates_throwIf _ _) fun _ => ?_
    exact simulates_bind (simulates_throwIf _ _) fun _ => simulates_pure _

theorem simulates_runTransaction (h : TransactionSimulates env T n R good) (tx : OPNetTransaction) :
    OnHosts R good (runTransaction env T n tx) (runTransaction env T n tx) := by
  rw [RootCall.runTransaction_eq]
  have hcall : Ensures (fun _ => True) (RootCall.ofTransaction n tx)
      (fun call _ => RootCall.Of n tx call) fun _ => True :=
    (RootCall.ensures_ofTransaction RootCall.readClosed_true.toContractReadClosed n tx).mono
      (fun _ _ hcall => hcall.2) fun _ htrue => htrue
  refine simulates_bind_ensures (simulates_ofTransaction h tx) hcall fun call hof => ?_
  have hhost := h.host
  rw [← hof.blockNumber] at hhost
  exact RootCall.simulates_runOn env hhost

/-! ### The transactions of a block -/

theorem simulates_onVm {α : Type} {m : VmM α} (h : OnHosts R good m m) :
    OnBlocks R good (onVm m) := by
  refine ⟨fun _ _ => trivial, fun b _ hgood => h.loses b.vm trivial hgood, ?_⟩
  rintro b b' - ⟨hR, hgas⟩ hgood
  obtain ⟨hres, hR'⟩ := h.same b.vm b'.vm trivial hR hgood
  exact ⟨hres, hR', hgas⟩

theorem simulates_useGas (gas : Nat) : OnBlocks R good (useGas gas) := by
  refine simulates_modify (fun _ _ => trivial) (fun _ _ hgood => hgood) ?_
  rintro b b' - ⟨hR, hgas⟩
  exact ⟨hR, congrArg (· + gas) hgas⟩

theorem simulates_checkTransaction (settings : BlockSettings) (t : BlockTransaction) :
    OnBlocks R good (checkTransaction settings t) := by
  refine simulates_get_bind BlockExecution.blockUsedGas (fun _ _ _ hrel => hrel.2)
    fun b b' hgas => ?_
  rw [hgas]
  refine simulates_bind (simulates_throwIf _ _) fun _ => ?_
  refine simulates_bind (simulates_throwIf _ _) fun _ => ?_
  refine simulates_bind (simulates_throwIf _ _) fun _ => ?_
  cases t.mldsaError with
  | some e => exact simulates_throw e
  | none => exact simulates_throwIf _ _

theorem simulates_evaluate (h : TransactionSimulates env T n R good) (settings : BlockSettings)
    (t : BlockTransaction) : OnBlocks R good (evaluate env T settings n t) :=
  simulates_bind (simulates_checkTransaction settings t) fun _ =>
    simulates_onVm (simulates_runTransaction h t.tx)

theorem simulates_processEvaluation (h : VmSimulates env T n R good) (settings : BlockSettings)
    (l : Locals) : OnBlocks R good (processEvaluation T settings l) :=
  simulates_bind (simulates_useGas _) fun _ => simulates_onVm (h.update _ _ _ _)

theorem simulates_processTransactionFailure (h : VmSimulates env T n R good)
    (t : BlockTransaction) : OnBlocks R good (processTransactionFailure T t) :=
  simulates_bind (simulates_useGas _) fun _ => simulates_onVm (h.update _ _ _ _)

theorem simulates_executeTransaction (h : VmSimulates env T n R good) (settings : BlockSettings)
    (t : BlockTransaction) :
    OnBlocks R good (BlockExecution.executeTransaction env T settings n t) :=
  simulates_tryCatch
    (simulates_bind (simulates_evaluate h.toTransactionSimulates settings t)
      (simulates_processEvaluation h settings))
    fun _ => simulates_processTransactionFailure h t

theorem good_evaluate (h : VmSimulates env T n R good) {settings : BlockSettings}
    {t : BlockTransaction} {b : BlockExecution}
    (hgood : good (BlockExecution.executeTransaction env T settings n t b).2.vm) :
    good (evaluate env T settings n t b).2.vm := by
  have hfails : ∀ _ : VmError, OnBlocks R good (processTransactionFailure T t) := fun _ =>
    simulates_processTransactionFailure h t
  have hrecords : ∀ l, True → OnBlocks R good (processEvaluation T settings l) := fun l _ =>
    simulates_processEvaluation h settings l
  have hprocess : good (bindResult (processEvaluation T settings)
      (evaluate env T settings n t b)).2.vm := good_of_tryCatch hfails trivial hgood
  refine good_of_bind (P := fun _ => True) ?_ hrecords trivial hprocess
  rcases evaluate env T settings n t b with ⟨e | l, b'⟩ <;> trivial

theorem outcomes_eq_of_simulates (h : VmSimulates env T n R good) (settings : BlockSettings)
    (ts : List BlockTransaction) :
    ∀ {b b' : BlockExecution}, BlockRel R b b' →
      Meets (fun b t => some (BlockExecution.executeTransaction env T settings n t b).2)
        (fun b t => good (BlockExecution.executeTransaction env T settings n t b).2.vm) b ts →
      (executions env T settings n b ts).map Executed.outcome =
          (executions env T settings n b' ts).map Executed.outcome ∧
        BlockRel R (executeTransactions env T settings n ts b).2
          (executeTransactions env T settings n ts b').2 := by
  induction ts with
  | nil => exact fun hrel _ => ⟨rfl, hrel⟩
  | cons t ts ih =>
    intro b b' hrel hmeets
    obtain ⟨houtcome, -⟩ := (simulates_evaluate h.toTransactionSimulates settings t).same b b' trivial hrel
      (good_evaluate h hmeets.1)
    obtain ⟨hres, hrel'⟩ := (simulates_executeTransaction h settings t).same b b' trivial hrel
      hmeets.1
    obtain ⟨houtcomes, hrel''⟩ := ih hrel' (hmeets.2 _ rfl)
    constructor
    · rw [executions, executions, List.map_cons, List.map_cons, houtcomes]
      exact congrArg (· :: _) houtcome
    · show BlockRel R (bindResult _ _).2 (bindResult _ _).2
      rcases hrun : BlockExecution.executeTransaction env T settings n t b with ⟨e | _, b₁⟩ <;>
        rcases hrun' : BlockExecution.executeTransaction env T settings n t b' with ⟨e' | _, b₁'⟩
      · rw [hrun, hrun'] at hrel'
        exact hrel'
      · rw [hrun, hrun'] at hres
        cases hres
      · rw [hrun, hrun'] at hres
        cases hres
      · rw [hrun, hrun'] at hrel''
        exact hrel''

end

end OpnetNode
