import OpnetNode.Vm.Equiv.Atomicity
import OpnetNode.Vm.Equiv.SharedState

/-!
# How many contracts a transaction may deploy

`MAXIMUM_DEPLOYMENT_DEPTH` is the number of contracts that a transaction may deploy.  The counter is
compared with it, but one deployment from a frame counts twice: the host call increments the counter,
and the constructor of the inner frame does it again; and a deployment transaction starts with its own
contract counted, which its constructor counts again.  A refused or failed update counts like one that
succeeded.  So an attempt keeps the quota as long as nothing was counted before it, or the quota is
spent (`attempts_keep_quota`).
-/

namespace OpnetNode

open Proc EvalM VMManager

/-- At an attempt, what was deployed so far was counted once, and the attempt is refused for its depth
exactly beyond the quota.  No update succeeds, so none was counted and none is refused. -/
def FrameAction.KeepsQuota : FrameAction → Prop
  | .deployAttempt count depth refused =>
    depth = count ∧ (refused = true ↔ MAXIMUM_DEPLOYMENT_DEPTH ≤ count)
  | .updateAttempt depth refused =>
    depth = 0 ∧ (refused = true ↔ MAXIMUM_UPDATE_DEPTH ≤ 0)
  | _ => True

/-- Nothing was counted before the attempt, or the contracts of the quota were deployed. -/
def FrameAction.Uncounted : FrameAction → Prop
  | .deployAttempt count depth _ => depth = 0 ∨ MAXIMUM_DEPLOYMENT_DEPTH ≤ count
  | .updateAttempt depth _ => depth = 0
  | _ => True

/-! ### The invariant -/

/-- What holds of every attempt. -/
def FrameAction.Counted : FrameAction → Prop
  | .deployAttempt count depth refused =>
    count ≤ depth ∧ depth ≤ MAXIMUM_DEPLOYMENT_DEPTH ∧ (depth = 0 → refused = false) ∧
      (MAXIMUM_DEPLOYMENT_DEPTH ≤ depth → refused = true)
  | .updateAttempt depth refused => depth = 0 → refused = false
  | _ => True

theorem FrameAction.Counted.keepsQuota {action : FrameAction} (h : action.Counted)
    (huncounted : action.Uncounted) : action.KeepsQuota := by
  cases action with
  | deployAttempt count depth refused =>
    obtain ⟨hle, hmax, hzero, hspent⟩ := h
    rcases huncounted with hdepth | hcount
    · have hrefused := hzero hdepth
      have hnone : count = 0 := by omega
      refine ⟨by omega, ?_⟩
      rw [hrefused, hnone]
      decide
    · have hrefused := hspent (hcount.trans hle)
      exact ⟨by omega, fun _ => hcount, fun _ => hrefused⟩
  | updateAttempt depth refused =>
    have hrefused := h huncounted
    refine ⟨huncounted, ?_⟩
    rw [hrefused]
    decide
  | _ => trivial

/-- The counter is at least what was deployed and `slack` more, and within the maximum. -/
structure QuotaInv (slack : Nat) (ctx : TransactionContext) : Prop where
  deployed : ctx.deployedContracts.size + slack ≤ ctx.contractDeployDepth
  depth : ctx.contractDeployDepth ≤ MAXIMUM_DEPLOYMENT_DEPTH
  attempts : ∀ action ∈ ctx.trace, action.Counted

section

variable {slack : Nat} {ctx ctx' : TransactionContext}

theorem QuotaInv.record (h : QuotaInv slack ctx) {action : FrameAction} (haction : action.Counted) :
    QuotaInv slack (ctx.record action) := by
  refine ⟨h.deployed, h.depth, fun a ha => ?_⟩
  rcases List.mem_append.mp ha with hold | hnew
  · exact h.attempts a hold
  · rwa [List.mem_singleton.mp hnew]

theorem sharedClosed_quotaInv (slack : Nat) : SharedClosed (QuotaInv slack) where
  gasTracker _ _ h := ⟨h.deployed, h.depth, h.attempts⟩
  callStack _ _ h := ⟨h.deployed, h.depth, h.attempts⟩
  emitted _ _ _ h := h.record trivial
  reverted _ _ h := h.record trivial

theorem sharedClosed_depth (depth : Nat) :
    SharedClosed fun ctx => ctx.contractDeployDepth = depth where
  gasTracker _ _ h := h
  callStack _ _ h := h
  emitted _ _ _ h := h
  reverted _ _ h := h

theorem QuotaInv.increment (h : QuotaInv 0 ctx)
    (hctx' : ctx.incrementContractDeployDepth = .ok ctx') : QuotaInv 1 ctx' := by
  obtain ⟨hdepth, rfl⟩ := TransactionContext.incrementContractDeployDepth_eq_ok hctx'
  have hdeployed := h.deployed
  refine ⟨?_, ?_, h.attempts⟩
  · show ctx.deployedContracts.size + 1 ≤ ctx.contractDeployDepth + 1
    omega
  · show ctx.contractDeployDepth + 1 ≤ MAXIMUM_DEPLOYMENT_DEPTH
    omega

theorem QuotaInv.weaken (h : QuotaInv 1 ctx) : QuotaInv 0 ctx :=
  ⟨Nat.le_of_succ_le h.deployed, h.depth, h.attempts⟩

theorem QuotaInv.add (h : QuotaInv 1 ctx) (c : ContractInformation) :
    QuotaInv 0 (TransactionContext.record (.deployed c) { ctx with
      deployedContracts := ctx.deployedContracts.set c.contractPublicKey c }) := by
  have hsize := JsMap.size_set_le ctx.deployedContracts c.contractPublicKey c
  have hdeployed := h.deployed
  have hset : QuotaInv 0 { ctx with
      deployedContracts := ctx.deployedContracts.set c.contractPublicKey c } := by
    refine ⟨?_, h.depth, h.attempts⟩
    show (ctx.deployedContracts.set c.contractPublicKey c).size ≤ ctx.contractDeployDepth
    omega
  exact hset.record trivial

end

/-! ### Errors of other kinds -/

section

variable {σ : Type} (env : VmEnvironment) {host : Host σ}

/-- The host does not refuse a deployment for its depth. -/
structure HostSpares (host : Host σ) : Prop where
  getContractInformation : ∀ a n,
    Spares .deployDepthExceeded (fun _ => True) (host.getContractInformation a n)
  isCached : ∀ a, Spares .deployDepthExceeded (fun _ => True) (host.isCached a)
  contractExistsBelow : ∀ a n,
    Spares .deployDepthExceeded (fun _ => True) (host.contractExistsBelow a n)

variable {e : VmError}

theorem setGasUsed_error {t : GasTracker} {gas specialGas : Nat} {external : Bool} {a : Bytes}
    (h : t.setGasUsed gas specialGas external a = .error e) :
    e = .outOfGas ∨ e = .specialGasNotZero := by
  unfold GasTracker.setGasUsed at h
  dsimp only at h
  split_ifs at h
  · exact .inl (Except.error.inj h).symm
  · exact .inr (Except.error.inj h).symm
  · exact .inl (Except.error.inj h).symm

theorem spares_chargeGas (houtOfGas : e ≠ .outOfGas)
    (hspecial : e ≠ .specialGasNotZero) (gas : TransactionContext → Nat) (external : Bool)
    (address : Bytes) :
    Spares e (fun _ => True) (Method.onContext fun ctx => do
      let gasTracker ← ctx.gasTracker.setGasUsed (gas ctx) 0 external address
      return { ctx with gasTracker }) := by
  intro l _
  unfold Method.onContext
  dsimp only
  cases hset : l.ctx.gasTracker.setGasUsed (gas l.ctx) 0 external address with
  | ok gasTracker => exact nofun
  | error e' =>
    intro heq
    obtain rfl : e' = e := Except.error.inj heq
    rcases setGasUsed_error hset with hgas | hgas
    · exact houtOfGas hgas
    · exact hspecial hgas

variable {P : Frame σ → Prop}

theorem spares_setGasUsed (houtOfGas : e ≠ .outOfGas)
    (hspecial : e ≠ .specialGasNotZero) (gas : Nat) :
    Spares e P (method (Method.setGasUsed gas) : EvalM σ Unit) :=
  spares_zoom fun l _ => spares_chargeGas houtOfGas hspecial (fun _ => gas) _ _ l trivial

variable {α : Type}

theorem spares_method {m : Method α} (h : Spares .deployDepthExceeded (fun _ => True) m)
    : Spares .deployDepthExceeded P (method m : EvalM σ α) := spares_zoom h

theorem spares_onHost {m : Proc σ VmError α} (h : Spares .deployDepthExceeded (fun _ => True) m) :
    Spares .deployDepthExceeded P (onHost m : EvalM σ α) := spares_zoom h

theorem spares_locals {f : Locals → EvalM σ α} (h : ∀ l, Spares .deployDepthExceeded P (f l)) :
    Spares .deployDepthExceeded P (locals >>= f) := fun s hs => h s.locals s hs

theorem spares_enforceEventLimits (event : NetEvent) :
    Spares .deployDepthExceeded (fun _ => True) (Method.enforceEventLimits event) := by
  intro l _
  unfold Method.enforceEventLimits
  split_ifs
  all_goals nofun

theorem spares_merge (inner : ContractEvaluation) :
    Spares .deployDepthExceeded (fun _ => True) (Method.merge inner) := by
  have hevents : Spares .deployDepthExceeded (fun _ => True) (Method.mergeEvents inner.events) :=
    spares_forEach (fun entry => spares_forEach (fun event => spares_bind_any
      (spares_enforceEventLimits event) fun _ => spares_modify _) _) _
  unfold Method.merge
  refine spares_bind_any spares_get fun l => ?_
  refine spares_bind_any (spares_chargeGas (by decide) (by decide) _ true _) fun _ => ?_
  cases inner.revert with
  | some error => exact spares_modify _
  | none =>
    cases inner.modifiedStorage with
    | none => exact hevents
    | some storage => exact spares_bind_any (spares_modify _) fun _ => hevents

theorem spares_findContract (h : HostSpares host) (address : Bytes) :
    Spares .deployDepthExceeded P (findContract host address) := by
  unfold findContract
  refine spares_locals fun l => ?_
  cases (l.ctx.deployedContracts.get address).filter validContractInformation with
  | some contract => exact spares_pure _
  | none =>
    refine spares_bind_any (spares_onHost (h.getContractInformation _ _)) fun stored => ?_
    cases stored.filter validContractInformation with
    | some contract => exact spares_pure _
    | none => exact spares_throw (by decide)

theorem spares_deployContractAtAddress (h : HostSpares host) (address salt : Bytes) :
    Spares .deployDepthExceeded P (deployContractAtAddress env host address salt) := by
  have hadd (contract : ContractInformation) :
      Spares .deployDepthExceeded (fun _ => True) (Method.addContractInformation contract) := by
    intro l _
    unfold Method.addContractInformation
    split_ifs
    all_goals
      intro heq
      cases heq
  unfold deployContractAtAddress
  refine spares_locals fun l => ?_
  refine spares_bind_any (spares_onHost (h.getContractInformation _ _)) fun template => ?_
  cases template with
  | none => exact spares_throw (by decide)
  | some template =>
    refine spares_bind_any (spares_onHost (h.isCached _)) fun cached => ?_
    refine spares_bind_any (spares_throwIf _ (by decide)) fun _ => ?_
    refine spares_bind_any (spares_throwIf _ (by decide)) fun _ => ?_
    refine spares_bind_any (spares_onHost (h.contractExistsBelow _ _)) fun isStored => ?_
    refine spares_ite (spares_pure _) ?_
    exact spares_bind_any (spares_method (hadd _)) fun _ => spares_pure _

/-! ### Attempts -/

variable {n : Nat} {J : σ → Prop}

/-- The `try` block of `deployContractFromAddressRaw`. -/
def tryDeploy (host : Host σ)
    (run : ContractInformation → FrameParameters → EvalM σ ContractEvaluation) (gasUsed : Nat)
    (address salt : Bytes) (start : Locals) : EvalM σ DeployResponse := do
  method (Method.onContext TransactionContext.incrementContractDeployDepth)
  method (Method.setGasUsed gasUsed)
  let (contractAddress, bytecodeLength) ← deployContractAtAddress env host address salt
  Proc.throwIf (contractAddress = env.dead) .deploymentFailed
  let (_, response) ← internalCall host run contractAddress true
  method (Method.note (start.ctx.deployAttempt none))
  let l ← locals
  return {
    contractAddress
    bytecodeLength
    gasUsed := reportedGas l gasUsed
    status := (callOutcome response).1
    result := (callOutcome response).2 }

theorem startKeeps_quotaInv : Within.StartKeeps (QuotaInv 0) := by
  intro params ctx l h hctx
  rcases newEvaluation_cases h with ⟨ctx', hctx', -, rfl⟩ | ⟨-, rfl⟩
  · exact (sharedClosed_quotaInv 0).callStack ctx' _ (hctx.increment hctx').weaken
  · exact (sharedClosed_quotaInv 0).callStack ctx _ hctx

theorem keeps_note_quotaInv {action : FrameAction} (h : action.Counted) :
    Keeps (Within n J (QuotaInv 0)) (method (Method.note action) : EvalM σ Unit) :=
  Within.keeps_method (keepsId_note action) fun _ hl => hl.record h

/-- An attempt that is not refused by the host call keeps the invariant. -/
theorem keeps_tryDeploy (h : HostKeepsAt n J host)
    {run : ContractInformation → FrameParameters → EvalM σ ContractEvaluation}
    (hrun : Within.RunKeeps n J (QuotaInv 0) true run) (gasUsed : Nat) (address salt : Bytes)
    {start : Locals} (hstart : (start.ctx.deployAttempt none).Counted) :
    Keeps (Within n J (QuotaInv 0)) (tryDeploy env host run gasUsed address salt start) := by
  refine Proc.keeps_of_ensures ?_
  have hincrement : Ensures (Within n J (QuotaInv 0))
      (method (Method.onContext TransactionContext.incrementContractDeployDepth) : EvalM σ Unit)
      (fun _ => Within n J (QuotaInv 1)) (Within n J (QuotaInv 0)) := by
    intro f hf
    show Outcome _ _ ((Method.onContext _ f.locals).1, _)
    unfold Method.onContext
    cases hctx : f.locals.ctx.incrementContractDeployDepth with
    | ok ctx => exact ⟨hf.host, hf.blockNumber, hf.shared.increment hctx⟩
    | error e => exact hf
  have hgas : Ensures (Within n J (QuotaInv 1))
      (method (Method.setGasUsed gasUsed) : EvalM σ Unit) (fun _ => Within n J (QuotaInv 1))
      (Within n J (QuotaInv 0)) :=
    (ensures_of_keeps (Within.keeps_setGasUsed (sharedClosed_quotaInv 1) gasUsed)).mono
      (fun _ _ hf => hf) fun f hf => ⟨hf.host, hf.blockNumber, hf.shared.weaken⟩
  have hdeploy := Within.ensures_deployContractAtAddress env h (I := QuotaInv 1)
    (fun _ hctx => hctx.weaken) (fun _ c _ hctx => hctx.add c) address salt
  unfold tryDeploy
  refine ensures_bind hincrement fun _ => ensures_bind hgas fun _ => ?_
  refine ensures_bind hdeploy fun deployed => ensures_of_keeps ?_
  refine keeps_bind (keeps_throwIf _ _) fun _ => ?_
  refine keeps_bind (Within.keeps_internalCall (sharedClosed_quotaInv 0) h hrun deployed.1)
    fun response => ?_
  exact keeps_bind (keeps_note_quotaInv hstart) fun _ => Within.keeps_locals fun l _ => keeps_pure _

theorem spares_tryDeploy (h : HostKeepsAt n J host) (hspares : HostSpares host)
    (body : ContractInformation → EvalM σ ExitDataResponse) (gasUsed : Nat) (address salt : Bytes)
    (start : Locals) :
    Spares .deployDepthExceeded (Within n J fun ctx => ctx.contractDeployDepth = 0)
      (tryDeploy env host (fun contract params => runFrame env host (body contract) contract params)
        gasUsed address salt start) := by
  -- the attempt is counted as the first, and its frame as the second, which the quota allows
  have hincrement : Ensures (Within n J fun ctx => ctx.contractDeployDepth = 0)
      (method (Method.onContext TransactionContext.incrementContractDeployDepth) : EvalM σ Unit)
      (fun _ => Within n J fun ctx => ctx.contractDeployDepth = 1) (fun _ => False) := by
    intro f hf
    show Outcome _ _ ((Method.onContext _ f.locals).1, _)
    unfold Method.onContext TransactionContext.incrementContractDeployDepth
    rw [hf.shared]
    exact ⟨hf.host, hf.blockNumber, rfl⟩
  have hone : SharedClosed fun ctx : TransactionContext => ctx.contractDeployDepth = 1 :=
    sharedClosed_depth 1
  have hdeploy := Within.ensures_deployContractAtAddress env h
    (I := fun ctx => ctx.contractDeployDepth = 1) (fun _ hctx => hctx) (fun _ _ _ hctx => hctx)
    address salt
  have hrun (contract : ContractInformation) (params : FrameParameters) :
      Spares .deployDepthExceeded (Within n J fun ctx => ctx.contractDeployDepth = 1)
        (runFrame env host (body contract) contract params) := by
    intro f hf
    unfold runFrame inFrame newEvaluation TransactionContext.incrementContractDeployDepth
    rw [hf.shared]
    cases params.isDeployment with
    | true | false => exact nofun
  unfold tryDeploy
  refine spares_bind hincrement.spares hincrement fun _ => ?_
  refine spares_bind (spares_setGasUsed (by decide) (by decide) gasUsed)
    (ensures_of_keeps (Within.keeps_setGasUsed hone gasUsed)) fun _ => ?_
  refine spares_bind (spares_deployContractAtAddress env hspares address salt) hdeploy
    fun deployed => ?_
  refine spares_bind (spares_throwIf _ (by decide)) (ensures_of_keeps (keeps_throwIf _ _))
    fun _ => ?_
  refine spares_bind_any ?_ fun response => ?_
  · unfold internalCall
    refine spares_locals fun l => ?_
    refine spares_bind (spares_findContract hspares deployed.1)
      (ensures_of_keeps (Within.keeps_findContract h deployed.1)) fun contract => ?_
    refine spares_bind_any (hrun contract _) fun response => ?_
    exact spares_bind_any (spares_method (spares_merge response)) fun _ => spares_pure _
  · refine spares_bind_any (spares_method (spares_modify _)) fun _ => ?_
    exact spares_locals fun l => spares_pure _

theorem keeps_deployContractFromAddressRaw_quotaInv (h : HostKeepsAt n J host)
    (hspares : HostSpares host) (body : ContractInformation → EvalM σ ExitDataResponse)
    (hrun : Within.RunKeeps n J (QuotaInv 0) true fun contract params =>
      runFrame env host (body contract) contract params) (gasUsed : Nat) (address salt : Bytes) :
    Keeps (Within n J (QuotaInv 0)) (deployContractFromAddressRaw env host
      (fun contract params => runFrame env host (body contract) contract params) gasUsed address
      salt) := by
  intro f hf
  have hdeployed := hf.shared.deployed
  have hhandler {e : VmError} (hcounted : (f.locals.ctx.deployAttempt (some e)).Counted) :
      Keeps (Within n J (QuotaInv 0)) (do
        method (Method.note (f.locals.ctx.deployAttempt (some e)))
        revertWith env e
        let l ← locals
        return ⟨env.dead, 0, u64 (l.ctx.gasTracker.gasUsed - gasUsed), 1,
          l.evaluation.revert.getD []⟩ : EvalM σ DeployResponse) := by
    refine keeps_bind (keeps_note_quotaInv hcounted) fun _ => ?_
    exact keeps_bind (Within.keeps_setRevert _) fun _ => Within.keeps_locals fun l _ => keeps_pure _
  show Within n J (QuotaInv 0) (catchResult _ (tryDeploy env host _ gasUsed address salt f.locals f)).2
  by_cases hspent : MAXIMUM_DEPLOYMENT_DEPTH ≤ f.locals.ctx.contractDeployDepth
  · -- the quota is spent: the attempt is refused before anything else happens
    have hthrows : tryDeploy env host (fun contract params =>
        runFrame env host (body contract) contract params) gasUsed address salt f.locals f =
          (.error .deployDepthExceeded, f) := by
      unfold tryDeploy
      show bindResult _ ((Method.onContext _ f.locals).1, _) = _
      unfold Method.onContext TransactionContext.incrementContractDeployDepth
      rw [if_pos hspent]
      rfl
    rw [hthrows]
    refine hhandler ⟨hdeployed, hf.shared.depth, fun hzero => ?_, fun _ => rfl⟩ f hf
    rw [hzero] at hspent
    exact absurd hspent (by decide)
  · have hkeeps := keeps_tryDeploy env h hrun gasUsed address salt
      ⟨hdeployed, hf.shared.depth, fun _ => rfl, fun hle => absurd hle hspent⟩
      f hf
    have hzero : f.locals.ctx.contractDeployDepth = 0 →
        (tryDeploy env host (fun contract params => runFrame env host (body contract) contract params)
          gasUsed address salt f.locals f).1 ≠ .error .deployDepthExceeded := fun hzero =>
      spares_tryDeploy env h hspares body gasUsed address salt f.locals f
        ⟨hf.host, hf.blockNumber, hzero⟩
    rcases htry : tryDeploy env host (fun contract params =>
      runFrame env host (body contract) contract params) gasUsed address salt f.locals f with
      ⟨e | response, f'⟩
    · rw [htry] at hkeeps hzero
      refine hhandler ⟨hdeployed, hf.shared.depth, fun hdepth => ?_, fun hle => absurd hle hspent⟩
        f' hkeeps
      -- the first attempt may fail, but not for its depth
      have hne : e ≠ .deployDepthExceeded := fun heq => hzero hdepth (congrArg Except.error heq)
      simpa using hne
    · rw [htry] at hkeeps
      exact hkeeps

/-- The `try` block of `updateContractFromAddressRaw`. -/
def tryUpdate (gasUsed : Nat) : EvalM σ DeployResponse := do
  method (Method.onContext TransactionContext.incrementContractUpdates)
  method (Method.setGasUsed gasUsed)
  Proc.throw .methodNotImplemented

theorem keeps_tryUpdate (gasUsed : Nat) :
    Keeps (Within n J (QuotaInv 0)) (tryUpdate gasUsed : EvalM σ DeployResponse) := by
  refine keeps_bind (Within.keeps_method (keepsId_onContext _) ?_) fun _ =>
    keeps_bind (Within.keeps_setGasUsed (sharedClosed_quotaInv 0) gasUsed) fun _ => keeps_throw _
  apply keepsShared_onContext
  intro ctx ctx' hctx' h
  obtain ⟨-, rfl⟩ := TransactionContext.incrementContractUpdates_eq_ok hctx'
  exact ⟨h.deployed, h.depth, h.attempts⟩

theorem spares_tryUpdate (gasUsed : Nat) :
    Spares .updateDepthExceeded (fun f : Frame σ => f.locals.ctx.contractUpdateDepth = 0)
      (tryUpdate gasUsed) := by
  refine spares_bind_any (fun f hf => ?_) fun _ =>
    spares_bind_any (spares_setGasUsed (by decide) (by decide) gasUsed) fun _ =>
      spares_throw (by decide)
  show (Method.onContext _ f.locals).1 ≠ _
  unfold Method.onContext TransactionContext.incrementContractUpdates
  rw [hf]
  exact nofun

theorem keeps_updateContractFromAddressRaw_quotaInv (gasUsed : Nat) :
    Keeps (Within n J (QuotaInv 0)) (updateContractFromAddressRaw env gasUsed : EvalM σ _) := by
  intro f hf
  have hkeeps : Within n J (QuotaInv 0) (tryUpdate gasUsed f).2 := keeps_tryUpdate gasUsed f hf
  have hspares : f.locals.ctx.contractUpdateDepth = 0 →
      (tryUpdate gasUsed f).1 ≠ .error .updateDepthExceeded := spares_tryUpdate gasUsed f
  show Within n J (QuotaInv 0) (catchResult _ (tryUpdate gasUsed f)).2
  rcases htry : tryUpdate gasUsed f with ⟨e | response, f'⟩
  · rw [htry] at hkeeps hspares
    have haction : (f.locals.ctx.updateAttempt (some e)).Counted := by
      intro hzero
      have hne : e ≠ .updateDepthExceeded := fun heq => hspares hzero (congrArg Except.error heq)
      simpa using hne
    refine keeps_bind (keeps_note_quotaInv haction) (fun _ => ?_) f' hkeeps
    exact keeps_bind (Within.keeps_setRevert _) fun _ => Within.keeps_locals fun l _ => keeps_pure _
  · rw [htry] at hkeeps
    exact hkeeps

theorem keeps_preloadPointers_quotaInv
    (hmultiple : ∀ pointers, Keeps J (host.getStorageMultiple pointers n))
    (pointers : List (Bytes × U256)) :
    Keeps (Within n J (QuotaInv 0)) (preloadPointers env host pointers) := by
  unfold preloadPointers
  refine Within.keeps_locals fun l hl => keeps_bind (keeps_throwIf _ _) fun _ => ?_
  rw [hl]
  refine keeps_bind (Within.keeps_onHost (hmultiple pointers)) fun values => ?_
  exact Within.keeps_method (fun _ => keeps_modify fun _ hl => hl)
    (keeps_modify fun l hl => ⟨hl.deployed, hl.depth, hl.attempts⟩)

theorem callsKeep_quotaInv (h : HostKeepsAt n J host)
    (hmultiple : ∀ pointers, Keeps J (host.getStorageMultiple pointers n))
    (hspares : HostSpares host) : Within.CallsKeep env host n J (QuotaInv 0) where
  methods := h
  closed := sharedClosed_quotaInv 0
  preload := keeps_preloadPointers_quotaInv env hmultiple
  load pointer := by
    have hnote (a : Bytes) (p value : U256) : Keeps (Within n J (QuotaInv 0))
        (method (Method.note (.loaded a p value)) : EvalM σ Unit) := keeps_note_quotaInv trivial
    unfold load
    refine Within.keeps_locals fun l hl => ?_
    cases Method.storageOf l pointer with
    | some value => exact keeps_bind (hnote _ _ _) fun _ => keeps_pure _
    | none =>
      dsimp only
      rw [hl]
      refine keeps_bind (Within.keeps_onHost (h.getStorage _ _)) fun stored => ?_
      refine keeps_bind (Within.keeps_method (keepsId_addToStorage _ _) ?_) fun _ =>
        keeps_bind (hnote _ _ _) fun _ => keeps_pure _
      intro l hl
      unfold Method.addToStorage
      split_ifs
      · exact hl
      · exact ⟨hl.deployed, hl.depth, hl.attempts⟩
  store pointer value := by
    refine Within.keeps_method (keepsId_setStorage _ _) (keeps_modify fun l hl => ?_)
    have hset : QuotaInv 0 { l.ctx with
        storage := l.ctx.storage.setSlot l.evaluation.contractAddress pointer value } :=
      ⟨hl.deployed, hl.depth, hl.attempts⟩
    exact hset.record trivial
  deploy body hbody gasUsed address salt := by
    have hrun := Within.runKeeps_runFrame env (sharedClosed_quotaInv 0) h
      (keeps_preloadPointers_quotaInv env hmultiple) startKeeps_quotaInv hbody true
    exact keeps_deployContractFromAddressRaw_quotaInv env h hspares body hrun gasUsed address salt
  update gasUsed := keeps_updateContractFromAddressRaw_quotaInv env gasUsed

end

/-! ### Transactions -/

section

variable (env : VmEnvironment) (T : RustMerkleTree)

theorem hostKeepsAt_true (n : Nat) : HostKeepsAt n (fun _ => True) (vmHost env T) :=
  ⟨fun _ _ _ _ => trivial, fun _ _ _ => trivial, fun _ _ _ => trivial, fun _ _ _ => trivial,
    fun _ _ _ => trivial, fun _ _ _ => trivial⟩

theorem hostSpares_vmHost : HostSpares (vmHost env T) where
  getContractInformation a n vm _ := by
    show (VMManager.getContractInformation a n vm).1 ≠ _
    rw [getContractInformation_eq]
    exact nofun
  isCached a vm _ := by
    show (VMManager.isCached a vm).1 ≠ _
    rw [isCached_eq]
    exact nofun
  contractExistsBelow a n vm _ := by
    show (VMManager.contractExistsBelow a n vm).1 ≠ _
    rw [contractExistsBelow_eq]
    exact nofun

/-- **Run.** Every attempt of a transaction is counted. -/
theorem counted_of_mem_traceOf (n : Nat) (tx : OPNetTransaction) (vm : VMManager)
    {action : FrameAction} (h : action ∈ traceOf (runTransaction env T n tx vm).1) :
    action.Counted := by
  have hcalls := callsKeep_quotaInv env (hostKeepsAt_true env T n) (fun _ _ _ => trivial)
    (hostSpares_vmHost env T)
  have hchecks := RootCall.ensures_ofTransaction RootCall.readClosed_true.toContractReadClosed n tx vm trivial
  have hrun : runTransaction env T n tx vm =
      bindResult (fun call => call.run env T) (RootCall.ofTransaction n tx vm) := by
    rw [RootCall.runTransaction_eq]
    rfl
  rw [hrun] at h
  rcases hof : RootCall.ofTransaction n tx vm with ⟨e | call, vm₁⟩
  · rw [hof] at h
    exact absurd h List.not_mem_nil
  · rw [hof] at hchecks h
    obtain ⟨-, hroot⟩ := hchecks
    have hctx : QuotaInv 0 call.ctx := by
      refine ⟨?_, ?_, ?_⟩
      · rw [hroot.deployDepth, ← hroot.deployed]
        simp [JsMap.size, JsMap.vals]
      · rw [hroot.deployDepth]
        cases tx with
        | interaction tx => exact Nat.zero_le _
        | deployment tx => exact Nat.le_succ 1
      · rw [hroot.trace]
        exact fun _ ha => absurd ha List.not_mem_nil
    have hends := Within.ensures_run env hcalls startKeeps_quotaInv hroot.blockNumber hctx vm₁ trivial
    rw [bindResult_ok] at h
    rcases hcall : call.run env T vm₁ with ⟨e | l, vm₂⟩
    · rw [hcall] at h
      exact absurd h List.not_mem_nil
    · rw [hcall] at h hends
      exact hends.1.attempts action h

/-- **Quota.** In every transaction, an attempt before which nothing was counted, or after which the
quota was spent, finds every deployment counted once and is refused exactly beyond the quota. -/
theorem attempts_keep_quota (env : VmEnvironment) (T : RustMerkleTree) (n : Nat)
    (tx : OPNetTransaction) (vm : VMManager) (action : FrameAction)
    (hmem : action ∈ traceOf (runTransaction env T n tx vm).1) (huncounted : action.Uncounted) :
    action.KeepsQuota :=
  (counted_of_mem_traceOf env T n tx vm hmem).keepsQuota huncounted

end

/-! ### Two deployments -/

/-- A contract that deploys copies of the contract `[7]`, one for each salt. -/
def deployCopies : List Bytes → Execution
  | [] => .exit ⟨1, 0, []⟩
  | salt :: salts => .deployFromAddress 0 [7] salt (fun _ => .exit ⟨1, 0, []⟩) fun _ =>
      deployCopies salts

/-- An interaction with the contract `[7]`. -/
def interactionOf (execution : Execution) : OPNetTransaction :=
  .interaction {
    transactionId := [1]
    contractAddress := [0, 7]
    address := [7]
    gasSatFee := 1
    maxGas := 1000
    specialSettings := none
    preloadStorageList := []
    execution := fun _ => execution }

/-- A deployment of the contract `[8]`. -/
def deploymentOf (onDeploy : Execution) : OPNetTransaction :=
  .deployment { redeployment with
    contract := { contractOf [5] 5 with contractAddress := [0, 8], contractPublicKey := [8] }
    onDeploy := onDeploy }

theorem attempts_keep_quota_one : (FrameAction.deployAttempt 0 0 false).KeepsQuota :=
  attempts_keep_quota plainEnvironment RustMerkleTree.multisetTree 5
    (interactionOf (deployCopies [[1]])) deployedBefore _ (by decide +kernel) (.inl rfl)

/-- The second deployment from a frame, the first one from the constructor of a deployment, and a
second update are refused. -/
theorem attempts_exceed_quota :
    ¬ (∀ action ∈ traceOf (runTransaction plainEnvironment RustMerkleTree.multisetTree 5
        (interactionOf (deployCopies [[1], [2]])) deployedBefore).1, action.KeepsQuota) ∧
    ¬ (∀ action ∈ traceOf (runTransaction plainEnvironment RustMerkleTree.multisetTree 5
        (deploymentOf (deployCopies [[1]])) deployedBefore).1, action.KeepsQuota) ∧
    ¬ (∀ action ∈ traceOf (runTransaction plainEnvironment RustMerkleTree.multisetTree 5
        (interactionOf (.updateFromAddress 0 [7] fun _ => .updateFromAddress 0 [7] fun _ =>
          .exit ⟨1, 0, []⟩)) deployedBefore).1, action.KeepsQuota) := by
  have hspent : ¬ (FrameAction.deployAttempt 1 2 true).KeepsQuota := fun h => absurd h.1 (by decide)
  refine ⟨fun h => hspent (h _ ?_), fun h => hspent (h _ ?_), fun h => ?_⟩
  · decide +kernel
  · decide +kernel
  · exact absurd (h (.updateAttempt 1 true) (by decide +kernel)).1 (by decide)

end OpnetNode
