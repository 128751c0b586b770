import OpnetNode.Vm.Equiv.GasTracker
import OpnetNode.Vm.Equiv.HostSimulation

/-!
# Invariants of frames

A property of a frame and its host that every single step of the evaluator keeps (`StepsKeep`) is kept
by every host call, and if inner frames start with it and hand it back (`FramesKeep`), by whole call
trees (`FramesKeep.keeps_interpret`).  It may depend on the gas that the VM reports, if all numbers it reports are
`ok` (`Execution.Reports`).  What only the outermost frame does in the end, it charges for the storage
and deploys the contracts, is asked for where that frame is run (`keeps_terminateEvaluation`).
-/

namespace OpnetNode

open Proc EvalM

variable {σ α : Type}

def Method.touch (address : Bytes) (isContract : Bool) : Method Unit :=
  Method.onEvaluation fun ev =>
    { ev with touchedAddresses := ev.touchedAddresses.set address isContract }

/-- Keep slots that were preloaded. -/
def Method.preloadedStorage (values : List ((Bytes × U256) × Option U256)) : Method Unit :=
  Proc.modify fun l =>
    { l with
      ctx := { l.ctx with
        preloadStorage := values.foldl (fun preload entry =>
          preload.setSlot entry.1.1 entry.1.2 (entry.2.getD 0)) l.ctx.preloadStorage } }

/-- The setter of both gas counters at the end of a transaction. -/
def Method.setFinalGasUsed (total : Nat × Nat) : Method Unit :=
  Proc.modify fun l =>
    { l with
      ctx := { l.ctx with
        gasTracker := l.ctx.gasTracker.setFinalGasUsed
          (l.ctx.gasTracker.gasUsed + total.1) (l.ctx.gasTracker.specialGasUsed + total.2) } }

/-- All gas that the VM reports in a call tree is `ok`. -/
def Execution.Reports (ok : Nat → Prop) : Execution → Prop
  | .exit response => ok response.gasUsed
  | .abort _ => True
  | .load _ next => ∀ value wasCold, (next value wasCold).Reports ok
  | .store _ _ next => next.Reports ok
  | .emit _ next => next.Reports ok
  | .accountType _ next => ∀ isContract isWarm, (next isContract isWarm).Reports ok
  | .call gasUsed _ callee next =>
    ok gasUsed ∧ (∀ contract, (callee contract).Reports ok) ∧ ∀ response, (next response).Reports ok
  | .deployFromAddress gasUsed _ _ onDeploy next =>
    ok gasUsed ∧ (∀ contract, (onDeploy contract).Reports ok) ∧ ∀ response, (next response).Reports ok
  | .updateFromAddress gasUsed _ next => ok gasUsed ∧ ∀ response, (next response).Reports ok

theorem Execution.reports_true (execution : Execution) : execution.Reports fun _ => True := by
  induction execution with
  | exit | abort => exact trivial
  | load pointer next ih => exact ih
  | store pointer value next ih => exact ih
  | emit event next ih => exact ih
  | accountType address next ih => exact ih
  | call gasUsed address callee next ihCallee ihNext => exact ⟨trivial, ihCallee, ihNext⟩
  | deployFromAddress gasUsed address salt onDeploy next ihDeploy ihNext =>
    exact ⟨trivial, ihDeploy, ihNext⟩
  | updateFromAddress gasUsed address next ih => exact ⟨trivial, ih⟩

/-- A number that a frame sets its gas to: one that the VM reports, the gas it was given, or all that
was paid. -/
def Charges (ok : Nat → Prop) (l : Locals) (gas : Nat) : Prop :=
  ok gas ∨ gas = l.ctx.gasTracker.combinedGas l.evaluation.externalCall ∨
    gas = l.ctx.gasTracker.paidMaximum

structure StepsKeep (env : VmEnvironment) (host : Host σ) (ok : Nat → Prop) (I : Frame σ → Prop) :
    Prop where
  usedGas : ∀ e gas, env.usedGas e = some gas → ok gas
  setGasUsed : ∀ gas f, Charges ok f.locals gas → I f → I (method (Method.setGasUsed gas) f).2
  setRevert : ∀ error, Keeps I (method (Method.setRevert error) : EvalM σ Unit)
  note : ∀ action, Keeps I (method (Method.note action) : EvalM σ Unit)
  setStorage : ∀ p v, Keeps I (method (Method.setStorage p v) : EvalM σ Unit)
  addToStorage : ∀ p v, Keeps I (method (Method.addToStorage p v) : EvalM σ Unit)
  preloadedStorage : ∀ values, Keeps I (method (Method.preloadedStorage values) : EvalM σ Unit)
  emitEvent : ∀ event, Keeps I (method (Method.emitEvent event) : EvalM σ Unit)
  incrementContractDeployDepth :
    Keeps I (method (Method.onContext TransactionContext.incrementContractDeployDepth) : EvalM σ Unit)
  incrementContractUpdates :
    Keeps I (method (Method.onContext TransactionContext.incrementContractUpdates) : EvalM σ Unit)
  addContractInformation : ∀ contract,
    Keeps I (method (Method.addContractInformation contract) : EvalM σ Unit)
  setResult : ∀ result, Keeps I (method (Method.setResult result) : EvalM σ Unit)
  merge : ∀ inner, Keeps I (method (Method.merge inner) : EvalM σ Unit)
  getStorage : ∀ a p n, Keeps I (onHost (host.getStorage a p n))
  getStorageMultiple : ∀ pointers n, Keeps I (onHost (host.getStorageMultiple pointers n))
  isContract : ∀ a, Keeps I (onHost (host.isContract a))
  getContractInformation : ∀ a n, Keeps I (onHost (host.getContractInformation a n))
  isCached : ∀ a, Keeps I (onHost (host.isCached a))
  contractExistsBelow : ∀ a n, Keeps I (onHost (host.contractExistsBelow a n))

/-- An inner frame starts with the property too, and its caller has it again when it is left. -/
structure FramesKeep (env : VmEnvironment) (host : Host σ) (ok : Nat → Prop) (I : Frame σ → Prop) :
    Prop extends StepsKeep env host ok I where
  touch : ∀ a isContract, Keeps I (method (Method.touch a isContract) : EvalM σ Unit)
  enter : ∀ f params inner, params.externalCall = true → I f →
    newEvaluation params f.locals.ctx = .ok inner → I { f with locals := inner }
  leave : ∀ f f', I f → I f' →
    I { host := f'.host, locals := { f.locals with ctx := f'.locals.ctx } }

def Inner (I : Frame σ → Prop) (f : Frame σ) : Prop := I f ∧ f.locals.id.externalCall = true

theorem keeps_inner {I : Frame σ → Prop} {m : EvalM σ α} (h : Keeps I m)
    (hid : ∀ f, (m f).2.locals.id = f.locals.id) : Keeps (Inner I) m := fun f hf =>
  ⟨h f hf.1, (congrArg FrameId.externalCall (hid f)).trans hf.2⟩

theorem keeps_inner_method {I : Frame σ → Prop} {m : Method α}
    (h : Keeps I (method m : EvalM σ α)) (hid : KeepsId m) : Keeps (Inner I) (method m) :=
  keeps_inner h fun f => hid f.locals.id f.locals rfl

namespace StepsKeep

variable {env : VmEnvironment} {host : Host σ} {ok : Nat → Prop} {I : Frame σ → Prop}

theorem keeps_locals : Keeps I (locals : EvalM σ Locals) := fun _ hf => hf

theorem ensures_locals {G : Frame σ → Prop} {E : Frame σ → Prop} :
    Ensures G (locals : EvalM σ Locals) (fun _ => G) E := fun _ hf => hf

variable (h : StepsKeep env host ok I)

include h

theorem keeps_setGasUsed {gas : Nat} (hgas : ok gas) :
    Keeps I (method (Method.setGasUsed gas) : EvalM σ Unit) := fun f =>
  h.setGasUsed gas f (Or.inl hgas)

theorem keeps_revertWith (e : VmError) : Keeps I (revertWith env e : EvalM σ Unit) := h.setRevert _

theorem keeps_load (pointer : U256) : Keeps I (load host pointer) := by
  unfold load
  refine keeps_bind keeps_locals fun l => ?_
  cases Method.storageOf l pointer with
  | some value => exact keeps_bind (h.note _) fun _ => keeps_pure _
  | none =>
    refine keeps_bind (h.getStorage _ _ _) fun stored => ?_
    refine keeps_bind (h.addToStorage _ _) fun _ => ?_
    exact keeps_bind (h.note _) fun _ => keeps_pure _

theorem keeps_getAccountType
    (htouch : ∀ a isContract, Keeps I (method (Method.touch a isContract) : EvalM σ Unit))
    (address : Bytes) : Keeps I (getAccountType host address) := by
  unfold getAccountType
  refine keeps_bind keeps_locals fun l => ?_
  cases l.evaluation.touchedAddresses.get address with
  | some isContract => exact keeps_pure _
  | none =>
    refine keeps_bind (h.isContract _) fun isContract => ?_
    exact keeps_bind (htouch _ _) fun _ => keeps_pure _

theorem keeps_findContract (address : Bytes) : Keeps I (findContract host address) := by
  unfold findContract
  refine keeps_bind keeps_locals fun l => ?_
  cases (l.ctx.deployedContracts.get address).filter validContractInformation with
  | some contract => exact keeps_pure _
  | none =>
    refine keeps_bind (h.getContractInformation _ _) fun stored => ?_
    cases stored.filter validContractInformation with
    | some contract => exact keeps_pure _
    | none => exact keeps_throw _

omit h in
theorem keeps_findContract_locals {G : Locals → Prop} (address : Bytes) :
    Keeps (fun f => G f.locals) (findContract host address) := by
  unfold findContract
  refine keeps_bind keeps_locals fun l => ?_
  cases (l.ctx.deployedContracts.get address).filter validContractInformation with
  | some contract => exact keeps_pure _
  | none =>
    refine keeps_bind (fun _ hf => hf) fun stored => ?_
    cases stored.filter validContractInformation with
    | some contract => exact keeps_pure _
    | none => exact keeps_throw _

omit h in
theorem keeps_deployContractAtAddress_locals {G : Locals → Prop}
    (hadd : ∀ contract, Keeps G (Method.addContractInformation contract)) (address salt : Bytes) :
    Keeps (fun f => G f.locals) (deployContractAtAddress env host address salt) := by
  unfold deployContractAtAddress
  refine keeps_bind keeps_locals fun l => ?_
  refine keeps_bind (fun _ hf => hf) fun template => ?_
  cases template with
  | none => exact keeps_throw _
  | some template =>
    refine keeps_bind (fun _ hf => hf) fun cached => ?_
    refine keeps_bind (keeps_throwIf _ _) fun _ => ?_
    refine keeps_bind (keeps_throwIf _ _) fun _ => ?_
    refine keeps_bind (fun _ hf => hf) fun isStored => ?_
    refine keeps_ite (keeps_pure _) (keeps_bind (fun f hf => ?_) fun _ => keeps_pure _)
    exact hadd _ f.locals hf

theorem keeps_deployContractAtAddress (address salt : Bytes) :
    Keeps I (deployContractAtAddress env host address salt) := by
  unfold deployContractAtAddress
  refine keeps_bind keeps_locals fun l => ?_
  refine keeps_bind (h.getContractInformation _ _) fun template => ?_
  cases template with
  | none => exact keeps_throw _
  | some template =>
    refine keeps_bind (h.isCached _) fun cached => ?_
    refine keeps_bind (keeps_throwIf _ _) fun _ => ?_
    refine keeps_bind (keeps_throwIf _ _) fun _ => ?_
    refine keeps_bind (h.contractExistsBelow _ _) fun isStored => ?_
    exact keeps_ite (keeps_pure _) (keeps_bind (h.addContractInformation _) fun _ => keeps_pure _)

/-! ### Host calls that run a frame -/

omit h in
/-- Running an inner frame from a frame with `G` keeps the property. -/
def RunKeeps (I : Frame σ → Prop) (G : Locals → Prop) (isDeployment : Bool)
    (run : ContractInformation → FrameParameters → EvalM σ ContractEvaluation) : Prop :=
  ∀ contract params, params.externalCall = true → params.isDeployment = isDeployment →
    Ensures (fun f => I f ∧ G f.locals) (run contract params) (fun _ => I) I

variable {run : ContractInformation → FrameParameters → EvalM σ ContractEvaluation}

theorem ensures_internalCall {G : Locals → Prop} {isDeployment : Bool}
    (hrun : RunKeeps I G isDeployment run) (address : Bytes) :
    Ensures (fun f => I f ∧ G f.locals) (internalCall host run address isDeployment)
      (fun _ => I) I := by
  unfold internalCall
  refine ensures_bind ensures_locals fun l => ?_
  have hfind : Ensures (fun f => I f ∧ G f.locals) (findContract host address)
      (fun _ f => I f ∧ G f.locals) I := fun f hf =>
    (ensures_of_keeps (h.keeps_findContract address) f hf.1).and
      (ensures_of_keeps (keeps_findContract_locals address) f hf.2)
  refine ensures_bind hfind fun contract => ?_
  refine ensures_bind (hrun contract _ rfl rfl) fun response => ?_
  exact ensures_of_keeps (keeps_bind (h.merge _) fun _ => keeps_pure _)

/-- The guard of `call`. -/
def CallStackFits (l : Locals) : Prop := l.ctx.callStack.length < MAXIMUM_CALL_DEPTH

theorem keeps_call (hrun : RunKeeps I CallStackFits false run) {gasUsed : Nat} (hgas : ok gasUsed)
    (address : Bytes) : Keeps I (call env host run gasUsed address) := by
  unfold call
  refine keeps_of_ensures (ensures_tryCatch (E := I) ?_ fun e => ?_)
  · refine ensures_bind (ensures_of_keeps (h.keeps_setGasUsed hgas)) fun _ => ?_
    -- What is read is the frame, so the guard is about the frame that is run.
    intro f hf
    show Outcome (fun _ => I) I (bindResult _ (throwIf _ VmError.callStackTooDeep f))
    by_cases hdepth : MAXIMUM_CALL_DEPTH ≤ f.locals.ctx.callStack.length
    · rw [show throwIf (MAXIMUM_CALL_DEPTH ≤ f.locals.ctx.callStack.length)
        VmError.callStackTooDeep f = (.error .callStackTooDeep, f) from by
          rw [throwIf, if_pos hdepth]; rfl]
      exact hf
    · rw [show throwIf (MAXIMUM_CALL_DEPTH ≤ f.locals.ctx.callStack.length)
        VmError.callStackTooDeep f = (.ok (), f) from by rw [throwIf, if_neg hdepth]; rfl]
      refine ensures_bind (h.ensures_internalCall hrun address) (fun response => ?_) f
        ⟨hf, by unfold CallStackFits; omega⟩
      exact ensures_of_keeps (keeps_bind keeps_locals fun l => keeps_pure _)
  · exact ensures_of_keeps (keeps_bind (h.keeps_revertWith e) fun _ =>
      keeps_bind keeps_locals fun l => keeps_pure _)

theorem keeps_deployContractFromAddressRaw (hrun : RunKeeps I (fun _ => True) true run) {gasUsed : Nat}
    (hgas : ok gasUsed) (address salt : Bytes) :
    Keeps I (deployContractFromAddressRaw env host run gasUsed address salt) := by
  unfold deployContractFromAddressRaw
  refine keeps_bind keeps_locals fun start => keeps_tryCatch ?_ fun e => ?_
  · refine keeps_bind h.incrementContractDeployDepth fun _ => ?_
    refine keeps_bind (h.keeps_setGasUsed hgas) fun _ => ?_
    refine keeps_bind (h.keeps_deployContractAtAddress address salt) fun deployed => ?_
    refine keeps_bind (keeps_throwIf _ _) fun _ => ?_
    refine keeps_bind (keeps_of_ensures fun f hf =>
      h.ensures_internalCall hrun deployed.1 f ⟨hf, trivial⟩) fun response => ?_
    refine keeps_bind (h.note _) fun _ => ?_
    exact keeps_bind keeps_locals fun l => keeps_pure _
  · refine keeps_bind (h.note _) fun _ => ?_
    exact keeps_bind (h.keeps_revertWith e) fun _ => keeps_bind keeps_locals fun l => keeps_pure _

theorem keeps_updateContractFromAddressRaw {gasUsed : Nat} (hgas : ok gasUsed) :
    Keeps I (updateContractFromAddressRaw env gasUsed : EvalM σ DeployResponse) := by
  unfold updateContractFromAddressRaw
  refine keeps_bind keeps_locals fun start => keeps_tryCatch ?_ fun e => ?_
  · refine keeps_bind h.incrementContractUpdates fun _ => ?_
    exact keeps_bind (h.keeps_setGasUsed hgas) fun _ => keeps_throw _
  · refine keeps_bind (h.note _) fun _ => ?_
    exact keeps_bind (h.keeps_revertWith e) fun _ => keeps_bind keeps_locals fun l => keeps_pure _

/-! ### The end of a frame -/

omit h in
theorem setGasUsed_error {gas : Nat} {f f' : Frame σ} {e : VmError}
    (hrun : (method (Method.setGasUsed gas) : EvalM σ Unit) f = (.error e, f')) : f' = f := by
  unfold method Proc.zoom at hrun
  dsimp only at hrun
  rw [Method.setGasUsed_eq] at hrun
  split_ifs at hrun
  · exact (congrArg Prod.snd hrun).symm
  · cases congrArg Prod.fst hrun

theorem keeps_onNoResult (e : VmError) : Keeps I (onNoResult env e : EvalM σ Unit) := by
  intro f hf
  have hpaid : I (method (Method.setGasUsed f.locals.ctx.gasTracker.paidMaximum) f).2 :=
    h.setGasUsed _ f (Or.inr (Or.inr rfl)) hf
  unfold onNoResult
  show I (bindResult _ (.ok f.locals, f)).2
  rw [bindResult_ok]
  refine keeps_bind_from ?_ fun _ => h.keeps_revertWith e
  cases hused : env.usedGas e with
  | none => exact hpaid
  | some gas =>
    have hgas := h.setGasUsed gas f (Or.inl (h.usedGas e gas hused)) hf
    show I (catchResult _ (method (Method.setGasUsed gas) f)).2
    rcases hrun : (method (Method.setGasUsed gas) : EvalM σ Unit) f with ⟨e' | u, f'⟩
    · rw [setGasUsed_error hrun]
      exact hpaid
    · rw [hrun] at hgas
      exact hgas

theorem keeps_onExit {response : ExitDataResponse} (hgas : ok response.gasUsed) :
    Keeps I (onExit env response : EvalM σ Unit) := by
  unfold onExit
  refine keeps_bind (h.keeps_setGasUsed hgas) fun _ => ?_
  refine keeps_ite (h.keeps_revertWith _) (keeps_ite (h.setRevert _) ?_)
  exact keeps_bind keeps_locals fun l => keeps_ite (h.setResult _) (keeps_pure _)

theorem keeps_preloadPointers (pointers : List (Bytes × U256)) :
    Keeps I (preloadPointers env host pointers) := by
  unfold preloadPointers
  refine keeps_bind keeps_locals fun l => ?_
  refine keeps_bind (keeps_throwIf _ _) fun _ => ?_
  exact keeps_bind (h.getStorageMultiple _ _) fun values => h.preloadedStorage values

omit h in
theorem keeps_deployContracts (hdeploy : ∀ c, Keeps I (onHost (host.deployContract c))) :
    Keeps I (deployContracts host) := by
  unfold deployContracts
  refine keeps_bind keeps_locals fun l => ?_
  refine keeps_bind (keeps_foldEach (fun failure contract => ?_) _ _) fun failure => ?_
  · refine keeps_tryCatch ?_ fun e => keeps_pure _
    exact keeps_bind (hdeploy _) fun _ => keeps_pure _
  · cases failure with
    | some e => exact keeps_throw _
    | none => exact keeps_pure _

theorem keeps_outOfStorageGas : Keeps I (outOfStorageGas : EvalM σ α) := by
  intro f hf
  have hset := h.setGasUsed f.locals.ctx.gasTracker.paidMaximum f (Or.inr (Or.inr rfl)) hf
  exact keeps_bind_from (f := fun _ => (Proc.throw .outOfGas : EvalM σ α)) hset
    fun _ => keeps_throw _

theorem keeps_chargeSlot (isSpecial : Bool) (gasUsed cost : Nat) (slot : U256 × U256) :
    Keeps I (chargeSlot env host isSpecial gasUsed cost slot) := by
  unfold chargeSlot
  refine keeps_bind keeps_locals fun l => ?_
  refine keeps_ite h.keeps_outOfStorageGas ?_
  refine keeps_bind (h.getStorage _ _ _) fun current => ?_
  exact keeps_ite h.keeps_outOfStorageGas (keeps_pure _)

theorem keeps_calculateGasCostStore
    (hfinal : ∀ total, Keeps I (method (Method.setFinalGasUsed total) : EvalM σ Unit)) :
    Keeps I (calculateGasCostStore env host) := by
  unfold calculateGasCostStore
  refine keeps_bind keeps_locals fun l => ?_
  cases l.evaluation.modifiedStorage with
  | none => exact keeps_pure _
  | some storage =>
    refine keeps_bind (keeps_foldEach (fun total contract => ?_) _ _) fun total => hfinal total
    unfold chargeContract
    refine keeps_bind keeps_locals fun l' => ?_
    exact keeps_bind (keeps_foldEach (fun cost slot => h.keeps_chargeSlot _ _ cost slot) _ _)
      fun cost => keeps_pure _

omit h in
theorem keeps_terminateEvaluation
    (hstore : ∀ f, f.locals.evaluation.externalCall = false → I f →
      I (calculateGasCostStore env host f).2)
    (hdeploy : ∀ c, Keeps I (onHost (host.deployContract c))) :
    Keeps I (terminateEvaluation env host) := by
  intro f hf
  show I ((if f.locals.evaluation.externalCall || f.locals.evaluation.revert.isSome then pure ()
    else _ : EvalM σ Unit) f).2
  split_ifs with hinner
  · exact hf
  · rw [Bool.or_eq_true, not_or, Bool.not_eq_true] at hinner
    exact keeps_bind_from (hstore f hinner.1 hf) fun _ => keeps_deployContracts hdeploy

omit h in
theorem keeps_terminateEvaluation_inner (hI : ∀ f, I f → f.locals.id.externalCall = true) :
    Keeps I (terminateEvaluation env host) := by
  intro f hf
  have hexternal : f.locals.evaluation.externalCall = true := hI f hf
  show I ((if f.locals.evaluation.externalCall || f.locals.evaluation.revert.isSome then pure ()
    else _ : EvalM σ Unit) f).2
  rw [hexternal]
  exact hf

theorem keeps_recordRevert : Keeps I (recordRevert : EvalM σ Unit) := by
  intro f hf
  show I { f with locals := if f.locals.evaluation.revert.isSome then _ else f.locals }
  split_ifs
  · exact h.note (.reverted f.locals.evaluation.contractAddress) f hf
  · exact hf

theorem keeps_attemptToSetGasUsed (e : VmError) :
    Keeps I (attemptToSetGasUsed env e : EvalM σ Unit) := by
  intro f hf
  show I ((if f.locals.ctx.gasTracker.gasUsed + f.locals.ctx.gasTracker.specialGasUsed ≤
    (env.usedGas e).getD f.locals.ctx.gasTracker.paidMaximum then _ else pure () : EvalM σ Unit) f).2
  split_ifs
  · show I (catchResult _ _).2
    have hcharges : Charges ok f.locals
        ((env.usedGas e).getD f.locals.ctx.gasTracker.paidMaximum) := by
      cases hused : env.usedGas e with
      | none => exact Or.inr (Or.inr rfl)
      | some gas => exact Or.inl (h.usedGas e gas hused)
    have hset := h.setGasUsed _ f hcharges hf
    rcases hrun : (method (Method.setGasUsed _) : EvalM σ Unit) f with ⟨e' | u, f'⟩
    · rw [hrun] at hset
      exact hset
    · rw [hrun] at hset
      exact hset
  · exact hf

/-- The body of a contract keeps the property, and the gas it returns is `ok`. -/
def BodyKeeps (ok : Nat → Prop) (I : Frame σ → Prop) (body : EvalM σ ExitDataResponse) : Prop :=
  Ensures I body (fun response f => I f ∧ ok response.gasUsed) I

theorem keeps_runContract {body : EvalM σ ExitDataResponse} (hbody : BodyKeeps ok I body)
    (contract : ContractInformation) (params : FrameParameters) :
    Keeps I (runContract env host body contract params) := by
  intro f hf
  -- The gas that the frame starts with is read from the frame that sets it.
  have hset : I (method (Method.setGasUsed (f.locals.ctx.gasTracker.combinedGas
      f.locals.evaluation.externalCall)) f).2 := h.setGasUsed _ f (Or.inr (Or.inl rfl)) hf
  show I (bindResult _ _).2
  unfold throwIf
  split_ifs
  · exact hf
  · show I ((method _ >>= fun _ => _ : EvalM σ Unit) f).2
    refine keeps_bind_from hset fun _ => keeps_bind (h.keeps_preloadPointers _) fun _ => ?_
    apply keeps_of_ensures
    refine ensures_bind (Q := fun result f => I f ∧ ∀ response, result = some response →
      ok response.gasUsed) (ensures_tryCatch (E := I) ?_ fun e => ?_) fun result => ?_
    · refine ensures_bind hbody fun response => ?_
      rintro f' ⟨hf', hgas⟩
      refine ⟨hf', fun response' heq => ?_⟩
      cases heq
      exact hgas
    · refine ensures_bind (ensures_of_keeps (h.keeps_onNoResult e)) fun _ => ?_
      intro f' hf'
      refine ⟨hf', fun response heq => ?_⟩
      cases heq
    · cases result with
      | none => exact fun f' hf' => hf'.1
      | some response =>
        exact fun f' hf' => ensures_of_keeps (h.keeps_onExit (hf'.2 response rfl)) f' hf'.1

theorem frameBody_of {I' : Frame σ → Prop} (h' : StepsKeep env host ok I')
    (hweaken : ∀ f, I f → I' f) (hend : Keeps I' (terminateEvaluation env host))
    {body : EvalM σ ExitDataResponse} (hbody : BodyKeeps ok I body) (contract : ContractInformation)
    (params : FrameParameters) {f : Frame σ} (hf : I f) :
    I' (frameBody env host body contract params f).2 := by
  have hrun : Ensures I (do
      runContract env host body contract params
      terminateEvaluation env host) (fun _ => I') I' := by
    refine ensures_bind (Ensures.mono (ensures_of_keeps (h.keeps_runContract hbody contract params))
      (fun _ _ h => h) hweaken) fun _ f hf => ?_
    exact ensures_of_keeps hend f (hweaken f hf)
  refine ((ensures_bind (ensures_tryCatch hrun fun e => ?_) fun _ =>
    ensures_of_keeps h'.keeps_recordRevert) f hf).state
  exact ensures_of_keeps (keeps_bind (h'.keeps_attemptToSetGasUsed e) fun _ => h'.keeps_revertWith e)

theorem keeps_frameBody (hend : Keeps I (terminateEvaluation env host))
    {body : EvalM σ ExitDataResponse} (hbody : BodyKeeps ok I body) (contract : ContractInformation)
    (params : FrameParameters) : Keeps I (frameBody env host body contract params) :=
  fun _ hf => h.frameBody_of h (fun _ h => h) hend hbody contract params hf

/-- Running an inner frame from a frame with `I'`: its own frame starts with the property, and the
caller is left with `J'`. -/
theorem ensures_runFrame (hend : Keeps I (terminateEvaluation env host))
    {I' J' : Frame σ → Prop} {body : EvalM σ ExitDataResponse} (hbody : BodyKeeps ok I body)
    (contract : ContractInformation) {params : FrameParameters}
    (henter : ∀ f inner, I' f → newEvaluation params f.locals.ctx = .ok inner →
      I { f with locals := inner })
    (hrefused : ∀ f e, I' f → newEvaluation params f.locals.ctx = .error e → J' f)
    (hleave : ∀ f f', I' f → I f' →
      J' { host := f'.host, locals := { f.locals with ctx := f'.locals.ctx } }) :
    Ensures I' (runFrame env host body contract params) (fun _ => J') J' := by
  intro f hf
  show Outcome _ _ (inFrame _ _ f)
  unfold inFrame
  cases hstart : newEvaluation params f.locals.ctx with
  | error e => exact hrefused f e hf hstart
  | ok inner =>
    have hinner : I { f with locals := inner } := henter f inner hf hstart
    exact hleave f _ hf (h.keeps_frameBody hend hbody contract params _ hinner)

end StepsKeep

namespace FramesKeep

variable {env : VmEnvironment} {host : Host σ} {ok : Nat → Prop} {I : Frame σ → Prop}
  (h : FramesKeep env host ok I)

include h

theorem inner : FramesKeep env host ok (Inner I) where
  usedGas := h.usedGas
  setGasUsed gas f hcharges hf :=
    ⟨h.setGasUsed gas f hcharges hf.1,
      (congrArg FrameId.externalCall (keepsId_setGasUsed gas f.locals.id f.locals rfl)).trans hf.2⟩
  setRevert error := keeps_inner_method (h.setRevert error) (keepsId_setRevert error)
  note action := keeps_inner_method (h.note action) (keepsId_note action)
  touch a isContract := keeps_inner_method (h.touch a isContract) (keepsId_onEvaluation fun _ => rfl)
  setStorage p v := keeps_inner_method (h.setStorage p v) (keepsId_setStorage p v)
  addToStorage p v := keeps_inner_method (h.addToStorage p v) (keepsId_addToStorage p v)
  preloadedStorage values := keeps_inner_method (h.preloadedStorage values) fun _ _ hl => hl
  emitEvent event := keeps_inner_method (h.emitEvent event) (keepsId_emitEvent event)
  incrementContractDeployDepth :=
    keeps_inner_method h.incrementContractDeployDepth (keepsId_onContext _)
  incrementContractUpdates := keeps_inner_method h.incrementContractUpdates (keepsId_onContext _)
  addContractInformation contract :=
    keeps_inner_method (h.addContractInformation contract) (keepsId_addContractInformation contract)
  setResult result := keeps_inner_method (h.setResult result) (keepsId_setResult result)
  merge inner := keeps_inner_method (h.merge inner) (keepsId_merge inner)
  getStorage a p n := keeps_inner (h.getStorage a p n) fun _ => rfl
  getStorageMultiple pointers n := keeps_inner (h.getStorageMultiple pointers n) fun _ => rfl
  isContract a := keeps_inner (h.isContract a) fun _ => rfl
  getContractInformation a n := keeps_inner (h.getContractInformation a n) fun _ => rfl
  isCached a := keeps_inner (h.isCached a) fun _ => rfl
  contractExistsBelow a n := keeps_inner (h.contractExistsBelow a n) fun _ => rfl
  enter f params inner hexternal hf hinner := by
    refine ⟨h.enter f params inner hexternal hf.1 hinner, ?_⟩
    exact (congrArg FrameId.externalCall (newEvaluation_id hinner)).trans hexternal
  leave f f' hf hf' := ⟨h.leave f f' hf.1 hf'.1, hf.2⟩

theorem runKeeps_runFrame {G : Locals → Prop} (isDeployment : Bool)
    {body : ContractInformation → EvalM σ ExitDataResponse}
    (hbody : ∀ contract, StepsKeep.BodyKeeps ok (Inner I) (body contract)) :
    StepsKeep.RunKeeps I G isDeployment fun contract params =>
      runFrame env host (body contract) contract params := by
  intro contract params hexternal _
  apply h.inner.ensures_runFrame (StepsKeep.keeps_terminateEvaluation_inner fun _ hf => hf.2) (hbody contract)
  · intro f inner hf hstart
    refine ⟨h.enter f params inner hexternal hf.1 hstart, ?_⟩
    exact (congrArg FrameId.externalCall (newEvaluation_id hstart)).trans hexternal
  · exact fun f e hf _ => hf.1
  · exact fun f f' hf hf' => h.leave f f' hf.1 hf'.1

/-! ### Call trees -/

/-- Whatever a contract does, its frame keeps the property. -/
theorem keeps_interpret {execution : Execution} (hgas : execution.Reports ok) :
    StepsKeep.BodyKeeps ok I (interpret env host execution) := by
  induction execution generalizing I with
  | exit response => exact fun f hf => ⟨hf, hgas⟩
  | abort message => exact fun f hf => hf
  | load pointer next ih =>
    exact ensures_bind (ensures_of_keeps (h.keeps_load pointer)) fun loaded =>
      ih loaded.1 loaded.2 h (hgas loaded.1 loaded.2)
  | store pointer value next ih =>
    exact ensures_bind (ensures_of_keeps (h.setStorage pointer value)) fun _ => ih h hgas
  | emit event next ih =>
    exact ensures_bind (ensures_of_keeps (h.emitEvent event)) fun _ => ih h hgas
  | accountType address next ih =>
    exact ensures_bind (ensures_of_keeps (h.keeps_getAccountType h.touch address)) fun type =>
      ih type.1 type.2 h (hgas type.1 type.2)
  | call gasUsed address callee next ihCallee ihNext =>
    obtain ⟨hused, hcallee, hnext⟩ := hgas
    have hrun := h.runKeeps_runFrame (G := StepsKeep.CallStackFits) false fun contract =>
      ihCallee contract h.inner (hcallee contract)
    exact ensures_bind (ensures_of_keeps (h.keeps_call hrun hused address)) fun response =>
      ihNext response h (hnext response)
  | deployFromAddress gasUsed address salt onDeploy next ihDeploy ihNext =>
    obtain ⟨hused, hdeploy, hnext⟩ := hgas
    have hrun := h.runKeeps_runFrame (G := fun _ => True) true fun contract =>
      ihDeploy contract h.inner (hdeploy contract)
    exact ensures_bind (ensures_of_keeps
      (h.keeps_deployContractFromAddressRaw hrun hused address salt)) fun response =>
        ihNext response h (hnext response)
  | updateFromAddress gasUsed address next ih =>
    exact ensures_bind (ensures_of_keeps (h.keeps_updateContractFromAddressRaw hgas.1))
      fun response => ih response h (hgas.2 response)

end FramesKeep

/-! ### Properties of the gas -/

def LeavesGas (m : Method α) : Prop := ∀ l, (m l).2.ctx.gasTracker = l.ctx.gasTracker

theorem leavesGas_onEvaluation (f : ContractEvaluation → ContractEvaluation) :
    LeavesGas (Method.onEvaluation f) := fun _ => rfl

theorem leavesGas_onContext {f : TransactionContext → Except VmError TransactionContext}
    (h : ∀ ctx ctx', f ctx = .ok ctx' → ctx'.gasTracker = ctx.gasTracker) :
    LeavesGas (Method.onContext f) := by
  intro l
  unfold Method.onContext
  cases hf : f l.ctx with
  | ok ctx => exact h _ _ hf
  | error e => rfl

theorem leavesGas_incrementContractDeployDepth :
    LeavesGas (Method.onContext TransactionContext.incrementContractDeployDepth) := by
  apply leavesGas_onContext
  intro ctx ctx' h
  obtain ⟨-, rfl⟩ := TransactionContext.incrementContractDeployDepth_eq_ok h
  rfl

theorem leavesGas_incrementContractUpdates :
    LeavesGas (Method.onContext TransactionContext.incrementContractUpdates) := by
  apply leavesGas_onContext
  intro ctx ctx' h
  obtain ⟨-, rfl⟩ := TransactionContext.incrementContractUpdates_eq_ok h
  rfl

theorem leavesGas_addToStorage (p v : U256) : LeavesGas (Method.addToStorage p v) := by
  intro l
  unfold Method.addToStorage
  split <;> rfl

theorem leavesGas_enforceEventLimits (event : NetEvent) :
    LeavesGas (Method.enforceEventLimits event) := by
  intro l
  unfold Method.enforceEventLimits
  repeat' split
  all_goals rfl

theorem leavesGas_addContractInformation (contract : ContractInformation) :
    LeavesGas (Method.addContractInformation contract) := by
  intro l
  unfold Method.addContractInformation
  split <;> rfl

theorem newEvaluation_gasTracker {params : FrameParameters} {ctx : TransactionContext} {l : Locals}
    (h : newEvaluation params ctx = .ok l) : l.ctx.gasTracker = ctx.gasTracker := by
  obtain ⟨depth, rfl⟩ := newEvaluation_eq_ok h
  rfl

/-- A property of the gas tracker and of the identity of a frame. -/
def OnGas (P : GasTracker → FrameId → Prop) (l : Locals) : Prop := P l.ctx.gasTracker l.id

/-- Counting gas, entering and leaving a frame keep a property of the gas. -/
structure GasStepsKeep (env : VmEnvironment) (ok : Nat → Prop) (P : GasTracker → FrameId → Prop) : Prop where
  usedGas : ∀ e gas, env.usedGas e = some gas → ok gas
  counted : ∀ (l : Locals) gas, Charges ok l gas → OnGas P l →
    ¬ l.ctx.gasTracker.maxGasVM l.id.externalCall < gas →
    P (l.ctx.gasTracker.counted gas l.id.externalCall l.id.contractAddress) l.id
  enter : ∀ t i i', i'.externalCall = true → P t i → P t i'
  leave : ∀ t t' i i', P t i → P t' i' → P t' i

section

variable {P : GasTracker → FrameId → Prop}

theorem LeavesGas.keeps {m : Method α} (h : LeavesGas m) (hid : KeepsId m) : Keeps (OnGas P) m := by
  intro l hl
  unfold OnGas
  rw [h l, hid l.id l rfl]
  exact hl

theorem onGas_setGasUsed {l : Locals} {gas : Nat} (hl : OnGas P l)
    (hcounted : ¬ l.ctx.gasTracker.maxGasVM l.id.externalCall < gas →
      P (l.ctx.gasTracker.counted gas l.id.externalCall l.id.contractAddress) l.id) :
    OnGas P (Method.setGasUsed gas l).2 := by
  rw [Method.setGasUsed_eq]
  split_ifs with hgas
  · exact hl
  · exact hcounted hgas

theorem keeps_mergeEvents_gas (events : JsMap Bytes (List NetEvent)) :
    Keeps (OnGas P) (Method.mergeEvents events) := by
  refine keeps_forEach (fun entry => keeps_forEach (fun event => ?_) _) _
  refine keeps_bind ((leavesGas_enforceEventLimits event).keeps (keepsId_enforceEventLimits event))
    fun _ => ?_
  exact fun l hl => hl

theorem keeps_merge_gas (inner : ContractEvaluation) : Keeps (OnGas P) (Method.merge inner) := by
  unfold Method.merge
  refine keeps_bind keeps_get fun caller => ?_
  refine keeps_bind (fun l hl => ?_) fun _ => ?_
  · unfold Method.onContext
    dsimp only
    rw [GasTracker.setGasUsed_eq]
    split_ifs
    · exact hl
    · exact hl
  · cases inner.revert with
    | some error => exact (leavesGas_onEvaluation _).keeps (keepsId_setRevert error)
    | none =>
      cases inner.modifiedStorage with
      | some storage => exact keeps_bind (fun _ hl => hl) fun _ => keeps_mergeEvents_gas inner.events
      | none => exact keeps_mergeEvents_gas inner.events

theorem keeps_setResult_gas (result : Bytes) : Keeps (OnGas P) (Method.setResult result) :=
  keeps_bind (fun _ hl => hl) fun _ => keeps_bind keeps_get fun _ => fun _ hl => hl

theorem keeps_emitEvent_gas (event : NetEvent) : Keeps (OnGas P) (Method.emitEvent event) := by
  refine keeps_bind ((leavesGas_enforceEventLimits event).keeps (keepsId_enforceEventLimits event))
    fun _ => ?_
  exact fun l hl => hl

theorem GasStepsKeep.framesKeep {env : VmEnvironment} {ok : Nat → Prop}
    (h : GasStepsKeep env ok P) (host : Host σ) :
    FramesKeep env host ok fun f : Frame σ => OnGas P f.locals where
  usedGas := h.usedGas
  setGasUsed gas f hcharges hf :=
    onGas_setGasUsed (l := f.locals) hf fun hgas => h.counted f.locals gas hcharges hf hgas
  setRevert error := fun f hf => hf
  note action := fun f hf => hf
  touch a isContract := fun f hf => hf
  setStorage p v := fun f hf => hf
  addToStorage p v := fun f hf =>
    (leavesGas_addToStorage p v).keeps (keepsId_addToStorage p v) f.locals hf
  preloadedStorage values := fun f hf => hf
  emitEvent event := fun f hf => keeps_emitEvent_gas event f.locals hf
  incrementContractDeployDepth := fun f hf =>
    leavesGas_incrementContractDeployDepth.keeps (keepsId_onContext _) f.locals hf
  incrementContractUpdates := fun f hf =>
    leavesGas_incrementContractUpdates.keeps (keepsId_onContext _) f.locals hf
  addContractInformation contract := fun f hf =>
    (leavesGas_addContractInformation contract).keeps (keepsId_addContractInformation contract)
      f.locals hf
  setResult result := fun f hf => keeps_setResult_gas result f.locals hf
  merge inner := fun f hf => keeps_merge_gas inner f.locals hf
  getStorage _ _ _ := fun _ hf => hf
  getStorageMultiple _ _ := fun _ hf => hf
  isContract _ := fun _ hf => hf
  getContractInformation _ _ := fun _ hf => hf
  isCached _ := fun _ hf => hf
  contractExistsBelow _ _ := fun _ hf => hf
  enter f params inner hexternal hf hinner := by
    show P inner.ctx.gasTracker inner.id
    rw [newEvaluation_gasTracker hinner]
    refine h.enter _ f.locals.id _ ?_ hf
    rw [newEvaluation_id hinner]
    exact hexternal
  leave f f' hf hf' := h.leave _ _ _ _ hf hf'

end

end OpnetNode
