import OpnetNode.Vm.Equiv.VMManager

/-!
# What the frames of a transaction share

A property of the shared state alone needs no account of the frames it passes through: an inner frame
takes the shared state over and hands it back.  If the host calls that do more than charge gas keep it
(`CallsKeep`), every call tree does (`keeps_interpret`), and so does every frame (`keeps_frameBody`).
-/

namespace OpnetNode

open Proc EvalM

variable {σ α : Type}

/-- What the frames of a transaction did. -/
def traceOf : Except VmError Locals → List FrameAction
  | .ok l => l.ctx.trace
  | .error _ => []

/-- The methods of the host, asked at the height `n`, keep a property of its state. -/
structure HostKeepsAt (n : Nat) (J : σ → Prop) (host : Host σ) : Prop where
  getStorage : ∀ a p, Keeps J (host.getStorage a p n)
  isContract : ∀ a, Keeps J (host.isContract a)
  getContractInformation : ∀ a, Keeps J (host.getContractInformation a n)
  isCached : ∀ a, Keeps J (host.isCached a)
  contractExistsBelow : ∀ a, Keeps J (host.contractExistsBelow a n)
  deployContract : ∀ c, Keeps J (host.deployContract c)

/-- A property of the host and one of the shared state, in a frame of the height `n`. -/
structure Within (n : Nat) (J : σ → Prop) (I : TransactionContext → Prop) (f : Frame σ) : Prop where
  host : J f.host
  blockNumber : f.locals.id.blockNumber = n
  shared : I f.locals.ctx

/-- A property of the shared state that charging gas, entering a frame, emitting an event and ending
with a revert keep. -/
structure SharedClosed (I : TransactionContext → Prop) : Prop where
  gasTracker : ∀ ctx gasTracker, I ctx → I { ctx with gasTracker }
  callStack : ∀ ctx callStack, I ctx → I { ctx with callStack }
  emitted : ∀ ctx a event, I ctx → I (ctx.record (.emitted a event))
  reverted : ∀ ctx a, I ctx → I (ctx.record (.reverted a))

def LeavesShared (m : Method α) : Prop := ∀ l, (m l).2.ctx = l.ctx

def KeepsShared (I : TransactionContext → Prop) (m : Method α) : Prop := Keeps (fun l => I l.ctx) m

section

variable {I : TransactionContext → Prop}

theorem LeavesShared.keeps {m : Method α} (h : LeavesShared m) : KeepsShared I m := by
  intro l hl
  show I (m l).2.ctx
  rw [h l]
  exact hl

theorem leavesShared_onEvaluation (f : ContractEvaluation → ContractEvaluation) :
    LeavesShared (Method.onEvaluation f) := fun _ => rfl

theorem leavesShared_enforceEventLimits (event : NetEvent) :
    LeavesShared (Method.enforceEventLimits event) := by
  intro l
  unfold Method.enforceEventLimits
  repeat' split
  all_goals rfl

theorem keepsShared_onContext {f : TransactionContext → Except VmError TransactionContext}
    (h : ∀ ctx ctx', f ctx = .ok ctx' → I ctx → I ctx') : KeepsShared I (Method.onContext f) := by
  intro l hl
  unfold Method.onContext
  cases hf : f l.ctx with
  | ok ctx => exact h _ _ hf hl
  | error e => exact hl

variable (hI : SharedClosed I)

include hI

theorem keepsShared_chargeGas (gas : TransactionContext → Nat) (external : Bool) (address : Bytes) :
    KeepsShared I (Method.onContext fun ctx => do
      let gasTracker ← ctx.gasTracker.setGasUsed (gas ctx) 0 external address
      return { ctx with gasTracker }) := by
  apply keepsShared_onContext
  intro ctx ctx' h hctx
  obtain ⟨gasTracker, -, hret⟩ := exceptBind_eq_ok h
  cases hret
  exact hI.gasTracker ctx gasTracker hctx

theorem keepsShared_setGasUsed (gas : Nat) : KeepsShared I (Method.setGasUsed gas) := fun l hl =>
  keepsShared_chargeGas hI (fun _ => gas) l.evaluation.externalCall l.evaluation.contractAddress l hl

theorem keepsShared_emitEvent (event : NetEvent) : KeepsShared I (Method.emitEvent event) :=
  keeps_bind (leavesShared_enforceEventLimits event).keeps fun _ =>
    keeps_modify fun l hl => hI.emitted l.ctx l.evaluation.contractAddress event hl

theorem keepsShared_merge (inner : ContractEvaluation) : KeepsShared I (Method.merge inner) := by
  have hevents : KeepsShared I (Method.mergeEvents inner.events) := by
    refine keeps_forEach (fun entry => keeps_forEach (fun event => ?_) _) _
    exact keeps_bind (leavesShared_enforceEventLimits event).keeps fun _ =>
      (leavesShared_onEvaluation _).keeps
  unfold Method.merge
  refine keeps_bind keeps_get fun l => ?_
  refine keeps_bind (keepsShared_chargeGas hI _ true l.evaluation.contractAddress) fun _ => ?_
  cases inner.revert with
  | some error => exact (leavesShared_onEvaluation _).keeps
  | none =>
    cases inner.modifiedStorage with
    | none => exact hevents
    | some storage => exact keeps_bind (leavesShared_onEvaluation _).keeps fun _ => hevents

end

namespace Within

variable {n : Nat} {J : σ → Prop} {I : TransactionContext → Prop}

theorem keeps_method {m : Method α} (hid : KeepsId m) (h : KeepsShared I m) :
    Keeps (Within n J I) (method m : EvalM σ α) := by
  intro f hf
  refine ⟨hf.host, ?_, h f.locals hf.shared⟩
  show (m f.locals).2.id.blockNumber = n
  rw [hid f.locals.id f.locals rfl, hf.blockNumber]

theorem keeps_onHost {m : Proc σ VmError α} (h : Keeps J m) :
    Keeps (Within n J I) (onHost m : EvalM σ α) := fun f hf =>
  ⟨h f.host hf.host, hf.blockNumber, hf.shared⟩

variable {f : Locals → EvalM σ α}

theorem keeps_locals (h : ∀ l, l.evaluation.blockNumber = n → Keeps (Within n J I) (f l)) :
    Keeps (Within n J I) (locals >>= f) := fun s hs => h s.locals hs.blockNumber s hs

theorem ensures_locals {Q : α → Frame σ → Prop} {E : Frame σ → Prop}
    (h : ∀ l, l.evaluation.blockNumber = n → Ensures (Within n J I) (f l) Q E) :
    Ensures (Within n J I) (locals >>= f) Q E := fun s hs => h s.locals hs.blockNumber s hs

theorem keeps_frame {m : EvalM σ Unit} {start : TransactionContext → Except VmError Locals}
    (hstart : ∀ ctx l, start ctx = .ok l → I ctx → I l.ctx ∧ l.id.blockNumber = n)
    (h : Keeps (Within n J I) m) : Keeps (Within n J I) (inFrame start m) := by
  intro f hf
  unfold inFrame
  cases hs : start f.locals.ctx with
  | error e => exact hf
  | ok inner =>
    obtain ⟨hinner, hn⟩ := hstart _ _ hs hf.shared
    have hafter := h { f with locals := inner } ⟨hf.host, hn, hinner⟩
    exact ⟨hafter.host, hf.blockNumber, hafter.shared⟩

variable (env : VmEnvironment) {host : Host σ}

section Closed

variable (hI : SharedClosed I)

include hI

theorem keeps_setGasUsed (gas : Nat) :
    Keeps (Within n J I) (method (Method.setGasUsed gas) : EvalM σ Unit) :=
  keeps_method (keepsId_setGasUsed gas) (keepsShared_setGasUsed hI gas)

omit hI in
theorem keeps_setRevert (error : Bytes) :
    Keeps (Within n J I) (method (Method.setRevert error) : EvalM σ Unit) :=
  keeps_method (keepsId_setRevert error) (leavesShared_onEvaluation _).keeps

omit hI in
theorem keeps_getAccountType (hhost : HostKeepsAt n J host) (address : Bytes) :
    Keeps (Within n J I) (getAccountType host address) := by
  unfold getAccountType
  refine keeps_locals fun l _ => ?_
  cases l.evaluation.touchedAddresses.get address with
  | some isContract => exact keeps_pure _
  | none =>
    refine keeps_bind (keeps_onHost (hhost.isContract _)) fun isContract => ?_
    refine keeps_bind (keeps_method (keepsId_onEvaluation fun _ => rfl) ?_) fun _ => keeps_pure _
    exact (leavesShared_onEvaluation _).keeps

omit hI in
theorem keeps_findContract (hhost : HostKeepsAt n J host) (address : Bytes) :
    Keeps (Within n J I) (findContract host address) := by
  unfold findContract
  refine keeps_locals fun l hl => ?_
  cases (l.ctx.deployedContracts.get address).filter validContractInformation with
  | some contract => exact keeps_pure _
  | none =>
    rw [hl]
    refine keeps_bind (keeps_onHost (hhost.getContractInformation _)) fun stored => ?_
    cases stored.filter validContractInformation with
    | some contract => exact keeps_pure _
    | none => exact keeps_throw _

omit hI in
theorem ensures_deployContractAtAddress {I' : TransactionContext → Prop}
    (hhost : HostKeepsAt n J host) (hmono : ∀ ctx, I ctx → I' ctx)
    (hadd : ∀ ctx c, ctx.deployedContracts.has c.contractPublicKey = false → I ctx →
      I' (TransactionContext.record (.deployed c) { ctx with
        deployedContracts := ctx.deployedContracts.set c.contractPublicKey c }))
    (address salt : Bytes) :
    Ensures (Within n J I) (deployContractAtAddress env host address salt)
      (fun _ => Within n J I') (Within n J I') := by
  have hweaken (f : Frame σ) (hf : Within n J I f) : Within n J I' f :=
    ⟨hf.host, hf.blockNumber, hmono _ hf.shared⟩
  have hstep {β : Type} {m : EvalM σ β} (h : Keeps (Within n J I) m) :
      Ensures (Within n J I) m (fun _ => Within n J I) (Within n J I') :=
    (ensures_of_keeps h).mono (fun _ _ hf => hf) hweaken
  have hadds (contract : ContractInformation) : Ensures (Within n J I)
      (method (Method.addContractInformation contract) : EvalM σ Unit)
      (fun _ => Within n J I') (Within n J I') := by
    intro f hf
    show Outcome _ _ ((Method.addContractInformation contract f.locals).1, _)
    unfold Method.addContractInformation
    split_ifs with hhas
    · exact hweaken f hf
    · exact ⟨hf.host, hf.blockNumber, hadd _ _ (by simpa using hhas) hf.shared⟩
  unfold deployContractAtAddress
  refine ensures_locals fun l hl => ?_
  rw [hl]
  refine ensures_bind (hstep (keeps_onHost (hhost.getContractInformation _))) fun template => ?_
  cases template with
  | none => exact fun f hf => hweaken f hf
  | some template =>
    refine ensures_bind (hstep (keeps_onHost (hhost.isCached _))) fun cached => ?_
    refine ensures_bind (hstep (keeps_throwIf _ _)) fun _ => ?_
    refine ensures_bind (hstep (keeps_throwIf _ _)) fun _ => ?_
    refine ensures_bind (hstep (keeps_onHost (hhost.contractExistsBelow _))) fun isStored => ?_
    refine ensures_ite (fun f hf => hweaken f hf) ?_
    exact ensures_bind (hadds _) fun _ _ hf => hf

/-- Entering a frame at the height of the caller. -/
def RunKeeps (n : Nat) (J : σ → Prop) (I : TransactionContext → Prop) (isDeployment : Bool)
    (run : ContractInformation → FrameParameters → EvalM σ ContractEvaluation) : Prop :=
  ∀ contract params, params.blockNumber = n → params.isDeployment = isDeployment →
    Keeps (Within n J I) (run contract params)

variable {run : ContractInformation → FrameParameters → EvalM σ ContractEvaluation}

theorem keeps_internalCall (hhost : HostKeepsAt n J host) {isDeployment : Bool}
    (hrun : RunKeeps n J I isDeployment run) (address : Bytes) :
    Keeps (Within n J I) (internalCall host run address isDeployment) := by
  unfold internalCall
  refine keeps_locals fun l hl => ?_
  refine keeps_bind (keeps_findContract hhost address) fun contract => ?_
  refine keeps_bind (hrun contract _ hl rfl) fun response => ?_
  refine keeps_bind (keeps_method (keepsId_merge _) (keepsShared_merge hI _)) fun _ => ?_
  exact keeps_pure _

theorem keeps_call (hhost : HostKeepsAt n J host)
    (hrun : RunKeeps n J I false run) (gasUsed : Nat) (address : Bytes) :
    Keeps (Within n J I) (call env host run gasUsed address) := by
  unfold call
  refine keeps_tryCatch ?_ fun e => ?_
  · refine keeps_bind (keeps_setGasUsed hI gasUsed) fun _ => keeps_locals fun l _ => ?_
    refine keeps_bind (keeps_throwIf _ _) fun _ => ?_
    refine keeps_bind (keeps_internalCall hI hhost hrun address) fun response => ?_
    exact keeps_locals fun l _ => keeps_pure _
  · exact keeps_bind (keeps_setRevert _) fun _ => keeps_locals fun l _ => keeps_pure _

/-! ### The end of a frame -/

theorem keeps_onNoResult (e : VmError) :
    Keeps (Within n J I) (onNoResult env e : EvalM σ Unit) := by
  unfold onNoResult
  refine keeps_locals fun l _ => ?_
  refine keeps_bind (keeps_tryCatch ?_ fun _ => keeps_setGasUsed hI _) fun _ => keeps_setRevert _
  cases env.usedGas e with
  | some gas => exact keeps_setGasUsed hI gas
  | none => exact keeps_throw _

theorem keeps_onExit (response : ExitDataResponse) :
    Keeps (Within n J I) (onExit env response : EvalM σ Unit) := by
  unfold onExit
  refine keeps_bind (keeps_setGasUsed hI _) fun _ => ?_
  refine keeps_ite (keeps_setRevert _) (keeps_ite (keeps_setRevert _) ?_)
  refine keeps_locals fun l _ => keeps_ite (keeps_method (keepsId_setResult _) ?_) (keeps_pure _)
  exact keeps_bind (leavesShared_onEvaluation _).keeps fun _ => keeps_bind keeps_get fun _ =>
    (leavesShared_onEvaluation _).keeps

theorem keeps_outOfStorageGas : Keeps (Within n J I) (outOfStorageGas : EvalM σ α) := by
  unfold outOfStorageGas
  refine keeps_locals fun l _ => ?_
  exact keeps_bind (keeps_setGasUsed hI _) fun _ => keeps_throw _

theorem keeps_calculateGasCostStore (hhost : HostKeepsAt n J host) :
    Keeps (Within n J I) (calculateGasCostStore env host) := by
  unfold calculateGasCostStore
  refine keeps_locals fun l _ => ?_
  cases l.evaluation.modifiedStorage with
  | none => exact keeps_pure _
  | some storage =>
    refine keeps_bind (keeps_foldEach (fun total contract => ?_) _ _) fun total =>
      keeps_method (fun _ => keeps_modify fun _ hl => hl)
        (keeps_modify fun l hl => hI.gasTracker l.ctx _ hl)
    unfold chargeContract
    refine keeps_locals fun l _ => ?_
    refine keeps_bind (keeps_foldEach (fun cost slot => ?_) _ _) fun cost => keeps_pure _
    unfold chargeSlot
    refine keeps_locals fun l hl => keeps_ite (keeps_outOfStorageGas hI) ?_
    rw [hl]
    refine keeps_bind (keeps_onHost (hhost.getStorage _ _)) fun current => ?_
    exact keeps_ite (keeps_outOfStorageGas hI) (keeps_pure _)

theorem keeps_terminateEvaluation (hhost : HostKeepsAt n J host) :
    Keeps (Within n J I) (terminateEvaluation env host) := by
  unfold terminateEvaluation
  refine keeps_locals fun l _ => keeps_ite (keeps_pure _) ?_
  refine keeps_bind (keeps_calculateGasCostStore env hI hhost) fun _ => ?_
  unfold deployContracts
  refine keeps_locals fun l _ => ?_
  refine keeps_bind (keeps_foldEach (fun failure contract => ?_) _ _) fun failure => ?_
  · refine keeps_tryCatch ?_ fun e => keeps_pure _
    exact keeps_bind (keeps_onHost (hhost.deployContract _)) fun _ => keeps_pure _
  · cases failure with
    | some e => exact keeps_throw _
    | none => exact keeps_pure _

theorem keeps_recordRevert : Keeps (Within n J I) (recordRevert : EvalM σ Unit) := by
  refine keeps_method (fun i => keeps_modify fun l hl => ?_) (keeps_modify fun l hl => ?_)
  · split
    · exact hl
    · exact hl
  · split
    · exact hI.reverted l.ctx _ hl
    · exact hl

theorem keeps_frameBody (hhost : HostKeepsAt n J host)
    (hpreload : ∀ pointers, Keeps (Within n J I) (preloadPointers env host pointers))
    {body : EvalM σ ExitDataResponse} (hbody : Keeps (Within n J I) body)
    (contract : ContractInformation) (params : FrameParameters) :
    Keeps (Within n J I) (frameBody env host body contract params) := by
  unfold frameBody
  refine keeps_bind (keeps_tryCatch ?_ fun e => ?_) fun _ => keeps_recordRevert hI
  · refine keeps_bind ?_ fun _ => keeps_terminateEvaluation env hI hhost
    unfold runContract
    refine keeps_locals fun l _ => keeps_bind (keeps_throwIf _ _) fun _ => ?_
    refine keeps_bind (keeps_setGasUsed hI _) fun _ => ?_
    refine keeps_bind (hpreload _) fun _ => ?_
    refine keeps_bind (keeps_tryCatch ?_ fun e => ?_) fun result => ?_
    · exact keeps_bind hbody fun _ => keeps_pure _
    · exact keeps_bind (keeps_onNoResult env hI e) fun _ => keeps_pure _
    · cases result with
      | some response => exact keeps_onExit env hI response
      | none => exact keeps_pure _
  · refine keeps_bind ?_ fun _ => keeps_setRevert _
    unfold attemptToSetGasUsed
    refine keeps_locals fun l _ => keeps_ite ?_ (keeps_pure _)
    exact keeps_tryCatch (keeps_setGasUsed hI _) fun _ => keeps_pure _

theorem newEvaluation_shared {params : FrameParameters} (hparams : params.isDeployment = false)
    {ctx : TransactionContext} {l : Locals} (h : newEvaluation params ctx = .ok l) (hctx : I ctx) :
    I l.ctx ∧ l.id.blockNumber = params.blockNumber := by
  refine ⟨?_, congrArg FrameId.blockNumber (newEvaluation_id h)⟩
  rcases newEvaluation_cases h with ⟨-, -, hdeploy, -⟩ | ⟨-, rfl⟩
  · cases hparams.symm.trans hdeploy
  · exact hI.callStack ctx _ hctx

end Closed

def StartKeeps (I : TransactionContext → Prop) : Prop :=
  ∀ (params : FrameParameters) (ctx : TransactionContext) (l : Locals),
    newEvaluation params ctx = .ok l → I ctx → I l.ctx

theorem runKeeps_runFrame (hI : SharedClosed I) (hhost : HostKeepsAt n J host)
    (hpreload : ∀ pointers, Keeps (Within n J I) (preloadPointers env host pointers))
    (hstart : StartKeeps I) {body : ContractInformation → EvalM σ ExitDataResponse}
    (hbody : ∀ contract, Keeps (Within n J I) (body contract)) (isDeployment : Bool) :
    RunKeeps n J I isDeployment fun contract params =>
      runFrame env host (body contract) contract params := by
  intro contract params hn _
  refine keeps_frame (fun ctx l hl hctx => ⟨hstart params ctx l hl hctx, ?_⟩)
    (keeps_frameBody env hI hhost hpreload (hbody contract) contract params)
  exact (congrArg FrameId.blockNumber (newEvaluation_id hl)).trans hn

/-! ### Call trees -/

/-- The host calls keep a property of the shared state. -/
structure CallsKeep (env : VmEnvironment) (host : Host σ) (n : Nat) (J : σ → Prop)
    (I : TransactionContext → Prop) : Prop where
  methods : HostKeepsAt n J host
  closed : SharedClosed I
  preload : ∀ pointers, Keeps (Within n J I) (preloadPointers env host pointers)
  load : ∀ pointer, Keeps (Within n J I) (load host pointer)
  store : ∀ pointer value,
    Keeps (Within n J I) (method (Method.setStorage pointer value) : EvalM σ Unit)
  deploy : ∀ body : ContractInformation → EvalM σ ExitDataResponse,
    (∀ contract, Keeps (Within n J I) (body contract)) →
    ∀ gasUsed address salt, Keeps (Within n J I) (deployContractFromAddressRaw env host
      (fun contract params => runFrame env host (body contract) contract params) gasUsed address
      salt)
  update : ∀ gasUsed, Keeps (Within n J I) (updateContractFromAddressRaw env gasUsed)

/-- Whatever a contract does, its frame keeps the property. -/
theorem keeps_interpret (h : CallsKeep env host n J I) (execution : Execution) :
    Keeps (Within n J I) (interpret env host execution) := by
  induction execution with
  | exit response => exact keeps_pure _
  | abort message => exact keeps_throw _
  | load pointer next ih => exact keeps_bind (h.load pointer) fun loaded => ih loaded.1 loaded.2
  | store pointer value next ih => exact keeps_bind (h.store pointer value) fun _ => ih
  | emit event next ih =>
    refine keeps_bind (keeps_method (keepsId_emitEvent event) ?_) fun _ => ih
    exact keepsShared_emitEvent h.closed event
  | accountType address next ih =>
    exact keeps_bind (keeps_getAccountType h.methods address) fun type => ih type.1 type.2
  | call gasUsed address callee next ihCallee ihNext =>
    refine keeps_bind (keeps_call env h.closed h.methods ?_ gasUsed address) ihNext
    intro contract params hn hdeployment
    refine keeps_frame (fun ctx l hstart hctx => ?_)
      (keeps_frameBody env h.closed h.methods h.preload (ihCallee contract) contract params)
    obtain ⟨hl, hid⟩ := newEvaluation_shared h.closed hdeployment hstart hctx
    exact ⟨hl, hid.trans hn⟩
  | deployFromAddress gasUsed address salt onDeploy next ihDeploy ihNext =>
    exact keeps_bind (h.deploy _ ihDeploy gasUsed address salt) ihNext
  | updateFromAddress gasUsed address next ih => exact keeps_bind (h.update gasUsed) ih

theorem ensures_run {T : RustMerkleTree} {J : VMManager → Prop}
    (h : CallsKeep env (vmHost env T) n J I) (hstart : StartKeeps I) {call : RootCall}
    (hn : call.params.blockNumber = n) (hctx : I call.ctx) :
    Ensures J (call.run env T) (fun l vm => I l.ctx ∧ J vm) J := by
  intro vm hvm
  unfold RootCall.run RootCall.runOn runRoot
  cases hl : newEvaluation call.params call.ctx with
  | error e => exact hvm
  | ok l =>
    have hbody := keeps_frameBody env h.closed h.methods h.preload
      (keeps_interpret env h call.execution) call.contract call.params
    have hid : l.id.blockNumber = n :=
      (congrArg FrameId.blockNumber (newEvaluation_id hl)).trans hn
    have hafter := hbody { host := vm, locals := l } ⟨hvm, hid, hstart _ _ _ hl hctx⟩
    exact ⟨hafter.shared, hafter.host⟩

end Within

end OpnetNode
