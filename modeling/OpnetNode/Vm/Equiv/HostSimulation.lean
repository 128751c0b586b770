import OpnetNode.Transition
import OpnetNode.Vm.ContractEvaluator

/-!
# Evaluations over two hosts

If the methods of one host simulate those of another, a frame run over the first simulates the
frame run over the second (`simulates_runFrame`): it ends with the same evaluation and the same
shared state.  All comparisons of VMs (a cached one with a fresh one, a block in progress with the
stored state it stands for) go through this theorem, so that they only have to look at the six
host methods.
-/

namespace OpnetNode

open Proc EvalM

variable {σ τ α : Type}

/-! ### The identity of a frame -/

/-- What no method of a frame changes. -/
structure FrameId where
  contractAddress : Bytes
  transactionId : Bytes
  blockNumber : Nat
  externalCall : Bool

def Locals.id (l : Locals) : FrameId where
  contractAddress := l.evaluation.contractAddress
  transactionId := l.evaluation.transactionId
  blockNumber := l.evaluation.blockNumber
  externalCall := l.evaluation.externalCall

/-- The method leaves the identity of the frame. -/
def KeepsId (m : Method α) : Prop := ∀ i, Keeps (fun l => l.id = i) m

theorem keepsId_get : KeepsId (Proc.get : Method Locals) := fun _ => keeps_get

theorem keepsId_onContext (f : TransactionContext → Except VmError TransactionContext) :
    KeepsId (Method.onContext f) := by
  intro i l hl
  unfold Method.onContext
  cases f l.ctx with
  | ok | error => exact hl

theorem keepsId_onEvaluation {f : ContractEvaluation → ContractEvaluation}
    (h : ∀ l : Locals, Locals.id { l with evaluation := f l.evaluation } = l.id) :
    KeepsId (Method.onEvaluation f) := by
  intro i l hl
  exact (h l).trans hl

theorem keepsId_note (action : FrameAction) : KeepsId (Method.note action) := fun _ _ hl => hl

theorem keepsId_setRevert (error : Bytes) : KeepsId (Method.setRevert error) :=
  keepsId_onEvaluation fun _ => rfl

theorem keepsId_setGasUsed (gas : Nat) : KeepsId (Method.setGasUsed gas) := fun i l hl =>
  keepsId_onContext _ i l hl

theorem keepsId_setStorage (pointer value : U256) : KeepsId (Method.setStorage pointer value) :=
  fun _ _ hl => hl

theorem keepsId_addToStorage (pointer value : U256) :
    KeepsId (Method.addToStorage pointer value) := by
  intro i l hl
  unfold Method.addToStorage
  split <;> exact hl

theorem keepsId_enforceEventLimits (event : NetEvent) :
    KeepsId (Method.enforceEventLimits event) := by
  intro i l hl
  unfold Method.enforceEventLimits
  repeat' split
  all_goals exact hl

theorem keepsId_emitEvent (event : NetEvent) : KeepsId (Method.emitEvent event) := fun i =>
  keeps_bind (keepsId_enforceEventLimits event i) fun _ => keeps_modify fun _ hl => hl

theorem keepsId_mergeEvents (events : JsMap Bytes (List NetEvent)) :
    KeepsId (Method.mergeEvents events) := fun i =>
  keeps_forEach (fun _ => keeps_forEach (fun event =>
    keeps_bind (keepsId_enforceEventLimits event i) fun _ =>
      keepsId_onEvaluation (fun _ => rfl) i) _) _

theorem keepsId_mergeStorage (storage : Slots) : KeepsId (Method.mergeStorage storage) :=
  keepsId_onEvaluation fun _ => rfl

theorem keepsId_setResult (result : Bytes) : KeepsId (Method.setResult result) := fun i =>
  keeps_bind (keepsId_onEvaluation (fun _ => rfl) i) fun _ =>
    keeps_bind (keepsId_get i) fun _ => keepsId_mergeStorage _ i

theorem keepsId_merge (inner : ContractEvaluation) : KeepsId (Method.merge inner) := by
  intro i
  unfold Method.merge
  refine keeps_bind (keepsId_get i) fun l => keeps_bind (keepsId_onContext _ i) fun _ => ?_
  cases inner.revert with
  | some error => exact keepsId_setRevert error i
  | none =>
    cases inner.modifiedStorage with
    | none => exact keepsId_mergeEvents _ i
    | some storage =>
      exact keeps_bind (keepsId_mergeStorage _ i) fun _ => keepsId_mergeEvents _ i

theorem keepsId_addContractInformation (contract : ContractInformation) :
    KeepsId (Method.addContractInformation contract) := by
  intro i l hl
  unfold Method.addContractInformation
  split <;> exact hl

theorem newEvaluation_id {params : FrameParameters} {ctx : TransactionContext} {l : Locals}
    (h : newEvaluation params ctx = .ok l) :
    l.id = ⟨params.contractAddress, params.transactionId, params.blockNumber,
      params.externalCall⟩ := by
  obtain ⟨depth, rfl⟩ := newEvaluation_eq_ok h
  rfl

/-! ### Two hosts -/

/-- The frame has an identity. -/
def AtId (i : FrameId) (f : Frame σ) : Prop := f.locals.id = i

/-- The frames differ in their hosts only. -/
def FrameRel (R : σ → τ → Prop) (f : Frame σ) (f' : Frame τ) : Prop :=
  R f.host f'.host ∧ f.locals = f'.locals

def OnHost (good : σ → Prop) (f : Frame σ) : Prop := good f.host

/-- A procedure of the host that simulates another one. -/
abbrev OnHosts (R : σ → τ → Prop) (good : σ → Prop) (m : Proc σ VmError α)
    (m' : Proc τ VmError α) : Prop := Simulates (fun _ => True) R good m m'

/-- Every method of the first host, asked at the height `n`, simulates the same method of the
second. -/
structure HostSimulates (n : Nat) (R : σ → τ → Prop) (good : σ → Prop) (host : Host σ)
    (host' : Host τ) : Prop where
  getStorage : ∀ a p, OnHosts R good (host.getStorage a p n) (host'.getStorage a p n)
  getStorageMultiple : ∀ l,
    OnHosts R good (host.getStorageMultiple l n) (host'.getStorageMultiple l n)
  isContract : ∀ a, OnHosts R good (host.isContract a) (host'.isContract a)
  getContractInformation : ∀ a,
    OnHosts R good (host.getContractInformation a n) (host'.getContractInformation a n)
  isCached : ∀ a, OnHosts R good (host.isCached a) (host'.isCached a)
  contractExistsBelow : ∀ a,
    OnHosts R good (host.contractExistsBelow a n) (host'.contractExistsBelow a n)
  deployContract : ∀ c, OnHosts R good (host.deployContract c) (host'.deployContract c)

/-- A procedure of a frame that simulates another one, in frames of one identity. -/
abbrev InFrames (i : FrameId) (R : σ → τ → Prop) (good : σ → Prop) (m : EvalM σ α)
    (m' : EvalM τ α) : Prop := Simulates (AtId i) (FrameRel R) (OnHost good) m m'

section

variable {i : FrameId} {R : σ → τ → Prop} {good : σ → Prop}

theorem simulates_method {m : Method α} (h : KeepsId m) :
    InFrames i R good (method m : EvalM σ α) (method m) := by
  refine ⟨fun f hid => h i f.locals hid, fun f _ hgood => hgood, ?_⟩
  rintro f f' _ ⟨hhost, hlocals⟩ _
  refine ⟨?_, hhost, ?_⟩
  · show (m f.locals).1 = (m f'.locals).1
    rw [hlocals]
  · show (m f.locals).2 = (m f'.locals).2
    rw [hlocals]

theorem simulates_onHost {m : Proc σ VmError α} {m' : Proc τ VmError α}
    (h : OnHosts R good m m') : InFrames i R good (onHost m : EvalM σ α) (onHost m') := by
  refine ⟨fun f hid => hid, fun f _ hgood => h.loses f.host trivial hgood, ?_⟩
  rintro f f' _ ⟨hhost, hlocals⟩ hgood
  obtain ⟨hres, hR⟩ := h.same f.host f'.host trivial hhost hgood
  exact ⟨hres, hR, hlocals⟩

theorem simulates_locals {f : Locals → EvalM σ α} {f' : Locals → EvalM τ α}
    (h : ∀ l, l.id = i → InFrames i R good (f l) (f' l)) :
    InFrames i R good (locals >>= f) (locals >>= f') := by
  refine ⟨fun s hid => (h s.locals hid).keeps s hid,
    fun s hid hgood => (h s.locals hid).loses s hid hgood, ?_⟩
  rintro s t hid ⟨hhost, hlocals⟩ hgood
  have hsame := (h s.locals hid).same s t hid ⟨hhost, hlocals⟩ hgood
  rw [hlocals] at hsame
  rw [show (locals >>= f) s = f s.locals s from rfl, hlocals]
  exact hsame

theorem simulates_inFrame {start : TransactionContext → Except VmError Locals} {j : FrameId}
    (hstart : ∀ ctx l, start ctx = .ok l → l.id = j) {body : EvalM σ Unit} {body' : EvalM τ Unit}
    (h : InFrames j R good body body') :
    InFrames i R good (inFrame start body) (inFrame start body') := by
  refine ⟨fun f hid => ?_, fun f _ hgood => ?_, ?_⟩
  · unfold inFrame
    split
    · exact hid
    · exact hid
  · unfold inFrame at hgood
    split at hgood
    · exact hgood
    next inner hinner => exact h.loses { f with locals := inner } (hstart _ _ hinner) hgood
  · rintro f f' _ ⟨hhost, hlocals⟩ hgood
    unfold inFrame at hgood ⊢
    rw [← hlocals]
    split at hgood
    · exact ⟨rfl, hhost, hlocals⟩
    next inner hinner =>
      obtain ⟨-, hR, hsame⟩ := h.same { f with locals := inner } { f' with locals := inner }
        (hstart _ _ hinner) ⟨hhost, rfl⟩ hgood
      simp only
      rw [hsame]
      exact ⟨rfl, hR, rfl⟩

variable (env : VmEnvironment) {host : Host σ} {host' : Host τ}

theorem simulates_load (h : HostSimulates i.blockNumber R good host host') (pointer : U256) :
    InFrames i R good (load host pointer) (load host' pointer) := by
  unfold load
  refine simulates_locals fun l hl => ?_
  subst hl
  cases Method.storageOf l pointer with
  | some value =>
    exact simulates_bind (simulates_method (keepsId_note _)) fun _ => simulates_pure _
  | none =>
    refine simulates_bind (simulates_onHost (h.getStorage _ _)) fun stored => ?_
    refine simulates_bind (simulates_method (keepsId_addToStorage _ _)) fun _ => ?_
    exact simulates_bind (simulates_method (keepsId_note _)) fun _ => simulates_pure _

theorem simulates_getAccountType (h : HostSimulates i.blockNumber R good host host')
    (address : Bytes) :
    InFrames i R good (getAccountType host address) (getAccountType host' address) := by
  unfold getAccountType
  refine simulates_locals fun l _ => ?_
  cases l.evaluation.touchedAddresses.get address with
  | some isContract => exact simulates_pure _
  | none =>
    refine simulates_bind (simulates_onHost (h.isContract _)) fun isContract => ?_
    exact simulates_bind (simulates_method (keepsId_onEvaluation fun _ => rfl)) fun _ =>
      simulates_pure _

theorem simulates_findContract (h : HostSimulates i.blockNumber R good host host')
    (address : Bytes) :
    InFrames i R good (findContract host address) (findContract host' address) := by
  unfold findContract
  refine simulates_locals fun l hl => ?_
  subst hl
  cases (l.ctx.deployedContracts.get address).filter validContractInformation with
  | some contract => exact simulates_pure _
  | none =>
    refine simulates_bind (simulates_onHost (h.getContractInformation _)) fun stored => ?_
    cases stored.filter validContractInformation with
    | some contract => exact simulates_pure _
    | none => exact simulates_throw _

/-- The frames that two runners make at a height simulate each other. -/
def RunSimulates (n : Nat) (R : σ → τ → Prop) (good : σ → Prop)
    (run : ContractInformation → FrameParameters → EvalM σ ContractEvaluation)
    (run' : ContractInformation → FrameParameters → EvalM τ ContractEvaluation) : Prop :=
  ∀ i contract params, params.blockNumber = n →
    InFrames i R good (run contract params) (run' contract params)

variable {run : ContractInformation → FrameParameters → EvalM σ ContractEvaluation}
  {run' : ContractInformation → FrameParameters → EvalM τ ContractEvaluation}

theorem simulates_internalCall (h : HostSimulates i.blockNumber R good host host')
    (hrun : RunSimulates i.blockNumber R good run run') (address : Bytes) (isDeployment : Bool) :
    InFrames i R good (internalCall host run address isDeployment)
      (internalCall host' run' address isDeployment) := by
  unfold internalCall
  refine simulates_locals fun l hl => ?_
  subst hl
  refine simulates_bind (simulates_findContract h address) fun contract => ?_
  refine simulates_bind (hrun _ contract _ rfl) fun response => ?_
  exact simulates_bind (simulates_method (keepsId_merge _)) fun _ => simulates_pure _

theorem simulates_call (h : HostSimulates i.blockNumber R good host host')
    (hrun : RunSimulates i.blockNumber R good run run') (gasUsed : Nat) (address : Bytes) :
    InFrames i R good (call env host run gasUsed address)
      (call env host' run' gasUsed address) := by
  unfold call
  refine simulates_tryCatch ?_ fun e => ?_
  · refine simulates_bind (simulates_method (keepsId_setGasUsed _)) fun _ => ?_
    refine simulates_locals fun l _ => ?_
    refine simulates_bind (simulates_throwIf _ _) fun _ => ?_
    refine simulates_bind (simulates_internalCall h hrun _ _) fun response => ?_
    exact simulates_locals fun l _ => simulates_pure _
  · refine simulates_bind (simulates_method (keepsId_setRevert _)) fun _ => ?_
    exact simulates_locals fun l _ => simulates_pure _

theorem simulates_deployContractAtAddress (h : HostSimulates i.blockNumber R good host host')
    (address salt : Bytes) :
    InFrames i R good (deployContractAtAddress env host address salt)
      (deployContractAtAddress env host' address salt) := by
  unfold deployContractAtAddress
  refine simulates_locals fun l hl => ?_
  subst hl
  refine simulates_bind (simulates_onHost (h.getContractInformation _)) fun template => ?_
  cases template with
  | none => exact simulates_throw _
  | some template =>
    refine simulates_bind (simulates_onHost (h.isCached _)) fun cached => ?_
    refine simulates_bind (simulates_throwIf _ _) fun _ => ?_
    refine simulates_bind (simulates_throwIf _ _) fun _ => ?_
    refine simulates_bind (simulates_onHost (h.contractExistsBelow _)) fun isStored => ?_
    refine simulates_ite (simulates_pure _) ?_
    exact simulates_bind (simulates_method (keepsId_addContractInformation _)) fun _ =>
      simulates_pure _

theorem simulates_deployContractFromAddressRaw (h : HostSimulates i.blockNumber R good host host')
    (hrun : RunSimulates i.blockNumber R good run run') (gasUsed : Nat) (address salt : Bytes) :
    InFrames i R good
      (deployContractFromAddressRaw env host run gasUsed address salt)
      (deployContractFromAddressRaw env host' run' gasUsed address salt) := by
  unfold deployContractFromAddressRaw
  refine simulates_locals fun start _ => ?_
  refine simulates_tryCatch ?_ fun e => ?_
  · refine simulates_bind (simulates_method (keepsId_onContext _)) fun _ => ?_
    refine simulates_bind (simulates_method (keepsId_setGasUsed _)) fun _ => ?_
    refine simulates_bind (simulates_deployContractAtAddress env h _ _) fun deployed => ?_
    refine simulates_bind (simulates_throwIf _ _) fun _ => ?_
    refine simulates_bind (simulates_internalCall h hrun _ _) fun response => ?_
    refine simulates_bind (simulates_method (keepsId_note _)) fun _ => ?_
    exact simulates_locals fun l _ => simulates_pure _
  · refine simulates_bind (simulates_method (keepsId_note _)) fun _ => ?_
    refine simulates_bind (simulates_method (keepsId_setRevert _)) fun _ => ?_
    exact simulates_locals fun l _ => simulates_pure _

theorem simulates_updateContractFromAddressRaw (gasUsed : Nat) :
    InFrames i R good (updateContractFromAddressRaw env gasUsed : EvalM σ _)
      (updateContractFromAddressRaw env gasUsed) := by
  unfold updateContractFromAddressRaw
  refine simulates_locals fun start _ => ?_
  refine simulates_tryCatch ?_ fun e => ?_
  · refine simulates_bind (simulates_method (keepsId_onContext _)) fun _ => ?_
    exact simulates_bind (simulates_method (keepsId_setGasUsed _)) fun _ => simulates_throw _
  · refine simulates_bind (simulates_method (keepsId_note _)) fun _ => ?_
    refine simulates_bind (simulates_method (keepsId_setRevert _)) fun _ => ?_
    exact simulates_locals fun l _ => simulates_pure _

/-! ### The end of a frame -/

theorem simulates_onNoResult (e : VmError) :
    InFrames i R good (onNoResult env e : EvalM σ Unit) (onNoResult env e) := by
  unfold onNoResult
  refine simulates_locals fun l _ => ?_
  refine simulates_bind (simulates_tryCatch ?_ fun _ => simulates_method (keepsId_setGasUsed _))
    fun _ => simulates_method (keepsId_setRevert _)
  cases env.usedGas e with
  | some gas => exact simulates_method (keepsId_setGasUsed _)
  | none => exact simulates_throw _

theorem simulates_onExit (response : ExitDataResponse) :
    InFrames i R good (onExit env response : EvalM σ Unit)
      (onExit env response) := by
  unfold onExit
  refine simulates_bind (simulates_method (keepsId_setGasUsed _)) fun _ => ?_
  refine simulates_ite (simulates_method (keepsId_setRevert _))
    (simulates_ite (simulates_method (keepsId_setRevert _)) ?_)
  refine simulates_locals fun l _ => ?_
  exact simulates_ite (simulates_method (keepsId_setResult _)) (simulates_pure _)

theorem simulates_preloadPointers (h : HostSimulates i.blockNumber R good host host')
    (pointers : List (Bytes × U256)) :
    InFrames i R good (preloadPointers env host pointers)
      (preloadPointers env host' pointers) := by
  unfold preloadPointers
  refine simulates_locals fun l hl => ?_
  subst hl
  refine simulates_bind (simulates_throwIf _ _) fun _ => ?_
  refine simulates_bind (simulates_onHost (h.getStorageMultiple _)) fun values => ?_
  exact simulates_method fun i => keeps_modify fun l hl => hl

theorem simulates_outOfStorageGas :
    InFrames i R good (outOfStorageGas : EvalM σ α) outOfStorageGas := by
  unfold outOfStorageGas
  refine simulates_locals fun l _ => ?_
  exact simulates_bind (simulates_method (keepsId_setGasUsed _)) fun _ => simulates_throw _

theorem simulates_chargeSlot (h : HostSimulates i.blockNumber R good host host') (isSpecial : Bool)
    (gasUsed cost : Nat) (slot : U256 × U256) :
    InFrames i R good (chargeSlot env host isSpecial gasUsed cost slot)
      (chargeSlot env host' isSpecial gasUsed cost slot) := by
  unfold chargeSlot
  refine simulates_locals fun l hl => ?_
  subst hl
  refine simulates_ite simulates_outOfStorageGas ?_
  refine simulates_bind (simulates_onHost (h.getStorage _ _)) fun current => ?_
  exact simulates_ite simulates_outOfStorageGas (simulates_pure _)

theorem simulates_chargeContract (h : HostSimulates i.blockNumber R good host host')
    (total : Nat × Nat) (contract : Bytes × JsMap U256 U256) :
    InFrames i R good (chargeContract env host total contract)
      (chargeContract env host' total contract) := by
  unfold chargeContract
  refine simulates_locals fun l _ => ?_
  refine simulates_bind (simulates_foldEach (fun cost slot => ?_) _ _) fun cost => simulates_pure _
  exact simulates_chargeSlot env h _ _ cost slot

theorem simulates_calculateGasCostStore (h : HostSimulates i.blockNumber R good host host') :
    InFrames i R good (calculateGasCostStore env host)
      (calculateGasCostStore env host') := by
  unfold calculateGasCostStore
  refine simulates_locals fun l _ => ?_
  cases l.evaluation.modifiedStorage with
  | none => exact simulates_pure _
  | some storage =>
    refine simulates_bind (simulates_foldEach (fun total contract => ?_) _ _) fun total =>
      simulates_method fun i => keeps_modify fun l hl => hl
    exact simulates_chargeContract env h total contract

theorem simulates_deployContracts (h : HostSimulates i.blockNumber R good host host') :
    InFrames i R good (deployContracts host) (deployContracts host') := by
  unfold deployContracts
  refine simulates_locals fun l _ => ?_
  refine simulates_bind (simulates_foldEach (fun failure contract => ?_) _ _) fun failure => ?_
  · unfold settle
    refine simulates_tryCatch ?_ fun e => simulates_pure _
    exact simulates_bind (simulates_onHost (h.deployContract _)) fun _ => simulates_pure _
  · cases failure with
    | some e => exact simulates_throw _
    | none => exact simulates_pure _

theorem simulates_terminateEvaluation (h : HostSimulates i.blockNumber R good host host') :
    InFrames i R good (terminateEvaluation env host)
      (terminateEvaluation env host') := by
  unfold terminateEvaluation
  refine simulates_locals fun l _ => ?_
  refine simulates_ite (simulates_pure _) ?_
  exact simulates_bind (simulates_calculateGasCostStore env h) fun _ => simulates_deployContracts h

theorem simulates_attemptToSetGasUsed (e : VmError) :
    InFrames i R good (attemptToSetGasUsed env e : EvalM σ Unit)
      (attemptToSetGasUsed env e) := by
  unfold attemptToSetGasUsed
  refine simulates_locals fun l _ => ?_
  refine simulates_ite ?_ (simulates_pure _)
  exact simulates_tryCatch (simulates_method (keepsId_setGasUsed _)) fun _ => simulates_pure _

/-! ### Whole frames -/

variable {body : EvalM σ ExitDataResponse} {body' : EvalM τ ExitDataResponse}

theorem simulates_runContract (h : HostSimulates i.blockNumber R good host host')
    (hbody : InFrames i R good body body') (contract : ContractInformation)
    (params : FrameParameters) :
    InFrames i R good (runContract env host body contract params)
      (runContract env host' body' contract params) := by
  unfold runContract
  refine simulates_locals fun l _ => ?_
  refine simulates_bind (simulates_throwIf _ _) fun _ => ?_
  refine simulates_bind (simulates_method (keepsId_setGasUsed _)) fun _ => ?_
  refine simulates_bind (simulates_preloadPointers env h _) fun _ => ?_
  refine simulates_bind (simulates_tryCatch ?_ fun e => ?_) fun result => ?_
  · exact simulates_bind hbody fun _ => simulates_pure _
  · exact simulates_bind (simulates_onNoResult env e) fun _ => simulates_pure _
  · cases result with
    | some response => exact simulates_onExit env response
    | none => exact simulates_pure _

theorem simulates_recordRevert :
    InFrames i R good (recordRevert : EvalM σ Unit) recordRevert := by
  refine simulates_method fun i => keeps_modify fun l hl => ?_
  split <;> exact hl

theorem simulates_frameBody (h : HostSimulates i.blockNumber R good host host')
    (hbody : InFrames i R good body body')
    (contract : ContractInformation) (params : FrameParameters) :
    InFrames i R good (frameBody env host body contract params)
      (frameBody env host' body' contract params) := by
  unfold frameBody
  refine simulates_bind (simulates_tryCatch ?_ fun e => ?_) fun _ => simulates_recordRevert
  · exact simulates_bind (simulates_runContract env h hbody contract params) fun _ =>
      simulates_terminateEvaluation env h
  · exact simulates_bind (simulates_attemptToSetGasUsed env e) fun _ =>
      simulates_method (keepsId_setRevert _)

/-- The identity of a frame that is run with the given parameters. -/
def FrameParameters.id (params : FrameParameters) : FrameId :=
  ⟨params.contractAddress, params.transactionId, params.blockNumber, params.externalCall⟩

theorem simulates_runFrame {params : FrameParameters}
    (h : HostSimulates params.blockNumber R good host host')
    (hbody : InFrames params.id R good body body')
    (contract : ContractInformation) :
    InFrames i R good (runFrame env host body contract params)
      (runFrame env host' body' contract params) :=
  simulates_inFrame (fun _ _ hstart => newEvaluation_id hstart)
    (simulates_frameBody env h hbody contract params)

theorem simulates_interpret {n : Nat} (h : HostSimulates n R good host host')
    (execution : Execution) (i : FrameId) (hi : i.blockNumber = n) :
    InFrames i R good (interpret env host execution) (interpret env host' execution) := by
  induction execution generalizing i with
  | exit response => exact simulates_pure _
  | abort message => exact simulates_throw _
  | load pointer next ih =>
    subst hi
    exact simulates_bind (simulates_load h pointer) fun loaded => ih loaded.1 loaded.2 i rfl
  | store pointer value next ih =>
    exact simulates_bind (simulates_method (keepsId_setStorage pointer value)) fun _ => ih i hi
  | emit event next ih =>
    exact simulates_bind (simulates_method (keepsId_emitEvent event)) fun _ => ih i hi
  | accountType address next ih =>
    subst hi
    exact simulates_bind (simulates_getAccountType h address) fun type => ih type.1 type.2 i rfl
  | call gasUsed address callee next ihCallee ihNext =>
    subst hi
    refine simulates_bind (simulates_call env h (fun j contract params hparams => ?_) gasUsed
      address) fun response => ihNext response i rfl
    rw [← hparams] at h
    exact simulates_runFrame env h (ihCallee contract params.id hparams) contract
  | deployFromAddress gasUsed address salt onDeploy next ihDeploy ihNext =>
    subst hi
    refine simulates_bind (simulates_deployContractFromAddressRaw env h
      (fun j contract params hparams => ?_) gasUsed address salt) fun response =>
        ihNext response i rfl
    rw [← hparams] at h
    exact simulates_runFrame env h (ihDeploy contract params.id hparams) contract
  | updateFromAddress gasUsed address next ih =>
    exact simulates_bind (simulates_updateContractFromAddressRaw env gasUsed) fun response =>
      ih response i hi

theorem simulates_runRoot {params : FrameParameters}
    (h : HostSimulates params.blockNumber R good host host') (ctx : TransactionContext)
    (execution : Execution) (contract : ContractInformation) :
    OnHosts R good (runRoot env host ctx (interpret env host execution) contract params)
      (runRoot env host' ctx (interpret env host' execution) contract params) := by
  have hbody := simulates_frameBody env h (simulates_interpret env h execution params.id rfl)
    contract params
  unfold runRoot
  cases hstart : newEvaluation params ctx with
  | error e => exact simulates_throw e
  | ok locals =>
    have hid : locals.id = params.id := newEvaluation_id hstart
    refine ⟨fun _ _ => trivial, fun s _ hgood => hbody.loses { host := s, locals } hid hgood, ?_⟩
    intro s t _ hst hgood
    obtain ⟨-, hR, hlocals⟩ := hbody.same { host := s, locals } { host := t, locals } hid
      ⟨hst, rfl⟩ hgood
    exact ⟨congrArg Except.ok hlocals, hR⟩

end

end OpnetNode
