import OpnetNode.Vm.Equiv.FrameInvariant
import OpnetNode.Vm.HostCalls

/-!
# Observed transactions

Noting what the frames do changes nothing (`observeRoot_simulates`).  A property of the observed frames
that may depend on the number of the frame is kept by whole call trees if the host calls keep it
(`ObserveKeeps.keeps_observe`).
-/

namespace OpnetNode

open Proc EvalM Observed

variable {σ α : Type}

/-! ### What is noted changes nothing -/

/-- The host is the same. -/
def Observes (s : σ) (t : Observed σ) : Prop := t.host = s

theorem simulates_onPart (m : Proc σ VmError α) :
    OnHosts Observes (fun _ => True) m (onPart m) := by
  refine ⟨fun _ _ => trivial, fun _ _ _ => trivial, ?_⟩
  rintro s t _ rfl _
  exact ⟨rfl, rfl⟩

theorem hostSimulates_observed (host : Host σ) (n : Nat) :
    HostSimulates n Observes (fun _ => True) host host.observed where
  getStorage _ _ := simulates_onPart _
  getStorageMultiple _ := simulates_onPart _
  isContract _ := simulates_onPart _
  getContractInformation _ := simulates_onPart _
  isCached _ := simulates_onPart _
  contractExistsBelow _ := simulates_onPart _
  deployContract _ := simulates_onPart _

section

variable (env : VmEnvironment) {host : Host σ} {i : FrameId}

theorem simulates_noted {m : EvalM σ α} {m' : EvalM (Observed σ) α}
    (before : Frame (Observed σ) → Frame (Observed σ))
    (after : Frame (Observed σ) → α → Frame (Observed σ) → Frame (Observed σ))
    (h : InFrames i Observes (fun _ => True) m m')
    (hbefore : ∀ f, (before f).host.host = f.host.host ∧ (before f).locals = f.locals)
    (hafter : ∀ f a g, (after f a g).host.host = g.host.host ∧ (after f a g).locals = g.locals)
    {m'' : EvalM (Observed σ) α}
    (hm : ∀ f, m'' f = bindResult (fun a g => (.ok a, after f a g)) (m' (before f))) :
    InFrames i Observes (fun _ => True) m m'' := by
  refine ⟨h.keeps, fun _ _ _ => trivial, ?_⟩
  rintro s t hid ⟨hhost, hlocals⟩ _
  obtain ⟨hsame, hlocals'⟩ := hbefore t
  obtain ⟨hres, hrel⟩ := h.same s (before t) hid ⟨hsame.trans hhost, hlocals.trans hlocals'.symm⟩
    trivial
  rw [hm t]
  rcases hrun : m' (before t) with ⟨e | a, t'⟩
  · rw [hrun] at hres hrel
    exact ⟨hres, hrel⟩
  · rw [hrun] at hres hrel
    obtain ⟨hnoted, hnoted'⟩ := hafter t a t'
    exact ⟨hres, hnoted.trans hrel.1, hrel.2.trans hnoted'.symm⟩

theorem simulates_observeAccountType (frame : Nat) (address : Bytes) :
    InFrames i Observes (fun _ => True) (getAccountType host address)
      (observeAccountType host frame address) :=
  simulates_noted
    (fun f => { f with host := { f.host with
      accesses := f.host.accesses ++ [⟨frame, address, true⟩] } })
    (fun f type g => { g with host := { g.host with answers := g.host.answers ++ [{
      frame
      self := f.locals.evaluation.contractAddress
      address
      question := .accountType type.1
      isWarm := type.2
      deployed := f.locals.ctx.deployedContracts.has address
      earlier := f.host.accesses }] } })
    (simulates_getAccountType (hostSimulates_observed host i.blockNumber) address)
    (fun _ => ⟨rfl, rfl⟩) (fun _ _ _ => ⟨rfl, rfl⟩) fun _ => rfl

theorem simulates_observeCall
    {run : ContractInformation → FrameParameters → EvalM σ ContractEvaluation}
    {run' : ContractInformation → FrameParameters → EvalM (Observed σ) ContractEvaluation}
    (hrun : RunSimulates i.blockNumber Observes (fun _ => True) run run') (frame gasUsed : Nat)
    (address : Bytes) :
    InFrames i Observes (fun _ => True) (call env host run gasUsed address)
      (observeCall env host run' frame gasUsed address) :=
  simulates_noted
    (fun f => { f with host := { f.host with
      accesses := f.host.accesses ++ [⟨frame, address, false⟩] } })
    (fun f response g => { g with host := { g.host with answers := g.host.answers ++ [{
      frame
      self := f.locals.evaluation.contractAddress
      address
      question := .call (callAttempt host.observed run' gasUsed address { f with host := { f.host with
        accesses := f.host.accesses ++ [⟨frame, address, false⟩] } }).1.isOk
      isWarm := response.isWarm
      deployed := f.locals.ctx.deployedContracts.has address
      earlier := f.host.accesses }] } })
    (simulates_call env (hostSimulates_observed host i.blockNumber) hrun gasUsed address)
    (fun _ => ⟨rfl, rfl⟩) (fun _ _ _ => ⟨rfl, rfl⟩) fun _ => rfl

theorem simulates_observeFrame {params : FrameParameters} {byCall : Bool}
    {body : EvalM σ ExitDataResponse}
    {body' : Nat → ContractInformation → EvalM (Observed σ) ExitDataResponse}
    (contract : ContractInformation)
    (hbody : ∀ frame, InFrames params.id Observes (fun _ => True) body (body' frame contract)) :
    InFrames i Observes (fun _ => True) (runFrame env host body contract params)
      (observeFrame env host byCall body' contract params) := by
  have hrun (frame : Nat) := simulates_runFrame (i := i) env
    (hostSimulates_observed host params.blockNumber) (hbody frame) contract
  refine ⟨(hrun 0).keeps, fun _ _ _ => trivial, ?_⟩
  rintro s t hid ⟨hhost, hlocals⟩ _
  exact (hrun t.host.frames).same s { t with host := t.host.enter byCall } hid ⟨hhost, hlocals⟩ trivial

theorem simulates_observe (getMLDSAPublicKey : Bytes → Proc σ VmError (Option MLDSAPublicKey))
    (execution : Execution) (frame : Nat) (i : FrameId) :
    InFrames i Observes (fun _ => True) (interpret env host execution)
      (observe env host getMLDSAPublicKey execution.hostCalls frame) := by
  have h := hostSimulates_observed host
  induction execution generalizing i frame with
  | exit response => exact simulates_pure _
  | abort message => exact simulates_throw _
  | load pointer next ih =>
    exact simulates_bind (simulates_load (h i.blockNumber) pointer) fun loaded =>
      ih loaded.1 loaded.2 frame i
  | store pointer value next ih =>
    exact simulates_bind (simulates_method (keepsId_setStorage pointer value)) fun _ => ih frame i
  | emit event next ih =>
    exact simulates_bind (simulates_method (keepsId_emitEvent event)) fun _ => ih frame i
  | accountType address next ih =>
    exact simulates_bind (simulates_observeAccountType frame address) fun type =>
      ih type.1 type.2 frame i
  | call gasUsed address callee next ihCallee ihNext =>
    refine simulates_bind (simulates_observeCall env (fun j contract params _ => ?_) frame gasUsed
      address) fun response => ihNext response frame i
    exact simulates_observeFrame env contract fun inner => ihCallee contract inner params.id
  | deployFromAddress gasUsed address salt onDeploy next ihDeploy ihNext =>
    refine simulates_bind (simulates_deployContractFromAddressRaw env (h i.blockNumber)
      (fun j contract params _ => ?_) gasUsed address salt) fun response =>
        ihNext response frame i
    exact simulates_observeFrame env contract fun inner => ihDeploy contract inner params.id
  | updateFromAddress gasUsed address next ih =>
    exact simulates_bind (simulates_updateContractFromAddressRaw env gasUsed) fun response =>
      ih response frame i

theorem observeRoot_simulates
    (getMLDSAPublicKey : Bytes → Proc σ VmError (Option MLDSAPublicKey))
    (accessed : List Bytes) (ctx : TransactionContext) (execution : Execution)
    (contract : ContractInformation) (params : FrameParameters) (s : σ) :
    (observeRoot env host getMLDSAPublicKey accessed ctx execution.hostCalls contract params s).1 =
        (runRoot env host ctx (interpret env host execution) contract params s).1 ∧
      (observeRoot env host getMLDSAPublicKey accessed ctx execution.hostCalls contract params s).2.host =
        (runRoot env host ctx (interpret env host execution) contract params s).2 := by
  have hcalls : InFrames params.id Observes (fun _ => True) (interpret env host execution)
      (observe env host getMLDSAPublicKey execution.hostCalls 0) :=
    simulates_observe env getMLDSAPublicKey execution 0 params.id
  have hbody := simulates_frameBody env (hostSimulates_observed host params.blockNumber) hcalls
    contract params
  unfold observeRoot runRoot
  cases hstart : newEvaluation params ctx with
  | error e => exact ⟨rfl, rfl⟩
  | ok locals =>
    have hid : locals.id = params.id := newEvaluation_id hstart
    obtain ⟨-, hhost, hlocals⟩ := hbody.same { host := s, locals }
      { host := Observed.start accessed s, locals } hid ⟨rfl, rfl⟩ trivial
    exact ⟨congrArg Except.ok hlocals.symm, hhost⟩

end

/-! ### Properties of the observed frames -/

/-- The steps of the observed frames keep a property, which may depend on the number of the frame and
on what was so when the frame began. -/
structure ObserveKeeps {ι : Type} (env : VmEnvironment) (host : Host σ)
    (getMLDSAPublicKey : Bytes → Proc σ VmError (Option MLDSAPublicKey))
    (I : ι → Nat → Frame (Observed σ) → Prop) : Prop where
  steps : ∀ i n, StepsKeep env host.observed (fun _ => True) (I i n)
  loadMLDSA : ∀ i n level address,
    Keeps (I i n) (onHost (loadMLDSA getMLDSAPublicKey level address))
  accountType : ∀ i n address, Keeps (I i n) (observeAccountType host n address)
  call : ∀ i n run gasUsed address, StepsKeep.RunKeeps (I i n) StepsKeep.CallStackFits false run →
    Keeps (I i n) (observeCall env host run n gasUsed address)
  /-- An inner frame starts with the property, and its caller has it again when it is left. -/
  enter : ∀ i n byCall f params inner, (byCall = true → StepsKeep.CallStackFits f.locals) →
    params.externalCall = true → I i n f → newEvaluation params f.locals.ctx = .ok inner →
    ∃ j, Keeps (I j f.host.frames) (terminateEvaluation env host.observed) ∧
      I j f.host.frames { host := f.host.enter byCall, locals := inner } ∧
      ∀ f', I j f.host.frames f' →
        I i n { host := f'.host, locals := { f.locals with ctx := f'.locals.ctx } }
  refused : ∀ i n f, I i n f → I i n { f with host := f.host.enter false }

namespace ObserveKeeps

variable {ι : Type} {env : VmEnvironment} {host : Host σ}
  {getMLDSAPublicKey : Bytes → Proc σ VmError (Option MLDSAPublicKey)}
  {I : ι → Nat → Frame (Observed σ) → Prop}

/-- What is known of a frame that runs an inner one: a call was not too deep. -/
def Fits (byCall : Bool) (l : Locals) : Prop := byCall = true → StepsKeep.CallStackFits l

variable {params : FrameParameters} {ctx : TransactionContext}

theorem isDeployment_of_error {e : VmError}
    (h : newEvaluation params ctx = .error e) : params.isDeployment = true := by
  by_contra hnot
  unfold newEvaluation at h
  rw [if_neg hnot] at h
  cases h

variable (h : ObserveKeeps env host getMLDSAPublicKey I)

include h

theorem runKeeps_observeFrame (byCall : Bool)
    {body : Nat → ContractInformation → EvalM (Observed σ) ExitDataResponse}
    (hbody : ∀ j m contract, StepsKeep.BodyKeeps (fun _ => True) (I j m) (body m contract))
    (i : ι) (n : Nat) :
    StepsKeep.RunKeeps (I i n) (Fits byCall) (!byCall) (observeFrame env host byCall body) := by
  rintro contract params hexternal hdeployment f ⟨hf, hfits⟩
  show Outcome _ _ (inFrame _ _ { f with host := f.host.enter byCall })
  unfold inFrame
  dsimp only
  cases hstart : newEvaluation params f.locals.ctx with
  | error e =>
    have hbyCall : byCall = false := by
      have hrefused := isDeployment_of_error hstart
      rw [hdeployment] at hrefused
      simpa using hrefused
    rw [hbyCall]
    exact h.refused i n f hf
  | ok inner =>
    obtain ⟨j, hend, hinner, hleave⟩ := h.enter i n byCall f params inner hfits hexternal hf hstart
    have hbody' := (h.steps j f.host.frames).keeps_frameBody hend (hbody j f.host.frames contract)
      contract params _ hinner
    exact hleave _ hbody'

/-- Whatever a contract does, its frame keeps the property. -/
theorem keeps_observe (calls : HostCalls) (i : ι) (n : Nat) :
    StepsKeep.BodyKeeps (fun _ => True) (I i n) (observe env host getMLDSAPublicKey calls n) := by
  induction calls generalizing i n with
  | exit response => exact fun f hf => ⟨hf, trivial⟩
  | abort message => exact fun f hf => hf
  | load pointer next ih =>
    exact ensures_bind (ensures_of_keeps ((h.steps i n).keeps_load pointer)) fun loaded =>
      ih loaded.1 loaded.2 i n
  | store pointer value next ih =>
    exact ensures_bind (ensures_of_keeps ((h.steps i n).setStorage pointer value)) fun _ => ih i n
  | emit event next ih =>
    exact ensures_bind (ensures_of_keeps ((h.steps i n).emitEvent event)) fun _ => ih i n
  | accountType address next ih =>
    exact ensures_bind (ensures_of_keeps (h.accountType i n address)) fun type =>
      ih type.1 type.2 i n
  | call gasUsed address callee next ihCallee ihNext =>
    have hrun := h.runKeeps_observeFrame true (fun j m contract =>
      ihCallee contract j m) i n
    refine ensures_bind (ensures_of_keeps (h.call i n _ gasUsed address ?_)) fun response =>
      ihNext response i n
    intro contract params hexternal hdeployment f hf
    exact hrun contract params hexternal hdeployment f ⟨hf.1, fun _ => hf.2⟩
  | deployFromAddress gasUsed address salt onDeploy next ihDeploy ihNext =>
    have hrun := h.runKeeps_observeFrame false (fun j m contract =>
      ihDeploy contract j m) i n
    refine ensures_bind (ensures_of_keeps ((h.steps i n).keeps_deployContractFromAddressRaw ?_
      trivial address salt)) fun response => ihNext response i n
    intro contract params hexternal hdeployment f hf
    exact hrun contract params hexternal hdeployment f ⟨hf.1, fun hnot => nomatch hnot⟩
  | updateFromAddress gasUsed address next ih =>
    exact ensures_bind (ensures_of_keeps
      ((h.steps i n).keeps_updateContractFromAddressRaw trivial)) fun response => ih response i n
  | loadMLDSA level address next ih =>
    exact ensures_bind (ensures_of_keeps (h.loadMLDSA i n level address)) fun publicKey =>
      ih publicKey i n

/-- A transaction that starts with the property ends with `I'`, if the end of the outermost frame keeps
that. -/
theorem outcome_observeRoot {i : ι} {accessed : List Bytes} {s : σ} {I' : Frame (Observed σ) → Prop}
    (hsteps : StepsKeep env host.observed (fun _ => True) I') (hweaken : ∀ f, I i 0 f → I' f)
    (hend : Keeps I' (terminateEvaluation env host.observed))
    (hstart : ∀ l, newEvaluation params ctx = .ok l →
      I i 0 { host := Observed.start accessed s, locals := l })
    (calls : HostCalls) (contract : ContractInformation) :
    Outcome (fun l t => I' { host := t, locals := l }) (fun _ => True)
      (observeRoot env host getMLDSAPublicKey accessed ctx calls contract params s) := by
  unfold observeRoot runRoot
  cases hl : newEvaluation params ctx with
  | error e => exact trivial
  | ok l =>
    exact (h.steps i 0).frameBody_of hsteps hweaken hend (h.keeps_observe calls i 0) contract params
      (hstart l hl)

end ObserveKeeps

end OpnetNode
