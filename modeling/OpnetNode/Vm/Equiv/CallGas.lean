import OpnetNode.Vm.Equiv.BoughtGas

/-!
# The gas that a caller is told

A call, a deployment and an update answer with the gas that the inner frame used, as an unsigned 64-bit
number.  It should be the gas that was counted since the inner frame began, and nothing for a root
frame with free gas (`GasRequest.WellFormed`).  The branch for errors forgets the free gas, and a
negative difference is written modulo `2 ^ 64`: `gasTold_iff` says when the number is right.
-/

namespace OpnetNode

open Proc EvalM

/-- A host call that may run another frame; `readU64` reads its gas. -/
inductive GasRequest where
  | call (gasUsed : Fin (2 ^ 64)) (address : Bytes) (callee : ContractInformation → Execution)
  | deployFromAddress (gasUsed : Fin (2 ^ 64)) (address salt : Bytes)
    (onDeploy : ContractInformation → Execution)
  | updateFromAddress (gasUsed : Fin (2 ^ 64))

namespace GasRequest

/-- The gas counter of the VM that makes the request. -/
def gasUsed : GasRequest → Nat
  | .call gasUsed _ _ => gasUsed
  | .deployFromAddress gasUsed _ _ _ => gasUsed
  | .updateFromAddress gasUsed => gasUsed

theorem gasUsed_lt (request : GasRequest) : request.gasUsed < 2 ^ 64 := by
  cases request with
  | call gasUsed address callee => exact gasUsed.isLt
  | deployFromAddress gasUsed address salt onDeploy => exact gasUsed.isLt
  | updateFromAddress gasUsed => exact gasUsed.isLt

/-- What the inner frame does. -/
def callee : GasRequest → ContractInformation → Execution
  | .call _ _ callee => callee
  | .deployFromAddress _ _ _ onDeploy => onDeploy
  | .updateFromAddress _ => fun _ => .abort []

/-- Whether the request is refused before it is read. -/
def refused (l : Locals) : GasRequest → Bool
  | .call _ _ _ => false
  | .deployFromAddress _ _ _ _ => MAXIMUM_DEPLOYMENT_DEPTH ≤ l.ctx.contractDeployDepth
  | .updateFromAddress _ => MAXIMUM_UPDATE_DEPTH ≤ l.ctx.contractUpdateDepth

/-- Whether the gas of the request is taken. -/
def accepted (l : Locals) (request : GasRequest) : Prop :=
  request.refused l = false ∧
    ¬ l.ctx.gasTracker.maxGasVM l.evaluation.externalCall < request.gasUsed

instance (l : Locals) (request : GasRequest) : Decidable (request.accepted l) :=
  inferInstanceAs (Decidable (_ ∧ _))

/-- The gas tracker when the inner frame begins. -/
def start (l : Locals) (request : GasRequest) : GasTracker :=
  if request.accepted l then
    l.ctx.gasTracker.counted request.gasUsed l.evaluation.externalCall l.evaluation.contractAddress
  else l.ctx.gasTracker

section

variable {σ : Type} (env : VmEnvironment) (host : Host σ)

/-- How an inner frame is run. -/
def run (callee : ContractInformation → Execution) (contract : ContractInformation)
    (params : FrameParameters) : EvalM σ ContractEvaluation :=
  runFrame env host (interpret env host (callee contract)) contract params

def respond : GasRequest → EvalM σ Nat
  | .call gasUsed address callee => do
    let response ← OpnetNode.call env host (run env host callee) gasUsed address
    return response.gasUsed
  | .deployFromAddress gasUsed address salt onDeploy => do
    let response ← deployContractFromAddressRaw env host (run env host onDeploy) gasUsed address salt
    return response.gasUsed
  | .updateFromAddress gasUsed => do
    let response ← updateContractFromAddressRaw env gasUsed
    return response.gasUsed

/-- The `try` block of the request; what it returns is the gas of the response. -/
def attempt : GasRequest → EvalM σ Nat
  | .call gasUsed address callee => do
    method (Method.setGasUsed gasUsed)
    let l ← locals
    Proc.throwIf (MAXIMUM_CALL_DEPTH ≤ l.ctx.callStack.length) .callStackTooDeep
    let _ ← internalCall host (run env host callee) address false
    let l ← locals
    return reportedGas l gasUsed
  | .deployFromAddress gasUsed address salt onDeploy => do
    let start ← locals
    method (Method.onContext TransactionContext.incrementContractDeployDepth)
    method (Method.setGasUsed gasUsed)
    let deployed ← deployContractAtAddress env host address salt
    Proc.throwIf (deployed.1 = env.dead) .deploymentFailed
    let _ ← internalCall host (run env host onDeploy) deployed.1 true
    method (Method.note (start.ctx.deployAttempt none))
    let l ← locals
    return reportedGas l gasUsed
  | .updateFromAddress gasUsed => do
    method (Method.onContext TransactionContext.incrementContractUpdates)
    method (Method.setGasUsed gasUsed)
    Proc.throw .methodNotImplemented

/-- The variable `usedGas` when the `try` block throws. -/
def before (l : Locals) : GasRequest → Int
  | .call gasUsed _ _ => gasUsed
  | .deployFromAddress gasUsed _ _ _ => l.gasBeforeDeploy gasUsed
  | .updateFromAddress gasUsed => l.gasBeforeUpdate gasUsed

theorem before_eq (l : Locals) (request : GasRequest) :
    request.before l =
      if request.refused l then (l.ctx.gasTracker.gasUsed : Int) else request.gasUsed := by
  cases request with
  | call gasUsed address callee => rfl
  | deployFromAddress gasUsed address salt onDeploy =>
    unfold before Locals.gasBeforeDeploy refused
    simp only [decide_eq_true_eq]
    rfl
  | updateFromAddress gasUsed =>
    unfold before Locals.gasBeforeUpdate refused
    simp only [decide_eq_true_eq]
    rfl

/-- What is noted when the `try` block throws. -/
def failure (l : Locals) (e : VmError) : GasRequest → EvalM σ Unit
  | .call _ _ _ => pure ()
  | .deployFromAddress _ _ _ _ => method (Method.note (l.ctx.deployAttempt (some e)))
  | .updateFromAddress _ => method (Method.note (l.ctx.updateAttempt (some e)))

/-- A response is its `try` block, with an answer for errors. -/
theorem respond_eq (request : GasRequest) (f : Frame σ) :
    request.respond env host f = Proc.tryCatch (request.attempt env host) (fun e => do
      request.failure f.locals e
      revertWith env e
      let l ← locals
      return u64 (l.ctx.gasTracker.gasUsed - request.before f.locals)) f := by
  cases request with
  | call gasUsed address callee =>
    show (Proc.tryCatch _ _ >>= fun response => pure _ : EvalM σ Nat) f = _
    rw [tryCatch_bind_pure]
    simp only [Proc.bind_assoc]
    rfl
  | deployFromAddress | updateFromAddress =>
    show (Proc.tryCatch _ _ >>= fun response => pure _ : EvalM σ Nat) f = _
    rw [tryCatch_bind_pure]
    simp only [Proc.bind_assoc]
    rfl

theorem handler_eq (request : GasRequest) (l : Locals) (e : VmError) (f : Frame σ) :
    ∃ f', (do
      request.failure l e
      revertWith env e
      let l' ← locals
      return u64 (l'.ctx.gasTracker.gasUsed - request.before l) : EvalM σ Nat) f =
        (.ok (u64 (f.locals.ctx.gasTracker.gasUsed - request.before l)), f') ∧
      f'.locals.ctx.gasTracker = f.locals.ctx.gasTracker := by
  cases request with
  | call | deployFromAddress | updateFromAddress => exact ⟨_, rfl, rfl⟩

end

end GasRequest

/-! ### The gas of an inner frame -/

/-- A tracker whose counted gas has grown since it was `start`, in 64 bits. -/
structure GasTracker.Grown (start t : GasTracker) : Prop where
  maxGas : t.maxGas = start.maxGas
  settings : t.settings = start.settings
  grown : start.gasUsed ≤ t.gasUsed
  fits : t.gasUsed < 2 ^ 64

/-- The VM meters the gas of an inner frame: the caps it is given and its counter have 64 bits, and no
counter it reports is below the gas counted when the frame began. -/
structure MeteredFrom (env : VmEnvironment) (start : GasTracker)
    (callee : ContractInformation → Execution) : Prop where
  caps : ∀ isExternCall, start.maxGasVM isExternCall < 2 ^ 64
  counted : start.gasUsed < 2 ^ 64
  usedGas : ∀ e gas, env.usedGas e = some gas → start.gasUsed ≤ gas
  reports : ∀ contract, (callee contract).Reports (start.gasUsed ≤ ·)

section

variable {σ : Type} {env : VmEnvironment} {host : Host σ} {start : GasTracker} {i : FrameId}
  {callee : ContractInformation → Execution}

theorem GasTracker.Grown.maxGasVM {t : GasTracker} (h : start.Grown t) (isExternCall : Bool) :
    t.maxGasVM isExternCall = start.maxGasVM isExternCall := by
  unfold GasTracker.maxGasVM
  rw [h.settings, h.maxGas]

theorem gasStepsKeep_grown (h : MeteredFrom env start callee) :
    GasStepsKeep env (start.gasUsed ≤ ·) fun t j => start.Grown t ∧ j.externalCall = true where
  usedGas := h.usedGas
  counted l gas hcharges hl hgas := by
    obtain ⟨hgrown, hexternal⟩ := hl
    refine ⟨?_, hexternal⟩
    rw [hexternal] at hgas ⊢
    have hfrom : start.gasUsed ≤ gas := by
      have hcounted := hgrown.grown
      rcases hcharges with hok | hcombined | hpaid
      · exact hok
      · replace hexternal : l.evaluation.externalCall = true := hexternal
        rw [hcombined, hexternal]
        exact hcounted
      · rw [hpaid]
        unfold GasTracker.paidMaximum
        omega
    refine ⟨hgrown.maxGas, hgrown.settings, hfrom, ?_⟩
    show gas < 2 ^ 64
    have hcap := h.caps true
    rw [hgrown.maxGasVM] at hgas
    omega
  enter t j j' hexternal hj := ⟨hj.1, hexternal⟩
  leave t t' j j' hj hj' := ⟨hj'.1, hj.2⟩

theorem keeps_internalCall_grown (h : MeteredFrom env start callee) (address : Bytes)
    (isDeployment : Bool) :
    Keeps (fun f : Frame σ => OnGas (fun t j => start.Grown t ∧ j = i) f.locals)
      (internalCall host (GasRequest.run env host callee) address isDeployment) := by
  have hsteps := (gasStepsKeep_grown h).framesKeep host
  unfold internalCall
  refine keeps_bind StepsKeep.keeps_locals fun l => ?_
  refine keeps_bind (StepsKeep.keeps_findContract_locals address) fun contract => ?_
  refine keeps_bind (keeps_of_ensures ?_) fun response => ?_
  · apply hsteps.ensures_runFrame (StepsKeep.keeps_terminateEvaluation_inner fun f hf => hf.2)
      (hsteps.keeps_interpret (h.reports contract)) contract
    · intro f inner hf hinner
      refine ⟨?_, ?_⟩
      · rw [newEvaluation_gasTracker hinner]
        exact hf.1
      · rw [newEvaluation_id hinner]
    · exact fun f e hf _ => hf
    · exact fun f f' hf hf' => ⟨hf'.1, hf.2⟩
  · refine keeps_bind (fun f hf => ?_) fun _ => keeps_pure _
    exact keeps_merge_gas response f.locals hf

end

/-! ### One request -/

namespace GasRequest

section

variable {σ : Type} {env : VmEnvironment} {host : Host σ} {l : Locals} {request : GasRequest}

theorem gasUsed_start (hfree : l.freeGas = false) (haccepted : request.accepted l) :
    (request.start l).gasUsed = request.gasUsed := by
  unfold start
  rw [if_pos haccepted]
  have hordinary : l.ctx.gasTracker.countsSpecial l.evaluation.externalCall
      l.evaluation.contractAddress = false := by
    unfold Locals.freeGas Locals.specialContract at hfree
    unfold GasTracker.countsSpecial
    rcases Bool.eq_false_or_eq_true l.evaluation.externalCall with hexternal | hroot
    · simp [hexternal]
    · rw [hroot] at hfree ⊢
      rcases hsettings : l.ctx.gasTracker.settings with _ | special
      · rfl
      · rw [hsettings] at hfree
        replace hfree : special.freeGas = false := hfree
        simp [hfree]
  unfold GasTracker.counted
  rw [hordinary]
  rfl

theorem ensures_setGasUsed_accepted (hcounted : (request.start l).gasUsed < 2 ^ 64)
    (haccepted : request.accepted l) :
    Ensures (fun f : Frame σ => f.locals.ctx.gasTracker = l.ctx.gasTracker ∧ f.locals.id = l.id)
      (method (Method.setGasUsed request.gasUsed))
      (fun _ f => OnGas (fun t j => (request.start l).Grown t ∧ j = l.id) f.locals)
      (fun f => OnGas (fun t j => (request.start l).Grown t ∧ j = l.id) f.locals) := by
  rintro f ⟨htracker, hid⟩
  have hexternal : f.locals.evaluation.externalCall = l.evaluation.externalCall :=
    congrArg FrameId.externalCall hid
  have haddress : f.locals.evaluation.contractAddress = l.evaluation.contractAddress :=
    congrArg FrameId.contractAddress hid
  have hstart : request.start l = l.ctx.gasTracker.counted request.gasUsed
      l.evaluation.externalCall l.evaluation.contractAddress := if_pos haccepted
  unfold method Proc.zoom
  dsimp only
  rw [Method.setGasUsed_eq, htracker, hexternal, haddress, if_neg haccepted.2, ← hstart]
  exact ⟨⟨rfl, rfl, le_refl _, hcounted⟩, hid⟩

theorem ensures_depth {m : Method Unit} (hgas : LeavesGas m) (hid : KeepsId m) :
    Ensures (fun f : Frame σ => f.locals = l) (method m)
      (fun _ f => (m l).1 = .ok () ∧ f.locals.ctx.gasTracker = l.ctx.gasTracker ∧ f.locals.id = l.id)
      (fun f => (m l).1 ≠ .ok () ∧ f.locals.ctx.gasTracker = l.ctx.gasTracker) := by
  rintro f rfl
  have htracker := hgas f.locals
  have hsame := hid f.locals.id f.locals rfl
  show Outcome _ _ ((m f.locals).1, _)
  rcases hrun : (m f.locals).1 with e | u
  · exact ⟨nofun, htracker⟩
  · exact ⟨rfl, htracker, hsame⟩

theorem incrementContractDeployDepth_eq_ok :
    (Method.onContext TransactionContext.incrementContractDeployDepth l).1 = .ok () ↔
      ¬ MAXIMUM_DEPLOYMENT_DEPTH ≤ l.ctx.contractDeployDepth := by
  unfold Method.onContext TransactionContext.incrementContractDeployDepth
  split_ifs with hdepth
  · simp [hdepth]
  · simp [hdepth]

theorem incrementContractUpdates_eq_ok :
    (Method.onContext TransactionContext.incrementContractUpdates l).1 = .ok () ↔
      ¬ MAXIMUM_UPDATE_DEPTH ≤ l.ctx.contractUpdateDepth := by
  unfold Method.onContext TransactionContext.incrementContractUpdates
  split_ifs with hdepth
  · simp [hdepth]
  · simp [hdepth]

variable (host) in
/-- The `try` block of a request whose gas is taken. -/
theorem ensures_attempt (hmetered : MeteredFrom env (request.start l) request.callee)
    (haccepted : request.accepted l) :
    Ensures (fun f : Frame σ => f.locals = l) (request.attempt env host)
      (fun gas f => OnGas (fun t j => (request.start l).Grown t ∧ j = l.id) f.locals ∧
        gas = reportedGas f.locals request.gasUsed)
      (fun f => OnGas (fun t j => (request.start l).Grown t ∧ j = l.id) f.locals) := by
  have hset := ensures_setGasUsed_accepted (σ := σ) hmetered.counted haccepted
  have hread := haccepted.1
  cases request with
  | call gasUsed address callee =>
    rintro f rfl
    refine ensures_bind hset (fun _ => ?_) f ⟨rfl, rfl⟩
    refine ensures_bind StepsKeep.ensures_locals fun l' => ?_
    refine ensures_bind (ensures_of_keeps (keeps_throwIf _ _)) fun _ => ?_
    refine ensures_bind (ensures_of_keeps (keeps_internalCall_grown hmetered address false))
      fun response => ?_
    exact fun f' hf' => ⟨hf', rfl⟩
  | deployFromAddress gasUsed address salt onDeploy =>
    -- The depth is counted before the gas is taken.
    refine ensures_bind StepsKeep.ensures_locals fun start => ?_
    refine ensures_bind ((ensures_depth leavesGas_incrementContractDeployDepth
      (keepsId_onContext _)).mono (fun _ _ h => h.2) fun f hf => ?_) fun _ => ?_
    · have hdepth := mt incrementContractDeployDepth_eq_ok.mpr hf.1
      simp [refused] at hread hdepth
      omega
    refine ensures_bind hset fun _ => ?_
    refine ensures_bind (ensures_of_keeps ?_) fun deployed => ?_
    · refine StepsKeep.keeps_deployContractAtAddress_locals (fun contract => ?_) address salt
      exact (leavesGas_addContractInformation contract).keeps
        (keepsId_addContractInformation contract)
    · refine ensures_bind (ensures_of_keeps (keeps_throwIf _ _)) fun _ => ?_
      refine ensures_bind (ensures_of_keeps
        (keeps_internalCall_grown hmetered deployed.1 true)) fun response => ?_
      refine ensures_bind (ensures_of_keeps fun f hf => hf) fun _ => ?_
      exact fun f' hf' => ⟨hf', rfl⟩
  | updateFromAddress gasUsed =>
    refine ensures_bind ((ensures_depth leavesGas_incrementContractUpdates
      (keepsId_onContext _)).mono (fun _ _ h => h.2) fun f hf => ?_) fun _ => ?_
    · have hdepth := mt incrementContractUpdates_eq_ok.mpr hf.1
      simp [refused] at hread hdepth
      omega
    refine ensures_bind hset fun _ => ?_
    exact ensures_throw _

variable (env host) in
theorem ensures_attempt_not_accepted (hnot : ¬ request.accepted l) :
    Ensures (fun f : Frame σ => f.locals = l) (request.attempt env host) (fun _ _ => False)
      (fun f => f.locals.ctx.gasTracker = l.ctx.gasTracker) := by
  -- Once the request is read, setting its gas throws.
  have hset (hread : request.refused l = false) :
      Ensures (fun f : Frame σ => f.locals.ctx.gasTracker = l.ctx.gasTracker ∧ f.locals.id = l.id)
        (method (Method.setGasUsed request.gasUsed)) (fun _ _ => False)
        (fun f => f.locals.ctx.gasTracker = l.ctx.gasTracker) := by
    have hgas : l.ctx.gasTracker.maxGasVM l.evaluation.externalCall < request.gasUsed := by
      by_contra hless
      exact hnot ⟨hread, hless⟩
    rintro f ⟨htracker, hid⟩
    have hexternal : f.locals.evaluation.externalCall = l.evaluation.externalCall :=
      congrArg FrameId.externalCall hid
    unfold method Proc.zoom
    dsimp only
    rw [Method.setGasUsed_eq, htracker, hexternal, if_pos hgas]
    exact htracker
  cases request with
  | call gasUsed address callee =>
    rintro f rfl
    exact ensures_bind (hset rfl) (fun _ f hf => hf.elim) f ⟨rfl, rfl⟩
  | deployFromAddress gasUsed address salt onDeploy =>
    refine ensures_bind StepsKeep.ensures_locals fun start => ?_
    refine ensures_bind ((ensures_depth leavesGas_incrementContractDeployDepth
      (keepsId_onContext _)).mono (fun _ _ h => h) fun f hf => hf.2) fun _ => ?_
    rintro f ⟨hok, hf⟩
    have hread := incrementContractDeployDepth_eq_ok.mp hok
    exact ensures_bind (hset (by simpa [refused] using hread)) (fun _ f hf => hf.elim) f hf
  | updateFromAddress gasUsed =>
    refine ensures_bind ((ensures_depth leavesGas_incrementContractUpdates
      (keepsId_onContext _)).mono (fun _ _ h => h) fun f hf => hf.2) fun _ => ?_
    rintro f ⟨hok, hf⟩
    have hread := incrementContractUpdates_eq_ok.mp hok
    exact ensures_bind (hset (by simpa [refused] using hread)) (fun _ f hf => hf.elim) f hf

variable {f f' : Frame σ}

/-- A response whose `try` block completes. -/
theorem respond_of_completes {gas : Nat} (hrun : request.attempt env host f = (.ok gas, f')) :
    request.respond env host f = (.ok gas, f') := by
  rw [respond_eq]
  show Proc.catchResult _ _ = _
  rw [hrun]
  rfl

/-- A response whose `try` block throws. -/
theorem respond_of_throws {e : VmError} (hrun : request.attempt env host f = (.error e, f')) :
    ∃ f'', request.respond env host f =
        (.ok (u64 (f'.locals.ctx.gasTracker.gasUsed - request.before f.locals)), f'') ∧
      f''.locals.ctx.gasTracker = f'.locals.ctx.gasTracker := by
  rw [respond_eq]
  show ∃ f'', Proc.catchResult _ _ = _ ∧ _
  rw [hrun]
  exact handler_eq env request f.locals e f'

/-! ### What the caller is told -/

theorem settings_start (request : GasRequest) (l : Locals) :
    (request.start l).settings = l.ctx.gasTracker.settings := by
  unfold start GasTracker.counted
  split_ifs <;> rfl

variable {l' : Locals}

theorem freeGas_of_onGas
    (h : OnGas (fun t j => (request.start l).Grown t ∧ j = l.id) l') : l'.freeGas = l.freeGas := by
  have hsettings : l'.ctx.gasTracker.settings = l.ctx.gasTracker.settings :=
    h.1.settings.trans (settings_start request l)
  have hexternal : l'.evaluation.externalCall = l.evaluation.externalCall :=
    congrArg FrameId.externalCall h.2
  unfold Locals.freeGas Locals.specialContract
  rw [hsettings, hexternal]

/-- The gas that a caller should be told: an unsigned number of 64 bits, the gas that was counted since
the inner frame began, or nothing for a frame with free gas. -/
structure WellFormed (request : GasRequest) (l l' : Locals) (gas : Nat) : Prop where
  fits : gas < 2 ^ 64
  counted : (gas : Int) =
    if l.freeGas then 0 else (l'.ctx.gasTracker.gasUsed : Int) - (request.start l).gasUsed

theorem wellFormed_of_grown (hfree : l.freeGas = false) (haccepted : request.accepted l)
    (h : OnGas (fun t j => (request.start l).Grown t ∧ j = l.id) l') :
    request.WellFormed l l' (u64 (l'.ctx.gasTracker.gasUsed - request.gasUsed)) := by
  have hstart := gasUsed_start hfree haccepted
  have hgrown := h.1.grown
  have hfits := h.1.fits
  refine ⟨u64_lt _, ?_⟩
  simp only [hfree, hstart, Bool.false_eq_true, if_false]
  unfold u64
  omega

theorem wellFormed_zero
    (h : l.freeGas = true ∨ l'.ctx.gasTracker.gasUsed = (request.start l).gasUsed) :
    request.WellFormed l l' 0 := by
  refine ⟨by decide, ?_⟩
  split_ifs with hfree
  · rfl
  · have hcounted := h.resolve_left hfree
    omega

/-- The difference of two counters is written as 0 exactly if there is none. -/
theorem u64_sub_eq_zero_iff {m n : Nat} (hm : m < 2 ^ 64) (hn : n < 2 ^ 64) :
    u64 ((m : Int) - n) = 0 ↔ m = n := by
  unfold u64
  omega

variable (env) (host) in
/-- The `try` block does not end the wrong way: a frame with free gas needs it to complete, unless the
gas it throws with is by chance that of the request; any other frame needs gas it may use. -/
def Tells (f : Frame σ) (request : GasRequest) : Prop :=
  request.refused f.locals = true ∨
    if f.locals.freeGas then
      ∀ e f', request.attempt env host f = (.error e, f') →
        f'.locals.ctx.gasTracker.gasUsed = request.gasUsed
    else
      ¬ f.locals.ctx.gasTracker.maxGasVM f.locals.evaluation.externalCall < request.gasUsed ∨
        request.gasUsed = f.locals.ctx.gasTracker.gasUsed

theorem wellFormed_not_accepted (hnot : ¬ request.accepted l)
    (hcounted : (request.start l).gasUsed < 2 ^ 64) (h : l'.ctx.gasTracker = l.ctx.gasTracker) :
    request.WellFormed l l' (u64 (l'.ctx.gasTracker.gasUsed - request.before l)) ↔
      request.refused l = true ∨ request.gasUsed = l.ctx.gasTracker.gasUsed := by
  have hstart : (request.start l).gasUsed = l'.ctx.gasTracker.gasUsed := by
    unfold start
    rw [if_neg hnot, h]
  have hzero : request.WellFormed l l' (u64 (l'.ctx.gasTracker.gasUsed - request.before l)) ↔
      u64 (l'.ctx.gasTracker.gasUsed - request.before l) = 0 := by
    constructor
    · intro hformed
      have hgas := hformed.counted
      rw [hstart] at hgas
      split_ifs at hgas <;> omega
    · intro heq
      rw [heq]
      exact wellFormed_zero (Or.inr hstart.symm)
  rw [hstart, h] at hcounted
  rw [hzero, before_eq, h]
  split_ifs with hrefused
  · rw [u64_sub_eq_zero_iff hcounted hcounted]
    simp [hrefused]
  · rw [u64_sub_eq_zero_iff hcounted request.gasUsed_lt]
    constructor
    · exact fun hequal => Or.inr hequal.symm
    · rintro (hread | hequal)
      · exact absurd hread hrefused
      · exact hequal.symm

/-- **The gas that a caller is told.**  In every frame and for every request that may run another frame,
a response is built; the gas in it is well-formed if and only if the request is refused for its depth,
or `Tells` holds: the branch for errors is not taken by a frame with free gas. -/
theorem gasTold_iff (f : Frame σ) (request : GasRequest)
    (hmetered : MeteredFrom env (request.start f.locals) request.callee) :
    (∃ gas f', request.respond env host f = (.ok gas, f') ∧
      request.WellFormed f.locals f'.locals gas) ↔ request.Tells env host f := by
  have hunique {gas : Nat} {f' : Frame σ} (hrun : request.respond env host f = (.ok gas, f')) :
      (∃ gas f', request.respond env host f = (.ok gas, f') ∧
        request.WellFormed f.locals f'.locals gas) ↔ request.WellFormed f.locals f'.locals gas := by
    constructor
    · rintro ⟨gas', f'', hrun', hformed⟩
      rw [hrun] at hrun'
      obtain ⟨hgas, rfl⟩ := Prod.mk.inj hrun'
      rwa [Except.ok.inj hgas]
    · exact fun hformed => ⟨gas, f', hrun, hformed⟩
  unfold Tells
  by_cases haccepted : request.accepted f.locals
  · -- The gas is taken, so the tracker only grows.
    have hread : request.refused f.locals = false := haccepted.1
    have hattempt := ensures_attempt host hmetered haccepted f rfl
    rcases hrun : request.attempt env host f with ⟨e | gas, f'⟩
    · rw [hrun] at hattempt
      obtain ⟨f'', hrespond, hsame⟩ := respond_of_throws hrun
      rw [hunique hrespond, before_eq, if_neg (by rw [hread]; exact Bool.false_ne_true)]
      rcases Bool.eq_false_or_eq_true f.locals.freeGas with hfree | hordinary
      · simp only [hread, hfree, if_true, Bool.false_eq_true, false_or]
        constructor
        · rintro hformed e' g heq
          cases heq
          have hzero := hformed.counted
          rw [if_pos hfree, Int.natCast_eq_zero] at hzero
          exact (u64_sub_eq_zero_iff hattempt.1.fits request.gasUsed_lt).mp hzero
        · intro hequal
          have hsame' := hequal e f' rfl
          rw [(u64_sub_eq_zero_iff hattempt.1.fits request.gasUsed_lt).mpr hsame']
          exact wellFormed_zero (Or.inl hfree)
      · simp only [hread, hordinary, Bool.false_eq_true, if_false, false_or]
        have hformed := wellFormed_of_grown hordinary haccepted hattempt
        refine iff_of_true ⟨hformed.fits, ?_⟩ (Or.inl haccepted.2)
        rw [hsame]
        exact hformed.counted
    · rw [hrun] at hattempt
      obtain ⟨hgrown, rfl⟩ := hattempt
      rw [hunique (respond_of_completes hrun)]
      unfold reportedGas
      rw [freeGas_of_onGas hgrown]
      rcases Bool.eq_false_or_eq_true f.locals.freeGas with hfree | hordinary
      · rw [if_pos hfree, if_pos hfree]
        exact iff_of_true (wellFormed_zero (Or.inl hfree)) (Or.inr fun e g heq => by
          cases congrArg Prod.fst heq)
      · simp only [hordinary, Bool.false_eq_true, if_false]
        exact iff_of_true (wellFormed_of_grown hordinary haccepted hgrown)
          (Or.inr (Or.inl haccepted.2))
  · -- The gas is not taken, so the `try` block throws at once.
    have hattempt := ensures_attempt_not_accepted env host haccepted f rfl
    rcases hrun : request.attempt env host f with ⟨e | gas, f'⟩
    · rw [hrun] at hattempt
      obtain ⟨f'', hrespond, hsame⟩ := respond_of_throws hrun
      have htracker : f''.locals.ctx.gasTracker = f.locals.ctx.gasTracker := hsame.trans hattempt
      have hbefore := wellFormed_not_accepted haccepted hmetered.counted htracker
      rw [hunique hrespond, ← hsame, hbefore]
      rcases Bool.eq_false_or_eq_true (request.refused f.locals) with hrefused | hread
      · simp only [hrefused, true_or]
      · have hgas : f.locals.ctx.gasTracker.maxGasVM f.locals.evaluation.externalCall <
            request.gasUsed := by
          by_contra hless
          exact haccepted ⟨hread, hless⟩
        simp only [hread, Bool.false_eq_true, false_or]
        split_ifs
        · constructor
          · rintro hequal e' g heq
            cases heq
            rw [hequal]
            exact congrArg GasTracker.gasUsed hattempt
          · intro hequal
            rw [← hequal e f' rfl]
            exact congrArg GasTracker.gasUsed hattempt
        · exact ⟨Or.inr, fun h => h.resolve_left (not_not_intro hgas)⟩
    · rw [hrun] at hattempt
      exact hattempt.elim

end

/-! ### A root with free gas -/

/-- A VM whose counters cannot be read once it gave up. -/
def unreadEnvironment : VmEnvironment := { plainEnvironment with usedGas := fun _ => none }

/-- A root frame of the contract `[7]`, in a transaction with some settings. -/
def rootFrame (settings : Option SpecialContract) : Frame Unit where
  host := ()
  locals := {
    ctx := newContext (GasTracker.new 20000000000 settings) 0 .empty .empty
    evaluation := {
      contractAddress := [7]
      transactionId := List.replicate 32 1
      blockNumber := 5
      externalCall := false
      revert := none
      result := none
      modifiedStorage := none
      events := .empty
      totalEventSize := 0
      touchedAddresses := JsMap.empty.set [7] true } }

/-- A call after which the VM reports some gas. -/
def callReporting (gasUsed : Nat) : GasRequest := .call 1000 [9] fun _ => .exit ⟨gasUsed, 0, []⟩

/-- An ordinary root is told what its callee used. -/
theorem gasTold_iff_ordinary :
    ∃ gas f', (callReporting 3000).respond unreadEnvironment everywhereHost (rootFrame none) =
        (.ok gas, f') ∧ (callReporting 3000).WellFormed (rootFrame none).locals f'.locals gas := by
  refine (gasTold_iff (rootFrame none) (callReporting 3000) ⟨?_, ?_, ?_, ?_⟩).mpr ?_
  · rintro (_ | _) <;> decide
  · decide
  · exact fun e gas h => nomatch h
  · intro contract
    show 1000 ≤ 3000
    decide
  · exact Or.inr (Or.inl (by decide))

def nowhereHost : Host Unit := { everywhereHost with getContractInformation := fun _ _ => pure none }

/-- A root with free gas calls an address without a contract: it is told of nearly `2 ^ 64` units of
gas. -/
theorem not_gasTold_freeGas :
    MeteredFrom unreadEnvironment ((callReporting 3000).start
        (rootFrame (some (nativeSwapContractSettings [7]))).locals) (callReporting 3000).callee ∧
      ¬ ∃ gas f', (callReporting 3000).respond unreadEnvironment nowhereHost
          (rootFrame (some (nativeSwapContractSettings [7]))) = (.ok gas, f') ∧
        (callReporting 3000).WellFormed
          (rootFrame (some (nativeSwapContractSettings [7]))).locals f'.locals gas := by
  refine ⟨⟨?_, ?_, ?_, ?_⟩, ?_⟩
  · rintro (_ | _) <;> decide
  · decide
  · exact fun e gas h => nomatch h
  · intro contract
    show 0 ≤ 3000
    decide
  · rintro ⟨gas, f', hrun, hformed⟩
    have hgas : ((callReporting 3000).respond unreadEnvironment nowhereHost
        (rootFrame (some (nativeSwapContractSettings [7])))).1 = .ok 18446744073709550616 := by
      decide +kernel
    rw [hrun] at hgas
    have hzero := hformed.counted
    have hfree : (rootFrame (some (nativeSwapContractSettings [7]))).locals.freeGas = true := by
      decide +kernel
    rw [if_pos hfree, Except.ok.inj hgas] at hzero
    exact absurd hzero (by decide)

end GasRequest

end OpnetNode
