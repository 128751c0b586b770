import OpnetNode.Vm.Equiv.HostCalls

/-!
# The limits of a transaction

Every check of a limit is made in one frame: the size of the events, the counter of ML-DSA lookups, the
length of the call stack.  `withinLimits_observeRoot` says that they hold over the whole call tree:
the counter and the stack are shared by all frames and never shrink, and events are counted again
wherever they are taken over.
-/

namespace OpnetNode

open Proc EvalM Observed

/-! ### The events of a frame -/

def eventLength (events : List NetEvent) : Nat := (events.map fun event => event.data.length).sum

def totalEventLength (events : JsMap Bytes (List NetEvent)) : Nat :=
  (events.entries.map fun entry => eventLength entry.2).sum

theorem eventLength_append (events : List NetEvent) (event : NetEvent) :
    eventLength (events ++ [event]) = eventLength events + event.data.length := by
  simp [eventLength]

theorem sum_setEntries {κ β : Type} [DecidableEq κ] (g : β → Nat) (k : κ) (v : β)
    (m : List (κ × β)) :
    ((JsMap.setEntries k v m).map fun entry => g entry.2).sum + (JsMap.getEntries k m).elim 0 g =
      (m.map fun entry => g entry.2).sum + g v := by
  induction m with
  | nil => simp [JsMap.setEntries, JsMap.getEntries]
  | cons entry m ih =>
    rw [JsMap.setEntries, JsMap.getEntries]
    by_cases hkey : entry.1 = k
    · rw [if_pos hkey, if_pos hkey]
      simp only [List.map_cons, List.sum_cons, Option.elim_some]
      omega
    · rw [if_neg hkey, if_neg hkey]
      simp only [List.map_cons, List.sum_cons]
      omega

theorem totalEventLength_pushEvent (address : Bytes) (event : NetEvent) (ev : ContractEvaluation) :
    totalEventLength (Method.pushEvent address event ev).events =
      totalEventLength ev.events + event.data.length := by
  have hsum := sum_setEntries eventLength address
    ((ev.events.get address).getD [] ++ [event]) ev.events.entries
  rw [eventLength_append] at hsum
  unfold Method.pushEvent totalEventLength
  show ((JsMap.setEntries address _ ev.events.entries).map fun entry => eventLength entry.2).sum = _
  have hold : (JsMap.getEntries address ev.events.entries).elim 0 eventLength =
      eventLength ((ev.events.get address).getD []) := by
    show _ = eventLength ((JsMap.getEntries address ev.events.entries).getD [])
    cases JsMap.getEntries address ev.events.entries with
    | none | some => rfl
  omega

/-- A frame with a call stack, whose events were counted and fit. -/
structure EventsFit (stack : List Bytes) (l : Locals) : Prop where
  callStack : l.ctx.callStack = stack
  counted : totalEventLength l.evaluation.events ≤ l.evaluation.totalEventSize
  fits : l.evaluation.totalEventSize ≤ MAXIMUM_TOTAL_EVENT_LENGTH

section

variable {stack : List Bytes}

theorem keeps_onContext_fit {f : TransactionContext → Except VmError TransactionContext}
    (h : ∀ ctx ctx', f ctx = .ok ctx' → ctx'.callStack = ctx.callStack) :
    Keeps (EventsFit stack) (Method.onContext f) := by
  intro l hl
  unfold Method.onContext
  cases hf : f l.ctx with
  | ok ctx => exact ⟨(h _ _ hf).trans hl.callStack, hl.counted, hl.fits⟩
  | error e => exact hl

/-- A change of the frame that leaves its events. -/
theorem keeps_onEvaluation_fit {f : ContractEvaluation → ContractEvaluation}
    (h : ∀ ev, (f ev).events = ev.events ∧ (f ev).totalEventSize = ev.totalEventSize) :
    Keeps (EventsFit stack) (Method.onEvaluation f) := by
  intro l hl
  obtain ⟨hevents, hsize⟩ := h l.evaluation
  refine ⟨hl.callStack, ?_, ?_⟩
  · show totalEventLength (f l.evaluation).events ≤ (f l.evaluation).totalEventSize
    rw [hevents, hsize]
    exact hl.counted
  · show (f l.evaluation).totalEventSize ≤ MAXIMUM_TOTAL_EVENT_LENGTH
    rw [hsize]
    exact hl.fits

theorem keeps_setGasUsed_fit (gas : Nat) : Keeps (EventsFit stack) (Method.setGasUsed gas) := by
  intro l hl
  rw [Method.setGasUsed_eq]
  split_ifs
  · exact hl
  · exact ⟨hl.callStack, hl.counted, hl.fits⟩

/-- An event is counted before it is pushed. -/
theorem keeps_enforceEventLimits_push (event : NetEvent) {m : Method Unit} (address : Locals → Bytes)
    (h : ∀ l, (m l).2.ctx.callStack = l.ctx.callStack ∧
      (m l).2.evaluation = Method.pushEvent (address l) event l.evaluation) :
    Keeps (EventsFit stack) (do
      Method.enforceEventLimits event
      m) := by
  intro l hl
  show EventsFit stack (bindResult (fun _ => m) _).2
  unfold Method.enforceEventLimits
  split_ifs with hlength htype htotal
  · exact hl
  · exact hl
  · exact hl
  · obtain ⟨hstack, hpushed⟩ := h { l with evaluation := { l.evaluation with
      totalEventSize := l.evaluation.totalEventSize + event.data.length } }
    have hcounted := hl.counted
    refine ⟨hstack.trans hl.callStack, ?_, ?_⟩
    · rw [bindResult_ok, hpushed, totalEventLength_pushEvent]
      show totalEventLength l.evaluation.events + event.data.length ≤
        l.evaluation.totalEventSize + event.data.length
      omega
    · rw [bindResult_ok, hpushed]
      show l.evaluation.totalEventSize + event.data.length ≤ MAXIMUM_TOTAL_EVENT_LENGTH
      omega

theorem keeps_emitEvent_fit (event : NetEvent) :
    Keeps (EventsFit stack) (Method.emitEvent event) :=
  keeps_enforceEventLimits_push event (fun l => l.evaluation.contractAddress) fun _ => ⟨rfl, rfl⟩

theorem keeps_mergeEvents_fit (events : JsMap Bytes (List NetEvent)) :
    Keeps (EventsFit stack) (Method.mergeEvents events) := by
  refine keeps_forEach (fun entry => keeps_forEach (fun event => ?_) _) _
  exact keeps_enforceEventLimits_push event (fun _ => entry.1) fun _ => ⟨rfl, rfl⟩

theorem keeps_merge_fit (inner : ContractEvaluation) :
    Keeps (EventsFit stack) (Method.merge inner) := by
  unfold Method.merge
  refine keeps_bind keeps_get fun caller => ?_
  refine keeps_bind (keeps_onContext_fit fun ctx ctx' h => ?_) fun _ => ?_
  · obtain ⟨tracker, -, hret⟩ := exceptBind_eq_ok h
    cases hret
    rfl
  · cases inner.revert with
    | some error => exact keeps_onEvaluation_fit fun _ => ⟨rfl, rfl⟩
    | none =>
      cases inner.modifiedStorage with
      | some storage =>
        exact keeps_bind (keeps_onEvaluation_fit fun _ => ⟨rfl, rfl⟩) fun _ =>
          keeps_mergeEvents_fit inner.events
      | none => exact keeps_mergeEvents_fit inner.events

theorem keeps_setResult_fit (result : Bytes) :
    Keeps (EventsFit stack) (Method.setResult result) := by
  refine keeps_bind (keeps_onEvaluation_fit fun _ => ⟨rfl, rfl⟩) fun _ => ?_
  exact keeps_bind keeps_get fun _ => keeps_onEvaluation_fit fun _ => ⟨rfl, rfl⟩

theorem keeps_addToStorage_fit (p v : U256) :
    Keeps (EventsFit stack) (Method.addToStorage p v) := by
  intro l hl
  unfold Method.addToStorage
  split_ifs
  · exact hl
  · exact ⟨hl.callStack, hl.counted, hl.fits⟩

theorem keeps_addContractInformation_fit (contract : ContractInformation) :
    Keeps (EventsFit stack) (Method.addContractInformation contract) := by
  intro l hl
  unfold Method.addContractInformation
  split_ifs
  · exact hl
  · exact ⟨hl.callStack, hl.counted, hl.fits⟩

theorem keeps_incrementContractDeployDepth_fit :
    Keeps (EventsFit stack) (Method.onContext TransactionContext.incrementContractDeployDepth) := by
  refine keeps_onContext_fit fun ctx ctx' h => ?_
  obtain ⟨-, rfl⟩ := TransactionContext.incrementContractDeployDepth_eq_ok h
  rfl

theorem keeps_incrementContractUpdates_fit :
    Keeps (EventsFit stack) (Method.onContext TransactionContext.incrementContractUpdates) := by
  refine keeps_onContext_fit fun ctx ctx' h => ?_
  obtain ⟨-, rfl⟩ := TransactionContext.incrementContractUpdates_eq_ok h
  rfl

end

/-- A new frame has no events, and its contract on top of the call stack. -/
theorem newEvaluation_fit {params : FrameParameters} {ctx : TransactionContext} {l : Locals}
    (h : newEvaluation params ctx = .ok l) :
    EventsFit (ctx.callStack ++ [params.contractAddress]) l := by
  obtain ⟨depth, rfl⟩ := newEvaluation_eq_ok h
  exact ⟨rfl, le_refl _, Nat.zero_le _⟩

/-! ### Every frame -/

/-- The counters of a transaction: every lookup was counted, and every frame entered by a call is on
the call stack, on top of the outermost frame. -/
structure CountersFit {σ : Type} (stack : List Bytes) (s : Observed σ) : Prop where
  counted : s.mldsaLookups.length ≤ s.mldsaLoadCounter
  loads : s.mldsaLoadCounter ≤ MAX_LOADS
  stacked : s.entered < stack.length
  entered : s.entered < MAXIMUM_CALL_DEPTH

section

variable {σ α : Type} {env : VmEnvironment} {host : Host σ} {stack : List Bytes}
  {getMLDSAPublicKey : Bytes → Proc σ VmError (Option MLDSAPublicKey)}

theorem keeps_onPart_fit (m : Proc σ VmError α) : Keeps (CountersFit stack) (onPart m) :=
  fun _ hs => ⟨hs.counted, hs.loads, hs.stacked, hs.entered⟩

theorem keeps_loadMLDSA_fit (level : Option MLDSASecurityLevel) (address : Bytes) :
    Keeps (CountersFit stack) (loadMLDSA getMLDSAPublicKey level address) := by
  intro s hs
  show CountersFit stack ((if MAX_LOADS ≤ s.mldsaLoadCounter then _ else _ :
    Proc (Observed σ) VmError (Option Bytes)) s).2
  have hcounted := hs.counted
  split_ifs with hloads
  · exact hs
  · -- The lookup comes after it was counted.
    have hincremented : CountersFit stack { s with mldsaLoadCounter := s.mldsaLoadCounter + 1 } := by
      refine ⟨?_, ?_, hs.stacked, hs.entered⟩
      · show s.mldsaLookups.length ≤ s.mldsaLoadCounter + 1
        omega
      · show s.mldsaLoadCounter + 1 ≤ MAX_LOADS
        omega
    cases level with
    | none => exact hincremented
    | some level =>
      show CountersFit stack ((if level ∉ ENABLED_LEVELS then _ else _ :
        Proc (Observed σ) VmError (Option Bytes)) { s with
          mldsaLoadCounter := s.mldsaLoadCounter + 1 }).2
      by_cases hlevel : level ∉ ENABLED_LEVELS
      · rw [if_pos hlevel]
        exact hincremented
      · rw [if_neg hlevel]
        have hlookup : CountersFit stack (lookupMLDSA getMLDSAPublicKey address { s with
            mldsaLoadCounter := s.mldsaLoadCounter + 1 }).2 := by
          refine keeps_onPart_fit _ _ ⟨?_, hincremented.loads, hs.stacked, hs.entered⟩
          show (s.mldsaLookups ++ [address]).length ≤ s.mldsaLoadCounter + 1
          rw [List.length_append]
          exact Nat.add_le_add_right hcounted 1
        exact keeps_bind_from hlookup fun _ => keeps_pure _

/-- The limits hold so far; an inner frame is an external call. -/
def LimitsInv (isInner : Bool) (_ : Nat) (f : Frame (Observed σ)) : Prop :=
  (∃ stack, EventsFit stack f.locals ∧ CountersFit stack f.host) ∧
    (isInner = true → f.locals.id.externalCall = true)

variable {isInner : Bool} {n : Nat}

theorem keeps_method_limits {m : Method α}
    (h : ∀ stack, Keeps (EventsFit stack) m) (hid : KeepsId m) :
    Keeps (LimitsInv isInner n) (method m : EvalM (Observed σ) α) := by
  rintro f ⟨⟨stack, hfit, hcounters⟩, hinner⟩
  refine ⟨⟨stack, h stack f.locals hfit, hcounters⟩, fun h => ?_⟩
  exact (congrArg FrameId.externalCall (hid f.locals.id f.locals rfl)).trans (hinner h)

theorem keeps_onHost_limits {m : Proc (Observed σ) VmError α}
    (h : ∀ stack, Keeps (CountersFit stack) m) :
    Keeps (LimitsInv isInner n) (onHost m) := by
  rintro f ⟨⟨stack, hfit, hcounters⟩, hinner⟩
  exact ⟨⟨stack, hfit, h stack f.host hcounters⟩, hinner⟩

theorem stepsKeep_limits (isInner : Bool) (n : Nat) :
    StepsKeep env host.observed (fun _ => True) (LimitsInv (σ := σ) isInner n) where
  usedGas _ _ _ := trivial
  setGasUsed gas f _ hf := keeps_method_limits (fun _ => keeps_setGasUsed_fit gas)
    (keepsId_setGasUsed gas) f hf
  setRevert error := keeps_method_limits (fun _ => keeps_onEvaluation_fit fun _ => ⟨rfl, rfl⟩)
    (keepsId_setRevert error)
  note action := keeps_method_limits (fun _ _ hl => ⟨hl.callStack, hl.counted, hl.fits⟩)
    (keepsId_note action)
  setStorage p v := keeps_method_limits (fun _ _ hl => ⟨hl.callStack, hl.counted, hl.fits⟩)
    (keepsId_setStorage p v)
  addToStorage p v := keeps_method_limits (fun _ => keeps_addToStorage_fit p v)
    (keepsId_addToStorage p v)
  preloadedStorage _ :=
    keeps_method_limits (fun _ _ hl => ⟨hl.callStack, hl.counted, hl.fits⟩) fun _ _ hl => hl
  emitEvent event := keeps_method_limits (fun _ => keeps_emitEvent_fit event)
    (keepsId_emitEvent event)
  incrementContractDeployDepth := keeps_method_limits
    (fun _ => keeps_incrementContractDeployDepth_fit) (keepsId_onContext _)
  incrementContractUpdates := keeps_method_limits
    (fun _ => keeps_incrementContractUpdates_fit) (keepsId_onContext _)
  addContractInformation contract := keeps_method_limits
    (fun _ => keeps_addContractInformation_fit contract) (keepsId_addContractInformation contract)
  setResult result := keeps_method_limits (fun _ => keeps_setResult_fit result)
    (keepsId_setResult result)
  merge inner := keeps_method_limits (fun _ => keeps_merge_fit inner) (keepsId_merge inner)
  getStorage _ _ _ := keeps_onHost_limits fun _ => keeps_onPart_fit _
  getStorageMultiple _ _ := keeps_onHost_limits fun _ => keeps_onPart_fit _
  isContract _ := keeps_onHost_limits fun _ => keeps_onPart_fit _
  getContractInformation _ _ := keeps_onHost_limits fun _ => keeps_onPart_fit _
  isCached _ := keeps_onHost_limits fun _ => keeps_onPart_fit _
  contractExistsBelow _ _ := keeps_onHost_limits fun _ => keeps_onPart_fit _

theorem keeps_noteAccess_limits (access : AddressAccess) :
    Keeps (LimitsInv isInner n) (onHost (noteAccess access) : EvalM (Observed σ) Unit) :=
  keeps_onHost_limits fun _ _ hs => ⟨hs.counted, hs.loads, hs.stacked, hs.entered⟩

theorem keeps_noteAnswer_limits (answer : AddressAnswer) :
    Keeps (LimitsInv isInner n) (onHost (noteAnswer answer) : EvalM (Observed σ) Unit) :=
  keeps_onHost_limits fun _ _ hs => ⟨hs.counted, hs.loads, hs.stacked, hs.entered⟩

theorem observeKeeps_limits :
    ObserveKeeps env host getMLDSAPublicKey (LimitsInv (σ := σ)) where
  steps := stepsKeep_limits
  loadMLDSA _ _ level address := keeps_onHost_limits fun _ => keeps_loadMLDSA_fit level address
  accountType isInner n address := by
    unfold observeAccountType
    refine keeps_bind (fun _ hf => hf) fun f => ?_
    refine keeps_bind (keeps_noteAccess_limits _) fun _ => ?_
    have hsteps : StepsKeep env host.observed (fun _ => True) (LimitsInv isInner n) :=
      stepsKeep_limits isInner n
    refine keeps_bind (hsteps.keeps_getAccountType (fun a b => ?_) address) fun type => ?_
    · exact keeps_method_limits (fun _ => keeps_onEvaluation_fit fun _ => ⟨rfl, rfl⟩)
        (keepsId_onEvaluation fun _ => rfl)
    exact keeps_bind (keeps_noteAnswer_limits _) fun _ => keeps_pure _
  call isInner n run gasUsed address hrun := by
    unfold observeCall
    refine keeps_bind (fun _ hf => hf) fun f => ?_
    refine keeps_bind (keeps_noteAccess_limits _) fun _ => ?_
    refine keeps_bind (fun _ hf => hf) fun start => ?_
    refine keeps_bind ((stepsKeep_limits isInner n).keeps_call hrun trivial address)
      fun response => ?_
    exact keeps_bind (keeps_noteAnswer_limits _) fun _ => keeps_pure _
  enter isInner n byCall f params inner hfits hexternal hf hstart := by
    obtain ⟨⟨stack, hfit, hcounters⟩, hinner⟩ := hf
    have hstacked := hcounters.stacked
    have hentered := hcounters.entered
    have hlength := congrArg List.length hfit.callStack
    refine ⟨true, StepsKeep.keeps_terminateEvaluation_inner fun _ hf => hf.2 rfl,
      ⟨⟨_, newEvaluation_fit hstart, hcounters.counted, hcounters.loads, ?_, ?_⟩, fun _ => ?_⟩, ?_⟩
    · show (if byCall then f.host.entered + 1 else f.host.entered) < _
      rw [List.length_append, List.length_singleton]
      split_ifs <;> omega
    · -- a call was refused if the call stack was full
      show (if byCall then f.host.entered + 1 else f.host.entered) < _
      split_ifs with hcall
      · have hroom : f.locals.ctx.callStack.length < MAXIMUM_CALL_DEPTH := hfits hcall
        omega
      · exact hentered
    · exact (congrArg FrameId.externalCall (newEvaluation_id hstart)).trans hexternal
    · rintro f' ⟨⟨stack', hfit', hcounters'⟩, -⟩
      exact ⟨⟨stack', ⟨hfit'.callStack, hfit.counted, hfit.fits⟩, hcounters'⟩, hinner⟩
  refused isInner n f hf := by
    obtain ⟨⟨stack, hfit, hcounters⟩, hinner⟩ := hf
    exact ⟨⟨stack, hfit, hcounters.counted, hcounters.loads, hcounters.stacked, hcounters.entered⟩,
      hinner⟩

/-- What a transaction that ended has done. -/
structure WithinLimits (l : Locals) (s : Observed σ) : Prop where
  events : totalEventLength l.getEvaluationResult.events ≤ MAXIMUM_TOTAL_EVENT_LENGTH
  mldsaLookups : s.mldsaLookups.length ≤ MAX_LOADS
  entered : s.entered ≤ MAXIMUM_CALL_DEPTH

theorem withinLimits_of_inv {l : Locals} {s : Observed σ}
    (h : LimitsInv false 0 { host := s, locals := l }) : WithinLimits l s := by
  obtain ⟨⟨stack, hfit, hcounters⟩, -⟩ := h
  refine ⟨?_, hcounters.counted.trans hcounters.loads, hcounters.entered.le⟩
  unfold Locals.getEvaluationResult
  dsimp only
  split_ifs
  · exact Nat.zero_le _
  · exact hfit.counted.trans hfit.fits

end

/-- **The limits of a transaction.**  Whatever the contracts of a call tree do and the host answers,
the events of the result, the ML-DSA keys that were looked up and the frames that were entered by
calls are within their limits. -/
theorem withinLimits_observeRoot {σ : Type} (env : VmEnvironment) (host : Host σ)
    (getMLDSAPublicKey : Bytes → Proc σ VmError (Option MLDSAPublicKey))
    (accessed : List Bytes) (ctx : TransactionContext) (calls : HostCalls)
    (contract : ContractInformation) (params : FrameParameters) (s : σ) :
    Outcome WithinLimits (fun _ => True)
      (observeRoot env host getMLDSAPublicKey accessed ctx calls contract params s) := by
  have hsteps : ObserveKeeps env host getMLDSAPublicKey LimitsInv := observeKeeps_limits
  refine Outcome.mono (hsteps.outcome_observeRoot (hsteps.steps false 0) (fun _ hf => hf) ?_
    (fun l hl => ?_) calls contract) (fun l t h => withinLimits_of_inv h) fun _ _ => trivial
  · refine StepsKeep.keeps_terminateEvaluation (fun f _ hf => ?_)
      fun c => keeps_onHost_limits fun _ => keeps_onPart_fit _
    refine (hsteps.steps false 0).keeps_calculateGasCostStore (fun total => ?_) f hf
    exact keeps_method_limits (fun _ _ hl => ⟨hl.callStack, hl.counted, hl.fits⟩) fun _ _ hl => hl
  · have hfit := newEvaluation_fit hl
    refine ⟨⟨_, hfit, Nat.zero_le _, Nat.zero_le _, ?_, Nat.succ_pos _⟩, nofun⟩
    rw [List.length_append]
    exact Nat.succ_pos _

end OpnetNode
