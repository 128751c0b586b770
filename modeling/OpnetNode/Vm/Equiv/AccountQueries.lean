import OpnetNode.Vm.Equiv.BoughtGas
import OpnetNode.Vm.Equiv.HostCalls

/-!
# What contracts are told of other accounts

`accountType` should say of an address whether there is a contract, and `accountType` and `call` whether
the transaction has accessed the address before (`AddressAnswer.Right`).  A frame only knows the
addresses it asked for itself, and one boolean stands for both answers, so that this is so exactly
under the conditions `AddressAnswer.Meets`: `accountAnswers_iff`.
-/

namespace OpnetNode

open Proc EvalM Observed

/-! ### Answers -/

/-- Whether a frame asked for the type of an account. -/
def asked (accesses : List AddressAccess) (frame : Nat) (address : Bytes) : Bool :=
  accesses.any fun access => access.frame = frame && access.address = address && access.isQuery

theorem asked_append (accesses : List AddressAccess) (access : AddressAccess) (frame : Nat)
    (address : Bytes) :
    asked (accesses ++ [access]) frame address =
      (asked accesses frame address ||
        (access.frame = frame && access.address = address && access.isQuery)) := by
  unfold asked
  rw [List.any_append]
  simp

theorem asked_eq_false {accesses : List AddressAccess} {frame : Nat}
    (h : ∀ access ∈ accesses, access.frame ≠ frame) (address : Bytes) :
    asked accesses frame address = false := by
  unfold asked
  rw [List.any_eq_false]
  intro access haccess
  simp [h access haccess]

namespace AddressAnswer

/-- The transaction accessed the address before. -/
def accessed (answer : AddressAnswer) : Bool :=
  answer.earlier.any fun access => access.address = answer.address

/-- The frame asked for the address before. -/
def asked (answer : AddressAnswer) : Bool :=
  OpnetNode.asked answer.earlier answer.frame answer.address

/-- The answer is what the history of the transaction says. -/
def Right (committed : Bytes → Bool) (answer : AddressAnswer) : Prop :=
  answer.isWarm = answer.accessed ∧
    ∀ isContract, answer.question = .accountType isContract →
      isContract = (committed answer.address || answer.deployed)

/-- When the answer is right.  Asked for the type of an account: a frame that asks for its own contract
gets it right if that is one and was accessed; a committed contract is known to be accessed only
if this frame asked for it; any other address must be new to the transaction and no contract.
Called: the call must complete unless the address is new, and warmth is known as above. -/
def Meets (committed : Bytes → Bool) (answer : AddressAnswer) : Prop :=
  match answer.question with
  | .accountType _ =>
    if answer.address = answer.self then
      answer.accessed = true ∧ (committed answer.address || answer.deployed) = true
    else if committed answer.address then answer.accessed = true → answer.asked = true
    else answer.deployed = false ∧ answer.accessed = false
  | .call completed =>
    if completed = false then answer.accessed = false
    else if answer.address = answer.self then answer.accessed = true
    else answer.accessed = true → committed answer.address = true ∧ answer.asked = true

variable {answer : AddressAnswer}

theorem accessed_of_asked (h : answer.asked = true) : answer.accessed = true := by
  unfold asked OpnetNode.asked at h
  unfold accessed
  rw [List.any_eq_true] at h ⊢
  obtain ⟨access, haccess, hasked⟩ := h
  refine ⟨access, haccess, ?_⟩
  simp only [Bool.and_eq_true] at hasked
  exact hasked.1.2

/-- What a frame knows of an address: that it is its own, or a committed contract it asked for. -/
def known (committed : Bytes → Bool) (answer : AddressAnswer) : Bool :=
  answer.address = answer.self || (committed answer.address && answer.asked)

/-- The answers of the code. -/
def Told (committed : Bytes → Bool) (answer : AddressAnswer) : Prop :=
  match answer.question with
  | .accountType isContract =>
    answer.isWarm = answer.known committed ∧
      isContract = (answer.address = answer.self || committed answer.address)
  | .call completed => answer.isWarm = (completed && answer.known committed)

/-- The answers of the code are right exactly under the conditions. -/
theorem Told.right_iff {committed : Bytes → Bool}
    (h : answer.Told committed) : answer.Right committed ↔ answer.Meets committed := by
  have hasked : answer.asked = true → answer.accessed = true := accessed_of_asked
  unfold Told known at h
  unfold Right Meets
  rcases hquestion : answer.question with isContract | completed
  · rw [hquestion] at h
    obtain ⟨hwarm, hcontract⟩ := h
    have hright : (∀ c, AddressQuestion.accountType isContract = .accountType c →
        c = (committed answer.address || answer.deployed)) ↔
        isContract = (committed answer.address || answer.deployed) := by
      constructor
      · exact fun h => h isContract rfl
      · rintro h c heq
        rwa [← AddressQuestion.accountType.inj heq]
    rw [hright, hwarm, hcontract]
    -- what is left is about truth values
    generalize answer.accessed = accessed at hasked ⊢
    generalize answer.asked = asked at hasked ⊢
    generalize committed answer.address = stored
    generalize answer.deployed = deployed
    by_cases hself : answer.address = answer.self
    · simp only [hself, if_true, decide_true]
      cases accessed <;> cases stored <;> simp
    · simp only [hself, if_false, decide_false]
      revert hasked
      cases accessed <;> cases asked <;> cases stored <;> cases deployed <;> simp
  · rw [hquestion] at h
    replace h : answer.isWarm = (completed && (decide (answer.address = answer.self) ||
      (committed answer.address && answer.asked))) := h
    have hright : (answer.isWarm = answer.accessed ∧ ∀ c, AddressQuestion.call completed =
        .accountType c → c = (committed answer.address || answer.deployed)) ↔
        answer.isWarm = answer.accessed := and_iff_left fun _ heq => nomatch heq
    rw [hright, h]
    generalize answer.accessed = accessed at hasked ⊢
    generalize answer.asked = asked at hasked ⊢
    generalize committed answer.address = stored
    by_cases hself : answer.address = answer.self
    · simp only [hself, if_true]
      cases completed <;> cases accessed <;> simp
    · simp only [hself, if_false]
      revert hasked
      cases completed <;> cases accessed <;> cases asked <;> cases stored <;> simp

end AddressAnswer

/-! ### What methods leave -/

def LeavesTouched {α : Type} (m : Method α) : Prop :=
  ∀ l, (m l).2.evaluation.touchedAddresses = l.evaluation.touchedAddresses

theorem leavesTouched_of_keeps {α : Type} {m : Method α}
    (h : ∀ t, Keeps (fun l => l.evaluation.touchedAddresses = t) m) : LeavesTouched m :=
  fun l => h l.evaluation.touchedAddresses l rfl

theorem leavesTouched_onContext (f : TransactionContext → Except VmError TransactionContext) :
    LeavesTouched (Method.onContext f) := by
  intro l
  unfold Method.onContext
  cases f l.ctx with
  | ok | error => rfl

theorem leavesTouched_setGasUsed (gas : Nat) : LeavesTouched (Method.setGasUsed gas) := fun l =>
  leavesTouched_onContext _ l

theorem leavesTouched_addToStorage (p v : U256) : LeavesTouched (Method.addToStorage p v) := by
  intro l
  unfold Method.addToStorage
  split_ifs <;> rfl

theorem leavesTouched_enforceEventLimits (event : NetEvent) :
    LeavesTouched (Method.enforceEventLimits event) := by
  intro l
  unfold Method.enforceEventLimits
  split_ifs <;> rfl

theorem leavesTouched_emitEvent (event : NetEvent) : LeavesTouched (Method.emitEvent event) := by
  refine leavesTouched_of_keeps fun t => keeps_bind (fun l hl => ?_) fun _ _ hl => hl
  exact (leavesTouched_enforceEventLimits event l).trans hl

theorem leavesTouched_merge (inner : ContractEvaluation) : LeavesTouched (Method.merge inner) := by
  refine leavesTouched_of_keeps fun t => ?_
  have hevents : Keeps (fun l : Locals => l.evaluation.touchedAddresses = t)
      (Method.mergeEvents inner.events) := by
    refine keeps_forEach (fun entry => keeps_forEach (fun event => ?_) _) _
    refine keeps_bind (fun l hl => ?_) fun _ _ hl => hl
    exact (leavesTouched_enforceEventLimits event l).trans hl
  unfold Method.merge
  refine keeps_bind keeps_get fun caller => ?_
  refine keeps_bind (fun l hl => (leavesTouched_onContext _ l).trans hl) fun _ => ?_
  cases inner.revert with
  | some error => exact fun _ hl => hl
  | none =>
    cases inner.modifiedStorage with
    | some storage => exact keeps_bind (fun _ hl => hl) fun _ => hevents
    | none => exact hevents

theorem leavesTouched_addContractInformation (contract : ContractInformation) :
    LeavesTouched (Method.addContractInformation contract) := by
  intro l
  unfold Method.addContractInformation
  split_ifs <;> rfl

theorem newEvaluation_touchedAddresses {params : FrameParameters} {ctx : TransactionContext}
    {l : Locals} (h : newEvaluation params ctx = .ok l) :
    l.evaluation.touchedAddresses = JsMap.empty.set l.evaluation.contractAddress true := by
  obtain ⟨depth, rfl⟩ := newEvaluation_eq_ok h
  rfl

/-! ### Every frame -/

/-- The host knows which contracts are committed, and reading it does not change that. -/
structure KnowsContracts {σ : Type} (host : Host σ)
    (getMLDSAPublicKey : Bytes → Proc σ VmError (Option MLDSAPublicKey)) (J : σ → Prop)
    (committed : Bytes → Bool) : Prop where
  answer : ∀ a s, J s → (host.isContract a s).1 = .ok (committed a)
  isContract : ∀ a, Keeps J (host.isContract a)
  getStorage : ∀ a p n, Keeps J (host.getStorage a p n)
  getStorageMultiple : ∀ l n, Keeps J (host.getStorageMultiple l n)
  getContractInformation : ∀ a n, Keeps J (host.getContractInformation a n)
  isCached : ∀ a, Keeps J (host.isCached a)
  contractExistsBelow : ∀ a n, Keeps J (host.contractExistsBelow a n)
  getMLDSAPublicKey : ∀ a, Keeps J (getMLDSAPublicKey a)

/-- All answers so far are those that the code gives. -/
def AllTold {σ : Type} (committed : Bytes → Bool) (s : Observed σ) : Prop :=
  ∀ answer ∈ s.answers, answer.Told committed

/-- A frame with a number, in a transaction whose answers so far are known.  It has touched its own
contract and what it asked for; what older frames asked for is what it was in `snapshot`. -/
structure AccountsInv {σ : Type} (J : σ → Prop) (committed : Bytes → Bool)
    (i : Bool × List AddressAccess) (n : Nat) (f : Frame (Observed σ)) : Prop where
  host : J f.host.host
  answers : AllTold committed f.host
  number : n < f.host.frames
  frames : ∀ access ∈ f.host.accesses, access.frame < f.host.frames
  older : ∀ k < n, ∀ x, asked f.host.accesses k x = asked i.2 k x
  touched : ∀ x, f.locals.evaluation.touchedAddresses.get x =
    if x = f.locals.id.contractAddress then some true
    else if asked f.host.accesses n x then some (committed x) else none
  inner : i.1 = true → f.locals.id.externalCall = true

section

variable {σ α : Type} {env : VmEnvironment} {host : Host σ}
  {getMLDSAPublicKey : Bytes → Proc σ VmError (Option MLDSAPublicKey)} {J : σ → Prop}
  {committed : Bytes → Bool} {i : Bool × List AddressAccess} {n : Nat}

theorem keeps_method_accounts {m : Method α} (htouched : LeavesTouched m) (hid : KeepsId m) :
    Keeps (AccountsInv J committed i n) (method m : EvalM (Observed σ) α) := by
  intro f hf
  have hsame : (m f.locals).2.id = f.locals.id := hid f.locals.id f.locals rfl
  refine ⟨hf.host, hf.answers, hf.number, hf.frames, hf.older, fun x => ?_, fun h => ?_⟩
  · show (m f.locals).2.evaluation.touchedAddresses.get x =
      if x = (m f.locals).2.id.contractAddress then _ else _
    rw [htouched f.locals, hsame]
    exact hf.touched x
  · exact (congrArg FrameId.externalCall hsame).trans (hf.inner h)

theorem keeps_onPart_accounts {m : Proc σ VmError α} (h : Keeps J m) :
    Keeps (AccountsInv J committed i n) (onHost (onPart m)) := fun f hf =>
  ⟨h f.host.host hf.host, hf.answers, hf.number, hf.frames, hf.older, hf.touched, hf.inner⟩

theorem stepsKeep_accounts (hhost : KnowsContracts host getMLDSAPublicKey J committed)
    (i : Bool × List AddressAccess) (n : Nat) :
    StepsKeep env host.observed (fun _ => True) (AccountsInv J committed i n) where
  usedGas _ _ _ := trivial
  setGasUsed gas f _ hf :=
    keeps_method_accounts (leavesTouched_setGasUsed gas) (keepsId_setGasUsed gas) f hf
  setRevert error := keeps_method_accounts (fun _ => rfl) (keepsId_setRevert error)
  note action := keeps_method_accounts (fun _ => rfl) (keepsId_note action)
  setStorage p v := keeps_method_accounts (fun _ => rfl) (keepsId_setStorage p v)
  addToStorage p v :=
    keeps_method_accounts (leavesTouched_addToStorage p v) (keepsId_addToStorage p v)
  preloadedStorage _ := keeps_method_accounts (fun _ => rfl) fun _ _ hl => hl
  emitEvent event := keeps_method_accounts (leavesTouched_emitEvent event) (keepsId_emitEvent event)
  incrementContractDeployDepth :=
    keeps_method_accounts (leavesTouched_onContext _) (keepsId_onContext _)
  incrementContractUpdates :=
    keeps_method_accounts (leavesTouched_onContext _) (keepsId_onContext _)
  addContractInformation contract := keeps_method_accounts
    (leavesTouched_addContractInformation contract) (keepsId_addContractInformation contract)
  setResult result := keeps_method_accounts (fun _ => rfl) (keepsId_setResult result)
  merge inner := keeps_method_accounts (leavesTouched_merge inner) (keepsId_merge inner)
  getStorage a p n := keeps_onPart_accounts (hhost.getStorage a p n)
  getStorageMultiple l n := keeps_onPart_accounts (hhost.getStorageMultiple l n)
  isContract a := keeps_onPart_accounts (hhost.isContract a)
  getContractInformation a n := keeps_onPart_accounts (hhost.getContractInformation a n)
  isCached a := keeps_onPart_accounts (hhost.isCached a)
  contractExistsBelow a n := keeps_onPart_accounts (hhost.contractExistsBelow a n)

variable {f : Frame (Observed σ)}

theorem AccountsInv.older_append (h : AccountsInv J committed i n f)
    (address : Bytes) (isQuery : Bool) :
    ∀ k < n, ∀ x, asked (f.host.accesses ++ [⟨n, address, isQuery⟩]) k x = asked i.2 k x := by
  intro k hk x
  rw [asked_append, h.older k hk x]
  have hne : n ≠ k := by omega
  simp [hne]

theorem AccountsInv.frames_append (h : AccountsInv J committed i n f)
    (address : Bytes) (isQuery : Bool) :
    ∀ access ∈ f.host.accesses ++ [(⟨n, address, isQuery⟩ : AddressAccess)],
      access.frame < f.host.frames := by
  intro access haccess
  rcases List.mem_append.mp haccess with hold | hnew
  · exact h.frames access hold
  · rw [List.mem_singleton.mp hnew]
    exact h.number

variable {answer : AddressAnswer}

theorem allTold_append {answers : List AddressAnswer}
    (h : ∀ a ∈ answers, a.Told committed) (hanswer : answer.Told committed) :
    ∀ a ∈ answers ++ [answer], a.Told committed := by
  intro a ha
  rcases List.mem_append.mp ha with hold | hnew
  · exact h a hold
  · rw [List.mem_singleton.mp hnew]
    exact hanswer

/-- `getAccountType` answers with what was touched, or with what the host knows, and touches it. -/
theorem getAccountType_eq (address : Bytes) (f : Frame σ) :
    getAccountType host address f =
      (f.locals.evaluation.touchedAddresses.get address).elim
        (bindResult (fun isContract => do
          method (Method.touch address isContract)
          return (isContract, false)) (onHost (host.isContract address) f))
        fun isContract => (.ok (isContract, isContract), f) := by
  unfold getAccountType
  show bindResult _ (.ok f.locals, f) = _
  rw [bindResult_ok]
  cases f.locals.evaluation.touchedAddresses.get address with
  | some | none => rfl

theorem AccountsInv.query (h : AccountsInv J committed i n f)
    {address : Bytes} {s : σ} (hs : J s) {touched : JsMap Bytes Bool}
    (hother : ∀ x, x ≠ address → touched.get x = f.locals.evaluation.touchedAddresses.get x)
    (hthis : touched.get address =
      if address = f.locals.id.contractAddress then some true else some (committed address))
    (hanswer : answer.Told committed) :
    AccountsInv J committed i n {
      host := { f.host with
        host := s
        accesses := f.host.accesses ++ [⟨n, address, true⟩]
        answers := f.host.answers ++ [answer] }
      locals := { f.locals with
        evaluation := { f.locals.evaluation with touchedAddresses := touched } } } := by
  refine ⟨hs, allTold_append h.answers hanswer, h.number, h.frames_append address true,
    h.older_append address true, fun x => ?_, h.inner⟩
  show touched.get x = if x = f.locals.id.contractAddress then some true else if asked _ n x then
    some (committed x) else none
  rw [asked_append]
  by_cases hx : x = address
  · rw [hx, hthis]
    simp
  · have hne : address ≠ x := fun heq => hx heq.symm
    rw [hother x hx, h.touched x]
    simp [hne]

theorem keeps_observeAccountType (hhost : KnowsContracts host getMLDSAPublicKey J committed)
    (address : Bytes) :
    Keeps (AccountsInv J committed i n) (observeAccountType host n address) := by
  intro f hf
  have htouched := hf.touched address
  show AccountsInv J committed i n (bindResult _ _).2
  rw [getAccountType_eq]
  dsimp only
  -- the contract itself is known, an address that was asked for is cached, and the host is asked else
  by_cases hself : address = f.locals.id.contractAddress
  · rw [if_pos hself] at htouched
    rw [htouched]
    refine hf.query hf.host (fun _ _ => rfl) ?_ ⟨?_, ?_⟩
    · rw [htouched, if_pos hself]
    · exact (congrArg (· || _) (decide_eq_true hself)).symm
    · exact (congrArg (· || _) (decide_eq_true hself)).symm
  · rw [if_neg hself] at htouched
    rcases Bool.eq_false_or_eq_true (asked f.host.accesses n address) with hbefore | hnew
    · rw [hbefore, if_pos rfl] at htouched
      rw [htouched]
      refine hf.query hf.host (fun _ _ => rfl) ?_ ⟨?_, ?_⟩
      · rw [htouched, if_neg hself]
      · show committed address = (decide (address = f.locals.id.contractAddress) ||
          (committed address && asked f.host.accesses n address))
        rw [decide_eq_false hself, hbefore, Bool.false_or, Bool.and_true]
      · show committed address = (decide (address = f.locals.id.contractAddress) || committed address)
        rw [decide_eq_false hself, Bool.false_or]
    · rw [hnew, if_neg Bool.false_ne_true] at htouched
      rw [htouched]
      have hanswer := hhost.answer address f.host.host hf.host
      have hkept := hhost.isContract address f.host.host hf.host
      show AccountsInv J committed i n (bindResult _ (bindResult _
        ((host.isContract address f.host.host).1, _))).2
      rw [hanswer]
      refine hf.query hkept (fun x hx => ?_) ?_ ⟨?_, ?_⟩
      · exact JsMap.get_set_of_ne _ _ hx
      · rw [JsMap.get_set_self, if_neg hself]
      · show false = (decide (address = f.locals.id.contractAddress) ||
          (committed address && asked f.host.accesses n address))
        rw [decide_eq_false hself, hnew, Bool.false_or, Bool.and_false]
      · show committed address = (decide (address = f.locals.id.contractAddress) || committed address)
        rw [decide_eq_false hself, Bool.false_or]

theorem ensures_true {τ β : Type} {P : τ → Prop} (m : Proc τ VmError β) :
    Ensures P m (fun _ _ => True) (fun _ => True) := by
  intro t _
  rcases m t with ⟨e | b, t'⟩
  · exact trivial
  · exact trivial

section

variable {τ : Type} {hostOf : Host τ}
  {run : ContractInformation → FrameParameters → EvalM τ ContractEvaluation}

theorem ensures_internalCall_isWarm (touched : JsMap Bytes Bool) (address : Bytes)
    (isDeployment : Bool) :
    Ensures (fun g : Frame τ => g.locals.evaluation.touchedAddresses = touched)
      (internalCall hostOf run address isDeployment)
      (fun response _ => response.1 = (touched.get address).getD false) (fun _ => True) := by
  unfold internalCall
  have hread : Ensures (fun g : Frame τ => g.locals.evaluation.touchedAddresses = touched) locals
      (fun l _ => l.evaluation.touchedAddresses = touched) (fun _ => True) := fun g hg => hg
  refine ensures_bind hread fun l => ?_
  intro g hl
  refine ensures_bind (P := fun _ => True) (ensures_true _) (fun contract => ?_) g trivial
  refine ensures_bind (ensures_true _) fun response => ?_
  refine ensures_bind (ensures_true _) fun _ => ?_
  intro g' _
  show (l.evaluation.touchedAddresses.get address).getD false = _
  rw [hl]

variable (hostOf run) in
theorem ensures_callAttempt_isWarm (touched : JsMap Bytes Bool) (gasUsed : Nat) (address : Bytes) :
    Ensures (fun g : Frame τ => g.locals.evaluation.touchedAddresses = touched)
      (callAttempt hostOf run gasUsed address)
      (fun response _ => response.isWarm = (touched.get address).getD false) (fun _ => True) := by
  unfold callAttempt
  have hset : Keeps (fun g : Frame τ => g.locals.evaluation.touchedAddresses = touched)
      (method (Method.setGasUsed gasUsed)) := fun g hg =>
    (leavesTouched_setGasUsed gasUsed g.locals).trans hg
  refine ensures_bind ((ensures_of_keeps hset).mono (fun _ _ h => h) fun _ _ => trivial) fun _ => ?_
  refine ensures_bind StepsKeep.ensures_locals fun l => ?_
  refine ensures_bind ((ensures_of_keeps (keeps_throwIf _ _)).mono (fun _ _ h => h)
    fun _ _ => trivial) fun _ => ?_
  refine ensures_bind (ensures_internalCall_isWarm touched address false) fun response => ?_
  exact fun g hg => hg

variable (env hostOf run) in
/-- A call answers that the address is warm if its `try` block completes and the frame touched it as a
contract. -/
theorem call_isWarm (gasUsed : Nat) (address : Bytes) (f : Frame τ) :
    ∃ response f', call env hostOf run gasUsed address f = (.ok response, f') ∧
      response.isWarm = ((callAttempt hostOf run gasUsed address f).1.isOk &&
        (f.locals.evaluation.touchedAddresses.get address).getD false) := by
  have hattempt := ensures_callAttempt_isWarm hostOf run
    f.locals.evaluation.touchedAddresses gasUsed address f rfl
  have hcall : call env hostOf run gasUsed address f = catchResult (fun e => do
      revertWith env e
      let l ← locals
      return ⟨false, u64 (l.ctx.gasTracker.gasUsed - gasUsed), 1, []⟩)
      (callAttempt hostOf run gasUsed address f) := rfl
  rw [hcall]
  rcases hrun : callAttempt hostOf run gasUsed address f with ⟨e | response, f'⟩
  · exact ⟨_, _, rfl, rfl⟩
  · rw [hrun] at hattempt
    exact ⟨response, f', rfl, hattempt⟩

end

theorem keeps_observeCall (hhost : KnowsContracts host getMLDSAPublicKey J committed)
    {run : ContractInformation → FrameParameters → EvalM (Observed σ) ContractEvaluation}
    (hrun : StepsKeep.RunKeeps (AccountsInv J committed i n) StepsKeep.CallStackFits false run)
    (gasUsed : Nat) (address : Bytes) :
    Keeps (AccountsInv J committed i n) (observeCall env host run n gasUsed address) := by
  intro f hf
  -- The access is noted first; it is no query.
  have hstart : AccountsInv J committed i n { f with
      host := { f.host with accesses := f.host.accesses ++ [⟨n, address, false⟩] } } := by
    refine ⟨hf.host, hf.answers, hf.number, hf.frames_append address false,
      hf.older_append address false, fun x => ?_, hf.inner⟩
    show f.locals.evaluation.touchedAddresses.get x = if x = f.locals.id.contractAddress then _ else
      if asked _ n x then _ else _
    rw [hf.touched x, asked_append, Bool.and_false, Bool.or_false]
  have hsteps : StepsKeep env host.observed (fun _ => True) (AccountsInv J committed i n) :=
    stepsKeep_accounts hhost i n
  have hcalls : Keeps (AccountsInv J committed i n) (call env host.observed run gasUsed address) :=
    hsteps.keeps_call hrun trivial address
  have hkept := hcalls _ hstart
  obtain ⟨response, f', hcall, hwarm⟩ := call_isWarm env host.observed run gasUsed address { f with
      host := { f.host with accesses := f.host.accesses ++ [⟨n, address, false⟩] } }
  show AccountsInv J committed i n (bindResult _ (call env host.observed run gasUsed address { f with
    host := { f.host with accesses := f.host.accesses ++ [⟨n, address, false⟩] } })).2
  rw [hcall] at hkept ⊢
  refine ⟨hkept.host, allTold_append hkept.answers ?_, hkept.number, hkept.frames, hkept.older,
    hkept.touched, hkept.inner⟩
  show response.isWarm = (_ && (decide (address = f.locals.id.contractAddress) ||
    (committed address && asked f.host.accesses n address)))
  rw [hwarm]
  congr 1
  show (f.locals.evaluation.touchedAddresses.get address).getD false = _
  rw [hf.touched address]
  split_ifs with hself hasked
  · rw [decide_eq_true hself, Bool.true_or]
    rfl
  · rw [decide_eq_false hself, hasked, Bool.false_or, Bool.and_true]
    rfl
  · rw [decide_eq_false hself, Bool.eq_false_iff.mpr hasked, Bool.false_or, Bool.and_false]
    rfl

variable {f : Frame (Observed σ)}

theorem AccountsInv.enter (h : AccountsInv J committed i n f)
    {byCall : Bool} {params : FrameParameters} {inner : Locals} (hexternal : params.externalCall = true)
    (hstart : newEvaluation params f.locals.ctx = .ok inner) :
    AccountsInv J committed (true, f.host.accesses) f.host.frames
      { host := f.host.enter byCall, locals := inner } := by
  have hnew (x : Bytes) : asked f.host.accesses f.host.frames x = false :=
    asked_eq_false (fun access haccess => (h.frames access haccess).ne) x
  refine ⟨h.host, h.answers, Nat.lt_succ_self _, fun access haccess => ?_, fun _ _ _ => rfl,
    fun x => ?_, fun _ => ?_⟩
  · exact Nat.lt_succ_of_lt (h.frames access haccess)
  · show inner.evaluation.touchedAddresses.get x = if x = inner.evaluation.contractAddress then _
      else if asked f.host.accesses f.host.frames x then _ else _
    rw [newEvaluation_touchedAddresses hstart, JsMap.get_set, hnew]
    rfl
  · exact (congrArg FrameId.externalCall (newEvaluation_id hstart)).trans hexternal

theorem AccountsInv.leave {f' : Frame (Observed σ)} (h : AccountsInv J committed i n f)
    (h' : AccountsInv J committed (true, f.host.accesses) f.host.frames f') :
    AccountsInv J committed i n
      { host := f'.host, locals := { f.locals with ctx := f'.locals.ctx } } := by
  have hnumber := h.number
  have hnumber' := h'.number
  refine ⟨h'.host, h'.answers, hnumber.trans hnumber', h'.frames, fun k hk x => ?_, fun x => ?_,
    h.inner⟩
  · rw [h'.older k (by omega) x]
    exact h.older k hk x
  · show f.locals.evaluation.touchedAddresses.get x = if x = f.locals.id.contractAddress then _
      else if asked f'.host.accesses n x then _ else _
    rw [h'.older n hnumber x]
    exact h.touched x

theorem keeps_loadMLDSA_accounts (hhost : KnowsContracts host getMLDSAPublicKey J committed)
    (level : Option MLDSASecurityLevel) (address : Bytes) :
    Keeps (AccountsInv J committed i n) (onHost (loadMLDSA getMLDSAPublicKey level address)) := by
  intro f hf
  have hload : Keeps (fun s : Observed σ => J s.host ∧ s.answers = f.host.answers ∧
      s.frames = f.host.frames ∧ s.accesses = f.host.accesses)
      (loadMLDSA getMLDSAPublicKey level address) := by
    unfold loadMLDSA
    refine keeps_bind keeps_get fun s => keeps_ite (keeps_pure _) ?_
    refine keeps_bind (fun _ hs => hs) fun _ => ?_
    cases level with
    | none => exact keeps_pure _
    | some level =>
      refine keeps_ite (keeps_pure _) (keeps_bind (keeps_bind (fun _ hs => hs) fun _ => ?_)
        fun _ => keeps_pure _)
      exact fun s hs => ⟨hhost.getMLDSAPublicKey address s.host hs.1, hs.2⟩
  obtain ⟨hJ, hanswers, hframes, haccesses⟩ := hload f.host ⟨hf.host, rfl, rfl, rfl⟩
  refine ⟨hJ, ?_, ?_, ?_, fun k hk x => ?_, fun x => ?_, hf.inner⟩
  · show ∀ answer ∈ (loadMLDSA getMLDSAPublicKey level address f.host).2.answers, _
    rw [hanswers]
    exact hf.answers
  · show n < (loadMLDSA getMLDSAPublicKey level address f.host).2.frames
    rw [hframes]
    exact hf.number
  · show ∀ access ∈ (loadMLDSA getMLDSAPublicKey level address f.host).2.accesses,
      access.frame < (loadMLDSA getMLDSAPublicKey level address f.host).2.frames
    rw [hframes, haccesses]
    exact hf.frames
  · show asked (loadMLDSA getMLDSAPublicKey level address f.host).2.accesses k x = _
    rw [haccesses]
    exact hf.older k hk x
  · show f.locals.evaluation.touchedAddresses.get x = if x = f.locals.id.contractAddress then _
      else if asked (loadMLDSA getMLDSAPublicKey level address f.host).2.accesses n x then _ else _
    rw [haccesses]
    exact hf.touched x

theorem observeKeeps_accounts (hhost : KnowsContracts host getMLDSAPublicKey J committed) :
    ObserveKeeps env host getMLDSAPublicKey (AccountsInv J committed) where
  steps i n := stepsKeep_accounts hhost i n
  loadMLDSA _ _ level address := keeps_loadMLDSA_accounts hhost level address
  accountType _ _ address := keeps_observeAccountType hhost address
  call _ _ _ gasUsed address hrun := keeps_observeCall hhost hrun gasUsed address
  enter _ _ _ f _ _ _ hexternal hf hstart :=
    ⟨(true, f.host.accesses), StepsKeep.keeps_terminateEvaluation_inner fun _ hf => hf.inner rfl,
      hf.enter hexternal hstart, fun _ hf' => hf.leave hf'⟩
  refused _ _ _ hf := ⟨hf.host, hf.answers, Nat.lt_succ_of_lt hf.number,
    fun access haccess => Nat.lt_succ_of_lt (hf.frames access haccess), hf.older, hf.touched, hf.inner⟩

theorem stepsKeep_allTold :
    StepsKeep env host.observed (fun _ => True)
      (fun f : Frame (Observed σ) => AllTold committed f.host) where
  usedGas _ _ _ := trivial
  setGasUsed _ _ _ hf := hf
  setRevert _ _ hf := hf
  note _ _ hf := hf
  setStorage _ _ _ hf := hf
  addToStorage _ _ _ hf := hf
  preloadedStorage _ _ hf := hf
  emitEvent _ _ hf := hf
  incrementContractDeployDepth _ hf := hf
  incrementContractUpdates _ hf := hf
  addContractInformation _ _ hf := hf
  setResult _ _ hf := hf
  merge _ _ hf := hf
  getStorage _ _ _ _ hf := hf
  getStorageMultiple _ _ _ hf := hf
  isContract _ _ hf := hf
  getContractInformation _ _ _ hf := hf
  isCached _ _ hf := hf
  contractExistsBelow _ _ _ hf := hf

/-- Whatever a transaction does, its contracts get the answers that the code gives. -/
theorem allTold_observeRoot (hhost : KnowsContracts host getMLDSAPublicKey J committed)
    (accessed : List Bytes) (ctx : TransactionContext) (calls : HostCalls)
    (contract : ContractInformation) (params : FrameParameters) {s : σ} (hs : J s) :
    AllTold committed
      (observeRoot env host getMLDSAPublicKey accessed ctx calls contract params s).2 := by
  have hkeep : ObserveKeeps env host getMLDSAPublicKey (AccountsInv J committed) :=
    observeKeeps_accounts hhost
  have hsteps : StepsKeep env host.observed (fun _ => True)
      (fun f => AllTold committed f.host) := stepsKeep_allTold
  have hend : Keeps (fun f : Frame (Observed σ) => AllTold committed f.host)
      (terminateEvaluation env host.observed) := by
    refine StepsKeep.keeps_terminateEvaluation (fun f _ hf => ?_) fun _ _ hf => hf
    exact hsteps.keeps_calculateGasCostStore (fun _ _ hf => hf) f hf
  have hstart : ∀ l, newEvaluation params ctx = .ok l →
      AccountsInv J committed (false, (Observed.start accessed s).accesses) 0
        { host := Observed.start accessed s, locals := l } := by
    intro l hl
    refine ⟨hs, (fun answer hanswer => nomatch hanswer), Nat.zero_lt_one, fun access haccess => ?_,
      fun k hk => absurd hk (Nat.not_lt_zero k), fun x => ?_, nofun⟩
    · obtain ⟨address, -, rfl⟩ := List.mem_map.mp haccess
      exact Nat.zero_lt_one
    · have hasked : asked (Observed.start accessed s).accesses 0 x = false := by
        unfold asked
        rw [List.any_eq_false]
        intro access haccess
        obtain ⟨address, -, rfl⟩ := List.mem_map.mp haccess
        simp
      show l.evaluation.touchedAddresses.get x = if x = l.evaluation.contractAddress then _
        else if asked (Observed.start accessed s).accesses 0 x then _ else _
      rw [newEvaluation_touchedAddresses hl, JsMap.get_set, hasked]
      rfl
  have hrun := hkeep.outcome_observeRoot hsteps (fun f hf => hf.answers) hend hstart calls contract
  unfold observeRoot runRoot at hrun ⊢
  cases hl : newEvaluation params ctx with
  | error e => exact fun answer hanswer => nomatch hanswer
  | ok l =>
    rw [hl] at hrun
    exact hrun

end

/-! ### Transactions of the VM -/

namespace VMManager

variable {env : VmEnvironment} {T : RustMerkleTree}

/-- Whether a contract is committed. -/
def committed (db : VMStorage) (address : Bytes) : Bool :=
  db.contracts.any fun contract => contract.contractPublicKey = address

/-- The contracts of the database have the address strings of their keys. -/
def Addressed (env : VmEnvironment) (db : VMStorage) : Prop :=
  ∀ contract ∈ db.contracts, contract.contractAddress = env.p2op contract.contractPublicKey

/-- The database, and a cache of what it has for address strings. -/
structure ContractsKnown (db : VMStorage) (vm : VMManager) : Prop where
  database : vm.database = db
  cached : ∀ contractAddress address,
    vm.contractAddressCache.get (.p2op contractAddress) = some address →
      db.getContractAddressAt contractAddress = some address

theorem readClosed_contractsKnown (db : VMStorage) : ReadClosed (ContractsKnown db) where
  lookups _ _ h := ⟨h.database, h.cached⟩
  contractAddressCache vm reference address h hfound := by
    refine ⟨h.database, fun contractAddress a hget => ?_⟩
    rw [JsMap.get_set] at hget
    split_ifs at hget with heq
    · cases hget
      rw [← heq, h.database] at hfound
      exact hfound
    · exact h.cached contractAddress a hget
  contractCache _ _ _ h _ := ⟨h.database, h.cached⟩
  pointerCache _ _ h := ⟨h.database, h.cached⟩

variable {db : VMStorage}

theorem getContractAddressAt_p2op (hp2op : Function.Injective env.p2op)
    (hdb : Addressed env db) (address : Bytes) :
    db.getContractAddressAt (env.p2op address) = some address ↔ committed db address = true := by
  unfold committed VMStorage.getContractAddressAt
  rw [List.any_eq_true]
  constructor
  · intro hfind
    obtain ⟨contract, hcontract, hkey⟩ := Option.map_eq_some_iff.mp hfind
    exact ⟨contract, List.mem_of_find?_eq_some hcontract, by simpa using hkey⟩
  · rintro ⟨contract, hcontract, hkey⟩
    have hkey' : contract.contractPublicKey = address := by simpa using hkey
    have hsome : (db.contracts.find? fun c => c.contractAddress = env.p2op address).isSome := by
      rw [List.find?_isSome]
      exact ⟨contract, hcontract, by simp [hdb contract hcontract, hkey']⟩
    obtain ⟨found, hfound⟩ := Option.isSome_iff_exists.mp hsome
    have hstring : found.contractAddress = env.p2op address := by
      simpa using List.find?_some hfound
    rw [hdb found (List.mem_of_find?_eq_some hfound)] at hstring
    rw [hfound, Option.map_some, hp2op hstring]

/-- `isContract` knows the committed contracts. -/
theorem knowsContracts_vmHost (hp2op : Function.Injective env.p2op)
    (hdb : Addressed env db) (keys : Bytes → Option MLDSAPublicKey) :
    KnowsContracts (vmHost env T) (fun address => pure (keys address)) (ContractsKnown db)
      (committed db) where
  answer a vm h := by
    have hanswer : ((vm.contractAddressCache.get (.p2op (env.p2op a))).or
        (findReference vm.database (.p2op (env.p2op a)))) = db.getContractAddressAt (env.p2op a) := by
      rw [h.database]
      rcases hcached : vm.contractAddressCache.get (.p2op (env.p2op a)) with _ | address
      · rfl
      · exact (h.cached _ _ hcached).symm
    show (VMManager.isContract env a vm).1 = _
    rw [isContract_eq, hanswer]
    show Except.ok (decide (_ = some a)) = _
    congr 1
    rw [Bool.eq_iff_iff, decide_eq_true_iff]
    exact getContractAddressAt_p2op hp2op hdb a
  isContract := keeps_isContract (readClosed_contractsKnown db).toContractReadClosed env
  getStorage := keeps_getStorage (readClosed_contractsKnown db) T
  getStorageMultiple := keeps_getStorageMultiple (readClosed_contractsKnown db) T
  getContractInformation :=
    keeps_getContractInformation (readClosed_contractsKnown db).toContractReadClosed
  isCached := keeps_isCached (readClosed_contractsKnown db).toContractReadClosed
  contractExistsBelow :=
    keeps_contractExistsBelow (readClosed_contractsKnown db).toContractReadClosed
  getMLDSAPublicKey _ _ h := h

end VMManager

open VMManager

/-- **Account queries.**  In every transaction, whatever its frames ask and call, an answer of
`accountType` or `call` says what the history of the transaction says if and only if it meets the
conditions. -/
theorem accountAnswers_iff (env : VmEnvironment) (T : RustMerkleTree)
    (hp2op : Function.Injective env.p2op) (vm : VMManager) (hdb : Addressed env vm.database)
    (hvm : ContractsKnown vm.database vm) (keys : Bytes → Option MLDSAPublicKey)
    (accessed : List Bytes) (ctx : TransactionContext) (calls : HostCalls)
    (contract : ContractInformation) (params : FrameParameters) :
    ∀ answer ∈ (observeRoot env (vmHost env T) (fun address => pure (keys address)) accessed ctx
      calls contract params vm).2.answers,
      answer.Right (committed vm.database) ↔ answer.Meets (committed vm.database) := by
  intro answer hanswer
  exact (allTold_observeRoot (knowsContracts_vmHost hp2op hdb keys) accessed ctx calls contract
    params hvm answer hanswer).right_iff

/-! ### An account that is asked for twice -/

/-- An emulator whose database has the contract `[7]`. -/
def knownVm : VMManager := VMManager.create true ⟨[contractOf [1] 3], [], [3, 4]⟩

/-- The answers that a call of `[7]` gets. -/
def answersTo (calls : HostCalls) : List AddressAnswer :=
  (observeRoot plainEnvironment (vmHost plainEnvironment RustMerkleTree.multisetTree)
    (fun _ => pure none) [[7]] (newContext (GasTracker.new 20000000000 none) 0 .empty .empty) calls
    (contractOf [1] 3) (rootParams [7]) knownVm).2.answers

/-- A contract that asks for an account, twice. -/
def asksTwice (address : Bytes) : HostCalls :=
  .accountType address fun _ _ => .accountType address fun _ _ => .exit ⟨0, 0, []⟩

theorem accountAnswers_iff_known :
    answersTo (asksTwice [7]) ≠ [] ∧ ∀ answer ∈ answersTo (asksTwice [7]),
      (answer.Right (committed knownVm.database) ↔ answer.Meets (committed knownVm.database)) := by
  refine ⟨by decide +kernel, ?_⟩
  refine accountAnswers_iff plainEnvironment RustMerkleTree.multisetTree (fun a b h => ?_) knownVm ?_
    ⟨rfl, fun _ _ h => nomatch h⟩ (fun _ => none) [[7]] _ (asksTwice [7]) _ _
  · exact (List.cons.inj h).2
  · intro contract hcontract
    obtain rfl := List.mem_singleton.mp hcontract
    rfl

/-- An account without a contract is reported cold when it is asked for again. -/
theorem accountAnswers_cold_again :
    ¬ ∀ answer ∈ answersTo (asksTwice [9]), answer.Right (committed knownVm.database) := by
  intro h
  have hagain : (⟨0, [7], [9], .accountType false, false, false,
      [⟨0, [7], false⟩, ⟨0, [9], true⟩]⟩ : AddressAnswer) ∈ answersTo (asksTwice [9]) := by
    decide +kernel
  have hwarm := (h _ hagain).1
  revert hwarm
  decide

end OpnetNode
