import OpnetNode.Vm.Equiv.Atomicity
import OpnetNode.Vm.Equiv.BlockReads
import OpnetNode.Vm.Equiv.GasTracker

/-!
# The gas of stored slots

At the end of a transaction `calculateGasCostStore` charges the modified slots of all contracts.
`ChargesBySlot` is what it is for: each slot is charged by the value it had before the transaction.
The code reads that value at the address of the root contract, whatever contract the slot belongs to,
and asks for the price of an update before it looks at a slot.  `chargesBySlot_iff` says exactly when
the totals come out right all the same.
-/

namespace OpnetNode

open Proc EvalM VMManager

/-- The charge of a slot that had the value `before`. -/
def slotCharge (env : VmEnvironment) (before : Option U256) (value : U256) : Nat :=
  match before with
  | none => env.NEW_STORAGE_SLOT_GAS_COST
  | some old => if old = value then 0 else env.UPDATED_STORAGE_SLOT_GAS_COST

/-- The charges of slots of the contract at an address. -/
def slotCharges (env : VmEnvironment) (read : Bytes → U256 → Option U256) (a : Bytes)
    (slots : List (U256 × U256)) : List Nat :=
  slots.map fun slot => slotCharge env (read a slot.1) slot.2

/-- The charges of the slots of the contracts that are `counted`, in order. -/
def storageCharges (env : VmEnvironment) (read : Bytes → U256 → Option U256)
    (counted : Bytes → Bool) (contracts : List (Bytes × JsMap U256 U256)) : List Nat :=
  (contracts.filter fun contract => counted contract.1).flatMap fun contract =>
    slotCharges env read contract.1 contract.2.entries

/-- Charges that the loop of the source goes through: before each slot the price of an update is
left, and after it the charge. -/
def Affordable (maxGas update : Nat) : Nat → List Nat → Prop
  | _, [] => True
  | gasUsed, charge :: charges =>
    gasUsed + update ≤ maxGas ∧ gasUsed + charge ≤ maxGas ∧
      Affordable maxGas update (gasUsed + charge) charges

theorem affordable_append (maxGas update gasUsed : Nat) (charges charges' : List Nat) :
    Affordable maxGas update gasUsed (charges ++ charges') ↔
      Affordable maxGas update gasUsed charges ∧
        Affordable maxGas update (gasUsed + charges.sum) charges' := by
  induction charges generalizing gasUsed with
  | nil => simp [Affordable]
  | cons charge charges ih => simp [Affordable, ih, and_assoc, Nat.add_assoc]

namespace Locals

/-- Whether the slots of a contract are charged to special gas. -/
def chargesSpecial (l : Locals) (a : Bytes) : Bool :=
  l.specialContract.any fun special => special.freeGas && special.address = a

def modifiedSlots (l : Locals) : List (Bytes × JsMap U256 U256) :=
  (l.evaluation.modifiedStorage.getD .empty).entries

/-- The charges to the gas of the transaction, by the values that `read` finds. -/
def ordinaryCharges (env : VmEnvironment) (read : Bytes → U256 → Option U256) (l : Locals) :
    List Nat :=
  storageCharges env read (fun a => !l.chargesSpecial a) l.modifiedSlots

def specialCharges (env : VmEnvironment) (read : Bytes → U256 → Option U256) (l : Locals) :
    List Nat :=
  storageCharges env read l.chargesSpecial l.modifiedSlots

/-- Charges fit in the gas that is left. -/
def Fits (l : Locals) (charges : List Nat) : Prop :=
  l.ctx.gasTracker.gasUsed + charges.sum ≤ l.ctx.gasTracker.maxGas

/-- The loop goes through the charges with the gas that is left. -/
def Affords (env : VmEnvironment) (l : Locals) (charges : List Nat) : Prop :=
  Affordable l.ctx.gasTracker.maxGas env.UPDATED_STORAGE_SLOT_GAS_COST l.ctx.gasTracker.gasUsed
    charges

/-- The transaction after its slots were charged. -/
def charged (l : Locals) (gas specialGas : Nat) : Locals :=
  { l with
    ctx := { l.ctx with
      gasTracker := l.ctx.gasTracker.setFinalGasUsed (l.ctx.gasTracker.gasUsed + gas)
        (l.ctx.gasTracker.specialGasUsed + specialGas) } }

/-- Every slot read at the address of the root contract. -/
def readAtRoot (l : Locals) (read : Bytes → U256 → Option U256) : Bytes → U256 → Option U256 :=
  fun _ => read l.evaluation.contractAddress

/-- When slots are charged as they should be: the loop goes through the charges read at the root
contract and they sum up to the right ones, which fit; or it does not, and the right ones do not
fit. -/
def ChargesAgree (env : VmEnvironment) (read : Bytes → U256 → Option U256) (l : Locals) : Prop :=
  (l.Fits (l.ordinaryCharges env read) ∧
    l.Affords env (l.ordinaryCharges env (l.readAtRoot read)) ∧
    (l.ordinaryCharges env (l.readAtRoot read)).sum = (l.ordinaryCharges env read).sum ∧
    (l.specialCharges env (l.readAtRoot read)).sum = (l.specialCharges env read).sum) ∨
  (¬ l.Fits (l.ordinaryCharges env read) ∧
    ¬ l.Affords env (l.ordinaryCharges env (l.readAtRoot read)))

end Locals

/-- Storage is charged by slot: the gas grows by the sum of the charges, each slot read where it
belongs, or the transaction runs out of gas if that sum does not fit. -/
structure ChargesBySlot {σ : Type} (env : VmEnvironment) (read : Bytes → U256 → Option U256)
    (l : Locals) (r : Except VmError Unit × Frame σ) : Prop where
  charged : l.Fits (l.ordinaryCharges env read) → r.1 = .ok () ∧
    r.2.locals = l.charged (l.ordinaryCharges env read).sum (l.specialCharges env read).sum
  outOfGas : ¬ l.Fits (l.ordinaryCharges env read) → r.1 = .error .outOfGas

/-! ### Procedures that leave the evaluation as it is -/

section

variable {σ α β : Type} {J : σ → Prop} {l : Locals}

/-- The procedure returns `x` and leaves the evaluation as it is. -/
def ReadsOnly (J : σ → Prop) (l : Locals) (m : EvalM σ α) (x : α) : Prop :=
  ∀ s, J s → ∃ s', J s' ∧ m ⟨s, l⟩ = (.ok x, ⟨s', l⟩)

def RunsOut (J : σ → Prop) (l : Locals) (m : EvalM σ α) : Prop :=
  ∀ s, J s → (m ⟨s, l⟩).1 = .error .outOfGas

theorem readsOnly_pure (x : α) : ReadsOnly J l (pure x) x := fun s hs => ⟨s, hs, rfl⟩

theorem readsOnly_locals : ReadsOnly J l (locals : EvalM σ Locals) l := fun s hs => ⟨s, hs, rfl⟩

variable {m : EvalM σ α} {k : α → EvalM σ β}

variable {x : α}

theorem ReadsOnly.bind {y : β}
    (h : ReadsOnly J l m x) (hk : ReadsOnly J l (k x) y) : ReadsOnly J l (m >>= k) y := by
  intro s hs
  obtain ⟨s', hs', hm⟩ := h s hs
  show ∃ s'', J s'' ∧ bindResult k (m ⟨s, l⟩) = _
  rw [hm, bindResult_ok]
  exact hk s' hs'

theorem ReadsOnly.bind_runsOut
    (h : ReadsOnly J l m x) (hk : RunsOut J l (k x)) : RunsOut J l (m >>= k) := by
  intro s hs
  obtain ⟨s', hs', hm⟩ := h s hs
  show (bindResult k (m ⟨s, l⟩)).1 = _
  rw [hm, bindResult_ok]
  exact hk s' hs'

theorem RunsOut.bind (h : RunsOut J l m) : RunsOut J l (m >>= k) := by
  intro s hs
  have hm := h s hs
  show (bindResult k (m ⟨s, l⟩)).1 = _
  rcases hrun : m ⟨s, l⟩ with ⟨e | a, f⟩
  · rw [hrun] at hm
    rw [bindResult_error]
    exact congrArg Except.error (Except.error.inj hm)
  · rw [hrun] at hm
    cases hm

theorem runsOut_outOfStorageGas : RunsOut J l (outOfStorageGas : EvalM σ α) := by
  refine readsOnly_locals.bind_runsOut ?_
  intro s _
  show (bindResult _ _).1 = _
  unfold method Proc.zoom
  dsimp only
  rw [Method.setGasUsed_eq]
  split_ifs <;> rfl

end

/-! ### The loops -/

section

variable {σ : Type} (env : VmEnvironment) {host : Host σ} {J : σ → Prop} {l : Locals}
  {read : Bytes → U256 → Option U256}

/-- The host answers reads of storage at the height of the evaluation by a function. -/
def HostAnswers (host : Host σ) (J : σ → Prop) (l : Locals) (read : Bytes → U256 → Option U256) :
    Prop :=
  ∀ a p, ReadsOnly J l (onHost (host.getStorage a p l.evaluation.blockNumber)) (read a p)

variable (host) in
theorem chargeSlot_eq (isSpecial : Bool) (gasUsed cost : Nat) (slot : U256 × U256) :
    chargeSlot env host isSpecial gasUsed cost slot = (do
      let l ← locals
      if !isSpecial && l.ctx.gasTracker.maxGas <
          gasUsed + cost + env.UPDATED_STORAGE_SLOT_GAS_COST then outOfStorageGas
      else
        let current ← onHost (host.getStorage l.evaluation.contractAddress slot.1
          l.evaluation.blockNumber)
        if !isSpecial && l.ctx.gasTracker.maxGas <
            gasUsed + (cost + slotCharge env current slot.2) then outOfStorageGas
        else return cost + slotCharge env current slot.2) := by
  unfold chargeSlot
  refine congrArg (locals >>= ·) (funext fun l => ?_)
  refine if_congr Iff.rfl rfl (congrArg (onHost _ >>= ·) (funext fun current => ?_))
  cases current with
  | none => rfl
  | some old =>
    by_cases h : old = slot.2
    · simp only [slotCharge, if_pos h, Nat.add_zero]
    · simp only [slotCharge, if_neg h]

variable (hread : HostAnswers host J l read)

include hread

variable {gasUsed : Nat}

variable {isSpecial : Bool} {cost : Nat} {slot : U256 × U256}

theorem readsOnly_chargeSlot (hgas : isSpecial = false →
      gasUsed + cost + env.UPDATED_STORAGE_SLOT_GAS_COST ≤ l.ctx.gasTracker.maxGas ∧
      gasUsed + cost + slotCharge env (read l.evaluation.contractAddress slot.1) slot.2 ≤
        l.ctx.gasTracker.maxGas) :
    ReadsOnly J l (chargeSlot env host isSpecial gasUsed cost slot)
      (cost + slotCharge env (read l.evaluation.contractAddress slot.1) slot.2) := by
  rw [chargeSlot_eq]
  refine readsOnly_locals.bind ?_
  rw [if_neg]
  · refine (hread _ _).bind ?_
    rw [if_neg]
    · exact readsOnly_pure _
    · intro h
      rw [Bool.and_eq_true, Bool.not_eq_true', decide_eq_true_eq] at h
      have := (hgas h.1).2
      omega
  · intro h
    rw [Bool.and_eq_true, Bool.not_eq_true', decide_eq_true_eq] at h
    have := (hgas h.1).1
    omega

theorem runsOut_chargeSlot
    (hgas : ¬ (gasUsed + cost + env.UPDATED_STORAGE_SLOT_GAS_COST ≤ l.ctx.gasTracker.maxGas ∧
      gasUsed + cost + slotCharge env (read l.evaluation.contractAddress slot.1) slot.2 ≤
        l.ctx.gasTracker.maxGas)) :
    RunsOut J l (chargeSlot env host false gasUsed cost slot) := by
  rw [chargeSlot_eq]
  refine readsOnly_locals.bind_runsOut ?_
  by_cases hfirst :
      l.ctx.gasTracker.maxGas < gasUsed + cost + env.UPDATED_STORAGE_SLOT_GAS_COST
  · rw [if_pos (by simpa using hfirst)]
    exact runsOut_outOfStorageGas
  · rw [if_neg (by simpa using hfirst)]
    refine (hread _ _).bind_runsOut ?_
    rw [if_pos]
    · exact runsOut_outOfStorageGas
    · rw [Bool.and_eq_true, decide_eq_true_eq]
      refine ⟨rfl, ?_⟩
      by_contra hsecond
      apply hgas
      omega

variable {c : Nat} {slots : List (U256 × U256)}

theorem readsOnly_chargeSlots (hgas : isSpecial = false → Affordable l.ctx.gasTracker.maxGas
      env.UPDATED_STORAGE_SLOT_GAS_COST (gasUsed + c)
      (slotCharges env read l.evaluation.contractAddress slots)) :
    ReadsOnly J l (Proc.foldEach (chargeSlot env host isSpecial gasUsed) c slots)
      (c + (slotCharges env read l.evaluation.contractAddress slots).sum) := by
  induction slots generalizing c with
  | nil => exact readsOnly_pure _
  | cons slot slots ih =>
    refine (readsOnly_chargeSlot env hread fun h => ⟨(hgas h).1, (hgas h).2.1⟩).bind ?_
    rw [slotCharges, List.map_cons, List.sum_cons, ← Nat.add_assoc]
    apply ih
    intro h
    rw [← Nat.add_assoc]
    exact (hgas h).2.2

theorem runsOut_chargeSlots
    (hgas : ¬ Affordable l.ctx.gasTracker.maxGas env.UPDATED_STORAGE_SLOT_GAS_COST
      (gasUsed + c) (slotCharges env read l.evaluation.contractAddress slots)) :
    RunsOut J l (Proc.foldEach (chargeSlot env host false gasUsed) c slots) := by
  induction slots generalizing c with
  | nil => exact absurd trivial hgas
  | cons slot slots ih =>
    by_cases hslot :
        gasUsed + c + env.UPDATED_STORAGE_SLOT_GAS_COST ≤ l.ctx.gasTracker.maxGas ∧
        gasUsed + c + slotCharge env (read l.evaluation.contractAddress slot.1) slot.2 ≤
          l.ctx.gasTracker.maxGas
    · refine (readsOnly_chargeSlot env hread fun _ => hslot).bind_runsOut (ih fun hrest => ?_)
      rw [← Nat.add_assoc] at hrest
      exact hgas ⟨hslot.1, hslot.2, hrest⟩
    · exact (runsOut_chargeSlot env hread hslot).bind

omit hread in
theorem storageCharges_cons (counted : Bytes → Bool) (contract : Bytes × JsMap U256 U256)
    (contracts : List (Bytes × JsMap U256 U256)) :
    storageCharges env read counted (contract :: contracts) =
      (if counted contract.1 then slotCharges env read contract.1 contract.2.entries else []) ++
        storageCharges env read counted contracts := by
  unfold storageCharges
  by_cases h : counted contract.1 = true
  · rw [List.filter_cons, if_pos h, if_pos h, List.flatMap_cons]
  · rw [List.filter_cons, if_neg h, if_neg h, List.nil_append]

variable {total : Nat × Nat} {contract : Bytes × JsMap U256 U256}

theorem readsOnly_chargeContract_special (hspecial : l.chargesSpecial contract.1 = true) :
    ReadsOnly J l (chargeContract env host total contract)
      (total.1, total.2 +
        (slotCharges env (l.readAtRoot read) contract.1 contract.2.entries).sum) := by
  refine readsOnly_locals.bind ?_
  dsimp only
  rw [show (l.specialContract.any fun special =>
    special.freeGas && special.address = contract.1) = true from hspecial]
  refine (readsOnly_chargeSlots env hread fun h => absurd h (by simp)).bind ?_
  rw [Nat.zero_add]
  exact readsOnly_pure _

theorem readsOnly_chargeContract (hspecial : l.chargesSpecial contract.1 = false)
    (hgas : Affordable l.ctx.gasTracker.maxGas env.UPDATED_STORAGE_SLOT_GAS_COST
      (l.ctx.gasTracker.gasUsed + total.1)
      (slotCharges env (l.readAtRoot read) contract.1 contract.2.entries)) :
    ReadsOnly J l (chargeContract env host total contract)
      (total.1 + (slotCharges env (l.readAtRoot read) contract.1 contract.2.entries).sum,
        total.2) := by
  refine readsOnly_locals.bind ?_
  dsimp only
  rw [show (l.specialContract.any fun special =>
    special.freeGas && special.address = contract.1) = false from hspecial]
  refine (readsOnly_chargeSlots env hread (c := 0) fun _ => hgas).bind ?_
  rw [Nat.zero_add]
  exact readsOnly_pure _

theorem runsOut_chargeContract (hspecial : l.chargesSpecial contract.1 = false)
    (hgas : ¬ Affordable l.ctx.gasTracker.maxGas env.UPDATED_STORAGE_SLOT_GAS_COST
      (l.ctx.gasTracker.gasUsed + total.1)
      (slotCharges env (l.readAtRoot read) contract.1 contract.2.entries)) :
    RunsOut J l (chargeContract env host total contract) := by
  refine readsOnly_locals.bind_runsOut ?_
  dsimp only
  rw [show (l.specialContract.any fun special =>
    special.freeGas && special.address = contract.1) = false from hspecial]
  exact (runsOut_chargeSlots env hread (c := 0) hgas).bind

variable {t : Nat × Nat} {contracts : List (Bytes × JsMap U256 U256)}

theorem readsOnly_chargeContracts
    (hgas : Affordable l.ctx.gasTracker.maxGas env.UPDATED_STORAGE_SLOT_GAS_COST
      (l.ctx.gasTracker.gasUsed + t.1)
      (storageCharges env (l.readAtRoot read) (fun a => !l.chargesSpecial a) contracts)) :
    ReadsOnly J l (Proc.foldEach (chargeContract env host) t contracts)
      (t.1 +
        (storageCharges env (l.readAtRoot read) (fun a => !l.chargesSpecial a) contracts).sum,
      t.2 + (storageCharges env (l.readAtRoot read) l.chargesSpecial contracts).sum) := by
  induction contracts generalizing t with
  | nil => exact readsOnly_pure _
  | cons contract contracts ih =>
    rw [storageCharges_cons] at hgas
    rw [storageCharges_cons, storageCharges_cons]
    cases hspecial : l.chargesSpecial contract.1 with
    | true =>
      rw [hspecial] at hgas
      refine (readsOnly_chargeContract_special env hread hspecial).bind ?_
      have hrest := ih (t := (t.1, t.2 +
        (slotCharges env (l.readAtRoot read) contract.1 contract.2.entries).sum)) hgas
      simpa [Nat.add_assoc] using hrest
    | false =>
      rw [hspecial] at hgas
      have hsplit := (affordable_append _ _ _ _ _).mp hgas
      refine (readsOnly_chargeContract env hread hspecial hsplit.1).bind ?_
      have hrest := ih (t := (t.1 +
        (slotCharges env (l.readAtRoot read) contract.1 contract.2.entries).sum, t.2))
        (by simpa [Nat.add_assoc] using hsplit.2)
      simpa [Nat.add_assoc] using hrest

theorem runsOut_chargeContracts
    (hgas : ¬ Affordable l.ctx.gasTracker.maxGas env.UPDATED_STORAGE_SLOT_GAS_COST
      (l.ctx.gasTracker.gasUsed + t.1)
      (storageCharges env (l.readAtRoot read) (fun a => !l.chargesSpecial a) contracts)) :
    RunsOut J l (Proc.foldEach (chargeContract env host) t contracts) := by
  induction contracts generalizing t with
  | nil => exact absurd trivial hgas
  | cons contract contracts ih =>
    rw [storageCharges_cons] at hgas
    cases hspecial : l.chargesSpecial contract.1 with
    | true =>
      rw [hspecial] at hgas
      exact (readsOnly_chargeContract_special env hread hspecial).bind_runsOut (ih hgas)
    | false =>
      rw [hspecial, affordable_append] at hgas
      by_cases hpaid : Affordable l.ctx.gasTracker.maxGas env.UPDATED_STORAGE_SLOT_GAS_COST
          (l.ctx.gasTracker.gasUsed + t.1)
          (slotCharges env (l.readAtRoot read) contract.1 contract.2.entries)
      · refine (readsOnly_chargeContract env hread hspecial hpaid).bind_runsOut (ih fun hrest => ?_)
        exact hgas ⟨hpaid, by simpa [Nat.add_assoc] using hrest⟩
      · exact (runsOut_chargeContract env hread hspecial hpaid).bind

/-! ### `calculateGasCostStore` -/

variable {s : σ}

/-- With charges that its loop goes through, `calculateGasCostStore` adds those it read. -/
theorem calculateGasCostStore_charged (hs : J s)
    (hgas : l.Affords env (l.ordinaryCharges env (l.readAtRoot read))) :
    ∃ s', calculateGasCostStore env host ⟨s, l⟩ =
      (.ok (), ⟨s', l.charged (l.ordinaryCharges env (l.readAtRoot read)).sum
        (l.specialCharges env (l.readAtRoot read)).sum⟩) := by
  unfold calculateGasCostStore
  show ∃ s', bindResult _ (.ok l, (⟨s, l⟩ : Frame σ)) = _
  simp only [bindResult_ok]
  unfold Locals.ordinaryCharges Locals.specialCharges Locals.modifiedSlots at *
  cases hstorage : l.evaluation.modifiedStorage with
  | none => exact ⟨s, rfl⟩
  | some storage =>
    rw [Locals.Affords, hstorage, Option.getD_some] at hgas
    obtain ⟨s', -, hrun⟩ := readsOnly_chargeContracts env hread (t := (0, 0)) hgas s hs
    refine ⟨s', ?_⟩
    refine (bind_of_ok hrun).trans ?_
    rw [Nat.zero_add, Nat.zero_add]
    rfl

theorem calculateGasCostStore_outOfGas (hs : J s)
    (hgas : ¬ l.Affords env (l.ordinaryCharges env (l.readAtRoot read))) :
    (calculateGasCostStore env host ⟨s, l⟩).1 = .error .outOfGas := by
  unfold calculateGasCostStore
  show (bindResult _ (.ok l, (⟨s, l⟩ : Frame σ))).1 = _
  rw [bindResult_ok]
  unfold Locals.ordinaryCharges Locals.modifiedSlots at hgas
  cases hstorage : l.evaluation.modifiedStorage with
  | none =>
    rw [hstorage] at hgas
    exact absurd trivial hgas
  | some storage =>
    rw [Locals.Affords, hstorage] at hgas
    exact (runsOut_chargeContracts env hread (t := (0, 0)) hgas).bind s hs

/-- The charges are right exactly when those read at the root contract agree with the right ones. -/
theorem chargesBySlot_of_answers (hs : J s) :
    ChargesBySlot env read l (calculateGasCostStore env host ⟨s, l⟩) ↔ l.ChargesAgree env read := by
  by_cases hloop : l.Affords env (l.ordinaryCharges env (l.readAtRoot read))
  · obtain ⟨s', hrun⟩ := calculateGasCostStore_charged env hread hs hloop
    rw [hrun]
    constructor
    · intro h
      by_cases hfits : l.Fits (l.ordinaryCharges env read)
      · have hgas := congrArg (fun l' : Locals => l'.ctx.gasTracker) (h.charged hfits).2
        have hordinary := congrArg GasTracker.gasUsed hgas
        have hspecial := congrArg GasTracker.specialGasUsed hgas
        refine Or.inl ⟨hfits, hloop, ?_, ?_⟩
        · exact Nat.add_left_cancel hordinary
        · exact Nat.add_left_cancel hspecial
      · cases h.outOfGas hfits
    · rintro (⟨hfits, -, hordinary, hspecial⟩ | ⟨-, hstop⟩)
      · rw [hordinary, hspecial]
        exact ⟨fun _ => ⟨rfl, rfl⟩, fun hnot => absurd hfits hnot⟩
      · exact absurd hloop hstop
  · have hrun := calculateGasCostStore_outOfGas env hread hs hloop
    constructor
    · intro h
      refine Or.inr ⟨fun hfits => ?_, hloop⟩
      have hok := (h.charged hfits).1
      cases hrun.symm.trans hok
    · rintro (⟨-, hgoes, -⟩ | ⟨hnot, -⟩)
      · exact absurd hgoes hloop
      · exact ⟨fun hfits => absurd hfits hnot, fun _ => hrun⟩

end

/-! ### In a block -/

section

variable (env : VmEnvironment) {T : RustMerkleTree} {db : VMStorage} {n : Nat}
  {tree : MerkleTree U256 U256} {receipts : MerkleTree ReceiptKey Bytes}

theorem getValueWithProofs_of_not_generated (htree : tree.tree = none) (a : Bytes) (p : U256) :
    getValueWithProofs T tree a p = .ok (tree.values.slot a p) := by
  unfold getValueWithProofs
  rw [htree]
  cases tree.values.slot a p <;> rfl

theorem hostAnswers_inBlock (hanswers : ∀ a p, getValueWithProofs T tree a p = .ok (tree.values.slot a p))
    {l : Locals} (hheight : l.evaluation.blockNumber = n) :
    HostAnswers (vmHost env T) (InBlock db n tree receipts) l (blockRead db n tree) := by
  intro a p vm hvm
  rw [hheight]
  have hE : ReadThrows T db n tree receipts vm fun _ => False :=
    fun _ _ hnot => hnot fun a p _ => hanswers a p
  obtain ⟨value, vm', hrun, hvalue, hnear⟩ :=
    (ensures_getStorage hE a p vm ⟨hvm, rfl, le_refl _⟩).returns
  refine ⟨vm', hnear.toInBlock, ?_⟩
  show ((VMManager.getStorage T a p n vm).1, _) = _
  rw [← hvalue]
  show ((VMManager.getStorage T a p n vm).1, (⟨(VMManager.getStorage T a p n vm).2, l⟩ : Frame _)) = _
  rw [hrun]

/-- **Storage gas.** In a block, `calculateGasCostStore` charges every modified slot by the value it
had before the transaction exactly when the charges read at the root contract agree with those. -/
theorem chargesBySlot_iff (T : RustMerkleTree) {vm : VMManager} {l : Locals}
    (hvm : InBlock db n tree receipts vm) (hheight : l.evaluation.blockNumber = n)
    (hanswers : ∀ a p, getValueWithProofs T tree a p = .ok (tree.values.slot a p)) :
    ChargesBySlot env (blockRead db n tree) l (calculateGasCostStore env (vmHost env T) ⟨vm, l⟩) ↔
      l.ChargesAgree env (blockRead db n tree) :=
  chargesBySlot_of_answers env (hostAnswers_inBlock env hanswers hheight) hvm

/-- A VM at block 5, over a state in which the slot 1 of the contract `[7]` is 8. -/
def storedAtRoot : VMManager :=
  (VMManager.create false ⟨[contractOf [3] 3], [⟨[7], 1, 8, 3⟩], [3, 4]⟩).prepareBlock 5

/-- A transaction to the contract `[7]` in which `writer` stored 8 in its slot 1. -/
def wroteSlot (writer : Bytes) : Locals where
  ctx := newContext (GasTracker.new 1000 none) 0 .empty .empty
  evaluation := {
    contractAddress := [7]
    transactionId := List.replicate 32 1
    blockNumber := 5
    externalCall := false
    revert := none
    result := some []
    modifiedStorage := some (TreeValues.setSlot .empty writer 1 8)
    events := .empty
    totalEventSize := 0
    touchedAddresses := JsMap.empty.set [7] true }

theorem inBlock_storedAtRoot :
    InBlock storedAtRoot.database 5 .new .new storedAtRoot :=
  ⟨rfl, rfl, rfl, rfl, rfl, fun _ _ _ hget => nomatch hget⟩

/-- Storing in the root contract what its slot had already is free. -/
theorem chargesBySlot_iff_root :
    ChargesBySlot plainEnvironment (blockRead storedAtRoot.database 5 .new) (wroteSlot [7])
      (calculateGasCostStore plainEnvironment
        (vmHost plainEnvironment RustMerkleTree.multisetTree) ⟨storedAtRoot, wroteSlot [7]⟩) := by
  refine (chargesBySlot_iff plainEnvironment RustMerkleTree.multisetTree inBlock_storedAtRoot rfl
    (getValueWithProofs_of_not_generated rfl)).mpr (Or.inl ⟨?_, ?_, rfl, rfl⟩)
  · show (0 : Nat) + 0 ≤ 1000
    omega
  · show Affordable 1000 1 0 [0]
    simp [Affordable]

/-- Storing the same in a new slot of another contract should cost the price of a new slot, and is
free as well. -/
theorem not_chargesBySlot_callee :
    ¬ ChargesBySlot plainEnvironment (blockRead storedAtRoot.database 5 .new) (wroteSlot [9])
      (calculateGasCostStore plainEnvironment
        (vmHost plainEnvironment RustMerkleTree.multisetTree) ⟨storedAtRoot, wroteSlot [9]⟩) := by
  intro h
  have hfits : (wroteSlot [9]).Fits ((wroteSlot [9]).ordinaryCharges plainEnvironment
      (blockRead storedAtRoot.database 5 .new)) := by
    show (0 : Nat) + 2 ≤ 1000
    omega
  have hgas := congrArg (fun l : Locals => l.ctx.gasTracker.gasUsed) (h.charged hfits).2
  revert hgas
  decide +kernel

end

end OpnetNode
