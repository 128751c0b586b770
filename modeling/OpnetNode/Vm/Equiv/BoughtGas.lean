import OpnetNode.Gas.BlockGasPredictor
import OpnetNode.Vm.Equiv.Atomicity
import OpnetNode.Vm.Equiv.FrameInvariant
import OpnetNode.Vm.VMManager

/-!
# Gas is bought before it is used

The counted gas of a transaction stays within the `maxGas` of its tracker as long as the VM is given no
more than that (`WithinBought`): the cap that the tracker hands to the VM is not the one it was built
with when the transaction has special settings.  `gasBounds_run` holds for every call tree.
-/

namespace OpnetNode

open Proc EvalM

namespace GasTracker

/-- The gas that the VM may count for a frame is at most the gas of the tracker: in inner frames, and
in the root frame unless its gas is free. -/
def WithinBought (t : GasTracker) (root : Bytes) : Prop :=
  t.maxGasVM true ≤ t.maxGas ∧ (t.countsSpecial false root = true ∨ t.maxGasVM false ≤ t.maxGas)

/-- A tracker that started as `start` and has counted no more than its `maxGas`. -/
structure Bounded (start t : GasTracker) : Prop where
  maxGas : t.maxGas = start.maxGas
  settings : t.settings = start.settings
  counted : t.gasUsed ≤ t.maxGas
  special : t.settings = none → t.specialGasUsed = 0

variable {start t : GasTracker}

theorem Bounded.maxGasVM (h : Bounded start t) (isExternCall : Bool) :
    t.maxGasVM isExternCall = start.maxGasVM isExternCall := by
  unfold GasTracker.maxGasVM
  rw [h.settings, h.maxGas]

theorem Bounded.countsSpecial (h : Bounded start t) (isExternCall : Bool) (contract : Bytes) :
    t.countsSpecial isExternCall contract = start.countsSpecial isExternCall contract := by
  unfold GasTracker.countsSpecial
  rw [h.settings]

theorem bounded_new (maxGas : Nat) (settings : Option SpecialContract) :
    Bounded (new maxGas settings) (new maxGas settings) := by
  refine ⟨rfl, rfl, ?_, ?_⟩
  all_goals
    unfold new
    cases settings with
    | none => simp
    | some special =>
      dsimp only
      split_ifs <;> simp

theorem Bounded.counted_of {root contract : Bytes} {isExternCall : Bool}
    {gas : Nat} (h : Bounded start t) (hstart : start.WithinBought root)
    (hroot : isExternCall = false → contract = root) (hgas : ¬ t.maxGasVM isExternCall < gas) :
    Bounded start (t.counted gas isExternCall contract) := by
  unfold GasTracker.counted
  by_cases hspecial : t.countsSpecial isExternCall contract = true
  · rw [if_pos hspecial]
    refine ⟨h.maxGas, h.settings, h.counted, fun hnone => ?_⟩
    replace hnone : t.settings = none := hnone
    unfold GasTracker.countsSpecial at hspecial
    rw [hnone] at hspecial
    simp at hspecial
  · rw [if_neg hspecial]
    refine ⟨h.maxGas, h.settings, ?_, h.special⟩
    show gas ≤ t.maxGas
    rw [h.maxGasVM] at hgas
    rw [h.countsSpecial] at hspecial
    have hcap : start.maxGasVM isExternCall ≤ start.maxGas := by
      cases isExternCall with
      | true => exact hstart.1
      | false =>
        rw [hroot rfl] at hspecial
        exact hstart.2.resolve_left hspecial
    have hmax := h.maxGas
    omega

end GasTracker

/-! ### Every frame -/

section

variable {σ : Type} {start : GasTracker} {root : Bytes}

/-- The tracker is within its bound, and a frame that is no external call is the root. -/
structure BoughtInv (start : GasTracker) (root : Bytes) (t : GasTracker) (i : FrameId) : Prop where
  bounded : start.Bounded t
  root : i.externalCall = false → i.contractAddress = root

variable (env : VmEnvironment) {host : Host σ} {l : Locals}

variable {α : Type}

theorem ensures_onHost_locals (m : Proc σ VmError α) (hl : OnGas (BoughtInv start root) l) :
    Ensures (fun f : Frame σ => f.locals = l) (onHost m) (fun _ f => f.locals = l)
      (fun f => OnGas (BoughtInv start root) f.locals) := by
  rintro f rfl
  show Outcome _ _ ((m f.host).1, _)
  cases (m f.host).1 with
  | error e => exact hl
  | ok a => rfl

variable (hstart : start.WithinBought root)

include hstart

theorem ensures_outOfStorageGas_bought {Q : α → Frame σ → Prop}
    (hl : OnGas (BoughtInv start root) l) :
    Ensures (fun f : Frame σ => f.locals = l) (outOfStorageGas : EvalM σ α) Q
      (fun f => OnGas (BoughtInv start root) f.locals) := by
  rintro f rfl
  have hset : OnGas (BoughtInv start root)
      (Method.setGasUsed f.locals.ctx.gasTracker.paidMaximum f.locals).2 :=
    onGas_setGasUsed hl fun hgas => ⟨hl.bounded.counted_of hstart hl.root hgas, hl.root⟩
  show Outcome _ _ (bindResult (fun _ => Proc.throw .outOfGas) (method _ f))
  rcases hrun : method (Method.setGasUsed f.locals.ctx.gasTracker.paidMaximum) f with ⟨e | u, f'⟩
  all_goals
    have hlocals := congrArg (fun r => r.2.locals) hrun
    replace hlocals : (Method.setGasUsed f.locals.ctx.gasTracker.paidMaximum f.locals).2 = f'.locals :=
      hlocals
    rw [hlocals] at hset
    exact hset

theorem ensures_chargeSlot_bought (hl : OnGas (BoughtInv start root) l) (isSpecial : Bool)
    (gasUsed cost : Nat) (slot : U256 × U256) :
    Ensures (fun f : Frame σ => f.locals = l ∧
        (isSpecial = false → gasUsed + cost ≤ l.ctx.gasTracker.maxGas))
      (chargeSlot env host isSpecial gasUsed cost slot)
      (fun cost f => f.locals = l ∧
        (isSpecial = false → gasUsed + cost ≤ l.ctx.gasTracker.maxGas))
      (fun f => OnGas (BoughtInv start root) f.locals) := by
  rintro f ⟨rfl, -⟩
  have hout {Q : Nat → Frame σ → Prop} := ensures_outOfStorageGas_bought (σ := σ) (Q := Q) hstart hl
  show Outcome _ _ ((if _ = true then outOfStorageGas else _ : EvalM σ Nat) f)
  split_ifs
  · exact hout f rfl
  · refine ensures_bind (ensures_onHost_locals _ hl) (fun current => ?_) f rfl
    dsimp only
    split_ifs with hgas
    · exact hout
    · rintro f' hf'
      refine ⟨hf', fun hspecial => ?_⟩
      rw [hspecial] at hgas
      simpa using hgas

/-- What holds of the totals while contracts are charged. -/
def TotalsFit (l : Locals) (total : Nat × Nat) : Prop :=
  l.ctx.gasTracker.gasUsed + total.1 ≤ l.ctx.gasTracker.maxGas ∧
    (l.ctx.gasTracker.settings = none → total.2 = 0)

theorem ensures_chargeContract_bought (hl : OnGas (BoughtInv start root) l) (total : Nat × Nat)
    (contract : Bytes × JsMap U256 U256) :
    Ensures (fun f : Frame σ => f.locals = l ∧ TotalsFit l total)
      (chargeContract env host total contract) (fun total f => f.locals = l ∧ TotalsFit l total)
      (fun f => OnGas (BoughtInv start root) f.locals) := by
  rintro f ⟨rfl, hordinary, hnone⟩
  have hsettings : (f.locals.specialContract.any fun special =>
      special.freeGas && special.address = contract.1) = true →
      f.locals.ctx.gasTracker.settings ≠ none := by
    intro hspecial hsettings
    unfold Locals.specialContract at hspecial
    rw [hsettings] at hspecial
    simp at hspecial
  show Outcome _ _ ((Proc.foldEach _ 0 contract.2.entries >>= _ : EvalM σ _) f)
  generalize (f.locals.specialContract.any fun special =>
    special.freeGas && special.address = contract.1) = isSpecial at hsettings
  refine ensures_bind (ensures_foldEach (fun cost slot =>
    ensures_chargeSlot_bought env hstart hl isSpecial _ cost slot) 0 _) (fun cost => ?_) f ⟨rfl, ?_⟩
  · rintro f' ⟨hf', hcost⟩
    refine ⟨hf', ?_⟩
    cases isSpecial with
    | true => exact ⟨hordinary, fun h => absurd h (hsettings rfl)⟩
    | false =>
      have hfits := hcost rfl
      refine ⟨?_, hnone⟩
      show _ + (total.1 + cost) ≤ _
      simp only [Bool.false_eq_true, if_false] at hfits
      omega
  · intro hspecial
    rw [hspecial]
    simpa using hordinary

/-- Charging the modified slots keeps the gas within its bound, whatever the host answers. -/
theorem keeps_calculateGasCostStore_bought :
    Keeps (fun f : Frame σ => OnGas (BoughtInv start root) f.locals)
      (calculateGasCostStore env host) := by
  intro f hf
  unfold calculateGasCostStore
  show OnGas (BoughtInv start root) (bindResult _ (.ok f.locals, f)).2.locals
  rw [bindResult_ok]
  cases f.locals.evaluation.modifiedStorage with
  | none => exact hf
  | some storage =>
    have hcharge (total : Nat × Nat) (contract : Bytes × JsMap U256 U256) :
        Ensures (fun f' : Frame σ => f'.locals = f.locals ∧ TotalsFit f.locals total)
          (chargeContract env host total contract)
          (fun total f' => f'.locals = f.locals ∧ TotalsFit f.locals total)
          (fun f' => OnGas (BoughtInv start root) f'.locals) :=
      ensures_chargeContract_bought env hstart hf total contract
    have hset (total : Nat × Nat) :
        Ensures (fun f' : Frame σ => f'.locals = f.locals ∧ TotalsFit f.locals total)
          (method (Method.setFinalGasUsed total))
          (fun _ f' => OnGas (BoughtInv start root) f'.locals)
          (fun f' => OnGas (BoughtInv start root) f'.locals) := by
      rintro f' ⟨hlocals, htotal⟩
      show OnGas (BoughtInv start root) (Method.setFinalGasUsed total f'.locals).2
      rw [hlocals]
      refine ⟨⟨hf.bounded.maxGas, hf.bounded.settings, htotal.1, fun hnone => ?_⟩, hf.root⟩
      show f.locals.ctx.gasTracker.specialGasUsed + total.2 = 0
      rw [hf.bounded.special hnone, htotal.2 hnone]
    have hfold := ensures_bind (ensures_foldEach hcharge (0, 0) storage.entries) hset
    exact (hfold f ⟨rfl, hf.bounded.counted, fun _ => rfl⟩).state

theorem gasStepsKeep_bought :
    GasStepsKeep env (fun _ => True) (BoughtInv start root) where
  usedGas _ _ _ := trivial
  counted l gas _ hl hgas := ⟨hl.bounded.counted_of hstart hl.root hgas, hl.root⟩
  enter t i i' hexternal h := ⟨h.bounded, fun hnot => by rw [hexternal] at hnot; cases hnot⟩
  leave t t' i i' h h' := ⟨h'.bounded, h.root⟩

end

/-! ### Transactions -/

/-- The limit that `calculateMaxGas` is given for a transaction. -/
def transactionGasLimit (settings : Option SpecialContract) : Nat :=
  settings.elim TRANSACTION_MAX_GAS SpecialContract.transactionGasLimit

/-- What a transaction that bought `maxGas` has used in the end. -/
structure GasBounds (maxGas : ℤ) (l : Locals) : Prop where
  counted : l.ctx.gasTracker.gasUsed ≤ l.ctx.gasTracker.maxGas
  bought : (l.ctx.gasTracker.maxGas : ℤ) ≤ maxGas
  total : l.ctx.gasTracker.settings = none →
    l.ctx.gasTracker.gasUsed + l.ctx.gasTracker.specialGasUsed ≤ TRANSACTION_MAX_GAS

theorem calculateMaxGas_nonneg {consensus : GasConsensus} {isSimulation : Bool}
    {fee baseGas limit : Nat} {maxGas : ℤ}
    (h : calculateMaxGas consensus isSimulation fee baseGas limit = .ok maxGas) : 0 ≤ maxGas := by
  have hscaled (gas : Nat) : 0 ≤ BlockGasPredictor.toBaseBigInt gas :=
    mul_nonneg (Int.natCast_nonneg gas) (by decide)
  unfold calculateMaxGas at h
  dsimp only at h
  split_ifs at h
  · cases h
    exact Int.tdiv_nonneg (hscaled _) (Int.natCast_nonneg baseGas)
  · cases h
    exact Int.tdiv_nonneg (hscaled _) (Int.natCast_nonneg baseGas)

theorem GasTracker.maxGas_new_le (maxGas : Nat) (settings : Option SpecialContract) :
    (GasTracker.new maxGas settings).maxGas ≤ maxGas := by
  unfold GasTracker.new
  cases settings with
  | none => exact Nat.min_le_left _ _
  | some special =>
    dsimp only
    split_ifs
    · exact Nat.min_le_left _ _
    · exact Nat.min_le_left _ _

variable {maxGas : Nat}

theorem GasTracker.withinBought_new_some {special : SpecialContract}
    (hfree : special.freeGas = true) :
    (GasTracker.new maxGas (some special)).WithinBought special.address ↔
      special.maxExternalGas ≤ maxGas := by
  unfold GasTracker.WithinBought GasTracker.new GasTracker.maxGasVM GasTracker.countsSpecial
  simp [hfree]

/-- A tracker without special settings never counts more than a transaction may use. -/
theorem GasTracker.Bounded.total_le {settings : Option SpecialContract}
    {t : GasTracker} (h : (GasTracker.new maxGas settings).Bounded t) (hnone : t.settings = none) :
    t.gasUsed + t.specialGasUsed ≤ TRANSACTION_MAX_GAS := by
  have hsettings : (GasTracker.new maxGas settings).settings = none := h.settings ▸ hnone
  have hlimit : (GasTracker.new maxGas settings).maxGas ≤ TRANSACTION_MAX_GAS := by
    cases settings with
    | none => exact Nat.min_le_right _ _
    | some special =>
      unfold GasTracker.new at hsettings
      dsimp only at hsettings
      split_ifs at hsettings
  have hcounted := h.counted
  have hmax := h.maxGas
  have hspecial := h.special hnone
  omega

section

variable {σ : Type} (env : VmEnvironment) (host : Host σ)

theorem runRoot_bounded {start : GasTracker} {ctx : TransactionContext} {params : FrameParameters}
    (hctx : ctx.gasTracker = start) (hbounded : start.Bounded start)
    (hstart : start.WithinBought params.contractAddress) (execution : Execution)
    (contract : ContractInformation) {s s' : σ} {l : Locals}
    (hrun : runRoot env host ctx (interpret env host execution) contract params s = (.ok l, s')) :
    start.Bounded l.ctx.gasTracker := by
  unfold runRoot at hrun
  cases hl : newEvaluation params ctx with
  | error e =>
    rw [hl] at hrun
    cases hrun
  | ok inner =>
    have hinner : OnGas (BoughtInv start params.contractAddress) inner := by
      refine ⟨?_, fun _ => ?_⟩
      · rw [newEvaluation_gasTracker hl, hctx]
        exact hbounded
      · rw [newEvaluation_id hl]
    have hsteps := (gasStepsKeep_bought env hstart).framesKeep host
    have hstore : Keeps (fun f : Frame σ => OnGas (BoughtInv start params.contractAddress) f.locals)
        (calculateGasCostStore env host) := keeps_calculateGasCostStore_bought env hstart
    have hends := StepsKeep.keeps_terminateEvaluation (fun f _ hf => hstore f hf) fun _ _ hf => hf
    have hend := hsteps.keeps_frameBody hends (hsteps.keeps_interpret execution.reports_true) contract
      params ⟨s, inner⟩ hinner
    rw [hl] at hrun
    cases congrArg Prod.fst hrun
    exact hend.bounded

/-- **Gas is bought.** In every transaction, whatever its call tree does and its host answers, the
counted gas ends within the gas of the tracker, which was bought, if the VM is given no more gas than
that. -/
theorem gasBounds_run (consensus : GasConsensus) (isSimulation : Bool) (fee baseGas : Nat)
    (settings : Option SpecialContract) {maxGas : ℤ}
    (hmax : calculateMaxGas consensus isSimulation fee baseGas (transactionGasLimit settings) =
      .ok maxGas)
    (ctx : TransactionContext) (hctx : ctx.gasTracker = GasTracker.new maxGas.toNat settings)
    (params : FrameParameters)
    (hbought : (GasTracker.new maxGas.toNat settings).WithinBought params.contractAddress)
    (execution : Execution) (contract : ContractInformation) :
    ∀ s l s', runRoot env host ctx (interpret env host execution) contract params s = (.ok l, s') →
      GasBounds maxGas l := by
  intro s l s' hrun
  have hbounded := runRoot_bounded env host hctx (GasTracker.bounded_new _ _) hbought execution
    contract hrun
  refine ⟨hbounded.counted, ?_, hbounded.total_le⟩
  have hnew := GasTracker.maxGas_new_le maxGas.toNat settings
  have hnonneg := calculateMaxGas_nonneg hmax
  rw [hbounded.maxGas]
  omega

end

/-! ### A special contract -/

/-- The settings of a contract with free gas. -/
def nativeSwapContractSettings (address : Bytes) : SpecialContract where
  address
  freeGas := true
  bypassBlockLimit := true
  maxExternalGas := 12000000000
  transactionGasLimit := 600000000000

/-- A host that finds a contract at every address. -/
def everywhereHost : Host Unit where
  getStorage _ _ _ := pure none
  getStorageMultiple _ _ := pure []
  isContract _ := pure true
  getContractInformation a _ := pure (some ⟨3, 0 :: a, a, [0, 1], [3], [2]⟩)
  isCached _ := pure false
  contractExistsBelow _ _ := pure true
  deployContract _ := pure ()

/-- A contract that calls another, which uses some gas. -/
def callsAway (gasUsed : Nat) : Execution :=
  .call 1000 [9] (fun _ => .exit ⟨gasUsed, 0, []⟩) fun _ => .exit ⟨2000, 0, []⟩

def rootParams (contractAddress : Bytes) : FrameParameters where
  contractAddress
  transactionId := List.replicate 32 1
  blockNumber := 5
  externalCall := false
  isDeployment := false
  preloadStorageList := []

/-- The call of `[7]` with the settings of a contract with free gas, by a transaction that bought
`maxGas`. -/
def callsAwayRun (maxGas gasUsed : Nat) : Except VmError Locals × Unit :=
  runRoot plainEnvironment everywhereHost
    (newContext (GasTracker.new maxGas (some (nativeSwapContractSettings [7]))) 0 .empty .empty)
    (interpret plainEnvironment everywhereHost (callsAway gasUsed)) (contractOf [3] 3)
    (rootParams [7]) ()

/-- A transaction that bought 20 * 10^9 of gas may call the contract with free gas. -/
theorem gasBounds_run_bought :
    calculateMaxGas RoswellConsensus.GAS false 20000 100000000
      (transactionGasLimit (some (nativeSwapContractSettings [7]))) = .ok 20000000000 ∧
    ∀ l s, callsAwayRun 20000000000 10000000000 = (.ok l, s) → GasBounds 20000000000 l := by
  have hmax : calculateMaxGas RoswellConsensus.GAS false 20000 (100000000 : Nat)
      (transactionGasLimit (some (nativeSwapContractSettings [7]))) = .ok 20000000000 := by
    decide +kernel
  refine ⟨hmax, ?_⟩
  exact gasBounds_run plainEnvironment everywhereHost RoswellConsensus.GAS false 20000 100000000
    (some (nativeSwapContractSettings [7])) hmax _ rfl (rootParams [7])
    ((GasTracker.withinBought_new_some rfl).mpr (by decide)) (callsAway 10000000000) (contractOf [3] 3) ()

/-- Gas that was used in the end, and the gas of the tracker. -/
def usedOf : Except VmError Locals × Unit → Option (Nat × Nat)
  | (.ok l, _) => some (l.ctx.gasTracker.gasUsed, l.ctx.gasTracker.maxGas)
  | (.error _, _) => none

/-- A transaction that bought 10^9 of gas lets the contract that it calls use ten times as much. -/
theorem gasBounds_overdrawn :
    calculateMaxGas RoswellConsensus.GAS false 1000 100000000
      (transactionGasLimit (some (nativeSwapContractSettings [7]))) = .ok 1000000000 ∧
    ¬ ∀ l s, callsAwayRun 1000000000 10000000000 = (.ok l, s) → GasBounds 1000000000 l := by
  refine ⟨by decide +kernel, fun h => ?_⟩
  have hused : usedOf (callsAwayRun 1000000000 10000000000) = some (10000000000, 1000000000) := by
    decide +kernel
  rcases hrun : callsAwayRun 1000000000 10000000000 with ⟨e | l, s⟩
  · rw [hrun] at hused
    cases hused
  · rw [hrun] at hused
    have hcounted := (h l s hrun).counted
    obtain ⟨hgas, hmax⟩ := Prod.mk.inj (Option.some.inj hused)
    omega

end OpnetNode
