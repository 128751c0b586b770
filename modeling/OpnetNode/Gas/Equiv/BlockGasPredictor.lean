import Mathlib.Tactic.Linarith
import Mathlib.Tactic.NormNum
import Mathlib.Tactic.Positivity
import OpnetNode.Gas.BlockGasPredictor

/-!
# The price of gas stays positive

* `Configured`: what the parameters must satisfy; `configured_new` says that the consensus' do.
* `nextAdjustment_pos`: the adjustment factor is positive, because the average is at least 50000 and the
  factors `alpha` are at most 1.
* `baseGas_recurrence_safe`: so along every run of blocks no division is by zero, and the average and the
  price keep their lower bounds.
-/

namespace OpnetNode

namespace BlockGasPredictor

/-- The parameters allow no division by zero, and no adjustment factor below or at zero. -/
structure Configured (p : BlockGasPredictor) : Prop where
  gasTarget_pos : 0 < p.gasTarget
  bMin_pos : 0 < p.bMin
  alpha1_nonneg : 0 ≤ p.alpha1
  alpha1_le : p.alpha1 ≤ scalingFactor
  alpha2_nonneg : 0 ≤ p.alpha2
  alpha2_le : p.alpha2 ≤ scalingFactor
  uTarget_lt : p.uTarget < scalingFactor + 50000

theorem scalingFactor_pos : 0 < scalingFactor := by decide

theorem toBase_intCast (n : ℤ) : toBase n = n * scalingFactor := by
  rw [toBase, Int.floor_eq_iff]
  push_cast
  constructor <;> linarith

/-- A number with eight decimals is scaled exactly. -/
theorem toBase_eq {value : ℚ} {n : ℤ} (h : value * scalingFactor = n) : toBase value = n := by
  rw [toBase, h, Int.floor_eq_iff]
  constructor <;> linarith

theorem configured_new (currentB : ℤ) : Configured (new RoswellConsensus.GAS currentB) := by
  have hone : toBase 1 = scalingFactor := by
    have h := toBase_intCast 1
    rwa [Int.cast_one, one_mul] at h
  have hhalf : toBase (1 / 2) = 50000000 := by
    apply toBase_eq
    norm_num [scalingFactor]
  refine ⟨?_, ?_, ?_, ?_, ?_, ?_, ?_⟩
  · show (0 : ℤ) < 20000000000001 + 1000000000
    decide
  · show 0 < toBase 1
    rw [hone]
    exact scalingFactor_pos
  · show 0 ≤ toBase (1 / 2)
    rw [hhalf]
    decide
  · show toBase (1 / 2) ≤ scalingFactor
    rw [hhalf]
    decide
  · show 0 ≤ toBase 1
    rw [hone]
    exact scalingFactor_pos.le
  · show toBase 1 ≤ scalingFactor
    rw [hone]
  · show toBase 1 < scalingFactor + 50000
    rw [hone]
    omega

variable {p : BlockGasPredictor}

theorem calculateUCurrent_eq_ok (hp : p.Configured) (usedBlockGas : ℤ) :
    ∃ uCurrent, p.calculateUCurrent usedBlockGas = .ok uCurrent := by
  rw [calculateUCurrent, divideBigInt, if_neg hp.gasTarget_pos.ne']
  exact ⟨_, rfl⟩

theorem nextEMA_eq_ok (hp : p.Configured) (usedBlockGas prevEMA : ℤ) :
    ∃ ema, p.nextEMA usedBlockGas prevEMA = .ok ema ∧ 50000 ≤ ema := by
  obtain ⟨uCurrent, hcurrent⟩ := calculateUCurrent_eq_ok hp usedBlockGas
  rw [nextEMA, hcurrent]
  exact ⟨_, rfl, le_max_right _ _⟩

theorem adjustmentChange_bounds {alpha diff : ℤ} (halpha : 0 ≤ alpha) (hle : alpha ≤ scalingFactor)
    (hdiff : 0 ≤ diff) :
    0 ≤ (alpha * diff).tdiv scalingFactor ∧ (alpha * diff).tdiv scalingFactor ≤ diff := by
  have hprod : 0 ≤ alpha * diff := mul_nonneg halpha hdiff
  rw [Int.tdiv_eq_ediv_of_nonneg hprod]
  refine ⟨Int.ediv_nonneg hprod scalingFactor_pos.le, ?_⟩
  have hmul : alpha * diff ≤ diff * scalingFactor := by
    rw [mul_comm diff]
    exact mul_le_mul_of_nonneg_right hle hdiff
  calc alpha * diff / scalingFactor ≤ diff * scalingFactor / scalingFactor :=
        Int.ediv_le_ediv scalingFactor_pos hmul
    _ = diff := Int.mul_ediv_cancel _ scalingFactor_pos.ne'

theorem nextAdjustment_pos (hp : p.Configured) (usedBlockGas : ℤ) {ema : ℤ} (hema : 50000 ≤ ema) :
    0 < p.nextAdjustment usedBlockGas ema := by
  have htarget := hp.uTarget_lt
  have hscaling := scalingFactor_pos
  -- whichever of the two factors is used, it is between 0 and 1
  obtain ⟨alpha, halpha, hnonneg, hle⟩ : ∃ alpha,
      (if p.gasTarget < usedBlockGas then p.alpha1 else p.alpha2) = alpha
        ∧ 0 ≤ alpha ∧ alpha ≤ scalingFactor := by
    split
    · exact ⟨_, rfl, hp.alpha1_nonneg, hp.alpha1_le⟩
    · exact ⟨_, rfl, hp.alpha2_nonneg, hp.alpha2_le⟩
  rw [nextAdjustment, halpha]
  dsimp only [calculateAdjustment]
  by_cases habove : p.uTarget < ema
  · simp only [habove, if_true]
    have hdiff : 0 ≤ ema - p.uTarget := by omega
    obtain ⟨hchange, -⟩ := adjustmentChange_bounds hnonneg hle hdiff
    omega
  · simp only [habove, if_false]
    rw [if_neg (by decide)]
    have hdiff : 0 ≤ p.uTarget - ema := by omega
    obtain ⟨-, hchange⟩ := adjustmentChange_bounds hnonneg hle hdiff
    omega

theorem bMin_le_calculateBNext (p : BlockGasPredictor) (adjustment : ℤ) :
    p.bMin ≤ p.calculateBNext adjustment := le_max_right _ _

theorem calculateNextBaseGas_eq_ok (hp : p.Configured) (usedBlockGas prevEMA : ℤ) :
    ∃ calculated, p.calculateNextBaseGas usedBlockGas prevEMA = .ok calculated
      ∧ 50000 ≤ calculated.ema ∧ p.bMin ≤ calculated.bNext
      ∧ 0 < p.nextAdjustment usedBlockGas calculated.ema := by
  obtain ⟨ema, hok, hema⟩ := nextEMA_eq_ok hp usedBlockGas prevEMA
  rw [calculateNextBaseGas, hok]
  exact ⟨_, rfl, hema, bMin_le_calculateBNext p _, nextAdjustment_pos hp usedBlockGas hema⟩

end BlockGasPredictor

namespace BlockGas

open BlockGasPredictor

theorem minBaseGas_pos : 0 < toBase RoswellConsensus.GAS.MIN_BASE_GAS := (configured_new 0).bMin_pos

theorem calculateNextBlockBaseGas_eq_ok (simulate : Bool) (blockUsedGas : ℕ) (b : BlockGas) :
    ∃ calculated,
      calculateNextBlockBaseGas RoswellConsensus.GAS simulate blockUsedGas b = .ok calculated
        ∧ 50000 ≤ calculated.ema ∧ toBase RoswellConsensus.GAS.MIN_BASE_GAS ≤ calculated.bNext
        ∧ 0 < (b.predictor RoswellConsensus.GAS).nextAdjustment
          (countedGas RoswellConsensus.GAS simulate blockUsedGas) calculated.ema :=
  calculateNextBaseGas_eq_ok (configured_new _) _ _

theorem calculateMaxGas_eq_ok (consensus : GasConsensus) (isSimulation : Bool) (gasInSat : ℕ)
    {baseGas : ℤ} (hbase : 0 < baseGas) (TRANSACTION_MAX_GAS : ℕ) :
    ∃ gas, calculateMaxGas consensus isSimulation gasInSat baseGas TRANSACTION_MAX_GAS = .ok gas := by
  rw [calculateMaxGas, if_neg hbase.ne']
  exact ⟨_, rfl⟩

theorem prevBaseGas_pos {b : BlockGas} (h : 0 ≤ b.storedBaseGas) :
    0 < b.prevBaseGas RoswellConsensus.GAS := by
  unfold prevBaseGas
  split
  · exact minBaseGas_pos
  · omega

theorem processBlocks_eq_ok (simulate : Bool) (usedGas : List ℕ) (previous : Option HeaderGas)
    (h : 0 ≤ (setGasParameters previous).storedBaseGas) :
    ∃ last, processBlocks RoswellConsensus.GAS simulate previous usedGas = .ok last
      ∧ 0 ≤ (setGasParameters last).storedBaseGas := by
  induction usedGas generalizing previous with
  | nil => exact ⟨previous, rfl, h⟩
  | cons blockUsedGas usedGas ih =>
    obtain ⟨calculated, hok, -, hprice, -⟩ :=
      calculateNextBlockBaseGas_eq_ok simulate blockUsedGas (setGasParameters previous)
    have hnonneg : 0 ≤ (setGasParameters (some (header calculated))).storedBaseGas := by
      show 0 ≤ calculated.bNext
      exact minBaseGas_pos.le.trans hprice
    obtain ⟨last, hlast, hstored⟩ := ih (some (header calculated)) hnonneg
    refine ⟨last, ?_, hstored⟩
    rw [processBlocks, hok]
    exact hlast

/-- **The recurrence is safe.** After every run of blocks from the first header on, the next block is
given an average of at least 50000 and a price that is positive and at least the minimum, by a positive
adjustment factor, and neither these nor the gas that a fee buys at the old or the new price divide by
zero. -/
theorem baseGas_recurrence_safe (simulate : Bool) (usedGas : List ℕ) (blockUsedGas : ℕ) :
    ∃ previous calculated,
      processBlocks RoswellConsensus.GAS simulate none usedGas = .ok previous
        ∧ calculateNextBlockBaseGas RoswellConsensus.GAS simulate blockUsedGas
          (setGasParameters previous) = .ok calculated
        ∧ 50000 ≤ calculated.ema
        ∧ toBase RoswellConsensus.GAS.MIN_BASE_GAS ≤ calculated.bNext ∧ 0 < calculated.bNext
        ∧ 0 < ((setGasParameters previous).predictor RoswellConsensus.GAS).nextAdjustment
          (countedGas RoswellConsensus.GAS simulate blockUsedGas) calculated.ema
        ∧ ∀ isSimulation gasInSat maxGas,
          (∃ gas, calculateMaxGas RoswellConsensus.GAS isSimulation gasInSat calculated.bNext maxGas
            = .ok gas)
          ∧ ∃ gas, calculateMaxGas RoswellConsensus.GAS isSimulation gasInSat
            ((setGasParameters previous).prevBaseGas RoswellConsensus.GAS) maxGas = .ok gas := by
  obtain ⟨previous, hrun, hstored⟩ := processBlocks_eq_ok simulate usedGas none (le_refl 0)
  obtain ⟨calculated, hok, hema, hprice, hadjustment⟩ :=
    calculateNextBlockBaseGas_eq_ok simulate blockUsedGas (setGasParameters previous)
  have hpos : 0 < calculated.bNext := minBaseGas_pos.trans_le hprice
  exact ⟨previous, calculated, hrun, hok, hema, hprice, hpos, hadjustment, fun isSimulation gasInSat maxGas =>
    ⟨calculateMaxGas_eq_ok _ isSimulation gasInSat hpos maxGas,
      calculateMaxGas_eq_ok _ isSimulation gasInSat (prevBaseGas_pos hstored) maxGas⟩⟩

end BlockGas

end OpnetNode
