import Mathlib.Algebra.Order.Floor.Ring
import Mathlib.Data.Rat.Floor
import OpnetNode.Vm.GasTracker

/-!
# The base gas of a block

Each block is given an average of the gas used so far and the price of gas for the next block, both
scaled by `scalingFactor`, in exact integers; a division truncates. The average and the price are carried
on in the stored header.
-/

namespace OpnetNode

/-- Errors of integer arithmetic. -/
inductive GasError where
  | divisionByZero
  deriving DecidableEq, Repr

/-- The consensus parameters of the price of gas. -/
structure GasConsensus where
  TARGET_GAS : ℤ
  SMOOTH_OUT_GAS_INCREASE : ℤ
  TRANSACTION_MAX_GAS : ℕ
  SAT_TO_GAS_RATIO : ℕ
  MIN_BASE_GAS : ℚ
  SMOOTHING_FACTOR : ℚ
  ALPHA1 : ℚ
  ALPHA2 : ℚ
  U_TARGET : ℚ

/-- `RoswellConsensus.GAS`. -/
def RoswellConsensus.GAS : GasConsensus where
  TARGET_GAS := 20000000000001
  SMOOTH_OUT_GAS_INCREASE := 1000000000
  TRANSACTION_MAX_GAS := OpnetNode.TRANSACTION_MAX_GAS
  SAT_TO_GAS_RATIO := 1000000
  MIN_BASE_GAS := 1
  SMOOTHING_FACTOR := 2 / 5
  ALPHA1 := 1 / 2
  ALPHA2 := 1
  U_TARGET := 1

/-- What a block is given: the price of the next block, and the average. -/
structure CalculatedBlockGas where
  bNext : ℤ
  ema : ℤ
  deriving DecidableEq, Repr

structure BlockGasPredictor where
  gasTarget : ℤ
  bMin : ℤ
  smoothingFactor : ℤ
  alpha1 : ℤ
  alpha2 : ℤ
  uTarget : ℤ
  currentB : ℤ
  deriving DecidableEq, Repr

namespace BlockGasPredictor

/-- Ten to the power of `decimalPrecision`. -/
def scalingFactor : ℤ := 10 ^ 8

/-- `toBase`, which rounds. -/
def toBase (value : ℚ) : ℤ := ⌊value * scalingFactor + 1 / 2⌋

def toBaseBigInt (value : ℤ) : ℤ := value * scalingFactor

def new (consensus : GasConsensus) (currentB : ℤ) : BlockGasPredictor where
  gasTarget := consensus.TARGET_GAS + consensus.SMOOTH_OUT_GAS_INCREASE
  bMin := toBase consensus.MIN_BASE_GAS
  smoothingFactor := toBase consensus.SMOOTHING_FACTOR
  alpha1 := toBase consensus.ALPHA1
  alpha2 := toBase consensus.ALPHA2
  uTarget := toBase consensus.U_TARGET
  currentB := if 0 < currentB then currentB else toBase consensus.MIN_BASE_GAS

def multiplyBigInt (a b : ℤ) : ℤ := (a * b).tdiv scalingFactor

def divideBigInt (a b : ℤ) : Except GasError ℤ :=
  if b = 0 then .error .divisionByZero else .ok ((a * scalingFactor).tdiv b)

variable (p : BlockGasPredictor)

def calculateUCurrent (usedBlockGas : ℤ) : Except GasError ℤ :=
  divideBigInt (usedBlockGas * scalingFactor) p.gasTarget

def calculateEMA (uCurrentScaled previousEMAScaled : ℤ) : ℤ :=
  let alphaPart := multiplyBigInt p.smoothingFactor uCurrentScaled
  let oneMinusAlphaScaled := scalingFactor - p.smoothingFactor
  alphaPart + multiplyBigInt oneMinusAlphaScaled previousEMAScaled

def calculateAdjustment (emaScaled alphaScaled sign : ℤ) : ℤ :=
  let diff := if p.uTarget < emaScaled then emaScaled - p.uTarget else p.uTarget - emaScaled
  let adjustmentChange := (alphaScaled * diff).tdiv scalingFactor
  if sign = 1 then scalingFactor + adjustmentChange else scalingFactor - adjustmentChange

def calculateBNext (adjustmentScaled : ℤ) : ℤ :=
  max (multiplyBigInt p.currentB adjustmentScaled) p.bMin

/-- The average of `calculateNextBaseGas`, which is at least 50000. -/
def nextEMA (usedBlockGas prevEMA : ℤ) : Except GasError ℤ :=
  let prevEMA := if prevEMA = 0 then p.uTarget else prevEMA
  match p.calculateUCurrent usedBlockGas with
  | .error e => .error e
  | .ok uCurrent => .ok (max (p.calculateEMA (uCurrent.tdiv scalingFactor) prevEMA) 50000)

/-- The adjustment factor of `calculateNextBaseGas`. -/
def nextAdjustment (usedBlockGas emaScaled : ℤ) : ℤ :=
  let alpha := if p.gasTarget < usedBlockGas then p.alpha1 else p.alpha2
  let sign := if p.uTarget < emaScaled then 1 else -1
  p.calculateAdjustment emaScaled alpha sign

def calculateNextBaseGas (usedBlockGas prevEMA : ℤ) : Except GasError CalculatedBlockGas :=
  match p.nextEMA usedBlockGas prevEMA with
  | .error e => .error e
  | .ok emaScaled => .ok ⟨p.calculateBNext (p.nextAdjustment usedBlockGas emaScaled), emaScaled⟩

end BlockGasPredictor

/-! ### The block -/

/-- What the stored header of a block says about gas; a field may be missing. -/
structure HeaderGas where
  ema : Option ℤ
  baseGas : Option ℤ
  deriving DecidableEq, Repr

/-- The gas parameters of a block. -/
structure BlockGas where
  prevEMA : ℤ
  storedBaseGas : ℤ
  deriving DecidableEq, Repr

namespace BlockGas

/-- `setGasParameters`, on a new block. -/
def setGasParameters : Option HeaderGas → BlockGas
  | none => ⟨0, 0⟩
  | some previous => ⟨previous.ema.getD 0, previous.baseGas.getD 0⟩

/-- The getter `prevBaseGas`. -/
def prevBaseGas (consensus : GasConsensus) (b : BlockGas) : ℤ :=
  if b.storedBaseGas = 0 then BlockGasPredictor.toBase consensus.MIN_BASE_GAS else b.storedBaseGas

def predictor (consensus : GasConsensus) (b : BlockGas) : BlockGasPredictor :=
  .new consensus (b.prevBaseGas consensus)

/-- The used gas that `calculateNextBlockBaseGas` counts. -/
def countedGas (consensus : GasConsensus) (SIMULATE_HIGH_GAS_USAGE : Bool) (blockUsedGas : ℕ) : ℤ :=
  if SIMULATE_HIGH_GAS_USAGE then blockUsedGas + (consensus.TARGET_GAS - 1000000) else blockUsedGas

def calculateNextBlockBaseGas (consensus : GasConsensus) (SIMULATE_HIGH_GAS_USAGE : Bool)
    (blockUsedGas : ℕ) (b : BlockGas) : Except GasError CalculatedBlockGas :=
  (b.predictor consensus).calculateNextBaseGas
    (countedGas consensus SIMULATE_HIGH_GAS_USAGE blockUsedGas) b.prevEMA

/-- What `getBlockHeaderDocument` stores, in exact integers: the source stores `Number(ema)` and
`Number(baseGas)`, which are exact up to `2 ^ 53`. -/
def header (calculated : CalculatedBlockGas) : HeaderGas :=
  ⟨some calculated.ema, some calculated.bNext⟩

/-- The header of the last of some blocks, given the gas that each of them uses. -/
def processBlocks (consensus : GasConsensus) (SIMULATE_HIGH_GAS_USAGE : Bool) :
    Option HeaderGas → List ℕ → Except GasError (Option HeaderGas)
  | previous, [] => .ok previous
  | previous, blockUsedGas :: blocks =>
    match calculateNextBlockBaseGas consensus SIMULATE_HIGH_GAS_USAGE blockUsedGas
        (setGasParameters previous) with
    | .error e => .error e
    | .ok calculated =>
      processBlocks consensus SIMULATE_HIGH_GAS_USAGE (some (header calculated)) blocks

end BlockGas

/-! ### The gas of a transaction -/

/-- `GasTracker.convertSatToGas`. -/
def GasTracker.convertSatToGas (sat maxGas ratio : ℕ) : ℕ :=
  if sat * ratio < maxGas then sat * ratio else maxGas

def calculateMaxGas (consensus : GasConsensus) (isSimulation : Bool) (gasInSat : ℕ) (baseGas : ℤ)
    (TRANSACTION_MAX_GAS : ℕ) : Except GasError ℤ :=
  let gas := if isSimulation then TRANSACTION_MAX_GAS
    else GasTracker.convertSatToGas gasInSat TRANSACTION_MAX_GAS consensus.SAT_TO_GAS_RATIO
  let gasToScale := BlockGasPredictor.toBaseBigInt gas
  if baseGas = 0 then .error .divisionByZero else .ok (gasToScale.tdiv baseGas)

end OpnetNode
