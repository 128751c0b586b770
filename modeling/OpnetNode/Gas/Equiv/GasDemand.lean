import OpnetNode.Gas.Equiv.BlockGasPredictor

/-!
# The price of gas and the demand for it

The gas that a block uses enters its successor's price twice: in the average, which grows with it, and
in the choice of the factor `alpha`, which is `ALPHA2` up to the target and the smaller `ALPHA1` above
it.  `calculateNextBaseGas_mono_or_anti` says when more gas makes the next block cheaper: only if the
target lies between the two amounts, the average is already above its own target, and `ALPHA1` makes less
of the larger average than `ALPHA2` makes of the smaller one (`FactorDrops`).
-/

namespace OpnetNode

namespace BlockGasPredictor

/-- The parameters let the average and the price follow the used gas. -/
structure Responsive (p : BlockGasPredictor) : Prop extends Configured p where
  smoothingFactor_nonneg : 0 ≤ p.smoothingFactor
  alpha1_le_alpha2 : p.alpha1 ≤ p.alpha2
  currentB_pos : 0 < p.currentB

theorem new_roswell (currentB : ℤ) :
    new RoswellConsensus.GAS currentB =
      { gasTarget := 20001000000001
        bMin := 100000000
        smoothingFactor := 40000000
        alpha1 := 50000000
        alpha2 := 100000000
        uTarget := 100000000
        currentB := if 0 < currentB then currentB else 100000000 } := by
  have hone : toBase 1 = 100000000 := by
    apply toBase_eq
    norm_num [scalingFactor]
  have hhalf : toBase (1 / 2) = 50000000 := by
    apply toBase_eq
    norm_num [scalingFactor]
  have hsmoothing : toBase (2 / 5) = 40000000 := by
    apply toBase_eq
    norm_num [scalingFactor]
  unfold new
  simp only [RoswellConsensus.GAS, hone, hhalf, hsmoothing]
  rfl

theorem responsive_new (currentB : ℤ) : Responsive (new RoswellConsensus.GAS currentB) := by
  refine ⟨configured_new currentB, ?_, ?_, ?_⟩ <;> rw [new_roswell]
  · show (0 : ℤ) ≤ 40000000
    omega
  · show (50000000 : ℤ) ≤ 100000000
    omega
  · show (0 : ℤ) < if 0 < currentB then currentB else 100000000
    split_ifs <;> omega

variable {p : BlockGasPredictor}

/-! ### The average -/

variable {a b c : ℤ}

theorem multiplyBigInt_mono (ha : 0 ≤ a) (h : b ≤ c) : multiplyBigInt a b ≤ multiplyBigInt a c := by
  apply Int.tdiv_le_tdiv scalingFactor_pos
  exact mul_le_mul_of_nonneg_left h ha

variable {g₁ g₂ : ℤ}

theorem calculateUCurrent_mono (hp : p.Configured) (h : g₁ ≤ g₂) :
    ∃ u₁ u₂, p.calculateUCurrent g₁ = .ok u₁ ∧ p.calculateUCurrent g₂ = .ok u₂ ∧ u₁ ≤ u₂ := by
  unfold calculateUCurrent divideBigInt
  rw [if_neg hp.gasTarget_pos.ne', if_neg hp.gasTarget_pos.ne']
  refine ⟨_, _, rfl, rfl, ?_⟩
  apply Int.tdiv_le_tdiv hp.gasTarget_pos
  have hscaled : g₁ * scalingFactor ≤ g₂ * scalingFactor :=
    mul_le_mul_of_nonneg_right h scalingFactor_pos.le
  exact mul_le_mul_of_nonneg_right hscaled scalingFactor_pos.le

theorem nextEMA_mono (hp : p.Responsive) (h : g₁ ≤ g₂) (prevEMA : ℤ) :
    ∃ ema₁ ema₂, p.nextEMA g₁ prevEMA = .ok ema₁ ∧ p.nextEMA g₂ prevEMA = .ok ema₂ ∧
      50000 ≤ ema₁ ∧ ema₁ ≤ ema₂ := by
  obtain ⟨u₁, u₂, hu₁, hu₂, hu⟩ := calculateUCurrent_mono hp.toConfigured h
  unfold nextEMA
  rw [hu₁, hu₂]
  refine ⟨_, _, rfl, rfl, le_max_right _ _, ?_⟩
  have hscaled : u₁.tdiv scalingFactor ≤ u₂.tdiv scalingFactor :=
    Int.tdiv_le_tdiv scalingFactor_pos hu
  apply max_le_max_right
  have halpha := multiplyBigInt_mono hp.smoothingFactor_nonneg hscaled
  show multiplyBigInt p.smoothingFactor _ + _ ≤ multiplyBigInt p.smoothingFactor _ + _
  exact Int.add_le_add_right halpha _

/-! ### The adjustment factor -/

/-- What a factor makes of the distance between the average and its target. -/
def adjustmentChange (alpha diff : ℤ) : ℤ := (alpha * diff).tdiv scalingFactor

theorem adjustmentChange_mono {d : ℤ} (ha : 0 ≤ a) (hab : a ≤ b) (hc : 0 ≤ c) (hcd : c ≤ d) :
    adjustmentChange a c ≤ adjustmentChange b d := by
  apply Int.tdiv_le_tdiv scalingFactor_pos
  exact mul_le_mul hab hcd hc (ha.trans hab)

theorem adjustmentChange_nonneg (ha : 0 ≤ a) (hc : 0 ≤ c) : 0 ≤ adjustmentChange a c :=
  Int.tdiv_nonneg (mul_nonneg ha hc) scalingFactor_pos.le

/-- The factor that is chosen by the used gas. -/
def alphaOf (p : BlockGasPredictor) (usedBlockGas : ℤ) : ℤ :=
  if p.gasTarget < usedBlockGas then p.alpha1 else p.alpha2

theorem alphaOf_nonneg (hp : p.Configured) (g : ℤ) : 0 ≤ p.alphaOf g := by
  unfold alphaOf
  split_ifs
  · exact hp.alpha1_nonneg
  · exact hp.alpha2_nonneg

theorem nextAdjustment_eq (p : BlockGasPredictor) (g ema : ℤ) :
    p.nextAdjustment g ema =
      if p.uTarget < ema then scalingFactor + adjustmentChange (p.alphaOf g) (ema - p.uTarget)
      else scalingFactor - adjustmentChange (p.alphaOf g) (p.uTarget - ema) := by
  unfold nextAdjustment calculateAdjustment adjustmentChange alphaOf
  by_cases habove : p.uTarget < ema
  · simp only [habove, if_true]
  · simp only [habove, if_false]
    rw [if_neg (by decide)]

/-- The target for the used gas is passed while the average is above its own target, and the smaller
factor makes less of the average than the larger one did. -/
def FactorDrops (p : BlockGasPredictor) (g₁ g₂ ema₁ ema₂ : ℤ) : Prop :=
  g₁ ≤ p.gasTarget ∧ p.gasTarget < g₂ ∧ p.uTarget < ema₁ ∧
    adjustmentChange p.alpha1 (ema₂ - p.uTarget) < adjustmentChange p.alpha2 (ema₁ - p.uTarget)

variable {ema₁ ema₂ : ℤ}

/-- **Step.** The adjustment factor grows with the used gas, unless the factor drops. -/
theorem nextAdjustment_mono (hp : p.Responsive) (h : g₁ ≤ g₂)
    (hema : ema₁ ≤ ema₂) (hnot : ¬ p.FactorDrops g₁ g₂ ema₁ ema₂) :
    p.nextAdjustment g₁ ema₁ ≤ p.nextAdjustment g₂ ema₂ := by
  have hconfigured := hp.toConfigured
  have hnonneg₁ := alphaOf_nonneg hconfigured g₁
  have hnonneg₂ := alphaOf_nonneg hconfigured g₂
  -- The factor can only drop, from `ALPHA2` to `ALPHA1`.
  have halpha : p.alphaOf g₂ ≤ p.alphaOf g₁ := by
    unfold alphaOf
    split_ifs with h₂ h₁ h₁
    · exact le_refl _
    · exact hp.alpha1_le_alpha2
    · omega
    · exact le_refl _
  rw [nextAdjustment_eq, nextAdjustment_eq]
  by_cases habove₁ : p.uTarget < ema₁
  · have habove₂ : p.uTarget < ema₂ := habove₁.trans_le hema
    rw [if_pos habove₁, if_pos habove₂]
    have hchange : adjustmentChange (p.alphaOf g₁) (ema₁ - p.uTarget) ≤
        adjustmentChange (p.alphaOf g₂) (ema₂ - p.uTarget) := by
      by_cases hcross : g₁ ≤ p.gasTarget ∧ p.gasTarget < g₂
      · obtain ⟨hle, hlt⟩ := hcross
        unfold alphaOf
        rw [if_neg hle.not_gt, if_pos hlt]
        by_contra hgt
        exact hnot ⟨hle, hlt, habove₁, not_le.mp hgt⟩
      · have hsame : p.alphaOf g₁ = p.alphaOf g₂ := by
          unfold alphaOf
          split_ifs with h₁ h₂ h₂
          · rfl
          · omega
          · omega
          · rfl
        rw [hsame]
        exact adjustmentChange_mono hnonneg₂ (le_refl _) (by omega) (by omega)
    omega
  · rw [if_neg habove₁]
    have hfall := adjustmentChange_nonneg hnonneg₁ (c := p.uTarget - ema₁) (by omega)
    by_cases habove₂ : p.uTarget < ema₂
    · rw [if_pos habove₂]
      have hrise := adjustmentChange_nonneg hnonneg₂ (c := ema₂ - p.uTarget) (by omega)
      omega
    · rw [if_neg habove₂]
      have hchange : adjustmentChange (p.alphaOf g₂) (p.uTarget - ema₂) ≤
          adjustmentChange (p.alphaOf g₁) (p.uTarget - ema₁) :=
        adjustmentChange_mono hnonneg₂ halpha (by omega) (by omega)
      omega

theorem nextAdjustment_anti (hema : ema₁ ≤ ema₂) (h : p.FactorDrops g₁ g₂ ema₁ ema₂) :
    p.nextAdjustment g₂ ema₂ < p.nextAdjustment g₁ ema₁ := by
  obtain ⟨hle, hlt, habove, hchange⟩ := h
  rw [nextAdjustment_eq, nextAdjustment_eq, if_pos habove, if_pos (habove.trans_le hema)]
  unfold alphaOf
  rw [if_neg hle.not_gt, if_pos hlt]
  omega

/-! ### The price -/

theorem calculateBNext_mono (hp : p.Responsive) (h : a ≤ b) :
    p.calculateBNext a ≤ p.calculateBNext b :=
  max_le_max_right _ (multiplyBigInt_mono hp.currentB_pos.le h)

/-- **The price and the demand.** For every price and average so far, a block that uses more gas does
not make the next one cheaper, unless the factor drops between the two amounts; then it does not make it
more expensive. -/
theorem calculateNextBaseGas_mono_or_anti (currentB prevEMA : ℤ) {g₁ g₂ : ℤ} (h : g₁ ≤ g₂) :
    ∃ next₁ next₂,
      (new RoswellConsensus.GAS currentB).calculateNextBaseGas g₁ prevEMA = .ok next₁ ∧
        (new RoswellConsensus.GAS currentB).calculateNextBaseGas g₂ prevEMA = .ok next₂ ∧
        (¬ (new RoswellConsensus.GAS currentB).FactorDrops g₁ g₂ next₁.ema next₂.ema →
          next₁.bNext ≤ next₂.bNext) ∧
        ((new RoswellConsensus.GAS currentB).FactorDrops g₁ g₂ next₁.ema next₂.ema →
          next₂.bNext ≤ next₁.bNext) := by
  have hp := responsive_new currentB
  obtain ⟨ema₁, ema₂, hema₁, hema₂, -, hema⟩ := nextEMA_mono hp h prevEMA
  unfold calculateNextBaseGas
  rw [hema₁, hema₂]
  refine ⟨_, _, rfl, rfl, fun hnot => ?_, fun hdrops => ?_⟩
  · exact calculateBNext_mono hp (nextAdjustment_mono hp h hema hnot)
  · exact calculateBNext_mono hp (nextAdjustment_anti hema hdrops).le

/-- A block just above the target, after an average at its own target. -/
theorem calculateNextBaseGas_mono_aboveTarget :
    ∃ next₁ next₂,
      (new RoswellConsensus.GAS 0).calculateNextBaseGas 20001000000001 0 = .ok next₁ ∧
        (new RoswellConsensus.GAS 0).calculateNextBaseGas 20001000000002 0 = .ok next₂ ∧
        next₁.bNext ≤ next₂.bNext := by
  obtain ⟨next₁, next₂, h₁, h₂, hmono, -⟩ :=
    calculateNextBaseGas_mono_or_anti 0 0 (show (20001000000001 : ℤ) ≤ 20001000000002 by omega)
  refine ⟨next₁, next₂, h₁, h₂, hmono ?_⟩
  rintro ⟨-, -, habove, -⟩
  rw [new_roswell] at h₁ habove
  obtain rfl : (⟨100000000, 100000000⟩ : CalculatedBlockGas) = next₁ := Except.ok.inj h₁
  exact lt_irrefl _ habove

/-- With the average at twice its target, the first unit of gas above the target for a block makes the
next one cheaper. -/
theorem calculateNextBaseGas_cheaper :
    ¬ ∀ (currentB prevEMA g₁ g₂ : ℤ) (next₁ next₂ : CalculatedBlockGas), g₁ ≤ g₂ →
      (new RoswellConsensus.GAS currentB).calculateNextBaseGas g₁ prevEMA = .ok next₁ →
      (new RoswellConsensus.GAS currentB).calculateNextBaseGas g₂ prevEMA = .ok next₂ →
      next₁.bNext ≤ next₂.bNext := by
  intro h
  have hcheaper := h 0 200000000 20001000000001 20001000000002 ⟨160000000, 160000000⟩
    ⟨130000000, 160000000⟩ (by omega) (by rw [new_roswell]; rfl) (by rw [new_roswell]; rfl)
  revert hcheaper
  decide

end BlockGasPredictor

end OpnetNode
