import OpnetNode.Vm.ContractEvaluation

/-!
# What setting the gas of a frame does

`setGasUsed` writes one of the two counters of the tracker or runs out of gas, and does nothing else.
-/

namespace OpnetNode

namespace GasTracker

/-- Whether the gas that a frame reports goes to the special counter. -/
def countsSpecial (t : GasTracker) (isExternCall : Bool) (contract : Bytes) : Bool :=
  !isExternCall && t.settings.any fun s => s.freeGas && s.address = contract

/-- The tracker after a frame reported its gas. -/
def counted (t : GasTracker) (gas : Nat) (isExternCall : Bool) (contract : Bytes) : GasTracker :=
  if t.countsSpecial isExternCall contract then { t with specialGasUsed := gas }
  else { t with gasUsed := gas }

theorem setGasUsed_eq (t : GasTracker) (gas : Nat) (isExternCall : Bool) (contract : Bytes) :
    t.setGasUsed gas 0 isExternCall contract =
      if t.maxGasVM isExternCall < gas then .error .outOfGas
      else .ok (t.counted gas isExternCall contract) := by
  unfold setGasUsed counted countsSpecial
  dsimp only
  cases hfree : !isExternCall && t.settings.any fun s => s.freeGas && s.address = contract with
  | true | false => simp

end GasTracker

namespace Method

theorem setGasUsed_eq (gas : Nat) (l : Locals) :
    setGasUsed gas l =
      if l.ctx.gasTracker.maxGasVM l.evaluation.externalCall < gas then (.error .outOfGas, l)
      else (.ok (), { l with ctx := { l.ctx with
        gasTracker := l.ctx.gasTracker.counted gas l.evaluation.externalCall
          l.evaluation.contractAddress } }) := by
  unfold setGasUsed onContext
  dsimp only
  rw [GasTracker.setGasUsed_eq]
  split_ifs <;> rfl

end Method

end OpnetNode
