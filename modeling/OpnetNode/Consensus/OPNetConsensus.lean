import Mathlib.Data.Int.Notation
import Mathlib.Data.List.Basic
import Mathlib.Data.Nat.Notation
import OpnetNode.Proc

/-!
# The consensus configuration in force

A node looks its rules up in one configuration at a time. `setBlockHeight` searches the table for one
when none is set, and afterwards goes on to the next one when its block is reached.
-/

namespace OpnetNode

/-- A consensus configuration: what it says about itself, and its rules. The members of the
enumeration `Consensus` are numbers. -/
structure IOPNetConsensus (Rules : Type) where
  ENABLED_AT_BLOCK : ℤ
  NEXT_CONSENSUS : ℕ
  NEXT_CONSENSUS_BLOCK : ℤ
  IS_READY_FOR_NEXT_CONSENSUS : Bool
  rules : Rules
  deriving DecidableEq, Repr

/-- The configurations by their key, in the order of `Object.keys`; a key may have no value. -/
abbrev IOPNetConsensusObj (Rules : Type) := List (ℕ × Option (IOPNetConsensus Rules))

/-- The reindex settings of `Config.OP_NET`. -/
structure ReindexConfig where
  REINDEX : Bool
  REINDEX_FROM_BLOCK : ℤ
  deriving DecidableEq, Repr

inductive ConsensusError where
  | consensusNotSet
  | nextConsensusNotSet
  | nextConsensusNotReady
  | nextConsensusNotFound
  /-- `process.exit(1)`. -/
  | exit
  deriving DecidableEq, Repr

/-- What `OPNetConsensusConfiguration` keeps, and what it told the upgrade callbacks: the next
consensus, and whether the node is ready for it. -/
structure OPNetConsensusConfiguration (Rules : Type) where
  blockHeight : ℤ
  consensus : Option (IOPNetConsensus Rules)
  callbacks : List (ℕ × Bool)
  deriving DecidableEq, Repr

namespace OPNetConsensusConfiguration

variable {Rules : Type}

/-- A node that has just started. -/
def new : OPNetConsensusConfiguration Rules := ⟨0, none, []⟩

/-- A method of the configuration. -/
abbrev ConsensusM (Rules : Type) := Proc (OPNetConsensusConfiguration Rules) ConsensusError

/-- Set the configuration in force. -/
def setConsensus (c : Option (IOPNetConsensus Rules)) : ConsensusM Rules Unit :=
  Proc.modify fun s => { s with consensus := c }

/-- The getter `consensus`. -/
def getConsensus : ConsensusM Rules (IOPNetConsensus Rules) := fun s =>
  match s.consensus with
  | none => (.error .consensusNotSet, s)
  | some c => (.ok c, s)

/-- `updateConfigurations`: the loop over the keys. -/
def updateConfigurations : IOPNetConsensusObj Rules → ConsensusM Rules Unit
  | [] => pure ()
  | (_, none) :: _ => Proc.throw .exit
  | (_, some c) :: allConsensus => do
    let s ← Proc.get
    if c.ENABLED_AT_BLOCK > s.blockHeight then updateConfigurations allConsensus
    else do
      setConsensus (some c)
      if c.NEXT_CONSENSUS_BLOCK ≥ s.blockHeight then pure ()
      else if c.IS_READY_FOR_NEXT_CONSENSUS then updateConfigurations allConsensus
      else Proc.throw .exit

def triggerConsensusEnforcementCallbacks (wasReady : Bool) : ConsensusM Rules Unit := do
  let c ← getConsensus
  Proc.modify fun s => { s with callbacks := s.callbacks ++ [(c.NEXT_CONSENSUS, wasReady)] }

/-- `allConsensus[key]`. -/
def configOf (allConsensus : IOPNetConsensusObj Rules) (key : ℕ) : Option (IOPNetConsensus Rules) :=
  (allConsensus.find? fun entry => entry.1 = key).bind Prod.snd

/-- `enforceNextConsensus`. The first member of the enumeration is falsy. -/
def enforceNextConsensus (allConsensus : IOPNetConsensusObj Rules) : ConsensusM Rules Unit := do
  let c ← getConsensus
  Proc.throwIf (c.NEXT_CONSENSUS = 0) .nextConsensusNotSet
  triggerConsensusEnforcementCallbacks c.IS_READY_FOR_NEXT_CONSENSUS
  -- something must fail from here on if the next consensus is not set
  setConsensus none
  Proc.throwIf (c.IS_READY_FOR_NEXT_CONSENSUS = false) .nextConsensusNotReady
  Proc.throwIf ((configOf allConsensus c.NEXT_CONSENSUS).isNone) .nextConsensusNotFound
  setConsensus (configOf allConsensus c.NEXT_CONSENSUS)

/-- The height that a call is about: a node that reindexes starts where it reindexes from. -/
def heightOf (config : ReindexConfig) (blockHeight : ℤ) (wasReorg : Bool)
    (s : OPNetConsensusConfiguration Rules) : ℤ :=
  if config.REINDEX && s.consensus.isNone && !wasReorg then config.REINDEX_FROM_BLOCK
  else blockHeight

/-- The next consensus is enforced from its block on. -/
def enforceIfReached (allConsensus : IOPNetConsensusObj Rules) (blockHeight : ℤ) :
    ConsensusM Rules Unit := do
  let s ← Proc.get
  match s.consensus with
  | none => pure ()
  | some c =>
    if c.NEXT_CONSENSUS_BLOCK ≤ blockHeight then enforceNextConsensus allConsensus else pure ()

def setBlockHeight (allConsensus : IOPNetConsensusObj Rules) (config : ReindexConfig)
    (blockHeight : ℤ) (wasReorg : Bool) : ConsensusM Rules Unit := do
  let s ← Proc.get
  Proc.modify fun s => { s with blockHeight := heightOf config blockHeight wasReorg s }
  if s.consensus.isNone then do
    updateConfigurations allConsensus
    enforceIfReached allConsensus (heightOf config blockHeight wasReorg s)
  else enforceIfReached allConsensus (heightOf config blockHeight wasReorg s)

end OPNetConsensusConfiguration

end OpnetNode
