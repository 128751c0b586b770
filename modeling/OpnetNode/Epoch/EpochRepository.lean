import Mathlib.Data.List.Sort
import OpnetNode.AddressMap
import OpnetNode.Epoch.EpochValidator

/-!
# The epoch collection

The documents of the epoch collection and the queries and commands on it that block processing and
the revert use: `getEpochByNumber`, `getEpochsInBlockRange`, `getChallengeSolutionsAtHeight`,
`saveEpoch` and `deleteEpochFromBitcoinBlockNumber`.

Block numbers in a query are integers: the range asked for at a low height starts, and can end,
below zero.
-/

namespace OpnetNode

/-- Roswell's `EPOCH.BLOCKS_PER_EPOCH`. -/
def BLOCKS_PER_EPOCH : ℕ := 5

/-- Roswell's `EPOCH.SOLUTION_LIFETIME`, in blocks. -/
def SOLUTION_LIFETIME : ℕ := 80

/-- Roswell's `EPOCH.GRAFFITI_LENGTH`, in bytes. -/
def GRAFFITI_LENGTH : ℕ := 16

/-- `IEpochMiner`. -/
structure EpochMiner where
  solution : Bytes
  mldsaPublicKey : Bytes
  legacyPublicKey : Bytes
  salt : Bytes
  graffiti : Option Bytes
  deriving DecidableEq, Repr

/-- `IEpochDocument`, less its hash and what also depends on the witnesses peers happened to send (the
Merkle root and proofs). -/
structure EpochDocument where
  epochNumber : ℕ
  startBlock : ℕ
  endBlock : ℕ
  difficultyScaled : ℕ
  targetHash : Bytes
  proposer : EpochMiner
  deriving DecidableEq, Repr

/-- `ChallengeSolution`: the solutions each miner may be paid for, and the miners' legacy keys. -/
structure ChallengeSolution where
  solutions : AddressMap (List Bytes)
  legacyPublicKeys : AddressMap Bytes
  deriving DecidableEq, Repr

namespace EpochRepository

/-- The filter of `getEpochsInBlockRange`: the epoch starts in the range, ends in it, or spans
it. Both ends are inclusive. -/
def inBlockRange (startBlock endBlock : ℤ) (epoch : EpochDocument) : Bool :=
  (decide (startBlock ≤ epoch.startBlock) && decide ((epoch.startBlock : ℤ) ≤ endBlock))
    || (decide (startBlock ≤ epoch.endBlock) && decide ((epoch.endBlock : ℤ) ≤ endBlock))
    || (decide ((epoch.startBlock : ℤ) ≤ startBlock) && decide (endBlock ≤ epoch.endBlock))

/-- The epochs that touch a block range, by ascending epoch number. -/
def getEpochsInBlockRange (epochs : Collection EpochDocument) (startBlock endBlock : ℤ) :
    List EpochDocument :=
  (epochs.filter (inBlockRange startBlock endBlock)).insertionSort
    fun e e' => e.epochNumber ≤ e'.epochNumber

/-- The epochs whose solutions a block at `blockHeight` may use. -/
def getChallengeEpochsAtHeight (epochs : Collection EpochDocument) (blockHeight : ℕ) :
    List EpochDocument :=
  let adjustedEndBlock : ℤ := blockHeight - BLOCKS_PER_EPOCH
  getEpochsInBlockRange epochs (adjustedEndBlock - SOLUTION_LIFETIME) adjustedEndBlock

/-- The loop body of `getChallengeSolutionsAtHeight`. -/
def addEpoch (challengeSolution : ChallengeSolution) (epoch : EpochDocument) : ChallengeSolution :=
  let minerAddress := epoch.proposer.mldsaPublicKey
  let solutionArray := (challengeSolution.solutions.get minerAddress).getD []
  { solutions := challengeSolution.solutions.set minerAddress
      (solutionArray ++ [epoch.proposer.solution])
    legacyPublicKeys :=
      challengeSolution.legacyPublicKeys.set minerAddress epoch.proposer.legacyPublicKey }

/-- The solutions a block at `blockHeight` may use, by miner. -/
def getChallengeSolutionsAtHeight (epochs : Collection EpochDocument) (blockHeight : ℕ) :
    ChallengeSolution :=
  (getChallengeEpochsAtHeight epochs blockHeight).foldl addEpoch ⟨[], []⟩

def getEpochByNumber (epochs : Collection EpochDocument) (epochNumber : ℕ) : Option EpochDocument :=
  epochs.find? fun epoch => epoch.epochNumber = epochNumber

/-- Save an epoch, over the one of the same number if there is one. -/
def saveEpoch (epoch : EpochDocument) : Collection EpochDocument → Collection EpochDocument :=
  Collection.upsertOne (fun e => e.epochNumber = epoch.epochNumber) (fun _ => epoch) epoch

/-- Delete the epochs that start at `bitcoinBlockNumber` or later. -/
def deleteEpochFromBitcoinBlockNumber (bitcoinBlockNumber : ℤ) :
    Collection EpochDocument → Collection EpochDocument :=
  Collection.deleteMany ((HeightRange.atLeast bitcoinBlockNumber).selects fun epoch =>
    some epoch.startBlock)

end EpochRepository

end OpnetNode
