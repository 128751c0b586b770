import OpnetNode.Transition
import OpnetNode.Epoch.EpochRepository

/-!
# Epoch finalisation, and the node as far as epochs see it

* `getBestSubmission`: the winner among an epoch's submissions, through the early-mining whitelist,
  the number of matching bits and the tie-breaking comparator.
* `finalizeEpochCompletion`/`updateEpoch`: what is saved after the first block of a new epoch.
* `nodeStep`: one event of a node's history: a block is processed and the epoch it closes
  finalised, a block's processing is cut short after its data was written, or the storage is
  reverted.

Execution is the parameter `execute`: it gets the stored blocks below, the challenge solutions and
the block, and gives what the block leaves for epochs, its checksum root and its accepted
submissions.
-/

namespace OpnetNode

/-- One network's entry of `EPOCH.EARLY_MINING`; a block number that is not configured is `0`. -/
structure EarlyMiningConfig where
  ENABLED : Bool
  WHITELISTED_PUBLIC_KEY : Option Address
  EXPIRES_AT_BLOCK : ℕ
  PATCH_2_ENABLE_AT_BLOCK : ℕ
  EXPIRES_AT_BLOCK_PATCH_2 : ℕ
  deriving DecidableEq, Repr

/-- A submission `Block.processSubmissions` accepted, before it is stamped with its block. -/
structure AcceptedSubmission where
  submissionTxId : Bytes
  submissionTxHash : Bytes
  submissionHash : Bytes
  epochProposed : EpochMiner
  deriving DecidableEq, Repr

/-- `IEpochSubmissionsDocument`. -/
structure EpochSubmissionDocument extends AcceptedSubmission where
  confirmedAt : ℕ
  epochNumber : ℕ
  startBlock : ℕ
  deriving DecidableEq, Repr

structure EpochSubmissionWinner where
  epochNumber : ℕ
  matchingBits : ℕ
  salt : Bytes
  mldsaPublicKey : Bytes
  legacyPublicKey : Bytes
  solutionHash : Bytes
  graffiti : Bytes
  deriving DecidableEq, Repr

/-- What a processed block leaves in the storage: the block itself, its header's checksum root and
the submissions it confirmed. -/
structure StoredBlock (Raw : Type*) where
  raw : Raw
  checksumRoot : Bytes
  submissions : List EpochSubmissionDocument

/-- What epoch finalisation reads besides the storage: SHA-1, the genesis proposer and the
early-mining entry of the configured chain and network. -/
structure EpochEnvironment where
  hashBuffer : Bytes → Bytes
  GENESIS_PROPOSER_PUBLIC_KEY : Address
  earlyMining : Option EarlyMiningConfig

namespace EpochManager

open EpochValidator EpochRepository

def GENESIS_SALT : Bytes := List.replicate 32 255

/-! ### Choosing the winner -/

/-- The difference of the first bytes that differ, else of the lengths. -/
def compareBytes : Bytes → Bytes → ℤ
  | x :: a, y :: b => if x = y then compareBytes a b else (x.toNat : ℤ) - y.toNat
  | a, b => (a.length : ℤ) - b.length

/-- Whether the whitelist applies to an epoch that ends at `endBlock`. -/
def earlyMiningActive (networkConfig : EarlyMiningConfig) (endBlock : ℕ) : Bool :=
  -- a height of 0 is one that is not configured
  let patch2Active := networkConfig.PATCH_2_ENABLE_AT_BLOCK != 0
    && decide (networkConfig.PATCH_2_ENABLE_AT_BLOCK ≤ endBlock)
    && (networkConfig.EXPIRES_AT_BLOCK_PATCH_2 == 0
      || decide (endBlock < networkConfig.EXPIRES_AT_BLOCK_PATCH_2))
  let originalExpired := networkConfig.EXPIRES_AT_BLOCK != 0
    && decide (networkConfig.EXPIRES_AT_BLOCK ≤ endBlock)
  !(originalExpired && !patch2Active)

/-- Keep the whitelisted key's submissions while early mining is restricted. -/
def filterEarlyMiningSubmissions (earlyMining : Option EarlyMiningConfig)
    (submissions : List EpochSubmissionDocument) (endBlock : ℕ) : List EpochSubmissionDocument :=
  match earlyMining with
  | none => submissions
  | some networkConfig =>
    if !networkConfig.ENABLED then submissions
    else
      match networkConfig.WHITELISTED_PUBLIC_KEY with
      | none => submissions
      | some whitelistedKey =>
        if !earlyMiningActive networkConfig endBlock then submissions
        else submissions.filter fun submission =>
          whitelistedKey.mldsaPublicKey == submission.epochProposed.mldsaPublicKey

/-- The comparator of `getWinningSubmission`: the lower public key, then the lower transaction hash,
then the key that shares more bits with the target, then the lower salt, then the lower
transaction id. -/
def compareSubmissions (targetHash : Bytes) (a b : EpochSubmissionDocument) : Except String ℤ :=
  let aPublicKey := a.epochProposed.mldsaPublicKey
  let bPublicKey := b.epochProposed.mldsaPublicKey
  if aPublicKey.length < 32 ∨ bPublicKey.length < 32 then
    .error "Invalid public key length for comparison tiebreaker."
  else if compareBytes aPublicKey bPublicKey ≠ 0 then .ok (compareBytes aPublicKey bPublicKey)
  else if compareBytes a.submissionTxHash b.submissionTxHash ≠ 0 then
    .ok (compareBytes a.submissionTxHash b.submissionTxHash)
  else
    -- the keys are equal here, so this tiebreaker never decides
    let aPublicKeySlice := aPublicKey.drop 12
    let bPublicKeySlice := bPublicKey.drop 12
    if aPublicKeySlice.length = 20 ∧ bPublicKeySlice.length = 20 then
      let aPublicKeyBits := countMatchingBits aPublicKeySlice targetHash
      let bPublicKeyBits := countMatchingBits bPublicKeySlice targetHash
      if aPublicKeyBits ≠ bPublicKeyBits then .ok ((bPublicKeyBits : ℤ) - aPublicKeyBits)
      else if compareBytes a.epochProposed.salt b.epochProposed.salt ≠ 0 then
        .ok (compareBytes a.epochProposed.salt b.epochProposed.salt)
      else .ok (compareBytes a.submissionTxId b.submissionTxId)
    else .error "Invalid public key length for tiebreaker comparison."

/-- Insert into a sorted list, after the elements that compare equal. -/
def insertSorted {α : Type} (compare : α → α → Except String ℤ) (a : α) :
    List α → Except String (List α)
  | [] => .ok [a]
  | b :: l => do
    if (← compare a b) < 0 then .ok (a :: b :: l)
    else .ok (b :: (← insertSorted compare a l))

/-- A stable sort by a comparator that may throw. -/
def sort {α : Type} (compare : α → α → Except String ℤ) (l : List α) : Except String (List α) :=
  l.foldlM (fun sorted a => insertSorted compare a sorted) []

def getWinningSubmission (submissions : List EpochSubmissionDocument) (targetHash : Bytes) :
    Except String EpochSubmissionDocument := do
  match ← sort (compareSubmissions targetHash) submissions with
  | winner :: _ => .ok winner
  | [] => .error "No winning submission found after evaluation."

/-- The loop body of `getBestSubmission`, on the best number of matching bits so far and the
submissions that have it. A solution that is not 20 bytes long is skipped. -/
def addCandidate (targetHash : Bytes) (best : ℕ × List EpochSubmissionDocument)
    (submission : EpochSubmissionDocument) : ℕ × List EpochSubmissionDocument :=
  let solutionHash := submission.epochProposed.solution
  if solutionHash.length ≠ 20 then best
  else
    let matchingBits := countMatchingBits solutionHash targetHash
    if matchingBits = best.1 then (best.1, best.2 ++ [submission])
    else if matchingBits > best.1 then (matchingBits, [submission])
    else best

def getBestSubmission (earlyMining : Option EarlyMiningConfig)
    (submissions : List EpochSubmissionDocument) (targetHash : Bytes) (endBlock : ℕ) :
    Except String (Option EpochSubmissionWinner) := do
  let eligibleSubmissions := filterEarlyMiningSubmissions earlyMining submissions endBlock
  let (bestMatchingBits, bestSubmissions) := eligibleSubmissions.foldl (addCandidate targetHash)
    (0, [])
  if bestSubmissions.isEmpty then return none
  let winningSubmission ← getWinningSubmission bestSubmissions targetHash
  let miner := winningSubmission.epochProposed
  return some
    { epochNumber := winningSubmission.epochNumber
      matchingBits := bestMatchingBits
      salt := miner.salt
      mldsaPublicKey := miner.mldsaPublicKey
      legacyPublicKey := miner.legacyPublicKey
      solutionHash := winningSubmission.submissionHash
      graffiti := miner.graffiti.getD (List.replicate GRAFFITI_LENGTH 0) }

/-! ### Finalising an epoch -/

section Finalise

variable {Raw : Type*}

/-- A header's checksum root, which has to be 32 bytes long. -/
def checksumRootOf (block : StoredBlock Raw) : Except String Bytes :=
  if block.checksumRoot.length ≠ 32 then
    .error s!"Invalid checksum root length: {block.checksumRoot.length}. Expected 32 bytes."
  else .ok block.checksumRoot

def getChecksumRoot (blocks : List (StoredBlock Raw)) (height : ℕ) (missing : String) :
    Except String Bytes :=
  match blocks[height]? with
  | none => .error missing
  | some block => checksumRootOf block

def getMiningTargetBlock (epochNumber : ℕ) : Option ℕ :=
  if epochNumber = 0 then none else some (epochNumber * BLOCKS_PER_EPOCH - 1)

def getMiningTargetChecksum (blocks : List (StoredBlock Raw)) :
    Option ℕ → Except String (Option Bytes)
  | none => .ok none
  | some targetBlock => do
    return some (← getChecksumRoot blocks targetBlock
      s!"No block header found for mining target block {targetBlock}")

/-- The previous epoch has to be there; its hash only enters the epoch's Merkle tree. -/
def getPreviousEpochHash (epochs : Collection EpochDocument) (epochNumber : ℕ) :
    Except String Unit :=
  if epochNumber = 0 then .ok ()
  else if (getEpochByNumber epochs (epochNumber - 1)).isSome then .ok ()
  else .error s!"No epoch found for number {epochNumber - 1}"

/-- The epoch four back and its last header have to be there; the root only enters the epoch's
Merkle tree. -/
def getAttestationChecksumRoot (blocks : List (StoredBlock Raw)) (epochs : Collection EpochDocument)
    (epochNumber : ℕ) : Except String Bytes :=
  if epochNumber < 4 then .ok (List.replicate 32 0)
  else
    match getEpochByNumber epochs (epochNumber - 4) with
    | none => .error
        s!"No epoch found for number {epochNumber - 4}, cannot get attestation checksum root"
    | some targetEpoch => getChecksumRoot blocks targetEpoch.endBlock
        s!"No block header found for epoch end block {targetEpoch.endBlock}, cannot get attestation checksum root"

/-- The checksum roots of the stored headers of an epoch, for the attestations. -/
def getChecksumRoots (blocks : List (StoredBlock Raw)) (startBlock endBlock : ℕ) :
    Except String (List (ℕ × Bytes)) :=
  let headers := (List.range' startBlock (endBlock + 1 - startBlock)).filterMap fun blockNumber =>
    (blocks[blockNumber]?).map (blockNumber, ·)
  headers.mapM fun header => do return (header.1, ← checksumRootOf header.2)

/-- The submissions for an epoch, by the height that confirmed them. -/
def getSubmissionsByEpochNumber (blocks : List (StoredBlock Raw)) (epochNumber : ℕ) :
    List EpochSubmissionDocument :=
  (blocks.flatMap fun block => block.submissions).filter fun submission =>
    submission.epochNumber = epochNumber

/-- The proposer of an epoch nobody mined. -/
def genesisWinner (env : EpochEnvironment) (epochNumber : ℕ) : EpochSubmissionWinner where
  epochNumber := epochNumber
  matchingBits := 0
  salt := GENESIS_SALT
  mldsaPublicKey := env.GENESIS_PROPOSER_PUBLIC_KEY.mldsaPublicKey
  legacyPublicKey := env.GENESIS_PROPOSER_PUBLIC_KEY.legacyPublicKey
  solutionHash := []
  graffiti := List.replicate GRAFFITI_LENGTH 0

/-- The part of `finalizeEpoch` that settles whose salt, keys and graffiti the epoch gets. -/
def selectWinner (env : EpochEnvironment) (submissions : List EpochSubmissionDocument)
    (targetHash : Bytes) (endBlock epochNumber : ℕ) : Except String EpochSubmissionWinner := do
  match ← getBestSubmission env.earlyMining submissions targetHash endBlock with
  | none => .ok (genesisWinner env epochNumber)
  | some winner =>
    if winner.epochNumber ≠ epochNumber then
      .error s!"Winner epoch mismatch: expected {epochNumber}, got {winner.epochNumber}"
    else if epochNumber = 0 then .ok (genesisWinner env epochNumber)
    else .ok winner

def createEpoch (startBlock solutionBits : ℕ) (targetHash solution : Bytes)
    (winner : EpochSubmissionWinner) : EpochDocument where
  epochNumber := startBlock / BLOCKS_PER_EPOCH
  startBlock := startBlock
  endBlock := startBlock + BLOCKS_PER_EPOCH - 1
  difficultyScaled := 2 ^ solutionBits
  targetHash := targetHash
  proposer :=
    { solution := solution
      mldsaPublicKey := winner.mldsaPublicKey
      legacyPublicKey := winner.legacyPublicKey
      salt := winner.salt
      graffiti := some winner.graffiti }

/-- The epoch's document. -/
def finalizeEpoch (env : EpochEnvironment) (startBlock endBlock epochNumber : ℕ)
    (submissions : List EpochSubmissionDocument) (miningTargetChecksum : Option Bytes) :
    Except String EpochDocument := do
  -- epoch 0 has no mining target and cannot be mined
  let checksumRoot :=
    if epochNumber = 0 then List.replicate 32 0
    else miningTargetChecksum.getD (List.replicate 32 0)
  let targetHash := env.hashBuffer checksumRoot
  let winner ← selectWinner env submissions targetHash endBlock epochNumber
  if winner.salt.length ≠ 32 then
    .error s!"Invalid salt length: {winner.salt.length}. Expected 32 bytes."
  else
    let solution := calculatePreimage checksumRoot winner.mldsaPublicKey winner.salt
    let solutionHash := env.hashBuffer solution
    let matchingBits := countMatchingBits solutionHash targetHash
    .ok (createEpoch startBlock matchingBits targetHash solutionHash winner)

/-- Gather an epoch's data and finalise it. -/
def finalizeEpochCompletion (env : EpochEnvironment) (blocks : List (StoredBlock Raw))
    (epochs : Collection EpochDocument) (epochNumber : ℕ) :
    Except String (Collection EpochDocument) := do
  let startBlock := epochNumber * BLOCKS_PER_EPOCH
  let endBlock := startBlock + BLOCKS_PER_EPOCH - 1
  getPreviousEpochHash epochs epochNumber
  let _attestation ← getAttestationChecksumRoot blocks epochs epochNumber
  -- epoch 0 has no mining target, so nobody can submit for it
  let submissions :=
    if epochNumber = 0 then [] else getSubmissionsByEpochNumber blocks epochNumber
  let _checkSumRoots ← getChecksumRoots blocks startBlock endBlock
  let miningTarget ← getMiningTargetChecksum blocks (getMiningTargetBlock epochNumber)
  let epoch ← finalizeEpoch env startBlock endBlock epochNumber submissions miningTarget
  return saveEpoch epoch epochs

/-- After the block at `currentHeight`: the first block of an epoch finalises the epoch before. -/
def updateEpoch (env : EpochEnvironment) (blocks : List (StoredBlock Raw))
    (epochs : Collection EpochDocument) (currentHeight : ℕ) :
    Except String (Collection EpochDocument) :=
  if currentHeight % BLOCKS_PER_EPOCH = 0 ∧ 0 < currentHeight then
    finalizeEpochCompletion env blocks epochs (currentHeight / BLOCKS_PER_EPOCH - 1)
  else .ok epochs

end Finalise

end EpochManager

/-! ### The node -/

/-- The stored blocks in height order, the epoch collection, and whether the last block's
processing was cut short. -/
structure EpochNode (Raw : Type) where
  blocks : List (StoredBlock Raw)
  epochs : Collection EpochDocument
  interrupted : Bool

namespace EpochNode

/-- A node that has processed nothing. -/
def init (Raw : Type) : EpochNode Raw := ⟨[], [], false⟩

/-- The number of blocks whose processing was completed: the next height, or the height to redo. -/
def completed {Raw : Type} (node : EpochNode Raw) : ℕ :=
  if node.interrupted then node.blocks.length - 1 else node.blocks.length

end EpochNode

/-- What can happen to a node, as far as epochs see it. -/
inductive NodeEvent (Raw : Type) where
  /-- The next block is processed, and `updateEpoch` succeeds after it. -/
  | processBlock (raw : Raw)
  /-- The next block is processed no further than writing `left`: the process stopped, or
  something threw, before the epoch was saved. -/
  | interruptBlock (left : StoredBlock Raw)
  /-- The restart purge or a reorg's revert. -/
  | revertDataUntilBlock (blockId : ℕ)

section Node

variable {Raw : Type} (env : EpochEnvironment)
  (execute : List (StoredBlock Raw) → ChallengeSolution → Raw → Bytes × List AcceptedSubmission)

/-- `saveEpochSubmissions`: stamp a block's accepted submissions with its height and epoch. -/
def saveEpochSubmissions (height : ℕ) (submissions : List AcceptedSubmission) :
    List EpochSubmissionDocument :=
  let currentEpoch := height / BLOCKS_PER_EPOCH
  submissions.map fun submission =>
    { submission with
      confirmedAt := height
      epochNumber := currentEpoch
      startBlock := currentEpoch * BLOCKS_PER_EPOCH }

/-- What processing the block at `blocks.length` stores. -/
def executeBlock (blocks : List (StoredBlock Raw)) (challengeSolutions : ChallengeSolution)
    (raw : Raw) : StoredBlock Raw :=
  let (checksumRoot, submissions) := execute blocks challengeSolutions raw
  { raw := raw
    checksumRoot := checksumRoot
    submissions := saveEpochSubmissions blocks.length submissions }

/-- `IndexingTask.process` up to `onComplete`, on a block that is not cut short. -/
def processBlock (node : EpochNode Raw) (raw : Raw) : Except String (EpochNode Raw) := do
  let height := node.blocks.length
  let challengeSolutions := EpochRepository.getChallengeSolutionsAtHeight node.epochs height
  -- the solutions are read before the epoch that this block finalises is saved
  let blocks := node.blocks ++ [executeBlock execute node.blocks challengeSolutions raw]
  let epochs ← EpochManager.updateEpoch env blocks node.epochs height
  return { blocks := blocks, epochs := epochs, interrupted := false }

/-- `revertDataUntilBlock` on the headers, the submissions and the epochs. -/
def revertEpochData (node : EpochNode Raw) (blockId : ℕ) : EpochNode Raw :=
  { blocks := node.blocks.take blockId
    epochs := EpochRepository.deleteEpochFromBitcoinBlockNumber blockId node.epochs
    interrupted := false }

def nodeStep (node : EpochNode Raw) : NodeEvent Raw → Option (EpochNode Raw)
  | .processBlock raw =>
    if node.interrupted then none else (processBlock env execute node raw).toOption
  | .interruptBlock left =>
    if node.interrupted then none
    else some { node with blocks := node.blocks ++ [left], interrupted := true }
  | .revertDataUntilBlock blockId =>
    if blockId ≤ node.completed then some (revertEpochData node blockId) else none

end Node

end OpnetNode
