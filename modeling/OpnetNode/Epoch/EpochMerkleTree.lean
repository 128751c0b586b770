import OpnetNode.BinaryWriter
import OpnetNode.Epoch.EpochManager

/-!
# The Merkle tree of an epoch

`EpochMerkleTree`: the data of an epoch is the first leaf, and the attestations of its witnesses are
the others.  The hash of the epoch is that of the first leaf alone.

The number of the epoch that the first four epochs attest to is negative, and is written in two's
complement.
-/

namespace OpnetNode

/-- What the tree of an epoch takes from outside the repository. -/
structure EpochTreeEnvironment where
  /-- `getChainId`. -/
  chainId : Bytes
  /-- `OPNetConsensus.consensus.PROTOCOL_ID`. -/
  PROTOCOL_ID : Bytes
  sha256 : Bytes → Bytes
  /-- `Address.dead()`. -/
  dead : Bytes
  rust : RustMerkleTree
  /-- The text of an error thrown by the Rust tree. -/
  rustError : String
  /-- How many arguments the engine takes in one call. -/
  maxArguments : ℕ

inductive AttestationType where
  | BLOCK_WITNESS
  | EMPTY_ATTESTATION
  deriving DecidableEq, Repr

/-- `Attestation`; the timestamp is in milliseconds. -/
structure Attestation where
  type : AttestationType
  blockNumber : ℕ
  checksumRoot : Bytes
  signature : Bytes
  timestamp : ℕ
  publicKey : Bytes
  deriving DecidableEq, Repr

structure EpochData where
  epochNumber : ℕ
  startBlock : ℕ
  endBlock : ℕ
  checksumRoot : Bytes
  previousEpochHash : Bytes
  attestedEpochNumber : ℤ
  attestedChecksumRoot : Bytes
  winner : Option EpochSubmissionWinner
  deriving DecidableEq, Repr

/-- An `EpochMerkleTree`; `tree` has the leaves that the Rust tree was built over. -/
structure EpochMerkleTree where
  attestations : List Attestation
  epochData : EpochData
  tree : Option (List Bytes)
  epochBytes : Option Bytes
  epochHash : Option Bytes
  frozen : Bool
  maxAttestations : ℕ

namespace EpochMerkleTree

/-- The value of an `AttestationType`. -/
def typeByte : AttestationType → UInt8
  | .BLOCK_WITNESS => 0
  | .EMPTY_ATTESTATION => 1

def attestationToBytes (attestation : Attestation) : Bytes :=
  BinaryWriter.bytesOf 145 [[typeByte attestation.type], writeU64 attestation.blockNumber,
    attestation.checksumRoot, attestation.signature, writeU64 attestation.timestamp,
    attestation.publicKey]

variable (env : EpochTreeEnvironment)

/-- The size that `epochDataToBytes` expects. -/
def EPOCH_DATA_SIZE : ℕ :=
  64 + 8 + 8 + 8 + 32 + 32 + 8 + 32 + (32 + 32 + 2 + 32 + 20 + GRAFFITI_LENGTH)

def epochDataToBytes (epochData : EpochData) : Except String Bytes :=
  match epochData.winner with
  | none => .error "Epoch winner data is not set"
  | some winner =>
    if GRAFFITI_LENGTH < winner.graffiti.length then
      .error s!"Graffiti too long, was {winner.graffiti.length}"
    else
      let resizedGraffiti := winner.graffiti ++
        List.replicate (GRAFFITI_LENGTH - winner.graffiti.length) 0
      .ok (BinaryWriter.bytesOf EPOCH_DATA_SIZE [env.chainId, env.PROTOCOL_ID,
        writeU64 epochData.epochNumber, writeU64 epochData.startBlock, writeU64 epochData.endBlock,
        epochData.checksumRoot, epochData.previousEpochHash, writeU64 epochData.attestedEpochNumber,
        epochData.attestedChecksumRoot, winner.mldsaPublicKey, winner.legacyPublicKey,
        writeU16 winner.matchingBits, winner.salt, winner.solutionHash, resizedGraffiti])

/-- The constructor, with its default for `maxAttestations`. -/
def new (epochData : EpochData) : EpochMerkleTree where
  attestations := []
  epochData := epochData
  tree := none
  epochBytes := none
  epochHash := none
  frozen := false
  maxAttestations := 500000

def setWinner (winner : EpochSubmissionWinner) (t : EpochMerkleTree) :
    Except String EpochMerkleTree :=
  if t.frozen then .error "Epoch merkle tree is frozen"
  else .ok { t with epochData := { t.epochData with winner := some winner } }

def addBlockAttestation (attestation : Attestation) (t : EpochMerkleTree) :
    Except String EpochMerkleTree :=
  if t.frozen then .error "Epoch merkle tree is frozen"
  else if attestation.blockNumber < t.epochData.startBlock ∨
      t.epochData.endBlock < attestation.blockNumber then
    .error s!"Block {attestation.blockNumber} not in epoch {t.epochData.epochNumber}"
  else .ok { t with attestations := t.attestations ++ [{ attestation with type := .BLOCK_WITNESS }] }

def addDummyAttestations (t : EpochMerkleTree) : EpochMerkleTree :=
  { t with
    attestations := t.attestations ++ [
      { type := .EMPTY_ATTESTATION
        blockNumber := t.epochData.startBlock
        checksumRoot := List.replicate 32 0
        signature := List.replicate 64 0
        timestamp := 0
        publicKey := env.dead },
      { type := .EMPTY_ATTESTATION
        blockNumber := t.epochData.endBlock - 1
        checksumRoot := List.replicate 32 0
        signature := List.replicate 64 1
        timestamp := 1
        publicKey := env.dead }] }

/-- The attestations that `generateTree` makes leaves of: padded, then by descending timestamp. -/
def sortedAttestations (t : EpochMerkleTree) : List Attestation :=
  (if t.attestations.length < 2 then t.addDummyAttestations env else t).attestations.insertionSort
    fun a b => b.timestamp ≤ a.timestamp

def generateTree (t : EpochMerkleTree) : Except String EpochMerkleTree :=
  if t.frozen then .error "Epoch merkle tree is frozen"
  else do
    let attestations := t.sortedAttestations env
    let selectedAttestations := attestations.take t.maxAttestations
    let epochBytes ← epochDataToBytes env t.epochData
    let treeLeaves := epochBytes :: selectedAttestations.map attestationToBytes
    -- the leaves of the attestations are the arguments of one `push`
    if env.maxArguments < selectedAttestations.length then
      .error "Maximum call stack size exceeded"
    else if (env.rust.root treeLeaves).isNone then .error env.rustError
    else .ok { t with
      attestations
      epochBytes := some epochBytes
      epochHash := some (env.sha256 epochBytes)
      tree := some treeLeaves }

def freeze (t : EpochMerkleTree) : Except String EpochMerkleTree := do
  let t ← t.generateTree env
  return { t with frozen := true }

def rootBuffer (t : EpochMerkleTree) : Except String env.rust.Hash :=
  match t.tree with
  | none => .error "[EpochMerkle] Tree not generated"
  | some leaves => (env.rust.root leaves).elim (.error env.rustError) .ok

/-- The getter `epochHash`. -/
def getEpochHash (t : EpochMerkleTree) : Except String Bytes :=
  t.epochHash.elim (.error "Epoch hash not generated yet") .ok

/-- `getProof(getIndexData(data)).proofHashes()`. -/
def proofOf (t : EpochMerkleTree) (data : Bytes) : Except String (List env.rust.Hash) :=
  match t.tree with
  | none => .error "Tree not generated"
  | some leaves =>
    ((env.rust.getIndexData leaves data).bind (env.rust.getProof leaves)).elim
      (.error env.rustError) .ok

def getEpochDataProof (t : EpochMerkleTree) : Except String (List env.rust.Hash) :=
  match t.epochBytes with
  | none => .error "Epoch data bytes are not provided"
  | some epochBytes => t.proofOf env epochBytes

def getAllAttestationProofs (t : EpochMerkleTree) : Except String (List (List env.rust.Hash)) :=
  t.attestations.mapM fun attestation => t.proofOf env (attestationToBytes attestation)

end EpochMerkleTree

/-! ### Finalising an epoch with its tree -/

/-- `IEpochDocument`. -/
structure FinalEpoch (Hash : Type) extends EpochDocument where
  epochHash : Bytes
  epochRoot : Hash
  proofs : List Hash

/-- The part of an `IParsedBlockWitnessDocument` that an attestation has. -/
structure BlockWitness where
  blockNumber : ℕ
  signature : Bytes
  timestamp : ℕ
  publicKey : Option Bytes
  deriving DecidableEq, Repr

/-- What finalising an epoch reads of the storage: the checksum roots of the headers by height, the
submissions of an epoch and the witnesses of a height, in the order in which the database returns
them. -/
structure EpochStore where
  checksumRoots : List Bytes
  getSubmissionsByEpochNumber : ℕ → List EpochSubmissionDocument
  getWitnesses : ℕ → List BlockWitness

namespace EpochStore

def blocks (store : EpochStore) : List (StoredBlock Unit) :=
  store.checksumRoots.map fun checksumRoot => ⟨(), checksumRoot, []⟩

def getWitnessesForEpoch (store : EpochStore) (startBlock endBlock : ℕ) : List BlockWitness :=
  ((List.range' startBlock (endBlock + 1 - startBlock)).flatMap store.getWitnesses).insertionSort
    fun a b => a.blockNumber ≤ b.blockNumber

end EpochStore

namespace EpochManager

open EpochValidator

def witnessToAttestation (witness : BlockWitness) (checkSumRoots : List (ℕ × Bytes)) :
    Except String (Option Attestation) :=
  match (checkSumRoots.find? fun entry => entry.1 = witness.blockNumber).map Prod.snd with
  | none => .error s!"No checksum root found for block number {witness.blockNumber}"
  | some root =>
    .ok (witness.publicKey.map fun publicKey =>
      { type := .BLOCK_WITNESS
        blockNumber := witness.blockNumber
        checksumRoot := root
        signature := witness.signature
        timestamp := witness.timestamp
        publicKey })

/-- The loop body over the witnesses of `finalizeEpoch`. -/
def addWitness (checkSumRoots : List (ℕ × Bytes)) (epoch : EpochMerkleTree)
    (witness : BlockWitness) : Except String EpochMerkleTree := do
  match ← witnessToAttestation witness checkSumRoots with
  | none => return epoch
  | some attestation => epoch.addBlockAttestation attestation

variable (env : EpochEnvironment) (tenv : EpochTreeEnvironment)

/-- `finalizeEpoch` with the tree of the epoch. -/
def finalizeEpochTree (startBlock endBlock : ℕ) (checkSumRoots : List (ℕ × Bytes))
    (submissions : List EpochSubmissionDocument) (witnesses : List BlockWitness) (epochNumber : ℕ)
    (previousEpochHash attestedChecksumRoot : Bytes) (miningTargetChecksum : Option Bytes) :
    Except String (FinalEpoch tenv.rust.Hash) := do
  let checksumRoot :=
    if epochNumber = 0 then List.replicate 32 0
    else miningTargetChecksum.getD (List.replicate 32 0)
  let targetHash := env.hashBuffer checksumRoot
  let winner ← selectWinner env submissions targetHash endBlock epochNumber
  if winner.salt.length ≠ 32 then
    .error s!"Invalid salt length: {winner.salt.length}. Expected 32 bytes."
  else do
    let solution := calculatePreimage checksumRoot winner.mldsaPublicKey winner.salt
    let solutionHash := env.hashBuffer solution
    let matchingBits := countMatchingBits solutionHash targetHash
    let epoch ← (EpochMerkleTree.new {
      epochNumber
      startBlock
      endBlock
      checksumRoot
      previousEpochHash
      attestedEpochNumber := (epochNumber : ℤ) - 4
      attestedChecksumRoot
      winner := none }).setWinner { winner with epochNumber, solutionHash, matchingBits }
    let epoch ← witnesses.foldlM (addWitness checkSumRoots) epoch
    let epoch ← epoch.freeze tenv
    let epochRoot ← epoch.rootBuffer tenv
    let epochHash ← epoch.getEpochHash
    let proofs ← epoch.getEpochDataProof tenv
    let _attestationProofs ← epoch.getAllAttestationProofs tenv
    return { createEpoch startBlock matchingBits targetHash solutionHash winner with
      epochHash
      epochRoot
      proofs }

/-- The hash of the previous epoch that `getPreviousEpochHash` finds. -/
def previousEpochHash {Hash : Type} (epochs : Collection (FinalEpoch Hash)) (epochNumber : ℕ) :
    Except String Bytes :=
  if epochNumber = 0 then .ok (List.replicate 32 0)
  else
    match epochs.find? fun epoch => epoch.epochNumber = epochNumber - 1 with
    | none => .error s!"No epoch found for number {epochNumber - 1}"
    | some epoch => .ok epoch.epochHash

/-- `finalizeEpochCompletion` with the tree of the epoch: the epoch that is saved. -/
def completeEpoch (store : EpochStore) (epochs : Collection (FinalEpoch tenv.rust.Hash))
    (epochNumber : ℕ) : Except String (FinalEpoch tenv.rust.Hash) := do
  let startBlock := epochNumber * BLOCKS_PER_EPOCH
  let endBlock := startBlock + BLOCKS_PER_EPOCH - 1
  let lastEpoch ← previousEpochHash epochs epochNumber
  let attestation ← getAttestationChecksumRoot store.blocks
    (epochs.map FinalEpoch.toEpochDocument) epochNumber
  let submissions := if epochNumber = 0 then [] else store.getSubmissionsByEpochNumber epochNumber
  let witnesses := store.getWitnessesForEpoch startBlock endBlock
  let checkSumRoots ← getChecksumRoots store.blocks startBlock endBlock
  let miningTarget ← getMiningTargetChecksum store.blocks (getMiningTargetBlock epochNumber)
  finalizeEpochTree env tenv startBlock endBlock checkSumRoots submissions witnesses epochNumber
    lastEpoch attestation miningTarget

/-- The first `count` epochs, finalised one after the other. -/
def finalizeEpochs (store : EpochStore) : ℕ → Except String (Collection (FinalEpoch tenv.rust.Hash))
  | 0 => .ok []
  | count + 1 => do
    let epochs ← finalizeEpochs store count
    let epoch ← completeEpoch env tenv store epochs count
    return epochs ++ [epoch]

end EpochManager

end OpnetNode
