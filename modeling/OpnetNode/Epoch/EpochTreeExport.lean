import Mathlib.Data.Nat.Log
import OpnetNode.Epoch.EpochMerkleTree
import OpnetNode.Hex
import OpnetNode.Merkle.ChecksumMerkle

/-!
# The export of an epoch's tree

* `exportTree`: the data of the epoch and each attestation, with the proof of its leaf.  Byte fields are
  printed in hexadecimal.
* `verify`: reads an export back, encodes what it lists once more and checks each proof against the
  root.

The time of the export is left out.
-/

namespace OpnetNode

/-- `stringToBuffer`; `none` if it throws. -/
def stringToBuffer (str : String) : Option Bytes :=
  if str.toList.take 2 = ['0', 'x'] then fromHex (String.ofList (str.toList.drop 2))
  else fromHex str

/-- What the export takes from outside the repository. -/
structure EpochTreeCodec (T : RustMerkleTree) extends HexCodec T where
  /-- `'0x' + toHex` of a leaf's hash. -/
  hashHex : T.Hash → HexText
  /-- `stringToBuffer` of a leaf's hash. -/
  hashFromHex : HexText → T.Hash
  /-- `new MerkleProof(proof).rootHex(leafHash)`. -/
  proofRootHex : List T.Hash → T.Hash → HexText
  /-- The text of an error thrown by `fromHex`. -/
  hexError : String

/-- The winner in an `EpochDataProof`. -/
structure WinnerProof where
  mldsaPublicKey : String
  legacyPublicKey : String
  matchingBits : ℕ
  salt : String
  solutionHash : String
  graffiti : String
  deriving DecidableEq, Repr

structure EpochDataProof (Hash : Type) where
  epochNumber : ℕ
  startBlock : ℕ
  endBlock : ℕ
  checksumRoot : String
  previousEpochHash : String
  attestedEpochNumber : ℤ
  attestedChecksumRoot : String
  winner : Option WinnerProof
  proof : List Hash
  leafHash : HexText

/-- The attestation in an `AttestationProof`. -/
structure ListedAttestation where
  type : AttestationType
  blockNumber : ℕ
  checksumRoot : String
  signature : Bytes
  timestamp : ℕ
  publicKey : Bytes
  deriving DecidableEq, Repr

structure AttestationProof (Hash : Type) where
  attestation : ListedAttestation
  proofs : List Hash
  leafHash : HexText
  index : ℕ

/-- The `metadata` of an export. -/
structure EpochTreeMetadata where
  chainId : String
  protocolId : String
  treeHeight : ℕ
  leafCount : ℕ
  deriving DecidableEq, Repr

structure CompleteEpochMerkleTreeExport (Hash : Type) where
  root : HexText
  hash : String
  epoch : EpochDataProof Hash
  metadata : EpochTreeMetadata
  attestations : List (AttestationProof Hash)

/-- `EpochTreeVerification`; an attestation comes with its verdict and the root its proof computes. -/
structure EpochTreeVerification (Hash : Type) where
  root : HexText
  epochDataIsValid : Bool
  epochDataComputedRoot : HexText
  attestationVerifications : List (AttestationProof Hash × Bool × HexText)

namespace EpochTreeVerification

/-- `summary.validCount`. -/
def validCount {Hash : Type} (verification : EpochTreeVerification Hash) : ℕ :=
  (verification.attestationVerifications.filter fun v => v.2.1).length +
    (if verification.epochDataIsValid then 1 else 0)

/-- `summary.totalCount`. -/
def totalCount {Hash : Type} (verification : EpochTreeVerification Hash) : ℕ :=
  verification.attestationVerifications.length + 1

/-- `summary.allValid`. -/
def allValid {Hash : Type} (verification : EpochTreeVerification Hash) : Bool :=
  decide (verification.validCount = verification.totalCount)

end EpochTreeVerification

namespace EpochMerkleTree

variable (env : EpochTreeEnvironment) (codec : EpochTreeCodec env.rust)

def newWithMax (epochData : EpochData) (maxAttestations : ℕ) : EpochMerkleTree :=
  { new epochData with maxAttestations }

/-! ### The export -/

def winnerProof (winner : EpochSubmissionWinner) : WinnerProof where
  mldsaPublicKey := toHex winner.mldsaPublicKey
  legacyPublicKey := toHex winner.legacyPublicKey
  matchingBits := winner.matchingBits
  salt := toHex winner.salt
  solutionHash := toHex winner.solutionHash
  graffiti := toHex winner.graffiti

def getEpochData (t : EpochMerkleTree) : Except String (EpochDataProof env.rust.Hash) :=
  if t.tree.isNone then .error "Tree not generated"
  else do
    let epochDataBytes ← t.epochBytes.elim (epochDataToBytes env t.epochData) .ok
    let proof ← t.proofOf env epochDataBytes
    return {
      epochNumber := t.epochData.epochNumber
      startBlock := t.epochData.startBlock
      endBlock := t.epochData.endBlock
      checksumRoot := toHex t.epochData.checksumRoot
      previousEpochHash := toHex t.epochData.previousEpochHash
      attestedEpochNumber := t.epochData.attestedEpochNumber
      attestedChecksumRoot := toHex t.epochData.attestedChecksumRoot
      winner := t.epochData.winner.map winnerProof
      proof
      leafHash := codec.hashHex (env.rust.hash epochDataBytes) }

def listedAttestation (attestation : Attestation) : ListedAttestation where
  type := attestation.type
  blockNumber := attestation.blockNumber
  checksumRoot := toHex attestation.checksumRoot
  signature := attestation.signature
  timestamp := attestation.timestamp
  publicKey := attestation.publicKey

def getAttestationProofs (t : EpochMerkleTree) (attestation : Attestation) (attestationIndex : ℕ) :
    Except String (AttestationProof env.rust.Hash) := do
  let proof ← t.proofOf env (attestationToBytes attestation)
  return {
    attestation := listedAttestation attestation
    proofs := proof
    leafHash := codec.hashHex (env.rust.hash (attestationToBytes attestation))
    index := attestationIndex }

/-- `export`. -/
def exportTree (t : EpochMerkleTree) :
    Except String (CompleteEpochMerkleTreeExport env.rust.Hash) := do
  let root ← t.rootBuffer env
  let hash ← t.getEpochHash
  let epoch ← t.getEpochData env codec
  let attestations ← t.attestations.zipIdx.mapM fun entry =>
    t.getAttestationProofs env codec entry.1 entry.2
  return {
    root := codec.rootHex root
    hash := "0x" ++ toHex hash
    epoch
    metadata :=
      { chainId := "0x" ++ toHex env.chainId
        protocolId := "0x" ++ toHex env.PROTOCOL_ID
        treeHeight := Nat.clog 2 (t.attestations.length + 1)
        leafCount := t.attestations.length + 1 }
    attestations }

/-! ### The verification -/

/-- A text that `fromHex` reads, or its error. -/
def decodeHex (bytes : Option Bytes) : Except String Bytes := bytes.elim (.error codec.hexError) .ok

/-- The data of the epoch that an export has. -/
def readEpochData (epoch : EpochDataProof env.rust.Hash) : Except String EpochData :=
  match epoch.winner with
  | none => .error "Winner data is not set in the epoch export"
  | some winner => do
    let attestedChecksumRoot ← decodeHex env codec (stringToBuffer epoch.attestedChecksumRoot)
    let checksumRoot ← decodeHex env codec (stringToBuffer epoch.checksumRoot)
    let previousEpochHash ← decodeHex env codec (stringToBuffer epoch.previousEpochHash)
    let salt ← decodeHex env codec (stringToBuffer winner.salt)
    let mldsaPublicKey ← decodeHex env codec (fromHex winner.mldsaPublicKey)
    let legacyPublicKey ← decodeHex env codec (fromHex winner.legacyPublicKey)
    let solutionHash ← decodeHex env codec (stringToBuffer winner.solutionHash)
    let graffiti ← decodeHex env codec (fromHex winner.graffiti)
    return {
      epochNumber := epoch.epochNumber
      startBlock := epoch.startBlock
      endBlock := epoch.endBlock
      checksumRoot
      previousEpochHash
      attestedEpochNumber := epoch.attestedEpochNumber
      attestedChecksumRoot
      winner := some
        { epochNumber := epoch.epochNumber
          matchingBits := winner.matchingBits
          salt
          mldsaPublicKey
          legacyPublicKey
          solutionHash
          graffiti } }

def verifyAttestation (root : env.rust.Hash) (attestation : Attestation)
    (proof : List env.rust.Hash) : Bool :=
  env.rust.verify proof root (env.rust.hash (attestationToBytes attestation))

def verifyListed (root : env.rust.Hash) (attPackage : AttestationProof env.rust.Hash) :
    Except String (AttestationProof env.rust.Hash × Bool × HexText) := do
  let checksumRoot ← decodeHex env codec (stringToBuffer attPackage.attestation.checksumRoot)
  let attestation : Attestation :=
    { type := attPackage.attestation.type
      blockNumber := attPackage.attestation.blockNumber
      checksumRoot
      signature := attPackage.attestation.signature
      timestamp := attPackage.attestation.timestamp
      publicKey := attPackage.attestation.publicKey }
  return (attPackage, verifyAttestation env root attestation attPackage.proofs,
    codec.proofRootHex attPackage.proofs (codec.hashFromHex attPackage.leafHash))

def verify (treeExport : CompleteEpochMerkleTreeExport env.rust.Hash) :
    Except String (EpochTreeVerification env.rust.Hash) := do
  let root := codec.rootFromHex treeExport.root
  let epochData ← readEpochData env codec treeExport.epoch
  let epochDataBytes ← epochDataToBytes env epochData
  let attestationVerifications ← treeExport.attestations.mapM (verifyListed env codec root)
  return {
    root := treeExport.root
    epochDataIsValid :=
      env.rust.verify treeExport.epoch.proof root (env.rust.hash epochDataBytes)
    epochDataComputedRoot :=
      codec.proofRootHex treeExport.epoch.proof (codec.hashFromHex treeExport.epoch.leafHash)
    attestationVerifications }

/-- A tree built over a list of attestations, and frozen. -/
def freezeWith (epochData : EpochData) (maxAttestations : ℕ) (attestations : List Attestation) :
    Except String EpochMerkleTree := do
  let t ← attestations.foldlM (fun t attestation => addBlockAttestation attestation t)
    (newWithMax epochData maxAttestations)
  t.freeze env

end EpochMerkleTree

end OpnetNode
