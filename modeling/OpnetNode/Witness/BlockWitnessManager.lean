import OpnetNode.Collection
import OpnetNode.Hex
import OpnetNode.JsMap
import OpnetNode.Merkle.RustMerkleTree

/-!
# The block witness manager

A witness is a signature over four fields of a block header. `BlockWitnessManager` signs the headers
of its own node, and checks and stores the witnesses that peers send. For each height it keeps the
identities whose witness it has checked, so that none is checked again.

Every method runs up to its first `await`; what is under way after that is a `WitnessValidation`.

* `queueSelfWitness`, `processSelfQueue`, `generateSelfProof`: the node's own witnesses.
* `onBlockWitness`, `enqueueWitnessValidation`, `drainWitnessQueue`: those of peers.
* `processBlockWitnesses`, `checkedWitnesses`, `recordWitnesses`: a validation, before and after the
  answer of the RPC thread.

Logging, and the fields of a header that only the RPC thread reads, are left out.
-/

namespace OpnetNode

/-- What a witness signs of a header. -/
structure WitnessedHeader where
  blockHash : String
  previousBlockHash : Option String
  checksumHash : String
  previousBlockChecksum : String
  deriving DecidableEq, Repr

structure OPNetBlockWitness where
  identity : Option String
  publicKey : Option Bytes
  signature : Bytes
  timestamp : ℕ
  deriving DecidableEq, Repr

/-- `IBlockHeaderWitness`, without its height. -/
structure BlockHeaderWitness where
  header : WitnessedHeader
  validatorWitnesses : List OPNetBlockWitness
  deriving DecidableEq, Repr

structure BlockProcessedData where
  blockNumber : ℕ
  header : WitnessedHeader
  deriving DecidableEq, Repr

/-- The answer of the RPC thread. -/
structure ValidatedBlockHeader where
  hasValidProofs : Option Bool
  storedBlockHeader : Option WitnessedHeader
  deriving DecidableEq, Repr

/-- `IBlockWitnessDocument`. -/
structure BlockWitnessRecord where
  blockNumber : ℕ
  identity : String
  signature : Bytes
  timestamp : ℕ
  publicKey : Option Bytes
  deriving DecidableEq, Repr

structure WitnessEnvironment where
  /-- `identity.hash`, SHA-512. -/
  sha512 : Bytes → Bytes
  /-- `crypto_sign_verify_detached`: data, signature, public key. -/
  verifyOPNetSignature : Bytes → Bytes → Bytes → Bool
  /-- `crypto_sign_detached` with the node's key. -/
  sign : Bytes → Bytes
  publicKey : Bytes
  pendingBlockThreshold : ℕ
  /-- Whether there are proofs by which the checksum of a header covers its fields. -/
  provable : WitnessedHeader → Bool
  /-- The headers that the indexer stores. -/
  finalised : WitnessedHeader → Bool

/-- The root that stands for a missing header. -/
def ZERO_CHECKSUM : String := "0x0000000000000000000000000000000000000000000000000000000000000000"

/-- The checksum that a message is compared to: that of the stored header, `ZERO_CHECKSUM` if it is
empty or there is none. -/
def storedChecksum (storedBlockHeader : Option WitnessedHeader) : String :=
  ((storedBlockHeader.map WitnessedHeader.checksumHash).filter (· ≠ "")).getD ZERO_CHECKSUM

/-- A checksum without its `0x`. -/
def withoutZeroX (text : String) : String :=
  match text.toList with
  | '0' :: 'x' :: rest => String.ofList rest
  | _ => text

namespace WitnessEnvironment

variable (env : WitnessEnvironment)

def verifyOPNetIdentity (identity : String) (publicKey : Bytes) : Bool :=
  identity = "0x" ++ toHex (env.sha512 publicKey)

/-- The identity of the node. -/
def opnetAddress : String := "0x" ++ toHex (env.sha512 env.publicKey)

/-- `generateBlockHeaderChecksumHash`; `none` if a field is not hexadecimal. -/
def blockHeaderChecksumHash (header : WitnessedHeader) : Option Bytes := do
  let blockHash ← fromHex header.blockHash
  let previousBlockHash ← fromHex (header.previousBlockHash.getD "")
  let checksumHash ← fromHex (withoutZeroX header.checksumHash)
  let previousBlockChecksum ← fromHex (withoutZeroX header.previousBlockChecksum)
  return env.sha512 (blockHash ++ previousBlockHash ++ checksumHash ++ previousBlockChecksum)

def mergeDataAndWitness (blockChecksumHash : Bytes) (timestamp : ℕ) : Bytes :=
  (blockChecksumHash.take 32).rightpad 32 0 ++ toBigEndian 8 timestamp

/-- `verifyAcknowledgment`; an empty identity is none. -/
def verifyAcknowledgment (data : Bytes) (witness : OPNetBlockWitness) : Bool :=
  match witness.publicKey, witness.identity with
  | some publicKey, some identity =>
    identity ≠ "" && env.verifyOPNetIdentity identity publicKey
      && env.verifyOPNetSignature data witness.signature publicKey
  | _, _ => false

/-- `acknowledgeData`, at a time. -/
def acknowledgeData (data : Bytes) (now : ℕ) : OPNetBlockWitness where
  identity := some env.opnetAddress
  publicKey := some env.publicKey
  signature := env.sign (mergeDataAndWitness data now)
  timestamp := now

def MAXIMUM_WITNESSES_PER_MESSAGE : ℕ := 20

def validateOPNetWitnesses (blockChecksumHash : Bytes) (witnesses : List OPNetBlockWitness) :
    List OPNetBlockWitness :=
  (witnesses.take MAXIMUM_WITNESSES_PER_MESSAGE).filter fun witness =>
    env.verifyAcknowledgment (mergeDataAndWitness blockChecksumHash witness.timestamp) witness

/-- `validateBlockHeaderSignatures`: nothing if it throws. -/
def validateBlockHeaderSignatures (blockWitness : BlockHeaderWitness) : List OPNetBlockWitness :=
  match env.blockHeaderChecksumHash blockWitness.header with
  | none => []
  | some blockChecksumHash =>
    env.validateOPNetWitnesses blockChecksumHash blockWitness.validatorWitnesses

/-- The witnesses that `processBlockWitnesses` goes on with after the answer; `none` if there was no
answer. -/
def checkedWitnesses (blockWitness : BlockHeaderWitness) :
    Option ValidatedBlockHeader → List OPNetBlockWitness
  | none => []
  | some blockDataAtHeight =>
    if storedChecksum blockDataAtHeight.storedBlockHeader ≠ blockWitness.header.checksumHash then []
    else if blockDataAtHeight.hasValidProofs ≠ some true then []
    else env.validateBlockHeaderSignatures blockWitness

end WitnessEnvironment

/-! ### The manager -/

inductive ValidationPhase where
  /-- The RPC thread is asked. -/
  | asked
  /-- Its answer is on the way, `none` if the request fails. -/
  | answered (blockDataAtHeight : Option ValidatedBlockHeader)
  /-- `setBlockWitnesses` is under way, with the upserts that are still to land. -/
  | writing (witnesses : List OPNetBlockWitness)
  /-- What follows the validation is still to run. -/
  | ended
  deriving DecidableEq, Repr

/-- A call of `processBlockWitnesses`. -/
structure WitnessValidation where
  /-- Called for the node's own witness. -/
  self : Bool
  blockNumber : ℕ
  blockWitness : BlockHeaderWitness
  phase : ValidationPhase
  deriving DecidableEq, Repr

inductive SelfQueuePhase where
  | idle
  | waitingForSlot
  | settingHeight (data : BlockProcessedData)
  deriving DecidableEq, Repr

/-- The manager. `knownFor` is not in the program: it lists for which header an identity was
recorded as known, since the header of its height was stored. -/
structure BlockWitnessManager where
  currentBlock : ℤ
  pendingWitnessesVerification : JsMap ℕ (List BlockHeaderWitness)
  knownWitnessIdentities : JsMap ℕ (List String)
  witnessQueue : List (ℕ × BlockHeaderWitness)
  activeValidations : ℕ
  blockValidationCount : JsMap ℕ ℕ
  selfWitnessQueue : List BlockProcessedData
  activeSelfProofs : ℕ
  selfQueue : SelfQueuePhase
  validations : List WitnessValidation
  knownFor : List (ℕ × String × String)

namespace BlockWitnessManager

def maxPendingWitnesses : ℕ := 50
def MAX_CONCURRENT_WITNESS_VALIDATIONS : ℕ := 3
def MAX_VALIDATIONS_PER_BLOCK : ℕ := 5
def MAX_WITNESS_QUEUE_SIZE : ℕ := 128
def MAX_CONCURRENT_SELF_PROOFS : ℕ := 10

def init : BlockWitnessManager where
  currentBlock := -1
  pendingWitnessesVerification := .empty
  knownWitnessIdentities := .empty
  witnessQueue := []
  activeValidations := 0
  blockValidationCount := .empty
  selfWitnessQueue := []
  activeSelfProofs := 0
  selfQueue := .idle
  validations := []
  knownFor := []

/-- `setCurrentBlock`, as far as it goes here. -/
def setCurrentBlock (newBlock : ℤ) (m : BlockWitnessManager) : BlockWitnessManager :=
  { m with currentBlock := newBlock }

def revertKnownWitnessesReorg (toBlock : ℕ) (m : BlockWitnessManager) : BlockWitnessManager :=
  { m with
    knownWitnessIdentities := m.knownWitnessIdentities.filterKeys fun n => decide (n < toBlock)
    blockValidationCount := m.blockValidationCount.filterKeys fun n =>
      decide (n < toBlock) || !m.knownWitnessIdentities.has n }

def purgeOldWitnesses (env : WitnessEnvironment) (m : BlockWitnessManager) : BlockWitnessManager :=
  { m with
    knownWitnessIdentities := m.knownWitnessIdentities.filterKeys fun n =>
      decide (m.currentBlock - n ≤ env.pendingBlockThreshold)
    blockValidationCount := m.blockValidationCount.filterKeys fun n =>
      decide (m.currentBlock - n ≤ env.pendingBlockThreshold) }

def filterWitnesses (blockNumber : ℕ) (blockWitness : BlockHeaderWitness)
    (m : BlockWitnessManager) : BlockHeaderWitness :=
  match m.knownWitnessIdentities.get blockNumber with
  | none => blockWitness
  | some known =>
    { blockWitness with
      validatorWitnesses := blockWitness.validatorWitnesses.filter fun w =>
        !known.contains (w.identity.getD "") }

/-- Whether a height is too far below the current one. -/
def isOld (env : WitnessEnvironment) (blockNumber : ℕ) (m : BlockWitnessManager) : Bool :=
  decide ((blockNumber : ℤ) < m.currentBlock - env.pendingBlockThreshold)

/-- `processBlockWitnesses`, up to its request; it may return before. The RPC thread is asked about
the header only, and what is checked afterwards is the message as it came. -/
def processBlockWitnesses (env : WitnessEnvironment) (self : Bool) (blockNumber : ℕ)
    (blockWitness : BlockHeaderWitness) (m : BlockWitnessManager) : BlockWitnessManager :=
  let phase :=
    if m.isOld env blockNumber then .ended
    else if (m.filterWitnesses blockNumber blockWitness).validatorWitnesses = [] then .ended
    else .asked
  { m with validations := m.validations ++ [⟨self, blockNumber, blockWitness, phase⟩] }

def addKnownWitnessIdentities (blockNumber : ℕ) (checksumHash : String)
    (witnesses : List OPNetBlockWitness) (m : BlockWitnessManager) : BlockWitnessManager :=
  let witnessIdentities := witnesses.filterMap OPNetBlockWitness.identity
  { m with
    knownWitnessIdentities := m.knownWitnessIdentities.set blockNumber
      ((m.knownWitnessIdentities.get blockNumber).getD [] ++ witnessIdentities)
    knownFor := m.knownFor ++ witnessIdentities.map fun identity =>
      (blockNumber, identity, checksumHash) }

def setPhase (k : ℕ) (v : WitnessValidation) (phase : ValidationPhase) (m : BlockWitnessManager) :
    BlockWitnessManager :=
  { m with validations := m.validations.set k { v with phase := phase } }

/-- `processBlockWitnesses` after the answer, up to the write. -/
def recordWitnesses (env : WitnessEnvironment) (k : ℕ) (v : WitnessValidation)
    (blockDataAtHeight : Option ValidatedBlockHeader) (m : BlockWitnessManager) :
    BlockWitnessManager :=
  let validWitnesses := env.checkedWitnesses v.blockWitness blockDataAtHeight
  if validWitnesses = [] then m.setPhase k v .ended
  else
    (m.addKnownWitnessIdentities v.blockNumber v.blockWitness.header.checksumHash
      validWitnesses).setPhase k v (.writing validWitnesses)

/-! Witnesses of peers -/

def enqueueWitnessValidation (env : WitnessEnvironment) (blockNumber : ℕ)
    (witness : BlockHeaderWitness) (m : BlockWitnessManager) : BlockWitnessManager :=
  if MAX_VALIDATIONS_PER_BLOCK ≤ (m.blockValidationCount.get blockNumber).getD 0 then m
  else if MAX_WITNESS_QUEUE_SIZE ≤ m.witnessQueue.length then m
  else if m.isOld env blockNumber then m
  else { m with witnessQueue := m.witnessQueue ++ [(blockNumber, witness)] }

/-- The loop of `drainWitnessQueue` over the queue. -/
def drainItems (env : WitnessEnvironment) : List (ℕ × BlockHeaderWitness) → BlockWitnessManager →
    BlockWitnessManager
  | [], m => { m with witnessQueue := [] }
  | item :: items, m =>
    if m.activeValidations < MAX_CONCURRENT_WITNESS_VALIDATIONS then
      let count := (m.blockValidationCount.get item.1).getD 0
      if MAX_VALIDATIONS_PER_BLOCK ≤ count then drainItems env items m
      else
        drainItems env items
          (processBlockWitnesses env false item.1 item.2
            { m with
              activeValidations := m.activeValidations + 1
              blockValidationCount := m.blockValidationCount.set item.1 (count + 1) })
    else { m with witnessQueue := item :: items }

def drainWitnessQueue (env : WitnessEnvironment) (m : BlockWitnessManager) : BlockWitnessManager :=
  drainItems env m.witnessQueue m

/-- `processQueuedWitnesses`; no height is below 0. -/
def processQueuedWitnesses (env : WitnessEnvironment) (m : BlockWitnessManager) :
    BlockWitnessManager :=
  match m.currentBlock with
  | .negSucc _ => m
  | .ofNat block =>
    match m.pendingWitnessesVerification.get block with
    | none => m
    | some queued =>
      queued.foldl (fun m witness => enqueueWitnessValidation env block witness m)
        { m with pendingWitnessesVerification := m.pendingWitnessesVerification.erase block }

def addToPendingWitnessesVerification (env : WitnessEnvironment) (blockNumber : ℕ)
    (blockWitness : BlockHeaderWitness) (m : BlockWitnessManager) : BlockWitnessManager :=
  if m.currentBlock = -1 then m
  else if (env.pendingBlockThreshold : ℤ) < |m.currentBlock - blockNumber| then m
  else if (blockNumber : ℤ) < m.currentBlock then m
  else
    match m.pendingWitnessesVerification.get blockNumber with
    | none =>
      { m with
        pendingWitnessesVerification :=
          m.pendingWitnessesVerification.set blockNumber [blockWitness] }
    | some witnesses =>
      if witnesses.length < maxPendingWitnesses then
        { m with
          pendingWitnessesVerification :=
            m.pendingWitnessesVerification.set blockNumber (witnesses ++ [blockWitness]) }
      else m

def onBlockWitness (env : WitnessEnvironment) (blockNumber : ℕ) (blockWitness : BlockHeaderWitness)
    (m : BlockWitnessManager) : BlockWitnessManager :=
  if m.currentBlock = -1 then m
  else if m.currentBlock < blockNumber then
    m.addToPendingWitnessesVerification env blockNumber blockWitness
  else
    ((m.enqueueWitnessValidation env blockNumber blockWitness).processQueuedWitnesses
      env).drainWitnessQueue env

/-! The node's own witnesses -/

/-- The body of the loop of `processSelfQueue`, up to the wait for the new height. -/
def shiftSelfWitness (m : BlockWitnessManager) : BlockWitnessManager :=
  match m.selfWitnessQueue with
  | [] => { m with selfQueue := .idle }
  | data :: rest =>
    let m :=
      if (data.blockNumber : ℤ) < m.currentBlock then m.revertKnownWitnessesReorg data.blockNumber
      else m
    { m.setCurrentBlock data.blockNumber with
      selfWitnessQueue := rest
      selfQueue := .settingHeight data }

/-- `processSelfQueue`, from the head of its loop. -/
def processSelfQueue (m : BlockWitnessManager) : BlockWitnessManager :=
  if m.selfWitnessQueue = [] then { m with selfQueue := .idle }
  else if MAX_CONCURRENT_SELF_PROOFS ≤ m.activeSelfProofs then { m with selfQueue := .waitingForSlot }
  else m.shiftSelfWitness

/-- `queueSelfWitness`, with `drainSelfWitnessQueue`. -/
def queueSelfWitness (data : BlockProcessedData) (m : BlockWitnessManager) : BlockWitnessManager :=
  let m := { m with selfWitnessQueue := m.selfWitnessQueue ++ [data] }
  if m.selfQueue = .idle then m.processSelfQueue else m

/-- `generateSelfProof`, at a time; it throws on a header that is not hexadecimal. -/
def generateSelfProof (env : WitnessEnvironment) (data : BlockProcessedData) (now : ℕ)
    (m : BlockWitnessManager) : BlockWitnessManager :=
  match env.blockHeaderChecksumHash data.header with
  | none =>
    { m with
      validations := m.validations ++ [⟨true, data.blockNumber, ⟨data.header, []⟩, .ended⟩] }
  | some blockChecksumHash =>
    m.processBlockWitnesses env true data.blockNumber
      ⟨data.header, [env.acknowledgeData blockChecksumHash now]⟩

/-- The rest of the loop's body, once the height is set, and on to the next item. -/
def startSelfProof (env : WitnessEnvironment) (data : BlockProcessedData) (now : ℕ)
    (m : BlockWitnessManager) : BlockWitnessManager :=
  (generateSelfProof env data now
    { m with activeSelfProofs := m.activeSelfProofs + 1 }).processSelfQueue

/-- What follows a validation. A proof that is done lets the loop go on, if it waits. -/
def settle (env : WitnessEnvironment) (k : ℕ) (v : WitnessValidation) (m : BlockWitnessManager) :
    BlockWitnessManager :=
  let m := { m with validations := m.validations.eraseIdx k }
  if v.self then { m with activeSelfProofs := m.activeSelfProofs - 1 }
  else drainWitnessQueue env { m with activeValidations := m.activeValidations - 1 }

end BlockWitnessManager

/-! ### Witnesses of peers

What happens to a manager as far as peers are concerned: their messages, the height, the validations
that go on and end, and the purge. -/

inductive PeerWitnessEvent where
  | setCurrentBlock (newBlock : ℕ)
  | onBlockWitness (blockNumber : ℕ) (blockWitness : BlockHeaderWitness)
  /-- `onBlockWitnessResponse`, once the header is read. -/
  | onBlockWitnessResponse (blockNumber : ℕ) (blockWitness : BlockHeaderWitness)
  /-- A validation goes on with the answer of the RPC thread. -/
  | answered (k : ℕ) (blockDataAtHeight : Option ValidatedBlockHeader)
  /-- A validation has ended or failed. -/
  | settle (k : ℕ)
  | purgeOldWitnesses
  deriving DecidableEq, Repr

namespace BlockWitnessManager

def peerStep (env : WitnessEnvironment) (m : BlockWitnessManager) :
    PeerWitnessEvent → Option BlockWitnessManager
  | .setCurrentBlock newBlock => some (m.setCurrentBlock newBlock)
  | .onBlockWitness blockNumber blockWitness => some (m.onBlockWitness env blockNumber blockWitness)
  | .onBlockWitnessResponse blockNumber blockWitness =>
    some ((m.enqueueWitnessValidation env blockNumber blockWitness).drainWitnessQueue env)
  | .answered k blockDataAtHeight =>
    m.validations[k]?.map fun v => m.recordWitnesses env k v blockDataAtHeight
  | .settle k => m.validations[k]?.map fun v => m.settle env k v
  | .purgeOldWitnesses => some (m.purgeOldWitnesses env)

end BlockWitnessManager

end OpnetNode
