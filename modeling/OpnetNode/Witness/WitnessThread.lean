import OpnetNode.Transition
import OpnetNode.Witness.BlockWitnessManager

/-!
# Witness threads

Each witness thread has a manager of its own and gets three kinds of messages: that the height of the
indexer has changed, that a block was processed, and what peers send. All of them share the
collections of headers and of witnesses, which the indexer and its reverts change meanwhile.

* `WitnessThread`: a thread; `handlePeerMessage`, `heightUpdate`, `blockProcessed`: its messages.
* `WitnessSystem.step`: one event: a message, the continuation of something that waits, a write or a
  deletion.

`PoC.onBlockProcessed` sends a height update to every thread and then the block to one of them; here
messages come in any order.
-/

namespace OpnetNode

inductive WitnessPeerMessage where
  /-- `WITNESS_PEER_DATA`. -/
  | data (blockNumber : ℕ) (blockWitness : BlockHeaderWitness)
  /-- `WITNESS_PEER_RESPONSE`. -/
  | response (blockNumber : ℕ) (validatorWitnesses : List OPNetBlockWitness)
  deriving DecidableEq, Repr

/-- A thread; a response whose block header is being read is in `responses`. -/
structure WitnessThread where
  initialized : Bool
  blockWitnessManager : BlockWitnessManager
  pendingPeerMessages : List WitnessPeerMessage
  currentBlockSet : Bool
  responses : List (ℕ × List OPNetBlockWitness)

namespace WitnessThread

open BlockWitnessManager

def init : WitnessThread := ⟨false, BlockWitnessManager.init, [], false, []⟩

def onManager (f : BlockWitnessManager → BlockWitnessManager) (t : WitnessThread) :
    WitnessThread :=
  { t with blockWitnessManager := f t.blockWitnessManager }

/-- A message from a peer; before the manager is set up it is dropped, and before the height is
known it is kept. -/
def handlePeerMessage (env : WitnessEnvironment) (message : WitnessPeerMessage)
    (t : WitnessThread) : WitnessThread :=
  if !t.initialized then t
  else if !t.currentBlockSet then
    { t with pendingPeerMessages := t.pendingPeerMessages ++ [message] }
  else
    match message with
    | .data blockNumber blockWitness => t.onManager (onBlockWitness env blockNumber blockWitness)
    | .response blockNumber validatorWitnesses =>
      { t with responses := t.responses ++ [(blockNumber, validatorWitnesses)] }

def flushPendingPeerMessages (env : WitnessEnvironment) (t : WitnessThread) : WitnessThread :=
  t.pendingPeerMessages.foldl (fun t message => t.handlePeerMessage env message)
    { t with pendingPeerMessages := [] }

/-- `WITNESS_HEIGHT_UPDATE`. -/
def heightUpdate (env : WitnessEnvironment) (blockNumber : ℕ) (t : WitnessThread) :
    WitnessThread :=
  if !t.initialized then t
  else
    let t := t.onManager (setCurrentBlock blockNumber)
    if t.currentBlockSet then t
    else flushPendingPeerMessages env { t with currentBlockSet := true }

/-- `WITNESS_BLOCK_PROCESSED`. -/
def blockProcessed (data : BlockProcessedData) (t : WitnessThread) : WitnessThread :=
  if !t.initialized then t else t.onManager (queueSelfWitness data)

/-- `onBlockWitnessResponse`, once the header is read. -/
def onBlockWitnessResponse (env : WitnessEnvironment) (k : ℕ) (blockNumber : ℕ)
    (validatorWitnesses : List OPNetBlockWitness) (blockHeader : Option WitnessedHeader)
    (t : WitnessThread) : WitnessThread :=
  let t := { t with responses := t.responses.eraseIdx k }
  match blockHeader with
  | none => t
  | some header =>
    t.onManager fun m =>
      (m.enqueueWitnessValidation env blockNumber ⟨header, validatorWitnesses⟩).drainWitnessQueue env

end WitnessThread

/-! ### The system -/

structure WitnessSystem where
  threads : List WitnessThread
  blockHeaders : JsMap ℕ WitnessedHeader
  blockWitnesses : Collection BlockWitnessRecord

/-- One upsert of `setBlockWitnesses`. -/
def setBlockWitness (height : ℕ) (identity : String) (witness : OPNetBlockWitness)
    (witnesses : Collection BlockWitnessRecord) : Collection BlockWitnessRecord :=
  witnesses.upsertOne (fun d => decide (d.blockNumber = height) && decide (d.identity = identity))
    (fun d =>
      { d with
        signature := witness.signature
        timestamp := witness.timestamp
        publicKey := witness.publicKey })
    ⟨height, identity, witness.signature, witness.timestamp, witness.publicKey⟩

inductive WitnessEvent where
  /-- The manager of a thread is set up. -/
  | init (i : ℕ)
  | heightUpdate (i blockNumber : ℕ)
  | blockProcessed (i : ℕ) (data : BlockProcessedData)
  | peerMessage (i : ℕ) (message : WitnessPeerMessage)
  | headerRead (i k : ℕ)
  /-- The queue of own witnesses goes on after a new height, at a time. -/
  | heightSet (i now : ℕ)
  /-- The queue of own witnesses goes on as a proof is done. -/
  | slotFreed (i : ℕ)
  /-- The RPC thread reads the stored header for a validation, and says whether the proofs of the
  message are valid; with `none` the request fails. -/
  | answer (i k : ℕ) (hasValidProofs : Option (Option Bool))
  /-- A validation goes on with its answer. -/
  | answered (i k : ℕ)
  /-- One of the upserts of a write lands. -/
  | upsert (i k j : ℕ)
  /-- A write is over, or has failed. -/
  | written (i k : ℕ)
  | settle (i k : ℕ)
  | purgeOldWitnesses (i : ℕ)
  /-- The indexer finalises a block. -/
  | saveBlockHeader (blockNumber : ℕ) (header : WitnessedHeader)
  | deleteBlockHeaders (range : HeightRange)
  | deleteBlockWitnesses (range : HeightRange)

namespace WitnessSystem

open BlockWitnessManager

/-- `n` threads that are starting, and empty collections. -/
def init (n : ℕ) : WitnessSystem := ⟨List.replicate n .init, .empty, []⟩

def onThread (s : WitnessSystem) (i : ℕ) (f : WitnessThread → WitnessThread) :
    Option WitnessSystem :=
  s.threads[i]?.map fun t => { s with threads := s.threads.set i (f t) }

def validation? (s : WitnessSystem) (i k : ℕ) : Option WitnessValidation :=
  s.threads[i]?.bind fun t => t.blockWitnessManager.validations[k]?

/-- The RPC thread says that proofs are valid only if there can be valid ones. -/
def truthful (env : WitnessEnvironment) (v : WitnessValidation) :
    Option (Option Bool) → Bool
  | some (some true) => env.provable v.blockWitness.header
  | _ => true

/-- The threads when a header is stored: no identity has been recorded for it, if it is a new one. -/
def unrecorded (s : WitnessSystem) (blockNumber : ℕ) (header : WitnessedHeader) : List WitnessThread :=
  if s.blockHeaders.get blockNumber = some header then s.threads
  else
    s.threads.map (WitnessThread.onManager fun m =>
      { m with knownFor := m.knownFor.filter fun e => e.1 ≠ blockNumber })

def step (env : WitnessEnvironment) (s : WitnessSystem) : WitnessEvent → Option WitnessSystem
  | .init i => s.onThread i fun t => { t with initialized := true }
  | .heightUpdate i blockNumber => s.onThread i (WitnessThread.heightUpdate env blockNumber)
  | .blockProcessed i data => s.onThread i (WitnessThread.blockProcessed data)
  | .peerMessage i message => s.onThread i (WitnessThread.handlePeerMessage env message)
  | .headerRead i k =>
    (s.threads[i]?.bind fun t => t.responses[k]?).bind fun response =>
      s.onThread i (WitnessThread.onBlockWitnessResponse env k response.1 response.2
        (s.blockHeaders.get response.1))
  | .heightSet i now =>
    s.threads[i]?.bind fun t =>
      match t.blockWitnessManager.selfQueue with
      | .settingHeight data =>
        s.onThread i (WitnessThread.onManager (startSelfProof env data now))
      | _ => none
  | .slotFreed i =>
    s.threads[i]?.bind fun t =>
      if t.blockWitnessManager.selfQueue = .waitingForSlot
          ∧ t.blockWitnessManager.activeSelfProofs < MAX_CONCURRENT_SELF_PROOFS then
        s.onThread i (WitnessThread.onManager shiftSelfWitness)
      else none
  | .answer i k hasValidProofs =>
    (s.validation? i k).bind fun v =>
      if v.phase = .asked ∧ truthful env v hasValidProofs then
        s.onThread i (WitnessThread.onManager (setPhase k v (.answered
          (hasValidProofs.map fun valid => ⟨valid, s.blockHeaders.get v.blockNumber⟩))))
      else none
  | .answered i k =>
    (s.validation? i k).bind fun v =>
      match v.phase with
      | .answered blockDataAtHeight =>
        s.onThread i (WitnessThread.onManager (recordWitnesses env k v blockDataAtHeight))
      | _ => none
  | .upsert i k j =>
    (s.validation? i k).bind fun v =>
      match v.phase with
      | .writing witnesses =>
        witnesses[j]?.bind fun witness =>
          (s.onThread i (WitnessThread.onManager
            (setPhase k v (.writing (witnesses.eraseIdx j))))).map fun s' =>
              match witness.identity with
              | none => s'
              | some identity =>
                { s' with
                  blockWitnesses :=
                    setBlockWitness v.blockNumber identity witness s.blockWitnesses }
      | _ => none
  | .written i k =>
    (s.validation? i k).bind fun v =>
      match v.phase with
      | .writing _ => s.onThread i (WitnessThread.onManager (setPhase k v .ended))
      | _ => none
  | .settle i k =>
    (s.validation? i k).bind fun v =>
      if v.phase = .ended then
        s.onThread i (WitnessThread.onManager (BlockWitnessManager.settle env k v))
      else none
  | .purgeOldWitnesses i => s.onThread i (WitnessThread.onManager (purgeOldWitnesses env))
  | .saveBlockHeader blockNumber header =>
    if env.finalised header then
      some
        { s with
          threads := s.unrecorded blockNumber header
          blockHeaders := s.blockHeaders.set blockNumber header }
    else none
  | .deleteBlockHeaders range =>
    some { s with blockHeaders := s.blockHeaders.filterKeys fun n => !range.contains n }
  | .deleteBlockWitnesses range =>
    some
      { s with
        blockWitnesses := s.blockWitnesses.deleteMany
          (range.selects fun d => some d.blockNumber) }

end WitnessSystem

end OpnetNode
