import OpnetNode.Witness.WitnessThread

/-!
# What the methods of the block witness manager leave alone

Only the answer of the RPC thread and what follows it make an identity known or a witness ready to be
written. Every other method forgets identities at most, and starts validations at most (`Calm`).

* `calm_onBlockWitness`, `calm_queueSelfWitness`, `calm_settle` and so on: the methods are calm.
* `calm_heightUpdate`, `calm_handlePeerMessage` and so on: so are the messages of a thread.
* `of_mem_checkedWitnesses`: what a witness has passed that a validation goes on with.
-/

namespace OpnetNode

namespace BlockWitnessManager

/-- No identity becomes known, and the validations are old ones, or have not got an answer. -/
structure Calm (m m' : BlockWitnessManager) : Prop where
  known : ∀ n ids, m'.knownWitnessIdentities.get n = some ids →
    m.knownWitnessIdentities.get n = some ids
  knownFor : m'.knownFor = m.knownFor
  validations : ∀ v ∈ m'.validations,
    v ∈ m.validations ∨ v.phase = .asked ∨ v.phase = .ended

variable {env : WitnessEnvironment}

namespace Calm

theorem refl (m : BlockWitnessManager) : Calm m m :=
  ⟨fun _ _ h => h, rfl, fun _ h => Or.inl h⟩

theorem trans {m m' m'' : BlockWitnessManager} (h : Calm m m') (h' : Calm m' m'') :
    Calm m m'' := by
  refine ⟨?_, ?_, ?_⟩
  · intro n ids hget
    exact h.known n ids (h'.known n ids hget)
  · rw [h'.knownFor, h.knownFor]
  · intro v hv
    rcases h'.validations v hv with hold | hnew
    · exact h.validations v hold
    · exact Or.inr hnew

theorem of_eq {m m' : BlockWitnessManager}
    (hknown : m'.knownWitnessIdentities = m.knownWitnessIdentities)
    (hknownFor : m'.knownFor = m.knownFor) (hvalidations : m'.validations = m.validations) :
    Calm m m' := by
  refine ⟨?_, hknownFor, ?_⟩
  · intro n ids hget
    rw [← hknown]
    exact hget
  · intro v hv
    rw [hvalidations] at hv
    exact Or.inl hv

end Calm

theorem calm_setCurrentBlock (newBlock : ℤ) (m : BlockWitnessManager) :
    Calm m (m.setCurrentBlock newBlock) :=
  .of_eq rfl rfl rfl

theorem calm_revertKnownWitnessesReorg (toBlock : ℕ) (m : BlockWitnessManager) :
    Calm m (m.revertKnownWitnessesReorg toBlock) := by
  refine ⟨?_, rfl, fun v hv => Or.inl hv⟩
  intro n ids hget
  unfold revertKnownWitnessesReorg at hget
  rw [JsMap.get_filterKeys] at hget
  split at hget
  · exact hget
  · cases hget

variable (m : BlockWitnessManager)

theorem calm_purgeOldWitnesses : Calm m (m.purgeOldWitnesses env) := by
  refine ⟨?_, rfl, fun v hv => Or.inl hv⟩
  intro n ids hget
  unfold purgeOldWitnesses at hget
  rw [JsMap.get_filterKeys] at hget
  split at hget
  · exact hget
  · cases hget

theorem calm_processBlockWitnesses (self : Bool) (blockNumber : ℕ)
    (blockWitness : BlockHeaderWitness) (m : BlockWitnessManager) :
    Calm m (m.processBlockWitnesses env self blockNumber blockWitness) := by
  refine ⟨fun n ids hget => hget, rfl, ?_⟩
  intro v hv
  rcases List.mem_append.mp hv with hv | hv
  · exact Or.inl hv
  · right
    rw [List.mem_singleton.mp hv]
    dsimp only
    split
    · exact Or.inr rfl
    · split
      · exact Or.inr rfl
      · exact Or.inl rfl

/-! Witnesses of peers -/

theorem calm_enqueueWitnessValidation (blockNumber : ℕ) (witness : BlockHeaderWitness)
    (m : BlockWitnessManager) : Calm m (m.enqueueWitnessValidation env blockNumber witness) := by
  unfold enqueueWitnessValidation
  split
  · exact .refl m
  split
  · exact .refl m
  split
  · exact .refl m
  · exact .of_eq rfl rfl rfl

theorem calm_drainItems (items : List (ℕ × BlockHeaderWitness)) (m : BlockWitnessManager) :
    Calm m (drainItems env items m) := by
  induction items generalizing m with
  | nil => exact .of_eq rfl rfl rfl
  | cons item items ih =>
    rw [drainItems]
    split
    · dsimp only
      split
      · exact ih m
      · -- the counters are raised, and the item is processed
        apply Calm.trans _ (ih _)
        apply Calm.trans _ (calm_processBlockWitnesses _ _ _ _)
        exact .of_eq rfl rfl rfl
    · exact .of_eq rfl rfl rfl

theorem calm_drainWitnessQueue : Calm m (m.drainWitnessQueue env) :=
  calm_drainItems m.witnessQueue m

theorem calm_enqueueAll (blockNumber : ℕ) (queued : List BlockHeaderWitness)
    (m : BlockWitnessManager) :
    Calm m (queued.foldl (fun m witness => enqueueWitnessValidation env blockNumber witness m) m) := by
  induction queued generalizing m with
  | nil => exact .refl m
  | cons witness queued ih => exact (calm_enqueueWitnessValidation _ _ m).trans (ih _)

theorem calm_processQueuedWitnesses : Calm m (m.processQueuedWitnesses env) := by
  unfold processQueuedWitnesses
  split
  · exact .refl m
  · split
    · exact .refl m
    · apply Calm.trans _ (calm_enqueueAll _ _ _)
      exact .of_eq rfl rfl rfl

theorem calm_addToPendingWitnessesVerification (blockNumber : ℕ)
    (blockWitness : BlockHeaderWitness) (m : BlockWitnessManager) :
    Calm m (m.addToPendingWitnessesVerification env blockNumber blockWitness) := by
  unfold addToPendingWitnessesVerification
  split
  · exact .refl m
  split
  · exact .refl m
  split
  · exact .refl m
  split
  · exact .of_eq rfl rfl rfl
  · split
    · exact .of_eq rfl rfl rfl
    · exact .refl m

theorem calm_onBlockWitness (blockNumber : ℕ) (blockWitness : BlockHeaderWitness)
    (m : BlockWitnessManager) : Calm m (m.onBlockWitness env blockNumber blockWitness) := by
  unfold onBlockWitness
  split
  · exact .refl m
  split
  · exact calm_addToPendingWitnessesVerification _ _ m
  · apply Calm.trans _ (calm_drainWitnessQueue _)
    exact (calm_enqueueWitnessValidation _ _ m).trans (calm_processQueuedWitnesses _)

/-! The node's own witnesses -/

theorem calm_shiftSelfWitness : Calm m m.shiftSelfWitness := by
  unfold shiftSelfWitness
  split
  · exact .of_eq rfl rfl rfl
  · rename_i data rest _
    dsimp only
    split
    · apply (calm_revertKnownWitnessesReorg data.blockNumber m).trans
      exact .of_eq rfl rfl rfl
    · exact .of_eq rfl rfl rfl

theorem calm_processSelfQueue : Calm m m.processSelfQueue := by
  unfold processSelfQueue
  split
  · exact .of_eq rfl rfl rfl
  split
  · exact .of_eq rfl rfl rfl
  · exact calm_shiftSelfWitness m

theorem calm_queueSelfWitness (data : BlockProcessedData) (m : BlockWitnessManager) :
    Calm m (m.queueSelfWitness data) := by
  have hpush : Calm m { m with selfWitnessQueue := m.selfWitnessQueue ++ [data] } :=
    .of_eq rfl rfl rfl
  unfold queueSelfWitness
  dsimp only
  split
  · exact hpush.trans (calm_processSelfQueue _)
  · exact hpush

theorem calm_generateSelfProof (data : BlockProcessedData) (now : ℕ) (m : BlockWitnessManager) :
    Calm m (m.generateSelfProof env data now) := by
  unfold generateSelfProof
  split
  · refine ⟨fun n ids hget => hget, rfl, ?_⟩
    intro v hv
    rcases List.mem_append.mp hv with hv | hv
    · exact Or.inl hv
    · rw [List.mem_singleton.mp hv]
      exact Or.inr (Or.inr rfl)
  · exact calm_processBlockWitnesses _ _ _ m

theorem calm_startSelfProof (data : BlockProcessedData) (now : ℕ) (m : BlockWitnessManager) :
    Calm m (m.startSelfProof env data now) := by
  unfold startSelfProof
  apply Calm.trans _ (calm_processSelfQueue _)
  apply Calm.trans _ (calm_generateSelfProof data now _)
  exact .of_eq rfl rfl rfl

theorem calm_settle (k : ℕ) (v : WitnessValidation) (m : BlockWitnessManager) :
    Calm m (m.settle env k v) := by
  have herase : ∀ selfProofs validations : ℕ,
      Calm m { m with
        validations := m.validations.eraseIdx k
        activeSelfProofs := selfProofs
        activeValidations := validations } := by
    intro selfProofs validations
    refine ⟨fun n ids hget => hget, rfl, ?_⟩
    intro v hv
    exact Or.inl (List.mem_of_mem_eraseIdx hv)
  unfold settle
  dsimp only
  split
  · exact herase _ _
  · exact (herase _ _).trans (calm_drainWitnessQueue _)

theorem calm_setPhase (k : ℕ) (v : WitnessValidation) {phase : ValidationPhase}
    (hphase : phase = .asked ∨ phase = .ended) (m : BlockWitnessManager) :
    Calm m (m.setPhase k v phase) := by
  refine ⟨fun n ids hget => hget, rfl, ?_⟩
  intro v' hv'
  rcases List.mem_or_eq_of_mem_set hv' with hold | rfl
  · exact Or.inl hold
  · exact Or.inr hphase

end BlockWitnessManager

/-! ### What is checked -/

/-- The proofs of the message are valid, its checksum is the stored one, and the witness is one for
the header of the message. -/
theorem of_mem_checkedWitnesses {env : WitnessEnvironment} {blockWitness : BlockHeaderWitness}
    {blockDataAtHeight : Option ValidatedBlockHeader} {w : OPNetBlockWitness}
    (h : w ∈ env.checkedWitnesses blockWitness blockDataAtHeight) :
    ∃ storedBlockHeader blockChecksumHash,
      blockDataAtHeight = some ⟨some true, storedBlockHeader⟩ ∧
      storedChecksum storedBlockHeader = blockWitness.header.checksumHash ∧
      env.blockHeaderChecksumHash blockWitness.header = some blockChecksumHash ∧
      env.verifyAcknowledgment
        (WitnessEnvironment.mergeDataAndWitness blockChecksumHash w.timestamp) w := by
  cases blockDataAtHeight with
  | none => cases h
  | some answer =>
    obtain ⟨hasValidProofs, storedBlockHeader⟩ := answer
    rw [WitnessEnvironment.checkedWitnesses] at h
    split at h
    · cases h
    rename_i hchecksum
    split at h
    · cases h
    rename_i hvalid
    have hvalid : hasValidProofs = some true := not_not.mp hvalid
    unfold WitnessEnvironment.validateBlockHeaderSignatures at h
    split at h
    · cases h
    · rename_i blockChecksumHash hhash
      have hverified := (List.mem_filter.mp h).2
      exact ⟨storedBlockHeader, blockChecksumHash, by rw [hvalid], not_not.mp hchecksum, hhash,
        hverified⟩

/-! ### The messages of a thread -/

namespace WitnessThread

open BlockWitnessManager

variable {env : WitnessEnvironment}

theorem calm_handlePeerMessage (message : WitnessPeerMessage) (t : WitnessThread) :
    Calm t.blockWitnessManager (t.handlePeerMessage env message).blockWitnessManager := by
  unfold handlePeerMessage
  split
  · exact .refl _
  split
  · exact .refl _
  · split
    · exact calm_onBlockWitness _ _ _
    · exact .refl _

theorem calm_flushPendingPeerMessages (t : WitnessThread) :
    Calm t.blockWitnessManager (t.flushPendingPeerMessages env).blockWitnessManager := by
  have hfold : ∀ (messages : List WitnessPeerMessage) (t : WitnessThread),
      Calm t.blockWitnessManager
        (messages.foldl (fun t message => t.handlePeerMessage env message)
          t).blockWitnessManager := by
    intro messages
    induction messages with
    | nil => exact fun t => .refl _
    | cons message messages ih =>
      intro t
      exact (calm_handlePeerMessage message t).trans (ih _)
  exact hfold t.pendingPeerMessages { t with pendingPeerMessages := [] }

theorem calm_heightUpdate (blockNumber : ℕ) (t : WitnessThread) :
    Calm t.blockWitnessManager (t.heightUpdate env blockNumber).blockWitnessManager := by
  unfold heightUpdate
  split
  · exact .refl _
  · dsimp only
    split
    · exact calm_setCurrentBlock _ _
    · apply Calm.trans _ (calm_flushPendingPeerMessages _)
      exact calm_setCurrentBlock _ _

theorem calm_blockProcessed (data : BlockProcessedData) (t : WitnessThread) :
    Calm t.blockWitnessManager (t.blockProcessed data).blockWitnessManager := by
  unfold blockProcessed
  split
  · exact .refl _
  · exact calm_queueSelfWitness data _

theorem calm_onBlockWitnessResponse (k blockNumber : ℕ)
    (validatorWitnesses : List OPNetBlockWitness) (blockHeader : Option WitnessedHeader)
    (t : WitnessThread) :
    Calm t.blockWitnessManager
      (t.onBlockWitnessResponse env k blockNumber validatorWitnesses
        blockHeader).blockWitnessManager := by
  unfold onBlockWitnessResponse
  dsimp only
  split
  · exact .refl _
  · exact (calm_enqueueWitnessValidation _ _ _).trans (calm_drainWitnessQueue _)

end WitnessThread

end OpnetNode
