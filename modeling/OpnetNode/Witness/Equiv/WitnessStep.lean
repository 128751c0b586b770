import OpnetNode.Witness.Equiv.BlockWitnessManager

/-!
# What one event does

`WitnessStep` lists what an event can do to the threads and to the collections: most events are calm
for every thread and leave the collections, and each of the others changes one validation or one
collection. `witnessStep_of_step` shows that there is nothing else.
-/

namespace OpnetNode

open BlockWitnessManager WitnessThread

namespace WitnessSystem

def withManager (s : WitnessSystem) (i : ℕ) (t : WitnessThread) (m : BlockWitnessManager) :
    WitnessSystem :=
  { s with threads := s.threads.set i { t with blockWitnessManager := m } }

end WitnessSystem

/-- The effect of an event. -/
inductive WitnessStep (env : WitnessEnvironment) (s : WitnessSystem) :
    WitnessEvent → WitnessSystem → Prop
  | calm (event : WitnessEvent) {i : ℕ} {t t' : WitnessThread} (ht : s.threads[i]? = some t)
      (hcalm : Calm t.blockWitnessManager t'.blockWitnessManager) :
      WitnessStep env s event { s with threads := s.threads.set i t' }
  | answer {i k : ℕ} {t : WitnessThread} {v : WitnessValidation}
      {hasValidProofs : Option (Option Bool)} (ht : s.threads[i]? = some t)
      (hv : t.blockWitnessManager.validations[k]? = some v)
      (htruthful : WitnessSystem.truthful env v hasValidProofs) :
      WitnessStep env s (.answer i k hasValidProofs)
        (s.withManager i t (t.blockWitnessManager.setPhase k v (.answered
          (hasValidProofs.map fun valid => ⟨valid, s.blockHeaders.get v.blockNumber⟩))))
  | answered {i k : ℕ} {t : WitnessThread} {v : WitnessValidation}
      {blockDataAtHeight : Option ValidatedBlockHeader} (ht : s.threads[i]? = some t)
      (hv : t.blockWitnessManager.validations[k]? = some v)
      (hphase : v.phase = .answered blockDataAtHeight) :
      WitnessStep env s (.answered i k)
        (s.withManager i t (t.blockWitnessManager.recordWitnesses env k v blockDataAtHeight))
  | upsert {i k j : ℕ} {t : WitnessThread} {v : WitnessValidation}
      {witnesses : List OPNetBlockWitness} {witness : OPNetBlockWitness}
      {blockWitnesses : Collection BlockWitnessRecord} (ht : s.threads[i]? = some t)
      (hv : t.blockWitnessManager.validations[k]? = some v)
      (hphase : v.phase = .writing witnesses) (hwitness : witnesses[j]? = some witness)
      (hwrite : blockWitnesses = s.blockWitnesses ∨ ∃ identity, witness.identity = some identity ∧
        blockWitnesses = setBlockWitness v.blockNumber identity witness s.blockWitnesses) :
      WitnessStep env s (.upsert i k j)
        { s.withManager i t (t.blockWitnessManager.setPhase k v
            (.writing (witnesses.eraseIdx j))) with
          blockWitnesses := blockWitnesses }
  | saveBlockHeader {blockNumber : ℕ} {header : WitnessedHeader}
      (hfinalised : env.finalised header) :
      WitnessStep env s (.saveBlockHeader blockNumber header)
        { s with
          threads := s.unrecorded blockNumber header
          blockHeaders := s.blockHeaders.set blockNumber header }
  | deleteBlockHeaders (range : HeightRange) :
      WitnessStep env s (.deleteBlockHeaders range)
        { s with blockHeaders := s.blockHeaders.filterKeys fun n => !range.contains n }
  | deleteBlockWitnesses (range : HeightRange) :
      WitnessStep env s (.deleteBlockWitnesses range)
        { s with
          blockWitnesses := s.blockWitnesses.deleteMany
            (range.selects fun d => some d.blockNumber) }

variable {env : WitnessEnvironment} {s s' : WitnessSystem} {event : WitnessEvent}

variable {i : ℕ} {f : WitnessThread → WitnessThread}

theorem onThread_eq_some (h : s.onThread i f = some s') :
    ∃ t, s.threads[i]? = some t ∧ s' = { s with threads := s.threads.set i (f t) } := by
  obtain ⟨t, ht, rfl⟩ := Option.map_eq_some_iff.mp h
  exact ⟨t, ht, rfl⟩

theorem witnessStep_onThread (hcalm : ∀ t, Calm t.blockWitnessManager (f t).blockWitnessManager)
    (h : s.onThread i f = some s') : WitnessStep env s event s' := by
  obtain ⟨t, ht, rfl⟩ := onThread_eq_some h
  exact .calm event ht (hcalm t)

theorem validation?_eq_some {k : ℕ} {v : WitnessValidation} (h : s.validation? i k = some v) :
    ∃ t, s.threads[i]? = some t ∧ t.blockWitnessManager.validations[k]? = some v :=
  Option.bind_eq_some_iff.mp h

variable {t : WitnessThread}

theorem eq_withManager {f : BlockWitnessManager → BlockWitnessManager} (ht : s.threads[i]? = some t)
    (h : s.onThread i (onManager f) = some s') :
    s' = s.withManager i t (f t.blockWitnessManager) := by
  obtain ⟨t', ht', rfl⟩ := onThread_eq_some h
  cases ht.symm.trans ht'
  rfl

variable {t' : WitnessThread}

theorem mem_threads_withManager {m : BlockWitnessManager} (h : t' ∈ (s.withManager i t m).threads) :
    t' ∈ s.threads ∨ t'.blockWitnessManager = m := by
  rcases List.mem_or_eq_of_mem_set h with hold | rfl
  · exact Or.inl hold
  · exact Or.inr rfl

theorem mem_unrecorded {blockNumber : ℕ} {header : WitnessedHeader}
    (h : t' ∈ s.unrecorded blockNumber header) :
    ∃ t ∈ s.threads,
      t'.blockWitnessManager.validations = t.blockWitnessManager.validations ∧
      t'.blockWitnessManager.knownWitnessIdentities = t.blockWitnessManager.knownWitnessIdentities ∧
      (t'.blockWitnessManager.knownFor = t.blockWitnessManager.knownFor ∨
        s.blockHeaders.get blockNumber ≠ some header ∧ t'.blockWitnessManager.knownFor
          = t.blockWitnessManager.knownFor.filter fun e => e.1 ≠ blockNumber) := by
  unfold WitnessSystem.unrecorded at h
  split_ifs at h with hsame
  · exact ⟨t', h, rfl, rfl, .inl rfl⟩
  · obtain ⟨t, ht, rfl⟩ := List.mem_map.mp h
    exact ⟨t, ht, rfl, rfl, .inr ⟨hsame, rfl⟩⟩

theorem witnessStep_of_step (h : s.step env event = some s') : WitnessStep env s event s' := by
  cases event with
  | init i =>
    exact witnessStep_onThread (f := fun t => { t with initialized := true }) (fun _ => .refl _) h
  | heightUpdate i blockNumber => exact witnessStep_onThread (calm_heightUpdate blockNumber) h
  | blockProcessed i data => exact witnessStep_onThread (calm_blockProcessed data) h
  | peerMessage i message => exact witnessStep_onThread (calm_handlePeerMessage message) h
  | headerRead i k =>
    obtain ⟨response, -, h⟩ := Option.bind_eq_some_iff.mp h
    exact witnessStep_onThread (calm_onBlockWitnessResponse k _ _ _) h
  | heightSet i now =>
    rw [WitnessSystem.step] at h
    obtain ⟨t, -, h⟩ := Option.bind_eq_some_iff.mp h
    split at h
    · exact witnessStep_onThread (fun t => calm_startSelfProof _ now t.blockWitnessManager) h
    · cases h
  | slotFreed i =>
    rw [WitnessSystem.step] at h
    obtain ⟨t, -, h⟩ := Option.bind_eq_some_iff.mp h
    split at h
    · exact witnessStep_onThread (fun t => calm_shiftSelfWitness t.blockWitnessManager) h
    · cases h
  | answer i k hasValidProofs =>
    rw [WitnessSystem.step] at h
    obtain ⟨v, hvalidation, h⟩ := Option.bind_eq_some_iff.mp h
    obtain ⟨t, ht, hv⟩ := validation?_eq_some hvalidation
    split at h
    · rename_i hasked
      rw [eq_withManager ht h]
      exact .answer ht hv hasked.2
    · cases h
  | answered i k =>
    rw [WitnessSystem.step] at h
    obtain ⟨v, hvalidation, h⟩ := Option.bind_eq_some_iff.mp h
    obtain ⟨t, ht, hv⟩ := validation?_eq_some hvalidation
    split at h
    · rename_i blockDataAtHeight hphase
      rw [eq_withManager ht h]
      exact .answered ht hv hphase
    · cases h
  | upsert i k j =>
    rw [WitnessSystem.step] at h
    obtain ⟨v, hvalidation, h⟩ := Option.bind_eq_some_iff.mp h
    obtain ⟨t, ht, hv⟩ := validation?_eq_some hvalidation
    split at h
    · rename_i witnesses hphase
      obtain ⟨witness, hwitness, h⟩ := Option.bind_eq_some_iff.mp h
      obtain ⟨s₁, h, hs'⟩ := Option.map_eq_some_iff.mp h
      rw [eq_withManager ht h] at hs'
      -- a witness without an identity is not written
      split at hs'
      · rw [← hs']
        exact .upsert ht hv hphase hwitness (Or.inl rfl)
      · rename_i identity hidentity
        rw [← hs']
        exact .upsert ht hv hphase hwitness (Or.inr ⟨identity, hidentity, rfl⟩)
    · cases h
  | written i k =>
    rw [WitnessSystem.step] at h
    obtain ⟨v, -, h⟩ := Option.bind_eq_some_iff.mp h
    split at h
    · exact witnessStep_onThread (fun t => calm_setPhase k v (Or.inr rfl) t.blockWitnessManager) h
    · cases h
  | settle i k =>
    rw [WitnessSystem.step] at h
    obtain ⟨v, -, h⟩ := Option.bind_eq_some_iff.mp h
    split at h
    · exact witnessStep_onThread (fun t => calm_settle k v t.blockWitnessManager) h
    · cases h
  | purgeOldWitnesses i =>
    exact witnessStep_onThread (fun t => calm_purgeOldWitnesses t.blockWitnessManager) h
  | saveBlockHeader blockNumber header =>
    rw [WitnessSystem.step] at h
    split at h
    · rename_i hfinalised
      cases h
      exact .saveBlockHeader hfinalised
    · cases h
  | deleteBlockHeaders range =>
    cases h
    exact .deleteBlockHeaders range
  | deleteBlockWitnesses range =>
    cases h
    exact .deleteBlockWitnesses range

end OpnetNode
