import OpnetNode.Witness.Equiv.KnownWitnesses

/-!
# Stored witnesses attest the stored header

A message is compared with the header that is stored when the RPC thread answers, and its witnesses
are verified over the fields of the message; they are written some time later, to whatever height
the message was for.

* `Attests`: a stored witness has an identity of its key and a signature over the fields of a header.
* `HeadersSound`: what is relied on from the checksums and their proofs.
* `ReplacedCleanly`: a header replaces another when no witness is stored or about to be stored.
* `attesting_step`: under it, what is stored attests the stored header.
-/

namespace OpnetNode

open BlockWitnessManager WitnessThread

namespace WitnessEnvironment

/-- The identity is one of the key, and the key signed the fields of the header at some time. -/
def Attests (env : WitnessEnvironment) (header : WitnessedHeader) (d : BlockWitnessRecord) : Prop :=
  ∃ publicKey blockChecksumHash timestamp, d.publicKey = some publicKey ∧
    env.verifyOPNetIdentity d.identity publicKey = true ∧
    env.blockHeaderChecksumHash header = some blockChecksumHash ∧
    env.verifyOPNetSignature (mergeDataAndWitness blockChecksumHash timestamp) d.signature publicKey
      = true

/-- A witness that is verified over the fields of a header. -/
def SignedFor (env : WitnessEnvironment) (header : WitnessedHeader) (w : OPNetBlockWitness) : Prop :=
  ∃ blockChecksumHash, env.blockHeaderChecksumHash header = some blockChecksumHash ∧
    env.verifyAcknowledgment (mergeDataAndWitness blockChecksumHash w.timestamp) w = true

end WitnessEnvironment

namespace WitnessedHeader

/-- The previous block hash is missing in both headers or in none. -/
def SamePrevious (header header' : WitnessedHeader) : Prop :=
  header.previousBlockHash.getD "" = "" ↔ header'.previousBlockHash.getD "" = ""

instance (header header' : WitnessedHeader) : Decidable (SamePrevious header header') :=
  inferInstanceAs (Decidable (_ ↔ _))

/-- The fields that the proofs of a header cover; zeros stand for a missing previous block hash. -/
def provenFields (header : WitnessedHeader) : Option (Bytes × Bytes × Bytes) := do
  let blockHash ← fromHex header.blockHash
  let previousBlockHash ←
    if header.previousBlockHash.getD "" = "" then some (List.replicate 32 0)
    else fromHex (header.previousBlockHash.getD "")
  let previousBlockChecksum ← fromHex (withoutZeroX header.previousBlockChecksum)
  return (blockHash, previousBlockHash, previousBlockChecksum)

end WitnessedHeader

/-- The headers that are stored have proofs and are hexadecimal, and no header with proofs differs from
one that is stored under the same checksum in a field that the proofs cover. -/
structure HeadersSound (env : WitnessEnvironment) : Prop where
  provable : ∀ header, env.finalised header → env.provable header
  hexadecimal : ∀ header, env.finalised header → (env.blockHeaderChecksumHash header).isSome
  checksum_ne : ∀ header, env.finalised header → header.checksumHash ≠ ""
  fields : ∀ header stored, env.provable header → env.finalised stored →
    header.checksumHash = stored.checksumHash → header.provenFields.isSome →
    stored.provenFields.isSome → header.provenFields = stored.provenFields

variable {env : WitnessEnvironment}

/-! ### The header of a message and the stored header -/

variable {header : WitnessedHeader}

theorem blockHeaderChecksumHash_eq_some {blockChecksumHash : Bytes}
    (h : env.blockHeaderChecksumHash header = some blockChecksumHash) :
    ∃ blockHash previousBlockHash checksumHash previousBlockChecksum,
      fromHex header.blockHash = some blockHash ∧
      fromHex (header.previousBlockHash.getD "") = some previousBlockHash ∧
      fromHex (withoutZeroX header.checksumHash) = some checksumHash ∧
      fromHex (withoutZeroX header.previousBlockChecksum) = some previousBlockChecksum ∧
      blockChecksumHash
        = env.sha512 (blockHash ++ previousBlockHash ++ checksumHash ++ previousBlockChecksum) := by
  obtain ⟨blockHash, hblockHash, h⟩ := Option.bind_eq_some_iff.mp h
  obtain ⟨previousBlockHash, hprevious, h⟩ := Option.bind_eq_some_iff.mp h
  obtain ⟨checksumHash, hchecksum, h⟩ := Option.bind_eq_some_iff.mp h
  obtain ⟨previousBlockChecksum, hpreviousChecksum, h⟩ := Option.bind_eq_some_iff.mp h
  exact ⟨blockHash, previousBlockHash, checksumHash, previousBlockChecksum, hblockHash, hprevious,
    hchecksum, hpreviousChecksum, (Option.some.inj h).symm⟩

theorem provenFields_eq_some {blockHash previousBlockHash
    previousBlockChecksum : Bytes} (hblockHash : fromHex header.blockHash = some blockHash)
    (hprevious : fromHex (header.previousBlockHash.getD "") = some previousBlockHash)
    (hpreviousChecksum :
      fromHex (withoutZeroX header.previousBlockChecksum) = some previousBlockChecksum) :
    header.provenFields = some (blockHash,
      if header.previousBlockHash.getD "" = "" then List.replicate 32 0 else previousBlockHash,
      previousBlockChecksum) := by
  unfold WitnessedHeader.provenFields
  rw [hblockHash, hprevious, hpreviousChecksum]
  split
  · rfl
  · rfl

/-- A message whose proofs are valid and whose checksum is that of a stored header is hashed as the
stored header is, unless one of them misses the previous block hash. -/
theorem blockHeaderChecksumHash_congr (hsound : HeadersSound env) {stored : WitnessedHeader}
    (hprovable : env.provable header) (hfinalised : env.finalised stored)
    (hchecksum : storedChecksum (some stored) = header.checksumHash)
    (hsame : header.SamePrevious stored) {blockChecksumHash : Bytes}
    (hhash : env.blockHeaderChecksumHash header = some blockChecksumHash) :
    env.blockHeaderChecksumHash stored = some blockChecksumHash := by
  obtain ⟨storedHash, hstoredHash⟩ :=
    Option.isSome_iff_exists.mp (hsound.hexadecimal stored hfinalised)
  obtain ⟨blockHash, previous, checksum, previousChecksum, hblock, hprevious, hsum, hpreviousSum,
    hmessage⟩ := blockHeaderChecksumHash_eq_some hhash
  obtain ⟨blockHash', previous', checksum', previousChecksum', hblock', hprevious', hsum',
    hpreviousSum', hstored⟩ := blockHeaderChecksumHash_eq_some hstoredHash
  have hchecksum : header.checksumHash = stored.checksumHash := by
    rw [← hchecksum]
    simp [storedChecksum, Option.filter, hsound.checksum_ne stored hfinalised]
  have hfields := provenFields_eq_some hblock hprevious hpreviousSum
  have hfields' := provenFields_eq_some hblock' hprevious' hpreviousSum'
  have heq := hsound.fields header stored hprovable hfinalised hchecksum
    (by rw [hfields]; rfl) (by rw [hfields']; rfl)
  rw [hfields, hfields', Option.some.injEq, Prod.mk.injEq, Prod.mk.injEq] at heq
  obtain ⟨hblockEq, hpreviousEq, hpreviousSumEq⟩ := heq
  have hsumEq : checksum = checksum' := by
    rw [hchecksum, hsum'] at hsum
    exact (Option.some.inj hsum).symm
  have hprevEq : previous = previous' := by
    by_cases hempty : header.previousBlockHash.getD "" = ""
    · -- both are missing
      have hempty' := hsame.mp hempty
      rw [hempty] at hprevious
      rw [hempty'] at hprevious'
      exact Option.some.inj (hprevious.symm.trans hprevious')
    · have hempty' : ¬ stored.previousBlockHash.getD "" = "" := fun h => hempty (hsame.mpr h)
      rw [if_neg hempty, if_neg hempty'] at hpreviousEq
      exact hpreviousEq
  rw [hstoredHash, hstored, hmessage, hblockEq, hprevEq, hsumEq, hpreviousSumEq]

theorem attests_of_signedFor {w : OPNetBlockWitness} {identity : String}
    {d : BlockWitnessRecord} (h : env.SignedFor header w) (hidentity : w.identity = some identity)
    (hd : d.identity = identity) (hsignature : d.signature = w.signature)
    (hpublicKey : d.publicKey = w.publicKey) : env.Attests header d := by
  obtain ⟨blockChecksumHash, hhash, hverified⟩ := h
  unfold WitnessEnvironment.verifyAcknowledgment at hverified
  rw [hidentity] at hverified
  cases hkey : w.publicKey with
  | none => simp [hkey] at hverified
  | some publicKey =>
    simp only [hkey, Bool.and_eq_true] at hverified
    refine ⟨publicKey, blockChecksumHash, w.timestamp, ?_, ?_, hhash, ?_⟩
    · rw [hpublicKey, hkey]
    · rw [hd]
      exact hverified.1.2
    · rw [hsignature]
      exact hverified.2

/-! ### Runs -/

def WitnessValidation.toStore (env : WitnessEnvironment) (v : WitnessValidation) :
    List OPNetBlockWitness :=
  match v.phase with
  | .answered blockDataAtHeight => env.checkedWitnesses v.blockWitness blockDataAtHeight
  | .writing witnesses => witnesses
  | _ => []

namespace WitnessSystem

/-- A header is stored that is there already, or at a height at which no witness is stored and none
is on its way; and no message is found valid whose checksum is the stored one and which gives zeros
for the previous block hash that the stored header does not have, or the other way. -/
def ReplacedCleanly (env : WitnessEnvironment) (s : WitnessSystem) : WitnessEvent → Prop
  | .saveBlockHeader blockNumber header =>
    s.blockHeaders.get blockNumber = some header ∨
      ((∀ d ∈ s.blockWitnesses, d.blockNumber ≠ blockNumber) ∧
        ∀ t ∈ s.threads, ∀ v ∈ t.blockWitnessManager.validations, v.blockNumber = blockNumber →
          v.toStore env = [])
  | .answer i k (some (some true)) =>
    ∀ v ∈ s.validation? i k, ∀ header ∈ s.blockHeaders.get v.blockNumber,
      storedChecksum (some header) = v.blockWitness.header.checksumHash →
        v.blockWitness.header.SamePrevious header
  | _ => True

instance decidableReplacedCleanly (env : WitnessEnvironment) (s : WitnessSystem) :
    ∀ event, Decidable (ReplacedCleanly env s event)
  | .saveBlockHeader _ _ => inferInstanceAs (Decidable (_ ∨ _))
  | .answer i k (some (some true)) => inferInstanceAs (Decidable (∀ v ∈ s.validation? i k, _))
  | .answer _ _ none | .answer _ _ (some none) | .answer _ _ (some (some false)) | .init _
  | .heightUpdate _ _ | .blockProcessed _ _ | .peerMessage _ _ | .headerRead _ _ | .heightSet _ _
  | .slotFreed _ | .answered _ _ | .upsert _ _ _ | .written _ _ | .settle _ _
  | .purgeOldWitnesses _ | .deleteBlockHeaders _ | .deleteBlockWitnesses _ => isTrue trivial

/-- What is stored and what is on its way is for the stored headers. -/
structure Attesting (env : WitnessEnvironment) (s : WitnessSystem) : Prop where
  finalised : ∀ blockNumber header, s.blockHeaders.get blockNumber = some header →
    env.finalised header
  stored : ∀ d ∈ s.blockWitnesses, ∀ header, s.blockHeaders.get d.blockNumber = some header →
    env.Attests header d
  toStore : ∀ t ∈ s.threads, ∀ v ∈ t.blockWitnessManager.validations, ∀ header,
    s.blockHeaders.get v.blockNumber = some header → ∀ w ∈ v.toStore env, env.SignedFor header w

variable {s s' : WitnessSystem} {event : WitnessEvent}

theorem attesting_init (n : ℕ) : Attesting env (WitnessSystem.init n) := by
  refine ⟨?_, ?_, ?_⟩
  · intro blockNumber header hheader
    cases hheader
  · intro d hd
    cases hd
  · intro t _ v _ header hheader
    cases hheader

variable {i k : ℕ} {t : WitnessThread} {v : WitnessValidation}

theorem Attesting.setPhase (h : Attesting env s) {m : BlockWitnessManager} {phase : ValidationPhase}
    (ht : s.threads[i]? = some t)
    (hm : m.validations = t.blockWitnessManager.validations.set k { v with phase := phase })
    (hphase : ∀ header, s.blockHeaders.get v.blockNumber = some header →
      ∀ w ∈ ({ v with phase := phase }).toStore env, env.SignedFor header w) :
    Attesting env (s.withManager i t m) := by
  refine ⟨h.finalised, h.stored, ?_⟩
  intro t' ht' v' hv' header hheader
  rcases mem_threads_withManager ht' with hold | rfl
  · exact h.toStore t' hold v' hv' header hheader
  · rw [hm] at hv'
    rcases List.mem_or_eq_of_mem_set hv' with hold | rfl
    · exact h.toStore t (List.mem_of_getElem? ht) v' hold header hheader
    · exact hphase header hheader

theorem Attesting.calm (h : Attesting env s) {t' : WitnessThread} (ht : s.threads[i]? = some t)
    (hcalm : Calm t.blockWitnessManager t'.blockWitnessManager) :
    Attesting env { s with threads := s.threads.set i t' } := by
  refine ⟨h.finalised, h.stored, ?_⟩
  intro t'' ht'' v hv header hheader w hw
  rcases List.mem_or_eq_of_mem_set ht'' with hold | rfl
  · exact h.toStore t'' hold v hv header hheader w hw
  · rcases hcalm.validations v hv with hold | hasked | hended
    · exact h.toStore t (List.mem_of_getElem? ht) v hold header hheader w hw
    · simp [WitnessValidation.toStore, hasked] at hw
    · simp [WitnessValidation.toStore, hended] at hw

theorem Attesting.answer (hsound : HeadersSound env) (h : Attesting env s)
    {hasValidProofs : Option (Option Bool)}
    (ht : s.threads[i]? = some t) (hv : t.blockWitnessManager.validations[k]? = some v)
    (htruthful : truthful env v hasValidProofs)
    (hok : ReplacedCleanly env s (.answer i k hasValidProofs)) :
    Attesting env (s.withManager i t (t.blockWitnessManager.setPhase k v (.answered
      (hasValidProofs.map fun valid => ⟨valid, s.blockHeaders.get v.blockNumber⟩)))) := by
  apply h.setPhase ht rfl
  intro header hheader w hw
  obtain ⟨storedBlockHeader, blockChecksumHash, hanswer, hchecksum, hhash, hverified⟩ :=
    of_mem_checkedWitnesses hw
  obtain ⟨valid, rfl, hstored⟩ := Option.map_eq_some_iff.mp hanswer
  rw [ValidatedBlockHeader.mk.injEq, hheader] at hstored
  obtain ⟨rfl, rfl⟩ := hstored
  have hvalidation : v ∈ s.validation? i k := by
    unfold validation?
    rw [ht]
    exact hv
  have hsame := hok v hvalidation header hheader hchecksum
  exact ⟨blockChecksumHash, blockHeaderChecksumHash_congr hsound htruthful
    (h.finalised v.blockNumber header hheader) hchecksum hsame hhash, hverified⟩

theorem Attesting.answered (h : Attesting env s) {blockDataAtHeight : Option ValidatedBlockHeader}
    (ht : s.threads[i]? = some t) (hv : t.blockWitnessManager.validations[k]? = some v)
    (hphase : v.phase = .answered blockDataAtHeight) :
    Attesting env (s.withManager i t
      (t.blockWitnessManager.recordWitnesses env k v blockDataAtHeight)) := by
  unfold recordWitnesses
  dsimp only
  split
  · apply h.setPhase ht rfl
    intro header _ w hw
    cases hw
  · apply h.setPhase ht rfl
    intro header hheader w hw
    have hw : w ∈ v.toStore env := by
      unfold WitnessValidation.toStore
      rw [hphase]
      exact hw
    exact h.toStore t (List.mem_of_getElem? ht) v (List.mem_of_getElem? hv) header hheader w hw

theorem Attesting.upsert (h : Attesting env s) {blockNumber : ℕ} {identity : String}
    {witness : OPNetBlockWitness} (hidentity : witness.identity = some identity)
    (hsigned : ∀ header, s.blockHeaders.get blockNumber = some header →
      env.SignedFor header witness) :
    ∀ d ∈ setBlockWitness blockNumber identity witness s.blockWitnesses, ∀ header,
      s.blockHeaders.get d.blockNumber = some header → env.Attests header d := by
  apply Collection.forall_mem_upsertOne h.stored
  · intro d hd _ header hheader
    simp only [Bool.and_eq_true, decide_eq_true_eq] at hd
    have hheader : s.blockHeaders.get d.blockNumber = some header := hheader
    rw [hd.1] at hheader
    exact attests_of_signedFor (hsigned header hheader) hidentity hd.2 rfl rfl
  · intro header hheader
    exact attests_of_signedFor (hsigned header hheader) hidentity rfl rfl rfl

theorem attesting_step (hsound : HeadersSound env) (h : Attesting env s)
    (hok : ReplacedCleanly env s event) (hstep : s.step env event = some s') :
    Attesting env s' := by
  cases witnessStep_of_step hstep with
  | calm _ ht hcalm => exact h.calm ht hcalm
  | answer ht hv htruthful => exact h.answer hsound ht hv htruthful hok
  | answered ht hv hphase => exact h.answered ht hv hphase
  | @upsert i k j t v witnesses witness blockWitnesses ht hv hphase hwitness hwrite =>
    have hsigned : ∀ header, s.blockHeaders.get v.blockNumber = some header → ∀ w ∈ witnesses,
        env.SignedFor header w := by
      intro header hheader w hw
      have hw : w ∈ v.toStore env := by
        unfold WitnessValidation.toStore
        rw [hphase]
        exact hw
      exact h.toStore t (List.mem_of_getElem? ht) v (List.mem_of_getElem? hv) header hheader w hw
    have hrest : Attesting env
        (s.withManager i t (t.blockWitnessManager.setPhase k v (.writing (witnesses.eraseIdx j)))) := by
      apply h.setPhase ht rfl
      intro header hheader w hw
      exact hsigned header hheader w (List.mem_of_mem_eraseIdx hw)
    refine ⟨hrest.finalised, ?_, hrest.toStore⟩
    rcases hwrite with rfl | ⟨identity, hidentity, rfl⟩
    · exact h.stored
    · apply h.upsert hidentity
      intro header hheader
      exact hsigned header hheader witness (List.mem_of_getElem? hwitness)
  | @saveBlockHeader saved savedHeader hfinalised =>
    -- at another height nothing changes, and at this one there is nothing
    have hget : ∀ blockNumber header,
        (s.blockHeaders.set saved savedHeader).get blockNumber = some header →
        s.blockHeaders.get blockNumber = some header ∨
          blockNumber = saved ∧ header = savedHeader ∧
            s.blockHeaders.get saved ≠ some savedHeader := by
      intro blockNumber header hheader
      rw [JsMap.get_set] at hheader
      split at hheader
      · rename_i heq
        cases hheader
        by_cases hsame : s.blockHeaders.get saved = some savedHeader
        · rw [heq]
          exact Or.inl hsame
        · exact Or.inr ⟨heq, rfl, hsame⟩
      · exact Or.inl hheader
    refine ⟨?_, ?_, ?_⟩
    · intro blockNumber header hheader
      rcases hget blockNumber header hheader with hold | ⟨-, rfl, -⟩
      · exact h.finalised blockNumber header hold
      · exact hfinalised
    · intro d hd header hheader
      rcases hget d.blockNumber header hheader with hold | ⟨hheight, -, hnew⟩
      · exact h.stored d hd header hold
      · rcases hok with hsame | hclean
        · exact absurd hsame hnew
        · exact absurd hheight (hclean.1 d hd)
    · intro t' ht' v hv header hheader w hw
      obtain ⟨t, ht, hvalidations, -⟩ := mem_unrecorded ht'
      rw [hvalidations] at hv
      rcases hget v.blockNumber header hheader with hold | ⟨hheight, -, hnew⟩
      · exact h.toStore t ht v hv header hold w hw
      · rcases hok with hsame | hclean
        · exact absurd hsame hnew
        · rw [hclean.2 t ht v hv hheight] at hw
          cases hw
  | deleteBlockHeaders range =>
    have hget : ∀ blockNumber header,
        (s.blockHeaders.filterKeys fun n => !range.contains n).get blockNumber = some header →
        s.blockHeaders.get blockNumber = some header := by
      intro blockNumber header hheader
      rw [JsMap.get_filterKeys] at hheader
      split at hheader
      · exact hheader
      · cases hheader
    refine ⟨?_, ?_, ?_⟩
    · intro blockNumber header hheader
      exact h.finalised blockNumber header (hget blockNumber header hheader)
    · intro d hd header hheader
      exact h.stored d hd header (hget d.blockNumber header hheader)
    · intro t ht v hv header hheader
      exact h.toStore t ht v hv header (hget v.blockNumber header hheader)
  | deleteBlockWitnesses range =>
    refine ⟨h.finalised, ?_, h.toStore⟩
    intro d hd
    exact h.stored d (Collection.mem_deleteMany.mp hd).1

end WitnessSystem

/-- **Stored witnesses attest the stored header.** In every run in which a header replaces another
only when no witness is stored at its height and none is on its way, each stored witness at the
height of a stored header has an identity of its key and a signature over the fields of that header. -/
theorem attests_of_runFrom (env : WitnessEnvironment) (hsound : HeadersSound env) (n : ℕ)
    (events : List WitnessEvent) (s : WitnessSystem)
    (hmeets : Meets (WitnessSystem.step env) (WitnessSystem.ReplacedCleanly env)
      (WitnessSystem.init n) events)
    (hrun : runFrom (WitnessSystem.step env) (WitnessSystem.init n) events = some s) :
    ∀ d ∈ s.blockWitnesses, ∀ header, s.blockHeaders.get d.blockNumber = some header →
      env.Attests header d := by
  have hinv : WitnessSystem.Attesting env s :=
    invariant_runFrom (fun _ _ _ h hok hstep => WitnessSystem.attesting_step hsound h hok hstep)
      events (WitnessSystem.init n) s (WitnessSystem.attesting_init n) hmeets hrun
  exact hinv.stored

/-! ### A write that is late -/

theorem headersSound_oneSigner : HeadersSound oneSigner := by
  have hcases : ∀ header, oneSigner.provable header →
      header = firstHeader ∨ header = secondHeader := by
    intro header hheader
    have hheader : (decide (header = firstHeader) || decide (header = secondHeader)) = true := hheader
    simpa using hheader
  have hdifferent : firstHeader.checksumHash ≠ secondHeader.checksumHash := by decide +kernel
  refine ⟨fun _ h => h, ?_, ?_, ?_⟩
  · intro header hheader
    rcases hcases header hheader with rfl | rfl
    · rw [blockHeaderChecksumHash_firstHeader]
      rfl
    · rw [blockHeaderChecksumHash_secondHeader]
      rfl
  · intro header hheader
    rcases hcases header hheader with rfl | rfl
    · decide +kernel
    · decide +kernel
  · intro header header' hheader hheader' hchecksum _ _
    rcases hcases header hheader with rfl | rfl
    · rcases hcases header' hheader' with rfl | rfl
      · rfl
      · exact absurd hchecksum hdifferent
    · rcases hcases header' hheader' with rfl | rfl
      · exact absurd hchecksum.symm hdifferent
      · rfl

/-- A height is reverted before it is witnessed. -/
def revertThenWitness : List WitnessEvent :=
  [.init 0, .saveBlockHeader 5 secondHeader] ++ revertHeight ++ storeAndWitness firstHeader 1000

/-- A height is reverted after the answer for its witness, before the write of the witness. -/
def revertBeforeWrite : List WitnessEvent :=
  [.init 0] ++ (storeAndWitness firstHeader 1000).take 6 ++ revertHeight
    ++ [.saveBlockHeader 5 secondHeader, .upsert 0 0 0, .written 0 0, .settle 0 0]

/-- The witness of the node for the first header. -/
def firstWitness : BlockWitnessRecord where
  blockNumber := 5
  identity := oneSigner.opnetAddress
  signature := firstSignature
  timestamp := 1000
  publicKey := some nodeKey

theorem attests_revertThenWitness :
    ∃ s, runFrom (WitnessSystem.step oneSigner) (WitnessSystem.init 1) revertThenWitness = some s ∧
      s.blockWitnesses = [firstWitness] ∧ s.blockHeaders.get 5 = some firstHeader ∧
      oneSigner.Attests firstHeader firstWitness := by
  have hmeets : Meets (WitnessSystem.step oneSigner) (WitnessSystem.ReplacedCleanly oneSigner)
        (WitnessSystem.init 1) revertThenWitness ∧
      (runFrom (WitnessSystem.step oneSigner) (WitnessSystem.init 1) revertThenWitness).map
        (fun s => (s.blockWitnesses, s.blockHeaders.get 5)) = some ([firstWitness], some firstHeader)
      := by decide +kernel
  obtain ⟨hmeets, hfields⟩ := hmeets
  obtain ⟨s, hrun, hfields⟩ := Option.map_eq_some_iff.mp hfields
  rw [Prod.mk.injEq] at hfields
  have hmem : firstWitness ∈ s.blockWitnesses := by
    rw [hfields.1]
    exact List.mem_singleton_self _
  exact ⟨s, hrun, hfields.1, hfields.2, attests_of_runFrom oneSigner headersSound_oneSigner 1
    revertThenWitness s hmeets hrun firstWitness hmem firstHeader hfields.2⟩

theorem not_attests_firstWitness : ¬ oneSigner.Attests secondHeader firstWitness := by
  rintro ⟨publicKey, blockChecksumHash, timestamp, -, -, hhash, hverified⟩
  cases blockHeaderChecksumHash_secondHeader.symm.trans hhash
  unfold oneSigner firstWitness at hverified
  simp only [Bool.and_eq_true, Bool.or_eq_true, decide_eq_true_eq] at hverified
  rcases hverified.2 with ⟨hdata, -⟩ | ⟨-, hsignature⟩
  · have hhashes := List.append_inj_left' hdata (by simp)
    revert hhashes
    decide +kernel
  · revert hsignature
    decide +kernel

/-- The header of the height is another one when the witness is written. -/
theorem not_attests_revertBeforeWrite :
    ∃ s, runFrom (WitnessSystem.step oneSigner) (WitnessSystem.init 1) revertBeforeWrite = some s ∧
      s.blockWitnesses = [firstWitness] ∧ s.blockHeaders.get 5 = some secondHeader ∧
      ¬ oneSigner.Attests secondHeader firstWitness := by
  have hfields : (runFrom (WitnessSystem.step oneSigner) (WitnessSystem.init 1)
        revertBeforeWrite).map (fun s => (s.blockWitnesses, s.blockHeaders.get 5))
      = some ([firstWitness], some secondHeader) := by decide +kernel
  obtain ⟨s, hrun, hfields⟩ := Option.map_eq_some_iff.mp hfields
  rw [Prod.mk.injEq] at hfields
  exact ⟨s, hrun, hfields.1, hfields.2, not_attests_firstWitness⟩

end OpnetNode
