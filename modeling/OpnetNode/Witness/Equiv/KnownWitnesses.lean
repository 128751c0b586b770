import OpnetNode.Witness.Equiv.WitnessStep

/-!
# Known witnesses and reorganisations

The identities whose witness was checked are kept by height. They are forgotten when a block of a
lower or equal height is processed while the current height is above it; but the height update that
comes before the block has already lowered the current height.

* `KnowsFor`: all that a manager knows at a height, or is about to know, is for one header.
* `DropsOnlyKnown`: a witness for the stored header is dropped only if its identity was recorded for
  that header, since it was stored.
* `knowsForStored_step`: the former is an invariant if no header is stored at a height at which
  something is known.
-/

namespace OpnetNode

open BlockWitnessManager WitnessThread

/-- The witnesses that a validation goes on with, if it has its answer. -/
def WitnessValidation.checked (env : WitnessEnvironment) (v : WitnessValidation) :
    List OPNetBlockWitness :=
  match v.phase with
  | .answered blockDataAtHeight => env.checkedWitnesses v.blockWitness blockDataAtHeight
  | _ => []

namespace BlockWitnessManager

/-- The identities that are known at a height were recorded for a header, and the validations that
will record some are for it. -/
structure KnowsFor (env : WitnessEnvironment) (blockNumber : ℕ) (header : WitnessedHeader)
    (m : BlockWitnessManager) : Prop where
  known : ∀ identities ∈ m.knownWitnessIdentities.get blockNumber, ∀ identity ∈ identities,
    (blockNumber, identity, storedChecksum (some header)) ∈ m.knownFor
  checked : ∀ v ∈ m.validations, v.blockNumber = blockNumber → v.checked env ≠ [] →
    v.blockWitness.header.checksumHash = storedChecksum (some header)

variable {env : WitnessEnvironment} {blockNumber : ℕ} {header : WitnessedHeader}
  {m m' : BlockWitnessManager}

/-- Nothing is known at a height, and the validations that will record some identities are for a
header. -/
structure Unknown (env : WitnessEnvironment) (blockNumber : ℕ) (header : WitnessedHeader)
    (m : BlockWitnessManager) : Prop where
  known : (m.knownWitnessIdentities.get blockNumber).getD [] = []
  checked : ∀ v ∈ m.validations, v.blockNumber = blockNumber → v.checked env ≠ [] →
    v.blockWitness.header.checksumHash = storedChecksum (some header)

instance decidableUnknown : Decidable (Unknown env blockNumber header m) :=
  decidable_of_iff
    ((m.knownWitnessIdentities.get blockNumber).getD [] = [] ∧
      ∀ v ∈ m.validations, v.blockNumber = blockNumber → v.checked env ≠ [] →
        v.blockWitness.header.checksumHash = storedChecksum (some header))
    ⟨fun h => ⟨h.1, h.2⟩, fun h => ⟨h.known, h.checked⟩⟩

/-- A manager that knows nothing at the height, whatever was recorded before. -/
theorem Unknown.knowsFor (h : Unknown env blockNumber header m)
    (hvalidations : m'.validations = m.validations)
    (hknown : m'.knownWitnessIdentities = m.knownWitnessIdentities) :
    KnowsFor env blockNumber header m' := by
  constructor
  · intro identities hidentities identity hidentity
    have hempty := h.known
    rw [hknown] at hidentities
    rw [Option.mem_def.mp hidentities, Option.getD_some] at hempty
    rw [hempty] at hidentity
    cases hidentity
  · rw [hvalidations]
    exact h.checked

namespace KnowsFor

theorem calm (h : KnowsFor env blockNumber header m) (hcalm : Calm m m') :
    KnowsFor env blockNumber header m' := by
  constructor
  · intro identities hidentities identity hidentity
    rw [hcalm.knownFor]
    exact h.known identities (hcalm.known blockNumber identities hidentities) identity hidentity
  · intro v hv hheight hchecked
    rcases hcalm.validations v hv with hold | hasked | hended
    · exact h.checked v hold hheight hchecked
    · simp [WitnessValidation.checked, hasked] at hchecked
    · simp [WitnessValidation.checked, hended] at hchecked

variable {v : WitnessValidation}

theorem setPhase (h : KnowsFor env blockNumber header m) (k : ℕ) {phase : ValidationPhase}
    (hphase : v.blockNumber = blockNumber → ({ v with phase := phase }).checked env ≠ [] →
      v.blockWitness.header.checksumHash = storedChecksum (some header)) :
    KnowsFor env blockNumber header (m.setPhase k v phase) := by
  refine ⟨h.known, ?_⟩
  intro v' hv' hheight hchecked
  rcases List.mem_or_eq_of_mem_set hv' with hold | rfl
  · exact h.checked v' hold hheight hchecked
  · exact hphase hheight hchecked

theorem recordWitnesses (h : KnowsFor env blockNumber header m) (k : ℕ)
    (hv : v ∈ m.validations) {blockDataAtHeight : Option ValidatedBlockHeader}
    (hphase : v.phase = .answered blockDataAtHeight) :
    KnowsFor env blockNumber header (m.recordWitnesses env k v blockDataAtHeight) := by
  unfold BlockWitnessManager.recordWitnesses
  dsimp only
  split
  · exact h.calm (calm_setPhase k v (Or.inr rfl) m)
  · rename_i hne
    have hchecked : v.checked env ≠ [] := by
      unfold WitnessValidation.checked
      rw [hphase]
      exact hne
    have hadd : KnowsFor env blockNumber header
        (m.addKnownWitnessIdentities v.blockNumber v.blockWitness.header.checksumHash
          (env.checkedWitnesses v.blockWitness blockDataAtHeight)) := by
      refine ⟨?_, h.checked⟩
      intro identities hidentities identity hidentity
      apply List.mem_append.mpr
      unfold addKnownWitnessIdentities at hidentities
      dsimp only at hidentities
      rw [JsMap.get_set] at hidentities
      split at hidentities
      · -- the height of the validation
        rename_i hheight
        obtain rfl := Option.some.inj hidentities
        rcases List.mem_append.mp hidentity with hold | hnew
        · left
          subst hheight
          cases hget : m.knownWitnessIdentities.get v.blockNumber with
          | none =>
            rw [hget] at hold
            cases hold
          | some identities =>
            rw [hget] at hold
            exact h.known identities hget identity hold
        · right
          rw [← h.checked v hv hheight.symm hchecked, ← hheight]
          exact List.mem_map.mpr ⟨identity, hnew, rfl⟩
      · left
        exact h.known identities hidentities identity hidentity
    apply hadd.setPhase
    intro _ hwriting
    exact absurd rfl hwriting

end KnowsFor

end BlockWitnessManager

/-! ### Runs -/

namespace WitnessSystem

/-- Each thread knows, at the height of a stored header, for that header only. -/
def KnowsForStored (env : WitnessEnvironment) (s : WitnessSystem) : Prop :=
  ∀ t ∈ s.threads, ∀ blockNumber header, s.blockHeaders.get blockNumber = some header →
    KnowsFor env blockNumber header t.blockWitnessManager

/-- A header is stored that is there already, or at a height at which nothing is known. -/
def ForgottenBefore (env : WitnessEnvironment) (s : WitnessSystem) : WitnessEvent → Prop
  | .saveBlockHeader blockNumber header =>
    s.blockHeaders.get blockNumber = some header ∨
      ∀ t ∈ s.threads, Unknown env blockNumber header t.blockWitnessManager
  | _ => True

instance decidableForgottenBefore (env : WitnessEnvironment) (s : WitnessSystem) :
    ∀ event, Decidable (ForgottenBefore env s event)
  | .saveBlockHeader _ _ => inferInstanceAs (Decidable (_ ∨ ∀ t ∈ s.threads, _))
  | .init _ | .heightUpdate _ _ | .blockProcessed _ _ | .peerMessage _ _ | .headerRead _ _
  | .heightSet _ _ | .slotFreed _ | .answer _ _ _ | .answered _ _ | .upsert _ _ _
  | .written _ _ | .settle _ _ | .purgeOldWitnesses _ | .deleteBlockHeaders _
  | .deleteBlockWitnesses _ => isTrue trivial

/-- Of a message no witness is dropped whose identity was not recorded for the stored header since it
was stored. -/
def DropsOnlyKnown (s : WitnessSystem) : Prop :=
  ∀ t ∈ s.threads, ∀ blockNumber header, s.blockHeaders.get blockNumber = some header →
    ∀ blockWitness : BlockHeaderWitness, ∀ w ∈ blockWitness.validatorWitnesses,
      w ∉ (t.blockWitnessManager.filterWitnesses blockNumber blockWitness).validatorWitnesses →
      (blockNumber, w.identity.getD "", storedChecksum (some header))
        ∈ t.blockWitnessManager.knownFor

variable {env : WitnessEnvironment} {s s' : WitnessSystem} {event : WitnessEvent}

theorem knowsForStored_init (n : ℕ) : KnowsForStored env (WitnessSystem.init n) := by
  intro t _ blockNumber header hheader
  cases hheader

variable {t : WitnessThread} {m : BlockWitnessManager}

theorem KnowsForStored.withManager (h : KnowsForStored env s) {i : ℕ}
    (hm : ∀ blockNumber header, s.blockHeaders.get blockNumber = some header →
      KnowsFor env blockNumber header m) :
    KnowsForStored env (s.withManager i t m) := by
  intro t' ht' blockNumber header hheader
  rcases mem_threads_withManager ht' with hold | rfl
  · exact h t' hold blockNumber header hheader
  · exact hm blockNumber header hheader

theorem knowsForStored_step (h : KnowsForStored env s) (hok : ForgottenBefore env s event)
    (hstep : s.step env event = some s') : KnowsForStored env s' := by
  cases witnessStep_of_step hstep with
  | @calm _ i t t' ht hcalm =>
    intro t'' ht'' blockNumber header hheader
    rcases List.mem_or_eq_of_mem_set ht'' with hold | rfl
    · exact h t'' hold blockNumber header hheader
    · exact (h t (List.mem_of_getElem? ht) blockNumber header hheader).calm hcalm
  | @answer i k t v hasValidProofs ht hv =>
    apply h.withManager
    intro blockNumber header hheader
    apply (h t (List.mem_of_getElem? ht) blockNumber header hheader).setPhase
    intro hheight hchecked
    obtain ⟨w, hw⟩ := List.exists_mem_of_ne_nil _ hchecked
    obtain ⟨storedBlockHeader, _, hanswer, hchecksum, -⟩ := of_mem_checkedWitnesses hw
    -- the header that is stored now is the one that was read
    obtain ⟨valid, -, hstored⟩ := Option.map_eq_some_iff.mp hanswer
    rw [ValidatedBlockHeader.mk.injEq] at hstored
    rw [← hchecksum, ← hstored.2, hheight, hheader]
  | @answered i k t v blockDataAtHeight ht hv hphase =>
    apply h.withManager
    intro blockNumber header hheader
    exact (h t (List.mem_of_getElem? ht) blockNumber header hheader).recordWitnesses k
      (List.mem_of_getElem? hv) hphase
  | @upsert i k j t v witnesses witness blockWitnesses ht hv hphase =>
    apply h.withManager
    intro blockNumber header hheader
    apply (h t (List.mem_of_getElem? ht) blockNumber header hheader).setPhase
    intro _ hwriting
    exact absurd rfl hwriting
  | @saveBlockHeader saved savedHeader =>
    intro t' ht' blockNumber header hheader
    obtain ⟨t, ht, hvalidations, hknown, hrecorded⟩ := mem_unrecorded ht'
    have hheader : (s.blockHeaders.set saved savedHeader).get blockNumber = some header := hheader
    have hkeeps : s.blockHeaders.get blockNumber = some header →
        (∀ identity checksumHash,
          (blockNumber, identity, checksumHash) ∈ t.blockWitnessManager.knownFor →
            (blockNumber, identity, checksumHash) ∈ t'.blockWitnessManager.knownFor) →
        KnowsFor env blockNumber header t'.blockWitnessManager := by
      intro hstored hmem
      have hknows := h t ht blockNumber header hstored
      refine ⟨?_, by rw [hvalidations]; exact hknows.checked⟩
      rw [hknown]
      intro identities hidentities identity hidentity
      exact hmem _ _ (hknows.known identities hidentities identity hidentity)
    rw [JsMap.get_set] at hheader
    split at hheader
    · rename_i heq
      cases hheader
      subst heq
      rcases hok with hsame | hunknown
      · refine hkeeps hsame fun identity checksumHash hmem => ?_
        rcases hrecorded with hall | ⟨hnew, -⟩
        · rw [hall]
          exact hmem
        · exact absurd hsame hnew
      · exact (hunknown t ht).knowsFor hvalidations hknown
    · -- what was recorded for another height is kept
      rename_i hne
      refine hkeeps hheader fun identity checksumHash hmem => ?_
      rcases hrecorded with hall | ⟨-, hothers⟩
      · rw [hall]
        exact hmem
      · rw [hothers]
        exact List.mem_filter.mpr ⟨hmem, by simpa using hne⟩
  | deleteBlockHeaders range =>
    intro t ht blockNumber header hheader
    have hheader : (s.blockHeaders.filterKeys _).get blockNumber = some header := hheader
    rw [JsMap.get_filterKeys] at hheader
    split at hheader
    · exact h t ht blockNumber header hheader
    · cases hheader
  | deleteBlockWitnesses range => exact h

variable {blockNumber : ℕ}

theorem mem_known_of_dropped {blockWitness : BlockHeaderWitness} {w : OPNetBlockWitness}
    (hw : w ∈ blockWitness.validatorWitnesses)
    (hdropped : w ∉ (m.filterWitnesses blockNumber blockWitness).validatorWitnesses) :
    ∃ identities, m.knownWitnessIdentities.get blockNumber = some identities ∧
      w.identity.getD "" ∈ identities := by
  unfold filterWitnesses at hdropped
  split at hdropped
  · exact absurd hw hdropped
  · rename_i identities hknown
    refine ⟨identities, hknown, ?_⟩
    by_contra hunknown
    apply hdropped
    apply List.mem_filter.mpr
    refine ⟨hw, ?_⟩
    simpa using hunknown

theorem KnowsForStored.dropsOnlyKnown (h : KnowsForStored env s) : DropsOnlyKnown s := by
  intro t ht blockNumber header hheader blockWitness w hw hdropped
  obtain ⟨identities, hknown, hidentity⟩ := mem_known_of_dropped hw hdropped
  exact (h t ht blockNumber header hheader).known identities hknown _ hidentity

/-- A header is stored at a height at which an identity is known for another: its witnesses are
dropped. -/
theorem not_dropsOnlyKnown (ht : t ∈ s.threads)
    {header : WitnessedHeader} (hheader : s.blockHeaders.get blockNumber = some header)
    {identities : List String} {identity : String}
    (hknown : t.blockWitnessManager.knownWitnessIdentities.get blockNumber = some identities)
    (hidentity : identity ∈ identities)
    (hother : (blockNumber, identity, storedChecksum (some header))
      ∉ t.blockWitnessManager.knownFor) : ¬ DropsOnlyKnown s := by
  intro hdrops
  apply hother
  have hdropped : ⟨some identity, none, [], 0⟩ ∉ (t.blockWitnessManager.filterWitnesses blockNumber
      ⟨header, [⟨some identity, none, [], 0⟩]⟩).validatorWitnesses := by
    unfold filterWitnesses
    rw [hknown]
    simp [hidentity]
  exact hdrops t ht blockNumber header hheader _ _ (List.mem_singleton.mpr rfl) hdropped

end WitnessSystem

/-- **No witness is lost to an earlier header.** In every run in which a new header is stored only at a
height at which nothing is known, a witness is dropped only if its identity was recorded for the
stored header since it was stored. The condition cannot be left out: if a thread knows an identity at
the height, its witnesses are dropped as soon as the header is stored. -/
theorem dropsOnlyKnown_of_runFrom (env : WitnessEnvironment) (n : ℕ) (events : List WitnessEvent)
    (s : WitnessSystem)
    (hmeets : Meets (WitnessSystem.step env) (WitnessSystem.ForgottenBefore env)
      (WitnessSystem.init n) events)
    (hrun : runFrom (WitnessSystem.step env) (WitnessSystem.init n) events = some s) :
    s.DropsOnlyKnown ∧
      ∀ t ∈ s.threads, ∀ blockNumber header s', s.step env (.saveBlockHeader blockNumber header)
          = some s' → s.blockHeaders.get blockNumber ≠ some header →
        (t.blockWitnessManager.knownWitnessIdentities.get blockNumber).getD [] ≠ [] →
        ¬ s'.DropsOnlyKnown := by
  constructor
  · have hinv : WitnessSystem.KnowsForStored env s :=
      invariant_runFrom (fun _ _ _ h hok hstep => WitnessSystem.knowsForStored_step h hok hstep)
        events (WitnessSystem.init n) s (WitnessSystem.knowsForStored_init n) hmeets hrun
    exact hinv.dropsOnlyKnown
  · intro t ht blockNumber header s' hstep hnew hne
    obtain ⟨identity, hidentity⟩ := List.exists_mem_of_ne_nil _ hne
    rw [WitnessSystem.step] at hstep
    split at hstep
    · obtain rfl := Option.some.inj hstep
      have hunrecorded : t.onManager (fun m =>
          { m with knownFor := m.knownFor.filter fun e => e.1 ≠ blockNumber })
            ∈ s.unrecorded blockNumber header := by
        unfold WitnessSystem.unrecorded
        rw [if_neg hnew]
        exact List.mem_map_of_mem ht
      cases hknown : t.blockWitnessManager.knownWitnessIdentities.get blockNumber with
      | none =>
        rw [hknown] at hidentity
        cases hidentity
      | some identities =>
        rw [hknown] at hidentity
        refine WitnessSystem.not_dropsOnlyKnown (s := _) hunrecorded (JsMap.get_set_self _ _ _) hknown
          hidentity fun hmem => ?_
        simpa using (List.mem_filter.mp hmem).2
    · cases hstep

/-! ### A block that is replaced -/

/-- An Ed25519 key, and the SHA-512 of it. -/
def nodeKey : Bytes :=
  toBigEndian 32 0xd75a980182b10ab7d54bfed3c964073a0ee172f3daa62325af021a68f707511a

def nodeKeyHash : Bytes :=
  toBigEndian 64 0x0e02a50225b4baaa18a0470ed9bfc7dc032f1724e819e47a23c4f2c32f7506094709688293c479c0534defd3a98b4302187806511b83f12ab575d4144770a9c3

/-- Two headers of one height, with the hashes of their fields. -/
def firstHeader : WitnessedHeader where
  blockHash := toHex (List.replicate 32 1)
  previousBlockHash := some (toHex (List.replicate 32 2))
  checksumHash := "0x" ++ toHex (List.replicate 32 3)
  previousBlockChecksum := "0x" ++ toHex (List.replicate 32 4)

def firstHash : Bytes :=
  toBigEndian 64 0xc692385d5886c2c9b2d6c0e9b0dc71c6e68a950d8cbe6a33c90cc3e38df5ca3ee2e938e0caf8072d281dcbfc19777f8b6e661ee8a9f2be02cc563922bedf3c69

def secondHeader : WitnessedHeader :=
  { firstHeader with
    blockHash := toHex (List.replicate 32 5)
    checksumHash := "0x" ++ toHex (List.replicate 32 6) }

def secondHash : Bytes :=
  toBigEndian 64 0xe7812f97047c2816832cd15708350a5a02af3529bf49bb8a4606dd1ead79055e78d7b572f17630ed704f5b84cda8c4c38bcde8cd669c5de4e861f74dd8ab062f

/-- The signatures of the key for the two headers, at the times 1000 and 2000. -/
def firstSignature : Bytes :=
  toBigEndian 64 0xf20c1909f913f4a045676015dd31a3494da00bd68203c3054283597bc7f558d90ed4f242d1f6c65ba06d06e03377894334ec7408abf08959a04c7bcf2caa6402

def secondSignature : Bytes :=
  toBigEndian 64 0x05c6fdf8d7826671a17a9d9761f7cb14dcf636849728412e5dcfae435465de9957ef161c086a7b79aa1444017ebab417d59bae544dba77a928cec12c6730200b

/-- What is hashed and signed here; the two headers have proofs, and may be stored. -/
def oneSigner : WitnessEnvironment where
  sha512 data :=
    if data = nodeKey then nodeKeyHash
    else if data = List.replicate 32 1 ++ List.replicate 32 2 ++ List.replicate 32 3
        ++ List.replicate 32 4 then firstHash
    else if data = List.replicate 32 5 ++ List.replicate 32 2 ++ List.replicate 32 6
        ++ List.replicate 32 4 then secondHash
    else []
  verifyOPNetSignature data signature publicKey :=
    publicKey = nodeKey &&
      ((data = WitnessEnvironment.mergeDataAndWitness firstHash 1000 && signature = firstSignature)
        || (data = WitnessEnvironment.mergeDataAndWitness secondHash 2000
          && signature = secondSignature))
  sign data :=
    if data = WitnessEnvironment.mergeDataAndWitness firstHash 1000 then firstSignature
    else if data = WitnessEnvironment.mergeDataAndWitness secondHash 2000 then secondSignature
    else []
  publicKey := nodeKey
  pendingBlockThreshold := 10
  provable header := header = firstHeader || header = secondHeader
  finalised header := header = firstHeader || header = secondHeader

theorem withoutZeroX_append (text : String) : withoutZeroX ("0x" ++ text) = text := by
  unfold withoutZeroX
  rw [String.toList_append]
  exact String.ofList_toList

theorem blockHeaderChecksumHash_toHex (env : WitnessEnvironment)
    (blockHash previousBlockHash checksumHash previousBlockChecksum : Bytes) :
    env.blockHeaderChecksumHash ⟨toHex blockHash, some (toHex previousBlockHash),
        "0x" ++ toHex checksumHash, "0x" ++ toHex previousBlockChecksum⟩
      = some (env.sha512 (blockHash ++ previousBlockHash ++ checksumHash
          ++ previousBlockChecksum)) := by
  unfold WitnessEnvironment.blockHeaderChecksumHash
  rw [withoutZeroX_append, withoutZeroX_append, Option.getD_some, fromHex_toHex, fromHex_toHex,
    fromHex_toHex, fromHex_toHex]
  rfl

theorem blockHeaderChecksumHash_firstHeader :
    oneSigner.blockHeaderChecksumHash firstHeader = some firstHash := by
  unfold firstHeader
  rw [blockHeaderChecksumHash_toHex]
  decide +kernel

theorem blockHeaderChecksumHash_secondHeader :
    oneSigner.blockHeaderChecksumHash secondHeader = some secondHash := by
  unfold secondHeader firstHeader
  dsimp only
  rw [blockHeaderChecksumHash_toHex]
  decide +kernel

/-- A header is stored at a height, and witnessed by the node. -/
def storeAndWitness (header : WitnessedHeader) (now : ℕ) : List WitnessEvent :=
  [.saveBlockHeader 5 header, .heightUpdate 0 5, .blockProcessed 0 ⟨5, header⟩, .heightSet 0 now,
    .answer 0 0 (some (some true)), .answered 0 0, .upsert 0 0 0, .written 0 0, .settle 0 0]

def revertHeight : List WitnessEvent :=
  [.deleteBlockWitnesses (.atLeast 5), .deleteBlockHeaders (.atLeast 5)]

/-- The height is far below when it is reverted, so that what was known is purged. -/
def purgeThenRevert : List WitnessEvent :=
  [.init 0] ++ storeAndWitness firstHeader 1000 ++ [.heightUpdate 0 16, .purgeOldWitnesses 0]
    ++ revertHeight ++ [.saveBlockHeader 5 secondHeader]

/-- The height is reverted and processed again. -/
def revertThenProcess : List WitnessEvent :=
  [.init 0] ++ storeAndWitness firstHeader 1000 ++ revertHeight
    ++ [.saveBlockHeader 5 secondHeader, .heightUpdate 0 5, .blockProcessed 0 ⟨5, secondHeader⟩,
      .heightSet 0 2000, .settle 0 0]

theorem dropsOnlyKnown_purgeThenRevert :
    ∃ s, runFrom (WitnessSystem.step oneSigner) (WitnessSystem.init 1) purgeThenRevert = some s ∧
      s.blockHeaders.get 5 = some secondHeader ∧ s.DropsOnlyKnown := by
  have hmeets : Meets (WitnessSystem.step oneSigner) (WitnessSystem.ForgottenBefore oneSigner)
        (WitnessSystem.init 1) purgeThenRevert ∧
      (runFrom (WitnessSystem.step oneSigner) (WitnessSystem.init 1) purgeThenRevert).map
        (fun s => s.blockHeaders.get 5) = some (some secondHeader) := by decide +kernel
  obtain ⟨hmeets, hheader⟩ := hmeets
  obtain ⟨s, hrun, hheader⟩ := Option.map_eq_some_iff.mp hheader
  exact ⟨s, hrun, hheader, (dropsOnlyKnown_of_runFrom oneSigner 1 purgeThenRevert s hmeets hrun).1⟩

/-- The node's witness for the header that is stored now is valid and dropped, as the node is known
for the header that was reverted; none is stored. -/
theorem not_dropsOnlyKnown_revertThenProcess :
    ∃ s t, runFrom (WitnessSystem.step oneSigner) (WitnessSystem.init 1) revertThenProcess = some s ∧
      t ∈ s.threads ∧ s.blockHeaders.get 5 = some secondHeader ∧ s.blockWitnesses = [] ∧
      t.blockWitnessManager.validations = [] ∧
      oneSigner.blockHeaderChecksumHash secondHeader = some secondHash ∧
      oneSigner.verifyAcknowledgment (WitnessEnvironment.mergeDataAndWitness secondHash 2000)
        (oneSigner.acknowledgeData secondHash 2000) = true ∧
      (t.blockWitnessManager.filterWitnesses 5
        ⟨secondHeader, [oneSigner.acknowledgeData secondHash 2000]⟩).validatorWitnesses = [] ∧
      ¬ s.DropsOnlyKnown := by
  have hfields : (runFrom (WitnessSystem.step oneSigner) (WitnessSystem.init 1)
        revertThenProcess).bind (fun s => s.threads[0]?.map fun t =>
          (s.blockHeaders.get 5, s.blockWitnesses.isEmpty,
            t.blockWitnessManager.knownWitnessIdentities.get 5,
            t.blockWitnessManager.knownFor.contains
              (5, oneSigner.opnetAddress, storedChecksum (some secondHeader)),
            t.blockWitnessManager.validations.isEmpty))
      = some (some secondHeader, true, some [oneSigner.opnetAddress], false, true) := by
    decide +kernel
  obtain ⟨s, hrun, hfields⟩ := Option.bind_eq_some_iff.mp hfields
  obtain ⟨t, ht, hfields⟩ := Option.map_eq_some_iff.mp hfields
  rw [Prod.mk.injEq, Prod.mk.injEq, Prod.mk.injEq, Prod.mk.injEq] at hfields
  obtain ⟨hheader, hwitnesses, hknown, hother, hvalidations⟩ := hfields
  have hmem : t ∈ s.threads := List.mem_of_getElem? ht
  refine ⟨s, t, hrun, hmem, hheader, List.isEmpty_iff.mp hwitnesses,
    List.isEmpty_iff.mp hvalidations, blockHeaderChecksumHash_secondHeader, ?_, ?_, ?_⟩
  · decide +kernel
  · unfold BlockWitnessManager.filterWitnesses
    rw [hknown]
    decide +kernel
  · apply WitnessSystem.not_dropsOnlyKnown hmem hheader hknown (List.mem_singleton_self _)
    simpa using hother

end OpnetNode
