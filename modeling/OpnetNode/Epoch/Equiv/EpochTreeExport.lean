import OpnetNode.Epoch.Equiv.EpochAgreement
import OpnetNode.Epoch.EpochTreeExport
import OpnetNode.StableSort
import OpnetNode.Transition
import OpnetNode.Vm.Equiv.BlockHeaderValidator

/-!
# When the export of an epoch's tree verifies

The tree has leaves for the first `maxAttestations` attestations by descending timestamp, while the
export asks for a proof of every attestation.  The sort is stable, so attestations of one timestamp
keep the order in which they were added.  Before any of it the tree has to be frozen, where all leaves
are the arguments of one call.
-/

namespace OpnetNode

/-! ### Hexadecimal texts -/

theorem digitChar_ne_x : ∀ n < 16, Nat.digitChar n ≠ 'x' := by decide

/-- A printed text does not start with `0x`. -/
theorem stringToBuffer_toHex (bytes : Bytes) : stringToBuffer (toHex bytes) = some bytes := by
  have hstart : (toHex bytes).toList.take 2 ≠ ['0', 'x'] := by
    unfold toHex
    rw [String.toList_ofList]
    cases bytes with
    | nil => simp
    | cons b bytes =>
      have hlow : b.toNat % 16 < 16 := Nat.mod_lt _ (by decide)
      have hne := digitChar_ne_x _ hlow
      show [Nat.digitChar (b.toNat / 16), Nat.digitChar (b.toNat % 16)] ≠ _
      intro heq
      simp only [List.cons.injEq, and_true] at heq
      exact hne heq.2
  unfold stringToBuffer
  rw [if_neg hstart, fromHex_toHex]

namespace RustMerkleTree

/-- A tree of leaves can be built, and has a proof for each of them that verifies against its
root. -/
def ProvesLeaves (T : RustMerkleTree) : Prop :=
  ∀ leaves d, d ∈ leaves → ∃ r i π, T.root leaves = some r ∧ T.getIndexData leaves d = some i ∧
    T.getProof leaves i = some π ∧ T.verify π r (T.hash d) = true

theorem provesLeaves_multisetTree : multisetTree.ProvesLeaves := by
  intro leaves d hd
  obtain ⟨i, hi⟩ := Option.isSome_iff_exists.mp
    (show (leaves.findIdx? fun d' => d' = d).isSome from by simpa using hd)
  have hlt : i < leaves.length := by
    rw [List.findIdx?_eq_some_iff_getElem] at hi
    exact hi.1
  refine ⟨(leaves : Multiset Bytes), i, [(0 : Multiset Bytes)], rfl, hi, if_pos hlt, ?_⟩
  simpa [multisetTree] using hd

end RustMerkleTree

namespace EpochMerkleTree

variable {env : EpochTreeEnvironment} {codec : EpochTreeCodec env.rust}

/-! ### The frozen tree -/

/-- An attestation as `addBlockAttestation` stores it. -/
def witnessAttestation (attestation : Attestation) : Attestation :=
  { attestation with type := .BLOCK_WITNESS }

/-- The order of the tree. -/
def byTimestamp (attestations : List Attestation) : List Attestation :=
  sortDescending Attestation.timestamp attestations

/-- Fewer than two attestations are padded. -/
def paddedAttestations (env : EpochTreeEnvironment) (epochData : EpochData)
    (attestations : List Attestation) : List Attestation :=
  if attestations.length < 2 then
    attestations ++ (addDummyAttestations env (new epochData)).attestations
  else attestations

def listedAttestations (env : EpochTreeEnvironment) (epochData : EpochData)
    (attestations : List Attestation) : List Attestation :=
  byTimestamp (paddedAttestations env epochData (attestations.map witnessAttestation))

theorem sortedAttestations_eq (t : EpochMerkleTree) : sortedAttestations env t =
    byTimestamp (paddedAttestations env t.epochData t.attestations) := by
  unfold sortedAttestations byTimestamp paddedAttestations
  split_ifs
  · rfl
  · rfl

def frozenLeaves (env : EpochTreeEnvironment) (epochData : EpochData) (maxAttestations : ℕ)
    (attestations : List Attestation) (bytes : Bytes) : List Bytes :=
  bytes :: ((listedAttestations env epochData attestations).take maxAttestations).map
    attestationToBytes

def frozenTree (env : EpochTreeEnvironment) (epochData : EpochData) (maxAttestations : ℕ)
    (attestations : List Attestation) (bytes : Bytes) : EpochMerkleTree where
  attestations := listedAttestations env epochData attestations
  epochData := epochData
  tree := some (frozenLeaves env epochData maxAttestations attestations bytes)
  epochBytes := some bytes
  epochHash := some (env.sha256 bytes)
  frozen := true
  maxAttestations := maxAttestations

def InEpoch (epochData : EpochData) (attestation : Attestation) : Prop :=
  epochData.startBlock ≤ attestation.blockNumber ∧ attestation.blockNumber ≤ epochData.endBlock

variable {t : EpochMerkleTree}

variable {attestations : List Attestation}

theorem addAttestations_eq_ok {t' : EpochMerkleTree} (hopen : t.frozen = false) :
    attestations.foldlM (fun t attestation => addBlockAttestation attestation t) t = .ok t' ↔
      (∀ attestation ∈ attestations, InEpoch t.epochData attestation) ∧
        t' = { t with attestations := t.attestations ++ attestations.map witnessAttestation } := by
  induction attestations generalizing t with
  | nil =>
    show Except.ok t = .ok t' ↔ _
    rw [Except.ok.injEq]
    constructor
    · rintro rfl
      simp
    · rintro ⟨-, rfl⟩
      simp
  | cons attestation attestations ih =>
    rw [List.foldlM_cons]
    -- an attestation of another epoch is refused, and with it all
    by_cases hblock : attestation.blockNumber < t.epochData.startBlock ∨
        t.epochData.endBlock < attestation.blockNumber
    · have hnot : ¬ InEpoch t.epochData attestation := by
        unfold InEpoch
        omega
      unfold addBlockAttestation
      rw [if_neg (by simp [hopen]), if_pos hblock]
      constructor
      · intro h
        cases h
      · rintro ⟨hall, -⟩
        exact absurd (hall attestation List.mem_cons_self) hnot
    · have hin : InEpoch t.epochData attestation := by
        unfold InEpoch
        omega
      have hadd : addBlockAttestation attestation t =
          .ok { t with attestations := t.attestations ++ [witnessAttestation attestation] } := by
        unfold addBlockAttestation
        rw [if_neg (by simp [hopen]), if_neg hblock]
        rfl
      rw [hadd]
      show attestations.foldlM _ _ = _ ↔ _
      have hrest := ih (t := { t with
        attestations := t.attestations ++ [witnessAttestation attestation] }) hopen
      rw [hrest, List.forall_mem_cons]
      simp [hin]

theorem generateTree_eq (hopen : t.frozen = false) :
    generateTree env t = (epochDataToBytes env t.epochData).bind fun bytes =>
      let leaves := bytes :: ((byTimestamp (paddedAttestations env t.epochData
        t.attestations)).take t.maxAttestations).map attestationToBytes
      if env.maxArguments < ((byTimestamp (paddedAttestations env t.epochData
          t.attestations)).take t.maxAttestations).length then
        .error "Maximum call stack size exceeded"
      else if (env.rust.root leaves).isNone then .error env.rustError
      else .ok { t with
        attestations := byTimestamp (paddedAttestations env t.epochData t.attestations)
        epochBytes := some bytes
        epochHash := some (env.sha256 bytes)
        tree := some leaves } := by
  unfold generateTree
  rw [if_neg (by simp [hopen]), sortedAttestations_eq]
  rfl

variable {epochData : EpochData}

theorem freezeWith_eq_ok {maxAttestations : ℕ} :
    freezeWith env epochData maxAttestations attestations = .ok t ↔
      (∀ attestation ∈ attestations, InEpoch epochData attestation) ∧
        ((listedAttestations env epochData attestations).take maxAttestations).length ≤
          env.maxArguments ∧
        ∃ bytes, epochDataToBytes env epochData = .ok bytes ∧
          (env.rust.root (frozenLeaves env epochData maxAttestations attestations bytes)).isSome ∧
          t = frozenTree env epochData maxAttestations attestations bytes := by
  unfold freezeWith
  constructor
  · intro h
    obtain ⟨t₁, hadd, h⟩ := exceptBind_eq_ok h
    obtain ⟨hin, rfl⟩ := (addAttestations_eq_ok rfl).mp hadd
    refine ⟨hin, ?_⟩
    unfold freeze at h
    obtain ⟨t₂, hgenerate, h⟩ := exceptBind_eq_ok h
    rw [generateTree_eq rfl] at hgenerate
    obtain ⟨bytes, hbytes, hgenerate⟩ := exceptBind_eq_ok hgenerate
    dsimp only at hgenerate
    split_ifs at hgenerate with hmany hroot
    cases hgenerate
    refine ⟨Nat.le_of_not_lt hmany, bytes, hbytes, ?_, (Except.ok.inj h).symm⟩
    rw [Option.isNone_iff_eq_none] at hroot
    exact Option.isSome_iff_ne_none.mpr hroot
  · rintro ⟨hin, hmany, bytes, hbytes, hroot, rfl⟩
    have hadd := (addAttestations_eq_ok (t := newWithMax epochData maxAttestations) rfl).mpr
      ⟨hin, rfl⟩
    -- the tree is built before it is marked as frozen
    have hgenerate : generateTree env { newWithMax epochData maxAttestations with
        attestations := attestations.map witnessAttestation } =
          .ok { frozenTree env epochData maxAttestations attestations bytes with
            frozen := false } := by
      rw [generateTree_eq rfl]
      show (epochDataToBytes env epochData).bind _ = _
      rw [hbytes]
      have hbuilt : ¬ (env.rust.root
          (frozenLeaves env epochData maxAttestations attestations bytes)).isNone = true := by
        rw [Option.isNone_iff_eq_none]
        exact Option.isSome_iff_ne_none.mp hroot
      exact (if_neg (Nat.not_lt_of_le hmany)).trans (if_neg hbuilt)
    rw [hadd]
    show freeze env { newWithMax epochData maxAttestations with
      attestations := attestations.map witnessAttestation } = _
    unfold freeze
    rw [hgenerate]
    rfl

/-- How many attestations are listed: two more than were added if these were fewer than two. -/
def listedCount (count : ℕ) : ℕ := if count < 2 then count + 2 else count

theorem length_listedAttestations (epochData : EpochData) (attestations : List Attestation) :
    (listedAttestations env epochData attestations).length = listedCount attestations.length := by
  unfold listedAttestations byTimestamp paddedAttestations listedCount
  rw [(sortDescending_perm _ _).length_eq, List.length_map]
  split_ifs
  · rw [List.length_append, List.length_map]
    rfl
  · rw [List.length_map]

/-- The tree can be frozen: the attestations are of blocks of the epoch, the graffiti of the winner is
not too long, and a call takes as many arguments as there are leaves of attestations. -/
structure Freezable (env : EpochTreeEnvironment) (epochData : EpochData)
    (winner : EpochSubmissionWinner) (maxAttestations : ℕ) (attestations : List Attestation) :
    Prop where
  inEpoch : ∀ attestation ∈ attestations, InEpoch epochData attestation
  graffiti : winner.graffiti.length ≤ GRAFFITI_LENGTH
  arguments : min maxAttestations (listedCount attestations.length) ≤ env.maxArguments

variable {winner : EpochSubmissionWinner}

/-- The data of an epoch with a winner is written unless the graffiti is too long. -/
theorem exists_epochDataToBytes_iff (hwinner : epochData.winner = some winner) :
    (∃ bytes, epochDataToBytes env epochData = .ok bytes) ↔
      winner.graffiti.length ≤ GRAFFITI_LENGTH := by
  unfold epochDataToBytes
  rw [hwinner]
  dsimp only
  split_ifs with hlong
  · exact iff_of_false (fun h => nomatch h) (Nat.not_le_of_lt hlong)
  · exact iff_of_true ⟨_, rfl⟩ (Nat.le_of_not_lt hlong)

theorem exists_freezeWith_iff (hproves : env.rust.ProvesLeaves)
    (hwinner : epochData.winner = some winner)
    (maxAttestations : ℕ) (attestations : List Attestation) :
    (∃ t, freezeWith env epochData maxAttestations attestations = .ok t) ↔
      Freezable env epochData winner maxAttestations attestations := by
  constructor
  · rintro ⟨t, hfreeze⟩
    obtain ⟨hin, hmany, bytes, hbytes, -, -⟩ := freezeWith_eq_ok.mp hfreeze
    rw [List.length_take, length_listedAttestations] at hmany
    exact ⟨hin, (exists_epochDataToBytes_iff hwinner).mp ⟨bytes, hbytes⟩, hmany⟩
  · rintro ⟨hin, hgraffiti, hmany⟩
    have hexists : ∃ bytes, epochDataToBytes env epochData = .ok bytes :=
      (exists_epochDataToBytes_iff hwinner).mpr hgraffiti
    obtain ⟨bytes, hbytes⟩ := hexists
    obtain ⟨root, -, -, hroot, -⟩ := hproves
      (frozenLeaves env epochData maxAttestations attestations bytes) bytes List.mem_cons_self
    refine ⟨_, freezeWith_eq_ok.mpr ⟨hin, ?_, bytes, hbytes,
      Option.isSome_iff_exists.mpr ⟨root, hroot⟩, rfl⟩⟩
    rw [List.length_take, length_listedAttestations]
    exact hmany

/-! ### The export and its verification -/

/-- The data of the epoch as the export gives it back: the winner's epoch is the epoch. -/
def exportedData (epochData : EpochData) : EpochData :=
  { epochData with winner := epochData.winner.map fun winner =>
      { winner with epochNumber := epochData.epochNumber } }

theorem epochDataToBytes_exportedData (epochData : EpochData) :
    epochDataToBytes env (exportedData epochData) = epochDataToBytes env epochData := by
  unfold epochDataToBytes exportedData
  cases epochData.winner with
  | none | some => rfl

theorem decodeHex_toHex (bytes : Bytes) :
    decodeHex env codec (stringToBuffer (toHex bytes)) = .ok bytes ∧
      decodeHex env codec (fromHex (toHex bytes)) = .ok bytes := by
  rw [stringToBuffer_toHex, fromHex_toHex]
  exact ⟨rfl, rfl⟩

theorem readEpochData_export (hwinner : epochData.winner.isSome = true)
    (proof : List env.rust.Hash) (leafHash : HexText) :
    readEpochData env codec
      { epochNumber := epochData.epochNumber
        startBlock := epochData.startBlock
        endBlock := epochData.endBlock
        checksumRoot := toHex epochData.checksumRoot
        previousEpochHash := toHex epochData.previousEpochHash
        attestedEpochNumber := epochData.attestedEpochNumber
        attestedChecksumRoot := toHex epochData.attestedChecksumRoot
        winner := epochData.winner.map winnerProof
        proof
        leafHash } = .ok (exportedData epochData) := by
  obtain ⟨winner, hsome⟩ := Option.isSome_iff_exists.mp hwinner
  unfold readEpochData
  simp only [hsome, Option.map_some, winnerProof, decodeHex_toHex]
  unfold exportedData
  rw [hsome]
  rfl

theorem listedAttestation_injective {a b : Attestation}
    (h : listedAttestation a = listedAttestation b) : a = b := by
  have hroot := congrArg (fun listed => fromHex listed.checksumRoot) h
  simp only [listedAttestation, fromHex_toHex, Option.some.injEq] at hroot
  cases a
  cases b
  simp only [listedAttestation, ListedAttestation.mk.injEq] at h
  obtain ⟨rfl, rfl, -, rfl, rfl, rfl⟩ := h
  dsimp only at hroot
  rw [hroot]

theorem verifyListed_listed {root : env.rust.Hash} {p : AttestationProof env.rust.Hash}
    {attestation : Attestation} (h : p.attestation = listedAttestation attestation) :
    verifyListed env codec root p = .ok (p,
      env.rust.verify p.proofs root (env.rust.hash (attestationToBytes attestation)),
      codec.proofRootHex p.proofs (codec.hashFromHex p.leafHash)) := by
  unfold verifyListed
  rw [h]
  show (decodeHex env codec (stringToBuffer (toHex attestation.checksumRoot)) >>= _) = _
  rw [(decodeHex_toHex attestation.checksumRoot).1]
  rfl

theorem allValid_iff {Hash : Type} (v : EpochTreeVerification Hash) : v.allValid = true ↔
    v.epochDataIsValid = true ∧ ∀ entry ∈ v.attestationVerifications, entry.2.1 = true := by
  have hle := List.length_filter_le (fun entry : AttestationProof Hash × Bool × HexText => entry.2.1)
    v.attestationVerifications
  unfold EpochTreeVerification.allValid EpochTreeVerification.validCount
    EpochTreeVerification.totalCount
  rw [decide_eq_true_eq, ← List.length_filter_eq_length_iff]
  split_ifs with hvalid
  · simp [hvalid]
  · constructor
    · intro h
      omega
    · intro h
      exact absurd h.1 hvalid

section Frozen

variable {epochData : EpochData} {maxAttestations : ℕ} {attestations : List Attestation}
  {bytes : Bytes} {root : env.rust.Hash} {e : CompleteEpochMerkleTreeExport env.rust.Hash}

/-- What an export of a frozen tree has. -/
structure IsExport (codec : EpochTreeCodec env.rust) (t : EpochMerkleTree) (bytes : Bytes)
    (root : env.rust.Hash) (e : CompleteEpochMerkleTreeExport env.rust.Hash) : Prop where
  root : e.root = codec.rootHex root
  data : readEpochData env codec e.epoch = .ok (exportedData t.epochData)
  dataProof : t.proofOf env bytes = .ok e.epoch.proof
  listed : ∀ attestation ∈ t.attestations, ∃ p ∈ e.attestations,
    p.attestation = listedAttestation attestation ∧
      t.proofOf env (attestationToBytes attestation) = .ok p.proofs
  ofListed : ∀ p ∈ e.attestations, ∃ attestation ∈ t.attestations,
    p.attestation = listedAttestation attestation ∧
      t.proofOf env (attestationToBytes attestation) = .ok p.proofs

variable {t : EpochMerkleTree}

theorem getAttestationProofs_eq_ok {attestation : Attestation} {index : ℕ}
    {p : AttestationProof env.rust.Hash}
    (h : t.getAttestationProofs env codec attestation index = .ok p) :
    p.attestation = listedAttestation attestation ∧
      t.proofOf env (attestationToBytes attestation) = .ok p.proofs := by
  unfold getAttestationProofs at h
  obtain ⟨proof, hproof, h⟩ := exceptBind_eq_ok h
  cases h
  exact ⟨rfl, hproof⟩

theorem winner_isSome (hbytes : epochDataToBytes env epochData = .ok bytes) :
    epochData.winner.isSome = true := by
  unfold epochDataToBytes at hbytes
  cases hwinner : epochData.winner with
  | none =>
    rw [hwinner] at hbytes
    cases hbytes
  | some winner => rfl

theorem isExport (hbytes : epochDataToBytes env epochData = .ok bytes)
    (hroot : env.rust.root (frozenLeaves env epochData maxAttestations attestations bytes) =
      some root)
    (h : exportTree env codec (frozenTree env epochData maxAttestations attestations bytes) =
      .ok e) :
    IsExport codec (frozenTree env epochData maxAttestations attestations bytes) bytes root e := by
  unfold exportTree at h
  obtain ⟨root', hroot', h⟩ := exceptBind_eq_ok h
  obtain ⟨hash, -, h⟩ := exceptBind_eq_ok h
  obtain ⟨epoch, hepoch, h⟩ := exceptBind_eq_ok h
  obtain ⟨proofs, hproofs, h⟩ := exceptBind_eq_ok h
  cases h
  have hroots : root' = root := by
    have hsame : (env.rust.root (frozenLeaves env epochData maxAttestations attestations
      bytes)).elim (Except.error env.rustError) .ok = .ok root' := hroot'
    rw [hroot] at hsame
    exact (Except.ok.inj hsame).symm
  unfold getEpochData at hepoch
  rw [if_neg (by simp [frozenTree])] at hepoch
  obtain ⟨bytes', hbytes', hepoch⟩ := exceptBind_eq_ok hepoch
  obtain rfl : bytes = bytes' := Except.ok.inj hbytes'
  obtain ⟨proof, hproof, hepoch⟩ := exceptBind_eq_ok hepoch
  cases hepoch
  obtain ⟨hleft, hright⟩ := exceptMapM_eq_ok hproofs
  refine ⟨congrArg codec.rootHex hroots, readEpochData_export (winner_isSome hbytes) _ _, hproof,
    fun attestation hmem => ?_, fun p hp => ?_⟩
  · obtain ⟨i, hi⟩ := List.getElem?_of_mem hmem
    obtain ⟨p, hp, hentry⟩ := hleft (attestation, i) (List.mem_zipIdx_iff_getElem?.mpr hi)
    exact ⟨p, hp, getAttestationProofs_eq_ok hentry⟩
  · obtain ⟨entry, hentry, hp⟩ := hright p hp
    exact ⟨entry.1, List.fst_mem_of_mem_zipIdx hentry, getAttestationProofs_eq_ok hp⟩

theorem exists_export
    (hroot : env.rust.root (frozenLeaves env epochData maxAttestations attestations bytes) =
      some root)
    (hdata : ∃ proof, proofOf env (frozenTree env epochData maxAttestations attestations bytes)
      bytes = .ok proof)
    (hproofs : ∀ attestation ∈ listedAttestations env epochData attestations, ∃ proof,
      proofOf env (frozenTree env epochData maxAttestations attestations bytes)
        (attestationToBytes attestation) = .ok proof) :
    ∃ e, exportTree env codec (frozenTree env epochData maxAttestations attestations bytes) =
      .ok e := by
  obtain ⟨proof, hproof⟩ := hdata
  have hepoch : ∃ epoch, getEpochData env codec
      (frozenTree env epochData maxAttestations attestations bytes) = .ok epoch := by
    unfold getEpochData
    rw [if_neg (by simp [frozenTree])]
    show ∃ epoch, (proofOf env _ bytes >>= _) = .ok epoch
    rw [hproof]
    exact ⟨_, rfl⟩
  obtain ⟨epoch, hepoch⟩ := hepoch
  obtain ⟨proofs, hproofs⟩ : ∃ proofs,
      (frozenTree env epochData maxAttestations attestations bytes).attestations.zipIdx.mapM
        (fun entry => getAttestationProofs env codec
          (frozenTree env epochData maxAttestations attestations bytes) entry.1 entry.2) =
        .ok proofs := by
    apply exists_exceptMapM
    intro entry hentry
    obtain ⟨proof, hproof⟩ := hproofs entry.1 (List.fst_mem_of_mem_zipIdx hentry)
    unfold getAttestationProofs
    rw [hproof]
    exact ⟨_, rfl⟩
  unfold exportTree
  have hbuffer : rootBuffer env (frozenTree env epochData maxAttestations attestations bytes) =
      .ok root := by
    show (env.rust.root _).elim _ _ = _
    rw [hroot]
    rfl
  have hhash : getEpochHash (frozenTree env epochData maxAttestations attestations bytes) =
      .ok (env.sha256 bytes) := rfl
  rw [hbuffer, hhash, hepoch, hproofs]
  exact ⟨_, rfl⟩

theorem verify_export (hcodec : codec.toHexCodec.Lawful)
    (hbytes : epochDataToBytes env epochData = .ok bytes)
    (hdata : t.epochData = epochData) (h : IsExport codec t bytes root e) :
    ∃ v, verify env codec e = .ok v ∧ (v.allValid = true ↔
      env.rust.verify e.epoch.proof root (env.rust.hash bytes) = true ∧
      ∀ p ∈ e.attestations, ∀ attestation, p.attestation = listedAttestation attestation →
        env.rust.verify p.proofs root (env.rust.hash (attestationToBytes attestation)) = true) := by
  obtain ⟨verifications, hverifications⟩ : ∃ verifications,
      e.attestations.mapM (verifyListed env codec root) = .ok verifications := by
    apply exists_exceptMapM
    intro p hp
    obtain ⟨attestation, -, hlisted, -⟩ := h.ofListed p hp
    exact ⟨_, verifyListed_listed hlisted⟩
  obtain ⟨hleft, hright⟩ := exceptMapM_eq_ok hverifications
  refine ⟨⟨codec.rootHex root, env.rust.verify e.epoch.proof root (env.rust.hash bytes),
    codec.proofRootHex e.epoch.proof (codec.hashFromHex e.epoch.leafHash), verifications⟩, ?_, ?_⟩
  · unfold verify
    rw [h.data, h.root, hcodec.rootFromHex_rootHex]
    show (epochDataToBytes env (exportedData t.epochData) >>= _) = _
    rw [epochDataToBytes_exportedData, hdata, hbytes]
    show _ = _
    rw [hverifications]
    rfl
  · rw [allValid_iff]
    refine and_congr Iff.rfl ⟨fun hall p hp attestation hlisted => ?_, fun hall entry hentry => ?_⟩
    · obtain ⟨entry, hentry, heq⟩ := hleft p hp
      rw [verifyListed_listed hlisted] at heq
      cases heq
      exact hall _ hentry
    · obtain ⟨p, hp, heq⟩ := hright entry hentry
      obtain ⟨attestation, -, hlisted, -⟩ := h.ofListed p hp
      rw [verifyListed_listed hlisted] at heq
      cases heq
      exact hall p hp attestation hlisted

end Frozen

/-! ### When the export verifies -/

section Verdict

variable {epochData : EpochData} {maxAttestations : ℕ} {attestations : List Attestation}
  {t : EpochMerkleTree}

/-- The export has a proof for each attestation that was added, and all of it is valid. -/
def ExportVerifies (codec : EpochTreeCodec env.rust) (attestations : List Attestation)
    (t : EpochMerkleTree) : Prop :=
  ∃ e v, exportTree env codec t = .ok e ∧
    (∀ attestation ∈ attestations, ∃ p ∈ e.attestations,
      p.attestation = listedAttestation (witnessAttestation attestation)) ∧
    verify env codec e = .ok v ∧ v.allValid = true

/-- The leaves are the same for every order in which the attestations are added. -/
def LeavesIgnoreOrder (env : EpochTreeEnvironment) (epochData : EpochData) (maxAttestations : ℕ)
    (attestations : List Attestation) (t : EpochMerkleTree) : Prop :=
  ∀ attestations' t', attestations.Perm attestations' →
    freezeWith env epochData maxAttestations attestations' = .ok t' → t'.tree = t.tree

/-- The attestations beyond the maximum have the bytes of a leaf; there are none if the padded list
is not longer than the maximum. -/
def BeyondMaximumAreLeaves (env : EpochTreeEnvironment) (epochData : EpochData)
    (maxAttestations : ℕ) (attestations : List Attestation) : Prop :=
  ∀ bytes, epochDataToBytes env epochData = .ok bytes →
    ∀ attestation ∈ (listedAttestations env epochData attestations).drop maxAttestations,
      attestationToBytes attestation ∈
        frozenLeaves env epochData maxAttestations attestations bytes

/-- Attestations of one timestamp have the same bytes, if one of them may get a leaf. -/
def TiesHaveOneLeaf (maxAttestations : ℕ) (attestations : List Attestation) : Prop :=
  ∀ a ∈ attestations, ∀ b ∈ attestations, a.timestamp = b.timestamp →
    (attestations.filter fun c => decide (a.timestamp < c.timestamp)).length < maxAttestations →
    attestationToBytes (witnessAttestation a) = attestationToBytes (witnessAttestation b)

theorem beyondMaximumAreLeaves_of_length_le
    (h : (paddedAttestations env epochData
      (attestations.map witnessAttestation)).length ≤ maxAttestations) :
    BeyondMaximumAreLeaves env epochData maxAttestations attestations := by
  intro bytes _ attestation hmem
  have hlength : (listedAttestations env epochData attestations).length ≤ maxAttestations := by
    unfold listedAttestations byTimestamp
    rw [(sortDescending_perm _ _).length_eq]
    exact h
  rw [List.drop_eq_nil_of_le hlength] at hmem
  exact absurd hmem List.not_mem_nil

variable {attestation : Attestation}

theorem mem_frozenLeaves {bytes : Bytes} (hbytes : epochDataToBytes env epochData = .ok bytes)
    (h : BeyondMaximumAreLeaves env epochData maxAttestations attestations)
    (hmem : attestation ∈ listedAttestations env epochData attestations) :
    attestationToBytes attestation ∈
      frozenLeaves env epochData maxAttestations attestations bytes := by
  rw [← List.take_append_drop maxAttestations (listedAttestations env epochData attestations)] at hmem
  rcases List.mem_append.mp hmem with htaken | hbeyond
  · exact List.mem_cons_of_mem _ (List.mem_map_of_mem htaken)
  · exact h bytes hbytes attestation hbeyond

theorem witnessAttestation_mem (h : attestation ∈ attestations) :
    witnessAttestation attestation ∈ listedAttestations env epochData attestations := by
  unfold listedAttestations byTimestamp paddedAttestations
  rw [(sortDescending_perm _ _).mem_iff]
  split_ifs
  · exact List.mem_append_left _ (List.mem_map_of_mem h)
  · exact List.mem_map_of_mem h

theorem exportVerifies_iff (hproves : env.rust.ProvesLeaves) (hsound : env.rust.SoundProofs)
    (hcodec : codec.toHexCodec.Lawful)
    (hfreeze : freezeWith env epochData maxAttestations attestations = .ok t) :
    ExportVerifies codec attestations t ↔
      BeyondMaximumAreLeaves env epochData maxAttestations attestations := by
  obtain ⟨-, -, bytes, hbytes, hbuilt, rfl⟩ := freezeWith_eq_ok.mp hfreeze
  obtain ⟨root, hroot⟩ := Option.isSome_iff_exists.mp hbuilt
  -- what is a leaf of the frozen tree has a proof, and it verifies
  have hproof (d : Bytes) (hd : d ∈ frozenLeaves env epochData maxAttestations attestations bytes) :
      ∃ proof, proofOf env (frozenTree env epochData maxAttestations attestations bytes) d =
        .ok proof ∧ env.rust.verify proof root (env.rust.hash d) = true := by
    obtain ⟨root', i, proof, hroot', hindex, hget, hverify⟩ := hproves _ d hd
    rw [hroot] at hroot'
    cases hroot'
    refine ⟨proof, ?_, hverify⟩
    show ((env.rust.getIndexData _ d).bind (env.rust.getProof _)).elim _ _ = _
    rw [hindex]
    show (env.rust.getProof _ i).elim _ _ = _
    rw [hget]
    rfl
  constructor
  · -- an attestation beyond the maximum is listed, and its proof verifies only if it is a leaf
    rintro ⟨e, v, hexport, -, hverify, hvalid⟩ bytes' hbytes' attestation hmem
    obtain rfl : bytes = bytes' := Except.ok.inj (hbytes.symm.trans hbytes')
    have hisExport := isExport hbytes hroot hexport
    obtain ⟨v', hverify', hiff⟩ := verify_export hcodec hbytes rfl hisExport
    rw [hverify] at hverify'
    cases hverify'
    obtain ⟨-, hall⟩ := hiff.mp hvalid
    obtain ⟨p, hp, hlisted, -⟩ := hisExport.listed attestation (List.mem_of_mem_drop hmem)
    exact hsound _ _ _ _ hroot (hall p hp attestation hlisted)
  · intro hbeyond
    obtain ⟨dataProof, hdataProof, hdataVerify⟩ := hproof bytes List.mem_cons_self
    obtain ⟨e, hexport⟩ : ∃ e, exportTree env codec
        (frozenTree env epochData maxAttestations attestations bytes) = .ok e := by
      apply exists_export hroot ⟨dataProof, hdataProof⟩
      intro attestation hmem
      obtain ⟨proof, hok, -⟩ := hproof _ (mem_frozenLeaves hbytes hbeyond hmem)
      exact ⟨proof, hok⟩
    have hisExport := isExport hbytes hroot hexport
    obtain ⟨v, hverify, hiff⟩ := verify_export hcodec hbytes rfl hisExport
    refine ⟨e, v, hexport, fun attestation hmem => ?_, hverify, hiff.mpr ⟨?_, ?_⟩⟩
    · obtain ⟨p, hp, hlisted, -⟩ := hisExport.listed _ (witnessAttestation_mem hmem)
      exact ⟨p, hp, hlisted⟩
    · have hsame := hisExport.dataProof
      rw [hdataProof] at hsame
      rw [← Except.ok.inj hsame]
      exact hdataVerify
    · intro p hp attestation hlisted
      obtain ⟨attestation', hmem, hlisted', hok⟩ := hisExport.ofListed p hp
      obtain ⟨proof, hproofOk, hverified⟩ := hproof _ (mem_frozenLeaves hbytes hbeyond hmem)
      rw [hproofOk] at hok
      rw [← Except.ok.inj hok, listedAttestation_injective (hlisted.symm.trans hlisted')]
      exact hverified

theorem not_lt_two_of_ne {a b : Attestation} (ha : a ∈ attestations) (hb : b ∈ attestations)
    (hne : a ≠ b) : ¬ attestations.length < 2 := by
  intro hlt
  cases attestations with
  | nil => exact absurd ha List.not_mem_nil
  | cons c rest =>
    rw [List.length_cons] at hlt
    have hnil : rest = [] := List.length_eq_zero_iff.mp (by omega)
    subst hnil
    rw [List.mem_singleton] at ha hb
    exact hne (ha.trans hb.symm)

theorem listedAttestations_eq (h : ¬ attestations.length < 2) :
    listedAttestations env epochData attestations =
      (sortDescending Attestation.timestamp attestations).map witnessAttestation := by
  unfold listedAttestations byTimestamp paddedAttestations
  rw [if_neg (by simpa using h), sortDescending_map]
  rfl

theorem leavesIgnoreOrder_iff (hproves : env.rust.ProvesLeaves)
    (hfreeze : freezeWith env epochData maxAttestations attestations = .ok t) :
    LeavesIgnoreOrder env epochData maxAttestations attestations t ↔
      TiesHaveOneLeaf maxAttestations attestations := by
  obtain ⟨hin, hmany, bytes, hbytes, -, rfl⟩ := freezeWith_eq_ok.mp hfreeze
  -- every order of the attestations can be frozen
  have hleaves : LeavesIgnoreOrder env epochData maxAttestations attestations
      (frozenTree env epochData maxAttestations attestations bytes) ↔
        ∀ attestations', attestations.Perm attestations' →
          ((listedAttestations env epochData attestations').take maxAttestations).map
              attestationToBytes =
            ((listedAttestations env epochData attestations).take maxAttestations).map
              attestationToBytes := by
    constructor
    · intro h attestations' hperm
      obtain ⟨root, -, -, hroot, -⟩ := hproves
        (frozenLeaves env epochData maxAttestations attestations' bytes) bytes List.mem_cons_self
      have hfrozen : freezeWith env epochData maxAttestations attestations' =
          .ok (frozenTree env epochData maxAttestations attestations' bytes) :=
        freezeWith_eq_ok.mpr ⟨fun a ha => hin a (hperm.mem_iff.mpr ha), by
          rw [List.length_take, length_listedAttestations] at hmany ⊢
          rwa [← hperm.length_eq], bytes, hbytes, Option.isSome_iff_exists.mpr ⟨root, hroot⟩, rfl⟩
      have htrees := Option.some.inj (h attestations' _ hperm hfrozen)
      exact (List.cons.inj htrees).2
    · intro h attestations' t' hperm hfrozen
      obtain ⟨-, -, bytes', hbytes', -, rfl⟩ := freezeWith_eq_ok.mp hfrozen
      obtain rfl : bytes = bytes' := Except.ok.inj (hbytes.symm.trans hbytes')
      exact congrArg (fun rest => some (bytes :: rest)) (h attestations' hperm)
  rw [hleaves]
  by_cases hfew : attestations.length < 2
  · -- there is one order only
    constructor
    · intro _ a ha b hb _ _
      by_cases hne : a = b
      · rw [hne]
      · exact absurd hfew (not_lt_two_of_ne ha hb hne)
    · intro _ attestations' hperm
      have hsame : attestations' = attestations := by
        cases attestations with
        | nil => exact List.perm_nil.mp hperm.symm
        | cons c rest =>
          rw [List.length_cons] at hfew
          have hnil : rest = [] := List.length_eq_zero_iff.mp (by omega)
          subst hnil
          exact List.perm_singleton.mp hperm.symm
      rw [hsame]
  · have hiff := take_map_sortDescending_iff Attestation.timestamp
      (fun a => attestationToBytes (witnessAttestation a)) maxAttestations attestations
    unfold TiesHaveOneLeaf
    rw [← hiff]
    refine forall_congr' fun attestations' => forall_congr' fun hperm => ?_
    rw [listedAttestations_eq hfew, listedAttestations_eq (hperm.length_eq ▸ hfew), ← List.map_take,
      ← List.map_take, List.map_map, List.map_map]
    rfl

/-- **Verdict.** The tree can be frozen, its export has valid proofs for all attestations, and its
leaves do not depend on their order, exactly when nothing is in the way of freezing it, none is left
without a leaf by the maximum, and ties have one leaf. -/
theorem export_sound_iff (hproves : env.rust.ProvesLeaves) (hsound : env.rust.SoundProofs)
    (hcodec : codec.toHexCodec.Lawful) {winner : EpochSubmissionWinner}
    (hwinner : epochData.winner = some winner) :
    (∃ t, freezeWith env epochData maxAttestations attestations = .ok t ∧
        ExportVerifies codec attestations t ∧
        LeavesIgnoreOrder env epochData maxAttestations attestations t) ↔
      Freezable env epochData winner maxAttestations attestations ∧
        BeyondMaximumAreLeaves env epochData maxAttestations attestations ∧
        TiesHaveOneLeaf maxAttestations attestations := by
  rw [← exists_freezeWith_iff hproves hwinner]
  constructor
  · rintro ⟨t, hfreeze, hexport, horder⟩
    exact ⟨⟨t, hfreeze⟩, (exportVerifies_iff hproves hsound hcodec hfreeze).mp hexport,
      (leavesIgnoreOrder_iff hproves hfreeze).mp horder⟩
  · rintro ⟨⟨t, hfreeze⟩, hbeyond, hties⟩
    exact ⟨t, hfreeze, (exportVerifies_iff hproves hsound hcodec hfreeze).mpr hbeyond,
      (leavesIgnoreOrder_iff hproves hfreeze).mpr hties⟩

end Verdict

/-! ### An epoch with some attestations -/

open EpochManager in
/-- Roots are printed by their numbers among the multisets. -/
def leafCodec : EpochTreeCodec leafTrees.rust where
  toHexCodec := multisetCodec
  hashHex := multisetRootHex
  hashFromHex := multisetFromHex
  proofRootHex _ hash := multisetRootHex hash
  hexError := "Invalid hex string"

def attestedWinner : EpochSubmissionWinner :=
  ⟨1, 40, List.replicate 32 1, List.replicate 32 3, List.replicate 32 4, List.replicate 20 5, [6]⟩

def attestedEpoch : EpochData where
  epochNumber := 1
  startBlock := 5
  endBlock := 9
  checksumRoot := List.replicate 32 7
  previousEpochHash := List.replicate 32 8
  attestedEpochNumber := -3
  attestedChecksumRoot := List.replicate 32 0
  winner := some attestedWinner

def attestationOf (signature : UInt8) (timestamp : ℕ) : Attestation where
  type := .BLOCK_WITNESS
  blockNumber := 6
  checksumRoot := List.replicate 32 7
  signature := List.replicate 64 signature
  timestamp := timestamp
  publicKey := List.replicate 32 9

theorem exists_freezeWith {epochData : EpochData} {maxAttestations : ℕ}
    {attestations : List Attestation}
    (h : (freezeWith env epochData maxAttestations attestations).isOk = true) :
    ∃ t, freezeWith env epochData maxAttestations attestations = .ok t := by
  cases hfreeze : freezeWith env epochData maxAttestations attestations with
  | error e =>
    rw [hfreeze] at h
    cases h
  | ok t => exact ⟨t, rfl⟩

section Samples

open EpochManager

def distinctTimes : List Attestation :=
  [attestationOf 1 100, attestationOf 2 300, attestationOf 3 200]

theorem export_sound_distinctTimes :
    ∃ t, freezeWith leafTrees attestedEpoch 500000 distinctTimes = .ok t ∧
      ExportVerifies leafCodec distinctTimes t ∧
      LeavesIgnoreOrder leafTrees attestedEpoch 500000 distinctTimes t := by
  have hfreezable : Freezable leafTrees attestedEpoch attestedWinner 500000 distinctTimes :=
    ⟨by unfold InEpoch; decide, by decide, by decide⟩
  have hties : TiesHaveOneLeaf 500000 distinctTimes := by
    unfold TiesHaveOneLeaf
    decide +kernel
  have hbeyond : BeyondMaximumAreLeaves leafTrees attestedEpoch 500000 distinctTimes :=
    beyondMaximumAreLeaves_of_length_le (by decide +kernel)
  exact (export_sound_iff RustMerkleTree.provesLeaves_multisetTree
    RustMerkleTree.soundProofs_multisetTree lawful_multisetCodec rfl).mpr
      ⟨hfreezable, hbeyond, hties⟩

def sameTime : List Attestation := [attestationOf 1 100, attestationOf 2 100]

/-- The leaves of two attestations at one time depend on their order, with a maximum of two the third
attestation has no proof, and a call does not take the leaves of 130000 attestations. -/
theorem not_export_sound :
    (∃ t, freezeWith leafTrees attestedEpoch 500000 sameTime = .ok t ∧
      ¬ LeavesIgnoreOrder leafTrees attestedEpoch 500000 sameTime t) ∧
    (∃ t, freezeWith leafTrees attestedEpoch 2 distinctTimes = .ok t ∧
      ¬ ExportVerifies leafCodec distinctTimes t) ∧
    ¬ ∃ t, freezeWith leafTrees attestedEpoch 500000
      (List.replicate 130000 (attestationOf 1 100)) = .ok t := by
  refine ⟨?_, ?_, ?_⟩
  · obtain ⟨t, hfreeze⟩ := exists_freezeWith (show (freezeWith leafTrees attestedEpoch 500000
      sameTime).isOk = true from by decide +kernel)
    refine ⟨t, hfreeze, ?_⟩
    rw [leavesIgnoreOrder_iff RustMerkleTree.provesLeaves_multisetTree hfreeze]
    unfold TiesHaveOneLeaf
    decide +kernel
  · obtain ⟨t, hfreeze⟩ := exists_freezeWith (show (freezeWith leafTrees attestedEpoch 2
      distinctTimes).isOk = true from by decide +kernel)
    refine ⟨t, hfreeze, ?_⟩
    rw [exportVerifies_iff RustMerkleTree.provesLeaves_multisetTree
      RustMerkleTree.soundProofs_multisetTree lawful_multisetCodec hfreeze]
    intro hbeyond
    obtain ⟨-, -, bytes, hbytes, -, -⟩ := freezeWith_eq_ok.mp hfreeze
    have hleaf := hbeyond bytes hbytes (attestationOf 1 100) (by decide +kernel)
    have hcomputed : (epochDataToBytes leafTrees attestedEpoch).toOption.map (fun bytes =>
        decide (attestationToBytes (attestationOf 1 100) ∈
          frozenLeaves leafTrees attestedEpoch 2 distinctTimes bytes)) = some false := by
      decide +kernel
    rw [hbytes] at hcomputed
    exact of_decide_eq_false (Option.some.inj hcomputed) hleaf
  · rw [exists_freezeWith_iff RustMerkleTree.provesLeaves_multisetTree
      (rfl : attestedEpoch.winner = some attestedWinner)]
    intro hfreezable
    have harguments := hfreezable.arguments
    rw [List.length_replicate] at harguments
    exact absurd harguments (by decide)

end Samples

end EpochMerkleTree

end OpnetNode
