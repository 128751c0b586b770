import OpnetNode.Epoch.EpochMerkleTree
import OpnetNode.Epoch.Equiv.BestSubmission

/-!
# Nodes agree on the epochs they finalise

The hash of an epoch is the hash of the first leaf of its tree, to which no witness adds anything
(`finalizeEpochTree_eq`), and the winner does not depend on the order of the submissions.  So two
nodes with the same headers and submissions have the same chain of epoch hashes
(`finalizeEpochs_agree`), whatever witnesses they have.
-/

namespace OpnetNode

open EpochManager EpochValidator

/-! ### The tree -/

namespace EpochMerkleTree

variable {tenv : EpochTreeEnvironment} {t t' : EpochMerkleTree}

theorem addBlockAttestation_epochData {attestation : Attestation}
    (h : t.addBlockAttestation attestation = .ok t') : t'.epochData = t.epochData := by
  unfold addBlockAttestation at h
  split_ifs at h
  cases h
  rfl

theorem freeze_epochHash (h : t.freeze tenv = .ok t') : ∃ bytes,
    epochDataToBytes tenv t.epochData = .ok bytes ∧ t'.epochHash = some (tenv.sha256 bytes) := by
  unfold freeze at h
  obtain ⟨t₁, hgenerate, h⟩ := exceptBind_eq_ok h
  cases h
  unfold generateTree at hgenerate
  split_ifs at hgenerate
  obtain ⟨bytes, hbytes, hgenerate⟩ := exceptBind_eq_ok hgenerate
  dsimp only at hgenerate
  split_ifs at hgenerate
  cases hgenerate
  exact ⟨bytes, hbytes, rfl⟩

end EpochMerkleTree

namespace EpochManager

variable {checkSumRoots : List (ℕ × Bytes)}

variable {t t' : EpochMerkleTree}

theorem addWitness_epochData
    {witness : BlockWitness} (h : addWitness checkSumRoots t witness = .ok t') :
    t'.epochData = t.epochData := by
  unfold addWitness at h
  obtain ⟨attestation, -, h⟩ := exceptBind_eq_ok h
  cases attestation with
  | none =>
    cases h
    rfl
  | some attestation => exact EpochMerkleTree.addBlockAttestation_epochData h

variable {witnesses : List BlockWitness}

theorem addWitnesses_epochData (h : witnesses.foldlM (addWitness checkSumRoots) t = .ok t') :
    t'.epochData = t.epochData := by
  induction witnesses generalizing t with
  | nil =>
    cases h
    rfl
  | cons witness witnesses ih =>
    rw [List.foldlM_cons] at h
    obtain ⟨t₁, hadd, h⟩ := exceptBind_eq_ok h
    rw [ih h, addWitness_epochData hadd]

/-! ### One epoch -/

variable (env : EpochEnvironment) (tenv : EpochTreeEnvironment)

def epochDataOf (startBlock endBlock epochNumber : ℕ) (checksumRoot previousEpochHash
    attestedChecksumRoot : Bytes) (winner : EpochSubmissionWinner) : EpochData :=
  let targetHash := env.hashBuffer checksumRoot
  let solutionHash := env.hashBuffer (calculatePreimage checksumRoot winner.mldsaPublicKey winner.salt)
  { epochNumber
    startBlock
    endBlock
    checksumRoot
    previousEpochHash
    attestedEpochNumber := (epochNumber : ℤ) - 4
    attestedChecksumRoot
    winner := some { winner with
      epochNumber
      solutionHash
      matchingBits := countMatchingBits solutionHash targetHash } }

def targetRoot (epochNumber : ℕ) (miningTargetChecksum : Option Bytes) : Bytes :=
  if epochNumber = 0 then List.replicate 32 0
  else miningTargetChecksum.getD (List.replicate 32 0)

variable {submissions : List EpochSubmissionDocument}

/-- An epoch that is finalised has the document of `finalizeEpoch` and the hash of its data; nothing
of it but the root and the proofs comes from the witnesses. -/
theorem finalizeEpochTree_eq {startBlock endBlock epochNumber : ℕ}
    {previousEpochHash attestedChecksumRoot : Bytes}
    {miningTargetChecksum : Option Bytes} {epoch : FinalEpoch tenv.rust.Hash}
    (h : finalizeEpochTree env tenv startBlock endBlock checkSumRoots submissions witnesses
      epochNumber previousEpochHash attestedChecksumRoot miningTargetChecksum = .ok epoch) :
    finalizeEpoch env startBlock endBlock epochNumber submissions miningTargetChecksum =
        .ok epoch.toEpochDocument ∧
      ∃ winner bytes,
        selectWinner env submissions (env.hashBuffer (targetRoot epochNumber miningTargetChecksum))
          endBlock epochNumber = .ok winner ∧
        EpochMerkleTree.epochDataToBytes tenv (epochDataOf env startBlock endBlock epochNumber
          (targetRoot epochNumber miningTargetChecksum) previousEpochHash attestedChecksumRoot
          winner) = .ok bytes ∧
        epoch.epochHash = tenv.sha256 bytes := by
  unfold finalizeEpochTree at h
  obtain ⟨winner, hwinner, h⟩ := exceptBind_eq_ok h
  have hsalt : ¬ winner.salt.length ≠ 32 := by
    intro hne
    rw [if_pos hne] at h
    cases h
  rw [if_neg hsalt] at h
  obtain ⟨t, hset, h⟩ := exceptBind_eq_ok h
  obtain ⟨t₁, hadd, h⟩ := exceptBind_eq_ok h
  obtain ⟨t₂, hfreeze, h⟩ := exceptBind_eq_ok h
  -- the root and the proofs are the only fields that the witnesses have a part in
  obtain ⟨root, -, h⟩ := exceptBind_eq_ok h
  obtain ⟨hash, hhash, h⟩ := exceptBind_eq_ok h
  obtain ⟨proofs, -, h⟩ := exceptBind_eq_ok h
  obtain ⟨-, -, h⟩ := exceptBind_eq_ok h
  cases h
  obtain ⟨bytes, hbytes, hfrozen⟩ := EpochMerkleTree.freeze_epochHash hfreeze
  rw [addWitnesses_epochData hadd, ← Except.ok.inj hset] at hbytes
  constructor
  · unfold finalizeEpoch
    show (selectWinner env submissions _ endBlock epochNumber >>= _) = _
    rw [hwinner]
    exact if_neg hsalt
  · refine ⟨winner, bytes, hwinner, hbytes, ?_⟩
    unfold EpochMerkleTree.getEpochHash at hhash
    rw [hfrozen] at hhash
    exact (Except.ok.inj hhash).symm

theorem selectWinner_perm {submissions' : List EpochSubmissionDocument}
    (h : submissions.Perm submissions')
    (hdistinct : (submissions.map (·.submissionTxHash)).Nodup) (targetHash : Bytes)
    (endBlock epochNumber : ℕ) :
    selectWinner env submissions targetHash endBlock epochNumber =
      selectWinner env submissions' targetHash endBlock epochNumber := by
  unfold selectWinner
  rw [getBestSubmission_perm targetHash env.earlyMining h hdistinct]

/-! ### The chain of epochs -/

/-- Two nodes with the same headers and the same submissions, of different transactions; each has
its own witnesses. -/
structure SameChain (store store' : EpochStore) : Prop where
  checksumRoots : store.checksumRoots = store'.checksumRoots
  submissions : ∀ epochNumber, (store.getSubmissionsByEpochNumber epochNumber).Perm
    (store'.getSubmissionsByEpochNumber epochNumber)
  distinct : ∀ epochNumber,
    ((store.getSubmissionsByEpochNumber epochNumber).map (·.submissionTxHash)).Nodup

/-- What two nodes have the same of their epochs: all but the root and the proofs of the tree. -/
def agreed {Hash : Type} (epochs : Collection (FinalEpoch Hash)) : List (EpochDocument × Bytes) :=
  epochs.map fun epoch => (epoch.toEpochDocument, epoch.epochHash)

section Agreement

variable {env : EpochEnvironment} {tenv : EpochTreeEnvironment} {store store' : EpochStore}
  {epochs epochs' : Collection (FinalEpoch tenv.rust.Hash)}

theorem previousEpochHash_agreed (h : agreed epochs = agreed epochs') (epochNumber : ℕ) :
    previousEpochHash epochs epochNumber = previousEpochHash epochs' epochNumber := by
  have hfind (epochs : Collection (FinalEpoch tenv.rust.Hash)) :
      (epochs.find? fun epoch => epoch.epochNumber = epochNumber - 1).map FinalEpoch.epochHash =
        ((agreed epochs).find? fun epoch => epoch.1.epochNumber = epochNumber - 1).map Prod.snd := by
    unfold agreed
    rw [List.find?_map, Option.map_map]
    rfl
  have heq : (epochs.find? fun epoch => epoch.epochNumber = epochNumber - 1).map
      FinalEpoch.epochHash = (epochs'.find? fun epoch => epoch.epochNumber = epochNumber - 1).map
        FinalEpoch.epochHash := by
    rw [hfind, hfind, h]
  unfold previousEpochHash
  split_ifs
  · rfl
  · cases hold : epochs.find? fun epoch => epoch.epochNumber = epochNumber - 1 with
    | none =>
      rw [hold] at heq
      rw [Option.map_eq_none_iff.mp heq.symm]
    | some epoch =>
      rw [hold] at heq
      obtain ⟨epoch', hnew, hhash⟩ := Option.map_eq_some_iff.mp heq.symm
      rw [hnew]
      exact congrArg Except.ok hhash.symm

theorem documents_agreed (h : agreed epochs = agreed epochs') :
    epochs.map FinalEpoch.toEpochDocument = epochs'.map FinalEpoch.toEpochDocument := by
  have hmap := congrArg (List.map Prod.fst) h
  unfold agreed at hmap
  rwa [List.map_map, List.map_map] at hmap

/-- **Step.** Two nodes that agree on the epochs so far agree on the next one. -/
theorem completeEpoch_agrees (hsame : SameChain store store') (h : agreed epochs = agreed epochs')
    {epochNumber : ℕ} {epoch epoch' : FinalEpoch tenv.rust.Hash}
    (hepoch : completeEpoch env tenv store epochs epochNumber = .ok epoch)
    (hepoch' : completeEpoch env tenv store' epochs' epochNumber = .ok epoch') :
    epoch.toEpochDocument = epoch'.toEpochDocument ∧ epoch.epochHash = epoch'.epochHash := by
  have hblocks : store.blocks = store'.blocks := by
    unfold EpochStore.blocks
    rw [hsame.checksumRoots]
  unfold completeEpoch at hepoch hepoch'
  rw [hblocks, previousEpochHash_agreed h, documents_agreed h] at hepoch
  -- what both nodes read of the chain and of the epochs before is the same
  obtain ⟨lastEpoch, hlast, hepoch⟩ := exceptBind_eq_ok hepoch
  obtain ⟨attestation, hattestation, hepoch⟩ := exceptBind_eq_ok hepoch
  obtain ⟨roots, hroots, hepoch⟩ := exceptBind_eq_ok hepoch
  obtain ⟨target, htarget, hepoch⟩ := exceptBind_eq_ok hepoch
  rw [hlast] at hepoch'
  obtain ⟨_, hlast', hepoch'⟩ := exceptBind_eq_ok hepoch'
  cases hlast'
  rw [hattestation] at hepoch'
  obtain ⟨_, hattestation', hepoch'⟩ := exceptBind_eq_ok hepoch'
  cases hattestation'
  rw [hroots] at hepoch'
  obtain ⟨_, hroots', hepoch'⟩ := exceptBind_eq_ok hepoch'
  cases hroots'
  rw [htarget] at hepoch'
  obtain ⟨_, htarget', hepoch'⟩ := exceptBind_eq_ok hepoch'
  cases htarget'
  -- the submissions are read in any order, and the same one wins
  have hwinner (targetHash : Bytes) (endBlock : ℕ) : selectWinner env
      (if epochNumber = 0 then [] else store.getSubmissionsByEpochNumber epochNumber) targetHash
        endBlock epochNumber = selectWinner env
      (if epochNumber = 0 then [] else store'.getSubmissionsByEpochNumber epochNumber) targetHash
        endBlock epochNumber := by
    split_ifs
    · rfl
    · exact selectWinner_perm env (hsame.submissions epochNumber) (hsame.distinct epochNumber) _ _ _
  obtain ⟨hdocument, winner, bytes, hselect, hbytes, hhash⟩ := finalizeEpochTree_eq env tenv hepoch
  obtain ⟨hdocument', winner', bytes', hselect', hbytes', hhash'⟩ :=
    finalizeEpochTree_eq env tenv hepoch'
  rw [hwinner, hselect'] at hselect
  cases hselect
  rw [hbytes'] at hbytes
  cases hbytes
  refine ⟨?_, hhash.trans hhash'.symm⟩
  unfold finalizeEpoch at hdocument hdocument'
  dsimp only at hdocument
  rw [hwinner] at hdocument
  exact Except.ok.inj (hdocument.symm.trans hdocument')

/-- **Run.** So they agree on all epochs. -/
theorem finalizeEpochs_agree (hsame : SameChain store store') (count : ℕ) :
    ∀ {epochs epochs' : Collection (FinalEpoch tenv.rust.Hash)},
      finalizeEpochs env tenv store count = .ok epochs →
      finalizeEpochs env tenv store' count = .ok epochs' → agreed epochs = agreed epochs' := by
  induction count with
  | zero =>
    intro epochs epochs' h h'
    rw [← Except.ok.inj h, ← Except.ok.inj h']
  | succ count ih =>
    intro epochs epochs' h h'
    obtain ⟨before, hbefore, h⟩ := exceptBind_eq_ok h
    obtain ⟨epoch, hepoch, h⟩ := exceptBind_eq_ok h
    obtain ⟨before', hbefore', h'⟩ := exceptBind_eq_ok h'
    obtain ⟨epoch', hepoch', h'⟩ := exceptBind_eq_ok h'
    have hagreed := ih hbefore hbefore'
    obtain ⟨hdocument, hhash⟩ := completeEpoch_agrees hsame hagreed hepoch hepoch'
    rw [← Except.ok.inj h, ← Except.ok.inj h']
    unfold agreed at hagreed ⊢
    rw [List.map_append, List.map_append, hagreed, List.map_singleton, List.map_singleton, hdocument,
      hhash]

end Agreement

/-- **Agreement.** Two nodes with the same headers and submissions choose the same best submission,
which has the most bits of the eligible ones, and give their epochs the same hashes. -/
theorem epochs_agree (env : EpochEnvironment) (tenv : EpochTreeEnvironment)
    (store store' : EpochStore) (hsame : SameChain store store') :
    (∀ epochNumber targetHash endBlock,
      getBestSubmission env.earlyMining (store.getSubmissionsByEpochNumber epochNumber) targetHash
          endBlock =
        getBestSubmission env.earlyMining (store'.getSubmissionsByEpochNumber epochNumber) targetHash
          endBlock ∧
      IsBestOf (filterEarlyMiningSubmissions env.earlyMining
          (store.getSubmissionsByEpochNumber epochNumber) endBlock) targetHash
        (getBestSubmission env.earlyMining (store.getSubmissionsByEpochNumber epochNumber) targetHash
          endBlock)) ∧
    ∀ count epochs epochs', finalizeEpochs env tenv store count = .ok epochs →
      finalizeEpochs env tenv store' count = .ok epochs' →
      epochs.map FinalEpoch.epochHash = epochs'.map FinalEpoch.epochHash := by
  refine ⟨fun epochNumber targetHash endBlock => ⟨?_, ?_⟩, fun count epochs epochs' h h' => ?_⟩
  · exact getBestSubmission_perm targetHash env.earlyMining (hsame.submissions epochNumber)
      (hsame.distinct epochNumber) endBlock
  · exact getBestSubmission_isBestOf targetHash env.earlyMining (hsame.distinct epochNumber) endBlock
  · have hagreed := congrArg (List.map Prod.snd) (finalizeEpochs_agree hsame count h h')
    unfold agreed at hagreed
    rwa [List.map_map, List.map_map] at hagreed

/-- An environment without a whitelist. -/
def openEnvironment : EpochEnvironment where
  hashBuffer data := (data ++ List.replicate 20 0).take 20
  GENESIS_PROPOSER_PUBLIC_KEY := ⟨List.replicate 32 9, List.replicate 33 9⟩
  earlyMining := none

/-- Trees that know their leaves. -/
def leafTrees : EpochTreeEnvironment where
  chainId := [1]
  PROTOCOL_ID := [2]
  sha256 data := data
  dead := List.replicate 32 0
  rust := RustMerkleTree.multisetTree
  rustError := ""
  maxArguments := 125000

/-- A submission for the first epoch that can be mined. -/
def submissionOf (txHash key : UInt8) : EpochSubmissionDocument where
  submissionTxId := [txHash]
  submissionTxHash := [txHash]
  submissionHash := [txHash]
  epochProposed := ⟨List.replicate 20 7, List.replicate 32 key, [], List.replicate 32 1, none⟩
  confirmedAt := 7
  epochNumber := 1
  startBlock := 5

/-- A node with ten headers, two submissions for epoch 1 and some witnesses. -/
def storeOf (submissions : List EpochSubmissionDocument) (witnesses : ℕ → List BlockWitness) :
    EpochStore where
  checksumRoots := List.replicate 10 (List.replicate 32 7)
  getSubmissionsByEpochNumber epochNumber := if epochNumber = 1 then submissions else []
  getWitnesses := witnesses

/-- A node without witnesses. -/
def unwitnessed : EpochStore := storeOf [submissionOf 1 4, submissionOf 2 3] fun _ => []

/-- A node with a witness that has the submissions in the other order. -/
def witnessed : EpochStore := storeOf [submissionOf 2 3, submissionOf 1 4] fun height =>
  if height = 6 then [⟨6, [5], 100, some [8]⟩] else []

theorem sameChain_witnessed : SameChain unwitnessed witnessed where
  checksumRoots := rfl
  submissions epochNumber := by
    show (if epochNumber = 1 then _ else _ : List EpochSubmissionDocument).Perm
      (if epochNumber = 1 then _ else _)
    split_ifs
    · exact List.Perm.swap _ _ _
    · exact List.Perm.refl _
  distinct epochNumber := by
    show ((if epochNumber = 1 then _ else _ : List EpochSubmissionDocument).map _).Nodup
    split_ifs
    · decide
    · exact List.nodup_nil

/-- Both nodes finalise two epochs, with the same hashes. -/
theorem epochs_agree_witnessed :
    (∀ epochs epochs', finalizeEpochs openEnvironment leafTrees unwitnessed 2 = .ok epochs →
      finalizeEpochs openEnvironment leafTrees witnessed 2 = .ok epochs' →
      epochs.map FinalEpoch.epochHash = epochs'.map FinalEpoch.epochHash) ∧
    (finalizeEpochs openEnvironment leafTrees unwitnessed 2).isOk ∧
    (finalizeEpochs openEnvironment leafTrees witnessed 2).isOk := by
  have hagree := epochs_agree openEnvironment leafTrees unwitnessed witnessed sameChain_witnessed
  refine ⟨hagree.2 2, ?_, ?_⟩
  · decide +kernel
  · decide +kernel

end EpochManager

end OpnetNode
