import OpnetNode.Epoch.Equiv.BlockSubmissions
import OpnetNode.Epoch.Equiv.EpochAgreement

/-!
# The winner of an epoch is the submission that was accepted

A submission is accepted against the header that its epoch mines, blocks before the epoch is
finalised against the header then stored.  In a run in which no write of a cancelled task lands on
another header than it was validated with (`LandsOnTarget`), what `finalizeEpoch` computes for the
winner is what its validation gave (`winnerConsistent_of_runFrom`).
-/

namespace OpnetNode.BlockSubmissions

open EpochManager EpochValidator SharedInteractionParameters

/-- The documents of an epoch that may win it. -/
def eligibleSubmissions (env : SubmissionEnvironment) (store : EpochStore) (epochNumber : ℕ) :
    List EpochSubmissionDocument :=
  filterEarlyMiningSubmissions env.earlyMining (store.getSubmissionsByEpochNumber epochNumber)
    (epochNumber * BLOCKS_PER_EPOCH + BLOCKS_PER_EPOCH - 1)

/-- An epoch recorded for a submission, as it was accepted. -/
structure WonBy (epoch : EpochDocument) (d : StoredSubmission) : Prop where
  mldsaPublicKey : epoch.proposer.mldsaPublicKey = d.epochProposed.mldsaPublicKey
  salt : epoch.proposer.salt = d.epochProposed.salt
  solution : epoch.proposer.solution = d.submissionHash
  submissionHash : d.submissionHash = d.validated.hash
  matchingBits : countMatchingBits epoch.proposer.solution epoch.targetHash =
    d.validated.matchingBits
  difficultyScaled : epoch.difficultyScaled = 2 ^ d.validated.matchingBits
  difficulty : MIN_DIFFICULTY ≤ d.validated.matchingBits

def IsGenesis (env : SubmissionEnvironment) (epoch : EpochDocument) : Prop :=
  epoch.proposer.mldsaPublicKey = env.GENESIS_PROPOSER_PUBLIC_KEY.mldsaPublicKey ∧
    epoch.proposer.salt = GENESIS_SALT

/-- Whatever epochs and witnesses are stored, an epoch that is finalised is recorded for a
submission as it was accepted, or for the genesis proposer when nothing is eligible. -/
def WinnerConsistent (env : SubmissionEnvironment) (node : SubmissionNode) : Prop :=
  ∀ (tenv : EpochTreeEnvironment) (getWitnesses : ℕ → List BlockWitness)
    (epochs : Collection (FinalEpoch tenv.rust.Hash)) (epochNumber : ℕ)
    (epoch : FinalEpoch tenv.rust.Hash),
    completeEpoch env.toEpochEnvironment tenv (node.store getWitnesses) epochs epochNumber =
        .ok epoch →
      (∃ d ∈ node.submissions, d.epochNumber = epochNumber ∧
        d.toEpochSubmissionDocument ∈
          eligibleSubmissions env (node.store getWitnesses) epochNumber ∧
        WonBy epoch.toEpochDocument d) ∨
      (eligibleSubmissions env (node.store getWitnesses) epochNumber = [] ∧
        IsGenesis env epoch.toEpochDocument)

/-- A write of a cancelled task lands only while the header it was validated with is stored. -/
def LandsOnTarget (node : SubmissionNode) : SubmissionEvent → Prop
  | .orphanLanded i => ∀ d, node.orphaned[i]? = some d →
      node.headers[d.epochNumber * BLOCKS_PER_EPOCH - 1]? = some d.targetRoot
  | _ => True

/-- A SHA-1 digest has 20 bytes. -/
def IsSha1 (env : SubmissionEnvironment) : Prop := ∀ data, (env.hashBuffer data).length = 20

variable {env : SubmissionEnvironment}

/-! ### The invariant -/

/-- What is stored was accepted with the headers that are stored. -/
structure OnTarget (env : SubmissionEnvironment) (node : SubmissionNode) : Prop where
  accepted : ∀ d ∈ node.submissions, Accepted env d
  target : ∀ d ∈ node.submissions,
    node.headers[d.epochNumber * BLOCKS_PER_EPOCH - 1]? = some d.targetRoot
  distinct : (node.submissions.map (·.submissionTxHash)).Nodup
  orphaned : ∀ d ∈ node.orphaned, Accepted env d

theorem onTarget_init : OnTarget env SubmissionNode.init where
  accepted _ h := absurd h List.not_mem_nil
  target _ h := absurd h List.not_mem_nil
  distinct := List.nodup_nil
  orphaned _ h := absurd h List.not_mem_nil

section Step

variable {node node' : SubmissionNode}

theorem OnTarget.saved (h : OnTarget env node) {block : SubmissionBlock}
    {submissions : List StoredSubmission}
    (hnext : SubmissionNode.nextSubmissions env node block = some submissions)
    (chosen : List StoredSubmission) (hchosen : ∀ d ∈ chosen, d ∈ submissions) :
    (∀ d ∈ submissions, Accepted env d) ∧
    (∀ d ∈ saveSubmissions chosen node.submissions, Accepted env d ∧
      node.headers[d.epochNumber * BLOCKS_PER_EPOCH - 1]? = some d.targetRoot) := by
  obtain ⟨-, -, hprocess⟩ := nextSubmissions_eq_some hnext
  constructor
  · intro d hd
    exact (accepted_of_mem_processSubmissions hprocess hd).1
  · intro d hd
    rcases mem_saveSubmissions hd with hnew | hold
    · have hmem := hchosen d hnew
      exact ⟨(accepted_of_mem_processSubmissions hprocess hmem).1,
        targetRoot_of_mem_processSubmissions hprocess hmem⟩
    · exact ⟨h.accepted d hold, h.target d hold⟩

theorem Accepted.target_lt {d : StoredSubmission} (h : Accepted env d) :
    d.epochNumber * BLOCKS_PER_EPOCH - 1 < d.confirmedAt := by
  have hpos := h.epoch_pos
  have hepoch := h.epochNumber
  unfold BLOCKS_PER_EPOCH at hepoch ⊢
  omega

/-- **Step lemma.** -/
theorem onTarget_step {event : SubmissionEvent} (h : OnTarget env node)
    (hlands : LandsOnTarget node event) (hstep : node.step env event = some node') :
    OnTarget env node' := by
  cases event with
  | processBlock block =>
    simp only [SubmissionNode.step, Option.map_eq_some_iff] at hstep
    obtain ⟨submissions, hnext, rfl⟩ := hstep
    obtain ⟨-, hsaved⟩ := h.saved hnext submissions fun d hd => hd
    refine ⟨fun d hd => (hsaved d hd).1, fun d hd => ?_, nodup_saveSubmissions _ h.distinct,
      h.orphaned⟩
    -- the headers below are the same
    have htarget := (hsaved d hd).2
    have hlt := (List.getElem?_eq_some_iff.mp htarget).1
    show (SubmissionBlock.checksumRoot <$> (node.chain ++ [block]))[_]? = _
    rw [List.map_eq_map, List.map_append]
    exact (List.getElem?_append_left hlt).trans htarget
  | interruptBlock block landed =>
    simp only [SubmissionNode.step, Option.map_eq_some_iff] at hstep
    obtain ⟨submissions, hnext, rfl⟩ := hstep
    obtain ⟨haccepted, hsaved⟩ := h.saved hnext (submissions.filter landed) fun d hd =>
      (List.mem_filter.mp hd).1
    refine ⟨fun d hd => (hsaved d hd).1, fun d hd => (hsaved d hd).2,
      nodup_saveSubmissions _ h.distinct, fun d hd => ?_⟩
    rcases List.mem_append.mp hd with hold | hnew
    · exact h.orphaned d hold
    · exact haccepted d (List.mem_filter.mp hnew).1
  | cancelTask block =>
    simp only [SubmissionNode.step] at hstep
    split_ifs at hstep
    cases hstep
    exact ⟨h.accepted, h.target, h.distinct, h.orphaned⟩
  | cancelledReads i =>
    simp only [SubmissionNode.step, Option.map_eq_some_iff] at hstep
    obtain ⟨task, -, rfl⟩ := hstep
    refine ⟨h.accepted, h.target, h.distinct, fun d hd => ?_⟩
    rcases List.mem_append.mp hd with hold | hnew
    · exact h.orphaned d hold
    · -- the task validates against the headers it finds now
      cases hresult : processSubmissions env node.headers task.1 task.2 node.submissions with
      | error e =>
        rw [hresult] at hnew
        exact absurd hnew List.not_mem_nil
      | ok submissions =>
        rw [hresult] at hnew
        exact (accepted_of_mem_processSubmissions hresult hnew).1
  | revertDataUntilBlock blockId =>
    simp only [SubmissionNode.step] at hstep
    split_ifs at hstep
    cases hstep
    refine ⟨fun d hd => h.accepted d (List.mem_filter.mp hd).1, fun d hd => ?_,
      h.distinct.sublist (List.filter_sublist.map _), h.orphaned⟩
    obtain ⟨hmem, hbelow⟩ := List.mem_filter.mp hd
    have hlt := (h.accepted d hmem).target_lt
    have hconfirmed : d.confirmedAt < blockId := by simpa using hbelow
    have hheaders : (node.chain.take blockId).map SubmissionBlock.checksumRoot =
        node.headers.take blockId := List.map_take
    show ((node.chain.take blockId).map SubmissionBlock.checksumRoot)[_]? = _
    rw [hheaders, List.getElem?_take_of_lt (by omega)]
    exact h.target d hmem
  | orphanLanded i =>
    simp only [SubmissionNode.step, Option.map_eq_some_iff] at hstep
    obtain ⟨submission, horphan, rfl⟩ := hstep
    have hmem : submission ∈ node.orphaned := List.mem_of_getElem? horphan
    refine ⟨fun d hd => ?_, fun d hd => ?_, nodup_saveSubmission submission h.distinct,
      fun d hd => h.orphaned d (List.mem_of_mem_eraseIdx hd)⟩
    · rcases mem_saveSubmission hd with rfl | hold
      · exact h.orphaned d hmem
      · exact h.accepted d hold
    · rcases mem_saveSubmission hd with rfl | hold
      · exact hlands d horphan
      · exact h.target d hold

end Step

/-! ### The finalisation -/

section Finalise

variable {node : SubmissionNode} {tenv : EpochTreeEnvironment}
  {getWitnesses : ℕ → List BlockWitness} {epochs : Collection (FinalEpoch tenv.rust.Hash)}
  {epochNumber : ℕ} {epoch : FinalEpoch tenv.rust.Hash}

theorem finalizeEpoch_of_completeEpoch
    (h : completeEpoch env.toEpochEnvironment tenv (node.store getWitnesses) epochs epochNumber =
      .ok epoch) : ∃ miningTarget,
    finalizeEpoch env.toEpochEnvironment (epochNumber * BLOCKS_PER_EPOCH)
        (epochNumber * BLOCKS_PER_EPOCH + BLOCKS_PER_EPOCH - 1) epochNumber
        (if epochNumber = 0 then [] else
          (node.store getWitnesses).getSubmissionsByEpochNumber epochNumber) miningTarget =
      .ok epoch.toEpochDocument ∧
    (0 < epochNumber → ∃ root, miningTarget = some root ∧
      node.headers[epochNumber * BLOCKS_PER_EPOCH - 1]? = some root) := by
  unfold completeEpoch at h
  obtain ⟨lastEpoch, -, h⟩ := exceptBind_eq_ok h
  obtain ⟨attestation, -, h⟩ := exceptBind_eq_ok h
  obtain ⟨roots, -, h⟩ := exceptBind_eq_ok h
  obtain ⟨miningTarget, htarget, h⟩ := exceptBind_eq_ok h
  refine ⟨miningTarget, (finalizeEpochTree_eq env.toEpochEnvironment tenv h).1, fun hpos => ?_⟩
  unfold getMiningTargetBlock at htarget
  rw [if_neg (by omega)] at htarget
  unfold getMiningTargetChecksum at htarget
  obtain ⟨root, hroot, hsome⟩ := exceptBind_eq_ok htarget
  refine ⟨root, (Except.ok.inj hsome).symm, ?_⟩
  have hblocks (i : ℕ) : (node.store getWitnesses).blocks[i]? =
      (node.headers[i]?).map fun checksumRoot => ⟨(), checksumRoot, []⟩ := List.getElem?_map
  unfold getChecksumRoot at hroot
  rw [hblocks] at hroot
  cases hheader : node.headers[epochNumber * BLOCKS_PER_EPOCH - 1]? with
  | none =>
    rw [hheader] at hroot
    cases hroot
  | some checksumRoot =>
    rw [hheader] at hroot
    simp only [Option.map_some, checksumRootOf] at hroot
    split_ifs at hroot
    exact congrArg some (Except.ok.inj hroot)

/-- What `finalizeEpoch` records for the winner it selects. -/
theorem finalizeEpoch_eq_ok {startBlock endBlock : ℕ} {submissions : List EpochSubmissionDocument}
    {miningTarget : Option Bytes} {document : EpochDocument}
    (h : finalizeEpoch env.toEpochEnvironment startBlock endBlock epochNumber submissions
      miningTarget = .ok document) : ∃ winner,
    selectWinner env.toEpochEnvironment submissions
        (env.hashBuffer (targetRoot epochNumber miningTarget)) endBlock epochNumber = .ok winner ∧
    document = createEpoch startBlock
      (countMatchingBits (env.hashBuffer
        (calculatePreimage (targetRoot epochNumber miningTarget) winner.mldsaPublicKey winner.salt))
        (env.hashBuffer (targetRoot epochNumber miningTarget)))
      (env.hashBuffer (targetRoot epochNumber miningTarget))
      (env.hashBuffer
        (calculatePreimage (targetRoot epochNumber miningTarget) winner.mldsaPublicKey winner.salt))
      winner := by
  unfold finalizeEpoch at h
  obtain ⟨winner, hwinner, h⟩ := exceptBind_eq_ok h
  have hsalt : ¬ winner.salt.length ≠ 32 := by
    intro hne
    rw [if_pos hne] at h
    cases h
  rw [if_neg hsalt] at h
  exact ⟨winner, hwinner, (Except.ok.inj h).symm⟩

theorem OnTarget.winnerConsistent (h : OnTarget env node) (hsha : IsSha1 env) :
    WinnerConsistent env node := by
  intro tenv getWitnesses epochs epochNumber epoch hcomplete
  obtain ⟨miningTarget, hfinalize, htarget⟩ := finalizeEpoch_of_completeEpoch hcomplete
  obtain ⟨winner, hselect, hdocument⟩ := finalizeEpoch_eq_ok hfinalize
  have hstored : ∀ document ∈ (node.store getWitnesses).getSubmissionsByEpochNumber epochNumber,
      ∃ d ∈ node.submissions, d.epochNumber = epochNumber ∧
        d.toEpochSubmissionDocument = document := by
    intro document hmem
    obtain ⟨d, hd, rfl⟩ := List.mem_map.mp hmem
    obtain ⟨hd, hepoch⟩ := List.mem_filter.mp hd
    exact ⟨d, hd, of_decide_eq_true hepoch, rfl⟩
  have hsubmissions : (if epochNumber = 0 then [] else
      (node.store getWitnesses).getSubmissionsByEpochNumber epochNumber) =
        (node.store getWitnesses).getSubmissionsByEpochNumber epochNumber := by
    split_ifs with hzero
    · -- nothing is accepted for epoch 0
      symm
      rw [List.eq_nil_iff_forall_not_mem]
      intro document hmem
      obtain ⟨d, hd, hepoch, -⟩ := hstored document hmem
      have hpos := (h.accepted d hd).epoch_pos
      omega
    · rfl
  rw [hsubmissions] at hselect
  have hdistinct : (((node.store getWitnesses).getSubmissionsByEpochNumber epochNumber).map
      (·.submissionTxHash)).Nodup := by
    show ((((node.submissions.filter _).map _)).map _).Nodup
    rw [List.map_map]
    exact h.distinct.sublist (List.filter_sublist.map _)
  have heligible : ∀ document ∈ eligibleSubmissions env (node.store getWitnesses) epochNumber,
      document ∈ (node.store getWitnesses).getSubmissionsByEpochNumber epochNumber := by
    intro document hmem
    obtain ⟨p, hp⟩ := filterEarlyMiningSubmissions_eq env.earlyMining
      (epochNumber * BLOCKS_PER_EPOCH + BLOCKS_PER_EPOCH - 1)
    unfold eligibleSubmissions at hmem
    rw [hp] at hmem
    exact (List.mem_filter.mp hmem).1
  have hcandidate : ∀ document ∈ eligibleSubmissions env (node.store getWitnesses) epochNumber,
      IsCandidate document = true := by
    intro document hmem
    obtain ⟨d, hd, -, rfl⟩ := hstored document (heligible document hmem)
    have haccepted := h.accepted d hd
    unfold IsCandidate
    rw [haccepted.solution, haccepted.submissionHash, haccepted.hash]
    exact decide_eq_true (hsha _)
  have hbest := getBestSubmission_isBestOf
    (env.hashBuffer (targetRoot epochNumber miningTarget)) env.earlyMining hdistinct
    (epochNumber * BLOCKS_PER_EPOCH + BLOCKS_PER_EPOCH - 1)
  unfold selectWinner at hselect
  obtain ⟨best, hgetBest, hselect⟩ := exceptBind_eq_ok hselect
  rw [hgetBest] at hbest
  cases best with
  | none =>
    right
    cases hselect
    refine ⟨?_, ?_⟩
    · rw [List.eq_nil_iff_forall_not_mem]
      intro document hmem
      exact hbest document hmem (hcandidate document hmem)
    · rw [hdocument]
      exact ⟨rfl, rfl⟩
  | some best =>
    left
    obtain ⟨document, hmem, -, hkey, hsalt, -, -, -⟩ := hbest
    obtain ⟨d, hd, hepoch, rfl⟩ := hstored document (heligible document hmem)
    have haccepted := h.accepted d hd
    have hpos : 0 < epochNumber := hepoch ▸ haccepted.epoch_pos
    have hwinner : best = winner := by
      dsimp only at hselect
      split_ifs at hselect with hnumber hzero
      · omega
      · exact Except.ok.inj hselect
    subst hwinner
    -- the header it mined is the one it was validated with
    obtain ⟨root, rfl, hroot⟩ := htarget hpos
    have hsame : targetRoot epochNumber (some root) = d.targetRoot := by
      unfold targetRoot
      rw [if_neg (by omega)]
      have htargetRoot := h.target d hd
      rw [hepoch, hroot] at htargetRoot
      exact Option.some.inj htargetRoot
    have hsolution : env.hashBuffer (calculatePreimage (targetRoot epochNumber (some root))
        best.mldsaPublicKey best.salt) = d.validated.hash := by
      rw [hsame, hkey, hsalt]
      exact haccepted.hash.symm
    have hbits : countMatchingBits d.validated.hash
        (env.hashBuffer (targetRoot epochNumber (some root))) = d.validated.matchingBits := by
      rw [hsame]
      exact haccepted.matchingBits.symm
    rw [hsolution, hbits] at hdocument
    refine ⟨d, hd, hepoch, hmem, ?_⟩
    rw [hdocument]
    exact ⟨hkey, hsalt, haccepted.submissionHash.symm, haccepted.submissionHash, hbits, rfl,
      haccepted.difficulty⟩

end Finalise

/-- **Run.** In a run whose writes land on the headers they were validated with, every epoch that is
finalised is recorded as its winner was accepted. -/
theorem winnerConsistent_of_runFrom (hsha : IsSha1 env) (events : List SubmissionEvent)
    (node : SubmissionNode)
    (hmeets : Meets (SubmissionNode.step env) LandsOnTarget SubmissionNode.init events)
    (hrun : runFrom (SubmissionNode.step env) SubmissionNode.init events = some node) :
    WinnerConsistent env node := by
  have hinv := invariant_runFrom (fun _ _ _ h hlands hstep => onTarget_step h hlands hstep) events
    SubmissionNode.init node onTarget_init hmeets hrun
  exact hinv.winnerConsistent hsha

/-! ### Two runs -/

/-- A node that has the epoch before the one it finalises. -/
def previousEpoch : FinalEpoch leafTrees.rust.Hash where
  toEpochDocument := createEpoch 0 0 [] [] (genesisWinner openEnvironment 0)
  epochHash := List.replicate 32 0
  epochRoot := (0 : Multiset Bytes)
  proofs := []

def sampleEpoch (node : SubmissionNode) : Except String (FinalEpoch leafTrees.rust.Hash) :=
  completeEpoch sampleEnvironment.toEpochEnvironment leafTrees (node.store fun _ => [])
    [previousEpoch] 1

/-- The header that epoch 1 mines is replaced before its submission is mined again. -/
def reorgedRun : List SubmissionEvent :=
  List.replicate 5 (.processBlock (sampleBlock 1 [])) ++
    [.processBlock (sampleBlock 1 [sampleTransaction 1 3]), .revertDataUntilBlock 4,
      .processBlock (sampleBlock 2 []), .processBlock (sampleBlock 2 [sampleTransaction 1 3])]

/-- The node then, with the submission. -/
theorem winnerConsistent_reorged :
    ∃ node, runFrom (SubmissionNode.step sampleEnvironment) SubmissionNode.init reorgedRun =
        some node ∧
      WinnerConsistent sampleEnvironment node ∧ node.submissions.length = 1 ∧
      (sampleEpoch node).isOk := by
  have hfacts : (runFrom (SubmissionNode.step sampleEnvironment) SubmissionNode.init
      reorgedRun).map (fun node => (node.submissions.length, (sampleEpoch node).isOk)) =
        some (1, true) := by
    decide +kernel
  have hsha : IsSha1 sampleEnvironment := by
    intro data
    show ((data ++ List.replicate 20 0).take 20).length = 20
    simp
  obtain ⟨node, hrun, hnode⟩ := Option.map_eq_some_iff.mp hfacts
  obtain ⟨hlength, hepoch⟩ := Prod.mk.inj hnode
  have hconsistent := winnerConsistent_of_runFrom hsha reorgedRun node
    (by simp [reorgedRun, List.replicate, Meets, LandsOnTarget]) hrun
  exact ⟨node, hrun, hconsistent, hlength, hepoch⟩

/-- The same, but the first time the submission is still being written when its block is reverted;
it lands before it is mined again. -/
def staleRun : List SubmissionEvent :=
  List.replicate 5 (.processBlock (sampleBlock 1 [])) ++
    [.interruptBlock (sampleBlock 1 [sampleTransaction 1 3]) fun _ => false,
      .revertDataUntilBlock 4, .processBlock (sampleBlock 2 []), .orphanLanded 0,
      .processBlock (sampleBlock 2 [sampleTransaction 1 3])]

/-- The submission that is stored then was validated with the header that was replaced. -/
theorem not_winnerConsistent_stale :
    ∃ node, runFrom (SubmissionNode.step sampleEnvironment) SubmissionNode.init staleRun =
        some node ∧ ¬ WinnerConsistent sampleEnvironment node := by
  have hfacts : (runFrom (SubmissionNode.step sampleEnvironment) SubmissionNode.init
      staleRun).map (fun node => (node.submissions.map (·.submissionHash),
        (eligibleSubmissions sampleEnvironment (node.store fun _ => []) 1).length,
        (sampleEpoch node).toOption.map (·.proposer.solution))) =
      some ([List.replicate 20 1], 1, some (List.replicate 20 2)) := by
    decide +kernel
  obtain ⟨node, hrun, hnode⟩ := Option.map_eq_some_iff.mp hfacts
  obtain ⟨hhashes, hrest⟩ := Prod.mk.inj hnode
  obtain ⟨heligible, hsolution⟩ := Prod.mk.inj hrest
  refine ⟨node, hrun, fun hconsistent => ?_⟩
  cases hepoch : sampleEpoch node with
  | error e =>
    rw [hepoch] at hsolution
    cases hsolution
  | ok epoch =>
    rw [hepoch] at hsolution
    rcases hconsistent leafTrees (fun _ => []) [previousEpoch] 1 epoch hepoch with
      ⟨d, hd, -, -, hwon⟩ | ⟨hnone, -⟩
    · have hmem : d.submissionHash ∈ node.submissions.map (·.submissionHash) :=
        List.mem_map_of_mem hd
      rw [hhashes, List.mem_singleton, ← hwon.solution] at hmem
      have hother : epoch.proposer.solution = List.replicate 20 2 := Option.some.inj hsolution
      rw [hmem] at hother
      exact absurd hother (by decide)
    · rw [hnone] at heligible
      cases heligible

end OpnetNode.BlockSubmissions
