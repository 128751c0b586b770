import Mathlib.Data.List.Induction
import OpnetNode.Epoch.EpochManager

/-!
# A reverted node is a replayed node

A node's history processes blocks, is cut short and is reverted.  `replay raws` is the node that
processes `raws` once, from nothing.  The question is whether the challenge solutions a node sees
depend on its history beyond the blocks it holds.

* `updateEpoch_cases`: what `updateEpoch` can do.
* `replay_take`: a revert that removes every epoch it removes the finalising block of takes a replay
  to the replay of the remaining blocks.
* `challengeSolutions_eq_replay`: along every history whose reverts are such, the epochs and the
  solutions returned for the next block are the ones of the replay.
* `challengeSolutions_restart_ne`: the restart purge at block 5 is not such a revert, and the
  solutions returned for block 5 differ.

The revert deletes the epochs that *start* at `blockId` or later, while epoch `e` is saved by block
`e * BLOCKS_PER_EPOCH + BLOCKS_PER_EPOCH`: an epoch that starts below `blockId` and was finalised at
or above it survives, and block `e * BLOCKS_PER_EPOCH + BLOCKS_PER_EPOCH` sees it when it is
processed again.
-/

namespace OpnetNode

open EpochManager EpochRepository

/-! ### What `updateEpoch` does -/

/-- The blocks an epoch document names are the ones of its number. -/
structure OfNumber (epoch : EpochDocument) (epochNumber : ℕ) : Prop where
  epochNumber_eq : epoch.epochNumber = epochNumber
  startBlock_eq : epoch.startBlock = epochNumber * BLOCKS_PER_EPOCH
  endBlock_eq : epoch.endBlock + 1 = epochNumber * BLOCKS_PER_EPOCH + BLOCKS_PER_EPOCH

section Manager

variable {Raw : Type} {env : EpochEnvironment} {blocks : List (StoredBlock Raw)}
  {epochs epochs' : Collection EpochDocument}

theorem ofNumber_finalizeEpoch {endBlock epochNumber : ℕ}
    {submissions : List EpochSubmissionDocument} {miningTargetChecksum : Option Bytes}
    {epoch : EpochDocument}
    (h : finalizeEpoch env (epochNumber * BLOCKS_PER_EPOCH) endBlock epochNumber submissions
      miningTargetChecksum = .ok epoch) : OfNumber epoch epochNumber := by
  unfold finalizeEpoch at h
  obtain ⟨winner, -, h⟩ := exceptBind_eq_ok h
  dsimp only at h
  split at h
  · cases h
  · cases h
    refine ⟨?_, rfl, ?_⟩
    · exact Nat.mul_div_cancel epochNumber (by decide)
    · show epochNumber * BLOCKS_PER_EPOCH + BLOCKS_PER_EPOCH - 1 + 1 = _
      unfold BLOCKS_PER_EPOCH
      omega

/-- `updateEpoch` does nothing, or saves the document of the epoch that the block at
`currentHeight` follows. -/
theorem updateEpoch_cases {currentHeight : ℕ}
    (h : updateEpoch env blocks epochs currentHeight = .ok epochs') :
    epochs' = epochs ∨
      ∃ epoch epochNumber, OfNumber epoch epochNumber ∧
        epochNumber * BLOCKS_PER_EPOCH + BLOCKS_PER_EPOCH = currentHeight ∧
        epochs' = saveEpoch epoch epochs := by
  unfold updateEpoch at h
  split at h
  · -- whatever else is gathered, the blocks of the document come from its number
    rename_i hheight
    right
    unfold finalizeEpochCompletion at h
    obtain ⟨-, -, h⟩ := exceptBind_eq_ok h
    obtain ⟨-, -, h⟩ := exceptBind_eq_ok h
    obtain ⟨-, -, h⟩ := exceptBind_eq_ok h
    obtain ⟨miningTarget, -, h⟩ := exceptBind_eq_ok h
    obtain ⟨epoch, hepoch, h⟩ := exceptBind_eq_ok h
    refine ⟨epoch, currentHeight / BLOCKS_PER_EPOCH - 1, ofNumber_finalizeEpoch hepoch, ?_,
      (Except.ok.inj h).symm⟩
    unfold BLOCKS_PER_EPOCH at hheight ⊢
    omega
  · exact Or.inl (Except.ok.inj h).symm

end Manager

/-! ### Replays -/

section Replay

variable {Raw : Type} (env : EpochEnvironment)
  (execute : List (StoredBlock Raw) → ChallengeSolution → Raw → Bytes × List AcceptedSubmission)

/-- The node that processes `raws` once, from nothing. -/
def replay (raws : List Raw) : Option (EpochNode Raw) :=
  runFrom (nodeStep env execute) (EpochNode.init Raw) (raws.map .processBlock)

/-- The blocks a node holds, as it received them. -/
def EpochNode.chain (node : EpochNode Raw) : List Raw := node.blocks.map StoredBlock.raw

/-- What a replay keeps: it is not cut short, holds the blocks it was given, and has an epoch only
if it has the block that finalises it. -/
structure Replayed (raws : List Raw) (node : EpochNode Raw) : Prop where
  interrupted_eq : node.interrupted = false
  chain_eq : node.chain = raws
  finalised : ∀ epoch ∈ node.epochs,
    ∃ epochNumber, OfNumber epoch epochNumber ∧ epoch.endBlock + 1 < node.blocks.length

variable {env execute}

variable {node node' : EpochNode Raw} {raw : Raw}

theorem processBlock_cases (h : processBlock env execute node raw = .ok node') :
    node'.interrupted = false ∧
      (∃ block, block.raw = raw ∧ node'.blocks = node.blocks ++ [block]) ∧
      (node'.epochs = node.epochs ∨
        ∃ epoch epochNumber, OfNumber epoch epochNumber ∧
          epochNumber * BLOCKS_PER_EPOCH + BLOCKS_PER_EPOCH = node.blocks.length ∧
          node'.epochs = saveEpoch epoch node.epochs) := by
  unfold processBlock at h
  obtain ⟨epochs, hepochs, h⟩ := exceptBind_eq_ok h
  cases h
  exact ⟨rfl, ⟨_, rfl, rfl⟩, updateEpoch_cases hepochs⟩

theorem nodeStep_processBlock (h : nodeStep env execute node (.processBlock raw) = some node') :
    node.interrupted = false ∧ processBlock env execute node raw = .ok node' := by
  rw [nodeStep] at h
  split at h
  · cases h
  · rename_i hint
    refine ⟨by simpa using hint, ?_⟩
    cases hp : processBlock env execute node raw with
    | error e => rw [hp] at h; cases h
    | ok n => rw [hp] at h; rw [Option.some.inj h]

variable {raws : List Raw}

theorem replay_concat (h : replay env execute (raws ++ [raw]) = some node') :
    ∃ node, replay env execute raws = some node ∧
      nodeStep env execute node (.processBlock raw) = some node' := by
  unfold replay at h ⊢
  rw [List.map_append, runFrom_append, Option.bind_eq_some_iff] at h
  obtain ⟨node, hnode, h⟩ := h
  refine ⟨node, hnode, ?_⟩
  rw [List.map_singleton, runFrom_cons, Option.bind_eq_some_iff] at h
  obtain ⟨node₁, hstep, h⟩ := h
  rw [hstep, ← h]
  rfl

theorem saveEpoch_of_replayed {epoch : EpochDocument}
    {epochNumber : ℕ} (hnode : Replayed raws node) (hepoch : OfNumber epoch epochNumber)
    (hheight : epochNumber * BLOCKS_PER_EPOCH + BLOCKS_PER_EPOCH = node.blocks.length) :
    saveEpoch epoch node.epochs = node.epochs ++ [epoch] := by
  unfold saveEpoch
  apply Collection.upsertOne_of_forall_not
  intro e he
  -- the same number would mean the same finalising block
  obtain ⟨m, hm, hlt⟩ := hnode.finalised e he
  rw [decide_eq_false_iff_not, hm.epochNumber_eq, hepoch.epochNumber_eq]
  rintro rfl
  have hend := hm.endBlock_eq
  omega

theorem replayed_replay (h : replay env execute raws = some node) : Replayed raws node := by
  induction raws using List.reverseRecOn generalizing node with
  | nil =>
    cases h
    exact ⟨rfl, rfl, fun epoch hepoch => by cases hepoch⟩
  | append_singleton raws raw ih =>
    obtain ⟨node₀, h₀, hstep⟩ := replay_concat h
    have hnode₀ := ih h₀
    obtain ⟨hint, ⟨block, rfl, hblocks⟩, hepochs⟩ :=
      processBlock_cases (nodeStep_processBlock hstep).2
    refine ⟨hint, ?_, ?_⟩
    · rw [EpochNode.chain, hblocks, List.map_append, ← EpochNode.chain, hnode₀.chain_eq]
      rfl
    · have hlen : node.blocks.length = node₀.blocks.length + 1 := by rw [hblocks]; simp
      have hold : ∀ epoch ∈ node₀.epochs,
          ∃ m, OfNumber epoch m ∧ epoch.endBlock + 1 < node.blocks.length := by
        intro epoch hepoch
        obtain ⟨m, hm, hlt⟩ := hnode₀.finalised epoch hepoch
        exact ⟨m, hm, by omega⟩
      rcases hepochs with heq | ⟨epoch, epochNumber, hepoch, hheight, heq⟩
      · rw [heq]
        exact hold
      · rw [heq, saveEpoch_of_replayed hnode₀ hepoch hheight]
        intro e he
        rcases List.mem_append.mp he with he | he
        · exact hold e he
        · obtain rfl := List.mem_singleton.mp he
          exact ⟨epochNumber, hepoch, by have hend := hepoch.endBlock_eq; omega⟩

/-! ### Reverts -/

/-- Every epoch the revert to `blockId` keeps was finalised by a block it keeps. -/
def RevertsWholeEpochs (epochs : Collection EpochDocument) (blockId : ℕ) : Prop :=
  ∀ epoch ∈ epochs, epoch.startBlock < blockId → epoch.endBlock + 1 < blockId

instance decidableRevertsWholeEpochs (epochs : Collection EpochDocument) (blockId : ℕ) :
    Decidable (RevertsWholeEpochs epochs blockId) :=
  inferInstanceAs (Decidable (∀ epoch ∈ epochs, _))

theorem revertEpochData_length
    (hnode : Replayed raws node) : revertEpochData node node.blocks.length = node := by
  obtain ⟨blocks, epochs, interrupted⟩ := node
  obtain rfl : interrupted = false := hnode.interrupted_eq
  unfold revertEpochData
  dsimp only
  congr 1
  · exact List.take_length
  · apply List.filter_eq_self.mpr
    intro epoch hepoch
    obtain ⟨m, hm, hlt⟩ := hnode.finalised epoch hepoch
    have hstart := hm.startBlock_eq
    have hend := hm.endBlock_eq
    have hlt' : epoch.startBlock < blocks.length := by
      dsimp only at hlt
      omega
    rw [HeightRange.selects_atLeast]
    simpa using hlt'

variable {blockId : ℕ}

/-- A revert below the last block takes that block and what it finalised, so it is a revert of the
node before the block. -/
theorem revertEpochData_processBlock (hnode : Replayed raws node)
    (hprocess : processBlock env execute node raw = .ok node')
    (hle : blockId ≤ node.blocks.length) (hrev : RevertsWholeEpochs node'.epochs blockId) :
    revertEpochData node' blockId = revertEpochData node blockId
      ∧ RevertsWholeEpochs node.epochs blockId := by
  obtain ⟨-, ⟨block, -, hblocks⟩, hepochs⟩ := processBlock_cases hprocess
  have htake : node'.blocks.take blockId = node.blocks.take blockId := by
    rw [hblocks, List.take_append_of_le_length hle]
  rcases hepochs with heq | ⟨epoch, epochNumber, hepoch, hheight, heq⟩
  · rw [heq] at hrev
    refine ⟨?_, hrev⟩
    unfold revertEpochData
    rw [htake, heq]
  · rw [saveEpoch_of_replayed hnode hepoch hheight] at heq
    -- the block is at or above `blockId`, so the epoch it finalised starts there
    have hstart : blockId ≤ epoch.startBlock := by
      by_contra hcon
      have hmem : epoch ∈ node'.epochs := by
        rw [heq]
        exact List.mem_append_right _ (List.mem_singleton_self epoch)
      have hfin := hrev epoch hmem (by omega)
      have hend := hepoch.endBlock_eq
      omega
    constructor
    · unfold revertEpochData
      rw [htake, heq]
      unfold deleteEpochFromBitcoinBlockNumber Collection.deleteMany
      rw [List.filter_append]
      simp [HeightRange.selects_atLeast, hstart]
    · intro e he
      apply hrev e
      rw [heq]
      exact List.mem_append_left _ he

/-- A replay reverted to `blockId` is the replay of the blocks below `blockId`, if the revert
removes every epoch it removes the finalising block of. -/
theorem replay_take (h : replay env execute raws = some node) (hle : blockId ≤ raws.length)
    (hrev : RevertsWholeEpochs node.epochs blockId) :
    replay env execute (raws.take blockId) = some (revertEpochData node blockId) := by
  have hlength : ∀ {raws : List Raw} {node : EpochNode Raw}, Replayed raws node →
      node.blocks.length = raws.length := by
    intro raws node hnode
    rw [← hnode.chain_eq, EpochNode.chain, List.length_map]
  -- from the last block down, until `blockId` is the next height
  induction raws using List.reverseRecOn generalizing node with
  | nil =>
    have hnode := replayed_replay h
    obtain rfl : blockId = node.blocks.length := by
      rw [hlength hnode]
      exact Nat.le_zero.mp hle
    rw [revertEpochData_length hnode, List.take_nil, h]
  | append_singleton raws raw ih =>
    have hnode := replayed_replay h
    rcases Nat.eq_or_lt_of_le hle with heq | hlt
    · rw [heq, List.take_length, h, ← hlength hnode, revertEpochData_length hnode]
    · rw [List.length_append, List.length_singleton] at hlt
      obtain ⟨node₀, h₀, hstep⟩ := replay_concat h
      have hnode₀ := replayed_replay h₀
      have hle₀ : blockId ≤ raws.length := by omega
      obtain ⟨hcut, hrev₀⟩ := revertEpochData_processBlock hnode₀ (nodeStep_processBlock hstep).2
        (by rw [hlength hnode₀]; exact hle₀) hrev
      rw [hcut, List.take_append_of_le_length hle₀]
      exact ih h₀ hle₀ hrev₀

/-! ### Histories -/

/-- The side condition on a history's events: its reverts revert whole epochs. -/
def revertOk (node : EpochNode Raw) : NodeEvent Raw → Prop
  | .revertDataUntilBlock blockId => RevertsWholeEpochs node.epochs blockId
  | .processBlock _ => True
  | .interruptBlock _ => True

instance decidableRevertOk (node : EpochNode Raw) : ∀ event, Decidable (revertOk node event)
  | .revertDataUntilBlock blockId => decidableRevertsWholeEpochs node.epochs blockId
  | .processBlock _ => isTrue trivial
  | .interruptBlock _ => isTrue trivial

variable (env execute) in
/-- A node is the replay of its blocks, or such a replay with the leavings of one block that was cut
short. -/
def IsReplay (node : EpochNode Raw) : Prop :=
  replay env execute node.chain = some node ∨
    ∃ node₀ left, replay env execute node₀.chain = some node₀ ∧
      node = { node₀ with blocks := node₀.blocks ++ [left], interrupted := true }

theorem isReplay_revert (h : IsReplay env execute node)
    (hle : blockId ≤ node.completed) (hrev : RevertsWholeEpochs node.epochs blockId) :
    IsReplay env execute (revertEpochData node blockId) := by
  -- whatever a block that was cut short left is above `blockId`
  obtain ⟨node₀, h₀, hle₀, hrev₀, heq⟩ : ∃ node₀ : EpochNode Raw,
      replay env execute node₀.chain = some node₀ ∧ blockId ≤ node₀.chain.length ∧
      RevertsWholeEpochs node₀.epochs blockId ∧
      revertEpochData node blockId = revertEpochData node₀ blockId := by
    rcases h with h | ⟨node₀, left, h₀, rfl⟩
    · refine ⟨node, h, ?_, hrev, rfl⟩
      have hint := (replayed_replay h).interrupted_eq
      simpa [EpochNode.completed, hint, EpochNode.chain] using hle
    · have hle' : blockId ≤ node₀.blocks.length := by
        simpa [EpochNode.completed] using hle
      refine ⟨node₀, h₀, by simpa [EpochNode.chain] using hle', hrev, ?_⟩
      unfold revertEpochData
      rw [List.take_append_of_le_length hle']
  left
  have hchain : (revertEpochData node₀ blockId).chain = node₀.chain.take blockId := by
    unfold EpochNode.chain revertEpochData
    rw [List.map_take]
  rw [heq, hchain]
  exact replay_take h₀ hle₀ hrev₀

theorem isReplay_step {event : NodeEvent Raw}
    (h : IsReplay env execute node) (hok : revertOk node event)
    (hstep : nodeStep env execute node event = some node') : IsReplay env execute node' := by
  cases event with
  | processBlock raw =>
    -- only a node that was not cut short goes on
    obtain ⟨hint, hprocess⟩ := nodeStep_processBlock hstep
    rcases h with h | ⟨node₀, left, -, rfl⟩
    · left
      obtain ⟨-, ⟨block, hraw, hblocks⟩, -⟩ := processBlock_cases hprocess
      have hchain : node'.chain = node.chain ++ [raw] := by
        rw [EpochNode.chain, hblocks, List.map_append, ← EpochNode.chain, ← hraw]
        rfl
      rw [hchain]
      unfold replay at h ⊢
      rw [List.map_append, runFrom_append, h]
      show runFrom _ node [_] = _
      rw [runFrom_cons, hstep]
      rfl
    · cases hint
  | interruptBlock left =>
    rw [nodeStep] at hstep
    split at hstep
    · cases hstep
    · rename_i hint
      rcases h with h | ⟨node₀, left', -, rfl⟩
      · exact Or.inr ⟨node, left, h, (Option.some.inj hstep).symm⟩
      · exact absurd rfl hint
  | revertDataUntilBlock blockId =>
    rw [nodeStep] at hstep
    split at hstep
    · rename_i hle
      cases hstep
      exact isReplay_revert h hle hok
    · cases hstep

/-- **Replay determinism.** Along every history whose reverts revert whole epochs, the epochs and
the challenge solutions returned when the next block is processed are the ones a node sees that
processes the blocks below for the first time: they depend on these blocks only. -/
theorem challengeSolutions_eq_replay (env : EpochEnvironment)
    (execute : List (StoredBlock Raw) → ChallengeSolution → Raw → Bytes × List AcceptedSubmission)
    (history : List (NodeEvent Raw)) (node : EpochNode Raw)
    (hmeets : Meets (nodeStep env execute) revertOk (EpochNode.init Raw) history)
    (hrun : runFrom (nodeStep env execute) (EpochNode.init Raw) history = some node)
    (hready : node.interrupted = false) :
    ∃ first, replay env execute node.chain = some first ∧
      first.blocks.length = node.blocks.length ∧
      getChallengeEpochsAtHeight node.epochs node.blocks.length
        = getChallengeEpochsAtHeight first.epochs first.blocks.length ∧
      getChallengeSolutionsAtHeight node.epochs node.blocks.length
        = getChallengeSolutionsAtHeight first.epochs first.blocks.length := by
  have hinit : IsReplay env execute (EpochNode.init Raw) := Or.inl rfl
  have hnode : IsReplay env execute node :=
    invariant_runFrom (fun _ _ _ hs hok hstep => isReplay_step hs hok hstep) history
      (EpochNode.init Raw) node hinit hmeets hrun
  rcases hnode with h | ⟨node₀, left, -, rfl⟩
  · exact ⟨node, h, rfl, rfl, rfl⟩
  · cases hready

end Replay

/-! ### A restart at the first block of an epoch -/

/-- SHA-1 on the two strings epoch 0 hashes when the genesis proposer's key is all zeros. -/
def sha1OfEpochZero (data : Bytes) : Bytes :=
  if data = List.replicate 32 0 then
    [222, 138, 132, 123, 255, 140, 52, 61, 105, 184, 83, 162, 21, 230, 238, 119, 94, 242, 239, 150]
  else
    [158, 81, 117, 0, 135, 81, 208, 143, 54, 20, 136, 201, 146, 112, 134, 178, 118, 185, 101, 250]

def zeroEnvironment : EpochEnvironment where
  hashBuffer := sha1OfEpochZero
  GENESIS_PROPOSER_PUBLIC_KEY := ⟨List.replicate 32 0, List.replicate 33 2⟩
  earlyMining := none

/-- Blocks without submissions, all with the same checksum root. -/
def executeEmpty (_ : List (StoredBlock ℕ)) (_ : ChallengeSolution) (_ : ℕ) :
    Bytes × List AcceptedSubmission :=
  (List.replicate 32 0, [])

/-- The blocks a history ends with and the solutions returned for the next one. -/
def solutionsAfter (history : List (NodeEvent ℕ)) : Option (List ℕ × ChallengeSolution) :=
  (runFrom (nodeStep zeroEnvironment executeEmpty) (EpochNode.init ℕ) history).map fun node =>
    (node.chain, getChallengeSolutionsAtHeight node.epochs node.blocks.length)

/-- Blocks 0 to 6, then a restart at block 6: epoch 0, finalised by block 5, stays with its block. -/
def restartAtSix : List (NodeEvent ℕ) :=
  (List.range 7).map .processBlock ++ [.revertDataUntilBlock 6]

theorem challengeSolutions_restartAtSix :
    ∃ node first, runFrom (nodeStep zeroEnvironment executeEmpty) (EpochNode.init ℕ) restartAtSix
        = some node ∧ node.blocks.length = 6 ∧
      replay zeroEnvironment executeEmpty node.chain = some first ∧
      getChallengeSolutionsAtHeight node.epochs node.blocks.length
        = getChallengeSolutionsAtHeight first.epochs first.blocks.length := by
  have hmeets : Meets (nodeStep zeroEnvironment executeEmpty) revertOk (EpochNode.init ℕ)
      restartAtSix := by decide
  have hstate : (runFrom (nodeStep zeroEnvironment executeEmpty) (EpochNode.init ℕ)
      restartAtSix).map (fun node => (node.interrupted, node.blocks.length)) = some (false, 6) := by
    decide
  obtain ⟨node, hrun, hfields⟩ := Option.map_eq_some_iff.mp hstate
  obtain ⟨hready, hlen⟩ := Prod.mk.inj hfields
  obtain ⟨first, hfirst, -, -, hsolutions⟩ :=
    challengeSolutions_eq_replay zeroEnvironment executeEmpty restartAtSix node hmeets hrun hready
  exact ⟨node, first, hrun, hlen, hfirst, hsolutions⟩

/-- After the restart purge at block 5, epoch 0 is still there and block 5 sees its solution, which
it did not the first time. -/
theorem challengeSolutions_restart_ne :
    (solutionsAfter ((List.range 5).map .processBlock)).map Prod.fst
        = (solutionsAfter ((List.range 6).map .processBlock ++ [.revertDataUntilBlock 5])).map
            Prod.fst ∧
      solutionsAfter ((List.range 5).map .processBlock)
        ≠ solutionsAfter ((List.range 6).map .processBlock ++ [.revertDataUntilBlock 5]) := by
  decide

end OpnetNode
