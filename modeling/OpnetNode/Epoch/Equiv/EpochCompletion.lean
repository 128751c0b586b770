import OpnetNode.Epoch.EpochCompletion
import OpnetNode.Epoch.Equiv.EpochAgreement
import OpnetNode.Epoch.Equiv.Replay

/-!
# Every epoch that the height has passed is stored

`finalizeEpoch` waits for its three writes with `Promise.allSettled`, so a rejected `saveEpoch` stops
neither `updateEpoch` nor the height.  In a run in which no `saveEpoch` is rejected and no revert
meets a task in `onCompletedTask` (`CompletionNode.Orderly`), every epoch that the height has passed
is stored (`notLost_of_runFrom`), whatever else fails.
-/

namespace OpnetNode.CompletionNode

open EpochManager EpochRepository

variable {env : EpochEnvironment} {tenv : EpochTreeEnvironment}

section Property

variable {Hash : Type}

def IsStored (epochs : Collection (FinalEpoch Hash)) (epochNumber : ℕ) : Prop :=
  ∃ epoch ∈ epochs, epoch.epochNumber = epochNumber

/-- Every epoch whose closing block the height has passed is stored, and no rejected `saveEpoch` was
kept from the caller. -/
def NotLost (node : CompletionNode Hash) : Prop :=
  (∀ epochNumber, epochNumber * BLOCKS_PER_EPOCH + BLOCKS_PER_EPOCH < node.height →
    IsStored node.epochs epochNumber) ∧ node.unreported = []

/-- No `saveEpoch` is rejected, and no revert meets a task in `onCompletedTask`. -/
def Orderly (node : CompletionNode Hash) : CompletionEvent → Prop
  | .settleWrites _ outcomes => outcomes.saveEpoch = .fulfilled
  | .revertDataUntilBlock _ => node.tasks = []
  | _ => True

end Property

/-! ### The epochs -/

theorem completeEpoch_ofNumber {store : EpochStore} {epochs : Collection (FinalEpoch tenv.rust.Hash)}
    {epochNumber : ℕ} {epoch : FinalEpoch tenv.rust.Hash}
    (h : completeEpoch env tenv store epochs epochNumber = .ok epoch) :
    epoch.epochNumber = epochNumber ∧ epoch.startBlock = epochNumber * BLOCKS_PER_EPOCH := by
  unfold completeEpoch at h
  obtain ⟨lastEpoch, -, h⟩ := exceptBind_eq_ok h
  obtain ⟨attestation, -, h⟩ := exceptBind_eq_ok h
  obtain ⟨roots, -, h⟩ := exceptBind_eq_ok h
  obtain ⟨miningTarget, -, h⟩ := exceptBind_eq_ok h
  have hnumber := ofNumber_finalizeEpoch (finalizeEpochTree_eq env tenv h).1
  exact ⟨hnumber.epochNumber_eq, hnumber.startBlock_eq⟩

section Stored

variable {Hash : Type} {epochs : Collection (FinalEpoch Hash)} {epoch : FinalEpoch Hash}

theorem isStored_saveFinalEpoch (epochNumber : ℕ) :
    IsStored (saveFinalEpoch epoch epochs) epochNumber ↔
      epoch.epochNumber = epochNumber ∨ IsStored epochs epochNumber := by
  have hany : (saveFinalEpoch epoch epochs).any (fun e => decide (e.epochNumber = epochNumber)) =
      (decide (epoch.epochNumber = epochNumber) ||
        epochs.any fun e => decide (e.epochNumber = epochNumber)) := by
    unfold saveFinalEpoch
    apply Collection.any_upsertOne
    · exact fun _ => rfl
    · rfl
    · intro d hd
      rw [of_decide_eq_true hd]
  have hiff := Bool.eq_iff_iff.mp hany
  rw [Bool.or_eq_true, List.any_eq_true, List.any_eq_true] at hiff
  simpa [IsStored] using hiff

theorem startBlock_saveFinalEpoch (hepoch : epoch.startBlock = epoch.epochNumber * BLOCKS_PER_EPOCH)
    (h : ∀ e ∈ epochs, e.startBlock = e.epochNumber * BLOCKS_PER_EPOCH) :
    ∀ e ∈ saveFinalEpoch epoch epochs, e.startBlock = e.epochNumber * BLOCKS_PER_EPOCH :=
  Collection.forall_mem_upsertOne h (fun _ _ _ => hepoch) hepoch

end Stored

/-! ### The invariant -/

section Invariant

variable {Hash : Type}

/-- What a task in `onCompletedTask` has done for the epoch that its block closes. -/
structure TaskReady (node : CompletionNode Hash) (phase : CompletionPhase Hash) : Prop where
  saving : ∀ epoch, phase = .saving epoch →
    epoch.epochNumber = node.height / BLOCKS_PER_EPOCH - 1 ∧
      epoch.startBlock = epoch.epochNumber * BLOCKS_PER_EPOCH
  updated : phase = .updated → closesEpoch node.height = true →
    IsStored node.epochs (node.height / BLOCKS_PER_EPOCH - 1)

/-- The epochs passed are stored; one task at most is in `onCompletedTask`, that of the block at the
height. -/
structure Finalised (node : CompletionNode Hash) : Prop where
  stored : ∀ epochNumber, epochNumber * BLOCKS_PER_EPOCH + BLOCKS_PER_EPOCH < node.height →
    IsStored node.epochs epochNumber
  startBlock : ∀ epoch ∈ node.epochs, epoch.startBlock = epoch.epochNumber * BLOCKS_PER_EPOCH
  tasks : node.tasks = [] ∨ ∃ phase, node.tasks = [⟨node.height, phase⟩] ∧
    node.checksumRoots.length = node.height + 1 ∧ TaskReady node phase
  unreported : node.unreported = []

variable {node : CompletionNode Hash}

variable {i tip : ℕ} {phase : CompletionPhase Hash}

theorem Finalised.task (h : Finalised node)
    (htask : node.tasks[i]? = some ⟨tip, phase⟩) : i = 0 ∧ tip = node.height ∧
      node.tasks = [⟨node.height, phase⟩] ∧ node.checksumRoots.length = node.height + 1 ∧
      TaskReady node phase := by
  rcases h.tasks with hnone | ⟨phase', hone, hlength, hready⟩
  · rw [hnone] at htask
    cases htask
  · rw [hone] at htask
    obtain ⟨hi, htask⟩ := List.getElem?_eq_some_iff.mp htask
    have hzero : i = 0 := by simpa using hi
    subst hzero
    have heq : (⟨node.height, phase'⟩ : CompletingTask Hash) = ⟨tip, phase⟩ := htask
    obtain ⟨rfl, rfl⟩ := CompletingTask.mk.inj heq
    exact ⟨rfl, rfl, hone, hlength, hready⟩

theorem Finalised.endTask (h : Finalised node)
    (htask : node.tasks[i]? = some ⟨tip, phase⟩) : Finalised (node.endTask i) := by
  obtain ⟨rfl, -, hone, -, -⟩ := h.task htask
  refine ⟨h.stored, h.startBlock, Or.inl ?_, h.unreported⟩
  show node.tasks.eraseIdx 0 = []
  rw [hone]
  rfl

theorem Finalised.withTask (h : Finalised node) {phase' : CompletionPhase Hash}
    (htask : node.tasks[i]? = some ⟨tip, phase⟩) (hready : TaskReady node phase') :
    Finalised (node.withTask i ⟨tip, phase'⟩) := by
  obtain ⟨rfl, rfl, hone, hlength, -⟩ := h.task htask
  refine ⟨h.stored, h.startBlock, Or.inr ⟨phase', ?_, hlength, hready.1, hready.2⟩, h.unreported⟩
  show node.tasks.set 0 _ = _
  rw [hone]
  rfl

end Invariant

theorem finalised_init : Finalised (init tenv) where
  stored _ h := absurd h (Nat.not_lt_zero _)
  startBlock _ h := absurd h List.not_mem_nil
  tasks := Or.inl rfl
  unreported := rfl

variable {node node' : CompletionNode tenv.rust.Hash}

variable {i tip : ℕ}

theorem Finalised.readEpoch (h : Finalised node) (reads : Option FinalizeReads)
    (htask : node.tasks[i]? = some ⟨tip, .updating⟩) :
    Finalised (readEpoch env tenv node i ⟨tip, .updating⟩ reads) := by
  obtain ⟨-, rfl, -, -, -⟩ := h.task htask
  unfold CompletionNode.readEpoch
  by_cases hcloses : closesEpoch node.height = true
  · rw [if_pos hcloses]
    cases reads with
    | none => exact h.endTask htask
    | some reads =>
      dsimp only
      split
      · exact h.endTask htask
      · rename_i epoch hcomplete
        obtain ⟨hnumber, hstart⟩ := completeEpoch_ofNumber hcomplete
        apply h.withTask htask
        constructor
        · intro epoch' heq
          obtain rfl := CompletionPhase.saving.inj heq
          exact ⟨hnumber, by rw [hstart, hnumber]⟩
        · intro heq
          cases heq
  · rw [if_neg hcloses]
    apply h.withTask htask
    constructor
    · intro epoch heq
      cases heq
    · exact fun _ hcloses' => absurd hcloses' hcloses

theorem Finalised.settleWrites (h : Finalised node)
    {epoch : FinalEpoch tenv.rust.Hash} {outcomes : FinalizeOutcomes}
    (htask : node.tasks[i]? = some ⟨tip, .saving epoch⟩)
    (hfulfilled : outcomes.saveEpoch = .fulfilled) :
    Finalised (node.settleWrites i tip epoch outcomes) := by
  obtain ⟨rfl, rfl, hone, hlength, hready⟩ := h.task htask
  obtain ⟨hnumber, hstart⟩ := hready.saving epoch rfl
  have hepochs : (node.settleWrites 0 node.height epoch outcomes).epochs =
      saveFinalEpoch epoch node.epochs := by
    unfold CompletionNode.settleWrites
    rw [hfulfilled]
    rfl
  refine ⟨fun epochNumber hlt => ?_, ?_, Or.inr ⟨.updated, ?_, hlength, ?_, ?_⟩, ?_⟩
  · rw [hepochs, isStored_saveFinalEpoch]
    exact Or.inr (h.stored epochNumber hlt)
  · rw [hepochs]
    exact startBlock_saveFinalEpoch hstart h.startBlock
  · show node.tasks.set 0 _ = _
    rw [hone]
    rfl
  · intro epoch' heq
    cases heq
  · intro _ _
    rw [hepochs, isStored_saveFinalEpoch]
    exact Or.inl hnumber
  · unfold CompletionNode.settleWrites
    rw [if_pos hfulfilled]
    exact h.unreported

theorem Finalised.setNewHeight (h : Finalised node)
    (htask : node.tasks[i]? = some ⟨tip, .updated⟩) :
    Finalised { node.endTask i with height := tip + 1 } := by
  have hended := h.endTask htask
  obtain ⟨-, rfl, -, -, hready⟩ := h.task htask
  refine ⟨fun epochNumber hlt => ?_, h.startBlock, ?_, h.unreported⟩
  · rcases Nat.lt_succ_iff_lt_or_eq.mp hlt with hbelow | hat
    · exact h.stored epochNumber hbelow
    · have hcloses : closesEpoch node.height = true := by
        unfold closesEpoch
        rw [← hat]
        simp [BLOCKS_PER_EPOCH]
      have hstored := hready.updated rfl hcloses
      have hnumber : node.height / BLOCKS_PER_EPOCH - 1 = epochNumber := by
        unfold BLOCKS_PER_EPOCH at hat ⊢
        omega
      exact hnumber ▸ hstored
  · rcases hended.tasks with hnone | ⟨phase, hone, -, -⟩
    · exact Or.inl hnone
    · obtain ⟨rfl, -, hbefore, -, -⟩ := h.task htask
      have hnil : node.tasks.eraseIdx 0 = [] := by
        rw [hbefore]
        rfl
      exact Or.inl hnil

/-- A revert keeps the epochs that start below it, and so those it leaves the closing block of. -/
theorem Finalised.revert (h : Finalised node) (hidle : node.tasks = []) {blockId : ℕ}
    (hle : blockId ≤ node.height) :
    Finalised
      { node with
        checksumRoots := node.checksumRoots.take blockId
        epochs := deleteFinalEpochs blockId node.epochs
        height := blockId } := by
  refine ⟨fun epochNumber hlt => ?_, fun epoch hepoch => ?_, Or.inl hidle, h.unreported⟩
  · replace hlt : epochNumber * BLOCKS_PER_EPOCH + BLOCKS_PER_EPOCH < blockId := hlt
    obtain ⟨epoch, hepoch, hnumber⟩ := h.stored epochNumber (by omega)
    have hstart := h.startBlock epoch hepoch
    rw [hnumber] at hstart
    have hbelow : ¬ blockId ≤ epoch.startBlock := by omega
    exact ⟨epoch, Collection.mem_deleteMany.mpr ⟨hepoch, by simp [hbelow]⟩, hnumber⟩
  · exact h.startBlock epoch (Collection.mem_deleteMany.mp hepoch).1

/-- **Step lemma.** -/
theorem finalised_step {event : CompletionEvent} (h : Finalised node) (horderly : Orderly node event)
    (hstep : step env tenv node event = some node') : Finalised node' := by
  cases event with
  | storeBlock checksumRoot =>
    simp only [step] at hstep
    split_ifs at hstep with hlength
    cases hstep
    -- no task is under way: its block would be stored already
    have hidle : node.tasks = [] := by
      rcases h.tasks with hnone | ⟨phase, -, hmore, -⟩
      · exact hnone
      · omega
    refine ⟨h.stored, h.startBlock, Or.inr ⟨.updating, ?_, ?_, ?_, ?_⟩, h.unreported⟩
    · rw [hidle]
      rfl
    · rw [List.length_append, hlength]
      rfl
    · intro epoch heq
      cases heq
    · intro heq
      cases heq
  | interruptBlock checksumRoot =>
    simp only [step] at hstep
    split_ifs at hstep with hlength
    cases hstep
    refine ⟨h.stored, h.startBlock, ?_, h.unreported⟩
    rcases h.tasks with hnone | ⟨phase, -, hmore, -⟩
    · exact Or.inl hnone
    · omega
  | readEpoch i reads =>
    simp only [step] at hstep
    split at hstep
    · rename_i htask
      cases hstep
      exact h.readEpoch reads htask
    · cases hstep
  | settleWrites i outcomes =>
    simp only [step] at hstep
    split at hstep
    · rename_i htask
      cases hstep
      exact h.settleWrites htask horderly
    · cases hstep
  | setNewHeight i taskInProgress =>
    simp only [step] at hstep
    split at hstep
    · rename_i htask
      split_ifs at hstep
      · cases hstep
        exact h.setNewHeight htask
      · cases hstep
        exact h.endTask htask
    · cases hstep
  | revertDataUntilBlock blockId =>
    simp only [step] at hstep
    split_ifs at hstep with hle
    cases hstep
    exact h.revert horderly hle

/-- **Run.** In every orderly run, whatever else fails, the epochs that the height has passed are
stored. -/
theorem notLost_of_runFrom (env : EpochEnvironment) (tenv : EpochTreeEnvironment)
    (events : List CompletionEvent) (node : CompletionNode tenv.rust.Hash)
    (hmeets : Meets (step env tenv) Orderly (init tenv) events)
    (hrun : runFrom (step env tenv) (init tenv) events = some node) : NotLost node := by
  have hinv := invariant_runFrom (fun _ _ _ h horderly hstep => finalised_step h horderly hstep)
    events (init tenv) node finalised_init hmeets hrun
  exact ⟨hinv.stored, hinv.unreported⟩

/-! ### Two runs -/

/-- The next block, and its task through `onCompletedTask`; the reads find no submissions and no
witnesses. -/
def completedBlock (outcomes : FinalizeOutcomes) (closes : Bool) : List CompletionEvent :=
  [.storeBlock (List.replicate 32 7), .readEpoch 0 (some ⟨fun _ => [], fun _ => []⟩)] ++
    (if closes then [.settleWrites 0 outcomes] else []) ++ [.setNewHeight 0 true]

/-- The first six blocks; the last one closes epoch 0. -/
def sixBlocks (outcomes : FinalizeOutcomes) : List CompletionEvent :=
  (List.replicate 5 (completedBlock outcomes false)).flatten ++ completedBlock outcomes true

/-- The writes of the witnesses' proofs and of the target epochs are rejected. -/
def otherWritesRejected : FinalizeOutcomes := ⟨.rejected false, .fulfilled, .rejected false⟩

theorem notLost_otherWritesRejected :
    ∃ node, runFrom (step openEnvironment leafTrees) (init leafTrees)
        (sixBlocks otherWritesRejected) = some node ∧
      NotLost node ∧ node.height = 6 ∧ node.epochs.map (·.epochNumber) = [0] := by
  have hfacts : (runFrom (step openEnvironment leafTrees) (init leafTrees)
      (sixBlocks otherWritesRejected)).map
        (fun node => (node.height, node.epochs.map (·.epochNumber))) = some (6, [0]) := by
    decide +kernel
  obtain ⟨node, hrun, hnode⟩ := Option.map_eq_some_iff.mp hfacts
  obtain ⟨hheight, hepochs⟩ := Prod.mk.inj hnode
  have hmeets : Meets (step openEnvironment leafTrees) Orderly (init leafTrees)
      (sixBlocks otherWritesRejected) := by
    simp [sixBlocks, completedBlock, List.replicate, Meets, Orderly, otherWritesRejected]
  exact ⟨node, hrun, notLost_of_runFrom openEnvironment leafTrees _ node hmeets hrun, hheight,
    hepochs⟩

/-- The write of the epoch is rejected. -/
def saveEpochRejected : FinalizeOutcomes := ⟨.fulfilled, .rejected false, .fulfilled⟩

/-- The height has passed block 5, and epoch 0 is not stored. -/
theorem not_notLost_saveEpochRejected :
    ∃ node, runFrom (step openEnvironment leafTrees) (init leafTrees)
        (sixBlocks saveEpochRejected) = some node ∧ node.height = 6 ∧ ¬ NotLost node := by
  have hfacts : (runFrom (step openEnvironment leafTrees) (init leafTrees)
      (sixBlocks saveEpochRejected)).map
        (fun node => (node.height, node.epochs.map (·.epochNumber))) = some (6, []) := by
    decide +kernel
  obtain ⟨node, hrun, hnode⟩ := Option.map_eq_some_iff.mp hfacts
  obtain ⟨hheight, hepochs⟩ := Prod.mk.inj hnode
  refine ⟨node, hrun, hheight, fun hnotLost => ?_⟩
  obtain ⟨epoch, hepoch, -⟩ := hnotLost.1 0 (by rw [hheight]; decide)
  rw [List.map_eq_nil_iff.mp hepochs] at hepoch
  exact absurd hepoch List.not_mem_nil

end OpnetNode.CompletionNode
