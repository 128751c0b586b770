import Mathlib.Data.List.Induction
import OpnetNode.Indexer.BlockIndexer

/-!
# Reverts exclude tasks and each other

* `step_effect`: what an event can do to the reverts, the lock, and the two records.
* `exclusionInv_step`: at most one revert is suspended, and then the lock is set; kept by every event,
  if the watchdog does not notify its listener during a revert.
* `revertExclusion`: so along every such run, no task is started and the lock is not released during
  another revert.
* `revertExclusion_watchdog`: the watchdog notifies its listener during the revert of a height
  regression, and the first of the two to finish releases the lock.
-/

namespace OpnetNode

namespace BlockIndexer

/-! ### What an event can do -/

/-- What an event can do to the reverts, the lock, and the two records. -/
inductive Effect (s s' : BlockIndexer) : IndexerEvent → Prop where
  | idle {e : IndexerEvent} (hreverts : s'.reverts.length = s.reverts.length)
      (hlock : s'.chainReorged = s.chainReorged) (hstarts : s'.taskStarts = s.taskStarts)
      (hunlocks : s'.unlocks = s.unlocks) : Effect s s' e
  | tasksStarted {e : IndexerEvent} (hunlocked : s.chainReorged = false)
      (hreverts : s'.reverts = s.reverts) (hlock : s'.chainReorged = false)
      (hstarts : ∀ n ∈ s'.taskStarts, n ∈ s.taskStarts ∨ n = s.reverts.length)
      (hunlocks : s'.unlocks = s.unlocks) : Effect s s' e
  | revertStarted {e : IndexerEvent}
      (hguard : s.chainReorged = false ∨ ∃ fromHeight, e = .notifyReorgListeners fromHeight)
      (hreverts : s'.reverts.length = s.reverts.length + 1) (hlock : s'.chainReorged = true)
      (hstarts : s'.taskStarts = s.taskStarts) (hunlocks : s'.unlocks = s.unlocks) :
      Effect s s' e
  | revertEnded {e : IndexerEvent} (hreverts : s'.reverts.length + 1 = s.reverts.length)
      (hlock : s'.chainReorged = false ∨ s'.chainReorged = s.chainReorged)
      (hstarts : s'.taskStarts = s.taskStarts)
      (hunlocks : ∀ n ∈ s'.unlocks, n ∈ s.unlocks ∨ n = s.reverts.length - 1) : Effect s s' e

variable {s : BlockIndexer}

theorem mem_taskStarts_processNextTask {n : ℕ}
    (h : n ∈ (processNextTask s).taskStarts) : n ∈ s.taskStarts ∨ n = s.reverts.length := by
  unfold processNextTask at h
  split at h
  · exact .inl h
  · split at h
    · exact .inl h
    · rcases List.mem_append.mp h with hold | hnew
      · exact .inl hold
      · exact .inr (List.mem_singleton.mp hnew)

theorem processNextTask_frame (s : BlockIndexer) :
    (processNextTask s).reverts = s.reverts ∧ (processNextTask s).chainReorged = s.chainReorged
      ∧ (processNextTask s).unlocks = s.unlocks := by
  unfold processNextTask
  split
  · exact ⟨rfl, rfl, rfl⟩
  · split <;> exact ⟨rfl, rfl, rfl⟩

variable {t : BlockIndexer} {e : IndexerEvent}

/-- Nothing but the reverts, the lock and the records matters for the effect. -/
theorem Effect.of_frame {s' : BlockIndexer} (h : Effect s t e)
    (hreverts : s'.reverts = t.reverts) (hlock : s'.chainReorged = t.chainReorged)
    (hstarts : s'.taskStarts = t.taskStarts) (hunlocks : s'.unlocks = t.unlocks) :
    Effect s s' e := by
  cases h with
  | idle hreverts' hlock' hstarts' hunlocks' =>
    exact .idle (hreverts ▸ hreverts') (hlock.trans hlock') (hstarts.trans hstarts')
      (hunlocks.trans hunlocks')
  | tasksStarted hunlocked hreverts' hlock' hstarts' hunlocks' =>
    exact .tasksStarted hunlocked (hreverts.trans hreverts') (hlock.trans hlock')
      (hstarts ▸ hstarts') (hunlocks.trans hunlocks')
  | revertStarted hguard hreverts' hlock' hstarts' hunlocks' =>
    exact .revertStarted hguard (hreverts ▸ hreverts') (hlock.trans hlock')
      (hstarts.trans hstarts') (hunlocks.trans hunlocks')
  | revertEnded hreverts' hlock' hstarts' hunlocks' =>
    exact .revertEnded (hreverts ▸ hreverts') (hlock ▸ hlock') (hstarts.trans hstarts')
      (hunlocks ▸ hunlocks')

theorem effect_startTasks (size : ℕ)
    (hreverts : t.reverts = s.reverts) (hlock : t.chainReorged = s.chainReorged)
    (hstarts : t.taskStarts = s.taskStarts) (hunlocks : t.unlocks = s.unlocks) :
    Effect s (startTasks size t) e := by
  unfold startTasks
  by_cases hlocked : t.chainReorged
  · rw [if_pos hlocked]
    exact .idle (by rw [hreverts]) hlock hstarts hunlocks
  · rw [if_neg hlocked]
    have hunlocked : t.chainReorged = false := Bool.eq_false_iff.mpr hlocked
    dsimp only
    -- the records of the new tasks
    have hnew : ∀ n ∈ t.taskStarts ++ List.replicate (newTasks size t) t.reverts.length,
        n ∈ s.taskStarts ∨ n = s.reverts.length := by
      intro n hn
      rw [← hstarts, ← hreverts]
      rcases List.mem_append.mp hn with hold | hnew
      · exact .inl hold
      · exact .inr (List.eq_of_mem_replicate hnew)
    split
    · exact .tasksStarted (hlock ▸ hunlocked) hreverts hunlocked hnew hunlocks
    · obtain ⟨hreverts', hlock', hunlocks'⟩ := processNextTask_frame { t with
        indexingTasks := t.indexingTasks ++ List.range' t.bestTip (newTasks size t)
        bestTip := t.bestTip + newTasks size t
        taskStarts := t.taskStarts ++ List.replicate (newTasks size t) t.reverts.length }
      refine .tasksStarted (hlock ▸ hunlocked) (hreverts'.trans hreverts)
        (hlock'.trans hunlocked) ?_ (hunlocks'.trans hunlocks)
      intro n hn
      rcases mem_taskStarts_processNextTask hn with hold | hnow
      · exact hnew n hold
      · right
        rw [hnow, ← hreverts]

theorem effect_release (size : ℕ) (mayRestartTask : Bool)
    (hreverts : t.reverts = s.reverts) (hlock : t.chainReorged = s.chainReorged)
    (hstarts : t.taskStarts = s.taskStarts) (hunlocks : t.unlocks = s.unlocks) :
    Effect s (releaseLockAndCallNextTask size mayRestartTask t) e := by
  unfold releaseLockAndCallNextTask
  dsimp only
  split
  · exact .idle (by rw [← hreverts]) hlock hstarts hunlocks
  · split
    · exact effect_startTasks size hreverts hlock hstarts hunlocks
    · exact .idle (by rw [← hreverts]) hlock hstarts hunlocks

theorem effect_endRevert {i : ℕ} {call : RevertCall}
    (hcall : s.reverts[i]? = some call) (origin : RevertOrigin) (unlock threw : Bool) :
    Effect s (endRevert i origin unlock threw s) e := by
  have hlt : i < s.reverts.length := (List.getElem?_eq_some_iff.mp hcall).1
  have hlength : (s.reverts.eraseIdx i).length + 1 = s.reverts.length := by
    rw [List.length_eraseIdx_of_lt hlt]
    omega
  have hlock : (if unlock then false else s.chainReorged) = false
      ∨ (if unlock then false else s.chainReorged) = s.chainReorged := by
    cases unlock with
    | true => exact .inl rfl
    | false => exact .inr rfl
  have hunlocks : ∀ n ∈ (if unlock then s.unlocks ++ [s.reverts.length - 1] else s.unlocks),
      n ∈ s.unlocks ∨ n = s.reverts.length - 1 := by
    intro n hn
    split at hn
    · rcases List.mem_append.mp hn with hold | hnew
      · exact .inl hold
      · exact .inr (List.mem_singleton.mp hnew)
    · exact .inl hn
  unfold endRevert
  dsimp only
  cases origin with
  | heightRegression =>
    dsimp only
    split
    · exact .revertEnded hlength hlock rfl hunlocks
    · exact .revertEnded hlength hlock rfl hunlocks
  | reorgListener | processingError => exact .revertEnded hlength hlock rfl hunlocks

theorem endStep_frame (call : RevertCall) (chainHeight : ℕ) (s : BlockIndexer) :
    (endStep call chainHeight s).chainReorged = s.chainReorged
      ∧ (endStep call chainHeight s).taskStarts = s.taskStarts
      ∧ (endStep call chainHeight s).unlocks = s.unlocks := by
  unfold endStep
  split <;> exact ⟨rfl, rfl, rfl⟩

theorem effect_onBlockChange (size height : ℕ) (s : BlockIndexer) :
    Effect s (onBlockChange size height s) (.onBlockChange height) := by
  unfold onBlockChange
  dsimp only
  split
  · rename_i hguard
    simp only [Bool.and_eq_true, Bool.not_eq_true'] at hguard
    exact .revertStarted (.inl hguard.1.1.2) (by simp [revertChainStarted]) rfl rfl rfl
  · split
    · -- the first tip
      have heffect := effect_startTasks (s := s) (t := { s with targetBlockHeight := height })
        (e := .onBlockChange height) size rfl rfl rfl rfl
      exact heffect.of_frame rfl rfl rfl rfl
    · split
      · exact .idle rfl rfl rfl rfl
      · exact effect_startTasks size rfl rfl rfl rfl

theorem effect_onProcessingError (size : ℕ) (call : ProcessCall) (s : BlockIndexer) :
    Effect s (onProcessingError size call s) .taskThrew := by
  unfold onProcessingError
  split
  · exact effect_release size true rfl rfl rfl rfl
  · rename_i hguard
    split
    · simp only [Bool.or_eq_true, not_or, Bool.not_eq_true] at hguard
      exact .revertStarted (.inl hguard.1.1) (by simp [movePhase, revertChainStarted]) rfl rfl rfl
    · exact effect_release size false rfl rfl rfl rfl

theorem step_effect {size : ℕ} {s' : BlockIndexer}
    (h : step size s e = some s') : Effect s s' e := by
  -- a revert starts in three of the cases, and only the watchdog's has no guard
  cases e with
  | onBlockChange height =>
    cases h
    exact effect_onBlockChange size height s
  | verifyReorg =>
    rw [step, Option.map_eq_some_iff] at h
    obtain ⟨call, -, rfl⟩ := h
    split <;> exact .idle rfl rfl rfl rfl
  | noReorg | taskCompleted =>
    rw [step, Option.map_eq_some_iff] at h
    obtain ⟨call, -, rfl⟩ := h
    exact .idle rfl rfl rfl rfl
  | notifyReorgListeners fromHeight =>
    rw [step, Option.map_eq_some_iff] at h
    obtain ⟨call, -, rfl⟩ := h
    exact .revertStarted (.inr ⟨fromHeight, rfl⟩) (by simp [movePhase, revertChainStarted])
      rfl rfl rfl
  | completeTask =>
    rw [step, Option.bind_eq_some_iff] at h
    obtain ⟨call, -, h⟩ := h
    split at h
    · cases h
    · cases h
      exact .idle rfl rfl rfl rfl
  | taskReturned | finallyAfterRevert =>
    rw [step, Option.map_eq_some_iff] at h
    obtain ⟨call, -, rfl⟩ := h
    exact effect_release size true rfl rfl rfl rfl
  | taskThrew =>
    rw [step, Option.map_eq_some_iff] at h
    obtain ⟨call, -, rfl⟩ := h
    exact effect_onProcessingError size call s
  | revertStepDone i chainHeight =>
    rw [step, Option.map_eq_some_iff] at h
    obtain ⟨call, hcall, rfl⟩ := h
    split
    · obtain ⟨hlock, hstarts, hunlocks⟩ := endStep_frame call chainHeight s
      exact .idle List.length_set hlock hstarts hunlocks
    · exact effect_endRevert hcall call.origin true false
  | revertStepThrew i =>
    rw [step, Option.map_eq_some_iff] at h
    obtain ⟨call, hcall, rfl⟩ := h
    exact effect_endRevert hcall call.origin _ true
  | regressionReverted =>
    rw [step] at h
    split at h
    · cases h
    · cases h
      exact effect_startTasks size rfl rfl rfl rfl

/-! ### The invariant -/

/-- No task was started, and the lock was not set back, during another revert. -/
def RevertExclusion (s : BlockIndexer) : Prop :=
  (∀ n ∈ s.taskStarts, n = 0) ∧ ∀ n ∈ s.unlocks, n = 0

/-- The watchdog does not notify its listener while a revert is suspended. -/
def NoNotificationDuringRevert (s : BlockIndexer) : IndexerEvent → Prop
  | .notifyReorgListeners _ => s.reverts = []
  | _ => True

/-- What holds along a run. -/
structure ExclusionInv (s : BlockIndexer) : Prop where
  single : s.reverts.length ≤ 1
  locked : s.reverts ≠ [] → s.chainReorged = true
  exclusion : RevertExclusion s

theorem exclusionInv_step {size : ℕ} (s : BlockIndexer) (e : IndexerEvent) (s' : BlockIndexer)
    (h : ExclusionInv s) (hok : NoNotificationDuringRevert s e) (hstep : step size s e = some s') :
    ExclusionInv s' := by
  -- an unlocked indexer has no suspended revert
  have hnone : s.chainReorged = false → s.reverts = [] := by
    intro hunlocked
    by_contra hne
    have hlocked := h.locked hne
    cases hunlocked.symm.trans hlocked
  cases step_effect hstep with
  | idle hreverts hlock hstarts hunlocks =>
    refine ⟨by rw [hreverts]; exact h.single, fun hne => ?_, ?_⟩
    · rw [hlock]
      apply h.locked
      intro hnil
      rw [hnil, List.length_nil, List.length_eq_zero_iff] at hreverts
      exact hne hreverts
    · unfold RevertExclusion
      rw [hstarts, hunlocks]
      exact h.exclusion
  | tasksStarted hunlocked hreverts hlock hstarts hunlocks =>
    have hnil := hnone hunlocked
    refine ⟨by rw [hreverts]; exact h.single, fun hne => ?_, ?_, ?_⟩
    · rw [hreverts] at hne
      exact absurd hnil hne
    · intro n hn
      rcases hstarts n hn with hold | hnow
      · exact h.exclusion.1 n hold
      · rw [hnow, hnil, List.length_nil]
    · rw [hunlocks]
      exact h.exclusion.2
  | revertStarted hguard hreverts hlock hstarts hunlocks =>
    have hnil : s.reverts = [] := by
      rcases hguard with hunlocked | ⟨fromHeight, rfl⟩
      · exact hnone hunlocked
      · exact hok
    rw [hnil, List.length_nil] at hreverts
    refine ⟨by omega, fun _ => hlock, ?_⟩
    unfold RevertExclusion
    rw [hstarts, hunlocks]
    exact h.exclusion
  | revertEnded hreverts hlock hstarts hunlocks =>
    -- it was the only one
    have hsingle := h.single
    have hzero : s'.reverts = [] := List.length_eq_zero_iff.mp (by omega)
    refine ⟨by omega, fun hne => absurd hzero hne, ?_, ?_⟩
    · rw [hstarts]
      exact h.exclusion.1
    · intro n hn
      rcases hunlocks n hn with hold | hnow
      · exact h.exclusion.2 n hold
      · omega

/-- **Revert exclusion.** In every run in which the watchdog does not notify its listener during a
revert, no task is started while a revert is suspended, and the lock is not set back while another
one is. -/
theorem revertExclusion (size pendingBlockHeight targetBlockHeight : ℕ) (events : List IndexerEvent)
    (s : BlockIndexer)
    (hok : Meets (step size) NoNotificationDuringRevert
      (initial pendingBlockHeight targetBlockHeight) events)
    (hrun : runFrom (step size) (initial pendingBlockHeight targetBlockHeight) events = some s) :
    RevertExclusion s := by
  have hinitial : ExclusionInv (initial pendingBlockHeight targetBlockHeight) := by
    refine ⟨Nat.zero_le 1, fun hne => absurd rfl hne, ?_, ?_⟩
    · intro n hn
      cases hn
    · intro n hn
      cases hn
  exact (invariant_runFrom (P := ExclusionInv) exclusionInv_step events _ s hinitial hok
    hrun).exclusion

instance decidableNoNotificationDuringRevert (s : BlockIndexer) :
    ∀ e, Decidable (NoNotificationDuringRevert s e)
  | .notifyReorgListeners _ => inferInstanceAs (Decidable (s.reverts = []))
  | .onBlockChange _ => isTrue trivial
  | .verifyReorg => isTrue trivial
  | .noReorg => isTrue trivial
  | .completeTask => isTrue trivial
  | .taskCompleted => isTrue trivial
  | .taskReturned => isTrue trivial
  | .taskThrew => isTrue trivial
  | .finallyAfterRevert => isTrue trivial
  | .revertStepDone _ _ => isTrue trivial
  | .revertStepThrew _ => isTrue trivial
  | .regressionReverted => isTrue trivial

/-! ### Two signals of one reorg -/

/-- All steps of the first suspended revert, which was asked for because of a reorg. -/
def revertSteps₀ : List IndexerEvent := List.replicate 8 (.revertStepDone 0 9)

/-- The watchdog finds a reorg, its listener reverts the chain, and the next tasks are started. -/
def listenerRun : List IndexerEvent :=
  [.onBlockChange 9, .verifyReorg, .notifyReorgListeners 6] ++ revertSteps₀ ++ [.taskReturned]

theorem revertExclusion_listener :
    ∃ s, runFrom (step 2) (initial 7 9) listenerRun = some s ∧ s.taskStarts.length = 6
      ∧ RevertExclusion s := by
  have hstate : (runFrom (step 2) (initial 7 9) listenerRun).map (fun s => s.taskStarts.length)
      = some 6 := by decide +kernel
  obtain ⟨s, hrun, hstarts⟩ := Option.map_eq_some_iff.mp hstate
  exact ⟨s, hrun, hstarts, revertExclusion 2 7 9 listenerRun s (by decide +kernel) hrun⟩

/-- The watchdog is asked about block 7, a new tip at height 6 starts a revert, and the watchdog
notifies its listener; the first revert finishes. -/
def watchdogRun : List IndexerEvent :=
  [.onBlockChange 9, .verifyReorg, .onBlockChange 6, .notifyReorgListeners 6] ++ revertSteps₀

theorem revertExclusion_watchdog : ¬ ∀ events s,
    runFrom (step 2) (initial 7 9) events = some s → RevertExclusion s := by
  intro h
  have hstate : (runFrom (step 2) (initial 7 9) watchdogRun).map BlockIndexer.unlocks = some [1] := by
    decide +kernel
  obtain ⟨s, hrun, hunlocks⟩ := Option.map_eq_some_iff.mp hstate
  have hmem : 1 ∈ s.unlocks := by
    rw [hunlocks]
    exact List.mem_singleton_self 1
  exact absurd ((h watchdogRun s hrun).2 1 hmem) (by decide)

end BlockIndexer

end OpnetNode
