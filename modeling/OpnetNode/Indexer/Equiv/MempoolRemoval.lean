import OpnetNode.Indexer.MempoolRemoval

/-!
# A stopped task and the mempool

The removal of the block's transactions comes before the finalisation of the block, next to no look
at the abort flag, and nothing looks at the answer of `verifyReorg` before.  So a task found reorged,
aborted or failing to finalise may have removed transactions (`not_intact_reorged`).

`intact_of_orderly`: where a task is stopped early enough, or has nothing to remove, it has removed
nothing when it ends.  The invariant (`Settled`) says, phase by phase, what can have stopped it and
what may have been removed so far.
-/

namespace OpnetNode.MempoolTask

open MempoolRepository

/-- What holds of a task along an orderly run. -/
structure Settled (absent clear : Bool) (s : MempoolTask) : Prop where
  early : s.phase.isEarly = true → s.removed = []
  reorged : s.foundReorged = true → absent = true ∧ (clear = true ∨ s.aborted = true)
  aborted : s.phase.isExposed = true → s.aborted = true →
    absent = true ∧ (clear = true ∨ s.phase.removesConflicts = false)
  unsaved : ∀ scan, s.phase = .finalizing scan →
    s.finalization = .reverting ∨ s.finalization = .finished false →
      absent = true ∧ (clear = true ∨ s.aborted = true ∨ scan = .nothing)
  removed : ∀ scan, s.phase = .finalizing scan →
    absent = true → clear = true ∨ scan ≠ .removed → s.removed = []
  completing : s.phase = .completing →
    (s.removed = [] ∨ s.foundReorged = false) ∧ s.finalization = .finished true
  intact : s.Intact

variable {absent clear : Bool} {s : MempoolTask}

/-! ### The phases -/

theorem settled_of_early (hphase : s.phase.isEarly = true) (hremoved : s.removed = [])
    (hreorged : s.foundReorged = true → absent = true ∧ (clear = true ∨ s.aborted = true))
    (haborted : s.phase.isExposed = true → s.aborted = true →
      absent = true ∧ (clear = true ∨ s.phase.removesConflicts = false)) :
    s.Settled absent clear where
  early _ := hremoved
  reorged := hreorged
  aborted := haborted
  unsaved scan hfinalizing := by
    rw [hfinalizing] at hphase
    cases hphase
  removed scan hfinalizing := by
    rw [hfinalizing] at hphase
    cases hphase
  completing hcompleting := by
    rw [hcompleting] at hphase
    cases hphase
  intact _ _ _ := hremoved

theorem Settled.goEarly {phase : RemovalPhase} (h : s.Settled absent clear)
    (hphase : s.phase.isEarly = true) (hexposed : s.phase.isExposed = true)
    (hnext : phase.isEarly = true) :
    Settled absent clear { s with phase } :=
  settled_of_early hnext (h.early hphase) h.reorged fun _ haborted =>
    ⟨(h.aborted hexposed haborted).1, Or.inr (by cases phase <;> first | rfl | cases hnext)⟩

variable {scan : ConflictScan}

theorem settled_of_finalizing (hphase : s.phase = .finalizing scan)
    (hreorged : s.foundReorged = true → absent = true ∧ (clear = true ∨ s.aborted = true))
    (haborted : s.aborted = true →
      absent = true ∧ (clear = true ∨ s.phase.removesConflicts = false))
    (hunsaved : s.finalization = .reverting ∨ s.finalization = .finished false →
      absent = true ∧ (clear = true ∨ s.aborted = true ∨ scan = .nothing))
    (hremoved : absent = true → clear = true ∨ scan ≠ .removed → s.removed = []) :
    s.Settled absent clear where
  early hearly := by
    rw [hphase] at hearly
    cases hearly
  reorged := hreorged
  aborted _ := haborted
  unsaved scan' hphase' := by
    cases hphase.symm.trans hphase'
    exact hunsaved
  removed scan' hphase' := by
    cases hphase.symm.trans hphase'
    exact hremoved
  completing hcompleting := by
    cases hphase.symm.trans hcompleting
  intact outcome hended := by
    cases hphase.symm.trans hended

theorem settled_of_ended {outcome : TaskOutcome} (hphase : s.phase = .ended outcome)
    (hreorged : s.foundReorged = true → absent = true ∧ (clear = true ∨ s.aborted = true))
    (h : s.foundReorged = true ∨ outcome = .foundAborted ∨ s.finalization ≠ .finished true →
      s.removed = []) : s.Settled absent clear where
  early hearly := by
    rw [hphase] at hearly
    cases hearly
  reorged := hreorged
  aborted hexposed := by
    rw [hphase] at hexposed
    cases hexposed
  unsaved scan hfinalizing := by
    cases hphase.symm.trans hfinalizing
  removed scan hfinalizing := by
    cases hphase.symm.trans hfinalizing
  completing hcompleting := by
    cases hphase.symm.trans hcompleting
  intact outcome' hended := by
    cases hphase.symm.trans hended
    exact h

theorem Settled.ended_saved {outcome : TaskOutcome} (h : s.Settled absent clear)
    (hphase : s.phase = .completing) (houtcome : outcome ≠ .foundAborted) :
    Settled absent clear { s with phase := .ended outcome } := by
  obtain ⟨hremoved, hfinalised⟩ := h.completing hphase
  refine settled_of_ended rfl h.reorged ?_
  rintro (hreorged | haborted | hunsaved)
  · rcases hremoved with hremoved | hnotReorged
    · exact hremoved
    · exact absurd (hreorged.symm.trans hnotReorged) (by decide)
  · exact absurd haborted houtcome
  · exact absurd hfinalised hunsaved

theorem settled_start (resync : Bool) (transactions : List SpendingTransaction)
    (mempool : Collection SpendingTransaction) :
    (start resync transactions mempool).Settled absent clear :=
  settled_of_early rfl rfl (fun h => nomatch h) (fun h => nomatch h)

/-! ### The transitions between the phases -/

theorem Settled.removed_of_aborted (h : s.Settled absent clear)
    (hphase : s.phase = .finalizing scan) (haborted : s.aborted = true) : s.removed = [] := by
  obtain ⟨habsent, hconflicts⟩ := h.aborted (by rw [hphase]; rfl) haborted
  refine h.removed scan hphase habsent (hconflicts.imp_right ?_)
  rintro hbegun rfl
  rw [hphase] at hbegun
  cases hbegun

/-- Nor has one that was found reorged or is not saved, unless it is aborted. -/
theorem Settled.removed_of_clear (h : s.Settled absent clear)
    (hphase : s.phase = .finalizing scan) (haborted : ¬ s.aborted = true)
    (hstopped : s.foundReorged = true ∨ s.finalization = .reverting ∨
      s.finalization = .finished false) : s.removed = [] := by
  rcases hstopped with hreorged | hunsaved
  · obtain ⟨habsent, hclear⟩ := h.reorged hreorged
    exact h.removed scan hphase habsent (Or.inl (hclear.resolve_right haborted))
  · obtain ⟨habsent, hclear | haborted' | rfl⟩ := h.unsaved scan hphase hunsaved
    · exact h.removed scan hphase habsent (Or.inl hclear)
    · exact absurd haborted' haborted
    · exact h.removed _ hphase habsent (Or.inr (by decide))

/-- The start of the finalisation, where nothing was removed unless the block's transactions were
there. -/
theorem Settled.startFinalization (h : s.Settled absent clear) (hexposed : s.phase.isExposed = true)
    {removed : List SpendingTransaction} {mempool : Collection SpendingTransaction}
    (hremoved : absent = true → removed = []) :
    (startFinalization { s with mempool, removed }).Settled absent clear := by
  have hconflicts : ∀ scan, scan = (if s.resync ∨ s.transactions = [] then ConflictScan.nothing
      else nextBatch s.transactions []) → (RemovalPhase.finalizing scan).removesConflicts = false := by
    rintro scan rfl
    split <;> rfl
  refine settled_of_finalizing rfl h.reorged (fun haborted => ?_) (fun hunsaved => ?_)
    fun habsent _ => hremoved habsent
  · exact ⟨(h.aborted hexposed haborted).1, Or.inr (hconflicts _ rfl)⟩
  · -- it is reverted from the beginning only if it is aborted
    have haborted : s.aborted = true := by
      by_contra hnot
      simp only [MempoolTask.startFinalization, if_neg hnot] at hunsaved
      rcases hunsaved with hunsaved | hunsaved <;> cases hunsaved
    exact ⟨(h.aborted hexposed haborted).1, Or.inr (Or.inl haborted)⟩

theorem Settled.afterVerification (h : s.Settled absent clear) (hphase : s.phase.isEarly = true)
    (hexposed : s.phase.isExposed = true) : (afterVerification s).Settled absent clear := by
  unfold MempoolTask.afterVerification
  split
  · exact h.startFinalization hexposed fun _ => h.early hphase
  · exact h.goEarly hphase hexposed rfl

variable {conflictIds : List String}

theorem Settled.rescan {batch later batch' later' : List SpendingTransaction}
    {conflictIds' : List String} (h : s.Settled absent clear)
    (hphase : s.phase = .finalizing (.querying batch later conflictIds)) :
    Settled absent clear { s with phase := .finalizing (.querying batch' later' conflictIds') } := by
  refine settled_of_finalizing rfl h.reorged (fun haborted => ?_) (fun hunsaved => ?_)
    fun habsent _ => h.removed _ hphase habsent (Or.inr (by simp))
  · exact ⟨(h.aborted (by rw [hphase]; rfl) haborted).1, Or.inr rfl⟩
  · obtain ⟨habsent, hclear | haborted | hnothing⟩ := h.unsaved _ hphase hunsaved
    · exact ⟨habsent, Or.inl hclear⟩
    · exact ⟨habsent, Or.inr (Or.inl haborted)⟩
    · cases hnothing

/-- The look at the flag after a batch: a task that goes on to remove conflicts is not aborted. -/
theorem Settled.afterBatch {batch later : List SpendingTransaction}
    (h : s.Settled absent clear) (hphase : s.phase = .finalizing (.querying batch later conflictIds)) :
    (afterBatch s later conflictIds).Settled absent clear := by
  unfold MempoolTask.afterBatch
  split
  · rename_i haborted
    exact settled_of_ended rfl h.reorged fun _ => h.removed_of_aborted hphase haborted
  · rename_i haborted
    split
    · refine settled_of_finalizing rfl h.reorged (fun haborted' => absurd haborted' haborted)
        (fun hunsaved => ?_) fun habsent _ => h.removed _ hphase habsent (Or.inr (by simp))
      obtain ⟨habsent, hclear | haborted' | hnothing⟩ := h.unsaved _ hphase hunsaved
      · exact ⟨habsent, Or.inl hclear⟩
      · exact absurd haborted' haborted
      · cases hnothing
    · exact h.rescan hphase

theorem Settled.afterFinalization {result : Bool} (h : s.Settled absent clear)
    (hphase : s.phase = .finalizing scan) (hfinished : s.finalization = .finished result) :
    (afterFinalization s).Settled absent clear := by
  unfold MempoolTask.afterFinalization
  split
  · rename_i haborted
    exact settled_of_ended rfl h.reorged fun _ => h.removed_of_aborted hphase haborted
  · rename_i haborted
    split
    · rename_i hsaved
      refine ⟨(nomatch ·), h.reorged, (nomatch ·), fun _ h => (nomatch h), fun _ h => (nomatch h),
        fun _ => ⟨?_, hsaved⟩, fun _ h => (nomatch h)⟩
      cases hreorged : s.foundReorged with
      | true => exact Or.inl (h.removed_of_clear hphase haborted (Or.inl hreorged))
      | false => exact Or.inr rfl
    · rename_i hunsaved
      refine settled_of_ended rfl h.reorged fun _ => ?_
      cases result with
      | true => exact absurd hfinished hunsaved
      | false => exact h.removed_of_clear hphase haborted (Or.inr (Or.inr hfinished))

/-- The removal of the conflicts has begun: a task that was found reorged, or is aborted, finds none
of them. -/
theorem Settled.clear_of_reorged (h : s.Settled absent clear)
    (hphase : s.phase = .finalizing (.removing conflictIds)) (hreorged : s.foundReorged = true) :
    absent = true ∧ clear = true := by
  obtain ⟨habsent, hclear | haborted⟩ := h.reorged hreorged
  · exact ⟨habsent, hclear⟩
  · obtain ⟨-, hclear | hbegun⟩ := h.aborted (by rw [hphase]; rfl) haborted
    · exact ⟨habsent, hclear⟩
    · rw [hphase] at hbegun
      cases hbegun

theorem settled_conflictsThrew {landed : Bool}
    (h : s.Settled absent clear) (hphase : s.phase = .finalizing (.removing conflictIds))
    (hok : s.Orderly absent clear (.threw landed)) :
    Settled absent clear
      { (if landed then s.delete conflictIds else s) with phase := .ended .failed } := by
  obtain ⟨hfinds, hsaved⟩ := hok.2 conflictIds hphase
  -- a task that is stopped finds nothing, here and before
  have hstopped : s.foundReorged = true ∨ TaskOutcome.failed = .foundAborted ∨
      s.finalization ≠ .finished true → s.removed = [] ∧ (landed = true → clear = true) := by
    rintro (hreorged | hfound | hunsaved)
    · obtain ⟨habsent, hclear⟩ := h.clear_of_reorged hphase hreorged
      exact ⟨h.removed _ hphase habsent (Or.inl hclear), fun _ => hclear⟩
    · cases hfound
    · obtain ⟨habsent, hclear⟩ := hsaved.resolve_left hunsaved
      exact ⟨h.removed _ hphase habsent (Or.inr (by simp)), hclear⟩
  cases landed with
  | false => exact settled_of_ended rfl h.reorged fun hend => (hstopped hend).1
  | true =>
    refine settled_of_ended rfl h.reorged fun hend => ?_
    obtain ⟨hbefore, hclear⟩ := hstopped hend
    show s.removed ++ withIds conflictIds s.mempool = []
    rw [hbefore, hfinds rfl (hclear rfl), List.append_nil]

theorem settled_conflictsDeleted (h : s.Settled absent clear)
    (hphase : s.phase = .finalizing (.removing conflictIds))
    (hfinds : clear = true → withIds conflictIds s.mempool = []) :
    Settled absent clear { s.delete conflictIds with phase := .finalizing .removed } := by
  have hbegun : s.phase.removesConflicts = true := by
    rw [hphase]
    rfl
  have hclear : s.aborted = true → absent = true ∧ clear = true := by
    intro haborted
    obtain ⟨habsent, hclear | hnot⟩ := h.aborted (by rw [hphase]; rfl) haborted
    · exact ⟨habsent, hclear⟩
    · exact absurd (hbegun.symm.trans hnot) (by decide)
  refine settled_of_finalizing rfl h.reorged (fun haborted => ?_) (fun hunsaved => ?_)
    fun habsent hnone => ?_
  · exact ⟨(hclear haborted).1, Or.inl (hclear haborted).2⟩
  · obtain ⟨habsent, hclear' | haborted | hnothing⟩ := h.unsaved _ hphase hunsaved
    · exact ⟨habsent, Or.inl hclear'⟩
    · exact ⟨habsent, Or.inl (hclear haborted).2⟩
    · cases hnothing
  · rcases hnone with hclear | hnot
    · show s.removed ++ withIds conflictIds s.mempool = []
      rw [h.removed _ hphase habsent (Or.inl hclear), hfinds hclear, List.append_nil]
    · exact absurd rfl hnot

theorem settled_transactionsThrew {landed : Bool} (h : s.Settled absent clear)
    (hphase : s.phase = .removingTransactions) (hok : s.Orderly absent clear (.threw landed)) :
    Settled absent clear
      { (if landed then s.delete s.blockTxHashes else s) with phase := .ended .failed } := by
  have hbefore : s.removed = [] := h.early (by rw [hphase]; rfl)
  cases landed with
  | false => exact settled_of_ended rfl h.reorged fun _ => hbefore
  | true =>
    refine settled_of_ended rfl h.reorged fun _ => ?_
    show s.removed ++ withIds s.blockTxHashes s.mempool = []
    rw [hbefore, hok.1 hphase rfl, List.append_nil]

/-- A cancellation of a task that can still be stopped, has nothing to remove, or has passed its
last check. -/
theorem settled_cancel {reorged : Bool} (h : s.Settled absent clear)
    (hok : s.Orderly absent clear (.cancel reorged)) :
    Settled absent clear { s with aborted := true, chainReorged := reorged } where
  early := h.early
  reorged hreorged := ⟨(h.reorged hreorged).1, Or.inr rfl⟩
  aborted hexposed _ := hok hexposed
  unsaved scan hphase hunsaved := ⟨(h.unsaved scan hphase hunsaved).1, Or.inr (Or.inl rfl)⟩
  removed := h.removed
  completing := h.completing
  intact := h.intact

theorem settled_finalization {finalization : Finalization} (h : s.Settled absent clear)
    (hbefore : s.finalization ≠ .finished true)
    (hunsaved : ∀ scan, s.phase = .finalizing scan →
      finalization = .reverting ∨ finalization = .finished false →
        absent = true ∧ (clear = true ∨ s.aborted = true ∨ scan = .nothing)) :
    Settled absent clear { s with finalization } where
  early := h.early
  reorged := h.reorged
  aborted := h.aborted
  unsaved := hunsaved
  removed := h.removed
  completing hcompleting := absurd (h.completing hcompleting).2 hbefore
  intact outcome hended _ := h.intact outcome hended (Or.inr (Or.inr hbefore))

/-- **Step lemma.** An orderly step keeps what holds of a task. -/
theorem settled_step {s s' : MempoolTask} {e : ProcessEvent} (h : s.Settled absent clear)
    (hok : s.Orderly absent clear e) (hstep : step s e = some s') : s'.Settled absent clear := by
  cases e with
  | cancel reorged =>
    cases hstep
    exact settled_cancel h hok
  | mempoolChanged mempool =>
    cases hstep
    exact ⟨h.early, h.reorged, h.aborted, h.unsaved, h.removed, h.completing, h.intact⟩
  | threw landed =>
    simp only [step] at hstep
    split at hstep
    · rename_i hphase
      cases hstep
      exact settled_transactionsThrew h hphase hok
    · rename_i hphase
      cases hstep
      exact settled_conflictsThrew h hphase hok
    · cases hstep
    · cases hstep
    · rename_i hnotRemoving hnotConflicts hnotFinalizing hnotEnded
      cases hstep
      -- no deletion was awaited: nothing is removed yet, or the block is saved
      cases hphase : s.phase with
      | prefetching | executing | submitting | verifying | removingTransactions =>
        exact settled_of_ended rfl h.reorged fun _ => h.early (by rw [hphase]; rfl)
      | finalizing scan => exact absurd hphase (hnotFinalizing scan)
      | completing => exact h.ended_saved hphase (by decide)
      | ended outcome => exact absurd hphase (hnotEnded outcome)
  | prefetched =>
    simp only [step] at hstep
    split at hstep
    · rename_i hphase
      cases hstep
      exact settled_of_early rfl (h.early (by rw [hphase]; rfl)) h.reorged (nomatch ·)
    · cases hstep
  | executed =>
    simp only [step] at hstep
    split at hstep
    · rename_i hphase
      -- a task that is cancelled before this goes no further
      obtain ⟨haborted, hstep⟩ := Option.ite_none_left_eq_some.mp hstep
      cases hstep
      exact settled_of_early rfl (h.early (by rw [hphase]; rfl)) h.reorged
        fun _ haborted' => absurd haborted' haborted
    · cases hstep
  | submitted =>
    simp only [step] at hstep
    split at hstep
    · rename_i hphase
      cases hstep
      split
      · exact h.afterVerification (by rw [hphase]; rfl) (by rw [hphase]; rfl)
      · exact h.goEarly (by rw [hphase]; rfl) (by rw [hphase]; rfl) rfl
    · cases hstep
  | verified reorged =>
    simp only [step] at hstep
    split at hstep
    · rename_i hphase
      cases hstep
      have hverified : Settled absent clear
          { s with chainReorged := reorged, foundReorged := s.foundReorged || reorged } := by
        refine ⟨h.early, fun hreorged => ?_, h.aborted, h.unsaved, h.removed, fun hcompleting => ?_,
          fun outcome hended => ?_⟩
        · rcases Bool.or_eq_true_iff.mp hreorged with hold | hnew
          · exact h.reorged hold
          · exact hok hnew
        · cases hphase.symm.trans hcompleting
        · cases hphase.symm.trans hended
      exact hverified.afterVerification (by rw [hphase]; rfl) (by rw [hphase]; rfl)
    · cases hstep
  | transactionsDeleted =>
    simp only [step] at hstep
    split at hstep
    · rename_i hphase
      cases hstep
      refine h.startFinalization (by rw [hphase]; rfl) fun habsent => ?_
      rw [h.early (by rw [hphase]; rfl), hok habsent, List.append_nil]
    · cases hstep
  | saved =>
    obtain ⟨hsaving, hstep⟩ := Option.ite_none_right_eq_some.mp hstep
    cases hstep
    refine settled_finalization h (by rw [hsaving]; decide) fun _ _ hunsaved => ?_
    rcases hunsaved with hunsaved | hunsaved <;> cases hunsaved
  | saveFailed =>
    obtain ⟨hsaving, hstep⟩ := Option.ite_none_right_eq_some.mp hstep
    cases hstep
    exact settled_finalization h (by rw [hsaving]; decide) fun scan hphase _ => hok scan hphase
  | reverted =>
    obtain ⟨hreverting, hstep⟩ := Option.ite_none_right_eq_some.mp hstep
    cases hstep
    exact settled_finalization h (by rw [hreverting]; decide) fun scan hphase _ =>
      h.unsaved scan hphase (Or.inl hreverting)
  | queried | queryFailed =>
    simp only [step] at hstep
    split at hstep
    · rename_i hphase
      obtain ⟨tx, -, rfl⟩ := Option.map_eq_some_iff.mp hstep
      exact h.rescan hphase
    · cases hstep
  | batchDone =>
    simp only [step] at hstep
    split at hstep
    · rename_i hphase
      cases hstep
      exact h.afterBatch hphase
    · cases hstep
  | conflictsDeleted =>
    simp only [step] at hstep
    split at hstep
    · rename_i conflictIds hphase
      cases hstep
      exact settled_conflictsDeleted h hphase (hok conflictIds hphase)
    · cases hstep
  | joined =>
    simp only [step] at hstep
    split at hstep
    · rename_i hfinished hphase
      cases hstep
      exact h.afterFinalization hphase hfinished
    · rename_i hfinished hphase
      cases hstep
      exact h.afterFinalization hphase hfinished
    · cases hstep
  | completed =>
    simp only [step] at hstep
    split at hstep
    · rename_i hphase
      cases hstep
      exact h.ended_saved hphase (by decide)
    · cases hstep

/-- **Run theorem.** In an orderly run a process that ended found reorged, found aborted or without
its block finalised has removed nothing from the mempool. -/
theorem intact_of_orderly (resync : Bool) (transactions : List SpendingTransaction)
    (mempool : Collection SpendingTransaction) (absent clear : Bool) (events : List ProcessEvent)
    (s : MempoolTask)
    (hmeets : Meets step (Orderly absent clear) (start resync transactions mempool) events)
    (hrun : runFrom step (start resync transactions mempool) events = some s) : s.Intact := by
  have hsettled : s.Settled absent clear :=
    invariant_runFrom (fun s e s' h hok hstep => settled_step h hok hstep) events _ s
      (settled_start resync transactions mempool) hmeets hrun
  exact hsettled.intact

/-- A transaction of the sample block. -/
def minedTransaction : SpendingTransaction := ⟨"mined", [⟨"funding", 0⟩]⟩

def doubleSpend : SpendingTransaction := ⟨"double spend", [⟨"funding", 0⟩]⟩

/-- The task is aborted once the block is executed, and only a transaction in conflict with the
block is in the mempool. -/
def abortedRun : List ProcessEvent :=
  [.prefetched, .executed, .submitted, .cancel false, .verified true, .transactionsDeleted,
    .queried 0, .batchDone]

theorem meets_abortedRun :
    Meets step (Orderly true false) (start false [minedTransaction] [doubleSpend]) abortedRun := by
  refine ⟨trivial, ?_⟩
  intro s₁ h₁
  cases h₁
  refine ⟨trivial, ?_⟩
  intro s₂ h₂
  cases h₂
  refine ⟨trivial, ?_⟩
  intro s₃ h₃
  cases h₃
  refine ⟨fun _ => ⟨rfl, Or.inr rfl⟩, ?_⟩
  intro s₄ h₄
  cases h₄
  refine ⟨fun _ => ⟨rfl, Or.inr rfl⟩, ?_⟩
  intro s₅ h₅
  cases h₅
  refine ⟨fun _ => by decide, ?_⟩
  intro s₆ h₆
  cases h₆
  refine ⟨trivial, ?_⟩
  intro s₇ h₇
  cases h₇
  exact ⟨trivial, fun _ _ => trivial⟩

theorem intact_abortedRun :
    (runFrom step (start false [minedTransaction] [doubleSpend]) abortedRun).isSome = true ∧
      ∀ s, runFrom step (start false [minedTransaction] [doubleSpend]) abortedRun = some s →
        s.Intact :=
  ⟨by decide, fun s hrun => intact_of_orderly false [minedTransaction] [doubleSpend] true false
    abortedRun s meets_abortedRun hrun⟩

/-- `verifyReorg` finds a reorg, and the process goes on to its end. -/
def reorgedRun : List ProcessEvent :=
  [.prefetched, .executed, .submitted, .verified true, .transactionsDeleted, .saved, .queried 0,
    .batchDone, .conflictsDeleted, .joined, .completed]

/-- A task found reorged has removed the block's transaction and the one in conflict with it. -/
theorem not_intact_reorged :
    ¬ ∀ s, runFrom step (start false [minedTransaction] [minedTransaction, doubleSpend]) reorgedRun =
      some s → s.Intact := by
  intro h
  have hrun : runFrom step (start false [minedTransaction] [minedTransaction, doubleSpend])
      reorgedRun = some
        { start false [minedTransaction] [] with
          phase := .ended .completed
          chainReorged := true
          foundReorged := true
          finalization := .finished true
          removed := [minedTransaction, doubleSpend] } := by
    decide
  have hremoved := h _ hrun .completed rfl (Or.inl rfl)
  cases hremoved

end OpnetNode.MempoolTask
