import OpnetNode.Sync.Equiv.ChainSynchronisation
import OpnetNode.Sync.ChainSynchronisation

/-!
# No UTXO block is lost

* `NoLostBlock`: every indexed block below the height a node resumes from was written by a
  successful insert.
* `progressInv_step`: kept by every event, if no insert fails and `setNewHeight` does not get ahead
  of the bundles in memory.
* `noLostBlock`: so it holds along every such run.
* `noLostBlock_memoryOnly`: a node that persists its height before its bundles and stops loses them.
-/

namespace OpnetNode

namespace ChainSynchronisation

/-- The bundles that are in memory and not written. -/
def unsaved (s : ChainSynchronisation) : List Bundle :=
  s.unspentTransactionOutputs ++
    match s.pendingSave with
    | some ⟨utxoBatch, .processPublicKeys⟩ => utxoBatch
    | some ⟨utxoBatch, .insertTransactions⟩ => utxoBatch
    | _ => []

/-- A successful insert wrote a bundle of this height. -/
def isSaved (s : ChainSynchronisation) (height : ℕ) : Bool :=
  s.inserts.any fun insert =>
    insert.succeeded && insert.utxoBatch.any fun utxo => utxo.block.blockHeight = height

/-- A height that the thread has: in memory, or written. -/
def Holds (s : ChainSynchronisation) (height : ℕ) : Prop :=
  (∃ utxo ∈ s.unsaved, utxo.block.blockHeight = height) ∨ s.isSaved height

variable {s s' : ChainSynchronisation} {height : ℕ}

theorem isSaved_append {inserts : List Insert}
    (h : s'.inserts = s.inserts ++ inserts) (hsaved : s.isSaved height) :
    s'.isSaved height := by
  unfold isSaved at hsaved ⊢
  rw [h, List.any_append, hsaved, Bool.true_or]

variable {config : SyncConfig} {e : SyncEvent}

theorem isSaved_step (heffect : Effect config s s' e) (hsaved : s.isSaved height) :
    s'.isSaved height := by
  rcases heffect.inserts_eq with hsame | ⟨save, succeeded, -, hinserts⟩
  · unfold isSaved at hsaved ⊢
    rw [hsame]
    exact hsaved
  · exact isSaved_append hinserts hsaved

theorem not_indexable_of_neutral (hneutral : Neutral config s e)
    (hdelivered : height ∈ SyncProgress.deliveredBy s e) : ¬ indexable config height := by
  cases e with
  | blockFetched id hash transactions =>
    rw [SyncProgress.deliveredBy, Option.mem_map] at hdelivered
    obtain ⟨query, hquery, rfl⟩ := hdelivered
    rw [hneutral query hquery]
    exact Bool.false_ne_true
  | _ => cases hdelivered

/-- A bundle in memory stays there until it is written, unless its insert fails. -/
theorem holds_of_mem_unsaved
    (heffect : Effect config s s' e) (hok : e ≠ .inserted false) {utxo : Bundle}
    (hutxo : utxo ∈ s.unsaved) : s'.Holds utxo.block.blockHeight := by
  cases heffect with
  | idle _ hqueue hpending _ =>
    refine .inl ⟨utxo, ?_, rfl⟩
    unfold unsaved at hutxo ⊢
    rwa [hqueue, hpending]
  | pushed _ hqueue hpending _ =>
    refine .inl ⟨utxo, ?_, rfl⟩
    unfold unsaved at hutxo ⊢
    rw [hqueue, hpending]
    rcases List.mem_append.mp hutxo with hmem | hmem
    · exact List.mem_append_left _ (List.mem_append_left _ hmem)
    · exact List.mem_append_right _ hmem
  | saving _ hnone hpending hqueue _ =>
    refine .inl ⟨utxo, ?_, rfl⟩
    unfold unsaved at hutxo ⊢
    rw [hnone, List.append_nil] at hutxo
    rw [hqueue, hpending]
    exact hutxo
  | keysProcessed hbefore hpending hqueue _ =>
    refine .inl ⟨utxo, ?_, rfl⟩
    unfold unsaved at hutxo ⊢
    rw [hbefore] at hutxo
    rw [hqueue, hpending]
    exact hutxo
  | @inserted utxoBatch succeeded hbefore hpending hqueue hinserts =>
    unfold unsaved at hutxo
    rw [hbefore] at hutxo
    rcases List.mem_append.mp hutxo with hmem | hmem
    · refine .inl ⟨utxo, ?_, rfl⟩
      unfold unsaved
      rw [hqueue]
      exact List.mem_append_left _ hmem
    · -- the batch of a successful insert
      have hsucceeded : succeeded = true := by
        cases succeeded with
        | false => exact absurd rfl hok
        | true => rfl
      right
      unfold isSaved
      rw [hinserts, hsucceeded, List.any_append]
      have hany : utxoBatch.any (fun x => x.block.blockHeight = utxo.block.blockHeight) :=
        List.any_eq_true.mpr ⟨utxo, hmem, by simp⟩
      simp [hany]
  | saved hbefore hpending hqueue _ =>
    -- the batch of a save that ends was inserted before
    refine .inl ⟨utxo, ?_, rfl⟩
    unfold unsaved at hutxo ⊢
    rw [hbefore] at hutxo
    rw [hqueue, hpending]
    exact hutxo

theorem holds_of_delivered (heffect : Effect config s s' e)
    (hdelivered : height ∈ SyncProgress.deliveredBy s e) (hindexable : indexable config height) :
    s'.Holds height := by
  cases heffect with
  | @pushed query hash transactions hquery hqueue hpending _ =>
    refine .inl ⟨⟨query.id, ⟨query.blockNumber, transactions⟩⟩, ?_, ?_⟩
    · unfold unsaved
      rw [hqueue]
      exact List.mem_append_left _ (List.mem_append_right _ (List.mem_singleton_self _))
    · rw [SyncProgress.deliveredBy, hquery] at hdelivered
      exact Option.some.inj hdelivered
  | idle hneutral => exact absurd hindexable (not_indexable_of_neutral hneutral hdelivered)
  | saving hneutral => exact absurd hindexable (not_indexable_of_neutral hneutral hdelivered)
  | keysProcessed | inserted | saved => cases hdelivered

theorem holds_step (heffect : Effect config s s' e) (hok : e ≠ .inserted false)
    (h : s.Holds height) : s'.Holds height := by
  rcases h with ⟨utxo, hutxo, rfl⟩ | hsaved
  · exact holds_of_mem_unsaved heffect hok hutxo
  · exact .inr (isSaved_step heffect hsaved)

end ChainSynchronisation

namespace SyncProgress

open ChainSynchronisation (indexable)

/-- Every indexed block below the height the node resumes from was written. -/
def NoLostBlock (config : SyncConfig) (s : SyncProgress) : Prop :=
  ∀ height, height < s.fetchCurrentHeightFromDB → indexable config height → s.sync.isSaved height

/-- An insert does not fail, and a height is persisted only when no bundle of a lower block is in
memory. -/
def SavedFirst (s : SyncProgress) : ProgressEvent → Prop
  | .sync e => e ≠ .inserted false
  | .taskCompleted => ∀ utxo ∈ s.sync.unsaved, s.pendingTaskHeight ≤ utxo.block.blockHeight
  | .restart => True

instance decidableSavedFirst (s : SyncProgress) : ∀ e, Decidable (SavedFirst s e)
  | .sync e => inferInstanceAs (Decidable (e ≠ .inserted false))
  | .taskCompleted =>
    inferInstanceAs (Decidable
      (∀ utxo ∈ s.sync.unsaved, s.pendingTaskHeight ≤ utxo.block.blockHeight))
  | .restart => isTrue trivial

/-- What holds along a run: the thread has the bundles it handed over, and the blocks from the
height the node resumes from up to the next task were handed over. -/
structure ProgressInv (config : SyncConfig) (s : SyncProgress) : Prop where
  saved : NoLostBlock config s
  held : ∀ height ∈ s.delivered, indexable config height → s.sync.Holds height
  processed : ∀ height, s.fetchCurrentHeightFromDB ≤ height → height < s.pendingTaskHeight →
    height ∈ s.delivered

theorem fetchCurrentHeightFromDB_setNewHeight (height : ℕ) (s : SyncProgress) :
    (setNewHeight height s).fetchCurrentHeightFromDB = height := by
  unfold fetchCurrentHeightFromDB setNewHeight
  simp

variable {config : SyncConfig} {s : SyncProgress}

theorem progressInv_sync {e : ChainSynchronisation.SyncEvent}
    {sync : ChainSynchronisation} (h : ProgressInv config s) (hstep : s.sync.step config e = some sync)
    (hok : e ≠ .inserted false) :
    ProgressInv config
      { s with sync, delivered := (deliveredBy s.sync e).toList ++ s.delivered } := by
  have heffect := ChainSynchronisation.step_effect hstep
  refine ⟨?_, ?_, ?_⟩
  · intro height hlt hindexable
    exact ChainSynchronisation.isSaved_step heffect (h.saved height hlt hindexable)
  · intro height hmem hindexable
    rcases List.mem_append.mp hmem with hfetched | hold
    · exact ChainSynchronisation.holds_of_delivered heffect (Option.mem_toList.mp hfetched)
        hindexable
    · exact ChainSynchronisation.holds_step heffect hok (h.held height hold hindexable)
  · intro height hle hlt
    exact List.mem_append_right _ (h.processed height hle hlt)

theorem progressInv_taskCompleted
    (h : ProgressInv config s) (hdelivered : s.pendingTaskHeight ∈ s.delivered)
    (hok : SavedFirst s .taskCompleted) :
    ProgressInv config
      { setNewHeight s.pendingTaskHeight s with pendingTaskHeight := s.pendingTaskHeight + 1 } := by
  refine ⟨?_, h.held, ?_⟩
  · intro height hlt hindexable
    have hlt : height < s.pendingTaskHeight := by
      rw [← fetchCurrentHeightFromDB_setNewHeight s.pendingTaskHeight s]
      exact hlt
    by_cases hold : height < s.fetchCurrentHeightFromDB
    · exact h.saved height hold hindexable
    · have hmem := h.processed height (not_lt.mp hold) hlt
      rcases h.held height hmem hindexable with ⟨utxo, hutxo, rfl⟩ | hsaved
      · have hle := hok utxo hutxo
        omega
      · exact hsaved
  · intro height hle hlt
    have hle : s.pendingTaskHeight ≤ height := by
      rw [← fetchCurrentHeightFromDB_setNewHeight s.pendingTaskHeight s]
      exact hle
    have hlt : height < s.pendingTaskHeight + 1 := hlt
    have heq : height = s.pendingTaskHeight := by omega
    rw [heq]
    exact hdelivered

theorem progressInv_start (h : ProgressInv config s) : ProgressInv config (start s) := by
  have hheight : (start s).fetchCurrentHeightFromDB = s.fetchCurrentHeightFromDB :=
    fetchCurrentHeightFromDB_setNewHeight _ _
  refine ⟨?_, ?_, ?_⟩
  · intro height hlt hindexable
    rw [hheight] at hlt
    exact h.saved height hlt hindexable
  · intro height hmem
    cases hmem
  · intro height hle hlt
    rw [hheight] at hle
    have hlt : height < s.fetchCurrentHeightFromDB := hlt
    omega

theorem progressInv_step (s : SyncProgress) (e : ProgressEvent)
    (s' : SyncProgress) (h : ProgressInv config s) (hok : SavedFirst s e)
    (hstep : step config s e = some s') : ProgressInv config s' := by
  cases e with
  | sync e =>
    rw [step, Option.map_eq_some_iff] at hstep
    obtain ⟨sync, hsync, rfl⟩ := hstep
    exact progressInv_sync h hsync hok
  | taskCompleted =>
    rw [step] at hstep
    split at hstep
    · rename_i hdelivered
      cases hstep
      exact progressInv_taskCompleted h hdelivered hok
    · cases hstep
  | restart =>
    cases hstep
    exact progressInv_start h

theorem progressInv_initial (config : SyncConfig) : ProgressInv config initial := by
  refine ⟨?_, ?_, ?_⟩
  · intro height hlt
    cases hlt
  · intro height hmem
    cases hmem
  · intro height _ hlt
    cases hlt

/-- **No lost UTXO block.** In every run in which no insert fails, and no height is persisted while a
bundle of a lower block is in memory, every indexed block below the height the node would resume from
was written. -/
theorem noLostBlock (config : SyncConfig) (events : List ProgressEvent) (s : SyncProgress)
    (hok : Meets (step config) SavedFirst initial events)
    (hrun : runFrom (step config) initial events = some s) : NoLostBlock config s :=
  (invariant_runFrom (P := ProgressInv config) progressInv_step events initial s
    (progressInv_initial config) hok hrun).saved

/-- The genesis block and block 1 are processed, and block 1 is written before block 2 is done. -/
def savingRun : List ProgressEvent :=
  [.sync (.queryBlock 0), .sync (.blockFetched 0 [0] []), .taskCompleted,
    .sync (.queryBlock 1), .sync (.blockFetched 1 [1] []), .taskCompleted,
    .sync .nextTick, .sync .publicKeysProcessed, .sync (.inserted true), .sync .saved,
    .sync (.queryBlock 2), .sync (.blockFetched 2 [2] []), .taskCompleted, .restart]

theorem noLostBlock_saved : ∃ s, runFrom (step ⟨0⟩) initial savingRun = some s ∧
    s.fetchCurrentHeightFromDB = 2 ∧ NoLostBlock ⟨0⟩ s := by
  have hstate : (runFrom (step ⟨0⟩) initial savingRun).map fetchCurrentHeightFromDB = some 2 := by
    decide +kernel
  obtain ⟨s, hrun, hheight⟩ := Option.map_eq_some_iff.mp hstate
  exact ⟨s, hrun, hheight, noLostBlock ⟨0⟩ savingRun s (by decide +kernel) hrun⟩

/-- Far from the tip of the chain nothing is saved after a block: the height is persisted, and the
bundles of blocks 1 and 2 are in memory when the process stops. -/
def memoryOnlyRun : List ProgressEvent :=
  [.sync (.saveLoop 100),
    .sync (.queryBlock 0), .sync (.blockFetched 0 [0] []), .sync .nextTick, .taskCompleted,
    .sync (.queryBlock 1), .sync (.blockFetched 1 [1] []), .sync .nextTick, .taskCompleted,
    .sync (.queryBlock 2), .sync (.blockFetched 2 [2] []), .sync .nextTick, .taskCompleted,
    .restart]

theorem noLostBlock_memoryOnly : ¬ ∀ events s,
    runFrom (step ⟨0⟩) initial events = some s → NoLostBlock ⟨0⟩ s := by
  intro h
  have hlost : (runFrom (step ⟨0⟩) initial memoryOnlyRun).map
      (fun s => (s.fetchCurrentHeightFromDB, s.sync.isSaved 1)) = some (2, false) := by
    decide +kernel
  obtain ⟨s, hrun, hfields⟩ := Option.map_eq_some_iff.mp hlost
  obtain ⟨hheight, hsaved⟩ := Prod.mk.inj hfields
  have hnot := h memoryOnlyRun s hrun 1 (by omega) (by decide)
  cases hsaved.symm.trans hnot

end SyncProgress

end OpnetNode
