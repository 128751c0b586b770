import OpnetNode.Indexer.RevertChain
import OpnetNode.Storage.Equiv.RevertData

/-!
# The lock after a failed revert

* `changes_eq_any`: the commands of a purge change something if and only if one of them matches a
  document of the database as it was.
* `runProgram_of_no_fault`: without a fault the purge is `revertDataUntilBlock`.
* `revertChain_of_error`: how a failed call ends.
* `lockedAfterPartialRevert_iff`: a failed call leaves the indexer locked exactly when it has changed
  the storage, if and only if it did not fail inside a purge that had changed something, nor after
  one that had not.
* `lockedAfterPartialRevert_deletion`: a deletion that fails after another one has succeeded.
-/

namespace OpnetNode

namespace VMMongoStorage

open MLDSAPublicKeyRepository UnspentTransactionRepository

/-! ### The commands of a purge -/

/-- A command that matches no document leaves the database as it is, and none touches the persisted
height. -/
structure Command.Purges (command : Command) : Prop where
  idle : ∀ db, command.hits db = false → command.run db = db
  inProgressBlock : ∀ db, (command.run db).inProgressBlock = db.inProgressBlock

theorem purges_deleteByHeight {α : Type} {get : Database → Collection α}
    {set : Collection α → Database → Database} {height : α → ℕ} {range : HeightRange}
    (hset : ∀ db, set (get db) db = db)
    (hheight : ∀ c db, (set c db).inProgressBlock = db.inProgressBlock) :
    Command.Purges (deleteByHeight get set height range) := by
  refine ⟨fun db h => ?_, fun db => hheight _ db⟩
  show set _ db = db
  rw [Collection.deleteMany_eq_self h, hset]

theorem purges_nullExposedKeys (range : HeightRange) : Command.Purges (nullExposedKeys range) := by
  refine ⟨fun db h => ?_, fun _ => rfl⟩
  show { db with mldsaPublicKeys := nullPublicKeys range db.mldsaPublicKeys } = db
  unfold nullPublicKeys
  rw [Collection.updateMany_eq_self h]

theorem purges_deleteUtxos (range : HeightRange) : Command.Purges (deleteUtxos range) := by
  refine ⟨fun db h => ?_, fun _ => rfl⟩
  have hutxos : deleteCreated range db.unspentTransactions = db.unspentTransactions :=
    IndexedCollection.ext (Collection.deleteMany_eq_self h)
  show { db with unspentTransactions := deleteCreated range db.unspentTransactions } = db
  rw [hutxos]

theorem purges_unspendUtxos (range : HeightRange) : Command.Purges (unspendUtxos range) := by
  refine ⟨fun db h => ?_, fun _ => rfl⟩
  have hutxos : undoSpent range db.unspentTransactions = db.unspentTransactions :=
    IndexedCollection.ext (Collection.updateMany_eq_self h)
  show { db with unspentTransactions := undoSpent range db.unspentTransactions } = db
  rw [hutxos]

theorem purges_deleteAllTargetEpochs : Command.Purges deleteAllTargetEpochs := by
  refine ⟨fun db h => ?_, fun _ => rfl⟩
  have hnil : db.targetEpochs = [] := by simpa [deleteAllTargetEpochs] using h
  show { db with targetEpochs := [] } = db
  rw [← hnil]

theorem purges_deleteMempool : Command.Purges deleteMempool := by
  refine ⟨fun db h => ?_, fun _ => rfl⟩
  have hnil : db.mempool = [] := by simpa [deleteMempool] using h
  show { db with mempool := [] } = db
  rw [← hnil]

theorem purges_rangeStages (config : RevertConfig) (range : HeightRange) :
    ∀ command ∈ (rangeStages config true range).flatten.flatten, Command.Purges command := by
  have hjobs : ∀ command ∈ (rangeJobs true range).flatten, Command.Purges command := by
    intro command hmem
    simp only [rangeJobs, if_true, List.cons_append, List.nil_append, List.flatten_cons,
      List.flatten_nil, List.mem_cons, List.not_mem_nil, or_false] at hmem
    rcases hmem with rfl | rfl | rfl | rfl | rfl | rfl | rfl | rfl | rfl | rfl | rfl | rfl
    · exact purges_deleteByHeight (fun _ => rfl) fun _ _ => rfl
    · exact purges_deleteUtxos range
    · exact purges_unspendUtxos range
    · exact purges_deleteByHeight (fun _ => rfl) fun _ _ => rfl
    · exact purges_deleteByHeight (fun _ => rfl) fun _ _ => rfl
    · exact purges_deleteByHeight (fun _ => rfl) fun _ _ => rfl
    · exact purges_deleteByHeight (fun _ => rfl) fun _ _ => rfl
    · exact purges_deleteByHeight (fun _ => rfl) fun _ _ => rfl
    · exact purges_deleteByHeight (fun _ => rfl) fun _ _ => rfl
    · exact purges_deleteByHeight (fun _ => rfl) fun _ _ => rfl
    · exact purges_nullExposedKeys range
    · exact purges_deleteByHeight (fun _ => rfl) fun _ _ => rfl
  intro command hmem
  apply hjobs
  unfold rangeStages at hmem
  split at hmem
  · rwa [← List.flatMap_def, List.flatMap_singleton'] at hmem
  · rwa [List.flatten_singleton] at hmem

theorem purges_liveRevertStages (config : RevertConfig) (fromHeight : ℕ) (db : Database) :
    ∀ command ∈ (liveRevertStages config fromHeight db).flatten.flatten,
      Command.Purges command := by
  intro command hmem
  unfold liveRevertStages revertStages lowStages at hmem
  rw [List.flatten_append, List.flatten_append, List.mem_append, List.flatten_append,
    List.flatten_append, List.mem_append, List.flatten_cons, List.flatten_append,
    List.mem_append] at hmem
  rcases hmem with ((htarget | hfirst) | hbatches) | hlow
  · rw [List.flatten_singleton, List.mem_singleton] at htarget
    rw [htarget]
    exact purges_deleteAllTargetEpochs
  · exact purges_rangeStages config _ command hfirst
  · obtain ⟨job, hjob, hmem⟩ := List.mem_flatten.mp hbatches
    obtain ⟨stage, hstage, hjob⟩ := List.mem_flatten.mp hjob
    obtain ⟨range, -, hstage⟩ := List.mem_flatMap.mp hstage
    exact purges_rangeStages config range command
      (List.mem_flatten.mpr ⟨job, List.mem_flatten.mpr ⟨stage, hstage, hjob⟩, hmem⟩)
  · -- a height is not negative, so the whole collection is not deleted
    split at hlow
    · rw [if_pos rfl, if_neg (by omega)] at hlow
      simp only [List.cons_append, List.nil_append, List.flatten_cons, List.flatten_nil,
        List.mem_cons, List.not_mem_nil, or_false] at hlow
      rcases hlow with rfl | rfl
      · exact purges_deleteMempool
      · exact purges_deleteUtxos _
    · cases hlow

/-- Commands change something if and only if one of them matches a document of the database as it
was. -/
theorem changes_eq_any {commands : List Command} (h : ∀ command ∈ commands, Command.Purges command)
    (db : Database) : changes commands db = commands.any fun command => command.hits db := by
  -- up to the first command that matches something, the database is as it was
  induction commands with
  | nil => rfl
  | cons command commands ih =>
    rw [changes, List.any_cons]
    cases hhits : command.hits db with
    | true => rw [Bool.true_or, Bool.true_or]
    | false =>
      rw [Bool.false_or, Bool.false_or, (h command List.mem_cons_self).idle db hhits]
      exact ih fun c hc => h c (List.mem_cons_of_mem _ hc)

theorem inProgressBlock_foldl {commands : List Command}
    (h : ∀ command ∈ commands, Command.Purges command) (db : Database) :
    (commands.foldl (fun db command => command.run db) db).inProgressBlock
      = db.inProgressBlock := by
  induction commands generalizing db with
  | nil => rfl
  | cons command commands ih =>
    rw [List.foldl_cons, ih fun c hc => h c (List.mem_cons_of_mem _ hc),
      (h command List.mem_cons_self).inProgressBlock]

/-! ### The commands that were applied -/

variable {fault : ℕ → CommandFault} {n : ℕ} {command : Command}

theorem mem_runJob {job : Job} (h : command ∈ (runJob fault n job).1) : command ∈ job := by
  induction job generalizing n with
  | nil => exact h
  | cons first job ih =>
    rw [runJob] at h
    split at h
    · split at h
      · rw [List.mem_singleton.mp h]
        exact List.mem_cons_self
      · cases h
    · rcases List.mem_cons.mp h with rfl | hrest
      · exact List.mem_cons_self
      · exact List.mem_cons_of_mem _ (ih hrest)

theorem mem_runStage {stage : Stage}
    (h : command ∈ (runStage fault n stage).1) : command ∈ stage.flatten := by
  induction stage generalizing n with
  | nil => exact h
  | cons job stage ih =>
    rw [List.flatten_cons, List.mem_append]
    rcases List.mem_append.mp h with hjob | hrest
    · exact .inl (mem_runJob hjob)
    · exact .inr (ih hrest)

theorem mem_runProgram {stages : List Stage} (h : command ∈ (runProgram fault n stages).1) :
    command ∈ stages.flatten.flatten := by
  induction stages generalizing n with
  | nil => exact h
  | cons stage stages ih =>
    rw [List.flatten_cons, List.flatten_append, List.mem_append]
    rw [runProgram] at h
    split at h
    · exact .inl (mem_runStage h)
    · rcases List.mem_append.mp h with hstage | hrest
      · exact .inl (mem_runStage hstage)
      · exact .inr (ih hrest)

theorem runProgram_of_no_fault (h : ∀ n, fault n = none) (n : ℕ)
    (stages : List Stage) : runProgram fault n stages = (stages.flatten.flatten, false) := by
  have hjob : ∀ n job, runJob fault n job = (job, false) := by
    intro n job
    induction job generalizing n with
    | nil => rfl
    | cons command job ih => rw [runJob, h n, ih]
  have hstage : ∀ n stage, runStage fault n stage = (stage.flatten, false) := by
    intro n stage
    induction stage generalizing n with
    | nil => rfl
    | cons job stage ih => rw [runStage, hjob, ih, List.flatten_cons, Bool.false_or]
  induction stages generalizing n with
  | nil => rfl
  | cons stage stages ih =>
    rw [runProgram, hstage, if_neg Bool.false_ne_true, ih, List.flatten_cons, List.flatten_append]

end VMMongoStorage

namespace BlockIndexer

open VMMongoStorage

variable {config : RevertConfig} {fromHeight : ℕ} {faults : RevertFaults}

theorem revertDataUntilBlock_of_no_fault (hreads : faults.readHeights = false)
    (h : ∀ n, faults.command n = none) (s : RevertState) :
    (revertDataUntilBlock config fromHeight faults s).map RevertState.db
      = .ok (VMMongoStorage.revertDataUntilBlock config fromHeight (some true) s.db) := by
  unfold revertDataUntilBlock
  rw [hreads, if_neg Bool.false_ne_true, runProgram_of_no_fault h]
  rfl

/-! ### How a call fails -/

/-- A step before the first deletion throws. -/
def failsEarly (faults : RevertFaults) : Bool :=
  faults.stopAllTasks || faults.stopAllTasksAgain || faults.notifyThreadReorg
    || faults.killAllPendingWrites || faults.readHeights

/-- `onChainReorganisation` writes a height that was not there. -/
def heightWritten (fromHeight : ℕ) (faults : RevertFaults) (db : Database) : Bool :=
  decide (fromHeight ≠ 0) && decide (faults.setNewHeight ≠ some false)
    && decide (db.inProgressBlock ≠ fromHeight + 1)

/-- The reorg is recorded. -/
def reorgWritten (fromHeight : ℕ) (reorged : Bool) (faults : RevertFaults) : Bool :=
  reorged && decide (fromHeight ≠ 0) && !faults.fetchChainHeight && !faults.setNewHeight.isSome
    && !faults.setConsensusBlockHeight && decide (faults.setReorg ≠ some false)

/-- The last two steps. -/
def recordAndNotify (fromHeight toHeight : ℕ) (reorged : Bool) (faults : RevertFaults)
    (s : RevertState) : Except RevertState RevertState := do
  let s ← if reorged then reorgFromHeight fromHeight toHeight faults s else .ok s
  awaitStep faults.notifyPluginsOfReorg s

variable {s s' : RevertState}

theorem awaitStep_error {throws : Bool} (h : awaitStep throws s = .error s') :
    throws = true ∧ s' = s := by
  unfold awaitStep at h
  split at h
  · rename_i hthrows
    exact ⟨hthrows, (Except.error.inj h).symm⟩
  · cases h

variable {toHeight : ℕ} {reorged : Bool}

theorem recordAndNotify_error (hzero : fromHeight ≠ 0)
    (h : recordAndNotify fromHeight toHeight reorged faults s = .error s') :
    s'.storageModified = s.storageModified ∧ s'.chainReorged = s.chainReorged
      ∧ s'.changed = (s.changed || (reorged && decide (faults.setReorg ≠ some false))) := by
  unfold recordAndNotify at h
  cases reorged with
  | false =>
    obtain ⟨-, rfl⟩ := awaitStep_error h
    simp
  | true =>
    rw [if_pos rfl, reorgFromHeight, if_neg hzero] at h
    cases hset : faults.setReorg with
    | none =>
      rw [hset] at h
      obtain ⟨-, rfl⟩ := awaitStep_error h
      simp [setReorg]
    | some applied =>
      rw [hset] at h
      cases applied with
      | true =>
        obtain rfl := Except.error.inj h
        simp [setReorg]
      | false =>
        obtain rfl := Except.error.inj h
        simp

def afterPurge (fromHeight toHeight : ℕ) (reorged : Bool) (faults : RevertFaults)
    (s : RevertState) : Except RevertState RevertState := do
  let s ← onChainReorganisation fromHeight faults s
  recordAndNotify fromHeight toHeight reorged faults s

theorem afterPurge_error (h : afterPurge fromHeight toHeight reorged faults s = .error s') :
    s'.storageModified = s.storageModified ∧ s'.chainReorged = s.chainReorged
      ∧ s'.changed = (s.changed || heightWritten fromHeight faults s.db
        || reorgWritten fromHeight reorged faults) := by
  unfold afterPurge onChainReorganisation at h
  by_cases hzero : fromHeight = 0
  · rw [if_pos hzero] at h
    obtain rfl := Except.error.inj h
    simp [heightWritten, reorgWritten, hzero]
  · rw [if_neg hzero] at h
    -- the state after the write of the height
    set written := if faults.setNewHeight = some false then s else setNewHeight fromHeight s
      with hwritten
    have hstate : written.storageModified = s.storageModified
        ∧ written.chainReorged = s.chainReorged
        ∧ written.changed = (s.changed || heightWritten fromHeight faults s.db) := by
      rw [hwritten]
      split
      · rename_i hfalse
        simp [heightWritten, hfalse]
      · rename_i hfalse
        simp [heightWritten, setNewHeight, hfalse, hzero]
    obtain ⟨hmodified, hreorged, hchanged⟩ := hstate
    rw [← hmodified, ← hreorged, ← hchanged]
    by_cases hheight : faults.fetchChainHeight || faults.setNewHeight.isSome
    · rw [if_pos hheight] at h
      obtain rfl := Except.error.inj h
      rcases (Bool.or_eq_true _ _).mp hheight with hfetch | hset
      · simp [reorgWritten, hfetch]
      · simp [reorgWritten, hset]
    · rw [if_neg hheight] at h
      rw [Bool.or_eq_true, not_or, Bool.not_eq_true, Bool.not_eq_true] at hheight
      by_cases hconsensus : faults.setConsensusBlockHeight
      · rw [if_pos hconsensus] at h
        obtain rfl := Except.error.inj h
        simp [reorgWritten, hconsensus]
      · rw [if_neg hconsensus] at h
        have hrest : reorgWritten fromHeight reorged faults
            = (reorged && decide (faults.setReorg ≠ some false)) := by
          simp [reorgWritten, hzero, hheight.1, hheight.2, hconsensus]
        rw [hrest]
        exact recordAndNotify_error hzero h

/-- The commands of the purge that were applied, and whether it threw. -/
def purgeRun (config : RevertConfig) (fromHeight : ℕ) (faults : RevertFaults) (db : Database) :
    List Command × Bool :=
  runProgram faults.command 0 (liveRevertStages config fromHeight db)

/-- The state when `revertChain` calls the purge. -/
def lockedState (db : Database) : RevertState :=
  { chainReorged := true, storageModified := false, db, changed := false }

/-- The state when the purge has ended, or thrown. -/
def purgedState (config : RevertConfig) (fromHeight : ℕ) (faults : RevertFaults) (db : Database) :
    RevertState :=
  { lockedState db with
    db := (purgeRun config fromHeight faults db).1.foldl (fun db command => command.run db) db
    changed := changes (purgeRun config fromHeight faults db).1 db }

variable {db : Database}

theorem revertSteps_early (h : failsEarly faults) :
    revertSteps config fromHeight toHeight reorged faults (lockedState db)
      = .error (lockedState db) := by
  unfold revertSteps
  cases hstop : faults.stopAllTasks with
  | true => rfl
  | false => cases hagain : faults.stopAllTasksAgain with
    | true => rfl
    | false => cases hnotify : faults.notifyThreadReorg with
      | true => rfl
      | false => cases hkill : faults.killAllPendingWrites with
        | true => rfl
        | false =>
          have hreads : faults.readHeights = true := by
            simpa [failsEarly, hstop, hagain, hnotify, hkill] using h
          show (revertDataUntilBlock config fromHeight faults (lockedState db) >>= _) = _
          rw [revertDataUntilBlock, hreads, if_pos rfl]
          rfl

theorem revertSteps_late (config : RevertConfig) (fromHeight toHeight : ℕ) (reorged : Bool)
    (db : Database) (h : failsEarly faults = false) :
    revertSteps config fromHeight toHeight reorged faults (lockedState db)
      = if (purgeRun config fromHeight faults db).2 then
          .error (purgedState config fromHeight faults db)
        else afterPurge fromHeight toHeight reorged faults
          { purgedState config fromHeight faults db with storageModified := true } := by
  simp only [failsEarly, Bool.or_eq_false_iff] at h
  obtain ⟨⟨⟨⟨hstop, hagain⟩, hnotify⟩, hkill⟩, hreads⟩ := h
  unfold revertSteps
  rw [hstop, hagain, hnotify, hkill]
  show (revertDataUntilBlock config fromHeight faults (lockedState db) >>= _) = _
  rw [revertDataUntilBlock, hreads, if_neg Bool.false_ne_true]
  show (if (purgeRun config fromHeight faults db).2 then Except.error _ else Except.ok _) >>= _ = _
  split <;> rfl

/-- The steps after the purge throw: the indexer stays locked. -/
theorem afterPurge_purgedState_error
    (hpurges : ∀ command ∈ (purgeRun config fromHeight faults db).1, Command.Purges command)
    (h : afterPurge fromHeight toHeight reorged faults
      { purgedState config fromHeight faults db with storageModified := true } = .error s) :
    s.storageModified = true ∧ s.chainReorged = true
      ∧ s.changed = ((purgeRun config fromHeight faults db).1.any (fun command => command.hits db)
        || heightWritten fromHeight faults db || reorgWritten fromHeight reorged faults) := by
  obtain ⟨hmodified, hreorged, hchanged⟩ := afterPurge_error h
  -- the purge does not touch the height that the next step compares with
  have hheight : heightWritten fromHeight faults (purgedState config fromHeight faults db).db
      = heightWritten fromHeight faults db := by
    unfold heightWritten purgedState
    dsimp only
    rw [inProgressBlock_foldl hpurges]
  refine ⟨hmodified, hreorged, ?_⟩
  rw [hchanged, ← changes_eq_any hpurges db, ← hheight]
  rfl

/-- The `catch`: the lock is kept if the purge had ended. -/
theorem revertChain_of_error
    (h : revertSteps config fromHeight toHeight reorged faults (lockedState db) = .error s) :
    revertChain config fromHeight toHeight reorged faults db
      = .error (if s.storageModified then s else { s with chainReorged := false }) := by
  unfold lockedState at h
  unfold revertChain
  dsimp only
  rw [h]
  dsimp only
  split <;> rfl

theorem revertChain_of_ok
    (h : revertSteps config fromHeight toHeight reorged faults (lockedState db) = .ok s) :
    revertChain config fromHeight toHeight reorged faults db
      = .ok { s with chainReorged := false } := by
  unfold lockedState at h
  unfold revertChain
  dsimp only
  rw [h]

/-- A failed call changed the storage exactly when it leaves the indexer locked: it failed before the
purge; or in the purge, of which no command that was applied matched a document; or after a purge
that matched one, or after a write of its own. -/
def lockSafe (config : RevertConfig) (fromHeight : ℕ) (reorged : Bool) (faults : RevertFaults)
    (db : Database) : Bool :=
  let ran := purgeRun config fromHeight faults db
  let matched := ran.1.any fun command => command.hits db
  if failsEarly faults then true
  else if ran.2 then !matched
  else matched || heightWritten fromHeight faults db || reorgWritten fromHeight reorged faults

/-- **The lock after a failed revert.** Whatever step throws, the indexer is left locked if and only
if the storage was changed, provided the failure is one of `lockSafe`, and in no other case. -/
theorem lockedAfterPartialRevert_iff (config : RevertConfig) (fromHeight toHeight : ℕ)
    (reorged : Bool) (faults : RevertFaults) (db : Database) (s : RevertState)
    (h : revertChain config fromHeight toHeight reorged faults db = .error s) :
    (s.chainReorged = true ↔ s.changed = true)
      ↔ lockSafe config fromHeight reorged faults db = true := by
  have hpurges : ∀ command ∈ (purgeRun config fromHeight faults db).1, Command.Purges command :=
    fun command hmem => purges_liveRevertStages config fromHeight db command (mem_runProgram hmem)
  unfold lockSafe
  dsimp only
  cases hearly : failsEarly faults with
  | true =>
    rw [revertChain_of_error (revertSteps_early hearly)] at h
    obtain rfl := Except.error.inj h
    simp [lockedState]
  | false =>
    have hsteps := revertSteps_late config fromHeight toHeight reorged db hearly
    cases hthrew : (purgeRun config fromHeight faults db).2 with
    | true =>
      -- the purge threw: the indexer is unlocked, whatever was deleted
      rw [hthrew, if_pos rfl] at hsteps
      rw [revertChain_of_error hsteps] at h
      obtain rfl := Except.error.inj h
      simp [purgedState, lockedState, changes_eq_any hpurges db]
    | false =>
      rw [hthrew, if_neg Bool.false_ne_true] at hsteps
      cases hafter : afterPurge fromHeight toHeight reorged faults
          { purgedState config fromHeight faults db with storageModified := true } with
      | ok s' =>
        rw [revertChain_of_ok (hsteps.trans hafter)] at h
        cases h
      | error s' =>
        obtain ⟨hmodified, hreorged, hchanged⟩ := afterPurge_purgedState_error hpurges hafter
        rw [revertChain_of_error (hsteps.trans hafter), hmodified, if_pos rfl] at h
        obtain rfl := Except.error.inj h
        rw [hreorged, hchanged]
        simp

/-! ### A failing deletion -/

/-- No step throws. -/
def noFaults : RevertFaults :=
  ⟨false, false, false, false, false, fun _ => none, false, none, false, none, false⟩

/-- A transaction and a header at height 7, and block 8 in progress. -/
def sevenBlocks : Database :=
  ⟨[⟨7, [7]⟩], [], [], [⟨7, [7]⟩], [], [], [], [], [], .empty, [], [], 8⟩

/-- The state after the `catch` of a failed call. -/
def failure : Except RevertState RevertState → Option RevertState
  | .ok _ => none
  | .error s => some s

theorem eq_error_of_failure {result : Except RevertState RevertState}
    (h : failure result = some s) : result = .error s := by
  cases result with
  | ok s' => cases h
  | error s' => rw [Option.some.inj h]

/-- The plugins cannot be notified of a revert to 5, and the indexer stays locked. -/
theorem lockedAfterPartialRevert_plugins :
    ∃ s, revertChain ⟨true, 1000, true⟩ 5 7 true { noFaults with notifyPluginsOfReorg := true }
        sevenBlocks = .error s
      ∧ s.chainReorged = true ∧ (s.chainReorged = true ↔ s.changed = true) := by
  have hlocked : (failure (revertChain ⟨true, 1000, true⟩ 5 7 true
      { noFaults with notifyPluginsOfReorg := true } sevenBlocks)).map RevertState.chainReorged
      = some true := by decide +kernel
  obtain ⟨s, hfailed, hreorged⟩ := Option.map_eq_some_iff.mp hlocked
  have hrevert := eq_error_of_failure hfailed
  exact ⟨s, hrevert, hreorged, (lockedAfterPartialRevert_iff _ _ _ _ _ _ s hrevert).mpr
    (by decide +kernel)⟩

/-- The deletion of the UTXOs of the blocks 5, 6 and 7 throws, after their transactions were deleted:
the indexer is unlocked. -/
theorem lockedAfterPartialRevert_deletion :
    ¬ ∀ (config : RevertConfig) (fromHeight toHeight : ℕ) (reorged : Bool) (faults : RevertFaults)
      (db : Database) (s : RevertState),
      revertChain config fromHeight toHeight reorged faults db = .error s →
        (s.chainReorged = true ↔ s.changed = true) := by
  intro h
  have hunlocked : (failure (revertChain ⟨true, 1000, true⟩ 5 7 true
      { noFaults with command := fun n => if n = 14 then some false else none } sevenBlocks)).map
      (fun s => (s.chainReorged, s.changed)) = some (false, true) := by decide +kernel
  obtain ⟨s, hfailed, hfields⟩ := Option.map_eq_some_iff.mp hunlocked
  obtain ⟨hreorged, hchanged⟩ := Prod.mk.inj hfields
  have hlocked := (h _ _ _ _ _ _ s (eq_error_of_failure hfailed)).mpr hchanged
  cases hreorged.symm.trans hlocked

end BlockIndexer

end OpnetNode
