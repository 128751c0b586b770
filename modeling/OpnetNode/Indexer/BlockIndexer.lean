import Mathlib.Data.Nat.Notation
import OpnetNode.Transition

/-!
# The block indexer

The indexer prefetches blocks in tasks and processes them one at a time. Three sources start a
revert: a new tip at or below the processed height, the watchdog, which is asked by a task before it
finishes, and a task that throws. `chainReorged` is set for the whole of a revert; tasks are started
only while it is false.

Every `await` is a point where another event can come in between: the state has the suspended call of
`processNextTask` and the suspended calls of `revertChain`, and an event lets one of them go on.

`taskStarts` and `unlocks` record how many other `revertChain` calls were suspended whenever a task
was started and whenever `chainReorged` was set back. The code has neither; nothing depends on them.
-/

namespace OpnetNode

/-- A task as the indexer sees it. -/
structure IndexerTask where
  tip : ℕ
  chainReorged : Bool
  cancelled : Bool
  deriving DecidableEq, Repr

/-- Where `processNextTask` is suspended. -/
inductive ProcessPhase where
  /-- The task is processed, up to the question for a reorg. -/
  | executing
  /-- In the watchdog's `verifyChainReorgForBlock`. -/
  | verifying
  /-- The watchdog waits for its listener, which reverts the chain. -/
  | reverting
  /-- The listener has thrown, which makes the task throw. -/
  | revertFailed
  /-- After the question for a reorg, up to the end of the task. -/
  | finishing
  /-- In `onCompletedTask`, which has looked at the task and updates the epoch. -/
  | completing
  /-- `onCompletedTask` has set the new height. -/
  | completed
  /-- In the `catch`, which reverts the chain. -/
  | recovering
  /-- Before the `finally`. -/
  | releasing
  deriving DecidableEq, Repr

/-- The suspended call of `processNextTask`. -/
structure ProcessCall where
  task : IndexerTask
  phase : ProcessPhase
  deriving DecidableEq, Repr

/-- Who called `revertChain`. -/
inductive RevertOrigin where
  | heightRegression
  | reorgListener
  | processingError
  deriving DecidableEq, Repr

/-- The awaited steps of `revertChain`. -/
inductive RevertStep where
  | stopAllTasks
  | stopAllTasksAgain
  | notifyThreadReorg
  | killAllPendingWrites
  | revertDataUntilBlock
  | onChainReorganisation
  | reorgFromHeight
  | notifyPluginsOfReorg
  deriving DecidableEq, Repr

/-- A suspended call of `revertChain`. -/
structure RevertCall where
  origin : RevertOrigin
  fromHeight : ℕ
  toHeight : ℕ
  step : RevertStep
  deriving DecidableEq, Repr

/-- The state of the indexer. -/
structure BlockIndexer where
  chainReorged : Bool
  started : Bool
  taskInProgress : Bool
  /-- `currentTask` is the task of the suspended call; otherwise it is undefined. -/
  currentTask : Bool
  process : Option ProcessCall
  /-- The tips of the tasks that are prefetching. -/
  indexingTasks : List ℕ
  /-- Of the chain observer. -/
  pendingBlockHeight : ℕ
  targetBlockHeight : ℕ
  /-- The tip of the next task. -/
  bestTip : ℕ
  reverts : List RevertCall
  /-- Height regressions whose revert has returned, before they start the tasks. -/
  regressionsReverted : ℕ
  taskStarts : List ℕ
  unlocks : List ℕ
  deriving DecidableEq, Repr

namespace BlockIndexer

/-- An indexer that has registered its events. -/
def initial (pendingBlockHeight targetBlockHeight : ℕ) : BlockIndexer :=
  ⟨false, false, false, false, none, [], pendingBlockHeight, targetBlockHeight, pendingBlockHeight,
    [], 0, [], []⟩

/-! ### Tasks -/

/-- `processNextTask` up to its first `await`. -/
def processNextTask (s : BlockIndexer) : BlockIndexer :=
  if s.taskInProgress then s
  else
    match s.indexingTasks with
    | [] => s
    | tip :: indexingTasks =>
      { s with
        taskInProgress := true
        currentTask := true
        process := some ⟨⟨tip, false, false⟩, .executing⟩
        indexingTasks
        taskStarts := s.taskStarts ++ [s.reverts.length] }

/-- How many tasks `startTasks` adds: the queue is filled up, but not beyond the target. -/
def newTasks (prefetchQueueSize : ℕ) (s : BlockIndexer) : ℕ :=
  min (prefetchQueueSize - s.indexingTasks.length) (s.targetBlockHeight + 1 - s.bestTip)

def startTasks (prefetchQueueSize : ℕ) (s : BlockIndexer) : BlockIndexer :=
  if s.chainReorged then s
  else
    let count := newTasks prefetchQueueSize s
    let prefetching := { s with
      indexingTasks := s.indexingTasks ++ List.range' s.bestTip count
      bestTip := s.bestTip + count
      taskStarts := s.taskStarts ++ List.replicate count s.reverts.length }
    if prefetching.indexingTasks.isEmpty then prefetching else processNextTask prefetching

/-- The `finally` of `processNextTask`. -/
def releaseLockAndCallNextTask (prefetchQueueSize : ℕ) (mayRestartTask : Bool) (s : BlockIndexer) :
    BlockIndexer :=
  let released := { s with taskInProgress := false, currentTask := false, process := none }
  -- an error in the first blocks: the node has to be synchronised again
  if !mayRestartTask then released
  else if !s.chainReorged then startTasks prefetchQueueSize released
  else released

/-- The suspended call goes on to another phase. -/
def movePhase (phase : ProcessPhase) (s : BlockIndexer) : BlockIndexer :=
  { s with process := s.process.map fun call => { call with phase } }

/-! ### Reverts -/

/-- `revertChain` up to its first `await`: the lock, and the cancellation of the current task. -/
def revertChainStarted (origin : RevertOrigin) (fromHeight toHeight : ℕ) (s : BlockIndexer) :
    BlockIndexer :=
  let reorged := decide (origin ≠ .processingError)
  let cancel (call : ProcessCall) : ProcessCall :=
    { call with task := { call.task with chainReorged := reorged, cancelled := true } }
  { s with
    chainReorged := true
    -- an earlier `stopAllTasks` may have dropped the task that is still processed
    process := if s.currentTask then s.process.map cancel else s.process
    reverts := s.reverts ++ [⟨origin, fromHeight, toHeight, .stopAllTasks⟩] }

/-- The step after a step; `reorgFromHeight` only if the chain was reorged. -/
def nextStep (origin : RevertOrigin) : RevertStep → Option RevertStep
  | .stopAllTasks => some .stopAllTasksAgain
  | .stopAllTasksAgain => some .notifyThreadReorg
  | .notifyThreadReorg => some .killAllPendingWrites
  | .killAllPendingWrites => some .revertDataUntilBlock
  | .revertDataUntilBlock => some .onChainReorganisation
  | .onChainReorganisation =>
    if origin = .processingError then some .notifyPluginsOfReorg else some .reorgFromHeight
  | .reorgFromHeight => some .notifyPluginsOfReorg
  | .notifyPluginsOfReorg => none

/-- What the end of a step does to the indexer. -/
def endStep (call : RevertCall) (chainHeight : ℕ) (s : BlockIndexer) : BlockIndexer :=
  match call.step with
  | .stopAllTasks => { s with currentTask := false, indexingTasks := [] }
  | .stopAllTasksAgain => { s with currentTask := false, indexingTasks := [] }
  | .onChainReorganisation =>
    { s with
      pendingBlockHeight := call.fromHeight
      targetBlockHeight := chainHeight
      bestTip := call.fromHeight }
  | _ => s

/-- The purge has ended before the steps after it. -/
def storageModified : RevertStep → Bool
  | .onChainReorganisation => true
  | .reorgFromHeight => true
  | .notifyPluginsOfReorg => true
  | _ => false

/-- The `i`-th call ends, and its caller goes on; `unlock` sets `chainReorged` back. -/
def endRevert (i : ℕ) (origin : RevertOrigin) (unlock threw : Bool) (s : BlockIndexer) :
    BlockIndexer :=
  let ended := { s with
    chainReorged := if unlock then false else s.chainReorged
    unlocks := if unlock then s.unlocks ++ [s.reverts.length - 1] else s.unlocks
    reverts := s.reverts.eraseIdx i }
  match origin with
  | .heightRegression =>
    -- an error is logged
    if threw then ended else { ended with regressionsReverted := s.regressionsReverted + 1 }
  | .reorgListener => movePhase (if threw then .revertFailed else .finishing) ended
  | .processingError => movePhase .releasing ended

/-! ### The events -/

/-- A new best tip. -/
def onBlockChange (prefetchQueueSize height : ℕ) (s : BlockIndexer) : BlockIndexer :=
  let observed := { s with targetBlockHeight := height }
  -- a tip that was processed already has been replaced
  if s.started && !s.chainReorged && decide (0 < height)
      && decide (height ≤ s.pendingBlockHeight) then
    revertChainStarted .heightRegression height s.pendingBlockHeight observed
  else if !s.started then { startTasks prefetchQueueSize observed with started := true }
  else if s.taskInProgress && !s.indexingTasks.isEmpty then observed
  else startTasks prefetchQueueSize observed

/-- The `catch` of `processNextTask`, up to its first `await`. -/
def onProcessingError (prefetchQueueSize : ℕ) (call : ProcessCall) (s : BlockIndexer) :
    BlockIndexer :=
  if s.chainReorged || !s.currentTask || call.task.chainReorged then
    releaseLockAndCallNextTask prefetchQueueSize true s
  else if 0 < s.pendingBlockHeight - 1 then
    movePhase .recovering
      (revertChainStarted .processingError s.pendingBlockHeight (s.pendingBlockHeight - 1) s)
  else releaseLockAndCallNextTask prefetchQueueSize false s

inductive IndexerEvent where
  | onBlockChange (height : ℕ)
  /-- The task asks the watchdog, unless it was cancelled. -/
  | verifyReorg
  | noReorg
  | notifyReorgListeners (fromHeight : ℕ)
  /-- The task has finished, and `onCompletedTask` begins, unless it was cancelled. -/
  | completeTask
  /-- `onCompletedTask` sets the new height, also if the task was cancelled since. -/
  | taskCompleted
  | taskReturned
  | taskThrew
  /-- The revert of the `catch` has ended, and the `finally` runs. -/
  | finallyAfterRevert
  /-- The awaited step of the `i`-th revert ends. -/
  | revertStepDone (i chainHeight : ℕ)
  /-- The awaited step of the `i`-th revert throws. -/
  | revertStepThrew (i : ℕ)
  /-- A height regression goes on after its revert. -/
  | regressionReverted
  deriving DecidableEq, Repr

/-- The suspended call of `processNextTask`, if it is in one of some phases. -/
def processIn (phases : List ProcessPhase) (s : BlockIndexer) : Option ProcessCall :=
  s.process.filter fun call => call.phase ∈ phases

def step (prefetchQueueSize : ℕ) (s : BlockIndexer) : IndexerEvent → Option BlockIndexer
  | .onBlockChange height => some (onBlockChange prefetchQueueSize height s)
  | .verifyReorg =>
    (processIn [.executing] s).map fun call =>
      if call.task.chainReorged || call.task.cancelled then movePhase .finishing s
      else movePhase .verifying s
  | .noReorg => (processIn [.verifying] s).map fun _ => movePhase .finishing s
  | .notifyReorgListeners fromHeight =>
    -- the listener does not look at `chainReorged`
    (processIn [.verifying] s).map fun call =>
      movePhase .reverting (revertChainStarted .reorgListener fromHeight call.task.tip s)
  | .completeTask =>
    (processIn [.finishing] s).bind fun call =>
      if call.task.chainReorged || call.task.cancelled then none
      else some (movePhase .completing s)
  | .taskCompleted =>
    (processIn [.completing] s).map fun call =>
      movePhase .completed { s with pendingBlockHeight := call.task.tip }
  | .taskReturned =>
    (processIn [.finishing, .completed] s).map fun _ =>
      releaseLockAndCallNextTask prefetchQueueSize true s
  | .taskThrew =>
    (processIn [.executing, .verifying, .finishing, .completing, .completed, .revertFailed] s).map
      fun call => onProcessingError prefetchQueueSize call s
  | .finallyAfterRevert =>
    (processIn [.releasing] s).map fun _ => releaseLockAndCallNextTask prefetchQueueSize true s
  | .revertStepDone i chainHeight =>
    s.reverts[i]?.map fun call =>
      match nextStep call.origin call.step with
      | some step =>
        { endStep call chainHeight s with reverts := s.reverts.set i { call with step } }
      | none => endRevert i call.origin true false s
  | .revertStepThrew i =>
    -- locked on a partial revert
    s.reverts[i]?.map fun call => endRevert i call.origin (!storageModified call.step) true s
  | .regressionReverted =>
    if s.regressionsReverted = 0 then none
    else some (startTasks prefetchQueueSize
      { s with regressionsReverted := s.regressionsReverted - 1 })

end BlockIndexer

end OpnetNode
