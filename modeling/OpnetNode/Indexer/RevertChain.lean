import OpnetNode.Storage.RevertData

/-!
# `revertChain`, when one of its steps throws

`revertChain` locks the indexer (`chainReorged`), runs a chain of awaited steps, and unlocks it. If a
step throws, it unlocks only while `storageModified` is false, and that is set after the whole purge.

Which steps throw is an input. A command of the database that throws may have been applied or not.

* `runProgram`: the commands of a purge that were applied, and whether it threw.
* `revertChain`: the whole call; an error carries the state it leaves.
-/

namespace OpnetNode

/-- How a command of the database ends: `none` if it succeeds, `some applied` if it throws. -/
abbrev CommandFault := Option Bool

/-- Which of the awaited steps of `revertChain` throw. -/
structure RevertFaults where
  stopAllTasks : Bool
  /-- The second call, for tasks that were still running. -/
  stopAllTasksAgain : Bool
  notifyThreadReorg : Bool
  killAllPendingWrites : Bool
  /-- The reads of `revertDataUntilBlock`, before its first deletion. -/
  readHeights : Bool
  /-- The commands of `revertDataUntilBlock`, numbered in the order of its stages. -/
  command : ℕ → CommandFault
  fetchChainHeight : Bool
  setNewHeight : CommandFault
  /-- `setConsensusBlockHeight` returns true. -/
  setConsensusBlockHeight : Bool
  setReorg : CommandFault
  notifyPluginsOfReorg : Bool

/-- What a call of `revertChain` changes. -/
structure RevertState where
  chainReorged : Bool
  storageModified : Bool
  db : Database
  /-- A stored document was deleted, changed or added. The code does not keep this. -/
  changed : Bool

namespace VMMongoStorage

/-! ### A purge with commands that throw -/

/-- The commands of a job that were applied, and whether it threw: it ends at the first command that
throws. -/
def runJob (fault : ℕ → CommandFault) : ℕ → Job → List Command × Bool
  | _, [] => ([], false)
  | n, command :: commands =>
    match fault n with
    | some applied => (if applied then [command] else [], true)
    | none =>
      let rest := runJob fault (n + 1) commands
      (command :: rest.1, rest.2)

/-- The jobs of a stage are all awaited, and then the stage throws if one of them did. -/
def runStage (fault : ℕ → CommandFault) : ℕ → Stage → List Command × Bool
  | _, [] => ([], false)
  | n, job :: jobs =>
    let ran := runJob fault n job
    let rest := runStage fault (n + job.length) jobs
    (ran.1 ++ rest.1, ran.2 || rest.2)

/-- The stages follow each other until one throws. -/
def runProgram (fault : ℕ → CommandFault) : ℕ → List Stage → List Command × Bool
  | _, [] => ([], false)
  | n, stage :: stages =>
    let ran := runStage fault n stage
    if ran.2 then ran
    else
      let rest := runProgram fault (n + stage.flatten.length) stages
      (ran.1 ++ rest.1, rest.2)

/-- Whether commands, run one after another, find a document to delete or change. -/
def changes : List Command → Database → Bool
  | [], _ => false
  | command :: commands, db => command.hits db || changes commands (command.run db)

/-- The stages of the purge that `revertChain` asks for, which always includes the UTXOs. -/
def liveRevertStages (config : RevertConfig) (fromHeight : ℕ) (db : Database) : List Stage :=
  revertStages config true fromHeight (upperBound fromHeight db)

end VMMongoStorage

namespace BlockIndexer

open VMMongoStorage

/-- Await something that does not write. -/
def awaitStep (throws : Bool) (s : RevertState) : Except RevertState RevertState :=
  if throws then .error s else .ok s

/-- `vmStorage.revertDataUntilBlock(fromHeight, true)`. -/
def revertDataUntilBlock (config : RevertConfig) (fromHeight : ℕ) (faults : RevertFaults)
    (s : RevertState) : Except RevertState RevertState :=
  if faults.readHeights then .error s
  else
    let ran := runProgram faults.command 0 (liveRevertStages config fromHeight s.db)
    let purged := { s with
      db := ran.1.foldl (fun db command => command.run db) s.db
      changed := s.changed || changes ran.1 s.db }
    if ran.2 then .error purged else .ok purged

/-- `setNewHeight`, as a write. -/
def setNewHeight (height : ℕ) (s : RevertState) : RevertState :=
  { s with
    db := { s.db with inProgressBlock := height + 1 }
    changed := s.changed || decide (s.db.inProgressBlock ≠ height + 1) }

/-- `chainObserver.onChainReorganisation`: the chain height and the write are awaited together. -/
def onChainReorganisation (fromHeight : ℕ) (faults : RevertFaults) (s : RevertState) :
    Except RevertState RevertState :=
  if fromHeight = 0 then .error s
  else
    -- whichever of the two fails, the other one is not taken back
    let written := if faults.setNewHeight = some false then s else setNewHeight fromHeight s
    if faults.fetchChainHeight || faults.setNewHeight.isSome then .error written
    else if faults.setConsensusBlockHeight then .error written
    else .ok written

/-- `setReorg`, as a write: the purge has deleted the reorgs from this height on, so the upsert
adds one. -/
def setReorg (fromHeight toHeight : ℕ) (s : RevertState) : RevertState :=
  let reorg : ReorgDocument := ⟨fromHeight, toHeight⟩
  { s with
    db := { s.db with reorgs := s.db.reorgs.upsertOne (fun d => d = reorg) (fun d => d) reorg }
    changed := true }

def reorgFromHeight (fromHeight toHeight : ℕ) (faults : RevertFaults) (s : RevertState) :
    Except RevertState RevertState :=
  if fromHeight = 0 then .error s
  else
    match faults.setReorg with
    | none => .ok (setReorg fromHeight toHeight s)
    | some true => .error (setReorg fromHeight toHeight s)
    | some false => .error s

/-- The body of the `try`. -/
def revertSteps (config : RevertConfig) (fromHeight toHeight : ℕ) (reorged : Bool)
    (faults : RevertFaults) (s : RevertState) : Except RevertState RevertState := do
  let s ← awaitStep faults.stopAllTasks s
  let s ← awaitStep faults.stopAllTasksAgain s
  let s ← awaitStep faults.notifyThreadReorg s
  let s ← awaitStep faults.killAllPendingWrites s
  -- the flag is set when the whole purge has ended
  let s ← revertDataUntilBlock config fromHeight faults s
  let s := { s with storageModified := true }
  let s ← onChainReorganisation fromHeight faults s
  let s ← if reorged then reorgFromHeight fromHeight toHeight faults s else .ok s
  awaitStep faults.notifyPluginsOfReorg s

/-- `revertChain`; an error carries the state after the `catch`. -/
def revertChain (config : RevertConfig) (fromHeight toHeight : ℕ) (reorged : Bool)
    (faults : RevertFaults) (db : Database) : Except RevertState RevertState :=
  let locked : RevertState :=
    { chainReorged := true, storageModified := false, db, changed := false }
  match revertSteps config fromHeight toHeight reorged faults locked with
  | .ok s => .ok { s with chainReorged := false }
  | .error s =>
    -- the node stays locked on a partial revert
    if s.storageModified then .error s else .error { s with chainReorged := false }

end BlockIndexer

end OpnetNode
