import OpnetNode.Transition
import OpnetNode.Utxo.UnspentTransactionRepository

/-!
# The synchronisation thread

`queryBlock` fetches a block and pushes its UTXO bundle on a queue in memory; the queue is written by
`_saveUTXOs`, which is started after a block, or by the save loop. Every `await` is a point where
other calls run: the state has the calls that are suspended, and an event lets one of them go on.

A bundle carries the number of the `queryBlock` call that pushed it, and `inserts` records the calls
of `insertTransactions` that have ended. The code has neither; nothing depends on them.
-/

namespace OpnetNode

/-- A UTXO bundle, pushed by the `queryBlock` call `query`. -/
structure Bundle where
  query : ℕ
  block : UtxoBlock
  deriving DecidableEq, Repr

/-- Where a `queryBlock` call is suspended. -/
inductive QueryPhase where
  /-- On `blockFetcher.getBlock`. -/
  | getBlock
  /-- There was no block: on `getBlockHeightForEver`. -/
  | chainHeight
  /-- On the timer before the retry. -/
  | retryTimer
  deriving DecidableEq, Repr

/-- A suspended `queryBlock` call. -/
structure Query where
  id : ℕ
  blockNumber : ℕ
  phase : QueryPhase
  deriving DecidableEq, Repr

/-- Where `_saveUTXOs` is suspended. -/
inductive SaveStage where
  | processPublicKeys
  | insertTransactions
  | tagAnyoneCanSpend
  deriving DecidableEq, Repr

/-- A suspended `_saveUTXOs` call, with the queue it took. -/
structure PendingSave where
  utxoBatch : List Bundle
  stage : SaveStage
  deriving DecidableEq, Repr

/-- A call of `insertTransactions` that has ended; one that failed may have written a part. -/
structure Insert where
  utxoBatch : List Bundle
  succeeded : Bool
  deriving DecidableEq, Repr

structure SyncConfig where
  START_INDEXING_UTXO_AT_BLOCK_HEIGHT : ℕ
  deriving DecidableEq, Repr

/-- The state of the thread. -/
structure ChainSynchronisation where
  unspentTransactionOutputs : List Bundle
  amountOfUTXOs : ℕ
  abortControllers : List ℕ
  pendingSave : Option PendingSave
  currentBlock : Option ℕ
  bestTip : ℕ
  /-- The block fetcher refuses the block it returned last. -/
  lastBlockHash : Option Bytes
  queries : List Query
  /-- The number the next `queryBlock` call gets. -/
  nextQuery : ℕ
  /-- How many `nextTick` callbacks have not run. -/
  nextTicks : ℕ
  inserts : List Insert
  deriving DecidableEq, Repr

namespace ChainSynchronisation

/-- A thread that has just started, over the inserts of earlier processes. -/
def initial (inserts : List Insert) : ChainSynchronisation :=
  ⟨[], 0, [], none, none, 0, none, [], 0, 0, inserts⟩

/-! ### The queue -/

def AWAIT_UTXO_WRITE_IF_QUEUE_SIZE : ℕ := 200000

def canSaveAfterBlock (s : ChainSynchronisation) : Bool :=
  decide ((s.bestTip : ℤ) > (s.currentBlock.getD 0 : ℤ) - 3)

/-- Drop the bundles from a height on; without a height, all of them. -/
def purgeUTXOs (fromBlock : Option ℕ) (s : ChainSynchronisation) : ChainSynchronisation :=
  match fromBlock with
  | none => { s with unspentTransactionOutputs := [], amountOfUTXOs := 0 }
  | some fromBlock =>
    let kept := s.unspentTransactionOutputs.filter fun utxo => utxo.block.blockHeight < fromBlock
    { s with
      unspentTransactionOutputs := kept
      amountOfUTXOs := kept.foldl (fun acc utxo => acc + utxo.block.transactions.length) 0 }

/-- The first part of `saveUTXOs`: start `_saveUTXOs`, which empties the queue before its first
`await`, unless a save is pending. -/
def saveUTXOs (s : ChainSynchronisation) : ChainSynchronisation :=
  match s.pendingSave with
  | some _ => s
  | none =>
    { s with
      pendingSave := some ⟨s.unspentTransactionOutputs, .processPublicKeys⟩
      unspentTransactionOutputs := []
      amountOfUTXOs := 0 }

def abortAllControllers (s : ChainSynchronisation) : ChainSynchronisation :=
  { s with abortControllers := [] }

/-- A block whose bundle is indexed: not the genesis block, nor one before the configured start. -/
def indexable (config : SyncConfig) (height : ℕ) : Bool :=
  !(decide (0 < config.START_INDEXING_UTXO_AT_BLOCK_HEIGHT)
      && decide (height < config.START_INDEXING_UTXO_AT_BLOCK_HEIGHT))
    && height != 0

/-- Push the bundle of a block, if it is indexed. -/
def queryUTXOs (config : SyncConfig) (query : ℕ) (block : UtxoBlock) (s : ChainSynchronisation) :
    ChainSynchronisation :=
  if indexable config block.blockHeight then
    { s with
      amountOfUTXOs := s.amountOfUTXOs + block.transactions.length
      unspentTransactionOutputs := s.unspentTransactionOutputs ++ [⟨query, block⟩] }
  else s

/-- `queryBlock` up to its first `await`. -/
def queryBlock (blockNumber : ℕ) (s : ChainSynchronisation) : ChainSynchronisation :=
  { s with
    bestTip := blockNumber
    queries := s.queries ++ [⟨s.nextQuery, blockNumber, .getBlock⟩]
    nextQuery := s.nextQuery + 1 }

/-- What `queryBlock` does when its block arrives, up to the UTXOs. -/
def receiveBlock (query : Query) (hash : Bytes) (s : ChainSynchronisation) :
    ChainSynchronisation :=
  { s with
    queries := s.queries.filter fun q => q.id ≠ query.id
    lastBlockHash := some hash
    abortControllers := query.blockNumber :: s.abortControllers }

/-- `onReorg` up to its first `await`. -/
def onReorg (fromHeight : ℕ) (s : ChainSynchronisation) : ChainSynchronisation :=
  purgeUTXOs (some fromHeight) (abortAllControllers { s with lastBlockHash := none })

/-! ### The events -/

/-- The suspended call with a number, if it is in a phase. -/
def queryIn (id : ℕ) (phase : QueryPhase) (s : ChainSynchronisation) : Option Query :=
  s.queries.find? fun query => query.id = id && query.phase = phase

/-- End a suspended call. -/
def endQuery (id : ℕ) (s : ChainSynchronisation) : ChainSynchronisation :=
  { s with queries := s.queries.filter fun query => query.id ≠ id }

/-- Suspend a call elsewhere. -/
def moveQuery (id : ℕ) (phase : QueryPhase) (s : ChainSynchronisation) : ChainSynchronisation :=
  { s with
    queries := s.queries.map fun query => if query.id = id then { query with phase } else query }

inductive SyncEvent where
  /-- The indexer asks for a block. -/
  | queryBlock (blockNumber : ℕ)
  /-- `getBlock` returns a block. -/
  | blockFetched (id : ℕ) (hash : Bytes) (transactions : List TransactionBasic)
  /-- `getBlock` returns a block, and deserializing it throws. -/
  | deserializeFailed (id : ℕ) (hash : Bytes)
  /-- `getBlock` throws. -/
  | fetchFailed (id : ℕ)
  /-- `getBlock` returns no block. -/
  | blockMissing (id : ℕ)
  /-- The chain height is known, after there was no block. -/
  | chainHeightKnown (id : ℕ) (chainHeight : ℕ)
  /-- The timer before a retry has run out. -/
  | retryTimerElapsed (id : ℕ)
  /-- The callback that a fetched block leaves. -/
  | nextTick
  /-- The save loop, with the chain height it got. -/
  | saveLoop (blockHeight : ℕ)
  | publicKeysProcessed
  /-- `insertTransactions` ends. -/
  | inserted (succeeded : Bool)
  /-- `_saveUTXOs` has ended, and the promise is cleared. -/
  | saved
  deriving DecidableEq, Repr

/-- One event; `none` if it cannot happen. -/
def step (config : SyncConfig) (s : ChainSynchronisation) :
    SyncEvent → Option ChainSynchronisation
  | .queryBlock blockNumber => some (queryBlock blockNumber s)
  | .blockFetched id hash transactions =>
    (queryIn id .getBlock s).bind fun query =>
      -- the block fetcher throws on the block it returned last
      if s.lastBlockHash = some hash then none
      else
        let received := queryUTXOs config id ⟨query.blockNumber, transactions⟩
          (receiveBlock query hash s)
        some { received with nextTicks := s.nextTicks + 1 }
  | .deserializeFailed id hash =>
    (queryIn id .getBlock s).bind fun query =>
      if s.lastBlockHash = some hash then none else some (receiveBlock query hash s)
  | .fetchFailed id => (queryIn id .getBlock s).map fun _ => endQuery id s
  | .blockMissing id => (queryIn id .getBlock s).map fun _ => moveQuery id .chainHeight s
  | .chainHeightKnown id chainHeight =>
    (queryIn id .chainHeight s).map fun query =>
      -- above the chain the call is rejected
      if chainHeight < query.blockNumber then endQuery id s else moveQuery id .retryTimer s
  | .retryTimerElapsed id =>
    (queryIn id .retryTimer s).map fun query => queryBlock query.blockNumber (endQuery id s)
  | .nextTick =>
    if s.nextTicks = 0 then none
    else
      let ticked := { s with nextTicks := s.nextTicks - 1 }
      if AWAIT_UTXO_WRITE_IF_QUEUE_SIZE < s.amountOfUTXOs || canSaveAfterBlock s then
        some (saveUTXOs ticked)
      else some ticked
  | .saveLoop blockHeight =>
    let current := { s with currentBlock := some blockHeight }
    if !s.unspentTransactionOutputs.isEmpty && !canSaveAfterBlock current then
      some (saveUTXOs current)
    else some current
  | .publicKeysProcessed =>
    match s.pendingSave with
    | some ⟨utxoBatch, .processPublicKeys⟩ =>
      some { s with pendingSave := some ⟨utxoBatch, .insertTransactions⟩ }
    | _ => none
  | .inserted succeeded =>
    match s.pendingSave with
    | some ⟨utxoBatch, .insertTransactions⟩ =>
      -- a failure is logged, and the batch is gone
      some { s with
        pendingSave := some ⟨utxoBatch, .tagAnyoneCanSpend⟩
        inserts := s.inserts ++ [⟨utxoBatch, succeeded⟩] }
    | _ => none
  | .saved =>
    match s.pendingSave with
    | some ⟨_, .tagAnyoneCanSpend⟩ => some { s with pendingSave := none }
    | _ => none

end ChainSynchronisation

/-! ### The synchronisation thread beside the indexer's progress

The indexer asks the thread for blocks, processes them in the order of their heights, and persists
how far it is with `setNewHeight`. A process that stops loses its memory; the next one starts from
the persisted height. -/

/-- The thread, and the indexer as far as its progress goes. -/
structure SyncProgress where
  sync : ChainSynchronisation
  /-- Persisted in the blockchain information of the network. -/
  inProgressBlock : ℕ
  pendingBlockHeight : ℕ
  /-- The height of the task that completes next. -/
  pendingTaskHeight : ℕ
  /-- The heights of the blocks that the thread has handed over. -/
  delivered : List ℕ
  deriving DecidableEq, Repr

namespace SyncProgress

/-- A node that has not processed anything. -/
def initial : SyncProgress := ⟨.initial [], 0, 0, 0, []⟩

/-- The height a node resumes from. -/
def fetchCurrentHeightFromDB (s : SyncProgress) : ℕ :=
  if s.inProgressBlock ≤ 0 then s.inProgressBlock else s.inProgressBlock - 1

def setNewHeight (height : ℕ) (s : SyncProgress) : SyncProgress :=
  { s with pendingBlockHeight := height, inProgressBlock := height + 1 }

/-- A process starts: everything in memory is gone, and the start height is persisted again. -/
def start (s : SyncProgress) : SyncProgress :=
  let height := s.fetchCurrentHeightFromDB
  setNewHeight height
    { s with
      sync := .initial s.sync.inserts
      pendingTaskHeight := height
      delivered := [] }

inductive ProgressEvent where
  | sync (e : ChainSynchronisation.SyncEvent)
  /-- The next task is done, and `onCompletedTask` persists its height. -/
  | taskCompleted
  /-- The process stops, at any point, and another one starts. -/
  | restart
  deriving DecidableEq, Repr

/-- The height of the block that an event hands over, if it does. -/
def deliveredBy (s : ChainSynchronisation) : ChainSynchronisation.SyncEvent → Option ℕ
  | .blockFetched id _ _ => (s.queryIn id .getBlock).map Query.blockNumber
  | _ => none

def step (config : SyncConfig) (s : SyncProgress) : ProgressEvent → Option SyncProgress
  | .sync e => (s.sync.step config e).map fun sync =>
    { s with sync, delivered := (deliveredBy s.sync e).toList ++ s.delivered }
  | .taskCompleted =>
    -- whether the bundle of the block was written is not asked
    if s.pendingTaskHeight ∈ s.delivered then
      some { setNewHeight s.pendingTaskHeight s with pendingTaskHeight := s.pendingTaskHeight + 1 }
    else none
  | .restart => some (start s)

end SyncProgress

/-! ### A reorg message to the synchronisation thread

`revertChain` sends `CHAIN_REORG` to the thread, waits until `onReorg` has returned, and then purges
the UTXO collection. `onReorg` drops the bundles from the reorg's height on and, if a save is pending,
waits until there is none. -/

/-- How far the handling of a reorg is. -/
inductive ReorgStatus where
  /-- `onReorg` waits for the pending save. -/
  | awaitUTXOWrites
  /-- `onReorg` has returned. -/
  | returned
  /-- The UTXO collection was purged, after this many inserts. -/
  | purged (inserts : ℕ)
  deriving DecidableEq, Repr

/-- A reorg that the thread was told about. -/
structure ReorgMessage where
  fromHeight : ℕ
  /-- The `queryBlock` calls before the message have lower numbers. -/
  nextQuery : ℕ
  status : ReorgStatus
  deriving DecidableEq, Repr

/-- The thread, and the reorgs it was told about. -/
structure SyncReorg where
  sync : ChainSynchronisation
  reorgs : List ReorgMessage
  deriving DecidableEq, Repr

namespace SyncReorg

def initial : SyncReorg := ⟨.initial [], []⟩

inductive ReorgEvent where
  | sync (e : ChainSynchronisation.SyncEvent)
  /-- The thread gets the message. -/
  | chainReorg (fromHeight : ℕ)
  /-- `onReorg` sees that no save is pending. -/
  | reorgReturned (i : ℕ)
  /-- `revertDataUntilBlock` purges the UTXO collection. -/
  | purgeUtxos (i : ℕ)
  deriving DecidableEq, Repr

/-- The `i`-th reorg goes on, if it is at `status`. -/
def moveReorg (i : ℕ) (status status' : ReorgStatus) (s : SyncReorg) : Option SyncReorg :=
  s.reorgs[i]?.bind fun reorg =>
    if reorg.status = status then
      some { s with reorgs := s.reorgs.set i { reorg with status := status' } }
    else none

def step (config : SyncConfig) (s : SyncReorg) : ReorgEvent → Option SyncReorg
  | .sync e => (s.sync.step config e).map fun sync => { s with sync }
  | .chainReorg fromHeight =>
    -- calls that wait for their block have no abort controller, and go on
    let reorg : ReorgMessage :=
      { fromHeight
        nextQuery := s.sync.nextQuery
        status := if s.sync.pendingSave.isSome then .awaitUTXOWrites else .returned }
    some ⟨s.sync.onReorg fromHeight, s.reorgs ++ [reorg]⟩
  | .reorgReturned i =>
    if s.sync.pendingSave.isSome then none else moveReorg i .awaitUTXOWrites .returned s
  | .purgeUtxos i => moveReorg i .returned (.purged s.sync.inserts.length) s

end SyncReorg

end OpnetNode
