import OpnetNode.Epoch.EpochManager
import OpnetNode.Mldsa.MLDSAPublicKeyRepository
import OpnetNode.Utxo.UnspentTransactionRepository

/-!
# `revertDataUntilBlock`

The purge is a program: a list of stages, each a list of jobs that are awaited together, each job a
list of database commands. The program depends on the database only through the two heights it
reads. What it does is running its commands; which of them ran when one throws is the business of
the caller's error path, so the stages are kept.

* `Database`: the collections the purge touches.
* `Command`: a deletion or an update by a filter, with the question whether it matches a document.
* `revertStages`: the stages of a purge, first pass, batches and, from block 0, the mempool.
* `revertDataUntilBlock`: all of them, in order.
-/

namespace OpnetNode

/-- What a document holds besides its height does not matter to the purge. -/
structure TransactionDocument where
  blockHeight : ℕ
  id : Bytes
  deriving DecidableEq, Repr

structure ContractDocument where
  blockHeight : ℕ
  contractPublicKey : Bytes
  deriving DecidableEq, Repr

structure ContractPointerValueDocument where
  lastSeenAt : ℕ
  contractAddress : Bytes
  pointer : Bytes
  value : Bytes
  deriving DecidableEq, Repr

structure BlockHeaderDocument where
  height : ℕ
  hash : Bytes
  deriving DecidableEq, Repr

structure BlockWitnessDocument where
  blockNumber : ℕ
  signature : Bytes
  deriving DecidableEq, Repr

structure ReorgDocument where
  fromBlock : ℕ
  toBlock : ℕ
  deriving DecidableEq, Repr

structure TargetEpochDocument where
  epochNumber : ℕ
  salt : Bytes
  deriving DecidableEq, Repr

structure MempoolDocument where
  blockHeight : ℕ
  id : Bytes
  deriving DecidableEq, Repr

/-- The collections the purge touches, and the in-progress height of the chain info. -/
structure Database where
  transactions : Collection TransactionDocument
  contracts : Collection ContractDocument
  pointers : Collection ContractPointerValueDocument
  blockHeaders : Collection BlockHeaderDocument
  blockWitnesses : Collection BlockWitnessDocument
  reorgs : Collection ReorgDocument
  epochs : Collection EpochDocument
  epochSubmissions : Collection EpochSubmissionDocument
  mldsaPublicKeys : Collection MLDSAPublicKeyDocument
  unspentTransactions : Utxos
  targetEpochs : Collection TargetEpochDocument
  mempool : Collection MempoolDocument
  inProgressBlock : ℕ

/-- A deletion or update by a filter. -/
structure Command where
  /-- Some stored document matches the filter. -/
  hits : Database → Bool
  run : Database → Database

/-- Commands awaited one after another. -/
abbrev Job := List Command

/-- Jobs awaited together, on different collections. -/
abbrev Stage := List Job

structure RevertConfig where
  DEV_MODE : Bool
  REINDEX_BATCH_SIZE : ℕ
  REINDEX_PURGE_UTXOS : Bool
  deriving DecidableEq, Repr

namespace VMMongoStorage

open EpochRepository MLDSAPublicKeyRepository UnspentTransactionRepository

/-! ### The commands -/

/-- Deletion by height from one of the collections: `get` and `set` say which. -/
def deleteByHeight {α : Type} (get : Database → Collection α)
    (set : Collection α → Database → Database) (height : α → ℕ) (range : HeightRange) : Command where
  hits db := (get db).any (range.selects fun d => some (height d))
  run db := set ((get db).deleteMany (range.selects fun d => some (height d))) db

def deleteTransactions : HeightRange → Command :=
  deleteByHeight Database.transactions (fun c db => { db with transactions := c })
    TransactionDocument.blockHeight

def deleteContracts : HeightRange → Command :=
  deleteByHeight Database.contracts (fun c db => { db with contracts := c })
    ContractDocument.blockHeight

def deletePointers : HeightRange → Command :=
  deleteByHeight Database.pointers (fun c db => { db with pointers := c })
    ContractPointerValueDocument.lastSeenAt

def deleteBlockHeaders : HeightRange → Command :=
  deleteByHeight Database.blockHeaders (fun c db => { db with blockHeaders := c })
    BlockHeaderDocument.height

def deleteBlockWitnesses : HeightRange → Command :=
  deleteByHeight Database.blockWitnesses (fun c db => { db with blockWitnesses := c })
    BlockWitnessDocument.blockNumber

def deleteReorgs : HeightRange → Command :=
  deleteByHeight Database.reorgs (fun c db => { db with reorgs := c }) ReorgDocument.fromBlock

def deleteEpochs : HeightRange → Command :=
  deleteByHeight Database.epochs (fun c db => { db with epochs := c }) EpochDocument.startBlock

def deleteSubmissions : HeightRange → Command :=
  deleteByHeight Database.epochSubmissions (fun c db => { db with epochSubmissions := c })
    EpochSubmissionDocument.confirmedAt

def deleteMLDSAKeys : HeightRange → Command :=
  deleteByHeight Database.mldsaPublicKeys (fun c db => { db with mldsaPublicKeys := c })
    MLDSAPublicKeyDocument.insertedBlockHeight

/-- Forget the ML-DSA keys exposed in a range. -/
def nullExposedKeys (range : HeightRange) : Command where
  hits db := db.mldsaPublicKeys.any (range.selects MLDSAPublicKeyDocument.exposedBlockHeight)
  run db := { db with mldsaPublicKeys := nullPublicKeys range db.mldsaPublicKeys }

def deleteUtxos (range : HeightRange) : Command where
  hits db := db.unspentTransactions.docs.any (range.selects UnspentTransaction.blockHeight)
  run db := { db with unspentTransactions := deleteCreated range db.unspentTransactions }

def unspendUtxos (range : HeightRange) : Command where
  hits db := db.unspentTransactions.docs.any (range.selects UnspentTransaction.deletedAtBlock)
  run db := { db with unspentTransactions := undoSpent range db.unspentTransactions }

def deleteAllTargetEpochs : Command where
  hits db := !db.targetEpochs.isEmpty
  run db := { db with targetEpochs := [] }

/-- From block 0 or below, all of the mempool. -/
def deleteMempool : Command where
  hits db := !db.mempool.isEmpty
  run db := { db with mempool := [] }

def deleteAllUtxos : Command where
  hits db := !db.unspentTransactions.docs.isEmpty
  run db := { db with unspentTransactions := db.unspentTransactions.deleteMany fun _ => true }

/-! ### The program -/

/-- The jobs of one pass over a range, in the order of `DEV_MODE`. -/
def rangeJobs (purgeUtxos : Bool) (range : HeightRange) : List Job :=
  [[deleteTransactions range]]
    ++ (if purgeUtxos then [[deleteUtxos range, unspendUtxos range]] else [])
    ++ [[deleteContracts range], [deletePointers range], [deleteBlockHeaders range],
      [deleteBlockWitnesses range], [deleteReorgs range], [deleteEpochs range],
      [deleteSubmissions range], [nullExposedKeys range, deleteMLDSAKeys range]]

/-- `DEV_MODE` awaits the jobs one after another, otherwise they are awaited together. -/
def rangeStages (config : RevertConfig) (purgeUtxos : Bool) (range : HeightRange) : List Stage :=
  if config.DEV_MODE then (rangeJobs purgeUtxos range).map fun job => [job]
  else [rangeJobs purgeUtxos range]

def batchSize (config : RevertConfig) : ℕ :=
  if config.REINDEX_BATCH_SIZE = 0 then 1000 else config.REINDEX_BATCH_SIZE

/-- The ranges of the loop `for (to = upperBound; to > blockId; to -= BATCH_SIZE)`; `fuel` bounds the
number of iterations. -/
def batches (size : ℕ) (blockId : ℤ) : ℕ → ℤ → List HeightRange
  | 0, _ => []
  | fuel + 1, hi =>
    if blockId < hi then
      .between (max blockId (hi - size)) hi :: batches size blockId fuel (hi - size)
    else []

/-- The height of the latest stored header. -/
def getLatestBlock (db : Database) : Option ℕ :=
  (db.blockHeaders.map BlockHeaderDocument.height).max?

/-- Where the batches start: the highest of the stored tip, the in-progress height and
`blockId`. -/
def upperBound (blockId : ℤ) (db : Database) : ℤ :=
  let blockHeaderHeight : ℤ := ((getLatestBlock db).map fun h : ℕ => (h : ℤ)).getD blockId
  -- without a header `blockId` stands in for the tip
  let derivedUpper := max blockHeaderHeight db.inProgressBlock
  max derivedUpper blockId

/-- From block 0 or below: the mempool, and once more the UTXOs. -/
def lowStages (purgeUtxos : Bool) (blockId : ℤ) : List Stage :=
  if blockId ≤ 0 then
    [[[deleteMempool]]]
      ++ (if purgeUtxos then
        [[[if blockId < 0 then deleteAllUtxos else deleteUtxos (.atLeast blockId)]]] else [])
  else []

/-- The stages of a purge that found `upper` as its upper bound. -/
def revertStages (config : RevertConfig) (purgeUtxos : Bool) (blockId upper : ℤ) : List Stage :=
  [[deleteAllTargetEpochs]] :: rangeStages config purgeUtxos (.atLeast upper)
    ++ (batches (batchSize config) blockId (upper - blockId).toNat upper).flatMap
      (rangeStages config purgeUtxos)
    ++ lowStages purgeUtxos blockId

/-- Run the commands of a list of stages, none of which throws. -/
def runStages (stages : List Stage) (db : Database) : Database :=
  stages.flatten.flatten.foldl (fun db command => command.run db) db

/-- `revertDataUntilBlock`, when nothing throws. -/
def revertDataUntilBlock (config : RevertConfig) (blockId : ℤ) (purgeUtxosOverride : Option Bool)
    (db : Database) : Database :=
  let purgeUtxos := purgeUtxosOverride.getD config.REINDEX_PURGE_UTXOS
  runStages (revertStages config purgeUtxos blockId (upperBound blockId db)) db

end VMMongoStorage

end OpnetNode
