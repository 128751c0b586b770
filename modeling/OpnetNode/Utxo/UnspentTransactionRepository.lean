import OpnetNode.AddressMap

/-!
# The UTXO collection

One document per outpoint (a unique index says so). A document is written by the batch that saves
its output, or by the batch that spends it, whichever comes first; a spending batch sets nothing but
`deletedAtBlock`, so a document it creates has no value, height or script.

* `insertTransactions`: one batch of blocks.
* `deleteTransactionsFromBlockHeight`/`deleteTransactionsInRange`: the revert.
* `deleteGreaterThanBlockHeight`, `purgeSpentUTXOsFromBlockHeight`: the two other deletions.
-/

namespace OpnetNode

/-- A transaction id and an output index. -/
abbrev OutPoint := Bytes × ℕ

structure ShortScriptPubKey where
  hex : Bytes
  address : Option String
  addresses : Option (List String)
  deriving DecidableEq, Repr

/-- `IUnspentTransaction`, with the fields a document can lack as options. -/
structure UnspentTransaction where
  outPoint : OutPoint
  blockHeight : Option ℕ
  value : Option ℕ
  scriptPubKey : Option ShortScriptPubKey
  deletedAtBlock : Option ℕ
  deriving DecidableEq, Repr

/-- `ISpentTransaction`. -/
structure SpentTransaction where
  outPoint : OutPoint
  deletedAtBlock : ℕ
  deriving DecidableEq, Repr

structure TransactionInput where
  originalTransactionId : Option Bytes
  outputTransactionIndex : Option ℕ
  deriving DecidableEq, Repr

structure TransactionOutput where
  index : ℕ
  value : ℕ
  scriptPubKey : ShortScriptPubKey
  deriving DecidableEq, Repr

structure TransactionBasic where
  id : Bytes
  inputs : List TransactionInput
  outputs : List TransactionOutput
  deriving DecidableEq, Repr

/-- `ProcessUnspentTransaction`: a block's transactions, whose height is the block's. -/
structure UtxoBlock where
  blockHeight : ℕ
  transactions : List TransactionBasic
  deriving DecidableEq, Repr

/-- The indexer's settings for purging spent outputs. -/
structure PurgeConfig where
  ALLOW_PURGE : Bool
  PURGE_SPENT_UTXO_OLDER_THAN_BLOCKS : ℕ
  deriving DecidableEq, Repr

abbrev Utxos := IndexedCollection UnspentTransaction.outPoint

namespace UnspentTransaction

/-- The document that has nothing but its outpoint. -/
def bare (outPoint : OutPoint) : UnspentTransaction := ⟨outPoint, none, none, none, none⟩

theorem bare_outPoint (outPoint : OutPoint) : (bare outPoint).outPoint = outPoint := rfl

end UnspentTransaction

namespace UnspentTransactionRepository

/-! ### Writing a batch -/

/-- Delete the outputs spent at or below a height. -/
def purgeSpentUTXOsFromBlockHeight (fromBlockHeight : ℤ) (utxos : Utxos) : Utxos :=
  utxos.deleteMany fun d => d.deletedAtBlock.any fun h : ℕ => decide ((h : ℤ) ≤ fromBlockHeight)

/-- The outpoint an input spends; a coinbase input spends none. -/
def spentOutPoint (input : TransactionInput) : Option OutPoint :=
  match input.originalTransactionId, input.outputTransactionIndex with
  | some originalTransactionId, some outputTransactionIndex =>
    some (originalTransactionId, outputTransactionIndex)
  | _, _ => none

def convertSpentTransactions (blocks : List UtxoBlock) : List SpentTransaction :=
  blocks.flatMap fun block => block.transactions.flatMap fun transaction =>
    (transaction.inputs.filterMap spentOutPoint).map fun outPoint => ⟨outPoint, block.blockHeight⟩

/-- Whether an output is indexed: it has a value, and an address or a list of addresses. -/
def indexable (output : TransactionOutput) : Bool :=
  output.value != 0
    && (output.scriptPubKey.address.any (· ≠ "") || output.scriptPubKey.addresses.isSome)

/-- The output as a document, in the block at `blockHeight`. -/
def unspentTransaction (blockHeight : ℕ) (transaction : TransactionBasic)
    (output : TransactionOutput) : UnspentTransaction where
  outPoint := (transaction.id, output.index)
  blockHeight := some blockHeight
  value := some output.value
  scriptPubKey := some
    { hex := output.scriptPubKey.hex
      address := output.scriptPubKey.address
      -- kept only when there is no single address
      addresses := if output.scriptPubKey.address.any (· ≠ "") then some []
        else output.scriptPubKey.addresses }
  deletedAtBlock := none

/-- The outputs a batch creates, in order. -/
def createdTransactions (blocks : List UtxoBlock) : List UnspentTransaction :=
  blocks.flatMap fun block => block.transactions.flatMap fun transaction =>
    (transaction.outputs.filter indexable).map (unspentTransaction block.blockHeight transaction)

/-- The outputs a batch writes: those it creates and does not spend. -/
def convertToUnspentTransactions (blocks : List UtxoBlock)
    (spentTransactions : List SpentTransaction) : List UnspentTransaction :=
  (createdTransactions blocks).filter fun created =>
    !(spentTransactions.any fun spent => spent.outPoint = created.outPoint)

/-- The upsert that writes an output: it leaves a `deletedAtBlock` that is there. -/
def writeUnspent (utxos : Utxos) (transaction : UnspentTransaction) : Utxos :=
  utxos.upsert transaction.outPoint
    (fun d => { d with
      blockHeight := transaction.blockHeight
      value := transaction.value
      scriptPubKey := transaction.scriptPubKey })
    (UnspentTransaction.bare transaction.outPoint) (fun _ => rfl) (UnspentTransaction.bare_outPoint _)

/-- The upsert that marks an output spent: it sets nothing else. -/
def markSpent (utxos : Utxos) (transaction : SpentTransaction) : Utxos :=
  utxos.upsert transaction.outPoint
    (fun d => { d with deletedAtBlock := some transaction.deletedAtBlock })
    (UnspentTransaction.bare transaction.outPoint) (fun _ => rfl) (UnspentTransaction.bare_outPoint _)

def highestBlock (blocks : List UtxoBlock) : ℕ :=
  blocks.foldl (fun blockHeight block => max blockHeight block.blockHeight) 0

/-- The purge that comes before a batch, if it is configured. -/
def purgeBefore (config : PurgeConfig) (blocks : List UtxoBlock) (utxos : Utxos) : Utxos :=
  if config.ALLOW_PURGE && config.PURGE_SPENT_UTXO_OLDER_THAN_BLOCKS != 0 then
    purgeSpentUTXOsFromBlockHeight
      ((highestBlock blocks : ℤ) - config.PURGE_SPENT_UTXO_OLDER_THAN_BLOCKS) utxos
  else utxos

/-- One batch of blocks: the outputs it does not spend itself are written, then its spends are
marked, both only if there is an output to write. -/
def insertTransactions (config : PurgeConfig) (blocks : List UtxoBlock) (utxos : Utxos) : Utxos :=
  let purged := purgeBefore config blocks utxos
  let convertedSpentTransactions := convertSpentTransactions blocks
  let convertedUnspentTransactions :=
    convertToUnspentTransactions blocks convertedSpentTransactions
  -- the spends are in the branch of the writes
  if convertedUnspentTransactions.isEmpty then purged
  else
    convertedSpentTransactions.foldl markSpent
      (convertedUnspentTransactions.foldl writeUnspent purged)

/-! ### Reverting -/

/-- Undo a spend. -/
def unspend (d : UnspentTransaction) : UnspentTransaction := { d with deletedAtBlock := none }

theorem unspend_outPoint (d : UnspentTransaction) : (unspend d).outPoint = d.outPoint := rfl

def deleteCreated (range : HeightRange) (utxos : Utxos) : Utxos :=
  utxos.deleteMany (range.selects UnspentTransaction.blockHeight)

def undoSpent (range : HeightRange) (utxos : Utxos) : Utxos :=
  utxos.updateMany (range.selects UnspentTransaction.deletedAtBlock) unspend unspend_outPoint

def deleteTransactionsFromBlockHeight (blockHeight : ℤ) (utxos : Utxos) : Utxos :=
  undoSpent (.atLeast blockHeight) (deleteCreated (.atLeast blockHeight) utxos)

def deleteTransactionsInRange (lo hi : ℤ) (utxos : Utxos) : Utxos :=
  undoSpent (.between lo hi) (deleteCreated (.between lo hi) utxos)

/-- Below height 0, delete everything. -/
def deleteGreaterThanBlockHeight (blockHeight : ℤ) (utxos : Utxos) : Utxos :=
  if blockHeight < 0 then utxos.deleteMany fun _ => true
  else deleteCreated (.atLeast blockHeight) utxos

end UnspentTransactionRepository

end OpnetNode
