import OpnetNode.Aggregation
import OpnetNode.Hex
import OpnetNode.Indexer.MempoolRemoval
import OpnetNode.JsMap

/-!
# The aggregations over the mempool

* `fetchSpentUnspentTransactions`: which of the given outpoints the mempool spends.
* `getPendingTransactions`: the outputs that pay an address, with the bytes of their transactions, by
  one pipeline for MongoDB 8 and another for the versions before.

A transaction with inputs is a `SpendingTransaction`, one with outputs a `PayingTransaction`; a
collection is in the order the query meets its documents.
-/

namespace OpnetNode

structure MempoolOutput where
  data : Bytes
  address : Option String
  outputIndex : ℕ
  value : ℤ
  deriving DecidableEq, Repr

/-- What the listing of outputs reads of a stored transaction. -/
structure PayingTransaction where
  id : String
  data : Bytes
  outputs : List MempoolOutput
  deriving DecidableEq, Repr

/-- A document of the group `utxos`; `raw` are the bytes of the transaction. -/
structure PendingRow where
  transactionId : String
  outputIndex : ℕ
  scriptPubKeyHex : Bytes
  scriptPubKeyAddress : Option String
  value : ℤ
  raw : Bytes
  deriving DecidableEq, Repr

/-- An output that is returned; `raw` is where the bytes of its transaction are. -/
structure PendingUtxo where
  transactionId : String
  outputIndex : ℕ
  hex : String
  address : Option String
  value : ℤ
  raw : Option ℤ
  deriving DecidableEq, Repr

structure RawUTXOsAggregationResultV3 where
  utxos : List PendingUtxo
  raw : List String
  deriving DecidableEq, Repr

/-- The output that is returned for a row. -/
def PendingRow.toUtxo (utxo : PendingRow) (raw : Option ℤ) : PendingUtxo where
  transactionId := utxo.transactionId
  outputIndex := utxo.outputIndex
  hex := toHex utxo.scriptPubKeyHex
  address := utxo.scriptPubKeyAddress
  value := utxo.value
  raw := raw

/-! ### Base64 -/

def base64Digit (n : ℕ) : Char :=
  ("ABCDEFGHIJKLMNOPQRSTUVWXYZabcdefghijklmnopqrstuvwxyz0123456789+/".toList)[n]?.getD '='

def base64Digits : List ℕ → List Char
  | [] => []
  | [a] => [base64Digit (a / 4), base64Digit (a % 4 * 16), '=', '=']
  | [a, b] =>
    [base64Digit (a / 4), base64Digit (a % 4 * 16 + b / 16), base64Digit (b % 16 * 4), '=']
  | a :: b :: c :: rest =>
    base64Digit (a / 4) :: base64Digit (a % 4 * 16 + b / 16) ::
      base64Digit (b % 16 * 4 + c / 64) :: base64Digit (c % 64) :: base64Digits rest

def toBase64 (bytes : Bytes) : String := String.ofList (base64Digits (bytes.map UInt8.toNat))

namespace MempoolRepository

open Aggregation

/-! ### Spent outpoints -/

/-- How `inputSet` names an outpoint. -/
def outpointKey (o : SpentOutPoint) : String := o.transactionId ++ ":" ++ toString o.outputIndex

/-- The stored transactions that spend some output of the transactions listed. -/
def spendingListed (txs : List SpentOutPoint) (mempool : Collection SpendingTransaction) :
    Collection SpendingTransaction :=
  mempool.filter fun tx =>
    tx.inputs.any fun input => (txs.map SpentOutPoint.transactionId).contains input.transactionId

def fetchSpentUnspentTransactions (UTXO_LIMIT : ℕ) (txs : List SpentOutPoint)
    (mempool : Collection SpendingTransaction) : Except String (List SpentOutPoint) := do
  let limited ← limit UTXO_LIMIT (spendingListed txs mempool)
  let unwound := (unwind SpendingTransaction.inputs limited).filter fun (_, input) =>
    (txs.map SpentOutPoint.transactionId).contains input.transactionId
  let results := distinct (unwound.map fun (_, input) => input)
  let inputSet := txs.map outpointKey
  return results.filter fun result => inputSet.contains (outpointKey result)

/-! ### Pending outputs -/

/-- The stages both pipelines begin with: an output that pays the address, with its transaction. -/
def payingRows (UTXO_LIMIT : ℕ) (address : String) (mempool : Collection PayingTransaction) :
    Except String (List PendingRow) := do
  let matched := mempool.filter fun tx => tx.outputs.any fun output => output.address = some address
  let limited ← limit UTXO_LIMIT matched
  let unwound := unwind
    (fun tx => tx.outputs.filter fun output => output.address = some address) limited
  return unwound.map fun (tx, output) =>
    ⟨tx.id, output.outputIndex, output.data, output.address, output.value, tx.data⟩

/-- The value of the first fold: the position of each transaction, and the bytes. -/
structure SeenRaws where
  seen : JsMap String ℕ
  arr : List Bytes

def reduceSeen (value : SeenRaws) (this : PendingRow) : SeenRaws where
  seen :=
    if !truthy (value.seen.get this.transactionId) then
      value.seen.set this.transactionId value.arr.length
    else value.seen
  arr :=
    if !truthy (value.seen.get this.transactionId) then value.arr ++ [this.raw] else value.arr

/-- The value of the other fold: the transactions, and their bytes. -/
structure DedupedRaws where
  ids : List String
  arr : List Bytes

def reduceDeduped (value : DedupedRaws) (this : PendingRow) : DedupedRaws where
  ids :=
    if value.ids.contains this.transactionId then value.ids else value.ids ++ [this.transactionId]
  arr := if value.ids.contains this.transactionId then value.arr else value.arr ++ [this.raw]

def indexOfArray (ids : List String) (id : String) : ℤ :=
  if ids.contains id then ids.idxOf id else -1

/-- The document a pipeline gives: a row with where its bytes are. -/
structure PendingDocument where
  utxos : List (PendingRow × Option ℤ)
  raw : List Bytes

/-- The documents of the first pipeline: none, if there was nothing to group. -/
def buildMongodb8Query (UTXO_LIMIT : ℕ) (address : String) (mempool : Collection PayingTransaction) :
    Except String (List PendingDocument) := do
  let utxos ← payingRows UTXO_LIMIT address mempool
  if utxos.isEmpty then return []
  let raw := utxos.foldl reduceSeen ⟨.empty, []⟩
  return [⟨utxos.map fun utxo => (utxo, (raw.seen.get utxo.transactionId).map Int.ofNat), raw.arr⟩]

def buildMongodb7Query (UTXO_LIMIT : ℕ) (address : String) (mempool : Collection PayingTransaction) :
    Except String (List PendingDocument) := do
  let utxos ← payingRows UTXO_LIMIT address mempool
  let deduped := utxos.foldl reduceDeduped ⟨[], []⟩
  return [⟨utxos.map fun utxo => (utxo, some (indexOfArray deduped.ids utxo.transactionId)),
    deduped.arr⟩]

def getPendingTransactions (mongodbMajorVersion UTXO_LIMIT : ℕ) (address : String)
    (mempool : Collection PayingTransaction) : Except String RawUTXOsAggregationResultV3 := do
  let results ←
    if 8 ≤ mongodbMajorVersion then buildMongodb8Query UTXO_LIMIT address mempool
    else buildMongodb7Query UTXO_LIMIT address mempool
  match results.head? with
  | none => return ⟨[], []⟩
  | some result =>
    return ⟨result.utxos.map fun (utxo, raw) => utxo.toUtxo raw, result.raw.map toBase64⟩

end MempoolRepository

end OpnetNode
