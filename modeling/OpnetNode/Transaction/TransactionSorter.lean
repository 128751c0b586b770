import OpnetNode.Epoch.EpochManager
import OpnetNode.Hex
import OpnetNode.JsMap
import OpnetNode.PriorityQueue

/-!
# The order of the transactions of a block

`sortTransactions` puts the coinbase transaction first and emits the others parents first, always the
one of the highest effective priority among those whose parents are out.  The effective priority of a
transaction is the highest priority of it and its descendants; it is computed on demand, in a
recursion whose results are kept in a cache.  The priority queue is the one of another package, and
a parameter here.

`sortTransactionsByOrder` puts the transactions in the order of a list of ids.
-/

namespace OpnetNode.TransactionSorter

open Proc

structure TransactionInput where
  /-- Empty for the input of a coinbase transaction. -/
  originalTransactionId : Bytes
  deriving DecidableEq

/-- What the sorter reads and writes of a transaction. -/
structure Transaction where
  transactionIdString : String
  inputs : List TransactionInput
  priorityFee : ℤ
  computedIndexingHash : Bytes
  index : ℕ
  deriving DecidableEq

structure DependencyGraph where
  transactionsById : JsMap String Transaction
  adjacency : JsMap String (List String)
  inDegree : JsMap String ℤ

/-- The effective priorities known so far. -/
abbrev PriorityCache := JsMap String ℤ

abbrev SortM (α : Type) := Proc PriorityCache String α

/-! ### The dependency graph -/

def getInputTransactionId (originalTransactionId : Bytes) : Option String :=
  if originalTransactionId = [] then none else some (toHex originalTransactionId)

/-- Record that a transaction spends an output of another one of the list. -/
def addEdge (childId : String) (graph : DependencyGraph) (parentId : String) : DependencyGraph :=
  if graph.transactionsById.has parentId = false ∨ parentId = childId then graph
  else
    match graph.adjacency.get parentId with
    | none => graph
    | some children =>
      if childId ∈ children then graph
      else
        { graph with
          adjacency := graph.adjacency.set parentId (children ++ [childId])
          inDegree := graph.inDegree.set childId ((graph.inDegree.get childId).getD 0 + 1) }

def addInput (childId : String) (graph : DependencyGraph) (input : TransactionInput) :
    DependencyGraph :=
  match getInputTransactionId input.originalTransactionId with
  | none => graph
  | some parentId => addEdge childId graph parentId

def byId (transactions : List Transaction) : JsMap String Transaction :=
  transactions.foldl (fun m tx => m.set tx.transactionIdString tx) .empty

/-- The graph without edges. -/
def emptyGraph (transactions : List Transaction) : DependencyGraph where
  transactionsById := byId transactions
  adjacency := (byId transactions).entries.foldl (fun m entry => m.set entry.1 []) .empty
  inDegree := (byId transactions).entries.foldl (fun m entry => m.set entry.1 0) .empty

/-- Build the children of each transaction and a matching number of parents. -/
def buildDependencyGraph (transactions : List Transaction) : DependencyGraph :=
  transactions.foldl
    (fun graph tx => tx.inputs.foldl (addInput tx.transactionIdString) graph)
    (emptyGraph transactions)

def getTx (graph : DependencyGraph) (txId : String) : SortM Transaction :=
  match graph.transactionsById.get txId with
  | none => throw s!"Transaction {txId} not found in graph."
  | some tx => pure tx

/-! ### Priorities -/

def getTransactionPriority (tx : Transaction) : ℤ := tx.priorityFee

/-- The best priority reachable from a transaction.  `visiting` holds the transactions whose
priority is being computed, which are distinct, so that `fuel` is enough if it is above their
number. -/
def computeEffectivePriority (graph : DependencyGraph) :
    ℕ → List String → Transaction → SortM ℤ
  | 0, _, tx => pure (getTransactionPriority tx)
  | fuel + 1, visiting, tx => do
    let cache ← get
    match cache.get tx.transactionIdString with
    | some cachedPriority => pure cachedPriority
    | none =>
      if tx.transactionIdString ∈ visiting then pure (getTransactionPriority tx)
      else do
        let bestPriority ← foldEach
          (fun bestPriority childId => do
            let child ← getTx graph childId
            let childPriority ←
              computeEffectivePriority graph fuel (tx.transactionIdString :: visiting) child
            return if childPriority > bestPriority then childPriority else bestPriority)
          (getTransactionPriority tx)
          ((graph.adjacency.get tx.transactionIdString).getD [])
        modify (·.set tx.transactionIdString bestPriority)
        return bestPriority

/-- The byte comparison of hashes: `-1`, `0` or `1`. -/
def compare (a b : Bytes) : ℤ := (EpochManager.compareBytes a b).sign

def compareHashes (txA txB : Transaction) : ℤ :=
  compare txA.computedIndexingHash txB.computedIndexingHash

/-- Compare by effective priority, then by priority, then by hash. -/
def compareByPriority (graph : DependencyGraph) : Comparator PriorityCache String Transaction :=
  fun a b => do
    let fuel := graph.transactionsById.size + 1
    let effA ← computeEffectivePriority graph fuel [] a
    let effB ← computeEffectivePriority graph fuel [] b
    if effA ≠ effB then return if effA > effB then -1 else 1
    else if getTransactionPriority a ≠ getTransactionPriority b then
      return if getTransactionPriority a > getTransactionPriority b then -1 else 1
    else return compareHashes a b

/-! ### Emitting -/

variable (Q : PriorityQueue PriorityCache String Transaction)

/-- The state of the traversal: the parents left of each transaction, the transactions that are
ready, and those emitted. -/
structure Traversal where
  inDegree : JsMap String ℤ
  availableTxs : Q.Queue
  resultTxs : List Transaction

variable {Q} (graph : DependencyGraph)

/-- Enqueue a transaction if it has no parents. -/
def enqueueRoot (availableTxs : Q.Queue) (entry : String × ℤ) : SortM Q.Queue :=
  if entry.2 = 0 then do
    let tx ← getTx graph entry.1
    Q.enqueue (compareByPriority graph) tx availableTxs
  else pure availableTxs

/-- A parent of a transaction is out. -/
def releaseChild (t : Traversal Q) (childId : String) : SortM (Traversal Q) :=
  let updated := (t.inDegree.get childId).getD 0 - 1
  let inDegree := t.inDegree.set childId updated
  if updated = 0 then do
    let child ← getTx graph childId
    let availableTxs ← Q.enqueue (compareByPriority graph) child t.availableTxs
    return { t with inDegree := inDegree, availableTxs := availableTxs }
  else return { t with inDegree := inDegree }

def emit (t : Traversal Q) (nextTx : Transaction) : SortM (Traversal Q) :=
  foldEach (releaseChild graph) { t with resultTxs := t.resultTxs ++ [nextTx] }
    ((graph.adjacency.get nextTx.transactionIdString).getD [])

/-- Emit the most valuable available transaction until none is left.  Each turn emits one, so that
`fuel` is enough if it is the number of transactions. -/
def emitAll : ℕ → Traversal Q → SortM (Traversal Q)
  | 0, t => pure t
  | fuel + 1, t =>
    if Q.isEmpty t.availableTxs = true then pure t
    else do
      let dequeued ← Q.dequeue (compareByPriority graph) t.availableTxs
      match dequeued.1 with
      | none => pure { t with availableTxs := dequeued.2 }
      | some nextTx => do
        let t ← emit graph { t with availableTxs := dequeued.2 } nextTx
        emitAll fuel t

/-- Insert into a sorted list, after what compares equal. -/
def insertByPriority (tx : Transaction) : List Transaction → SortM (List Transaction)
  | [] => pure [tx]
  | other :: rest => do
    let c ← compareByPriority graph tx other
    if c < 0 then return tx :: other :: rest
    else do
      let rest ← insertByPriority tx rest
      return other :: rest

/-- Append the transactions that were not emitted, by priority alone. -/
def appendRemaining (resultTxs : List Transaction) : SortM (List Transaction) :=
  if resultTxs.length ≠ graph.transactionsById.size then do
    let remaining := graph.transactionsById.vals.filter fun txA =>
      resultTxs.all fun txB => txA.transactionIdString ≠ txB.transactionIdString
    let sorted ← foldEach (fun sorted tx => insertByPriority graph tx sorted) [] remaining
    return resultTxs ++ sorted
  else return resultTxs

variable (Q)

/-- Sort by priority, but place parents before children. -/
def sortByFeeWithDependencies (transactions : List Transaction) : SortM (List Transaction) := do
  let graph := buildDependencyGraph transactions
  let availableTxs ← foldEach (enqueueRoot graph) Q.empty graph.inDegree.entries
  let t ← emitAll (Q := Q) graph graph.transactionsById.size
    { inDegree := graph.inDegree, availableTxs := availableTxs, resultTxs := [] }
  appendRemaining graph t.resultTxs

/-- Whether a transaction is a block reward. -/
def isReward (tx : Transaction) : Bool :=
  tx.inputs.any fun input => input.originalTransactionId.length = 0

def blockRewards (transactions : List Transaction) : List Transaction :=
  transactions.filter isReward

def nonBlockRewards (transactions : List Transaction) : List Transaction :=
  transactions.filter fun tx => tx.inputs.all fun input => input.originalTransactionId.length ≠ 0

def setIndexes (transactions : List Transaction) : List Transaction :=
  transactions.mapIdx fun index tx => { tx with index := index }

def sortTransactions (transactions : List Transaction) : Except String (List Transaction) := do
  let sortedNonRewards ← (sortByFeeWithDependencies Q (nonBlockRewards transactions) .empty).1
  let finalList := blockRewards transactions ++ sortedNonRewards
  if finalList.length ≠ transactions.length then
    let initialLength := transactions.length
    let finalLength := finalList.length
    .error
      s!"Transaction count changed during sorting. Expected {initialLength}, got {finalLength}."
  else .ok (setIndexes finalList)

/-! ### A supplied order -/

def sortTransactionsByOrder (transactionIds : List String) (transactions : List Transaction) :
    Except String (List Transaction) :=
  if transactionIds.length ≠ transactions.length then
    let initialLength := transactions.length
    let finalLength := transactionIds.length
    .error
      s!"Transaction count changed during sorting. Expected {initialLength}, got {finalLength}."
  else
    transactionIds.mapM fun transactionId =>
      match transactions.find? fun t => t.transactionIdString = transactionId with
      | some tx => .ok tx
      | none => .error s!"Transaction with id {transactionId} not found."

/-- The part of `Block.deserialize` that orders the transactions, which were just parsed. -/
def orderTransactions (transactionOrder : Option (List String)) (transactions : List Transaction) :
    Except String (List Transaction) :=
  match transactionOrder with
  | some transactionOrder => sortTransactionsByOrder transactionOrder transactions
  | none => sortTransactions Q transactions

end OpnetNode.TransactionSorter
