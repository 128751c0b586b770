import OpnetNode.Indexer.MempoolRemoval
import OpnetNode.SharedSearch

/-!
# Evicted mempool transactions

A transaction that was broadcast and stored evicts the transactions that spend one of its outpoints,
and those that descend from them. `Mempool.cleanupEvictedTransactions` searches for them in the stored
transactions, one search for each conflict with a `visited` set that all of them share.

* `getAllDescendants` is `SharedSearch.collect` of the direct descendants.
* `cleanupEvictedTransactions`: `none` means that the search has not ended; `toDelete`, a set, is a
  list here.

The warning about more than 100 evicted transactions changes nothing and is left out.
-/

namespace OpnetNode

/-- The collection, with its unique index on the id. -/
abbrev MempoolTransactions := IndexedCollection SpendingTransaction.id

namespace MempoolRepository

/-- An upsert by id. -/
def storeTransaction (transaction : SpendingTransaction) (mempool : MempoolTransactions) :
    MempoolTransactions :=
  mempool.upsert transaction.id (fun tx => { tx with inputs := transaction.inputs })
    ⟨transaction.id, []⟩ (fun _ => rfl) rfl

/-- The stored transactions that spend an output of the given one. -/
def findDirectDescendants (id : String) (mempool : Collection SpendingTransaction) :
    Collection SpendingTransaction :=
  mempool.filter fun tx => tx.inputs.any fun input => input.transactionId = id

end MempoolRepository

namespace Mempool

open MempoolRepository SharedSearch

def getAllDescendants (mempool : Collection SpendingTransaction) :
    ℕ → String → List String → Option (List String × List String) :=
  collect fun id => (findDirectDescendants id mempool).map SpendingTransaction.id

def cleanupEvictedTransactions (fuel : ℕ) (transaction : SpendingTransaction)
    (mempool : MempoolTransactions) : Option MempoolTransactions :=
  let conflicts := findConflictingTransactions transaction mempool.docs
  if conflicts.isEmpty then some mempool
  else
    let searched :=
      visitEach (getAllDescendants mempool.docs fuel) (conflicts.map SpendingTransaction.id) [] []
    searched.map fun (toDelete, _) => mempool.deleteMany fun tx => toDelete.contains tx.id

end Mempool

end OpnetNode
