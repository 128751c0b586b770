import Mathlib.Data.List.Induction
import OpnetNode.Utxo.UnspentTransactionRepository

/-!
# A batch as one outpoint sees it

The commands of a batch act on the documents of different outpoints independently, so a batch is a
function on the document of one outpoint.

* `spendHeights`, `creations`: the spends and the indexed creations of an outpoint in a list of
  blocks; both split over the list.
* `lookup_insertTransactions`: what a batch does to the document of an outpoint (`batchAt`).
* `lookup_insertAll`: what a list of batches does to it.
* `mem_unspentSet`: the unspent outputs, by outpoint.
-/

namespace OpnetNode

namespace UnspentTransactionRepository

/-! ### Spends and creations -/

def spendHeights (outPoint : OutPoint) (blocks : List UtxoBlock) : List ℕ :=
  ((convertSpentTransactions blocks).filter fun spent => spent.outPoint = outPoint).map
    SpentTransaction.deletedAtBlock

/-- The documents of the indexed outputs that blocks create at an outpoint. -/
def creations (outPoint : OutPoint) (blocks : List UtxoBlock) : List UnspentTransaction :=
  (createdTransactions blocks).filter fun created => created.outPoint = outPoint

/-- Whether a batch has an output to write, without which it also marks no spend. -/
def writes (blocks : List UtxoBlock) : Bool :=
  !(convertToUnspentTransactions blocks (convertSpentTransactions blocks)).isEmpty

variable (o : OutPoint)

@[simp] theorem spendHeights_nil : spendHeights o [] = [] := rfl

@[simp] theorem creations_nil : creations o [] = [] := rfl

theorem spendHeights_append (blocks blocks' : List UtxoBlock) :
    spendHeights o (blocks ++ blocks') = spendHeights o blocks ++ spendHeights o blocks' := by
  unfold spendHeights convertSpentTransactions
  rw [List.flatMap_append, List.filter_append, List.map_append]

theorem creations_append (blocks blocks' : List UtxoBlock) :
    creations o (blocks ++ blocks') = creations o blocks ++ creations o blocks' := by
  unfold creations createdTransactions
  rw [List.flatMap_append, List.filter_append]

variable (blocks : List UtxoBlock)

theorem spendHeights_eq_flatMap :
    spendHeights o blocks = blocks.flatMap fun block => spendHeights o [block] := by
  induction blocks with
  | nil => rfl
  | cons block blocks ih =>
    rw [← List.singleton_append, spendHeights_append, ih, List.flatMap_append,
      List.flatMap_singleton]

theorem creations_eq_flatMap :
    creations o blocks = blocks.flatMap fun block => creations o [block] := by
  induction blocks with
  | nil => rfl
  | cons block blocks ih =>
    rw [← List.singleton_append, creations_append, ih, List.flatMap_append,
      List.flatMap_singleton]

theorem any_spent_iff : ((convertSpentTransactions blocks).any fun spent => spent.outPoint = o)
      = !(spendHeights o blocks).isEmpty := by
  unfold spendHeights
  induction convertSpentTransactions blocks with
  | nil => rfl
  | cons spent l ih =>
    by_cases ho : spent.outPoint = o
    · simp [ho]
    · simpa [ho] using ih

variable {o : OutPoint} {d : UnspentTransaction}

theorem mem_creations {blocks : List UtxoBlock}
    (h : d ∈ creations o blocks) : d.outPoint = o ∧ d.deletedAtBlock = none := by
  obtain ⟨hmem, ho⟩ := List.mem_filter.mp h
  refine ⟨by simpa using ho, ?_⟩
  unfold createdTransactions at hmem
  obtain ⟨block, -, hmem⟩ := List.mem_flatMap.mp hmem
  obtain ⟨transaction, -, hmem⟩ := List.mem_flatMap.mp hmem
  obtain ⟨output, -, rfl⟩ := List.mem_map.mp hmem
  rfl

theorem writes_of_creations {blocks : List UtxoBlock} (hc : creations o blocks ≠ [])
    (hs : spendHeights o blocks = []) : writes blocks := by
  obtain ⟨d, hd⟩ := List.exists_mem_of_ne_nil _ hc
  obtain ⟨hmem, ho⟩ := List.mem_filter.mp hd
  have ho : d.outPoint = o := by simpa using ho
  have hwrite : d ∈ convertToUnspentTransactions blocks (convertSpentTransactions blocks) := by
    unfold convertToUnspentTransactions
    rw [List.mem_filter]
    refine ⟨hmem, ?_⟩
    rw [ho, any_spent_iff, hs]
    rfl
  unfold writes
  cases h : convertToUnspentTransactions blocks (convertSpentTransactions blocks) with
  | nil => rw [h] at hwrite; cases hwrite
  | cons e l => rfl

/-! ### The bulk operations at one outpoint -/

/-- Set a document's output. -/
def withOutput (created d : UnspentTransaction) : UnspentTransaction :=
  { d with
    blockHeight := created.blockHeight
    value := created.value
    scriptPubKey := created.scriptPubKey }

/-- Mark a document spent. -/
def withSpend (height : ℕ) (d : UnspentTransaction) : UnspentTransaction :=
  { d with deletedAtBlock := some height }

theorem lookup_markSpent (utxos : Utxos) (spent : SpentTransaction) (o : OutPoint) :
    (markSpent utxos spent).lookup o
      = if o = spent.outPoint then
          some (withSpend spent.deletedAtBlock ((utxos.lookup spent.outPoint).getD
            (.bare spent.outPoint)))
        else utxos.lookup o :=
  IndexedCollection.lookup_upsert _ _ _ _ _ utxos o

theorem lookup_writeUnspent (utxos : Utxos) (created : UnspentTransaction) (o : OutPoint) :
    (writeUnspent utxos created).lookup o
      = if o = created.outPoint then
          some (withOutput created ((utxos.lookup created.outPoint).getD (.bare created.outPoint)))
        else utxos.lookup o :=
  IndexedCollection.lookup_upsert _ _ _ _ _ utxos o

theorem lookup_foldl_markSpent (spent : List SpentTransaction) (utxos : Utxos) (o : OutPoint) :
    (spent.foldl markSpent utxos).lookup o
      = match ((spent.filter fun s => s.outPoint = o).map SpentTransaction.deletedAtBlock).getLast?
        with
        | none => utxos.lookup o
        | some height => some (withSpend height ((utxos.lookup o).getD (.bare o))) := by
  induction spent using List.reverseRecOn with
  | nil => rfl
  | append_singleton spent s ih =>
    rw [List.foldl_append, List.foldl_cons, List.foldl_nil, lookup_markSpent, List.filter_append,
      List.map_append]
    by_cases ho : o = s.outPoint
    · subst ho
      rw [if_pos rfl, ih]
      simp only [List.filter_cons, decide_true, if_true, List.filter_nil, List.map_cons,
        List.map_nil, List.getLast?_append, List.getLast?_singleton, Option.some_or]
      split <;> rfl
    · have ho' : ¬ s.outPoint = o := fun h => ho h.symm
      rw [if_neg ho, ih]
      simp [ho']

theorem lookup_foldl_writeUnspent (created : List UnspentTransaction) (utxos : Utxos)
    (o : OutPoint) :
    (created.foldl writeUnspent utxos).lookup o
      = match (created.filter fun c => c.outPoint = o).getLast? with
        | none => utxos.lookup o
        | some c => some (withOutput c ((utxos.lookup o).getD (.bare o))) := by
  induction created using List.reverseRecOn with
  | nil => rfl
  | append_singleton created c ih =>
    rw [List.foldl_append, List.foldl_cons, List.foldl_nil, lookup_writeUnspent,
      List.filter_append]
    by_cases ho : o = c.outPoint
    · subst ho
      rw [if_pos rfl, ih]
      simp only [List.filter_cons, decide_true, if_true, List.filter_nil, List.getLast?_append,
        List.getLast?_singleton, Option.some_or]
      split <;> rfl
    · have ho' : ¬ c.outPoint = o := fun h => ho h.symm
      rw [if_neg ho, ih]
      simp [ho']

/-- The height up to which the purge before a batch deletes spent outputs, if there is one. -/
def purgeHeight (config : PurgeConfig) (blocks : List UtxoBlock) : Option ℤ :=
  if config.ALLOW_PURGE && config.PURGE_SPENT_UTXO_OLDER_THAN_BLOCKS != 0 then
    some ((highestBlock blocks : ℤ) - config.PURGE_SPENT_UTXO_OLDER_THAN_BLOCKS)
  else none

/-- Whether the purge before a batch deletes an output spent at `height`. -/
def purges (config : PurgeConfig) (blocks : List UtxoBlock) (height : ℕ) : Bool :=
  (purgeHeight config blocks).any fun upTo => decide ((height : ℤ) ≤ upTo)

variable (config : PurgeConfig)

theorem lookup_purgeBefore (blocks : List UtxoBlock) (utxos : Utxos)
    (o : OutPoint) : (purgeBefore config blocks utxos).lookup o
      = (utxos.lookup o).filter fun d => !d.deletedAtBlock.any (purges config blocks) := by
  unfold purgeBefore
  by_cases hconfig : config.ALLOW_PURGE && config.PURGE_SPENT_UTXO_OLDER_THAN_BLOCKS != 0
  · rw [if_pos hconfig, purgeSpentUTXOsFromBlockHeight, IndexedCollection.lookup_deleteMany]
    congr 1
    funext d
    cases d.deletedAtBlock <;> simp [purges, purgeHeight, hconfig]
  · rw [if_neg hconfig]
    have hnone : ∀ height, purges config blocks height = false := by
      intro height
      simp [purges, purgeHeight, hconfig]
    cases utxos.lookup o with
    | none => rfl
    | some d => cases hd : d.deletedAtBlock <;> simp [Option.filter, hd, hnone]

/-- What a batch does to the document of an outpoint. -/
def batchAt (config : PurgeConfig) (o : OutPoint) (d : Option UnspentTransaction)
    (blocks : List UtxoBlock) : Option UnspentTransaction :=
  let purged := d.filter fun d => !d.deletedAtBlock.any (purges config blocks)
  if writes blocks then
    match (spendHeights o blocks).getLast? with
    | some height => some (withSpend height (purged.getD (.bare o)))
    | none =>
      match (creations o blocks).getLast? with
      | some created => some (withOutput created (purged.getD (.bare o)))
      | none => purged
  else purged

/-- The document after a batch, given what the purge of old spends has left of it. -/
inductive BatchEffect (o : OutPoint) (blocks : List UtxoBlock) (purged : Option UnspentTransaction) :
    Option UnspentTransaction → Prop where
  | spent {height : ℕ} (hwrites : writes blocks)
      (hspends : (spendHeights o blocks).getLast? = some height) :
      BatchEffect o blocks purged (some (withSpend height (purged.getD (.bare o))))
  | created {created : UnspentTransaction} (hwrites : writes blocks)
      (hspends : spendHeights o blocks = [])
      (hcreated : (creations o blocks).getLast? = some created) :
      BatchEffect o blocks purged (some (withOutput created (purged.getD (.bare o))))
  | kept (hidle : writes blocks = false ∨ spendHeights o blocks = [] ∧ creations o blocks = []) :
      BatchEffect o blocks purged purged

theorem batchAt_effect (o : OutPoint) (d : Option UnspentTransaction) (blocks : List UtxoBlock) :
    BatchEffect o blocks (d.filter fun d => !d.deletedAtBlock.any (purges config blocks))
      (batchAt config o d blocks) := by
  unfold batchAt
  dsimp only
  split
  · rename_i hwrites
    split
    · rename_i height hspends
      exact .spent hwrites hspends
    · rename_i hspends
      have hnil : spendHeights o blocks = [] := List.getLast?_eq_none_iff.mp hspends
      split
      · rename_i created hcreated
        exact .created hwrites hnil hcreated
      · rename_i hcreated
        exact .kept (.inr ⟨hnil, List.getLast?_eq_none_iff.mp hcreated⟩)
  · rename_i hwrites
    exact .kept (.inl (Bool.eq_false_iff.mpr hwrites))

/-- What a batch writes at an outpoint: its creations, unless it also spends it. -/
theorem filter_convertToUnspentTransactions :
    (convertToUnspentTransactions blocks (convertSpentTransactions blocks)).filter
        (fun c => c.outPoint = o)
      = if (spendHeights o blocks).isEmpty then creations o blocks else [] := by
  unfold convertToUnspentTransactions creations
  rw [List.filter_filter]
  split
  · rename_i hs
    apply List.filter_congr
    intro c _
    by_cases ho : c.outPoint = o
    · simp only [ho, decide_true, any_spent_iff, hs, Bool.not_true, Bool.not_false, Bool.and_true]
    · simp [ho]
  · rename_i hs
    apply List.filter_eq_nil_iff.mpr
    intro c _
    by_cases ho : c.outPoint = o
    · simp only [ho, decide_true, any_spent_iff, hs]
      simp
    · simp [ho]

theorem lookup_insertTransactions (blocks : List UtxoBlock) (utxos : Utxos) (o : OutPoint) :
    (insertTransactions config blocks utxos).lookup o
      = batchAt config o (utxos.lookup o) blocks := by
  unfold insertTransactions batchAt writes
  dsimp only
  cases hempty : (convertToUnspentTransactions blocks (convertSpentTransactions blocks)).isEmpty with
  | true => simpa using lookup_purgeBefore config blocks utxos o
  | false =>
    rw [if_neg (by simp), if_pos (by simp), lookup_foldl_markSpent, lookup_foldl_writeUnspent,
      filter_convertToUnspentTransactions, lookup_purgeBefore]
    show (match (spendHeights o blocks).getLast? with
      | none => _
      | some height => _) = _
    cases hs : (spendHeights o blocks).getLast? with
    | none =>
      have hnil : spendHeights o blocks = [] := List.getLast?_eq_none_iff.mp hs
      rw [hnil, List.isEmpty_nil, if_pos rfl]
      cases (creations o blocks).getLast? <;> rfl
    | some height =>
      have hne : (spendHeights o blocks).isEmpty = false := by
        cases hl : spendHeights o blocks with
        | nil => rw [hl] at hs; cases hs
        | cons h l => rfl
      rw [hne]
      rfl

/-! ### A list of batches -/

/-- Insert one batch after another. -/
def insertAll (config : PurgeConfig) (batches : List (List UtxoBlock)) (utxos : Utxos) : Utxos :=
  batches.foldl (fun utxos blocks => insertTransactions config blocks utxos) utxos

theorem lookup_insertAll (batches : List (List UtxoBlock)) (utxos : Utxos) (o : OutPoint) :
    (insertAll config batches utxos).lookup o
      = batches.foldl (batchAt config o) (utxos.lookup o) := by
  unfold insertAll
  induction batches generalizing utxos with
  | nil => rfl
  | cons blocks batches ih => rw [List.foldl_cons, List.foldl_cons, ih, lookup_insertTransactions]

/-- The unspent outputs: the documents without a spend. -/
def unspentSet (utxos : Utxos) : Set UnspentTransaction :=
  {d | d ∈ utxos.docs ∧ d.deletedAtBlock = none}

/-- The unspent output at an outpoint. -/
def unspentAt (o : OutPoint) (utxos : Utxos) : Option UnspentTransaction :=
  (utxos.lookup o).filter fun d => d.deletedAtBlock.isNone

variable {utxos : Utxos}

theorem mem_unspentSet : d ∈ unspentSet utxos ↔ unspentAt d.outPoint utxos = some d := by
  show d ∈ utxos.docs ∧ d.deletedAtBlock = none ↔ _
  unfold unspentAt
  rw [Option.filter_eq_some_iff, IndexedCollection.lookup_eq_some_iff]
  simp

theorem outPoint_of_unspentAt (h : unspentAt o utxos = some d) : d.outPoint = o := by
  unfold unspentAt at h
  rw [Option.filter_eq_some_iff] at h
  exact (IndexedCollection.mem_docs_of_lookup h.1).2

theorem unspentSet_eq_iff {utxos' : Utxos} :
    unspentSet utxos = unspentSet utxos' ↔ ∀ o, unspentAt o utxos = unspentAt o utxos' := by
  constructor
  · intro h o
    ext d
    constructor
    · intro hd
      obtain rfl := outPoint_of_unspentAt hd
      exact mem_unspentSet.mp (h ▸ mem_unspentSet.mpr hd)
    · intro hd
      obtain rfl := outPoint_of_unspentAt hd
      exact mem_unspentSet.mp (h ▸ mem_unspentSet.mpr hd)
  · intro h
    ext d
    rw [mem_unspentSet, mem_unspentSet, h]

end UnspentTransactionRepository

end OpnetNode
