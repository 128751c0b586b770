import OpnetNode.Storage.RevertData

/-!
# What a purge leaves

* `runPass`: one pass over a range of heights, in closed form; `runPass_between` puts a batch under
  the passes above it.
* `foldl_batches`: the downward loop ends at `blockId`, whatever the batch size.
* `revertDataUntilBlock_eq`: the purge in closed form, whatever the stored heights.
* `runPass_repositories`: a pass runs the revert functions of the UTXO and ML-DSA repositories.
* `revertedExactly_iff`: the purge leaves exactly the documents below `blockId`, if and only if every
  UTXO document has a height that the purge looks at, or was spent below `blockId`.
* `revertedExactly_spendMarker`: a spend of an output that was not indexed leaves a document without
  a height, which survives the revert of the spend as an unspent output without value or script.
-/

namespace OpnetNode

namespace VMMongoStorage

open MLDSAPublicKeyRepository UnspentTransactionRepository

/-! ### One pass -/

/-- A pass over a range of heights, with the UTXOs. -/
def runPass (range : HeightRange) (db : Database) : Database where
  transactions := db.transactions.deleteMany (range.selects fun d => some d.blockHeight)
  contracts := db.contracts.deleteMany (range.selects fun d => some d.blockHeight)
  pointers := db.pointers.deleteMany (range.selects fun d => some d.lastSeenAt)
  blockHeaders := db.blockHeaders.deleteMany (range.selects fun d => some d.height)
  blockWitnesses := db.blockWitnesses.deleteMany (range.selects fun d => some d.blockNumber)
  reorgs := db.reorgs.deleteMany (range.selects fun d => some d.fromBlock)
  epochs := db.epochs.deleteMany (range.selects fun d => some d.startBlock)
  epochSubmissions := db.epochSubmissions.deleteMany (range.selects fun d => some d.confirmedAt)
  mldsaPublicKeys := deleteKeys range (nullPublicKeys range db.mldsaPublicKeys)
  unspentTransactions := undoSpent range (deleteCreated range db.unspentTransactions)
  targetEpochs := db.targetEpochs
  mempool := db.mempool
  inProgressBlock := db.inProgressBlock

theorem runStages_append (stages stages' : List Stage) (db : Database) :
    runStages (stages ++ stages') db = runStages stages' (runStages stages db) := by
  unfold runStages
  rw [List.flatten_append, List.flatten_append, List.foldl_append]

theorem runStages_rangeStages (config : RevertConfig) (range : HeightRange) (db : Database) :
    runStages (rangeStages config true range) db = runPass range db := by
  have hflat : (rangeStages config true range).flatten.flatten = (rangeJobs true range).flatten := by
    unfold rangeStages
    split
    · rw [← List.flatMap_def, List.flatMap_singleton']
    · rw [List.flatten_singleton]
  unfold runStages
  rw [hflat]
  rfl

variable {α : Type*} {lo hi : ℤ}

/-- Deleting `[lo, hi)` after everything from `hi` on deletes everything from `lo` on. -/
theorem deleteMany_between (height : α → Option ℕ) (h : lo ≤ hi) (c : Collection α) :
    Collection.deleteMany ((HeightRange.between lo hi).selects height)
        (Collection.deleteMany ((HeightRange.atLeast hi).selects height) c)
      = Collection.deleteMany ((HeightRange.atLeast lo).selects height) c := by
  rw [Collection.deleteMany_deleteMany]
  congr 1
  funext d
  exact HeightRange.selects_atLeast_or_between height h d

theorem deleteKeys_between (h : lo ≤ hi) (keys : Keys) :
    deleteKeys (.between lo hi) (nullPublicKeys (.between lo hi)
        (deleteKeys (.atLeast hi) (nullPublicKeys (.atLeast hi) keys)))
      = deleteKeys (.atLeast lo) (nullPublicKeys (.atLeast lo) keys) := by
  have hupdate : (fun d => (HeightRange.atLeast hi).selects
      MLDSAPublicKeyDocument.exposedBlockHeight d || (HeightRange.between lo hi).selects
      MLDSAPublicKeyDocument.exposedBlockHeight d)
      = (HeightRange.atLeast lo).selects MLDSAPublicKeyDocument.exposedBlockHeight := by
    funext d
    exact HeightRange.selects_atLeast_or_between _ h d
  unfold deleteKeys nullPublicKeys
  rw [Collection.updateMany_deleteMany_comm (f := hideKey) (fun d => rfl), deleteMany_between _ h,
    Collection.updateMany_updateMany (f := hideKey) (fun d => rfl), hupdate]

theorem undoSpent_between (h : lo ≤ hi) (utxos : Utxos) :
    undoSpent (.between lo hi) (deleteCreated (.between lo hi)
        (undoSpent (.atLeast hi) (deleteCreated (.atLeast hi) utxos)))
      = undoSpent (.atLeast lo) (deleteCreated (.atLeast lo) utxos) := by
  have hupdate : (fun d => (HeightRange.atLeast hi).selects UnspentTransaction.deletedAtBlock d
      || (HeightRange.between lo hi).selects UnspentTransaction.deletedAtBlock d)
      = (HeightRange.atLeast lo).selects UnspentTransaction.deletedAtBlock := by
    funext d
    exact HeightRange.selects_atLeast_or_between _ h d
  apply IndexedCollection.ext
  show Collection.updateMany _ unspend (Collection.deleteMany _ (Collection.updateMany _ unspend
    (Collection.deleteMany _ utxos.docs))) = Collection.updateMany _ unspend
      (Collection.deleteMany _ utxos.docs)
  rw [← Collection.updateMany_deleteMany_comm (f := unspend) (fun d => rfl),
    Collection.updateMany_updateMany (f := unspend) (fun d => rfl), hupdate,
    deleteMany_between _ h]

theorem runPass_between (h : lo ≤ hi) (db : Database) :
    runPass (.between lo hi) (runPass (.atLeast hi) db) = runPass (.atLeast lo) db := by
  simp only [runPass, deleteMany_between _ h, deleteKeys_between h, undoSpent_between h]

/-! ### The loop -/

variable {blockId : ℤ}

/-- The batches walk down to `blockId`: after everything from `hi` on is gone, they leave nothing
from `blockId` on. -/
theorem foldl_batches {size : ℕ} (hsize : 0 < size) (fuel : ℕ)
    (hle : blockId ≤ hi) (hfuel : (hi - blockId).toNat ≤ fuel) (db : Database) :
    (batches size blockId fuel hi).foldl (fun db range => runPass range db)
        (runPass (.atLeast hi) db)
      = runPass (.atLeast blockId) db := by
  induction fuel generalizing hi with
  | zero =>
    obtain rfl : hi = blockId := by omega
    rfl
  | succ fuel ih =>
    rw [batches]
    by_cases hlt : blockId < hi
    · rw [if_pos hlt, List.foldl_cons, runPass_between (by omega)]
      rcases le_total blockId (hi - size) with hstep | hlast
      · rw [max_eq_right hstep]
        exact ih hstep (by omega)
      · -- the last batch ends at `blockId`, and the loop's test fails
        rw [max_eq_left hlast]
        cases fuel with
        | zero => rfl
        | succ fuel =>
          rw [batches, if_neg (by omega)]
          rfl
    · obtain rfl : hi = blockId := by omega
      rw [if_neg hlt]
      rfl

theorem runStages_batches (config : RevertConfig) (ranges : List HeightRange) (db : Database) :
    runStages (ranges.flatMap (rangeStages config true)) db
      = ranges.foldl (fun db range => runPass range db) db := by
  induction ranges generalizing db with
  | nil => rfl
  | cons range ranges ih =>
    rw [List.flatMap_cons, runStages_append, runStages_rangeStages, ih, List.foldl_cons]

theorem batchSize_pos (config : RevertConfig) : 0 < batchSize config := by
  unfold batchSize
  split <;> omega

/-- The purge of the mempool, and for a negative height of all UTXOs. -/
def runLow (blockId : ℤ) (db : Database) : Database :=
  if blockId ≤ 0 then
    { db with
      mempool := []
      unspentTransactions :=
        if blockId < 0 then db.unspentTransactions.deleteMany fun _ => true
        else deleteCreated (.atLeast blockId) db.unspentTransactions }
  else db

theorem runStages_lowStages (blockId : ℤ) (db : Database) :
    runStages (lowStages true blockId) db = runLow blockId db := by
  unfold lowStages runLow
  split
  · by_cases hneg : blockId < 0
    · simp only [if_pos hneg]
      rfl
    · simp only [if_neg hneg]
      rfl
  · rfl

/-- The purge in closed form: no stored height and no batch size matters. -/
theorem revertDataUntilBlock_eq (config : RevertConfig) (blockId : ℤ) (db : Database) :
    revertDataUntilBlock config blockId (some true) db
      = runLow blockId { runPass (.atLeast blockId) db with targetEpochs := [] } := by
  have hupper : blockId ≤ upperBound blockId db := le_max_right _ _
  unfold revertDataUntilBlock revertStages
  dsimp only [Option.getD_some]
  rw [runStages_append, runStages_append, ← List.singleton_append, runStages_append,
    runStages_rangeStages, runStages_batches, runStages_lowStages,
    foldl_batches (batchSize_pos config) _ hupper (le_refl _)]
  rfl

/-- On the UTXOs and the ML-DSA keys the first pass, a batch and the last stages run the functions of
their repositories. -/
theorem runPass_repositories (lo hi blockId : ℤ) (db : Database) :
    (runPass (.atLeast hi) db).unspentTransactions
        = deleteTransactionsFromBlockHeight hi db.unspentTransactions
      ∧ (runPass (.between lo hi) db).unspentTransactions
        = deleteTransactionsInRange lo hi db.unspentTransactions
      ∧ (runPass (.atLeast hi) db).mldsaPublicKeys = deleteFromBlockHeight hi db.mldsaPublicKeys
      ∧ (runPass (.between lo hi) db).mldsaPublicKeys = deleteInRange lo hi db.mldsaPublicKeys
      ∧ (blockId ≤ 0 → (runLow blockId db).unspentTransactions
        = deleteGreaterThanBlockHeight blockId db.unspentTransactions) := by
  refine ⟨rfl, rfl, rfl, rfl, ?_⟩
  intro hle
  unfold runLow
  rw [if_pos hle]
  rfl

/-! ### What is left -/

/-- A document is below `blockId`. -/
def below (blockId : ℤ) (height : ℕ) : Bool := decide ((height : ℤ) < blockId)

/-- The height a UTXO document goes by: that of its output, or, when all it records is a spend, that
of the spend. -/
def utxoHeight (d : UnspentTransaction) : Option ℕ := d.blockHeight.or d.deletedAtBlock

/-- The documents of a collection below `blockId`, unchanged, and nothing else, except that a spend
and an exposure from `blockId` on are undone. -/
structure RevertedExactly (blockId : ℤ) (db db' : Database) : Prop where
  transactions : db'.transactions = db.transactions.filter fun d => below blockId d.blockHeight
  contracts : db'.contracts = db.contracts.filter fun d => below blockId d.blockHeight
  pointers : db'.pointers = db.pointers.filter fun d => below blockId d.lastSeenAt
  blockHeaders : db'.blockHeaders = db.blockHeaders.filter fun d => below blockId d.height
  blockWitnesses : db'.blockWitnesses
    = db.blockWitnesses.filter fun d => below blockId d.blockNumber
  reorgs : db'.reorgs = db.reorgs.filter fun d => below blockId d.fromBlock
  epochs : db'.epochs = db.epochs.filter fun d => below blockId d.startBlock
  epochSubmissions : db'.epochSubmissions
    = db.epochSubmissions.filter fun d => below blockId d.confirmedAt
  mldsaPublicKeys : db'.mldsaPublicKeys
    = (db.mldsaPublicKeys.filter fun d => below blockId d.insertedBlockHeight).map fun d =>
      if d.exposedBlockHeight.all (below blockId) then d else hideKey d
  unspentTransactions : db'.unspentTransactions.docs
    = (db.unspentTransactions.docs.filter fun d => (utxoHeight d).any (below blockId)).map fun d =>
      if d.deletedAtBlock.all (below blockId) then d else unspend d

/-- Every UTXO document has the height of its output, or records a spend below `blockId`; for a
negative `blockId` all of them go. -/
def UtxosKeyed (blockId : ℤ) (db : Database) : Prop :=
  blockId < 0 ∨ ∀ d ∈ db.unspentTransactions.docs,
    d.blockHeight.isSome ∨ d.deletedAtBlock.any (below blockId)

theorem contains_atLeast (blockId : ℤ) (height : ℕ) :
    (HeightRange.atLeast blockId).contains height = !below blockId height := by
  unfold HeightRange.contains below
  rw [← decide_not, decide_eq_decide, not_lt]

theorem deleteMany_atLeast (height : α → ℕ) (blockId : ℤ) (c : Collection α) :
    c.deleteMany ((HeightRange.atLeast blockId).selects fun d => some (height d))
      = c.filter fun d => below blockId (height d) := by
  unfold Collection.deleteMany
  apply List.filter_congr
  intro d _
  rw [HeightRange.selects, Option.any_some, contains_atLeast, Bool.not_not]

theorem selects_atLeast_eq (height : α → Option ℕ) (blockId : ℤ) (d : α) :
    (HeightRange.atLeast blockId).selects height d = !(height d).all (below blockId) := by
  unfold HeightRange.selects
  cases height d with
  | none => rfl
  | some h => rw [Option.any_some, Option.all_some, contains_atLeast]

theorem deleteKeys_atLeast (blockId : ℤ) (keys : Keys) :
    deleteKeys (.atLeast blockId) (nullPublicKeys (.atLeast blockId) keys)
      = (keys.filter fun d => below blockId d.insertedBlockHeight).map fun d =>
        if d.exposedBlockHeight.all (below blockId) then d else hideKey d := by
  unfold deleteKeys nullPublicKeys
  rw [← Collection.updateMany_deleteMany_comm (f := hideKey) (fun d => rfl), deleteMany_atLeast]
  unfold Collection.updateMany
  apply List.map_congr_left
  intro d _
  rw [selects_atLeast_eq]
  cases d.exposedBlockHeight.all (below blockId) <;> rfl

/-- What the two UTXO commands keep: a document without `blockHeight` is never deleted. -/
theorem docs_undoSpent_atLeast (blockId : ℤ) (utxos : Utxos) :
    (undoSpent (.atLeast blockId) (deleteCreated (.atLeast blockId) utxos)).docs
      = (utxos.docs.filter fun d => d.blockHeight.all (below blockId)).map fun d =>
        if d.deletedAtBlock.all (below blockId) then d else unspend d := by
  have hdelete : (deleteCreated (.atLeast blockId) utxos).docs
      = utxos.docs.filter fun d => d.blockHeight.all (below blockId) := by
    show utxos.docs.filter _ = _
    apply List.filter_congr
    intro d _
    rw [selects_atLeast_eq, Bool.not_not]
  show Collection.updateMany _ unspend (deleteCreated (.atLeast blockId) utxos).docs = _
  rw [hdelete]
  unfold Collection.updateMany
  apply List.map_congr_left
  intro d _
  rw [selects_atLeast_eq]
  cases d.deletedAtBlock.all (below blockId) <;> rfl

theorem docs_unspentTransactions_of_nonneg (config : RevertConfig)
    (hneg : ¬ blockId < 0) (db : Database) :
    (revertDataUntilBlock config blockId (some true) db).unspentTransactions.docs
      = (db.unspentTransactions.docs.filter fun d => d.blockHeight.all (below blockId)).map fun d =>
        if d.deletedAtBlock.all (below blockId) then d else unspend d := by
  rw [revertDataUntilBlock_eq, ← docs_undoSpent_atLeast]
  unfold runLow
  split
  · -- from block 0 the outputs are deleted once more
    show List.filter _ _ = _
    apply List.filter_eq_self.mpr
    intro d hd
    obtain ⟨e, he, rfl⟩ := List.mem_map.mp hd
    have hkept := (Collection.mem_deleteMany.mp he).2
    split <;> simpa [unspend, HeightRange.selects] using hkept
  · rfl

theorem docs_unspentTransactions_of_neg (config : RevertConfig) (hneg : blockId < 0)
    (db : Database) :
    (revertDataUntilBlock config blockId (some true) db).unspentTransactions.docs = [] := by
  rw [revertDataUntilBlock_eq]
  unfold runLow
  rw [if_pos (le_of_lt hneg)]
  dsimp only
  rw [if_pos hneg]
  exact List.filter_eq_nil_iff.mpr (by simp)

theorem map_filter_eq_iff {p q : α → Bool} {f : α → α} {l : List α}
    (h : ∀ d, q d → p d) : (l.filter p).map f = (l.filter q).map f ↔ ∀ d ∈ l, p d → q d := by
  constructor
  · intro heq d hd hp
    have hlen : (l.filter p).length = (l.filter q).length := by
      simpa using congrArg List.length heq
    have hsub : (l.filter q).Sublist (l.filter p) := by
      have hfilter : l.filter q = (l.filter p).filter q := by
        rw [List.filter_filter]
        apply List.filter_congr
        intro x _
        by_cases hq : q x
        · simp [hq, h x hq]
        · simp [hq]
      rw [hfilter]
      exact List.filter_sublist
    have hfilter : l.filter q = l.filter p := hsub.eq_of_length hlen.symm
    have hmem : d ∈ l.filter q := by
      rw [hfilter]
      exact List.mem_filter.mpr ⟨hd, hp⟩
    exact (List.mem_filter.mp hmem).2
  · intro hall
    congr 1
    apply List.filter_congr
    intro d hd
    by_cases hp : p d
    · rw [hp, hall d hd hp]
    · have hq : ¬ q d := fun hq => hp (h d hq)
      simp [hp, hq]

/-- The UTXO collection is the only one where the purge can miss a document. -/
theorem docs_unspentTransactions_eq_iff (config : RevertConfig) (blockId : ℤ) (db : Database) :
    (revertDataUntilBlock config blockId (some true) db).unspentTransactions.docs
        = (db.unspentTransactions.docs.filter fun d => (utxoHeight d).any (below blockId)).map
          (fun d => if d.deletedAtBlock.all (below blockId) then d else unspend d)
      ↔ UtxosKeyed blockId db := by
  unfold UtxosKeyed
  by_cases hneg : blockId < 0
  · -- nothing is below a negative height, and nothing is left
    have hnone : ∀ h : ℕ, below blockId h = false := fun h => by
      unfold below
      rw [decide_eq_false_iff_not]
      omega
    have hempty : (db.unspentTransactions.docs.filter fun d =>
        (utxoHeight d).any (below blockId)) = [] := by
      apply List.filter_eq_nil_iff.mpr
      intro d _
      cases utxoHeight d <;> simp [hnone]
    rw [docs_unspentTransactions_of_neg config hneg, hempty]
    simp [hneg]
  · rw [docs_unspentTransactions_of_nonneg config hneg, map_filter_eq_iff]
    · simp only [hneg, false_or]
      refine forall₂_congr fun d _ => ?_
      unfold utxoHeight
      cases d.blockHeight <;> simp
    · intro d
      unfold utxoHeight
      cases d.blockHeight <;> simp

/-- **Revert completeness and precision.** Whatever the stored heights and the batch size, a purge
with the UTXOs leaves exactly the documents below `blockId`, with the spends and exposures from
`blockId` on undone, if and only if every UTXO document has the height of its output or records a
spend below `blockId`. -/
theorem revertedExactly_iff (config : RevertConfig) (blockId : ℤ) (db : Database) :
    RevertedExactly blockId db (revertDataUntilBlock config blockId (some true) db)
      ↔ UtxosKeyed blockId db := by
  rw [← docs_unspentTransactions_eq_iff config]
  constructor
  · intro h
    exact h.unspentTransactions
  · intro h
    have heq := revertDataUntilBlock_eq config blockId db
    refine
      { transactions := ?_, contracts := ?_, pointers := ?_, blockHeaders := ?_
        blockWitnesses := ?_, reorgs := ?_, epochs := ?_, epochSubmissions := ?_
        mldsaPublicKeys := ?_, unspentTransactions := h }
    -- in every other collection all batches come down to one deletion from `blockId` on
    all_goals
      rw [heq]
      unfold runLow
      split <;> first | exact deleteMany_atLeast _ blockId _ | exact deleteKeys_atLeast blockId _

/-! ### A spend without an output -/

/-- Block 7 spends an output that was never indexed and creates one that is. -/
def spendOfUnindexed : UtxoBlock where
  blockHeight := 7
  transactions :=
    [{ id := [1]
       inputs := [⟨some [0], some 0⟩]
       outputs := [⟨0, 1000, ⟨[], some "bc1q", none⟩⟩] }]

/-- A node that has indexed block 7 and nothing else. -/
def afterBlockSeven : Database where
  transactions := []
  contracts := []
  pointers := []
  blockHeaders := [⟨7, [7]⟩]
  blockWitnesses := []
  reorgs := []
  epochs := []
  epochSubmissions := []
  mldsaPublicKeys := []
  unspentTransactions := insertTransactions ⟨false, 0⟩ [spendOfUnindexed] IndexedCollection.empty
  targetEpochs := []
  mempool := []
  inProgressBlock := 8

/-- The mark of the spend has no height: the purge from block 5 undoes the spend and keeps the
document. -/
theorem revertedExactly_spendMarker :
    ¬ RevertedExactly 5 afterBlockSeven
        (revertDataUntilBlock ⟨false, 1000, true⟩ 5 (some true) afterBlockSeven) ∧
      (revertDataUntilBlock ⟨false, 1000, true⟩ 5 (some true)
        afterBlockSeven).unspentTransactions.docs = [UnspentTransaction.bare ([0], 0)] := by
  have hleft : (revertDataUntilBlock ⟨false, 1000, true⟩ 5 (some true)
      afterBlockSeven).unspentTransactions.docs = [UnspentTransaction.bare ([0], 0)] := by
    rw [docs_unspentTransactions_of_nonneg _ (by decide)]
    decide
  refine ⟨fun h => ?_, hleft⟩
  have hexact := h.unspentTransactions
  rw [hleft] at hexact
  revert hexact
  decide

end VMMongoStorage

end OpnetNode
