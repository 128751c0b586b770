import OpnetNode.Vm.Equiv.Atomicity
import OpnetNode.Vm.Equiv.BlockFold

/-!
# The state of a block is the fold of its successful transactions

* `BlockFolds`: the storage saved by a block is what was stored before it, overwritten in order by
  the changed storage of the transactions whose receipt is not the revert marker; each transaction
  has one receipt; and each one reads the writes of those before it over the state below the block.
* `block_folds`: this is so if every transaction meets `StepOk`.
* `block_not_folds`: a result of the single byte 0 and a tree that cannot be built are both
  recorded as a failure, while the writes stay.
-/

namespace OpnetNode

open Proc VMManager BlockExecution

/-- The receipts of a transaction in the receipt tree of a block. -/
def receiptsOf (receipts : MerkleTree ReceiptKey Bytes) (id : Bytes) : List Bytes :=
  receipts.values.vals.filterMap fun map => map.get (.transaction id)

/-- The changed storage of the transactions whose receipt is not the revert marker, in order. -/
def foldStorage (receipts : MerkleTree ReceiptKey Bytes) (es : List Executed) (a : Bytes)
    (p : U256) : Option U256 :=
  es.foldl
    (fun value e =>
      if receiptsOf receipts e.t.transactionId = [revertMarker] then value
      else (e.changedStorage a p).or value)
    none

/-- The block `b`, with its trees, is the fold of its transactions. -/
structure FoldsTo (env : VmEnvironment) (T : RustMerkleTree) (settings : BlockSettings)
    (db : VMStorage) (n : Nat) (ts : List BlockTransaction) (b : BlockExecution)
    (tree : MerkleTree U256 U256) (receipts : MerkleTree ReceiptKey Bytes) : Prop where
  returns : executeTransactions env T settings n ts (start n db) = (.ok (), b)
  blockState : b.vm.blockState = some tree
  receiptState : b.vm.receiptState = some receipts
  receipt : ∀ t ∈ ts, ∃ value, receiptsOf receipts t.transactionId = [value]
  reads : AtEach (fun before e => e.outcome = (evaluateReading env T settings n
      (fun a p => (foldStorage receipts before a p).or (db.getStorage a p n)) e.t e.before).1)
    (executions env T settings n (start n db) ts)
  saved : ∀ lastChecksum r vm',
    updateEvaluatedStates env T lastChecksum b.vm = (.ok r, vm') →
    ∀ a p, vm'.database.getStorage a p (n + 1) =
      (foldStorage receipts (executions env T settings n (start n db) ts) a p).or
        (db.getStorage a p (n + 1))

/-- The block of the given transactions over a database is the fold of its transactions. -/
def BlockFolds (env : VmEnvironment) (T : RustMerkleTree) (settings : BlockSettings)
    (db : VMStorage) (n : Nat) (ts : List BlockTransaction) : Prop :=
  ∃ b tree receipts, FoldsTo env T settings db n ts b tree receipts

section

variable {env : VmEnvironment} {T : RustMerkleTree} {settings : BlockSettings} {db : VMStorage}
  {n : Nat} {ts : List BlockTransaction}

variable {e : Executed}

/-- What is recorded of a transaction that has a receipt other than the marker is its result, and
its writes are the saved ones. -/
theorem Executed.changedStorage_eq (h : e.recorded ≠ revertMarker) (a : Bytes)
    (p : U256) : e.changedStorage a p = e.saved.slot a p := by
  unfold recorded recordedBytes at h
  unfold saved savedSlots changedStorage
  rcases hsaved : savedResult e.evaluation with _ | ⟨_ | s, result⟩
  · rw [hsaved] at h
    exact absurd rfl h
  · rw [hsaved] at h
    exact absurd rfl h
  · obtain ⟨l, hl, hresult⟩ := Option.bind_eq_some_iff.mp hsaved
    obtain ⟨result', -, hpair⟩ := Option.map_eq_some_iff.mp hresult
    have hstorage : l.getEvaluationResult.changedStorage = some s := congrArg Prod.fst hpair
    have hevaluation : e.evaluation = some l := (Option.filter_eq_some_iff.mp hl).1
    rw [hevaluation, Option.bind_some, hstorage, Option.bind_some]

variable {es : List Executed} {b : BlockExecution} {tree : MerkleTree U256 U256}
  {receipts : MerkleTree ReceiptKey Bytes}

/-- The receipts of a block under the invariant. -/
theorem FoldInv.receiptsOf_eq (h : FoldInv env T settings db n es b tree receipts) (he : e ∈ es) :
    receiptsOf receipts e.t.transactionId = [e.recorded] := by
  obtain ⟨a, hslot, hunique⟩ := h.receipt e he
  exact receipts.values.filterMap_vals_eq_singleton _ hslot hunique

/-- Under the invariant, the writes of the transactions that are not recorded as failed are the saved
ones. -/
theorem FoldInv.foldStorage_eq
    (h : FoldInv env T settings db n es b tree receipts) (before : List Executed)
    (hbefore : ∀ e ∈ before, e ∈ es) (a : Bytes) (p : U256) :
    foldStorage receipts before a p = savedStorage before a p := by
  induction before using List.reverseRecOn with
  | nil => rfl
  | append_singleton before e ih =>
    have he : e ∈ es := hbefore e (by simp)
    have hold : foldStorage receipts before a p = savedStorage before a p :=
      ih fun e' he' => hbefore e' (List.mem_append_left _ he')
    rw [savedStorage_concat, ← hold]
    unfold foldStorage
    rw [List.foldl_append, List.foldl_cons, List.foldl_nil, h.receiptsOf_eq he]
    by_cases hmarker : e.recorded = revertMarker
    · rw [if_pos (by rw [hmarker]), h.fair e he hmarker, Option.none_or]
    · rw [if_neg fun heq => hmarker (List.singleton_injective heq),
        Executed.changedStorage_eq hmarker]

theorem executions_t (ts : List BlockTransaction) (b : BlockExecution) :
    (executions env T settings n b ts).map Executed.t = ts := by
  induction ts generalizing b with
  | nil => rfl
  | cons t ts ih =>
    rw [executions, List.map_cons, ih]
    rfl

theorem savedStorage_dead (h : ∀ e ∈ es, ∀ p, e.saved.slot env.dead p = none)
    (p : U256) : savedStorage es env.dead p = none := by
  induction es using List.reverseRecOn with
  | nil => rfl
  | append_singleton es e ih =>
    rw [savedStorage_concat, h e (by simp), Option.none_or]
    exact ih fun e' he' => h e' (List.mem_append_left _ he')

/-- **The state of a block is the fold of its successful transactions**, if each of them meets the
condition when it is executed. -/
theorem block_folds (env : VmEnvironment) {T : RustMerkleTree} (hT : T.FindsProofs)
    (settings : BlockSettings) (db : VMStorage) (n : Nat) (ts : List BlockTransaction)
    (hlength : ∀ t ∈ ts, t.transactionId.length = 32)
    (hdistinct : (ts.map BlockTransaction.transactionId).Nodup)
    (hmeets : Meets (fun b t => some (BlockExecution.executeTransaction env T settings n t b).2)
      (StepOk env T settings n) (start n db) ts) :
    BlockFolds env T settings db n ts := by
  have hids : ∀ t ∈ ts, t.transactionId ≠ [] := by
    intro t ht hnil
    have hlen := hlength t ht
    rw [hnil] at hlen
    cases hlen
  obtain ⟨b, tree, receipts, hreturns, h⟩ := foldInv_executeTransactions env hT ts
    (foldInv_start env settings n db) hids hdistinct (fun e he => nomatch he) hmeets
  rw [List.nil_append] at h
  refine ⟨b, tree, receipts, hreturns, h.inBlock.blockState, h.inBlock.receiptState, ?_, ?_, ?_⟩
  · intro t ht
    have hts : (executions env T settings n (start n db) ts).map Executed.t = ts :=
      executions_t ts (start n db)
    rw [← hts] at ht
    obtain ⟨e, he, rfl⟩ := List.mem_map.mp ht
    exact ⟨e.recorded, h.receiptsOf_eq he⟩
  · intro before e after heq
    rw [h.reads before e after heq]
    congr 3
    funext a p
    rw [h.foldStorage_eq before fun e' he' => heq ▸ List.mem_append_left _ he']
  · intro lastChecksum r vm' hsave a p
    rw [database_updateEvaluatedStates h.inBlock.blockState hsave, h.inBlock.height,
      VMStorage.getStorage_setStoragePointers, h.inBlock.getStorage_database,
      h.foldStorage_eq _ fun e he => he]
    split_ifs with hdead
    · rw [hdead, savedStorage_dead h.alive]
    · rw [slot_pad stateKind hdead, h.storage]

theorem BlockFolds.saved (h : BlockFolds env T settings db n ts) (lastChecksum : Option Bytes)
    (a : Bytes) (p : U256)
    (hsave : (updateEvaluatedStates env T lastChecksum
      (executeTransactions env T settings n ts (start n db)).2.vm).1.isOk = true) :
    (updateEvaluatedStates env T lastChecksum
        (executeTransactions env T settings n ts (start n db)).2.vm).2.database.getStorage a p
        (n + 1) =
      (foldStorage
        ((executeTransactions env T settings n ts (start n db)).2.vm.receiptState.getD .new)
        (executions env T settings n (start n db) ts) a p).or (db.getStorage a p (n + 1)) := by
  obtain ⟨b, tree, receipts, hfolds⟩ := h
  have hb : (executeTransactions env T settings n ts (start n db)).2 = b := by
    rw [hfolds.returns]
  rw [hb] at hsave ⊢
  rcases hrun : updateEvaluatedStates env T lastChecksum b.vm with ⟨e | r, vm'⟩
  · rw [hrun] at hsave
    cases hsave
  · rw [hfolds.receiptState]
    exact hfolds.saved lastChecksum r vm' hrun a p

end

/-! ### Runs -/

/-- A transaction that writes a slot of the contract `[7]` and returns `result`. -/
def writeTransactionAt (id : UInt8) (pointer value : U256) (result : Bytes) : BlockTransaction where
  tx := .interaction {
    transactionId := List.replicate 32 id
    contractAddress := [0, 7]
    address := [7]
    gasSatFee := 1
    maxGas := 1000
    specialSettings := none
    preloadStorageList := []
    execution := fun _ => .store pointer value (.exit ⟨1, 0, result⟩) }
  isCoinbase := false
  mldsaError := none
  fromDead := false

/-- A transaction that writes the slot 1 of the contract `[7]` and returns `result`. -/
def writeTransaction (id : UInt8) (value : U256) (result : Bytes) : BlockTransaction :=
  writeTransactionAt id 1 value result

/-- A database with the contract `[7]` of block 3. -/
def storedContract : VMStorage := ⟨[contractOf [3] 3], [], [3, 4]⟩

/-- The multiset tree, if it could not be built over one leaf. -/
def pairTree : RustMerkleTree :=
  { RustMerkleTree.multisetTree with
    root := fun leaves => if leaves.length < 2 then none else some (leaves : Multiset Bytes) }

/-- Two transactions write the same slot, and one between them another. -/
def overwrites : List BlockTransaction :=
  [writeTransaction 1 8 [1], writeTransactionAt 2 2 9 [2], writeTransaction 3 7 [3]]

/-- The block of `overwrites`, with the storage check enabled. -/
theorem block_folds_overwrites : BlockFolds plainEnvironment RustMerkleTree.multisetTree ⟨false, true⟩
    storedContract 5 overwrites := by
  have hok : ∀ b t, ((executed plainEnvironment RustMerkleTree.multisetTree ⟨false, true⟩ 5 b
        t).recorded ≠ revertMarker ∧
      (executed plainEnvironment RustMerkleTree.multisetTree ⟨false, true⟩ 5 b t).saved.get [] = none ∧
      ∀ tree ∈ b.vm.blockState, SparesLoneSlot tree (lookupsSince b.vm
        (evaluate plainEnvironment RustMerkleTree.multisetTree ⟨false, true⟩ 5 t b).2.vm)) →
      StepOk plainEnvironment RustMerkleTree.multisetTree ⟨false, true⟩ 5 b t := by
    rintro b t ⟨hrecorded, hdead, hspares⟩
    refine ⟨fun hmarker => absurd hmarker hrecorded, fun _ tree _ => .inr rfl, fun _ => hspares,
      fun p => ?_⟩
    show TreeValues.slot _ [] p = none
    unfold TreeValues.slot
    rw [hdead]
    rfl
  apply block_folds plainEnvironment RustMerkleTree.findsProofs_multisetTree
  · decide +kernel
  · decide +kernel
  · refine ⟨hok _ _ (by decide +kernel), fun b hb => ?_⟩
    obtain rfl := Option.some.inj hb
    refine ⟨hok _ _ (by decide +kernel), fun b hb => ?_⟩
    obtain rfl := Option.some.inj hb
    exact ⟨hok _ _ (by decide +kernel), fun _ _ => trivial⟩

/-- A transaction that returns the byte 0, and one whose tree cannot be built, are recorded as
reverted, and what they wrote is saved. -/
theorem block_not_folds :
    ¬ BlockFolds plainEnvironment RustMerkleTree.multisetTree ⟨true, true⟩ storedContract 5
        [writeTransaction 1 9 [0]] ∧
    ¬ BlockFolds plainEnvironment pairTree ⟨false, true⟩ storedContract 5
        [writeTransaction 1 9 [1]] := by
  constructor
  · intro h
    have hsaved := h.saved none [7] 1 (by decide +kernel)
    revert hsaved
    decide +kernel
  · intro h
    have hsaved := h.saved none [7] 1 (by decide +kernel)
    revert hsaved
    decide +kernel

end OpnetNode
