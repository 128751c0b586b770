import OpnetNode.History
import OpnetNode.Vm.Equiv.BlockReads
import OpnetNode.Vm.Equiv.RecordResult
import OpnetNode.Vm.Equiv.StoragePointers

/-!
# The storage of a block is the fold of its transactions

The invariant of a block while its transactions are executed (`FoldInv`): the storage tree has the
writes of the transactions so far whose result was saved, in order, and the receipt tree has one
entry for each of them.  `executeTransaction_step` proves it for one transaction and
`foldInv_executeTransactions` for a whole block.

The receipt of a saved result is the result itself, and the receipt of a failed transaction is the
byte 0; and a transaction whose update throws at the very end keeps its writes but is recorded as
failed.  So the invariant is that of the runs in which neither happens (`StepOk`).
-/

namespace OpnetNode

open Proc VMManager BlockExecution

/-! ### The trees -/

/-- The tree that `generateTree` would build can be built, if there is anything to build. -/
def Buildable (T : RustMerkleTree) (tree : MerkleTree U256 U256) : Prop :=
  tree.values.size = 0 ∨ (T.root (stateKind.leaves tree.values)).isSome

/-- The Rust tree is that of the values, or there is none and none is asked for. -/
structure Synced (T : RustMerkleTree) (disableStorageCheck : Bool)
    (tree : MerkleTree U256 U256) : Prop where
  unfrozen : tree.frozen = false
  disabled : disableStorageCheck = true → tree.tree = none
  enabled : disableStorageCheck = false → tree.values.size = 0 ∨
    (tree.tree = some (stateKind.leaves tree.values) ∧
      (T.root (stateKind.leaves tree.values)).isSome)

/-- The lookup is not of the only slot of the tree. -/
def Lookup.SparesLoneSlot (tree : MerkleTree U256 U256) : Lookup → Prop
  | .slot a p => (tree.values.slot a p).isSome → 2 ≤ tree.values.countValues
  | _ => True

instance decidableSparesLoneSlot (tree : MerkleTree U256 U256) :
    ∀ l : Lookup, Decidable (l.SparesLoneSlot tree)
  | .slot _ _ => inferInstanceAs (Decidable (_ → _))
  | .contract _ | .reference _ | .cached _ | .exists_ _ | .insertion _ _ => isTrue trivial

/-- A slot of the tree is looked up only if there are others: the proof of a single slot is empty, and
counts as none. -/
def SparesLoneSlot (tree : MerkleTree U256 U256) (lookups : List Lookup) : Prop :=
  ∀ l ∈ lookups, l.SparesLoneSlot tree

instance (tree : MerkleTree U256 U256) (lookups : List Lookup) :
    Decidable (SparesLoneSlot tree lookups) := List.decidableBAll _ _

section

variable {T : RustMerkleTree} {tree : MerkleTree U256 U256} {disable : Bool}

theorem slot_of_size_eq_zero {values : Slots} (h : values.size = 0) (a : Bytes) (p : U256) :
    values.slot a p = none := by
  have hentries : values.entries = [] := List.length_eq_zero_iff.mp h
  simp [TreeValues.slot, JsMap.get, JsMap.getEntries, hentries]

theorem Synced.treeAnswers (hT : T.FindsProofs) (h : Synced T disable tree) {lookups : List Lookup}
    (hlone : disable = false → SparesLoneSlot tree lookups) : TreeAnswers T tree lookups := by
  intro a p hlookup
  unfold getValueWithProofs
  cases hslot : tree.values.slot a p with
  | none => rfl
  | some v =>
    cases htree : tree.tree with
    | none => rfl
    | some leaves =>
      have hdisable : disable = false := by
        cases disable with
        | false => rfl
        | true => exact absurd (htree.symm.trans (h.disabled rfl)) (by simp)
      rcases h.enabled hdisable with hsize | ⟨hleaves, hroot⟩
      · rw [slot_of_size_eq_zero hsize] at hslot
        cases hslot
      · cases htree.symm.trans hleaves
        have hcount : 2 ≤ (stateKind.leaves tree.values).length := by
          rw [length_leaves_stateKind]
          exact hlone hdisable (.slot a p) hlookup (by rw [hslot]; rfl)
        obtain ⟨i, π, hindex, hproof, hne⟩ := hT _ _ hcount hroot (stateKind.mem_leaves hslot)
        show (if (((T.getIndexData _ (MerkleKind.toBytes [u256ToBytes p, u256ToBytes v])).bind
          fun index => T.getProof _ index).getD []).isEmpty then _ else _) = _
        rw [show T.getIndexData _ (MerkleKind.toBytes [u256ToBytes p, u256ToBytes v]) = some i
          from hindex, Option.bind_some, hproof, Option.getD_some, if_neg (by simpa using hne)]

theorem synced_new : Synced T disable (MerkleTree.new : MerkleTree U256 U256) :=
  ⟨rfl, fun _ => rfl, fun _ => .inl rfl⟩

theorem slot_updateStorage (s : Slots) (tree : MerkleTree U256 U256) (a : Bytes) (p : U256) :
    (updateStorage s tree).values.slot a p = (s.slot a p).or (tree.values.slot a p) :=
  TreeValues.slot_foldl (fun (t : MerkleTree U256 U256) a p => t.values.slot a p)
    (fun t e a p => MerkleKind.slot_updateValues lawful_stateKind e.1 e.2 t a p) s tree a p

theorem updateStorage_tree (s : Slots) (tree : MerkleTree U256 U256) :
    (updateStorage s tree).tree = tree.tree ∧ (updateStorage s tree).frozen = tree.frozen := by
  unfold updateStorage
  generalize s.entries = entries
  induction entries generalizing tree with
  | nil => exact ⟨rfl, rfl⟩
  | cons entry entries ih => exact ih (stateKind.updateValues entry.1 entry.2 tree)

/-- `generateTree` of a tree that can be built. -/
theorem generateTree_buildable (hfrozen : tree.frozen = false) (h : Buildable T tree) :
    ∃ tree', stateKind.generateTree T tree = .ok tree' ∧ tree'.values = tree.values ∧
      Synced T false tree' := by
  unfold MerkleKind.generateTree
  rw [if_neg (by simp [hfrozen])]
  by_cases hsize : tree.values.size = 0
  · rw [if_pos hsize]
    exact ⟨tree, rfl, rfl, hfrozen, fun hd => (nomatch hd), fun _ => .inl hsize⟩
  · have hroot := h.resolve_left hsize
    rw [if_neg hsize, if_neg (by simpa using Option.isSome_iff_ne_none.mp hroot)]
    exact ⟨_, rfl, rfl, hfrozen, fun hd => (nomatch hd), fun _ => .inr ⟨rfl, hroot⟩⟩

end

/-! ### `updateBlockValuesFromResult` in a block -/

section

variable {T : RustMerkleTree} {db : VMStorage} {n : Nat} {tree : MerkleTree U256 U256}
  {receipts : MerkleTree ReceiptKey Bytes} {vm : VMManager}

variable {tree' : MerkleTree U256 U256}

theorem InBlock.setTrees (h : InBlock db n tree receipts vm)
    (receipts' : MerkleTree ReceiptKey Bytes)
    (hslots : ∀ a p, tree'.values.slot a p = none → tree.values.slot a p = none) :
    InBlock db n tree' receipts'
      { vm with blockState := some tree', receiptState := some receipts' } :=
  ⟨h.isExecutor, h.height, h.database, rfl, rfl,
    fun a p v hget hslot => h.cached a p v hget (hslots a p hslot)⟩

/-- The update writes a receipt at an address, leaves the writes `s` in the storage tree and does
not throw. -/
def Updates (T : RustMerkleTree) (disable : Bool) (m : VmM Unit) (a : Bytes) (key : ReceiptKey)
    (value : Bytes) (s : Slots) (tree : MerkleTree U256 U256)
    (receipts : MerkleTree ReceiptKey Bytes) (vm : VMManager) : Prop :=
  ∃ tree' receipts', m vm = (.ok (), { vm with
      blockState := some tree', receiptState := some receipts' }) ∧
    Synced T disable tree' ∧
    (∀ a p, tree'.values.slot a p = (s.slot a p).or (tree.values.slot a p)) ∧
    receipts'.frozen = false ∧
    ∀ a' k, receipts'.values.slot a' k =
      if a' = a ∧ k = key then some value else receipts.values.slot a' k

variable {disable check : Bool}

theorem finishUpdate (vm : VMManager) (receipts' : MerkleTree ReceiptKey Bytes)
    (hcheck : check = true ∨ check = disable)
    (hfrozen : tree'.frozen = false) (hdisabled : disable = true → tree'.tree = none)
    (hsynced : check = true → disable = false → Synced T false tree')
    (hbuild : check = false → Buildable T tree') :
    ∃ tree'', (if check then pure () else onBlockState (stateKind.generateTree T) : VmM Unit)
        { vm with blockState := some tree', receiptState := some receipts' } =
        (.ok (), { vm with blockState := some tree'', receiptState := some receipts' }) ∧
      tree''.values = tree'.values ∧ Synced T disable tree'' := by
  cases check with
  | true =>
    refine ⟨tree', rfl, rfl, ?_⟩
    cases disable with
    | true =>
      refine ⟨hfrozen, hdisabled, fun hd => ?_⟩
      cases hd
    | false => exact hsynced rfl rfl
  | false =>
    obtain rfl : false = disable := hcheck.resolve_left (by simp)
    obtain ⟨tree'', hgenerate, hvalues, hsynced''⟩ := generateTree_buildable hfrozen (hbuild rfl)
    have hstate : ({ vm with blockState := some tree', receiptState := some receipts' } :
        VMManager).blockState = some tree' := rfl
    have hrun := onBlockState_of_ok hstate hgenerate
    exact ⟨tree'', hrun, hvalues, hsynced''⟩

variable {evaluation : Option Locals} {id : Bytes}

theorem updates_of (h : InBlock db n tree receipts vm)
    (hsynced : Synced T disable tree) (hreceipts : receipts.frozen = false)
    (hcheck : check = disable ∨ (check = true ∧ savedSlots evaluation = .empty))
    (hstorage : ∀ result, savedResult evaluation ≠ some (none, result))
    (hbuild : check = false → Buildable T (updateStorage (savedSlots evaluation) tree))
    (a : Bytes) (hid : id ≠ []) :
    Updates T disable (updateBlockValuesFromResult T evaluation a id check) a (.transaction id)
      (recordedBytes evaluation) (savedSlots evaluation) tree receipts vm := by
  obtain ⟨receipts', hupdate, hfrozen, hslots, -⟩ :=
    updateValue_receipt hreceipts a (.transaction id) (recordedBytes evaluation)
  have hrecord := recordResult_eq h.blockState h.receiptState hstorage hupdate
  obtain ⟨htree', hfrozen'⟩ := updateStorage_tree (savedSlots evaluation) tree
  have hsynced' : check = true → disable = false →
      Synced T false (updateStorage (savedSlots evaluation) tree) := by
    rintro rfl rfl
    have hempty := (hcheck.resolve_left (by simp)).2
    rw [hempty]
    exact hsynced
  obtain ⟨tree', hfinish, hvalues, hsynced''⟩ := finishUpdate vm receipts'
    (hcheck.symm.imp_left And.left) (hfrozen'.trans hsynced.unfrozen)
    (fun hd => htree'.trans (hsynced.disabled hd)) hsynced' hbuild
  refine ⟨tree', receipts', ?_, hsynced'', fun a p => ?_, hfrozen, hslots⟩
  · rw [updateBlockValuesFromResult_eq h.isExecutor h.blockState h.receiptState _ _ hid, hrecord,
      bindResult_ok, hfinish]
  · rw [hvalues, slot_updateStorage]

theorem update_throws (h : InBlock db n tree receipts vm) {result : Bytes}
    (hsaved : savedResult evaluation = some (none, result)) (a : Bytes)
    (hid : id ≠ []) :
    updateBlockValuesFromResult T evaluation a id disable vm =
      (.error .changedStorageNotFound, vm) := by
  have hrecord : recordResult evaluation a id vm = (.error .changedStorageNotFound, vm) := by
    unfold recordResult
    rw [hsaved]
    rfl
  rw [updateBlockValuesFromResult_eq h.isExecutor h.blockState h.receiptState _ _ hid, hrecord,
    bindResult_error]

end

/-! ### Executions -/

/-- A transaction as it was executed: the block before it and how its evaluation ended. -/
structure Executed where
  t : BlockTransaction
  before : BlockExecution
  outcome : Except VmError Locals

namespace Executed

def evaluation (e : Executed) : Option Locals := e.outcome.toOption

/-- The changed storage of the evaluation at a slot. -/
def changedStorage (e : Executed) (a : Bytes) (p : U256) : Option U256 :=
  e.evaluation.bind fun l => l.getEvaluationResult.changedStorage.bind fun s => s.slot a p

/-- The storage of a saved result. -/
def saved (e : Executed) : Slots := savedSlots e.evaluation

/-- What is recorded of the transaction. -/
def recorded (e : Executed) : Bytes := recordedBytes e.evaluation

end Executed

section

variable (env : VmEnvironment) (T : RustMerkleTree) (settings : BlockSettings) (n : Nat)

def executed (b : BlockExecution) (t : BlockTransaction) : Executed :=
  ⟨t, b, (evaluate env T settings n t b).1⟩

/-- The transactions of a list as they are executed one after the other. -/
def executions : BlockExecution → List BlockTransaction → List Executed
  | _, [] => []
  | b, t :: ts => executed env T settings n b t ::
      executions (executeTransaction env T settings n t b).2 ts

/-- The evaluation of a transaction whose reads are answered by a function. -/
def evaluateReading (read : Bytes → U256 → Option U256) (t : BlockTransaction) : BlockM Locals := do
  checkTransaction settings t
  onVm (runReading env T read n t.tx)

end

/-- The writes of the saved results, in order. -/
def savedStorage (es : List Executed) (a : Bytes) (p : U256) : Option U256 :=
  es.foldl (fun value e => (e.saved.slot a p).or value) none

theorem savedStorage_concat (es : List Executed) (e : Executed) (a : Bytes) (p : U256) :
    savedStorage (es ++ [e]) a p = (e.saved.slot a p).or (savedStorage es a p) := by
  unfold savedStorage
  rw [List.foldl_append]
  rfl

/-- The condition under which a transaction of a block does what its receipt says: a result that is
saved is not the byte 0 unless nothing was written; the tree can be built with its writes, if it is
built after each transaction, and a slot of a tree of one slot is not looked up then; and nothing is
written at the address of the padding. -/
structure StepOk (env : VmEnvironment) (T : RustMerkleTree) (settings : BlockSettings) (n : Nat)
    (b : BlockExecution) (t : BlockTransaction) : Prop where
  result : (executed env T settings n b t).recorded = revertMarker →
    ∀ a p, (executed env T settings n b t).saved.slot a p = none
  builds : settings.disableStorageCheck = false → ∀ tree, b.vm.blockState = some tree →
    Buildable T (updateStorage (executed env T settings n b t).saved tree)
  spares : settings.disableStorageCheck = false → ∀ tree, b.vm.blockState = some tree →
    SparesLoneSlot tree (lookupsSince b.vm (evaluate env T settings n t b).2.vm)
  alive : ∀ p, (executed env T settings n b t).saved.slot env.dead p = none

/-- The invariant of a block after the given executions: the storage tree has what they saved, the
receipts are what is recorded of them, one for each, and each of them read what those before it
saved over the stored state. -/
structure FoldInv (env : VmEnvironment) (T : RustMerkleTree) (settings : BlockSettings)
    (db : VMStorage) (n : Nat) (es : List Executed) (b : BlockExecution)
    (tree : MerkleTree U256 U256) (receipts : MerkleTree ReceiptKey Bytes) : Prop where
  inBlock : InBlock db n tree receipts b.vm
  synced : Synced T settings.disableStorageCheck tree
  unfrozen : receipts.frozen = false
  storage : ∀ a p, tree.values.slot a p = savedStorage es a p
  receipt : ∀ e ∈ es, ∃ a,
    receipts.values.slot a (.transaction e.t.transactionId) = some e.recorded ∧
      ∀ a', (receipts.values.slot a' (.transaction e.t.transactionId)).isSome → a' = a
  others : ∀ id, (∀ e ∈ es, e.t.transactionId ≠ id) →
    ∀ a, receipts.values.slot a (.transaction id) = none
  reads : AtEach (fun before e => e.outcome =
    (evaluateReading env T settings n (fun a p => (savedStorage before a p).or (db.getStorage a p n))
      e.t e.before).1) es
  fair : ∀ e ∈ es, e.recorded = revertMarker → ∀ a p, e.saved.slot a p = none
  alive : ∀ e ∈ es, ∀ p, e.saved.slot env.dead p = none

section

variable (env : VmEnvironment) {T : RustMerkleTree} {settings : BlockSettings} {db : VMStorage}
  {n : Nat} {b : BlockExecution} {tree : MerkleTree U256 U256}
  {receipts : MerkleTree ReceiptKey Bytes} {es : List Executed} {t : BlockTransaction}

theorem checkTransaction_state (settings : BlockSettings) (t : BlockTransaction)
    (b : BlockExecution) : (checkTransaction settings t b).2 = b := by
  have hkeeps : Keeps (fun b' => b' = b) (checkTransaction settings t) := by
    unfold checkTransaction
    refine keeps_bind keeps_get fun _ => ?_
    refine keeps_bind (keeps_throwIf _ _) fun _ => ?_
    refine keeps_bind (keeps_throwIf _ _) fun _ => ?_
    refine keeps_bind (keeps_throwIf _ _) fun _ => ?_
    cases t.mldsaError with
    | some e => exact keeps_throw e
    | none => exact keeps_throwIf _ _
  exact hkeeps b rfl

theorem evaluate_reading (h : InBlock db n tree receipts b.vm) (t : BlockTransaction)
    (hanswers : TreeAnswers T tree (lookupsSince b.vm (evaluate env T settings n t b).2.vm)) :
    (evaluate env T settings n t b).1 =
        (evaluateReading env T settings n (blockRead db n tree) t b).1 ∧
      InBlock db n tree receipts (evaluate env T settings n t b).2.vm := by
  have hcheck := checkTransaction_state settings t b
  replace hanswers : TreeAnswers T tree (lookupsSince b.vm
    (bindResult (fun _ => onVm (runTransaction env T n t.tx)) (checkTransaction settings t b)).2.vm) :=
    hanswers
  show (bindResult _ (checkTransaction settings t b)).1 = (bindResult _ _).1 ∧ InBlock db n tree
    receipts (bindResult _ (checkTransaction settings t b)).2.vm
  rcases hrun : checkTransaction settings t b with ⟨e | _, b'⟩
  · rw [hrun] at hcheck
    obtain rfl : b' = b := hcheck
    rw [bindResult_error, bindResult_error]
    exact ⟨rfl, h⟩
  · rw [hrun] at hcheck
    obtain rfl : b' = b := hcheck
    rw [hrun, bindResult_ok] at hanswers
    rw [bindResult_ok, bindResult_ok]
    exact evaluates_reading env t.tx h hanswers

variable {b' : BlockExecution}

theorem evaluate_transactionId {l : Locals} (h : evaluate env T settings n t b = (.ok l, b')) :
    l.evaluation.transactionId = t.transactionId := by
  have hcheck := checkTransaction_state settings t b
  replace h : bindResult (fun _ => onVm (runTransaction env T n t.tx))
    (checkTransaction settings t b) = (.ok l, b') := h
  rcases hrun : checkTransaction settings t b with ⟨e | _, b₁⟩
  · rw [hrun, bindResult_error] at h
    cases h
  · rw [hrun, bindResult_ok] at h
    obtain ⟨hresult, -⟩ := Prod.mk.inj h
    exact RootCall.runTransaction_transactionId env T (Prod.ext hresult rfl)

/-- The update that a transaction comes down to, in the VM that its evaluation left: it writes what is
recorded of the transaction and what it saved. -/
def ExecutesTo (env : VmEnvironment) (T : RustMerkleTree) (settings : BlockSettings) (n : Nat)
    (t : BlockTransaction) (tree : MerkleTree U256 U256)
    (receipts : MerkleTree ReceiptKey Bytes) (vm : VMManager) (b b' : BlockExecution) : Prop :=
  ∃ (m : VmM Unit) (a : Bytes) (gas : Nat),
    Updates T settings.disableStorageCheck m a (.transaction t.transactionId)
      (executed env T settings n b t).recorded (executed env T settings n b t).saved tree receipts
      vm ∧
    executeTransaction env T settings n t b = (.ok (), b') ∧ b' = ⟨(m vm).2, gas⟩

theorem Updates.executesTo {m : VmM Unit} {a value : Bytes} {s : Slots} {vm : VMManager} (gas : Nat)
    (h : Updates T settings.disableStorageCheck m a (.transaction t.transactionId) value s tree
      receipts vm)
    (hexecute : executeTransaction env T settings n t b = ((m vm).1, ⟨(m vm).2, gas⟩))
    (hrecorded : (executed env T settings n b t).saved = s ∧
      (executed env T settings n b t).recorded = value) :
    ExecutesTo env T settings n t tree receipts vm b (executeTransaction env T settings n t b).2 := by
  refine ⟨m, a, gas, ?_, ?_, ?_⟩
  · rw [hrecorded.1, hrecorded.2]
    exact h
  · obtain ⟨tree', receipts', hm, -⟩ := h
    rw [hexecute, hm]
  · rw [hexecute]

theorem processTransactionFailure_eq
    (h : InBlock db n tree receipts b'.vm) (hsynced : Synced T settings.disableStorageCheck tree)
    (hreceipts : receipts.frozen = false) (hid : t.transactionId ≠ [])
    (hexecute : executeTransaction env T settings n t b = processTransactionFailure T t b')
    (hfails : savedSlots (executed env T settings n b t).evaluation = .empty ∧
      recordedBytes (executed env T settings n b t).evaluation = revertMarker) :
    ExecutesTo env T settings n t tree receipts b'.vm b
      (executeTransaction env T settings n t b).2 := by
  have hcheck : true = settings.disableStorageCheck ∨ (true = true ∧ savedSlots none = .empty) :=
    .inr ⟨rfl, rfl⟩
  have hstorage : ∀ result, savedResult none ≠ some (none, result) := by rintro _ ⟨⟩
  have hupdates := updates_of h hsynced hreceipts hcheck hstorage (by rintro ⟨⟩) t.address hid
  exact hupdates.executesTo env (b'.blockUsedGas + PANIC_GAS_COST) hexecute hfails

theorem executeTransaction_eq (hT : T.FindsProofs) (h : InBlock db n tree receipts b.vm)
    (hsynced : Synced T settings.disableStorageCheck tree) (hreceipts : receipts.frozen = false)
    (hid : t.transactionId ≠ []) (hok : StepOk env T settings n b t) :
    ∃ vm, InBlock db n tree receipts vm ∧ ExecutesTo env T settings n t tree receipts vm b
      (executeTransaction env T settings n t b).2 := by
  have hinBlock : InBlock db n tree receipts (evaluate env T settings n t b).2.vm :=
    (evaluate_reading env h t (hsynced.treeAnswers hT fun hdisable =>
      hok.spares hdisable tree h.blockState)).2
  have hexecute : executeTransaction env T settings n t b =
      catchResult (fun _ => processTransactionFailure T t)
        (bindResult (processEvaluation T settings) (evaluate env T settings n t b)) := rfl
  have hevaluation : (executed env T settings n b t).evaluation =
      (evaluate env T settings n t b).1.toOption := rfl
  rcases heval : evaluate env T settings n t b with ⟨e | l, b'⟩
  · rw [heval] at hinBlock hexecute hevaluation
    -- the evaluation has thrown: a failure is recorded
    refine ⟨b'.vm, hinBlock, ?_⟩
    apply processTransactionFailure_eq env hinBlock hsynced hreceipts hid hexecute
    rw [hevaluation]
    exact ⟨rfl, rfl⟩
  · rw [heval] at hinBlock hexecute hevaluation
    have htransactionId := evaluate_transactionId env heval
    obtain ⟨gas, hprocess⟩ : ∃ gas, processEvaluation T settings l b' =
        ((updateBlockValuesFromResult T (some l) l.evaluation.contractAddress t.transactionId
            settings.disableStorageCheck b'.vm).1,
          ⟨(updateBlockValuesFromResult T (some l) l.evaluation.contractAddress t.transactionId
            settings.disableStorageCheck b'.vm).2, gas⟩) := by
      rw [← htransactionId]
      exact ⟨_, rfl⟩
    rw [bindResult_ok, hprocess] at hexecute
    replace hevaluation : (executed env T settings n b t).evaluation = some l := hevaluation
    refine ⟨b'.vm, hinBlock, ?_⟩
    by_cases hstorage : ∃ result, savedResult (some l) = some (none, result)
    · -- Without changed storage the update throws, and the transaction fails in the same VM.
      obtain ⟨result, hsaved⟩ := hstorage
      rw [update_throws hinBlock hsaved _ hid] at hexecute
      have hfails : InBlock db n tree receipts (BlockExecution.mk b'.vm gas).vm := hinBlock
      apply processTransactionFailure_eq env hfails hsynced hreceipts hid hexecute
      rw [hevaluation, savedSlots, recordedBytes, hsaved]
      exact ⟨rfl, rfl⟩
    · have hbuild : settings.disableStorageCheck = false →
          Buildable T (updateStorage (savedSlots (some l)) tree) := by
        intro hdisable
        have hbuilds := hok.builds hdisable tree h.blockState
        rwa [Executed.saved, hevaluation] at hbuilds
      have hupdates := updates_of hinBlock hsynced hreceipts (.inl rfl)
        (fun result hsaved => hstorage ⟨result, hsaved⟩) hbuild l.evaluation.contractAddress hid
      have hreturns := hupdates
      obtain ⟨tree', receipts', hm, -⟩ := hreturns
      refine hupdates.executesTo env gas (hexecute.trans ?_) ?_
      · rw [hm]
        rfl
      · rw [Executed.saved, Executed.recorded, hevaluation]
        exact ⟨rfl, rfl⟩

/-- **Step.** A transaction of a block that meets the condition keeps the invariant. -/
theorem executeTransaction_step (hT : T.FindsProofs)
    (h : FoldInv env T settings db n es b tree receipts) (hid : t.transactionId ≠ [])
    (hfresh : ∀ e ∈ es, e.t.transactionId ≠ t.transactionId) (hok : StepOk env T settings n b t) :
    ∃ b' tree' receipts', executeTransaction env T settings n t b = (.ok (), b') ∧
      FoldInv env T settings db n (es ++ [executed env T settings n b t]) b' tree' receipts' := by
  obtain ⟨vm, hinBlock, m, a, gas, ⟨tree', receipts', hm, hsynced', hslots, hfrozen', hreceipt⟩,
    hexecute, hb'⟩ := executeTransaction_eq env hT h.inBlock h.synced h.unfrozen hid hok
  have hanswers : TreeAnswers T tree (lookupsSince b.vm (evaluate env T settings n t b).2.vm) :=
    h.synced.treeAnswers hT fun hdisable => hok.spares hdisable tree h.inBlock.blockState
  refine ⟨_, tree', receipts', hexecute, ?_, hsynced', hfrozen', ?_, ?_, ?_, ?_, ?_, ?_⟩
  · rw [hb', hm]
    apply hinBlock.setTrees receipts'
    intro a p hnone
    rw [hslots, Option.or_eq_none_iff] at hnone
    exact hnone.2
  · intro a p
    rw [hslots, savedStorage_concat, h.storage]
  · intro e he
    rcases List.mem_append.mp he with hold | hnew
    · -- the receipts of the transactions before have other keys
      obtain ⟨a', hslot, hunique⟩ := h.receipt e hold
      have hkey : ReceiptKey.transaction e.t.transactionId ≠ .transaction t.transactionId :=
        fun heq => hfresh e hold (ReceiptKey.transaction.inj heq)
      refine ⟨a', ?_, fun a'' hsome => hunique a'' ?_⟩
      · rw [hreceipt, if_neg fun heq => hkey heq.2, hslot]
      · rwa [hreceipt, if_neg fun heq => hkey heq.2] at hsome
    · obtain rfl := List.mem_singleton.mp hnew
      refine ⟨a, ?_, fun a' hsome => ?_⟩
      · rw [hreceipt, if_pos ⟨rfl, rfl⟩]
      · -- at another address there would be a receipt from before, under a fresh id
        by_contra hne
        have hnone : receipts.values.slot a' (.transaction t.transactionId) = none :=
          h.others _ hfresh a'
        rw [hreceipt, if_neg fun heq => hne heq.1] at hsome
        exact absurd (hsome.symm.trans (congrArg Option.isSome hnone)) (by simp)
  · intro id hother a'
    have hkey : ReceiptKey.transaction id ≠ .transaction t.transactionId := by
      intro heq
      exact hother (executed env T settings n b t) (by simp) (ReceiptKey.transaction.inj heq).symm
    rw [hreceipt, if_neg fun heq => hkey heq.2]
    exact h.others id (fun e he => hother e (List.mem_append_left _ he)) a'
  · refine atEach_concat.mpr ⟨h.reads, ?_⟩
    show (evaluate env T settings n t b).1 = _
    rw [(evaluate_reading env h.inBlock t hanswers).1]
    congr 3
    funext a p
    rw [blockRead, h.storage]
  · intro e he
    rcases List.mem_append.mp he with hold | hnew
    · exact h.fair e hold
    · obtain rfl := List.mem_singleton.mp hnew
      exact hok.result
  · intro e he
    rcases List.mem_append.mp he with hold | hnew
    · exact h.alive e hold
    · obtain rfl := List.mem_singleton.mp hnew
      exact hok.alive

/-- **Run.** So do all transactions of a block, one after the other. -/
theorem foldInv_executeTransactions (hT : T.FindsProofs) (ts : List BlockTransaction) :
    ∀ {es : List Executed} {b : BlockExecution} {tree : MerkleTree U256 U256}
      {receipts : MerkleTree ReceiptKey Bytes},
      FoldInv env T settings db n es b tree receipts → (∀ t ∈ ts, t.transactionId ≠ []) →
      (ts.map BlockTransaction.transactionId).Nodup →
      (∀ e ∈ es, ∀ t ∈ ts, e.t.transactionId ≠ t.transactionId) →
      Meets (fun b t => some (executeTransaction env T settings n t b).2)
        (StepOk env T settings n) b ts →
      ∃ b' tree' receipts', executeTransactions env T settings n ts b = (.ok (), b') ∧
        FoldInv env T settings db n (es ++ executions env T settings n b ts) b' tree' receipts' := by
  induction ts with
  | nil =>
    intro es b tree receipts h _ _ _ _
    refine ⟨b, tree, receipts, rfl, ?_⟩
    rwa [executions, List.append_nil]
  | cons t ts ih =>
    intro es b tree receipts h hids hnodup hfresh hmeets
    rw [List.map_cons, List.nodup_cons] at hnodup
    obtain ⟨b', tree', receipts', hexecute, h'⟩ := executeTransaction_step env hT h
      (hids t List.mem_cons_self) (fun e he => hfresh e he t List.mem_cons_self) hmeets.1
    have hstep : some (executeTransaction env T settings n t b).2 = some b' := by rw [hexecute]
    have hmeets' := hmeets.2 b' hstep
    have hfresh' : ∀ e ∈ es ++ [executed env T settings n b t], ∀ t' ∈ ts,
        e.t.transactionId ≠ t'.transactionId := by
      intro e he t' ht'
      rcases List.mem_append.mp he with hold | hnew
      · exact hfresh e hold t' (List.mem_cons_of_mem _ ht')
      · obtain rfl := List.mem_singleton.mp hnew
        intro heq
        exact hnodup.1 (List.mem_map.mpr ⟨t', ht', heq.symm⟩)
    obtain ⟨b'', tree'', receipts'', hrest, h''⟩ := ih h'
      (fun t' ht' => hids t' (List.mem_cons_of_mem _ ht')) hnodup.2 hfresh' hmeets'
    refine ⟨b'', tree'', receipts'', ?_, ?_⟩
    · show bindResult (fun _ => executeTransactions env T settings n ts) _ = _
      rw [hexecute, bindResult_ok, hrest]
    · rw [executions, hexecute]
      rwa [List.append_assoc] at h''

theorem foldInv_start (settings : BlockSettings) (n : Nat) (db : VMStorage) :
    FoldInv env T settings db n [] (start n db) .new .new where
  inBlock := ⟨rfl, rfl, rfl, rfl, rfl, fun _ _ _ hget => nomatch hget⟩
  synced := synced_new
  unfrozen := rfl
  storage _ _ := rfl
  receipt _ he := nomatch he
  others _ _ _ := rfl
  reads := atEach_nil
  fair _ he := nomatch he
  alive _ he := nomatch he

end

end OpnetNode
