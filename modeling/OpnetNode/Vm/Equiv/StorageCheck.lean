import OpnetNode.Merkle.ChecksumMerkle
import OpnetNode.Vm.Equiv.Block
import OpnetNode.Vm.Equiv.BlockSimulation

/-!
# Blocks with and without the storage check

With the storage check, the Rust tree of the storage is rebuilt after every transaction, and a slot
that the block wrote is read under a proof.  The proof of a single leaf is empty and counts as none, so
that the only slot of a block can be written but not read again.

* `transactionSimulates_unproven`: while the tree answers for what is looked up, the VM with a Rust
  tree does what the one without does.
* `executeTransaction_same`: the step; a transaction that does not look up the only slot of the block
  ends the same in both modes.
* `storageCheck_independent`: the whole block, its trees and its checksum root.
* `storageCheck_matters`: a slot that is written twice.
-/

namespace OpnetNode

open Proc VMManager BlockExecution

variable {env : VmEnvironment} {T : RustMerkleTree} {n : Nat}

/-! ### Reading without proofs -/

section

variable {tree tree' : MerkleTree U256 U256} {k : Nat}

/-- The second VM is the first one with another storage tree. -/
structure TreeRel (tree tree' : MerkleTree U256 U256) (k : Nat) (vm vm' : VMManager) : Prop where
  blockState : vm.blockState = some tree
  other : vm' = { vm with blockState := some tree' }
  started : k ≤ vm.lookups.length

/-- The second tree has the slots of the first one, and no Rust tree. -/
structure Unproven (tree tree' : MerkleTree U256 U256) : Prop where
  values : tree'.values = tree.values
  tree : tree'.tree = none

/-- A procedure over the VM with a Rust tree that simulates itself over the one without. -/
abbrev OnTrees {α : Type} (T : RustMerkleTree) (tree tree' : MerkleTree U256 U256) (k : Nat)
    (m : VmM α) : Prop := OnHosts (TreeRel tree tree' k) (AnswersFrom T tree k) m m

theorem TreeRel.same {vm vm' vm₁ vm₁' : VMManager} (h : TreeRel tree tree' k vm vm')
    (hstate : vm₁.blockState = vm.blockState) (hgrows : vm.lookups.length ≤ vm₁.lookups.length)
    (hother : vm₁' = { vm₁ with blockState := some tree' }) : TreeRel tree tree' k vm₁ vm₁' :=
  ⟨hstate.trans h.blockState, hother, le_trans h.started hgrows⟩

/-- A step that only notes lookups and fills caches. -/
theorem simulates_of_reads {α : Type} {m : VmM α}
    (hgrows : ∀ vm, ∃ lookups, (m vm).2.lookups = vm.lookups ++ lookups)
    (hstate : ∀ vm, (m vm).2.blockState = vm.blockState)
    (hother : ∀ vm, m { vm with blockState := some tree' }
      = ((m vm).1, { (m vm).2 with blockState := some tree' })) : OnTrees T tree tree' k m := by
  refine ⟨fun _ _ => trivial, fun vm _ hgood => ?_, fun vm vm' _ hrel _ => ?_⟩
  · obtain ⟨lookups, hlookups⟩ := hgrows vm
    exact AnswersFrom.of_append hgood hlookups
  · obtain ⟨lookups, hlookups⟩ := hgrows vm
    have hlength : vm.lookups.length ≤ (m vm).2.lookups.length := by
      rw [hlookups, List.length_append]
      omega
    obtain rfl := hrel.other
    rw [hother]
    exact ⟨rfl, hrel.same (hstate vm) hlength rfl⟩

theorem onTrees_storePointerInCache (a : Bytes) (p : U256) (value : Option U256) :
    OnTrees T tree tree' k (storePointerInCache a p value) :=
  simulates_of_reads (fun _ => ⟨[], (List.append_nil _).symm⟩) (fun _ => rfl) fun _ => rfl

theorem onTrees_lookup (h : Unproven tree tree') (a : Bytes) (p : U256) :
    OnTrees T tree tree' k (note (.slot a p) >>= fun _ =>
      ofExcept fun vm => getFromInternalCache T vm a p) := by
  refine ⟨fun _ _ => trivial, fun vm _ hgood => AnswersFrom.of_append hgood rfl,
    fun vm vm' _ hrel hgood => ?_⟩
  obtain rfl := hrel.other
  have hnoted : .slot a p ∈ (vm.lookups ++ [Lookup.slot a p]).drop k := by
    rw [List.drop_append_of_le_length hrel.started]
    simp
  have hproven : getValueWithProofs T tree a p = .ok (tree.values.slot a p) := hgood a p hnoted
  have hunproven : getValueWithProofs T tree' a p = .ok (tree.values.slot a p) := by
    unfold getValueWithProofs
    rw [h.values, h.tree]
    cases tree.values.slot a p <;> rfl
  have hread : ∀ t : MerkleTree U256 U256, getValueWithProofs T t a p = .ok (tree.values.slot a p) →
      ∀ vm₁ : VMManager, vm₁.blockState = some t →
      getFromInternalCache T vm₁ a p
        = .ok ((tree.values.slot a p).or (vm₁.pointerCache.get (a, p)).join) := by
    intro t ht vm₁ hvm₁
    unfold getFromInternalCache
    rw [hvm₁]
    dsimp only
    rw [ht]
    rfl
  have hleft := hread tree hproven { vm with lookups := vm.lookups ++ [.slot a p] } hrel.blockState
  have hright := hread tree' hunproven
    { vm with blockState := some tree', lookups := vm.lookups ++ [.slot a p] } rfl
  exact ⟨hleft.trans hright.symm, hrel.same rfl (le_length_concat (le_refl _)) rfl⟩

theorem onTrees_requireBlockState : OnTrees T tree tree' k requireBlockState := by
  refine ⟨fun _ _ => trivial, fun _ _ hgood => hgood, fun vm vm' _ hrel _ => ?_⟩
  obtain rfl := hrel.other
  refine ⟨?_, hrel⟩
  unfold requireBlockState
  rw [hrel.blockState]
  rfl

theorem onTrees_getStorage (h : Unproven tree tree') (a : Bytes) (p : U256) (height : Nat) :
    OnTrees T tree tree' k (VMManager.getStorage T a p height) := by
  unfold VMManager.getStorage
  refine simulates_bind onTrees_requireBlockState fun _ => ?_
  rw [← Proc.bind_assoc]
  refine simulates_bind (onTrees_lookup h a p) fun known => ?_
  cases known with
  | some value => exact simulates_pure _
  | none =>
    refine simulates_get_bind (fun vm => vm.database.getStorage a p height) ?_ fun vm vm' hread => ?_
    · intro vm vm' _ hrel
      obtain rfl := hrel.other
      rfl
    · rw [hread]
      exact simulates_bind (onTrees_storePointerInCache a p _) fun _ => simulates_pure _

theorem onTrees_getStorageMultiple (h : Unproven tree tree') (pointers : List (Bytes × U256))
    (height : Nat) : OnTrees T tree tree' k (VMManager.getStorageMultiple T pointers height) := by
  unfold VMManager.getStorageMultiple
  refine simulates_bind onTrees_requireBlockState fun _ => ?_
  refine simulates_bind (simulates_foldEach (fun collected slot => ?_) _ _) fun collected => ?_
  · unfold collectSlot
    rw [← Proc.bind_assoc]
    refine simulates_bind (onTrees_lookup h slot.1 slot.2) fun known => ?_
    refine simulates_get_bind (fun vm => vm.database.getStorage slot.1 slot.2 height) ?_
      fun vm vm' hread => ?_
    · intro vm vm' _ hrel
      obtain rfl := hrel.other
      rfl
    · rw [hread]
      exact simulates_pure _
  · refine simulates_bind (simulates_forEach (fun entry => ?_) _) fun _ => simulates_pure _
    cases entry.2 with
    | some value => exact onTrees_storePointerInCache _ _ _
    | none => exact simulates_pure _

/-! ### The other methods -/

theorem onTrees_getContractAddress (reference : ContractReference) :
    OnTrees T tree tree' k (getContractAddress reference) := by
  apply simulates_of_reads
  · intro vm
    rw [getContractAddress_eq]
    exact ⟨_, rfl⟩
  · intro vm
    rw [getContractAddress_eq]
  · intro vm
    rw [getContractAddress_eq, getContractAddress_eq]

theorem onTrees_getContractInformation (a : Bytes) (height : Nat) :
    OnTrees T tree tree' k (getContractInformation a height) := by
  apply simulates_of_reads
  · intro vm
    rw [getContractInformation_eq]
    exact ⟨_, rfl⟩
  · intro vm
    rw [getContractInformation_eq]
  · intro vm
    rw [getContractInformation_eq, getContractInformation_eq]

theorem onTrees_deployContract (c : ContractInformation) :
    OnTrees T tree tree' k (deployContractFromInfo env c) := by
  have hexecutor : ∀ vm : VMManager, vm.isExecutor = true →
      deployContractFromInfo env c vm = (.ok (), vm) := by
    intro vm hvm
    show (if vm.isExecutor then pure () else _ : VmM Unit) vm = _
    rw [hvm]
    rfl
  apply simulates_of_reads (lookups_deployContractFromInfo env c)
  · intro vm
    rcases Bool.eq_false_or_eq_true vm.isExecutor with hvm | hvm
    · rw [hexecutor vm hvm]
    · rw [deployContractFromInfo_eq env c hvm, setContractAt_eq]
  · intro vm
    rcases Bool.eq_false_or_eq_true vm.isExecutor with hvm | hvm
    · rw [hexecutor vm hvm]
      exact hexecutor { vm with blockState := some tree' } hvm
    · have hother := deployContractFromInfo_eq env c
        (show ({ vm with blockState := some tree' } : VMManager).isExecutor = false from hvm)
      rw [deployContractFromInfo_eq env c hvm, hother, setContractAt_eq, setContractAt_eq]

theorem transactionSimulates_unproven (h : Unproven tree tree') :
    TransactionSimulates env T n (TreeRel tree tree' k) (AnswersFrom T tree k) where
  host :=
    { getStorage := fun a p => onTrees_getStorage h a p n
      getStorageMultiple := fun pointers => onTrees_getStorageMultiple h pointers n
      isContract := fun a => simulates_bind (onTrees_getContractAddress _) fun _ => simulates_pure _
      getContractInformation := fun a => onTrees_getContractInformation a n
      isCached := fun a => simulates_of_reads (fun _ => ⟨_, rfl⟩) (fun _ => rfl) fun _ => rfl
      contractExistsBelow := fun a =>
        simulates_of_reads (fun _ => ⟨_, rfl⟩) (fun _ => rfl) fun _ => rfl
      deployContract := onTrees_deployContract }
  height := by
    intro vm vm' hrel
    obtain rfl := hrel.other
    rfl
  getContractAddress := onTrees_getContractAddress

end

/-! ### One transaction -/

section

variable {db : VMStorage} {tree tree' : MerkleTree U256 U256}
  {receipts : MerkleTree ReceiptKey Bytes}

/-- The second VM is the first one, in the block, without its Rust tree. -/
structure SameVm (T : RustMerkleTree) (db : VMStorage) (n : Nat) (tree tree' : MerkleTree U256 U256)
    (receipts : MerkleTree ReceiptKey Bytes) (vm vm' : VMManager) : Prop where
  inBlock : InBlock db n tree receipts vm
  synced : Synced T false tree
  receiptsUnfrozen : receipts.frozen = false
  unproven : Unproven tree tree'
  unfrozen : tree'.frozen = false
  other : vm' = { vm with blockState := some tree' }

/-- The executions stand at the same VM, with and without its Rust tree. -/
def SameExecution (T : RustMerkleTree) (db : VMStorage) (n : Nat) (b b' : BlockExecution) : Prop :=
  ∃ tree tree' receipts, SameVm T db n tree tree' receipts b.vm b'.vm ∧
    b.blockUsedGas = b'.blockUsedGas

theorem values_updateStorage (h : tree'.values = tree.values) (s : Slots) :
    (updateStorage s tree').values = (updateStorage s tree).values := by
  unfold updateStorage
  generalize s.entries = entries
  induction entries generalizing tree tree' with
  | nil => exact h
  | cons entry entries ih =>
    apply ih
    unfold MerkleKind.updateValues
    dsimp only
    rw [h]

theorem updateBlockValuesFromResult_nil {vm : VMManager} (h : InBlock db n tree receipts vm)
    (evaluation : Option Locals) (a : Bytes) (disable : Bool) :
    updateBlockValuesFromResult T evaluation a [] disable vm = (.error .transactionIdNotFound, vm) := by
  unfold updateBlockValuesFromResult
  show (if vm.isExecutor then pure () else _ : VmM Unit) vm = _
  rw [h.isExecutor]
  show bindResult _ _ = _
  rw [h.blockState]
  show bindResult _ _ = _
  rw [h.receiptState]
  rfl

theorem SameVm.inBlock' {vm vm' : VMManager} (h : SameVm T db n tree tree' receipts vm vm') :
    InBlock db n tree' receipts vm' := by
  obtain rfl := h.other
  refine ⟨h.inBlock.isExecutor, h.inBlock.height, h.inBlock.database, rfl, h.inBlock.receiptState, ?_⟩
  rw [h.unproven.values]
  exact h.inBlock.cached

theorem update_same {vm vm' : VMManager} (h : SameVm T db n tree tree' receipts vm vm')
    (evaluation : Option Locals) (check : Bool)
    (hcheck : check = true → savedSlots evaluation = .empty)
    (hbuild : check = false → Buildable T (updateStorage (savedSlots evaluation) tree))
    (a id : Bytes) :
    (updateBlockValuesFromResult T evaluation a id check vm).1 =
        (updateBlockValuesFromResult T evaluation a id true vm').1 ∧
      ∃ tree₁ tree₁' receipts₁, SameVm T db n tree₁ tree₁' receipts₁
        (updateBlockValuesFromResult T evaluation a id check vm).2
        (updateBlockValuesFromResult T evaluation a id true vm').2 := by
  have hin := h.inBlock
  have hin' := h.inBlock'
  -- without an id nothing is recorded, and without changed storage both updates throw
  by_cases hid : id = []
  · subst hid
    rw [updateBlockValuesFromResult_nil hin, updateBlockValuesFromResult_nil hin']
    exact ⟨rfl, tree, tree', receipts, h⟩
  by_cases hstorage : ∃ result, savedResult evaluation = some (none, result)
  · obtain ⟨result, hsaved⟩ := hstorage
    rw [update_throws hin hsaved a hid, update_throws hin' hsaved a hid]
    exact ⟨rfl, tree, tree', receipts, h⟩
  have hstorage : ∀ result, savedResult evaluation ≠ some (none, result) :=
    fun result hsaved => hstorage ⟨result, hsaved⟩
  obtain ⟨receipts₁, hupdate, hreceipts₁, -, -⟩ :=
    updateValue_receipt h.receiptsUnfrozen a (.transaction id) (recordedBytes evaluation)
  have hrecord := recordResult_eq hin.blockState hin.receiptState hstorage hupdate
  have hrecord' := recordResult_eq hin'.blockState hin'.receiptState hstorage hupdate
  obtain ⟨htree, hfrozen⟩ := updateStorage_tree (savedSlots evaluation) tree
  obtain ⟨htree', hfrozen'⟩ := updateStorage_tree (savedSlots evaluation) tree'
  have hsynced : check = true → false = false →
      Synced T false (updateStorage (savedSlots evaluation) tree) := by
    intro hc _
    rw [hcheck hc]
    exact h.synced
  obtain ⟨tree₁, hfinish, hvalues, hsynced₁⟩ := finishUpdate vm receipts₁
    (Bool.eq_false_or_eq_true check) (hfrozen.trans h.synced.unfrozen) (by rintro ⟨⟩) hsynced hbuild
  have hvalues' := values_updateStorage h.unproven.values (savedSlots evaluation)
  have hgains : ∀ a p, tree₁.values.slot a p = none → tree.values.slot a p = none := by
    intro a p hnone
    rw [hvalues, slot_updateStorage, Option.or_eq_none_iff] at hnone
    exact hnone.2
  rw [updateBlockValuesFromResult_eq hin.isExecutor hin.blockState hin.receiptState _ _ hid, hrecord,
    updateBlockValuesFromResult_eq hin'.isExecutor hin'.blockState hin'.receiptState _ _ hid, hrecord',
    bindResult_ok, bindResult_ok, hfinish]
  refine ⟨rfl, tree₁, updateStorage (savedSlots evaluation) tree', receipts₁, ?_⟩
  refine
    { inBlock := hin.setTrees receipts₁ hgains
      synced := hsynced₁
      receiptsUnfrozen := hreceipts₁
      unproven := ⟨hvalues'.trans hvalues.symm, htree'.trans h.unproven.tree⟩
      unfrozen := hfrozen'.trans h.unfrozen
      other := ?_ }
  obtain rfl := h.other
  rfl

/-- The condition under which a transaction ends the same with the storage check and without: the tree
can be built with its writes, and it does not look up the only slot of the tree. -/
structure CheckOk (env : VmEnvironment) (T : RustMerkleTree) (opnetEnabled : Bool) (n : Nat)
    (b : BlockExecution) (t : BlockTransaction) : Prop where
  builds : ∀ tree ∈ b.vm.blockState,
    Buildable T (updateStorage (executed env T ⟨false, opnetEnabled⟩ n b t).saved tree)
  spares : ∀ tree ∈ b.vm.blockState,
    SparesLoneSlot tree (lookupsSince b.vm (evaluate env T ⟨false, opnetEnabled⟩ n t b).2.vm)

variable {opnetEnabled : Bool} {b b' : BlockExecution} {t : BlockTransaction}

theorem evaluate_same (hT : T.FindsProofs) (h : SameVm T db n tree tree' receipts b.vm b'.vm)
    (hgas : b.blockUsedGas = b'.blockUsedGas) (hok : CheckOk env T opnetEnabled n b t) :
    (evaluate env T ⟨false, opnetEnabled⟩ n t b).1 = (evaluate env T ⟨true, opnetEnabled⟩ n t b').1 ∧
      SameVm T db n tree tree' receipts (evaluate env T ⟨false, opnetEnabled⟩ n t b).2.vm
        (evaluate env T ⟨true, opnetEnabled⟩ n t b').2.vm ∧
      (evaluate env T ⟨false, opnetEnabled⟩ n t b).2.blockUsedGas =
        (evaluate env T ⟨true, opnetEnabled⟩ n t b').2.blockUsedGas := by
  have hanswers : TreeAnswers T tree
      (lookupsSince b.vm (evaluate env T ⟨false, opnetEnabled⟩ n t b).2.vm) :=
    h.synced.treeAnswers hT fun _ => hok.spares tree h.inBlock.blockState
  have hinBlock := (evaluate_reading env h.inBlock t hanswers).2
  have hrel : BlockRel (TreeRel tree tree' b.vm.lookups.length) b b' :=
    ⟨⟨h.inBlock.blockState, h.other, le_refl _⟩, hgas⟩
  have htransactions : TransactionSimulates env T n (TreeRel tree tree' b.vm.lookups.length)
      (AnswersFrom T tree b.vm.lookups.length) := transactionSimulates_unproven h.unproven
  have hsimulates := simulates_evaluate htransactions ⟨false, opnetEnabled⟩ t
  obtain ⟨hres, hrel₁, hgas₁⟩ := hsimulates.same b b' trivial hrel hanswers
  exact ⟨hres, ⟨hinBlock, h.synced, h.receiptsUnfrozen, h.unproven, h.unfrozen, hrel₁.other⟩, hgas₁⟩

theorem processTransactionFailure_same (h : SameExecution T db n b b') :
    (processTransactionFailure T t b).1 = (processTransactionFailure T t b').1 ∧
      SameExecution T db n (processTransactionFailure T t b).2
        (processTransactionFailure T t b').2 := by
  obtain ⟨tree, tree', receipts, hvm, hgas⟩ := h
  obtain ⟨hres, tree₁, tree₁', receipts₁, hvm₁⟩ := update_same hvm none true (fun _ => rfl)
    (by rintro ⟨⟩) t.address t.transactionId
  exact ⟨hres, tree₁, tree₁', receipts₁, hvm₁, congrArg (· + PANIC_GAS_COST) hgas⟩

theorem executeTransaction_same (hT : T.FindsProofs) (h : SameExecution T db n b b')
    (hok : CheckOk env T opnetEnabled n b t) :
    (executed env T ⟨false, opnetEnabled⟩ n b t).outcome =
        (executed env T ⟨true, opnetEnabled⟩ n b' t).outcome ∧
      (executeTransaction env T ⟨false, opnetEnabled⟩ n t b).1 =
        (executeTransaction env T ⟨true, opnetEnabled⟩ n t b').1 ∧
      SameExecution T db n (executeTransaction env T ⟨false, opnetEnabled⟩ n t b).2
        (executeTransaction env T ⟨true, opnetEnabled⟩ n t b').2 := by
  obtain ⟨tree, tree', receipts, hvm, hgas⟩ := h
  obtain ⟨hres, hvm₁, hgas₁⟩ := evaluate_same hT hvm hgas hok
  have hbuild := hok.builds tree hvm.inBlock.blockState
  refine ⟨hres, ?_⟩
  show (catchResult (fun _ => processTransactionFailure T t) (bindResult _ _)).1 = (catchResult (fun
    _ => processTransactionFailure T t) (bindResult _ _)).1 ∧ SameExecution T db n (catchResult (fun
    _ => processTransactionFailure T t) (bindResult _ _)).2 (catchResult (fun _ =>
    processTransactionFailure T t) (bindResult _ _)).2
  unfold Executed.saved Executed.evaluation executed at hbuild
  dsimp only at hbuild
  rcases heval : evaluate env T ⟨false, opnetEnabled⟩ n t b with ⟨e | l, b₁⟩ <;>
    rcases heval' : evaluate env T ⟨true, opnetEnabled⟩ n t b' with ⟨r, b₁'⟩ <;>
    rw [heval, heval'] at hres hvm₁ hgas₁
  · -- both evaluations have thrown the same
    obtain rfl : Except.error e = r := hres
    rw [bindResult_error, bindResult_error]
    exact processTransactionFailure_same ⟨tree, tree', receipts, hvm₁, hgas₁⟩
  · obtain rfl : Except.ok l = r := hres
    rw [heval] at hbuild
    rw [bindResult_ok, bindResult_ok]
    obtain ⟨hres₂, tree₂, tree₂', receipts₂, hvm₂⟩ := update_same hvm₁ (some l) false
      (by rintro ⟨⟩) (fun _ => hbuild) l.evaluation.contractAddress l.evaluation.transactionId
    have hgas₂ : (processEvaluation T ⟨false, opnetEnabled⟩ l b₁).2.blockUsedGas =
        (processEvaluation T ⟨true, opnetEnabled⟩ l b₁').2.blockUsedGas :=
      congrArg (· + (l.ctx.gasTracker.gasUsed + l.ctx.gasTracker.specialGasUsed)) hgas₁
    have hsame : (processEvaluation T ⟨false, opnetEnabled⟩ l b₁).1 =
        (processEvaluation T ⟨true, opnetEnabled⟩ l b₁').1 := hres₂
    have hsame₂ : SameExecution T db n (processEvaluation T ⟨false, opnetEnabled⟩ l b₁).2
        (processEvaluation T ⟨true, opnetEnabled⟩ l b₁').2 :=
      ⟨tree₂, tree₂', receipts₂, hvm₂, hgas₂⟩
    rcases hprocess : processEvaluation T ⟨false, opnetEnabled⟩ l b₁ with ⟨e | _, b₂⟩ <;>
      rcases hprocess' : processEvaluation T ⟨true, opnetEnabled⟩ l b₁' with ⟨r, b₂'⟩ <;>
      rw [hprocess, hprocess'] at hsame hsame₂
    · obtain rfl : Except.error e = r := hsame
      exact processTransactionFailure_same hsame₂
    · obtain rfl : Except.ok () = r := hsame
      exact ⟨rfl, hsame₂⟩

end

/-! ### The end of a block -/

section

variable {tree tree' : MerkleTree U256 U256}

theorem freeze_same (dead : Bytes) (hvalues : tree'.values = tree.values)
    (hfrozen : tree.frozen = false) (hfrozen' : tree'.frozen = false) :
    stateKind.freeze T dead tree' = stateKind.freeze T dead tree := by
  have hsize := size_pad_ne_zero stateKind dead tree.values
  unfold MerkleKind.freeze MerkleKind.generateTree
  simp only [hvalues, hfrozen, hfrozen', hsize, Bool.false_eq_true, if_false]

variable (f : MerkleTree ReceiptKey Bytes → Except MerkleError (MerkleTree ReceiptKey Bytes))

theorem onReceiptState_other (vm : VMManager) :
    onReceiptState f { vm with blockState := some tree' } =
      ((onReceiptState f vm).1, { (onReceiptState f vm).2 with blockState := some tree' }) := by
  obtain ⟨isExecutor, database, height, state, _ | receipts, contracts, addresses, pointers,
    lookups⟩ := vm
  · rfl
  · unfold onReceiptState
    dsimp only
    rcases f receipts with e | receipts' <;> rfl

theorem onReceiptState_blockState
    (vm : VMManager) : (onReceiptState f vm).2.blockState = vm.blockState ∧
      (onReceiptState f vm).2.lookups = vm.lookups := by
  unfold onReceiptState
  rcases vm.receiptState with _ | receipts
  · exact ⟨rfl, rfl⟩
  · dsimp only
    rcases f receipts with e | receipts' <;> exact ⟨rfl, rfl⟩

theorem onTrees_onReceiptState {k : Nat} :
    OnTrees T tree tree' k (onReceiptState f) := by
  apply simulates_of_reads
  · intro vm
    exact ⟨[], by rw [(onReceiptState_blockState f vm).2, List.append_nil]⟩
  · exact fun vm => (onReceiptState_blockState f vm).1
  · exact onReceiptState_other f

variable (env T tree') in
theorem updateReceiptState_same (lastChecksum : Option Bytes) {vm : VMManager}
    (hstate : vm.blockState = some tree) :
    (updateReceiptState env T lastChecksum vm).2.blockState = some tree ∧
      updateReceiptState env T lastChecksum { vm with blockState := some tree' } =
        ((updateReceiptState env T lastChecksum vm).1,
          { (updateReceiptState env T lastChecksum vm).2 with blockState := some tree' }) := by
  have hsimulates : OnTrees T tree tree' vm.lookups.length (updateReceiptState env T lastChecksum) := by
    unfold updateReceiptState
    refine simulates_bind (simulates_throwIf _ _) fun _ => ?_
    refine simulates_bind (onTrees_onReceiptState _) fun _ => ?_
    refine simulates_bind (onTrees_onReceiptState _) fun _ => ?_
    exact onTrees_onReceiptState _
  have hkeeps : Keeps (fun vm' : VMManager => vm'.lookups = vm.lookups)
      (updateReceiptState env T lastChecksum) := by
    have hstep : ∀ f, Keeps (fun vm' : VMManager => vm'.lookups = vm.lookups) (onReceiptState f) :=
      fun f vm' hvm' => (onReceiptState_blockState f vm').2.trans hvm'
    unfold updateReceiptState
    refine keeps_bind (keeps_throwIf _ _) fun _ => ?_
    exact keeps_bind (hstep _) fun _ => keeps_bind (hstep _) fun _ => hstep _
  have hlookups : (updateReceiptState env T lastChecksum vm).2.lookups = vm.lookups := hkeeps vm rfl
  have hanswers : AnswersFrom T tree vm.lookups.length
      (updateReceiptState env T lastChecksum vm).2 := by
    unfold AnswersFrom
    rw [hlookups, List.drop_length]
    exact fun _ _ hmem => absurd hmem List.not_mem_nil
  obtain ⟨hres, hrel⟩ := hsimulates.same vm _ trivial ⟨hstate, rfl, le_refl _⟩ hanswers
  exact ⟨hrel.blockState, Prod.ext hres.symm hrel.other⟩

variable (env T) in
theorem updateEvaluatedStates_same (lastChecksum : Option Bytes) {vm : VMManager}
    (hstate : vm.blockState = some tree) (hvalues : tree'.values = tree.values)
    (hfrozen : tree.frozen = false) (hfrozen' : tree'.frozen = false) :
    (updateEvaluatedStates env T lastChecksum vm).1 =
        (updateEvaluatedStates env T lastChecksum { vm with blockState := some tree' }).1 ∧
      (updateEvaluatedStates env T lastChecksum vm).2.database =
        (updateEvaluatedStates env T lastChecksum { vm with blockState := some tree' }).2.database := by
  obtain ⟨hstate₁, hother⟩ := updateReceiptState_same env T tree' lastChecksum hstate
  unfold updateEvaluatedStates
  show (bindResult _ _).1 = (bindResult _ (updateReceiptState env T lastChecksum _)).1 ∧ (bindResult
    _ (updateReceiptState env T lastChecksum vm)).2.database = (bindResult _ (updateReceiptState env
    T lastChecksum _)).2.database
  rw [hother]
  rcases hrun : updateReceiptState env T lastChecksum vm with ⟨e | _, vm₁⟩
  · exact ⟨rfl, rfl⟩
  · rw [hrun] at hstate₁
    have hfreeze := freeze_same (T := T) env.dead hvalues hfrozen hfrozen'
    rw [bindResult_ok, bindResult_ok]
    show (bindResult _ (onBlockState _ vm₁)).1 = (bindResult _ (onBlockState _ _)).1 ∧ (bindResult _
      (onBlockState _ vm₁)).2.database = (bindResult _ (onBlockState _ _)).2.database
    cases hfrozen₁ : stateKind.freeze T env.dead tree with
    | error e =>
      rw [hfrozen₁] at hfreeze
      rw [onBlockState_of_error hstate₁ hfrozen₁, onBlockState_of_error rfl hfreeze]
      exact ⟨rfl, rfl⟩
    | ok tree₁ =>
      rw [hfrozen₁] at hfreeze
      rw [onBlockState_of_ok hstate₁ hfrozen₁, onBlockState_of_ok rfl hfreeze]
      exact ⟨rfl, rfl⟩

end

/-! ### Blocks -/

/-- The roots that `processBlockStates` takes from the trees of a block. -/
def blockRoots (codec : HexCodec T)
    (states : Option (MerkleTree U256 U256) × Option (MerkleTree ReceiptKey Bytes)) :
    Option (HexText × HexText) := do
  let storage ← states.1
  let storageRoot ← if storage.values.size = 0 then some ZERO_HASH
    else (MerkleKind.root T storage).map codec.rootHex
  let receipts ← states.2
  let receiptRoot ← (MerkleKind.root T receipts).map codec.rootHex
  return (storageRoot, receiptRoot)

/-- The checksum root of a block with the given header fields, `none` if it is not completed. -/
def blockChecksumRoot (codec : HexCodec T) (previousBlockChecksum : HexText) (header : BlockData)
    (states : Except VmError
      (Option (MerkleTree U256 U256) × Option (MerkleTree ReceiptKey Bytes))) : Option HexText := do
  let roots ← states.toOption.bind (blockRoots codec)
  let signed ← ChecksumMerkle.signBlock codec previousBlockChecksum
    { header with storageRoot := roots.1, receiptRoot := roots.2 }
  signed.checksumRoot

/-- The block of the given transactions over a database. -/
def blockOf (env : VmEnvironment) (T : RustMerkleTree) (settings : BlockSettings) (db : VMStorage)
    (n : Nat) (ts : List BlockTransaction) : BlockExecution :=
  (executeTransactions env T settings n ts (start n db)).2

/-- The block ends the same with the storage check and without. -/
structure CheckIndependent (env : VmEnvironment) (T : RustMerkleTree) (opnetEnabled : Bool)
    (db : VMStorage) (n : Nat) (ts : List BlockTransaction) : Prop where
  outcomes : (executions env T ⟨false, opnetEnabled⟩ n (start n db) ts).map Executed.outcome =
    (executions env T ⟨true, opnetEnabled⟩ n (start n db) ts).map Executed.outcome
  gas : (blockOf env T ⟨false, opnetEnabled⟩ db n ts).blockUsedGas =
    (blockOf env T ⟨true, opnetEnabled⟩ db n ts).blockUsedGas
  receipts : (blockOf env T ⟨false, opnetEnabled⟩ db n ts).vm.receiptState =
    (blockOf env T ⟨true, opnetEnabled⟩ db n ts).vm.receiptState
  storage : (blockOf env T ⟨false, opnetEnabled⟩ db n ts).vm.blockState.map MerkleTree.values =
    (blockOf env T ⟨true, opnetEnabled⟩ db n ts).vm.blockState.map MerkleTree.values
  saved : ∀ lastChecksum,
    (updateEvaluatedStates env T lastChecksum
        (blockOf env T ⟨false, opnetEnabled⟩ db n ts).vm).2.database =
      (updateEvaluatedStates env T lastChecksum
        (blockOf env T ⟨true, opnetEnabled⟩ db n ts).vm).2.database
  checksumRoot : ∀ (codec : HexCodec T) previousBlockChecksum header lastChecksum,
    blockChecksumRoot codec previousBlockChecksum header (updateEvaluatedStates env T lastChecksum
        (blockOf env T ⟨false, opnetEnabled⟩ db n ts).vm).1 =
      blockChecksumRoot codec previousBlockChecksum header (updateEvaluatedStates env T lastChecksum
        (blockOf env T ⟨true, opnetEnabled⟩ db n ts).vm).1

section

variable {db : VMStorage} {opnetEnabled : Bool}

theorem executeTransactions_same (hT : T.FindsProofs) (ts : List BlockTransaction) :
    ∀ {b b' : BlockExecution}, SameExecution T db n b b' →
      Meets (fun b t => some (executeTransaction env T ⟨false, opnetEnabled⟩ n t b).2)
        (CheckOk env T opnetEnabled n) b ts →
      (executions env T ⟨false, opnetEnabled⟩ n b ts).map Executed.outcome =
          (executions env T ⟨true, opnetEnabled⟩ n b' ts).map Executed.outcome ∧
        SameExecution T db n (executeTransactions env T ⟨false, opnetEnabled⟩ n ts b).2
          (executeTransactions env T ⟨true, opnetEnabled⟩ n ts b').2 := by
  induction ts with
  | nil => exact fun h _ => ⟨rfl, h⟩
  | cons t ts ih =>
    intro b b' h hmeets
    obtain ⟨houtcome, hres, h₁⟩ := executeTransaction_same hT h hmeets.1
    obtain ⟨houtcomes, h₂⟩ := ih h₁ (hmeets.2 _ rfl)
    constructor
    · rw [executions, executions, List.map_cons, List.map_cons, houtcome, houtcomes]
    · show SameExecution T db n (bindResult _ _).2 (bindResult _ _).2
      rcases hrun : executeTransaction env T ⟨false, opnetEnabled⟩ n t b with ⟨e | _, b₁⟩ <;>
        rcases hrun' : executeTransaction env T ⟨true, opnetEnabled⟩ n t b' with ⟨r, b₁'⟩ <;>
        rw [hrun, hrun'] at hres h₁ h₂
      · obtain rfl : Except.error e = r := hres
        exact h₁
      · obtain rfl : Except.ok () = r := hres
        exact h₂

theorem sameExecution_start (n : Nat) (db : VMStorage) :
    SameExecution T db n (start n db) (start n db) :=
  ⟨.new, .new, .new, ⟨⟨rfl, rfl, rfl, rfl, rfl, fun _ _ _ hget => nomatch hget⟩, synced_new, rfl,
    ⟨rfl, rfl⟩, rfl, rfl⟩, rfl⟩

end

/-- **The storage check changes nothing**, in a block none of whose transactions looks up the only slot
that the block has written. -/
theorem storageCheck_independent (env : VmEnvironment) {T : RustMerkleTree} (hT : T.FindsProofs)
    (opnetEnabled : Bool) (db : VMStorage) (n : Nat) (ts : List BlockTransaction)
    (hmeets : Meets
      (fun b t => some (BlockExecution.executeTransaction env T ⟨false, opnetEnabled⟩ n t b).2)
      (CheckOk env T opnetEnabled n) (start n db) ts) :
    CheckIndependent env T opnetEnabled db n ts := by
  obtain ⟨houtcomes, tree, tree', receipts, hvm, hgas⟩ :=
    executeTransactions_same hT ts (sameExecution_start n db) hmeets
  have hstates (lastChecksum : Option Bytes) := updateEvaluatedStates_same env T
    lastChecksum hvm.inBlock.blockState hvm.unproven.values hvm.synced.unfrozen hvm.unfrozen
  rw [← hvm.other] at hstates
  refine ⟨houtcomes, hgas, ?_, ?_, fun lastChecksum => (hstates lastChecksum).2, ?_⟩
  · exact hvm.inBlock.receiptState.trans hvm.inBlock'.receiptState.symm
  · show (executeTransactions env T ⟨false, opnetEnabled⟩ n ts (start n db)).2.vm.blockState.map _ =
      (executeTransactions env T ⟨true, opnetEnabled⟩ n ts (start n db)).2.vm.blockState.map _
    rw [hvm.inBlock.blockState, hvm.inBlock'.blockState]
    exact congrArg some hvm.unproven.values.symm
  · intro codec previousBlockChecksum header lastChecksum
    exact congrArg (blockChecksumRoot codec previousBlockChecksum header) (hstates lastChecksum).1

/-! ### Runs -/

/-- The multiset tree, with the empty proof for a single leaf. -/
def emptyProofTree : RustMerkleTree :=
  { RustMerkleTree.multisetTree with
    getProof := fun leaves i =>
      if leaves.length = 1 then some [] else RustMerkleTree.multisetTree.getProof leaves i }

theorem findsProofs_emptyProofTree : emptyProofTree.FindsProofs := by
  intro leaves d hlength hroot hd
  obtain ⟨i, π, hindex, hproof, hne⟩ := RustMerkleTree.findsProofs_multisetTree leaves d hlength hroot hd
  have hmany : ¬ leaves.length = 1 := by omega
  exact ⟨i, π, hindex, (if_neg hmany).trans hproof, hne⟩

/-- A slot is written, then another one, then the first one again. -/
theorem storageCheck_independent_overwrites :
    CheckIndependent plainEnvironment emptyProofTree true storedContract 5 overwrites := by
  have hok : ∀ b t, (∀ tree ∈ b.vm.blockState, SparesLoneSlot tree (lookupsSince b.vm
      (evaluate plainEnvironment emptyProofTree ⟨false, true⟩ 5 t b).2.vm)) →
      CheckOk plainEnvironment emptyProofTree true 5 b t :=
    fun b t hspares => ⟨fun tree _ => .inr rfl, hspares⟩
  apply storageCheck_independent plainEnvironment findsProofs_emptyProofTree
  refine ⟨hok _ _ (by decide +kernel), fun b hb => ?_⟩
  obtain rfl := Option.some.inj hb
  refine ⟨hok _ _ (by decide +kernel), fun b hb => ?_⟩
  obtain rfl := Option.some.inj hb
  exact ⟨hok _ _ (by decide +kernel), fun _ _ => trivial⟩

/-- The only slot of a block is written twice: with the storage check the second transaction fails when
the slot is read for its cost. -/
theorem storageCheck_matters :
    ¬ CheckIndependent plainEnvironment emptyProofTree true storedContract 5
      [writeTransaction 1 8 [1], writeTransaction 2 9 [2]] := by
  intro h
  have hslot := congrArg (Option.map fun values : Slots => values.slot [7] 1) h.storage
  revert hslot
  decide +kernel

end OpnetNode
