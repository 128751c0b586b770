import OpnetNode.Vm.Equiv.Block
import OpnetNode.Vm.Equiv.RecordResult

/-!
# What the receipt root binds

A receipt leaf is the transaction id followed by the bytes that are recorded of the transaction, the
result, or the byte 0 for a transaction that reverted, and by zeros up to the length of the buffer.
So the root determines the recorded bytes and the checksum of the previous block up to zeros at their
ends (`sameRecords_of_receiptRoot_eq`), and it determines the outcomes unless two of them differ in
such zeros only, where a revert counts as the byte 0 (`receiptRootBinds_iff`).
-/

namespace OpnetNode

open Proc VMManager

/-- A transaction as it is recorded: with its evaluation, or without one if it failed. -/
structure RecordedTransaction where
  evaluation : Option Locals
  contractAddress : Bytes
  transactionId : Bytes

namespace RecordedTransaction

/-- The bytes that the transaction returned, `none` if it reverted. -/
def outcome (t : RecordedTransaction) : Option Bytes := (savedResult t.evaluation).map Prod.snd

def entry (t : RecordedTransaction) : ReceiptKey × Bytes :=
  (.transaction t.transactionId, recordedBytes t.evaluation)

end RecordedTransaction

/-- One execution of a block, down to the calls of `updateBlockValuesFromResult` that it makes and the
checksum it finds of the previous block.  A transaction for which such a call throws is recorded as
failed. -/
structure BlockReceipts where
  database : VMStorage
  height : Nat
  transactions : List RecordedTransaction
  lastChecksum : Option Bytes
  length_transactionId : ∀ t ∈ transactions, t.transactionId.length = 32
  transactionId_nodup : (transactions.map RecordedTransaction.transactionId).Nodup
  /-- No transaction id is one of the two reserved keys. -/
  unreserved : ∀ t ∈ transactions, t.transactionId ≠ ReceiptKey.fromHex .MAX_HASH ∧
    t.transactionId ≠ ReceiptKey.fromHex .MAX_MINUS_ONE
  changedStorage : ∀ t ∈ transactions, ∀ result, savedResult t.evaluation ≠ some (none, result)
  length_checksum : ∀ checksum ∈ lastChecksum, checksum.length = 32

namespace BlockReceipts

variable (env : VmEnvironment) (T : RustMerkleTree)

/-- Record the transactions of the block, then freeze the receipt tree. -/
def record (x : BlockReceipts) : VmM Unit := do
  Proc.forEach
    (fun t => updateBlockValuesFromResult T t.evaluation t.contractAddress t.transactionId true)
    x.transactions
  updateReceiptState env T x.lastChecksum

/-- The root of the receipt tree after a procedure, if it did not throw. -/
def rootOf : Except VmError Unit × VMManager → Option T.Hash
  | (.ok _, vm) => vm.receiptState.bind (MerkleKind.root T)
  | (.error _, _) => none

def receiptRoot (x : BlockReceipts) : Option T.Hash :=
  rootOf T (x.record env T ((VMManager.create false x.database).prepareBlock x.height))

/-- The entries of the receipt tree, the last one first. -/
def entries (x : BlockReceipts) : List (ReceiptKey × Bytes) :=
  (.MAX_MINUS_ONE, [1]) :: (.MAX_HASH, x.lastChecksum.getD []) ::
    (x.transactions.map RecordedTransaction.entry).reverse

end BlockReceipts

/-! ### The leaves of a block -/

section

variable {env : VmEnvironment} {T : RustMerkleTree}

theorem records_forEach (ts : List RecordedTransaction) :
    ∀ {vm : VMManager} {tree : MerkleTree U256 U256} {receipts : MerkleTree ReceiptKey Bytes}
      {entries : List (ReceiptKey × Bytes)},
      vm.isExecutor = false → vm.blockState = some tree → vm.receiptState = some receipts →
      Records receipts entries →
      (∀ t ∈ ts, t.transactionId ≠ []) → (ts.map RecordedTransaction.transactionId).Nodup →
      (∀ t ∈ ts, ReceiptKey.transaction t.transactionId ∉ entries.map Prod.fst) →
      (∀ t ∈ ts, ∀ result, savedResult t.evaluation ≠ some (none, result)) →
      ∃ vm' receipts', Proc.forEach (fun t => updateBlockValuesFromResult T t.evaluation
          t.contractAddress t.transactionId true) ts vm = (.ok (), vm') ∧
        vm'.receiptState = some receipts' ∧
        Records receipts' ((ts.map RecordedTransaction.entry).reverse ++ entries) := by
  induction ts with
  | nil =>
    intro vm tree receipts entries _ _ hreceipts hrecords _ _ _ _
    exact ⟨vm, receipts, rfl, hreceipts, hrecords⟩
  | cons t ts ih =>
    intro vm tree receipts entries hexecutor hstate hreceipts hrecords hids hnodup hfresh hstorage
    rw [List.map_cons, List.nodup_cons] at hnodup
    obtain ⟨receipts', hupdate, hrecords'⟩ := hrecords.updateValue t.contractAddress
      (recordedBytes t.evaluation) (hfresh t List.mem_cons_self)
    have hrecord := recordResult_eq hstate hreceipts (hstorage t List.mem_cons_self) hupdate
    have hcall : updateBlockValuesFromResult T t.evaluation t.contractAddress t.transactionId true
        vm = (.ok (), { vm with
          blockState := some (updateStorage (savedSlots t.evaluation) tree)
          receiptState := some receipts' }) := by
      rw [updateBlockValuesFromResult_eq hexecutor hstate hreceipts _ _ (hids t List.mem_cons_self),
        hrecord]
      rfl
    -- the ids of the transactions are different, so that the rest is still new
    have hfresh' : ∀ t' ∈ ts,
        ReceiptKey.transaction t'.transactionId ∉ (t.entry :: entries).map Prod.fst := by
      intro t' ht' hmem
      rcases List.mem_cons.mp hmem with heq | hold
      · have hid : t'.transactionId = t.transactionId := ReceiptKey.transaction.inj heq
        exact hnodup.1 (hid ▸ List.mem_map_of_mem ht')
      · exact hfresh t' (List.mem_cons_of_mem _ ht') hold
    have hexecutor' : ({ vm with
        blockState := some (updateStorage (savedSlots t.evaluation) tree)
        receiptState := some receipts' } : VMManager).isExecutor = false := hexecutor
    obtain ⟨vm', receipts'', hrest, hreceipts'', hrecords''⟩ := ih hexecutor' rfl rfl hrecords'
      (fun t' ht' => hids t' (List.mem_cons_of_mem _ ht')) hnodup.2
      hfresh' (fun t' ht' => hstorage t' (List.mem_cons_of_mem _ ht'))
    refine ⟨vm', receipts'', ?_, hreceipts'', ?_⟩
    · refine (bind_of_ok hcall).trans ?_
      rw [hrest]
    · rw [List.map_cons, List.reverse_cons, List.append_assoc]
      exact hrecords''

variable (env T) in
/-- `updateReceiptState` adds the two reserved entries and freezes the tree. -/
theorem updateReceiptState_eq {vm : VMManager} {receipts : MerkleTree ReceiptKey Bytes}
    {entries : List (ReceiptKey × Bytes)} (hreceipts : vm.receiptState = some receipts)
    (hrecords : Records receipts entries)
    (hkeys : ∀ e ∈ entries, ∃ id, e.1 = ReceiptKey.transaction id) {lastChecksum : Option Bytes}
    (hchecksum : ∀ checksum ∈ lastChecksum, checksum.length = 32) :
    ∃ leaves, leaves.Perm (((.MAX_MINUS_ONE, [1]) :: (.MAX_HASH, lastChecksum.getD []) ::
        entries).map receiptLeaf) ∧
      BlockReceipts.rootOf T (updateReceiptState env T lastChecksum vm) = T.root leaves := by
  -- the two reserved keys are not those of transactions, so that both entries are new
  have hhash : ReceiptKey.MAX_HASH ∉ entries.map Prod.fst := by
    intro hmem
    obtain ⟨e, he, hkey⟩ := List.mem_map.mp hmem
    obtain ⟨id, hid⟩ := hkeys e he
    cases hkey.symm.trans hid
  obtain ⟨receipts₁, hupdate₁, hrecords₁⟩ :=
    hrecords.updateValue env.dead (lastChecksum.getD []) hhash
  have hminus : ReceiptKey.MAX_MINUS_ONE ∉
      ((ReceiptKey.MAX_HASH, lastChecksum.getD []) :: entries).map Prod.fst := by
    intro hmem
    obtain ⟨e, he, hkey⟩ := List.mem_map.mp hmem
    rcases List.mem_cons.mp he with rfl | hold
    · cases hkey
    · obtain ⟨id, hid⟩ := hkeys e hold
      cases hkey.symm.trans hid
  obtain ⟨receipts₂, hupdate₂, hrecords₂⟩ := hrecords₁.updateValue env.dead [1] hminus
  obtain ⟨leaves, hperm, hfreeze⟩ := hrecords₂.freeze T env.dead (by simp)
  refine ⟨leaves, hperm, ?_⟩
  have hvalid : ¬ (lastChecksum.any fun checksum => checksum.length ≠ 32) = true := by
    intro hany
    obtain ⟨checksum, hmem, hlength⟩ := (Option.any_eq_true _ _).mp hany
    exact of_decide_eq_true hlength (hchecksum checksum hmem)
  have hrun : updateReceiptState env T lastChecksum vm =
      onReceiptState (receiptKind.freeze T env.dead) { vm with receiptState := some receipts₂ } := by
    show bindResult _ _ = _
    rw [throwIf, if_neg hvalid]
    refine (bind_of_ok (onReceiptState_of_ok hreceipts hupdate₁)).trans ?_
    exact bind_of_ok (onReceiptState_of_ok rfl hupdate₂)
  rw [hrun]
  by_cases hroot : (T.root leaves).isNone = true
  · rw [if_pos hroot] at hfreeze
    rw [onReceiptState_of_error rfl hfreeze]
    exact (Option.isNone_iff_eq_none.mp hroot).symm
  · rw [if_neg hroot] at hfreeze
    rw [onReceiptState_of_ok rfl hfreeze]
    rfl

theorem receiptRoot_eq (env : VmEnvironment) (T : RustMerkleTree) (x : BlockReceipts) :
    ∃ leaves, leaves.Perm (x.entries.map receiptLeaf) ∧ x.receiptRoot env T = T.root leaves := by
  have hids : ∀ t ∈ x.transactions, t.transactionId ≠ [] := by
    intro t ht hnil
    have hlength := x.length_transactionId t ht
    rw [hnil] at hlength
    cases hlength
  obtain ⟨hexecutor, hstate, hreceiptState⟩ :
      ((VMManager.create false x.database).prepareBlock x.height).isExecutor = false ∧
      ((VMManager.create false x.database).prepareBlock x.height).blockState = some .new ∧
      ((VMManager.create false x.database).prepareBlock x.height).receiptState = some .new :=
    ⟨rfl, rfl, rfl⟩
  obtain ⟨vm, receipts, hrun, hreceipts, hrecords⟩ := records_forEach (T := T) x.transactions
    hexecutor hstate hreceiptState Records.new hids x.transactionId_nodup
    (fun _ _ => List.not_mem_nil) x.changedStorage
  rw [List.append_nil] at hrecords
  have hkeys : ∀ e ∈ (x.transactions.map RecordedTransaction.entry).reverse,
      ∃ id, e.1 = ReceiptKey.transaction id := by
    intro e he
    obtain ⟨t, -, rfl⟩ := List.mem_map.mp (List.mem_reverse.mp he)
    exact ⟨t.transactionId, rfl⟩
  obtain ⟨leaves, hperm, hroot⟩ := updateReceiptState_eq env T hreceipts hrecords hkeys
    x.length_checksum
  refine ⟨leaves, hperm, ?_⟩
  rw [← hroot]
  show BlockReceipts.rootOf T (bindResult _ _) = _
  rw [hrun, bindResult_ok]

end

/-! ### Binding -/

def SameTransactions (x y : BlockReceipts) : Prop :=
  (x.transactions.map RecordedTransaction.transactionId).Perm
    (y.transactions.map RecordedTransaction.transactionId)

/-- Whenever the receipt roots are the same, every transaction has the same outcome in both
executions. -/
def ReceiptRootBinds (env : VmEnvironment) (x y : BlockReceipts) : Prop :=
  ∀ T : RustMerkleTree, T.RootDeterminesLeaves → ∀ r,
    x.receiptRoot env T = some r → y.receiptRoot env T = some r →
    ∀ t ∈ x.transactions, ∀ t' ∈ y.transactions, t.transactionId = t'.transactionId →
      t.outcome = t'.outcome

/-- The executions follow the same checksum and record the same bytes of every transaction, as far as
they are told apart in the buffer of a leaf. -/
structure SameRecords (x y : BlockReceipts) : Prop where
  lastChecksum : WrittenAlike (x.lastChecksum.getD []) (y.lastChecksum.getD [])
  recorded : ∀ t ∈ x.transactions, ∀ t' ∈ y.transactions, t.transactionId = t'.transactionId →
    WrittenAlike (recordedBytes t.evaluation) (recordedBytes t'.evaluation)

/-- Two outcomes differ, and have at most 32 bytes that are the same up to zeros at their ends, a
revert being the byte 0. -/
def Confused (o o' : Option Bytes) : Prop :=
  o ≠ o' ∧ (o.getD revertMarker).length ≤ 32 ∧ (o'.getD revertMarker).length ≤ 32 ∧
    o.getD revertMarker ++ List.replicate (32 - (o.getD revertMarker).length) 0 =
      o'.getD revertMarker ++ List.replicate (32 - (o'.getD revertMarker).length) 0

variable {t : RecordedTransaction}

theorem RecordedTransaction.recordedBytes_eq
    (h : ∀ result, savedResult t.evaluation ≠ some (none, result)) :
    recordedBytes t.evaluation = t.outcome.getD revertMarker := by
  unfold recordedBytes outcome
  rcases hsaved : savedResult t.evaluation with _ | ⟨_ | s, result⟩
  · rfl
  · exact absurd hsaved (h result)
  · rfl

/-- What is written alike are the same outcomes and confused ones: a revert is no result of more than
32 bytes. -/
theorem eq_or_confused {o o' : Option Bytes}
    (h : WrittenAlike (o.getD revertMarker) (o'.getD revertMarker)) : o = o' ∨ Confused o o' := by
  by_cases hsame : o = o'
  · exact .inl hsame
  right
  rcases h with heq | hpadded
  · refine ⟨hsame, ?_⟩
    -- different outcomes of the same bytes are the revert and its marker
    have hshort : (o.getD revertMarker).length ≤ 32 := by
      cases o with
      | none => decide
      | some result =>
        cases o' with
        | none =>
          rw [heq]
          decide
        | some result' => exact absurd (congrArg some heq) hsame
    rw [← heq]
    exact ⟨hshort, hshort, rfl⟩
  · exact ⟨hsame, hpadded⟩

theorem length_fromHex (x : BlockReceipts) {e : ReceiptKey × Bytes} (he : e ∈ x.entries) :
    e.1.fromHex.length = 32 := by
  rcases List.mem_cons.mp he with rfl | he
  · rfl
  rcases List.mem_cons.mp he with rfl | he
  · rfl
  obtain ⟨t, ht, rfl⟩ := List.mem_map.mp (List.mem_reverse.mp he)
  exact x.length_transactionId t ht

variable {x y : BlockReceipts}

theorem exists_entry_of_leaf (h : (x.entries.map receiptLeaf).Perm (y.entries.map receiptLeaf))
    {e : ReceiptKey × Bytes} (he : e ∈ x.entries) :
    ∃ e' ∈ y.entries, e.1.fromHex = e'.1.fromHex ∧ WrittenAlike e.2 e'.2 := by
  obtain ⟨e', he', hleaf⟩ := List.mem_map.mp (h.subset (List.mem_map_of_mem he))
  exact ⟨e', he', (receiptLeaf_eq_iff (length_fromHex x he) (length_fromHex y he')).mp hleaf.symm⟩

theorem mem_entries_of_mem (ht : t ∈ x.transactions) : t.entry ∈ x.entries :=
  List.mem_cons_of_mem _ (List.mem_cons_of_mem _
    (List.mem_reverse.mpr (List.mem_map_of_mem ht)))

theorem sameRecords_of_perm
    (h : (x.entries.map receiptLeaf).Perm (y.entries.map receiptLeaf)) : SameRecords x y := by
  constructor
  · have hmem : (ReceiptKey.MAX_HASH, x.lastChecksum.getD []) ∈ x.entries :=
      List.mem_cons_of_mem _ List.mem_cons_self
    obtain ⟨e', he', hkey, hvalue⟩ := exists_entry_of_leaf h hmem
    -- the leaf of the checksum has a key that no transaction and no other entry has
    rcases List.mem_cons.mp he' with rfl | he'
    · have hne : ReceiptKey.fromHex .MAX_HASH ≠ ReceiptKey.fromHex .MAX_MINUS_ONE := by decide
      exact absurd hkey hne
    rcases List.mem_cons.mp he' with rfl | he'
    · exact hvalue
    obtain ⟨t, ht, rfl⟩ := List.mem_map.mp (List.mem_reverse.mp he')
    exact absurd hkey.symm (y.unreserved t ht).1
  · intro t ht t' ht' hid
    obtain ⟨e', he', hkey, hvalue⟩ := exists_entry_of_leaf h (mem_entries_of_mem ht)
    have hunreserved := x.unreserved t ht
    rcases List.mem_cons.mp he' with rfl | he'
    · exact absurd hkey hunreserved.2
    rcases List.mem_cons.mp he' with rfl | he'
    · exact absurd hkey hunreserved.1
    obtain ⟨t'', ht'', rfl⟩ := List.mem_map.mp (List.mem_reverse.mp he')
    have hsame : t''.transactionId = t'.transactionId := Eq.trans hkey.symm hid
    obtain rfl := List.inj_on_of_nodup_map y.transactionId_nodup ht'' ht' hsame
    exact hvalue

theorem map_perm_map_of_keys {α κ β : Type} {key : α → κ} {f : α → β} {l l' : List α}
    (hkeys : (l.map key).Perm (l'.map key))
    (hsame : ∀ a ∈ l, ∀ b ∈ l', key a = key b → f a = f b) : (l.map f).Perm (l'.map f) := by
  induction l generalizing l' with
  | nil =>
    have hnil : l' = [] := List.map_eq_nil_iff.mp (List.perm_nil.mp hkeys.symm)
    rw [hnil]
  | cons a l ih =>
    obtain ⟨b, hb, hkey⟩ := List.mem_map.mp (hkeys.subset List.mem_cons_self)
    obtain ⟨s, t, rfl⟩ := List.append_of_mem hb
    have hmiddle : (s ++ b :: t).Perm (b :: (s ++ t)) := List.perm_middle
    have hrest : (l.map key).Perm ((s ++ t).map key) := by
      have hcons := hkeys.trans (hmiddle.map key)
      rw [List.map_cons, List.map_cons, hkey] at hcons
      exact hcons.cons_inv
    refine List.Perm.trans ?_ (hmiddle.symm.map f)
    rw [List.map_cons, List.map_cons, hsame a List.mem_cons_self b hb hkey.symm]
    refine (ih hrest fun c hc d hd => hsame c (List.mem_cons_of_mem _ hc) d ?_).cons _
    exact hmiddle.symm.subset (List.mem_cons_of_mem _ hd)

theorem perm_of_sameRecords (htransactions : SameTransactions x y)
    (h : SameRecords x y) : (x.entries.map receiptLeaf).Perm (y.entries.map receiptLeaf) := by
  have hchecksum : receiptLeaf (.MAX_HASH, x.lastChecksum.getD []) =
      receiptLeaf (.MAX_HASH, y.lastChecksum.getD []) :=
    (receiptLeaf_eq_iff rfl rfl).mpr ⟨rfl, h.lastChecksum⟩
  have htransactionLeaves : (x.transactions.map (receiptLeaf ∘ RecordedTransaction.entry)).Perm
      (y.transactions.map (receiptLeaf ∘ RecordedTransaction.entry)) := by
    refine map_perm_map_of_keys htransactions fun t ht t' ht' hid => ?_
    have hlength : t.entry.1.fromHex.length = 32 := x.length_transactionId t ht
    have hlength' : t'.entry.1.fromHex.length = 32 := y.length_transactionId t' ht'
    exact (receiptLeaf_eq_iff hlength hlength').mpr ⟨hid, h.recorded t ht t' ht' hid⟩
  unfold BlockReceipts.entries
  rw [List.map_cons, List.map_cons, List.map_cons, List.map_cons, hchecksum, List.map_reverse,
    List.map_reverse, List.map_map, List.map_map]
  refine List.Perm.cons _ (List.Perm.cons _ ?_)
  exact (List.reverse_perm _).trans
    (htransactionLeaves.trans (List.reverse_perm _).symm)

theorem sameRecords_of_receiptRoot_eq {env : VmEnvironment} {T : RustMerkleTree}
    (hT : T.RootDeterminesLeaves) {r : T.Hash}
    (hx : x.receiptRoot env T = some r) (hy : y.receiptRoot env T = some r) : SameRecords x y := by
  obtain ⟨leaves, hperm, hroot⟩ := receiptRoot_eq env T x
  obtain ⟨leaves', hperm', hroot'⟩ := receiptRoot_eq env T y
  have hleaves := hT leaves leaves' r (hroot.symm.trans hx) (hroot'.symm.trans hy)
  exact sameRecords_of_perm (hperm.symm.trans (hleaves.trans hperm'))

/-- Executions with the same records have the same root, so confused outcomes are not told apart. -/
theorem not_receiptRootBinds (env : VmEnvironment)
    (htransactions : SameTransactions x y) (hrecords : SameRecords x y) {t' : RecordedTransaction}
    (ht : t ∈ x.transactions) (ht' : t' ∈ y.transactions)
    (hid : t.transactionId = t'.transactionId) (hconfused : Confused t.outcome t'.outcome) :
    ¬ ReceiptRootBinds env x y := by
  intro hbinds
  obtain ⟨leaves, hperm, hroot⟩ := receiptRoot_eq env RustMerkleTree.multisetTree x
  obtain ⟨leaves', hperm', hroot'⟩ := receiptRoot_eq env RustMerkleTree.multisetTree y
  have hleaves : leaves.Perm leaves' :=
    hperm.trans ((perm_of_sameRecords htransactions hrecords).trans hperm'.symm)
  rw [RustMerkleTree.root_multisetTree_of_perm hleaves] at hroot
  exact hconfused.1 (hbinds _ RustMerkleTree.rootDeterminesLeaves_multisetTree _ hroot hroot' t ht
    t' ht' hid)

/-- **What the receipt root binds.** For two executions of the same transactions, the root binds the
outcomes exactly if the executions record different bytes somewhere, or no transaction has confused
outcomes in them. -/
theorem receiptRootBinds_iff (env : VmEnvironment) {x y : BlockReceipts}
    (htransactions : SameTransactions x y) :
    ReceiptRootBinds env x y ↔
      ¬ SameRecords x y ∨
        ∀ t ∈ x.transactions, ∀ t' ∈ y.transactions, t.transactionId = t'.transactionId →
          ¬ Confused t.outcome t'.outcome := by
  constructor
  · intro hbinds
    by_cases hrecords : SameRecords x y
    · right
      intro t ht t' ht' hid hconfused
      exact not_receiptRootBinds env htransactions hrecords ht ht' hid hconfused hbinds
    · exact .inl hrecords
  · intro h T hT r hx hy t ht t' ht' hid
    have hrecords := sameRecords_of_receiptRoot_eq hT hx hy
    have hnot := h.resolve_left (not_not_intro hrecords) t ht t' ht' hid
    have hbytes := hrecords.recorded t ht t' ht' hid
    rw [RecordedTransaction.recordedBytes_eq (x.changedStorage t ht),
      RecordedTransaction.recordedBytes_eq (y.changedStorage t' ht')] at hbytes
    exact (eq_or_confused hbytes).resolve_right hnot

/-! ### Runs -/

/-- The evaluation of a transaction that writes a slot and returns `result`. -/
def returned (result : Bytes) : Option Locals :=
  (runTransaction plainEnvironment RustMerkleTree.multisetTree 5 (writeTransaction 1 9 result).tx
    deployedBefore).1.toOption

def singleTransaction (evaluation : Option Locals) : RecordedTransaction :=
  ⟨evaluation, [7], List.replicate 32 1⟩

/-- A block of one transaction. -/
def singleReceipt (evaluation : Option Locals)
    (h : ((savedResult evaluation).all fun r => r.1.isSome) = true) : BlockReceipts where
  database := storedContract
  height := 5
  transactions := [singleTransaction evaluation]
  lastChecksum := none
  length_transactionId := by simp [singleTransaction]
  transactionId_nodup := List.nodup_singleton _
  unreserved := by
    intro t ht
    obtain rfl := List.mem_singleton.mp ht
    have hid : (List.replicate 32 1 : Bytes) ≠ ReceiptKey.fromHex .MAX_HASH ∧
        (List.replicate 32 1 : Bytes) ≠ ReceiptKey.fromHex .MAX_MINUS_ONE := by decide
    exact hid
  changedStorage := by
    intro t ht result hsaved
    obtain rfl := List.mem_singleton.mp ht
    rw [show savedResult evaluation = some (none, result) from hsaved] at h
    cases h
  length_checksum := by simp

variable {evaluation : Option Locals}

theorem mem_singleReceipt (h : ((savedResult evaluation).all fun r => r.1.isSome) = true) :
    t ∈ (singleReceipt evaluation h).transactions ↔ t = singleTransaction evaluation :=
  List.mem_singleton

theorem sameTransactions_singleReceipt {evaluation' : Option Locals}
    (h : ((savedResult evaluation).all fun r => r.1.isSome) = true)
    (h' : ((savedResult evaluation').all fun r => r.1.isSome) = true) :
    SameTransactions (singleReceipt evaluation h) (singleReceipt evaluation' h') :=
  List.Perm.refl _

/-- The results 1 and 2 of a transaction have different roots. -/
theorem receiptRootBinds_one_two :
    ReceiptRootBinds plainEnvironment (singleReceipt (returned [1]) (by decide +kernel))
      (singleReceipt (returned [2]) (by decide +kernel)) := by
  refine (receiptRootBinds_iff plainEnvironment (sameTransactions_singleReceipt _ _)).mpr (.inl fun h => ?_)
  have hid (evaluation : Option Locals) :
      (singleTransaction evaluation).transactionId = List.replicate 32 1 := rfl
  have hbytes := h.recorded (singleTransaction (returned [1])) ((mem_singleReceipt _).mpr rfl)
    (singleTransaction (returned [2])) ((mem_singleReceipt _).mpr rfl) ((hid _).trans (hid _).symm)
  have hne : ¬ WrittenAlike (recordedBytes (returned [1])) (recordedBytes (returned [2])) := by
    unfold WrittenAlike
    decide +kernel
  exact hne hbytes

theorem not_receiptRootBinds_single {evaluation' : Option Locals}
    (h : ((savedResult evaluation).all fun r => r.1.isSome) = true)
    (h' : ((savedResult evaluation').all fun r => r.1.isSome) = true)
    (halike : WrittenAlike (recordedBytes evaluation) (recordedBytes evaluation'))
    (hne : (singleTransaction evaluation).outcome ≠ (singleTransaction evaluation').outcome) :
    ¬ ReceiptRootBinds plainEnvironment (singleReceipt evaluation h)
      (singleReceipt evaluation' h') := by
  have houtcomes : WrittenAlike ((singleTransaction evaluation).outcome.getD revertMarker)
      ((singleTransaction evaluation').outcome.getD revertMarker) := by
    rw [← RecordedTransaction.recordedBytes_eq ((singleReceipt evaluation h).changedStorage _
        ((mem_singleReceipt _).mpr rfl)),
      ← RecordedTransaction.recordedBytes_eq ((singleReceipt evaluation' h').changedStorage _
        ((mem_singleReceipt _).mpr rfl))]
    exact halike
  refine not_receiptRootBinds plainEnvironment (sameTransactions_singleReceipt h h')
    ⟨.inl rfl, ?_⟩ ((mem_singleReceipt _).mpr rfl) ((mem_singleReceipt _).mpr rfl) rfl
    ((eq_or_confused houtcomes).resolve_left hne)
  intro t ht t' ht' _
  rw [(mem_singleReceipt _).mp ht, (mem_singleReceipt _).mp ht']
  exact halike

/-- A transaction that reverts has the same root as one that returns nothing, and the result 1 as the
result 1 with a zero behind it. -/
theorem receiptRoot_confuses_revert :
    (¬ ReceiptRootBinds plainEnvironment (singleReceipt none rfl)
        (singleReceipt (returned []) (by decide +kernel))) ∧
      ¬ ReceiptRootBinds plainEnvironment (singleReceipt (returned [1]) (by decide +kernel))
        (singleReceipt (returned [1, 0]) (by decide +kernel)) := by
  constructor
  · refine not_receiptRootBinds_single _ _ ?_ (by decide +kernel)
    unfold WrittenAlike
    decide +kernel
  · refine not_receiptRootBinds_single _ _ ?_ (by decide +kernel)
    unfold WrittenAlike
    decide +kernel

end OpnetNode
