import OpnetNode.Merkle.Equiv.MerkleTree
import OpnetNode.Merkle.Equiv.StateMerkleTree
import OpnetNode.Transition
import OpnetNode.Vm.Block

/-!
# What a block saves

* `getStorage_setStoragePointers`: after the slots of a block are saved, a slot of the block reads
  as the block has it and every other slot as before.
* `database_updateEvaluatedStates`: the end of a block saves the slots of its padded storage tree.
-/

namespace OpnetNode

open Proc VMManager

namespace VMStorage

/-! ### Upserts -/

variable {doc : PointerDocument}

variable {docs : List PointerDocument}

theorem mem_of_latestDocument (h : latestDocument docs = some doc) : doc ∈ docs := by
  induction docs with
  | nil => cases h
  | cons d docs ih =>
    unfold latestDocument at h
    cases hlatest : latestDocument docs with
    | none =>
      rw [hlatest] at h
      cases h
      exact List.mem_cons_self
    | some latest =>
      rw [hlatest] at h
      dsimp only at h
      split_ifs at h
      · cases h
        exact List.mem_cons_self
      · exact List.mem_cons_of_mem _ (ih (hlatest.trans h))

def documentsUpTo (a : Bytes) (p : U256) (n : Nat) (docs : List PointerDocument) :
    List PointerDocument :=
  docs.filter fun doc => doc.contractAddress = a ∧ doc.pointer = p ∧ doc.lastSeenAt < n + 1

theorem getStorage_eq (db : VMStorage) (a : Bytes) (p : U256) (n : Nat) :
    db.getStorage a p (n + 1) =
      (latestDocument (documentsUpTo a p n db.pointers)).map PointerDocument.value := rfl

variable {a : Bytes} {p : U256} {n : Nat}

theorem documentsUpTo_cons_of_pos (docs : List PointerDocument)
    (h : doc.contractAddress = a ∧ doc.pointer = p ∧ doc.lastSeenAt < n + 1) :
    documentsUpTo a p n (doc :: docs) = doc :: documentsUpTo a p n docs :=
  List.filter_cons_of_pos (by simpa using h)

theorem documentsUpTo_cons_of_neg (docs : List PointerDocument)
    (h : ¬ (doc.contractAddress = a ∧ doc.pointer = p ∧ doc.lastSeenAt < n + 1)) :
    documentsUpTo a p n (doc :: docs) = documentsUpTo a p n docs :=
  List.filter_cons_of_neg (by simpa using h)

/-- A document of height `n` that is first in the list is the latest one up to `n`. -/
theorem latestDocument_cons (h : ∀ d ∈ docs, d.lastSeenAt ≤ doc.lastSeenAt) :
    latestDocument (doc :: docs) = some doc := by
  unfold latestDocument
  cases hlatest : latestDocument docs with
  | none => rfl
  | some latest => exact if_pos (h latest (mem_of_latestDocument hlatest))

theorem latestDocument_upsertPointer (doc : PointerDocument) (docs : List PointerDocument) :
    latestDocument (documentsUpTo doc.contractAddress doc.pointer doc.lastSeenAt
      (upsertPointer doc docs)) = some doc := by
  have hself : doc.contractAddress = doc.contractAddress ∧ doc.pointer = doc.pointer ∧
      doc.lastSeenAt < doc.lastSeenAt + 1 := ⟨rfl, rfl, Nat.lt_succ_self _⟩
  induction docs with
  | nil =>
    show latestDocument (documentsUpTo _ _ _ [doc]) = _
    rw [documentsUpTo_cons_of_pos _ hself]
    rfl
  | cons d docs ih =>
    unfold upsertPointer
    split_ifs with hsame
    · -- The replaced document was of the same height, and nothing later is read.
      rw [documentsUpTo_cons_of_pos _ hself]
      apply latestDocument_cons
      intro d' hd'
      have hlt := (List.mem_filter.mp hd').2
      simp only [decide_eq_true_eq] at hlt
      omega
    · by_cases hread : d.contractAddress = doc.contractAddress ∧ d.pointer = doc.pointer ∧
          d.lastSeenAt < doc.lastSeenAt + 1
      · have hne : d.lastSeenAt ≠ doc.lastSeenAt := fun heq => hsame ⟨hread.1, hread.2.1, heq⟩
        rw [documentsUpTo_cons_of_pos _ hread, latestDocument, ih]
        exact if_neg (by omega)
      · rw [documentsUpTo_cons_of_neg _ hread, ih]

theorem documentsUpTo_upsertPointer
    (docs : List PointerDocument) (h : ¬ (a = doc.contractAddress ∧ p = doc.pointer)) :
    documentsUpTo a p n (upsertPointer doc docs) = documentsUpTo a p n docs := by
  have hskip : ¬ (doc.contractAddress = a ∧ doc.pointer = p ∧ doc.lastSeenAt < n + 1) :=
    fun hdoc => h ⟨hdoc.1.symm, hdoc.2.1.symm⟩
  induction docs with
  | nil => exact documentsUpTo_cons_of_neg [] hskip
  | cons d docs ih =>
    unfold upsertPointer
    split_ifs with hsame
    · have hskip' : ¬ (d.contractAddress = a ∧ d.pointer = p ∧ d.lastSeenAt < n + 1) := by
        rw [hsame.1, hsame.2.1, hsame.2.2]
        exact hskip
      rw [documentsUpTo_cons_of_neg _ hskip, documentsUpTo_cons_of_neg _ hskip']
    · unfold documentsUpTo at ih ⊢
      rw [List.filter_cons, List.filter_cons, ih]

/-- What a list of documents has for a slot up to a height. -/
def readUpTo (n : Nat) (docs : List PointerDocument) (a : Bytes) (p : U256) : Option U256 :=
  (latestDocument (documentsUpTo a p n docs)).map PointerDocument.value

theorem readUpTo_upsertPointer (n : Nat) (docs : List PointerDocument) (a a' : Bytes)
    (p p' v : U256) :
    readUpTo n (upsertPointer ⟨a, p, v, n⟩ docs) a' p' =
      if a' = a ∧ p' = p then some v else readUpTo n docs a' p' := by
  unfold readUpTo
  split_ifs with h
  · rw [h.1, h.2, latestDocument_upsertPointer ⟨a, p, v, n⟩ docs]
    rfl
  · rw [documentsUpTo_upsertPointer docs h]

/-! ### Saving the slots of a tree -/

def withoutAddress (dead : Bytes) (values : Slots) : Slots :=
  ⟨values.entries.filter fun entry => entry.1 ≠ dead,
    values.keys_nodup.sublist (List.filter_sublist.map _)⟩

theorem slot_withoutAddress (dead : Bytes) (values : Slots) (a : Bytes) (p : U256) :
    (withoutAddress dead values).slot a p = if a = dead then none else values.slot a p := by
  have hget : JsMap.get (withoutAddress dead values) a =
      if a = dead then none else values.get a := by
    show JsMap.getEntries a (values.entries.filter fun entry => entry.1 ≠ dead) =
      if a = dead then none else JsMap.getEntries a values.entries
    induction values.entries with
    | nil => simp [JsMap.getEntries]
    | cons e entries ih =>
      by_cases he : e.1 = dead
      · rw [List.filter_cons_of_neg (by simpa using he), ih, JsMap.getEntries]
        by_cases ha : a = dead
        · simp [ha]
        · simp [ha, he, Ne.symm ha]
      · rw [List.filter_cons_of_pos (by simpa using he), JsMap.getEntries, ih, JsMap.getEntries]
        by_cases ha : e.1 = a
        · simp [ha, ha ▸ he]
        · simp [ha]
  unfold TreeValues.slot
  rw [hget]
  split_ifs <;> rfl

theorem getStorage_setStoragePointers (dead : Bytes) (values : Slots) (n : Nat) (db : VMStorage)
    (a : Bytes) (p : U256) :
    (db.setStoragePointers dead values n).getStorage a p (n + 1) =
      (if a = dead then none else values.slot a p).or (db.getStorage a p (n + 1)) := by
  rw [← slot_withoutAddress, getStorage_eq, getStorage_eq]
  show readUpTo n ((pointerDocuments dead values n).foldl _ db.pointers) a p = _
  unfold pointerDocuments
  rw [List.foldl_flatMap]
  -- One address after the other, and within an address one slot after the other.
  apply TreeValues.slot_foldl (readUpTo n) _ (withoutAddress dead values)
  intro docs e a' p'
  rw [List.foldl_map]
  split_ifs with ha
  · subst ha
    refine JsMap.read_foldl (fun docs p => readUpTo n docs e.1 p) (fun docs slot p' => ?_)
      e.2.entries e.2.keys_nodup docs p'
    simpa using readUpTo_upsertPointer n docs e.1 e.1 slot.1 p' slot.2
  · generalize e.2.entries = slots
    induction slots generalizing docs with
    | nil => rfl
    | cons slot slots ih =>
      rw [List.foldl_cons, ih, readUpTo_upsertPointer, if_neg fun h => ha h.1]

end VMStorage

/-! ### The end of a block -/

variable {K V : Type} {dead : Bytes}

theorem slot_pad [DecidableEq K] (kind : MerkleKind K V) {a : Bytes}
    (h : a ≠ dead) (values : TreeValues K V) (k : K) :
    (kind.pad dead values).slot a k = values.slot a k := by
  have hset : ∀ map : JsMap K V, TreeValues.slot (values.set dead map) a k = values.slot a k := by
    intro map
    unfold TreeValues.slot
    rw [JsMap.get_set_of_ne _ _ h]
  unfold MerkleKind.pad
  split
  · split
    · exact hset _
    · exact hset _
  · rfl

variable {T : RustMerkleTree}

theorem freeze_eq_ok [DecidableEq K] {kind : MerkleKind K V}
    {tree tree' : MerkleTree K V} (h : kind.freeze T dead tree = .ok tree') :
    tree'.values = kind.pad dead tree.values ∧ tree'.tree.isSome := by
  unfold MerkleKind.freeze at h
  obtain ⟨tree₁, hgenerate, hpure⟩ := exceptBind_eq_ok h
  cases hpure
  unfold MerkleKind.generateTree at hgenerate
  split_ifs at hgenerate with hfrozen hsize hroot
  · exact absurd hsize (size_pad_ne_zero kind dead tree.values)
  · cases hgenerate
    exact ⟨rfl, rfl⟩

def OtherReceipts (vm vm' : VMManager) : Prop := ∃ receipts, vm' = { vm with receiptState := receipts }

theorem keeps_onReceiptState (vm : VMManager)
    (f : MerkleTree ReceiptKey Bytes → Except MerkleError (MerkleTree ReceiptKey Bytes)) :
    Keeps (OtherReceipts vm) (onReceiptState f) := by
  rintro _ ⟨receipts, rfl⟩
  cases receipts with
  | none => exact ⟨none, rfl⟩
  | some tree =>
    cases hf : f tree with
    | ok tree' =>
      rw [onReceiptState_of_ok rfl hf]
      exact ⟨some tree', rfl⟩
    | error e =>
      rw [onReceiptState_of_error rfl hf]
      exact ⟨some tree, rfl⟩

theorem keeps_updateReceiptState (env : VmEnvironment) (T : RustMerkleTree)
    (lastChecksum : Option Bytes) (vm : VMManager) :
    Keeps (OtherReceipts vm) (updateReceiptState env T lastChecksum) := by
  unfold updateReceiptState
  refine keeps_bind (keeps_throwIf _ _) fun _ => ?_
  refine keeps_bind (keeps_onReceiptState vm _) fun _ => ?_
  exact keeps_bind (keeps_onReceiptState vm _) fun _ => keeps_onReceiptState vm _

theorem database_updateEvaluatedStates {env : VmEnvironment}
    {lastChecksum : Option Bytes} {vm vm' : VMManager} {tree : MerkleTree U256 U256}
    (htree : vm.blockState = some tree)
    {r : Option (MerkleTree U256 U256) × Option (MerkleTree ReceiptKey Bytes)}
    (h : updateEvaluatedStates env T lastChecksum vm = (.ok r, vm')) :
    vm'.database = vm.database.setStoragePointers env.dead (stateKind.pad env.dead tree.values)
      vm.height := by
  have hreceipts := keeps_updateReceiptState env T lastChecksum vm vm ⟨vm.receiptState, rfl⟩
  unfold updateEvaluatedStates at h
  replace h : bindResult _ (updateReceiptState env T lastChecksum vm) = (.ok r, vm') := h
  rcases hrun : updateReceiptState env T lastChecksum vm with ⟨e | _, vm₁⟩
  · rw [hrun] at h
    cases h
  rw [hrun] at h hreceipts
  obtain ⟨receipts, rfl⟩ := hreceipts
  -- The trees are frozen one after the other, then the slots are saved.
  have hstate : { vm with receiptState := receipts }.blockState = some tree := htree
  replace h : bindResult _ (onBlockState (stateKind.freeze T env.dead)
    { vm with receiptState := receipts }) = (.ok r, vm') := h
  cases hfreeze : stateKind.freeze T env.dead tree with
  | error e =>
    rw [onBlockState_of_error hstate hfreeze] at h
    cases h
  | ok tree' =>
    obtain ⟨hvalues, hsome⟩ := freeze_eq_ok hfreeze
    rw [onBlockState_of_ok hstate hfreeze] at h
    replace h : bindResult _ (if vm.isExecutor then _ else if tree'.tree.isNone then _
      else if provesEverything T tree' then _ else _) = (.ok r, vm') := h
    have hnone : ¬ tree'.tree.isNone = true := by
      rw [Option.isSome_iff_ne_none] at hsome
      simpa using hsome
    rw [if_neg hnone] at h
    split_ifs at h
    · cases h
    · cases h
      rw [← hvalues]
    · cases h

end OpnetNode
