import OpnetNode.Merkle.Equiv.MerkleTree
import OpnetNode.Merkle.Equiv.StateMerkleTree
import OpnetNode.Transition

/-!
# The entries of a receipt tree

A receipt tree in which no key was written twice holds what was written, in some order (`Records`):
`Records.updateValue` for a write and `Records.freeze` for the leaves of the frozen tree.
-/

namespace OpnetNode

section

variable {K V : Type}

/-- The keys and values of all slots: the addresses are forgotten. -/
def TreeValues.pairs (values : TreeValues K V) : List (K × V) := values.vals.flatMap JsMap.entries

namespace TreeValues

theorem pairs_eq (values : TreeValues K V) :
    values.pairs = values.entries.flatMap fun entry => entry.2.entries := by
  unfold pairs JsMap.vals
  rw [List.flatMap_map]

theorem length_pairs (values : TreeValues K V) : values.pairs.length = values.countValues := by
  unfold pairs countValues
  rw [List.length_flatMap]
  rfl

theorem perm_pairs_ensureAddress (address : Bytes) (values : TreeValues K V) :
    (pairs (MerkleKind.ensureAddress address values)).Perm values.pairs := by
  unfold MerkleKind.ensureAddress
  split_ifs with hhas
  · exact List.Perm.refl _
  · have hnone : values.get address = none := by simpa [JsMap.has] using hhas
    rw [pairs_eq, pairs_eq]
    exact (JsMap.perm_set_of_get_eq_none JsMap.empty hnone).flatMap_right _

variable [DecidableEq K]

theorem mem_pairs_of_slot {values : TreeValues K V} {a : Bytes} {k : K} {v : V}
    (h : values.slot a k = some v) : (k, v) ∈ values.pairs := by
  obtain ⟨map, hmap, hget⟩ := Option.bind_eq_some_iff.mp h
  rw [pairs_eq]
  exact List.mem_flatMap.mpr
    ⟨(a, map), values.mem_entries_iff.mpr hmap, map.mem_entries_iff.mpr hget⟩

theorem perm_pairs_setSlot {values : TreeValues K V} {a : Bytes} {k : K} (v : V)
    (h : values.slot a k = none) : (pairs (values.setSlot a k v)).Perm ((k, v) :: values.pairs) := by
  unfold setSlot
  rw [pairs_eq, pairs_eq]
  cases hget : values.get a with
  | none =>
    have hset := JsMap.perm_set_of_get_eq_none ((JsMap.empty : JsMap K V).set k v) hget
    exact hset.flatMap_right _
  | some map =>
    have hslot : map.get k = none := by
      unfold slot at h
      rwa [hget] at h
    obtain ⟨rest, hold, hnew⟩ := JsMap.perm_set_of_get_eq_some (map.set k v) hget
    refine (hnew.flatMap_right _).trans ?_
    refine List.Perm.trans ?_ ((hold.flatMap_right _).symm.cons (k, v))
    exact (JsMap.perm_set_of_get_eq_none v hslot).append_right _

end TreeValues

end

def receiptLeaf (entry : ReceiptKey × Bytes) : Bytes :=
  MerkleKind.toBytes [entry.1.fromHex, entry.2]

/-- Two values are written alike: they are the same, or both fit into the 32 bytes of the buffer and
differ in zeros at their ends only. -/
def WrittenAlike (value value' : Bytes) : Prop :=
  value = value' ∨ (value.length ≤ 32 ∧ value'.length ≤ 32 ∧
    value ++ List.replicate (32 - value.length) 0 = value' ++ List.replicate (32 - value'.length) 0)

/-- What follows the key of a receipt in its leaf: a value that does not fit makes the buffer longer
by its own length. -/
theorem receiptLeaf_eq (entry : ReceiptKey × Bytes) (hkey : entry.1.fromHex.length = 32) :
    receiptLeaf entry = entry.1.fromHex ++ (entry.2 ++
      List.replicate (if entry.2.length ≤ 32 then 32 - entry.2.length else 32) 0) := by
  have hfirst : (BinaryWriter.new 64).writeBytes entry.1.fromHex =
      ⟨entry.1.fromHex, 64, by omega⟩ := by
    unfold BinaryWriter.writeBytes BinaryWriter.new
    simp [hkey]
  unfold receiptLeaf MerkleKind.toBytes BinaryWriter.bytesOf
  show (((BinaryWriter.new 64).writeBytes entry.1.fromHex).writeBytes entry.2).getBuffer = _
  rw [hfirst, ← List.append_assoc]
  unfold BinaryWriter.writeBytes BinaryWriter.getBuffer
  dsimp only
  congr 2
  rw [List.length_append]
  split_ifs <;> omega

/-- Two receipts have one leaf exactly if their keys are the same and their values are written
alike. -/
theorem receiptLeaf_eq_iff {entry entry' : ReceiptKey × Bytes} (hkey : entry.1.fromHex.length = 32)
    (hkey' : entry'.1.fromHex.length = 32) :
    receiptLeaf entry = receiptLeaf entry' ↔
      entry.1.fromHex = entry'.1.fromHex ∧ WrittenAlike entry.2 entry'.2 := by
  rw [receiptLeaf_eq entry hkey, receiptLeaf_eq entry' hkey',
    List.append_eq_append_iff_of_size_eq_left (hkey.trans hkey'.symm)]
  apply and_congr_right
  intro _
  constructor
  · intro heq
    have hlengths := congrArg List.length heq
    simp only [List.length_append, List.length_replicate] at hlengths
    by_cases hfits : entry.2.length ≤ 32
    · -- the padded value has 32 bytes, and one that does not fit has more
      have hfits' : entry'.2.length ≤ 32 := by
        by_contra hlong
        rw [if_pos hfits, if_neg hlong] at hlengths
        omega
      rw [if_pos hfits, if_pos hfits'] at heq
      exact .inr ⟨hfits, hfits', heq⟩
    · have hlong' : ¬ entry'.2.length ≤ 32 := by
        intro hfits'
        rw [if_neg hfits, if_pos hfits'] at hlengths
        omega
      rw [if_neg hfits, if_neg hlong'] at heq
      exact .inl (List.append_cancel_right heq)
  · rintro (heq | ⟨hfits, hfits', heq⟩)
    · rw [heq]
    · rw [if_pos hfits, if_pos hfits', heq]

theorem leaves_receiptKind (values : TreeValues ReceiptKey Bytes) :
    receiptKind.leaves values = values.pairs.map receiptLeaf := by
  unfold MerkleKind.leaves MerkleKind.getValues TreeValues.pairs
  rw [List.map_flatMap, List.map_flatMap]
  congr 1
  funext map
  rw [List.map_map]
  apply List.map_congr_left
  intro entry _
  rfl

/-- The tree is not frozen and holds the given entries, in some order. -/
structure Records (receipts : MerkleTree ReceiptKey Bytes) (entries : List (ReceiptKey × Bytes)) :
    Prop where
  unfrozen : receipts.frozen = false
  pairs : receipts.values.pairs.Perm entries

theorem updateValue_receipt {receipts : MerkleTree ReceiptKey Bytes}
    (hfrozen : receipts.frozen = false) (address : Bytes) (key : ReceiptKey) (value : Bytes) :
    ∃ receipts', receiptKind.updateValue address key value receipts = .ok receipts' ∧
      receipts'.frozen = false ∧
      (∀ a k, receipts'.values.slot a k =
        if a = address ∧ k = key then some value else receipts.values.slot a k) ∧
      (receipts.values.slot address key = none →
        receipts'.values.pairs.Perm ((key, value) :: receipts.values.pairs)) := by
  unfold MerkleKind.updateValue
  rw [if_neg (by simp [hfrozen])]
  refine ⟨_, rfl, hfrozen, fun a k => ?_, fun hnone => ?_⟩
  · show TreeValues.slot _ a k = _
    rw [MerkleKind.slot_writeSlot lawful_receiptKind, MerkleKind.slot_ensureAddress]
  · -- No write of the receipt tree is skipped.
    have hskips : receiptKind.skips (MerkleKind.ensureAddress address receipts.values) address key
        value = false := by
      unfold MerkleKind.skips
      cases TreeValues.slot (MerkleKind.ensureAddress address receipts.values) address key <;> rfl
    show (TreeValues.pairs _).Perm _
    unfold MerkleKind.writeSlot
    rw [hskips, if_neg Bool.false_ne_true]
    refine (TreeValues.perm_pairs_setSlot value ?_).trans
      ((TreeValues.perm_pairs_ensureAddress address receipts.values).cons _)
    rw [MerkleKind.slot_ensureAddress, hnone]

namespace Records

theorem new : Records .new [] := ⟨rfl, List.Perm.refl _⟩

variable {receipts : MerkleTree ReceiptKey Bytes} {entries : List (ReceiptKey × Bytes)}

theorem updateValue (h : Records receipts entries) (address : Bytes) {key : ReceiptKey}
    (value : Bytes) (hkey : key ∉ entries.map Prod.fst) :
    ∃ receipts', receiptKind.updateValue address key value receipts = .ok receipts' ∧
      Records receipts' ((key, value) :: entries) := by
  have hnone : receipts.values.slot address key = none := by
    cases hslot : receipts.values.slot address key with
    | none => rfl
    | some v =>
      have hmem := h.pairs.subset (TreeValues.mem_pairs_of_slot hslot)
      exact absurd (List.mem_map_of_mem hmem) hkey
  obtain ⟨receipts', hupdate, hfrozen, -, hpairs⟩ :=
    updateValue_receipt h.unfrozen address key value
  exact ⟨receipts', hupdate, hfrozen, (hpairs hnone).trans (h.pairs.cons _)⟩

theorem freeze (h : Records receipts entries) (T : RustMerkleTree) (dead : Bytes)
    (hlength : 2 ≤ entries.length) :
    ∃ leaves, leaves.Perm (entries.map receiptLeaf) ∧
      receiptKind.freeze T dead receipts =
        if (T.root leaves).isNone then .error .rustConstructor
        else .ok { receipts with tree := some leaves, valueChanged := false, frozen := true } := by
  have hcount : ¬ receipts.values.countValues < 2 := by
    rw [← TreeValues.length_pairs, h.pairs.length_eq]
    omega
  have hpad : receiptKind.pad dead receipts.values = receipts.values := by
    unfold MerkleKind.pad
    rw [if_neg hcount]
  have hsize : ¬ receipts.values.size = 0 := by
    have hne := size_pad_ne_zero receiptKind dead receipts.values
    rwa [hpad] at hne
  refine ⟨receiptKind.leaves receipts.values, ?_, ?_⟩
  · rw [leaves_receiptKind]
    exact h.pairs.map receiptLeaf
  · unfold MerkleKind.freeze MerkleKind.generateTree
    rw [hpad]
    show _ = _
    rw [h.unfrozen, if_neg Bool.false_ne_true, if_neg hsize]
    split_ifs <;> rfl

end Records

end OpnetNode
