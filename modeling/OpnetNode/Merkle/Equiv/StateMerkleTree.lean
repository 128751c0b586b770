import OpnetNode.Merkle.MerkleTree

/-!
# What the storage root binds

The leaves of a `StateMerkleTree` are the pairs (pointer, value) of its slots.  So the root
determines these pairs and how often each occurs (`perm_slotPairs_of_freezeRoot_eq`), and nothing
else: the contract a slot belongs to is in no leaf, and the padding of a small tree is made of
ordinary pairs.
-/

namespace OpnetNode

/-! ### The root of a frozen tree -/

section Freeze

variable {K V : Type} [DecidableEq K] (kind : MerkleKind K V)

theorem size_pad_ne_zero (dead : Bytes) (values : TreeValues K V) :
    (kind.pad dead values).size ≠ 0 := by
  have hset : ∀ map : JsMap K V, (values.set dead map).size ≠ 0 := by
    intro map hsize
    have hnil : (values.set dead map).entries = [] := List.length_eq_zero_iff.mp hsize
    have hget : (values.set dead map).get dead = some map := JsMap.get_set_self _ _ _
    rw [← JsMap.mem_entries_iff, hnil] at hget
    exact List.not_mem_nil hget
  unfold MerkleKind.pad
  split
  · split
    · exact hset _
    · exact hset _
  next hcount =>
    intro hsize
    have hnil : values.entries = [] := List.length_eq_zero_iff.mp hsize
    apply hcount
    simp [TreeValues.countValues, JsMap.vals, hnil]

/-- `freeze` yields the root of the Rust tree over the leaves of the padded values. -/
theorem freezeRoot_eq (T : RustMerkleTree) (dead : Bytes) (values : TreeValues K V) :
    kind.freezeRoot T dead values = T.root (kind.leaves (kind.pad dead values)) := by
  have hsize := size_pad_ne_zero kind dead values
  unfold MerkleKind.freezeRoot MerkleKind.freeze MerkleKind.generateTree
  simp only [MerkleTree.new, Bool.false_eq_true, ↓reduceIte, hsize]
  cases hroot : T.root (kind.leaves (kind.pad dead values)) with
  | none => rfl
  | some r => simp [MerkleKind.root, hroot, bind, Except.bind, pure, Except.pure]

end Freeze

/-! ### Slots without their contracts -/

/-- The (pointer, value) pairs of all slots: the contracts are forgotten. -/
def slotPairs (values : TreeValues U256 U256) : List (U256 × U256) :=
  values.vals.flatMap JsMap.entries

/-- The two maps have the same contracts, pointers and values. -/
def SameSlots (values values' : TreeValues U256 U256) : Prop :=
  ∀ address pointer, values.slot address pointer = values'.slot address pointer

def slotLeaf (pair : U256 × U256) : Bytes := u256ToBytes pair.1 ++ u256ToBytes pair.2

theorem slotLeaf_injective : Function.Injective slotLeaf := by
  rintro ⟨p, v⟩ ⟨p', v'⟩ h
  obtain ⟨hp, hv⟩ := List.append_inj h (by simp)
  exact Prod.ext (u256ToBytes_injective hp) (u256ToBytes_injective hv)

theorem leaves_stateKind (values : TreeValues U256 U256) :
    stateKind.leaves values = (slotPairs values).map slotLeaf := by
  unfold MerkleKind.leaves MerkleKind.getValues slotPairs
  rw [List.map_flatMap, List.map_flatMap]
  congr 1
  funext map
  rw [List.map_map]
  apply List.map_congr_left
  intro entry _
  -- a pointer and a value fill the buffer
  show MerkleKind.toBytes [u256ToBytes entry.1, u256ToBytes entry.2] = slotLeaf entry
  rw [MerkleKind.toBytes, BinaryWriter.bytesOf_of_length_eq (by simp)]
  simp [slotLeaf]

theorem length_leaves_stateKind (values : TreeValues U256 U256) :
    (stateKind.leaves values).length = values.countValues := by
  rw [leaves_stateKind, List.length_map]
  unfold slotPairs TreeValues.countValues
  rw [List.length_flatMap]
  rfl

variable {dead : Bytes} {values values' : TreeValues U256 U256}

theorem perm_slotPairs_of_freezeRoot_eq {T : RustMerkleTree} (hT : T.RootDeterminesLeaves)
    {r : T.Hash}
    (h : stateKind.freezeRoot T dead values = some r)
    (h' : stateKind.freezeRoot T dead values' = some r) :
    (slotPairs (stateKind.pad dead values)).Perm (slotPairs (stateKind.pad dead values')) := by
  rw [freezeRoot_eq, leaves_stateKind] at h h'
  exact (List.map_perm_map_iff slotLeaf_injective).mp (hT _ _ r h h')

/-! ### Binding -/

/-- The root binds the slots of `values` against those of `values'`: no tree whose root determines
its leaves gives both the same root unless the slots are the same. -/
def StorageRootBinds (dead : Bytes) (values values' : TreeValues U256 U256) : Prop :=
  ∀ T : RustMerkleTree, T.RootDeterminesLeaves → ∀ r,
    stateKind.freezeRoot T dead values = some r → stateKind.freezeRoot T dead values' = some r →
    SameSlots values values'

theorem not_storageRootBinds (hslots : ¬ SameSlots values values')
    (hpairs : (slotPairs (stateKind.pad dead values)).Perm
      (slotPairs (stateKind.pad dead values'))) :
    ¬ StorageRootBinds dead values values' := by
  intro hbinds
  have hleaves : (stateKind.leaves (stateKind.pad dead values)).Perm
      (stateKind.leaves (stateKind.pad dead values')) := by
    rw [leaves_stateKind, leaves_stateKind]
    exact hpairs.map slotLeaf
  have hroot : RustMerkleTree.multisetTree.root (stateKind.leaves (stateKind.pad dead values)) =
      RustMerkleTree.multisetTree.root (stateKind.leaves (stateKind.pad dead values')) :=
    RustMerkleTree.root_multisetTree_of_perm hleaves
  apply hslots
  apply hbinds _ RustMerkleTree.rootDeterminesLeaves_multisetTree
  · rw [freezeRoot_eq, hroot]
    rfl
  · rw [freezeRoot_eq]
    rfl

/-- The storage root tells two maps of changed slots apart exactly when they still differ after the
contracts are forgotten and the dummy pairs are added to a map of fewer than two slots. -/
theorem storageRootBinds_iff (dead : Bytes) (values values' : TreeValues U256 U256) :
    StorageRootBinds dead values values' ↔
      SameSlots values values' ∨
        ¬ (slotPairs (stateKind.pad dead values)).Perm
          (slotPairs (stateKind.pad dead values')) := by
  constructor
  · intro hbinds
    by_contra hnot
    rw [not_or, not_not] at hnot
    exact not_storageRootBinds hnot.1 hnot.2 hbinds
  · intro h T hT r hr hr'
    have hpairs := perm_slotPairs_of_freezeRoot_eq hT hr hr'
    rcases h with hslots | hdiffer
    · exact hslots
    · exact absurd hpairs hdiffer

def singleContract (address : Bytes) (slots : List (U256 × U256)) : TreeValues U256 U256 :=
  slots.foldl (fun values entry => values.setSlot address entry.1 entry.2) .empty

/-- Two slots moved from one contract to another keep the root, and a contract whose slots 1 and 2
hold 1 and 2 has the root of a block that changed nothing. -/
theorem storageRoot_forgets_contract :
    ¬ StorageRootBinds (List.replicate 32 0xdd)
        (singleContract (List.replicate 32 1) [(5, 7), (6, 8)])
        (singleContract (List.replicate 32 2) [(5, 7), (6, 8)]) ∧
    ¬ StorageRootBinds (List.replicate 32 0xdd) .empty
        (singleContract (List.replicate 32 1) [(1, 1), (2, 2)]) := by
  constructor
  · apply not_storageRootBinds
    · intro h
      have hslot := h (List.replicate 32 1) 5
      revert hslot
      decide +kernel
    · decide +kernel
  · apply not_storageRootBinds
    · intro h
      have hslot := h (List.replicate 32 1) 1
      revert hslot
      decide +kernel
    · decide +kernel

end OpnetNode
