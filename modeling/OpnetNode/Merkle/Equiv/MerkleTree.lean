import OpnetNode.Merkle.MerkleTree

/-!
# Slots of updated trees

Every write of a tree is described by the slots it leaves: `slot_writeSlot` for one slot,
`slot_updateValues` for the slots of one address, and `TreeValues.slot_foldl` for a loop over all
addresses of a nested map.
-/

namespace OpnetNode

variable {K V : Type} [DecidableEq K]

/-- A loop over the addresses of a nested map, each step of which writes the slots of its address:
what the map has is read first. -/
theorem TreeValues.slot_foldl {S : Type} (slotOf : S → Bytes → K → Option V)
    {f : S → Bytes × JsMap K V → S}
    (hf : ∀ t e a k, slotOf (f t e) a k =
      if a = e.1 then (e.2.get k).or (slotOf t a k) else slotOf t a k)
    (values : TreeValues K V) (t : S) (a : Bytes) (k : K) :
    slotOf (values.entries.foldl f t) a k = (values.slot a k).or (slotOf t a k) := by
  have hnodup := values.keys_nodup
  show _ = ((JsMap.getEntries a values.entries).bind fun map => map.get k).or _
  generalize values.entries = l at hnodup
  induction l generalizing t with
  | nil => simp [JsMap.getEntries]
  | cons e l ih =>
    rw [List.map_cons, List.nodup_cons] at hnodup
    rw [List.foldl_cons, ih _ hnodup.2, hf, JsMap.getEntries]
    by_cases he : e.1 = a
    · -- The address does not occur again, so the remaining entries have nothing for it.
      have hnone : JsMap.getEntries a l = none := JsMap.getEntries_eq_none (he ▸ hnodup.1)
      simp [hnone, he]
    · simp [he, Ne.symm he]

namespace MerkleKind

/-- Writes are skipped only if the slot has the value. -/
def Lawful (kind : MerkleKind K V) : Prop :=
  ∀ current value, kind.unchanged current value = true → current = value

theorem slot_ensureAddress (address : Bytes) (values : TreeValues K V) (a : Bytes) (k : K) :
    TreeValues.slot (ensureAddress address values) a k = values.slot a k := by
  unfold ensureAddress
  split
  · rfl
  next hhas =>
    unfold TreeValues.slot
    rw [JsMap.get_set]
    by_cases ha : a = address
    · have hnone : values.get address = none := by simpa [JsMap.has] using hhas
      simp [ha, hnone]
    · rw [if_neg ha]

variable {kind : MerkleKind K V}

theorem slot_writeSlot (hkind : kind.Lawful) (values : TreeValues K V) (address : Bytes) (key : K)
    (value : V) (a : Bytes) (k : K) :
    TreeValues.slot (kind.writeSlot values address key value) a k =
      if a = address ∧ k = key then some value else values.slot a k := by
  unfold writeSlot
  by_cases hskip : kind.skips values address key value = true
  · rw [if_pos hskip]
    by_cases hslot : a = address ∧ k = key
    · obtain ⟨current, hcurrent, hunchanged⟩ := (Option.any_eq_true _ _).mp hskip
      rw [if_pos hslot, hslot.1, hslot.2, hcurrent, hkind current value hunchanged]
    · rw [if_neg hslot]
  · rw [if_neg hskip, TreeValues.slot_setSlot]

theorem slot_updateValues (hkind : kind.Lawful) (address : Bytes) (val : JsMap K V)
    (t : MerkleTree K V) (a : Bytes) (k : K) :
    (kind.updateValues address val t).values.slot a k =
      if a = address then (val.get k).or (t.values.slot a k) else t.values.slot a k := by
  by_cases ha : a = address
  · have hread := JsMap.read_foldl (fun (values : TreeValues K V) k => values.slot address k)
      (fun values e k => by simpa using slot_writeSlot hkind values address e.1 e.2 address k)
      val.entries val.keys_nodup (ensureAddress address t.values) k
    subst ha
    rw [if_pos rfl, ← slot_ensureAddress a t.values a k]
    exact hread
  · rw [if_neg ha, ← slot_ensureAddress address t.values a k]
    show TreeValues.slot (val.entries.foldl _ _) a k = _
    generalize ensureAddress address t.values = values
    generalize val.entries = l
    induction l generalizing values with
    | nil => rfl
    | cons e l ih => rw [List.foldl_cons, ih, slot_writeSlot hkind, if_neg fun h => ha h.1]

theorem mem_leaves (kind : MerkleKind K V) {values : TreeValues K V} {a : Bytes} {k : K} {v : V}
    (h : values.slot a k = some v) :
    toBytes [kind.encodeKey k, kind.encodeValue v] ∈ kind.leaves values := by
  obtain ⟨map, hmap, hget⟩ := Option.bind_eq_some_iff.mp h
  refine List.mem_map_of_mem (List.mem_flatMap.mpr ⟨map, ?_, ?_⟩)
  · exact List.mem_map_of_mem (values.mem_entries_iff.mpr hmap)
  · exact List.mem_map_of_mem (map.mem_entries_iff.mpr hget)

end MerkleKind

theorem lawful_stateKind : stateKind.Lawful := by
  intro current value h
  simp only [stateKind, Bool.and_eq_true, decide_eq_true_eq] at h
  exact h.2

theorem lawful_receiptKind : receiptKind.Lawful := fun _ _ h => nomatch h

end OpnetNode
