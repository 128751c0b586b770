import OpnetNode.Collection

/-!
# Byte strings, addresses and maps keyed by addresses

An `AddressMap` iterates in insertion order, so it is the list of its entries. `get_map` and
`set_of_get_eq_none` let a map that is only ever extended be read as the list of the values it was
built from.
-/

namespace OpnetNode

/-- A `Uint8Array`. -/
abbrev Bytes := List UInt8

/-- An address with both of its keys. -/
structure Address where
  mldsaPublicKey : Bytes
  legacyPublicKey : Bytes
  deriving DecidableEq, Repr

/-- A map keyed by the 32 bytes of an address: its entries in insertion order. -/
abbrev AddressMap (β : Type*) := List (Bytes × β)

namespace AddressMap

variable {α β : Type*}

def get (a : Bytes) (m : AddressMap β) : Option β := (m.find? fun entry => entry.1 = a).map Prod.snd

/-- Set the value at an address; an address already present keeps its place. -/
def set (a : Bytes) (v : β) (m : AddressMap β) : AddressMap β :=
  Collection.upsertOne (fun entry => entry.1 = a) (fun _ => (a, v)) (a, v) m

theorem get_map (key : α → Bytes) (value : α → β) (l : List α) (a : Bytes) :
    get a (l.map fun x => (key x, value x)) = (l.find? fun x => key x = a).map value := by
  unfold get
  rw [List.find?_map, Option.map_map]
  rfl

theorem get_cons (a : Bytes) (entry : Bytes × β) (m : AddressMap β) :
    get a (entry :: m) = if entry.1 = a then some entry.2 else get a m := by
  unfold get
  rw [List.find?_cons]
  by_cases h : entry.1 = a <;> simp [h]

theorem get_eq_none_iff {a : Bytes} {m : AddressMap β} :
    get a m = none ↔ a ∉ m.map Prod.fst := by
  unfold get
  simp only [Option.map_eq_none_iff, List.find?_eq_none, List.mem_map, decide_eq_true_eq]
  constructor
  · rintro h ⟨entry, hmem, heq⟩
    exact h entry hmem heq
  · intro h entry hmem heq
    exact h ⟨entry, hmem, heq⟩

theorem get_set (a a' : Bytes) (v : β) (m : AddressMap β) :
    get a' (set a v m) = if a' = a then some v else get a' m := by
  unfold get set
  induction m with
  | nil =>
    rw [Collection.upsertOne, List.find?_singleton]
    by_cases h : a' = a
    · simp [h]
    · have h' : a ≠ a' := fun e => h e.symm
      simp [h, h']
  | cons entry m ih =>
    rw [Collection.upsertOne]
    by_cases hk : entry.1 = a
    · by_cases h : a' = a
      · simp [hk, h]
      · have h' : a ≠ a' := fun e => h e.symm
        simp [hk, h, h']
    · by_cases hk' : entry.1 = a'
      · have h : ¬ a' = a := fun e => hk (hk'.trans e)
        simp [hk', h]
      · simpa [hk, hk'] using ih

theorem set_of_get_eq_none {a : Bytes} {v : β} {m : AddressMap β} (h : get a m = none) :
    set a v m = m ++ [(a, v)] := by
  unfold get at h
  rw [Option.map_eq_none_iff, List.find?_eq_none] at h
  exact Collection.upsertOne_of_forall_not fun entry hentry => by simpa using h entry hentry

end AddressMap

end OpnetNode
