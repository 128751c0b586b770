import OpnetNode.BinaryWriter
import OpnetNode.JsMap

/-!
# The merkle trees of a block

`MerkleTree<K, V>` keeps the values of a block by contract address and key, and builds a Rust tree
over their encodings.  What the subclasses supply is a `MerkleKind`; `stateKind` is
`StateMerkleTree` (storage slots) and `receiptKind` is `ReceiptMerkleTree` (results by transaction
id).  The nested maps are kept as the source has them.
-/

namespace OpnetNode

/-- The values of a tree, by contract address and key. -/
abbrev TreeValues (K V : Type) := JsMap Bytes (JsMap K V)

/-- What a subclass of `MerkleTree` supplies. -/
structure MerkleKind (K V : Type) where
  encodeKey : K → Bytes
  encodeValue : V → Bytes
  /-- The test by which `updateValue` skips a write. -/
  unchanged : V → V → Bool
  /-- The entries that `getDummyValues` puts under `BTC_FAKE_ADDRESS`. -/
  dummyValues : JsMap K V

/-- Errors thrown by a merkle tree. -/
inductive MerkleError where
  | frozen
  | rustConstructor
  deriving DecidableEq, Repr

/-- A `MerkleTree`; `tree` holds the leaves that the Rust tree was built over. -/
structure MerkleTree (K V : Type) where
  values : TreeValues K V
  valueChanged : Bool
  frozen : Bool
  tree : Option (List Bytes)

namespace MerkleTree

variable {K V : Type} [DecidableEq K]

/-- A tree as it is constructed. -/
def new : MerkleTree K V := ⟨.empty, false, false, none⟩

end MerkleTree

namespace TreeValues

variable {K V : Type} [DecidableEq K]

def slot (values : TreeValues K V) (address : Bytes) (key : K) : Option V :=
  (values.get address).bind fun map => map.get key

/-- Write one slot, adding the address if it has no map yet. -/
def setSlot (values : TreeValues K V) (address : Bytes) (key : K) (value : V) :
    TreeValues K V :=
  values.set address (((values.get address).getD .empty).set key value)

/-- `countValues`: the number of slots over all addresses. -/
def countValues (values : TreeValues K V) : Nat := (values.vals.map JsMap.size).sum

theorem slot_setSlot (values : TreeValues K V) (a a' : Bytes) (k k' : K) (v : V) :
    slot (setSlot values a k v) a' k' = if a' = a ∧ k' = k then some v else slot values a' k' := by
  unfold slot setSlot
  rw [JsMap.get_set]
  by_cases ha : a' = a
  · subst ha
    rw [if_pos rfl, Option.bind_some, JsMap.get_set]
    by_cases hk : k' = k
    · simp [hk]
    · rw [if_neg hk, if_neg (fun h => hk h.2)]
      cases values.get a' <;> rfl
  · rw [if_neg ha, if_neg (fun h => ha h.1)]

end TreeValues

namespace MerkleKind

variable {K V : Type} [DecidableEq K] (kind : MerkleKind K V)

/-- `toBytes`: the parts of a leaf, in a buffer with 32 bytes for each of them. -/
def toBytes (parts : List Bytes) : Bytes := BinaryWriter.bytesOf (32 * parts.length) parts

/-- `getValues`: the leaf parts of all slots.  The address of a slot is not one of them. -/
def getValues (values : TreeValues K V) : List (List Bytes) :=
  values.vals.flatMap fun map =>
    map.entries.map fun entry => [kind.encodeKey entry.1, kind.encodeValue entry.2]

/-- The leaves that `generateTree` hands to the Rust tree. -/
def leaves (values : TreeValues K V) : List Bytes := (kind.getValues values).map toBytes

/-- Whether a write is skipped because it would not change the slot. -/
def skips (values : TreeValues K V) (address : Bytes) (key : K) (value : V) : Bool :=
  (values.slot address key).any fun current => kind.unchanged current value

def ensureAddress (address : Bytes) (values : TreeValues K V) : TreeValues K V :=
  if values.has address then values else values.set address .empty

/-- Write one slot unless the write is skipped. -/
def writeSlot (values : TreeValues K V) (address : Bytes) (key : K) (value : V) :
    TreeValues K V :=
  if kind.skips values address key value then values else values.setSlot address key value

def updateValue (address : Bytes) (key : K) (value : V) (t : MerkleTree K V) :
    Except MerkleError (MerkleTree K V) :=
  if t.frozen then .error .frozen
  else
    .ok { t with
      values := kind.writeSlot (ensureAddress address t.values) address key value
      valueChanged := t.valueChanged || !kind.skips t.values address key value }

/-- `updateValues`: write the entries of a map; this method does not look at `frozen`. -/
def updateValues (address : Bytes) (val : JsMap K V) (t : MerkleTree K V) : MerkleTree K V :=
  { t with
    values := val.entries.foldl (fun values entry => kind.writeSlot values address entry.1 entry.2)
      (ensureAddress address t.values)
    valueChanged := t.valueChanged ||
      val.entries.any fun entry => !kind.skips t.values address entry.1 entry.2 }

/-- `generateTree`.  A Rust tree that cannot be built leaves the previous one in place. -/
def generateTree (T : RustMerkleTree) (t : MerkleTree K V) :
    Except MerkleError (MerkleTree K V) :=
  if t.frozen then .error .frozen
  else if t.values.size = 0 then .ok t
  else if (T.root (kind.leaves t.values)).isNone then .error .rustConstructor
  else .ok { t with tree := some (kind.leaves t.values), valueChanged := false }

/-- The entries of `dummy` that `current` lacks, added to it. -/
def addMissing (current dummy : JsMap K V) : JsMap K V :=
  dummy.entries.foldl (fun map entry => if map.has entry.1 then map else map.set entry.1 entry.2)
    current

/-- The loop of `freeze` that brings a tree to two values. -/
def pad (dead : Bytes) (values : TreeValues K V) : TreeValues K V :=
  if values.countValues < 2 then
    match values.get dead with
    | none => values.set dead kind.dummyValues
    | some current => values.set dead (addMissing current kind.dummyValues)
  else values

def freeze (T : RustMerkleTree) (dead : Bytes) (t : MerkleTree K V) :
    Except MerkleError (MerkleTree K V) := do
  let t ← kind.generateTree T { t with values := kind.pad dead t.values }
  return { t with frozen := true }

/-- The getter `root` of a tree, `none` where it throws. -/
def root (T : RustMerkleTree) (t : MerkleTree K V) : Option T.Hash := t.tree.bind T.root

/-- The root that `freeze` yields for a set of values. -/
def freezeRoot (T : RustMerkleTree) (dead : Bytes) (values : TreeValues K V) : Option T.Hash :=
  match kind.freeze T dead { (MerkleTree.new : MerkleTree K V) with values } with
  | .ok t => root T t
  | .error _ => none

end MerkleKind

/-- `StateMerkleTree`: slots of 256-bit pointers and values. -/
def stateKind : MerkleKind U256 U256 where
  encodeKey := u256ToBytes
  encodeValue := u256ToBytes
  -- `currentValue && currentValue === value`: the bigint zero is falsy.
  unchanged current value := current ≠ 0 && current = value
  dummyValues := (JsMap.empty.set 1 1).set 2 2

/-- A key of the receipt tree: a transaction id as bitcoind prints it, or one of the two reserved
keys.  These carry a `0x` that a transaction id does not have. -/
inductive ReceiptKey where
  | transaction (id : Bytes)
  | MAX_HASH
  | MAX_MINUS_ONE
  deriving DecidableEq, Repr

def ReceiptKey.fromHex : ReceiptKey → Bytes
  | transaction id => id
  | MAX_HASH => List.replicate 32 0xff
  | MAX_MINUS_ONE => List.replicate 31 0xff ++ [0xfe]

/-- `ReceiptMerkleTree`: result bytes by transaction id. -/
def receiptKind : MerkleKind ReceiptKey Bytes where
  encodeKey := ReceiptKey.fromHex
  encodeValue := id
  -- `currentValue === result` compares a copy with the array it was made from.
  unchanged _ _ := false
  dummyValues := (JsMap.empty.set .MAX_HASH [1]).set .MAX_MINUS_ONE [1]

end OpnetNode
