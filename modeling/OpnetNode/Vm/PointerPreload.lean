import Mathlib.Data.List.Sort
import OpnetNode.Vm.VMManager

/-!
# Preloading by pointer arrays

`preloadPointers` is asked for pointers as byte arrays of any length.  The maps that its answers go
through are keyed by the array objects: an array that was asked for is one key, the array that a found
document is read into another, and the iteration order of the map decides which of them a slot gets.
A database document is matched by the bytes of an array; a slot is the number they are read as.

The values in these maps stand for a `ProvenMemoryValue`, since proofs are not validated before an
execution.  A document has all of its fields.
-/

namespace OpnetNode

/-- An array of a preload list, as an object. -/
structure PointerArray where
  identity : Nat
  bytes : Bytes
  deriving DecidableEq, Repr

/-- A key of a map of pointers: an array that was asked for, or one that a document was read into. -/
inductive PointerKey where
  | requested (array : PointerArray)
  | fetched (bytes : Bytes)
  deriving DecidableEq, Repr

namespace PointerKey

def bytes : PointerKey → Bytes
  | requested array => array.bytes
  | fetched bytes => bytes

def isRequested : PointerKey → Bool
  | requested _ => true
  | fetched _ => false

end PointerKey

/-- `Map<StoragePointer, ProvenMemoryValue | null>`. -/
abbrev PointerMap := JsMap PointerKey (Option U256)

abbrev ProvenPointers := JsMap Bytes PointerMap

/-- `AddressMap<Uint8Array[]>`. -/
abbrev PointerList := JsMap Bytes (List PointerArray)

/-- What the preloading of pointers takes from outside the repository. -/
structure PreloadEnvironment where
  /-- `BufferHelper.uint8ArrayToPointer`, which throws on an array without bytes. -/
  uint8ArrayToPointer : Bytes → Except VmError Nat
  /-- It reads what `BufferHelper.pointerToUint8Array` writes. -/
  uint8ArrayToPointer_u256ToBytes : ∀ p : U256, uint8ArrayToPointer (u256ToBytes p) = .ok p.toNat
  /-- The order in which the database returns the groups of an aggregation. -/
  groupOrder : List PointerDocument → List PointerDocument
  groupOrder_perm : ∀ docs, (groupOrder docs).Perm docs

/-! ### `ContractPointerValueRepository` -/

namespace PointerDocument

/-- The criterion on `lastSeenAt`; there is none without a height. -/
def isBelow (height : Option Nat) (doc : PointerDocument) : Bool :=
  height.all fun height => doc.lastSeenAt < height

/-- The `_id` that documents are grouped by. -/
def slotKey (doc : PointerDocument) : Bytes × U256 := (doc.contractAddress, doc.pointer)

end PointerDocument

namespace VMStorage

def getByContractAndPointer (db : VMStorage) (contractAddress pointer : Bytes)
    (height : Option Nat) : Option U256 :=
  (latestDocument (db.pointers.filter fun doc =>
    doc.contractAddress = contractAddress ∧ u256ToBytes doc.pointer = pointer ∧
      doc.isBelow height)).map PointerDocument.value

/-- The stage `$match`: one clause for each contract. -/
def matchesClause (pointers : PointerList) (height : Option Nat) (doc : PointerDocument) : Bool :=
  pointers.entries.any fun clause =>
    doc.contractAddress = clause.1 ∧ u256ToBytes doc.pointer ∈ clause.2.map PointerArray.bytes ∧
      doc.isBelow height

/-- The stage `$group`: the first document of each contract and pointer. -/
def firstOfGroups (docs : List PointerDocument) : JsMap (Bytes × U256) PointerDocument :=
  docs.foldl (fun groups doc =>
    if groups.has doc.slotKey then groups else groups.set doc.slotKey doc) .empty

/-- The aggregation: sorted by `lastSeenAt`, the newest first, then grouped. -/
def aggregate (P : PreloadEnvironment) (db : VMStorage) (pointers : PointerList)
    (height : Option Nat) : List PointerDocument :=
  P.groupOrder (firstOfGroups ((db.pointers.filter (matchesClause pointers height)).insertionSort
    fun doc doc' => doc'.lastSeenAt ≤ doc.lastSeenAt)).vals

/-- The map of a contract before documents are looked at: every array is null. -/
def requestedAsNull (pointerList : List PointerArray) : PointerMap :=
  pointerList.foldl (fun pointerMap array => pointerMap.set (.requested array) none) .empty

/-- Take over a document that was found. -/
def takeResult (provenPointers : ProvenPointers) (doc : PointerDocument) : ProvenPointers :=
  match provenPointers.get doc.contractAddress with
  | some pointerMap =>
    provenPointers.set doc.contractAddress
      (pointerMap.set (.fetched (u256ToBytes doc.pointer)) (some doc.value))
  | none => provenPointers

def getByContractsAndPointers (P : PreloadEnvironment) (db : VMStorage) (pointers : PointerList)
    (height : Option Nat) : Option ProvenPointers :=
  if pointers.size = 0 then none
  else
    let provenPointers : ProvenPointers := pointers.entries.foldl (fun provenPointers entry =>
      provenPointers.set entry.1 (requestedAsNull entry.2)) .empty
    some ((aggregate P db pointers height).foldl takeResult provenPointers)

end VMStorage

/-! ### `VMManager` -/

namespace PointerPreload

/-- The slot that a number names; no contract can name one beyond 256 bits. -/
def slotOf (pointer : Nat) : Option U256 :=
  if pointer < 2 ^ 256 then some (BitVec.ofNat 256 pointer) else none

variable (env : VmEnvironment) (T : RustMerkleTree) (P : PreloadEnvironment)

/-- `getFromInternalCache` for an array. -/
def knownValue (vm : VMManager) (address : Bytes) (pointer : Bytes) :
    Except VmError (Option U256) := do
  let pointerBigInt ← P.uint8ArrayToPointer pointer
  match slotOf pointerBigInt with
  | some slot => VMManager.getFromInternalCache T vm address slot
  | none => .ok none

/-- One array of a contract: what is known goes into the map, the others are asked of the database. -/
def collectPointer (vm : VMManager) (address : Bytes) (collected : PointerMap × List PointerArray)
    (array : PointerArray) : Except VmError (PointerMap × List PointerArray) := do
  match ← knownValue T P vm address array.bytes with
  | some value => return (collected.1.set (.requested array) (some value), collected.2)
  | none => return (collected.1, collected.2 ++ [array])

def collectContract (vm : VMManager) (collected : ProvenPointers × PointerList)
    (entry : Bytes × List PointerArray) : Except VmError (ProvenPointers × PointerList) := do
  let (map, array) ← entry.2.foldlM (collectPointer T P vm entry.1) (.empty, [])
  return (collected.1.set entry.1 map, collected.2.set entry.1 array)

/-- What was fetched for a contract, written over what was known for it. -/
def mergeFetched (pointersResult : ProvenPointers) (entry : Bytes × PointerMap) : ProvenPointers :=
  match pointersResult.get entry.1 with
  | some existingMap => pointersResult.set entry.1 (existingMap.setAll entry.2)
  | none => pointersResult

/-- `finalizeProvenMemoryValue`, with null not treated as zero. -/
def finalizeProvenMemoryValue (address : Bytes) (entry : PointerKey × Option U256) : VmM Unit :=
  match entry.2 with
  | none => pure ()
  | some value => do
    let pointerBigInt ← VMManager.ofExcept fun _ => P.uint8ArrayToPointer entry.1.bytes
    match slotOf pointerBigInt with
    | some slot => VMManager.storePointerInCache address slot (some value)
    | none => pure ()

def getStorageMultiple (pointerList : PointerList) (blockNumber : Nat) :
    VmM (Option ProvenPointers) := do
  VMManager.requireBlockState
  let (pointersResult, realList) ← VMManager.ofExcept fun vm =>
    pointerList.entries.foldlM (collectContract T P vm) (.empty, .empty)
  let vm ← Proc.get
  match vm.database.getByContractsAndPointers P realList (some blockNumber) with
  | none => return none
  | some fetchedFromDB =>
    let pointersResult := fetchedFromDB.entries.foldl mergeFetched pointersResult
    Proc.forEach (fun contract =>
      Proc.forEach (finalizeProvenMemoryValue P contract.1) contract.2.entries)
      pointersResult.entries
    return some pointersResult

/-! ### `ContractEvaluation` and `ContractEvaluator` -/

/-- One pointer of `preloadedStorage`. -/
def preloadedPointer (current : JsMap U256 U256) (entry : PointerKey × Option U256) :
    Except VmError (JsMap U256 U256) := do
  let pointerBigInt ← P.uint8ArrayToPointer entry.1.bytes
  match slotOf pointerBigInt with
  | some slot => return current.set slot (entry.2.getD 0)
  | none => return current

/-- One contract of `preloadedStorage`. -/
def preloadedContract (preloadStorage : Slots) (entry : Bytes × PointerMap) :
    Except VmError Slots := do
  let current ← entry.2.entries.foldlM (preloadedPointer P)
    ((preloadStorage.get entry.1).getD .empty)
  return preloadStorage.set entry.1 current

def preloadedStorage (storage : Option ProvenPointers) (preloadStorage : Slots) :
    Except VmError Slots :=
  match storage with
  | none => .ok preloadStorage
  | some storage => storage.entries.foldlM (preloadedContract P) preloadStorage

open EvalM in
def preloadPointers (preloadStorageList : Option PointerList) : EvalM VMManager Unit :=
  match preloadStorageList with
  | none => pure ()
  | some list => do
    let l ← locals
    Proc.throwIf (l.ctx.gasTracker.maxGas <
      env.COLD_STORAGE_LOAD * (list.vals.map List.length).sum) .preloadExceedsGas
    let pointers ← onHost (getStorageMultiple T P list l.evaluation.blockNumber)
    method (Method.onContext fun ctx => do
      let preloadStorage ← preloadedStorage P pointers ctx.preloadStorage
      return { ctx with preloadStorage })

end PointerPreload

end OpnetNode
