import OpnetNode.Merkle.Equiv.ReceiptMerkleTree
import OpnetNode.Vm.Block

/-!
# What `updateBlockValuesFromResult` writes

An evaluation that is saved has its changed storage written into the storage tree and its result
into the receipt tree; any other one has the revert marker written into the receipt tree.
-/

namespace OpnetNode

open Proc VMManager

/-- The storage that is written for an evaluation. -/
def savedSlots (evaluation : Option Locals) : Slots :=
  match savedResult evaluation with
  | some (some s, _) => s
  | _ => .empty

def recordedBytes (evaluation : Option Locals) : Bytes :=
  match savedResult evaluation with
  | some (some _, result) => result
  | _ => revertMarker

section

variable {T : RustMerkleTree} {vm : VMManager} {tree : MerkleTree U256 U256}
  {receipts receipts' : MerkleTree ReceiptKey Bytes} {evaluation : Option Locals} {a id : Bytes}

theorem updateBlockValuesFromResult_eq (hexecutor : vm.isExecutor = false)
    (hstate : vm.blockState = some tree) (hreceipts : vm.receiptState = some receipts)
    (evaluation : Option Locals) (a : Bytes) (hid : id ≠ []) (disable : Bool) :
    updateBlockValuesFromResult T evaluation a id disable vm =
      bindResult (fun _ => if disable then pure () else onBlockState (stateKind.generateTree T))
        (recordResult evaluation a id vm) := by
  unfold updateBlockValuesFromResult
  show (if vm.isExecutor then pure () else _ : VmM Unit) vm = _
  rw [hexecutor]
  show bindResult _ _ = _
  rw [hstate]
  show bindResult _ _ = _
  rw [hreceipts]
  show bindResult _ _ = _
  unfold throwIf
  rw [if_neg hid]
  rfl

theorem recordResult_eq (hstate : vm.blockState = some tree)
    (hreceipts : vm.receiptState = some receipts)
    (hstorage : ∀ result, savedResult evaluation ≠ some (none, result))
    (hupdate : receiptKind.updateValue a (.transaction id) (recordedBytes evaluation) receipts =
      .ok receipts') :
    recordResult evaluation a id vm = (.ok (), { vm with
      blockState := some (updateStorage (savedSlots evaluation) tree)
      receiptState := some receipts' }) := by
  unfold recordedBytes at hupdate
  unfold recordResult savedSlots
  rcases hsaved : savedResult evaluation with _ | ⟨_ | s, result⟩
  · rw [hsaved] at hupdate
    refine (onReceiptState_of_ok hreceipts hupdate).trans ?_
    rw [show updateStorage .empty tree = tree from rfl, ← hstate]
  · exact absurd hsaved (hstorage result)
  · rw [hsaved] at hupdate
    have hwrite := onBlockState_of_ok (f := fun tree => .ok (updateStorage s tree)) hstate rfl
    exact (bind_of_ok hwrite).trans (onReceiptState_of_ok hreceipts hupdate)

end

end OpnetNode
