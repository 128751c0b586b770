import OpnetNode.History
import OpnetNode.Vm.Equiv.Atomicity
import OpnetNode.Vm.Equiv.BlockFold
import OpnetNode.Vm.Equiv.SharedState

/-!
# Storage across the call tree of a transaction

The frames of a transaction share a map of written slots and one of loaded slots.  Whatever the call
tree, a load returns the last value stored before it, by whichever frame of the contract, and else the
value from before the transaction (`StorageInv`); and the changed storage of a transaction that did
not revert has the last stored values and no others (`storage_semantics`).
-/

namespace OpnetNode

open Proc EvalM VMManager BlockExecution

/-- A load returned the last value stored at its slot before, or the value from before the
transaction, zero if there is none. -/
def LoadOk (read : Bytes → U256 → Option U256) (before : List FrameAction) : FrameAction → Prop
  | .loaded a p value => value = (written before a p).getD ((read a p).getD 0)
  | _ => True

/-- A storage with slots written over it. -/
def readOver (initial : Slots) (read : Bytes → U256 → Option U256) (a : Bytes) (p : U256) :
    Option U256 :=
  (initial.slot a p).or (read a p)

/-- The same for a transaction that starts with the slots `initial` written. -/
structure StorageInvFrom (initial : Slots) (read : Bytes → U256 → Option U256)
    (ctx : TransactionContext) : Prop where
  stored : ∀ a p, ctx.storage.slot a p = (written ctx.trace a p).or (initial.slot a p)
  preloaded : ∀ a p v, initial.slot a p = none → ctx.preloadStorage.slot a p = some v →
    v = (read a p).getD 0
  loads : AtEach (LoadOk (readOver initial read)) ctx.trace

section

variable {σ : Type} {initial : Slots} {read : Bytes → U256 → Option U256} {ctx : TransactionContext}

theorem StorageInvFrom.note (h : StorageInvFrom initial read ctx) {action : FrameAction}
    (hwrites : ∀ a p, action.writes a p = none)
    (hok : LoadOk (readOver initial read) ctx.trace action) :
    StorageInvFrom initial read (ctx.record action) := by
  refine ⟨fun a p => ?_, h.preloaded, atEach_concat.mpr ⟨h.loads, hok⟩⟩
  show ctx.storage.slot a p = (written (ctx.trace ++ [action]) a p).or _
  rw [written_append_singleton, hwrites, Option.none_or]
  exact h.stored a p

theorem StorageInvFrom.storageOf {l : Locals} (h : StorageInvFrom initial read l.ctx)
    {p value : U256} (hvalue : Method.storageOf l p = some value) :
    value = (written l.ctx.trace l.evaluation.contractAddress p).getD
      ((readOver initial read l.evaluation.contractAddress p).getD 0) := by
  unfold Method.storageOf at hvalue
  rw [h.stored] at hvalue
  unfold readOver
  cases hwritten : written l.ctx.trace l.evaluation.contractAddress p with
  | some v =>
    rw [hwritten, Option.some_or] at hvalue
    exact (Option.some.inj hvalue).symm
  | none =>
    rw [hwritten, Option.none_or] at hvalue
    cases hinitial : initial.slot l.evaluation.contractAddress p with
    | some v =>
      rw [hinitial] at hvalue
      exact (Option.some.inj hvalue).symm
    | none =>
      rw [hinitial, Option.none_or] at hvalue
      exact h.preloaded _ p value hinitial hvalue

theorem StorageInvFrom.unwritten {l : Locals} (h : StorageInvFrom initial read l.ctx) {p : U256}
    (hnone : Method.storageOf l p = none) :
    written l.ctx.trace l.evaluation.contractAddress p = none ∧
      initial.slot l.evaluation.contractAddress p = none := by
  unfold Method.storageOf at hnone
  rw [Option.or_eq_none_iff, h.stored, Option.or_eq_none_iff] at hnone
  exact hnone.1

theorem sharedClosed_storageInvFrom : SharedClosed (StorageInvFrom initial read) where
  gasTracker _ _ h := ⟨h.stored, h.preloaded, h.loads⟩
  callStack _ _ h := ⟨h.stored, h.preloaded, h.loads⟩
  emitted _ _ _ h := h.note (fun _ _ => rfl) trivial
  reverted _ _ h := h.note (fun _ _ => rfl) trivial

theorem StorageInvFrom.setPreload (h : StorageInvFrom initial read ctx) (a : Bytes) (p : U256) :
    StorageInvFrom initial read { ctx with
      preloadStorage := ctx.preloadStorage.setSlot a p ((read a p).getD 0) } := by
  refine ⟨h.stored, fun a' p' v hinitial hslot => ?_, h.loads⟩
  replace hslot : TreeValues.slot (TreeValues.setSlot ctx.preloadStorage a p _) a' p' = some v :=
    hslot
  rw [TreeValues.slot_setSlot] at hslot
  split_ifs at hslot with hkey
  · obtain ⟨rfl, rfl⟩ := hkey
    exact (Option.some.inj hslot).symm
  · exact h.preloaded a' p' v hinitial hslot

theorem StorageInvFrom.preload (h : StorageInvFrom initial read ctx)
    {values : List ((Bytes × U256) × Option U256)}
    (hvalues : ∀ e ∈ values, e.2 = read e.1.1 e.1.2) :
    StorageInvFrom initial read { ctx with
      preloadStorage := values.foldl (fun preload entry =>
        preload.setSlot entry.1.1 entry.1.2 (entry.2.getD 0)) ctx.preloadStorage } := by
  induction values generalizing ctx with
  | nil => exact h
  | cons entry values ih =>
    have hset := h.setPreload entry.1.1 entry.1.2
    rw [← hvalues entry List.mem_cons_self] at hset
    exact ih hset fun e he => hvalues e (List.mem_cons_of_mem _ he)

/-! ### Host calls -/

/-- The host answers reads of storage at the height `n` by a function, or throws. -/
structure HostReads (n : Nat) (J : σ → Prop) (read : Bytes → U256 → Option U256)
    (host : Host σ) : Prop extends HostKeepsAt n J host where
  reads : ∀ a p, Ensures J (host.getStorage a p n) (fun value s => value = read a p ∧ J s) J
  readsMultiple : ∀ pointers, Ensures J (host.getStorageMultiple pointers n)
    (fun values s => (∀ e ∈ values, e.2 = read e.1.1 e.1.2) ∧ J s) J

variable {n : Nat} {J : σ → Prop} {host : Host σ}

theorem Within.ensures_onHost {α : Type} {I : TransactionContext → Prop} {m : Proc σ VmError α}
    {P : α → Prop} (h : Ensures J m (fun value s => P value ∧ J s) J) (l : Locals) :
    Ensures (fun f => Within n J I f ∧ f.locals = l) (onHost m : EvalM σ α)
      (fun value f => P value ∧ Within n J I f ∧ f.locals = l) (Within n J I) := by
  rintro f ⟨hf, rfl⟩
  have hm := h f.host hf.host
  show Outcome _ _ ((m f.host).1, _)
  rcases hrun : m f.host with ⟨e | value, s⟩
  · rw [hrun] at hm
    exact ⟨hm, hf.blockNumber, hf.shared⟩
  · rw [hrun] at hm
    exact ⟨hm.1, ⟨hm.2, hf.blockNumber, hf.shared⟩, rfl⟩

theorem load_of_some {f : Frame σ} {pointer value : U256}
    (hfound : Method.storageOf f.locals pointer = some value) :
    load host pointer f = (.ok (value, false), { f with
      locals := { f.locals with
        ctx := f.locals.ctx.record
          (.loaded f.locals.evaluation.contractAddress pointer value) } }) := by
  unfold load
  show bindResult _ (.ok f.locals, f) = _
  rw [bindResult_ok, hfound]
  rfl

theorem keeps_load_storageInvFrom (h : HostReads n J read host) (pointer : U256) :
    Keeps (Within n J (StorageInvFrom initial read)) (load host pointer) := by
  intro f hf
  have hn : f.locals.evaluation.blockNumber = n := hf.blockNumber
  have hloaded {l : Locals} (hl : StorageInvFrom initial read l.ctx) {value : U256}
      (hvalue : value = (written l.ctx.trace l.evaluation.contractAddress pointer).getD
        ((readOver initial read l.evaluation.contractAddress pointer).getD 0)) :
      StorageInvFrom initial read (l.ctx.record (.loaded l.evaluation.contractAddress pointer value)) :=
    hl.note (fun _ _ => rfl) hvalue
  cases hfound : Method.storageOf f.locals pointer with
  | some value =>
    rw [load_of_some hfound]
    exact ⟨hf.host, hf.blockNumber, hloaded hf.shared (hf.shared.storageOf hfound)⟩
  | none =>
    unfold load
    show Within n J _ (bindResult _ (.ok f.locals, f)).2
    rw [bindResult_ok, hfound]
    -- the slot was not written in this transaction, so its value is that of the host
    obtain ⟨hwritten, hinitial⟩ := hf.shared.unwritten hfound
    have hrest (stored : Option U256) : Ensures
        (fun f' => stored = read f.locals.evaluation.contractAddress pointer ∧
          Within n J (StorageInvFrom initial read) f' ∧ f'.locals = f.locals)
        (do
          method (Method.addToStorage pointer (stored.getD 0))
          method (Method.note (.loaded f.locals.evaluation.contractAddress pointer
            (stored.getD 0)))
          return (stored.getD 0, true))
        (fun _ => Within n J (StorageInvFrom initial read)) (Within n J (StorageInvFrom initial read)) := by
      rintro f' ⟨rfl, hf', hl⟩
      have hadd : Method.addToStorage pointer ((read f.locals.evaluation.contractAddress
          pointer).getD 0) f'.locals = (.ok (), { f'.locals with
            ctx := { f'.locals.ctx with
              preloadStorage := f'.locals.ctx.preloadStorage.setSlot
                f'.locals.evaluation.contractAddress pointer
                ((read f.locals.evaluation.contractAddress pointer).getD 0) } }) := by
        unfold Method.addToStorage
        rw [hl, if_neg]
        rw [Method.storageOf, Option.or_eq_none_iff] at hfound
        simp [hfound.2]
      show Outcome _ _ (bindResult _ ((Method.addToStorage pointer _ f'.locals).1,
        { f' with locals := (Method.addToStorage pointer _ f'.locals).2 }))
      rw [hadd, bindResult_ok, hl]
      refine ⟨hf'.host, hf.blockNumber, StorageInvFrom.note ?_ (fun _ _ => rfl) ?_⟩
      · exact hf.shared.setPreload _ _
      · show _ = (written f.locals.ctx.trace _ _).getD _
        rw [hwritten, readOver, hinitial]
        rfl
    dsimp only
    rw [hn]
    exact (ensures_bind (Within.ensures_onHost (h.reads _ pointer) f.locals) hrest f
      ⟨hf, rfl⟩).state

theorem startKeeps_storageInvFrom : Within.StartKeeps (StorageInvFrom initial read) := by
  intro params ctx l h hctx
  obtain ⟨depth, rfl⟩ := newEvaluation_eq_ok h
  exact ⟨hctx.stored, hctx.preloaded, hctx.loads⟩

variable (env : VmEnvironment)

theorem keeps_deployContractAtAddress_storageInvFrom (h : HostReads n J read host)
    (address salt : Bytes) :
    Keeps (Within n J (StorageInvFrom initial read)) (deployContractAtAddress env host address salt) := by
  refine Proc.keeps_of_ensures (Within.ensures_deployContractAtAddress env h.toHostKeepsAt
    (fun _ hl => hl) (fun ctx c _ hl => ?_) address salt)
  have hset : StorageInvFrom initial read { ctx with
      deployedContracts := ctx.deployedContracts.set c.contractPublicKey c } :=
    ⟨hl.stored, hl.preloaded, hl.loads⟩
  have hdeployed : LoadOk (readOver initial read) ctx.trace (.deployed c) := trivial
  exact hset.note (fun _ _ => rfl) hdeployed

theorem keeps_note_storageInvFrom {action : FrameAction} (hwrites : ∀ a p, action.writes a p = none)
    (hok : ∀ before, LoadOk (readOver initial read) before action) :
    Keeps (Within n J (StorageInvFrom initial read)) (method (Method.note action) : EvalM σ Unit) :=
  Within.keeps_method (keepsId_note action) fun _ hl => hl.note hwrites (hok _)

theorem keeps_preloadPointers_storageInvFrom (h : HostReads n J read host) (pointers : List (Bytes × U256)) :
    Keeps (Within n J (StorageInvFrom initial read)) (preloadPointers env host pointers) := by
  intro f hf
  have hn : f.locals.evaluation.blockNumber = n := hf.blockNumber
  have hrest (values : List ((Bytes × U256) × Option U256)) : Ensures
      (fun f' => (∀ e ∈ values, e.2 = read e.1.1 e.1.2) ∧
        Within n J (StorageInvFrom initial read) f' ∧ f'.locals = f.locals)
      (method (Proc.modify fun l =>
        { l with
          ctx := { l.ctx with
            preloadStorage := values.foldl (fun preload entry =>
              preload.setSlot entry.1.1 entry.1.2 (entry.2.getD 0)) l.ctx.preloadStorage } }))
      (fun _ => Within n J (StorageInvFrom initial read)) (Within n J (StorageInvFrom initial read)) :=
    fun f' hf' => ⟨hf'.2.1.host, hf'.2.1.blockNumber, hf'.2.1.shared.preload hf'.1⟩
  show Within n J (StorageInvFrom initial read) (bindResult _ _).2
  unfold throwIf
  split_ifs
  · exact hf
  · show Within n J _ (bindResult _ (onHost _ f)).2
    rw [hn]
    exact (ensures_bind (Within.ensures_onHost (h.readsMultiple pointers) f.locals) hrest f
      ⟨hf, rfl⟩).state

theorem callsKeep_storageInvFrom (h : HostReads n J read host) :
    Within.CallsKeep env host n J (StorageInvFrom initial read) where
  methods := h.toHostKeepsAt
  closed := sharedClosed_storageInvFrom
  preload := keeps_preloadPointers_storageInvFrom env h
  load := keeps_load_storageInvFrom h
  store pointer value := by
    refine Within.keeps_method (keepsId_setStorage _ _) fun l hl => ?_
    -- the write goes to the storage of the transaction and to the trace alike
    refine ⟨fun a p => ?_, hl.preloaded, atEach_concat.mpr ⟨hl.loads, trivial⟩⟩
    show TreeValues.slot (TreeValues.setSlot l.ctx.storage _ pointer value) a p =
      (written (l.ctx.trace ++ [_]) a p).or _
    rw [TreeValues.slot_setSlot, written_append_singleton, FrameAction.writes, hl.stored]
    split_ifs
    · rfl
    · rfl
  deploy body hbody gasUsed address salt := by
    have hrun := Within.runKeeps_runFrame env sharedClosed_storageInvFrom h.toHostKeepsAt
      (keeps_preloadPointers_storageInvFrom env h) startKeeps_storageInvFrom hbody true
    unfold deployContractFromAddressRaw
    refine Within.keeps_locals fun start _ => keeps_tryCatch ?_ fun e => ?_
    · refine keeps_bind (Within.keeps_method (keepsId_onContext _) ?_) fun _ => ?_
      · apply keepsShared_onContext
        intro ctx ctx' hctx' hctx
        obtain ⟨-, rfl⟩ := TransactionContext.incrementContractDeployDepth_eq_ok hctx'
        exact ⟨hctx.stored, hctx.preloaded, hctx.loads⟩
      refine keeps_bind (Within.keeps_setGasUsed sharedClosed_storageInvFrom gasUsed) fun _ => ?_
      refine keeps_bind (keeps_deployContractAtAddress_storageInvFrom env h address salt)
        fun deployed => keeps_bind (keeps_throwIf _ _) fun _ => ?_
      refine keeps_bind (Within.keeps_internalCall sharedClosed_storageInvFrom h.toHostKeepsAt hrun
        deployed.1) fun response => ?_
      refine keeps_bind (keeps_note_storageInvFrom (fun _ _ => rfl) fun _ => trivial) fun _ => ?_
      exact Within.keeps_locals fun l _ => keeps_pure _
    · refine keeps_bind (keeps_note_storageInvFrom (fun _ _ => rfl) fun _ => trivial) fun _ => ?_
      refine keeps_bind (Within.keeps_setRevert _) fun _ => ?_
      exact Within.keeps_locals fun l _ => keeps_pure _
  update gasUsed := by
    unfold updateContractFromAddressRaw
    refine Within.keeps_locals fun start _ => keeps_tryCatch ?_ fun e => ?_
    · refine keeps_bind (Within.keeps_method (keepsId_onContext _) ?_) fun _ => ?_
      · apply keepsShared_onContext
        intro ctx ctx' hctx' hctx
        obtain ⟨-, rfl⟩ := TransactionContext.incrementContractUpdates_eq_ok hctx'
        exact ⟨hctx.stored, hctx.preloaded, hctx.loads⟩
      refine keeps_bind (Within.keeps_setGasUsed sharedClosed_storageInvFrom gasUsed) fun _ => ?_
      exact keeps_throw _
    · refine keeps_bind (keeps_note_storageInvFrom (fun _ _ => rfl) fun _ => trivial) fun _ => ?_
      refine keeps_bind (Within.keeps_setRevert _) fun _ => ?_
      exact Within.keeps_locals fun l _ => keeps_pure _

end

/-! ### A transaction of a block -/

section

variable (env : VmEnvironment) (T : RustMerkleTree) {db : VMStorage} {n : Nat}
  {tree : MerkleTree U256 U256} {receipts : MerkleTree ReceiptKey Bytes} {vm : VMManager}

end

/-! ### All transactions of a block -/

section

variable (env : VmEnvironment) (T : RustMerkleTree) (settings : BlockSettings) {db : VMStorage}
  {n : Nat}

def AtBlock (db : VMStorage) (n : Nat) (vm : VMManager) : Prop :=
  ∃ tree receipts, InBlock db n tree receipts vm

theorem AtBlock.keeps_onReceiptState
    (f : MerkleTree ReceiptKey Bytes → Except MerkleError (MerkleTree ReceiptKey Bytes)) :
    Keeps (AtBlock db n) (onReceiptState f) := by
  rintro vm ⟨tree, receipts, h⟩
  unfold onReceiptState
  rw [h.receiptState]
  dsimp only
  cases f receipts with
  | error e => exact ⟨tree, receipts, h⟩
  | ok receipts' =>
    have hslots : ∀ a p, tree.values.slot a p = none → tree.values.slot a p = none :=
      fun _ _ hnone => hnone
    have hset := h.setTrees receipts' hslots
    rw [← h.blockState] at hset
    exact ⟨tree, receipts', hset⟩

end

end OpnetNode
