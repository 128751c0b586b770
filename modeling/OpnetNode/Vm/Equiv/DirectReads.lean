import OpnetNode.Vm.Equiv.StorageSemantics

/-!
# Direct reads

What `getStorage` reads in a VM, apart from the guard and the proofs that may make it throw: the tree
of the block, then the pointer cache, then the documents below a height (`directRead`).  Reading,
caching what was read and inserting contracts change none of it (`SameReads`), so the methods of the VM
read as it did at the start (`hostReads_sameReads`).
-/

namespace OpnetNode

open Proc EvalM VMManager

namespace PointerPreload

/-! ### Direct reads -/

/-- The slot in the tree of the block. -/
def stateSlot (vm : VMManager) (a : Bytes) (p : U256) : Option U256 :=
  vm.blockState.bind fun tree => tree.values.slot a p

/-- A slot that the VM knows without the database. -/
def knownSlot (vm : VMManager) (a : Bytes) (p : U256) : Option U256 :=
  (stateSlot vm a p).or (vm.pointerCache.get (a, p)).join

/-- What `getStorage` finds in the block, the cache and the documents below a height. -/
def directRead (n : Nat) (vm : VMManager) (a : Bytes) (p : U256) : Option U256 :=
  (knownSlot vm a p).or (vm.database.getStorage a p n)

/-- What a load of a slot reads without preloading. -/
def loadedDirectly (T : RustMerkleTree) (n : Nat) (vm : VMManager) (a : Bytes) (p : U256) :
    Option U256 :=
  (VMManager.getStorage T a p n vm).1.toOption.join

/-- The part of a lookup that may throw. -/
def stateRead (T : RustMerkleTree) (vm : VMManager) (a : Bytes) (p : U256) :
    Except VmError (Option U256) :=
  match vm.blockState with
  | some tree => getValueWithProofs T tree a p
  | none => .ok none

/-- The guard of the storage methods. -/
def Refuses (vm : VMManager) : Prop := (vm.blockState.isNone && !vm.isExecutor) = true

section

variable {T : RustMerkleTree} {n : Nat} {vm vm₀ : VMManager} {a : Bytes} {p : U256}

theorem getFromInternalCache_eq (vm : VMManager) (a : Bytes) (p : U256) :
    getFromInternalCache T vm a p = (stateRead T vm a p).map fun _ => knownSlot vm a p := by
  unfold getFromInternalCache stateRead knownSlot stateSlot
  cases vm.blockState with
  | none => rfl
  | some tree =>
    show (getValueWithProofs T tree a p >>= fun fromState => _) =
      (getValueWithProofs T tree a p).map _
    cases hread : getValueWithProofs T tree a p with
    | error e => rfl
    | ok value =>
      obtain rfl := eq_slot_of_getValueWithProofs hread
      rfl

theorem requireBlockState_refused (hguard : Refuses vm) :
    requireBlockState vm = (.error .blockStateNotFound, vm) := by
  unfold requireBlockState
  unfold Refuses at hguard
  rw [if_pos hguard]

theorem requireBlockState_passed (hguard : ¬ Refuses vm) : requireBlockState vm = (.ok (), vm) := by
  unfold requireBlockState
  unfold Refuses at hguard
  rw [if_neg hguard]

theorem getStorage_fst (hguard : ¬ Refuses vm) (a : Bytes) (p : U256) :
    (VMManager.getStorage T a p n vm).1 =
      (stateRead T vm a p).map fun _ => directRead n vm a p := by
  show (bindResult _ (requireBlockState vm)).1 = _
  rw [requireBlockState_passed hguard, bindResult_ok]
  show (bindResult _ (getFromInternalCache T _ a p, _)).1 = _
  rw [getFromInternalCache_eq]
  show (bindResult _ ((stateRead T vm a p).map fun _ => knownSlot vm a p, _)).1 = _
  unfold directRead
  cases stateRead T vm a p with
  | error e => rfl
  | ok value =>
    show (bindResult _ _).1 = .ok ((knownSlot vm a p).or _)
    cases knownSlot vm a p with
    | none | some => rfl

theorem loadedDirectly_eq (hguard : ¬ Refuses vm) {value : Option U256}
    (h : stateRead T vm a p = .ok value) : loadedDirectly T n vm a p = directRead n vm a p := by
  unfold loadedDirectly
  rw [getStorage_fst hguard, h]
  rfl

theorem of_loadedDirectly_eq_some {v : U256} (h : loadedDirectly T n vm a p = some v) :
    directRead n vm a p = some v := by
  unfold loadedDirectly at h
  by_cases hguard : Refuses vm
  · have hrefused : (VMManager.getStorage T a p n vm).1 = .error .blockStateNotFound := by
      show (bindResult _ (requireBlockState vm)).1 = _
      rw [requireBlockState_refused hguard]
      rfl
    rw [hrefused] at h
    cases h
  · rw [getStorage_fst hguard] at h
    cases hread : stateRead T vm a p with
    | error e =>
      rw [hread] at h
      cases h
    | ok value =>
      rw [hread] at h
      exact h

/-! ### VMs that read the same -/

/-- The VM reads every slot as `vm₀` does. -/
structure SameReads (n : Nat) (vm₀ vm : VMManager) : Prop where
  isExecutor : vm.isExecutor = vm₀.isExecutor
  blockState : vm.blockState = vm₀.blockState
  pointers : vm.database.pointers = vm₀.database.pointers
  reads : ∀ a p, directRead n vm a p = directRead n vm₀ a p

theorem SameReads.refl (n : Nat) (vm : VMManager) : SameReads n vm vm :=
  ⟨rfl, rfl, rfl, fun _ _ => rfl⟩

theorem SameReads.refuses_iff (h : SameReads n vm₀ vm) : Refuses vm ↔ Refuses vm₀ := by
  unfold Refuses
  rw [h.blockState, h.isExecutor]

theorem SameReads.stateRead_eq (h : SameReads n vm₀ vm) (a : Bytes) (p : U256) :
    stateRead T vm a p = stateRead T vm₀ a p := by
  unfold stateRead
  rw [h.blockState]

theorem SameReads.loadedDirectly_eq (h : SameReads n vm₀ vm) (hguard : ¬ Refuses vm₀)
    {value : Option U256} (hread : stateRead T vm a p = .ok value) :
    loadedDirectly T n vm₀ a p = directRead n vm a p := by
  rw [h.stateRead_eq] at hread
  rw [PointerPreload.loadedDirectly_eq hguard hread, h.reads]

theorem contractReadClosed_sameReads : ContractReadClosed (SameReads n vm₀) where
  lookups _ _ h := ⟨h.isExecutor, h.blockState, h.pointers, h.reads⟩
  contractAddressCache _ _ _ h _ := ⟨h.isExecutor, h.blockState, h.pointers, h.reads⟩
  contractCache _ _ _ h _ := ⟨h.isExecutor, h.blockState, h.pointers, h.reads⟩

theorem SameReads.storePointerInCache (h : SameReads n vm₀ vm) {value : Option U256}
    (hvalue : value = directRead n vm₀ a p) :
    SameReads n vm₀ { vm with pointerCache := vm.pointerCache.set (a, p) value } := by
  refine ⟨h.isExecutor, h.blockState, h.pointers, fun a' p' => ?_⟩
  rw [← h.reads a p] at hvalue
  rw [← h.reads a' p']
  by_cases hkey : (a', p') = (a, p)
  · obtain ⟨rfl, rfl⟩ := Prod.mk.inj hkey
    show ((stateSlot vm a' p').or (JsMap.get _ (a', p')).join).or (vm.database.getStorage a' p' n) =
      _
    rw [JsMap.get_set_self, Option.join_some, hvalue]
    unfold directRead knownSlot
    cases stateSlot vm a' p' with
    | some v => rfl
    | none => cases (vm.pointerCache.get (a', p')).join <;> cases vm.database.getStorage a' p' n <;> rfl
  · show ((stateSlot vm a' p').or (JsMap.get _ (a', p')).join).or (vm.database.getStorage a' p' n) =
      _
    rw [JsMap.get_set_of_ne _ _ hkey]
    rfl

theorem keeps_getStorage_sameReads (a : Bytes) (p : U256) :
    Keeps (SameReads n vm₀) (VMManager.getStorage T a p n) := by
  unfold VMManager.getStorage
  refine keeps_bind keeps_requireBlockState fun _ => ?_
  refine keeps_bind (VMManager.keeps_note contractReadClosed_sameReads _) fun _ => ?_
  intro vm h
  show SameReads n vm₀ (bindResult _ (getFromInternalCache T vm a p, vm)).2
  rw [getFromInternalCache_eq]
  cases stateRead T vm a p with
  | error e => exact h
  | ok value =>
    show SameReads n vm₀ (bindResult _ (.ok (knownSlot vm a p), vm)).2
    rw [bindResult_ok]
    cases hknown : knownSlot vm a p with
    | some v => exact h
    | none =>
      refine h.storePointerInCache (a := a) (p := p) ?_
      rw [← h.reads, directRead, hknown, Option.none_or]

theorem ensures_getStorage_sameReads (a : Bytes) (p : U256) :
    Ensures (SameReads n vm₀) (VMManager.getStorage T a p n)
      (fun value vm => value = loadedDirectly T n vm₀ a p ∧ SameReads n vm₀ vm)
      (SameReads n vm₀) := by
  intro vm h
  have hkeeps := keeps_getStorage_sameReads (T := T) a p vm h
  by_cases hguard : Refuses vm
  · have hrefused : VMManager.getStorage T a p n vm = (.error .blockStateNotFound, vm) := by
      show bindResult _ (requireBlockState vm) = _
      rw [requireBlockState_refused hguard]
      rfl
    rw [hrefused]
    exact h
  · have hfst := getStorage_fst (T := T) (n := n) hguard a p
    rcases hrun : VMManager.getStorage T a p n vm with ⟨e | value, vm'⟩
    · rw [hrun] at hkeeps
      exact hkeeps
    · rw [hrun] at hkeeps hfst
      refine ⟨?_, hkeeps⟩
      rw [h.refuses_iff] at hguard
      cases hread : stateRead T vm a p with
      | error e =>
        rw [hread] at hfst
        cases hfst
      | ok state =>
        rw [hread] at hfst
        rw [h.loadedDirectly_eq hguard hread]
        exact Except.ok.inj hfst

theorem ensures_collectSlots_sameReads (hguard : ¬ Refuses vm₀) (pointers : List (Bytes × U256)) :
    ∀ collected, (∀ e ∈ collected, e.2 = loadedDirectly T n vm₀ e.1.1 e.1.2) →
      Ensures (SameReads n vm₀) (Proc.foldEach (collectSlot T n) collected pointers)
        (fun values vm => (∀ e ∈ values, e.2 = loadedDirectly T n vm₀ e.1.1 e.1.2) ∧
          SameReads n vm₀ vm) (SameReads n vm₀) := by
  induction pointers with
  | nil => exact fun collected hcollected vm h => ⟨hcollected, h⟩
  | cons slot pointers ih =>
    intro collected hcollected
    refine ensures_bind (Q := fun values vm =>
      (∀ e ∈ values, e.2 = loadedDirectly T n vm₀ e.1.1 e.1.2) ∧ SameReads n vm₀ vm) ?_
      fun values vm hvalues => ih values hvalues.1 vm hvalues.2
    unfold collectSlot
    refine ensures_bind (ensures_of_keeps (VMManager.keeps_note contractReadClosed_sameReads _)) fun _ => ?_
    intro vm h
    show Outcome _ _ (bindResult _ (getFromInternalCache T vm slot.1 slot.2, vm))
    rw [getFromInternalCache_eq]
    cases hread : stateRead T vm slot.1 slot.2 with
    | error e => exact h
    | ok state =>
      refine And.intro (fun e he => ?_) h
      rcases List.mem_append.mp he with he | he
      · exact hcollected e he
      · obtain rfl := List.mem_singleton.mp he
        exact (h.loadedDirectly_eq hguard hread).symm

theorem keeps_storeSlots_sameReads {values : List ((Bytes × U256) × Option U256)}
    (hvalues : ∀ e ∈ values, e.2 = loadedDirectly T n vm₀ e.1.1 e.1.2) :
    Keeps (SameReads n vm₀) (Proc.forEach (fun entry : (Bytes × U256) × Option U256 =>
      match entry.2 with
      | some value => storePointerInCache entry.1.1 entry.1.2 (some value)
      | none => pure ()) values : VmM Unit) := by
  refine keeps_forEach_of_mem fun entry hentry => ?_
  have hvalue := hvalues entry hentry
  obtain ⟨slot, _ | value⟩ := entry
  · exact keeps_pure ()
  · exact fun vm hvm => hvm.storePointerInCache (of_loadedDirectly_eq_some hvalue.symm).symm

theorem ensures_getStorageMultiple_sameReads (pointers : List (Bytes × U256)) :
    Ensures (SameReads n vm₀) (VMManager.getStorageMultiple T pointers n)
      (fun values vm => (∀ e ∈ values, e.2 = loadedDirectly T n vm₀ e.1.1 e.1.2) ∧
        SameReads n vm₀ vm) (SameReads n vm₀) := by
  intro vm h
  show Outcome _ _ (bindResult _ (requireBlockState vm))
  by_cases hguard : Refuses vm
  · rw [requireBlockState_refused hguard]
    exact h
  · rw [requireBlockState_passed hguard, bindResult_ok]
    rw [h.refuses_iff] at hguard
    have hnil : ∀ e ∈ ([] : List ((Bytes × U256) × Option U256)),
        e.2 = loadedDirectly T n vm₀ e.1.1 e.1.2 := by simp
    refine ensures_bind (ensures_collectSlots_sameReads hguard pointers [] hnil)
      (fun values => ?_) vm h
    rintro vm ⟨hvalues, hvm⟩
    have hstore := keeps_storeSlots_sameReads (T := T) hvalues
    refine ensures_bind (ensures_of_keeps hstore) (fun _ vm' hvm' => ?_) vm hvm
    exact ⟨hvalues, hvm'⟩

theorem getStorage_congr {db db' : VMStorage} (h : db.pointers = db'.pointers) (a : Bytes)
    (p : U256) (n : Nat) : db.getStorage a p n = db'.getStorage a p n := by
  unfold VMStorage.getStorage
  rw [h]

theorem keeps_deployContract_sameReads (env : VmEnvironment) (c : ContractInformation) :
    Keeps (SameReads n vm₀) (deployContractFromInfo env c) := by
  intro vm h
  cases hexecutor : vm.isExecutor with
  | true =>
    show SameReads n vm₀ ((if vm.isExecutor then pure () else _ : VmM Unit) vm).2
    rw [hexecutor]
    exact h
  | false =>
    rw [deployContractFromInfo_eq env c hexecutor, setContractAt_eq]
    cases hset : vm.database.setContract env c with
    | error e => exact ⟨h.isExecutor, h.blockState, h.pointers, h.reads⟩
    | ok database =>
      have hpointers : database.pointers = vm.database.pointers := by rw [setContract_eq env hset]
      refine ⟨h.isExecutor, h.blockState, hpointers.trans h.pointers, fun a p => ?_⟩
      rw [← h.reads a p]
      exact congrArg (fun stored => (knownSlot vm a p).or stored)
        (getStorage_congr hpointers a p n)

/-- The methods of the VM read as `vm₀` does. -/
theorem hostReads_sameReads (env : VmEnvironment) (T : RustMerkleTree) (n : Nat) (vm₀ : VMManager) :
    HostReads n (SameReads n vm₀) (loadedDirectly T n vm₀) (vmHost env T) := by
  refine ⟨⟨keeps_getStorage_sameReads, VMManager.keeps_isContract contractReadClosed_sameReads env,
    fun a => VMManager.keeps_getContractInformation contractReadClosed_sameReads a n,
    VMManager.keeps_isCached contractReadClosed_sameReads,
    fun a => VMManager.keeps_contractExistsBelow contractReadClosed_sameReads a n,
    fun c => keeps_deployContract_sameReads env c⟩, ensures_getStorage_sameReads,
    ensures_getStorageMultiple_sameReads⟩

end

end PointerPreload

end OpnetNode
