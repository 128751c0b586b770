import OpnetNode.Vm.Block
import OpnetNode.Vm.Equiv.HostSimulation
import OpnetNode.Vm.Equiv.VMManager

/-!
# What a transaction of a block reads

While a transaction of a block is evaluated, a slot is read from the tree of the block, from the
pointer cache or from the database, in this order.  As long as the tree answers for the slots that
are looked up (`TreeAnswers`) and the cache only has what the database has below the block, all three
together are one function: the writes of the block over the stored state (`blockRead`).
`evaluates_reading` says so for whole transactions: the evaluation is the one over a host that
answers every read by that function.
-/

namespace OpnetNode

open Proc EvalM VMManager

/-- The tree of a block answers for the slots among the lookups. -/
def TreeAnswers (T : RustMerkleTree) (tree : MerkleTree U256 U256) (lookups : List Lookup) : Prop :=
  ∀ a p, .slot a p ∈ lookups → getValueWithProofs T tree a p = .ok (tree.values.slot a p)

theorem TreeAnswers.mono {T : RustMerkleTree} {tree : MerkleTree U256 U256}
    {lookups lookups' : List Lookup} (h : TreeAnswers T tree lookups') (hsub : lookups ⊆ lookups') :
    TreeAnswers T tree lookups := fun a p hslot => h a p (hsub hslot)

/-- The writes of a block over the state stored below it. -/
def blockRead (db : VMStorage) (n : Nat) (tree : MerkleTree U256 U256) (a : Bytes)
    (p : U256) : Option U256 :=
  (tree.values.slot a p).or (db.getStorage a p n)

/-- A VM in the middle of a block: its trees, its height, the stored slots, and a pointer cache that
only has stored slots where the tree has none. -/
structure InBlock (db : VMStorage) (n : Nat) (tree : MerkleTree U256 U256)
    (receipts : MerkleTree ReceiptKey Bytes) (vm : VMManager) : Prop where
  isExecutor : vm.isExecutor = false
  height : vm.height = n
  database : vm.database = { db with contracts := vm.database.contracts }
  blockState : vm.blockState = some tree
  receiptState : vm.receiptState = some receipts
  cached : ∀ a p v, vm.pointerCache.get (a, p) = some (some v) → tree.values.slot a p = none →
    db.getStorage a p n = some v

section

variable {T : RustMerkleTree} {db : VMStorage} {n : Nat} {tree : MerkleTree U256 U256}
  {receipts : MerkleTree ReceiptKey Bytes}

theorem InBlock.getStorage_database {vm : VMManager} (h : InBlock db n tree receipts vm)
    (a : Bytes) (p : U256) (k : Nat) : vm.database.getStorage a p k = db.getStorage a p k := by
  rw [h.database]
  rfl

/-- A VM in the block that may differ from `vm` in its pointer cache and by further lookups only. -/
structure Near (db : VMStorage) (n : Nat) (tree : MerkleTree U256 U256)
    (receipts : MerkleTree ReceiptKey Bytes) (vm vm' : VMManager) : Prop
    extends InBlock db n tree receipts vm' where
  near : vm' = { vm with pointerCache := vm'.pointerCache, lookups := vm'.lookups }
  grows : vm.lookups.length ≤ vm'.lookups.length

theorem eq_slot_of_getValueWithProofs {a : Bytes} {p : U256} {value : Option U256}
    (h : getValueWithProofs T tree a p = .ok value) : value = tree.values.slot a p := by
  unfold getValueWithProofs at h
  split at h
  next hslot => rw [hslot, Except.ok.inj h]
  next hslot _ => rw [hslot, Except.ok.inj h]
  next hslot _ =>
    dsimp only at h
    split at h
    · cases h
    · rw [hslot, Except.ok.inj h]

/-- The lookups of a procedure that was started in `vm` and stands at `vm'`. -/
def lookupsSince (vm vm' : VMManager) : List Lookup := vm'.lookups.drop vm.lookups.length

/-- A tree that does not answer for a slot may throw when the slot is looked up. -/
def ReadThrows (T : RustMerkleTree) (db : VMStorage) (n : Nat) (tree : MerkleTree U256 U256)
    (receipts : MerkleTree ReceiptKey Bytes) (vm : VMManager) (E : VMManager → Prop) : Prop :=
  ∀ vm', Near db n tree receipts vm vm' → ¬ TreeAnswers T tree (lookupsSince vm vm') → E vm'

variable {vm : VMManager} {E : VMManager → Prop}

theorem ensures_getFromInternalCache (hE : ReadThrows T db n tree receipts vm E) (a : Bytes)
    (p : U256) :
    Ensures (fun vm' => Near db n tree receipts vm vm' ∧ .slot a p ∈ lookupsSince vm vm')
      (ofExcept fun vm => getFromInternalCache T vm a p)
      (fun known vm' => Near db n tree receipts vm vm' ∧
        known.or (db.getStorage a p n) = blockRead db n tree a p) E := by
  rintro vm' ⟨h, hnoted⟩
  show Outcome _ _ (getFromInternalCache T vm' a p, vm')
  unfold getFromInternalCache
  rw [h.blockState]
  show Outcome _ _ ((getValueWithProofs T tree a p >>= fun fromState => _), vm')
  cases hread : getValueWithProofs T tree a p with
  | error e =>
    apply hE vm' h
    intro hanswers
    rw [hanswers a p hnoted] at hread
    cases hread
  | ok value =>
    obtain rfl := eq_slot_of_getValueWithProofs hread
    refine ⟨h, ?_⟩
    unfold blockRead
    cases hslot : tree.values.slot a p with
    | some v => rfl
    | none =>
      rw [Option.none_or, Option.none_or]
      cases hget : vm'.pointerCache.get (a, p) with
      | none => rfl
      | some cached =>
        cases cached with
        | none => rfl
        | some v => exact (h.cached a p v hget hslot).symm

theorem ensures_requireBlockState :
    Ensures (Near db n tree receipts vm) requireBlockState
      (fun _ => Near db n tree receipts vm) E := by
  intro vm' h
  show Outcome _ _ (_, vm')
  rw [h.blockState]
  exact h

theorem ensures_note (lookup : Lookup) :
    Ensures (Near db n tree receipts vm) (note lookup)
      (fun _ vm' => Near db n tree receipts vm vm' ∧ lookup ∈ lookupsSince vm vm') E := by
  intro vm' h
  have hlength : vm.lookups.length ≤ vm'.lookups.length := h.grows
  refine ⟨⟨⟨h.isExecutor, h.height, h.database, h.blockState, h.receiptState, h.cached⟩, ?_, ?_⟩, ?_⟩
  · show { vm' with lookups := _ } = _
    rw [h.near]
  · show vm.lookups.length ≤ (vm'.lookups ++ [lookup]).length
    rw [List.length_append]
    omega
  · show lookup ∈ (vm'.lookups ++ [lookup]).drop vm.lookups.length
    rw [List.drop_append_of_le_length hlength]
    simp

theorem ensures_storePointerInCache (a : Bytes) (p : U256) (value : Option U256)
    (hvalue : value = blockRead db n tree a p) :
    Ensures (Near db n tree receipts vm) (storePointerInCache a p value)
      (fun _ => Near db n tree receipts vm) E := by
  intro vm' h
  refine ⟨⟨h.isExecutor, h.height, h.database, h.blockState, h.receiptState, ?_⟩, ?_, h.grows⟩
  · intro a' p' v hget hslot
    replace hget : (vm'.pointerCache.set (a, p) value).get (a', p') = some (some v) := hget
    rw [JsMap.get_set] at hget
    by_cases hkey : (a', p') = (a, p)
    · cases hkey
      rw [if_pos rfl] at hget
      rw [Option.some.inj hget, blockRead, hslot, Option.none_or] at hvalue
      exact hvalue.symm
    · rw [if_neg hkey] at hget
      exact h.cached a' p' v hget hslot
  · show { vm' with pointerCache := _ } = _
    rw [h.near]

theorem ensures_getStorage (hE : ReadThrows T db n tree receipts vm E) (a : Bytes) (p : U256) :
    Ensures (Near db n tree receipts vm) (VMManager.getStorage T a p n)
      (fun value vm' => value = blockRead db n tree a p ∧
        Near db n tree receipts vm vm') E := by
  unfold VMManager.getStorage
  refine ensures_bind ensures_requireBlockState fun _ => ?_
  refine ensures_bind (ensures_note _) fun _ => ?_
  refine ensures_bind (ensures_getFromInternalCache hE a p) fun known => ?_
  cases known with
  | some value => exact fun vm' h => ⟨h.2, h.1⟩
  | none =>
    rintro vm' ⟨h, hread⟩
    rw [Option.none_or] at hread
    have hstored : vm'.database.getStorage a p n = blockRead db n tree a p :=
      (h.getStorage_database a p n).trans hread
    exact And.intro hstored (ensures_storePointerInCache (E := E) a p _ hstored vm' h)

def readSlot (db : VMStorage) (n : Nat) (tree : MerkleTree U256 U256) (slot : Bytes × U256) :
    (Bytes × U256) × Option U256 :=
  (slot, blockRead db n tree slot.1 slot.2)

theorem ensures_collectSlots (hE : ReadThrows T db n tree receipts vm E) (pointers : List (Bytes × U256))
    (collected : List ((Bytes × U256) × Option U256)) :
    Ensures (Near db n tree receipts vm)
      (Proc.foldEach (collectSlot T n) collected pointers)
      (fun values vm' => values = collected ++ pointers.map (readSlot db n tree) ∧
        Near db n tree receipts vm vm') E := by
  induction pointers generalizing collected with
  | nil => exact fun vm' h => ⟨(List.append_nil _).symm, h⟩
  | cons slot pointers ih =>
    refine ensures_bind (Q := fun values vm' => values = collected ++ [readSlot db n tree slot] ∧
      Near db n tree receipts vm vm') ?_ fun values => ?_
    · refine ensures_bind (ensures_note _) fun _ => ?_
      refine ensures_bind (ensures_getFromInternalCache hE slot.1 slot.2) fun known => ?_
      rintro vm' ⟨h, hread⟩
      refine And.intro ?_ h
      rw [h.getStorage_database, hread]
      rfl
    · rintro vm' ⟨rfl, h⟩
      refine (ih _ vm' h).mono (fun values vm'' hvalues => ?_) fun _ hf => hf
      exact ⟨hvalues.1.trans (by simp), hvalues.2⟩

theorem ensures_storeSlots (values : List ((Bytes × U256) × Option U256))
    (hvalues : ∀ entry ∈ values, entry.2 = blockRead db n tree entry.1.1 entry.1.2) :
    Ensures (Near db n tree receipts vm)
      (Proc.forEach (fun entry : (Bytes × U256) × Option U256 =>
        match entry.2 with
        | some value => storePointerInCache entry.1.1 entry.1.2 (some value)
        | none => pure ()) values : VmM Unit)
      (fun _ => Near db n tree receipts vm) E := by
  induction values with
  | nil => exact fun vm' h => h
  | cons entry values ih =>
    refine ensures_bind (Q := fun _ => Near db n tree receipts vm) ?_ fun _ =>
      ih fun entry' hentry' => hvalues entry' (List.mem_cons_of_mem _ hentry')
    have hentry := hvalues entry List.mem_cons_self
    obtain ⟨slot, _ | value⟩ := entry
    · exact fun vm' h => h
    · exact ensures_storePointerInCache _ _ _ hentry

theorem ensures_getStorageMultiple (hE : ReadThrows T db n tree receipts vm E) (pointers : List (Bytes × U256)) :
    Ensures (Near db n tree receipts vm) (VMManager.getStorageMultiple T pointers n)
      (fun values vm' => values = pointers.map (readSlot db n tree) ∧
        Near db n tree receipts vm vm') E := by
  unfold VMManager.getStorageMultiple
  refine ensures_bind ensures_requireBlockState fun _ => ?_
  refine ensures_bind (ensures_collectSlots hE pointers []) fun values => ?_
  rintro vm' ⟨rfl, h⟩
  rw [List.nil_append]
  have hvalues : ∀ entry ∈ pointers.map (readSlot db n tree),
      entry.2 = blockRead db n tree entry.1.1 entry.1.2 := by
    intro entry hentry
    obtain ⟨slot, -, rfl⟩ := List.mem_map.mp hentry
    rfl
  refine ensures_bind (Q := fun _ => Near db n tree receipts vm) (ensures_storeSlots _ hvalues)
    (fun _ => ?_) vm' h
  exact fun vm'' h => ⟨rfl, h⟩

end

/-! ### The host that reads by a function -/

/-- The methods of the VM, with storage answered by a function. -/
def readHost (env : VmEnvironment) (T : RustMerkleTree) (read : Bytes → U256 → Option U256) :
    Host VMManager :=
  { vmHost env T with
    getStorage := fun a p _ => pure (read a p)
    getStorageMultiple := fun slots _ => pure (slots.map fun slot => (slot, read slot.1 slot.2)) }

/-- A transaction whose reads are answered by a function. -/
def runReading (env : VmEnvironment) (T : RustMerkleTree) (read : Bytes → U256 → Option U256)
    (blockHeight : Nat) (tx : OPNetTransaction) : VmM Locals := do
  let call ← RootCall.ofTransaction blockHeight tx
  call.runOn env (readHost env T read)

section

variable (env : VmEnvironment) {T : RustMerkleTree} {db : VMStorage} {n : Nat}
  {tree : MerkleTree U256 U256} {receipts : MerkleTree ReceiptKey Bytes}

/-- The first VM is in the block, at `k` lookups or more, and the second differs in its pointer cache
and its lookups only. -/
def ReadRel (db : VMStorage) (n : Nat) (tree : MerkleTree U256 U256)
    (receipts : MerkleTree ReceiptKey Bytes) (k : Nat) (vm vm' : VMManager) : Prop :=
  InBlock db n tree receipts vm ∧ k ≤ vm.lookups.length ∧
    ∃ pointerCache lookups, vm' = { vm with pointerCache, lookups }

/-- The tree answers for what was looked up since the first `k` lookups. -/
def AnswersFrom (T : RustMerkleTree) (tree : MerkleTree U256 U256) (k : Nat) (vm : VMManager) : Prop :=
  TreeAnswers T tree (vm.lookups.drop k)

variable {k : Nat} {vm : VMManager}

theorem AnswersFrom.of_append {vm' : VMManager} {lookups : List Lookup}
    (h : AnswersFrom T tree k vm') (hlookups : vm'.lookups = vm.lookups ++ lookups) :
    AnswersFrom T tree k vm := by
  apply TreeAnswers.mono h
  rw [hlookups, List.drop_append]
  exact List.subset_append_left _ _

theorem readClosed_not_answersFrom (k : Nat) : ReadClosed fun vm => ¬ AnswersFrom T tree k vm where
  lookups _ _ h hanswers := h (hanswers.of_append rfl)
  contractAddressCache _ _ _ h _ := h
  contractCache _ _ _ h _ := h
  pointerCache _ _ h := h

variable {α : Type}

theorem answersFrom_of_keeps {m : VmM α} (h : Keeps (fun vm => ¬ AnswersFrom T tree k vm) m)
    (hanswers : AnswersFrom T tree k (m vm).2) : AnswersFrom T tree k vm :=
  Classical.byContradiction fun hnot => h vm hnot hanswers

variable {k : Nat}

theorem simulates_of_ensures {m : VmM α} {x : α}
    (hkeeps : Keeps (fun vm => ¬ AnswersFrom T tree k vm) m)
    (h : ∀ vm, Ensures (Near db n tree receipts vm) m
      (fun value vm' => value = x ∧ Near db n tree receipts vm vm')
      fun vm' => ¬ TreeAnswers T tree (lookupsSince vm vm')) :
    OnHosts (ReadRel db n tree receipts k) (AnswersFrom T tree k) m (pure x) := by
  refine ⟨fun _ _ => trivial, fun vm _ hgood => answersFrom_of_keeps hkeeps hgood, ?_⟩
  rintro vm vm' - ⟨hin, hk, pointerCache, lookups, rfl⟩ hgood
  have hrun := h vm vm ⟨hin, rfl, le_refl _⟩
  rcases hm : m vm with ⟨e | value, vm''⟩
  · rw [hm] at hrun hgood
    have hsub : lookupsSince vm vm'' ⊆ vm''.lookups.drop k := List.drop_subset_drop_left _ hk
    exact absurd (TreeAnswers.mono hgood hsub) hrun
  · rw [hm] at hrun
    obtain ⟨rfl, hnear⟩ := hrun
    refine ⟨rfl, hnear.toInBlock, le_trans hk hnear.grows, pointerCache, lookups, ?_⟩
    rw [hnear.near]
    rfl

theorem lookups_deployContractFromInfo (c : ContractInformation) (vm : VMManager) :
    ∃ lookups, (deployContractFromInfo env c vm).2.lookups = vm.lookups ++ lookups := by
  cases hexecutor : vm.isExecutor with
  | true =>
    refine ⟨[], ?_⟩
    show ((if vm.isExecutor then pure () else _ : VmM Unit) vm).2.lookups = _
    rw [hexecutor, List.append_nil]
    rfl
  | false =>
    rw [deployContractFromInfo_eq env c hexecutor, setContractAt_eq]
    exact ⟨_, rfl⟩

theorem le_length_concat {l : List α} {a : α} (h : k ≤ l.length) : k ≤ (l ++ [a]).length := by
  rw [List.length_append]
  omega

theorem inBlock_deployContractFromInfo (c : ContractInformation)
    (h : InBlock db n tree receipts vm) :
    InBlock db n tree receipts (deployContractFromInfo env c vm).2 := by
  rw [deployContractFromInfo_eq env c h.isExecutor, setContractAt_eq]
  refine ⟨h.isExecutor, h.height, ?_, h.blockState, h.receiptState, h.cached⟩
  cases hset : vm.database.setContract env c with
  | error e => exact h.database
  | ok database =>
    show database = _
    rw [setContract_eq env hset, h.database]

theorem hostSimulates_readHost :
    HostSimulates n (ReadRel db n tree receipts k) (AnswersFrom T tree k) (vmHost env T)
      (readHost env T (blockRead db n tree)) where
  getStorage a p := by
    apply simulates_of_ensures (keeps_getStorage (readClosed_not_answersFrom k) T a p n)
    exact fun vm => ensures_getStorage (fun _ _ hnot => hnot) a p
  getStorageMultiple slots := by
    apply simulates_of_ensures (keeps_getStorageMultiple (readClosed_not_answersFrom k) T slots n)
    exact fun vm => ensures_getStorageMultiple (fun _ _ hnot => hnot) slots
  isContract a := by
    have hclosed : ReadClosed fun vm => ¬ AnswersFrom T tree k vm := readClosed_not_answersFrom k
    have hkeeps := keeps_isContract hclosed.toContractReadClosed env a
    refine ⟨fun _ _ => trivial, fun vm _ hgood => answersFrom_of_keeps hkeeps hgood, ?_⟩
    rintro vm vm' - ⟨hin, hk, pointerCache, lookups, rfl⟩ -
    show (VMManager.isContract env a vm).1 = (VMManager.isContract env a _).1 ∧
      ReadRel db n tree receipts k (VMManager.isContract env a vm).2
        (VMManager.isContract env a _).2
    rw [isContract_eq, isContract_eq, getContractAddress_eq, getContractAddress_eq]
    exact ⟨rfl, ⟨hin.isExecutor, hin.height, hin.database, hin.blockState, hin.receiptState,
      hin.cached⟩, le_length_concat hk, _, _, rfl⟩
  getContractInformation a := by
    have hclosed : ReadClosed fun vm => ¬ AnswersFrom T tree k vm := readClosed_not_answersFrom k
    have hkeeps := keeps_getContractInformation hclosed.toContractReadClosed a n
    refine ⟨fun _ _ => trivial, fun vm _ hgood => answersFrom_of_keeps hkeeps hgood, ?_⟩
    rintro vm vm' - ⟨hin, hk, pointerCache, lookups, rfl⟩ -
    show (VMManager.getContractInformation a n vm).1 = (VMManager.getContractInformation a n _).1 ∧
      ReadRel db n tree receipts k (VMManager.getContractInformation a n vm).2
        (VMManager.getContractInformation a n _).2
    rw [getContractInformation_eq, getContractInformation_eq]
    exact ⟨rfl, ⟨hin.isExecutor, hin.height, hin.database, hin.blockState, hin.receiptState,
      hin.cached⟩, le_length_concat hk, _, _, rfl⟩
  isCached a := by
    refine ⟨fun _ _ => trivial, fun _ _ hgood => AnswersFrom.of_append hgood rfl, ?_⟩
    rintro vm vm' - ⟨hin, hk, pointerCache, lookups, rfl⟩ -
    exact ⟨rfl, ⟨hin.isExecutor, hin.height, hin.database, hin.blockState, hin.receiptState,
      hin.cached⟩, le_length_concat hk, _, _, rfl⟩
  contractExistsBelow a := by
    refine ⟨fun _ _ => trivial, fun _ _ hgood => AnswersFrom.of_append hgood rfl, ?_⟩
    rintro vm vm' - ⟨hin, hk, pointerCache, lookups, rfl⟩ -
    exact ⟨rfl, ⟨hin.isExecutor, hin.height, hin.database, hin.blockState, hin.receiptState,
      hin.cached⟩, le_length_concat hk, _, _, rfl⟩
  deployContract c := by
    refine ⟨fun _ _ => trivial, fun vm _ hgood => ?_, ?_⟩
    · obtain ⟨lookups, hlookups⟩ := lookups_deployContractFromInfo env c vm
      exact AnswersFrom.of_append hgood hlookups
    rintro vm vm' - ⟨hin, hk, pointerCache, lookups, rfl⟩ -
    show (deployContractFromInfo env c vm).1 = (deployContractFromInfo env c _).1 ∧
      ReadRel db n tree receipts k (deployContractFromInfo env c vm).2
        (deployContractFromInfo env c _).2
    have hother := deployContractFromInfo_eq env c
      (show ({ vm with pointerCache, lookups } : VMManager).isExecutor = false from hin.isExecutor)
    have hdeployed := inBlock_deployContractFromInfo env c hin
    rw [deployContractFromInfo_eq env c hin.isExecutor, setContractAt_eq] at hdeployed
    rw [deployContractFromInfo_eq env c hin.isExecutor, hother, setContractAt_eq, setContractAt_eq]
    exact ⟨rfl, hdeployed, le_length_concat hk, _, _, rfl⟩

theorem contractReadClosed_inBlock : ContractReadClosed (InBlock db n tree receipts) where
  lookups _ _ h := ⟨h.isExecutor, h.height, h.database, h.blockState, h.receiptState, h.cached⟩
  contractAddressCache _ _ _ h _ :=
    ⟨h.isExecutor, h.height, h.database, h.blockState, h.receiptState, h.cached⟩
  contractCache _ _ _ h _ :=
    ⟨h.isExecutor, h.height, h.database, h.blockState, h.receiptState, h.cached⟩

/-- A transaction of a block is evaluated as if every read were answered by the writes of the block
over the stored state, if the tree of the block answers for the slots it looks up. -/
theorem evaluates_reading (tx : OPNetTransaction) (h : InBlock db n tree receipts vm)
    (hanswers : TreeAnswers T tree (lookupsSince vm (runTransaction env T n tx vm).2)) :
    (runTransaction env T n tx vm).1 = (runReading env T (blockRead db n tree) n tx vm).1 ∧
      InBlock db n tree receipts (runTransaction env T n tx vm).2 := by
  have hclosed : ContractReadClosed fun vm' =>
      InBlock db n tree receipts vm' ∧ vm.lookups.length ≤ vm'.lookups.length :=
    ⟨fun vm' lookup h' => ⟨contractReadClosed_inBlock.lookups vm' lookup h'.1,
        le_length_concat h'.2⟩,
      fun vm' r a h' hfound =>
        ⟨contractReadClosed_inBlock.contractAddressCache vm' r a h'.1 hfound, h'.2⟩,
      fun vm' a c h' hc => ⟨contractReadClosed_inBlock.contractCache vm' a c h'.1 hc, h'.2⟩⟩
  have hchecks := RootCall.ensures_ofTransaction hclosed n tx vm ⟨h, le_refl _⟩
  rw [RootCall.runTransaction_eq] at hanswers ⊢
  replace hanswers : TreeAnswers T tree (lookupsSince vm
    (bindResult (fun call => call.runOn env (vmHost env T)) (RootCall.ofTransaction n tx vm)).2) :=
    hanswers
  show (bindResult _ _).1 = (bindResult _ _).1 ∧ InBlock db n tree receipts (bindResult _ _).2
  -- the checks before the call are the same for both hosts
  rcases hof : RootCall.ofTransaction n tx vm with ⟨e | call, vm₁⟩
  · rw [hof] at hchecks
    rw [bindResult_error, bindResult_error]
    exact ⟨rfl, hchecks.1⟩
  · rw [hof] at hchecks
    rw [hof, bindResult_ok] at hanswers
    obtain ⟨⟨h₁, hk⟩, hcall⟩ := hchecks
    have hhost : HostSimulates call.params.blockNumber
        (ReadRel db n tree receipts vm.lookups.length) (AnswersFrom T tree vm.lookups.length)
        (vmHost env T) (readHost env T (blockRead db n tree)) := by
      rw [hcall.blockNumber]
      exact hostSimulates_readHost env
    have hrel : ReadRel db n tree receipts vm.lookups.length vm₁ vm₁ :=
      ⟨h₁, hk, vm₁.pointerCache, vm₁.lookups, rfl⟩
    obtain ⟨hres, hin, -⟩ := (RootCall.simulates_runOn env hhost).same vm₁ vm₁ trivial hrel hanswers
    rw [bindResult_ok, bindResult_ok]
    exact ⟨hres, hin⟩

end

end OpnetNode
