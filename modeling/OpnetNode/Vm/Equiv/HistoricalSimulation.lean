import OpnetNode.Vm.Equiv.StaleContracts

/-!
# Read-only calls at a height

An executor answers read-only calls at heights of their own, and its caches survive from one call to
the next.  They are keyed without the height, and an address is resolved without one.

* `Isolated`: a call sees what was stored below its height: it ends as on a new executor, and as on a
  new executor over the database with nothing of that height or above.
* `simulations_isolated`: every call of a sequence is isolated if each of them is answered from the
  caches as from the database (`Answers`).
* `simulations_not_isolated`: a slot cached at one height is read at another, and a contract is seen
  before it was deployed.
-/

namespace OpnetNode

open Proc VMManager

namespace VMManager

variable (env : VmEnvironment) (T : RustMerkleTree)

/-- A call of `execute`, with the lookups it makes. -/
def simulate (request : SimulationRequest) (vm : VMManager) :
    Except VmError EvaluatedResult × VMManager :=
  execute env T request { vm with lookups := [] }

/-- The calls of a sequence, each with the executor it is made of. -/
def simulations : VMManager → List SimulationRequest → List (VMManager × SimulationRequest)
  | _, [] => []
  | vm, request :: requests =>
    (vm, request) :: simulations (simulate env T request vm).2 requests

/-- An executor between two calls. -/
structure Ready (db : VMStorage) (vm : VMManager) : Prop where
  isExecutor : vm.isExecutor = true
  blockState : vm.blockState = none
  database : vm.database = db

end VMManager

/-- The database with what was stored below a height only. -/
def VMStorage.storedBelow (n : Nat) (db : VMStorage) : VMStorage :=
  { db.belowHeight n with pointers := db.pointers.filter fun doc => doc.lastSeenAt < n }

/-- The second database has of the first one what was stored below the height, and perhaps more. -/
structure Restricts (db db' : VMStorage) (n : Nat) : Prop where
  getStorage : ∀ a p, db'.getStorage a p n = db.getStorage a p n
  blockHeaders : db'.blockHeaders = db.blockHeaders
  exists_ : ∀ a, db.contractExistsBelow a n = db'.contractExistsBelow a n

theorem restricts_refl (db : VMStorage) (n : Nat) : Restricts db db n :=
  ⟨fun _ _ => rfl, rfl, fun _ => rfl⟩

theorem restricts_storedBelow (db : VMStorage) (n : Nat) : Restricts db (db.storedBelow n) n := by
  refine ⟨fun a p => ?_, rfl, fun a => ?_⟩
  · have hfilter : (db.storedBelow n).pointers.filter (fun doc =>
        doc.contractAddress = a ∧ doc.pointer = p ∧ doc.lastSeenAt < n) =
        db.pointers.filter fun doc =>
          doc.contractAddress = a ∧ doc.pointer = p ∧ doc.lastSeenAt < n := by
      unfold VMStorage.storedBelow
      rw [List.filter_filter]
      apply List.filter_congr
      intro doc _
      simp only [Bool.and_eq_left_iff_imp, decide_eq_true_eq]
      exact fun h => h.2.2
    exact congrArg (fun docs => (latestDocument docs).map PointerDocument.value) hfilter
  · show _ = (db.belowHeight n).contractExistsBelow a n
    rw [← VMStorage.without_staleContracts]
    refine (VMStorage.any_without (fun c hc => decide_eq_false fun heq => ?_) _).symm
    have hle : n ≤ c.blockHeight := of_decide_eq_true (List.mem_filter.mp hc).2
    omega

/-- A lookup is answered by the caches of `vm₀`, or by its database, as by the database `db'` at the
height `n`.  Whether a contract is cached is no question of the height: it must not be cached from an
earlier call only. -/
def Answers (vm₀ : VMManager) (db' : VMStorage) (n : Nat) (before : List Lookup) : Lookup → Prop
  | .slot a p => ∀ v ∈ (vm₀.pointerCache.get (a, p)).join, vm₀.database.getStorage a p n = some v
  | .contract a =>
    (vm₀.contractCache.get a).or (vm₀.database.getContractAt a n) = db'.getContractAt a n
  | .reference r =>
    (vm₀.contractAddressCache.get r).or (findReference vm₀.database r) = findReference db' r
  | .cached a => vm₀.contractCache.has a = true → .contract a ∈ before
  | .exists_ _ => True
  | .insertion _ _ => True

instance decidableAnswers (vm₀ : VMManager) (db' : VMStorage) (n : Nat) (before : List Lookup) :
    ∀ l : Lookup, Decidable (Answers vm₀ db' n before l)
  | .slot a p =>
    Option.decidableForallMem (vm₀.pointerCache.get (a, p)).join
  | .contract a =>
    inferInstanceAs (Decidable ((vm₀.contractCache.get a).or (vm₀.database.getContractAt a n) =
      db'.getContractAt a n))
  | .reference r =>
    inferInstanceAs (Decidable ((vm₀.contractAddressCache.get r).or
      (findReference vm₀.database r) = findReference db' r))
  | .cached a =>
    inferInstanceAs (Decidable (vm₀.contractCache.has a = true → .contract a ∈ before))
  | .exists_ _ => isTrue trivial
  | .insertion _ _ => isTrue trivial

/-! ### Caches -/

section

variable {κ β : Type} [DecidableEq κ]

theorem get_fillCache (cache : JsMap κ β) (k k' : κ) (found : Option β) :
    (fillCache cache k found).get k' =
      if k' = k then (cache.get k).or found else cache.get k' := by
  unfold fillCache
  cases hget : cache.get k with
  | some v =>
    rw [Option.isSome_some, if_pos rfl]
    split_ifs with hk
    · rw [hk, hget, Option.some_or]
    · rfl
  | none =>
    rw [Option.isSome_none, if_neg Bool.false_ne_true]
    cases found with
    | none =>
      split_ifs with hk
      · rw [hk, hget, Option.or_none]
      · rfl
    | some v => rw [JsMap.get_set, Option.none_or]

/-- The pointer cache after a slot was read. -/
def fillPointer (cache : JsMap κ (Option β)) (k : κ) (stored : Option β) : JsMap κ (Option β) :=
  if (cache.get k).join.isSome then cache else cache.set k stored

theorem join_get_fillPointer (cache : JsMap κ (Option β)) (k k' : κ) (stored : Option β) :
    ((fillPointer cache k stored).get k').join =
      if k' = k then (cache.get k).join.or stored else (cache.get k').join := by
  unfold fillPointer
  cases hget : (cache.get k).join with
  | some v =>
    rw [Option.isSome_some, if_pos rfl]
    split_ifs with hk
    · rw [hk, hget, Option.some_or]
    · rfl
  | none =>
    rw [Option.isSome_none, if_neg Bool.false_ne_true, JsMap.get_set]
    split_ifs with hk
    · rfl
    · rfl

/-- The pointer cache after the slots of a list were stored. -/
def storeEntry (cache : JsMap κ (Option β)) (entry : κ × Option β) : JsMap κ (Option β) :=
  match entry.2 with
  | some v => cache.set entry.1 (some v)
  | none => cache

theorem of_join_get_storeEntries {entries : List (κ × Option β)} {cache : JsMap κ (Option β)}
    {k : κ} {v : β} (h : ((entries.foldl storeEntry cache).get k).join = some v) :
    (cache.get k).join = some v ∨ (k, some v) ∈ entries := by
  induction entries generalizing cache with
  | nil => exact .inl h
  | cons entry entries ih =>
    rcases ih h with hcache | hmem
    · obtain ⟨k', _ | v'⟩ := entry
      · exact .inl hcache
      · replace hcache : ((cache.set k' (some v')).get k).join = some v := hcache
        rw [JsMap.get_set] at hcache
        split_ifs at hcache with hk
        · obtain rfl : v' = v := Option.some.inj hcache
          exact .inr (hk ▸ List.mem_cons_self)
        · exact .inl hcache
    · exact .inr (List.mem_cons_of_mem _ hmem)

theorem or_answers {v₀ v' found x : Option β} (h : v₀.or found = x)
    (h' : ∀ b, v' = some b → x = some b) :
    (v₀.or v').or found = x ∧ v'.or x = x ∧ v₀.or x = x := by
  cases v₀ with
  | some b => exact ⟨h, by cases v' with | none => rfl | some b' => exact (h' b' rfl).symm, h⟩
  | none =>
    rw [Option.none_or] at h
    refine ⟨?_, ?_, rfl⟩
    · rw [Option.none_or, h]
      cases v' with
      | none => rfl
      | some b' => exact (h' b' rfl).symm
    · cases v' with
      | none => rfl
      | some b' => exact (h' b' rfl).symm

end

/-! ### A used executor and a new one -/

section

variable (vm₀ : VMManager) (db' : VMStorage) (n : Nat)

/-- During a call: the caches of the used executor are those it had before the call (`vm₀`) and what
the new one has cached, which is what its database has. -/
structure CallRel (vm vm' : VMManager) : Prop where
  used : Ready vm₀.database vm
  fresh : Ready db' vm'
  pointers : ∀ a p v, (vm.pointerCache.get (a, p)).join = some v →
    (vm₀.pointerCache.get (a, p)).join = some v ∨ vm₀.database.getStorage a p n = some v
  freshPointers : ∀ a p v, (vm'.pointerCache.get (a, p)).join = some v →
    vm₀.database.getStorage a p n = some v
  contracts : ∀ a, vm.contractCache.get a = (vm₀.contractCache.get a).or (vm'.contractCache.get a)
  freshContracts : ∀ a c, vm'.contractCache.get a = some c → db'.getContractAt a n = some c
  lookedUp : ∀ a, .contract a ∈ vm.lookups → vm'.contractCache.get a = db'.getContractAt a n
  addresses : ∀ r, vm.contractAddressCache.get r =
    (vm₀.contractAddressCache.get r).or (vm'.contractAddressCache.get r)
  freshAddresses : ∀ r a, vm'.contractAddressCache.get r = some a → findReference db' r = some a

/-- Every lookup of the call so far is answered as by the new executor. -/
def AllAnswered (vm : VMManager) : Prop := AtEach (Answers vm₀ db' n) vm.lookups

variable {vm₀ db' n}

/-- A procedure of the used executor, compared with that of a new one. -/
abbrev OnCall {α : Type} (vm₀ : VMManager) (db' : VMStorage) (n : Nat) (m : VmM α) : Prop :=
  OnHosts (CallRel vm₀ db' n) (AllAnswered vm₀ db' n) m m

theorem readClosed_not_allAnswered : ReadClosed fun vm => ¬ AllAnswered vm₀ db' n vm where
  lookups _ _ h hall := h hall.of_append
  contractAddressCache _ _ _ h _ := h
  contractCache _ _ _ h _ := h
  pointerCache _ _ h := h

theorem onCall_of_same {α : Type} {m : VmM α} (hkeeps : Keeps (fun vm => ¬ AllAnswered vm₀ db' n vm) m)
    (hsame : ∀ vm vm', CallRel vm₀ db' n vm vm' → AllAnswered vm₀ db' n (m vm).2 →
      (m vm).1 = (m vm').1 ∧ CallRel vm₀ db' n (m vm).2 (m vm').2) : OnCall vm₀ db' n m := by
  refine ⟨fun _ _ => trivial, fun vm _ hgood => ?_, fun vm vm' _ hrel => hsame vm vm' hrel⟩
  by_contra hbad
  exact hkeeps vm hbad hgood

variable {vm : VMManager} {l : Lookup}

theorem AllAnswered.last {lookups : List Lookup}
    (h : AllAnswered vm₀ db' n vm) (hlookups : vm.lookups = lookups ++ [l]) :
    Answers vm₀ db' n lookups l := by
  unfold AllAnswered at h
  rw [hlookups] at h
  exact (atEach_concat.mp h).2

theorem CallRel.lookedUp_concat {vm' vm₁' : VMManager} (h : CallRel vm₀ db' n vm vm')
    (hl : ∀ a, l ≠ .contract a) (hcache : vm₁'.contractCache = vm'.contractCache)
    (a : Bytes) (ha : .contract a ∈ vm.lookups ++ [l]) :
    vm₁'.contractCache.get a = db'.getContractAt a n := by
  rw [hcache]
  rcases List.mem_append.mp ha with hold | hnew
  · exact h.lookedUp a hold
  · exact absurd (List.mem_singleton.mp hnew).symm (hl a)

/-! ### Looking for contracts -/

theorem onCall_getContractAddress (r : ContractReference) :
    OnCall vm₀ db' n (getContractAddress r) := by
  apply onCall_of_same
  · exact keeps_getContractAddress readClosed_not_allAnswered.toContractReadClosed r
  intro vm vm' hrel hgood
  rw [getContractAddress_eq] at hgood
  have hanswer : (vm₀.contractAddressCache.get r).or (findReference vm₀.database r) =
    findReference db' r := hgood.last rfl
  obtain ⟨hused, hfresh, hcached⟩ := or_answers hanswer (hrel.freshAddresses r)
  rw [getContractAddress_eq, getContractAddress_eq, hrel.used.database, hrel.fresh.database]
  constructor
  · rw [hrel.addresses r, hused, hfresh]
  · refine ⟨⟨hrel.used.isExecutor, hrel.used.blockState, rfl⟩,
      ⟨hrel.fresh.isExecutor, hrel.fresh.blockState, rfl⟩, hrel.pointers,
      hrel.freshPointers, hrel.contracts, hrel.freshContracts,
      hrel.lookedUp_concat (by rintro _ ⟨⟩) rfl, ?_, ?_⟩
    · intro r'
      dsimp only
      rw [get_fillCache, get_fillCache]
      split_ifs with hr
      · rw [hrel.addresses r, hused, hr, hfresh, hcached]
      · exact hrel.addresses r'
    · intro r' a hget
      dsimp only at hget
      rw [get_fillCache] at hget
      split_ifs at hget with hr
      · rwa [hfresh, ← hr] at hget
      · exact hrel.freshAddresses r' a hget

theorem onCall_getContractInformation (a : Bytes) :
    OnCall vm₀ db' n (getContractInformation a n) := by
  apply onCall_of_same
  · exact keeps_getContractInformation readClosed_not_allAnswered.toContractReadClosed a n
  intro vm vm' hrel hgood
  rw [getContractInformation_eq] at hgood
  have hanswer : (vm₀.contractCache.get a).or (vm₀.database.getContractAt a n) =
    db'.getContractAt a n := hgood.last rfl
  obtain ⟨hused, hfresh, hcached⟩ := or_answers hanswer (hrel.freshContracts a)
  rw [getContractInformation_eq, getContractInformation_eq, hrel.used.database,
    hrel.fresh.database]
  constructor
  · rw [hrel.contracts a, hused, hfresh]
  · refine ⟨⟨hrel.used.isExecutor, hrel.used.blockState, rfl⟩,
      ⟨hrel.fresh.isExecutor, hrel.fresh.blockState, rfl⟩, hrel.pointers,
      hrel.freshPointers, ?_, ?_, ?_, hrel.addresses, hrel.freshAddresses⟩
    · intro a'
      dsimp only
      rw [get_fillCache, get_fillCache]
      split_ifs with ha
      · rw [hrel.contracts a, hused, ha, hfresh, hcached]
      · exact hrel.contracts a'
    · intro a' c hget
      dsimp only at hget
      rw [get_fillCache] at hget
      split_ifs at hget with ha
      · rwa [hfresh, ← ha] at hget
      · exact hrel.freshContracts a' c hget
    · intro a' ha'
      dsimp only
      rw [get_fillCache]
      split_ifs with ha
      · rw [hfresh, ha]
      · rcases List.mem_append.mp ha' with hold | hnew
        · exact hrel.lookedUp a' hold
        · exact absurd (Lookup.contract.inj (List.mem_singleton.mp hnew)) ha

theorem onCall_isCached (a : Bytes) : OnCall vm₀ db' n (isCached a) := by
  apply onCall_of_same
  · exact keeps_isCached readClosed_not_allAnswered.toContractReadClosed a
  intro vm vm' hrel hgood
  have hanswer : vm₀.contractCache.has a = true → .contract a ∈ vm.lookups := hgood.last rfl
  have hhas : vm.contractCache.has a = vm'.contractCache.has a := by
    unfold JsMap.has
    rw [hrel.contracts a]
    cases hcached : vm₀.contractCache.get a with
    | none => rfl
    | some c =>
      -- The contract was looked up in this call, so the new executor has cached it too.
      have hmem := hanswer (by rw [JsMap.has, hcached]; rfl)
      obtain ⟨before, hfound⟩ := AtEach.of_mem hgood (List.mem_append_left _ hmem)
      replace hfound : (vm₀.contractCache.get a).or (vm₀.database.getContractAt a n) =
        db'.getContractAt a n := hfound
      rw [hcached, Option.some_or] at hfound
      rw [hrel.lookedUp a hmem, ← hfound]
      rfl
  rw [isCached_eq, isCached_eq, hhas]
  exact ⟨rfl, ⟨hrel.used.isExecutor, hrel.used.blockState, hrel.used.database⟩,
    ⟨hrel.fresh.isExecutor, hrel.fresh.blockState, hrel.fresh.database⟩, hrel.pointers,
    hrel.freshPointers, hrel.contracts, hrel.freshContracts,
    hrel.lookedUp_concat (by rintro _ ⟨⟩) rfl, hrel.addresses, hrel.freshAddresses⟩

theorem onCall_contractExistsBelow (hdb : Restricts vm₀.database db' n) (a : Bytes) :
    OnCall vm₀ db' n (contractExistsBelow a n) := by
  apply onCall_of_same
  · exact keeps_contractExistsBelow readClosed_not_allAnswered.toContractReadClosed a n
  intro vm vm' hrel _
  rw [contractExistsBelow_eq, contractExistsBelow_eq, hrel.used.database, hrel.fresh.database,
    hdb.exists_]
  exact ⟨rfl, ⟨hrel.used.isExecutor, hrel.used.blockState, rfl⟩,
    ⟨hrel.fresh.isExecutor, hrel.fresh.blockState, rfl⟩, hrel.pointers,
    hrel.freshPointers, hrel.contracts, hrel.freshContracts,
    hrel.lookedUp_concat (by rintro _ ⟨⟩) rfl, hrel.addresses, hrel.freshAddresses⟩

theorem deployContractFromInfo_eq_of_isExecutor {env : VmEnvironment}
    {contract : ContractInformation} (h : vm.isExecutor = true) :
    deployContractFromInfo env contract vm = (.ok (), vm) := by
  show (if vm.isExecutor then _ else _ : VmM Unit) vm = _
  rw [h]
  rfl

theorem onCall_deployContract (env : VmEnvironment) (contract : ContractInformation) :
    OnCall vm₀ db' n (deployContractFromInfo env contract) := by
  apply onCall_of_same
  · intro vm hbad
    cases hexecutor : vm.isExecutor with
    | true => rwa [deployContractFromInfo_eq_of_isExecutor hexecutor]
    | false =>
      rw [deployContractFromInfo_eq env contract hexecutor, setContractAt_eq]
      exact fun hall => hbad hall.of_append
  · intro vm vm' hrel _
    rw [deployContractFromInfo_eq_of_isExecutor hrel.used.isExecutor,
      deployContractFromInfo_eq_of_isExecutor hrel.fresh.isExecutor]
    exact ⟨rfl, hrel⟩

/-! ### Reading slots -/

section

variable {db : VMStorage} {vm : VMManager} {T : RustMerkleTree}

def readAt (db : VMStorage) (n : Nat) (vm : VMManager) (slot : Bytes × U256) : Option U256 :=
  (vm.pointerCache.get slot).join.or (db.getStorage slot.1 slot.2 n)

theorem getFromInternalCache_eq (h : Ready db vm) (a : Bytes) (p : U256) :
    getFromInternalCache T vm a p = .ok (vm.pointerCache.get (a, p)).join := by
  unfold getFromInternalCache
  rw [h.blockState]
  show Except.ok _ = Except.ok _
  rw [Option.none_or]

theorem requireBlockState_eq (h : Ready db vm) : requireBlockState vm = (.ok (), vm) := by
  unfold requireBlockState
  rw [h.isExecutor]
  simp

theorem getStorage_eq_of_ready (h : Ready db vm) (a : Bytes) (p : U256) (n : Nat) :
    VMManager.getStorage T a p n vm = (.ok (readAt db n vm (a, p)), { vm with
      lookups := vm.lookups ++ [.slot a p]
      pointerCache := fillPointer vm.pointerCache (a, p) (db.getStorage a p n) }) := by
  have hready : Ready db { vm with lookups := vm.lookups ++ [.slot a p] } :=
    ⟨h.isExecutor, h.blockState, h.database⟩
  unfold VMManager.getStorage readAt fillPointer
  show bindResult _ (requireBlockState vm) = _
  rw [requireBlockState_eq h]
  show bindResult _ (getFromInternalCache T { vm with lookups := vm.lookups ++ [.slot a p] } a p,
    _) = _
  rw [getFromInternalCache_eq hready]
  dsimp only
  cases (vm.pointerCache.get (a, p)).join with
  | some v => rfl
  | none =>
    rw [← h.database]
    rfl

theorem collectSlots_eq (h : Ready db vm) (n : Nat) (pointers : List (Bytes × U256))
    (collected : List ((Bytes × U256) × Option U256)) :
    Proc.foldEach (collectSlot T n) collected pointers vm =
      (.ok (collected ++ pointers.map fun slot => (slot, readAt db n vm slot)), { vm with
        lookups := vm.lookups ++ pointers.map fun slot => .slot slot.1 slot.2 }) := by
  induction pointers generalizing vm collected with
  | nil => simp [Proc.foldEach, pure]
  | cons slot pointers ih =>
    have hready : Ready db { vm with lookups := vm.lookups ++ [.slot slot.1 slot.2] } :=
      ⟨h.isExecutor, h.blockState, h.database⟩
    have hslot : collectSlot T n collected slot vm =
        (.ok (collected ++ [(slot, readAt db n vm slot)]), { vm with
          lookups := vm.lookups ++ [.slot slot.1 slot.2] }) := by
      unfold collectSlot
      show bindResult _ (getFromInternalCache T { vm with
        lookups := vm.lookups ++ [.slot slot.1 slot.2] } slot.1 slot.2, _) = _
      rw [getFromInternalCache_eq hready, ← h.database]
      rfl
    refine (bind_of_ok hslot).trans ?_
    rw [ih hready]
    simp [readAt]

theorem storeEntries_eq (entries : List ((Bytes × U256) × Option U256)) (vm : VMManager) :
    Proc.forEach (fun entry : (Bytes × U256) × Option U256 =>
      match entry.2 with
      | some value => storePointerInCache entry.1.1 entry.1.2 (some value)
      | none => pure ()) entries vm =
      (.ok (), { vm with pointerCache := entries.foldl storeEntry vm.pointerCache }) := by
  induction entries generalizing vm with
  | nil => rfl
  | cons entry entries ih =>
    obtain ⟨slot, _ | value⟩ := entry
    · exact ih vm
    · exact ih { vm with pointerCache := vm.pointerCache.set slot (some value) }

theorem getStorageMultiple_eq_of_ready (h : Ready db vm) (pointers : List (Bytes × U256))
    (n : Nat) :
    VMManager.getStorageMultiple T pointers n vm =
      (.ok (pointers.map fun slot => (slot, readAt db n vm slot)), { vm with
        lookups := vm.lookups ++ pointers.map fun slot => .slot slot.1 slot.2
        pointerCache := (pointers.map fun slot => (slot, readAt db n vm slot)).foldl storeEntry
          vm.pointerCache }) := by
  unfold VMManager.getStorageMultiple
  show bindResult _ (requireBlockState vm) = _
  rw [requireBlockState_eq h]
  show bindResult _ (Proc.foldEach (collectSlot T n) [] pointers vm) = _
  rw [collectSlots_eq h, List.nil_append]
  have hstore := storeEntries_eq (pointers.map fun slot => (slot, readAt db n vm slot))
    { vm with lookups := vm.lookups ++ pointers.map fun slot => .slot slot.1 slot.2 }
  exact congrArg (bindResult fun _ => pure (pointers.map fun slot => (slot, readAt db n vm slot)))
    hstore

end

variable {vm vm' : VMManager}

theorem CallRel.readAt_eq (hrel : CallRel vm₀ db' n vm vm')
    {before : List Lookup} {slot : Bytes × U256}
    (hanswer : Answers vm₀ db' n before (.slot slot.1 slot.2)) :
    readAt vm₀.database n vm slot = vm₀.database.getStorage slot.1 slot.2 n := by
  unfold readAt
  cases hcached : (vm.pointerCache.get slot).join with
  | none => rfl
  | some v =>
    rcases hrel.pointers slot.1 slot.2 v hcached with hold | hstored
    · exact (hanswer v hold).symm
    · exact hstored.symm

theorem CallRel.readAt_fresh (hdb : Restricts vm₀.database db' n)
    (hrel : CallRel vm₀ db' n vm vm') (slot : Bytes × U256) :
    readAt db' n vm' slot = vm₀.database.getStorage slot.1 slot.2 n := by
  unfold readAt
  rw [hdb.getStorage]
  cases hcached : (vm'.pointerCache.get slot).join with
  | none => rfl
  | some v => exact (hrel.freshPointers slot.1 slot.2 v hcached).symm

theorem onCall_getStorage (T : RustMerkleTree) (hdb : Restricts vm₀.database db' n) (a : Bytes)
    (p : U256) : OnCall vm₀ db' n (VMManager.getStorage T a p n) := by
  apply onCall_of_same
  · exact keeps_getStorage readClosed_not_allAnswered T a p n
  intro vm vm' hrel hgood
  rw [getStorage_eq_of_ready hrel.used] at hgood
  have hused : readAt vm₀.database n vm (a, p) = vm₀.database.getStorage a p n :=
    hrel.readAt_eq (hgood.last rfl)
  have hfresh := hrel.readAt_fresh hdb (a, p)
  rw [getStorage_eq_of_ready hrel.used, getStorage_eq_of_ready hrel.fresh]
  refine ⟨by rw [hused, hfresh], ⟨hrel.used.isExecutor, hrel.used.blockState, hrel.used.database⟩,
    ⟨hrel.fresh.isExecutor, hrel.fresh.blockState, hrel.fresh.database⟩, ?_, ?_, hrel.contracts,
    hrel.freshContracts, hrel.lookedUp_concat (by rintro _ ⟨⟩) rfl, hrel.addresses,
    hrel.freshAddresses⟩
  · intro a' p' v hget
    dsimp only at hget
    rw [join_get_fillPointer] at hget
    split_ifs at hget with hslot
    · cases hslot
      exact .inr (hused.symm.trans hget)
    · exact hrel.pointers a' p' v hget
  · intro a' p' v hget
    dsimp only at hget
    rw [join_get_fillPointer] at hget
    split_ifs at hget with hslot
    · cases hslot
      exact hfresh.symm.trans hget
    · exact hrel.freshPointers a' p' v hget

theorem onCall_getStorageMultiple (T : RustMerkleTree) (hdb : Restricts vm₀.database db' n)
    (pointers : List (Bytes × U256)) :
    OnCall vm₀ db' n (VMManager.getStorageMultiple T pointers n) := by
  apply onCall_of_same
  · exact keeps_getStorageMultiple readClosed_not_allAnswered T pointers n
  intro vm vm' hrel hgood
  rw [getStorageMultiple_eq_of_ready hrel.used] at hgood
  -- the lookups of the query were answered, so that the used VM reads what is stored
  have hused : ∀ slot ∈ pointers,
      readAt vm₀.database n vm slot = vm₀.database.getStorage slot.1 slot.2 n := by
    intro slot hslot
    have hmem : Lookup.slot slot.1 slot.2 ∈
        vm.lookups ++ pointers.map fun slot => .slot slot.1 slot.2 :=
      List.mem_append_right _ (List.mem_map_of_mem hslot)
    obtain ⟨before, hanswer⟩ := AtEach.of_mem hgood hmem
    exact hrel.readAt_eq hanswer
  have hfresh := hrel.readAt_fresh hdb
  rw [getStorageMultiple_eq_of_ready hrel.used, getStorageMultiple_eq_of_ready hrel.fresh]
  constructor
  · refine congrArg Except.ok (List.map_congr_left fun slot hslot => ?_)
    rw [hused slot hslot, hfresh slot]
  · refine ⟨⟨hrel.used.isExecutor, hrel.used.blockState, hrel.used.database⟩,
      ⟨hrel.fresh.isExecutor, hrel.fresh.blockState, hrel.fresh.database⟩, ?_, ?_, hrel.contracts,
      hrel.freshContracts, ?_, hrel.addresses, hrel.freshAddresses⟩
    · intro a p v hget
      rcases of_join_get_storeEntries hget with hold | hnew
      · exact hrel.pointers a p v hold
      · obtain ⟨slot, hslot, heq⟩ := List.mem_map.mp hnew
        obtain ⟨rfl, hvalue⟩ := Prod.mk.inj heq
        exact .inr ((hused _ hslot).symm.trans hvalue)
    · intro a p v hget
      rcases of_join_get_storeEntries hget with hold | hnew
      · exact hrel.freshPointers a p v hold
      · obtain ⟨slot, -, heq⟩ := List.mem_map.mp hnew
        obtain ⟨rfl, hvalue⟩ := Prod.mk.inj heq
        exact (hfresh _).symm.trans hvalue
    · intro a ha
      rcases List.mem_append.mp ha with hold | hnew
      · exact hrel.lookedUp a hold
      · obtain ⟨slot, -, heq⟩ := List.mem_map.mp hnew
        cases heq

/-! ### Calls -/

theorem hostSimulates_call (env : VmEnvironment) (T : RustMerkleTree)
    (hdb : Restricts vm₀.database db' n) :
    HostSimulates n (CallRel vm₀ db' n) (AllAnswered vm₀ db' n) (vmHost env T) (vmHost env T) where
  getStorage := onCall_getStorage T hdb
  getStorageMultiple := onCall_getStorageMultiple T hdb
  isContract _ := simulates_bind (onCall_getContractAddress _) fun _ => simulates_pure _
  getContractInformation := onCall_getContractInformation
  isCached := onCall_isCached
  contractExistsBelow := onCall_contractExistsBelow hdb
  deployContract := onCall_deployContract env

/-- `execute`, once the height of the request is known. -/
def executeAt (env : VmEnvironment) (T : RustMerkleTree) (height : Except VmError Nat)
    (request : SimulationRequest) : VmM EvaluatedResult := do
  let address ← getContractAddress request.target
  match address with
  | none => Proc.throw .contractNotFound
  | some address =>
    match height with
    | .error e => Proc.throw e
    | .ok blockHeight =>
      let locals ← executeCallInternal env T
        (newContext (GasTracker.new EMULATION_MAX_GAS request.specialSettings) 0 request.accessList
          .empty)
        { contractAddress := address
          transactionId := SIMULATION_TRANSACTION_ID
          blockNumber := blockHeight
          externalCall := false
          isDeployment := false
          preloadStorageList := request.preloadList }
        request.execution
      return locals.getEvaluationResult

theorem execute_eq (env : VmEnvironment) (T : RustMerkleTree) (request : SimulationRequest)
    (vm : VMManager) : execute env T request vm =
      executeAt env T (executionHeight vm.database request.height) request vm := by
  unfold execute executeAt
  show bindResult _ _ = bindResult _ _
  rw [getContractAddress_eq, bindResult_ok, bindResult_ok]
  cases (vm.contractAddressCache.get request.target).or
      (findReference vm.database request.target) with
  | none => rfl
  | some address =>
    show bindResult _ (executionHeight vm.database request.height, _) = _
    cases executionHeight vm.database request.height with
    | error | ok => rfl

theorem simulates_executeCallInternal {R : VMManager → VMManager → Prop} {good : VMManager → Prop}
    {env : VmEnvironment} {T : RustMerkleTree} {params : FrameParameters}
    (h : HostSimulates params.blockNumber R good (vmHost env T) (vmHost env T))
    (ctx : TransactionContext) (execution : ContractInformation → Execution) :
    OnHosts R good (executeCallInternal env T ctx params execution)
      (executeCallInternal env T ctx params execution) := by
  refine simulates_bind (h.getContractInformation params.contractAddress) fun stored => ?_
  cases stored.filter validContractInformation with
  | some contract => exact simulates_runRoot env h ctx (execution contract) contract
  | none => exact simulates_throw _

theorem simulates_executeAt {R : VMManager → VMManager → Prop} {good : VMManager → Prop}
    {env : VmEnvironment} {T : RustMerkleTree} {request : SimulationRequest}
    (hhost : HostSimulates n R good (vmHost env T) (vmHost env T))
    (haddress : OnHosts R good (getContractAddress request.target)
      (getContractAddress request.target))
    {height : Except VmError Nat} (hheight : ∀ m, height = .ok m → m = n) :
    OnHosts R good (executeAt env T height request) (executeAt env T height request) := by
  refine simulates_bind haddress fun address => ?_
  cases address with
  | none => exact simulates_throw _
  | some address =>
    cases height with
    | error e => exact simulates_throw e
    | ok m =>
      obtain rfl := hheight m rfl
      refine simulates_bind ?_ fun locals => simulates_pure _
      exact simulates_executeCallInternal hhost _ _

end

/-! ### Sequences of calls -/

def callHeight (db : VMStorage) (request : SimulationRequest) : Nat :=
  (executionHeight db request.height).toOption.getD 0

/-- The call ends as on a new executor, and as if nothing had been stored at its height or above. -/
structure Isolated (env : VmEnvironment) (T : RustMerkleTree) (db : VMStorage) (vm : VMManager)
    (request : SimulationRequest) : Prop where
  fresh : (simulate env T request vm).1 = (execute env T request (create true db)).1
  below : ∀ n, executionHeight db request.height = .ok n →
    (simulate env T request vm).1 = (execute env T request (create true (db.storedBelow n))).1

/-- Every lookup of the call is answered as by the database, and as by what was stored below the
height of the call. -/
def CallOk (env : VmEnvironment) (T : RustMerkleTree) (db : VMStorage) (vm : VMManager)
    (request : SimulationRequest) : Prop :=
  AtEach (Answers vm db (callHeight db request)) (simulate env T request vm).2.lookups ∧
    (executionHeight db request.height = .ok (callHeight db request) →
      AtEach (Answers vm (db.storedBelow (callHeight db request)) (callHeight db request))
        (simulate env T request vm).2.lookups)

instance decidableCallOk (env : VmEnvironment) (T : RustMerkleTree) (db : VMStorage)
    (vm : VMManager) (request : SimulationRequest) : Decidable (CallOk env T db vm request) :=
  inferInstanceAs (Decidable (_ ∧ (_ → _)))

section

variable {env : VmEnvironment} {T : RustMerkleTree} {db : VMStorage} {vm : VMManager}

theorem callRel_create (h : Ready db vm) (db' : VMStorage) (n : Nat) :
    CallRel vm db' n { vm with lookups := [] } (create true db') where
  used := ⟨h.isExecutor, h.blockState, rfl⟩
  fresh := ⟨rfl, rfl, rfl⟩
  pointers _ _ _ hget := .inl hget
  freshPointers _ _ _ hget := by cases hget
  contracts a := (Option.or_none).symm
  freshContracts _ _ hget := by cases hget
  lookedUp _ hmem := by cases hmem
  addresses r := (Option.or_none).symm
  freshAddresses _ _ hget := by cases hget

variable {request : SimulationRequest}

theorem callHeight_eq {m : Nat}
    (h : executionHeight db request.height = .ok m) : callHeight db request = m := by
  unfold callHeight
  rw [h]
  rfl

theorem simulate_eq {db' : VMStorage} (h : Ready db vm)
    (hdb : Restricts db db' (callHeight db request))
    (hanswers : AtEach (Answers vm db' (callHeight db request))
      (simulate env T request vm).2.lookups) :
    (simulate env T request vm).1 = (execute env T request (create true db')).1 ∧
      Ready db (simulate env T request vm).2 := by
  obtain rfl := h.database
  have hused : simulate env T request vm = executeAt env T
      (executionHeight vm.database request.height) request { vm with lookups := [] } :=
    execute_eq env T request _
  have hfresh : execute env T request (create true db') = executeAt env T
      (executionHeight vm.database request.height) request (create true db') := by
    rw [execute_eq]
    show executeAt env T (executionHeight db' request.height) request _ = _
    have hheight : executionHeight db' request.height =
        executionHeight vm.database request.height := by
      unfold executionHeight
      rw [hdb.blockHeaders]
    rw [hheight]
  have hsimulates := simulates_executeAt (hostSimulates_call env T hdb)
    (onCall_getContractAddress request.target) fun m hm => (callHeight_eq hm).symm
  rw [hused] at hanswers ⊢
  rw [hfresh]
  obtain ⟨hres, hrel⟩ := hsimulates.same _ _ trivial (callRel_create h db' _) hanswers
  exact ⟨hres, hrel.used⟩

theorem callOk_isolated (h : Ready db vm) (hok : CallOk env T db vm request) :
    Isolated env T db vm request ∧ Ready db (simulate env T request vm).2 := by
  obtain ⟨hfresh, hready⟩ := simulate_eq h (restricts_refl db _) hok.1
  refine ⟨⟨hfresh, fun n hn => ?_⟩, hready⟩
  obtain rfl := callHeight_eq hn
  exact (simulate_eq h (restricts_storedBelow db _) (hok.2 hn)).1

theorem isolated_of_meets {start : VMManager} {requests : List SimulationRequest}
    (h : Ready db start)
    (hmeets : Meets (fun vm request => some (simulate env T request vm).2) (CallOk env T db) start
      requests) :
    ∀ call ∈ simulations env T start requests, Isolated env T db call.1 call.2 := by
  induction requests generalizing start with
  | nil => exact fun call hcall => absurd hcall List.not_mem_nil
  | cons request requests ih =>
    obtain ⟨hisolated, hready⟩ := callOk_isolated h hmeets.1
    intro call hcall
    rcases List.mem_cons.mp hcall with rfl | hrest
    · exact hisolated
    · exact ih hready (hmeets.2 _ rfl) call hrest

end

/-- **Calls at a height are isolated**, as long as each is answered from the caches as from the
database. -/
theorem simulations_isolated (env : VmEnvironment) (T : RustMerkleTree) (vm : VMManager)
    (requests : List SimulationRequest) (hexecutor : vm.isExecutor = true)
    (hmeets : Meets (fun vm request => some (simulate env T request vm).2)
      (CallOk env T vm.database) vm.clear requests) :
    ∀ call ∈ simulations env T vm.clear requests, Isolated env T vm.database call.1 call.2 := by
  have hready : Ready vm.database vm.clear := ⟨hexecutor, rfl, rfl⟩
  exact isolated_of_meets hready hmeets

/-! ### Runs -/

/-- A database with a slot of the contract `[7]` written in the blocks 3 and 5, and the contract `[9]`
deployed in block 5. -/
def writtenTwice : VMStorage where
  contracts := [contractOf [3] 3, strayContract 5]
  pointers := [⟨[7], 1, 8, 3⟩, ⟨[7], 1, 9, 5⟩]
  blockHeaders := [3, 4, 5, 6]

/-- A call of the contract `[7]`. -/
def callOf (height : Option Nat) (execution : Execution) : SimulationRequest where
  target := .p2op [0, 7]
  height
  specialSettings := none
  accessList := .empty
  preloadList := []
  execution _ := execution

/-- Return 1 if the slot has the value of block 3, and 2 otherwise. -/
def loadExecution : Execution := .load 1 fun value _ => .exit ⟨1, 0, if value = 8 then [1] else [2]⟩

/-- Return 1 if the address `[9]` is a contract, and 2 otherwise. -/
def queryExecution : Execution :=
  .accountType [9] fun isContract _ => .exit ⟨1, 0, if isContract then [1] else [2]⟩

def returnedBytes : Except VmError EvaluatedResult → Option Bytes
  | .ok evaluated => evaluated.result
  | .error _ => none

/-- Two calls at one height. -/
theorem simulations_isolated_sameHeight :
    (simulations plainEnvironment RustMerkleTree.multisetTree (create true writtenTwice).clear
      [callOf (some 6) loadExecution, callOf (some 6) loadExecution]).length = 2 ∧
    ∀ call ∈ simulations plainEnvironment RustMerkleTree.multisetTree
      (create true writtenTwice).clear
      [callOf (some 6) loadExecution, callOf (some 6) loadExecution],
      Isolated plainEnvironment RustMerkleTree.multisetTree writtenTwice call.1 call.2 := by
  refine ⟨by decide +kernel, ?_⟩
  apply simulations_isolated plainEnvironment RustMerkleTree.multisetTree (create true writtenTwice)
    _ rfl
  show Meets _ _ (create true writtenTwice) _
  decide +kernel

/-- A slot that was read at height 6 is read again at height 4, and a call at height 4 sees a contract
of block 5. -/
theorem simulations_not_isolated :
    (¬ ∀ call ∈ simulations plainEnvironment RustMerkleTree.multisetTree
        (create true writtenTwice).clear
        [callOf (some 6) loadExecution, callOf (some 4) loadExecution],
        Isolated plainEnvironment RustMerkleTree.multisetTree writtenTwice call.1 call.2) ∧
    ¬ ∀ call ∈ simulations plainEnvironment RustMerkleTree.multisetTree
        (create true writtenTwice).clear [callOf (some 4) queryExecution],
        Isolated plainEnvironment RustMerkleTree.multisetTree writtenTwice call.1 call.2 := by
  constructor
  · intro hisolated
    have hsecond := hisolated _ (List.mem_cons_of_mem _ List.mem_cons_self)
    have hresults := congrArg returnedBytes hsecond.fresh
    revert hresults
    decide +kernel
  · intro hisolated
    have hfirst := hisolated _ List.mem_cons_self
    have hresults := congrArg returnedBytes (hfirst.below 4 rfl)
    revert hresults
    decide +kernel

end OpnetNode
