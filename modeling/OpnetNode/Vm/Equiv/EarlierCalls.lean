import OpnetNode.Vm.Equiv.HistoricalSimulation

/-!
# What the caches of an executor hold

What an executor has cached was looked up by one of its calls, and is what its database has for the
height of that call (`FilledBy`).  So whether the calls of a sequence are isolated can be told from
their heights and lookups (`simulations_isolated_of_seesSame`): it is enough that whatever a call looks
up is the same below its height as at the height of each earlier call that looked it up.
-/

namespace OpnetNode

open Proc VMManager

/-- A call that an executor has made: its height, and its lookups. -/
abbrev PastCall : Type := ℕ × List Lookup

/-- One of the calls has made the lookup, at a height with the property. -/
def Noted (calls : List PastCall) (l : Lookup) (P : ℕ → Prop) : Prop :=
  ∃ call ∈ calls, l ∈ call.2 ∧ P call.1

section

variable {earlier : List PastCall} {n : ℕ} {lookups : List Lookup} {l : Lookup} {P : ℕ → Prop}

theorem Noted.append (h : Noted (earlier ++ [(n, lookups)]) l P) (more : List Lookup) :
    Noted (earlier ++ [(n, lookups ++ more)]) l P := by
  obtain ⟨call, hcall, hl, hP⟩ := h
  rcases List.mem_append.mp hcall with hearlier | hlast
  · exact ⟨call, List.mem_append_left _ hearlier, hl, hP⟩
  · obtain rfl := List.mem_singleton.mp hlast
    exact ⟨_, List.mem_append_right _ List.mem_cons_self, List.mem_append_left _ hl, hP⟩

theorem noted_last (hl : l ∈ lookups) (hP : P n) : Noted (earlier ++ [(n, lookups)]) l P :=
  ⟨_, List.mem_append_right _ List.mem_cons_self, hl, hP⟩

end

/-- The caches hold what the calls have looked up, as the database has it for their heights. -/
structure FilledBy (db : VMStorage) (calls : List PastCall) (vm : VMManager) : Prop where
  ready : Ready db vm
  pointers : ∀ a p v, (vm.pointerCache.get (a, p)).join = some v →
    Noted calls (.slot a p) fun m => db.getStorage a p m = some v
  contracts : ∀ a c, vm.contractCache.get a = some c →
    Noted calls (.contract a) fun m => db.getContractAt a m = some c
  addresses : ∀ r a, vm.contractAddressCache.get r = some a → findReference db r = some a

variable {db : VMStorage} {earlier : List PastCall} {n : ℕ}

/-! ### A call -/

/-- During a call at the height `n`, after the earlier ones. -/
def Filling (db : VMStorage) (earlier : List PastCall) (n : ℕ) (vm : VMManager) : Prop :=
  FilledBy db (earlier ++ [(n, vm.lookups)]) vm

theorem FilledBy.filling {vm : VMManager} (h : FilledBy db earlier vm) :
    Filling db earlier n { vm with lookups := [] } where
  ready := ⟨h.ready.isExecutor, h.ready.blockState, h.ready.database⟩
  pointers a p v hget := by
    obtain ⟨call, hcall, hnoted⟩ := h.pointers a p v hget
    exact ⟨call, List.mem_append_left _ hcall, hnoted⟩
  contracts a c hget := by
    obtain ⟨call, hcall, hnoted⟩ := h.contracts a c hget
    exact ⟨call, List.mem_append_left _ hcall, hnoted⟩
  addresses := h.addresses

theorem Filling.lookedUp {vm : VMManager} (h : Filling db earlier n vm) (lookups : List Lookup) :
    Filling db earlier n { vm with lookups := vm.lookups ++ lookups } where
  ready := ⟨h.ready.isExecutor, h.ready.blockState, h.ready.database⟩
  pointers a p v hget := (h.pointers a p v hget).append lookups
  contracts a c hget := (h.contracts a c hget).append lookups
  addresses := h.addresses

/-- What is read of a slot is what was cached, or is stored. -/
theorem Filling.noted_readAt {vm : VMManager} (h : Filling db earlier n vm)
    (slot : Bytes × U256) {lookups : List Lookup} (hslot : .slot slot.1 slot.2 ∈ lookups) {v : U256}
    (hread : readAt db n vm slot = some v) :
    Noted (earlier ++ [(n, vm.lookups ++ lookups)]) (.slot slot.1 slot.2)
      fun m => db.getStorage slot.1 slot.2 m = some v := by
  -- a cached value was noted by an earlier call or before, a stored one is noted by this one
  rcases Option.or_eq_some_iff.mp hread with hcached | ⟨-, hstored⟩
  · exact (h.pointers slot.1 slot.2 v hcached).append lookups
  · exact noted_last (List.mem_append_right _ hslot) hstored

theorem keeps_getStorage_filling (T : RustMerkleTree) (a : Bytes) (p : U256) :
    Keeps (Filling db earlier n) (VMManager.getStorage T a p n) := by
  intro vm h
  rw [getStorage_eq_of_ready h.ready]
  refine { h.lookedUp [.slot a p] with
    ready := ⟨h.ready.isExecutor, h.ready.blockState, h.ready.database⟩
    pointers := fun a' p' v hget => ?_ }
  dsimp only at hget
  rw [join_get_fillPointer] at hget
  split_ifs at hget with hslot
  · cases hslot
    exact h.noted_readAt (a, p) List.mem_cons_self hget
  · exact (h.pointers a' p' v hget).append _

theorem keeps_getStorageMultiple_filling (T : RustMerkleTree) (pointers : List (Bytes × U256)) :
    Keeps (Filling db earlier n) (VMManager.getStorageMultiple T pointers n) := by
  intro vm h
  rw [getStorageMultiple_eq_of_ready h.ready]
  refine { h.lookedUp (pointers.map fun slot => .slot slot.1 slot.2) with
    ready := ⟨h.ready.isExecutor, h.ready.blockState, h.ready.database⟩
    pointers := fun a p v hget => ?_ }
  -- the query reads what is not cached, and stores all that it has read
  rcases of_join_get_storeEntries hget with hold | hnew
  · exact (h.pointers a p v hold).append _
  · obtain ⟨slot, hslot, heq⟩ := List.mem_map.mp hnew
    obtain ⟨rfl, hvalue⟩ := Prod.mk.inj heq
    exact h.noted_readAt (a, p) (List.mem_map.mpr ⟨(a, p), hslot, rfl⟩) hvalue

theorem keeps_getContractAddress_filling (r : ContractReference) :
    Keeps (Filling db earlier n) (getContractAddress r) := by
  intro vm h
  rw [getContractAddress_eq, h.ready.database]
  refine { h.lookedUp [.reference r] with
    ready := ⟨h.ready.isExecutor, h.ready.blockState, rfl⟩
    addresses := fun r' a hget => ?_ }
  dsimp only at hget
  rw [get_fillCache] at hget
  -- an address is found without a height, so that no call is named for it
  split_ifs at hget with hr
  · obtain rfl := hr
    rcases Option.or_eq_some_iff.mp hget with hcached | ⟨-, hfound⟩
    · exact h.addresses _ a hcached
    · exact hfound
  · exact h.addresses r' a hget

theorem keeps_getContractInformation_filling (a : Bytes) :
    Keeps (Filling db earlier n) (getContractInformation a n) := by
  intro vm h
  rw [getContractInformation_eq, h.ready.database]
  refine { h.lookedUp [.contract a] with
    ready := ⟨h.ready.isExecutor, h.ready.blockState, rfl⟩
    contracts := fun a' c hget => ?_ }
  dsimp only at hget
  rw [get_fillCache] at hget
  split_ifs at hget with ha
  · obtain rfl := ha
    rcases Option.or_eq_some_iff.mp hget with hcached | ⟨-, hfound⟩
    · exact (h.contracts _ c hcached).append _
    · exact noted_last (List.mem_append_right _ List.mem_cons_self) hfound
  · exact (h.contracts a' c hget).append _

/-- A procedure that keeps a property of the VM does the same on two equal VMs with it. -/
theorem onHosts_of_keeps {α : Type} {J : VMManager → Prop} {m : VmM α} (h : Keeps J m) :
    OnHosts (fun vm vm' => vm = vm' ∧ J vm) (fun _ => True) m m := by
  refine ⟨fun _ _ => trivial, fun _ _ _ => trivial, ?_⟩
  rintro vm _ - ⟨rfl, hvm⟩ -
  exact ⟨rfl, rfl, h vm hvm⟩

theorem hostSimulates_filling (env : VmEnvironment) (T : RustMerkleTree) :
    HostSimulates n (fun vm vm' => vm = vm' ∧ Filling db earlier n vm) (fun _ => True)
      (vmHost env T) (vmHost env T) where
  getStorage a p := onHosts_of_keeps (keeps_getStorage_filling T a p)
  getStorageMultiple l := onHosts_of_keeps (keeps_getStorageMultiple_filling T l)
  isContract a := onHosts_of_keeps
    (keeps_bind (keeps_getContractAddress_filling _) fun _ => keeps_pure _)
  getContractInformation a := onHosts_of_keeps (keeps_getContractInformation_filling a)
  isCached a := onHosts_of_keeps fun _ h => h.lookedUp [.cached a]
  contractExistsBelow a := onHosts_of_keeps fun _ h => h.lookedUp [.exists_ a]
  deployContract c := onHosts_of_keeps fun vm h => by
    show Filling db earlier n (deployContractFromInfo env c vm).2
    rwa [deployContractFromInfo_eq_of_isExecutor h.ready.isExecutor]

variable {env : VmEnvironment} {T : RustMerkleTree} {vm : VMManager} {request : SimulationRequest}

/-- **Step lemma.** A call fills the caches with what it looks up. -/
theorem FilledBy.afterCall (h : FilledBy db earlier vm) :
    FilledBy db
      (earlier ++ [(callHeight db request, (simulate env T request vm).2.lookups)])
      (simulate env T request vm).2 := by
  have hcall : simulate env T request vm = executeAt env T
      (executionHeight vm.database request.height) request { vm with lookups := [] } :=
    execute_eq env T request _
  have hsimulates : OnHosts
      (fun vm vm' => vm = vm' ∧ Filling db earlier (callHeight db request) vm) (fun _ => True)
      (executeAt env T (executionHeight vm.database request.height) request) _ :=
    simulates_executeAt (hostSimulates_filling env T)
      (onHosts_of_keeps (keeps_getContractAddress_filling request.target))
      fun m hm => (callHeight_eq (h.ready.database ▸ hm)).symm
  rw [hcall]
  exact (hsimulates.same _ _ trivial ⟨rfl, h.filling⟩ trivial).2.2

/-! ### Sequences of calls -/

/-- What is looked up at the height `n` is stored below it, and is the same at the height of every
earlier call that looked it up. -/
def SeesSame (db : VMStorage) (earlier : List PastCall) (n : ℕ) (before : List Lookup) :
    Lookup → Prop
  | .slot a p => ∀ call ∈ earlier, .slot a p ∈ call.2 →
      ∀ v ∈ db.getStorage a p call.1, db.getStorage a p n = some v
  | .contract a => db.getContractAt a n = (db.storedBelow n).getContractAt a n ∧
      ∀ call ∈ earlier, .contract a ∈ call.2 →
        ∀ c ∈ db.getContractAt a call.1, db.getContractAt a n = some c
  | .reference r => findReference db r = findReference (db.storedBelow n) r
  | .cached a => (∃ call ∈ earlier, .contract a ∈ call.2) → .contract a ∈ before
  | .exists_ _ | .insertion _ _ => True

theorem FilledBy.answers (h : FilledBy db earlier vm) {before : List Lookup} {l : Lookup}
    (hsame : SeesSame db earlier n before l) :
    Answers vm db n before l ∧ Answers vm (db.storedBelow n) n before l := by
  obtain rfl := h.ready.database
  cases l with
  | slot a p =>
    have hslot : ∀ v ∈ (vm.pointerCache.get (a, p)).join,
        vm.database.getStorage a p n = some v := by
      intro v hcached
      obtain ⟨call, hcall, hnoted, hv⟩ := h.pointers a p v hcached
      exact hsame call hcall hnoted v hv
    exact ⟨hslot, hslot⟩
  | contract a =>
    have hcontract : (vm.contractCache.get a).or (vm.database.getContractAt a n) =
        vm.database.getContractAt a n := by
      cases hcached : vm.contractCache.get a with
      | none => rfl
      | some c =>
        obtain ⟨call, hcall, hnoted, hc⟩ := h.contracts a c hcached
        exact (hsame.2 call hcall hnoted c hc).symm
    exact ⟨hcontract, hcontract.trans hsame.1⟩
  | reference r =>
    have haddress : (vm.contractAddressCache.get r).or (findReference vm.database r) =
        findReference vm.database r := by
      cases hcached : vm.contractAddressCache.get r with
      | none => rfl
      | some a => exact (h.addresses r a hcached).symm
    exact ⟨haddress, haddress.trans hsame⟩
  | cached a =>
    have hcached : vm.contractCache.has a = true → .contract a ∈ before := by
      intro hhas
      obtain ⟨c, hc⟩ := Option.isSome_iff_exists.mp hhas
      obtain ⟨call, hcall, hnoted, -⟩ := h.contracts a c hc
      exact hsame ⟨call, hcall, hnoted⟩
    exact ⟨hcached, hcached⟩
  | exists_ | insertion => exact ⟨trivial, trivial⟩

/-- In a sequence of calls, each sees the same as the earlier ones. -/
def EachSeesSame (env : VmEnvironment) (T : RustMerkleTree) (db : VMStorage) :
    List PastCall → VMManager → List SimulationRequest → Prop
  | _, _, [] => True
  | earlier, vm, request :: requests =>
    AtEach (SeesSame db earlier (callHeight db request)) (simulate env T request vm).2.lookups ∧
      EachSeesSame env T db
        (earlier ++ [(callHeight db request, (simulate env T request vm).2.lookups)])
        (simulate env T request vm).2 requests

theorem meets_callOk {requests : List SimulationRequest} (h : FilledBy db earlier vm)
    (hsame : EachSeesSame env T db earlier vm requests) :
    Meets (fun vm request => some (simulate env T request vm).2) (CallOk env T db) vm requests := by
  induction requests generalizing earlier vm with
  | nil => trivial
  | cons request requests ih =>
    refine ⟨⟨fun before l after hl => ?_, fun _ before l after hl => ?_⟩, fun vm' hvm' => ?_⟩
    · exact (h.answers (hsame.1 before l after hl)).1
    · exact (h.answers (hsame.1 before l after hl)).2
    · cases hvm'
      exact ih h.afterCall hsame.2

/-- **Calls are isolated** if whatever a call looks up is the same at the heights of the earlier calls
that looked it up. -/
theorem simulations_isolated_of_seesSame {requests : List SimulationRequest}
    (hexecutor : vm.isExecutor = true)
    (hsame : EachSeesSame env T vm.database [] vm.clear requests) :
    ∀ call ∈ simulations env T vm.clear requests, Isolated env T vm.database call.1 call.2 := by
  have hfilled : FilledBy vm.database [] vm.clear :=
    ⟨⟨hexecutor, rfl, rfl⟩, fun _ _ _ hget => (nomatch hget), fun _ _ hget => (nomatch hget),
      fun _ _ hget => (nomatch hget)⟩
  exact isolated_of_meets hfilled.ready (meets_callOk hfilled hsame)

end OpnetNode
