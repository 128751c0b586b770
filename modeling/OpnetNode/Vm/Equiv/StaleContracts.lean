import OpnetNode.Vm.Equiv.Block
import OpnetNode.Vm.Equiv.BlockSimulation

/-!
# Stale contract records

A contract record at the height of the block in progress or above it was left there by a failed or
reverted block.  The VM reads contracts at four places, and only the check of committed blocks is
cut at the height of the block: looking for a contract sees records of that very height, and looking
for an address, which `isContract` and the insertion do, sees all of them.

* `StaleBlind`: the transactions of the block end as they do without the stale records, and a
  deployment is accepted exactly if no contract of its address exists below the block or was deployed
  earlier in it.
* `stale_blind`: this is so as long as no transaction asks for a stale record (`Lookup.hits`).
* `stale_not_blind`: a stale record refuses a deployment, and is a contract to a transaction that asks.
-/

namespace OpnetNode

open Proc VMManager BlockExecution

/-- Whether two contracts share an address. -/
def SameAddress (c c' : ContractInformation) : Prop :=
  c.contractAddress = c'.contractAddress ∨ c.contractPublicKey = c'.contractPublicKey

instance (c c' : ContractInformation) : Decidable (SameAddress c c') := instDecidableOr

namespace VMStorage

/-- The contract records that a block at a height must not see. -/
def staleContracts (h : Nat) (db : VMStorage) : List ContractInformation :=
  db.contracts.filter fun c => h ≤ c.blockHeight

/-- The database with the contracts of lower blocks only. -/
def belowHeight (h : Nat) (db : VMStorage) : VMStorage :=
  { db with contracts := db.contracts.filter fun c => c.blockHeight < h }

/-- The database without the given contract records. -/
def without (stale : List ContractInformation) (db : VMStorage) : VMStorage :=
  { db with contracts := db.contracts.filter fun c => c ∉ stale }

theorem without_staleContracts (h : Nat) (db : VMStorage) :
    db.without (db.staleContracts h) = db.belowHeight h := by
  unfold without belowHeight
  congr 1
  apply List.filter_congr
  intro c hc
  simp [staleContracts, hc]

end VMStorage

/-- The lookup is answered from a stale record. -/
def Lookup.hits (h : Nat) (stale : List ContractInformation) : Lookup → Prop
  | .contract a => ∃ c ∈ stale, c.contractPublicKey = a ∧ c.blockHeight ≤ h
  | .reference (.p2op contractAddress) => ∃ c ∈ stale, c.contractAddress = contractAddress
  | .insertion deployed _ => ∃ c ∈ stale, SameAddress c deployed
  | _ => False

instance decidableHits (h : Nat) (stale : List ContractInformation) :
    ∀ l : Lookup, Decidable (l.hits h stale)
  | .slot _ _ | .cached _ | .exists_ _ | .reference (.hex _) => isFalse id
  | .contract a => inferInstanceAs
      (Decidable (∃ c ∈ stale, c.contractPublicKey = a ∧ c.blockHeight ≤ h))
  | .reference (.p2op contractAddress) => inferInstanceAs
      (Decidable (∃ c ∈ stale, c.contractAddress = contractAddress))
  | .insertion deployed _ => inferInstanceAs (Decidable (∃ c ∈ stale, SameAddress c deployed))

def Lookup.accepted : Lookup → Option ContractInformation
  | .insertion deployed true => some deployed
  | _ => none

/-- An insertion is accepted exactly if the database does not fail and no contract of that address is
one of `contracts` or was inserted before. -/
def InsertionOk (env : VmEnvironment) (contracts : List ContractInformation)
    (before : List Lookup) (l : Lookup) : Prop :=
  ∀ contract accepted, l = .insertion contract accepted →
    (accepted = true ↔ env.insertFails contract = false ∧
      ∀ c ∈ contracts ++ before.filterMap Lookup.accepted, ¬ SameAddress c contract)

/-! ### The database without stale records -/

namespace VMStorage

variable {env : VmEnvironment} {stale : List ContractInformation} {db : VMStorage}

variable {p : ContractInformation → Bool}

theorem find?_without (h : ∀ c ∈ stale, p c = false) (contracts : List ContractInformation) :
    (contracts.filter fun c => c ∉ stale).find? p = contracts.find? p := by
  induction contracts with
  | nil => rfl
  | cons c contracts ih =>
    by_cases hc : c ∈ stale
    · rw [List.filter_cons_of_neg (by simpa using hc), ih, List.find?_cons_of_neg (by simp [h c hc])]
    · rw [List.filter_cons_of_pos (by simpa using hc), List.find?_cons, List.find?_cons, ih]

theorem any_without (h : ∀ c ∈ stale, p c = false) (contracts : List ContractInformation) :
    (contracts.filter fun c => c ∉ stale).any p = contracts.any p := by
  induction contracts with
  | nil => rfl
  | cons c contracts ih =>
    by_cases hc : c ∈ stale
    · rw [List.filter_cons_of_neg (by simpa using hc), ih, List.any_cons, h c hc, Bool.false_or]
    · rw [List.filter_cons_of_pos (by simpa using hc), List.any_cons, List.any_cons, ih]

theorem setContract_isOk_iff (contract : ContractInformation) (db : VMStorage) :
    (db.setContract env contract).isOk = true ↔
      env.insertFails contract = false ∧ ∀ c ∈ db.contracts, ¬ SameAddress c contract := by
  have hfind : (db.getContractAddressAt contract.contractAddress).isSome = true ↔
      ∃ c ∈ db.contracts, c.contractAddress = contract.contractAddress := by
    unfold getContractAddressAt
    rw [Option.isSome_map, List.find?_isSome]
    simp
  unfold setContract
  by_cases hsome : (db.getContractAddressAt contract.contractAddress).isSome = true
  · rw [if_pos hsome]
    obtain ⟨c, hc, haddress⟩ := hfind.mp hsome
    exact iff_of_false (by simp [Except.isOk, Except.toBool])
      fun hnot => hnot.2 c hc (.inl haddress)
  · have hnone : ∀ c ∈ db.contracts, c.contractAddress ≠ contract.contractAddress :=
      fun c hc haddress => hsome (hfind.mpr ⟨c, hc, haddress⟩)
    rw [if_neg hsome]
    split_ifs with hfails
    · refine iff_of_false (by simp [Except.isOk, Except.toBool]) fun hnot => ?_
      rcases hfails with hfails | hany
      · cases hnot.1.symm.trans hfails
      · obtain ⟨c, hc, hkey⟩ := List.any_eq_true.mp hany
        exact hnot.2 c hc (.inr (of_decide_eq_true hkey))
    · rw [not_or] at hfails
      refine iff_of_true rfl ⟨by simpa using hfails.1, fun c hc hsame => ?_⟩
      rcases hsame with haddress | hkey
      · exact hnone c hc haddress
      · exact hfails.2 (List.any_eq_true.mpr ⟨c, hc, decide_eq_true hkey⟩)

variable {contract : ContractInformation}

theorem setContract_eq_ok {db' : VMStorage} (h : db.setContract env contract = .ok db') :
    db' = { db with contracts := db.contracts ++ [contract] } := by
  unfold setContract at h
  split_ifs at h
  exact (Except.ok.inj h).symm

theorem setContract_without (h : ∀ c ∈ stale, ¬ SameAddress c contract) :
    (db.without stale).setContract env contract =
      (db.setContract env contract).map (without stale) := by
  have hself : contract ∉ stale := fun hmem => h contract hmem (.inl rfl)
  have hfind : (db.without stale).getContractAddressAt contract.contractAddress =
      db.getContractAddressAt contract.contractAddress :=
    congrArg (Option.map ContractInformation.contractPublicKey)
      (find?_without (fun c hc => decide_eq_false fun heq => h c hc (.inl heq)) _)
  have hany : ((db.without stale).contracts.any fun c =>
      c.contractPublicKey = contract.contractPublicKey) =
      db.contracts.any fun c => c.contractPublicKey = contract.contractPublicKey :=
    any_without (fun c hc => decide_eq_false fun heq => h c hc (.inr heq)) _
  unfold setContract
  rw [hfind, hany]
  split_ifs
  · rfl
  · rfl
  · show Except.ok _ = Except.ok _
    unfold without
    rw [List.filter_append, List.filter_cons_of_pos (by simpa using hself), List.filter_nil]

end VMStorage

/-! ### The VM without stale records -/

section

variable (env : VmEnvironment) (h : Nat) (stale contracts : List ContractInformation)

/-- The second VM is the first one without the stale records, and the other contracts of the database
are the given ones and those inserted since. -/
structure StaleRel (vm vm' : VMManager) : Prop where
  without : vm' = { vm with database := vm.database.without stale }
  isExecutor : vm.isExecutor = false
  stored : (vm.database.without stale).contracts =
    contracts ++ vm.lookups.filterMap Lookup.accepted
  deployments : AtEach (InsertionOk env contracts) vm.lookups

/-- No lookup so far was answered from a stale record. -/
def Avoids (vm : VMManager) : Prop := ∀ l ∈ vm.lookups, ¬ l.hits h stale

instance decidableAvoids (h : Nat) (stale : List ContractInformation) (vm : VMManager) :
    Decidable (Avoids h stale vm) :=
  inferInstanceAs (Decidable (∀ l ∈ vm.lookups, ¬ l.hits h stale))

variable {env h stale contracts}

variable {vm vm₁ : VMManager} {lookups : List Lookup}

theorem Avoids.of_append
    (hvm : Avoids h stale vm₁) (hlookups : vm₁.lookups = vm.lookups ++ lookups) :
    Avoids h stale vm := fun l hl => hvm l (hlookups ▸ List.mem_append_left _ hl)

variable {l : Lookup}

theorem Avoids.last
    (hvm : Avoids h stale vm) (hlookups : vm.lookups = lookups ++ [l]) : ¬ l.hits h stale :=
  hvm l (hlookups ▸ by simp)

variable {vm' vm₁' : VMManager}

theorem StaleRel.of_same (hrel : StaleRel env stale contracts vm vm')
    (hexecutor : vm₁.isExecutor = vm.isExecutor) (hdatabase : vm₁.database = vm.database)
    (hlookups : vm₁.lookups = vm.lookups)
    (hwithout : vm₁' = { vm₁ with database := vm₁.database.without stale }) :
    StaleRel env stale contracts vm₁ vm₁' :=
  ⟨hwithout, hexecutor.trans hrel.isExecutor, by rw [hdatabase, hlookups, hrel.stored],
    hlookups ▸ hrel.deployments⟩

theorem StaleRel.of_lookup
    (hrel : StaleRel env stale contracts vm vm') (hl : ∀ c accepted, l ≠ .insertion c accepted)
    (hexecutor : vm₁.isExecutor = vm.isExecutor) (hdatabase : vm₁.database = vm.database)
    (hlookups : vm₁.lookups = vm.lookups ++ [l])
    (hwithout : vm₁' = { vm₁ with database := vm₁.database.without stale }) :
    StaleRel env stale contracts vm₁ vm₁' := by
  have haccepted : Lookup.accepted l = none := by
    unfold Lookup.accepted
    split
    next c => exact absurd rfl (hl c true)
    · rfl
  refine ⟨hwithout, hexecutor.trans hrel.isExecutor, ?_, ?_⟩
  · rw [hdatabase, hlookups, hrel.stored, List.filterMap_append, List.filterMap_cons, haccepted]
    simp
  · rw [hlookups]
    exact atEach_concat.mpr ⟨hrel.deployments, fun c accepted heq => absurd heq (hl c accepted)⟩

/-- The procedure notes slots only, and reads and writes nothing of the contracts. -/
abbrev OnStale {α : Type} (env : VmEnvironment) (h : Nat)
    (stale contracts : List ContractInformation) (m : VmM α) : Prop :=
  OnHosts (StaleRel env stale contracts) (Avoids h stale) m m

theorem simulates_note_slot (a : Bytes) (p : U256) :
    OnStale env h stale contracts (note (.slot a p)) := by
  refine simulates_modify (fun _ _ => trivial) (fun vm _ hgood => hgood.of_append rfl) ?_
  intro vm vm' _ hrel
  obtain rfl := hrel.without
  exact hrel.of_lookup (by rintro _ _ ⟨⟩) rfl rfl rfl rfl

theorem simulates_storePointerInCache (a : Bytes) (p : U256) (value : Option U256) :
    OnStale env h stale contracts (storePointerInCache a p value) := by
  refine simulates_modify (fun _ _ => trivial) (fun vm _ hgood => hgood) ?_
  intro vm vm' _ hrel
  obtain rfl := hrel.without
  exact hrel.of_same rfl rfl rfl rfl

theorem simulates_ofExcept {α : Type} {f : VMManager → Except VmError α}
    (hf : ∀ vm, f { vm with database := vm.database.without stale } = f vm) :
    OnStale env h stale contracts (ofExcept f) := by
  refine ⟨fun _ _ => trivial, fun _ _ hgood => hgood, ?_⟩
  intro vm vm' _ hrel _
  obtain rfl := hrel.without
  exact ⟨(hf vm).symm, hrel⟩

theorem simulates_requireBlockState : OnStale env h stale contracts requireBlockState := by
  refine ⟨fun _ _ => trivial, fun _ _ hgood => hgood, ?_⟩
  intro vm vm' _ hrel _
  obtain rfl := hrel.without
  exact ⟨rfl, hrel⟩

theorem simulates_getStorage (T : RustMerkleTree) (a : Bytes) (p : U256) (n : Nat) :
    OnStale env h stale contracts (VMManager.getStorage T a p n) := by
  unfold VMManager.getStorage
  refine simulates_bind simulates_requireBlockState fun _ => ?_
  refine simulates_bind (simulates_note_slot a p) fun _ => ?_
  refine simulates_bind (simulates_ofExcept fun _ => rfl) fun known => ?_
  cases known with
  | some value => exact simulates_pure _
  | none =>
    refine simulates_get_bind (fun vm => vm.database.getStorage a p n) ?_ fun vm vm' hread => ?_
    · intro vm vm' _ hrel
      obtain rfl := hrel.without
      rfl
    · rw [hread]
      exact simulates_bind (simulates_storePointerInCache a p _) fun _ => simulates_pure _

theorem simulates_getStorageMultiple (T : RustMerkleTree) (pointers : List (Bytes × U256))
    (n : Nat) : OnStale env h stale contracts (VMManager.getStorageMultiple T pointers n) := by
  unfold VMManager.getStorageMultiple
  refine simulates_bind simulates_requireBlockState fun _ => ?_
  refine simulates_bind (simulates_foldEach (fun collected slot => ?_) _ _) fun collected => ?_
  · refine simulates_bind (simulates_note_slot _ _) fun _ => ?_
    refine simulates_bind (simulates_ofExcept fun _ => rfl) fun known => ?_
    refine simulates_get_bind (fun vm => vm.database.getStorage slot.1 slot.2 n) ?_
      fun vm vm' hread => ?_
    · intro vm vm' _ hrel
      obtain rfl := hrel.without
      rfl
    · rw [hread]
      exact simulates_pure _
  · refine simulates_bind (simulates_forEach (fun entry => ?_) _) fun _ => simulates_pure _
    cases entry.2 with
    | some value => exact simulates_storePointerInCache _ _ _
    | none => exact simulates_pure _

/-! ### Looking for contracts -/

theorem simulates_getContractAddress (reference : ContractReference) :
    OnStale env h stale contracts (getContractAddress reference) := by
  refine ⟨fun _ _ => trivial, fun vm _ hgood => ?_, fun vm vm' _ hrel hgood => ?_⟩
  · rw [getContractAddress_eq] at hgood
    exact hgood.of_append rfl
  · obtain rfl := hrel.without
    rw [getContractAddress_eq] at hgood
    have hmiss := hgood.last rfl
    have hfind : findReference (vm.database.without stale) reference =
        findReference vm.database reference := by
      cases reference with
      | hex address => rfl
      | p2op contractAddress =>
        exact congrArg (Option.map ContractInformation.contractPublicKey)
          (VMStorage.find?_without (fun c hc => decide_eq_false fun heq => hmiss ⟨c, hc, heq⟩) _)
    rw [getContractAddress_eq, getContractAddress_eq, hfind]
    exact ⟨rfl, hrel.of_lookup (by rintro _ _ ⟨⟩) rfl rfl rfl rfl⟩

theorem simulates_isContract (a : Bytes) : OnStale env h stale contracts (isContract env a) :=
  simulates_bind (simulates_getContractAddress _) fun _ => simulates_pure _

theorem simulates_getContractInformation (a : Bytes) :
    OnStale env h stale contracts (getContractInformation a h) := by
  refine ⟨fun _ _ => trivial, fun vm _ hgood => ?_, fun vm vm' _ hrel hgood => ?_⟩
  · rw [getContractInformation_eq] at hgood
    exact hgood.of_append rfl
  · obtain rfl := hrel.without
    rw [getContractInformation_eq] at hgood
    have hmiss := hgood.last rfl
    have hfind : (vm.database.without stale).getContractAt a h = vm.database.getContractAt a h :=
      VMStorage.find?_without (fun c hc => decide_eq_false fun heq => hmiss ⟨c, hc, heq⟩) _
    rw [getContractInformation_eq, getContractInformation_eq, hfind]
    exact ⟨rfl, hrel.of_lookup (by rintro _ _ ⟨⟩) rfl rfl rfl rfl⟩

theorem simulates_isCached (a : Bytes) : OnStale env h stale contracts (isCached a) := by
  refine ⟨fun _ _ => trivial, fun vm _ hgood => hgood.of_append rfl, fun vm vm' _ hrel _ => ?_⟩
  obtain rfl := hrel.without
  exact ⟨rfl, hrel.of_lookup (by rintro _ _ ⟨⟩) rfl rfl rfl rfl⟩

theorem simulates_contractExistsBelow (hstale : ∀ c ∈ stale, h ≤ c.blockHeight) (a : Bytes) :
    OnStale env h stale contracts (contractExistsBelow a h) := by
  refine ⟨fun _ _ => trivial, fun vm _ hgood => hgood.of_append rfl, fun vm vm' _ hrel _ => ?_⟩
  obtain rfl := hrel.without
  have hany : (vm.database.without stale).contractExistsBelow a h =
      vm.database.contractExistsBelow a h := by
    refine VMStorage.any_without (fun c hc => decide_eq_false fun heq => ?_) _
    have hle := hstale c hc
    omega
  refine ⟨?_, hrel.of_lookup (by rintro _ _ ⟨⟩) rfl rfl rfl rfl⟩
  show Except.ok _ = Except.ok _
  rw [hany]

theorem simulates_deployContract (contract : ContractInformation) :
    OnStale env h stale contracts (deployContractFromInfo env contract) := by
  refine ⟨fun _ _ => trivial, fun vm _ hgood => ?_, fun vm vm' _ hrel hgood => ?_⟩
  · cases hexecutor : vm.isExecutor with
    | true =>
      have hnone : deployContractFromInfo env contract vm = (.ok (), vm) := by
        show (if vm.isExecutor then _ else _ : VmM Unit) vm = _
        rw [hexecutor]
        rfl
      rwa [hnone] at hgood
    | false =>
      rw [deployContractFromInfo_eq env contract hexecutor, setContractAt_eq] at hgood
      exact hgood.of_append rfl
  · obtain rfl := hrel.without
    have hexecutor := hrel.isExecutor
    rw [deployContractFromInfo_eq env contract hexecutor, setContractAt_eq] at hgood
    -- no stale contract has the address, so that the insertion ends the same without them
    have hmiss := hgood.last rfl
    have hset : (vm.database.without stale).setContract env contract =
        (vm.database.setContract env contract).map (VMStorage.without stale) :=
      VMStorage.setContract_without fun c hc hsame => hmiss ⟨c, hc, hsame⟩
    have hself : contract ∉ stale := fun hmem => hmiss ⟨contract, hmem, .inl rfl⟩
    have hisOk : ((vm.database.without stale).setContract env contract).isOk = true ↔
        env.insertFails contract = false ∧
          ∀ c ∈ (vm.database.without stale).contracts, ¬ SameAddress c contract :=
      VMStorage.setContract_isOk_iff contract _
    rw [hrel.stored] at hisOk
    have hexecutor' : ({ vm with database := vm.database.without stale } : VMManager).isExecutor =
        false := hexecutor
    rw [deployContractFromInfo_eq env contract hexecutor,
      deployContractFromInfo_eq env contract hexecutor', setContractAt_eq, setContractAt_eq]
    dsimp only
    rw [hset]
    cases hresult : vm.database.setContract env contract with
    | error e =>
      rw [hset, hresult] at hisOk
      refine ⟨rfl, rfl, hexecutor, ?_, ?_⟩
      · show _ = contracts ++ (vm.lookups ++ [Lookup.insertion contract false]).filterMap _
        rw [List.filterMap_append,
          show [Lookup.insertion contract false].filterMap Lookup.accepted = [] from rfl,
          List.append_nil]
        exact hrel.stored
      · refine atEach_concat.mpr ⟨hrel.deployments, ?_⟩
        rintro c accepted heq
        obtain ⟨rfl, rfl⟩ := Lookup.insertion.inj heq
        exact hisOk
    | ok database =>
      rw [hset, hresult] at hisOk
      obtain rfl := VMStorage.setContract_eq_ok hresult
      refine ⟨rfl, rfl, hexecutor, ?_, ?_⟩
      · show ((vm.database.contracts ++ [contract]).filter fun c => c ∉ stale) =
          contracts ++ (vm.lookups ++ [Lookup.insertion contract true]).filterMap _
        have hcontracts : (vm.database.contracts.filter fun c => c ∉ stale) = _ := hrel.stored
        rw [List.filterMap_append, List.filter_append, hcontracts,
          List.filter_cons_of_pos (by simpa using hself), List.append_assoc]
        rfl
      · refine atEach_concat.mpr ⟨hrel.deployments, ?_⟩
        rintro c accepted heq
        obtain ⟨rfl, rfl⟩ := Lookup.insertion.inj heq
        exact hisOk

/-! ### The trees of the block -/

theorem simulates_of_commutes {m : VmM Unit}
    (hlookups : ∀ vm, (m vm).2.lookups = vm.lookups ∧ (m vm).2.database = vm.database ∧
      (m vm).2.isExecutor = vm.isExecutor)
    (hcommutes : ∀ vm database,
      m { vm with database } = ((m vm).1, { (m vm).2 with database })) :
    OnStale env h stale contracts m := by
  refine ⟨fun _ _ => trivial, fun vm _ hgood => ?_, fun vm vm' _ hrel _ => ?_⟩
  · unfold Avoids at hgood
    rwa [(hlookups vm).1] at hgood
  · obtain rfl := hrel.without
    obtain ⟨hlog, hdatabase, hexecutor⟩ := hlookups vm
    have hrun := hcommutes vm (vm.database.without stale)
    refine ⟨(congrArg Prod.fst hrun).symm, hrel.of_same hexecutor hdatabase hlog ?_⟩
    rw [hdatabase]
    exact congrArg Prod.snd hrun

theorem simulates_onBlockState
    (f : MerkleTree U256 U256 → Except MerkleError (MerkleTree U256 U256)) :
    OnStale env h stale contracts (onBlockState f) := by
  apply simulates_of_commutes
  · intro vm
    unfold onBlockState
    rcases vm.blockState with _ | tree
    · exact ⟨rfl, rfl, rfl⟩
    · dsimp only
      rcases f tree with e | tree' <;> exact ⟨rfl, rfl, rfl⟩
  · intro vm database
    obtain ⟨isExecutor, database', height, _ | tree, receipts, contracts, addresses, pointers,
      lookups⟩ := vm
    · rfl
    · unfold onBlockState
      dsimp only
      rcases f tree with e | tree' <;> rfl

theorem simulates_onReceiptState
    (f : MerkleTree ReceiptKey Bytes → Except MerkleError (MerkleTree ReceiptKey Bytes)) :
    OnStale env h stale contracts (onReceiptState f) := by
  apply simulates_of_commutes
  · intro vm
    unfold onReceiptState
    rcases vm.receiptState with _ | tree
    · exact ⟨rfl, rfl, rfl⟩
    · dsimp only
      rcases f tree with e | tree' <;> exact ⟨rfl, rfl, rfl⟩
  · intro vm database
    obtain ⟨isExecutor, database', height, state, _ | tree, contracts, addresses, pointers,
      lookups⟩ := vm
    · rfl
    · unfold onReceiptState
      dsimp only
      rcases f tree with e | tree' <;> rfl

theorem simulates_recordResult (evaluation : Option Locals) (a id : Bytes) :
    OnStale env h stale contracts (recordResult evaluation a id) := by
  unfold recordResult
  rcases savedResult evaluation with _ | ⟨_ | s, result⟩
  · exact simulates_onReceiptState _
  · exact simulates_throw _
  · exact simulates_bind (simulates_onBlockState _) fun _ => simulates_onReceiptState _

theorem simulates_updateBlockValuesFromResult (T : RustMerkleTree) (evaluation : Option Locals)
    (a id : Bytes) (disable : Bool) :
    OnStale env h stale contracts (updateBlockValuesFromResult T evaluation a id disable) := by
  unfold updateBlockValuesFromResult
  refine simulates_get_bind
    (fun vm => (vm.isExecutor, vm.blockState.isNone, vm.receiptState.isNone)) ?_
    fun vm vm' hread => ?_
  · intro vm vm' _ hrel
    obtain rfl := hrel.without
    rfl
  · obtain ⟨hexecutor, htrees⟩ := Prod.mk.inj hread
    obtain ⟨hstate, hreceipts⟩ := Prod.mk.inj htrees
    rw [hexecutor, hstate, hreceipts]
    refine simulates_ite (simulates_pure _) ?_
    refine simulates_bind (simulates_throwIf _ _) fun _ => ?_
    refine simulates_bind (simulates_throwIf _ _) fun _ => ?_
    refine simulates_bind (simulates_throwIf _ _) fun _ => ?_
    refine simulates_bind (simulates_recordResult _ _ _) fun _ => ?_
    exact simulates_ite (simulates_pure _) (simulates_onBlockState _)

theorem vmSimulates_stale (env : VmEnvironment) (T : RustMerkleTree)
    (hstale : ∀ c ∈ stale, h ≤ c.blockHeight) :
    VmSimulates env T h (StaleRel env stale contracts) (Avoids h stale) where
  host :=
    { getStorage := fun a p => simulates_getStorage T a p h
      getStorageMultiple := fun pointers => simulates_getStorageMultiple T pointers h
      isContract := simulates_isContract
      getContractInformation := simulates_getContractInformation
      isCached := simulates_isCached
      contractExistsBelow := simulates_contractExistsBelow hstale
      deployContract := simulates_deployContract }
  height := by
    intro vm vm' hrel
    obtain rfl := hrel.without
    rfl
  getContractAddress := simulates_getContractAddress
  update := simulates_updateBlockValuesFromResult T

end

/-! ### Blocks -/

/-- The transactions of a block end as they do without the stale contract records, and a deployment is
accepted exactly if no contract of its address exists below the block or was deployed earlier in it. -/
structure StaleBlind (env : VmEnvironment) (T : RustMerkleTree) (settings : BlockSettings) (h : Nat)
    (db : VMStorage) (ts : List BlockTransaction) : Prop where
  outcomes : (executions env T settings h (start h db) ts).map Executed.outcome =
    (executions env T settings h (start h (db.belowHeight h)) ts).map Executed.outcome
  deployments : AtEach (InsertionOk env (db.belowHeight h).contracts)
    (executeTransactions env T settings h ts (start h db)).2.vm.lookups

/-- **Stale contract records do not change execution**, as long as no transaction asks for one. -/
theorem stale_blind (env : VmEnvironment) (T : RustMerkleTree) (settings : BlockSettings) (h : Nat)
    (db : VMStorage) (ts : List BlockTransaction)
    (hmeets : Meets (fun b t => some (BlockExecution.executeTransaction env T settings h t b).2)
      (fun b t => Avoids h (db.staleContracts h)
        (BlockExecution.executeTransaction env T settings h t b).2.vm) (start h db) ts) :
    StaleBlind env T settings h db ts := by
  have hstale : ∀ c ∈ db.staleContracts h, h ≤ c.blockHeight := by
    intro c hc
    have hheight := (List.mem_filter.mp hc).2
    exact of_decide_eq_true hheight
  have hwithout := VMStorage.without_staleContracts h db
  have hstart : BlockRel
      (StaleRel env (db.staleContracts h) (db.belowHeight h).contracts) (start h db)
      (start h (db.belowHeight h)) := by
    refine ⟨⟨?_, rfl, ?_, atEach_nil⟩, rfl⟩
    · rw [← hwithout]
      rfl
    · rw [← hwithout]
      exact (List.append_nil _).symm
  obtain ⟨houtcomes, hrel⟩ :=
    outcomes_eq_of_simulates (vmSimulates_stale env T hstale) settings ts hstart hmeets
  exact ⟨houtcomes, hrel.1.deployments⟩

/-! ### Runs -/

/-- A contract with the address `[9]` at a height. -/
def strayContract (blockHeight : Nat) : ContractInformation :=
  { contractOf [6] blockHeight with contractAddress := [0, 9], contractPublicKey := [9] }

/-- The deployment of the contract `[7]` in a block. -/
def deployTransaction : BlockTransaction where
  tx := .deployment redeployment
  isCoinbase := false
  mldsaError := none
  fromDead := false

/-- A transaction that returns 1 if the address `[9]` is a contract, and 2 otherwise. -/
def queryTransaction : BlockTransaction where
  tx := .interaction {
    transactionId := List.replicate 32 1
    contractAddress := [0, 7]
    address := [7]
    gasSatFee := 1
    maxGas := 1000
    specialSettings := none
    preloadStorageList := []
    execution := fun _ => .accountType [9] fun isContract _ =>
      .exit ⟨1, 0, if isContract then [1] else [2]⟩ }
  isCoinbase := false
  mldsaError := none
  fromDead := false

/-- The result of an execution, if it did not revert. -/
def resultOf : Except VmError Locals → Option Bytes
  | .ok l => (savedResult (some l)).map Prod.snd
  | .error _ => none

/-- A deployment next to a stale record of another address. -/
theorem stale_blind_deployment : StaleBlind plainEnvironment RustMerkleTree.multisetTree
    ⟨true, true⟩ 5 ⟨[strayContract 6], [], [3, 4]⟩ [deployTransaction] :=
  stale_blind _ _ _ _ _ _ (by decide +kernel)

/-- A stale record refuses the deployment of its address, and is a contract to a transaction that
asks. -/
theorem stale_not_blind :
    ¬ StaleBlind plainEnvironment RustMerkleTree.multisetTree ⟨true, true⟩ 5
        ⟨[contractOf [6] 6], [], [3, 4]⟩ [deployTransaction] ∧
    ¬ StaleBlind plainEnvironment RustMerkleTree.multisetTree ⟨true, true⟩ 5
        ⟨[contractOf [3] 3, strayContract 6], [], [3, 4]⟩ [queryTransaction] := by
  constructor
  · intro hblind
    have hresults := congrArg (List.map resultOf) hblind.outcomes
    revert hresults
    decide +kernel
  · intro hblind
    have hresults := congrArg (List.map resultOf) hblind.outcomes
    revert hresults
    decide +kernel

end OpnetNode
