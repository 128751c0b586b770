import OpnetNode.Vm.Equiv.DirectReads
import OpnetNode.Vm.Equiv.PointerQueries

/-!
# The maps of a preload

What `getStorageMultiple` returns for a contract is a map with one key for each array that was asked
for, and after them one for each document that was found (`Filled`).  A slot is preloaded with the value
of the last key that names it (`Filled.lastWhere_slot`): what the VM knows of it, or what the database
has for the 32 bytes of its pointer, if they were asked for, and else zero.
-/

namespace OpnetNode

open Proc EvalM VMManager

namespace PointerPreload

/-! ### What is known of the arrays -/

section

variable (T : RustMerkleTree) (P : PreloadEnvironment)

def slotAt (pointer : Bytes) : Option U256 := (P.uint8ArrayToPointer pointer).toOption.bind slotOf

/-- What the VM knows of the slot that an array names. -/
def knownOf (vm : VMManager) (a b : Bytes) : Option U256 := (slotAt P b).bind (knownSlot vm a)

variable {T P} {n : Nat} {vm : VMManager} {a : Bytes}

theorem slotOf_toNat (p : U256) : slotOf p.toNat = some p := by
  unfold slotOf
  rw [if_pos p.isLt, BitVec.ofNat_toNat, BitVec.setWidth_eq]

theorem slotAt_u256ToBytes (p : U256) : slotAt P (u256ToBytes p) = some p := by
  unfold slotAt
  rw [P.uint8ArrayToPointer_u256ToBytes]
  exact slotOf_toNat p

/-- An array that could be looked up is read as a number, and its slot is not refused. -/
structure Readable (T : RustMerkleTree) (P : PreloadEnvironment) (vm : VMManager) (a b : Bytes) :
    Prop where
  known : knownValue T P vm a b = .ok (knownOf P vm a b)
  stateRead : ∀ p, slotAt P b = some p → ∃ value, PointerPreload.stateRead T vm a p = .ok value

variable {b : Bytes}

theorem readable_of_knownValue {known : Option U256}
    (h : knownValue T P vm a b = .ok known) : Readable T P vm a b := by
  unfold knownValue at h
  obtain ⟨pointer, hpointer, hslot⟩ := exceptBind_eq_ok h
  have hat : slotAt P b = slotOf pointer := by
    unfold slotAt
    rw [hpointer]
    rfl
  have hknown : known = knownOf P vm a b ∧
      ∀ p, slotAt P b = some p → ∃ value, PointerPreload.stateRead T vm a p = .ok value := by
    unfold knownOf
    rw [hat]
    cases hof : slotOf pointer with
    | none =>
      rw [hof] at hslot
      exact ⟨(Except.ok.inj hslot).symm, fun p hp => nomatch hp⟩
    | some slot =>
      rw [hof] at hslot
      dsimp only at hslot
      rw [getFromInternalCache_eq] at hslot
      cases hread : PointerPreload.stateRead T vm a slot with
      | error e =>
        rw [hread] at hslot
        cases hslot
      | ok value =>
        rw [hread] at hslot
        refine ⟨(Except.ok.inj hslot).symm, fun p hp => ?_⟩
        cases hp
        exact ⟨value, hread⟩
  refine ⟨?_, hknown.2⟩
  rw [← hknown.1]
  unfold knownValue
  rw [hpointer]
  exact hslot

/-- The entry of an array whose slot is known. -/
def knownEntry (P : PreloadEnvironment) (vm : VMManager) (a : Bytes) (array : PointerArray) :
    Option (PointerKey × Option U256) :=
  (knownOf P vm a array.bytes).map fun value => (.requested array, some value)

/-- What is not known is asked of the database. -/
def unknownArrays (P : PreloadEnvironment) (vm : VMManager) (a : Bytes)
    (arrays : List PointerArray) : List PointerArray :=
  arrays.filter fun array => (knownOf P vm a array.bytes).isNone

variable {arrays : List PointerArray} {map : PointerMap}

theorem collectPointers_eq_ok {map' : PointerMap} {unknown unknown' : List PointerArray}
    (h : arrays.foldlM (collectPointer T P vm a) (map, unknown) = .ok (map', unknown')) :
    (∀ array ∈ arrays, Readable T P vm a array.bytes) ∧
      map' = (arrays.filterMap (knownEntry P vm a)).foldl
        (fun map entry => map.set entry.1 entry.2) map ∧
      unknown' = unknown ++ unknownArrays P vm a arrays := by
  induction arrays generalizing map unknown with
  | nil =>
    cases h
    exact ⟨fun array harray => (nomatch harray), rfl, (List.append_nil _).symm⟩
  | cons array arrays ih =>
    rw [List.foldlM_cons] at h
    obtain ⟨⟨map₁, unknown₁⟩, hstep, hrest⟩ := exceptBind_eq_ok h
    obtain ⟨hreadable, hmap, hunknown⟩ := ih hrest
    unfold collectPointer at hstep
    obtain ⟨known, hknown, hstep⟩ := exceptBind_eq_ok hstep
    have harray := readable_of_knownValue hknown
    have hof : knownOf P vm a array.bytes = known := by
      rw [harray.known] at hknown
      exact Except.ok.inj hknown
    refine ⟨fun array' harray' => ?_, ?_⟩
    · rcases List.mem_cons.mp harray' with rfl | hmem
      · exact harray
      · exact hreadable array' hmem
    · rw [List.filterMap_cons, knownEntry, unknownArrays, List.filter_cons, hof]
      cases known with
      | some value =>
        cases hstep
        exact ⟨hmap, hunknown⟩
      | none =>
        cases hstep
        refine ⟨hmap, hunknown.trans ?_⟩
        rw [List.append_assoc]
        rfl

/-! ### The maps of the contracts -/

/-- The map of a contract: what is known of every array, then what was fetched for the others. -/
structure Filled (P : PreloadEnvironment) (n : Nat) (vm : VMManager) (a : Bytes)
    (arrays : List PointerArray) (map : PointerMap) : Prop where
  requested : ∀ array, map.get (.requested array) =
    if array ∈ arrays then some (knownOf P vm a array.bytes) else none
  fetched : ∀ b, map.get (.fetched b) =
    if b ∈ (unknownArrays P vm a arrays).map PointerArray.bytes then
      (vm.database.getByContractAndPointer a b (some n)).map some
    else none
  ordered : map.keys.Pairwise VMStorage.RequestedFirst

/-- The entries of the arrays whose slots are known. -/
def knownMap (P : PreloadEnvironment) (vm : VMManager) (a : Bytes) (arrays : List PointerArray) :
    PointerMap :=
  (arrays.filterMap (knownEntry P vm a)).foldl (fun map entry => map.set entry.1 entry.2) .empty

variable {e : PointerKey × Option U256}

theorem mem_knownEntries : e ∈ arrays.filterMap (knownEntry P vm a) ↔ ∃ array ∈ arrays,
      (knownOf P vm a array.bytes).isSome ∧ e = (.requested array, knownOf P vm a array.bytes) := by
  rw [List.mem_filterMap]
  unfold knownEntry
  constructor
  · rintro ⟨array, harray, hentry⟩
    obtain ⟨value, hvalue, rfl⟩ := Option.map_eq_some_iff.mp hentry
    exact ⟨array, harray, by rw [hvalue]; rfl, by rw [hvalue]⟩
  · rintro ⟨array, harray, hsome, rfl⟩
    obtain ⟨value, hvalue⟩ := Option.isSome_iff_exists.mp hsome
    exact ⟨array, harray, by rw [hvalue]; rfl⟩

theorem get_knownMap (arrays : List PointerArray) (array : PointerArray) :
    (knownMap P vm a arrays).get (.requested array) =
      if array ∈ arrays ∧ (knownOf P vm a array.bytes).isSome then
        some (knownOf P vm a array.bytes)
      else none := by
  have hkey : PointerKey.requested array ∈ (arrays.filterMap (knownEntry P vm a)).map Prod.fst ↔
      array ∈ arrays ∧ (knownOf P vm a array.bytes).isSome := by
    rw [List.mem_map]
    constructor
    · rintro ⟨e, he, heq⟩
      obtain ⟨array', harray', hsome, rfl⟩ := mem_knownEntries.mp he
      obtain rfl := PointerKey.requested.inj heq
      exact ⟨harray', hsome⟩
    · rintro ⟨harray, hsome⟩
      exact ⟨_, mem_knownEntries.mpr ⟨array, harray, hsome, rfl⟩, rfl⟩
  unfold knownMap
  rw [JsMap.get_foldl_set (v := knownOf P vm a array.bytes)]
  · simp only [hkey]
    rfl
  · intro e he heq
    obtain ⟨array', -, -, rfl⟩ := mem_knownEntries.mp he
    obtain rfl := PointerKey.requested.inj heq
    rfl

variable {k : PointerKey}

theorem isRequested_of_mem_knownMap
    (hk : k ∈ (knownMap P vm a arrays).keys) : k.isRequested = true := by
  cases k with
  | requested array => rfl
  | fetched b =>
    have hnot : PointerKey.fetched b ∉ (arrays.filterMap (knownEntry P vm a)).map Prod.fst := by
      intro hin
      obtain ⟨e, he, heq⟩ := List.mem_map.mp hin
      obtain ⟨array, -, -, rfl⟩ := mem_knownEntries.mp he
      cases heq
    rw [JsMap.mem_keys_iff, knownMap, JsMap.get_foldl_set (v := none), if_neg hnot] at hk
    · cases hk
    · intro e he heq
      exact absurd (heq ▸ List.mem_map_of_mem he) hnot

theorem filled_setAll {fetched : PointerMap}
    (h : VMStorage.Answered vm.database a (some n) (unknownArrays P vm a arrays) fetched) :
    Filled P n vm a arrays ((knownMap P vm a arrays).setAll fetched) := by
  constructor
  · intro array
    have hunknown : array ∈ unknownArrays P vm a arrays ↔
        array ∈ arrays ∧ (knownOf P vm a array.bytes).isNone = true := List.mem_filter
    rw [JsMap.get_setAll, h.requested, get_knownMap]
    simp only [hunknown]
    by_cases harray : array ∈ arrays
    · cases knownOf P vm a array.bytes with
      | none | some => simp [harray]
    · simp [harray]
  · intro b
    have hnone : (knownMap P vm a arrays).get (.fetched b) = none := by
      rcases hget : (knownMap P vm a arrays).get (.fetched b) with _ | value
      · rfl
      · have hkey : PointerKey.fetched b ∈ (knownMap P vm a arrays).keys := by
          rw [JsMap.mem_keys_iff, hget]
          rfl
        cases isRequested_of_mem_knownMap hkey
    rw [JsMap.get_setAll, h.fetched, hnone, Option.or_none]
  · apply JsMap.pairwise_keys_foldl_set
    rw [List.pairwise_append]
    refine ⟨?_, h.ordered, fun k hk _ _ _ => isRequested_of_mem_knownMap hk⟩
    refine List.Pairwise.imp_of_mem (R := fun _ _ => True)
      (fun {k k'} hk _ _ _ => isRequested_of_mem_knownMap hk)
      (List.pairwise_of_forall fun _ _ => trivial)

variable {list : PointerList}

theorem collectContracts_eq_ok {pointersResult : ProvenPointers} {realList : PointerList}
    (h : list.entries.foldlM (collectContract T P vm) (.empty, .empty) =
      .ok (pointersResult, realList)) (a : Bytes) :
    (list.get a = none → pointersResult.get a = none ∧ realList.get a = none) ∧
      ∀ arrays, list.get a = some arrays →
        (∀ array ∈ arrays, Readable T P vm a array.bytes) ∧
        pointersResult.get a = some (knownMap P vm a arrays) ∧
        realList.get a = some (unknownArrays P vm a arrays) := by
  have hstep (s : ProvenPointers × PointerList) (e : Bytes × List PointerArray)
      (s' : ProvenPointers × PointerList) (hs : collectContract T P vm s e = .ok s') :
      (∀ array ∈ e.2, Readable T P vm e.1 array.bytes) ∧
        s'.1 = s.1.set e.1 (knownMap P vm e.1 e.2) ∧
        s'.2 = s.2.set e.1 (unknownArrays P vm e.1 e.2) := by
    unfold collectContract at hs
    obtain ⟨⟨map, unknown⟩, hcollect, hret⟩ := exceptBind_eq_ok hs
    obtain ⟨hreadable, rfl, rfl⟩ := collectPointers_eq_ok hcollect
    cases hret
    exact ⟨hreadable, rfl, rfl⟩
  have hmaps := JsMap.read_foldlM (fun (s : ProvenPointers × PointerList) k => s.1.get k)
    (R := fun a arrays _ map => (∀ array ∈ arrays, Readable T P vm a array.bytes) ∧
      map = knownMap P vm a arrays)
    (fun s e s' hs => ⟨_, ⟨(hstep s e s' hs).1, rfl⟩, fun k => by
      rw [(hstep s e s' hs).2.1, JsMap.get_set]⟩) list.keys_nodup h a
  have hlists := JsMap.read_foldlM (fun (s : ProvenPointers × PointerList) k => s.2.get k)
    (R := fun a arrays _ unknown => unknown = unknownArrays P vm a arrays)
    (fun s e s' hs => ⟨_, rfl, fun k => by rw [(hstep s e s' hs).2.2, JsMap.get_set]⟩)
    list.keys_nodup h a
  constructor
  · intro hnone
    replace hnone : JsMap.getEntries a list.entries = none := hnone
    rw [hnone] at hmaps hlists
    exact ⟨hmaps, hlists⟩
  · intro arrays hget
    replace hget : JsMap.getEntries a list.entries = some arrays := hget
    rw [hget] at hmaps hlists
    obtain ⟨map, ⟨hreadable, rfl⟩, hmap⟩ := hmaps
    obtain ⟨unknown, rfl, hunknown⟩ := hlists
    exact ⟨hreadable, hmap, hunknown⟩

theorem get_mergeFetched (fetched pointersResult : ProvenPointers) (a : Bytes) :
    (fetched.entries.foldl mergeFetched pointersResult).get a =
      (fetched.get a).elim (pointersResult.get a) fun map =>
        (pointersResult.get a).map fun existingMap => existingMap.setAll map := by
  refine JsMap.read_foldl_at (fun (m : ProvenPointers) k => m.get k)
    (g := fun map existing => existing.map fun existingMap => existingMap.setAll map)
    (fun m e k => ?_) fetched.entries fetched.keys_nodup pointersResult a
  unfold mergeFetched
  by_cases hk : k = e.1
  · subst hk
    rw [if_pos rfl]
    cases hget : m.get e.1 with
    | none => exact hget
    | some existingMap => exact JsMap.get_set_self _ _ _
  · rw [if_neg hk]
    cases m.get e.1 with
    | none => rfl
    | some existingMap => exact JsMap.get_set_of_ne _ _ hk

/-- What `getStorageMultiple` returns for a list. -/
structure AnswersList (T : RustMerkleTree) (P : PreloadEnvironment) (n : Nat) (vm : VMManager)
    (list : PointerList) (found : Option ProvenPointers) : Prop where
  readable : ∀ a arrays, list.get a = some arrays → ∀ array ∈ arrays,
    Readable T P vm a array.bytes
  filled : ∀ a arrays, list.get a = some arrays →
    ∃ m map, found = some m ∧ m.get a = some map ∧ Filled P n vm a arrays map
  others : ∀ m a, found = some m → list.get a = none → m.get a = none

variable {array : PointerArray} {v : Option U256}

theorem Filled.of_requested (h : Filled P n vm a arrays map)
    (hget : map.get (.requested array) = some v) :
    array ∈ arrays ∧ ∀ p, slotAt P array.bytes = some p → v = knownSlot vm a p := by
  rw [h.requested] at hget
  split_ifs at hget with harray
  refine ⟨harray, fun p hslot => ?_⟩
  cases hget
  unfold knownOf
  rw [hslot, Option.bind_some]

theorem Filled.of_fetched (h : Filled P n vm a arrays map) (hget : map.get (.fetched b) = some v) :
    ∃ p value, u256ToBytes p = b ∧ v = some value ∧ knownSlot vm a p = none ∧
      u256ToBytes p ∈ arrays.map PointerArray.bytes ∧
      vm.database.getStorage a p n = some value := by
  rw [h.fetched] at hget
  split_ifs at hget with hunknown
  obtain ⟨value, hvalue, rfl⟩ := Option.map_eq_some_iff.mp hget
  have hdocument := hvalue
  rw [VMStorage.getByContractAndPointer_eq] at hdocument
  obtain ⟨doc, hdoc, -⟩ := Option.map_eq_some_iff.mp hdocument
  obtain ⟨-, rfl⟩ := VMStorage.of_newestDocument hdoc
  obtain ⟨array, harray, hbytes⟩ := List.mem_map.mp hunknown
  obtain ⟨hmem, hnone⟩ := List.mem_filter.mp harray
  rw [knownOf, hbytes, slotAt_u256ToBytes, Option.bind_some, Option.isNone_iff_eq_none] at hnone
  rw [VMStorage.getByContractAndPointer_u256ToBytes] at hvalue
  refine ⟨doc.pointer, value, rfl, rfl, hnone, ?_, hvalue⟩
  rw [← hbytes]
  exact List.mem_map_of_mem hmem

variable {p : U256}

variable {value : U256}

theorem Filled.get_fetched (h : Filled P n vm a arrays map) (hknown : knownSlot vm a p = none)
    (hmem : u256ToBytes p ∈ arrays.map PointerArray.bytes)
    (hstored : vm.database.getStorage a p n = some value) :
    map.get (.fetched (u256ToBytes p)) = some (some value) := by
  obtain ⟨array, harray, hbytes⟩ := List.mem_map.mp hmem
  have hunknown : u256ToBytes p ∈ (unknownArrays P vm a arrays).map PointerArray.bytes := by
    refine List.mem_map.mpr ⟨array, List.mem_filter.mpr ⟨harray, ?_⟩, hbytes⟩
    rw [knownOf, hbytes, slotAt_u256ToBytes, Option.bind_some, hknown]
    rfl
  rw [h.fetched, if_pos hunknown, VMStorage.getByContractAndPointer_u256ToBytes, hstored]
  rfl

theorem Filled.directRead_eq (h : Filled P n vm a arrays map)
    (hget : map.get k = some (some value)) (hslot : slotAt P k.bytes = some p) :
    directRead n vm a p = some value := by
  unfold directRead
  cases k with
  | requested array =>
    have hknown := (h.of_requested hget).2 p hslot
    rw [← hknown, Option.some_or]
  | fetched b =>
    obtain ⟨q, value', rfl, hvalue, hknown, -, hstored⟩ := h.of_fetched hget
    replace hslot : slotAt P (u256ToBytes q) = some p := hslot
    rw [slotAt_u256ToBytes] at hslot
    cases hslot
    rw [hknown, Option.none_or, hstored, hvalue]

/-- **Step.** The answers for a list, and a VM that reads as before. -/
theorem ensures_getStorageMultiple (list : PointerList) (vm : VMManager) :
    Outcome (fun found vm' => ¬ Refuses vm ∧ AnswersList T P n vm list found ∧ SameReads n vm vm')
      (fun _ => True) (getStorageMultiple T P list n vm) := by
  show Outcome _ _ (bindResult _ (requireBlockState vm))
  by_cases hguard : Refuses vm
  · rw [requireBlockState_refused hguard]
    trivial
  rw [requireBlockState_passed hguard, bindResult_ok]
  show Outcome _ _ (bindResult _
    (list.entries.foldlM (collectContract T P vm) (.empty, .empty), vm))
  rcases hcollect : list.entries.foldlM (collectContract T P vm) (.empty, .empty) with
    e | ⟨pointersResult, realList⟩
  · trivial
  have hcollected := collectContracts_eq_ok hcollect
  rw [bindResult_ok]
  dsimp only
  show Outcome _ _ (bindResult _ (.ok vm, vm))
  rw [bindResult_ok]
  cases hfetched : vm.database.getByContractsAndPointers P realList (some n) with
  | none =>
    -- Nothing was asked for at all.
    have hempty : realList.entries = [] := by
      unfold VMStorage.getByContractsAndPointers at hfetched
      split_ifs at hfetched with hsize
      exact List.length_eq_zero_iff.mp hsize
    have hnot (a : Bytes) (arrays : List PointerArray) : list.get a ≠ some arrays := by
      intro hget
      have hentry := realList.mem_entries_iff.mpr ((hcollected a).2 arrays hget).2.2
      rw [hempty] at hentry
      cases hentry
    refine ⟨hguard, ⟨fun a arrays hget => absurd hget (hnot a arrays),
      fun a arrays hget => absurd hget (hnot a arrays), fun m a hm => (nomatch hm)⟩, .refl n vm⟩
  | some fetchedFromDB =>
    dsimp only
    have hspec := VMStorage.getByContractsAndPointers_spec hfetched
    generalize hmerged : fetchedFromDB.entries.foldl mergeFetched pointersResult = merged
    have hanswers : AnswersList T P n vm list (some merged) := by
      refine ⟨fun a arrays hget => ((hcollected a).2 arrays hget).1, fun a arrays hget => ?_,
        fun m a hm hnone => ?_⟩
      · obtain ⟨-, hknown, hunknown⟩ := (hcollected a).2 arrays hget
        obtain ⟨map, hmap, hanswered⟩ := (hspec a).2 _ hunknown
        refine ⟨merged, _, rfl, ?_, filled_setAll hanswered⟩
        rw [← hmerged, get_mergeFetched, hmap, hknown]
        rfl
      · cases hm
        obtain ⟨hresult, hreal⟩ := (hcollected a).1 hnone
        rw [← hmerged, get_mergeFetched, (hspec a).1 hreal, hresult]
        rfl
    have hkeeps : Keeps (SameReads n vm) (Proc.forEach (fun contract : Bytes × PointerMap =>
        Proc.forEach (finalizeProvenMemoryValue P contract.1) contract.2.entries)
        merged.entries) := by
      apply keeps_forEach_of_mem
      rintro ⟨a, map⟩ hcontract
      apply keeps_forEach_of_mem
      rintro ⟨k, v⟩ hentry
      have hmap := merged.mem_entries_iff.mp hcontract
      have hget := map.mem_entries_iff.mp hentry
      cases v with
      | none => exact keeps_pure ()
      | some value =>
        intro vm' h
        show SameReads n vm (bindResult _ (P.uint8ArrayToPointer k.bytes, vm')).2
        cases hpointer : P.uint8ArrayToPointer k.bytes with
        | error e => exact h
        | ok pointer =>
          rw [bindResult_ok]
          cases hslot : slotOf pointer with
          | none => exact h
          | some p =>
            have hat : slotAt P k.bytes = some p := by
              unfold slotAt
              rw [hpointer]
              exact hslot
            cases harrays : list.get a with
            | none =>
              rw [hanswers.others merged a rfl harrays] at hmap
              cases hmap
            | some arrays =>
              obtain ⟨m, map', hm, hmap', hfilled⟩ := hanswers.filled a arrays harrays
              cases hm
              rw [hmap] at hmap'
              cases hmap'
              exact h.storePointerInCache (hfilled.directRead_eq hget hat).symm
    have hrun := hkeeps vm (.refl n vm)
    show Outcome _ _ (bindResult _ _)
    rcases hstored : (Proc.forEach (fun contract : Bytes × PointerMap =>
      Proc.forEach (finalizeProvenMemoryValue P contract.1) contract.2.entries)
      merged.entries : VmM Unit) vm with ⟨e | _, vm'⟩
    · trivial
    · rw [hstored] at hrun
      exact And.intro hguard ⟨hanswers, hrun⟩

/-! ### The preloaded slots -/

theorem slotAt_eq_some_iff : slotAt P b = some p ↔ P.uint8ArrayToPointer b = .ok p.toNat := by
  unfold slotAt
  constructor
  · intro h
    cases hpointer : P.uint8ArrayToPointer b with
    | error e =>
      rw [hpointer] at h
      cases h
    | ok pointer =>
      rw [hpointer] at h
      replace h : slotOf pointer = some p := h
      unfold slotOf at h
      split_ifs at h with hlt
      cases h
      rw [BitVec.toNat_ofNat, Nat.mod_eq_of_lt hlt]
  · intro h
    rw [h]
    exact slotOf_toNat p

variable {current current' : JsMap U256 U256}

theorem get_preloadedPointer (h : preloadedPointer P current e = .ok current') (p : U256) :
    current'.get p = if slotAt P e.1.bytes = some p then some (e.2.getD 0) else current.get p := by
  unfold preloadedPointer at h
  obtain ⟨pointer, hpointer, hset⟩ := exceptBind_eq_ok h
  unfold slotAt
  rw [hpointer]
  show _ = if slotOf pointer = some p then _ else _
  cases hslot : slotOf pointer with
  | none =>
    rw [hslot] at hset
    cases hset
    rfl
  | some slot =>
    rw [hslot] at hset
    cases hset
    rw [JsMap.get_set]
    by_cases hp : p = slot
    · simp [hp]
    · have hp' : slot ≠ p := fun heq => hp heq.symm
      simp [hp, hp']

theorem get_preloadedPointers {entries : List (PointerKey × Option U256)}
    (h : entries.foldlM (preloadedPointer P) current = .ok current') (p : U256) :
    current'.get p = ((entries.reverse.find? fun e => slotAt P e.1.bytes = some p).map
      fun e => e.2.getD 0).or (current.get p) := by
  induction entries generalizing current with
  | nil =>
    cases h
    rfl
  | cons e entries ih =>
    rw [List.foldlM_cons] at h
    obtain ⟨current₁, hstep, hrest⟩ := exceptBind_eq_ok h
    rw [ih hrest, get_preloadedPointer hstep, List.reverse_cons, List.find?_append]
    cases entries.reverse.find? fun e => slotAt P e.1.bytes = some p with
    | some last => rfl
    | none =>
      by_cases hslot : slotAt P e.1.bytes = some p
      · simp [hslot]
      · simp [hslot]

def preloadedValue (n : Nat) (vm : VMManager) (a : Bytes) (arrays : List PointerArray) (p : U256) :
    U256 :=
  (knownSlot vm a p).getD
    (if (arrays.map PointerArray.bytes).contains (u256ToBytes p) then
      (vm.database.getStorage a p n).getD 0
    else 0)

theorem preloadedValue_of_none {a : Bytes} (hknown : knownSlot vm a p = none)
    (arrays : List PointerArray) :
    preloadedValue n vm a arrays p =
      if u256ToBytes p ∈ arrays.map PointerArray.bytes then (vm.database.getStorage a p n).getD 0
      else 0 := by
  unfold preloadedValue
  rw [hknown, Option.getD_none]
  simp only [List.contains_iff_mem]

theorem Filled.lastWhere_eq_none (h : Filled P n vm a arrays map)
    (hno : ∀ array ∈ arrays, slotAt P array.bytes ≠ some p) :
    (map.lastWhere fun k => slotAt P k.bytes = some p) = none := by
  cases hlast : map.lastWhere fun k => slotAt P k.bytes = some p with
  | none => rfl
  | some e =>
    obtain ⟨hslot, hget⟩ := JsMap.of_lastWhere_eq_some hlast
    rw [decide_eq_true_eq] at hslot
    obtain ⟨k, v⟩ := e
    cases k with
    | requested array =>
      rw [h.requested] at hget
      split_ifs at hget with harray
      exact absurd hslot (hno array harray)
    | fetched b =>
      rw [h.fetched] at hget
      split_ifs at hget with hunknown
      obtain ⟨array, harray, rfl⟩ := List.mem_map.mp hunknown
      exact absurd hslot (hno array (List.mem_filter.mp harray).1)

/-- **Step.** What the last key of a slot holds. -/
theorem Filled.lastWhere_slot (h : Filled P n vm a arrays map) (harray : array ∈ arrays)
    (hslot : slotAt P array.bytes = some p) :
    ((map.lastWhere fun k => slotAt P k.bytes = some p).map fun e => e.2.getD 0) =
      some (preloadedValue n vm a arrays p) := by
  have hkey : PointerKey.requested array ∈ map.keys := by
    rw [JsMap.mem_keys_iff, h.requested, if_pos harray]
    rfl
  have hnamed : decide (slotAt P (PointerKey.requested array).bytes = some p) = true :=
    decide_eq_true hslot
  obtain ⟨⟨k, v⟩, hlast, -⟩ := JsMap.exists_lastWhere
    (q := fun k => slotAt P k.bytes = some p) h.ordered hkey hnamed
  obtain ⟨hk, hget⟩ := JsMap.of_lastWhere_eq_some hlast
  rw [decide_eq_true_eq] at hk
  rw [hlast]
  refine congrArg some ?_
  show v.getD 0 = preloadedValue n vm a arrays p
  cases k with
  | fetched b =>
    obtain ⟨q, value, rfl, rfl, hknown, hmem, hstored⟩ := h.of_fetched hget
    replace hk : slotAt P (u256ToBytes q) = some p := hk
    rw [slotAt_u256ToBytes] at hk
    cases hk
    rw [preloadedValue_of_none hknown, if_pos hmem, hstored, Option.getD_some]
  | requested array' =>
    obtain rfl := (h.of_requested hget).2 p hk
    cases hknown : knownSlot vm a p with
    | some value =>
      unfold preloadedValue
      rw [hknown]
      rfl
    | none =>
      rw [preloadedValue_of_none hknown]
      split_ifs with hmem
      · cases hstored : vm.database.getStorage a p n with
        | none => rfl
        | some value =>
          -- A document would have put a key after those that were asked for.
          have hkey' : PointerKey.fetched (u256ToBytes p) ∈ map.keys := by
            rw [JsMap.mem_keys_iff, h.get_fetched hknown hmem hstored]
            rfl
          obtain ⟨e, hlast', hafter⟩ := JsMap.exists_lastWhere
            (q := fun k => slotAt P k.bytes = some p) h.ordered hkey'
            (decide_eq_true (slotAt_u256ToBytes p))
          rw [hlast] at hlast'
          cases hlast'
          rcases hafter with heq | hrequested
          · cases heq
          · cases hrequested rfl
      · rfl

theorem slot_preloadedStorage {found : Option ProvenPointers}
    (h : AnswersList T P n vm list found) {preloaded : Slots}
    (hrun : preloadedStorage P found .empty = .ok preloaded) (a : Bytes) (p : U256) :
    (∀ value, preloaded.slot a p = some value →
      ∃ arrays, list.get a = some arrays ∧ ∃ array ∈ arrays, slotAt P array.bytes = some p) ∧
    ∀ arrays, list.get a = some arrays → ∀ array ∈ arrays, slotAt P array.bytes = some p →
      preloaded.slot a p = some (preloadedValue n vm a arrays p) := by
  cases found with
  | none =>
    cases hrun
    refine ⟨fun value hslot => (nomatch hslot), fun arrays hget => ?_⟩
    obtain ⟨m, map, hm, -⟩ := h.filled a arrays hget
    cases hm
  | some found =>
    -- the preload writes the map of each contract apart from the others
    have hcontract := JsMap.read_foldlM (fun (storage : Slots) k => storage.get k)
      (R := fun _ map current loaded => map.entries.foldlM (preloadedPointer P)
        (current.getD .empty) = .ok loaded)
      (fun s e s' hs => by
        unfold preloadedContract at hs
        obtain ⟨loaded, hloaded, hret⟩ := exceptBind_eq_ok hs
        cases hret
        exact ⟨loaded, hloaded, fun k => JsMap.get_set _ _ _ _⟩) found.keys_nodup hrun a
    have hslot (map : PointerMap) (hmap : found.get a = some map) : preloaded.slot a p =
        (map.lastWhere fun k => slotAt P k.bytes = some p).map fun e => e.2.getD 0 := by
      rw [show JsMap.getEntries a found.entries = some map from hmap] at hcontract
      obtain ⟨loaded, hloaded, hget⟩ := hcontract
      unfold TreeValues.slot
      rw [show JsMap.get preloaded a = some loaded from hget, Option.bind_some]
      exact (get_preloadedPointers hloaded p).trans Option.or_none
    constructor
    · intro value hvalue
      cases hget : list.get a with
      | none =>
        have hmap := h.others found a rfl hget
        rw [show JsMap.getEntries a found.entries = none from hmap] at hcontract
        unfold TreeValues.slot at hvalue
        rw [show JsMap.get preloaded a = none from hcontract] at hvalue
        cases hvalue
      | some arrays =>
        obtain ⟨m, map, hm, hmap, hfilled⟩ := h.filled a arrays hget
        cases hm
        refine ⟨arrays, rfl, ?_⟩
        by_contra hno
        push Not at hno
        rw [hslot map hmap, hfilled.lastWhere_eq_none hno] at hvalue
        cases hvalue
    · intro arrays hget array harray hnames
      obtain ⟨m, map, hm, hmap, hfilled⟩ := h.filled a arrays hget
      cases hm
      rw [hslot map hmap, hfilled.lastWhere_slot harray hnames]

end

end PointerPreload

end OpnetNode
