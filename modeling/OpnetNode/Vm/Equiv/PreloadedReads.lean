import OpnetNode.Vm.Equiv.Atomicity
import OpnetNode.Vm.Equiv.PointerPreload

/-!
# Preloaded reads

The slots that `preloadPointers` loads, against the reads they stand for: loads after it return what
direct reads return, in any frame, exactly if every slot that only the database knows, and that is not
zero there, was asked for by its 32 bytes (`preload_transparent_iff`).
-/

namespace OpnetNode

open Proc EvalM VMManager

namespace PointerPreload

/-! ### Loads after preloading -/

/-- A frame of a transaction that has loaded nothing yet; an access list may have written slots. -/
def unloaded (vm : VMManager) (ctx : TransactionContext) (evaluation : ContractEvaluation) :
    Frame VMManager where
  host := vm
  locals := ⟨{ ctx with preloadStorage := .empty, trace := [] }, evaluation⟩

/-- In every frame at the same height, whatever its contract does, every load returns the last value
stored before, or what was written at the start, or what a direct read of the VM at the start
returns. -/
def LoadsDirect (env : VmEnvironment) (T : RustMerkleTree) (start f : Frame VMManager) : Prop :=
  ∀ (evaluation : ContractEvaluation) (execution : Execution),
    evaluation.blockNumber = start.locals.evaluation.blockNumber →
    AtEach (LoadOk (readOver start.locals.ctx.storage
        (loadedDirectly T start.locals.evaluation.blockNumber start.host)))
      (interpret env (vmHost env T) execution
        { f with locals := { f.locals with evaluation } }).2.locals.ctx.trace

/-- Loads return what they would return without preloading, and both queries agree. -/
structure PreloadTransparent (env : VmEnvironment) (T : RustMerkleTree) (P : PreloadEnvironment)
    (start f : Frame VMManager) : Prop where
  loads : LoadsDirect env T start f
  queries : ∀ pointers, VMStorage.QueriesAgree P start.host.database pointers

/-- Every slot on the list that only the database knows, with a newest value that is not zero, was
asked for by its 32 bytes. -/
def AskedByBytes (P : PreloadEnvironment) (list : Option PointerList) (start : Frame VMManager) :
    Prop :=
  ∀ a arrays, (list.bind fun list => list.get a) = some arrays → ∀ array ∈ arrays, ∀ p : U256,
    P.uint8ArrayToPointer array.bytes = .ok p.toNat →
    start.locals.ctx.storage.slot a p = none → knownSlot start.host a p = none →
    ∀ doc, start.host.database.newestDocument a (u256ToBytes p)
      (some start.locals.evaluation.blockNumber) = some doc → doc.value ≠ 0 →
    u256ToBytes p ∈ arrays.map PointerArray.bytes

section

variable {env : VmEnvironment} {T : RustMerkleTree} {vm vm' : VMManager} {ctx : TransactionContext}
  {evaluation : ContractEvaluation}

/-- The preloaded slots are what direct reads return. -/
def PreloadRight (T : RustMerkleTree) (start : Frame VMManager) (preloaded : Slots) : Prop :=
  ∀ a p value, start.locals.ctx.storage.slot a p = none → preloaded.slot a p = some value →
    value = (loadedDirectly T start.locals.evaluation.blockNumber start.host a p).getD 0

/-- Loads return what direct reads return exactly if the preloaded slots are right. -/
theorem loadsDirect_iff {n : Nat} (hn : evaluation.blockNumber = n) (hvm : SameReads n vm vm')
    (preloaded : Slots) :
    LoadsDirect env T (unloaded vm ctx evaluation)
        { host := vm'
          locals := { (unloaded vm ctx evaluation).locals with
            ctx := { (unloaded vm ctx evaluation).locals.ctx with preloadStorage := preloaded } } } ↔
      PreloadRight T (unloaded vm ctx evaluation) preloaded := by
  subst hn
  constructor
  · intro h a p value hinitial hslot
    -- a frame at the address that loads just this slot
    have hloads := h { evaluation with contractAddress := a } (.load p fun _ _ => .exit ⟨0, 0, []⟩) rfl
    have hfound : Method.storageOf
        ⟨{ ctx with preloadStorage := preloaded, trace := [] },
          { evaluation with contractAddress := a }⟩ p = some value := by
      unfold Method.storageOf
      rw [show TreeValues.slot ctx.storage a p = none from hinitial, Option.none_or]
      exact hslot
    have htrace : (interpret env (vmHost env T) (.load p fun _ _ => .exit ⟨0, 0, []⟩)
        ⟨vm', ⟨{ ctx with preloadStorage := preloaded, trace := [] },
          { evaluation with contractAddress := a }⟩⟩).2.locals.ctx.trace =
        [.loaded a p value] := by
      show (bindResult _ (load (vmHost env T) p _)).2.locals.ctx.trace = _
      rw [load_of_some hfound]
      rfl
    have hok : LoadOk _ [] (.loaded a p value) := hloads [] _ [] htrace
    have hover : readOver ctx.storage (loadedDirectly T evaluation.blockNumber vm) a p =
        loadedDirectly T evaluation.blockNumber vm a p := by
      unfold readOver
      rw [show TreeValues.slot ctx.storage a p = none from hinitial, Option.none_or]
    have hvalue : value = (readOver ctx.storage
      (loadedDirectly T evaluation.blockNumber vm) a p).getD 0 := hok
    rwa [hover] at hvalue
  · intro h evaluation' execution hn
    have hcalls : Within.CallsKeep env (vmHost env T) evaluation.blockNumber
        (SameReads evaluation.blockNumber vm)
        (StorageInvFrom ctx.storage (loadedDirectly T evaluation.blockNumber vm)) :=
      callsKeep_storageInvFrom env (hostReads_sameReads env T evaluation.blockNumber vm)
    have hkeeps := Within.keeps_interpret env hcalls execution
    refine (hkeeps ⟨vm', ⟨{ ctx with preloadStorage := preloaded, trace := [] }, evaluation'⟩⟩
      ⟨hvm, hn, ?_⟩).shared.loads
    exact ⟨fun a p => Option.none_or.symm, h, atEach_nil⟩

/-- The preloaded slots are right exactly if the stored ones were asked for by their bytes. -/
theorem preloadRight_iff {P : PreloadEnvironment} {list : PointerList}
    {found : Option ProvenPointers} (hguard : ¬ Refuses vm)
    (h : AnswersList T P evaluation.blockNumber vm list found) {preloaded : Slots}
    (hrun : preloadedStorage P found .empty = .ok preloaded) :
    PreloadRight T (unloaded vm ctx evaluation) preloaded ↔
      AskedByBytes P (some list) (unloaded vm ctx evaluation) := by
  have hread {a : Bytes} {arrays : List PointerArray} (hget : list.get a = some arrays)
      {array : PointerArray} (harray : array ∈ arrays) {p : U256}
      (hslot : slotAt P array.bytes = some p) :
      loadedDirectly T evaluation.blockNumber vm a p = directRead evaluation.blockNumber vm a p := by
    obtain ⟨state, hstate⟩ := (h.readable a arrays hget array harray).stateRead p hslot
    exact loadedDirectly_eq hguard hstate
  have hstored (a : Bytes) (p : U256) : vm.database.getStorage a p evaluation.blockNumber =
      (vm.database.newestDocument a (u256ToBytes p) (some evaluation.blockNumber)).map
        PointerDocument.value := by
    rw [← VMStorage.getByContractAndPointer_u256ToBytes, VMStorage.getByContractAndPointer_eq]
  constructor
  · intro hright a arrays hget array harray p hpointer hinitial hknown doc hdoc hvalue
    replace hknown : knownSlot vm a p = none := hknown
    replace hdoc : vm.database.newestDocument a (u256ToBytes p) (some evaluation.blockNumber) =
      some doc := hdoc
    replace hget : list.get a = some arrays := hget
    have hslot := slotAt_eq_some_iff.mpr hpointer
    by_contra hnot
    have hloaded := (slot_preloadedStorage h hrun a p).2 arrays hget array harray hslot
    have hzero : preloadedValue evaluation.blockNumber vm a arrays p = 0 := by
      rw [preloadedValue_of_none hknown]
      exact if_neg hnot
    rw [hzero] at hloaded
    have heq : (0 : U256) = (loadedDirectly T evaluation.blockNumber vm a p).getD 0 :=
      hright a p 0 hinitial hloaded
    rw [hread hget harray hslot, directRead, hknown, Option.none_or, hstored, hdoc] at heq
    exact hvalue heq.symm
  · intro hasked a p value hinitial hvalue
    obtain ⟨arrays, hget, array, harray, hslot⟩ := (slot_preloadedStorage h hrun a p).1 value hvalue
    rw [(slot_preloadedStorage h hrun a p).2 arrays hget array harray hslot] at hvalue
    cases hvalue
    show preloadedValue evaluation.blockNumber vm a arrays p =
      (loadedDirectly T evaluation.blockNumber vm a p).getD 0
    rw [hread hget harray hslot]
    unfold directRead
    cases hknown : knownSlot vm a p with
    | some known =>
      unfold preloadedValue
      rw [hknown]
      rfl
    | none =>
      rw [preloadedValue_of_none hknown, Option.none_or]
      split_ifs with hmem
      · rfl
      · rw [hstored]
        cases hdoc : vm.database.newestDocument a (u256ToBytes p) (some evaluation.blockNumber) with
        | none => rfl
        | some doc =>
          -- Only a zero may be stored where the bytes were not asked for.
          by_contra hvalue
          have hne : doc.value ≠ 0 := fun hzero => hvalue hzero.symm
          have hpointer := slotAt_eq_some_iff.mp hslot
          exact hmem (hasked a arrays hget array harray p hpointer hinitial hknown doc hdoc hne)

end

theorem onContext_preloadedStorage (P : PreloadEnvironment) (found : Option ProvenPointers)
    (l : Locals) :
    Method.onContext (fun ctx => do
      let preloadStorage ← preloadedStorage P found ctx.preloadStorage
      return { ctx with preloadStorage }) l =
      match preloadedStorage P found l.ctx.preloadStorage with
      | .ok preloadStorage => (.ok (), { l with ctx := { l.ctx with preloadStorage } })
      | .error e => (.error e, l) := by
  unfold Method.onContext
  dsimp only
  cases preloadedStorage P found l.ctx.preloadStorage with
  | ok | error => rfl

/-- **Preloaded reads.** After pointers were preloaded, every load returns what a direct read returns,
in any frame, exactly if the slots that are only known to the database, and are not zero there, were
asked for by their 32 bytes. -/
theorem preload_transparent_iff (env : VmEnvironment) (T : RustMerkleTree) (P : PreloadEnvironment)
    (list : Option PointerList) (vm : VMManager) (ctx : TransactionContext)
    (evaluation : ContractEvaluation) :
    Outcome (fun _ f =>
        PreloadTransparent env T P (unloaded vm ctx evaluation) f ↔
          AskedByBytes P list (unloaded vm ctx evaluation))
      (fun _ => True) (preloadPointers env T P list (unloaded vm ctx evaluation)) := by
  have htransparent {f : Frame VMManager} (h : LoadsDirect env T (unloaded vm ctx evaluation) f ↔
      AskedByBytes P list (unloaded vm ctx evaluation)) :
      PreloadTransparent env T P (unloaded vm ctx evaluation) f ↔
        AskedByBytes P list (unloaded vm ctx evaluation) :=
    ⟨fun ht => h.mp ht.loads, fun ha => ⟨h.mpr ha, VMStorage.query_agreement P vm.database⟩⟩
  cases list with
  | none =>
    refine htransparent ((loadsDirect_iff rfl (.refl _ vm) .empty).trans ⟨fun _ => ?_, fun _ => ?_⟩)
    · exact fun a arrays hget => nomatch hget
    · exact fun a p value _ hslot => nomatch hslot
  | some list =>
    show Outcome _ _ (bindResult _ _)
    unfold throwIf
    -- where a check, the query or the preload throws, nothing is claimed
    split_ifs
    · trivial
    have hanswers := ensures_getStorageMultiple (T := T) (P := P) (n := evaluation.blockNumber) list vm
    show Outcome _ _ (bindResult _ ((getStorageMultiple T P list evaluation.blockNumber vm).1,
      (⟨(getStorageMultiple T P list evaluation.blockNumber vm).2,
        (unloaded vm ctx evaluation).locals⟩ : Frame VMManager)))
    rcases hrun : getStorageMultiple T P list evaluation.blockNumber vm with ⟨e | found, vm'⟩
    · trivial
    rw [hrun] at hanswers
    obtain ⟨hguard, hlist, hvm⟩ := hanswers
    rw [bindResult_ok]
    have hcontext := onContext_preloadedStorage P found (unloaded vm ctx evaluation).locals
    cases hpreloaded : preloadedStorage P found .empty with
    | error e =>
      rw [show preloadedStorage P found (unloaded vm ctx evaluation).locals.ctx.preloadStorage =
        .error e from hpreloaded] at hcontext
      show Outcome _ _ ((Method.onContext _ (unloaded vm ctx evaluation).locals).1, _)
      rw [hcontext]
      trivial
    | ok preloaded =>
      rw [show preloadedStorage P found (unloaded vm ctx evaluation).locals.ctx.preloadStorage =
        .ok preloaded from hpreloaded] at hcontext
      show Outcome _ _ ((Method.onContext _ (unloaded vm ctx evaluation).locals).1,
        (⟨vm', (Method.onContext _ (unloaded vm ctx evaluation).locals).2⟩ : Frame VMManager))
      rw [hcontext]
      exact htransparent ((loadsDirect_iff rfl hvm preloaded).trans
        (preloadRight_iff hguard hlist hpreloaded))

/-! ### An array that is not 32 bytes long -/

/-- Arrays are read as numbers in base 256; an array without bytes is no number. -/
def bigEndianPointers : PreloadEnvironment where
  uint8ArrayToPointer bytes := if bytes = [] then .error (.vm []) else .ok (ofBigEndian bytes)
  uint8ArrayToPointer_u256ToBytes p := by
    have hne : u256ToBytes p ≠ [] := by
      intro hnil
      have hlength := length_u256ToBytes p
      rw [hnil] at hlength
      cases hlength
    have hlt : p.toNat < 256 ^ 32 := by
      have h := p.isLt
      have hpow : (256 : Nat) ^ 32 = 2 ^ 256 := by norm_num
      omega
    rw [if_neg hne, u256ToBytes, ofBigEndian_toBigEndian, Nat.mod_eq_of_lt hlt]
  groupOrder docs := docs
  groupOrder_perm _ := List.Perm.refl _

/-- An executor over a database with one slot of the contract `[7]`. -/
def storedNine : VMManager :=
  VMManager.create true ⟨[contractOf [1] 3], [⟨[7], 5, 9, 3⟩], [3, 4]⟩

/-- The frame of the contract `[7]` at the height 5. -/
def frameOfSeven : ContractEvaluation where
  contractAddress := [7]
  transactionId := []
  blockNumber := 5
  externalCall := false
  revert := none
  result := none
  modifiedStorage := none
  events := .empty
  totalEventSize := 0
  touchedAddresses := .empty

/-- The slot 5, asked for by an array of one byte. -/
def shortArray : PointerList := JsMap.empty.set [7] [⟨0, [5]⟩]

/-- A simulation that starts with the preloading of the short array. -/
def shortStart : Frame VMManager :=
  unloaded storedNine (newContext (GasTracker.new EMULATION_MAX_GAS none) 0 .empty .empty) frameOfSeven

/-- The slot holds 9, and is loaded as zero. -/
theorem not_preloadTransparent_shortArray :
    ¬ Outcome (fun _ f => PreloadTransparent plainEnvironment RustMerkleTree.multisetTree
        bigEndianPointers shortStart f) (fun _ => True)
      (preloadPointers plainEnvironment RustMerkleTree.multisetTree bigEndianPointers
        (some shortArray) shortStart) := by
  intro h
  have hreturns : (preloadPointers plainEnvironment RustMerkleTree.multisetTree bigEndianPointers
      (some shortArray) shortStart).1 = .ok () := by decide +kernel
  have hblock : (preloadPointers plainEnvironment RustMerkleTree.multisetTree bigEndianPointers
      (some shortArray) shortStart).2.locals.evaluation.blockNumber = 5 := by decide +kernel
  have hloaded : (interpret plainEnvironment
      (vmHost plainEnvironment RustMerkleTree.multisetTree) (.load 5 fun _ _ => .exit ⟨0, 0, []⟩)
      (preloadPointers plainEnvironment RustMerkleTree.multisetTree bigEndianPointers
        (some shortArray) shortStart).2).2.locals.ctx.trace = [.loaded [7] 5 0] := by decide +kernel
  rcases hrun : preloadPointers plainEnvironment RustMerkleTree.multisetTree bigEndianPointers
    (some shortArray) shortStart with ⟨e | _, f⟩
  · rw [hrun] at hreturns
    cases hreturns
  · rw [hrun] at h hblock hloaded
    have hok := h.loads f.locals.evaluation (.load 5 fun _ _ => .exit ⟨0, 0, []⟩) hblock [] _ [] hloaded
    have hdirect : (readOver shortStart.locals.ctx.storage (loadedDirectly
        RustMerkleTree.multisetTree 5 storedNine) [7] 5).getD 0 = 9 := by decide +kernel
    exact absurd (hok.trans hdirect) (by decide)

end PointerPreload

end OpnetNode
