import OpnetNode.Merkle.Equiv.MerkleTree
import OpnetNode.Transition
import OpnetNode.Vm.ContractEvaluator

/-!
# What the frames of a call tree leave

The invariant of one frame (`FrameInv`): the shared storage and the deployed contracts are those of
the trace, and as long as the frame has not reverted, no frame below it has and its event lists are
those of the trace since the frame began.  It is proved once for every step of a frame, over any
host whose reading methods keep a property `J` (`HostKeeps`), and then for every call tree by
induction on the execution (`keeps_interpret`).
-/

namespace OpnetNode

open Proc EvalM

/-! ### The trace -/

namespace FrameAction

def writes (address : Bytes) (pointer : U256) : FrameAction → Option U256
  | .wrote a p value => if address = a ∧ pointer = p then some value else none
  | _ => none

def emits (address : Bytes) : FrameAction → Option NetEvent
  | .emitted a event => if address = a then some event else none
  | _ => none

def deploys : FrameAction → Option ContractInformation
  | .deployed contract => some contract
  | _ => none

def isRevert : FrameAction → Bool
  | .reverted _ => true
  | _ => false

/-- An action that changes nothing. -/
structure IsSilent (action : FrameAction) : Prop where
  writes : ∀ a p, action.writes a p = none
  emits : ∀ a, action.emits a = none
  deploys : action.deploys = none
  isRevert : action.isRevert = false

end FrameAction

/-- The value last written to a slot. -/
def written (trace : List FrameAction) (address : Bytes) (pointer : U256) : Option U256 :=
  trace.foldl (fun value action => (action.writes address pointer).or value) none

/-- The events emitted for a contract, in order. -/
def eventsOf (trace : List FrameAction) (address : Bytes) : List NetEvent :=
  trace.filterMap (FrameAction.emits address)

def deploymentsOf (trace : List FrameAction) : List ContractInformation :=
  trace.filterMap FrameAction.deploys

theorem written_append_singleton (trace : List FrameAction) (action : FrameAction) (a : Bytes)
    (p : U256) : written (trace ++ [action]) a p = (action.writes a p).or (written trace a p) := by
  simp [written, List.foldl_append]

theorem written_append (trace added : List FrameAction) (a : Bytes) (p : U256) :
    written (trace ++ added) a p = (written added a p).or (written trace a p) := by
  induction added generalizing trace with
  | nil => simp [written]
  | cons action added ih =>
    have hsingle := written_append_singleton [] action a p
    rw [← List.singleton_append, ← List.append_assoc, ih, ih [action], written_append_singleton,
      ← List.nil_append [action], hsingle, Option.or_assoc, Option.or_assoc]
    simp [written]

theorem eventsOf_append (trace added : List FrameAction) (a : Bytes) :
    eventsOf (trace ++ added) a = eventsOf trace a ++ eventsOf added a :=
  List.filterMap_append

theorem deploymentsOf_append (trace added : List FrameAction) :
    deploymentsOf (trace ++ added) = deploymentsOf trace ++ deploymentsOf added :=
  List.filterMap_append

/-! ### Merged storage -/

theorem Slots.slot_merge (modified storage : Slots) (a : Bytes) (p : U256) :
    TreeValues.slot (modified.merge storage) a p =
      (TreeValues.slot storage a p).or (TreeValues.slot modified a p) := by
  refine TreeValues.slot_foldl TreeValues.slot (fun modified entry a p => ?_) storage modified a p
  unfold TreeValues.slot
  rw [JsMap.get_set]
  by_cases ha : a = entry.1
  · rw [if_pos ha, if_pos ha, Option.bind_some, JsMap.get_setAll, ha]
    cases modified.get entry.1 <;> simp
  · rw [if_neg ha, if_neg ha]

/-! ### The invariant -/

/-- The part of a frame and its shared state that the invariant is about. -/
structure Effects where
  trace : List FrameAction
  storage : Slots
  deployedContracts : JsMap Bytes ContractInformation
  externalCall : Bool
  revert : Option Bytes
  modifiedStorage : Option Slots
  events : JsMap Bytes (List NetEvent)

def Locals.effects (l : Locals) : Effects where
  trace := l.ctx.trace
  storage := l.ctx.storage
  deployedContracts := l.ctx.deployedContracts
  externalCall := l.evaluation.externalCall
  revert := l.evaluation.revert
  modifiedStorage := l.evaluation.modifiedStorage
  events := l.evaluation.events

/-- What always holds in a frame that began with the trace `before`, in a transaction that began
with the shared state `start`. -/
structure Consistent (start : TransactionContext) (before : List FrameAction)
    (externalCall : Bool) (e : Effects) : Prop where
  grows : ∃ added, e.trace = before ++ added
  external : e.externalCall = externalCall
  storage : ∀ a p, e.storage.slot a p = (written e.trace a p).or (start.storage.slot a p)
  deployed : e.deployedContracts.vals = start.deployedContracts.vals ++ deploymentsOf e.trace
  keyed : ∀ c ∈ e.deployedContracts.vals, e.deployedContracts.get c.contractPublicKey = some c
  modified : ∀ s, e.modifiedStorage = some s →
    ∀ a p, (s.slot a p).isSome → (e.storage.slot a p).isSome

/-- The actions added hold no revert, and the event lists are theirs. -/
def Accounts (added : List FrameAction) (events : JsMap Bytes (List NetEvent)) : Prop :=
  (∀ action ∈ added, action.isRevert = false) ∧ ∀ a, (events.get a).getD [] = eventsOf added a

/-- The invariant of a frame: while it has not reverted, it accounts for all that was done since it
began. -/
structure FrameInv (start : TransactionContext) (before : List FrameAction) (externalCall : Bool)
    (e : Effects) : Prop extends Consistent start before externalCall e where
  exact_ : e.revert = none → ∀ added, e.trace = before ++ added → Accounts added e.events

/-- A frame that just ran an inner frame and has not merged it yet. -/
structure Called (start : TransactionContext) (before : List FrameAction) (externalCall : Bool)
    (inner : ContractEvaluation) (e : Effects) : Prop
    extends Consistent start before externalCall e where
  accounts : ∃ own added, e.trace = before ++ (own ++ added) ∧
    (e.revert = none → Accounts own e.events) ∧ (inner.revert = none → Accounts added inner.events)
  innerModified : ∀ s, inner.modifiedStorage = some s →
    ∀ a p, (s.slot a p).isSome → (e.storage.slot a p).isSome

/-- The storage that a frame hands on is all of the shared storage. -/
def HandsOn (e : Effects) : Prop :=
  ∃ s, e.modifiedStorage = some s ∧ ∀ a p, s.slot a p = e.storage.slot a p

theorem Accounts.append {own added : List FrameAction} {events events' : JsMap Bytes (List NetEvent)}
    (hown : Accounts own events) (hadded : ∀ action ∈ added, action.isRevert = false)
    (hevents : ∀ a, (events'.get a).getD [] = (events.get a).getD [] ++ eventsOf added a) :
    Accounts (own ++ added) events' := by
  constructor
  · intro action haction
    rcases List.mem_append.mp haction with h | h
    · exact hown.1 action h
    · exact hadded action h
  · intro a
    rw [hevents a, hown.2 a, eventsOf_append]

section

variable {start : TransactionContext} {before : List FrameAction} {external : Bool}

variable {e : Effects}

theorem Consistent.frameInv_of_revert (h : Consistent start before external e)
    (hrevert : e.revert.isSome) : FrameInv start before external e := by
  refine ⟨h, fun hnone => ?_⟩
  rw [hnone] at hrevert
  exact absurd hrevert (by simp)

/-- The step rule for actions: what one action adds to the shared state and to the event lists. -/
theorem FrameInv.record {e' : Effects} (h : FrameInv start before external e)
    (action : FrameAction) (htrace : e'.trace = e.trace ++ [action])
    (hexternal : e'.externalCall = e.externalCall) (hrevert : e'.revert = e.revert)
    (hmodified : e'.modifiedStorage = e.modifiedStorage)
    (hstorage : ∀ a p, e'.storage.slot a p = (action.writes a p).or (e.storage.slot a p))
    (hdeployed : e'.deployedContracts.vals = e.deployedContracts.vals ++ action.deploys.toList)
    (hkeyed : ∀ c ∈ e'.deployedContracts.vals,
      e'.deployedContracts.get c.contractPublicKey = some c)
    (haction : e.revert = none → action.isRevert = false)
    (hevents : ∀ a, (e'.events.get a).getD [] = (e.events.get a).getD [] ++ (action.emits a).toList) :
    FrameInv start before external e' := by
  obtain ⟨added, hadded⟩ := h.grows
  have hadded' : e'.trace = before ++ (added ++ [action]) := by
    rw [htrace, hadded, List.append_assoc]
  refine ⟨⟨⟨_, hadded'⟩, hexternal.trans h.external, fun a p => ?_, ?_, hkeyed, ?_⟩, ?_⟩
  · rw [hstorage, h.storage, htrace, written_append_singleton, Option.or_assoc]
  · rw [hdeployed, h.deployed, htrace, deploymentsOf_append, List.append_assoc]
    congr 2
  · intro s hs a p hslot
    have hold := h.modified s (hmodified ▸ hs) a p hslot
    rw [hstorage, Option.isSome_or, hold, Bool.or_true]
  · intro hnone all hall
    obtain rfl : added ++ [action] = all := List.append_cancel_left (hadded'.symm.trans hall)
    have hnone' : e.revert = none := hrevert ▸ hnone
    refine (h.exact_ hnone' added hadded).append ?_ fun a => ?_
    · intro x hx
      rw [List.mem_singleton.mp hx]
      exact haction hnone'
    · rw [hevents a]
      cases he : action.emits a <;> simp [eventsOf, he]

/-! ### Methods -/

/-- A method that leaves the effects as they are. -/
def Quiet {α : Type} (m : Method α) : Prop := ∀ l, (m l).2.effects = l.effects

theorem quiet_onContext {f : TransactionContext → Except VmError TransactionContext}
    (h : ∀ ctx ctx', f ctx = .ok ctx' → ctx'.trace = ctx.trace ∧ ctx'.storage = ctx.storage ∧
      ctx'.deployedContracts = ctx.deployedContracts) : Quiet (Method.onContext f) := by
  intro l
  unfold Method.onContext
  cases hf : f l.ctx with
  | error e => rfl
  | ok ctx =>
    obtain ⟨htrace, hstorage, hdeployed⟩ := h l.ctx ctx hf
    simp only [Locals.effects, htrace, hstorage, hdeployed]

theorem quiet_chargeGas (gas : TransactionContext → Nat) (external : Bool) (address : Bytes) :
    Quiet (Method.onContext fun ctx => do
      let gasTracker ← ctx.gasTracker.setGasUsed (gas ctx) 0 external address
      return { ctx with gasTracker }) := by
  apply quiet_onContext
  intro ctx ctx' h
  obtain ⟨gasTracker, -, hctx⟩ := exceptBind_eq_ok h
  cases hctx
  exact ⟨rfl, rfl, rfl⟩

theorem quiet_setGasUsed (gas : Nat) : Quiet (Method.setGasUsed gas) := fun l =>
  quiet_chargeGas (fun _ => gas) l.evaluation.externalCall l.evaluation.contractAddress l

theorem quiet_incrementContractDeployDepth :
    Quiet (Method.onContext TransactionContext.incrementContractDeployDepth) := by
  apply quiet_onContext
  intro ctx ctx' h
  obtain ⟨-, rfl⟩ := TransactionContext.incrementContractDeployDepth_eq_ok h
  exact ⟨rfl, rfl, rfl⟩

theorem quiet_incrementContractUpdates :
    Quiet (Method.onContext TransactionContext.incrementContractUpdates) := by
  apply quiet_onContext
  intro ctx ctx' h
  obtain ⟨-, rfl⟩ := TransactionContext.incrementContractUpdates_eq_ok h
  exact ⟨rfl, rfl, rfl⟩

theorem quiet_addToStorage (pointer value : U256) : Quiet (Method.addToStorage pointer value) := by
  intro l
  unfold Method.addToStorage
  split <;> rfl

theorem quiet_enforceEventLimits (event : NetEvent) : Quiet (Method.enforceEventLimits event) := by
  intro l
  unfold Method.enforceEventLimits
  repeat' split
  all_goals rfl

theorem quiet_get : Quiet (Proc.get : Method Locals) := fun _ => rfl

/-- A method whose outcome is described by its effects. -/
def EffectsEnsure {α : Type} (P : Effects → Prop) (m : Method α) (Q : α → Effects → Prop)
    (E : Effects → Prop) : Prop :=
  Ensures (fun l => P l.effects) m (fun a l => Q a l.effects) fun l => E l.effects

theorem Quiet.ensure {α : Type} {m : Method α} (h : Quiet m) (P : Effects → Prop) :
    EffectsEnsure P m (fun _ => P) P := by
  apply ensures_of_keeps
  intro l hl
  rw [h l]
  exact hl

/-- A reverted frame satisfies the invariant whatever happened before. -/
theorem setRevert_ensure (error : Bytes) (E : Effects → Prop) :
    EffectsEnsure (Consistent start before external) (Method.setRevert error)
      (fun _ e => FrameInv start before external e ∧ e.revert.isSome) E := by
  intro l hl
  refine ⟨Consistent.frameInv_of_revert ?_ rfl, rfl⟩
  exact ⟨hl.grows, hl.external, hl.storage, hl.deployed, hl.keyed, hl.modified⟩

theorem setStorage_ensure (pointer value : U256) (E : Effects → Prop) :
    EffectsEnsure (FrameInv start before external) (Method.setStorage pointer value)
      (fun _ => FrameInv start before external) E := by
  intro l hl
  refine hl.record (.wrote l.evaluation.contractAddress pointer value) rfl rfl rfl rfl ?_ ?_
    hl.keyed (fun _ => rfl) fun a => (List.append_nil _).symm
  · intro a p
    show TreeValues.slot (TreeValues.setSlot l.ctx.storage _ pointer value) a p = _
    rw [TreeValues.slot_setSlot, FrameAction.writes]
    split <;> simp [Locals.effects]
  · exact (List.append_nil _).symm

theorem getD_get_pushEvent (address : Bytes) (event : NetEvent) (ev : ContractEvaluation)
    (a : Bytes) : ((Method.pushEvent address event ev).events.get a).getD [] =
      (ev.events.get a).getD [] ++ if a = address then [event] else [] := by
  unfold Method.pushEvent
  rw [JsMap.get_set]
  by_cases ha : a = address <;> simp [ha]

theorem emitEvent_ensure (event : NetEvent) :
    EffectsEnsure (FrameInv start before external) (Method.emitEvent event)
      (fun _ => FrameInv start before external) (FrameInv start before external) := by
  refine ensures_bind ((quiet_enforceEventLimits event).ensure _) fun _ => ?_
  intro l hl
  refine hl.record (.emitted l.evaluation.contractAddress event) rfl rfl rfl rfl
    (fun a p => rfl) (List.append_nil _).symm hl.keyed (fun _ => rfl) fun a => ?_
  show ((Method.pushEvent _ event l.evaluation).events.get a).getD [] = _
  rw [getD_get_pushEvent, FrameAction.emits]
  split <;> rfl

variable {action : FrameAction}

variable {l : Locals}

theorem FrameInv.note (h : FrameInv start before external l.effects) (haction : action.IsSilent) :
    FrameInv start before external (Method.note action l).2.effects := by
  refine h.record action rfl rfl rfl rfl (fun a p => ?_) ?_ h.keyed (fun _ => haction.isRevert)
    fun a => ?_
  · rw [haction.writes, Option.none_or]
    rfl
  · rw [haction.deploys]
    exact (List.append_nil _).symm
  · rw [haction.emits]
    exact (List.append_nil _).symm

theorem Consistent.note (h : Consistent start before external l.effects)
    (haction : action.IsSilent) :
    Consistent start before external (Method.note action l).2.effects := by
  obtain ⟨added, hadded⟩ := h.grows
  replace hadded : l.ctx.trace = before ++ added := hadded
  refine ⟨⟨added ++ [action], ?_⟩, h.external, fun a p => ?_, ?_, h.keyed, h.modified⟩
  · show l.ctx.trace ++ [action] = _
    rw [hadded, List.append_assoc]
  · show _ = (written (l.ctx.trace ++ [action]) a p).or _
    rw [written_append_singleton, haction.writes, Option.none_or]
    exact h.storage a p
  · show _ = _ ++ deploymentsOf (l.ctx.trace ++ [action])
    rw [deploymentsOf_append, show deploymentsOf [action] = [] from by
      rw [deploymentsOf, List.filterMap_cons, haction.deploys, List.filterMap_nil],
      List.append_nil]
    exact h.deployed

theorem addContractInformation_ensure (contract : ContractInformation) :
    EffectsEnsure (FrameInv start before external) (Method.addContractInformation contract)
      (fun _ => FrameInv start before external) (FrameInv start before external) := by
  intro l hl
  unfold Method.addContractInformation
  by_cases hhas : l.ctx.deployedContracts.has contract.contractPublicKey = true
  · rw [if_pos hhas]
    exact hl
  · rw [if_neg hhas]
    have hnot : l.ctx.deployedContracts.has contract.contractPublicKey = false := by
      simpa using hhas
    have hvals := JsMap.vals_set_of_not_has contract hnot
    refine hl.record (.deployed contract) rfl rfl rfl rfl (fun a p => rfl) hvals ?_
      (fun _ => rfl) fun a => (List.append_nil _).symm
    intro c hc
    replace hc : c ∈ l.ctx.deployedContracts.vals ++ [contract] := hvals ▸ hc
    show (l.ctx.deployedContracts.set contract.contractPublicKey contract).get _ = some c
    rw [JsMap.get_set]
    rcases List.mem_append.mp hc with hc | hc
    · have hget : l.ctx.deployedContracts.get c.contractPublicKey = some c := hl.keyed c hc
      have hne : c.contractPublicKey ≠ contract.contractPublicKey := by
        intro heq
        rw [JsMap.has, ← heq, hget] at hnot
        cases hnot
      rw [if_neg hne, hget]
    · rw [List.mem_singleton.mp hc, if_pos rfl]

theorem Consistent.mergeStorage (h : Consistent start before external e) {storage : Slots}
    (hstorage : ∀ a p, (storage.slot a p).isSome → (e.storage.slot a p).isSome) :
    Consistent start before external
      { e with modifiedStorage := some ((e.modifiedStorage.getD .empty).merge storage) } := by
  refine ⟨h.grows, h.external, h.storage, h.deployed, h.keyed, ?_⟩
  intro s hs a p hslot
  obtain rfl := Option.some.inj hs
  rw [Slots.slot_merge, Option.isSome_or, Bool.or_eq_true] at hslot
  rcases hslot with hnew | hold
  · exact hstorage a p hnew
  · cases hm : e.modifiedStorage with
    | none =>
      rw [hm] at hold
      cases hold
    | some s =>
      rw [hm] at hold
      exact h.modified s hm a p hold

theorem setResult_ensure (result : Bytes) (E : Effects → Prop) :
    EffectsEnsure (FrameInv start before external) (Method.setResult result)
      (fun _ e => FrameInv start before external e ∧ HandsOn e) E := by
  intro l hl
  refine ⟨⟨hl.toConsistent.mergeStorage fun _ _ h => h, hl.exact_⟩, _, rfl, fun a p => ?_⟩
  -- What was handed on before is part of the shared storage, so the shared storage decides.
  show TreeValues.slot _ a p = TreeValues.slot l.ctx.storage a p
  rw [Slots.slot_merge]
  cases hslot : TreeValues.slot l.ctx.storage a p with
  | some value => rfl
  | none =>
    rw [Option.none_or]
    cases hm : l.evaluation.modifiedStorage with
    | none => rfl
    | some s =>
      have hcovered : (TreeValues.slot s a p).isSome → (TreeValues.slot l.ctx.storage a p).isSome :=
        hl.modified s hm a p
      rw [hslot] at hcovered
      show TreeValues.slot s a p = none
      simpa using hcovered

/-- The event lists read as `lists`; all else is as in `e₀`. -/
def Merging (e₀ : Effects) (lists : Bytes → List NetEvent) (e : Effects) : Prop :=
  e = { e₀ with events := e.events } ∧ ∀ a, (e.events.get a).getD [] = lists a

theorem mergeList_ensure (e₀ : Effects) (address : Bytes) (events : List NetEvent)
    (lists : Bytes → List NetEvent) :
    EffectsEnsure (Merging e₀ lists)
      (Proc.forEach (fun event => do
        Method.enforceEventLimits event
        Method.onEvaluation (Method.pushEvent address event)) events)
      (fun _ => Merging e₀ fun a => lists a ++ if a = address then events else [])
      fun e => e = { e₀ with events := e.events } := by
  induction events generalizing lists with
  | nil =>
    intro l hl
    refine ⟨hl.1, fun a => (hl.2 a).trans ?_⟩
    show lists a = lists a ++ if a = address then [] else []
    rw [ite_self, List.append_nil]
  | cons event events ih =>
    refine ensures_bind (Q := fun _ l => Merging e₀
      (fun a => lists a ++ if a = address then [event] else []) l.effects) ?_ fun _ => ?_
    · refine ensures_bind (((quiet_enforceEventLimits event).ensure _).mono (fun _ _ h => h)
        fun _ h => h.1) fun _ => ?_
      intro l hl
      refine ⟨?_, fun a => ?_⟩
      · show ({ l.effects with events := _ } : Effects) = _
        rw [hl.1]
        rfl
      · show ((Method.pushEvent address event l.evaluation).events.get a).getD [] = _
        rw [getD_get_pushEvent]
        congr 1
        exact hl.2 a
    · refine (ih _).mono (fun _ l hl => ⟨hl.1, fun a => (hl.2 a).trans ?_⟩) fun _ h => h
      by_cases ha : a = address <;> simp [ha]

theorem mergeEvents_ensure (e₀ : Effects) (events : JsMap Bytes (List NetEvent))
    (lists : Bytes → List NetEvent) :
    EffectsEnsure (Merging e₀ lists) (Method.mergeEvents events)
      (fun _ => Merging e₀ fun a => lists a ++ (events.get a).getD [])
      fun e => e = { e₀ with events := e.events } := by
  simp only [← JsMap.flatMap_filter_entries]
  unfold Method.mergeEvents
  generalize events.entries = entries
  induction entries generalizing lists with
  | nil =>
    intro l hl
    refine ⟨hl.1, fun a => (hl.2 a).trans ?_⟩
    show lists a = lists a ++ List.flatMap Prod.snd []
    rw [List.flatMap_nil, List.append_nil]
  | cons entry entries ih =>
    refine ensures_bind (mergeList_ensure e₀ entry.1 entry.2 lists) fun _ => ?_
    refine (ih _).mono (fun _ l hl => ⟨hl.1, fun a => (hl.2 a).trans ?_⟩) fun _ h => h
    by_cases ha : a = entry.1
    · simp [ha]
    · simp [ha, Ne.symm ha]

/-- Merging the events of an inner frame that did not revert restores the invariant. -/
theorem mergeEvents_ensure_called (inner : ContractEvaluation) (hrevert : inner.revert = none) :
    EffectsEnsure (Called start before external inner) (Method.mergeEvents inner.events)
      (fun _ => FrameInv start before external) (Consistent start before external) := by
  intro l hl
  obtain ⟨own, added, htrace, hown, hadded⟩ := hl.accounts
  have hframe := mergeEvents_ensure l.effects inner.events
    (fun a => (l.effects.events.get a).getD []) l ⟨rfl, fun _ => rfl⟩
  refine hframe.mono (fun _ l' hl' => ?_) fun l' hl' => ?_
  · rw [hl'.1]
    refine ⟨⟨hl.grows, hl.external, hl.storage, hl.deployed, hl.keyed, hl.modified⟩, ?_⟩
    intro hnone all hall
    obtain rfl : own ++ added = all := List.append_cancel_left (htrace.symm.trans hall)
    refine (hown hnone).append (hadded hrevert).1 fun a => ?_
    rw [← (hadded hrevert).2 a]
    exact hl'.2 a
  · rw [hl']
    exact ⟨hl.grows, hl.external, hl.storage, hl.deployed, hl.keyed, hl.modified⟩

/-- Merging an inner frame restores the invariant; if it throws, the frame is still consistent. -/
theorem merge_ensure (inner : ContractEvaluation) :
    EffectsEnsure (Called start before external inner) (Method.merge inner)
      (fun _ => FrameInv start before external) (Consistent start before external) := by
  unfold Method.merge
  refine ensures_bind ((quiet_get.ensure (Called start before external inner)).mono
    (fun _ _ h => h) fun _ h => h.toConsistent) fun l => ?_
  refine ensures_bind
    (((quiet_chargeGas (fun ctx => ctx.gasTracker.gasUsed) true l.evaluation.contractAddress).ensure
      (Called start before external inner)).mono (fun _ _ h => h) fun _ h => h.toConsistent) fun _ => ?_
  cases hrevert : inner.revert with
  | some error =>
    intro l hl
    exact ((setRevert_ensure error _) l hl.toConsistent).mono (fun _ _ h => h.1) fun _ h => h
  | none =>
    have hevents : EffectsEnsure (Called start before external inner)
        (Method.mergeEvents inner.events) (fun _ => FrameInv start before external)
        (Consistent start before external) := mergeEvents_ensure_called inner hrevert
    cases hm : inner.modifiedStorage with
    | none => exact hevents
    | some storage =>
      refine ensures_bind (Q := fun _ (l : Locals) => Called start before external inner l.effects)
        (fun l hl => ?_) fun _ => hevents
      exact ⟨hl.toConsistent.mergeStorage (hl.innerModified storage hm), hl.accounts,
        hl.innerModified⟩

/-! ### Frames -/

variable {σ α β : Type}

def Both (J : σ → Prop) (P : Effects → Prop) (f : Frame σ) : Prop := J f.host ∧ P f.locals.effects

/-- The methods of a host that only read keep `J`. -/
structure HostKeeps (J : σ → Prop) (host : Host σ) : Prop where
  getStorage : ∀ a p h, Keeps J (host.getStorage a p h)
  getStorageMultiple : ∀ l h, Keeps J (host.getStorageMultiple l h)
  isContract : ∀ a, Keeps J (host.isContract a)
  getContractInformation : ∀ a h, Keeps J (host.getContractInformation a h)
  isCached : ∀ a, Keeps J (host.isCached a)
  contractExistsBelow : ∀ a h, Keeps J (host.contractExistsBelow a h)

variable {J : σ → Prop} {P : Effects → Prop}

theorem EffectsEnsure.onMethod {m : Method α} {Q : α → Effects → Prop} {E : Effects → Prop}
    (h : EffectsEnsure P m Q E) :
    Ensures (Both J P) (method m : EvalM σ α) (fun a => Both J (Q a)) (Both J E) := by
  rintro f ⟨hJ, hP⟩
  have hf := h f.locals hP
  show Outcome _ _ ((m f.locals).1, _)
  rcases hrun : m f.locals with ⟨e | a, l⟩
  · rw [hrun] at hf
    exact ⟨hJ, hf⟩
  · rw [hrun] at hf
    exact ⟨hJ, hf⟩

theorem Quiet.keeps {m : Method α} (h : Quiet m) : Keeps (Both J P) (method m : EvalM σ α) :=
  keeps_of_ensures (h.ensure P).onMethod

theorem keeps_locals : Keeps (Both J P) (locals : EvalM σ Locals) := quiet_get.keeps

theorem keeps_onHost {m : Proc σ VmError α} (h : Keeps J m) :
    Keeps (Both J P) (onHost m : EvalM σ α) := fun f hf => ⟨h f.host hf.1, hf.2⟩

variable (env : VmEnvironment) {host : Host σ}

theorem keeps_note (haction : action.IsSilent) :
    Keeps (Both J (FrameInv start before external)) (method (Method.note action) : EvalM σ Unit) :=
  fun _ hf => ⟨hf.1, hf.2.note haction⟩

theorem keeps_load (h : HostKeeps J host) (pointer : U256) :
    Keeps (Both J (FrameInv start before external)) (load host pointer) := by
  have hloaded (a : Bytes) (value : U256) : (FrameAction.loaded a pointer value).IsSilent :=
    ⟨fun _ _ => rfl, fun _ => rfl, rfl, rfl⟩
  unfold load
  refine keeps_bind keeps_locals fun l => ?_
  cases Method.storageOf l pointer with
  | some value => exact keeps_bind (keeps_note (hloaded _ value)) fun _ => keeps_pure _
  | none =>
    refine keeps_bind (keeps_onHost (h.getStorage _ _ _)) fun stored => ?_
    refine keeps_bind (quiet_addToStorage _ _).keeps fun _ => ?_
    exact keeps_bind (keeps_note (hloaded _ _)) fun _ => keeps_pure _

theorem keeps_getAccountType (h : HostKeeps J host) (address : Bytes) :
    Keeps (Both J P) (getAccountType host address) := by
  unfold getAccountType
  refine keeps_bind keeps_locals fun l => ?_
  cases l.evaluation.touchedAddresses.get address with
  | some isContract => exact keeps_pure _
  | none =>
    refine keeps_bind (keeps_onHost (h.isContract _)) fun isContract => ?_
    refine keeps_bind (Quiet.keeps fun l => rfl) fun _ => keeps_pure _

theorem keeps_findContract (h : HostKeeps J host) (address : Bytes) :
    Keeps (Both J P) (findContract host address) := by
  unfold findContract
  refine keeps_bind keeps_locals fun l => ?_
  cases (l.ctx.deployedContracts.get address).filter validContractInformation with
  | some contract => exact keeps_pure _
  | none =>
    refine keeps_bind (keeps_onHost (h.getContractInformation _ _)) fun stored => ?_
    cases stored.filter validContractInformation with
    | some contract => exact keeps_pure _
    | none => exact keeps_throw _

theorem keeps_preloadPointers (h : HostKeeps J host) (pointers : List (Bytes × U256)) :
    Keeps (Both J P) (preloadPointers env host pointers) := by
  unfold preloadPointers
  refine keeps_bind keeps_locals fun l => ?_
  refine keeps_bind (keeps_throwIf _ _) fun _ => ?_
  refine keeps_bind (keeps_onHost (h.getStorageMultiple _ _)) fun values => ?_
  exact Quiet.keeps fun l => rfl

theorem keeps_outOfStorageGas : Keeps (Both J P) (outOfStorageGas : EvalM σ α) := by
  unfold outOfStorageGas
  refine keeps_bind keeps_locals fun l => ?_
  exact keeps_bind (quiet_setGasUsed _).keeps fun _ => keeps_throw _

theorem keeps_chargeSlot (h : HostKeeps J host) (isSpecial : Bool) (gasUsed cost : Nat)
    (slot : U256 × U256) :
    Keeps (Both J P) (chargeSlot env host isSpecial gasUsed cost slot) := by
  unfold chargeSlot
  refine keeps_bind keeps_locals fun l => ?_
  refine keeps_ite keeps_outOfStorageGas ?_
  refine keeps_bind (keeps_onHost (h.getStorage _ _ _)) fun current => ?_
  exact keeps_ite keeps_outOfStorageGas (keeps_pure _)

theorem keeps_chargeContract (h : HostKeeps J host) (total : Nat × Nat)
    (contract : Bytes × JsMap U256 U256) :
    Keeps (Both J P) (chargeContract env host total contract) := by
  unfold chargeContract
  refine keeps_bind keeps_locals fun l => ?_
  refine keeps_bind (keeps_foldEach (fun cost slot => ?_) _ _) fun cost => keeps_pure _
  exact keeps_chargeSlot env h _ _ cost slot

theorem keeps_calculateGasCostStore (h : HostKeeps J host) :
    Keeps (Both J P) (calculateGasCostStore env host) := by
  unfold calculateGasCostStore
  refine keeps_bind keeps_locals fun l => ?_
  cases l.evaluation.modifiedStorage with
  | none => exact keeps_pure _
  | some storage =>
    refine keeps_bind (keeps_foldEach (fun total contract => ?_) _ _) fun total =>
      Quiet.keeps fun l => rfl
    exact keeps_chargeContract env h total contract

/-- `attemptToSetGasUsed` does not throw. -/
theorem ensures_attemptToSetGasUsed (e : VmError) (E : Frame σ → Prop) :
    Ensures (Both J P) (attemptToSetGasUsed env e : EvalM σ Unit) (fun _ => Both J P) E := by
  unfold attemptToSetGasUsed
  refine ensures_bind (Q := fun _ => Both J P) (fun f hf => hf) fun l => ?_
  refine ensures_ite ?_ fun f hf => hf
  exact ensures_tryCatch (ensures_of_keeps (quiet_setGasUsed _).keeps) fun _ f hf => hf

/-! ### Host calls that change the frame -/

theorem ensures_revertWith (e : VmError) (E : Frame σ → Prop) :
    Ensures (Both J (Consistent start before external)) (revertWith env e)
      (fun _ => Both J fun e => FrameInv start before external e ∧ e.revert.isSome) E := by
  intro f hf
  exact ((setRevert_ensure (env.getErrorAsBuffer e) (fun _ => False)).onMethod f hf).mono
    (fun _ _ h => h) fun _ h => h.2.elim

theorem keeps_deployContractAtAddress (h : HostKeeps J host) (address salt : Bytes) :
    Keeps (Both J (FrameInv start before external))
      (deployContractAtAddress env host address salt) := by
  unfold deployContractAtAddress
  refine keeps_bind keeps_locals fun l => ?_
  refine keeps_bind (keeps_onHost (h.getContractInformation _ _)) fun template => ?_
  cases template with
  | none => exact keeps_throw _
  | some template =>
    refine keeps_bind (keeps_onHost (h.isCached _)) fun cached => ?_
    refine keeps_bind (keeps_throwIf _ _) fun _ => ?_
    refine keeps_bind (keeps_throwIf _ _) fun _ => ?_
    refine keeps_bind (keeps_onHost (h.contractExistsBelow _ _)) fun isStored => ?_
    refine keeps_ite (keeps_pure _) ?_
    refine keeps_bind (keeps_of_ensures ?_) fun _ => keeps_pure _
    exact (addContractInformation_ensure _).onMethod

/-- What is needed of `run`: an inner frame leaves its caller `Called`. -/
def RunEnsures (J : σ → Prop) (start : TransactionContext)
    (run : ContractInformation → FrameParameters → EvalM σ ContractEvaluation) : Prop :=
  ∀ contract params before external, params.externalCall = true →
    Ensures (Both J (FrameInv start before external)) (run contract params)
      (fun inner => Both J (Called start before external inner))
      (Both J (Consistent start before external))

theorem Both.consistent {f : Frame σ} (h : Both J (FrameInv start before external) f) :
    Both J (Consistent start before external) f := ⟨h.1, h.2.toConsistent⟩

/-- A procedure that keeps the invariant, where a throw only has to leave a consistent frame. -/
theorem ensures_of_keeps_frameInv {m : EvalM σ α}
    (h : Keeps (Both J (FrameInv start before external)) m) :
    Ensures (Both J (FrameInv start before external)) m
      (fun _ => Both J (FrameInv start before external))
      (Both J (Consistent start before external)) :=
  (ensures_of_keeps h).mono (fun _ _ hf => hf) fun _ hf => hf.consistent

variable {run : ContractInformation → FrameParameters → EvalM σ ContractEvaluation}

theorem ensures_internalCall (h : HostKeeps J host) (hrun : RunEnsures J start run)
    (address : Bytes) (isDeployment : Bool) :
    Ensures (Both J (FrameInv start before external)) (internalCall host run address isDeployment)
      (fun _ => Both J (FrameInv start before external))
      (Both J (Consistent start before external)) := by
  unfold internalCall
  refine ensures_bind (ensures_of_keeps_frameInv keeps_locals) fun l => ?_
  refine ensures_bind (ensures_of_keeps_frameInv (keeps_findContract h address)) fun contract => ?_
  refine ensures_bind (hrun contract _ before external rfl) fun response => ?_
  exact ensures_bind (merge_ensure response).onMethod fun _ =>
    ensures_of_keeps_frameInv (keeps_pure _)

theorem ensures_respond (e : VmError) (respond : Locals → α) :
    Ensures (Both J (Consistent start before external))
      (do
        revertWith env e
        let l ← locals
        return respond l)
      (fun _ => Both J (FrameInv start before external))
      (Both J (FrameInv start before external)) := by
  refine ensures_bind (Q := fun _ => Both J (FrameInv start before external)) ?_ fun _ => ?_
  · exact (ensures_revertWith env e _).mono (fun _ f hf => ⟨hf.1, hf.2.1⟩) fun _ hf => hf
  · exact ensures_of_keeps (keeps_bind keeps_locals fun l => keeps_pure _)

variable {respond : Locals → α}

/-- A host call with a handler that reverts the frame keeps the invariant. -/
theorem keeps_tryCatch_revertWith {m : EvalM σ α}
    (h : Ensures (Both J (FrameInv start before external)) m
      (fun _ => Both J (FrameInv start before external))
      (Both J (Consistent start before external))) :
    Keeps (Both J (FrameInv start before external))
      (Proc.tryCatch m fun e => do
        revertWith env e
        let l ← locals
        return respond l) :=
  keeps_of_ensures (ensures_tryCatch h fun e => ensures_respond env e respond)

theorem keeps_tryCatch_attempt {m : EvalM σ α} {attempt : VmError → FrameAction}
    (hattempt : ∀ e, (attempt e).IsSilent)
    (h : Ensures (Both J (FrameInv start before external)) m
      (fun _ => Both J (FrameInv start before external))
      (Both J (Consistent start before external))) :
    Keeps (Both J (FrameInv start before external))
      (Proc.tryCatch m fun e => do
        method (Method.note (attempt e))
        revertWith env e
        let l ← locals
        return respond l) := by
  apply keeps_of_ensures
  refine ensures_tryCatch h fun e => ?_
  refine ensures_bind (Q := fun _ => Both J (Consistent start before external)) ?_ fun _ =>
    ensures_respond env e respond
  exact fun f hf => ⟨hf.1, hf.2.note (hattempt e)⟩

theorem keeps_call (h : HostKeeps J host) (hrun : RunEnsures J start run) (gasUsed : Nat)
    (address : Bytes) :
    Keeps (Both J (FrameInv start before external)) (call env host run gasUsed address) := by
  apply keeps_tryCatch_revertWith
  refine ensures_bind (ensures_of_keeps_frameInv (quiet_setGasUsed _).keeps) fun _ => ?_
  refine ensures_bind (ensures_of_keeps_frameInv keeps_locals) fun l => ?_
  refine ensures_bind (ensures_of_keeps_frameInv (keeps_throwIf _ _)) fun _ => ?_
  refine ensures_bind (ensures_internalCall h hrun address false) fun response => ?_
  exact ensures_of_keeps_frameInv (keeps_bind keeps_locals fun l => keeps_pure _)

theorem keeps_deployContractFromAddressRaw (h : HostKeeps J host) (hrun : RunEnsures J start run)
    (gasUsed : Nat) (address salt : Bytes) :
    Keeps (Both J (FrameInv start before external))
      (deployContractFromAddressRaw env host run gasUsed address salt) := by
  have hattempt (ctx : TransactionContext) (thrown : Option VmError) :
      (ctx.deployAttempt thrown).IsSilent := ⟨fun _ _ => rfl, fun _ => rfl, rfl, rfl⟩
  refine keeps_bind keeps_locals fun l => ?_
  apply keeps_tryCatch_attempt env fun e => hattempt l.ctx (some e)
  refine ensures_bind (ensures_of_keeps_frameInv quiet_incrementContractDeployDepth.keeps) fun _ => ?_
  refine ensures_bind (ensures_of_keeps_frameInv (quiet_setGasUsed _).keeps) fun _ => ?_
  refine ensures_bind (ensures_of_keeps_frameInv (keeps_deployContractAtAddress env h address salt))
    fun deployed => ?_
  refine ensures_bind (ensures_of_keeps_frameInv (keeps_throwIf _ _)) fun _ => ?_
  refine ensures_bind (ensures_internalCall h hrun deployed.1 true) fun response => ?_
  refine ensures_bind (ensures_of_keeps_frameInv (keeps_note (hattempt l.ctx none))) fun _ => ?_
  exact ensures_of_keeps_frameInv (keeps_bind keeps_locals fun l => keeps_pure _)

theorem keeps_updateContractFromAddressRaw (gasUsed : Nat) :
    Keeps (Both J (FrameInv start before external))
      (updateContractFromAddressRaw env gasUsed : EvalM σ DeployResponse) := by
  refine keeps_bind keeps_locals fun l => ?_
  apply keeps_tryCatch_attempt env fun e => ⟨fun _ _ => rfl, fun _ => rfl, rfl, rfl⟩
  apply ensures_of_keeps_frameInv
  refine keeps_bind quiet_incrementContractUpdates.keeps fun _ => ?_
  exact keeps_bind (quiet_setGasUsed _).keeps fun _ => keeps_throw _

/-! ### The end of a frame -/

/-- The invariant at the end of an execution: a frame that has not reverted hands on all of the
shared storage. -/
structure EndInv (start : TransactionContext) (before : List FrameAction) (externalCall : Bool)
    (e : Effects) : Prop extends FrameInv start before externalCall e where
  handsOn : e.revert = none → HandsOn e

theorem FrameInv.endInv_of_revert (h : FrameInv start before external e)
    (hrevert : e.revert.isSome) : EndInv start before external e := by
  refine ⟨h, fun hnone => ?_⟩
  rw [hnone] at hrevert
  exact absurd hrevert (by simp)

/-- The setter `revert` at the end of a frame. -/
theorem ensures_setRevert (error : Bytes) (E : Frame σ → Prop) :
    Ensures (Both J (FrameInv start before external)) (method (Method.setRevert error))
      (fun _ => Both J (EndInv start before external)) E := by
  intro f hf
  refine ((setRevert_ensure error (fun _ => False)).onMethod f hf.consistent).mono
    (fun _ f hf => ?_) fun _ h => h.2.elim
  exact ⟨hf.1, hf.2.1.endInv_of_revert hf.2.2⟩

theorem ensures_onNoResult (e : VmError) :
    Ensures (Both J (FrameInv start before external)) (onNoResult env e)
      (fun _ => Both J (EndInv start before external))
      (Both J (FrameInv start before external)) := by
  unfold onNoResult
  refine ensures_bind (ensures_of_keeps keeps_locals) fun l => ?_
  refine ensures_bind (ensures_of_keeps (keeps_tryCatch ?_ fun _ => (quiet_setGasUsed _).keeps))
    fun _ => ensures_setRevert _ _
  cases env.usedGas e with
  | some gas => exact (quiet_setGasUsed _).keeps
  | none => exact keeps_throw _

theorem ensures_onExit (response : ExitDataResponse) :
    Ensures (Both J (FrameInv start before external)) (onExit env response)
      (fun _ => Both J (EndInv start before external))
      (Both J (FrameInv start before external)) := by
  unfold onExit
  refine ensures_bind (ensures_of_keeps (quiet_setGasUsed _).keeps) fun _ => ?_
  refine ensures_ite (ensures_setRevert _ _) (ensures_ite (ensures_setRevert _ _) ?_)
  rintro f hf
  show Outcome _ _ ((if f.locals.evaluation.revert.isNone then _ else _ : EvalM σ Unit) f)
  cases hrevert : f.locals.evaluation.revert with
  | none =>
    have hset := (setResult_ensure response.data (fun _ => False)).onMethod f hf
    exact hset.mono (fun _ f hf => ⟨hf.1, hf.2.1, fun _ => hf.2.2⟩) fun _ h => h.2.elim
  | some error =>
    refine ⟨hf.1, hf.2.endInv_of_revert ?_⟩
    show f.locals.evaluation.revert.isSome = true
    rw [hrevert]
    rfl

variable {body : EvalM σ ExitDataResponse}

/-- `run` up to the end of the execution, over a contract that keeps the invariant. -/
theorem ensures_runContract (h : HostKeeps J host)
    (hbody : Keeps (Both J (FrameInv start before external)) body) (contract : ContractInformation)
    (params : FrameParameters) :
    Ensures (Both J (FrameInv start before external)) (runContract env host body contract params)
      (fun _ => Both J (EndInv start before external))
      (Both J (FrameInv start before external)) := by
  unfold runContract
  refine ensures_bind (ensures_of_keeps keeps_locals) fun l => ?_
  refine ensures_bind (ensures_of_keeps (keeps_throwIf _ _)) fun _ => ?_
  refine ensures_bind (ensures_of_keeps (quiet_setGasUsed _).keeps) fun _ => ?_
  refine ensures_bind (ensures_of_keeps (keeps_preloadPointers env h _)) fun _ => ?_
  -- An execution that returned leaves the invariant, one that did not leaves a reverted frame.
  refine ensures_bind (Q := fun result f => Both J (FrameInv start before external) f ∧
    (result = none → Both J (EndInv start before external) f)) ?_ fun result => ?_
  · refine ensures_tryCatch (E := Both J (FrameInv start before external)) ?_ fun e => ?_
    · refine ensures_bind (ensures_of_keeps hbody) fun response => ?_
      exact fun f hf => ⟨hf, fun hnone => nomatch hnone⟩
    · refine ensures_bind (ensures_onNoResult env e) fun _ => ?_
      exact fun f hf => ⟨⟨hf.1, hf.2.toFrameInv⟩, fun _ => hf⟩
  · cases result with
    | some response => exact fun f hf => ensures_onExit env response f hf.1
    | none => exact fun f hf => hf.2 rfl

theorem ensures_recordRevert (E : Frame σ → Prop) :
    Ensures (Both J (EndInv start before external)) (recordRevert : EvalM σ Unit)
      (fun _ => Both J (EndInv start before external)) E := by
  rintro f ⟨hJ, hf⟩
  refine ⟨hJ, ?_⟩
  show EndInv start before external (Locals.effects (if f.locals.evaluation.revert.isSome then _
    else _))
  cases hrevert : f.locals.evaluation.revert with
  | none => exact hf
  | some error =>
    have hrecord : FrameInv start before external
        (Locals.effects { f.locals with
          ctx := f.locals.ctx.record (.reverted f.locals.evaluation.contractAddress) }) := by
      refine hf.toFrameInv.record (.reverted f.locals.evaluation.contractAddress) rfl rfl rfl rfl
        (fun a p => rfl) (List.append_nil _).symm hf.keyed ?_ fun a => (List.append_nil _).symm
      intro hnone
      rw [show f.locals.effects.revert = some error from hrevert] at hnone
      cases hnone
    refine hrecord.endInv_of_revert ?_
    show f.locals.evaluation.revert.isSome = true
    rw [hrevert]
    rfl

theorem evaluation_recordRevert (f : Frame σ) :
    (recordRevert f).2.locals.evaluation = f.locals.evaluation := by
  show Locals.evaluation (if f.locals.evaluation.revert.isSome then _ else _) = _
  split <;> rfl

/-- The handler of `run`. -/
theorem ensures_frameHandler (e : VmError) (E : Frame σ → Prop) :
    Ensures (Both J (FrameInv start before external))
      (do
        attemptToSetGasUsed env e
        revertWith env e)
      (fun _ => Both J fun e => EndInv start before external e ∧ e.revert.isSome) E := by
  refine ensures_bind (ensures_attemptToSetGasUsed env e E) fun _ f hf => ?_
  refine (ensures_revertWith env e (fun _ => False) f hf.consistent).mono (fun _ f hf => ?_)
    fun _ h => h.elim
  exact ⟨hf.1, hf.2.1.endInv_of_revert hf.2.2, hf.2.2⟩

/-- An inner frame ends with its invariant. -/
theorem ensures_frameBody (h : HostKeeps J host)
    (hbody : Keeps (Both J (FrameInv start before true)) body) (contract : ContractInformation)
    (params : FrameParameters) (E : Frame σ → Prop) :
    Ensures (Both J (FrameInv start before true)) (frameBody env host body contract params)
      (fun _ => Both J (EndInv start before true)) E := by
  unfold frameBody
  refine ensures_bind (Q := fun _ => Both J (EndInv start before true)) ?_ fun _ =>
    ensures_recordRevert E
  refine ensures_tryCatch ?_ fun e => (ensures_frameHandler env e E).mono
    (fun _ f hf => ⟨hf.1, hf.2.1⟩) fun _ hf => hf
  refine ensures_bind (ensures_runContract env h hbody contract params) fun _ => ?_
  rintro f ⟨hJ, hf⟩
  -- Only the outermost frame charges storage and deploys.
  have hskip : (f.locals.evaluation.externalCall || f.locals.evaluation.revert.isSome) = true := by
    rw [show f.locals.evaluation.externalCall = true from hf.external, Bool.true_or]
  show Outcome _ _ ((if _ then pure () else _ : EvalM σ Unit) f)
  rw [if_pos hskip]
  exact ⟨hJ, hf⟩

theorem frameInv_newEvaluation {params : FrameParameters} {ctx : TransactionContext}
    {inner : Locals} (h : newEvaluation params ctx = .ok inner)
    (he : Consistent start before external e) (htrace : e.trace = ctx.trace)
    (hstorage : e.storage = ctx.storage) (hdeployed : e.deployedContracts = ctx.deployedContracts) :
    FrameInv start ctx.trace params.externalCall inner.effects := by
  have hinner : inner.effects = ⟨ctx.trace, ctx.storage, ctx.deployedContracts, params.externalCall,
      none, none, .empty⟩ := by
    obtain ⟨depth, rfl⟩ := newEvaluation_eq_ok h
    rfl
  rw [hinner]
  refine ⟨⟨⟨[], (List.append_nil _).symm⟩, rfl, ?_, ?_, ?_, fun s hs => nomatch hs⟩, ?_⟩
  · intro a p
    rw [← htrace, ← hstorage]
    exact he.storage a p
  · rw [← htrace, ← hdeployed]
    exact he.deployed
  · rw [← hdeployed]
    exact he.keyed
  · intro _ added hadded
    obtain rfl : [] = added := List.append_cancel_left ((List.append_nil ctx.trace).trans hadded)
    exact ⟨fun action haction => absurd haction List.not_mem_nil, fun a => rfl⟩

/-- Running an inner frame leaves the caller `Called`. -/
theorem runEnsures_runFrame (h : HostKeeps J host)
    {body : ContractInformation → EvalM σ ExitDataResponse}
    (hbody : ∀ contract before, Keeps (Both J (FrameInv start before true)) (body contract)) :
    RunEnsures J start fun contract params => runFrame env host (body contract) contract params := by
  intro contract params before external hexternal f ⟨hJ, hf⟩
  show Outcome _ _ (inFrame _ _ f)
  unfold inFrame
  cases hstart : newEvaluation params f.locals.ctx with
  | error e => exact ⟨hJ, hf.toConsistent⟩
  | ok inner =>
    have hinner : FrameInv start f.locals.ctx.trace true inner.effects := by
      have hnew := frameInv_newEvaluation hstart hf.toConsistent rfl rfl rfl
      rwa [hexternal] at hnew
    have hbodyEnd := ensures_frameBody env h (hbody contract f.locals.ctx.trace) contract params
      (Both J (EndInv start f.locals.ctx.trace true)) { f with locals := inner } ⟨hJ, hinner⟩
    simp only
    generalize frameBody env host (body contract) contract params { f with locals := inner } = r
      at hbodyEnd ⊢
    have hend : Both J (EndInv start f.locals.ctx.trace true) r.2 := by
      obtain ⟨_ | _, f'⟩ := r
      · exact hbodyEnd
      · exact hbodyEnd
    obtain ⟨own, hown⟩ := hf.grows
    obtain ⟨added, hadded⟩ := hend.2.grows
    replace hown : f.locals.ctx.trace = before ++ own := hown
    replace hadded : r.2.locals.ctx.trace = f.locals.ctx.trace ++ added := hadded
    have htrace : r.2.locals.ctx.trace = before ++ (own ++ added) := by
      rw [hadded, hown, List.append_assoc]
    refine ⟨hend.1, ⟨⟨_, htrace⟩, hf.external, hend.2.storage, hend.2.deployed, hend.2.keyed, ?_⟩,
      ⟨own, added, htrace, fun hnone => hf.exact_ hnone own hown,
        fun hnone => hend.2.exact_ hnone added hadded⟩, hend.2.modified⟩
    -- Storage only gains slots, so what the caller handed on stays covered.
    intro s hs a p hslot
    have hold : (f.locals.ctx.storage.slot a p).isSome := hf.modified s hs a p hslot
    rw [show f.locals.ctx.storage.slot a p = _ from hf.storage a p] at hold
    show (r.2.locals.ctx.storage.slot a p).isSome
    rw [show r.2.locals.ctx.storage.slot a p = _ from hend.2.storage a p,
      show r.2.locals.effects.trace = f.locals.effects.trace ++ added from hadded, written_append,
      Option.or_assoc, Option.isSome_or, hold, Bool.or_true]

/-- **The invariant of a call tree.** Whatever a contract does, through whatever frames, its frame
keeps the invariant. -/
theorem keeps_interpret (h : HostKeeps J host) (execution : Execution)
    (before : List FrameAction) (external : Bool) :
    Keeps (Both J (FrameInv start before external)) (interpret env host execution) := by
  induction execution generalizing before external with
  | exit response => exact keeps_pure _
  | abort message => exact keeps_throw _
  | load pointer next ih =>
    exact keeps_bind (keeps_load h pointer) fun loaded => ih loaded.1 loaded.2 before external
  | store pointer value next ih =>
    exact keeps_bind (keeps_of_ensures (setStorage_ensure pointer value _).onMethod) fun _ =>
      ih before external
  | emit event next ih =>
    exact keeps_bind (keeps_of_ensures (emitEvent_ensure event).onMethod) fun _ =>
      ih before external
  | accountType address next ih =>
    exact keeps_bind (keeps_getAccountType h address) fun type => ih type.1 type.2 before external
  | call gasUsed address callee next ihCallee ihNext =>
    refine keeps_bind (keeps_call env h ?_ gasUsed address) fun response =>
      ihNext response before external
    exact runEnsures_runFrame env h fun contract before => ihCallee contract before true
  | deployFromAddress gasUsed address salt onDeploy next ihDeploy ihNext =>
    refine keeps_bind (keeps_deployContractFromAddressRaw env h ?_ gasUsed address salt)
      fun response => ihNext response before external
    exact runEnsures_runFrame env h fun contract before => ihDeploy contract before true
  | updateFromAddress gasUsed address next ih =>
    exact keeps_bind (keeps_updateContractFromAddressRaw env gasUsed) fun response =>
      ih response before external

end

end OpnetNode
