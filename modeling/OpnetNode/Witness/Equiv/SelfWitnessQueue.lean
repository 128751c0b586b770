import Mathlib.Data.List.Perm.Basic
import OpnetNode.Witness.SelfWitnessQueue

/-!
# The node's own witnesses are generated once

The items of the queue are taken in the order of the calls, at most ten proofs overlap, and
`onComplete` is called once for each item, unless a call comes between the end of the loop and the
release of its flag, or a height cannot be set.

* `Delivery`: what holds of the items wherever the loop is.
* `AtHead`: the loop is at its test; `queueInv_processSelfQueue` carries on from there.
* `toManager_queueSelfWitness`: in the manager, the loop has no `await` at its end.
* `DeliversOnce`: what is said of a state, with how it comes to rest.
-/

namespace OpnetNode

namespace SelfWitnessQueue

open BlockWitnessManager (MAX_CONCURRENT_SELF_PROOFS)

variable {q q' : SelfWitnessQueue}

/-- What holds of the items, wherever the loop is. -/
structure Delivery (q : SelfWitnessQueue) : Prop where
  fifo : q.taken ++ q.selfWitnessQueue = q.queued
  numbered : q.queued.map SelfWitnessItem.call = List.range q.queued.length
  heights : ∀ p ∈ q.started, p.2 = p.1.data.blockNumber
  active : q.activeSelfProofs = q.proofs.length
  delivered : (q.proofs ++ q.completed).Perm (q.started.map Prod.fst)

/-- The place where the loop is, and what holds there. -/
inductive LoopInv (q : SelfWitnessQueue) : Prop
  | idle (hloop : q.loop = .idle) (hflag : q.selfQueueDraining = false) (hwaiters : q.slotWaiters = 0)
      (hstarted : q.started.map Prod.fst = q.taken) (hempty : q.selfWitnessQueue = [])
      (hactive : q.activeSelfProofs ≤ MAX_CONCURRENT_SELF_PROOFS)
  | waitingForSlot (hloop : q.loop = .waitingForSlot) (hflag : q.selfQueueDraining = true)
      (hwaiters : q.slotWaiters = 1) (hstarted : q.started.map Prod.fst = q.taken)
      (hactive : q.activeSelfProofs = MAX_CONCURRENT_SELF_PROOFS)
  | slotFreed (hloop : q.loop = .slotFreed) (hflag : q.selfQueueDraining = true)
      (hwaiters : q.slotWaiters = 0) (hstarted : q.started.map Prod.fst = q.taken)
      (hactive : q.activeSelfProofs < MAX_CONCURRENT_SELF_PROOFS)
  | settingHeight {item : SelfWitnessItem} (hloop : q.loop = .settingHeight item)
      (hflag : q.selfQueueDraining = true) (hwaiters : q.slotWaiters = 0)
      (hstarted : q.started.map Prod.fst ++ [item] = q.taken)
      (hactive : q.activeSelfProofs < MAX_CONCURRENT_SELF_PROOFS)
      (hheight : q.manager.currentBlock = item.data.blockNumber)
  | ended (hloop : q.loop = .ended) (hflag : q.selfQueueDraining = true) (hwaiters : q.slotWaiters = 0)
      (hstarted : q.started.map Prod.fst = q.taken) (hempty : q.selfWitnessQueue = [])
      (hactive : q.activeSelfProofs ≤ MAX_CONCURRENT_SELF_PROOFS)

structure QueueInv (q : SelfWitnessQueue) : Prop where
  delivery : Delivery q
  loop : LoopInv q

/-- The loop is at its test: every item that was taken is started. -/
structure AtHead (q : SelfWitnessQueue) : Prop where
  delivery : Delivery q
  flag : q.selfQueueDraining = true
  waiters : q.slotWaiters = 0
  started : q.started.map Prod.fst = q.taken
  active : q.activeSelfProofs ≤ MAX_CONCURRENT_SELF_PROOFS

theorem Delivery.frame (h : Delivery q) (hqueue : q'.selfWitnessQueue = q.selfWitnessQueue)
    (hproofs : q'.activeSelfProofs = q.activeSelfProofs ∧ q'.proofs = q.proofs)
    (hlog : q'.queued = q.queued ∧ q'.taken = q.taken ∧ q'.started = q.started ∧
      q'.completed = q.completed) : Delivery q' := by
  obtain ⟨hqueued, htaken, hstarted, hcompleted⟩ := hlog
  refine ⟨?_, ?_, ?_, ?_, ?_⟩
  · rw [htaken, hqueue, hqueued]
    exact h.fifo
  · rw [hqueued]
    exact h.numbered
  · rw [hstarted]
    exact h.heights
  · rw [hproofs.1, hproofs.2]
    exact h.active
  · rw [hproofs.2, hcompleted, hstarted]
    exact h.delivered

/-! ### The loop -/

theorem currentBlock_setHeightOf (data : BlockProcessedData) (m : BlockWitnessManager) :
    (setHeightOf data m).currentBlock = data.blockNumber := by
  unfold setHeightOf
  split
  · rfl
  · rfl

theorem queueInv_shiftSelfWitness (h : AtHead q)
    (hslot : q.activeSelfProofs < MAX_CONCURRENT_SELF_PROOFS) : QueueInv q.shiftSelfWitness := by
  unfold shiftSelfWitness
  split
  · rename_i hempty
    refine ⟨h.delivery.frame rfl ⟨rfl, rfl⟩ ⟨rfl, rfl, rfl, rfl⟩, ?_⟩
    exact .ended rfl h.flag h.waiters h.started hempty h.active
  · rename_i item rest hcons
    refine ⟨⟨?_, h.delivery.numbered, h.delivery.heights, h.delivery.active, h.delivery.delivered⟩, ?_⟩
    · have hfifo := h.delivery.fifo
      rw [hcons] at hfifo
      rw [← hfifo, List.append_assoc]
      rfl
    · refine .settingHeight rfl h.flag h.waiters ?_ hslot ?_
      · show q.started.map Prod.fst ++ [item] = q.taken ++ [item]
        rw [h.started]
      · exact currentBlock_setHeightOf item.data q.manager

theorem queueInv_processSelfQueue (h : AtHead q) : QueueInv q.processSelfQueue := by
  unfold processSelfQueue
  split
  · rename_i hempty
    refine ⟨h.delivery.frame rfl ⟨rfl, rfl⟩ ⟨rfl, rfl, rfl, rfl⟩, ?_⟩
    exact .ended rfl h.flag h.waiters h.started hempty h.active
  split
  · rename_i hfull
    refine ⟨h.delivery.frame rfl ⟨rfl, rfl⟩ ⟨rfl, rfl, rfl, rfl⟩, ?_⟩
    refine .waitingForSlot rfl h.flag ?_ h.started ?_
    · show q.slotWaiters + 1 = 1
      rw [h.waiters]
    · exact le_antisymm h.active hfull
  · rename_i hfree
    exact queueInv_shiftSelfWitness h (not_le.mp hfree)

/-! ### The events -/

theorem Delivery.push (h : Delivery q) (data : BlockProcessedData) :
    Delivery (q.pushSelfWitness data) := by
  refine ⟨?_, ?_, h.heights, h.active, h.delivered⟩
  · show q.taken ++ (q.selfWitnessQueue ++ [_]) = q.queued ++ [_]
    rw [← List.append_assoc, h.fifo]
  · show (q.queued ++ [_]).map SelfWitnessItem.call = List.range (q.queued ++ [_]).length
    rw [List.map_append, h.numbered, List.length_append, List.length_singleton, List.range_succ]
    rfl

theorem queueInv_queueSelfWitness (h : QueueInv q) (hended : q.loop ≠ .ended)
    (data : BlockProcessedData) : QueueInv (q.queueSelfWitness data) := by
  have hpush := h.delivery.push data
  have hdraining (hflag : q.selfQueueDraining = true) :
      q.queueSelfWitness data = q.pushSelfWitness data := if_pos hflag
  cases h.loop with
  | idle hloop hflag hwaiters hstarted hempty hactive =>
    have hdrain : q.queueSelfWitness data =
        processSelfQueue { q.pushSelfWitness data with selfQueueDraining := true } := by
      apply if_neg
      rw [Bool.not_eq_true]
      exact hflag
    rw [hdrain]
    apply queueInv_processSelfQueue
    refine ⟨hpush.frame rfl ⟨rfl, rfl⟩ ⟨rfl, rfl, rfl, rfl⟩, rfl, hwaiters, hstarted, hactive⟩
  | waitingForSlot hloop hflag hwaiters hstarted hactive =>
    rw [hdraining hflag]
    exact ⟨hpush, .waitingForSlot hloop hflag hwaiters hstarted hactive⟩
  | slotFreed hloop hflag hwaiters hstarted hactive =>
    rw [hdraining hflag]
    exact ⟨hpush, .slotFreed hloop hflag hwaiters hstarted hactive⟩
  | settingHeight hloop hflag hwaiters hstarted hactive hheight =>
    rw [hdraining hflag]
    exact ⟨hpush, .settingHeight hloop hflag hwaiters hstarted hactive hheight⟩
  | ended hloop => exact absurd hloop hended

theorem atHead_addSelfProof (h : QueueInv q) {item : SelfWitnessItem}
    (hloop : q.loop = .settingHeight item) : AtHead (q.addSelfProof item) := by
  cases h.loop with
  | settingHeight hloop' hflag hwaiters hstarted hactive hheight =>
    obtain rfl := SelfLoopPhase.settingHeight.inj (hloop.symm.trans hloop')
    refine ⟨⟨h.delivery.fifo, h.delivery.numbered, ?_, ?_, ?_⟩, hflag, hwaiters, ?_, hactive⟩
    · intro p hp
      rcases List.mem_append.mp hp with hp | hp
      · exact h.delivery.heights p hp
      · rw [List.mem_singleton.mp hp]
        exact hheight
    · show q.activeSelfProofs + 1 = (q.proofs ++ [item]).length
      rw [h.delivery.active, List.length_append, List.length_singleton]
    · show ((q.proofs ++ [item]) ++ q.completed).Perm
        ((q.started ++ [(item, q.manager.currentBlock)]).map Prod.fst)
      rw [List.map_append]
      have hswap : ((q.proofs ++ [item]) ++ q.completed).Perm ((q.proofs ++ q.completed) ++ [item]) := by
        rw [List.append_assoc, List.append_assoc]
        exact List.perm_append_comm.append_left q.proofs
      exact hswap.trans (h.delivery.delivered.append_right [item])
    · show (q.started ++ [(item, q.manager.currentBlock)]).map Prod.fst = q.taken
      rw [List.map_append]
      exact hstarted
  | idle hother => cases hother.symm.trans hloop
  | waitingForSlot hother => cases hother.symm.trans hloop
  | slotFreed hother => cases hother.symm.trans hloop
  | ended hother => cases hother.symm.trans hloop

def completeSelfProof (k : ℕ) (item : SelfWitnessItem) (q : SelfWitnessQueue) : SelfWitnessQueue :=
  { q with
    activeSelfProofs := q.activeSelfProofs - 1
    proofs := q.proofs.eraseIdx k
    completed := q.completed ++ [item] }

theorem Delivery.complete (h : Delivery q) {k : ℕ} {item : SelfWitnessItem}
    (hitem : q.proofs[k]? = some item) : Delivery (q.completeSelfProof k item) := by
  obtain ⟨hk, hget⟩ := List.getElem?_eq_some_iff.mp hitem
  refine ⟨h.fifo, h.numbered, h.heights, ?_, ?_⟩
  · show q.activeSelfProofs - 1 = (q.proofs.eraseIdx k).length
    rw [List.length_eraseIdx_of_lt hk, h.active]
  · show (q.proofs.eraseIdx k ++ (q.completed ++ [item])).Perm (q.started.map Prod.fst)
    have hmove : (q.proofs.eraseIdx k ++ (q.completed ++ [item])).Perm
        ((item :: q.proofs.eraseIdx k) ++ q.completed) := by
      rw [← List.append_assoc]
      exact List.perm_append_singleton item _
    have hback : (item :: q.proofs.eraseIdx k).Perm q.proofs := by
      rw [← hget]
      exact List.getElem_cons_eraseIdx_perm hk
    exact hmove.trans ((hback.append_right q.completed).trans h.delivered)

/-- The `finally` of a proof. A loop that waits for a slot is woken, and has one then. -/
theorem queueInv_settleSelfProof (h : QueueInv q) {k : ℕ} {item : SelfWitnessItem}
    (hitem : q.proofs[k]? = some item) : QueueInv (q.settleSelfProof k item) := by
  have hcomplete := h.delivery.complete hitem
  have hasleep (hwaiters : q.slotWaiters = 0) :
      q.settleSelfProof k item = q.completeSelfProof k item := by
    apply if_neg
    show ¬ 0 < q.slotWaiters
    omega
  have hfewer : q.activeSelfProofs - 1 ≤ q.activeSelfProofs := Nat.sub_le _ _
  cases h.loop with
  | idle hloop hflag hwaiters hstarted hempty hactive =>
    rw [hasleep hwaiters]
    exact ⟨hcomplete, .idle hloop hflag hwaiters hstarted hempty (hfewer.trans hactive)⟩
  | waitingForSlot hloop hflag hwaiters hstarted hactive =>
    have hwoken : q.settleSelfProof k item =
        { q.completeSelfProof k item with slotWaiters := q.slotWaiters - 1, loop := .slotFreed } := by
      apply if_pos
      show 0 < q.slotWaiters
      omega
    rw [hwoken]
    refine ⟨hcomplete.frame rfl ⟨rfl, rfl⟩ ⟨rfl, rfl, rfl, rfl⟩, ?_⟩
    refine .slotFreed rfl hflag ?_ hstarted ?_
    · show q.slotWaiters - 1 = 0
      rw [hwaiters]
    · show q.activeSelfProofs - 1 < MAX_CONCURRENT_SELF_PROOFS
      rw [hactive]
      decide
  | slotFreed hloop hflag hwaiters hstarted hactive =>
    rw [hasleep hwaiters]
    exact ⟨hcomplete, .slotFreed hloop hflag hwaiters hstarted (hfewer.trans_lt hactive)⟩
  | settingHeight hloop hflag hwaiters hstarted hactive hheight =>
    rw [hasleep hwaiters]
    exact ⟨hcomplete,
      .settingHeight hloop hflag hwaiters hstarted (hfewer.trans_lt hactive) hheight⟩
  | ended hloop hflag hwaiters hstarted hempty hactive =>
    rw [hasleep hwaiters]
    exact ⟨hcomplete, .ended hloop hflag hwaiters hstarted hempty (hfewer.trans hactive)⟩

theorem queueInv_slotFreed (h : QueueInv q) (hloop : q.loop = .slotFreed) :
    QueueInv q.shiftSelfWitness := by
  cases h.loop with
  | slotFreed _ hflag hwaiters hstarted hactive =>
    exact queueInv_shiftSelfWitness ⟨h.delivery, hflag, hwaiters, hstarted, hactive.le⟩ hactive
  | idle hother => cases hother.symm.trans hloop
  | waitingForSlot hother => cases hother.symm.trans hloop
  | settingHeight hother => cases hother.symm.trans hloop
  | ended hother => cases hother.symm.trans hloop

theorem queueInv_released (h : QueueInv q) (hloop : q.loop = .ended) :
    QueueInv { q with selfQueueDraining := false, loop := .idle } := by
  cases h.loop with
  | ended _ hflag hwaiters hstarted hempty hactive =>
    exact ⟨h.delivery.frame rfl ⟨rfl, rfl⟩ ⟨rfl, rfl, rfl, rfl⟩,
      .idle rfl rfl hwaiters hstarted hempty hactive⟩
  | idle hother => cases hother.symm.trans hloop
  | waitingForSlot hother => cases hother.symm.trans hloop
  | slotFreed hother => cases hother.symm.trans hloop
  | settingHeight hother => cases hother.symm.trans hloop

/-! ### Runs -/

/-- No call comes between the end of the loop and the release of its flag, and no height fails to be
set. -/
def Undisturbed (q : SelfWitnessQueue) : SelfQueueEvent → Prop
  | .queueSelfWitness _ => q.loop ≠ .ended
  | .heightFailed => False
  | _ => True

instance decidableUndisturbed (q : SelfWitnessQueue) : ∀ event, Decidable (Undisturbed q event)
  | .queueSelfWitness _ => inferInstanceAs (Decidable (q.loop ≠ .ended))
  | .heightFailed => isFalse id
  | .slotFreed | .heightSet | .released | .proofSettled _ => isTrue trivial

theorem queueInv_init : QueueInv init :=
  ⟨⟨rfl, rfl, fun _ hp => absurd hp List.not_mem_nil, rfl, .refl _⟩,
    .idle rfl rfl rfl rfl rfl (Nat.zero_le _)⟩

theorem queueInv_step (q : SelfWitnessQueue) (event : SelfQueueEvent) (q' : SelfWitnessQueue)
    (h : QueueInv q) (hundisturbed : Undisturbed q event) (hstep : step q event = some q') :
    QueueInv q' := by
  cases event with
  | queueSelfWitness data =>
    cases hstep
    exact queueInv_queueSelfWitness h hundisturbed data
  | slotFreed =>
    rw [step] at hstep
    split at hstep
    · rename_i hloop
      cases hstep
      exact queueInv_slotFreed h hloop
    · cases hstep
  | heightSet =>
    rw [step] at hstep
    split at hstep
    · rename_i item hloop
      cases hstep
      exact queueInv_processSelfQueue (atHead_addSelfProof h hloop)
    · cases hstep
  | heightFailed => exact hundisturbed.elim
  | released =>
    rw [step] at hstep
    split at hstep
    · rename_i hloop
      cases hstep
      exact queueInv_released h hloop
    · cases hstep
  | proofSettled k =>
    rw [step, Option.map_eq_some_iff] at hstep
    obtain ⟨item, hitem, rfl⟩ := hstep
    exact queueInv_settleSelfProof h hitem

/-! ### The loop of the manager -/

/-- The place of the loop as the manager has it: there the end of the loop releases its flag. -/
def toPhase : SelfLoopPhase → SelfQueuePhase
  | .idle | .ended => .idle
  | .waitingForSlot | .slotFreed => .waitingForSlot
  | .settingHeight item => .settingHeight item.data

def toManager (q : SelfWitnessQueue) : BlockWitnessManager :=
  { q.manager with
    selfWitnessQueue := q.selfWitnessQueue.map SelfWitnessItem.data
    activeSelfProofs := q.activeSelfProofs
    selfQueue := toPhase q.loop }

theorem toManager_shiftSelfWitness (q : SelfWitnessQueue) :
    q.shiftSelfWitness.toManager = q.toManager.shiftSelfWitness := by
  cases hqueue : q.selfWitnessQueue with
  | nil => simp [shiftSelfWitness, BlockWitnessManager.shiftSelfWitness, toManager, toPhase, hqueue]
  | cons item rest =>
    by_cases hreorg : (item.data.blockNumber : ℤ) < q.manager.currentBlock
    · simp [shiftSelfWitness, BlockWitnessManager.shiftSelfWitness, toManager, toPhase, setHeightOf,
        hqueue, hreorg, BlockWitnessManager.revertKnownWitnessesReorg,
        BlockWitnessManager.setCurrentBlock]
    · simp [shiftSelfWitness, BlockWitnessManager.shiftSelfWitness, toManager, toPhase, setHeightOf,
        hqueue, hreorg, BlockWitnessManager.setCurrentBlock]

theorem toManager_processSelfQueue (q : SelfWitnessQueue) :
    q.processSelfQueue.toManager = q.toManager.processSelfQueue := by
  have hempty : q.toManager.selfWitnessQueue = [] ↔ q.selfWitnessQueue = [] := List.map_eq_nil_iff
  unfold processSelfQueue BlockWitnessManager.processSelfQueue
  split
  · rename_i hnone
    rw [if_pos (hempty.mpr hnone)]
    rfl
  rename_i hsome
  rw [if_neg (hempty.not.mpr hsome)]
  split
  · rename_i hfull
    rw [if_pos (show MAX_CONCURRENT_SELF_PROOFS ≤ q.toManager.activeSelfProofs from hfull)]
    rfl
  · rename_i hfree
    rw [if_neg (show ¬ MAX_CONCURRENT_SELF_PROOFS ≤ q.toManager.activeSelfProofs from hfree)]
    exact toManager_shiftSelfWitness q

theorem toManager_queueSelfWitness (h : QueueInv q) (hended : q.loop ≠ .ended)
    (data : BlockProcessedData) :
    (q.queueSelfWitness data).toManager = q.toManager.queueSelfWitness data := by
  have hdata : (q.pushSelfWitness data).selfWitnessQueue.map SelfWitnessItem.data =
      q.selfWitnessQueue.map SelfWitnessItem.data ++ [data] := by
    simp [pushSelfWitness]
  have hqueue : q.toManager.queueSelfWitness data =
      if q.toManager.selfQueue = .idle then (q.pushSelfWitness data).toManager.processSelfQueue
      else (q.pushSelfWitness data).toManager := by
    unfold toManager
    rw [hdata]
    rfl
  have hflag : q.selfQueueDraining = true ↔ q.toManager.selfQueue ≠ .idle := by
    cases h.loop with
    | idle hloop hflag => simp [toManager, toPhase, hloop, hflag]
    | waitingForSlot hloop hflag => simp [toManager, toPhase, hloop, hflag]
    | slotFreed hloop hflag => simp [toManager, toPhase, hloop, hflag]
    | settingHeight hloop hflag => simp [toManager, toPhase, hloop, hflag]
    | ended hloop => exact absurd hloop hended
  rw [hqueue, queueSelfWitness, drainSelfWitnessQueue]
  split
  · rename_i hdraining
    rw [if_neg (hflag.mp hdraining)]
  · rename_i hreleased
    have hidle : q.toManager.selfQueue = .idle := not_not.mp (hflag.not.mp hreleased)
    rw [if_pos hidle]
    exact toManager_processSelfQueue _

/-! ### How the queue comes to rest -/

/-- Whether an event is a call; the others end what calls have begun. -/
def isCall : SelfQueueEvent → Bool
  | .queueSelfWitness _ => true
  | _ => false

/-- A bound on the events to come before the loop is over. -/
def weight : SelfLoopPhase → ℕ
  | .idle => 0
  | .ended => 1
  | .waitingForSlot | .slotFreed => 2
  | .settingHeight _ => 4

/-- A bound on the events to come, if no more calls do. -/
def remaining (q : SelfWitnessQueue) : ℕ :=
  3 * q.selfWitnessQueue.length + weight q.loop + q.proofs.length

theorem remaining_shiftSelfWitness (q : SelfWitnessQueue) :
    q.shiftSelfWitness.remaining = 3 * q.selfWitnessQueue.length + 1 + q.proofs.length := by
  unfold shiftSelfWitness
  split
  · rename_i hempty
    simp [remaining, weight, hempty]
  · rename_i item rest hcons
    rw [hcons, List.length_cons]
    show 3 * rest.length + 4 + q.proofs.length = _
    omega

theorem remaining_processSelfQueue (q : SelfWitnessQueue) :
    q.processSelfQueue.remaining ≤ 3 * q.selfWitnessQueue.length + 2 + q.proofs.length := by
  unfold processSelfQueue
  split
  · show 3 * q.selfWitnessQueue.length + 1 + q.proofs.length ≤ _
    omega
  split
  · exact le_rfl
  · rw [remaining_shiftSelfWitness]
    omega

/-- Every event but a call brings the queue closer to its rest. -/
theorem remaining_step_lt (h : QueueInv q) {event : SelfQueueEvent} (hcall : isCall event = false)
    (hstep : step q event = some q') : q'.remaining < q.remaining := by
  cases event with
  | queueSelfWitness data => cases hcall
  | slotFreed =>
    rw [step] at hstep
    split at hstep
    · rename_i hloop
      cases hstep
      rw [remaining_shiftSelfWitness, remaining, hloop]
      simp [weight]
    · cases hstep
  | heightSet =>
    rw [step] at hstep
    split at hstep
    · rename_i item hloop
      cases hstep
      have hbound := remaining_processSelfQueue (q.addSelfProof item)
      have hproofs : (q.addSelfProof item).proofs.length = q.proofs.length + 1 := by
        simp [addSelfProof]
      rw [hproofs] at hbound
      have hqueue : (q.addSelfProof item).selfWitnessQueue.length = q.selfWitnessQueue.length := rfl
      have hnow : q.remaining = 3 * q.selfWitnessQueue.length + 4 + q.proofs.length := by
        rw [remaining, hloop, weight]
      rw [startSelfProof]
      omega
    · cases hstep
  | heightFailed =>
    rw [step] at hstep
    split at hstep
    · rename_i item hloop
      cases hstep
      rw [remaining, remaining, hloop]
      simp [weight]
    · cases hstep
  | released =>
    rw [step] at hstep
    split at hstep
    · rename_i hloop
      cases hstep
      rw [remaining, remaining, hloop]
      simp [weight]
    · cases hstep
  | proofSettled k =>
    rw [step, Option.map_eq_some_iff] at hstep
    obtain ⟨item, hitem, rfl⟩ := hstep
    obtain ⟨hk, -⟩ := List.getElem?_eq_some_iff.mp hitem
    have hfewer : (q.proofs.eraseIdx k).length < q.proofs.length := by
      rw [List.length_eraseIdx_of_lt hk]
      omega
    have hweight : weight (q.settleSelfProof k item).loop = weight q.loop := by
      unfold settleSelfProof wakeSlotWaiter
      split
      · rename_i hwaiters
        have hwaiters : 0 < q.slotWaiters := hwaiters
        -- only a loop that waits for a slot has a waiter
        cases h.loop with
        | waitingForSlot hloop =>
          rw [hloop]
          rfl
        | idle | slotFreed | settingHeight | ended => omega
      · rfl
    have hkeeps : (q.settleSelfProof k item).selfWitnessQueue = q.selfWitnessQueue ∧
        (q.settleSelfProof k item).proofs = q.proofs.eraseIdx k := by
      unfold settleSelfProof wakeSlotWaiter
      split
      · exact ⟨rfl, rfl⟩
      · exact ⟨rfl, rfl⟩
    rw [remaining, remaining, hweight, hkeeps.1, hkeeps.2]
    omega

/-- Nothing is under way: no event but a call is enabled. -/
def AtRest (q : SelfWitnessQueue) : Prop := ∀ event, isCall event = false → step q event = none

/-- Nothing is lost: at rest every item is complete. -/
theorem completed_of_atRest (h : QueueInv q) (hrest : AtRest q) : q.completed.Perm q.queued := by
  have hproofs : q.proofs = [] := by
    have hnone := hrest (.proofSettled 0) rfl
    rw [step, Option.map_eq_none_iff, List.getElem?_eq_none_iff] at hnone
    exact List.length_eq_zero_iff.mp (Nat.le_zero.mp hnone)
  have hactive := h.delivery.active
  rw [hproofs] at hactive
  cases h.loop with
  | idle hloop hflag hwaiters hstarted hempty =>
    have hdelivered := h.delivery.delivered
    have hfifo := h.delivery.fifo
    rw [hproofs, List.nil_append, hstarted] at hdelivered
    rw [hempty, List.append_nil] at hfifo
    rw [← hfifo]
    exact hdelivered
  | waitingForSlot hloop hflag hwaiters hstarted hfull =>
    cases hactive.symm.trans hfull
  | slotFreed hloop =>
    have hnone := hrest .slotFreed rfl
    rw [step, if_pos hloop] at hnone
    cases hnone
  | settingHeight hloop =>
    have hnone := hrest .heightSet rfl
    rw [step, hloop] at hnone
    cases hnone
  | ended hloop =>
    have hnone := hrest .released rfl
    rw [step, if_pos hloop] at hnone
    cases hnone

/-- Whether the loop still takes items. -/
def drains (q : SelfWitnessQueue) : Bool := q.loop ≠ .idle && q.loop ≠ .ended

/-- Every item is taken once, in the order of the calls, and started once at its height; those that are
started are under way or complete, never both or twice, and all are complete once the queue is at rest,
to which it comes unless there are more calls. -/
structure DeliversOnce (q : SelfWitnessQueue) : Prop where
  fifo : q.taken ++ q.selfWitnessQueue = q.queued
  numbered : q.queued.map SelfWitnessItem.call = List.range q.queued.length
  inOrder : q.started.map Prod.fst <+: q.taken
  heights : ∀ p ∈ q.started, p.2 = p.1.data.blockNumber
  overlap : q.proofs.length ≤ MAX_CONCURRENT_SELF_PROOFS
  delivered : (q.proofs ++ q.completed).Perm (q.started.map Prod.fst)
  atRest : AtRest q → q.completed.Perm q.queued
  comesToRest : ∀ event q', isCall event = false → step q event = some q' →
    q'.remaining < q.remaining
  noneWaits : q.drains = false → q.activeSelfProofs < MAX_CONCURRENT_SELF_PROOFS →
    q.selfWitnessQueue = []

theorem QueueInv.inOrder (h : QueueInv q) : q.started.map Prod.fst <+: q.taken := by
  cases h.loop with
  | settingHeight _ _ _ hstarted => exact ⟨_, hstarted⟩
  | idle _ _ _ hstarted => exact hstarted ▸ List.prefix_rfl
  | waitingForSlot _ _ _ hstarted => exact hstarted ▸ List.prefix_rfl
  | slotFreed _ _ _ hstarted => exact hstarted ▸ List.prefix_rfl
  | ended _ _ _ hstarted => exact hstarted ▸ List.prefix_rfl

theorem QueueInv.overlap (h : QueueInv q) : q.proofs.length ≤ MAX_CONCURRENT_SELF_PROOFS := by
  rw [← h.delivery.active]
  cases h.loop with
  | idle _ _ _ _ _ hactive => exact hactive
  | waitingForSlot _ _ _ _ hactive => exact hactive.le
  | slotFreed _ _ _ _ hactive => exact hactive.le
  | settingHeight _ _ _ _ hactive _ => exact hactive.le
  | ended _ _ _ _ _ hactive => exact hactive

theorem QueueInv.noneWaits (h : QueueInv q) (hdrains : q.drains = false) :
    q.selfWitnessQueue = [] := by
  cases h.loop with
  | idle _ _ _ _ hempty => exact hempty
  | ended _ _ _ _ hempty => exact hempty
  | waitingForSlot hloop => simp [drains, hloop] at hdrains
  | slotFreed hloop => simp [drains, hloop] at hdrains
  | settingHeight hloop => simp [drains, hloop] at hdrains

theorem QueueInv.deliversOnce (h : QueueInv q) : DeliversOnce q where
  fifo := h.delivery.fifo
  numbered := h.delivery.numbered
  inOrder := h.inOrder
  heights := h.delivery.heights
  overlap := h.overlap
  delivered := h.delivery.delivered
  atRest := completed_of_atRest h
  comesToRest := fun _ _ => remaining_step_lt h
  noneWaits := fun hdrains _ => h.noneWaits hdrains

/-- **In an undisturbed run, the node's own witnesses are generated once, in order.** -/
theorem deliversOnce_of_runFrom (events : List SelfQueueEvent) (q : SelfWitnessQueue)
    (hundisturbed : Meets step Undisturbed init events) (hrun : runFrom step init events = some q) :
    DeliversOnce q :=
  (invariant_runFrom queueInv_step events init q queueInv_init hundisturbed hrun).deliversOnce

theorem atRest_of_idle (hloop : q.loop = .idle) (hproofs : q.proofs = []) : AtRest q := by
  intro event hcall
  cases event with
  | queueSelfWitness data => cases hcall
  | slotFreed | heightSet | heightFailed | released => simp [step, hloop]
  | proofSettled k => simp [step, hproofs]

/-- A block whose header is never looked at. -/
def blockAt (blockNumber : ℕ) : BlockProcessedData := ⟨blockNumber, ⟨"", none, "", ""⟩⟩

/-- Eleven blocks are queued; the last one waits until the proof of the fourth has ended. -/
def elevenBlocks : List SelfQueueEvent :=
  (List.range 11).map (fun n => .queueSelfWitness (blockAt n)) ++ List.replicate 10 .heightSet ++
    [.proofSettled 3, .slotFreed, .heightSet, .released]

/-- A second block is queued between the end of the loop and the release of its flag. -/
def pushedAtEnd : List SelfQueueEvent :=
  [.queueSelfWitness (blockAt 5), .heightSet, .queueSelfWitness (blockAt 6), .released]

/-- The height of the only block cannot be set. -/
def failingHeight : List SelfQueueEvent :=
  [.queueSelfWitness (blockAt 5), .heightFailed, .released]

theorem deliversOnce_elevenBlocks :
    ((runFrom step init elevenBlocks).map fun q => (q.started.length, q.completed.length)) =
        some (11, 1) ∧
      ∀ q, runFrom step init elevenBlocks = some q → DeliversOnce q := by
  have hrun : Meets step Undisturbed init elevenBlocks ∧
      ((runFrom step init elevenBlocks).map fun q => (q.started.length, q.completed.length)) =
        some (11, 1) := by
    decide +kernel
  exact ⟨hrun.2, fun q => deliversOnce_of_runFrom elevenBlocks q hrun.1⟩

/-- The second block stays in the queue; the block without a height is never complete. -/
theorem not_deliversOnce :
    (∃ q, runFrom step init pushedAtEnd = some q ∧ ¬ DeliversOnce q) ∧
      ∃ q, runFrom step init failingHeight = some q ∧ ¬ DeliversOnce q := by
  constructor
  · have hfields : ((runFrom step init pushedAtEnd).map fun q =>
        (q.drains, q.activeSelfProofs, q.selfWitnessQueue.length)) = some (false, 1, 1) := by
      decide +kernel
    obtain ⟨q, hq, hfields⟩ := Option.map_eq_some_iff.mp hfields
    obtain ⟨hdrains, hfields⟩ := Prod.mk.inj hfields
    obtain ⟨hactive, hlength⟩ := Prod.mk.inj hfields
    refine ⟨q, hq, ?_⟩
    intro hdelivers
    have hslot : q.activeSelfProofs < MAX_CONCURRENT_SELF_PROOFS := by
      rw [hactive]
      decide
    have hempty := hdelivers.noneWaits hdrains hslot
    rw [hempty] at hlength
    cases hlength
  · have hfields : ((runFrom step init failingHeight).map fun q =>
        (q.loop, q.proofs, q.completed.length, q.queued.length)) = some (.idle, [], 0, 1) := by
      decide +kernel
    obtain ⟨q, hq, hfields⟩ := Option.map_eq_some_iff.mp hfields
    obtain ⟨hloop, hfields⟩ := Prod.mk.inj hfields
    obtain ⟨hproofs, hfields⟩ := Prod.mk.inj hfields
    obtain ⟨hcompleted, hqueued⟩ := Prod.mk.inj hfields
    refine ⟨q, hq, ?_⟩
    intro hdelivers
    have hperm := hdelivers.atRest (atRest_of_idle hloop hproofs)
    have hlength := hperm.length_eq
    rw [hcompleted, hqueued] at hlength
    cases hlength

end SelfWitnessQueue

end OpnetNode
