import OpnetNode.Witness.PoC

/-!
# Announcing blocks one at a time

`blockProcessedLock` is read when a message arrives and replaced when its call has waited. A call
that arrives while another one waits finds the same promise, and both start when it is settled.

* `InOrder`: a broadcast starts when the one before has ended, and blocks are sent in their order.
* `ArrivesAlone`: no call waits for the lock when a message arrives.
* `Phase`, `Announcing`: how far the calls are, if all messages arrive so.
-/

namespace OpnetNode

namespace PoC

/-- The broadcasts started in order, each after the one before had ended, and the blocks were sent
in order. -/
structure InOrder (s : PoC) : Prop where
  started : s.started = List.range s.started.length
  finished : ∀ k, k + 1 ∈ s.started → k ∈ s.finished
  dispatched : s.dispatched = List.range s.dispatched.length

/-- A message arrives when the call of every earlier one has started its broadcast. -/
def ArrivesAlone (s : PoC) : PoCEvent → Prop
  | .blockProcessed _ => s.started.length = s.calls.length
  | _ => True

instance decidableArrivesAlone (s : PoC) : ∀ event, Decidable (ArrivesAlone s event)
  | .blockProcessed _ => inferInstanceAs (Decidable (_ = _))
  | .broadcastEnds _ | .microtask => isTrue trivial

/-- How many calls there are, how many have started and have ended their broadcast and have sent
their block, and the microtasks that are left. -/
inductive Phase : ℕ → ℕ → ℕ → ℕ → List Microtask → Prop
  | idle (m : ℕ) : Phase m m m m []
  | waiting (m : ℕ) : Phase (m + 1) m m m [.lockSettled m]
  | passing (m : ℕ) : Phase (m + 1) m m m [.lockPassed m]
  | broadcasting (m : ℕ) : Phase (m + 1) (m + 1) m m []
  | broadcastingNext (m : ℕ) : Phase (m + 2) (m + 1) m m []
  | settled (m : ℕ) : Phase (m + 1) (m + 1) (m + 1) m [.broadcastSettled m]
  | settledNext (m : ℕ) :
      Phase (m + 2) (m + 1) (m + 1) m [.broadcastSettled m, .lockSettled (m + 1)]

/-- The lock once `m` calls have started their broadcast. -/
def lockAfter : ℕ → Option ℕ
  | 0 => none
  | m + 1 => some m

structure Announcing (s : PoC) : Prop where
  phase : Phase s.calls.length s.started.length s.finished.length s.dispatched.length s.microtasks
  started : s.started = List.range s.started.length
  finished : s.finished = List.range s.finished.length
  dispatched : s.dispatched = List.range s.dispatched.length
  lock : s.blockProcessedLock = lockAfter s.started.length
  locks : ∀ j call, s.calls[j]? = some call → call.lock = lockAfter j

theorem announcing_init : Announcing init := by
  refine ⟨.idle 0, rfl, rfl, rfl, rfl, ?_⟩
  intro j call hcall
  cases hcall

variable {s s' : PoC}

theorem Announcing.inOrder (h : Announcing s) : InOrder s := by
  refine ⟨h.started, ?_, h.dispatched⟩
  intro k hk
  rw [h.started, List.mem_range] at hk
  rw [h.finished, List.mem_range]
  have hphase := h.phase
  generalize s.calls.length = n, s.started.length = m, s.finished.length = f,
    s.dispatched.length = d, s.microtasks = tasks at hphase hk ⊢
  cases hphase with
  | idle | waiting | passing | broadcasting | broadcastingNext | settled | settledNext => omega

theorem range_concat_of_eq {l : List ℕ} (h : l = List.range l.length) {k : ℕ} (hk : k = l.length) :
    l ++ [k] = List.range (l ++ [k]).length := by
  rw [List.length_append, List.length_singleton, List.range_succ, ← h, hk]

/-- The lock is settled if and only if all broadcasts that have started have ended. -/
theorem settled_blockProcessedLock (h : Announcing s) :
    s.settled s.blockProcessedLock = decide (s.finished.length = s.started.length) := by
  have hphase := h.phase
  unfold settled
  rw [h.lock, h.finished, List.length_range]
  generalize s.calls.length = n, s.started.length = m, s.finished.length = f,
    s.dispatched.length = d, s.microtasks = tasks at hphase ⊢
  cases hphase with
  | idle => cases n <;> simp [lockAfter]
  | waiting m => cases m <;> simp [lockAfter]
  | passing m => cases m <;> simp [lockAfter]
  | broadcasting | broadcastingNext | settled | settledNext => simp [lockAfter]

theorem announcing_onBlockProcessed (h : Announcing s)
    (halone : s.started.length = s.calls.length) (blockNumber : ℕ) :
    Announcing (s.onBlockProcessed blockNumber) := by
  refine ⟨?_, h.started, h.finished, h.dispatched, h.lock, ?_⟩
  · unfold onBlockProcessed
    rw [settled_blockProcessedLock h]
    dsimp only
    rw [List.length_append, List.length_singleton]
    have hphase := h.phase
    generalize s.calls.length = n, s.started.length = m, s.finished.length = f,
      s.dispatched.length = d, s.microtasks = tasks at hphase halone ⊢
    cases hphase with
    | idle m => simpa using Phase.waiting _
    | broadcasting m => simpa using Phase.broadcastingNext _
    | settled m => simpa using Phase.settledNext _
    | waiting | passing | broadcastingNext | settledNext => omega
  · intro j call hcall
    have hcall : (s.calls ++ [⟨blockNumber, s.blockProcessedLock⟩])[j]? = some call := hcall
    rw [List.getElem?_append] at hcall
    split at hcall
    · exact h.locks j call hcall
    · -- the new call found the lock of the call before it
      have hj : j - s.calls.length = 0 := by
        have hlt := (List.getElem?_eq_some_iff.mp hcall).1
        simpa using hlt
      rw [hj] at hcall
      cases hcall
      have hlast : j = s.started.length := by omega
      rw [hlast]
      exact h.lock

theorem filter_range_eq (n k : ℕ) :
    ((List.range n).filter fun j => decide (j = k)) = if k < n then [k] else [] := by
  induction n with
  | zero => rfl
  | succ n ih =>
    rw [List.range_succ, List.filter_append, ih, List.filter_singleton]
    rcases Nat.lt_trichotomy n k with hlt | rfl | hgt
    · have hk : ¬ k < n ∧ ¬ k < n + 1 ∧ n ≠ k := by omega
      simp [hk]
    · simp
    · have hk : k < n ∧ k < n + 1 ∧ n ≠ k := by omega
      simp [hk]

theorem waiters_eq (h : Announcing s) (k : ℕ) :
    s.waiters k = if k + 1 < s.calls.length then [k + 1] else [] := by
  have hlock : ∀ j ∈ List.range s.calls.length,
      decide ((s.calls[j]?.map BlockProcessedCall.lock) = some (some k)) = decide (j = k + 1) := by
    intro j hj
    have hlt : j < s.calls.length := List.mem_range.mp hj
    have hget : s.calls[j]? = some s.calls[j] := List.getElem?_eq_getElem hlt
    rw [hget, Option.map_some, h.locks j _ hget]
    cases j with
    | zero | succ => simp [lockAfter]
  unfold waiters
  rw [List.filter_congr hlock, filter_range_eq]

theorem announcing_settleBroadcast (h : Announcing s) {k : ℕ} (hstarted : k ∈ s.started)
    (hpending : k ∉ s.finished) : Announcing (s.settleBroadcast k) := by
  rw [h.started, List.mem_range] at hstarted
  rw [h.finished, List.mem_range] at hpending
  have hk : k = s.finished.length := by
    have hphase := h.phase
    generalize s.calls.length = n, s.started.length = m, s.finished.length = f,
      s.dispatched.length = d, s.microtasks = tasks at hphase hstarted hpending ⊢
    cases hphase with
    | idle | waiting | passing | broadcasting | broadcastingNext | settled | settledNext => omega
  refine ⟨?_, h.started, range_concat_of_eq h.finished hk, h.dispatched, h.lock, h.locks⟩
  unfold settleBroadcast
  rw [waiters_eq h]
  dsimp only
  rw [List.length_append, List.length_singleton, hk]
  have hphase := h.phase
  generalize s.calls.length = n, s.started.length = m, s.finished.length = f,
    s.dispatched.length = d, s.microtasks = tasks at hphase hstarted hk ⊢
  cases hphase with
  | broadcasting m => simpa using Phase.settled _
  | broadcastingNext m => simpa using Phase.settledNext _
  | idle | waiting | passing | settled | settledNext => omega

theorem announcing_runMicrotask (h : Announcing s) {task : Microtask} {rest : List Microtask}
    (htasks : s.microtasks = task :: rest) :
    Announcing ({ s with microtasks := rest }.runMicrotask task) := by
  have hphase := h.phase
  rw [htasks] at hphase
  cases task with
  | lockSettled k =>
    refine ⟨?_, h.started, h.finished, h.dispatched, h.lock, h.locks⟩
    show Phase s.calls.length s.started.length s.finished.length s.dispatched.length
      (rest ++ [.lockPassed k])
    generalize s.calls.length = n, s.started.length = m, s.finished.length = f,
      s.dispatched.length = d at hphase ⊢
    cases hphase
    exact .passing k
  | lockPassed k =>
    -- the lock is passed on to the next call, whose number is that of the calls started before
    have hk : k = s.started.length ∧ Phase s.calls.length (s.started.length + 1) s.finished.length
        s.dispatched.length rest := by
      generalize s.calls.length = n, s.started.length = m, s.finished.length = f,
        s.dispatched.length = d at hphase ⊢
      cases hphase
      exact ⟨rfl, .broadcasting k⟩
    have hlength : (s.started ++ [k]).length = s.started.length + 1 := by simp
    refine ⟨?_, range_concat_of_eq h.started hk.1, h.finished, h.dispatched, ?_, h.locks⟩
    · show Phase s.calls.length (s.started ++ [k]).length s.finished.length s.dispatched.length rest
      rw [hlength]
      exact hk.2
    · show some k = lockAfter (s.started ++ [k]).length
      rw [hlength, hk.1]
      rfl
  | broadcastSettled k =>
    have hk : k = s.dispatched.length ∧ Phase s.calls.length s.started.length s.finished.length
        (s.dispatched.length + 1) rest := by
      generalize s.calls.length = n, s.started.length = m, s.finished.length = f,
        s.dispatched.length = d at hphase ⊢
      cases hphase
      · exact ⟨rfl, .idle (k + 1)⟩
      · exact ⟨rfl, .waiting (k + 1)⟩
    refine ⟨?_, h.started, h.finished, range_concat_of_eq h.dispatched hk.1, h.lock, h.locks⟩
    show Phase s.calls.length s.started.length s.finished.length (s.dispatched ++ [k]).length rest
    rw [List.length_append, List.length_singleton]
    exact hk.2

theorem announcing_step (h : Announcing s) {event : PoCEvent} (hok : ArrivesAlone s event)
    (hstep : s.step event = some s') : Announcing s' := by
  cases event with
  | blockProcessed blockNumber =>
    cases hstep
    exact announcing_onBlockProcessed h hok blockNumber
  | broadcastEnds k =>
    rw [step] at hstep
    split at hstep
    · rename_i hpending
      cases hstep
      exact announcing_settleBroadcast h hpending.1 hpending.2
    · cases hstep
  | microtask =>
    rw [step] at hstep
    split at hstep
    · cases hstep
    · rename_i task rest htasks
      cases hstep
      exact announcing_runMicrotask h htasks

end PoC

/-- **Blocks are announced one at a time.** In every run in which each message arrives when no call
waits for the lock, the broadcasts start in order, each after the one before has ended, and the
blocks are sent to the witness threads in order. -/
theorem inOrder_of_runFrom (events : List PoCEvent) (s : PoC)
    (hmeets : Meets PoC.step PoC.ArrivesAlone PoC.init events)
    (hrun : runFrom PoC.step PoC.init events = some s) : s.InOrder := by
  have hinv : PoC.Announcing s :=
    invariant_runFrom (fun _ _ _ h hok hstep => PoC.announcing_step h hok hstep) events PoC.init s
      PoC.announcing_init hmeets hrun
  exact hinv.inOrder

/-! ### Three blocks -/

/-- The second block arrives while the broadcast of the first is under way. -/
def twoBlocks : List PoCEvent :=
  [.blockProcessed 100, .microtask, .microtask, .blockProcessed 101, .broadcastEnds 0, .microtask,
    .microtask, .microtask, .broadcastEnds 1, .microtask]

/-- Two blocks arrive while the broadcast of the first is under way; the broadcast of the third ends
before that of the second. -/
def threeBlocks : List PoCEvent :=
  [.blockProcessed 100, .microtask, .microtask, .blockProcessed 101, .blockProcessed 102,
    .broadcastEnds 0, .microtask, .microtask, .microtask, .microtask, .microtask, .broadcastEnds 2,
    .microtask]

theorem inOrder_twoBlocks :
    ∃ s, runFrom PoC.step PoC.init twoBlocks = some s ∧ s.dispatched = [0, 1] ∧ s.InOrder := by
  have hmeets : Meets PoC.step PoC.ArrivesAlone PoC.init twoBlocks := by decide +kernel
  have hfields : (runFrom PoC.step PoC.init twoBlocks).map PoC.dispatched = some [0, 1] := by
    decide +kernel
  obtain ⟨s, hrun, hdispatched⟩ := Option.map_eq_some_iff.mp hfields
  exact ⟨s, hrun, hdispatched, inOrder_of_runFrom twoBlocks s hmeets hrun⟩

/-- The broadcast of the third block starts, and its block is sent, before the broadcast of the
second has ended. -/
theorem not_inOrder_threeBlocks :
    ∃ s, runFrom PoC.step PoC.init threeBlocks = some s ∧ s.started = [0, 1, 2] ∧
      s.finished = [0, 2] ∧ s.dispatched = [0, 2] ∧ ¬ s.InOrder := by
  have hfields : (runFrom PoC.step PoC.init threeBlocks).map
      (fun s => (s.started, s.finished, s.dispatched)) = some ([0, 1, 2], [0, 2], [0, 2]) := by
    decide +kernel
  obtain ⟨s, hrun, hfields⟩ := Option.map_eq_some_iff.mp hfields
  rw [Prod.mk.injEq, Prod.mk.injEq] at hfields
  obtain ⟨hstarted, hfinished, hdispatched⟩ := hfields
  refine ⟨s, hrun, hstarted, hfinished, hdispatched, ?_⟩
  intro horder
  have hended := horder.finished 1 (by rw [hstarted]; decide)
  rw [hfinished] at hended
  revert hended
  decide

end OpnetNode
