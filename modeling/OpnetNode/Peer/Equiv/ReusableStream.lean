import OpnetNode.Peer.ReusableStream

/-!
# Messages are sent in order and settled once

A stream is idle, busy with the head of its queue, or closed (`Phase`).  While it is open, what was
accepted is what was offered to the underlying stream and then what waits behind the head; a message
waits in the queue exactly while its promise is pending (`Core`).  The queue is emptied when the
stream closes, so a loop that was waiting finds nothing to remove.
-/

namespace OpnetNode

namespace ReusableStream

/-! ### Promises -/

def promiseOf (s : ReusableStream) (m : QueuedMessage) : Option PromiseState :=
  s.promises[m.promise]?

theorem getElem?_settle (promises : List PromiseState) (promise i : ℕ) (state : PromiseState) :
    (settle promises promise state)[i]? =
      if promise = i then (promises[i]?).map fun old => if old = .pending then state else old
      else promises[i]? := by
  unfold settle
  rw [List.getElem?_modify]
  split_ifs with h
  · rfl
  · exact Option.map_id' ..

theorem length_settle (promises : List PromiseState) (promise : ℕ) (state : PromiseState) :
    (settle promises promise state).length = promises.length := by
  unfold settle
  rw [List.length_modify]

/-- A promise that is settled stays as it is. -/
def Keeps (promises promises' : List PromiseState) : Prop :=
  ∀ (i : ℕ) (state : PromiseState), state ≠ .pending → promises[i]? = some state →
    promises'[i]? = some state

theorem Keeps.trans {a b c : List PromiseState} (h : Keeps a b) (h' : Keeps b c) : Keeps a c :=
  fun i state hne hi => h' i state hne (h i state hne hi)

theorem keeps_settle (promises : List PromiseState) (promise : ℕ) (state : PromiseState) :
    Keeps promises (settle promises promise state) := by
  intro i old hne hi
  rw [getElem?_settle, hi]
  split_ifs with h
  · rw [Option.map_some, if_neg hne]
  · rfl

def rejectAll (error : String) (promises : List PromiseState) (messages : List QueuedMessage) :
    List PromiseState :=
  messages.foldl (fun promises message => settle promises message.promise (.rejected error)) promises

variable {state : PromiseState}

theorem of_getElem?_settle_rejected {promises : List PromiseState} {promise i : ℕ} {error : String}
    (h : (settle promises promise (.rejected error))[i]? = some state)
    (hstate : state ≠ .rejected error) :
    promises[i]? = some state ∧ (state = .pending → promise ≠ i) := by
  rw [getElem?_settle] at h
  split_ifs at h with heq
  · cases hp : promises[i]? with
    | none => simp [hp] at h
    | some old =>
      simp only [hp, Option.map_some, Option.some.injEq] at h
      split_ifs at h with hold
      · exact absurd h.symm hstate
      · exact ⟨congrArg some h, fun hpending => absurd (h.trans hpending) hold⟩
  · exact ⟨h, fun _ => heq⟩

theorem rejectAll_spec (error : String) (messages : List QueuedMessage)
    (promises : List PromiseState) :
    (rejectAll error promises messages).length = promises.length ∧
      Keeps promises (rejectAll error promises messages) ∧
      (∀ i : ℕ, (rejectAll error promises messages)[i]? = some PromiseState.resolved →
        promises[i]? = some PromiseState.resolved) ∧
      ∀ i : ℕ, (rejectAll error promises messages)[i]? = some PromiseState.pending →
        promises[i]? = some PromiseState.pending ∧ ∀ m ∈ messages, m.promise ≠ i := by
  induction messages generalizing promises with
  | nil => exact ⟨rfl, fun _ _ _ hi => hi, fun _ hi => hi, fun _ hi => ⟨hi, by simp⟩⟩
  | cons m messages ih =>
    obtain ⟨hlength, hkeeps, hresolved, hpending⟩ := ih (settle promises m.promise (.rejected error))
    rw [length_settle] at hlength
    refine ⟨hlength, (keeps_settle _ _ _).trans hkeeps, ?_, ?_⟩
    · intro i hi
      exact (of_getElem?_settle_rejected (hresolved i hi) (by simp)).1
    · intro i hi
      obtain ⟨hi, hne⟩ := hpending i hi
      obtain ⟨hi, hfirst⟩ := of_getElem?_settle_rejected hi (by simp)
      refine ⟨hi, ?_⟩
      intro m' hm'
      rcases List.mem_cons.mp hm' with rfl | hm'
      · exact hfirst rfl
      · exact hne m' hm'

/-! ### What holds in every state -/

/-- The records and the promises, whatever the stream does. -/
structure Core (s : ReusableStream) : Prop where
  promises : s.promises.length = s.accepted.length
  numbers : s.accepted.map QueuedMessage.promise = List.range s.accepted.length
  offered : s.offered <+: s.accepted
  handed : s.handed.Sublist s.offered
  queue : ∀ m ∈ s.messageQueue, m ∈ s.accepted
  pending : ∀ m ∈ s.accepted, s.promiseOf m = some .pending ↔ m ∈ s.messageQueue
  delivered : ∀ m ∈ s.accepted, s.promiseOf m = some .resolved → m ∈ s.handed
  waiting : ∀ loop ∈ s.loops, loop.item ∈ s.offered
  written : ∀ loop ∈ s.loops, (∀ error, loop.write ≠ .failed error) → loop.item ∈ s.handed

/-- Nothing waits. -/
structure Idle (s : ReusableStream) : Prop where
  isClosed : s.isClosed = false
  isProcessingQueue : s.isProcessingQueue = false
  loops : s.loops = []
  messageQueue : s.messageQueue = []
  offered : s.offered = s.accepted

/-- A loop writes the head of the queue. -/
structure Busy (s : ReusableStream) : Prop where
  isClosed : s.isClosed = false
  isProcessingQueue : s.isProcessingQueue = true
  head : ∃ item write before rest, s.loops = [⟨item, write⟩] ∧ s.messageQueue = item :: rest ∧
    s.offered = before ++ [item] ∧ s.accepted = before ++ item :: rest

/-- A loop may still wait, but nothing is left to it. -/
structure Closed (s : ReusableStream) : Prop where
  isClosed : s.isClosed = true
  messageQueue : s.messageQueue = []
  loops : s.loops.length ≤ 1

/-- A loop runs, between two messages. -/
structure Ready (s : ReusableStream) : Prop where
  isClosed : s.isClosed = false
  isProcessingQueue : s.isProcessingQueue = true
  loops : s.loops = []
  accepted : s.accepted = s.offered ++ s.messageQueue

/-- The stream is idle, busy or closed. -/
def Phase (s : ReusableStream) : Prop := Idle s ∨ Busy s ∨ Closed s

/-- **The invariant.** -/
def Inv (s : ReusableStream) : Prop := Core s ∧ Phase s

theorem inv_create (peerIdStr : String) (opts : ReusableStreamOptions) :
    Inv (create peerIdStr opts) := by
  refine ⟨⟨rfl, rfl, List.prefix_rfl, List.Sublist.refl [], ?_, ?_, ?_, ?_, ?_⟩,
    .inl ⟨rfl, rfl, rfl, rfl, rfl⟩⟩
  all_goals simp [create]

variable {s : ReusableStream}

theorem Core.frame (h : Core s) (isProcessingQueue closing : Bool)
    (onCloseCalls : ℕ) : Core { s with isProcessingQueue, closing, onCloseCalls } :=
  ⟨h.promises, h.numbers, h.offered, h.handed, h.queue, h.pending, h.delivered, h.waiting,
    h.written⟩

variable {m : QueuedMessage}

theorem Core.eq_of_promise_eq (h : Core s) {m' : QueuedMessage}
    (hm : m ∈ s.accepted) (hm' : m' ∈ s.accepted) (heq : m.promise = m'.promise) : m = m' := by
  have hnodup : (s.accepted.map QueuedMessage.promise).Nodup := by
    rw [h.numbers]
    exact List.nodup_range
  exact List.inj_on_of_nodup_map hnodup hm hm' heq

theorem Core.nodup (h : Core s) : s.accepted.Nodup := by
  apply List.Nodup.of_map QueuedMessage.promise
  rw [h.numbers]
  exact List.nodup_range

theorem Core.promise_lt (h : Core s) (hm : m ∈ s.accepted) : m.promise < s.promises.length := by
  have hmem : m.promise ∈ s.accepted.map QueuedMessage.promise := List.mem_map_of_mem hm
  rw [h.numbers, List.mem_range] at hmem
  rw [h.promises]
  exact hmem

/-! ### Closing -/

theorem closeStream_spec (h : Core s) (hloops : s.loops.length ≤ 1)
    (hqueue : s.isClosed = true → s.messageQueue = []) :
    Core s.closeStream ∧ Closed s.closeStream ∧ s.closeStream.accepted = s.accepted ∧
      s.closeStream.offered = s.offered ∧ s.closeStream.handed = s.handed ∧
      s.closeStream.loops = s.loops := by
  unfold closeStream
  split_ifs with hclosed
  · exact ⟨h, ⟨hclosed, hqueue hclosed, hloops⟩, rfl, rfl, rfl, rfl⟩
  · obtain ⟨hlength, -, hresolved, hpending⟩ :=
      rejectAll_spec "Stream closed before message was processed." s.messageQueue s.promises
    refine ⟨⟨hlength.trans h.promises, h.numbers, h.offered, h.handed, by simp, ?_, ?_, h.waiting,
      h.written⟩, ⟨rfl, rfl, hloops⟩, rfl, rfl, rfl, rfl⟩
    · intro m hm
      constructor
      · intro hp
        obtain ⟨hp, hne⟩ := hpending m.promise hp
        exact absurd rfl (hne m ((h.pending m hm).mp hp))
      · intro hmem
        simp at hmem
    · intro m hm hp
      exact h.delivered m hm (hresolved m.promise hp)

/-! ### Writing -/

/-- The stream while a message is given to `send`. -/
def offering (item : QueuedMessage) (s : ReusableStream) : ReusableStream :=
  { s.resetIdleTimer with
    outboundMessageCount := s.outboundMessageCount + 1
    offered := s.offered ++ [item] }

/-- The loop waits for the write of a message. -/
def suspend (item : QueuedMessage) (outcome : SendOutcome) (s : ReusableStream) : ReusableStream :=
  match outcome.thrown with
  | some error => { s with loops := s.loops ++ [⟨item, .failed error⟩] }
  | none =>
    { s with
      handed := s.handed ++ [item]
      loops := s.loops ++ [⟨item, if outcome.needsDrain then .draining else .written⟩] }

theorem writeData_eq (item : QueuedMessage) (outcome : SendOutcome) (s : ReusableStream) :
    writeData item outcome s = suspend item outcome
      (if outcome.closes then (offering item s).closeStream else offering item s) := rfl

variable {item : QueuedMessage}

/-- A message that was offered waits for its write, and was taken unless the write has failed. -/
theorem core_suspend (h : Core s)
    (hitem : (s.handed ++ [item]).Sublist s.offered) (outcome : SendOutcome) :
    Core (suspend item outcome s) := by
  have hoffered : item ∈ s.offered :=
    hitem.subset (List.mem_append_right _ (List.mem_singleton_self item))
  have hwaiting : ∀ write, ∀ loop ∈ s.loops ++ [⟨item, write⟩], loop.item ∈ s.offered := by
    intro write loop hloop
    rcases List.mem_append.mp hloop with hloop | hloop
    · exact h.waiting loop hloop
    · obtain rfl := List.mem_singleton.mp hloop
      exact hoffered
  unfold suspend
  cases outcome.thrown with
  | some error =>
    refine ⟨h.promises, h.numbers, h.offered, h.handed, h.queue, h.pending, h.delivered,
      hwaiting _, ?_⟩
    intro loop hloop hwrite
    rcases List.mem_append.mp hloop with hloop | hloop
    · exact h.written loop hloop hwrite
    · obtain rfl := List.mem_singleton.mp hloop
      exact absurd rfl (hwrite error)
  | none =>
    refine ⟨h.promises, h.numbers, h.offered, hitem, h.queue, h.pending, ?_, hwaiting _, ?_⟩
    · intro m hm hp
      exact List.mem_append_left _ (h.delivered m hm hp)
    · intro loop hloop hwrite
      rcases List.mem_append.mp hloop with hloop | hloop
      · exact List.mem_append_left _ (h.written loop hloop hwrite)
      · obtain rfl := List.mem_singleton.mp hloop
        exact List.mem_append_right _ (List.mem_singleton_self item)

theorem suspend_spec (item : QueuedMessage) (outcome : SendOutcome) (s : ReusableStream) :
    ∃ write handed, suspend item outcome s =
      { s with handed := s.handed ++ handed, loops := s.loops ++ [⟨item, write⟩] } := by
  unfold suspend
  cases outcome.thrown with
  | some error => exact ⟨.failed error, [], by rw [List.append_nil]⟩
  | none => exact ⟨_, [item], rfl⟩

variable {rest : List QueuedMessage}

theorem core_offering (h : Core s) (hready : Ready s) (hqueue : s.messageQueue = item :: rest) :
    Core (offering item s) := by
  have haccepted := hready.accepted
  rw [hqueue, ← List.singleton_append, ← List.append_assoc] at haccepted
  refine ⟨h.promises, h.numbers, ⟨rest, haccepted.symm⟩, ?_, h.queue, h.pending, h.delivered, ?_,
    h.written⟩
  · exact h.handed.trans (List.sublist_append_left _ _)
  · exact fun loop hloop => List.mem_append_left _ (h.waiting loop hloop)

theorem inv_writeData (h : Core s) (hready : Ready s)
    (hqueue : s.messageQueue = item :: rest) (outcome : SendOutcome) :
    Inv (writeData item outcome s) := by
  have hcore := core_offering h hready hqueue
  have hloops : (offering item s).loops = [] := hready.loops
  have hsub : ((offering item s).handed ++ [item]).Sublist (offering item s).offered :=
    h.handed.append (List.Sublist.refl [item])
  rw [writeData_eq]
  split_ifs with hcloses
  · obtain ⟨hcore', hclosed, -, hoffered, hhanded, hsame⟩ := closeStream_spec hcore
      (by rw [hloops]; exact Nat.zero_le 1) (fun hc => by
        rw [show (offering item s).isClosed = false from hready.isClosed] at hc
        cases hc)
    have hsub' : ((offering item s).closeStream.handed ++ [item]).Sublist
        (offering item s).closeStream.offered := by
      rw [hhanded, hoffered]
      exact hsub
    refine ⟨core_suspend hcore' hsub' outcome, .inr (.inr ?_)⟩
    obtain ⟨write, handed, heq⟩ := suspend_spec item outcome (offering item s).closeStream
    rw [heq]
    exact ⟨hclosed.isClosed, hclosed.messageQueue, by simp [hsame, hloops]⟩
  · refine ⟨core_suspend hcore hsub outcome, .inr (.inl ?_)⟩
    obtain ⟨write, handed, heq⟩ := suspend_spec item outcome (offering item s)
    rw [heq]
    refine ⟨hready.isClosed, hready.isProcessingQueue, item, write, s.offered, rest, ?_, hqueue,
      rfl, ?_⟩
    · simp [hloops]
    · rw [← hqueue]
      exact hready.accepted

theorem processNext_nil (h : s.messageQueue = []) (outcome : SendOutcome) :
    processNext outcome s = { s with isProcessingQueue := false } := by
  unfold processNext
  split
  · rfl
  · next hqueue =>
    cases h.symm.trans hqueue

theorem processNext_cons
    (hqueue : s.messageQueue = item :: rest) (hopen : s.isClosed = false) (outcome : SendOutcome) :
    processNext outcome s = writeData item outcome s := by
  unfold processNext
  rw [hopen, hqueue]
  rfl

theorem inv_processNext (h : Core s) (hs : Ready s ∨ Closed s ∧ s.loops = [])
    (outcome : SendOutcome) : Inv (processNext outcome s) := by
  have hidle : Core { s with isProcessingQueue := false } := h.frame false s.closing s.onCloseCalls
  rcases hs with hready | ⟨hclosed, hloops⟩
  · cases hqueue : s.messageQueue with
    | nil =>
      have haccepted := hready.accepted
      rw [hqueue, List.append_nil] at haccepted
      rw [processNext_nil hqueue]
      exact ⟨hidle, .inl ⟨hready.isClosed, rfl, hready.loops, hqueue, haccepted.symm⟩⟩
    | cons item rest =>
      rw [processNext_cons hqueue hready.isClosed]
      exact inv_writeData h hready hqueue outcome
  · rw [processNext_nil hclosed.messageQueue]
    exact ⟨hidle, .inr (.inr ⟨hclosed.isClosed, hclosed.messageQueue, hclosed.loops⟩)⟩

/-! ### Accepting a message -/

/-- The stream when a message has joined the queue. -/
def pushed (data : Bytes) (s : ReusableStream) : ReusableStream :=
  { s with
    messageQueue := s.messageQueue ++ [⟨data, s.promises.length⟩]
    promises := s.promises ++ [.pending]
    accepted := s.accepted ++ [⟨data, s.promises.length⟩] }

theorem core_pushed (h : Core s) (data : Bytes) : Core (pushed data s) := by
  have hold : ∀ m ∈ s.accepted, (pushed data s).promiseOf m = s.promiseOf m := by
    intro m hm
    exact List.getElem?_append_left (h.promise_lt hm)
  have hnew : (pushed data s).promiseOf ⟨data, s.promises.length⟩ = some .pending :=
    List.getElem?_concat_length
  refine ⟨?_, ?_, h.offered.trans (List.prefix_append _ _), h.handed, ?_, ?_, ?_,
    h.waiting, h.written⟩
  · simp [pushed, h.promises]
  · simp [pushed, h.promises, h.numbers, List.range_succ]
  · intro m hm
    rcases List.mem_append.mp hm with hm | hm
    · exact List.mem_append_left _ (h.queue m hm)
    · exact List.mem_append_right _ hm
  · intro m hm
    rcases List.mem_append.mp hm with hm | hm
    · rw [hold m hm, h.pending m hm]
      constructor
      · exact fun hmem => List.mem_append_left _ hmem
      · intro hmem
        rcases List.mem_append.mp hmem with hmem | hmem
        · exact hmem
        · obtain rfl := List.mem_singleton.mp hmem
          exact absurd (h.promise_lt hm) (Nat.lt_irrefl _)
    · obtain rfl := List.mem_singleton.mp hm
      exact iff_of_true hnew (List.mem_append_right _ hm)
  · intro m hm hp
    rcases List.mem_append.mp hm with hm | hm
    · rw [hold m hm] at hp
      exact h.delivered m hm hp
    · obtain rfl := List.mem_singleton.mp hm
      cases hnew.symm.trans hp

theorem sendMessage_spec (data : Bytes) (outcome : SendOutcome) (s : ReusableStream) :
    (∃ error, s.sendMessage data outcome = (.error error, s)) ∨
      s.isClosed = false ∧ s.sendMessage data outcome = (.ok s.promises.length,
        if (pushed data s).messageQueue.length = 1 && !s.isProcessingQueue
        then processQueue outcome (pushed data s) else pushed data s) := by
  unfold sendMessage
  dsimp only
  by_cases hclosed : s.isClosed = true
  · rw [if_pos hclosed]
    exact .inl ⟨_, rfl⟩
  rw [if_neg hclosed]
  by_cases hsize : data.length > s.opts.maxMessageSize
  · rw [if_pos hsize]
    exact .inl ⟨_, rfl⟩
  rw [if_neg hsize]
  by_cases hfull : s.messageQueue.length ≥ MAX_QUEUE_SIZE
  · rw [if_pos hfull]
    exact .inl ⟨_, rfl⟩
  rw [if_neg hfull]
  exact .inr ⟨eq_false_of_ne_true hclosed, rfl⟩

theorem inv_sendMessage (h : Inv s) (data : Bytes) (outcome : SendOutcome) :
    Inv (s.sendMessage data outcome).2 := by
  obtain ⟨error, heq⟩ | ⟨hopen, heq⟩ := sendMessage_spec data outcome s
  · rw [heq]
    exact h
  · obtain ⟨hcore, hphase⟩ := h
    have hcore' := core_pushed hcore data
    rw [heq]
    dsimp only
    rcases hphase with hidle | hbusy | hclosed
    · -- Nothing waits, so the message is alone in the queue and a loop starts.
      have hstart : ((pushed data s).messageQueue.length = 1 && !s.isProcessingQueue) = true := by
        simp [pushed, hidle.messageQueue, hidle.isProcessingQueue]
      rw [if_pos hstart]
      have hready : Ready { pushed data s with isProcessingQueue := true } :=
        ⟨hopen, rfl, hidle.loops, by simp [pushed, hidle.messageQueue, hidle.offered]⟩
      exact inv_processNext (hcore'.frame true s.closing s.onCloseCalls) (.inl hready) outcome
    · have hstart : ((pushed data s).messageQueue.length = 1 && !s.isProcessingQueue) = false := by
        simp [hbusy.isProcessingQueue]
      rw [hstart]
      refine ⟨hcore', .inr (.inl ?_)⟩
      obtain ⟨hclosed, hprocessing, item, write, before, rest, hloops, hqueue, hoffered,
        haccepted⟩ := hbusy
      refine ⟨hclosed, hprocessing, item, write, before, rest ++ [⟨data, s.promises.length⟩],
        hloops, ?_, hoffered, ?_⟩
      · simp [pushed, hqueue]
      · simp [pushed, haccepted]
    · cases hclosed.isClosed.symm.trans hopen

/-! ### Going on -/

variable {k : ℕ}

theorem loops_of_getElem? (h : Inv s) {loop : ProcessLoop}
    (hloop : s.loops[k]? = some loop) : k = 0 ∧ s.loops = [loop] := by
  have hlength : s.loops.length ≤ 1 := by
    rcases h.2 with hidle | hbusy | hclosed
    · simp [hidle.loops]
    · obtain ⟨item, write, -, -, hloops, -⟩ := hbusy.head
      simp [hloops]
    · exact hclosed.loops
  obtain ⟨hk, hget⟩ := List.getElem?_eq_some_iff.mp hloop
  obtain rfl : k = 0 := by omega
  refine ⟨rfl, ?_⟩
  obtain ⟨only, honly⟩ := List.length_eq_one_iff.mp (by omega : s.loops.length = 1)
  rw [honly] at hloop
  rw [honly]
  simp at hloop
  rw [hloop]

variable {write : Write}

theorem inv_setWrite (h : Inv s)
    (hloops : s.loops = [⟨item, write⟩]) (hwrite : ∀ error, write ≠ .failed error)
    (write' : Write) : Inv { s with loops := [⟨item, write'⟩] } := by
  obtain ⟨hcore, hphase⟩ := h
  have hmem : (⟨item, write⟩ : ProcessLoop) ∈ s.loops := by
    rw [hloops]
    exact List.mem_singleton_self _
  refine ⟨⟨hcore.promises, hcore.numbers, hcore.offered, hcore.handed, hcore.queue, hcore.pending,
    hcore.delivered, ?_, ?_⟩, ?_⟩
  · intro loop hloop
    obtain rfl := List.mem_singleton.mp hloop
    exact hcore.waiting ⟨item, write⟩ hmem
  · intro loop hloop _
    obtain rfl := List.mem_singleton.mp hloop
    exact hcore.written ⟨item, write⟩ hmem hwrite
  · rcases hphase with hidle | hbusy | hclosed
    · cases hidle.loops.symm.trans hloops
    · obtain ⟨hopen, hprocessing, item', write'', before, rest, hloops', hqueue⟩ := hbusy
      cases hloops.symm.trans hloops'
      exact .inr (.inl ⟨hopen, hprocessing, item, write', before, rest, rfl, hqueue⟩)
    · exact .inr (.inr ⟨hclosed.isClosed, hclosed.messageQueue, Nat.le_refl 1⟩)

variable {s' : ReusableStream}

theorem settleDrain_eq_some (h : s.settleDrain k write = some s') :
    ∃ item, s.loops[k]? = some ⟨item, .draining⟩ ∧
      s' = { s with loops := s.loops.set k ⟨item, write⟩ } := by
  unfold settleDrain at h
  split at h
  · next item hloop => exact ⟨item, hloop, (Option.some.inj h).symm⟩
  · cases h

theorem inv_settleDrain (h : Inv s) (hs' : s.settleDrain k write = some s') : Inv s' := by
  obtain ⟨item, hloop, rfl⟩ := settleDrain_eq_some hs'
  obtain ⟨rfl, hloops⟩ := loops_of_getElem? h hloop
  rw [hloops]
  exact inv_setWrite h hloops (by simp) write

theorem core_settle (h : Core s) (hitem : item ∈ s.accepted) (hstate : state ≠ .pending)
    (hdelivered : state = .resolved → item ∈ s.handed) {queue : List QueuedMessage}
    (hqueue : ∀ m, m ∈ queue ↔ m ∈ s.messageQueue ∧ m ≠ item) :
    Core { s with
      loops := []
      messageQueue := queue
      promises := settle s.promises item.promise state } := by
  -- no other accepted message has the promise of this one
  have hpromise : ∀ m ∈ s.accepted, (settle s.promises item.promise state)[m.promise]? =
      if m = item then (s.promiseOf m).map fun old => if old = .pending then state else old
      else s.promiseOf m := by
    intro m hm
    rw [getElem?_settle]
    have hiff : item.promise = m.promise ↔ m = item :=
      ⟨fun heq => h.eq_of_promise_eq hm hitem heq.symm, fun heq => by rw [heq]⟩
    simp only [hiff, promiseOf]
  refine ⟨by rw [length_settle]; exact h.promises, h.numbers, h.offered, h.handed, ?_, ?_, ?_,
    by simp, by simp⟩
  · intro m hm
    exact h.queue m ((hqueue m).mp hm).1
  · intro m hm
    show (settle s.promises item.promise state)[m.promise]? = some .pending ↔ m ∈ queue
    rw [hpromise m hm, hqueue]
    split_ifs with heq
    · have hne : (s.promiseOf m).map (fun old => if old = .pending then state else old)
          ≠ some .pending := by
        cases s.promiseOf m with
        | none => simp
        | some old =>
          simp only [Option.map_some, ne_eq, Option.some.injEq]
          split_ifs with hold
          · exact hstate
          · exact hold
      exact iff_of_false hne fun hmem => hmem.2 heq
    · rw [h.pending m hm]
      exact (and_iff_left heq).symm
  · intro m hm hp
    replace hp : (settle s.promises item.promise state)[m.promise]? = some .resolved := hp
    rw [hpromise m hm] at hp
    split_ifs at hp with heq
    · cases hm' : s.promiseOf m with
      | none =>
        rw [hm'] at hp
        cases hp
      | some old =>
        rw [hm'] at hp
        simp only [Option.map_some, Option.some.injEq] at hp
        split_ifs at hp with hold
        · rw [heq]
          exact hdelivered hp
        · rw [hp] at hm'
          exact h.delivered m hm hm'
    · exact h.delivered m hm hp

theorem inv_resume (h : Inv s) {loop : ProcessLoop}
    (hloops : s.loops = [loop]) (hstate : state ≠ .pending)
    (hdelivered : state = .resolved → ∀ error, loop.write ≠ .failed error)
    (outcome : SendOutcome) : Inv (resume loop state outcome { s with loops := [] }) := by
  obtain ⟨hcore, hphase⟩ := h
  have hmem : loop ∈ s.loops := by
    rw [hloops]
    exact List.mem_singleton_self loop
  have hitem : loop.item ∈ s.accepted := hcore.offered.subset (hcore.waiting loop hmem)
  have htaken : state = .resolved → loop.item ∈ s.handed := fun hresolved =>
    hcore.written loop hmem (hdelivered hresolved)
  unfold resume
  rcases hphase with hidle | hbusy | hclosed
  · -- an idle stream has no loop that could resume
    cases hidle.loops.symm.trans hloops
  · -- the loop writes the head of the queue, which is dropped now
    obtain ⟨hopen, hprocessing, item, write, before, rest, hloops', hqueue, hoffered,
      haccepted⟩ := hbusy
    cases hloops.symm.trans hloops'
    have hnodup := hcore.nodup
    rw [haccepted, List.nodup_append, List.nodup_cons] at hnodup
    have hdrop : s.messageQueue.drop 1 = rest := by
      rw [hqueue]
      rfl
    refine inv_processNext (core_settle hcore hitem hstate htaken ?_)
      (.inl ⟨hopen, hprocessing, rfl, ?_⟩) outcome
    · intro m
      show m ∈ s.messageQueue.drop 1 ↔ _
      rw [hdrop, hqueue, List.mem_cons]
      constructor
      · intro hm
        refine ⟨.inr hm, ?_⟩
        rintro rfl
        exact hnodup.2.1.1 hm
      · rintro ⟨rfl | hm, hne⟩
        · exact absurd rfl hne
        · exact hm
    · show s.accepted = s.offered ++ s.messageQueue.drop 1
      rw [hdrop, hoffered, haccepted, List.append_assoc]
      rfl
  · -- The stream was closed while the loop waited, so its message was rejected already.
    refine inv_processNext (core_settle hcore hitem hstate htaken ?_)
      (.inr ⟨⟨hclosed.isClosed, ?_, Nat.zero_le 1⟩, rfl⟩) outcome
    · intro m
      show m ∈ s.messageQueue.drop 1 ↔ _
      simp [hclosed.messageQueue]
    · show s.messageQueue.drop 1 = []
      rw [hclosed.messageQueue]
      rfl

/-! ### Every step -/

theorem resumed_eq_some {outcome : SendOutcome} (h : step s (.resumed k outcome) = some s') :
    ∃ loop state, s.loops[k]? = some loop ∧ state ≠ .pending ∧
      (state = .resolved → ∀ error, loop.write ≠ .failed error) ∧
      s' = resume loop state outcome { s with loops := s.loops.eraseIdx k } := by
  simp only [step] at h
  split at h
  · next item hloop =>
    exact ⟨_, .resolved, hloop, by simp, by simp, (Option.some.inj h).symm⟩
  · next item error hloop =>
    exact ⟨_, .rejected error, hloop, by simp, by simp, (Option.some.inj h).symm⟩
  · cases h

theorem inv_closeStream (h : Inv s) : Inv s.closeStream := by
  obtain ⟨hcore, hphase⟩ := h
  have hfacts : s.loops.length ≤ 1 ∧ (s.isClosed = true → s.messageQueue = []) := by
    rcases hphase with hidle | hbusy | hclosed
    · exact ⟨by simp [hidle.loops], fun _ => hidle.messageQueue⟩
    · obtain ⟨item, write, -, -, hloops, -⟩ := hbusy.head
      exact ⟨by simp [hloops], fun hc => by rw [hbusy.isClosed] at hc; cases hc⟩
    · exact ⟨hclosed.loops, fun _ => hclosed.messageQueue⟩
  obtain ⟨hcore', hclosed, -⟩ := closeStream_spec hcore hfacts.1 hfacts.2
  exact ⟨hcore', .inr (.inr hclosed)⟩

/-- **Every step keeps the invariant.** -/
theorem inv_step {event : Event} (h : Inv s) (hstep : step s event = some s') : Inv s' := by
  cases event with
  | sendMessage data outcome =>
    cases hstep
    exact inv_sendMessage h data outcome
  | drained | drainFailed => exact inv_settleDrain h hstep
  | resumed k outcome =>
    obtain ⟨loop, state, hloop, hstate, hdelivered, rfl⟩ := resumed_eq_some hstep
    obtain ⟨rfl, hloops⟩ := loops_of_getElem? h hloop
    have herase : s.loops.eraseIdx 0 = [] := by rw [hloops]; rfl
    rw [herase]
    exact inv_resume h hloops hstate hdelivered outcome
  | idleTimeout | closeEvent =>
    simp only [step] at hstep
    split_ifs at hstep
    cases hstep
    exact inv_closeStream h
  | closeStream =>
    cases hstep
    exact inv_closeStream h
  | closeSettled =>
    simp only [step] at hstep
    split_ifs at hstep
    cases hstep
    obtain ⟨hcore, hphase⟩ := h
    refine ⟨hcore.frame s.isProcessingQueue false (s.onCloseCalls + 1), ?_⟩
    rcases hphase with hidle | hbusy | hclosed
    · exact .inl ⟨hidle.isClosed, hidle.isProcessingQueue, hidle.loops, hidle.messageQueue,
        hidle.offered⟩
    · exact .inr (.inl ⟨hbusy.isClosed, hbusy.isProcessingQueue, hbusy.head⟩)
    · exact .inr (.inr ⟨hclosed.isClosed, hclosed.messageQueue, hclosed.loops⟩)

/-! ### What stays -/

/-- What was accepted, taken and settled in one state stays so in another. -/
structure Later (s t : ReusableStream) : Prop where
  promises : Keeps s.promises t.promises
  accepted : s.accepted <+: t.accepted
  handed : s.handed <+: t.handed

theorem Later.refl (s : ReusableStream) : Later s s :=
  ⟨fun _ _ _ hi => hi, List.prefix_rfl, List.prefix_rfl⟩

theorem Later.trans {t u : ReusableStream} (h : Later s t) (h' : Later t u) : Later s u :=
  ⟨h.promises.trans h'.promises, h.accepted.trans h'.accepted, h.handed.trans h'.handed⟩

theorem later_closeStream (s : ReusableStream) : Later s s.closeStream := by
  unfold closeStream
  split_ifs with hclosed
  · exact Later.refl s
  · obtain ⟨-, hkeeps, -⟩ :=
      rejectAll_spec "Stream closed before message was processed." s.messageQueue s.promises
    exact ⟨hkeeps, List.prefix_rfl, List.prefix_rfl⟩

theorem later_writeData (item : QueuedMessage) (outcome : SendOutcome) (s : ReusableStream) :
    Later s (writeData item outcome s) := by
  have hsuspend : ∀ t, Later t (suspend item outcome t) := by
    intro t
    obtain ⟨write, handed, heq⟩ := suspend_spec item outcome t
    rw [heq]
    exact ⟨fun _ _ _ hi => hi, List.prefix_rfl, List.prefix_append _ _⟩
  have hoffering : Later s (offering item s) :=
    ⟨fun _ _ _ hi => hi, List.prefix_rfl, List.prefix_rfl⟩
  rw [writeData_eq]
  split_ifs with hcloses
  · exact (hoffering.trans (later_closeStream _)).trans (hsuspend _)
  · exact hoffering.trans (hsuspend _)

theorem later_processNext (outcome : SendOutcome) (s : ReusableStream) :
    Later s (processNext outcome s) := by
  unfold processNext
  split
  · exact ⟨fun _ _ _ hi => hi, List.prefix_rfl, List.prefix_rfl⟩
  · next item rest hqueue =>
    split_ifs
    · exact ⟨fun _ _ _ hi => hi, List.prefix_rfl, List.prefix_rfl⟩
    · exact later_writeData item outcome s

theorem later_processQueue (outcome : SendOutcome) (s : ReusableStream) :
    Later s (processQueue outcome s) := by
  unfold processQueue
  refine Later.trans ?_ (later_processNext outcome _)
  exact ⟨fun _ _ _ hi => hi, List.prefix_rfl, List.prefix_rfl⟩

theorem later_sendMessage (data : Bytes) (outcome : SendOutcome) (s : ReusableStream) :
    Later s (s.sendMessage data outcome).2 := by
  have hpushed : Later s (pushed data s) := by
    refine ⟨?_, List.prefix_append _ _, List.prefix_rfl⟩
    intro i state _ hi
    exact List.getElem?_append_left (List.getElem?_eq_some_iff.mp hi).1 ▸ hi
  obtain ⟨error, heq⟩ | ⟨-, heq⟩ := sendMessage_spec data outcome s
  · rw [heq]
    exact Later.refl s
  · rw [heq]
    dsimp only
    split_ifs
    · exact hpushed.trans (later_processQueue outcome (pushed data s))
    · exact hpushed

theorem later_step {event : Event} (hstep : step s event = some s') : Later s s' := by
  cases event with
  | sendMessage data outcome =>
    cases hstep
    exact later_sendMessage data outcome s
  | drained | drainFailed =>
    obtain ⟨item, -, rfl⟩ := settleDrain_eq_some hstep
    exact ⟨fun _ _ _ hi => hi, List.prefix_rfl, List.prefix_rfl⟩
  | resumed k outcome =>
    obtain ⟨loop, state, -, -, -, rfl⟩ := resumed_eq_some hstep
    unfold resume
    refine Later.trans ?_ (later_processNext outcome _)
    exact ⟨keeps_settle _ _ _, List.prefix_rfl, List.prefix_rfl⟩
  | idleTimeout | closeEvent =>
    simp only [step] at hstep
    split_ifs at hstep
    cases hstep
    exact later_closeStream s
  | closeStream =>
    cases hstep
    exact later_closeStream s
  | closeSettled =>
    simp only [step] at hstep
    split_ifs at hstep
    cases hstep
    exact ⟨fun _ _ _ hi => hi, List.prefix_rfl, List.prefix_rfl⟩

theorem inv_run {events : List Event} {t : ReusableStream} (h : Inv s)
    (hrun : runFrom step s events = some t) : Inv t ∧ Later s t := by
  induction events generalizing s with
  | nil =>
    obtain rfl := Option.some.inj hrun
    exact ⟨h, Later.refl s⟩
  | cons event events ih =>
    rw [runFrom_cons, Option.bind_eq_some_iff] at hrun
    obtain ⟨s', hstep, hrun⟩ := hrun
    obtain ⟨hinv, hlater⟩ := ih (inv_step h hstep) hrun
    exact ⟨hinv, (later_step hstep).trans hlater⟩

/-! ### Every message is settled -/

/-- The write that is waited for ends, and the loop goes on. -/
def completeWrite (s : ReusableStream) (answer : SendOutcome) : ReusableStream :=
  let s := (step s (.drained 0)).getD s
  (step s (.resumed 0 answer)).getD s

theorem inv_getD_step (h : Inv s) (event : Event) : Inv ((step s event).getD s) := by
  cases hstep : step s event with
  | none => exact h
  | some s' => exact inv_step h hstep

theorem later_getD_step (s : ReusableStream) (event : Event) : Later s ((step s event).getD s) := by
  cases hstep : step s event with
  | none => exact Later.refl s
  | some s' => exact later_step hstep

theorem length_processNext (outcome : SendOutcome) (s : ReusableStream) :
    (processNext outcome s).messageQueue.length ≤ s.messageQueue.length := by
  have hclose : ∀ t : ReusableStream, t.closeStream.messageQueue.length ≤ t.messageQueue.length := by
    intro t
    unfold closeStream
    split_ifs
    · exact Nat.le_refl _
    · exact Nat.zero_le _
  unfold processNext
  split
  · exact Nat.le_refl _
  · next item rest hqueue =>
    split_ifs
    · exact Nat.le_refl _
    · rw [writeData_eq]
      obtain ⟨write, handed, heq⟩ := suspend_spec item outcome
        (if outcome.closes then (offering item s).closeStream else offering item s)
      rw [heq]
      dsimp only
      split_ifs
      · exact hclose (offering item s)
      · exact Nat.le_refl _

theorem length_resumed {answer : SendOutcome} (hstep : step s (.resumed k answer) = some s') :
    s'.messageQueue.length ≤ s.messageQueue.length - 1 := by
  obtain ⟨loop, state, -, -, -, rfl⟩ := resumed_eq_some hstep
  have hle := length_processNext answer
    { s with
      loops := s.loops.eraseIdx k
      messageQueue := s.messageQueue.drop 1
      promises := settle s.promises loop.item.promise state }
  rw [List.length_drop] at hle
  exact hle

theorem isSome_resumed (hloops : s.loops = [⟨item, write⟩]) (answer : SendOutcome) :
    (step ((step s (.drained 0)).getD s) (.resumed 0 answer)).isSome := by
  cases write with
  | draining =>
    have hdrained : step s (.drained 0) = some { s with loops := [⟨item, .written⟩] } := by
      simp [step, settleDrain, hloops]
    rw [hdrained]
    rfl
  | written | failed =>
    have hdrained : step s (.drained 0) = none := by simp [step, settleDrain, hloops]
    rw [hdrained]
    simp [step, hloops]

theorem length_completeWrite (h : Inv s) (answer : SendOutcome) :
    (completeWrite s answer).messageQueue.length ≤ s.messageQueue.length - 1 := by
  have hqueue : ((step s (.drained 0)).getD s).messageQueue = s.messageQueue := by
    cases hdrained : step s (.drained 0) with
    | none => rfl
    | some s' =>
      obtain ⟨item, -, rfl⟩ := settleDrain_eq_some hdrained
      rfl
  show ((step ((step s (.drained 0)).getD s) (.resumed 0 answer)).getD _).messageQueue.length ≤ _
  cases hresumed : step ((step s (.drained 0)).getD s) (.resumed 0 answer) with
  | some s' =>
    rw [← hqueue]
    exact length_resumed hresumed
  | none =>
    rw [Option.getD_none, hqueue]
    have hempty : s.messageQueue = [] := by
      rcases h.2 with hidle | hbusy | hclosed
      · exact hidle.messageQueue
      · obtain ⟨item, write, -, -, hloops, -⟩ := hbusy.head
        have hsome := isSome_resumed hloops answer
        rw [hresumed] at hsome
        cases hsome
      · exact hclosed.messageQueue
    rw [hempty]
    exact Nat.zero_le _

theorem completeWrites_spec (h : Inv s) (answers : List SendOutcome) :
    Inv (answers.foldl completeWrite s) ∧ Later s (answers.foldl completeWrite s) ∧
      (answers.foldl completeWrite s).messageQueue.length
        ≤ s.messageQueue.length - answers.length := by
  induction answers generalizing s with
  | nil => exact ⟨h, Later.refl s, Nat.le_refl _⟩
  | cons answer answers ih =>
    have hdrained := inv_getD_step h (.drained 0)
    obtain ⟨hinv, hlater, hlength⟩ := ih (inv_getD_step hdrained (.resumed 0 answer))
    have hle := length_completeWrite h answer
    refine ⟨hinv, ?_, ?_⟩
    · exact ((later_getD_step s (.drained 0)).trans (later_getD_step _ (.resumed 0 answer))).trans
        hlater
    · simp only [List.foldl_cons, List.length_cons]
      have hlength' : (answers.foldl completeWrite (completeWrite s answer)).messageQueue.length
          ≤ (completeWrite s answer).messageQueue.length - answers.length := hlength
      omega

/-! ### The outbound queue -/

/-- What the queue promises in a state. -/
structure Delivers (s : ReusableStream) : Prop where
  /-- Messages are offered in the order they were accepted, each once, and those that are taken
  are among these. -/
  offered : s.offered <+: s.accepted
  handed : s.handed.Sublist s.offered
  once : s.accepted.Nodup
  /-- A message is not settled yet exactly while it is queued. -/
  queued : ∀ m ∈ s.accepted, s.promiseOf m = some .pending ↔ m ∈ s.messageQueue
  closed : s.isClosed = true → ∀ m ∈ s.accepted, ∃ state, state ≠ .pending ∧
    s.promiseOf m = some state
  delivered : ∀ m ∈ s.accepted, s.promiseOf m = some .resolved → m ∈ s.handed
  running : s.isClosed = false → s.messageQueue ≠ [] → ∃ loop, s.loops = [loop]

theorem settled_of_queue_eq_nil (h : Core s) (hqueue : s.messageQueue = []) (hm : m ∈ s.accepted) :
    ∃ state, state ≠ .pending ∧ s.promiseOf m = some state := by
  have hlt := h.promise_lt hm
  have hget : s.promiseOf m = some s.promises[m.promise] := List.getElem?_eq_getElem hlt
  refine ⟨_, ?_, hget⟩
  intro hpending
  rw [hpending, h.pending m hm, hqueue] at hget
  simp at hget

theorem Inv.delivers (h : Inv s) : Delivers s := by
  obtain ⟨hcore, hphase⟩ := h
  refine ⟨hcore.offered, hcore.handed, hcore.nodup, hcore.pending, ?_, hcore.delivered, ?_⟩
  · intro hclosed m hm
    have hqueue : s.messageQueue = [] := by
      rcases hphase with hidle | hbusy | hclosed'
      · exact hidle.messageQueue
      · cases hbusy.isClosed.symm.trans hclosed
      · exact hclosed'.messageQueue
    exact settled_of_queue_eq_nil hcore hqueue hm
  · intro _ hne
    rcases hphase with hidle | hbusy | hclosed
    · exact absurd hidle.messageQueue hne
    · obtain ⟨item, write, -, -, hloops, -⟩ := hbusy.head
      exact ⟨_, hloops⟩
    · exact absurd hclosed.messageQueue hne

/-- **The outbound queue.**  However calls, drains, failures, timeouts and closing follow each
other: messages are given to the underlying stream in the order they were accepted, each at most
once; a message is unsettled exactly while it is queued, what is settled stays so, and nothing is
unsettled once the stream is closed; what is reported as delivered was taken; and while messages are
queued in an open stream, one loop runs.  As many writes as messages are queued settle all of them,
whatever the further calls of `send` do. -/
theorem outboundQueue_spec (peerIdStr : String) (opts : ReusableStreamOptions)
    {events : List Event} {s : ReusableStream}
    (hrun : runFrom step (create peerIdStr opts) events = some s) :
    Delivers s ∧
      (∀ (events' : List Event) (t : ReusableStream), runFrom step s events' = some t →
        Later s t) ∧
      ∀ answers : List SendOutcome, s.messageQueue.length ≤ answers.length →
        ∀ m ∈ s.accepted, ∃ state, state ≠ .pending ∧
          (answers.foldl completeWrite s).promiseOf m = some state := by
  obtain ⟨hinv, -⟩ := inv_run (inv_create peerIdStr opts) hrun
  refine ⟨hinv.delivers, fun events' t hrun' => (inv_run hinv hrun').2, ?_⟩
  intro answers hle m hm
  obtain ⟨hinv', hlater, hlength⟩ := completeWrites_spec hinv answers
  have hqueue : (answers.foldl completeWrite s).messageQueue = [] :=
    List.eq_nil_of_length_eq_zero (by omega)
  exact settled_of_queue_eq_nil hinv'.1 hqueue (hlater.accepted.subset hm)

/-- A message waits for a drain while a second one is queued, and the other side closes. -/
def closedWhileDraining : List Event :=
  [.sendMessage [1] ⟨false, none, true⟩, .sendMessage [2] ⟨false, none, false⟩, .closeEvent,
    .drained 0, .resumed 0 ⟨false, none, false⟩]

/-- The theorem at this run. -/
theorem outboundQueue_spec_closedWhileDraining :
    ∃ s, runFrom step (create "peer" ⟨30000, 100⟩) closedWhileDraining = some s ∧ Delivers s ∧
      s.isClosed = true ∧ s.handed = [⟨[1], 0⟩] :=
  ⟨_, rfl, (@outboundQueue_spec "peer" ⟨30000, 100⟩ closedWhileDraining _ rfl).1, rfl, rfl⟩

end ReusableStream

end OpnetNode
