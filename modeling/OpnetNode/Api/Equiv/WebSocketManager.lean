import OpnetNode.Api.Equiv.WebSocketConnection

/-!
# What a WebSocket client can rely on

Every client is dealt with alone (`connections_of_step`), so what the steps of a connection keep holds of
all of them in every run.
-/

namespace OpnetNode

namespace WebSocketManager

open Connection

variable {env : WebSocketEnvironment} {socket : ℕ → ℕ → SocketAnswer} {s s' : WebSocketManager}

/-! ### Every client is dealt with alone -/

variable {i : ℕ} {c' : Connection}

theorem onConnectionOf_eq_some {client : ℕ} {f : Connection → Option Connection}
    (hstep : s.onConnectionOf client f = some s')
    (hc' : s'.connections[i]? = some c') :
    ∃ c, s.connections[i]? = some c ∧ (c' = c ∨ i = client ∧ f c = some c') := by
  obtain ⟨c₁, hc₁, rfl⟩ := Option.map_eq_some_iff.mp hstep
  obtain ⟨c, hc, hf⟩ := Option.bind_eq_some_iff.mp hc₁
  by_cases hi : client = i
  · subst hi
    have hlength := (List.getElem?_eq_some_iff.mp hc).1
    rw [List.getElem?_set_self hlength] at hc'
    cases hc'
    exact ⟨c, hc, .inr ⟨rfl, hf⟩⟩
  · rw [List.getElem?_set_ne hi] at hc'
    exact ⟨c', hc', .inl rfl⟩

theorem notifyAll_step {type : SubscriptionType} {content : Bytes}
    (hc' : (s.notifyAll env socket type content).connections[i]? = some c') :
    ∃ c, s.connections[i]? = some c ∧ (c' = c ∨ Step env (socket i) s.now c c') := by
  unfold notifyAll at hc'
  split at hc'
  · exact ⟨c', hc', .inl rfl⟩
  · rw [List.getElem?_mapIdx] at hc'
    obtain ⟨c, hc, rfl⟩ := Option.map_eq_some_iff.mp hc'
    exact ⟨c, hc, .inr (.notified type content)⟩

variable {event : WebSocketEvent}

/-- Where the connection `i` is after a step: it is new, or it was there and has taken one step at
most. -/
theorem connections_of_step (hstep : s.step env socket event = some s')
    (hc' : s'.connections[i]? = some c') :
    (c' = .new ∧ s.connections[i]? = none) ∨
      ∃ c, s.connections[i]? = some c ∧ (c' = c ∨ Step env (socket i) s.now c c') := by
  cases event with
  | clock now =>
    cases hstep
    exact .inr ⟨c', hc', .inl rfl⟩
  | connection =>
    simp only [step] at hstep
    split at hstep
    · cases hstep
      exact .inr ⟨c', hc', .inl rfl⟩
    · cases hstep
      by_cases hi : i < s.connections.length
      · rw [List.getElem?_append_left hi] at hc'
        exact .inr ⟨c', hc', .inl rfl⟩
      · rw [List.getElem?_append_right (Nat.le_of_not_lt hi)] at hc'
        have hnew := List.mem_singleton.mp (List.mem_of_getElem? hc')
        exact .inl ⟨hnew, List.getElem?_eq_none (Nat.le_of_not_lt hi)⟩
  | message client message handler =>
    obtain ⟨c, hc, hcases⟩ := onConnectionOf_eq_some hstep hc'
    refine .inr ⟨c, hc, hcases.imp_right ?_⟩
    rintro ⟨rfl, hf⟩
    cases hf
    exact .message (processed_onMessage handler message)
  | settled client request answer =>
    obtain ⟨c, hc, hcases⟩ := onConnectionOf_eq_some hstep hc'
    refine .inr ⟨c, hc, hcases.imp_right ?_⟩
    rintro ⟨rfl, hf⟩
    split at hf
    · cases hf
      exact .settled ‹_› answer
    · cases hf
  | drain client =>
    obtain ⟨c, hc, hcases⟩ := onConnectionOf_eq_some hstep hc'
    refine .inr ⟨c, hc, hcases.imp_right ?_⟩
    rintro ⟨rfl, hf⟩
    cases hf
    exact .drained
  | closed client =>
    obtain ⟨c, hc, hcases⟩ := onConnectionOf_eq_some hstep hc'
    refine .inr ⟨c, hc, hcases.imp_right ?_⟩
    rintro ⟨rfl, hf⟩
    cases hf
    exact .closed
  | blockChange blockHeight content =>
    cases hstep
    exact .inr (notifyAll_step (s := { s with currentBlockHeight := blockHeight }) hc')
  | epochFinalized | mempoolTransaction =>
    cases hstep
    exact .inr (notifyAll_step hc')
  | shutdown =>
    cases hstep
    rw [List.getElem?_map] at hc'
    obtain ⟨c, hc, rfl⟩ := Option.map_eq_some_iff.mp hc'
    refine .inr ⟨c, hc, ?_⟩
    split
    · exact .inr .shut
    · exact .inl rfl

/-- The clock is set by its own event only. -/
theorem now_of_step (hstep : s.step env socket event = some s') :
    s'.now = s.now ∨ event = .clock s'.now := by
  have hone : ∀ {client : ℕ} {f : Connection → Option Connection},
      s.onConnectionOf client f = some s' → s'.now = s.now := by
    intro client f h
    obtain ⟨c, -, rfl⟩ := Option.map_eq_some_iff.mp h
    rfl
  have hall : ∀ (t : WebSocketManager) type content, (t.notifyAll env socket type content).now = t.now := by
    intro t type content
    unfold notifyAll
    split <;> rfl
  cases event with
  | clock now =>
    cases hstep
    exact .inr rfl
  | connection =>
    simp only [step] at hstep
    split at hstep <;>
    · cases hstep
      exact .inl rfl
  | message | settled | drain | closed => exact .inl (hone hstep)
  | blockChange | epochFinalized | mempoolTransaction =>
    cases hstep
    exact .inl (hall _ _ _)
  | shutdown =>
    cases hstep
    exact .inl rfl

variable {events : List WebSocketEvent} {t : WebSocketManager}

/-- **The rule for what all connections keep.** -/
theorem forall_connections_of_runFrom {ok : WebSocketManager → WebSocketEvent → Prop}
    {P : (ℕ → SocketAnswer) → ℕ → Connection → Prop} (hnew : ∀ socket now, P socket now .new)
    (hclock : ∀ s now, ok s (.clock now) → ∀ socket c, P socket s.now c → P socket now c)
    (hstep : ∀ socket now c c', P socket now c → Step env socket now c c' → P socket now c')
    (hmeets : Meets (WebSocketManager.step env socket) ok start events)
    (hrun : runFrom (WebSocketManager.step env socket) start events = some t) :
    ∀ i c, t.connections[i]? = some c → P (socket i) t.now c := by
  refine invariant_runFrom (P := fun s => ∀ i c, s.connections[i]? = some c → P (socket i) s.now c)
    ?_ events start t ?_ hmeets hrun
  · intro s event s' h hok hs' i c' hc'
    have hafter : P (socket i) s.now c' := by
      rcases connections_of_step hs' hc' with ⟨rfl, -⟩ | ⟨c, hc, rfl | hc⟩
      · exact hnew _ _
      · exact h i c' hc
      · exact hstep _ _ _ _ (h i c ‹_›) hc
    rcases now_of_step hs' with hnow | rfl
    · rw [hnow]
      exact hafter
    · exact hclock s s'.now hok _ _ hafter
  · intro i c hc
    cases hc

theorem forall_connections {P : (ℕ → SocketAnswer) → Connection → Prop} (hnew : ∀ socket, P socket .new)
    (hstep : ∀ socket now c c', Step env socket now c c' → P socket c → P socket c')
    (hrun : runFrom (WebSocketManager.step env socket) start events = some t) :
    ∀ i c, t.connections[i]? = some c → P (socket i) c :=
  forall_connections_of_runFrom (P := fun socket _ => P socket) (fun socket _ => hnew socket)
    (fun _ _ _ _ _ h => h) (fun socket now c c' h hs => hstep socket now c c' hs h)
    (meets_of_forall (fun _ _ _ => trivial) _) hrun

/-! ### The main results -/

/-- The clock does not go back. -/
def Forward (s : WebSocketManager) (event : WebSocketEvent) : Prop :=
  ∀ now, event = .clock now → s.now ≤ now

/-- **In any second no more requests pass than the limit says.** -/
theorem withinSecond_le_of_runFrom (env : WebSocketEnvironment) (socket : ℕ → ℕ → SocketAnswer)
    (events : List WebSocketEvent) (t : WebSocketManager)
    (hforward : Meets (WebSocketManager.step env socket) Forward start events)
    (hrun : runFrom (WebSocketManager.step env socket) start events = some t) (i : ℕ) (c : Connection)
    (hc : t.connections[i]? = some c) (time : ℕ) :
    (withinSecond time c.acceptedAt).length ≤ env.config.maxRequestsPerSecond := by
  have hrate := forall_connections_of_runFrom (P := fun _ now c => RateOf env now c)
    (fun _ now => rateInv_nil _ now) (fun s now hok _ c h => RateInv.mono h (hok now rfl))
    (fun _ now c c' h hs => hs.rate h) hforward hrun i c hc
  exact hrate.bounded time

/-- **A request passes after a handshake only**, and as many are pending as have a handler that is not
done. -/
theorem requests_of_runFrom (env : WebSocketEnvironment) (socket : ℕ → ℕ → SocketAnswer)
    (events : List WebSocketEvent) (t : WebSocketManager)
    (hrun : runFrom (WebSocketManager.step env socket) start events = some t) (i : ℕ) (c : Connection)
    (hc : t.connections[i]? = some c) :
    (c.acceptedAt ≠ [] → Shaken c.client) ∧ (c.client.state = .READY → Shaken c.client) ∧
      c.client.pendingRequests = c.running.length ∧ c.running.length ≤ env.config.maxPendingRequests := by
  have hnew : RequestsInv env 0 .new := by
    refine ⟨rfl, Nat.zero_le _, fun hready => ?_, fun _ => rfl⟩
    rcases hready with hready | hready
    · cases hready
    · exact absurd rfl hready
  have hinv := forall_connections (P := fun _ => RequestsInv env 0) (fun _ => hnew)
    (fun _ _ _ _ hs => hs.requests) hrun i c hc
  refine ⟨fun h => hinv.shaken (.inr h), fun h => hinv.shaken (.inl h), hinv.pending, ?_⟩
  have hbounded := hinv.bounded
  rw [hinv.pending] at hbounded
  exact hbounded

/-- **The messages leave in the order in which they were offered**, and those are lost whose calls of the
socket threw. -/
theorem fifo_of_runFrom (env : WebSocketEnvironment) (socket : ℕ → ℕ → SocketAnswer)
    (events : List WebSocketEvent) (t : WebSocketManager)
    (hrun : runFrom (WebSocketManager.step env socket) start events = some t) (i : ℕ) (c : Connection)
    (hc : t.connections[i]? = some c) :
    ((c.client.doneCalls (socket i)).map Prod.fst ++ c.client.messageQueue = c.client.offered) ∧
      c.client.socketTaken =
        ((c.client.doneCalls (socket i)).filter fun call => call.2 ≠ .threw).map Prod.fst ∧
      (c.client.isDraining = false → c.client.messageQueue = []) := by
  have hfifo := forall_connections (P := fun socket c => c.client.Fifo socket)
    (fun _ => WebSocketClient.fifo_new)
    (fun _ _ _ _ hs => hs.fifo) hrun i c hc
  refine ⟨hfifo.order, ?_, hfifo.draining⟩
  rw [hfifo.taken]
  congr 1
  apply List.filter_congr
  rintro ⟨data, answer⟩ hcall
  have hdone := (List.mem_filter.mp hcall).2
  cases answer with
  | taken | threw => rfl
  | full => cases hdone

/-- **No message is answered twice.** With an id, no more goes out than came in, but for what is
pushed. -/
theorem answers_of_runFrom (env : WebSocketEnvironment) (socket : ℕ → ℕ → SocketAnswer)
    (events : List WebSocketEvent) (t : WebSocketManager)
    (hrun : runFrom (WebSocketManager.step env socket) start events = some t) (i : ℕ) (c : Connection)
    (hc : t.connections[i]? = some c) (id : Bytes) (hid : id ≠ WebSocketClient.noId) :
    countId id c.client.offered + countRunning id c.running ≤ countId id c.received + countId id c.pushed :=
  forall_connections (P := fun _ => AnswersInv id 0) (fun _ => le_rfl)
    (fun _ _ _ _ hs h => hs.answers hid h) hrun i c hc

/-- **The subscriptions of a client**: none once it is closed, one of each type at most, under ids of
which none was given twice, and a notification is one packet at most. -/
theorem subscriptions_of_runFrom (env : WebSocketEnvironment) (socket : ℕ → ℕ → SocketAnswer)
    (events : List WebSocketEvent) (t : WebSocketManager)
    (hrun : runFrom (WebSocketManager.step env socket) start events = some t) (i : ℕ) (c : Connection)
    (hc : t.connections[i]? = some c) :
    SubscriptionsInv env.config c.client ∧ c.client.givenIds.Nodup ∧ ∀ type content,
      ∃ packets, (c.notify env (socket i) type content).pushed = c.pushed ++ packets ∧
        packets.length ≤ 1 ∧ (packets ≠ [] → c.client.hasSubscription type = true) := by
  have hinv := forall_connections (P := fun _ c => SubscriptionsInv env.config c.client)
    (fun _ => subscriptionsInv_new) (fun _ _ _ _ hs => hs.subscriptions) hrun i c hc
  have hgiven : c.client.givenIds.Nodup :=
    (List.pairwise_append.mp hinv.increasing).1.imp Nat.ne_of_lt
  refine ⟨hinv, hgiven, fun type content => ?_⟩
  obtain ⟨packets, hreplies, hlength⟩ := replies_notify env (socket i) type content c
  have hone : (c.client.subscriptions.vals.filter fun t => t = type).length ≤ 1 := by
    rw [← List.countP_eq_length_filter]
    exact List.nodup_iff_count_le_one.mp hinv.types type
  refine ⟨packets, by rw [hreplies.same], hlength.trans hone, fun hpackets => ?_⟩
  by_contra hnot
  have hnone : (c.client.subscriptions.vals.filter fun t => t = type) = [] := by
    rw [List.filter_eq_nil_iff]
    intro t ht htype
    exact hnot (List.any_eq_true.mpr ⟨t, ht, htype⟩)
  rw [hnone, List.length_nil, Nat.le_zero, List.length_eq_zero_iff] at hlength
  exact hpackets hlength

/-! #### A session -/

/-- At most one request is pending, two pass in a second, and a client has one subscription. -/
def oneAtATime : WebSocketEnvironment where
  config := ⟨1, 2, 1⟩
  MAX_CONNECTIONS := 1
  enabled := true
  pluginRegistry := false
  hasHandler := fun _ => true
  unpack := fun _ _ => true
  unsubscribeId := fun _ => 1
  unpackHandshake := fun _ => some ⟨1, "wallet", none⟩
  packHandshake := fun _ => some []
  packPong := fun payload _ => some payload
  packError := fun _ code _ => some [UInt8.ofNat code]
  packSubscription := fun _ => .ok []
  packNotification := fun _ content id => some (0xf8 :: UInt8.ofNat id :: content)

/-- The second call finds the socket full. -/
def fullOnce : ℕ → ℕ → SocketAnswer := fun _ n => if n = 1 then .full else .taken

/-- A handshake, a subscription to blocks, a block, a request that is let pass and one that is not, and
the end of the connection. -/
def session : List WebSocketEvent :=
  [.connection, .message 0 [0x01, 1, 0, 0, 0] none, .message 0 [0x70, 2, 0, 0, 0] none,
    .settled 0 ⟨2, 0xf0, some (.created 1 .BLOCKS)⟩ (.ok []), .blockChange 7 [9],
    .message 0 [0x10, 3, 0, 0, 0] none, .message 0 [0x10, 4, 0, 0, 0] none]

/-- How the session ends. -/
def SessionEnd (c : Connection) : Prop :=
  c.acceptedAt = [0, 0] ∧
    c.running = [⟨3, 0x90, none⟩] ∧
    c.client.socketTaken = [[0x82, 1, 0, 0, 0]] ∧
    c.client.messageQueue = [[0xf0, 2, 0, 0, 0], [0xf8, 1, 9], [0x80, 4, 0, 0, 0, 10]] ∧
    c.client.subscriptions.entries = [(1, .BLOCKS)]

instance (c : Connection) : Decidable (SessionEnd c) :=
  inferInstanceAs (Decidable (_ ∧ _ ∧ _ ∧ _ ∧ _))

theorem session_reaches :
    ∃ (t : WebSocketManager) (c : Connection),
      runFrom (WebSocketManager.step oneAtATime fullOnce) start session = some t ∧
      t.connections[0]? = some c ∧ SessionEnd c := by
  have hend : ((runFrom (WebSocketManager.step oneAtATime fullOnce) start session).bind
      fun t => t.connections[0]?).map (fun c => decide (SessionEnd c)) = some true := by
    decide +kernel
  obtain ⟨c, hc, hend⟩ := Option.map_eq_some_iff.mp hend
  obtain ⟨t, hrun, hc⟩ := Option.bind_eq_some_iff.mp hc
  exact ⟨t, c, hrun, hc, of_decide_eq_true hend⟩

theorem withinSecond_session :
    ∃ (t : WebSocketManager) (c : Connection),
      runFrom (WebSocketManager.step oneAtATime fullOnce) start session = some t ∧
      c.acceptedAt = [0, 0] ∧ ∀ time, (withinSecond time c.acceptedAt).length ≤ 2 := by
  obtain ⟨t, c, hrun, hc, hacceptedAt, -⟩ := session_reaches
  have hforward : Meets (WebSocketManager.step oneAtATime fullOnce) Forward start session := by
    refine meets_of_forall (fun event hevent s now hclock => ?_) _
    subst hclock
    simp [session] at hevent
  exact ⟨t, c, hrun, hacceptedAt,
    withinSecond_le_of_runFrom oneAtATime fullOnce session t hforward hrun 0 c hc⟩

theorem requests_session :
    ∃ (t : WebSocketManager) (c : Connection),
      runFrom (WebSocketManager.step oneAtATime fullOnce) start session = some t ∧
      c.running = [⟨3, 0x90, none⟩] ∧ c.client.pendingRequests = c.running.length ∧ Shaken c.client := by
  obtain ⟨t, c, hrun, hc, hacceptedAt, hrunning, -⟩ := session_reaches
  obtain ⟨hshaken, -, hpending, -⟩ := requests_of_runFrom oneAtATime fullOnce session t hrun 0 c hc
  exact ⟨t, c, hrun, hrunning, hpending, hshaken (by simp [hacceptedAt])⟩

theorem fifo_session :
    ∃ (t : WebSocketManager) (c : Connection),
      runFrom (WebSocketManager.step oneAtATime fullOnce) start session = some t ∧
      c.client.messageQueue.length = 3 ∧
      (c.client.doneCalls (fullOnce 0)).map Prod.fst ++ c.client.messageQueue = c.client.offered := by
  obtain ⟨t, c, hrun, hc, -, -, -, hqueue, -⟩ := session_reaches
  exact ⟨t, c, hrun, by rw [hqueue]; rfl,
    (fifo_of_runFrom oneAtATime fullOnce session t hrun 0 c hc).1⟩

theorem answers_session :
    ∃ (t : WebSocketManager) (c : Connection),
      runFrom (WebSocketManager.step oneAtATime fullOnce) start session = some t ∧
      c.running = [⟨3, 0x90, none⟩] ∧
      countId [3, 0, 0, 0] c.client.offered + countRunning [3, 0, 0, 0] c.running ≤
        countId [3, 0, 0, 0] c.received + countId [3, 0, 0, 0] c.pushed := by
  obtain ⟨t, c, hrun, hc, -, hrunning, -⟩ := session_reaches
  exact ⟨t, c, hrun, hrunning,
    answers_of_runFrom oneAtATime fullOnce session t hrun 0 c hc [3, 0, 0, 0] (by decide)⟩

theorem subscriptions_session :
    ∃ (t : WebSocketManager) (c : Connection),
      runFrom (WebSocketManager.step oneAtATime fullOnce) start session = some t ∧
      c.client.subscriptions.entries = [(1, .BLOCKS)] ∧ SubscriptionsInv ⟨1, 2, 1⟩ c.client := by
  obtain ⟨t, c, hrun, hc, -, -, -, -, hsubscriptions⟩ := session_reaches
  exact ⟨t, c, hrun, hsubscriptions,
    (subscriptions_of_runFrom oneAtATime fullOnce session t hrun 0 c hc).1⟩

end WebSocketManager

end OpnetNode
