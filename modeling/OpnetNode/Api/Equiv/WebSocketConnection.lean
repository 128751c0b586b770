import OpnetNode.Api.WebSocketManager
import OpnetNode.Transition

/-!
# What a WebSocket connection keeps

What each step of a connection keeps (`Connection.Step`):

* the messages leave in the order in which they were sent, none overtaking the queue, and only those
  are lost for which the socket threw (`Fifo`);
* in any second, no more requests pass than the limit says (`RateInv`), and as many are pending as have
  a handler that is not done (`RequestsInv`);
* requests pass after a handshake only, and no message of a client is answered twice (`AnswersInv`);
* a client has one subscription of each type at most, with an id that no other one is given
  (`SubscriptionsInv`).
-/

namespace OpnetNode

/-! ### At most so many in any second

The general fact: a list of times to which `now` is added where fewer than `limit` of its times are
within the last second has no second with more than `limit` of them. -/

section SlidingWindow

open WebSocketClient

/-- The times of the second that ends with `t`. -/
def withinSecond (t : ℕ) (times : List ℕ) : List ℕ := times.filter fun ts => t < ts + 1000 && ts ≤ t

/-- `kept` is what is remembered of `times`, all of which are past at `now`. -/
structure RateInv (limit now : ℕ) (kept times : List ℕ) : Prop where
  past : ∀ ts ∈ times, ts ≤ now
  recent : ∀ t, now ≤ t → recentTimestamps t kept = recentTimestamps t times
  bounded : ∀ t, (withinSecond t times).length ≤ limit

variable {limit now : ℕ} {kept times : List ℕ}

theorem rateInv_nil (limit now : ℕ) : RateInv limit now [] [] where
  past := by simp
  recent := fun _ _ => rfl
  bounded := fun _ => Nat.zero_le _

theorem RateInv.mono (h : RateInv limit now kept times) {now' : ℕ} (hnow : now ≤ now') :
    RateInv limit now' kept times where
  past := fun ts hts => (h.past ts hts).trans hnow
  recent := fun t ht => h.recent t (hnow.trans ht)
  bounded := h.bounded

theorem recentTimestamps_recentTimestamps {t : ℕ} (ht : now ≤ t) (l : List ℕ) :
    recentTimestamps t (recentTimestamps now l) = recentTimestamps t l := by
  unfold recentTimestamps
  rw [List.filter_filter]
  apply List.filter_congr
  intro ts _
  rw [Bool.and_eq_left_iff_imp, decide_eq_true_eq, decide_eq_true_eq]
  omega

theorem RateInv.forget (h : RateInv limit now kept times) :
    RateInv limit now (recentTimestamps now kept) times where
  past := h.past
  recent := fun t ht => by rw [recentTimestamps_recentTimestamps ht, h.recent t ht]
  bounded := h.bounded

theorem RateInv.accept (h : RateInv limit now kept times)
    (hroom : (recentTimestamps now kept).length < limit) :
    RateInv limit now (recentTimestamps now kept ++ [now]) (times ++ [now]) where
  past := by
    intro ts hts
    rcases List.mem_append.mp hts with hts | hts
    · exact h.past ts hts
    · exact (List.mem_singleton.mp hts).le
  recent := by
    intro t ht
    have happend : ∀ l : List ℕ,
        recentTimestamps t (l ++ [now]) = recentTimestamps t l ++ recentTimestamps t [now] :=
      fun l => List.filter_append l [now]
    rw [happend, happend, recentTimestamps_recentTimestamps ht, h.recent t ht]
  bounded := by
    intro t
    have happend : withinSecond t (times ++ [now]) = withinSecond t times ++ withinSecond t [now] :=
      List.filter_append times [now]
    rw [happend, List.length_append]
    by_cases hnow : t < now + 1000 ∧ now ≤ t
    · -- the second began before `now`, so what it has of the others is of the last second
      have hsub : (withinSecond t times).length ≤ (recentTimestamps now times).length := by
        refine (List.monotone_filter_right times fun ts hts => ?_).length_le
        rw [Bool.and_eq_true, decide_eq_true_eq, decide_eq_true_eq] at hts
        rw [decide_eq_true_eq]
        omega
      rw [← h.recent now le_rfl] at hsub
      have hone : (withinSecond t [now]).length ≤ 1 := List.length_filter_le _ _
      omega
    · have hnone : withinSecond t [now] = [] := by
        simp only [withinSecond, List.filter_cons, List.filter_nil, Bool.and_eq_true, decide_eq_true_eq,
          if_neg hnow]
      rw [hnone, List.length_nil, Nat.add_zero]
      exact h.bounded t

end SlidingWindow

/-! ### The queue -/

namespace WebSocketClient

/-- The calls of the socket after which a message is done with: it was taken, or the call threw. -/
def doneCalls (socket : ℕ → SocketAnswer) (s : WebSocketClient) : List (Bytes × SocketAnswer) :=
  (s.socketCalls.mapIdx fun n data => (data, socket n)).filter fun call => call.2 ≠ .full

/-- What is done with and what waits is what was offered, in this order, and the socket has taken all of
it but what its calls threw for. -/
structure Fifo (socket : ℕ → SocketAnswer) (s : WebSocketClient) : Prop where
  order : (s.doneCalls socket).map Prod.fst ++ s.messageQueue = s.offered
  taken : s.socketTaken =
    ((s.doneCalls socket).filter fun call => call.2 = .taken).map Prod.fst
  draining : s.isDraining = false → s.messageQueue = []

def withoutMessages (s : WebSocketClient) : WebSocketClient :=
  { s with messageQueue := [], isDraining := false, socketCalls := [], socketTaken := [], offered := [] }

variable {socket : ℕ → SocketAnswer} {s s' : WebSocketClient}

/-- A request that is not let pass changes nothing, but that old timestamps may be forgotten. -/
def Forgets (now : ℕ) (s s' : WebSocketClient) : Prop :=
  s' = s ∨ s' = { s with requestTimestamps := recentTimestamps now s.requestTimestamps }

theorem startRequest_cases (config : WebSocketClientConfig) (now : ℕ) (s : WebSocketClient) :
    (∃ c, s.Forgets now c ∧ s.startRequest config now = (false, c)) ∨
    (s.pendingRequests < config.maxPendingRequests ∧
      (recentTimestamps now s.requestTimestamps).length < config.maxRequestsPerSecond ∧
      s.startRequest config now =
        (true,
          { s with
            requestTimestamps := recentTimestamps now s.requestTimestamps ++ [now]
            pendingRequests := s.pendingRequests + 1 })) := by
  unfold startRequest checkRateLimit
  cases hactive : s.isActive with
  | false => exact .inl ⟨s, .inl rfl, rfl⟩
  | true =>
    by_cases hpending : config.maxPendingRequests ≤ s.pendingRequests
    · exact .inl ⟨s, .inl rfl, by simp [hpending]⟩
    · by_cases hrate : config.maxRequestsPerSecond ≤ (recentTimestamps now s.requestTimestamps).length
      · exact .inl ⟨_, .inr rfl, by simp [hpending, hrate]⟩
      · exact .inr ⟨by omega, by omega, by simp [hpending, hrate]⟩

theorem isHandshakeCompleted_iff : s.isHandshakeCompleted = true ↔ s.state = .READY :=
  decide_eq_true_iff

theorem fifo_new : new.Fifo socket := ⟨rfl, rfl, fun _ => rfl⟩

theorem doneCalls_socketSend (data : Bytes) (s : WebSocketClient) :
    (s.socketSend socket data).2.doneCalls socket = s.doneCalls socket ++
      if socket s.socketCalls.length = .full then []
      else [(data, socket s.socketCalls.length)] := by
  unfold doneCalls
  show (List.mapIdx _ (s.socketCalls ++ [data])).filter _ = _
  rw [List.mapIdx_concat, List.filter_append]
  by_cases hfull : socket s.socketCalls.length = .full <;> simp [hfull]

/-- `socketSend` keeps the record of what was taken. -/
theorem taken_socketSend (data : Bytes)
    (h : s.socketTaken = ((s.doneCalls socket).filter fun call => call.2 = .taken).map Prod.fst) :
    (s.socketSend socket data).2.socketTaken =
      (((s.socketSend socket data).2.doneCalls socket).filter fun call =>
        call.2 = .taken).map Prod.fst := by
  rw [doneCalls_socketSend, List.filter_append, List.map_append, ← h]
  unfold socketSend
  cases socket s.socketCalls.length <;> simp

/-- What `send` does to the messages: nothing, or the message is offered, to the queue, which the socket
may have been asked before, or for a call that is the end of it. -/
theorem send_cases (data : Bytes) (s : WebSocketClient) :
    s.send socket data = s ∨
    s.send socket data = s.enqueue data ∨
    (s.isDraining = false ∧ socket s.socketCalls.length = .full ∧
      s.send socket data = (s.socketSend socket data).2.enqueue data) ∨
    (s.isDraining = false ∧ socket s.socketCalls.length ≠ .full ∧ s.send socket data =
      { (s.socketSend socket data).2 with offered := s.offered ++ [data] }) := by
  unfold send
  split
  · exact .inl rfl
  · split
    · exact .inr (.inl rfl)
    · rename_i hdraining
      have hdraining' : s.isDraining = false := by simpa using hdraining
      cases hanswer : socket s.socketCalls.length with
      | taken | threw =>
        refine .inr (.inr (.inr ⟨hdraining', by simp, ?_⟩))
        simp [socketSend, hanswer]
      | full =>
        refine .inr (.inr (.inl ⟨hdraining', rfl, ?_⟩))
        simp [socketSend, hanswer]

theorem Fifo.send (h : s.Fifo socket) (data : Bytes) : (s.send socket data).Fifo socket := by
  rcases send_cases data s with hsend | hsend | ⟨-, hfull, hsend⟩ | ⟨hdraining, hdone, hsend⟩
  · rw [hsend]
    exact h
  · rw [hsend]
    refine ⟨?_, h.taken, nofun⟩
    show (s.doneCalls socket).map Prod.fst ++ (s.messageQueue ++ [data]) = s.offered ++ [data]
    rw [← List.append_assoc, h.order]
  · -- the call leaves the message to the queue
    rw [hsend]
    refine ⟨?_, taken_socketSend data h.taken, nofun⟩
    show ((s.socketSend socket data).2.doneCalls socket).map Prod.fst ++ (s.messageQueue ++ [data]) =
      s.offered ++ [data]
    rw [doneCalls_socketSend, if_pos hfull, List.append_nil,
      ← List.append_assoc, h.order]
  · -- nothing waits, so that the message is the last one offered and the last one done with
    have hqueue := h.draining hdraining
    have horder := h.order
    rw [hqueue, List.append_nil] at horder
    rw [hsend]
    refine ⟨?_, taken_socketSend data h.taken, fun _ => hqueue⟩
    show ((s.socketSend socket data).2.doneCalls socket).map Prod.fst ++ s.messageQueue =
      s.offered ++ [data]
    rw [doneCalls_socketSend, if_neg hdone, List.map_append, horder,
      hqueue, List.append_nil]
    rfl

@[simp] theorem withoutMessages_send (data : Bytes) (s : WebSocketClient) :
    (s.send socket data).withoutMessages = s.withoutMessages := by
  rcases send_cases data s with hsend | hsend | ⟨-, -, hsend⟩ | ⟨-, -, hsend⟩
  · rw [hsend]
  · rw [hsend]
    rfl
  · rw [hsend]
    rfl
  · rw [hsend]
    rfl

theorem offered_send (socket : ℕ → SocketAnswer) (data : Bytes) (s : WebSocketClient) :
    ∃ sent, sent.Sublist [data] ∧ (s.send socket data).offered = s.offered ++ sent := by
  rcases send_cases data s with hsend | hsend | ⟨-, -, hsend⟩ | ⟨-, -, hsend⟩
  · exact ⟨[], List.nil_sublist _, by rw [hsend, List.append_nil]⟩
  · exact ⟨[data], List.Sublist.refl _, by rw [hsend]; rfl⟩
  · exact ⟨[data], List.Sublist.refl _, by rw [hsend]; rfl⟩
  · exact ⟨[data], List.Sublist.refl _, by rw [hsend]⟩

theorem flush_cons (socket : ℕ → SocketAnswer) (data : Bytes) (rest : List Bytes)
    (s : WebSocketClient) :
    s.flush socket (data :: rest) =
      if socket s.socketCalls.length = .full then
        { (s.socketSend socket data).2 with messageQueue := data :: rest, isDraining := true }
      else (s.socketSend socket data).2.flush socket rest := by
  rw [flush]
  cases hanswer : socket s.socketCalls.length <;> simp [socketSend, hanswer]

/-- **The loop of `onDrain`** sends from the front of the queue. -/
theorem flush_spec (socket : ℕ → SocketAnswer) (queue : List Bytes) (s : WebSocketClient)
    (hdraining : s.isDraining = false)
    (htaken : s.socketTaken =
      ((s.doneCalls socket).filter fun call => call.2 = .taken).map Prod.fst) :
    ((s.flush socket queue).doneCalls socket).map Prod.fst ++ (s.flush socket queue).messageQueue =
        (s.doneCalls socket).map Prod.fst ++ queue ∧
      (s.flush socket queue).socketTaken = (((s.flush socket queue).doneCalls socket).filter fun call =>
        call.2 = .taken).map Prod.fst ∧
      ((s.flush socket queue).isDraining = false → (s.flush socket queue).messageQueue = []) := by
  induction queue generalizing s with
  | nil => exact ⟨rfl, htaken, fun _ => rfl⟩
  | cons data rest ih =>
    have hcalls : (s.socketSend socket data).2.doneCalls socket = _ := doneCalls_socketSend data s
    have htaken' := taken_socketSend data htaken
    by_cases hfull : socket s.socketCalls.length = .full
    · -- the message is put back to the front
      rw [if_pos hfull, List.append_nil] at hcalls
      rw [flush_cons, if_pos hfull]
      refine ⟨?_, htaken', nofun⟩
      show ((s.socketSend socket data).2.doneCalls socket).map Prod.fst ++ _ = _
      rw [hcalls]
    · obtain ⟨horder, htaken'', hend⟩ := ih (s.socketSend socket data).2 hdraining htaken'
      rw [flush_cons, if_neg hfull, horder, hcalls, if_neg hfull, List.map_append, List.append_assoc]
      exact ⟨rfl, htaken'', hend⟩

theorem flush_frame (socket : ℕ → SocketAnswer) (queue : List Bytes) (s : WebSocketClient) :
    (s.flush socket queue).withoutMessages = s.withoutMessages ∧
      (s.flush socket queue).offered = s.offered := by
  induction queue generalizing s with
  | nil => exact ⟨rfl, rfl⟩
  | cons data rest ih =>
    rw [flush_cons]
    split
    · exact ⟨rfl, rfl⟩
    · exact ih (s.socketSend socket data).2

theorem Fifo.onDrain (h : s.Fifo socket) : (s.onDrain socket).Fifo socket := by
  obtain ⟨horder, htaken, hend⟩ :=
    flush_spec socket s.messageQueue { s with isDraining := false } rfl h.taken
  obtain ⟨-, hoffered⟩ := flush_frame socket s.messageQueue { s with isDraining := false }
  refine ⟨?_, htaken, hend⟩
  unfold WebSocketClient.onDrain
  rw [hoffered, horder]
  exact h.order

theorem Fifo.congr (h : s.Fifo socket) (hcalls : s'.socketCalls = s.socketCalls)
    (htaken : s'.socketTaken = s.socketTaken) (hqueue : s'.messageQueue = s.messageQueue)
    (hdraining : s'.isDraining = s.isDraining) (hoffered : s'.offered = s.offered) :
    s'.Fifo socket := by
  have hdone : s'.doneCalls socket = s.doneCalls socket := by
    unfold doneCalls
    rw [hcalls]
  refine ⟨?_, ?_, fun hnot => ?_⟩
  · rw [hdone, hqueue, hoffered]
    exact h.order
  · rw [htaken, hdone]
    exact h.taken
  · rw [hqueue]
    exact h.draining (hdraining ▸ hnot)

/-! ### Request ids -/

/-- The four bytes after the opcode. -/
def idBytes (message : Bytes) : Bytes := (message.drop 1).take 4

/-- The id that is used where there is none. -/
def noId : Bytes := [0, 0, 0, 0]

theorem lt_eight_cases {i : ℕ} (hi : i < 8) :
    i = 0 ∨ i = 1 ∨ i = 2 ∨ i = 3 ∨ i = 4 ∨ i = 5 ∨ i = 6 ∨ i = 7 := by omega

/-- **An id is read and written alike.** -/
theorem requestIdBytes_requestIdOf (b₀ b₁ b₂ b₃ : UInt8) :
    requestIdBytes (Connection.requestIdOf b₀ b₁ b₂ b₃) = [b₀, b₁, b₂, b₃] := by
  have hbyte : ∀ (n : BitVec 32) (b : UInt8),
      (∀ i < 8, (n &&& 0xff#32).getLsbD i = b.toBitVec.getLsbD i) → byteOf n = b := by
    intro n b h
    apply UInt8.eq_of_toBitVec_eq
    apply BitVec.eq_of_getLsbD_eq
    intro i hi
    rw [byteOf, BitVec.getLsbD_setWidth, h i hi]
    simp [hi]
  unfold requestIdBytes
  rw [hbyte _ b₀, hbyte _ b₁, hbyte _ b₂, hbyte _ b₃]
  all_goals
    intro i hi
    rcases lt_eight_cases hi with rfl | rfl | rfl | rfl | rfl | rfl | rfl | rfl <;>
      simp [Connection.requestIdOf, BitVec.getElem_sshiftRight]

end WebSocketClient

/-! ### What a connection does with a message -/

namespace Connection

open WebSocketClient WebSocketOpcode WebSocketErrorCode

variable {env : WebSocketEnvironment} {socket : ℕ → SocketAnswer} {s s' s'' : Connection}

/-- `s'` is `s` after messages, at most one for each of the ids, and perhaps the end of the
connection. -/
structure Replies (socket : ℕ → SocketAnswer) (ids : List Bytes) (s s' : Connection) : Prop where
  same : s' = { s with client := s'.client }
  client : s'.client.withoutMessages = s.client.withoutMessages ∨
    ∃ code, s'.client.withoutMessages =
      { s.client.withoutMessages with
        state := .CLOSED
        subscriptions := JsMap.empty
        socketClosed := some code }
  sent : ∃ sent, s'.client.offered = s.client.offered ++ sent ∧ (sent.map idBytes).Sublist ids
  fifo : s.client.Fifo socket → s'.client.Fifo socket

variable {ids : List Bytes}

theorem Replies.view (h : Replies socket ids s s') {α : Type}
    (f : WebSocketClient → α) (hf : ∀ c, f c.withoutMessages = f c)
    (hclosed : ∀ c : WebSocketClient, ∀ code,
      f { c with state := .CLOSED, subscriptions := JsMap.empty, socketClosed := some code } = f c) :
    f s'.client = f s.client := by
  rw [← hf s'.client, ← hf s.client]
  rcases h.client with hclient | ⟨code, hclient⟩
  · rw [hclient]
  · rw [hclient, hclosed]

theorem Replies.state (h : Replies socket ids s s') :
    (s'.client.state = s.client.state ∧ s'.client.subscriptions = s.client.subscriptions) ∨
      s'.client.state = .CLOSED ∧ s'.client.subscriptions = JsMap.empty := by
  rcases h.client with hclient | ⟨code, hclient⟩
  · have hstate := congrArg WebSocketClient.state hclient
    have hsubscriptions := congrArg WebSocketClient.subscriptions hclient
    exact .inl ⟨hstate, hsubscriptions⟩
  · have hstate := congrArg WebSocketClient.state hclient
    have hsubscriptions := congrArg WebSocketClient.subscriptions hclient
    exact .inr ⟨hstate, hsubscriptions⟩

theorem Replies.isActive (h : Replies socket ids s s')
    (hinactive : s.client.isActive = false) : s'.client.isActive = false := by
  unfold WebSocketClient.isActive at hinactive ⊢
  rcases h.state with ⟨hstate, -⟩ | ⟨hstate, -⟩
  · rw [hstate]
    exact hinactive
  · rw [hstate]
    rfl

theorem Replies.refl (ids : List Bytes) (s : Connection) : Replies socket ids s s where
  same := rfl
  client := .inl rfl
  sent := ⟨[], (List.append_nil _).symm, List.nil_sublist _⟩
  fifo := id

theorem Replies.trans {ids' : List Bytes} (h : Replies socket ids s s')
    (h' : Replies socket ids' s' s'') : Replies socket (ids ++ ids') s s'' where
  same := by
    have hsame := h'.same
    rw [h.same] at hsame
    exact hsame
  client := by
    rcases h'.client with hclient' | ⟨code, hclient'⟩
    · rw [hclient']
      exact h.client
    · refine .inr ⟨code, ?_⟩
      rcases h.client with hclient | ⟨code', hclient⟩
      · rw [hclient', hclient]
      · rw [hclient', hclient]
  sent := by
    obtain ⟨sent, hsent, hids⟩ := h.sent
    obtain ⟨sent', hsent', hids'⟩ := h'.sent
    refine ⟨sent ++ sent', by rw [hsent', hsent, List.append_assoc], ?_⟩
    rw [List.map_append]
    exact hids.append hids'
  fifo := fun hfifo => h'.fifo (h.fifo hfifo)

theorem replies_send (data : Bytes) (s : Connection) :
    Replies socket [idBytes data] s (s.send socket data) where
  same := rfl
  client := .inl (withoutMessages_send data s.client)
  sent := by
    obtain ⟨sent, hsub, hoffered⟩ := offered_send socket data s.client
    exact ⟨sent, hoffered, hsub.map idBytes⟩
  fifo := fun h => h.send data

theorem replies_sendResponse (opcode : ℕ) (requestId : BitVec 32) (payload : Bytes) (s : Connection) :
    Replies socket [requestIdBytes requestId] s
      (s.onClient (sendResponse socket opcode requestId payload)) :=
  replies_send (UInt8.ofNat opcode :: requestIdBytes requestId ++ payload) s

theorem replies_sendWithId (opcode opcode' b₀ b₁ b₂ b₃ : UInt8) (payload packedPayload : Bytes)
    (s : Connection) :
    Replies socket [idBytes (opcode :: b₀ :: b₁ :: b₂ :: b₃ :: payload)] s
      (s.send socket (opcode' :: [b₀, b₁, b₂, b₃] ++ packedPayload)) :=
  replies_send (opcode' :: [b₀, b₁, b₂, b₃] ++ packedPayload) s

theorem replies_close (socket : ℕ → SocketAnswer) (code : ℕ) (s : Connection) :
    Replies socket [] s (s.close code) := by
  unfold Connection.close onClient WebSocketClient.close
  split
  · exact Replies.refl [] s
  · refine ⟨rfl, .inr ⟨code, rfl⟩, ⟨[], (List.append_nil _).symm, List.nil_sublist _⟩, fun h => ?_⟩
    exact h.congr rfl rfl rfl rfl rfl

theorem replies_sendError (requestId : BitVec 32) (code : WebSocketErrorCode) (message : Option String)
    (s : Connection) :
    Replies socket [requestIdBytes requestId] s (s.sendError env socket requestId code message) := by
  unfold sendError
  split
  · exact Replies.refl _ s
  · exact replies_sendResponse ERROR requestId _ s

theorem replies_closeAfter (code : WebSocketErrorCode) (message : Option String) (s : Connection) :
    Replies socket [noId] s (s.closeAfter env socket code message) :=
  (replies_sendError 0 code message s).trans (replies_close socket 1002 _)

theorem replies_closeWithError (code : WebSocketErrorCode) (s : Connection) :
    Replies socket [noId] s (s.closeWithError env socket code) := by
  unfold closeWithError
  split
  · exact Replies.refl _ s
  · exact (replies_sendError 0 code none s).trans (replies_close socket _ _)

theorem replies_handleError (requestId : BitVec 32) (error : HandlerError) (s : Connection) :
    Replies socket [requestIdBytes requestId] s (s.handleError env socket requestId error) := by
  have hfailed : Replies socket [requestIdBytes requestId] s
      (s.sendError env socket requestId (errorOf error).1 (some (errorOf error).2)) :=
    replies_sendError requestId _ _ s
  unfold handleError
  split
  · exact hfailed.trans (replies_close socket 1008 _)
  · exact hfailed

theorem replies_onDrain (s : Connection) :
    Replies socket [] s (s.onClient (WebSocketClient.onDrain socket)) := by
  obtain ⟨hsame, hoffered⟩ :=
    flush_frame socket s.client.messageQueue { s.client with isDraining := false }
  refine ⟨rfl, .inl hsame, ⟨[], ?_, List.nil_sublist _⟩, fun h => h.onDrain⟩
  rw [List.append_nil]
  exact hoffered

/-! #### A handler -/

/-- What a handler may do to the subscriptions before its first `await`. -/
inductive Subscribes (config : WebSocketClientConfig) (s : WebSocketClient) : WebSocketClient → Prop where
  | unchanged : Subscribes config s s
  | added {type id client} (hnew : s.hasSubscription type = false)
    (hadd : s.addSubscription config type = (some id, client)) : Subscribes config s client
  | removed (id : ℕ) : Subscribes config s (s.removeSubscription id)

variable {config : WebSocketClientConfig} {c c' : WebSocketClient}

/-- Where `addSubscription` gives an id. -/
theorem addSubscription_eq_some {type : SubscriptionType} {id : ℕ}
    (h : c.addSubscription config type = (some id, c')) :
    c.subscriptions.size < config.maxSubscriptions ∧
      c' =
        { c with
          nextSubscriptionId := c.nextSubscriptionId + 1
          subscriptions := c.subscriptions.set c.nextSubscriptionId type
          givenIds := c.givenIds ++ [c.nextSubscriptionId] } := by
  unfold addSubscription at h
  split at h
  · cases h
  · exact ⟨Nat.lt_of_not_le ‹_›, (Prod.mk.inj h).2.symm⟩

theorem Subscribes.fifo
    (hsubscribes : Subscribes config c c') (h : c.Fifo socket) : c'.Fifo socket := by
  cases hsubscribes with
  | unchanged => exact h
  | added hnew hadd =>
    obtain ⟨-, rfl⟩ := addSubscription_eq_some hadd
    exact h.congr rfl rfl rfl rfl rfl
  | removed id => exact h.congr rfl rfl rfl rfl rfl

/-- A handler up to its first `await`: it has thrown, or it is awaited. -/
inductive Ran (env : WebSocketEnvironment) (socket : ℕ → SocketAnswer) (requestId : BitVec 32)
    (s : Connection) : Connection → Prop where
  | failed {t} (h : Replies socket [requestIdBytes requestId] s t) :
    Ran env socket requestId s t.endRequest
  | awaited {client responseOpcode response} (h : Subscribes env.config s.client client) :
    Ran env socket requestId s ({ s with client }.await requestId responseOpcode response)

theorem ran_subscribe (type : SubscriptionType) (requestId : BitVec 32) (responseOpcode : ℕ)
    (s : Connection) : Ran env socket requestId s (s.subscribe env socket type requestId responseOpcode) := by
  unfold subscribe
  split
  · exact .failed (replies_handleError requestId _ s)
  · split
    · exact .failed (replies_handleError requestId _ s)
    · rename_i hnew
      split
      · exact .failed (replies_handleError requestId _ s)
      · rename_i hadd
        exact .awaited (.added (by simpa using hnew) hadd)

theorem ran_unsubscribe (subscriptionId : ℕ) (requestId : BitVec 32) (responseOpcode : ℕ)
    (s : Connection) :
    Ran env socket requestId s (s.unsubscribe env socket subscriptionId requestId responseOpcode) := by
  unfold unsubscribe
  split
  · exact .failed (replies_handleError requestId _ s)
  · split
    · exact .failed (replies_handleError requestId _ s)
    · exact .awaited (.removed subscriptionId)

theorem ran_runHandler (registration : OpcodeRegistration) (payload : Bytes) (requestId : BitVec 32)
    (s : Connection) :
    Ran env socket requestId s (s.runHandler env socket registration payload requestId) := by
  unfold runHandler
  split_ifs
  · exact .failed (replies_sendError requestId NOT_IMPLEMENTED none s)
  · exact ran_subscribe .BLOCKS requestId _ s
  · exact ran_subscribe .EPOCHS requestId _ s
  · exact ran_subscribe .MEMPOOL requestId _ s
  · exact ran_unsubscribe _ requestId _ s
  · exact .awaited .unchanged

/-! #### A message -/

def receive (message : Bytes) (s : Connection) : Connection :=
  { s with received := s.received ++ [message] }

/-- The connection when a request is let pass. -/
def accepted (now : ℕ) (message : Bytes) (s : Connection) : Connection :=
  { s.receive message with
    client :=
      { s.client with
        requestTimestamps := recentTimestamps now s.client.requestTimestamps ++ [now]
        pendingRequests := s.client.pendingRequests + 1 }
    acceptedAt := s.acceptedAt ++ [now] }

/-- **What a message does.** -/
inductive Processed (env : WebSocketEnvironment) (socket : ℕ → SocketAnswer) (now : ℕ) (message : Bytes)
    (s : Connection) : Connection → Prop where
  | ignored (hinactive : s.client.isActive = false) : Processed env socket now message s s
  | replied {id c t} (hactive : s.client.isActive = true) (hid : id = noId ∨ id = idBytes message)
    (hc : s.client.Forgets now c) (h : Replies socket [id] { s.receive message with client := c } t) :
    Processed env socket now message s t
  | shaken {id data t} (hid : id = noId ∨ id = idBytes message) (hstate : s.client.state = .CONNECTED)
    (hvalid : validateHandshake data = none)
    (h : Replies socket [id] ((s.receive message).onClient (completeHandshake data.protocolVersion
      data.clientName (data.clientVersion.getD "0.0.0"))) t) :
    Processed env socket now message s t
  | ran {requestId t} (hready : s.client.state = .READY)
    (hid : requestIdBytes requestId = idBytes message)
    (hpending : s.client.pendingRequests < env.config.maxPendingRequests)
    (hrate : (recentTimestamps now s.client.requestTimestamps).length < env.config.maxRequestsPerSecond)
    (h : Ran env socket requestId (s.accepted now message) t) :
    Processed env socket now message s t

section

variable {now currentBlockHeight : ℕ} {opcode : UInt8} {payload : Bytes}

theorem processed_handleRequest (hready : s.client.state = .READY) {decodes : Bytes → Bool}
    {run : BitVec 32 → Bytes → Connection → Connection}
    (hrun : ∀ requestId protobufPayload s,
      Ran env socket requestId s (run requestId protobufPayload s)) :
    Processed env socket now (opcode :: payload) s
      ((s.receive (opcode :: payload)).handleRequest env socket now decodes run payload) := by
  have hactive : s.client.isActive = true := by
    unfold isActive
    rw [hready]
    rfl
  unfold handleRequest
  split
  · rename_i b₀ b₁ b₂ b₃ protobufPayload
    have hid : requestIdBytes (requestIdOf b₀ b₁ b₂ b₃) =
        idBytes (opcode :: b₀ :: b₁ :: b₂ :: b₃ :: protobufPayload) :=
      requestIdBytes_requestIdOf b₀ b₁ b₂ b₃
    simp only []
    split
    · refine .replied hactive (.inr rfl) (.inl rfl) ?_
      rw [← hid]
      exact replies_sendError _ _ _ _
    · unfold Connection.startRequest
      rcases startRequest_cases env.config now s.client with ⟨c, hc, hstart⟩ | ⟨hpending, hrate, hstart⟩
      · simp only [receive, hstart]
        refine .replied hactive (.inr rfl) hc ?_
        rw [← hid]
        exact replies_sendError _ _ _ _
      · simp only [receive, hstart]
        exact .ran hready hid hpending hrate (hrun _ _ _)
  · exact .replied hactive (.inl rfl) (.inl rfl) (replies_sendError 0 MALFORMED_MESSAGE none _)

theorem processed_handlePing (hactive : s.client.isActive = true) :
    Processed env socket now (opcode :: payload) s
      ((s.receive (opcode :: payload)).handlePing env socket now payload) := by
  unfold handlePing
  split
  · split
    · exact .replied hactive (.inl rfl) (.inl rfl) (Replies.refl _ _)
    · exact .replied hactive (.inr rfl) (.inl rfl) (replies_sendWithId _ _ _ _ _ _ _ _ _)
  · exact .replied hactive (.inl rfl) (.inl rfl) (Replies.refl _ _)

theorem processed_handleHandshake (hactive : s.client.isActive = true) :
    Processed env socket now (opcode :: payload) s
      ((s.receive (opcode :: payload)).handleHandshake env socket currentBlockHeight payload) := by
  have hdone : Replies socket [noId] (s.receive (opcode :: payload))
      ((s.receive (opcode :: payload)).sendError env socket 0 HANDSHAKE_ALREADY_COMPLETED none) :=
    replies_sendError 0 _ none _
  unfold handleHandshake
  split
  · split
    · exact .replied hactive (.inl rfl) (.inl rfl) hdone
    · rename_i hnotReady
      have hstate : s.client.state = .CONNECTED := by
        have hnot : s.client.state ≠ .READY := fun hready =>
          hnotReady (isHandshakeCompleted_iff.mpr hready)
        simpa [isActive, hnot] using hactive
      split
      · exact .replied hactive (.inl rfl) (.inl rfl) (replies_closeWithError _ _)
      · split
        · exact .replied hactive (.inl rfl) (.inl rfl) (replies_closeAfter _ _ _)
        · rename_i hvalid
          simp only []
          split
          · exact .shaken (.inl rfl) hstate hvalid (replies_closeWithError _ _)
          · exact .shaken (.inr rfl) hstate hvalid (replies_sendWithId _ _ _ _ _ _ _ _ _)
  · split
    · exact .replied hactive (.inl rfl) (.inl rfl) hdone
    · exact .replied hactive (.inl rfl) (.inl rfl) (replies_closeWithError _ _)

theorem processed_handlePluginOpcode (hactive : s.client.isActive = true) (handler : Option (ℕ × Bool)) :
    Processed env socket now (opcode :: payload) s
      ((s.receive (opcode :: payload)).handlePluginOpcode env socket now handler payload) := by
  unfold handlePluginOpcode
  split
  · exact .replied hactive (.inl rfl) (.inl rfl) (replies_closeAfter _ _ _)
  · rename_i hready
    split
    · exact .replied hactive (.inl rfl) (.inl rfl) (replies_closeWithError _ _)
    · have hstate : s.client.state = .READY := by
        rw [Bool.not_eq_true, Bool.not_eq_false'] at hready
        exact isHandshakeCompleted_iff.mp hready
      refine processed_handleRequest hstate ?_
      exact fun _ _ _ => .awaited .unchanged

theorem requiresHandshake_of_mem {registration : OpcodeRegistration}
    (h : registration ∈ requestHandlers) :
    registration.opcode = PING ∨ registration.opcode = HANDSHAKE ∨
      registration.requiresHandshake = true := by
  revert registration
  decide

theorem processed_onMessage (handler : Option (ℕ × Bool)) (message : Bytes) :
    Processed env socket now message s
      (s.onMessage env socket now currentBlockHeight handler message) := by
  unfold onMessage
  split
  · rename_i hinactive
    exact .ignored (by simpa using hinactive)
  · rename_i hnot
    have hactive : s.client.isActive = true := by simpa using hnot
    unfold processMessage
    split
    · exact .replied hactive (.inl rfl) (.inl rfl) (replies_closeWithError _ _)
    · split
      · exact processed_handlePluginOpcode hactive handler
      · split
        · exact .replied hactive (.inl rfl) (.inl rfl) (replies_closeWithError _ _)
        · rename_i registration hregistration
          obtain ⟨hopcode, hmem⟩ : registration.opcode = _ ∧ registration ∈ requestHandlers := by
            have hfound := List.find?_eq_some_iff_append.mp hregistration
            exact ⟨by simpa using hfound.1, List.mem_of_find?_eq_some hregistration⟩
          split
          · exact .replied hactive (.inl rfl) (.inl rfl) (replies_closeAfter _ _ _)
          · rename_i hallowed
            split
            · exact processed_handlePing hactive
            · rename_i hping
              split
              · exact processed_handleHandshake hactive
              · rename_i hhandshake
                refine processed_handleRequest ?_ fun requestId _ s => ran_runHandler _ _ requestId s
                rcases requiresHandshake_of_mem hmem with h | h | h
                · exact absurd (hopcode.symm.trans h) hping
                · exact absurd (hopcode.symm.trans h) hhandshake
                · rw [h, Bool.true_and, Bool.not_eq_true, Bool.not_eq_false'] at hallowed
                  exact isHandshakeCompleted_iff.mp hallowed

end

/-! #### A notification -/

variable {ids : List Bytes}

theorem Replies.push (h : Replies socket ids s s') (packets : List Bytes) :
    Replies socket ids { s with pushed := s.pushed ++ packets }
      { s' with pushed := s'.pushed ++ packets } := by
  refine ⟨?_, h.client, h.sent, h.fifo⟩
  rw [h.same]

theorem replies_push_nil (s : Connection) : Replies socket [] { s with pushed := s.pushed ++ [] } s := by
  rw [List.append_nil]
  exact Replies.refl [] s

theorem replies_notifySubscription (type : SubscriptionType) (content : Bytes) (s : Connection)
    (subscription : ℕ × SubscriptionType) :
    ∃ packets, Replies socket (packets.map idBytes) { s with pushed := s.pushed ++ packets }
        (s.notifySubscription env socket type content subscription) ∧
      packets.length ≤ ([subscription].filter fun e => e.2 = type).length := by
  unfold notifySubscription
  split
  · rename_i htype
    split
    · exact ⟨[], replies_push_nil s, Nat.zero_le _⟩
    · rename_i packed _
      refine ⟨[packed], replies_send packed { s with pushed := s.pushed ++ [packed] }, ?_⟩
      simp [htype]
  · exact ⟨[], replies_push_nil s, Nat.zero_le _⟩

/-- **A notification** is a packet for each subscription of the type at most. -/
theorem replies_notify (env : WebSocketEnvironment) (socket : ℕ → SocketAnswer)
    (type : SubscriptionType) (content : Bytes) (s : Connection) :
    ∃ packets, Replies socket (packets.map idBytes) { s with pushed := s.pushed ++ packets }
        (s.notify env socket type content) ∧
      packets.length ≤ (s.client.subscriptions.vals.filter fun t => t = type).length := by
  have hfold : ∀ (l : List (ℕ × SubscriptionType)) (s : Connection), ∃ packets,
      Replies socket (packets.map idBytes) { s with pushed := s.pushed ++ packets }
        (l.foldl (notifySubscription env socket type content) s) ∧
        packets.length ≤ (l.filter fun e => e.2 = type).length := by
    intro l
    induction l with
    | nil => exact fun s => ⟨[], replies_push_nil s, Nat.zero_le _⟩
    | cons subscription l ih =>
      intro s
      obtain ⟨packets, hfirst, hone⟩ := replies_notifySubscription type content s subscription
      obtain ⟨packets', hrest, hlength⟩ := ih (s.notifySubscription env socket type content subscription)
      refine ⟨packets ++ packets', ?_, ?_⟩
      · rw [List.map_append, ← List.append_assoc]
        exact (hfirst.push packets').trans hrest
      · rw [List.length_append, ← List.singleton_append, List.filter_append, List.length_append]
        omega
  unfold notify
  split
  · obtain ⟨packets, hreplies, hlength⟩ := hfold s.client.subscriptions.entries s
    refine ⟨packets, hreplies, ?_⟩
    rw [JsMap.vals, List.filter_map, List.length_map]
    exact hlength
  · exact ⟨[], replies_push_nil s, Nat.zero_le _⟩

/-! ### The steps of a connection -/

inductive Step (env : WebSocketEnvironment) (socket : ℕ → SocketAnswer) (now : ℕ) (s : Connection) :
    Connection → Prop where
  | message {message t} (h : Processed env socket now message s t) : Step env socket now s t
  | settled {request} (hrequest : request ∈ s.running) (answer : Except HandlerError Bytes) :
    Step env socket now s (s.settle env socket request answer)
  | drained : Step env socket now s (s.onClient (WebSocketClient.onDrain socket))
  | closed : Step env socket now s { s.onClient WebSocketClient.markClosed with registered := false }
  | notified (type : SubscriptionType) (content : Bytes) :
    Step env socket now s (s.notify env socket type content)
  | shut : Step env socket now s { s.close 1001 with registered := false }

theorem replies_settle (env : WebSocketEnvironment) (socket : ℕ → SocketAnswer)
    (request : RunningRequest) (answer : Except HandlerError Bytes) (s : Connection) :
    ∃ t, Replies socket [requestIdBytes request.requestId] s t ∧
      s.settle env socket request answer =
        { t with running := s.running.erase request }.endRequest := by
  unfold settle
  split
  · exact ⟨_, replies_sendResponse _ _ _ s, rfl⟩
  · exact ⟨_, replies_handleError _ _ s, rfl⟩

/-! ### Requests -/

/-- A handshake was completed, with valid data. -/
def Shaken (c : WebSocketClient) : Prop :=
  MIN_PROTOCOL_VERSION ≤ c.protocolVersion ∧ c.protocolVersion ≤ MAX_PROTOCOL_VERSION ∧
    c.clientName ≠ "" ∧ utf16Length c.clientName ≤ 64

/-- `extra` requests have passed that are neither running nor at their end. -/
structure RequestsInv (env : WebSocketEnvironment) (extra : ℕ) (s : Connection) : Prop where
  pending : s.client.pendingRequests = s.running.length + extra
  bounded : s.client.pendingRequests ≤ env.config.maxPendingRequests
  shaken : s.client.state = .READY ∨ s.acceptedAt ≠ [] → Shaken s.client
  registered : s.client.isActive = true → s.registered = true

theorem isActive_iff {c : WebSocketClient} : c.isActive = true ↔ c.state = .CONNECTED ∨ c.state = .READY := by
  simp [isActive]

theorem shaken_of_valid {data : HandshakeData} (h : validateHandshake data = none)
    (c : WebSocketClient) (version : String) :
    Shaken (c.completeHandshake data.protocolVersion data.clientName version) := by
  unfold validateHandshake at h
  split at h
  · cases h
  · split at h
    · cases h
    · rename_i hversion hname
      simp only [Bool.or_eq_true, decide_eq_true_eq, not_or, Nat.not_lt] at hversion hname
      exact ⟨hversion.1, hversion.2, hname.1, hname.2⟩

theorem isActive_close (code : ℕ) (c : WebSocketClient) : (c.close code).isActive = false := by
  unfold WebSocketClient.close
  split
  · rename_i hclosed
    rw [Bool.or_eq_true, decide_eq_true_eq, decide_eq_true_eq] at hclosed
    rcases hclosed with hstate | hstate
    · simp [isActive, hstate]
    · simp [isActive, hstate]
  · rfl

variable {extra : ℕ}

theorem RequestsInv.replies (h : RequestsInv env extra s)
    (hreplies : Replies socket ids s s') : RequestsInv env extra s' := by
  have hpending : s'.client.pendingRequests = s.client.pendingRequests :=
    hreplies.view WebSocketClient.pendingRequests (fun _ => rfl) fun _ _ => rfl
  have hshaken : Shaken s'.client = Shaken s.client := hreplies.view Shaken (fun _ => rfl) fun _ _ => rfl
  have hacceptedAt : s'.acceptedAt = s.acceptedAt := by rw [hreplies.same]
  have hrunning : s'.running = s.running := by rw [hreplies.same]
  have hregistered : s'.registered = s.registered := by rw [hreplies.same]
  refine ⟨?_, ?_, ?_, ?_⟩
  · rw [hpending, hrunning]
    exact h.pending
  · rw [hpending]
    exact h.bounded
  · rw [hshaken, hacceptedAt]
    refine fun hready => h.shaken (hready.imp_left fun hready => ?_)
    rcases hreplies.state with ⟨hstate, -⟩ | ⟨hstate, -⟩
    · exact hstate.symm.trans hready
    · cases hstate.symm.trans hready
  · intro hactive
    rw [hregistered]
    refine h.registered ?_
    by_contra hnot
    rw [hreplies.isActive (Bool.eq_false_iff.mpr hnot)] at hactive
    cases hactive

theorem RequestsInv.endRequest (h : RequestsInv env (extra + 1) s) :
    RequestsInv env extra s.endRequest where
  pending := by
    have hpending := h.pending
    show s.client.pendingRequests - 1 = s.running.length + extra
    omega
  bounded := (Nat.sub_le _ _).trans h.bounded
  shaken := h.shaken
  registered := h.registered

variable {now : ℕ}

theorem RequestsInv.accepted {message : Bytes} (h : RequestsInv env 0 s)
    (hready : s.client.state = .READY)
    (hpending : s.client.pendingRequests < env.config.maxPendingRequests) :
    RequestsInv env 1 (s.accepted now message) where
  pending := congrArg Nat.succ h.pending
  bounded := hpending
  shaken := fun _ => h.shaken (.inl hready)
  registered := h.registered

variable {requestId : BitVec 32}

theorem RequestsInv.ran (h : RequestsInv env 1 s)
    (hran : Ran env socket requestId s s') : RequestsInv env 0 s' := by
  cases hran with
  | failed hreplies => exact (h.replies hreplies).endRequest
  | awaited hsubscribes =>
    have hrunning : ∀ request, s.client.pendingRequests = (s.running ++ [request]).length + 0 := by
      intro request
      rw [List.length_append]
      exact h.pending
    cases hsubscribes with
    | unchanged | removed => exact ⟨hrunning _, h.bounded, h.shaken, h.registered⟩
    | added hnew hadd =>
      obtain ⟨-, rfl⟩ := addSubscription_eq_some hadd
      exact ⟨hrunning _, h.bounded, h.shaken, h.registered⟩

/-- **What a step keeps of the requests.** -/
theorem Step.requests (hstep : Step env socket now s s') (h : RequestsInv env 0 s) :
    RequestsInv env 0 s' := by
  cases hstep with
  | message hprocessed =>
    cases hprocessed with
    | ignored _ => exact h
    | replied _ _ hc hreplies =>
      refine RequestsInv.replies ?_ hreplies
      rcases hc with rfl | rfl
      · exact ⟨h.pending, h.bounded, h.shaken, h.registered⟩
      · exact ⟨h.pending, h.bounded, h.shaken, h.registered⟩
    | shaken _ hstate hvalid hreplies =>
      refine RequestsInv.replies ?_ hreplies
      refine ⟨h.pending, h.bounded, fun _ => shaken_of_valid hvalid s.client _, fun _ => ?_⟩
      exact h.registered (isActive_iff.mpr (.inl hstate))
    | ran hready _ hpending _ hran => exact (h.accepted hready hpending).ran hran
  | settled hrequest answer =>
    obtain ⟨t, hreplies, hsettle⟩ := replies_settle env socket _ answer s
    have ht := h.replies hreplies
    have hrunning : t.running = s.running := by rw [hreplies.same]
    have hpending := ht.pending
    have hlength := List.length_erase_of_mem hrequest
    have hpos := List.length_pos_of_mem hrequest
    rw [hsettle]
    refine RequestsInv.endRequest ⟨?_, ht.bounded, ht.shaken, ht.registered⟩
    show t.client.pendingRequests = (s.running.erase _).length + (0 + 1)
    rw [hrunning] at hpending
    omega
  | drained => exact h.replies (replies_onDrain s)
  | closed =>
    refine ⟨h.pending, h.bounded, fun hready => h.shaken (.inr (hready.resolve_left ?_)), ?_⟩
    · simp [onClient, markClosed]
    · simp [onClient, markClosed, isActive]
  | notified type content =>
    obtain ⟨packets, hreplies, -⟩ := replies_notify env socket type content s
    refine RequestsInv.replies ?_ hreplies
    exact ⟨h.pending, h.bounded, h.shaken, h.registered⟩
  | shut =>
    have hclosed := h.replies (replies_close socket 1001 s)
    refine ⟨hclosed.pending, hclosed.bounded, hclosed.shaken, fun hactive => ?_⟩
    have hinactive : (s.close 1001).client.isActive = false := isActive_close 1001 s.client
    cases hinactive.symm.trans hactive

/-! ### The messages of a connection leave in order -/

theorem Step.fifo (hstep : Step env socket now s s') (h : s.client.Fifo socket) :
    s'.client.Fifo socket := by
  cases hstep with
  | @message message _ hprocessed =>
    cases hprocessed with
    | ignored _ => exact h
    | replied _ _ hc hreplies =>
      rcases hc with rfl | rfl
      · exact hreplies.fifo h
      · exact hreplies.fifo (h.congr rfl rfl rfl rfl rfl)
    | shaken _ _ _ hreplies => exact hreplies.fifo (h.congr rfl rfl rfl rfl rfl)
    | ran _ _ _ _ hran =>
      have haccepted : (s.accepted now message).client.Fifo socket := h.congr rfl rfl rfl rfl rfl
      cases hran with
      | failed hreplies => exact (hreplies.fifo haccepted).congr rfl rfl rfl rfl rfl
      | awaited hsubscribes => exact hsubscribes.fifo haccepted
  | settled hrequest answer =>
    obtain ⟨t, hreplies, hsettle⟩ := replies_settle env socket _ answer s
    rw [hsettle]
    exact (hreplies.fifo h).congr rfl rfl rfl rfl rfl
  | drained => exact h.onDrain
  | closed => exact h.congr rfl rfl rfl rfl rfl
  | notified type content =>
    obtain ⟨packets, hreplies, -⟩ := replies_notify env socket type content s
    exact hreplies.fifo h
  | shut => exact (replies_close socket 1001 s).fifo h

/-! ### The rate -/

/-- The limit holds of the requests that have passed. -/
def RateOf (env : WebSocketEnvironment) (now : ℕ) (s : Connection) : Prop :=
  RateInv env.config.maxRequestsPerSecond now s.client.requestTimestamps s.acceptedAt

theorem RateOf.congr (h : RateOf env now s)
    (htimestamps : s'.client.requestTimestamps = s.client.requestTimestamps)
    (hacceptedAt : s'.acceptedAt = s.acceptedAt) : RateOf env now s' := by
  unfold RateOf
  rw [htimestamps, hacceptedAt]
  exact h

theorem RateOf.replies (h : RateOf env now s)
    (hreplies : Replies socket ids s s') : RateOf env now s' := by
  refine h.congr (hreplies.view WebSocketClient.requestTimestamps (fun _ => rfl) fun _ _ => rfl) ?_
  rw [hreplies.same]

theorem RateOf.ran (h : RateOf env now s)
    (hran : Ran env socket requestId s s') : RateOf env now s' := by
  cases hran with
  | failed hreplies =>
    have ht := h.replies hreplies
    exact ht
  | awaited hsubscribes =>
    cases hsubscribes with
    | unchanged | removed => exact h
    | added hnew hadd =>
      obtain ⟨-, rfl⟩ := addSubscription_eq_some hadd
      exact h

/-- **What a step keeps of the rate.** -/
theorem Step.rate (hstep : Step env socket now s s') (h : RateOf env now s) :
    RateOf env now s' := by
  cases hstep with
  | message hprocessed =>
    cases hprocessed with
    | ignored _ => exact h
    | replied _ _ hc hreplies =>
      refine RateOf.replies ?_ hreplies
      rcases hc with rfl | rfl
      · exact h
      · exact RateInv.forget h
    | shaken _ _ _ hreplies =>
      exact RateOf.replies (s := (s.receive _).onClient (completeHandshake _ _ _)) h hreplies
    | ran _ _ _ hrate hran =>
      refine RateOf.ran ?_ hran
      exact RateInv.accept h hrate
  | settled _ answer =>
    obtain ⟨t, hreplies, hsettle⟩ := replies_settle env socket _ answer s
    rw [hsettle]
    exact (h.replies hreplies).congr rfl rfl
  | drained => exact h.replies (replies_onDrain s)
  | closed => exact h.congr rfl rfl
  | notified type content =>
    obtain ⟨packets, hreplies, -⟩ := replies_notify env socket type content s
    exact RateOf.replies (s := { s with pushed := s.pushed ++ packets }) h hreplies
  | shut => exact (h.replies (replies_close socket 1001 s)).congr rfl rfl

/-! ### The answers -/

def countId (id : Bytes) (messages : List Bytes) : ℕ := (messages.map idBytes).count id

def countRunning (id : Bytes) (running : List RunningRequest) : ℕ :=
  (running.map fun request => requestIdBytes request.requestId).count id

/-- No more messages with the id are offered, or to come from the running requests and `extra` others,
than were received with it, and pushed. -/
def AnswersInv (id : Bytes) (extra : ℕ) (s : Connection) : Prop :=
  countId id s.client.offered + countRunning id s.running + extra ≤
    countId id s.received + countId id s.pushed

variable {id : Bytes}

theorem countId_append (l l' : List Bytes) : countId id (l ++ l') = countId id l + countId id l' := by
  rw [countId, List.map_append, List.count_append]
  rfl

theorem countRunning_erase (id : Bytes) {request : RunningRequest} {l : List RunningRequest}
    (h : request ∈ l) :
    countRunning id l = [requestIdBytes request.requestId].count id + countRunning id (l.erase request) := by
  have hperm := (List.perm_cons_erase h).map fun request => requestIdBytes request.requestId
  rw [countRunning, hperm.count_eq, List.map_cons, ← List.singleton_append, List.count_append]
  rfl

theorem AnswersInv.replies {n : ℕ} (h : AnswersInv id (ids.count id + n) s)
    (hreplies : Replies socket ids s s') : AnswersInv id n s' := by
  obtain ⟨sent, hsent, hsub⟩ := hreplies.sent
  have hcount : countId id sent ≤ ids.count id := hsub.count_le id
  have hrunning : s'.running = s.running := by rw [hreplies.same]
  have hreceived : s'.received = s.received := by rw [hreplies.same]
  have hpushed : s'.pushed = s.pushed := by rw [hreplies.same]
  unfold AnswersInv at h ⊢
  rw [hsent, countId_append, hrunning, hreceived, hpushed]
  omega

theorem AnswersInv.receive (h : AnswersInv id 0 s) (message : Bytes) :
    AnswersInv id ([idBytes message].count id) (s.receive message) := by
  unfold AnswersInv at h ⊢
  show countId id s.client.offered + countRunning id s.running + [idBytes message].count id ≤
    countId id (s.received ++ [message]) + countId id s.pushed
  rw [countId_append]
  show _ ≤ countId id s.received + [idBytes message].count id + countId id s.pushed
  omega

theorem AnswersInv.ran (h : AnswersInv id ([requestIdBytes requestId].count id) s)
    (hran : Ran env socket requestId s s') : AnswersInv id 0 s' := by
  cases hran with
  | failed hreplies =>
    have ht : AnswersInv id 0 _ := AnswersInv.replies h hreplies
    exact ht
  | awaited hsubscribes =>
    have hoffered : ∀ c, Subscribes env.config s.client c → c.offered = s.client.offered := by
      intro c hc
      cases hc with
      | unchanged | removed => rfl
      | added hnew hadd =>
        obtain ⟨-, rfl⟩ := addSubscription_eq_some hadd
        rfl
    unfold AnswersInv at h ⊢
    unfold await
    simp only [hoffered _ hsubscribes, countRunning, List.map_append, List.count_append, List.map_cons,
      List.map_nil] at h ⊢
    omega

/-- **What a step keeps of the answers.** -/
theorem Step.answers (hid : id ≠ noId) (hstep : Step env socket now s s')
    (h : AnswersInv id 0 s) : AnswersInv id 0 s' := by
  cases hstep with
  | message hprocessed =>
    -- an answer without an id is none with `id`
    have hspent : ∀ {id' message : Bytes} {t t'}, id' = noId ∨ id' = idBytes message →
        AnswersInv id ([idBytes message].count id) t → Replies socket [id'] t t' →
        AnswersInv id 0 t' := by
      intro id' message t t' hid' ht hreplies
      rcases hid' with rfl | rfl
      · refine AnswersInv.replies (n := 0) ?_ hreplies
        unfold AnswersInv at ht ⊢
        rw [List.count_singleton, if_neg (by simpa using hid.symm)]
        omega
      · exact ht.replies hreplies
    cases hprocessed with
    | ignored _ => exact h
    | replied _ hid' hc hreplies =>
      refine hspent hid' ?_ hreplies
      rcases hc with rfl | rfl
      · exact h.receive _
      · exact h.receive _
    | shaken hid' _ _ hreplies =>
      refine hspent hid' ?_ hreplies
      exact h.receive _
    | ran _ hid' _ _ hran =>
      refine AnswersInv.ran ?_ hran
      rw [hid']
      exact h.receive _
  | @settled request hrequest answer =>
    obtain ⟨t, hreplies, hsettle⟩ := replies_settle env socket request answer s
    have hrunning := countRunning_erase id hrequest
    -- the request that is no longer running pays for its answer
    have hpaid : AnswersInv id 0 { t with running := s.running.erase request } := by
      have hreplies' : Replies socket _ { s with running := s.running.erase request }
          { t with running := s.running.erase request } :=
        ⟨by rw [hreplies.same], hreplies.client, hreplies.sent, hreplies.fifo⟩
      refine AnswersInv.replies ?_ hreplies'
      unfold AnswersInv at h ⊢
      show countId id s.client.offered + countRunning id (s.running.erase request) + _ ≤
        countId id s.received + countId id s.pushed
      omega
    rw [hsettle]
    exact hpaid
  | drained => exact AnswersInv.replies (by simpa using h) (replies_onDrain s)
  | closed => exact h
  | notified type content =>
    obtain ⟨packets, hreplies, -⟩ := replies_notify env socket type content s
    refine AnswersInv.replies (n := 0) ?_ hreplies
    have hpushed : countId id (s.pushed ++ packets) =
        countId id s.pushed + (packets.map idBytes).count id := countId_append _ _
    unfold AnswersInv at h ⊢
    simp only [hpushed]
    omega
  | shut =>
    have hclosed : AnswersInv id 0 (s.close 1001) :=
      AnswersInv.replies (by simpa using h) (replies_close socket 1001 s)
    exact hclosed

/-! ### The subscriptions -/

/-- The ids that were given increase, up to the next one. -/
structure SubscriptionsInv (config : WebSocketClientConfig) (c : WebSocketClient) : Prop where
  ended : c.isActive = false → c.subscriptions = JsMap.empty
  bounded : c.subscriptions.size ≤ config.maxSubscriptions
  types : c.subscriptions.vals.Nodup
  held : ∀ id ∈ c.subscriptions.keys, id ∈ c.givenIds
  increasing : (c.givenIds ++ [c.nextSubscriptionId]).Pairwise (· < ·)

variable {config : WebSocketClientConfig} {c c' : WebSocketClient}

theorem subscriptionsInv_new : SubscriptionsInv config .new where
  ended := fun _ => rfl
  bounded := Nat.zero_le _
  types := List.nodup_nil
  held := fun _ hid => nomatch hid
  increasing := List.pairwise_singleton _ _

theorem SubscriptionsInv.emptied (h : SubscriptionsInv config c)
    (hsubscriptions : c'.subscriptions = JsMap.empty) (hgiven : c'.givenIds = c.givenIds)
    (hnext : c'.nextSubscriptionId = c.nextSubscriptionId) : SubscriptionsInv config c' := by
  refine ⟨fun _ => hsubscriptions, ?_, ?_, ?_, ?_⟩
  · rw [hsubscriptions]
    exact Nat.zero_le _
  · rw [hsubscriptions]
    exact List.nodup_nil
  · rw [hsubscriptions]
    exact fun id hid => nomatch hid
  · rw [hgiven, hnext]
    exact h.increasing

theorem SubscriptionsInv.congr (h : SubscriptionsInv config c)
    (hsubscriptions : c'.subscriptions = c.subscriptions)
    (hgiven : c'.givenIds = c.givenIds) (hnext : c'.nextSubscriptionId = c.nextSubscriptionId)
    (hactive : c'.isActive = false → c.isActive = false) : SubscriptionsInv config c' := by
  refine ⟨fun hinactive => ?_, ?_, ?_, ?_, ?_⟩
  · rw [hsubscriptions]
    exact h.ended (hactive hinactive)
  · rw [hsubscriptions]
    exact h.bounded
  · rw [hsubscriptions]
    exact h.types
  · rw [hsubscriptions, hgiven]
    exact h.held
  · rw [hgiven, hnext]
    exact h.increasing

theorem SubscriptionsInv.replies (h : SubscriptionsInv config s.client)
    (hreplies : Replies socket ids s s') : SubscriptionsInv config s'.client := by
  have hgiven := hreplies.view WebSocketClient.givenIds (fun _ => rfl) fun _ _ => rfl
  have hnext := hreplies.view WebSocketClient.nextSubscriptionId (fun _ => rfl) fun _ _ => rfl
  rcases hreplies.state with ⟨hstate, hsubscriptions⟩ | ⟨-, hsubscriptions⟩
  · refine h.congr hsubscriptions hgiven hnext fun hinactive => ?_
    unfold WebSocketClient.isActive at hinactive ⊢
    rw [← hstate]
    exact hinactive
  · exact h.emptied hsubscriptions hgiven hnext

/-- **What a handler keeps of the subscriptions.** -/
theorem SubscriptionsInv.subscribes (h : SubscriptionsInv config c) (hactive : c.isActive = true)
    (hsubscribes : Subscribes config c c') : SubscriptionsInv config c' := by
  cases hsubscribes with
  | unchanged => exact h
  | @added type id _ hnew hadd =>
    obtain ⟨hroom, rfl⟩ := addSubscription_eq_some hadd
    have hbelow : ∀ id ∈ c.givenIds, id < c.nextSubscriptionId := fun id hid =>
      (List.pairwise_append.mp h.increasing).2.2 id hid _ List.mem_cons_self
    have hnotMem : c.nextSubscriptionId ∉ c.subscriptions.keys := fun hmem =>
      Nat.lt_irrefl _ (hbelow _ (h.held _ hmem))
    have hnot : c.subscriptions.has c.nextSubscriptionId = false := by
      rw [JsMap.mem_keys_iff] at hnotMem
      exact Bool.eq_false_iff.mpr hnotMem
    refine ⟨fun hinactive => ?_, ?_, ?_, ?_, ?_⟩
    · have hstill : c.isActive = false := hinactive
      cases hstill.symm.trans hactive
    · exact (JsMap.size_set_le _ _ _).trans hroom
    · have hvals : (c.subscriptions.set c.nextSubscriptionId type).vals = c.subscriptions.vals ++ [type] :=
        JsMap.vals_set_of_not_has type hnot
      show (c.subscriptions.set c.nextSubscriptionId type).vals.Nodup
      rw [hvals]
      refine List.nodup_append.mpr ⟨h.types, List.nodup_singleton type, fun t ht t' ht' => ?_⟩
      rintro rfl
      obtain rfl := List.mem_singleton.mp ht'
      have hany := List.any_eq_false.mp hnew _ ht
      simp at hany
    · intro id hid
      rw [JsMap.keys_set, if_neg hnotMem] at hid
      rcases List.mem_append.mp hid with hid | hid
      · exact List.mem_append_left _ (h.held id hid)
      · exact List.mem_append_right _ hid
    · refine List.pairwise_append.mpr ⟨h.increasing, List.pairwise_singleton _ _, ?_⟩
      intro id hid next hnext
      obtain rfl := List.mem_singleton.mp hnext
      rcases List.mem_append.mp hid with hid | hid
      · exact Nat.lt_succ_of_lt (hbelow id hid)
      · rw [List.mem_singleton.mp hid]
        exact Nat.lt_succ_self _
  | removed id =>
    refine ⟨fun hinactive => ?_, ?_, ?_, ?_, h.increasing⟩
    · have hstill : c.isActive = false := hinactive
      cases hstill.symm.trans hactive
    · exact (List.length_filter_le _ _).trans h.bounded
    · exact h.types.sublist (List.filter_sublist.map Prod.snd)
    · intro id' hid'
      have hkeys : id' ∈ c.subscriptions.keys.filter fun k => k ≠ id := by
        rw [← JsMap.keys_erase]
        exact hid'
      exact h.held id' (List.mem_filter.mp hkeys).1

theorem Step.subscriptions (hstep : Step env socket now s s')
    (h : SubscriptionsInv env.config s.client) : SubscriptionsInv env.config s'.client := by
  cases hstep with
  | @message message _ hprocessed =>
    cases hprocessed with
    | ignored _ => exact h
    | replied _ _ hc hreplies =>
      refine SubscriptionsInv.replies ?_ hreplies
      rcases hc with rfl | rfl
      · exact h
      · exact h.congr rfl rfl rfl id
    | shaken _ hstate _ hreplies =>
      refine SubscriptionsInv.replies ?_ hreplies
      refine h.congr rfl rfl rfl fun hinactive => ?_
      cases hinactive
    | ran hready _ _ _ hran =>
      have haccepted : SubscriptionsInv env.config (s.accepted now message).client := h.congr rfl rfl rfl id
      cases hran with
      | failed hreplies => exact (haccepted.replies hreplies).congr rfl rfl rfl id
      | awaited hsubscribes => exact haccepted.subscribes (isActive_iff.mpr (.inr hready)) hsubscribes
  | settled hrequest answer =>
    obtain ⟨t, hreplies, hsettle⟩ := replies_settle env socket _ answer s
    rw [hsettle]
    exact (h.replies hreplies).congr rfl rfl rfl id
  | drained => exact h.replies (replies_onDrain s)
  | closed => exact h.emptied rfl rfl rfl
  | notified type content =>
    obtain ⟨packets, hreplies, -⟩ := replies_notify env socket type content s
    exact SubscriptionsInv.replies (s := { s with pushed := s.pushed ++ packets }) h hreplies
  | shut =>
    have hclosed := h.replies (replies_close socket 1001 s)
    exact hclosed

end Connection

end OpnetNode
