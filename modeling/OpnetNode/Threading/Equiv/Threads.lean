import OpnetNode.Threading.Equiv.Thread

/-!
# What a caller can rely on

Each port is given once, and what comes in at it is what was posted at the other end (`NodeInv`). So, in
every run, whatever the order of the events:

* `answer_of_runFrom`: an answer is what was returned for the very message that it answers.
* `pending_of_runFrom`: what is pending can still be settled.
* `unlinked_of_runFrom`: a thread that died is neither asked nor waited for.
-/

namespace OpnetNode

variable {δ : Type}

namespace Threads

open Thread

variable {env : ℕ → Environment δ} {s s' : Threads δ}

/-- The callers ask by messages that have no task id and are no answers. -/
def Asked (_ : Threads δ) : ThreadEvent δ → Prop
  | .sendMessageToThread _ _ m _ => Asks m
  | .sendMessageToAllThreads _ _ m => Asks m
  | _ => True

/-- The ports that a thread has or is to be given. -/
def portsOf (s : Threads δ) (i : ℕ) : List MessagePort :=
  (s.threads[i]?).elim [] Thread.listening ++
    (s.links.filter fun e => e.1 = i).map fun e => e.2.port

/-- Each port is given once, to its owner, and what comes in at it is what was posted at the other end,
in the same order. -/
structure NodeInv (env : ℕ → Environment δ) (s : Threads δ) : Prop where
  threads : ∀ (i : ℕ) (t : Thread δ), s.threads[i]? = some t → Inv (env i) t
  nodup : ∀ i, (s.portsOf i).Nodup
  owner : ∀ i, ∀ port ∈ s.portsOf i, s.owner port = some i
  received : ∀ (i : ℕ) (t : Thread δ), s.threads[i]? = some t → ∀ e ∈ t.received, s.owner e.1 = some i
  fifo : ∀ (i : ℕ) (t : Thread δ) (port : MessagePort), s.threads[i]? = some t →
    messagesOf port t.received <+: s.postedTo port

theorem nodeInv_start (env : ℕ → Environment δ) : NodeInv env (start : Threads δ) where
  threads := by simp [start]
  nodup := by simp [start, portsOf]
  owner := by simp [start, portsOf]
  received := by simp [start]
  fifo := by simp [start]

theorem onThread_eq_some {i : ℕ} {f : Thread δ → Option (Thread δ)} :
    s.onThread i f = some s' ↔
      ∃ t t', s.threads[i]? = some t ∧ f t = some t' ∧ s' = { s with threads := s.threads.set i t' } := by
  unfold onThread
  simp only [Option.map_eq_some_iff, Option.bind_eq_some_iff]
  constructor
  · rintro ⟨t', ⟨t, ht, ht'⟩, rfl⟩
    exact ⟨t, t', ht, ht', rfl⟩
  · rintro ⟨t, t', ht, ht', rfl⟩
    exact ⟨t', ⟨t, ht, ht'⟩, rfl⟩

theorem getElem?_set_thread {i : ℕ} {t : Thread δ} (t' : Thread δ) (ht : s.threads[i]? = some t) (j : ℕ) :
    (s.threads.set i t')[j]? = if j = i then some t' else s.threads[j]? := by
  rw [List.getElem?_set]
  by_cases h : j = i
  · subst h
    simp [(List.getElem?_eq_some_iff.mp ht).1]
  · rw [if_neg (Ne.symm h), if_neg h]

theorem portsOf_set_thread {i : ℕ} {t t' : Thread δ} (ht : s.threads[i]? = some t)
    (hlistening : t'.listening = t.listening) (k : ℕ) :
    (portsOf { s with threads := s.threads.set i t' } k).Subperm (s.portsOf k) := by
  unfold portsOf
  rw [getElem?_set_thread t' ht]
  by_cases hk : k = i
  · subst hk
    simp only [if_true, ht, Option.elim_some, hlistening]
    exact (List.Sublist.refl _).subperm
  · simp only [hk, if_false]
    exact (List.Sublist.refl _).subperm

theorem NodeInv.portsOf_link (hs : NodeInv env s) {i : ℕ} {data : LinkData} {t : Thread δ}
    (hlink : (i, data) ∈ s.links) (ht : s.threads[i]? = some t) :
    data.port ∉ t.listening ∧ ∀ k, (portsOf
      { s with
        links := s.links.erase (i, data)
        threads := s.threads.set i (t.createInternalThreadLink data) } k).Subperm (s.portsOf k) := by
  have hperm : ∀ k, ((s.links.filter fun e => e.1 = k).map fun e => e.2.port).Perm
      ((if i = k then [data.port] else []) ++
        ((s.links.erase (i, data)).filter fun e => e.1 = k).map fun e => e.2.port) := by
    intro k
    have h := ((List.perm_cons_erase hlink).filter fun e => e.1 = k).map fun e => e.2.port
    by_cases hk : i = k <;> simpa [List.filter_cons, hk] using h
  refine ⟨fun hmem => ?_, fun k => ?_⟩
  · have h := ((hperm i).append_left ((s.threads[i]?).elim [] Thread.listening)).nodup_iff.mp (hs.nodup i)
    simp only [ht, Option.elim_some, if_true] at h
    exact (List.nodup_append.mp h).2.2 _ hmem _ (by simp) rfl
  · unfold portsOf
    rw [getElem?_set_thread _ ht]
    refine List.Subperm.trans ?_ ((hperm k).append_left _).symm.subperm
    by_cases hk : k = i
    · subst hk
      simp only [if_true, ht, Option.elim_some]
      rw [← List.append_assoc]
      rcases listening_createInternalThreadLink data t with h | h
      · rw [h]
        exact ((List.sublist_append_left _ _).append_right _).subperm
      · rw [h]
    · simp only [hk, Ne.symm hk, if_false, List.nil_append]
      exact (List.Sublist.refl _).subperm

/-- What an event does: a thread is made, a link is, or a thread takes a step by which it may receive
its next message. -/
inductive Steps [DecidableEq δ] (env : ℕ → Environment δ) (s : Threads δ) : Threads δ → Prop where
  | createThread (threadType : ThreadTypes) :
      Steps env s { s with threads := s.threads ++ [.new threadType] }
  | createLink (i j : ℕ) (data data' : LinkData) (hne : i ≠ j)
      (hport : data.port = ⟨s.channels.length, .RX⟩) (hport' : data'.port = ⟨s.channels.length, .TX⟩) :
      Steps env s { s with channels := s.channels ++ [(i, j)], links := s.links ++ [(i, data), (j, data')] }
  | thread (i : ℕ) (links : List (ℕ × LinkData)) (t t' : Thread δ) (ht : s.threads[i]? = some t)
      (hstep : Thread.Step (env i) t t') (hposts : t.posts <+: t'.posts)
      (hports : ∀ k, (portsOf { s with links := links, threads := s.threads.set i t' } k).Subperm
        (s.portsOf k))
      (hreceived : t'.received = t.received ∨
        ∃ port m, port ∈ t.listening ∧ s.nextMessage port t = some m ∧
          t'.received = t.received ++ [(port, m)]) :
      Steps env s { s with links := links, threads := s.threads.set i t' }

theorem steps_of_step [DecidableEq δ] (hs : NodeInv env s) {e : ThreadEvent δ} (hasked : s.Asked e)
    (hstep : s.step env e = some s') : Steps env s s' := by
  have hretries : ∀ {i : ℕ} {t : Thread δ}, s.threads[i]? = some t →
      ∀ r ∈ t.retries, Asks r.message := fun ht => (hs.threads _ _ ht).messages.tasks.retries
  have hlinks : ∀ {i : ℕ} {t : Thread δ}, s.threads[i]? = some t → LinksInv t :=
    fun ht => (hs.threads _ _ ht).links
  have heffects : ∀ {i : ℕ} {t t' : Thread δ}, s.threads[i]? = some t → Effects (env i) t t' →
      Steps env s { s with threads := s.threads.set i t' } :=
    fun ht h => .thread _ _ _ _ ht (.effects h) (posts_of_effects h).posts
      (portsOf_set_thread ht (sameLinks_of_effects h).listening) (.inl (posts_of_effects h).received)
  cases e with
  | createThread threadType =>
    cases hstep
    exact .createThread threadType
  | createThreadLinkBetween i j =>
    simp only [step] at hstep
    split_ifs at hstep with hne
    obtain ⟨t, -, hstep⟩ := Option.bind_eq_some_iff.mp hstep
    obtain ⟨t', -, rfl⟩ := Option.map_eq_some_iff.mp hstep
    exact .createLink i j _ _ hne rfl rfl
  | linkThread i data =>
    simp only [step] at hstep
    split_ifs at hstep with hlink
    obtain ⟨t, t', ht, ht', rfl⟩ := onThread_eq_some.mp hstep
    cases ht'
    obtain ⟨hnew, hports⟩ := hs.portsOf_link hlink ht
    obtain ⟨-, hsame⟩ := inv_link (hs.threads i t ht) data hnew
    exact .thread i _ t _ ht (.link data hnew) (hsame.posts ▸ List.prefix_rfl) hports (.inl hsame.received)
  | unlinkThread i threadType threadId =>
    obtain ⟨t, t', ht, ht', rfl⟩ := onThread_eq_some.mp hstep
    cases ht'
    obtain ⟨-, hreceived, -, hlistening, hposts⟩ :=
      onUnlinkThread_spec (env i) threadType threadId t (hs.threads i t ht)
    exact .thread i _ t _ ht (.unlink threadType threadId) (hposts ▸ List.prefix_rfl)
      (portsOf_set_thread ht hlistening) (.inl hreceived)
  | sendMessageToThread i threadType m allowRetries =>
    obtain ⟨t, t', ht, ht', rfl⟩ := onThread_eq_some.mp hstep
    cases ht'
    exact heffects ht
      (effects_sendMessageToThread threadType hasked allowRetries 0 t (hlinks ht) (hretries ht))
  | sendMessageToAllThreads i threadType m =>
    obtain ⟨t, t', ht, ht', rfl⟩ := onThread_eq_some.mp hstep
    cases ht'
    exact heffects ht
      (effects_sendMessageToAllThreads threadType hasked 0 t (hlinks ht) (hretries ht))
  | retry i r =>
    obtain ⟨t, t', ht, ht', rfl⟩ := onThread_eq_some.mp hstep
    split_ifs at ht' with hr
    cases ht'
    exact heffects ht (effects_onRetry t hr (hlinks ht) (hretries ht))
  | message i port =>
    obtain ⟨t, t', ht, ht', rfl⟩ := onThread_eq_some.mp hstep
    split_ifs at ht' with hport
    obtain ⟨m, hm, rfl⟩ := Option.map_eq_some_iff.mp ht'
    obtain ⟨-, hsame, hmessage⟩ := (hs.threads i t ht).message hport m
    exact .thread i _ t _ ht (.message port m hport) (posts_of_effects hmessage).posts
      (portsOf_set_thread ht hsame.listening)
      (.inr ⟨port, m, hport, hm, (posts_of_effects hmessage).received⟩)
  | handled i port m response =>
    obtain ⟨t, t', ht, ht', rfl⟩ := onThread_eq_some.mp hstep
    split_ifs at ht' with hrunning
    cases ht'
    exact heffects ht (effects_onHandled response t hrunning)
  | timeout i promise =>
    obtain ⟨t, t', ht, ht', rfl⟩ := onThread_eq_some.mp hstep
    split_ifs at ht'
    cases ht'
    exact heffects ht (.single (effect_onTimeout (env i) promise t))

/-! #### Every step keeps the invariant -/

theorem prefix_concat {α : Type} {l r : List α} {a : α} (h : l <+: r) (ha : r[l.length]? = some a) :
    l ++ [a] <+: r := by
  obtain ⟨rest, rfl⟩ := h
  rw [List.getElem?_append_right le_rfl, Nat.sub_self] at ha
  cases rest with
  | nil => cases ha
  | cons b rest =>
    cases ha
    exact ⟨rest, by simp⟩

theorem messagesOf_mono {port : MessagePort} {log log' : List (MessagePort × ThreadMessage δ)}
    (h : log <+: log') : messagesOf port log <+: messagesOf port log' :=
  (h.filter _).map _

theorem postedTo_mono (howner : ∀ port i, s.owner port = some i → s'.owner port = some i)
    (hposts : ∀ (j : ℕ) (t : Thread δ), s.threads[j]? = some t →
      ∃ t' : Thread δ, s'.threads[j]? = some t' ∧ t.posts <+: t'.posts) (port : MessagePort) :
    s.postedTo port <+: s'.postedTo port := by
  unfold postedTo
  cases ho : s.owner port.other with
  | none => exact List.nil_prefix
  | some j =>
    rw [howner _ _ ho]
    cases ht : s.threads[j]? with
    | none =>
      rw [Option.bind_some, ht]
      exact List.nil_prefix
    | some t =>
      obtain ⟨t', ht', hprefix⟩ := hposts j t ht
      simp only [Option.bind_some, ht, ht', Option.elim_some]
      exact messagesOf_mono hprefix

theorem posts_set_thread {i : ℕ} {t t' : Thread δ} (ht : s.threads[i]? = some t)
    (hposts : t.posts <+: t'.posts) (j : ℕ) (u : Thread δ) (hu : s.threads[j]? = some u) :
    ∃ u' : Thread δ, (s.threads.set i t')[j]? = some u' ∧ u.posts <+: u'.posts := by
  rw [getElem?_set_thread t' ht]
  by_cases h : j = i
  · subst h
    cases ht.symm.trans hu
    exact ⟨t', by rw [if_pos rfl], hposts⟩
  · exact ⟨u, by rw [if_neg h, hu], List.prefix_rfl⟩

theorem NodeInv.createThread (hs : NodeInv env s) (threadType : ThreadTypes) :
    NodeInv env { s with threads := s.threads ++ [.new threadType] } := by
  have hthread : ∀ (j : ℕ) (t : Thread δ), (s.threads ++ [.new threadType])[j]? = some t →
      s.threads[j]? = some t ∨ t = .new threadType := by
    intro j t ht
    rcases Nat.lt_or_ge j s.threads.length with hj | hj
    · rw [List.getElem?_append_left hj] at ht
      exact .inl ht
    · rw [List.getElem?_append_right hj, List.getElem?_singleton] at ht
      split_ifs at ht
      exact .inr (Option.some.inj ht).symm
  have hports : ∀ i, portsOf { s with threads := s.threads ++ [.new threadType] } i = s.portsOf i := by
    intro i
    unfold portsOf
    rcases Nat.lt_or_ge i s.threads.length with hi | hi
    · rw [List.getElem?_append_left hi]
    · have hlistening : ((s.threads ++ [Thread.new threadType])[i]?).elim [] Thread.listening = [] := by
        rw [List.getElem?_append_right hi, List.getElem?_singleton]
        split_ifs <;> rfl
      simp only [hlistening, List.getElem?_eq_none hi, Option.elim_none]
  refine ⟨?_, ?_, ?_, ?_, ?_⟩
  · intro j t ht
    rcases hthread j t ht with ht | rfl
    · exact hs.threads j t ht
    · exact inv_new (env j) threadType
  · intro i
    rw [hports]
    exact hs.nodup i
  · intro i
    rw [hports]
    exact hs.owner i
  · intro j t ht e he
    rcases hthread j t ht with ht | rfl
    · exact hs.received j t ht e he
    · simp [Thread.new] at he
  · intro j t port ht
    rcases hthread j t ht with ht | rfl
    · refine (hs.fifo j t port ht).trans (postedTo_mono ?_ (fun k u hu => ⟨u, ?_, ?_⟩) port)
      · exact fun _ _ h => h
      · rw [List.getElem?_append_left (List.getElem?_eq_some_iff.mp hu).1, hu]
      · exact List.prefix_rfl
    · exact List.nil_prefix

theorem NodeInv.createLink (hs : NodeInv env s) {i j : ℕ} {data data' : LinkData} (hne : i ≠ j)
    (hport : data.port = ⟨s.channels.length, .RX⟩) (hport' : data'.port = ⟨s.channels.length, .TX⟩) :
    NodeInv env
      { s with channels := s.channels ++ [(i, j)], links := s.links ++ [(i, data), (j, data')] } := by
  have howner : ∀ port k, s.owner port = some k →
      Threads.owner { s with channels := s.channels ++ [(i, j)], links := s.links ++ [(i, data), (j, data')] }
        port = some k := by
    intro port k h
    unfold Threads.owner at h ⊢
    obtain ⟨ends, hends, rfl⟩ := Option.map_eq_some_iff.mp h
    rw [List.getElem?_append_left (List.getElem?_eq_some_iff.mp hends).1, hends]
    rfl
  have hnew : ∀ k, ∀ port ∈ s.portsOf k, port.channel ≠ s.channels.length := by
    intro k port hmem heq
    have h := hs.owner k port hmem
    unfold Threads.owner at h
    rw [heq, List.getElem?_eq_none le_rfl] at h
    cases h
  have hports : ∀ k, portsOf
      { s with channels := s.channels ++ [(i, j)], links := s.links ++ [(i, data), (j, data')] } k =
      s.portsOf k ++ if k = i then [data.port] else if k = j then [data'.port] else [] := by
    intro k
    unfold portsOf
    rw [List.filter_append, List.map_append, ← List.append_assoc]
    congr 1
    by_cases hki : k = i
    · subst hki
      simp [Ne.symm hne]
    · by_cases hkj : k = j
      · subst hkj
        simp [Ne.symm hki, hki]
      · simp [Ne.symm hki, Ne.symm hkj, hki, hkj]
  refine ⟨hs.threads, ?_, ?_, ?_, ?_⟩
  · intro k
    rw [hports, List.nodup_append]
    refine ⟨hs.nodup k, ?_, ?_⟩
    · split_ifs <;> simp
    · intro port hmem port' hmem' heq
      subst heq
      refine hnew k port hmem ?_
      split_ifs at hmem'
      · rw [List.mem_singleton.mp hmem', hport]
      · rw [List.mem_singleton.mp hmem', hport']
      · cases hmem'
  · intro k port hmem
    rw [hports] at hmem
    rcases List.mem_append.mp hmem with hold | hlast
    · exact howner port k (hs.owner k port hold)
    · split_ifs at hlast with hki hkj
      · subst hki
        rw [List.mem_singleton.mp hlast, hport]
        simp [Threads.owner]
      · subst hkj
        rw [List.mem_singleton.mp hlast, hport']
        simp [Threads.owner]
      · cases hlast
  · intro k t ht e he
    exact howner _ _ (hs.received k t ht e he)
  · intro k t port ht
    exact (hs.fifo k t port ht).trans
      (postedTo_mono howner (fun l u hu => ⟨u, hu, List.prefix_rfl⟩) port)

theorem NodeInv.thread [DecidableEq δ] (hs : NodeInv env s) {i : ℕ} {links : List (ℕ × LinkData)}
    {t t' : Thread δ} (ht : s.threads[i]? = some t) (hstep : Thread.Step (env i) t t')
    (hposts : t.posts <+: t'.posts)
    (hports : ∀ k, (portsOf { s with links := links, threads := s.threads.set i t' } k).Subperm
      (s.portsOf k))
    (hreceived : t'.received = t.received ∨
      ∃ port m, port ∈ t.listening ∧ s.nextMessage port t = some m ∧
        t'.received = t.received ++ [(port, m)]) :
    NodeInv env { s with links := links, threads := s.threads.set i t' } := by
  have hinv := hs.threads i t ht
  have hthread : ∀ (j : ℕ) (u : Thread δ), (s.threads.set i t')[j]? = some u →
      s.threads[j]? = some u ∨ j = i ∧ u = t' := by
    intro j u hu
    rw [getElem?_set_thread t' ht] at hu
    split_ifs at hu with hj
    · exact .inr ⟨hj, (Option.some.inj hu).symm⟩
    · exact .inl hu
  have hposted : ∀ port, s.postedTo port <+:
      postedTo { s with links := links, threads := s.threads.set i t' } port :=
    postedTo_mono (fun _ _ h => h) (posts_set_thread ht hposts)
  refine ⟨?_, ?_, fun k port hmem => hs.owner k port ((hports k).subset hmem), ?_, ?_⟩
  · intro j u hu
    rcases hthread j u hu with hu | ⟨rfl, rfl⟩
    · exact hs.threads j u hu
    · exact hstep.inv hinv
  · intro k
    obtain ⟨l, hl, hsublist⟩ := hports k
    exact hl.nodup_iff.mp ((hs.nodup k).sublist hsublist)
  · intro j u hu e he
    rcases hthread j u hu with hu | ⟨rfl, rfl⟩
    · exact hs.received j u hu e he
    · rcases hreceived with h | ⟨port, m, hport, -, h⟩
      · rw [h] at he
        exact hs.received j t ht e he
      · rw [h] at he
        rcases List.mem_append.mp he with he | he
        · exact hs.received j t ht e he
        · rw [List.mem_singleton.mp he]
          refine hs.owner j port (List.mem_append_left _ ?_)
          rw [ht]
          exact hport
  · intro j u port hu
    rcases hthread j u hu with hu | ⟨rfl, rfl⟩
    · exact (hs.fifo j u port hu).trans (hposted port)
    · refine List.IsPrefix.trans ?_ (hposted port)
      have hfifo := hs.fifo j t port ht
      rcases hreceived with h | ⟨port', m, -, hnext, h⟩
      · rw [h]
        exact hfifo
      · rw [h]
        unfold messagesOf at hfifo ⊢
        by_cases hport : port' = port
        · subst hport
          have hlast : ([(port', m)].filter fun e => e.1 = port').map Prod.snd = [m] := by simp
          rw [List.filter_append, List.map_append, hlast]
          exact prefix_concat hfifo hnext
        · simpa [hport] using hfifo

/-- **Every event keeps the invariant.** -/
theorem NodeInv.step [DecidableEq δ] (hs : NodeInv env s) {e : ThreadEvent δ} (hasked : s.Asked e)
    (hstep : s.step env e = some s') : NodeInv env s' := by
  cases steps_of_step hs hasked hstep with
  | createThread threadType => exact hs.createThread threadType
  | createLink i j data data' hne hport hport' => exact hs.createLink hne hport hport'
  | thread i links t t' ht hthread hposts hports hreceived =>
    exact hs.thread ht hthread hposts hports hreceived

theorem nodeInv_runFrom [DecidableEq δ] {events : List (ThreadEvent δ)}
    (hmeets : Meets (Threads.step env) Asked start events)
    (hrun : runFrom (Threads.step env) start events = some s) : NodeInv env s :=
  invariant_runFrom (fun _ _ _ hs hasked hstep => hs.step hasked hstep) events start s
    (nodeInv_start env) hmeets hrun

/-! ### Answers

A caller gets what the thread that it asked has returned for its message, and nothing else. -/

theorem other_other (port : MessagePort) : port.other.other = port := by
  obtain ⟨channel, type⟩ := port
  cases type <;> rfl

theorem mem_messagesOf {port : MessagePort} {m : ThreadMessage δ}
    {log : List (MessagePort × ThreadMessage δ)} : m ∈ messagesOf port log ↔ (port, m) ∈ log := by
  unfold messagesOf
  rw [List.mem_map]
  constructor
  · rintro ⟨⟨p, m'⟩, he, rfl⟩
    obtain ⟨hmem, hp⟩ := List.mem_filter.mp he
    obtain rfl : p = port := of_decide_eq_true hp
    exact hmem
  · intro hmem
    exact ⟨(port, m), List.mem_filter.mpr ⟨hmem, decide_eq_true rfl⟩, rfl⟩

theorem count_messagesOf [DecidableEq δ] (port : MessagePort) (m : ThreadMessage δ)
    (log : List (MessagePort × ThreadMessage δ)) :
    (messagesOf port log).count m = log.count (port, m) := by
  induction log with
  | nil => rfl
  | cons e log ih =>
    obtain ⟨p, m'⟩ := e
    unfold messagesOf at ih ⊢
    by_cases hp : p = port
    · subst hp
      simp [List.count_cons, ih]
    · simp [hp, ih]

theorem NodeInv.posted (hs : NodeInv env s) {i : ℕ} {t : Thread δ} {port : MessagePort}
    {m : ThreadMessage δ} (ht : s.threads[i]? = some t) (hm : (port, m) ∈ t.received) :
    ∃ j t', s.owner port.other = some j ∧ s.threads[j]? = some t' ∧ (port.other, m) ∈ t'.posts := by
  have hmem := (hs.fifo i t port ht).subset (mem_messagesOf.mpr hm)
  unfold postedTo at hmem
  cases howner : s.owner port.other with
  | none => simp [howner] at hmem
  | some j =>
    cases ht' : s.threads[j]? with
    | none => simp [howner, ht'] at hmem
    | some t' =>
      simp only [howner, ht', Option.bind_some, Option.elim_some] at hmem
      exact ⟨j, t', rfl, ht', mem_messagesOf.mp hmem⟩

theorem nodup_requests {env : Environment δ} {t : Thread δ} (ht : TasksInv env t) (hfresh : Fresh env t) :
    ((t.sent.filter isRequest).map fun e => e.2.taskId).Nodup := by
  rw [ht.taskIds]
  refine (List.nodup_map_iff_inj_on List.nodup_range).mpr ?_
  intro n hn k hk heq
  exact hfresh (List.mem_range.mp hn) (List.mem_range.mp hk) (Option.some.inj heq)

theorem NodeInv.count_received_le [DecidableEq δ] (hs : NodeInv env s) {i j : ℕ} {t t' : Thread δ}
    {port : MessagePort} {m : ThreadMessage δ} (ht : s.threads[i]? = some t)
    (ht' : s.threads[j]? = some t') (howner : s.owner port = some i) (hfresh : Fresh (env i) t)
    (hrequest : isRequest (port, m) = true) : t'.received.count (port.other, m) ≤ 1 := by
  have hposted : s.postedTo port.other = messagesOf port t.posts := by
    unfold postedTo
    rw [other_other, howner, Option.bind_some, ht]
    rfl
  have hnodup : (t.posts.filter isRequest).Nodup :=
    ((nodup_requests (hs.threads i t ht).messages.tasks hfresh).of_map _).sublist
      (hs.threads i t ht).messages.logs.requests
  calc t'.received.count (port.other, m)
      = (messagesOf port.other t'.received).count m := (count_messagesOf _ _ _).symm
    _ ≤ (s.postedTo port.other).count m := (hs.fifo j t' port.other ht').sublist.count_le m
    _ = t.posts.count (port, m) := by rw [hposted, count_messagesOf]
    _ = (t.posts.filter isRequest).count (port, m) := (List.count_filter hrequest).symm
    _ ≤ 1 := List.nodup_iff_count_le_one.mp hnodup _

theorem eq_singleton {α : Type} {l : List α} {a : α} (hmem : a ∈ l) (hlength : l.length ≤ 1) : l = [a] := by
  cases l with
  | nil => cases hmem
  | cons b rest =>
    have hrest : rest = [] := List.length_eq_zero_iff.mp (by simpa using hlength)
    subst hrest
    rw [List.mem_singleton.mp hmem]

/-- **No answer is mixed up.** Where no thread generates a task id twice, what a promise of a thread is
resolved with is what the owner of the other end of its port has returned for its very message, which it
has handled this once. -/
theorem answer_of_runFrom [DecidableEq δ] (env : ℕ → Environment δ) (events : List (ThreadEvent δ))
    (s : Threads δ) (hasked : Meets (Threads.step env) Asked start events)
    (hrun : runFrom (Threads.step env) start events = some s)
    (hfresh : ∀ (i : ℕ) (t : Thread δ), s.threads[i]? = some t → Fresh (env i) t)
    (i : ℕ) (t : Thread δ) (ht : s.threads[i]? = some t) (p : SendPromise δ) (hp : p ∈ t.promises)
    (data : δ) (hdata : p.settled = some (.resolved (some data))) :
    ∃ (j : ℕ) (t' : Thread δ), s.owner p.port.other = some j ∧ s.threads[j]? = some t' ∧
      (t'.handled.filter fun e => e.1 = (p.port.other, p.message)) =
        [((p.port.other, p.message), some data)] := by
  have hs := nodeInv_runFrom hasked hrun
  obtain ⟨hlinks, ⟨htasks, hlogs, -⟩, -⟩ := hs.threads i t ht
  -- The answer that was received, and who has posted it.
  obtain ⟨port, m, hm, htype, htaskId, hmdata⟩ := htasks.resolved p hp data hdata
  obtain ⟨j, t', hj, ht', hposted⟩ := hs.posted ht hm
  obtain ⟨-, ⟨-, hlogs', -⟩, -⟩ := hs.threads j t' ht'
  obtain ⟨request, data', hhandled, hdata', hrequestId⟩ := hlogs'.answers port.other m hposted htype
  obtain rfl : data' = data := Option.some.inj (hdata'.symm.trans hmdata)
  -- The message that it answers was received there, hence posted here.
  have hperm : (port.other, request) ∈ t'.received.filter isRequest :=
    hlogs'.handled.subset (List.mem_append_right _ (List.mem_map.mpr ⟨_, hhandled, rfl⟩))
  obtain ⟨hreceived, hrequest⟩ := List.mem_filter.mp hperm
  obtain ⟨i', t'', hi', ht'', hasked'⟩ := hs.posted ht' hreceived
  rw [other_other] at hi' hasked'
  obtain rfl : i' = i := Option.some.inj (hi'.symm.trans (hs.received i t ht _ hm))
  cases ht.symm.trans ht''
  have hsent : (port, request) ∈ t.sent.filter isRequest :=
    hlogs.requests.subset (List.mem_filter.mpr ⟨hasked', hrequest⟩)
  -- It is the message of the promise, as the task ids are the same.
  have hpsent : (p.port, p.message) ∈ t.sent.filter isRequest := by
    refine List.mem_filter.mpr ⟨List.mem_map.mpr ⟨p, hp, rfl⟩, ?_⟩
    by_contra hanswer
    have htype' : p.message.type = .THREAD_RESPONSE := by simpa [isRequest] using hanswer
    rcases htasks.answers p hp htype' with h | h
    · rw [h] at hdata
      simp at hdata
    · rw [h] at hdata
      simp at hdata
  have heq := List.inj_on_of_nodup_map (nodup_requests htasks (hfresh i' t ht)) hpsent hsent
    (htaskId.symm.trans hrequestId.symm)
  cases heq
  refine ⟨j, t', hj, ht', eq_singleton ?_ ?_⟩
  · exact List.mem_filter.mpr ⟨hhandled, decide_eq_true rfl⟩
  · calc (t'.handled.filter fun e => e.1 = (p.port.other, p.message)).length
        = (t'.handled.map Prod.fst).count (p.port.other, p.message) := by
          rw [List.count, List.countP_map, List.countP_eq_length_filter]
          exact congrArg List.length (List.filter_congr fun e _ => Bool.eq_iff_iff.mpr (by simp))
      _ ≤ (t'.running ++ t'.handled.map Prod.fst).count (p.port.other, p.message) :=
          (List.sublist_append_right _ _).count_le _
      _ = (t'.received.filter isRequest).count (p.port.other, p.message) :=
          hlogs'.handled.count_eq _
      _ ≤ t'.received.count (p.port.other, p.message) := List.filter_sublist.count_le _
      _ ≤ 1 := hs.count_received_le ht ht' hi' (hfresh i' t ht) hrequest

/-! ### Nobody waits for ever -/

theorem closed_of_effect [DecidableEq δ] {env : Environment δ} {t t' : Thread δ} (h : Effect env t t')
    {port : MessagePort} (hclosed : port ∈ t.closed) :
    port ∈ t'.closed ∧ messagesOf port t'.posts = messagesOf port t.posts := by
  have hposts : ∀ m port', messagesOf port (postsAfter env m port' t) = messagesOf port t.posts := by
    intro m port'
    unfold postsAfter
    split_ifs with hpost
    · have hne : port' ≠ port := fun heq => hpost.2 (heq ▸ hclosed)
      simp [messagesOf, hne]
    · rfl
  refine ⟨(sameLinks_of_effect h).closed ▸ hclosed, ?_⟩
  cases h with
  | frame hsame hretries hlinks => rw [hsame.posts]
  | ask | respond => exact hposts _ _
  | settle | timeout | spent | handled => rfl

theorem closed_of_effects [DecidableEq δ] {env : Environment δ} {t t' : Thread δ} (h : Effects env t t')
    {port : MessagePort} (hclosed : port ∈ t.closed) :
    port ∈ t'.closed ∧ messagesOf port t'.posts = messagesOf port t.posts := by
  induction h with
  | refl => exact ⟨hclosed, rfl⟩
  | tail _ heffect ih =>
    obtain ⟨hclosed', hposts⟩ := closed_of_effect heffect ih.1
    exact ⟨hclosed', hposts.trans ih.2⟩

theorem closed_createInternalThreadLink (data : LinkData) (t : Thread δ) :
    (t.createInternalThreadLink data).closed = t.closed ∧
      (t.createInternalThreadLink data).posts = t.posts := by
  unfold createInternalThreadLink
  split_ifs <;> exact ⟨rfl, rfl⟩

theorem closed_of_step [DecidableEq δ] {env : Environment δ} {t t' : Thread δ} (ht : Thread.Inv env t)
    (h : Thread.Step env t t') {port : MessagePort} (hclosed : port ∈ t.closed) :
    port ∈ t'.closed ∧ messagesOf port t'.posts = messagesOf port t.posts := by
  cases h with
  | effects heffects => exact closed_of_effects heffects hclosed
  | message port' m hport =>
    obtain ⟨-, -, heffects⟩ := ht.message hport m
    have hclosed' : port ∈ (t.receive port' m).closed := hclosed
    exact closed_of_effects heffects hclosed'
  | link data hnew =>
    obtain ⟨hsame, hposts⟩ := closed_createInternalThreadLink data t
    exact ⟨hsame ▸ hclosed, by rw [hposts]⟩
  | unlink threadType threadId =>
    obtain ⟨-, -, hports, -, hposts⟩ := onUnlinkThread_spec env threadType threadId t ht
    exact ⟨(hports port).mpr (.inl hclosed), by rw [hposts]⟩

/-- A port that is closed stays so, and nothing more goes out of it. -/
def Closed (i : ℕ) (port : MessagePort) (posts : List (ThreadMessage δ)) (s : Threads δ) : Prop :=
  ∃ t, s.threads[i]? = some t ∧ port ∈ t.closed ∧ messagesOf port t.posts = posts

theorem Closed.step [DecidableEq δ] {i : ℕ} {port : MessagePort} {posts : List (ThreadMessage δ)}
    (h : Closed i port posts s) (hs : NodeInv env s) {e : ThreadEvent δ} (hasked : s.Asked e)
    (hstep : s.step env e = some s') : Closed i port posts s' := by
  obtain ⟨t, ht, hclosed, hposts⟩ := h
  have hset : ∀ (j : ℕ) (u u' : Thread δ), s.threads[j]? = some u →
      (u = t → port ∈ u'.closed ∧ messagesOf port u'.posts = messagesOf port t.posts) →
      ∃ t', (s.threads.set j u')[i]? = some t' ∧ port ∈ t'.closed ∧ messagesOf port t'.posts = posts := by
    intro j u u' hu hu'
    rw [getElem?_set_thread u' hu]
    by_cases hij : i = j
    · subst hij
      obtain ⟨hclosed', hposts'⟩ := hu' (Option.some.inj (hu.symm.trans ht))
      exact ⟨u', by rw [if_pos rfl], hclosed', hposts'.trans hposts⟩
    · exact ⟨t, by rw [if_neg hij, ht], hclosed, hposts⟩
  cases steps_of_step hs hasked hstep with
  | createThread threadType =>
    refine ⟨t, ?_, hclosed, hposts⟩
    rw [List.getElem?_append_left (List.getElem?_eq_some_iff.mp ht).1, ht]
  | createLink j k data data' hne hport hport' => exact ⟨t, ht, hclosed, hposts⟩
  | thread j links u u' hu hthread hposts' hports hreceived =>
    refine hset j u u' hu ?_
    rintro rfl
    exact closed_of_step (hs.threads j u hu) hthread hclosed

/-- **A thread that died is not waited for.** Once a thread was told that another one died, nothing more
goes out of the ports that linked them, none of these ports is chosen or sent to again, whatever comes
next; and where no task id is generated twice, no promise that was made at one of them is open. -/
theorem unlinked_of_runFrom [DecidableEq δ] (env : ℕ → Environment δ) (before after : List (ThreadEvent δ))
    (s u : Threads δ) (i : ℕ) (threadType : ThreadTypes) (threadId : ℕ)
    (hasked : Meets (Threads.step env) Asked start (before ++ .unlinkThread i threadType threadId :: after))
    (hbefore : runFrom (Threads.step env) start before = some s)
    (hafter : runFrom (Threads.step env) s (.unlinkThread i threadType threadId :: after) = some u)
    (t : Thread δ) (ht : s.threads[i]? = some t) (port : MessagePort)
    (hport : t.portMeta.get port = some (threadType, threadId)) :
    ∃ t', u.threads[i]? = some t' ∧ messagesOf port t'.posts = messagesOf port t.posts ∧
      (∀ type, port ∉ t'.relationsOf type) ∧
      (∀ type relation id, t'.threadRelations type = some relation → relation.get id ≠ some port) ∧
      (Fresh (env i) t' → ∀ p ∈ t'.promises, p.port = port → p.settled ≠ none) := by
  have hs := nodeInv_runFrom hasked.left hbefore
  have hasked' := hasked.right hbefore
  rw [runFrom_cons, Option.bind_eq_some_iff] at hafter
  obtain ⟨s', hstep, hafter⟩ := hafter
  have hs' := hs.step hasked'.1 hstep
  have hrest := hasked'.2 s' hstep
  -- The step closes the port.
  have hclosed : Closed i port (messagesOf port t.posts) s' := by
    obtain ⟨t₁, t₂, ht₁, ht₂, rfl⟩ := onThread_eq_some.mp hstep
    obtain rfl := Option.some.inj (ht₁.symm.trans ht)
    cases ht₂
    obtain ⟨-, -, hports, -, hposts⟩ :=
      onUnlinkThread_spec (env i) threadType threadId t₁ (hs.threads i t₁ ht)
    refine ⟨_, ?_, (hports port).mpr (.inr hport), by rw [hposts]⟩
    rw [getElem?_set_thread _ ht, if_pos rfl]
  have hend : NodeInv env u ∧ Closed i port (messagesOf port t.posts) u := by
    refine invariant_runFrom (P := fun s => NodeInv env s ∧ Closed i port (messagesOf port t.posts) s) ?_
      after s' u ⟨hs', hclosed⟩ hrest hafter
    intro s₁ e s₂ h hasks hstep'
    exact ⟨h.1.step hasks hstep', h.2.step h.1 hasks hstep'⟩
  obtain ⟨hu, t', ht', hport', hposts⟩ := hend
  obtain ⟨hlinks, ⟨htasks, -, hpending⟩, hlive⟩ := hu.threads i t' ht'
  have hunlinked : ¬(t'.portMeta.get port).isSome := fun hsome => (hlinks.linked port hsome).2 hport'
  have hrelations : ∀ type, port ∉ t'.relationsOf type := by
    intro type hmem
    obtain ⟨id, hget⟩ := hlinks.mem_relationsOf.mp hmem
    exact hunlinked (by rw [hget]; rfl)
  refine ⟨t', ht', hposts, hrelations, ?_, ?_⟩
  · intro type relation id hrelation hget
    exact hrelations type (hlinks.byId type relation hrelation id port hget)
  · rintro hfresh p hp rfl hopen
    obtain ⟨k, hk⟩ := List.mem_iff_getElem?.mp hp
    obtain ⟨taskId, -, htask⟩ := hpending hfresh k p hk hopen
    exact hunlinked (hlive taskId _ htask)

/-! #### A session -/

def twoIds : ℕ → Environment ℕ := fun _ => ⟨fun _ => true, fun n => if n = 0 then "a" else "b", fun _ => true⟩

theorem fresh_twoIds (i : ℕ) {t : Thread ℕ} (ht : t.generated ≤ 2) : Fresh (twoIds i) t := by
  intro n hn k hk heq
  have hn' : n < 2 := lt_of_lt_of_le hn ht
  have hk' : k < 2 := lt_of_lt_of_le hk ht
  have hcases : n = 0 ∧ k = 1 ∨ n = 1 ∧ k = 0 ∨ n = k := by omega
  rcases hcases with ⟨rfl, rfl⟩ | ⟨rfl, rfl⟩ | h
  · simp [twoIds] at heq
  · simp [twoIds] at heq
  · exact h

def asking (data : ℕ) : ThreadMessage ℕ := ⟨.other 0, none, false, some data⟩

/-- A thread of the API is linked to two threads of the plugins. -/
def linking : List (ThreadEvent ℕ) :=
  [.createThread .API, .createThread .PLUGIN, .createThread .PLUGIN,
    .createThreadLinkBetween 1 0, .createThreadLinkBetween 2 0,
    .linkThread 0 ⟨.TX, .API, .PLUGIN, 0, 1, ⟨0, .TX⟩⟩, .linkThread 0 ⟨.TX, .API, .PLUGIN, 0, 2, ⟨1, .TX⟩⟩,
    .linkThread 1 ⟨.RX, .PLUGIN, .API, 1, 0, ⟨0, .RX⟩⟩]

/-- It asks both, and one of them answers. -/
def talking : List (ThreadEvent ℕ) :=
  [.sendMessageToThread 0 .PLUGIN (asking 5) true, .sendMessageToThread 0 .PLUGIN (asking 6) true,
    .message 1 ⟨0, .RX⟩, .handled 1 ⟨0, .RX⟩ ⟨.other 0, some "a", false, some 5⟩ (some 50),
    .message 0 ⟨0, .TX⟩]

theorem asked_talking (after : List (ThreadEvent ℕ)) (hafter : ∀ e ∈ after, ∀ s, Asked s e) :
    Meets (Threads.step twoIds) Asked start (linking ++ talking ++ after) := by
  refine meets_of_forall (fun e he s => ?_) _
  rcases List.mem_append.mp he with he | he
  · simp only [linking, talking, List.cons_append, List.nil_append, List.mem_cons, List.not_mem_nil,
      or_false] at he
    rcases he with rfl | rfl | rfl | rfl | rfl | rfl | rfl | rfl | rfl | rfl | rfl | rfl | rfl <;>
      simp [Asked, Asks, asking]
  · exact hafter e he s

theorem talking_reaches :
    ∃ (s : Threads ℕ) (t : Thread ℕ),
      runFrom (Threads.step twoIds) start (linking ++ talking) = some s ∧ s.threads[0]? = some t ∧
      t.promises =
        [⟨⟨.other 0, some "a", false, some 5⟩, ⟨0, .TX⟩, false, some (.resolved (some 50))⟩,
          ⟨⟨.other 0, some "b", false, some 6⟩, ⟨1, .TX⟩, true, none⟩] ∧
      t.portMeta.get ⟨1, .TX⟩ = some (.PLUGIN, 2) ∧ ∀ u ∈ s.threads, u.generated ≤ 2 := by
  have hend : ((runFrom (Threads.step twoIds) start (linking ++ talking)).map fun s =>
      decide ((s.threads[0]?).map (fun t => (t.promises, t.portMeta.get ⟨1, .TX⟩)) =
        some ([⟨⟨.other 0, some "a", false, some 5⟩, ⟨0, .TX⟩, false, some (.resolved (some 50))⟩,
          ⟨⟨.other 0, some "b", false, some 6⟩, ⟨1, .TX⟩, true, none⟩], some (.PLUGIN, 2)) ∧
        ∀ u ∈ s.threads, u.generated ≤ 2)) = some true := by
    decide +kernel
  obtain ⟨s, hrun, hend⟩ := Option.map_eq_some_iff.mp hend
  obtain ⟨hthread, hgenerated⟩ := of_decide_eq_true hend
  obtain ⟨t, ht, hfields⟩ := Option.map_eq_some_iff.mp hthread
  exact ⟨s, t, hrun, ht, (Prod.mk.inj hfields).1, (Prod.mk.inj hfields).2, hgenerated⟩

theorem answer_talking :
    ∃ (s : Threads ℕ) (t : Thread ℕ) (p : SendPromise ℕ),
      runFrom (Threads.step twoIds) start (linking ++ talking) = some s ∧ s.threads[0]? = some t ∧
      p ∈ t.promises ∧ p.settled = some (.resolved (some 50)) ∧
      ∃ (j : ℕ) (t' : Thread ℕ), s.owner p.port.other = some j ∧ s.threads[j]? = some t' ∧
        (t'.handled.filter fun e => e.1 = (p.port.other, p.message)) =
          [((p.port.other, p.message), some 50)] := by
  obtain ⟨s, t, hrun, ht, hpromises, -, hgenerated⟩ := talking_reaches
  have hp : (⟨⟨.other 0, some "a", false, some 5⟩, ⟨0, .TX⟩, false, some (.resolved (some 50))⟩ :
      SendPromise ℕ) ∈ t.promises := by
    rw [hpromises]
    exact List.mem_cons_self
  have hasked := asked_talking [] (by simp)
  rw [List.append_nil] at hasked
  exact ⟨s, t, _, hrun, ht, hp, rfl,
    answer_of_runFrom twoIds (linking ++ talking) s hasked hrun
      (fun i u hu => fresh_twoIds i (hgenerated u (List.mem_of_getElem? hu))) 0 t ht _ hp 50 rfl⟩

/-- The other thread dies before it answers. -/
theorem unlinked_talking :
    ∃ (s u : Threads ℕ) (t t' : Thread ℕ),
      runFrom (Threads.step twoIds) start (linking ++ talking) = some s ∧ s.threads[0]? = some t ∧
      runFrom (Threads.step twoIds) s [.unlinkThread 0 .PLUGIN 2] = some u ∧ u.threads[0]? = some t' ∧
      (∀ type, (⟨1, .TX⟩ : MessagePort) ∉ t'.relationsOf type) := by
  obtain ⟨s, t, hrun, ht, -, hport, -⟩ := talking_reaches
  have hunlinked : runFrom (Threads.step twoIds) s [.unlinkThread 0 .PLUGIN 2] =
      some { s with threads := s.threads.set 0 (t.onUnlinkThread .PLUGIN 2) } := by
    simp [runFrom, Threads.step, onThread, ht]
  have hasked := asked_talking [.unlinkThread 0 .PLUGIN 2] (by simp [Asked])
  obtain ⟨t', ht', -, hrelations, -⟩ :=
    unlinked_of_runFrom twoIds (linking ++ talking) [] s _ 0 .PLUGIN 2 hasked hrun hunlinked t ht _ hport
  exact ⟨s, _, t, t', hrun, ht, hunlinked, ht', hrelations⟩

end Threads

end OpnetNode
