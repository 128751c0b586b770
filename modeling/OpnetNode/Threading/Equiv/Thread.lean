import Mathlib.Data.Set.Function
import Mathlib.Logic.Relation
import Mathlib.Order.Basic
import OpnetNode.Threading.Thread
import OpnetNode.Transition

/-!
# What a thread keeps

* `LinksInv`: what is known of the links agrees, and the ports of a thread that died are closed.
* `TasksInv`, `LogsInv`, `PendingInv`, `LiveInv`: a promise is settled once, with an answer that was
  received under its task id; an answer is posted for a message that was handled; and a promise that is
  open has its task and its port.
* `Step.inv`: every step of a thread keeps them.

What a step does with the promises and the messages is made of few effects (`Effect`).
-/

namespace OpnetNode

variable {δ : Type}

namespace Thread

variable {env : Environment δ} {s s' : Thread δ}

/-! ### Links

The ports of a thread that died are closed and forgotten, and what is known of the others agrees: the
threads of a type are those that were linked, in this order. -/

structure LinksInv (s : Thread δ) : Prop where
  listening : s.listening.Nodup
  linked : ∀ port, (s.portMeta.get port).isSome → port ∈ s.listening ∧ port ∉ s.closed
  closed : ∀ port ∈ s.closed, port ∈ s.listening
  relations : ∀ threadType, s.relationsOf threadType =
    (s.portMeta.entries.filter fun e => e.2.1 = threadType).map Prod.fst
  byId : ∀ threadType relation, s.threadRelations threadType = some relation →
    ∀ id port, relation.get id = some port → port ∈ s.relationsOf threadType

/-- Nothing changes what a thread knows of its links. -/
structure SameLinks (s s' : Thread δ) : Prop where
  threadType : s'.threadType = s.threadType
  listening : s'.listening = s.listening
  closed : s'.closed = s.closed
  portMeta : s'.portMeta = s.portMeta
  threadRelations : s'.threadRelations = s.threadRelations
  threadRelationsArray : s'.threadRelationsArray = s.threadRelationsArray

theorem SameLinks.refl (s : Thread δ) : SameLinks s s := ⟨rfl, rfl, rfl, rfl, rfl, rfl⟩

theorem SameLinks.trans {s'' : Thread δ} (h : SameLinks s s') (h' : SameLinks s' s'') :
    SameLinks s s'' :=
  ⟨h'.threadType.trans h.threadType, h'.listening.trans h.listening, h'.closed.trans h.closed,
    h'.portMeta.trans h.portMeta, h'.threadRelations.trans h.threadRelations,
    h'.threadRelationsArray.trans h.threadRelationsArray⟩

theorem SameLinks.relationsOf (h : SameLinks s s') (threadType : ThreadTypes) :
    s'.relationsOf threadType = s.relationsOf threadType := by
  unfold Thread.relationsOf
  rw [h.threadRelationsArray]

theorem SameLinks.isSome (h : SameLinks s s') (port : MessagePort)
    (hport : (s.portMeta.get port).isSome) : (s'.portMeta.get port).isSome := by
  rw [h.portMeta]
  exact hport

theorem SameLinks.linksInv (h : SameLinks s s') (hs : LinksInv s) : LinksInv s' where
  listening := h.listening ▸ hs.listening
  linked := by
    rw [h.portMeta, h.listening, h.closed]
    exact hs.linked
  closed := by
    rw [h.listening, h.closed]
    exact hs.closed
  relations := by
    intro threadType
    rw [h.relationsOf, h.portMeta]
    exact hs.relations threadType
  byId := by
    intro threadType
    rw [h.relationsOf, h.threadRelations]
    exact hs.byId threadType

variable {threadType : ThreadTypes} {port : MessagePort}

theorem LinksInv.mem_relationsOf (hs : LinksInv s) :
    port ∈ s.relationsOf threadType ↔ ∃ threadId, s.portMeta.get port = some (threadType, threadId) := by
  rw [hs.relations, List.mem_map]
  constructor
  · rintro ⟨⟨p, type, threadId⟩, he, rfl⟩
    obtain ⟨hentry, htype⟩ := List.mem_filter.mp he
    obtain rfl : type = threadType := of_decide_eq_true htype
    exact ⟨threadId, s.portMeta.mem_entries_iff.mp hentry⟩
  · rintro ⟨threadId, hget⟩
    exact ⟨(port, threadType, threadId),
      List.mem_filter.mpr ⟨s.portMeta.mem_entries_iff.mpr hget, decide_eq_true rfl⟩, rfl⟩

theorem linksInv_new (threadType : ThreadTypes) : LinksInv (new threadType : Thread δ) where
  listening := List.nodup_nil
  linked := by simp [new]
  closed := by simp [new]
  relations := by
    intro type
    rfl
  byId := by simp [new]

theorem LinksInv.link (hs : LinksInv s) (data : LinkData) (hnew : data.port ∉ s.listening) :
    LinksInv (s.createInternalThreadLink data) := by
  unfold createInternalThreadLink
  by_cases htype : s.threadType ≠ data.targetThreadType
  · simpa [htype] using hs
  have hnone : s.portMeta.get data.port = none := by
    by_contra hsome
    exact hnew (hs.linked _ (Option.isSome_iff_ne_none.mpr hsome)).1
  have hnotin : ∀ type, data.port ∉ s.relationsOf type := by
    intro type hmem
    obtain ⟨threadId, hget⟩ := hs.mem_relationsOf.mp hmem
    cases hnone.symm.trans hget
  simp only [htype, if_false, hnotin]
  refine ⟨?_, ?_, ?_, ?_, ?_⟩
  · simpa [List.nodup_append] using ⟨hs.listening, fun p hp heq => hnew (heq ▸ hp)⟩
  · intro port hport
    simp only [JsMap.get_set] at hport
    simp only [List.mem_append, List.mem_singleton]
    by_cases heq : port = data.port
    · subst heq
      exact ⟨.inr rfl, fun hclosed => hnew (hs.closed _ hclosed)⟩
    · rw [if_neg heq] at hport
      exact ⟨.inl (hs.linked port hport).1, (hs.linked port hport).2⟩
  · intro port hport
    exact List.mem_append_left _ (hs.closed port hport)
  · intro type
    have hrelations := hs.relations type
    unfold relationsOf at hrelations ⊢
    simp only [JsMap.entries_set_of_get_eq_none _ hnone, List.filter_append, List.map_append]
    by_cases heq : type = data.sourceThreadType
    · subst heq
      simp [← hrelations]
    · have hne : ¬data.sourceThreadType = type := fun h => heq h.symm
      simp [heq, hne, ← hrelations]
  · intro type relation hrelation id port hport
    have hbyId := hs.byId type
    unfold relationsOf at hbyId ⊢
    by_cases heq : type = data.sourceThreadType
    · subst heq
      simp only [Function.update_self, Option.some.injEq, Option.getD_some] at hrelation ⊢
      subst hrelation
      generalize (if data.type = LinkType.TX then data.sourceThreadId else data.targetThreadId) = linkId
        at hport
      rw [JsMap.get_set] at hport
      rw [List.mem_append, List.mem_singleton]
      split_ifs at hport
      · exact .inr (Option.some.inj hport).symm
      · refine .inl ?_
        cases hold : s.threadRelations data.sourceThreadType with
        | none => simp [hold] at hport
        | some old =>
          rw [hold, Option.getD_some] at hport
          exact hbyId old hold _ port hport
    · simp only [Function.update_of_ne heq] at hrelation ⊢
      exact hbyId relation hrelation id port hport

theorem LinksInv.drop (hs : LinksInv s) {threadId : ℕ}
    (hport : s.portMeta.get port = some (threadType, threadId)) :
    LinksInv (s.dropPort threadType port) := by
  obtain ⟨hlistening, hopen⟩ := hs.linked port (by rw [hport]; rfl)
  refine ⟨hs.listening, ?_, ?_, ?_, ?_⟩
  · intro p hp
    simp only [dropPort, JsMap.get_erase] at hp
    split_ifs at hp with heq
    · cases hp
    · simp only [dropPort, List.mem_append, List.mem_singleton, heq, or_false]
      exact hs.linked p hp
  · intro p hp
    simp only [dropPort, List.mem_append, List.mem_singleton] at hp
    rcases hp with hp | rfl
    · exact hs.closed p hp
    · exact hlistening
  · intro type
    have hrelations := hs.relations type
    have hnodup : (s.relationsOf type).Nodup := by
      rw [hrelations]
      exact s.portMeta.keys_nodup.sublist (List.filter_sublist.map Prod.fst)
    by_cases heq : type = threadType
    · have herase : (s.dropPort threadType port).relationsOf type = (s.relationsOf type).erase port := by
        subst heq
        unfold relationsOf dropPort
        cases s.threadRelationsArray type <;> simp
      rw [herase, hnodup.erase_eq_filter, hrelations, List.filter_map]
      simp only [dropPort, JsMap.erase, List.filter_filter]
      congr 2
      funext e
      by_cases hp : e.1 = port <;> simp [hp, Bool.and_comm]
    · have hsame : (s.dropPort threadType port).relationsOf type = s.relationsOf type := by
        simp [relationsOf, dropPort, heq]
      rw [hsame, hrelations]
      simp only [dropPort, JsMap.erase, List.filter_filter]
      -- The port is of another type.
      congr 1
      refine List.filter_congr fun e he => ?_
      by_cases hp : e.1 = port
      · obtain ⟨p, type', id⟩ := e
        subst hp
        have hget : some (type', id) = some (threadType, threadId) :=
          (s.portMeta.mem_entries_iff.mp he).symm.trans hport
        cases hget
        have hne : threadType ≠ type := fun h => heq h.symm
        simp [hne]
      · simp [hp]
  · intro type relation hrelation id p hp
    have hbyId := hs.byId type
    by_cases heq : type = threadType
    · subst heq
      simp only [dropPort, Function.update_self, Option.map_eq_some_iff] at hrelation
      obtain ⟨old, hold, rfl⟩ := hrelation
      rw [JsMap.get_filterKeys] at hp
      split_ifs at hp with hkeep
      have hne : p ≠ port := by
        rintro rfl
        simp [hp] at hkeep
      have hmem := hbyId old hold id p hp
      unfold relationsOf at hmem ⊢
      cases harray : s.threadRelationsArray type with
      | none => simp [harray] at hmem
      | some array =>
        simp only [harray, Option.getD_some, dropPort, Function.update_self, Option.map_some] at hmem ⊢
        exact (List.mem_erase_of_ne hne).mpr hmem
    · simp only [dropPort, Function.update_of_ne heq] at hrelation
      have hsame : (s.dropPort threadType port).relationsOf type = s.relationsOf type := by
        simp [relationsOf, dropPort, heq]
      rw [hsame]
      exact hbyId relation hrelation id p hp

theorem LinksInv.dropAll (deadPorts : List MessagePort) (s : Thread δ)
    (hs : LinksInv s) (hnodup : deadPorts.Nodup)
    (hports : ∀ port ∈ deadPorts, ∃ threadId, s.portMeta.get port = some (threadType, threadId)) :
    LinksInv (deadPorts.foldl (dropPort threadType) s) := by
  induction deadPorts generalizing s with
  | nil => exact hs
  | cons port deadPorts ih =>
    obtain ⟨hport, hnodup⟩ := List.nodup_cons.mp hnodup
    obtain ⟨threadId, hget⟩ := hports port List.mem_cons_self
    rw [List.foldl_cons]
    refine ih _ (hs.drop hget) hnodup fun p hp => ?_
    obtain ⟨id, hid⟩ := hports p (List.mem_cons_of_mem _ hp)
    have hne : p ≠ port := fun heq => hport (heq ▸ hp)
    exact ⟨id, by simp [dropPort, JsMap.get_erase, hne, hid]⟩

theorem dropAll_spec (threadType : ThreadTypes) (deadPorts : List MessagePort) (s : Thread δ) :
    (deadPorts.foldl (dropPort threadType) s).closed = s.closed ++ deadPorts ∧
      ∀ port, (deadPorts.foldl (dropPort threadType) s).portMeta.get port =
        if port ∈ deadPorts then none else s.portMeta.get port := by
  induction deadPorts generalizing s with
  | nil => simp
  | cons port deadPorts ih =>
    obtain ⟨hclosed, hget⟩ := ih (s.dropPort threadType port)
    rw [List.foldl_cons]
    refine ⟨by rw [hclosed]; simp [dropPort], fun p => ?_⟩
    rw [hget]
    by_cases heq : p = port <;> simp [dropPort, JsMap.get_erase, heq]

theorem mem_deadPorts {threadId : ℕ} :
    port ∈ s.deadPorts threadType threadId ↔ s.portMeta.get port = some (threadType, threadId) := by
  unfold deadPorts
  rw [List.mem_map]
  constructor
  · rintro ⟨⟨p, type, id⟩, he, rfl⟩
    obtain ⟨hentry, htype⟩ := List.mem_filter.mp he
    simp only [Bool.and_eq_true, decide_eq_true_eq] at htype
    obtain ⟨rfl, rfl⟩ := htype
    exact s.portMeta.mem_entries_iff.mp hentry
  · intro hget
    exact ⟨(port, threadType, threadId),
      List.mem_filter.mpr ⟨s.portMeta.mem_entries_iff.mpr hget, by simp⟩, rfl⟩

theorem nodup_deadPorts (threadType : ThreadTypes) (threadId : ℕ) (s : Thread δ) :
    (s.deadPorts threadType threadId).Nodup :=
  s.portMeta.keys_nodup.sublist (List.filter_sublist.map Prod.fst)

/-! ### Tasks

What a step does with the promises and the messages is made of few effects (`Effect`); what each of
them keeps holds after every step. -/

/-- A message that asks: it has no task id yet and is no answer. -/
def Asks (m : ThreadMessage δ) : Prop := m.taskId = none ∧ m.type ≠ .THREAD_RESPONSE

/-- The promises, the tasks and the messages are the same. -/
structure SameTasks (s s' : Thread δ) : Prop where
  promises : s'.promises = s.promises
  tasks : s'.tasks = s.tasks
  generated : s'.generated = s.generated
  received : s'.received = s.received
  posts : s'.posts = s.posts
  running : s'.running = s.running
  handled : s'.handled = s.handled

/-- `settlement` is what a task may be settled with. -/
def SettledBy (s : Thread δ) (taskId : String) (settlement : Settlement δ) : Prop :=
  settlement = .resolved none ∨
    ∃ port m, (port, m) ∈ s.received ∧ m.type = .THREAD_RESPONSE ∧ m.taskId = some taskId ∧
      settlement = .resolved m.data

theorem postMessage_eq (port : MessagePort) (m : ThreadMessage δ) (s : Thread δ) :
    s.postMessage port m =
      { s with posts := if port ∈ s.closed then s.posts else s.posts ++ [(port, m)] } := by
  unfold postMessage
  split_ifs <;> rfl

/-- What is posted when a message is sent. -/
def postsAfter (env : Environment δ) (m : ThreadMessage δ) (port : MessagePort) (s : Thread δ) :
    List (MessagePort × ThreadMessage δ) :=
  if env.clones m ∧ port ∉ s.closed then s.posts ++ [(port, m)] else s.posts

/-- The message of a promise, under a new task id. -/
def request (env : Environment δ) (m : ThreadMessage δ) (s : Thread δ) : ThreadMessage δ :=
  { m with taskId := some (env.generateTaskId s.generated) }

/-- The thread when a message was sent that asks. -/
def ask (env : Environment δ) (m : ThreadMessage δ) (port : MessagePort)
    (settled : Option (Settlement δ)) (s : Thread δ) : Thread δ :=
  { s with
    generated := s.generated + 1
    promises := s.promises ++ [⟨s.request env m, port, true, settled⟩]
    tasks := s.tasks.set (env.generateTaskId s.generated) ⟨s.promises.length, port⟩
    posts := postsAfter env (s.request env m) port s }

/-- The thread when an answer was sent. -/
def respond (env : Environment δ) (taskId : String) (data : δ) (port : MessagePort)
    (settled : Settlement δ) (s : Thread δ) : Thread δ :=
  { s with
    promises := s.promises ++
      [⟨⟨.THREAD_RESPONSE, some taskId, false, some data⟩, port, false, some settled⟩]
    posts := postsAfter env ⟨.THREAD_RESPONSE, some taskId, false, some data⟩ port s }

inductive Effect [DecidableEq δ] (env : Environment δ) (s : Thread δ) : Thread δ → Prop where
  | frame {t : Thread δ} (hsame : SameTasks s t) (hretries : ∀ r ∈ t.retries, Asks r.message)
      (hlinks : SameLinks s t) : Effect env s t
  | ask (m : ThreadMessage δ) (port : MessagePort) (settled : Option (Settlement δ)) (hasks : Asks m)
      (hport : (s.portMeta.get port).isSome) (hsettled : settled = none ∨ settled = some .rejected) :
      Effect env s (s.ask env m port settled)
  | settle (taskId : String) (task : ThreadTaskCallback) (settlement : Settlement δ)
      (htask : s.tasks.get taskId = some task) (hsettled : SettledBy s taskId settlement) :
      Effect env s { (s.clearTimeout task.promise).settle task.promise settlement with
        tasks := s.tasks.erase taskId }
  | timeout (promise : ℕ) : Effect env s ((s.clearTimeout promise).settle promise (.resolved none))
  | spent (promise : ℕ) (hlogs : ∀ p, s.promises[promise]? = some p → env.logs p.message = false) :
      Effect env s (s.clearTimeout promise)
  | handled (port : MessagePort) (m : ThreadMessage δ) (response : Option δ)
      (hrunning : (port, m) ∈ s.running) :
      Effect env s
        { s with
          running := s.running.erase (port, m)
          handled := s.handled ++ [((port, m), response)] }
  | respond (port : MessagePort) (m : ThreadMessage δ) (taskId : String) (data : δ)
      (settled : Settlement δ) (hhandled : ((port, m), some data) ∈ s.handled)
      (htaskId : m.taskId = some taskId) (hsettled : settled = .resolved none ∨ settled = .rejected) :
      Effect env s (s.respond env taskId data port settled)

/-- Effects, one after the other. -/
abbrev Effects [DecidableEq δ] (env : Environment δ) : Thread δ → Thread δ → Prop :=
  Relation.ReflTransGen (Effect env)

theorem sendMessage_of_asks {m : ThreadMessage δ} (hasks : Asks m) (port : MessagePort) (s : Thread δ) :
    ∃ settled, (settled = none ∨ settled = some .rejected) ∧
      s.sendMessage env m port = s.ask env m port settled := by
  unfold sendMessage ask postsAfter request
  rw [hasks.1]
  simp only [postMessage_eq]
  by_cases hclones : env.clones { m with taskId := some (env.generateTaskId s.generated) }
  · refine ⟨none, .inl rfl, ?_⟩
    by_cases hclosed : port ∈ s.closed <;> simp [hclones, hclosed]
  · exact ⟨some .rejected, .inr rfl, by simp [hclones]⟩

theorem sendMessage_of_taskId (taskId : String) (data : δ) (port : MessagePort) (s : Thread δ) :
    ∃ settled, (settled = .resolved none ∨ settled = .rejected) ∧
      s.sendMessage env ⟨.THREAD_RESPONSE, some taskId, false, some data⟩ port =
        s.respond env taskId data port settled := by
  unfold sendMessage respond postsAfter
  simp only [postMessage_eq]
  by_cases hclones : env.clones ⟨.THREAD_RESPONSE, some taskId, false, some data⟩
  · refine ⟨.resolved none, .inl rfl, ?_⟩
    by_cases hclosed : port ∈ s.closed <;> simp [hclones, hclosed]
  · exact ⟨.rejected, .inr rfl, by simp [hclones]⟩

theorem effect_sendMessage [DecidableEq δ] {m : ThreadMessage δ} (hasks : Asks m)
    (s : Thread δ) (hport : (s.portMeta.get port).isSome) : Effect env s (s.sendMessage env m port) := by
  obtain ⟨settled, hsettled, hsend⟩ := sendMessage_of_asks hasks port s
  rw [hsend]
  exact .ask m port settled hasks hport hsettled

theorem effects_onHandled [DecidableEq δ] {m : ThreadMessage δ}
    (response : Option δ) (s : Thread δ) (hrunning : (port, m) ∈ s.running) :
    Effects env s (s.onHandled env port m response) := by
  have hdone : Effect env s _ := .handled port m response hrunning
  unfold onHandled
  cases htaskId : m.taskId with
  | none => exact .single hdone
  | some taskId =>
    cases response with
    | none => exact .single hdone
    | some data =>
      by_cases hempty : taskId = ""
      · simp only [hempty, if_true]
        exact .single hdone
      · obtain ⟨settled, hsettled, hsend⟩ := sendMessage_of_taskId taskId data port _
        simp only [hempty, if_false]
        rw [hsend]
        exact .tail (.single hdone) (.respond port m taskId data settled
          (List.mem_append_right _ (List.mem_singleton_self _)) htaskId hsettled)

/-- A message comes in; a request is given to its handler. -/
def receive (port : MessagePort) (m : ThreadMessage δ) (s : Thread δ) : Thread δ :=
  { s with
    received := s.received ++ [(port, m)]
    running := if m.type = .THREAD_RESPONSE then s.running else s.running ++ [(port, m)] }

/-- A message that is no answer. -/
def isRequest (e : MessagePort × ThreadMessage δ) : Bool := e.2.type ≠ .THREAD_RESPONSE

/-- What was sent, by the promises. -/
def sent (s : Thread δ) : List (MessagePort × ThreadMessage δ) :=
  s.promises.map fun p => (p.port, p.message)

structure TasksInv (env : Environment δ) (s : Thread δ) : Prop where
  retries : ∀ r ∈ s.retries, Asks r.message
  timers : ∀ p ∈ s.promises, p.settled = none → p.timeout = true ∨ env.logs p.message = false
  answers : ∀ p ∈ s.promises, p.message.type = .THREAD_RESPONSE →
    p.settled = some (.resolved none) ∨ p.settled = some .rejected
  taskIds : (s.sent.filter isRequest).map (fun e => e.2.taskId) =
    (List.range s.generated).map fun n => some (env.generateTaskId n)
  tasks : ∀ taskId task, s.tasks.get taskId = some task →
    ∃ p, s.promises[task.promise]? = some p ∧ p.message.taskId = some taskId ∧ p.port = task.port ∧
      p.message.type ≠ .THREAD_RESPONSE
  resolved : ∀ p ∈ s.promises, ∀ d, p.settled = some (.resolved (some d)) →
    ∃ port m, (port, m) ∈ s.received ∧ m.type = .THREAD_RESPONSE ∧ m.taskId = p.message.taskId ∧
      m.data = some d

/-- What `clearTimeout` and `settle` make of a promise. -/
def settledWith (settlement : Settlement δ) (p : SendPromise δ) : SendPromise δ :=
  { p with timeout := false, settled := p.settled.or (some settlement) }

theorem getElem?_promises_settle (promise k : ℕ) (settlement : Settlement δ) (s : Thread δ) :
    ((s.clearTimeout promise).settle promise settlement).promises[k]? =
      (s.promises[k]?).map fun p => if promise = k then settledWith settlement p else p := by
  simp only [settle, clearTimeout, List.getElem?_modify, settledWith]
  cases s.promises[k]? with
  | none => rfl
  | some p => by_cases h : promise = k <;> simp [h]

theorem getElem?_promises_clearTimeout (promise k : ℕ) (s : Thread δ) :
    (s.clearTimeout promise).promises[k]? =
      (s.promises[k]?).map fun p => if promise = k then { p with timeout := false } else p := by
  simp only [clearTimeout, List.getElem?_modify]
  cases s.promises[k]? <;> rfl

variable {p : SendPromise δ}

theorem mem_promises_settle {promise : ℕ} {settlement : Settlement δ}
    (h : p ∈ ((s.clearTimeout promise).settle promise settlement).promises) :
    ∃ k q, s.promises[k]? = some q ∧
      p = if promise = k then settledWith settlement q else q := by
  obtain ⟨k, hk⟩ := List.mem_iff_getElem?.mp h
  rw [getElem?_promises_settle, Option.map_eq_some_iff] at hk
  obtain ⟨q, hq, rfl⟩ := hk
  exact ⟨k, q, hq, rfl⟩

@[simp] theorem sent_settle (promise : ℕ) (settlement : Settlement δ) (s : Thread δ) :
    ((s.clearTimeout promise).settle promise settlement).sent = s.sent := by
  unfold sent
  refine List.ext_getElem? fun k => ?_
  rw [List.getElem?_map, List.getElem?_map, getElem?_promises_settle, Option.map_map]
  congr 1
  funext p
  by_cases h : promise = k <;> simp [h, settledWith]

@[simp] theorem sent_clearTimeout (promise : ℕ) (s : Thread δ) : (s.clearTimeout promise).sent = s.sent := by
  unfold sent
  refine List.ext_getElem? fun k => ?_
  rw [List.getElem?_map, List.getElem?_map, getElem?_promises_clearTimeout, Option.map_map]
  congr 1
  funext p
  by_cases h : promise = k <;> simp [h]

theorem settledWith_ne_none (settlement : Settlement δ) (p : SendPromise δ) :
    (settledWith settlement p).settled ≠ none := by
  unfold settledWith
  cases p.settled <;> simp

theorem settledWith_settled {settlement x : Settlement δ}
    (h : (settledWith settlement p).settled = some x) : p.settled = some x ∨ x = settlement := by
  unfold settledWith at h
  cases hp : p.settled with
  | none =>
    simp only [hp, Option.none_or, Option.some.injEq] at h
    exact .inr h.symm
  | some y =>
    simp only [hp, Option.some_or, Option.some.injEq] at h
    exact .inl (h ▸ rfl)

theorem TasksInv.settled (hs : TasksInv env s) (promise : ℕ) (settlement : Settlement δ)
    (hanswer : ∀ p d, s.promises[promise]? = some p → settlement = .resolved (some d) →
      ∃ port m, (port, m) ∈ s.received ∧ m.type = .THREAD_RESPONSE ∧ m.taskId = p.message.taskId ∧
        m.data = some d) :
    TasksInv env ((s.clearTimeout promise).settle promise settlement) where
  retries := hs.retries
  timers := by
    intro p hp hopen
    obtain ⟨k, q, hq, rfl⟩ := mem_promises_settle hp
    split_ifs at hopen ⊢
    · exact absurd hopen (settledWith_ne_none _ _)
    · exact hs.timers q (List.mem_of_getElem? hq) hopen
  answers := by
    intro p hp htype
    obtain ⟨k, q, hq, rfl⟩ := mem_promises_settle hp
    split_ifs at htype ⊢
    · rcases hs.answers q (List.mem_of_getElem? hq) htype with h | h
      · exact .inl (by simp [settledWith, h])
      · exact .inr (by simp [settledWith, h])
    · exact hs.answers q (List.mem_of_getElem? hq) htype
  taskIds := by
    rw [sent_settle]
    exact hs.taskIds
  tasks := by
    intro taskId task htask
    obtain ⟨p, hp, hrest⟩ := hs.tasks taskId task htask
    refine ⟨if promise = task.promise then settledWith settlement p else p, ?_, ?_⟩
    · rw [getElem?_promises_settle, hp]
      rfl
    · split_ifs
      · exact hrest
      · exact hrest
  resolved := by
    intro p hp d hd
    obtain ⟨k, q, hq, rfl⟩ := mem_promises_settle hp
    split_ifs at hd ⊢ with hk
    · subst hk
      rcases settledWith_settled hd with hold | hnew
      · exact hs.resolved q (List.mem_of_getElem? hq) d hold
      · exact hanswer q d hq hnew.symm
    · exact hs.resolved q (List.mem_of_getElem? hq) d hd

theorem TasksInv.spent (hs : TasksInv env s) (promise : ℕ)
    (hlogs : ∀ p, s.promises[promise]? = some p → env.logs p.message = false) :
    TasksInv env (s.clearTimeout promise) := by
  have hmem : ∀ p ∈ (s.clearTimeout promise).promises, ∃ k q, s.promises[k]? = some q ∧
      p = if promise = k then { q with timeout := false } else q := by
    intro p hp
    obtain ⟨k, hk⟩ := List.mem_iff_getElem?.mp hp
    rw [getElem?_promises_clearTimeout, Option.map_eq_some_iff] at hk
    obtain ⟨q, hq, rfl⟩ := hk
    exact ⟨k, q, hq, rfl⟩
  refine ⟨hs.retries, ?_, ?_, ?_, ?_, ?_⟩
  · intro p hp hopen
    obtain ⟨k, q, hq, rfl⟩ := hmem p hp
    split_ifs at hopen ⊢ with hk
    · exact .inr (hlogs q (hk ▸ hq))
    · exact hs.timers q (List.mem_of_getElem? hq) hopen
  · intro p hp htype
    obtain ⟨k, q, hq, rfl⟩ := hmem p hp
    split_ifs at htype ⊢
    · exact hs.answers q (List.mem_of_getElem? hq) htype
    · exact hs.answers q (List.mem_of_getElem? hq) htype
  · rw [sent_clearTimeout]
    exact hs.taskIds
  · intro taskId task htask
    obtain ⟨p, hp, hrest⟩ := hs.tasks taskId task htask
    refine ⟨if promise = task.promise then { p with timeout := false } else p, ?_, ?_⟩
    · rw [getElem?_promises_clearTimeout, hp]
      rfl
    · split_ifs
      · exact hrest
      · exact hrest
  · intro p hp d hd
    obtain ⟨k, q, hq, rfl⟩ := hmem p hp
    split_ifs at hd ⊢
    · exact hs.resolved q (List.mem_of_getElem? hq) d hd
    · exact hs.resolved q (List.mem_of_getElem? hq) d hd

theorem tasksInv_new (env : Environment δ) (threadType : ThreadTypes) :
    TasksInv env (new threadType) where
  retries := by simp [new]
  timers := by simp [new]
  answers := by simp [new]
  taskIds := rfl
  tasks := by simp [new]
  resolved := by simp [new]

theorem TasksInv.respond (hs : TasksInv env s) (taskId : String) (data : δ) (port : MessagePort)
    {settled : Settlement δ} (hsettled : settled = .resolved none ∨ settled = .rejected) :
    TasksInv env (s.respond env taskId data port settled) := by
  refine ⟨hs.retries, ?_, ?_, ?_, ?_, ?_⟩
  · intro p hp hopen
    rcases List.mem_append.mp hp with hp | hp
    · exact hs.timers p hp hopen
    · rw [List.mem_singleton.mp hp] at hopen
      cases hopen
  · intro p hp htype
    rcases List.mem_append.mp hp with hp | hp
    · exact hs.answers p hp htype
    · rw [List.mem_singleton.mp hp]
      exact hsettled.imp (congrArg some) (congrArg some)
  · have htaskIds := hs.taskIds
    unfold sent Thread.respond at *
    simpa [isRequest] using htaskIds
  · intro id task htask
    obtain ⟨p, hp, hrest⟩ := hs.tasks id task htask
    exact ⟨p, (List.getElem?_append_left (List.getElem?_eq_some_iff.mp hp).1).trans hp, hrest⟩
  · intro p hp d hd
    rcases List.mem_append.mp hp with hp | hp
    · exact hs.resolved p hp d hd
    · rw [List.mem_singleton.mp hp] at hd
      rcases hsettled with rfl | rfl
      · simp at hd
      · simp at hd

theorem isRequest_request (env : Environment δ) {m : ThreadMessage δ} (hasks : Asks m)
    (port : MessagePort) (s : Thread δ) : isRequest (port, s.request env m) = true := by
  exact decide_eq_true hasks.2

theorem TasksInv.ask (hs : TasksInv env s) {m : ThreadMessage δ} (hasks : Asks m) (port : MessagePort)
    {settled : Option (Settlement δ)} (hsettled : settled = none ∨ settled = some .rejected) :
    TasksInv env (s.ask env m port settled) := by
  refine ⟨hs.retries, ?_, ?_, ?_, ?_, ?_⟩
  · intro p hp hopen
    rcases List.mem_append.mp hp with hp | hp
    · exact hs.timers p hp hopen
    · rw [List.mem_singleton.mp hp]
      exact .inl rfl
  · intro p hp htype
    rcases List.mem_append.mp hp with hp | hp
    · exact hs.answers p hp htype
    · rw [List.mem_singleton.mp hp] at htype
      exact absurd htype hasks.2
  · have htaskIds := hs.taskIds
    unfold sent Thread.ask at *
    simp [isRequest_request env hasks, htaskIds, List.range_succ]
    rfl
  · intro taskId task htask
    rw [Thread.ask, JsMap.get_set] at htask
    split_ifs at htask with heq
    · cases htask
      exact ⟨_, List.getElem?_concat_length, by rw [heq]; rfl, rfl, hasks.2⟩
    · obtain ⟨p, hp, hrest⟩ := hs.tasks taskId task htask
      exact ⟨p, (List.getElem?_append_left (List.getElem?_eq_some_iff.mp hp).1).trans hp, hrest⟩
  · intro p hp d hd
    rcases List.mem_append.mp hp with hp | hp
    · exact hs.resolved p hp d hd
    · rw [List.mem_singleton.mp hp] at hd
      rcases hsettled with rfl | rfl
      · cases hd
      · simp at hd

theorem TasksInv.frame (hs : TasksInv env s) (hsame : SameTasks s s')
    (hretries : ∀ r ∈ s'.retries, Asks r.message) : TasksInv env s' := by
  refine ⟨hretries, ?_, ?_, ?_, ?_, ?_⟩
  · rw [hsame.promises]
    exact hs.timers
  · rw [hsame.promises]
    exact hs.answers
  · unfold sent
    rw [hsame.promises, hsame.generated]
    exact hs.taskIds
  · rw [hsame.promises, hsame.tasks]
    exact hs.tasks
  · rw [hsame.promises, hsame.received]
    exact hs.resolved

theorem TasksInv.receive (hs : TasksInv env s) (port : MessagePort) (m : ThreadMessage δ) :
    TasksInv env (s.receive port m) := by
  refine ⟨hs.retries, hs.timers, hs.answers, hs.taskIds, hs.tasks, ?_⟩
  intro p hp d hd
  obtain ⟨port', m', hm', hrest⟩ := hs.resolved p hp d hd
  exact ⟨port', m', List.mem_append_left _ hm', hrest⟩

theorem TasksInv.effect [DecidableEq δ] (hs : TasksInv env s) (h : Effect env s s') :
    TasksInv env s' := by
  cases h with
  | frame hsame hretries hlinks => exact hs.frame hsame hretries
  | ask m port settled hasks hport hsettled => exact hs.ask hasks port hsettled
  | settle taskId task settlement htask hsettled =>
    obtain ⟨q, hq, htaskId, -⟩ := hs.tasks taskId task htask
    have hnext := hs.settled task.promise settlement (by
      intro p d hp hd
      cases hq.symm.trans hp
      rcases hsettled with rfl | ⟨port, m, hm, htype, hid, rfl⟩
      · simp at hd
      · exact ⟨port, m, hm, htype, hid.trans htaskId.symm, by simpa using hd⟩)
    refine ⟨hnext.retries, hnext.timers, hnext.answers, hnext.taskIds, ?_, hnext.resolved⟩
    intro id t ht
    rw [JsMap.get_erase] at ht
    split_ifs at ht
    exact hnext.tasks id t ht
  | timeout promise => exact hs.settled promise (.resolved none) (by simp)
  | spent promise hlogs => exact hs.spent promise hlogs
  | handled port m response => exact ⟨hs.retries, hs.timers, hs.answers, hs.taskIds, hs.tasks, hs.resolved⟩
  | respond port m taskId data settled hhandled htaskId hsettled =>
    exact hs.respond taskId data port hsettled

/-! #### What was posted and handled -/

/-- An answer is what a handler returned for a message at its port, a request is the message of a
promise, and every request received has a handler, done or not. -/
structure LogsInv (s : Thread δ) : Prop where
  answers : ∀ port m, (port, m) ∈ s.posts → m.type = .THREAD_RESPONSE →
    ∃ request data, ((port, request), some data) ∈ s.handled ∧ m.data = some data ∧
      request.taskId = m.taskId
  requests : (s.posts.filter isRequest).Sublist (s.sent.filter isRequest)
  handled : (s.running ++ s.handled.map Prod.fst).Perm (s.received.filter isRequest)

theorem logsInv_new (threadType : ThreadTypes) : LogsInv (new threadType : Thread δ) where
  answers := by simp [new]
  requests := List.Sublist.refl _
  handled := List.Perm.refl _

theorem mem_postsAfter {m m' : ThreadMessage δ} {port' : MessagePort}
    (h : (port', m') ∈ postsAfter env m port s) : (port', m') ∈ s.posts ∨ (port', m') = (port, m) := by
  unfold postsAfter at h
  split_ifs at h
  · rcases List.mem_append.mp h with h | h
    · exact .inl h
    · exact .inr (List.mem_singleton.mp h)
  · exact .inl h

theorem LogsInv.frame (hs : LogsInv s) (hsame : SameTasks s s') : LogsInv s' := by
  refine ⟨?_, ?_, ?_⟩
  · rw [hsame.posts, hsame.handled]
    exact hs.answers
  · unfold sent
    rw [hsame.posts, hsame.promises]
    exact hs.requests
  · rw [hsame.running, hsame.handled, hsame.received]
    exact hs.handled

theorem LogsInv.receive (hs : LogsInv s) (port : MessagePort) (m : ThreadMessage δ) :
    LogsInv (s.receive port m) := by
  refine ⟨hs.answers, hs.requests, ?_⟩
  unfold Thread.receive
  rw [List.filter_append]
  by_cases htype : m.type = .THREAD_RESPONSE
  · simpa [htype, isRequest] using hs.handled
  · simp only [htype, if_false, isRequest, ne_eq, not_false_eq_true, decide_true, List.filter_cons,
      if_true, List.filter_nil]
    -- The new one comes last on one side and before those that are done on the other.
    rw [List.append_assoc]
    refine (List.Perm.append_left _ List.perm_append_comm).trans ?_
    rw [← List.append_assoc]
    exact hs.handled.append_right _

theorem LogsInv.effect [DecidableEq δ] (hs : LogsInv s) (h : Effect env s s') : LogsInv s' := by
  cases h with
  | frame hsame hretries hlinks => exact hs.frame hsame
  | ask m port settled hasks hport hsettled =>
    refine ⟨?_, ?_, hs.handled⟩
    · intro port' m' hm' htype
      rcases mem_postsAfter hm' with h | h
      · exact hs.answers port' m' h htype
      · cases h
        exact absurd htype hasks.2
    · have hrequests := hs.requests
      unfold sent at hrequests ⊢
      unfold ask postsAfter
      split_ifs
      · simp only [List.map_append, List.map_cons, List.map_nil, List.filter_append, List.filter_cons,
          isRequest_request env hasks, if_true, List.filter_nil]
        exact hrequests.append_right _
      · rw [List.map_append, List.filter_append]
        exact hrequests.trans (List.sublist_append_left _ _)
  | settle taskId task settlement htask hsettled =>
    refine ⟨hs.answers, ?_, hs.handled⟩
    show (s.posts.filter isRequest).Sublist
      (((s.clearTimeout task.promise).settle task.promise settlement).sent.filter isRequest)
    rw [sent_settle]
    exact hs.requests
  | timeout promise =>
    refine ⟨hs.answers, ?_, hs.handled⟩
    show (s.posts.filter isRequest).Sublist _
    rw [sent_settle]
    exact hs.requests
  | spent promise hlogs =>
    refine ⟨hs.answers, ?_, hs.handled⟩
    show (s.posts.filter isRequest).Sublist _
    rw [sent_clearTimeout]
    exact hs.requests
  | handled port m response hrunning =>
    refine ⟨?_, hs.requests, ?_⟩
    · intro port' m' hm' htype
      obtain ⟨request, data, hhandled, hrest⟩ := hs.answers port' m' hm' htype
      exact ⟨request, data, List.mem_append_left _ hhandled, hrest⟩
    · refine List.Perm.trans ?_ hs.handled
      rw [List.map_append, ← List.append_assoc]
      refine List.perm_append_comm.trans ?_
      exact ((List.perm_cons_erase hrunning).append_right _).symm
  | respond port m taskId data settled hhandled htaskId hsettled =>
    refine ⟨?_, ?_, hs.handled⟩
    · intro port' m' hm' htype
      rcases mem_postsAfter hm' with h | h
      · exact hs.answers port' m' h htype
      · cases h
        exact ⟨m, data, hhandled, rfl, htaskId⟩
    · have hrequests := hs.requests
      unfold sent Thread.respond postsAfter at *
      split_ifs <;> simpa [isRequest] using hrequests

/-! #### What is pending -/

/-- No task id is generated twice. -/
def Fresh (env : Environment δ) (s : Thread δ) : Prop :=
  Set.InjOn env.generateTaskId {n | n < s.generated}

/-- A promise that is not settled has its task. -/
def PendingInv (s : Thread δ) : Prop :=
  ∀ k p, s.promises[k]? = some p → p.settled = none →
    ∃ taskId, p.message.taskId = some taskId ∧ s.tasks.get taskId = some ⟨k, p.port⟩

/-- Task ids are generated and messages posted, and nothing is received. -/
structure Posts (s s' : Thread δ) : Prop where
  generated : s.generated ≤ s'.generated
  received : s'.received = s.received
  posts : s.posts <+: s'.posts

theorem posts_of_effect [DecidableEq δ] (h : Effect env s s') : Posts s s' := by
  have hposts : ∀ m port, s.posts <+: postsAfter env m port s := by
    intro m port
    unfold postsAfter
    split_ifs
    · exact List.prefix_append _ _
    · exact List.prefix_rfl
  cases h with
  | frame hsame hretries hlinks =>
    exact ⟨hsame.generated.ge, hsame.received, hsame.posts ▸ List.prefix_rfl⟩
  | ask m port settled hasks hport hsettled => exact ⟨Nat.le_succ _, rfl, hposts _ _⟩
  | settle | timeout | spent | handled => exact ⟨le_rfl, rfl, List.prefix_rfl⟩
  | respond port m taskId data settled hhandled htaskId hsettled => exact ⟨le_rfl, rfl, hposts _ _⟩

theorem Fresh.mono {n : ℕ} (h : Set.InjOn env.generateTaskId {k | k < n}) (hle : s.generated ≤ n) :
    Fresh env s :=
  h.mono fun _ hk => lt_of_lt_of_le hk hle

theorem TasksInv.taskId_mem (hs : TasksInv env s) (hp : p ∈ s.promises)
    (htype : p.message.type ≠ .THREAD_RESPONSE) :
    ∃ n < s.generated, p.message.taskId = some (env.generateTaskId n) := by
  have hmem : p.message.taskId ∈ (s.sent.filter isRequest).map fun e => e.2.taskId := by
    refine List.mem_map.mpr ⟨(p.port, p.message), List.mem_filter.mpr ⟨?_, ?_⟩, rfl⟩
    · exact List.mem_map.mpr ⟨p, hp, rfl⟩
    · simpa [isRequest] using htype
  rw [hs.taskIds] at hmem
  obtain ⟨n, hn, htaskId⟩ := List.mem_map.mp hmem
  exact ⟨n, List.mem_range.mp hn, htaskId.symm⟩

theorem TasksInv.type_of_open (hs : TasksInv env s) (hp : p ∈ s.promises)
    (hopen : p.settled = none) : p.message.type ≠ .THREAD_RESPONSE := by
  intro htype
  rcases hs.answers p hp htype with h | h
  · cases h.symm.trans hopen
  · cases h.symm.trans hopen

theorem PendingInv.settled (hs : PendingInv s) (promise : ℕ) (settlement : Settlement δ) :
    PendingInv ((s.clearTimeout promise).settle promise settlement) ∧
      ∀ k p, ((s.clearTimeout promise).settle promise settlement).promises[k]? = some p →
        p.settled = none → k ≠ promise := by
  have hne : ∀ k p, ((s.clearTimeout promise).settle promise settlement).promises[k]? = some p →
      p.settled = none → k ≠ promise := by
    rintro k p hp hopen rfl
    rw [getElem?_promises_settle, Option.map_eq_some_iff] at hp
    obtain ⟨q, -, rfl⟩ := hp
    rw [if_pos rfl] at hopen
    exact settledWith_ne_none _ _ hopen
  refine ⟨fun k p hp hopen => ?_, hne⟩
  have hk := hne k p hp hopen
  rw [getElem?_promises_settle, Option.map_eq_some_iff] at hp
  obtain ⟨q, hq, rfl⟩ := hp
  rw [if_neg (Ne.symm hk)] at hopen ⊢
  exact hs k q hq hopen

theorem PendingInv.frame (hs : PendingInv s) (hsame : SameTasks s s') : PendingInv s' := by
  unfold PendingInv
  rw [hsame.promises, hsame.tasks]
  exact hs

theorem PendingInv.effect [DecidableEq δ] (hs : PendingInv s) (htasks : TasksInv env s)
    (hfresh : Fresh env s') (h : Effect env s s') : PendingInv s' := by
  cases h with
  | frame hsame hretries hlinks => exact hs.frame hsame
  | ask m port settled hasks hport hsettled =>
    intro k p hp hopen
    unfold ask at hp hfresh ⊢
    rcases Nat.lt_or_ge k s.promises.length with hk | hk
    · rw [List.getElem?_append_left hk] at hp
      obtain ⟨taskId, htaskId, htask⟩ := hs k p hp hopen
      have hmem := List.mem_of_getElem? hp
      obtain ⟨n, hn, hid⟩ := htasks.taskId_mem hmem (htasks.type_of_open hmem hopen)
      refine ⟨taskId, htaskId, ?_⟩
      rw [JsMap.get_set_of_ne _ _ ?_, htask]
      -- The new task id is another one.
      rintro rfl
      rw [htaskId, Option.some.injEq] at hid
      have heq := hfresh (Nat.lt_succ_self s.generated) (Nat.lt_succ_of_lt hn) hid
      omega
    · rw [List.getElem?_append_right hk, List.getElem?_singleton] at hp
      split_ifs at hp with hk'
      cases hp
      obtain rfl : k = s.promises.length := by omega
      exact ⟨_, rfl, JsMap.get_set_self _ _ _⟩
  | settle taskId task settlement htask hsettled =>
    obtain ⟨hnext, hne⟩ := hs.settled task.promise settlement
    intro k p hp hopen
    obtain ⟨id, hid, hget⟩ := hnext k p hp hopen
    have hother : id ≠ taskId := by
      rintro rfl
      cases htask.symm.trans hget
      exact hne k p hp hopen rfl
    refine ⟨id, hid, ?_⟩
    rw [JsMap.get_erase, if_neg hother]
    exact hget
  | timeout promise => exact (hs.settled promise (.resolved none)).1
  | spent promise hlogs =>
    intro k p hp hopen
    rw [getElem?_promises_clearTimeout, Option.map_eq_some_iff] at hp
    obtain ⟨q, hq, rfl⟩ := hp
    split_ifs at hopen ⊢
    · exact hs k q hq hopen
    · exact hs k q hq hopen
  | handled port m response hrunning => exact hs
  | respond port m taskId data settled hhandled htaskId hsettled =>
    intro k p hp hopen
    unfold respond at hp
    rcases Nat.lt_or_ge k s.promises.length with hk | hk
    · rw [List.getElem?_append_left hk] at hp
      exact hs k p hp hopen
    · rw [List.getElem?_append_right hk, List.getElem?_singleton] at hp
      split_ifs at hp
      cases hp
      cases hopen

/-- The tasks are those of ports that are linked. -/
def LiveInv (s : Thread δ) : Prop :=
  ∀ taskId task, s.tasks.get taskId = some task → (s.portMeta.get task.port).isSome

theorem LiveInv.effect [DecidableEq δ] (hs : LiveInv s) (h : Effect env s s') : LiveInv s' := by
  cases h with
  | frame hsame hretries hlinks =>
    intro taskId task htask
    rw [hsame.tasks] at htask
    exact hlinks.isSome _ (hs taskId task htask)
  | ask m port settled hasks hport hsettled =>
    intro taskId task htask
    rw [ask, JsMap.get_set] at htask
    split_ifs at htask
    · cases htask
      exact hport
    · exact hs taskId task htask
  | settle taskId task settlement htask hsettled =>
    intro id t ht
    rw [JsMap.get_erase] at ht
    split_ifs at ht
    exact hs id t ht
  | timeout | spent | handled | respond => exact hs

theorem sameLinks_of_effect [DecidableEq δ] (h : Effect env s s') : SameLinks s s' := by
  cases h with
  | frame hsame hretries hlinks => exact hlinks
  | ask | settle | timeout | spent | handled | respond => exact ⟨rfl, rfl, rfl, rfl, rfl, rfl⟩

/-! #### Together -/

structure MessagesInv (env : Environment δ) (s : Thread δ) : Prop where
  tasks : TasksInv env s
  logs : LogsInv s
  pending : Fresh env s → PendingInv s

theorem MessagesInv.frame (hs : MessagesInv env s) (hsame : SameTasks s s')
    (hretries : ∀ r ∈ s'.retries, Asks r.message) : MessagesInv env s' where
  tasks := hs.tasks.frame hsame hretries
  logs := hs.logs.frame hsame
  pending := fun hfresh => (hs.pending (Fresh.mono hfresh hsame.generated.ge)).frame hsame

theorem MessagesInv.effect [DecidableEq δ] (hs : MessagesInv env s) (h : Effect env s s') :
    MessagesInv env s' where
  tasks := hs.tasks.effect h
  logs := hs.logs.effect h
  pending := fun hfresh =>
    (hs.pending (Fresh.mono hfresh (posts_of_effect h).generated)).effect hs.tasks hfresh h

theorem MessagesInv.effects [DecidableEq δ] (hs : MessagesInv env s) (h : Effects env s s') :
    MessagesInv env s' := by
  induction h with
  | refl => exact hs
  | tail _ heffect ih => exact ih.effect heffect

theorem LiveInv.effects [DecidableEq δ] (hs : LiveInv s) (h : Effects env s s') : LiveInv s' := by
  induction h with
  | refl => exact hs
  | tail _ heffect ih => exact ih.effect heffect

theorem sameLinks_of_effects [DecidableEq δ] (h : Effects env s s') : SameLinks s s' := by
  induction h with
  | refl => exact SameLinks.refl _
  | tail _ heffect ih => exact ih.trans (sameLinks_of_effect heffect)

theorem posts_of_effects [DecidableEq δ] (h : Effects env s s') : Posts s s' := by
  induction h with
  | refl => exact ⟨le_rfl, rfl, List.prefix_rfl⟩
  | tail _ heffect ih =>
    have hnext := posts_of_effect heffect
    exact ⟨ih.generated.trans hnext.generated, hnext.received.trans ih.received,
      ih.posts.trans hnext.posts⟩

/-! ### What each method does -/

theorem getNextAvailableThread_cases (threadType : ThreadTypes) (s : Thread δ) :
    s.getNextAvailableThread threadType = (none, s) ∨
      ∃ port cursors, port ∈ s.relationsOf threadType ∧
        s.getNextAvailableThread threadType = (some port, { s with availableThreads := cursors }) := by
  unfold getNextAvailableThread
  by_cases hlength : (s.relationsOf threadType).length = 0
  · exact .inl (by simp [hlength])
  · have hlt := Nat.mod_lt (s.availableThreads threadType) (Nat.pos_of_ne_zero hlength)
    exact .inr ⟨_, _, List.getElem_mem hlt,
      by simp only [hlength, if_false, List.getElem?_eq_getElem hlt]; rfl⟩

theorem effect_retry [DecidableEq δ] {r : SendRetry δ} (hasks : Asks r.message) (s : Thread δ)
    (hretries : ∀ r ∈ s.retries, Asks r.message) (again : Prop) [Decidable again] :
    Effect env s
      (if again then { s with retries := s.retries ++ [r] } else { s with failed := s.failed + 1 }) := by
  split_ifs
  · refine .frame ⟨rfl, rfl, rfl, rfl, rfl, rfl, rfl⟩ ?_ ⟨rfl, rfl, rfl, rfl, rfl, rfl⟩
    intro r hr
    rcases List.mem_append.mp hr with hr | hr
    · exact hretries r hr
    · rw [List.mem_singleton.mp hr]
      exact hasks
  · exact .frame ⟨rfl, rfl, rfl, rfl, rfl, rfl, rfl⟩ hretries ⟨rfl, rfl, rfl, rfl, rfl, rfl⟩

theorem effect_onTimeout [DecidableEq δ] (env : Environment δ) (promise : ℕ) (s : Thread δ) :
    Effect env s (s.onTimeout env promise) := by
  simp only [onTimeout]
  split_ifs with hlogs
  · exact .timeout promise
  · refine .spent promise fun p hp => ?_
    rw [getElem?_promises_clearTimeout, hp, Option.map_some, if_pos rfl, Option.any_some] at hlogs
    exact Bool.eq_false_iff.mpr hlogs

theorem effects_sendMessageToThread [DecidableEq δ] (threadType : ThreadTypes) {m : ThreadMessage δ}
    (hasks : Asks m) (allowRetries : Bool) (i : ℕ) (s : Thread δ) (hs : LinksInv s)
    (hretries : ∀ r ∈ s.retries, Asks r.message) :
    Effects env s (s.sendMessageToThread env threadType m allowRetries i) := by
  unfold sendMessageToThread
  rcases getNextAvailableThread_cases threadType s with hnext | ⟨port, cursors, hport, hnext⟩
  · simp only [hnext]
    exact .single (effect_retry hasks s hretries _)
  · simp only [hnext]
    obtain ⟨threadId, hlinked⟩ := hs.mem_relationsOf.mp hport
    refine .tail (.single ?_) (effect_sendMessage hasks _ ?_)
    · exact .frame ⟨rfl, rfl, rfl, rfl, rfl, rfl, rfl⟩ hretries ⟨rfl, rfl, rfl, rfl, rfl, rfl⟩
    · rw [hlinked]
      rfl

theorem effects_foldl_sendMessage [DecidableEq δ] {m : ThreadMessage δ} (hasks : Asks m)
    (relation : List MessagePort) (s : Thread δ)
    (hports : ∀ port ∈ relation, (s.portMeta.get port).isSome) :
    Effects env s (relation.foldl (fun s port => s.sendMessage env m port) s) := by
  induction relation generalizing s with
  | nil => exact .refl
  | cons port relation ih =>
    have heffect : Effect env s _ := effect_sendMessage hasks s (hports port List.mem_cons_self)
    rw [List.foldl_cons]
    refine .head heffect (ih _ fun p hp => ?_)
    exact (sameLinks_of_effect heffect).isSome p (hports p (List.mem_cons_of_mem _ hp))

theorem effects_sendMessageToAllThreads [DecidableEq δ] (threadType : ThreadTypes)
    {m : ThreadMessage δ} (hasks : Asks m) (i : ℕ) (s : Thread δ) (hs : LinksInv s)
    (hretries : ∀ r ∈ s.retries, Asks r.message) :
    Effects env s (s.sendMessageToAllThreads env threadType m i) := by
  unfold sendMessageToAllThreads
  cases harray : s.threadRelationsArray threadType with
  | none => exact .single (effect_retry hasks s hretries _)
  | some relation =>
    refine effects_foldl_sendMessage hasks relation s fun port hport => ?_
    have hmem : port ∈ s.relationsOf threadType := by rwa [relationsOf, harray]
    obtain ⟨threadId, hlinked⟩ := hs.mem_relationsOf.mp hmem
    rw [hlinked]
    rfl

theorem effects_onThreadResponse [DecidableEq δ] {m : ThreadMessage δ} (s : Thread δ)
    (hreceived : (port, m) ∈ s.received) (htype : m.type = .THREAD_RESPONSE) :
    Effects env s (s.onThreadResponse m) := by
  unfold onThreadResponse
  cases htaskId : m.taskId with
  | none => exact .refl
  | some taskId =>
    simp only
    split_ifs
    · exact .refl
    · cases htask : s.tasks.get taskId with
      | none => exact .refl
      | some task =>
        exact .single (.settle taskId task (.resolved m.data) htask
          (.inr ⟨port, m, hreceived, htype, htaskId, rfl⟩))

theorem LinksInv.onPortMessage_eq (hs : LinksInv s) (hport : port ∈ s.listening)
    (m : ThreadMessage δ) :
    s.onPortMessage port m =
      if m.type = .THREAD_RESPONSE then (s.receive port m).onThreadResponse m else s.receive port m := by
  unfold onPortMessage
  rw [List.count_eq_one_of_mem hs.listening hport, Function.iterate_one]
  unfold onEventMessage receive
  split_ifs with htype <;> simp

/-! #### A thread died -/

theorem sameTasks_dropAll (threadType : ThreadTypes) (deadPorts : List MessagePort) (s : Thread δ) :
    SameTasks s (deadPorts.foldl (dropPort threadType) s) ∧
      (deadPorts.foldl (dropPort threadType) s).retries = s.retries ∧
      (deadPorts.foldl (dropPort threadType) s).listening = s.listening := by
  induction deadPorts generalizing s with
  | nil => exact ⟨⟨rfl, rfl, rfl, rfl, rfl, rfl, rfl⟩, rfl, rfl⟩
  | cons port deadPorts ih =>
    obtain ⟨h, hretries, hlistening⟩ := ih (s.dropPort threadType port)
    exact ⟨⟨h.promises, h.tasks, h.generated, h.received, h.posts, h.running, h.handled⟩, hretries,
      hlistening⟩

theorem cancelTask_cases (deadPorts : List MessagePort) (s : Thread δ) (taskId : String) :
    (s.cancelTask deadPorts taskId = s ∧
        ∀ task, s.tasks.get taskId = some task → task.port ∉ deadPorts) ∨
      ∃ task, s.tasks.get taskId = some task ∧
        s.cancelTask deadPorts taskId =
          { (s.clearTimeout task.promise).settle task.promise (.resolved none) with
            tasks := s.tasks.erase taskId } := by
  unfold cancelTask
  cases htask : s.tasks.get taskId with
  | none => exact .inl ⟨rfl, by simp⟩
  | some task =>
    by_cases hdead : task.port ∈ deadPorts
    · exact .inr ⟨task, rfl, by simp [hdead]⟩
    · refine .inl ⟨by simp [hdead], fun t ht => ?_⟩
      rwa [← Option.some.inj ht]

theorem cancelTasks_spec [DecidableEq δ] (env : Environment δ) (deadPorts : List MessagePort)
    (taskIds : List String) (s : Thread δ) :
    Effects env s (taskIds.foldl (cancelTask deadPorts) s) ∧
      (taskIds.foldl (cancelTask deadPorts) s).posts = s.posts ∧
      ∀ taskId task, (taskIds.foldl (cancelTask deadPorts) s).tasks.get taskId = some task →
        s.tasks.get taskId = some task ∧ (taskId ∈ taskIds → task.port ∉ deadPorts) := by
  induction taskIds generalizing s with
  | nil => exact ⟨.refl, rfl, by simp⟩
  | cons id taskIds ih =>
    obtain ⟨heffects, hposts, htasks⟩ := ih (s.cancelTask deadPorts id)
    rw [List.foldl_cons]
    rcases cancelTask_cases deadPorts s id with ⟨hsame, hopen⟩ | ⟨dead, hdead, hcancel⟩
    · rw [hsame] at heffects hposts htasks ⊢
      refine ⟨heffects, hposts, fun taskId task htask => ?_⟩
      obtain ⟨hbefore, hrest⟩ := htasks taskId task htask
      refine ⟨hbefore, fun hmem => ?_⟩
      rcases List.mem_cons.mp hmem with rfl | hmem
      · exact hopen task hbefore
      · exact hrest hmem
    · rw [hcancel] at heffects hposts htasks ⊢
      refine ⟨.head (.settle id dead (.resolved none) hdead (.inl rfl)) heffects, hposts,
        fun taskId task htask => ?_⟩
      obtain ⟨hbefore, hrest⟩ := htasks taskId task htask
      rw [JsMap.get_erase] at hbefore
      split_ifs at hbefore with hne
      refine ⟨hbefore, fun hmem => ?_⟩
      rcases List.mem_cons.mp hmem with heq | hmem
      · exact absurd heq hne
      · exact hrest hmem

structure Inv (env : Environment δ) (s : Thread δ) : Prop where
  links : LinksInv s
  messages : MessagesInv env s
  live : LiveInv s

theorem inv_new (env : Environment δ) (threadType : ThreadTypes) : Inv env (new threadType) where
  links := linksInv_new threadType
  messages := ⟨tasksInv_new env threadType, logsInv_new threadType, fun _ k p hp => by simp [new] at hp⟩
  live := by
    intro taskId task htask
    simp [new] at htask

theorem Inv.effects [DecidableEq δ] (hs : Inv env s) (h : Effects env s s') : Inv env s' :=
  ⟨(sameLinks_of_effects h).linksInv hs.links, hs.messages.effects h, hs.live.effects h⟩

theorem onUnlinkThread_spec [DecidableEq δ] (env : Environment δ) (threadType : ThreadTypes)
    (threadId : ℕ) (s : Thread δ) (hs : Inv env s) :
    Inv env (s.onUnlinkThread threadType threadId) ∧
      (s.onUnlinkThread threadType threadId).received = s.received ∧
      (∀ port, port ∈ (s.onUnlinkThread threadType threadId).closed ↔
        port ∈ s.closed ∨ s.portMeta.get port = some (threadType, threadId)) ∧
      (s.onUnlinkThread threadType threadId).listening = s.listening ∧
      (s.onUnlinkThread threadType threadId).posts = s.posts := by
  unfold onUnlinkThread
  by_cases hnone : (s.deadPorts threadType threadId).length = 0
  · simp only [hnone, if_true]
    refine ⟨hs, trivial, fun port => ?_, trivial, trivial⟩
    rw [← mem_deadPorts, List.length_eq_zero_iff.mp hnone]
    simp
  · simp only [hnone, if_false]
    generalize hdead : s.deadPorts threadType threadId = deadPorts
    have hmem : ∀ port, port ∈ deadPorts ↔ s.portMeta.get port = some (threadType, threadId) := by
      intro port
      rw [← hdead, mem_deadPorts]
    obtain ⟨hsame, hretries, hlistening⟩ := sameTasks_dropAll threadType deadPorts s
    obtain ⟨hclosed, hget⟩ := dropAll_spec threadType deadPorts s
    have hdropped : LinksInv (deadPorts.foldl (dropPort threadType) s) :=
      hs.links.dropAll deadPorts s (hdead ▸ nodup_deadPorts threadType threadId s) fun port hport =>
        ⟨threadId, (hmem port).mp hport⟩
    generalize deadPorts.foldl (dropPort threadType) s = dropped at *
    obtain ⟨heffects, hposts, htasks⟩ := cancelTasks_spec env deadPorts dropped.tasks.keys dropped
    generalize dropped.tasks.keys.foldl (cancelTask deadPorts) dropped = cancelled at *
    have hmessages : MessagesInv env cancelled := by
      refine (hs.messages.frame hsame ?_).effects heffects
      rw [hretries]
      exact hs.messages.tasks.retries
    have hlinks := sameLinks_of_effects heffects
    refine ⟨⟨?_, ?_, ?_⟩, (posts_of_effects heffects).received.trans hsame.received, ?_,
      hlinks.listening.trans hlistening, hposts.trans hsame.posts⟩
    · refine SameLinks.linksInv ?_ (hlinks.linksInv hdropped)
      exact ⟨rfl, rfl, rfl, rfl, rfl, rfl⟩
    · exact hmessages.frame ⟨rfl, rfl, rfl, rfl, rfl, rfl, rfl⟩ hmessages.tasks.retries
    · intro taskId task htask
      obtain ⟨hbefore, hdead'⟩ := htasks taskId task htask
      have hopen := hdead' (dropped.tasks.mem_keys_iff.mpr (by rw [hbefore]; rfl))
      rw [hsame.tasks] at hbefore
      show (cancelled.portMeta.get task.port).isSome
      rw [hlinks.portMeta, hget, if_neg hopen]
      exact hs.live taskId task hbefore
    · intro port
      show port ∈ cancelled.closed ↔ _
      rw [hlinks.closed, hclosed, List.mem_append, hmem]

/-! ### Steps -/

/-- The steps of a thread: effects, a message that comes in, a link, the end of another thread. -/
inductive Step [DecidableEq δ] (env : Environment δ) (s : Thread δ) : Thread δ → Prop where
  | effects {t : Thread δ} (h : Effects env s t) : Step env s t
  | message (port : MessagePort) (m : ThreadMessage δ) (hport : port ∈ s.listening) :
      Step env s (s.onPortMessage port m)
  | link (data : LinkData) (hnew : data.port ∉ s.listening) : Step env s (s.createInternalThreadLink data)
  | unlink (threadType : ThreadTypes) (threadId : ℕ) : Step env s (s.onUnlinkThread threadType threadId)

theorem effects_onRetry [DecidableEq δ] {r : SendRetry δ} (s : Thread δ) (hr : r ∈ s.retries)
    (hs : LinksInv s) (hretries : ∀ r ∈ s.retries, Asks r.message) : Effects env s (s.onRetry env r) := by
  have hrest : ∀ r' ∈ s.retries.erase r, Asks r'.message := fun r' hr' =>
    hretries r' (List.mem_of_mem_erase hr')
  have hlinks : LinksInv { s with retries := s.retries.erase r } := by
    refine SameLinks.linksInv ?_ hs
    exact ⟨rfl, rfl, rfl, rfl, rfl, rfl⟩
  have hframe : Effect env s { s with retries := s.retries.erase r } :=
    .frame ⟨rfl, rfl, rfl, rfl, rfl, rfl, rfl⟩ hrest ⟨rfl, rfl, rfl, rfl, rfl, rfl⟩
  unfold onRetry
  split_ifs
  · exact .head hframe (effects_sendMessageToAllThreads _ (hretries r hr) _ _ hlinks hrest)
  · exact .head hframe (effects_sendMessageToThread _ (hretries r hr) _ _ _ hlinks hrest)

theorem Inv.receive (hs : Inv env s) (port : MessagePort) (m : ThreadMessage δ) :
    Inv env (s.receive port m) where
  links := by
    refine SameLinks.linksInv ?_ hs.links
    exact ⟨rfl, rfl, rfl, rfl, rfl, rfl⟩
  messages := ⟨hs.messages.tasks.receive port m, hs.messages.logs.receive port m, hs.messages.pending⟩
  live := hs.live

theorem Inv.message [DecidableEq δ] (hs : Inv env s) (hport : port ∈ s.listening)
    (m : ThreadMessage δ) :
    Inv env (s.onPortMessage port m) ∧ SameLinks s (s.onPortMessage port m) ∧
      Effects env (s.receive port m) (s.onPortMessage port m) := by
  have hreceive := hs.receive port m
  have hlinks : SameLinks s (s.receive port m) := ⟨rfl, rfl, rfl, rfl, rfl, rfl⟩
  rw [hs.links.onPortMessage_eq hport]
  split_ifs with htype
  · have heffects : Effects env (s.receive port m) ((s.receive port m).onThreadResponse m) :=
      effects_onThreadResponse _ (List.mem_append_right _ (List.mem_singleton_self (port, m))) htype
    exact ⟨hreceive.effects heffects, hlinks.trans (sameLinks_of_effects heffects), heffects⟩
  · exact ⟨hreceive, hlinks, .refl⟩

theorem inv_link [DecidableEq δ] (hs : Inv env s) (data : LinkData) (hnew : data.port ∉ s.listening) :
    Inv env (s.createInternalThreadLink data) ∧ SameTasks s (s.createInternalThreadLink data) := by
  have hlinks := hs.links.link data hnew
  have hsame : SameTasks s (s.createInternalThreadLink data) := by
    unfold createInternalThreadLink
    split_ifs <;> exact ⟨rfl, rfl, rfl, rfl, rfl, rfl, rfl⟩
  have hretries : (s.createInternalThreadLink data).retries = s.retries := by
    unfold createInternalThreadLink
    split_ifs <;> rfl
  refine ⟨⟨hlinks, hs.messages.frame hsame (hretries ▸ hs.messages.tasks.retries), ?_⟩, hsame⟩
  intro taskId task htask
  rw [hsame.tasks] at htask
  have hlive := hs.live taskId task htask
  unfold createInternalThreadLink
  by_cases htype : s.threadType ≠ data.targetThreadType
  · simpa [htype] using hlive
  · simp only [htype, if_false, JsMap.get_set]
    by_cases hport : task.port = data.port
    · simp [hport]
    · simpa [hport] using hlive

/-- **Every step keeps the invariant.** -/
theorem Step.inv [DecidableEq δ] (hs : Inv env s) (h : Step env s s') : Inv env s' := by
  cases h with
  | effects heffects => exact hs.effects heffects
  | message port m hport => exact (hs.message hport m).1
  | link data hnew => exact (inv_link hs data hnew).1
  | unlink threadType threadId => exact (onUnlinkThread_spec env threadType threadId s hs).1

theorem listening_createInternalThreadLink (data : LinkData) (s : Thread δ) :
    (s.createInternalThreadLink data).listening = s.listening ∨
      (s.createInternalThreadLink data).listening = s.listening ++ [data.port] := by
  unfold createInternalThreadLink
  by_cases htype : s.threadType ≠ data.targetThreadType
  · exact .inl (by simp [htype])
  · exact .inr (by simp [htype])

end Thread

end OpnetNode
