import OpnetNode.Plugins.Equiv.PluginRegistry
import OpnetNode.Plugins.WorkerFailure

/-!
# What a failing worker leaves behind

Requests are settled once in every run: those settled and those pending are together the requests
made, each once (`Tables`).  The other tables depend on `handleWorkerCrash`, which does not record
that it has run, and which does not get past a crash that the manager refuses.  In runs where a
worker gives one of its two events only, and the crash of none of its plugins is refused
(`Orderly`), the workers that have not failed stay as many as there were, and each plugin of a
failed worker is reported once (`Survives`).
-/

namespace OpnetNode

namespace PluginWorkerPool

open Proc

variable {s : PluginWorkerPool}

/-! ### Changes to one worker -/

variable {α : Type}

theorem exists_modify {l : List α} {n : ℕ} {a : α} (h : l[n]? = some a) (f : α → α) :
    ∃ before after, l = before ++ a :: after ∧ l.modify n f = before ++ f a :: after ∧
      before.length = n := by
  obtain ⟨hn, rfl⟩ := List.getElem?_eq_some_iff.mp h
  refine ⟨l.take n, l.drop (n + 1), ?_, ?_, ?_⟩
  · rw [List.getElem_cons_drop, List.take_append_drop]
  · rw [List.modify_eq_take_cons_drop hn]
  · rw [List.length_take]
    omega

theorem modify_of_none {l : List α} {n : ℕ} (h : l[n]? = none) (f : α → α) : l.modify n f = l :=
  List.modify_eq_self (List.getElem?_eq_none_iff.mp h)

theorem getElem?_updateWorker (s : PluginWorkerPool) (workerId w : ℕ)
    (f : IWorkerInfo → IWorkerInfo) :
    (s.updateWorker workerId f).infos[w]? =
      if workerId = w then s.infos[w]?.map f else s.infos[w]? := by
  show (s.infos.modify workerId f)[w]? = _
  rw [List.getElem?_modify]
  split_ifs with h
  · rfl
  · exact Option.map_id' ..

variable {f : IWorkerInfo → IWorkerInfo}

theorem map_updateWorker (g : IWorkerInfo → α) (s : PluginWorkerPool) (workerId : ℕ)
    (h : ∀ info, g (f info) = g info) :
    (s.updateWorker workerId f).infos.map g = s.infos.map g := by
  show (s.infos.modify workerId f).map g = _
  cases hget : s.infos[workerId]? with
  | none => rw [modify_of_none hget]
  | some info =>
    obtain ⟨before, after, heq, hmodify, -⟩ := exists_modify hget f
    rw [hmodify, heq]
    simp [h]

/-! ### Every request is settled once -/

def pendingIds (s : PluginWorkerPool) : List ℕ :=
  s.infos.flatMap fun info => info.pendingRequests.map IPendingRequest.requestId

/-- The requests that were settled, by call. -/
def settledIds (s : PluginWorkerPool) : List ℕ := s.settlements.map Prod.fst

/-- Those settled and those pending are together the requests made, each once. -/
def Accounted (s : PluginWorkerPool) : Prop :=
  (s.settledIds ++ s.pendingIds).Perm (List.range s.nextRequestId)

variable {t : PluginWorkerPool}

theorem Accounted.congr (h : Accounted s)
    (hinfos : t.infos.map IWorkerInfo.pendingRequests = s.infos.map IWorkerInfo.pendingRequests)
    (hsettlements : t.settlements = s.settlements) (hnext : t.nextRequestId = s.nextRequestId) :
    Accounted t := by
  have hpending : t.pendingIds = s.pendingIds := by
    have hflat : ∀ u : PluginWorkerPool, u.pendingIds =
        (u.infos.map IWorkerInfo.pendingRequests).flatMap fun l => l.map IPendingRequest.requestId :=
      fun u => (List.flatMap_map ..).symm
    rw [hflat, hflat, hinfos]
  unfold Accounted settledIds
  rw [hpending, hsettlements, hnext]
  exact h

variable {workerId : ℕ}

theorem pendingIds_updateWorker {info : IWorkerInfo}
    (hget : s.infos[workerId]? = some info) (f : IWorkerInfo → IWorkerInfo) :
    ∃ before after,
      s.pendingIds = before ++ (info.pendingRequests.map IPendingRequest.requestId ++ after) ∧
      (s.updateWorker workerId f).pendingIds =
        before ++ ((f info).pendingRequests.map IPendingRequest.requestId ++ after) := by
  obtain ⟨before, after, heq, hmodify, -⟩ := exists_modify hget f
  let ids (infos : List IWorkerInfo) : List ℕ :=
    infos.flatMap fun info => info.pendingRequests.map IPendingRequest.requestId
  refine ⟨ids before, ids after, ?_, ?_⟩
  · unfold pendingIds
    rw [heq, List.flatMap_append, List.flatMap_cons]
  · show (s.infos.modify workerId f).flatMap _ = _
    rw [hmodify, List.flatMap_append, List.flatMap_cons]

/-- The tables that all events keep. -/
structure Tables (s : PluginWorkerPool) : Prop where
  accounted : Accounted s
  pool : ∀ w ∈ s.workers, w < s.infos.length

theorem length_updateWorker (s : PluginWorkerPool) (workerId : ℕ)
    (f : IWorkerInfo → IWorkerInfo) :
    (s.updateWorker workerId f).infos.length = s.infos.length :=
  List.length_modify ..

theorem Tables.congr (h : Tables s)
    (hinfos : t.infos.map IWorkerInfo.pendingRequests = s.infos.map IWorkerInfo.pendingRequests)
    (hsettlements : t.settlements = s.settlements) (hnext : t.nextRequestId = s.nextRequestId)
    (hworkers : t.workers ⊆ s.workers) : Tables t := by
  refine ⟨h.accounted.congr hinfos hsettlements hnext, fun w hw => ?_⟩
  have hlength := congrArg List.length hinfos
  rw [List.length_map, List.length_map] at hlength
  rw [hlength]
  exact h.pool w (hworkers hw)

theorem tables_sendMessage (h : Tables s) (hworker : workerId ∈ s.workers)
    (kind : RequestKind) (pluginId : String) : Tables (s.sendMessage workerId kind pluginId) := by
  obtain ⟨info, hget⟩ : ∃ info, s.infos[workerId]? = some info :=
    ⟨_, List.getElem?_eq_getElem (h.pool workerId hworker)⟩
  obtain ⟨before, after, hbefore, hafter⟩ := pendingIds_updateWorker hget fun info =>
    { info with
      pendingRequests := info.pendingRequests ++ [⟨s.nextRequestId, kind, pluginId⟩] }
  have haccounted := h.accounted
  refine ⟨?_, fun w hw => ?_⟩
  · unfold Accounted at haccounted ⊢
    rw [hbefore] at haccounted
    show (s.settledIds ++ (s.updateWorker workerId _).pendingIds).Perm
      (List.range (s.nextRequestId + 1))
    rw [hafter, List.range_succ]
    refine List.Perm.trans ?_ (haccounted.append_right [s.nextRequestId])
    simp only [List.map_append, List.map_cons, List.map_nil, List.append_assoc]
    refine (((List.perm_append_comm.append_left _).append_left _).append_left _)
  · show w < (s.updateWorker workerId _).infos.length
    rw [length_updateWorker]
    exact h.pool w hw

theorem tables_afterRequest (h : Tables s) (workerId : ℕ) (request : IPendingRequest)
    (success : Bool) : Tables (s.afterRequest workerId request success) := by
  unfold afterRequest
  split
  · split_ifs
    · exact h.congr (map_updateWorker _ s workerId fun _ => rfl) rfl rfl fun _ hw => hw
    · exact h
  · exact h.congr (map_updateWorker _ s workerId fun _ => rfl) rfl rfl fun _ hw => hw
  · exact h

theorem pendingOf_eq {info : IWorkerInfo} (hget : s.infos[workerId]? = some info) :
    s.pendingOf workerId = info.pendingRequests := by
  unfold pendingOf
  rw [hget]
  rfl

variable {request : IPendingRequest}

theorem exists_of_mem_pendingOf (h : request ∈ s.pendingOf workerId) :
    ∃ info, s.infos[workerId]? = some info ∧ request ∈ info.pendingRequests := by
  cases hget : s.infos[workerId]? with
  | none =>
    unfold pendingOf at h
    rw [hget] at h
    simp at h
  | some info =>
    rw [pendingOf_eq hget] at h
    exact ⟨info, rfl, h⟩

theorem tables_settle (h : Tables s)
    (hrequest : request ∈ s.pendingOf workerId) (settlement : Settlement) :
    Tables (s.settle workerId request settlement) := by
  obtain ⟨info, hget, hmem⟩ := exists_of_mem_pendingOf hrequest
  obtain ⟨before, after, hbefore, hafter⟩ := pendingIds_updateWorker hget fun info =>
    { info with pendingRequests := info.pendingRequests.erase request }
  have haccounted := h.accounted
  refine ⟨?_, fun w hw => ?_⟩
  · unfold Accounted at haccounted ⊢
    rw [hbefore] at haccounted
    refine List.Perm.trans ?_ haccounted
    show (List.map Prod.fst (s.settlements ++ [(request.requestId, settlement)]) ++
      (s.updateWorker workerId _).pendingIds).Perm _
    rw [hafter, List.map_append, List.append_assoc]
    refine List.Perm.append_left _ ?_
    have hperm := (List.perm_cons_erase hmem).map IPendingRequest.requestId
    rw [List.map_cons] at hperm
    show (request.requestId :: (before ++ _)).Perm _
    refine List.perm_middle.symm.trans ?_
    exact (hperm.symm.append_right after).append_left before
  · show w < (s.updateWorker workerId _).infos.length
    rw [length_updateWorker]
    exact h.pool w hw

theorem tables_rejectAll (h : Tables s) (workerId : ℕ) (error : String) :
    Tables (s.rejectAll workerId error) := by
  refine ⟨?_, fun w hw => ?_⟩
  · cases hget : s.infos[workerId]? with
    | none =>
      have hpending : s.pendingOf workerId = [] := by
        unfold pendingOf
        rw [hget]
        rfl
      refine h.accounted.congr ?_ ?_ rfl
      · show (s.infos.modify workerId _).map _ = _
        rw [modify_of_none hget]
      · unfold rejectAll
        rw [hpending, List.map_nil, List.append_nil]
    | some info =>
      -- the requests move from those that are pending to those that are settled
      obtain ⟨before, after, hbefore, hafter⟩ := pendingIds_updateWorker hget fun info =>
        { info with pendingRequests := [] }
      have haccounted := h.accounted
      unfold Accounted at haccounted ⊢
      rw [hbefore] at haccounted
      refine List.Perm.trans ?_ haccounted
      show (List.map Prod.fst (s.settlements ++ (s.pendingOf workerId).map _) ++
        (s.updateWorker workerId _).pendingIds).Perm _
      rw [hafter, pendingOf_eq hget, List.map_append, List.map_map, List.append_assoc]
      refine List.Perm.append_left _ ?_
      rw [List.map_nil, List.nil_append, ← List.append_assoc, ← List.append_assoc]
      exact List.perm_append_comm.append_right after
  · show w < (s.updateWorker workerId _).infos.length
    rw [length_updateWorker]
    exact h.pool w hw

theorem tables_createWorker (h : Tables s) : Tables s.createWorker := by
  refine ⟨?_, fun w hw => ?_⟩
  · have hpending : s.createWorker.pendingIds = s.pendingIds := by
      unfold pendingIds createWorker
      simp
    unfold Accounted
    rw [hpending]
    exact h.accounted
  · have hlt := h.pool w hw
    show w < (s.infos ++ [_]).length
    rw [List.length_append]
    omega

theorem onPluginCrash_spec (pluginId : String) (s : PluginWorkerPool) :
    ∃ registry, (onPluginCrash pluginId s).2 = { s with registry } := by
  unfold onPluginCrash
  cases s.registry.get pluginId with
  | none => exact ⟨s.registry, rfl⟩
  | some plugin =>
    cases s.registry.setState pluginId .crashed with
    | error refused => exact ⟨s.registry, rfl⟩
    | ok registry => exact ⟨registry, rfl⟩

theorem keeps_tables_handlePluginCrash (source : Option ℕ) (error pluginId : String) :
    Keeps Tables (handlePluginCrash source error pluginId) := by
  unfold handlePluginCrash
  refine keeps_bind (keeps_modify fun s hs => hs.congr rfl rfl rfl fun _ hw => hw) fun _ => ?_
  intro s hs
  obtain ⟨registry, heq⟩ := onPluginCrash_spec pluginId s
  rw [heq]
  exact hs.congr rfl rfl rfl fun _ hw => hw

theorem keeps_tables_handleWorkerCrash (workerId : ℕ) (error : String) :
    Keeps Tables (handleWorkerCrash workerId error) := by
  unfold handleWorkerCrash
  refine keeps_bind (keeps_modify fun s hs => tables_rejectAll hs workerId error) fun _ => ?_
  refine keeps_get_bind fun s hs => ?_
  refine keeps_bind (keeps_forEach (keeps_tables_handlePluginCrash _ _) _) (fun _ => ?_) s hs
  refine keeps_bind (keeps_modify fun s hs => hs.congr rfl rfl rfl (List.erase_subset ..))
    fun _ => ?_
  refine keeps_get_bind fun s hs => ?_
  split_ifs
  · exact hs
  · exact tables_createWorker hs

theorem tables_noteFailure (h : Tables s) (workerId : ℕ) : Tables (s.noteFailure workerId) := by
  unfold noteFailure
  split
  · exact h
  · split_ifs
    · exact h
    · exact h.congr (map_updateWorker _ s workerId fun _ => rfl) rfl rfl fun _ hw => hw

theorem tables_workerFails (h : Tables s) (workerId : ℕ) (error : String) :
    Tables (s.workerFails workerId error) := by
  unfold workerFails
  have hstart : Tables (handleWorkerCrash workerId error (s.noteFailure workerId)).2 :=
    keeps_tables_handleWorkerCrash workerId error _ (tables_noteFailure h workerId)
  generalize (handleWorkerCrash workerId error (s.noteFailure workerId)).2 = t at hstart
  generalize s.pendingOf workerId = requests
  induction requests generalizing t with
  | nil => exact hstart
  | cons request requests ih => exact ih _ (tables_afterRequest hstart workerId request false)

theorem tables_readyHandler (h : Tables s) (workerId : ℕ) (response : WorkerResponse) :
    Tables (readyHandler workerId response s) := by
  unfold readyHandler
  split
  · exact h
  · next info hget =>
    split_ifs
    · refine ⟨h.accounted.congr (map_updateWorker _ s workerId fun _ => rfl) rfl rfl, ?_⟩
      intro w hw
      show w < (s.updateWorker workerId _).infos.length
      rw [length_updateWorker]
      rcases List.mem_append.mp hw with hw | hw
      · exact h.pool w hw
      · obtain rfl := List.mem_singleton.mp hw
        exact (List.getElem?_eq_some_iff.mp hget).1
    · exact h.congr (map_updateWorker _ s workerId fun _ => rfl) rfl rfl fun _ hw => hw
    · exact h

theorem mem_of_pending {requestId : ℕ} (h : s.pending workerId requestId = some request) :
    request ∈ s.pendingOf workerId := List.mem_of_find?_eq_some h

theorem keeps_tables_onMessage (workerId : ℕ) (response : WorkerResponse) :
    Keeps Tables (onMessage workerId response) := by
  unfold onMessage
  refine keeps_bind ?_ fun _ => keeps_modify fun s hs => tables_readyHandler hs workerId response
  cases response with
  | ready => exact keeps_pure ()
  | pluginCrashed pluginId errorMessage => exact keeps_tables_handlePluginCrash _ _ _
  | answer requestId success =>
    refine keeps_modify fun s hs => ?_
    split
    · exact hs
    · next request hpending =>
      exact tables_afterRequest (tables_settle hs (mem_of_pending hpending) _) _ _ _

theorem tables_request (h : Tables s) (kind : RequestKind) (pluginId : String) :
    Tables (PluginWorkerPool.request kind pluginId s) := by
  unfold PluginWorkerPool.request
  split
  · exact h
  · split_ifs with hworker
    · exact tables_sendMessage h hworker _ _
    · exact h

/-- **Every event keeps the requests accounted for.** -/
theorem tables_step {s' : PluginWorkerPool} {event : Event} (h : Tables s)
    (hstep : step s event = some s') : Tables s' := by
  cases event with
  | loadPlugin pluginId =>
    cases hstep
    unfold loadPlugin
    dsimp only
    split_ifs with hworker
    · exact tables_sendMessage h hworker _ _
    · exact h
  | unloadPlugin | request =>
    cases hstep
    exact tables_request h _ _
  | timeout workerId requestId timeoutMs =>
    simp only [step] at hstep
    split at hstep
    · cases hstep
    · next request hpending =>
      cases hstep
      exact tables_afterRequest (tables_settle h (mem_of_pending hpending) _) _ _ _
  | message workerId response =>
    simp only [step] at hstep
    split_ifs at hstep
    cases hstep
    exact keeps_tables_onMessage workerId response s h
  | workerError workerId message =>
    simp only [step] at hstep
    split_ifs at hstep
    cases hstep
    exact tables_workerFails h workerId message
  | workerExit workerId code =>
    -- an exit during a shutdown only marks the worker as exited
    have hexited : Tables (s.updateWorker workerId fun info => { info with exited := true }) :=
      h.congr (map_updateWorker _ s workerId fun _ => rfl) rfl rfl fun _ hw => hw
    simp only [step] at hstep
    split_ifs at hstep
    · cases hstep
      exact tables_workerFails hexited workerId _
    · cases hstep
      exact hexited
  | managed registry =>
    cases hstep
    exact h.congr rfl rfl rfl fun _ hw => hw

/-! ### What does not fail a worker -/

def flags (s : PluginWorkerPool) : List Bool := s.infos.map IWorkerInfo.failed

/-- The plugins that were reported because a worker failed, in the order of the calls. -/
def reportsOf (s : PluginWorkerPool) (workerId : ℕ) : List String :=
  (s.crashes.filter fun crash => crash.workerId = some workerId).map CrashReport.pluginId

def UniquePlugins (s : PluginWorkerPool) : Prop := ∀ info ∈ s.infos, info.plugins.Nodup

/-- No worker has failed from the one state to the other. -/
structure Unfailing (s t : PluginWorkerPool) : Prop where
  flags : t.flags = s.flags
  failures : t.failures = s.failures
  reports : ∀ workerId, t.reportsOf workerId = s.reportsOf workerId
  isShuttingDown : t.isShuttingDown = s.isShuttingDown
  plugins : UniquePlugins s → UniquePlugins t

theorem Unfailing.refl (s : PluginWorkerPool) : Unfailing s s :=
  ⟨rfl, rfl, fun _ => rfl, rfl, id⟩

theorem Unfailing.trans {s u : PluginWorkerPool} (h : Unfailing s t) (h' : Unfailing t u) :
    Unfailing s u :=
  ⟨h'.flags.trans h.flags, h'.failures.trans h.failures,
    fun w => (h'.reports w).trans (h.reports w), h'.isShuttingDown.trans h.isShuttingDown,
    fun hs => h'.plugins (h.plugins hs)⟩

theorem uniquePlugins_updateWorker (h : UniquePlugins s) (workerId : ℕ)
    (hf : ∀ info, info.plugins.Nodup → (f info).plugins.Nodup) :
    UniquePlugins (s.updateWorker workerId f) := by
  intro info hinfo
  obtain ⟨w, hw⟩ := List.mem_iff_getElem?.mp hinfo
  rw [getElem?_updateWorker] at hw
  split_ifs at hw
  · obtain ⟨old, hold, rfl⟩ := Option.map_eq_some_iff.mp hw
    exact hf old (h old (List.mem_of_getElem? hold))
  · exact h info (List.mem_of_getElem? hw)

theorem Unfailing.congr {s u : PluginWorkerPool} (h : Unfailing s t) (hinfos : u.infos = t.infos)
    (hcrashes : u.crashes = t.crashes) (hfailures : u.failures = t.failures)
    (hshutting : u.isShuttingDown = t.isShuttingDown) : Unfailing s u := by
  refine h.trans ⟨?_, hfailures, fun w => ?_, hshutting, fun ht => ?_⟩
  · unfold PluginWorkerPool.flags
    rw [hinfos]
  · unfold reportsOf
    rw [hcrashes]
  · unfold UniquePlugins
    rw [hinfos]
    exact ht

theorem unfailing_of_modify
    (hinfos : t.infos = s.infos.modify workerId f) (hcrashes : t.crashes = s.crashes)
    (hfailures : t.failures = s.failures) (hshutting : t.isShuttingDown = s.isShuttingDown)
    (hfailed : ∀ info, (f info).failed = info.failed)
    (hplugins : ∀ info, info.plugins.Nodup → (f info).plugins.Nodup) : Unfailing s t :=
  Unfailing.congr (t := s.updateWorker workerId f)
    ⟨map_updateWorker _ s workerId hfailed, rfl, fun _ => rfl, rfl,
      fun hs => uniquePlugins_updateWorker hs workerId hplugins⟩
    hinfos hcrashes hfailures hshutting

theorem unfailing_sendMessage (s : PluginWorkerPool) (workerId : ℕ) (kind : RequestKind)
    (pluginId : String) : Unfailing s (s.sendMessage workerId kind pluginId) :=
  unfailing_of_modify rfl rfl rfl rfl (fun _ => rfl) fun _ h => h

theorem unfailing_afterRequest (s : PluginWorkerPool) (workerId : ℕ) (request : IPendingRequest)
    (success : Bool) : Unfailing s (s.afterRequest workerId request success) := by
  unfold afterRequest
  split
  · split_ifs
    · exact unfailing_of_modify rfl rfl rfl rfl (fun _ => rfl) fun _ h => nodup_addToSet h _
    · exact Unfailing.refl s
  · exact unfailing_of_modify rfl rfl rfl rfl (fun _ => rfl) fun _ h => h.erase _
  · exact Unfailing.refl s

theorem unfailing_settle (s : PluginWorkerPool) (workerId : ℕ) (request : IPendingRequest)
    (settlement : Settlement) : Unfailing s (s.settle workerId request settlement) :=
  unfailing_of_modify rfl rfl rfl rfl (fun _ => rfl) fun _ h => h

theorem unfailing_readyHandler (s : PluginWorkerPool) (workerId : ℕ) (response : WorkerResponse) :
    Unfailing s (readyHandler workerId response s) := by
  unfold readyHandler
  split
  · exact Unfailing.refl s
  · split_ifs
    · exact unfailing_of_modify rfl rfl rfl rfl (fun _ => rfl) fun _ h => h
    · exact unfailing_of_modify rfl rfl rfl rfl (fun _ => rfl) fun _ h => h
    · exact Unfailing.refl s

theorem keeps_unfailing_handlePluginCrash (error pluginId : String) :
    Keeps (Unfailing s) (handlePluginCrash none error pluginId) := by
  unfold handlePluginCrash
  refine keeps_bind (keeps_modify fun t ht => ht.trans ⟨rfl, rfl, fun w => ?_, rfl, id⟩) fun _ => ?_
  · simp [reportsOf]
  · intro t ht
    obtain ⟨registry, heq⟩ := onPluginCrash_spec pluginId t
    rw [heq]
    exact ht.congr rfl rfl rfl rfl

theorem keeps_unfailing_onMessage (workerId : ℕ) (response : WorkerResponse) :
    Keeps (Unfailing s) (onMessage workerId response) := by
  unfold onMessage
  refine keeps_bind ?_ fun _ => keeps_modify fun t ht =>
    ht.trans (unfailing_readyHandler t workerId response)
  cases response with
  | ready => exact keeps_pure ()
  | pluginCrashed pluginId errorMessage => exact keeps_unfailing_handlePluginCrash _ _
  | answer requestId success =>
    refine keeps_modify fun t ht => ?_
    split
    · exact ht
    · exact (ht.trans (unfailing_settle t _ _ _)).trans (unfailing_afterRequest _ _ _ _)

theorem unfailing_request (s : PluginWorkerPool) (kind : RequestKind) (pluginId : String) :
    Unfailing s (PluginWorkerPool.request kind pluginId s) := by
  unfold PluginWorkerPool.request
  split
  · exact Unfailing.refl s
  · split_ifs
    · exact unfailing_sendMessage s _ _ _
    · exact Unfailing.refl s

/-! ### A worker fails -/

/-- The registry lets a plugin go over to crashed, if it has it. -/
def CrashAllowed (r : PluginRegistry) (pluginId : String) : Prop :=
  ∀ plugin, r.get pluginId = some plugin → plugin.state.isValidStateTransition .crashed = true

theorem setState_crashed {r : PluginRegistry} {pluginId : String} {plugin : RegisteredPlugin}
    (hget : r.get pluginId = some plugin)
    (hvalid : plugin.state.isValidStateTransition .crashed = true) :
    r.setState pluginId .crashed = .ok (r.put { plugin with state := .crashed }) := by
  unfold PluginRegistry.setState
  rw [hget]
  exact if_neg (by rw [hvalid]; exact Bool.noConfusion)

/-- The pool when it has told the manager of a crash. -/
def reported (source : Option ℕ) (error pluginId : String) (s : PluginWorkerPool) :
    PluginWorkerPool :=
  { s with
    pluginWorkerMap := s.pluginWorkerMap.erase pluginId
    crashes := s.crashes ++ [⟨source, pluginId, error⟩] }

theorem handlePluginCrash_eq (source : Option ℕ) (error : String) {pluginId : String}
    (h : CrashAllowed s.registry pluginId) :
    ∃ registry, handlePluginCrash source error pluginId s =
        (.ok (), { reported source error pluginId s with registry }) ∧
      ∀ q, q ≠ pluginId → registry.get q = s.registry.get q := by
  show ∃ registry, onPluginCrash pluginId (reported source error pluginId s) = _ ∧ _
  have hregistry : (reported source error pluginId s).registry = s.registry := rfl
  unfold onPluginCrash
  rw [hregistry]
  cases hget : s.registry.get pluginId with
  | none => exact ⟨s.registry, rfl, fun _ _ => rfl⟩
  | some plugin =>
    rw [setState_crashed hget (h plugin hget)]
    refine ⟨s.registry.put { plugin with state := .crashed }, rfl, fun q hq => ?_⟩
    rw [PluginRegistry.get_put, if_neg]
    rw [PluginRegistry.id_of_get hget]
    exact hq

theorem forEach_handlePluginCrash (source : Option ℕ) (error : String) {plugins : List String}
    (hnodup : plugins.Nodup) (h : ∀ p ∈ plugins, CrashAllowed s.registry p) :
    ∃ registry pluginWorkerMap, forEach (handlePluginCrash source error) plugins s =
      (.ok (), { s with
        pluginWorkerMap
        registry
        crashes := s.crashes ++ plugins.map fun p => ⟨source, p, error⟩ }) := by
  induction plugins generalizing s with
  | nil =>
    refine ⟨s.registry, s.pluginWorkerMap, ?_⟩
    rw [List.map_nil, List.append_nil]
    rfl
  | cons p rest ih =>
    rw [List.nodup_cons] at hnodup
    obtain ⟨registry, hp, hsame⟩ := handlePluginCrash_eq source error (h p List.mem_cons_self)
    have hrest : ∀ q ∈ rest, CrashAllowed registry q := by
      intro q hq plugin hget
      rw [hsame q fun heq => hnodup.1 (heq ▸ hq)] at hget
      exact h q (List.mem_cons_of_mem p hq) plugin hget
    obtain ⟨registry', pluginWorkerMap, heq⟩ :=
      @ih { reported source error p s with registry } hnodup.2 hrest
    refine ⟨registry', pluginWorkerMap, ?_⟩
    refine (bind_of_ok hp).trans ?_
    rw [heq]
    simp [reported]

/-- A worker can fail: it has not failed, and the manager refuses the crash of none of its plugins. -/
def CanFail (s : PluginWorkerPool) (workerId : ℕ) : Prop :=
  s.runs workerId = true ∧ ∀ p ∈ s.pluginsOf workerId, CrashAllowed s.registry p

theorem handleWorkerCrash_eq (error : String) (hshutting : s.isShuttingDown = false)
    (hnodup : (s.pluginsOf workerId).Nodup)
    (h : ∀ p ∈ s.pluginsOf workerId, CrashAllowed s.registry p) :
    ∃ registry pluginWorkerMap, handleWorkerCrash workerId error s =
      (.ok (), createWorker { s.rejectAll workerId error with
        pluginWorkerMap
        registry
        crashes := s.crashes ++ (s.pluginsOf workerId).map fun p => ⟨some workerId, p, error⟩
        workers := s.workers.erase workerId }) := by
  have hplugins : (s.rejectAll workerId error).pluginsOf workerId = s.pluginsOf workerId := by
    have hget : (s.rejectAll workerId error).infos[workerId]? =
        s.infos[workerId]?.map fun info => { info with pendingRequests := [] } :=
      (getElem?_updateWorker s workerId workerId _).trans (if_pos rfl)
    unfold pluginsOf
    rw [hget, Option.map_map]
    rfl
  obtain ⟨registry, pluginWorkerMap, heq⟩ := @forEach_handlePluginCrash
    (s.rejectAll workerId error) (some workerId) error (s.pluginsOf workerId) hnodup h
  refine ⟨registry, pluginWorkerMap, ?_⟩
  show bindResult _ _ = _
  rw [hplugins, heq, bindResult_ok]
  have hlive : ¬ s.isShuttingDown = true := by
    rw [hshutting]
    exact Bool.noConfusion
  show (if s.isShuttingDown = true then (pure () : PoolM Unit) else Proc.modify createWorker) _ = _
  rw [if_neg hlive]
  rfl

/-- The workers that have not failed are as many as at the start, and the plugins of those that have
were reported. -/
structure Survives (workerCount : ℕ) (s : PluginWorkerPool) : Prop where
  live : s.flags.count false = workerCount
  created : s.infos.length = workerCount + s.failures.length
  isShuttingDown : s.isShuttingDown = false
  plugins : UniquePlugins s
  failed : ∀ workerId, workerId ∈ s.failures.map Prod.fst ↔ s.flags[workerId]? = some true
  once : (s.failures.map Prod.fst).Nodup
  reports : ∀ failure ∈ s.failures, s.reportsOf failure.1 = failure.2 ∧ failure.2.Nodup
  others : ∀ workerId, workerId ∉ s.failures.map Prod.fst → s.reportsOf workerId = []

variable {workerCount : ℕ}

theorem Survives.congr (h : Survives workerCount s) (hs : Unfailing s t) :
    Survives workerCount t := by
  obtain ⟨hflags, hfailures, hreports, hshutting, hplugins⟩ := hs
  have hlength : t.infos.length = s.infos.length := by
    have hmap := congrArg List.length hflags
    rwa [flags, flags, List.length_map, List.length_map] at hmap
  constructor
  · rw [hflags]
    exact h.live
  · rw [hlength, hfailures]
    exact h.created
  · rw [hshutting]
    exact h.isShuttingDown
  · exact hplugins h.plugins
  · rw [hfailures, hflags]
    exact h.failed
  · rw [hfailures]
    exact h.once
  · intro failure hfailure
    rw [hfailures] at hfailure
    rw [hreports]
    exact h.reports failure hfailure
  · intro workerId hworker
    rw [hfailures] at hworker
    rw [hreports]
    exact h.others workerId hworker

theorem exists_of_runs (h : s.runs workerId = true) :
    ∃ info, s.infos[workerId]? = some info ∧ info.failed = false := by
  unfold runs at h
  cases hget : s.infos[workerId]? with
  | none =>
    rw [hget] at h
    cases h
  | some info =>
    rw [hget, Option.map_some, Option.getD_some] at h
    exact ⟨info, rfl, by simpa using h⟩

/-- The pool after the first event of a failed worker. -/
theorem handleWorkerCrash_noteFailure (error : String)
    (h : Survives workerCount s) (hfail : CanFail s workerId) :
    ∃ t, handleWorkerCrash workerId error (s.noteFailure workerId) = (.ok (), t) ∧
      t.flags = s.flags.set workerId true ++ [false] ∧
      t.failures = s.failures ++ [(workerId, s.pluginsOf workerId)] ∧
      t.crashes = s.crashes ++ (s.pluginsOf workerId).map (fun p => ⟨some workerId, p, error⟩) ∧
      t.isShuttingDown = false ∧ UniquePlugins t := by
  obtain ⟨hruns, hallowed⟩ := hfail
  obtain ⟨info, hget, hinfo⟩ := exists_of_runs hruns
  have hplugins : s.pluginsOf workerId = info.plugins := by
    unfold pluginsOf
    rw [hget]
    rfl
  have hnote : s.noteFailure workerId =
      { s.updateWorker workerId fun info => { info with failed := true } with
        failures := s.failures ++ [(workerId, s.pluginsOf workerId)] } := by
    unfold noteFailure
    rw [hget, hplugins]
    exact if_neg (by rw [hinfo]; exact Bool.noConfusion)
  have hsame : (s.noteFailure workerId).pluginsOf workerId = s.pluginsOf workerId := by
    rw [hplugins, hnote]
    show ((s.updateWorker workerId _).infos[workerId]?.map IWorkerInfo.plugins).getD [] = _
    rw [getElem?_updateWorker, if_pos rfl, hget]
    rfl
  have hunique : UniquePlugins (s.noteFailure workerId) := by
    rw [hnote]
    exact uniquePlugins_updateWorker h.plugins workerId fun _ hp => hp
  have hnodup : (s.pluginsOf workerId).Nodup := by
    rw [hplugins]
    exact h.plugins info (List.mem_of_getElem? hget)
  have hregistry : (s.noteFailure workerId).registry = s.registry := by
    rw [hnote]
    rfl
  have hcrashes : (s.noteFailure workerId).crashes = s.crashes := by
    rw [hnote]
    rfl
  -- the handling of the crash reads neither the flag nor the record of the failures
  obtain ⟨registry, pluginWorkerMap, heq⟩ := @handleWorkerCrash_eq (s.noteFailure workerId)
    workerId error (by rw [hnote]; exact h.isShuttingDown) (by rwa [hsame])
    (by rwa [hsame, hregistry])
  refine ⟨_, heq, ?_, ?_, ?_, ?_, ?_⟩
  · -- the flag is set in place, and the replacement is created behind the others
    have hrejected : ((s.noteFailure workerId).rejectAll workerId error).flags =
        (s.noteFailure workerId).flags := map_updateWorker _ _ workerId fun _ => rfl
    have hnoted : (s.noteFailure workerId).flags = s.flags.set workerId true := by
      obtain ⟨before, after, hinfos, hmodify, hlength⟩ :=
        exists_modify hget fun info => { info with failed := true }
      have hflags : s.flags = before.map IWorkerInfo.failed ++
          info.failed :: after.map IWorkerInfo.failed := by
        unfold flags
        rw [hinfos, List.map_append, List.map_cons]
      rw [hnote, hflags]
      show (s.infos.modify workerId _).map IWorkerInfo.failed = _
      rw [hmodify, List.map_append, List.map_cons, List.set_append_right _ _ (by simp [hlength])]
      simp [hlength]
    show (((s.noteFailure workerId).rejectAll workerId error).infos ++ [_]).map
      IWorkerInfo.failed = _
    rw [List.map_append]
    show ((s.noteFailure workerId).rejectAll workerId error).flags ++ [false] = _
    rw [hrejected, hnoted]
  · show (s.noteFailure workerId).failures = _
    rw [hnote]
  · show (s.noteFailure workerId).crashes ++ _ = _
    rw [hcrashes, hsame]
  · show (s.noteFailure workerId).isShuttingDown = false
    rw [hnote]
    exact h.isShuttingDown
  · have hrejected : UniquePlugins ((s.noteFailure workerId).rejectAll workerId error) :=
      uniquePlugins_updateWorker hunique workerId fun _ hp => hp
    intro info hinfo
    rcases List.mem_append.mp hinfo with hinfo | hinfo
    · exact hrejected info hinfo
    · obtain rfl := List.mem_singleton.mp hinfo
      exact List.nodup_nil

/-- What is reported because of one worker does not count for another. -/
theorem reportsOf_append {error : String} {l : List String}
    (h : t.crashes = s.crashes ++ l.map fun p => ⟨some workerId, p, error⟩) (w : ℕ) :
    t.reportsOf w = s.reportsOf w ++ if w = workerId then l else [] := by
  unfold reportsOf
  rw [h, List.filter_append, List.map_append, List.filter_map]
  split_ifs with hw
  · subst hw
    simp [Function.comp_def]
  · have hne : workerId ≠ w := fun heq => hw heq.symm
    simp [Function.comp_def, hne]

theorem length_flags (s : PluginWorkerPool) : s.flags.length = s.infos.length := List.length_map ..

theorem survives_handleWorkerCrash (error : String) (h : Survives workerCount s)
    (hfail : CanFail s workerId) :
    Survives workerCount (handleWorkerCrash workerId error (s.noteFailure workerId)).2 := by
  obtain ⟨t, heq, hflags, hfailures, hcrashes, hshutting, hunique⟩ :=
    handleWorkerCrash_noteFailure error h hfail
  rw [heq]
  show Survives workerCount t
  obtain ⟨info, hget, hinfo⟩ := exists_of_runs hfail.1
  have hflag : s.flags[workerId]? = some false := by
    unfold flags
    rw [List.getElem?_map, hget, Option.map_some, hinfo]
  obtain ⟨hlt, hvalue⟩ := List.getElem?_eq_some_iff.mp hflag
  have hnew : workerId ∉ s.failures.map Prod.fst := by
    rw [h.failed, hflag]
    simp
  have hreports := reportsOf_append hcrashes
  constructor
  · -- The failed worker no longer counts, and its replacement does.
    have hpos : 0 < s.flags.count false := List.count_pos_iff.mpr (hvalue ▸ List.getElem_mem hlt)
    have hlive := h.live
    rw [hflags, List.count_append, List.count_set hlt, hvalue]
    simp
    omega
  · -- one worker has been created, and one failure noted
    have hlength := congrArg List.length hflags
    rw [length_flags, List.length_append, List.length_set, length_flags] at hlength
    rw [hlength, hfailures, List.length_append, h.created]
    exact Nat.add_assoc ..
  · exact hshutting
  · exact hunique
  · intro w
    -- the flags differ from before at the failed worker and at the replacement
    rw [hfailures, hflags, List.map_append, List.mem_append, h.failed]
    rw [List.getElem?_append]
    simp only [List.length_set, List.getElem?_set]
    by_cases hw : w = workerId
    · subst hw
      simp [hlt]
    · have hne : workerId ≠ w := fun heq => hw heq.symm
      by_cases hwlt : w < s.flags.length
      · simp [hwlt, hw, hne]
      · have hlast : ([false] : List Bool)[w - s.flags.length]? ≠ some true := by
          intro htrue
          have hmem := List.mem_of_getElem? htrue
          simp at hmem
        simp [hwlt, hw, hlast]
  · rw [hfailures, List.map_append]
    refine List.nodup_append.mpr ⟨h.once, List.nodup_singleton _, fun x hx y hy hxy => ?_⟩
    rw [List.map_cons, List.map_nil, List.mem_singleton] at hy
    rw [hxy, hy] at hx
    exact hnew hx
  · intro failure hfailure
    rw [hreports]
    rw [hfailures] at hfailure
    rcases List.mem_append.mp hfailure with hold | hold
    · -- the reports of an earlier failure are those of another worker
      have hne : failure.1 ≠ workerId := fun heq =>
        hnew (heq ▸ List.mem_map_of_mem (f := Prod.fst) hold)
      rw [if_neg hne, List.append_nil]
      exact h.reports failure hold
    · obtain rfl := List.mem_singleton.mp hold
      -- nothing has been reported for this worker before
      have hnone := h.others workerId hnew
      dsimp only
      rw [if_pos rfl, hnone, List.nil_append]
      refine ⟨rfl, ?_⟩
      unfold pluginsOf
      rw [hget]
      exact h.plugins info (List.mem_of_getElem? hget)
  · intro w hw
    rw [hfailures, List.map_append, List.mem_append, not_or] at hw
    have hne : w ≠ workerId := fun heq => hw.2 (by simp [heq])
    rw [hreports, if_neg hne, List.append_nil]
    exact h.others w hw.1

theorem survives_workerFails (error : String) (h : Survives workerCount s)
    (hfail : CanFail s workerId) : Survives workerCount (s.workerFails workerId error) := by
  unfold workerFails
  have hcrashed := survives_handleWorkerCrash error h hfail
  generalize (handleWorkerCrash workerId error (s.noteFailure workerId)).2 = t at hcrashed
  generalize s.pendingOf workerId = requests
  induction requests generalizing t with
  | nil => exact hcrashed
  | cons request requests ih =>
    exact ih _ (hcrashed.congr (unfailing_afterRequest t workerId request false))

/-! ### Runs -/

/-- A worker gives one of its two events only, and the manager refuses the crash of none of its
plugins. -/
def Orderly (s : PluginWorkerPool) : Event → Prop
  | .workerError workerId _ => CanFail s workerId
  | .workerExit workerId _ => CanFail s workerId
  | _ => True

/-- **Step lemma.** -/
theorem survives_step {s' : PluginWorkerPool} {event : Event} (h : Survives workerCount s)
    (hok : Orderly s event) (hstep : step s event = some s') : Survives workerCount s' := by
  cases event with
  | loadPlugin pluginId =>
    cases hstep
    unfold loadPlugin
    dsimp only
    split_ifs
    · exact h.congr (unfailing_sendMessage s _ _ _)
    · exact h
  | unloadPlugin | request =>
    cases hstep
    exact h.congr (unfailing_request s _ _)
  | timeout workerId requestId timeoutMs =>
    simp only [step] at hstep
    split at hstep
    · cases hstep
    · cases hstep
      exact h.congr ((unfailing_settle s _ _ _).trans (unfailing_afterRequest _ _ _ _))
  | message workerId response =>
    simp only [step] at hstep
    split_ifs at hstep
    cases hstep
    exact h.congr (keeps_unfailing_onMessage workerId response s (Unfailing.refl s))
  | workerError workerId message =>
    simp only [step] at hstep
    split_ifs at hstep
    cases hstep
    exact survives_workerFails message h hok
  | workerExit workerId code =>
    -- that the process is gone is noted before the code is looked at
    have hexited : Unfailing s (s.updateWorker workerId fun info => { info with exited := true }) :=
      unfailing_of_modify rfl rfl rfl rfl (fun _ => rfl) fun _ hp => hp
    have hget := (getElem?_updateWorker s workerId workerId fun info =>
      { info with exited := true }).trans (if_pos rfl)
    have hfail : CanFail (s.updateWorker workerId fun info => { info with exited := true })
        workerId := by
      unfold Orderly CanFail runs pluginsOf at hok
      unfold CanFail runs pluginsOf
      rw [hget, Option.map_map, Option.map_map]
      exact hok
    simp only [step] at hstep
    split_ifs at hstep
    · cases hstep
      exact survives_workerFails _ (h.congr hexited) hfail
    · cases hstep
      exact h.congr hexited
  | managed registry =>
    cases hstep
    exact h.congr ⟨rfl, rfl, fun _ => rfl, rfl, id⟩

instance decidableCrashAllowed (r : PluginRegistry) (pluginId : String) :
    Decidable (CrashAllowed r pluginId) :=
  match h : r.get pluginId with
  | none => isTrue fun plugin hget => by cases h.symm.trans hget
  | some plugin =>
    decidable_of_iff (plugin.state.isValidStateTransition .crashed = true) (by
      unfold CrashAllowed
      rw [h]
      simp)

instance decidableCanFail (s : PluginWorkerPool) (workerId : ℕ) : Decidable (CanFail s workerId) :=
  inferInstanceAs (Decidable (_ ∧ _))

instance decidableOrderly (s : PluginWorkerPool) : ∀ event, Decidable (Orderly s event)
  | .workerError workerId _ => decidableCanFail s workerId
  | .workerExit workerId _ => decidableCanFail s workerId
  | .loadPlugin _ => isTrue trivial
  | .unloadPlugin _ => isTrue trivial
  | .request _ => isTrue trivial
  | .timeout _ _ _ => isTrue trivial
  | .message _ _ => isTrue trivial
  | .managed _ => isTrue trivial

theorem tables_start (registry : PluginRegistry) (workerCount : ℕ) :
    Tables (start registry workerCount) := by
  induction workerCount with
  | zero => exact ⟨List.Perm.refl [], fun w hw => absurd hw List.not_mem_nil⟩
  | succ workerCount ih => exact tables_createWorker ih

theorem start_spec (registry : PluginRegistry) (workerCount : ℕ) :
    (start registry workerCount).flags = List.replicate workerCount false ∧
      (start registry workerCount).failures = [] ∧ (start registry workerCount).crashes = [] ∧
      (start registry workerCount).isShuttingDown = false ∧
      UniquePlugins (start registry workerCount) := by
  induction workerCount with
  | zero => exact ⟨rfl, rfl, rfl, rfl, fun info hinfo => absurd hinfo List.not_mem_nil⟩
  | succ workerCount ih =>
    obtain ⟨hflags, hfailures, hcrashes, hshutting, hunique⟩ := ih
    refine ⟨?_, hfailures, hcrashes, hshutting, fun info hinfo => ?_⟩
    · show ((start registry workerCount).infos ++ [_]).map IWorkerInfo.failed = _
      rw [List.map_append, List.replicate_succ', ← hflags]
      rfl
    · rcases List.mem_append.mp hinfo with hinfo | hinfo
      · exact hunique info hinfo
      · obtain rfl := List.mem_singleton.mp hinfo
        exact List.nodup_nil

theorem survives_start (registry : PluginRegistry) (workerCount : ℕ) :
    Survives workerCount (start registry workerCount) := by
  obtain ⟨hflags, hfailures, hcrashes, hshutting, hunique⟩ := start_spec registry workerCount
  have hnone : (start registry workerCount).failures.map Prod.fst = [] := by
    rw [hfailures]
    rfl
  constructor
  · rw [hflags, List.count_replicate_self]
  · rw [← length_flags, hflags, hfailures, List.length_replicate]
    rfl
  · exact hshutting
  · exact hunique
  · intro workerId
    rw [hnone, hflags, List.getElem?_replicate]
    split_ifs <;> simp
  · rw [hnone]
    exact List.nodup_nil
  · intro failure hfailure
    rw [hfailures] at hfailure
    exact absurd hfailure List.not_mem_nil
  · intro workerId _
    unfold reportsOf
    rw [hcrashes]
    rfl

/-- Every request made is settled or pending, once, and a pending one has a timer that settles it. -/
structure SettledOnce (s : PluginWorkerPool) : Prop where
  once : ∀ requestId, s.settledIds.count requestId + s.pendingIds.count requestId =
    if requestId < s.nextRequestId then 1 else 0
  timer : ∀ requestId ∈ s.pendingIds, ∀ timeoutMs, ∃ workerId t,
    step s (.timeout workerId requestId timeoutMs) = some t ∧
      t.settledIds = s.settledIds ++ [requestId]

/-- Each failed worker failed once and has one replacement, so that the workers that are live or
starting stay as many as there were. -/
structure Replaced (workerCount : ℕ) (s : PluginWorkerPool) : Prop where
  once : (s.failures.map Prod.fst).Nodup
  failed : ∀ workerId, workerId ∈ s.failures.map Prod.fst ↔ s.flags[workerId]? = some true
  created : s.infos.length = workerCount + s.failures.length
  live : s.flags.count false = workerCount

/-- Each plugin of a failed worker was reported once. -/
def ReportedOnce (s : PluginWorkerPool) : Prop :=
  ∀ failure ∈ s.failures, ∀ pluginId,
    (s.reportsOf failure.1).count pluginId = if pluginId ∈ failure.2 then 1 else 0

theorem settledIds_afterRequest (s : PluginWorkerPool) (workerId : ℕ) (request : IPendingRequest)
    (success : Bool) : (s.afterRequest workerId request success).settledIds = s.settledIds := by
  unfold afterRequest
  split
  · split_ifs <;> rfl
  · rfl
  · rfl

theorem settledOnce_of_tables (h : Tables s) : SettledOnce s := by
  constructor
  · intro requestId
    rw [← List.count_append, h.accounted.count_eq, List.nodup_range.count]
    simp only [List.mem_range]
  · intro requestId hpending timeoutMs
    obtain ⟨info, hinfo, hmem⟩ := List.mem_flatMap.mp hpending
    obtain ⟨request, hrequest, hid⟩ := List.mem_map.mp hmem
    obtain ⟨workerId, hget⟩ := List.mem_iff_getElem?.mp hinfo
    have hsome : (s.pending workerId requestId).isSome = true := by
      unfold pending
      rw [pendingOf_eq hget, List.find?_isSome]
      exact ⟨request, hrequest, by simpa using hid⟩
    obtain ⟨found, hfound⟩ := Option.isSome_iff_exists.mp hsome
    have hfoundId : found.requestId = requestId := by
      simpa using List.find?_some hfound
    refine ⟨workerId, (s.settle workerId found (.rejected
      s!"Request {requestId} timed out after {timeoutMs}ms")).afterRequest workerId found false,
      ?_, ?_⟩
    · simp only [step]
      rw [hfound]
    · rw [settledIds_afterRequest, ← hfoundId]
      exact List.map_append

/-- What holds of the pool in a state of a run. -/
structure Recovered (workerCount : ℕ) (s : PluginWorkerPool) : Prop where
  settled : SettledOnce s
  replaced : Replaced workerCount s
  reported : ReportedOnce s

theorem recovered_of_survives (htables : Tables s) (h : Survives workerCount s) :
    Recovered workerCount s := by
  refine ⟨settledOnce_of_tables htables, ⟨h.once, h.failed, h.created, h.live⟩, ?_⟩
  intro failure hfailure pluginId
  obtain ⟨heq, hnodup⟩ := h.reports failure hfailure
  rw [heq, hnodup.count]

/-- In every state of the run, requests are settled once, failed workers are replaced, and their
plugins are reported once. -/
def SurvivesCrashes (registry : PluginRegistry) (workerCount : ℕ) (events : List Event) : Prop :=
  ∀ before after s, before ++ after = events →
    runFrom step (start registry workerCount) before = some s → Recovered workerCount s

theorem tables_runFrom {registry : PluginRegistry} {workerCount : ℕ} {events : List Event}
    (hrun : runFrom step (start registry workerCount) events = some s) : Tables s := by
  have hall : ∀ (t : PluginWorkerPool) (events : List Event),
      Meets step (fun _ _ => True) t events := by
    intro t events
    induction events generalizing t with
    | nil => trivial
    | cons event events ih => exact ⟨trivial, fun t' _ => ih t'⟩
  exact invariant_runFrom (P := Tables) (fun _ _ _ hs _ hstep => tables_step hs hstep) events _ s
    (tables_start registry workerCount) (hall _ _) hrun

/-- **The pool survives crashes** along every orderly run. -/
theorem survivesCrashes {registry : PluginRegistry} {workerCount : ℕ} {events : List Event}
    (hmeets : Meets step Orderly (start registry workerCount) events) :
    SurvivesCrashes registry workerCount events := by
  rintro before after s rfl hrun
  refine recovered_of_survives (tables_runFrom hrun) ?_
  exact invariant_runFrom (P := Survives workerCount) (fun _ _ _ hs hok hstep =>
    survives_step hs hok hstep) before _ s (survives_start registry workerCount) hmeets.left hrun

def enabledPlugin : PluginRegistry :=
  PluginRegistry.empty.put
    { id := "indexer"
      filePath := "indexer.opnet"
      file := ⟨⟨"indexer", "1.0.0", [], none, none⟩, []⟩
      state := .enabled
      dependents := .empty
      dependencies := [] }

/-- The worker of the plugin throws an error while a request is pending, another request times out,
and the other worker exits. -/
def twoFailures : List Event :=
  [.message 0 .ready, .message 1 .ready, .loadPlugin "indexer", .message 0 (.answer 0 true),
    .request "indexer", .request "indexer", .message 0 (.answer 1 true), .request "indexer",
    .timeout 0 2 30000, .workerError 0 "out of memory", .message 2 .ready, .workerExit 1 1]

theorem survivesCrashes_twoFailures : SurvivesCrashes enabledPlugin 2 twoFailures :=
  survivesCrashes (by decide)

def errorThenExit : List Event :=
  [.message 0 .ready, .workerError 0 "out of memory", .workerExit 0 1]

theorem not_survivesCrashes_errorThenExit : ¬ SurvivesCrashes enabledPlugin 1 errorThenExit := by
  intro h
  have hlive := (h errorThenExit [] _ rfl rfl).replaced.live
  exact absurd hlive (by decide)

end PluginWorkerPool

end OpnetNode
