import OpnetNode.Plugins.Equiv.PluginRegistry
import OpnetNode.Plugins.PluginWorkerPool

/-!
# The tables of the worker pool

`setState_spec` says what a requested state transition does.  `Basic` collects what holds of the
tables in every state, whatever the workers do: no plugin is left in the state it is registered in,
open requests have numbers that were given out, and a plugin that is mapped to a worker is one of
the plugins that the worker knows.
-/

namespace OpnetNode.PluginSystem

open Proc PluginState

variable {s : PluginSystem} {p q : String}

/-! ### States -/

theorem stateOf_congr {t : PluginSystem} (h : t.registry.view q = s.registry.view q) :
    t.stateOf q = s.stateOf q := by
  have hfst := congrArg (Option.map Prod.fst) h
  rw [PluginRegistry.view, PluginRegistry.view, Option.map_map, Option.map_map] at hfst
  exact hfst

theorem stateOf_put (s : PluginSystem) (plugin : RegisteredPlugin) (state : PluginState)
    (q : String) :
    ((s.registry.put { plugin with state }).get q).map RegisteredPlugin.state =
      if q = plugin.id then some state else s.stateOf q := by
  rw [PluginRegistry.get_put]
  split_ifs <;> rfl

theorem stateOf_unregister (s : PluginSystem) (p q : String) :
    ((s.registry.unregister p).get q).map RegisteredPlugin.state =
      if q = p then none else s.stateOf q := by
  unfold PluginRegistry.unregister
  split
  · next hget =>
    split_ifs with hq
    · rw [hq, hget]
      rfl
    · rfl
  · next plugin hget =>
    have hview := PluginRegistry.view_foldl
      (fun r depId k => PluginRegistry.view_updateSets r depId k (·.delete p) (fun s => s))
      plugin.dependencies s.registry q
    rw [PluginRegistry.get_delete]
    split_ifs with hq
    · rfl
    · exact stateOf_congr (t := { s with registry := _ }) hview

/-- What a requested transition does: nothing if the plugin is not registered; it is recorded
otherwise, and made if it is allowed. -/
theorem setState_spec (p : String) (new : PluginState) (error : Option IPluginError)
    (s : PluginSystem) :
    (s.stateOf p = none ∧
      setState p new error s = (.error s!"Plugin not found: {p}", s)) ∨
    (∃ old e, s.stateOf p = some old ∧ isValidStateTransition old new = false ∧
      setState p new error s = (.error e, s.requested ⟨p, old, new⟩)) ∨
    (∃ old r, s.stateOf p = some old ∧ isValidStateTransition old new = true ∧
      (∀ q, (r.get q).map RegisteredPlugin.state = if q = p then some new else s.stateOf q) ∧
      setState p new error s = (.ok (), (s.requested ⟨p, old, new⟩).withState r p error)) := by
  unfold setState stateOf
  cases hget : s.registry.get p with
  | none => exact .inl ⟨rfl, rfl⟩
  | some plugin =>
    right
    cases hset : s.registry.setState p new with
    | error e =>
      left
      refine ⟨plugin.state, e, rfl, ?_, rfl⟩
      unfold PluginRegistry.setState at hset
      rw [hget] at hset
      dsimp only at hset
      split_ifs at hset with hinvalid
      exact hinvalid
    | ok r =>
      right
      obtain ⟨plugin', hget', hvalid, rfl⟩ := PluginRegistry.setState_eq_ok hset
      obtain rfl : plugin = plugin' := Option.some.inj (hget.symm.trans hget')
      refine ⟨plugin.state, _, rfl, hvalid, fun q => ?_, rfl⟩
      rw [stateOf_put s plugin new q, PluginRegistry.id_of_get hget]
      rfl

theorem getPlugin_eq (p : String) (s : PluginSystem) :
    getPlugin p s = match s.registry.get p with
      | none => (.error s!"Plugin not found: {p}", s)
      | some plugin => (.ok plugin, s) := by
  show (match s.registry.get p with
      | none => throw _
      | some plugin => pure plugin : SystemM RegisteredPlugin) s = _
  cases s.registry.get p <;> rfl

/-! ### Workers -/

variable {workerId : ℕ}

theorem pluginsOf_eq {info : IWorkerInfo}
    (h : s.workerInfos.get workerId = some info) : s.pluginsOf workerId = info.plugins := by
  rw [pluginsOf, h]
  rfl

theorem get_updateWorker (s : PluginSystem) (workerId w : ℕ) (f : IWorkerInfo → IWorkerInfo) :
    (s.updateWorker workerId f).workerInfos.get w =
      if w = workerId then (s.workerInfos.get w).map f else s.workerInfos.get w := by
  unfold updateWorker
  cases hget : s.workerInfos.get workerId with
  | none =>
    split_ifs with hw
    · rw [hw, hget]
      rfl
    · rfl
  | some info =>
    show (s.workerInfos.set workerId (f info)).get w = _
    rw [JsMap.get_set]
    split_ifs with hw
    · rw [hw, hget]
      rfl
    · rfl

theorem updateWorker_eq (s : PluginSystem) (workerId : ℕ) (f : IWorkerInfo → IWorkerInfo) :
    s.updateWorker workerId f =
      { s with workerInfos := (s.updateWorker workerId f).workerInfos } := by
  unfold updateWorker
  cases s.workerInfos.get workerId <;> rfl

theorem isSome_updateWorker (s : PluginSystem) (workerId w : ℕ) (f : IWorkerInfo → IWorkerInfo) :
    ((s.updateWorker workerId f).workerInfos.get w).isSome = (s.workerInfos.get w).isSome := by
  rw [get_updateWorker]
  split_ifs with hw
  · rw [Option.isSome_map]
  · rfl

/-! ### What holds in every state -/

/-- The tables fit together. -/
structure Basic (s : PluginSystem) : Prop where
  states : ∀ p, s.stateOf p ≠ some .discovered
  requestIds : ∀ r ∈ s.requests, r.requestId < s.nextRequestId
  requestWorkers : ∀ r ∈ s.requests, (s.workerInfos.get r.workerId).isSome
  pool : ∀ w ∈ s.workers, (s.workerInfos.get w).isSome
  created : ∀ w, (s.workerInfos.get w).isSome → w < s.nextWorkerId
  mapped : ∀ p w, s.pluginWorkerMap.get p = some w → p ∈ s.pluginsOf w

theorem Basic.withRegistry {registry : PluginRegistry} {errors : JsMap String IPluginError}
    {transitions : List Transition} {enableFailures : List EnableFailure} (h : Basic s)
    (hstates : ∀ p, (registry.get p).map RegisteredPlugin.state ≠ some .discovered) :
    Basic { s with registry, errors, transitions, enableFailures } :=
  ⟨hstates, h.requestIds, h.requestWorkers, h.pool, h.created, h.mapped⟩

theorem keeps_basic_setState {new : PluginState} {error : Option IPluginError}
    (hnew : new ≠ .discovered) : Keeps Basic (setState p new error) := by
  intro s hs
  obtain ⟨-, heq⟩ | ⟨old, e, -, -, heq⟩ | ⟨old, r, -, -, hr, heq⟩ := setState_spec p new error s
  · rw [heq]
    exact hs
  · rw [heq]
    exact hs.withRegistry hs.states
  · rw [heq]
    refine hs.withRegistry fun q => ?_
    rw [hr]
    split_ifs
    · exact fun h => hnew (Option.some.inj h)
    · exact hs.states q

theorem keeps_basic_unregister : Keeps Basic (unregister p) := by
  intro s hs
  refine hs.withRegistry fun q => ?_
  rw [stateOf_unregister]
  split_ifs
  · exact nofun
  · exact hs.states q

variable {I : PluginSystem → Prop}

theorem keeps_liftExcept {α : Type} (x : Except String α) : Keeps I (liftExcept x : SystemM α) := by
  cases x with
  | error e => exact keeps_throw e
  | ok a => exact keeps_pure a

theorem keeps_getPlugin : Keeps I (getPlugin p) := by
  intro s hs
  rw [getPlugin_eq]
  cases s.registry.get p with
  | none | some => exact hs

theorem getWorkerForPlugin_spec (p : String) (s : PluginSystem) :
    (∃ w, s.pluginWorkerMap.get p = some w ∧ w ∈ s.workers ∧
      getWorkerForPlugin p s = (.ok w, s)) ∨
    (¬ (∃ w, s.pluginWorkerMap.get p = some w ∧ w ∈ s.workers) ∧
      ∃ e, getWorkerForPlugin p s = (.error e, s)) := by
  cases hmap : s.pluginWorkerMap.get p with
  | none =>
    right
    refine ⟨?_, s!"Plugin {p} is not loaded in any worker", ?_⟩
    · rintro ⟨w, hw, -⟩
      cases hw
    · unfold getWorkerForPlugin
      show bindResult _ (.ok s, s) = _
      rw [bindResult_ok, hmap]
      rfl
  | some workerId =>
    have hrun : getWorkerForPlugin p s =
        (if workerId ∈ s.workers then pure workerId
        else throw s!"Worker {workerId} not found for plugin {p}" : SystemM ℕ) s := by
      unfold getWorkerForPlugin
      show bindResult _ (.ok s, s) = _
      rw [bindResult_ok, hmap]
    rw [hrun]
    by_cases hw : workerId ∈ s.workers
    · left
      refine ⟨workerId, rfl, hw, ?_⟩
      rw [if_pos hw]
      rfl
    · right
      refine ⟨?_, s!"Worker {workerId} not found for plugin {p}", ?_⟩
      · rintro ⟨w, hw', hmem⟩
        cases hw'
        exact hw hmem
      · rw [if_neg hw]
        rfl

variable {type : WorkerMessageType}

theorem Basic.sendMessage (hs : Basic s) (hworker : (s.workerInfos.get workerId).isSome) :
    Basic (PluginSystem.sendMessage workerId type p s).2 := by
  refine ⟨hs.states, fun r hr => ?_, fun r hr => ?_, hs.pool, hs.created, hs.mapped⟩
  · show r.requestId < s.nextRequestId + 1
    rcases List.mem_append.mp hr with hr | hr
    · have hlt := hs.requestIds r hr
      omega
    · obtain rfl := List.mem_singleton.mp hr
      exact Nat.lt_succ_self _
  · rcases List.mem_append.mp hr with hr | hr
    · exact hs.requestWorkers r hr
    · obtain rfl := List.mem_singleton.mp hr
      exact hworker

theorem Basic.updateWorker (workerId : ℕ) {f : IWorkerInfo → IWorkerInfo} (hs : Basic s)
    (hf : ∀ info, ∀ q ∈ info.plugins, s.pluginWorkerMap.get q = some workerId →
      q ∈ (f info).plugins) : Basic (s.updateWorker workerId f) := by
  have hsome := isSome_updateWorker s workerId
  rw [updateWorker_eq]
  refine ⟨hs.states, hs.requestIds, fun r hr => ?_, fun w hw => ?_, fun w hw => ?_, fun q w hq => ?_⟩
  · exact (hsome _ f).trans (hs.requestWorkers r hr)
  · exact (hsome _ f).trans (hs.pool w hw)
  · exact hs.created w ((hsome _ f).symm.trans hw)
  · have hmem := hs.mapped q w hq
    show q ∈ (((s.updateWorker workerId f).workerInfos.get w).map IWorkerInfo.plugins).getD []
    rw [get_updateWorker]
    split_ifs with hw
    · cases hinfo : s.workerInfos.get w with
      | none =>
        rw [pluginsOf, hinfo] at hmem
        cases hmem
      | some info =>
        rw [pluginsOf_eq hinfo] at hmem
        exact hf info q hmem (hw ▸ hq)
    · exact hmem

theorem Basic.map (hs : Basic s) (hmem : p ∈ s.pluginsOf workerId) :
    Basic { s with pluginWorkerMap := s.pluginWorkerMap.set p workerId } := by
  refine ⟨hs.states, hs.requestIds, hs.requestWorkers, hs.pool, hs.created, fun q w hq => ?_⟩
  have hq' : (s.pluginWorkerMap.set p workerId).get q = some w := hq
  rw [JsMap.get_set] at hq'
  split_ifs at hq' with hqp
  · cases hq'
    rw [hqp]
    exact hmem
  · exact hs.mapped q w hq'

theorem Basic.unmap (hs : Basic s) (p : String) :
    Basic { s with pluginWorkerMap := s.pluginWorkerMap.erase p } := by
  refine ⟨hs.states, hs.requestIds, hs.requestWorkers, hs.pool, hs.created, fun q w hq => ?_⟩
  have hq' : (s.pluginWorkerMap.erase p).get q = some w := hq
  rw [JsMap.get_erase] at hq'
  split_ifs at hq'
  exact hs.mapped q w hq'

theorem keeps_basic_createWorker : Keeps Basic createWorker := by
  intro s hs
  have hfresh : s.workerInfos.get s.nextWorkerId = none := by
    by_contra hne
    have hlt := hs.created s.nextWorkerId (Option.isSome_iff_ne_none.mpr hne)
    omega
  have hget (w : ℕ) (v : IWorkerInfo) :
      (s.workerInfos.set s.nextWorkerId v).get w =
        if w = s.nextWorkerId then some v else s.workerInfos.get w := JsMap.get_set _ _ _ _
  have hmono (w : ℕ) (v : IWorkerInfo) (h : (s.workerInfos.get w).isSome) :
      ((s.workerInfos.set s.nextWorkerId v).get w).isSome := by
    rw [hget]
    split_ifs
    · rfl
    · exact h
  refine ⟨hs.states, hs.requestIds, fun r hr => hmono _ _ (hs.requestWorkers r hr),
    fun w hw => hmono _ _ (hs.pool w hw), fun w hw => ?_, fun q w hq => ?_⟩
  · show w < s.nextWorkerId + 1
    have hw' : ((s.workerInfos.set s.nextWorkerId _).get w).isSome := hw
    rw [hget] at hw'
    split_ifs at hw' with heq
    · omega
    · have hlt := hs.created w hw'
      omega
  · have hmem := hs.mapped q w hq
    show q ∈ (((s.workerInfos.set s.nextWorkerId _).get w).map IWorkerInfo.plugins).getD []
    rw [hget]
    split_ifs with heq
    · rw [pluginsOf, heq, hfresh] at hmem
      cases hmem
    · exact hmem

variable {error : String}

theorem keeps_basic_handlePluginCrash : Keeps Basic (handlePluginCrash p error) := by
  refine keeps_bind (keeps_modify fun s hs => hs.unmap p) fun _ => keeps_get_bind fun s hs => ?_
  cases s.registry.get p with
  | none => exact hs
  | some plugin => exact keeps_basic_setState (by decide) s hs

theorem Basic.rejectRequests (hs : Basic s) (workerId : ℕ) (error : String) :
    Basic (s.rejectRequests workerId error) := by
  have hmem : ∀ r ∈ (s.rejectRequests workerId error).requests,
      ∃ r' ∈ s.requests, r.requestId = r'.requestId ∧ r.workerId = r'.workerId := by
    intro r hr
    obtain ⟨r', hr', rfl⟩ := List.mem_map.mp hr
    refine ⟨r', hr', ?_⟩
    split_ifs <;> exact ⟨rfl, rfl⟩
  refine ⟨hs.states, fun r hr => ?_, fun r hr => ?_, hs.pool, hs.created, hs.mapped⟩
  · obtain ⟨r', hr', hid, -⟩ := hmem r hr
    rw [hid]
    exact hs.requestIds r' hr'
  · obtain ⟨r', hr', -, hworker⟩ := hmem r hr
    rw [hworker]
    exact hs.requestWorkers r' hr'

theorem keeps_basic_handleWorkerCrash : Keeps Basic (handleWorkerCrash workerId error) := by
  refine keeps_bind (keeps_modify fun s hs => hs.rejectRequests workerId error) fun _ => ?_
  refine keeps_get_bind fun s hs => ?_
  refine keeps_bind (keeps_forEach (fun _ => keeps_basic_handlePluginCrash) _) (fun _ => ?_) s hs
  refine keeps_bind (keeps_modify fun s hs => ?_) fun _ => ?_
  · exact ⟨hs.states, hs.requestIds, hs.requestWorkers,
      fun w hw => hs.pool w (List.mem_of_mem_erase hw), hs.created, hs.mapped⟩
  · refine keeps_get_bind fun s hs => ?_
    exact keeps_ite (keeps_pure ()) keeps_basic_createWorker s hs

/-! ### Operations -/

theorem keeps_basic_loadFailed : Keeps Basic (loadFailed p error) :=
  keeps_bind (keeps_basic_setState (by decide)) fun _ => keeps_throw _

theorem keeps_basic_noteEnableFailure {original reported : String} :
    Keeps Basic (noteEnableFailure p original reported) :=
  keeps_modify fun _ hs => hs.withRegistry hs.states

theorem keeps_basic_enableFailed : Keeps Basic (enableFailed p error) := by
  refine keeps_bind (keeps_tryCatch (keeps_basic_setState (by decide)) fun _ => ?_) fun _ => ?_
  · exact keeps_bind keeps_basic_noteEnableFailure fun _ => keeps_throw _
  · exact keeps_bind keeps_basic_noteEnableFailure fun _ => keeps_throw _

theorem keeps_basic_loadPlugin {prepared : Except String Unit} :
    Keeps Basic (loadPlugin p prepared) := by
  refine keeps_bind keeps_getPlugin fun plugin => ?_
  refine keeps_bind (keeps_throwIf _ _) fun _ => keeps_get_bind fun s hs => ?_
  refine keeps_bind (keeps_throwIf _ _) (fun _ => ?_) s hs
  refine keeps_bind (keeps_basic_setState (by decide)) fun _ => ?_
  refine keeps_tryCatch ?_ fun _ => keeps_basic_loadFailed
  refine keeps_bind (keeps_liftExcept prepared) fun _ => keeps_get_bind fun s hs => ?_
  by_cases hw : s.selectWorkerForPlugin ∈ s.workers
  · have heq : throwIf (s.selectWorkerForPlugin ∉ s.workers)
        s!"Worker {s.selectWorkerForPlugin} not found" = (pure () : SystemM Unit) :=
      if_neg (not_not_intro hw)
    rw [heq]
    exact hs.sendMessage (hs.pool _ hw)
  · have heq : throwIf (s.selectWorkerForPlugin ∉ s.workers)
        s!"Worker {s.selectWorkerForPlugin} not found" = (throw _ : SystemM Unit) := if_pos hw
    rw [heq]
    exact hs

variable {answer : Answer}

theorem keeps_basic_loadAnswered {handlers : Except String Unit}
    (hs : Basic s) (hworker : (s.workerInfos.get workerId).isSome) :
    Basic (loadAnswered workerId p answer handlers s).2 := by
  have hload : Ensures (fun s' => s = s')
      (do
        liftExcept (answer.check "Failed to load plugin")
        modify fun s => s.updateWorker workerId fun info =>
          { info with plugins := addToSet info.plugins p }
        modify fun s => { s with pluginWorkerMap := s.pluginWorkerMap.set p workerId }
        liftExcept handlers
        setState p .loaded none : SystemM Unit) (fun _ => Basic) Basic := by
    rintro _ rfl
    cases answer.check "Failed to load plugin" with
    | error e => exact hs
    | ok _ =>
      have hknows : Basic (s.updateWorker workerId fun info =>
          { info with plugins := addToSet info.plugins p }) :=
        hs.updateWorker _ fun info q hq _ => mem_addToSet.mpr (.inl hq)
      have hmem : p ∈ (s.updateWorker workerId fun info =>
          { info with plugins := addToSet info.plugins p }).pluginsOf workerId := by
        obtain ⟨info, hinfo⟩ := Option.isSome_iff_exists.mp hworker
        rw [pluginsOf, get_updateWorker, if_pos rfl, hinfo]
        exact mem_addToSet.mpr (.inr rfl)
      have hrest : Keeps Basic (liftExcept handlers >>= fun _ => setState p .loaded none) :=
        keeps_bind (keeps_liftExcept handlers) fun _ => keeps_basic_setState (by decide)
      exact ensures_of_keeps hrest _ (hknows.map hmem)
  have hfailed (e : String) : Ensures Basic (loadFailed p e) (fun _ => Basic) Basic :=
    ensures_of_keeps keeps_basic_loadFailed
  have hall := ensures_tryCatch hload hfailed
  exact (hall s rfl).state

theorem keeps_basic_unloadPlugin : Keeps Basic (unloadPlugin p) := by
  refine keeps_bind keeps_getPlugin fun _ => keeps_get_bind fun s hs => ?_
  refine keeps_bind (keeps_throwIf _ _) (fun _ => ?_) s hs
  refine keeps_bind (keeps_basic_setState (by decide)) fun _ => keeps_get_bind fun s hs => ?_
  cases s.pluginWorkerMap.get p with
  | none => exact keeps_basic_unregister s hs
  | some workerId =>
    by_cases hw : workerId ∈ s.workers
    · dsimp only
      rw [if_pos hw]
      exact hs.sendMessage (hs.pool _ hw)
    · dsimp only
      rw [if_neg hw]
      exact keeps_basic_unregister s hs

theorem keeps_basic_unloadAnswered : Keeps Basic (unloadAnswered workerId p) := by
  intro s hs
  -- The worker forgets the plugin, and the plugin is not mapped to it any more.
  have hunmapped := hs.unmap p
  have hforgets := hunmapped.updateWorker workerId
    (f := fun info => { info with plugins := info.plugins.erase p }) fun info q hq hmap => by
      have hne : q ≠ p := by
        rintro rfl
        have hmap' : (s.pluginWorkerMap.erase q).get q = some workerId := hmap
        rw [JsMap.get_erase, if_pos rfl] at hmap'
        cases hmap'
      exact (List.mem_erase_of_ne hne).mpr hq
  have hswap : ({ (s.updateWorker workerId fun info =>
        { info with plugins := info.plugins.erase p }) with
          pluginWorkerMap := s.pluginWorkerMap.erase p } : PluginSystem)
      = { s with pluginWorkerMap := s.pluginWorkerMap.erase p }.updateWorker workerId
          fun info => { info with plugins := info.plugins.erase p } := by
    unfold updateWorker
    cases s.workerInfos.get workerId <;> rfl
  have hmap : (s.updateWorker workerId fun info =>
      { info with plugins := info.plugins.erase p }).pluginWorkerMap = s.pluginWorkerMap := by
    rw [updateWorker_eq]
  have hstate : Basic ({ (s.updateWorker workerId fun info =>
        { info with plugins := info.plugins.erase p }) with
          pluginWorkerMap := (s.updateWorker workerId fun info =>
            { info with plugins := info.plugins.erase p }).pluginWorkerMap.erase p }) := by
    rw [hmap, hswap]
    exact hforgets
  exact keeps_basic_unregister _ hstate

theorem keeps_basic_request : Keeps Basic (getWorkerForPlugin p >>= fun workerId =>
      PluginSystem.sendMessage workerId type p) := by
  intro s hs
  show Basic (bindResult _ (getWorkerForPlugin p s)).2
  obtain ⟨w, -, hw, heq⟩ | ⟨-, e, heq⟩ := getWorkerForPlugin_spec p s
  · rw [heq]
    exact hs.sendMessage (hs.pool w hw)
  · rw [heq]
    exact hs

theorem keeps_basic_enablePlugin : Keeps Basic (enablePlugin p) := by
  refine keeps_bind keeps_getPlugin fun _ => keeps_bind (keeps_throwIf _ _) fun _ => ?_
  exact keeps_tryCatch keeps_basic_request fun _ => keeps_basic_enableFailed

theorem keeps_basic_disablePlugin : Keeps Basic (disablePlugin p) := by
  refine keeps_bind keeps_getPlugin fun _ => keeps_bind (keeps_throwIf _ _) fun _ => ?_
  exact keeps_basic_request

theorem keeps_basic_enableAnswered : Keeps Basic (enableAnswered p answer) :=
  keeps_tryCatch (keeps_bind (keeps_liftExcept _) fun _ => keeps_basic_setState (by decide))
    fun _ => keeps_basic_enableFailed

theorem keeps_basic_disableAnswered : Keeps Basic (disableAnswered p answer) :=
  keeps_bind (keeps_liftExcept _) fun _ => keeps_basic_setState (by decide)

theorem Basic.settle (hs : Basic s) (r : IPendingRequest) :
    Basic { s with requests := s.requests.erase r } :=
  ⟨hs.states, fun r' hr' => hs.requestIds r' (List.mem_of_mem_erase hr'),
    fun r' hr' => hs.requestWorkers r' (List.mem_of_mem_erase hr'), hs.pool, hs.created, hs.mapped⟩

section

variable {s : PluginSystem} {requestId : ℕ} {answer : Answer} {handlers : Except String Unit}

theorem answered_of_none (hfind : s.request requestId = none) :
    answered requestId answer handlers s = (.ok (), s) := by
  unfold answered
  show bindResult _ (.ok s, s) = _
  rw [bindResult_ok, hfind]
  rfl

theorem answered_of_some {request : IPendingRequest} (hfind : s.request requestId = some request) :
    answered requestId answer handlers s =
      (match request.type with
        | .LOAD_PLUGIN =>
          loadAnswered request.workerId request.pluginId (request.settled answer) handlers
        | .UNLOAD_PLUGIN => unloadAnswered request.workerId request.pluginId
        | .ENABLE_PLUGIN => enableAnswered request.pluginId (request.settled answer)
        | .DISABLE_PLUGIN => disableAnswered request.pluginId (request.settled answer))
        { s with requests := s.requests.erase request } := by
  unfold answered
  show bindResult _ (.ok s, s) = _
  rw [bindResult_ok, hfind]
  rfl

end

theorem keeps_basic_answered {requestId : ℕ} {answer : Answer} {handlers : Except String Unit} :
    Keeps Basic (answered requestId answer handlers) := by
  intro s hs
  cases hfind : s.request requestId with
  | none =>
    rw [answered_of_none hfind]
    exact hs
  | some request =>
    have hmem : request ∈ s.requests := List.mem_of_find?_eq_some hfind
    have hsettled := hs.settle request
    have hworker := hs.requestWorkers request hmem
    rw [answered_of_some hfind]
    cases request.type with
    | LOAD_PLUGIN => exact keeps_basic_loadAnswered hsettled hworker
    | UNLOAD_PLUGIN => exact keeps_basic_unloadAnswered _ hsettled
    | ENABLE_PLUGIN => exact keeps_basic_enableAnswered _ hsettled
    | DISABLE_PLUGIN => exact keeps_basic_disableAnswered _ hsettled

theorem keeps_basic_workerReady {workerId : ℕ} : Keeps Basic (workerReady workerId) := by
  refine keeps_get_bind fun s hs => ?_
  cases hinfo : s.workerInfos.get workerId with
  | none => exact hs
  | some info =>
    dsimp only
    split_ifs
    · exact hs
    · have hready := hs.updateWorker workerId
        (f := fun info => { info with ready := true }) fun info q hq _ => hq
      refine ⟨hready.states, hready.requestIds, hready.requestWorkers, fun w hw => ?_,
        hready.created, hready.mapped⟩
      show ((s.updateWorker workerId _).workerInfos.get w).isSome
      rcases List.mem_append.mp hw with hw | hw
      · rw [isSome_updateWorker]
        exact hs.pool w hw
      · rw [isSome_updateWorker, List.mem_singleton.mp hw, hinfo]
        rfl

theorem keeps_basic_threadEnded (workerId : ℕ) : Keeps Basic (threadEnded workerId) :=
  keeps_modify fun _ hs => hs.updateWorker workerId fun _ _ hq _ => hq

end OpnetNode.PluginSystem
