import OpnetNode.Plugins.Equiv.DependencySafety

/-!
# What the manager's methods do to the states

For each method that works on one plugin, when it passes its own guards (`CanUnload`,
`CanRegister`, `CanLoad`, `CanEnable`), and which states the plugins have afterwards, whether it
returns or throws.  Plugins may crash while the answer of a worker is awaited (`Awaited`).
-/

namespace OpnetNode.PluginManager

open Proc PluginRegistry

variable {host : PluginHost} {m m' : PluginManager} {id : String} {state : PluginState}

/-! ### States -/

def stateAt (m : PluginManager) (id : String) : Option PluginState :=
  (m.registry.get id).map RegisteredPlugin.state

/-- Whether the registry lets a plugin go over to a state. -/
def CanGo (m : PluginManager) (id : String) (state : PluginState) : Prop :=
  ∃ old, m.stateAt id = some old ∧ old.isValidStateTransition state = true

variable {plugin : RegisteredPlugin}

theorem stateAt_of_get (h : m.registry.get id = some plugin) :
    m.stateAt id = some plugin.state := by
  unfold stateAt
  rw [h]
  rfl

theorem exists_of_stateAt (h : m.stateAt id = some state) :
    ∃ plugin, m.registry.get id = some plugin ∧ plugin.state = state :=
  Option.map_eq_some_iff.mp h

theorem enabledAt_iff_stateAt : m.registry.EnabledAt id ↔ m.stateAt id = some .enabled :=
  enabledAt_iff

theorem setState_of_canGo (h : m.CanGo id state) :
    ∃ m', setState id state m = (.ok (), m') ∧ m'.clock = m.clock ∧
      (∀ q, m'.stateAt q = if q = id then some state else m.stateAt q) ∧
      ∀ q, q ≠ id → m'.registry.get q = m.registry.get q := by
  obtain ⟨old, hstate, hvalid⟩ := h
  obtain ⟨plugin, hget, rfl⟩ := exists_of_stateAt hstate
  have hid : plugin.id = id := id_of_get hget
  have hset : m.registry.setState id state = .ok (m.registry.put { plugin with state }) := by
    unfold PluginRegistry.setState
    rw [hget]
    exact if_neg (by rw [hvalid]; exact Bool.noConfusion)
  refine ⟨m.withRegistry (m.registry.put { plugin with state }), ?_, rfl, fun q => ?_, ?_⟩
  · show bindResult _ _ = _
    rw [hset]
    rfl
  · show ((m.registry.put { plugin with state }).get q).map _ = _
    rw [get_put, hid]
    split_ifs <;> rfl
  · intro q hq
    show (m.registry.put { plugin with state }).get q = _
    rw [get_put, hid, if_neg hq]

theorem setState_of_not_canGo (h : ¬ m.CanGo id state) :
    ∃ e, setState id state m = (.error e, m) := by
  have hset : ∃ e, m.registry.setState id state = .error e := by
    unfold PluginRegistry.setState
    cases hget : m.registry.get id with
    | none => exact ⟨_, rfl⟩
    | some plugin =>
      refine ⟨_, if_pos ?_⟩
      by_contra hvalid
      exact h ⟨plugin.state, stateAt_of_get hget, by simpa using hvalid⟩
  obtain ⟨e, hset⟩ := hset
  refine ⟨e, ?_⟩
  show bindResult _ _ = _
  rw [hset]
  rfl

/-! ### Crashes while an answer is awaited -/

/-- The state of a plugin that has crashed, if it may. -/
def afterCrash (state : PluginState) : PluginState :=
  if state.isValidStateTransition .crashed = true then .crashed else state

theorem afterCrash_afterCrash (state : PluginState) :
    afterCrash (afterCrash state) = afterCrash state := by
  cases state <;> rfl

/-- The manager after the crashes of some plugins. -/
structure Crashed (l : List String) (m m' : PluginManager) : Prop where
  clock : m'.clock = m.clock
  states : ∀ q, m'.stateAt q = if q ∈ l then (m.stateAt q).map afterCrash else m.stateAt q
  same : ∀ q, (q ∈ l → ¬ m.CanGo q .crashed) → m'.registry.get q = m.registry.get q

theorem handlePluginCrash_of_none (h : m.registry.get id = none) :
    handlePluginCrash id m = (.ok (), m) := by
  unfold handlePluginCrash
  show bindResult _ (Except.ok m, m) = _
  rw [bindResult_ok]
  rw [h]
  rfl

theorem handlePluginCrash_of_some (h : m.registry.get id = some plugin) :
    handlePluginCrash id m = setState id .crashed
      { m with events := (.crashed id, m.registry) :: m.events } := by
  unfold handlePluginCrash
  show bindResult _ (Except.ok m, m) = _
  rw [bindResult_ok]
  rw [h]
  rfl

theorem ignoreErrors_handlePluginCrash (m : PluginManager) (id : String) :
    ∃ m', ignoreErrors (handlePluginCrash id) m = (.ok (), m') ∧ Crashed [id] m m' := by
  by_cases hgo : m.CanGo id .crashed
  · obtain ⟨old, hstate, hvalid⟩ := hgo
    obtain ⟨plugin, hget, -⟩ := exists_of_stateAt hstate
    obtain ⟨m', hset, hclock, hstates, hsame⟩ := @setState_of_canGo
      { m with events := (.crashed id, m.registry) :: m.events } id .crashed
      ⟨old, hstate, hvalid⟩
    refine ⟨m', ?_, hclock, fun q => ?_, fun q hq => ?_⟩
    · show catchResult _ (handlePluginCrash id m) = _
      rw [handlePluginCrash_of_some hget, hset]
      rfl
    · rw [hstates]
      simp only [List.mem_singleton]
      split_ifs with hq
      · subst hq
        rw [hstate, Option.map_some, afterCrash, if_pos hvalid]
      · rfl
    · refine hsame q fun heq => ?_
      subst heq
      exact hq List.mem_cons_self ⟨old, hstate, hvalid⟩
  · -- the registry refuses the crash: it concerns no state at all
    have hstates (q : String) :
        m.stateAt q = if q ∈ [id] then (m.stateAt q).map afterCrash else m.stateAt q := by
      split_ifs with hq
      · obtain rfl := List.mem_singleton.mp hq
        cases hstate : m.stateAt q with
        | none => rfl
        | some old =>
          have hinvalid : ¬ old.isValidStateTransition .crashed = true := fun hvalid =>
            hgo ⟨old, hstate, hvalid⟩
          rw [Option.map_some, afterCrash, if_neg hinvalid]
      · rfl
    cases hget : m.registry.get id with
    | none =>
      refine ⟨m, ?_, rfl, hstates, fun q _ => rfl⟩
      show catchResult _ (handlePluginCrash id m) = _
      rw [handlePluginCrash_of_none hget]
      rfl
    | some plugin =>
      obtain ⟨e, hset⟩ := @setState_of_not_canGo
        { m with events := (.crashed id, m.registry) :: m.events } id .crashed hgo
      refine ⟨{ m with events := (.crashed id, m.registry) :: m.events }, ?_, rfl, hstates,
        fun q _ => rfl⟩
      show catchResult _ (handlePluginCrash id m) = _
      rw [handlePluginCrash_of_some hget, hset]
      rfl

theorem forEach_handlePluginCrash (l : List String) (m : PluginManager) :
    ∃ m', forEach (fun id => ignoreErrors (handlePluginCrash id)) l m = (.ok (), m') ∧
      Crashed l m m' := by
  induction l generalizing m with
  | nil => exact ⟨m, rfl, rfl, fun q => by simp, fun q _ => rfl⟩
  | cons id l ih =>
    obtain ⟨m₁, hrun, hcrashed⟩ := ignoreErrors_handlePluginCrash m id
    obtain ⟨m₂, hrest, hrestCrashed⟩ := ih m₁
    refine ⟨m₂, ?_, hrestCrashed.clock.trans hcrashed.clock, fun q => ?_, fun q hq => ?_⟩
    · exact (bind_of_ok hrun).trans hrest
    · rw [hrestCrashed.states, hcrashed.states]
      simp only [List.mem_cons, List.not_mem_nil, or_false]
      by_cases hid : q = id
      · rw [if_pos hid, if_pos (Or.inl hid)]
        split_ifs
        · rw [Option.map_map]
          congr 1
          funext state
          exact afterCrash_afterCrash state
        · rfl
      · simp [hid]
    · have hsame := hcrashed.same q fun h => hq (List.mem_cons.mpr (Or.inl (List.mem_singleton.mp h)))
      rw [← hsame]
      refine hrestCrashed.same q fun h => ?_
      unfold CanGo stateAt
      rw [hsame]
      exact hq (List.mem_cons_of_mem _ h)

/-- The manager when the answer of a worker has come. -/
structure Awaited (host : PluginHost) (m m' : PluginManager) : Prop where
  clock : m'.clock = m.clock + 1
  states : ∀ q, m'.stateAt q =
    if q ∈ host.crashes m.clock then (m.stateAt q).map afterCrash else m.stateAt q
  same : ∀ q, (q ∈ host.crashes m.clock → ¬ m.CanGo q .crashed) →
    m'.registry.get q = m.registry.get q

theorem awaitWorker_eq (host : PluginHost) (m : PluginManager) :
    ∃ m', awaitWorker host m = (host.answer m.clock, m') ∧ Awaited host m m' := by
  obtain ⟨m', hrun, hcrashed⟩ :=
    forEach_handlePluginCrash (host.crashes m.clock) { m with clock := m.clock + 1 }
  refine ⟨m', ?_, hcrashed.clock, hcrashed.states, hcrashed.same⟩
  refine (bind_of_ok hrun).trans ?_
  cases host.answer m.clock with
  | error | ok => rfl

theorem Awaited.stateAt_eq (h : Awaited host m m') (hid : ¬ m.CanGo id .crashed) :
    m'.stateAt id = m.stateAt id := by
  unfold stateAt
  rw [h.same id fun _ => hid]

/-! ### The methods -/

variable {α : Type} {c : RegisteredPlugin → Prop} {message : RegisteredPlugin → String}
  {f : RegisteredPlugin → ManagerM α}

theorem getPlugin_throwIf [DecidablePred c]
    (h : ∀ plugin, m.registry.get id = some plugin → c plugin) :
    ∃ e, (do
      let plugin ← getPlugin id
      throwIf (c plugin) (message plugin)
      f plugin : ManagerM α) m = (.error e, m) := by
  cases hget : m.registry.get id with
  | none =>
    obtain ⟨e, hrun⟩ := getPlugin_of_none hget
    refine ⟨e, ?_⟩
    exact bind_of_error hrun
  | some plugin =>
    refine ⟨message plugin, ?_⟩
    refine (bind_of_ok (getPlugin_of_get hget)).trans ?_
    rw [throwIf, if_pos (h plugin hget)]
    rfl

theorem getPlugin_throwIf_of_get [DecidablePred c] (hget : m.registry.get id = some plugin)
    (h : ¬ c plugin) :
    (do
      let plugin ← getPlugin id
      throwIf (c plugin) (message plugin)
      f plugin : ManagerM α) m = f plugin m := by
  refine (bind_of_ok (getPlugin_of_get hget)).trans ?_
  rw [throwIf, if_neg h]
  rfl

theorem disablePlugin_of_not_enabled (host : PluginHost) (h : m.stateAt id ≠ some .enabled) :
    ∃ e, disablePlugin host id m = (.error e, m) :=
  getPlugin_throwIf fun _ hget hstate => h (hstate ▸ stateAt_of_get hget)

theorem disablePlugin_of_enabled (host : PluginHost) (h : m.stateAt id = some .enabled) :
    ∃ m₁, Awaited host m m₁ ∧
      disablePlugin host id m = bindResult
        (fun _ => setState id .disabled)
        (host.answer m.clock, m₁) := by
  obtain ⟨plugin, hget, hstate⟩ := exists_of_stateAt h
  obtain ⟨m₁, hrun, hawaited⟩ := awaitWorker_eq host m
  refine ⟨m₁, hawaited, ?_⟩
  unfold disablePlugin
  rw [getPlugin_throwIf_of_get hget fun hne => hne hstate]
  show bindResult _ (awaitWorker host m) = _
  rw [hrun]

theorem Awaited.states_of_set {old : Option PluginState} {m₀ : PluginManager}
    (h : Awaited host m₀ m') (hclock : m₀.clock = m.clock)
    (hset : ∀ q, m₀.stateAt q = if q = id then old else m.stateAt q) {q : String} (hq : q ≠ id) :
    m'.stateAt q =
      if q ∈ host.crashes m.clock then (m.stateAt q).map afterCrash else m.stateAt q := by
  rw [h.states, hclock, hset, if_neg hq]

theorem stateAt_unregister (r : PluginRegistry) (id q : String) :
    ((r.unregister id).get q).map RegisteredPlugin.state =
      if q = id then none else (r.get q).map RegisteredPlugin.state := by
  unfold PluginRegistry.unregister
  split
  · next hnone =>
    split_ifs with hq
    · rw [hq, hnone]
      rfl
    · rfl
  · next plugin hget =>
    rw [get_delete]
    split_ifs with hq
    · rfl
    · refine observe_foldl (fun r => (r.get q).map RegisteredPlugin.state) (fun r depId => ?_)
        plugin.dependencies r
      show ((r.updateSets depId _ _).get q).map _ = _
      rw [get_updateSets, Option.map_map]
      congr 1
      funext plugin
      show (if q = depId then _ else plugin).state = plugin.state
      split_ifs <;> rfl

/-- No recorded dependent is enabled, and the plugin may be unloaded. -/
def CanUnload (m : PluginManager) (id : String) : Prop :=
  (∀ dep ∈ m.registry.getDependents id, dep.state ≠ .enabled) ∧ m.CanGo id .unloading

theorem beginUnload_of_not_canUnload (h : ¬ m.CanUnload id) :
    ∃ e m', beginUnload id m = (.error e, m') ∧ m'.registry = m.registry := by
  cases hget : m.registry.get id with
  | none =>
    obtain ⟨e, hrun⟩ := getPlugin_of_none hget
    refine ⟨e, m, ?_, rfl⟩
    unfold beginUnload
    exact bind_of_error hrun
  | some plugin =>
    let enabledDependents := (m.registry.getDependents id).filter (·.state = .enabled)
    unfold beginUnload
    show ∃ e m', bindResult _ (getPlugin id m) = (Except.error e, m') ∧ _
    rw [getPlugin_of_get hget, bindResult_ok]
    show ∃ e m', bindResult _ (throwIf (enabledDependents ≠ []) _ m) = _ ∧ _
    by_cases hdependents : enabledDependents = []
    · rw [throwIf, if_neg fun hne => hne hdependents]
      have hgo : ¬ m.CanGo id .unloading := by
        refine fun hgo => h ⟨fun dep hdep henabled => ?_, hgo⟩
        have hmem : dep ∈ enabledDependents := List.mem_filter.mpr ⟨hdep, decide_eq_true henabled⟩
        rw [hdependents] at hmem
        exact List.not_mem_nil hmem
      obtain ⟨e, hset⟩ := setState_of_not_canGo hgo
      refine ⟨e, m, ?_, rfl⟩
      show bindResult _ (setState id .unloading m) = _
      rw [hset]
      rfl
    · rw [throwIf, if_pos hdependents]
      exact ⟨_, m, rfl, rfl⟩

theorem beginUnload_of_canUnload (h : m.CanUnload id) :
    ∃ m', beginUnload id m = (.ok (), m') ∧ m'.clock = m.clock ∧
      ∀ q, m'.stateAt q = if q = id then some .unloading else m.stateAt q := by
  obtain ⟨hdependents, hgo⟩ := h
  have hgo' := hgo
  obtain ⟨old, hstate, -⟩ := hgo'
  obtain ⟨plugin, hget, -⟩ := exists_of_stateAt hstate
  have hnone : (m.registry.getDependents id).filter (·.state = .enabled) = [] :=
    List.filter_eq_nil_iff.mpr fun dep hdep => by simpa using hdependents dep hdep
  obtain ⟨m₁, hset, hclock, hstates, -⟩ := setState_of_canGo hgo
  refine ⟨{ m₁ with unloads := (id, m.registry) :: m₁.unloads }, ?_, hclock, hstates⟩
  unfold beginUnload
  show bindResult _ (getPlugin id m) = _
  rw [getPlugin_of_get hget, bindResult_ok]
  show bindResult _ (throwIf _ _ m) = _
  rw [throwIf, if_neg fun hne => hne hnone]
  exact bind_of_ok hset

theorem unloadPlugin_of_not_canUnload (host : PluginHost) (h : ¬ m.CanUnload id) :
    ∃ e m', unloadPlugin host id m = (.error e, m') ∧ m'.registry = m.registry := by
  obtain ⟨e, m', hrun, hregistry⟩ := beginUnload_of_not_canUnload h
  refine ⟨e, m', ?_, hregistry⟩
  unfold unloadPlugin
  exact bind_of_error hrun

/-- A plugin that may be unloaded is gone then, whatever its worker answers. -/
theorem unloadPlugin_of_canUnload (host : PluginHost) (h : m.CanUnload id) :
    ∃ m', unloadPlugin host id m = (host.answer m.clock, m') ∧ ∀ q, m'.stateAt q =
      if q = id then none
      else if q ∈ host.crashes m.clock then (m.stateAt q).map afterCrash else m.stateAt q := by
  obtain ⟨m₀, hrun, hclock, hset⟩ := beginUnload_of_canUnload h
  obtain ⟨m₁, hawait, hawaited⟩ := awaitWorker_eq host m₀
  refine ⟨m₁.withRegistry (m₁.registry.unregister id), ?_, fun q => ?_⟩
  · unfold unloadPlugin
    refine (bind_of_ok hrun).trans ?_
    show catchResult _ (bindResult _ (awaitWorker host m₀)) = _
    rw [hawait, hclock]
    cases host.answer m.clock with
    | error | ok => rfl
  · show ((m₁.registry.unregister id).get q).map _ = _
    rw [stateAt_unregister]
    split_ifs with hq hcrash
    · rfl
    · exact (hawaited.states_of_set hclock hset hq).trans (if_pos hcrash)
    · exact (hawaited.states_of_set hclock hset hq).trans (if_neg hcrash)

/-- The file can be parsed, its name is free, and it is valid. -/
def CanRegister (host : PluginHost) (m : PluginManager) (filePath : String) : Prop :=
  ∃ file, host.parsePluginFile m.clock filePath = .ok file ∧
    m.registry.get file.metadata.name = none ∧ host.validate file = []

variable {filePath : String}

theorem registerPlugin_of_parsed {file : ParsedPluginFile}
    (hparse : host.parsePluginFile m.clock filePath = .ok file)
    (hfree : m.registry.get file.metadata.name = none) :
    ∃ (plugin : RegisteredPlugin) (m₀ : PluginManager), plugin.id = file.metadata.name ∧
      (∀ q, m₀.stateAt q = if q = plugin.id then some .discovered else m.stateAt q) ∧
      registerPlugin host filePath m =
        (if host.validate file ≠ [] then do
          setState plugin.id .error
          throw ("; ".intercalate (host.validate file))
        else do
          setState plugin.id .validated
          return plugin : ManagerM RegisteredPlugin) m₀ := by
  let plugin : RegisteredPlugin :=
    { id := file.metadata.name, filePath, file, state := .discovered, dependents := .empty
      dependencies := [] }
  have hregister : m.registry.register filePath file = .ok (plugin, m.registry.put plugin) := by
    unfold PluginRegistry.register
    dsimp only
    rw [hfree]
    rfl
  let m₀ : PluginManager :=
    { m with clock := m.clock + 1, events := (.registered plugin, m.registry) :: m.events }
  refine ⟨plugin, m₀.withRegistry (m.registry.put plugin), rfl, fun q => ?_, ?_⟩
  · show ((m.registry.put plugin).get q).map _ = _
    rw [get_put]
    split_ifs <;> rfl
  · unfold registerPlugin
    show bindResult _ (Except.ok _, { m with clock := m.clock + 1 }) = _
    rw [bindResult_ok, hparse]
    show bindResult _ (liftExcept (m.registry.register filePath file) _) = _
    rw [hregister]
    rfl

theorem registerPlugin_of_canRegister (h : CanRegister host m filePath) :
    ∃ plugin m', registerPlugin host filePath m = (.ok plugin, m') ∧
      m'.stateAt plugin.id = some .validated ∧
      ∀ q, m'.stateAt q = m.stateAt q ∨ (m.stateAt q = none ∧ m'.stateAt q = some .validated) := by
  obtain ⟨file, hparse, hfree, hvalid⟩ := h
  obtain ⟨plugin, m₀, hid, hstates, hrun⟩ := registerPlugin_of_parsed hparse hfree
  have hdiscovered : m₀.stateAt plugin.id = some .discovered := by
    rw [hstates, if_pos rfl]
  obtain ⟨m', hset, -, hstates', -⟩ := @setState_of_canGo m₀ plugin.id .validated
    ⟨.discovered, hdiscovered, rfl⟩
  refine ⟨plugin, m', ?_, ?_, fun q => ?_⟩
  · rw [hrun, if_neg fun hne => hne hvalid]
    exact bind_of_ok hset
  · rw [hstates', if_pos rfl]
  · rw [hstates', hstates]
    split_ifs with hq
    · right
      refine ⟨?_, rfl⟩
      unfold stateAt
      rw [hq, hid, hfree]
      rfl
    · left
      rfl

theorem registerPlugin_of_not_canRegister (h : ¬ CanRegister host m filePath) :
    ∃ e m', registerPlugin host filePath m = (.error e, m') ∧
      ∀ q, m'.stateAt q = m.stateAt q ∨ (m.stateAt q = none ∧ m'.stateAt q = some .error) := by
  cases hparse : host.parsePluginFile m.clock filePath with
  | error e =>
    refine ⟨e.message, { m with clock := m.clock + 1 }, ?_, fun q => Or.inl rfl⟩
    unfold registerPlugin
    show bindResult _ (Except.ok _, { m with clock := m.clock + 1 }) = _
    rw [bindResult_ok, hparse]
    rfl
  | ok file =>
    cases hfree : m.registry.get file.metadata.name with
    | some other =>
      have hregister : ∃ e, m.registry.register filePath file = .error e := by
        unfold PluginRegistry.register
        dsimp only
        rw [hfree]
        exact ⟨_, rfl⟩
      obtain ⟨e, hregister⟩ := hregister
      refine ⟨e, { m with clock := m.clock + 1 }, ?_, fun q => Or.inl rfl⟩
      unfold registerPlugin
      show bindResult _ (Except.ok _, { m with clock := m.clock + 1 }) = _
      rw [bindResult_ok, hparse]
      show bindResult _ (liftExcept (m.registry.register filePath file) _) = _
      rw [hregister]
      rfl
    | none =>
      -- the file is registered before it is validated, so that an invalid one stays behind
      have hinvalid : host.validate file ≠ [] := fun hvalid => h ⟨file, hparse, hfree, hvalid⟩
      obtain ⟨plugin, m₀, hid, hstates, hrun⟩ := registerPlugin_of_parsed hparse hfree
      have hdiscovered : m₀.stateAt plugin.id = some .discovered := by
        rw [hstates, if_pos rfl]
      obtain ⟨m', hset, -, hstates', -⟩ := @setState_of_canGo m₀ plugin.id .error
        ⟨.discovered, hdiscovered, rfl⟩
      refine ⟨"; ".intercalate (host.validate file), m', ?_, fun q => ?_⟩
      · rw [hrun, if_pos hinvalid]
        exact bind_of_ok hset
      · rw [hstates', hstates]
        split_ifs with hq
        · right
          refine ⟨?_, rfl⟩
          unfold stateAt
          rw [hq, hid, hfree]
          rfl
        · left
          rfl

/-- The plugin is validated, and the plugins it is recorded to depend on are enabled. -/
def CanLoad (m : PluginManager) (id : String) : Prop :=
  m.stateAt id = some .validated ∧ m.registry.areDependenciesReady id = true

theorem loadPlugin_of_not_canLoad (host : PluginHost) (h : ¬ m.CanLoad id) :
    ∃ e, loadPlugin host id m = (.error e, m) := by
  by_cases hguard : ∀ plugin, m.registry.get id = some plugin →
      plugin.state ≠ .validated ∧ plugin.state ≠ .discovered
  · exact getPlugin_throwIf hguard
  · push Not at hguard
    obtain ⟨plugin, hget, hstate⟩ := hguard
    unfold loadPlugin
    rw [getPlugin_throwIf_of_get hget fun hne => hne.2 (hstate hne.1)]
    show ∃ e, bindResult _ (throwIf _ _ m) = _
    by_cases hready : m.registry.areDependenciesReady id = false
    · rw [throwIf, if_pos hready]
      exact ⟨_, rfl⟩
    · rw [throwIf, if_neg hready]
      have hgo : ¬ m.CanGo id .loading := by
        rintro ⟨old, hold, hvalid⟩
        refine h ⟨?_, by simpa using hready⟩
        cases old <;> simp_all [PluginState.isValidStateTransition,
          PluginState.validStateTransitions]
      obtain ⟨e, hset⟩ := setState_of_not_canGo hgo
      refine ⟨e, ?_⟩
      show bindResult _ (setState id .loading m) = _
      rw [hset]
      rfl

theorem loadPlugin_of_canLoad (host : PluginHost) (h : m.CanLoad id) :
    ∃ m', loadPlugin host id m = (host.answer m.clock, m') ∧
      (∀ q, q ≠ id → m'.stateAt q =
        if q ∈ host.crashes m.clock then (m.stateAt q).map afterCrash else m.stateAt q) ∧
      (host.answer m.clock = .ok () → m'.stateAt id = some .loaded) ∧
      (host.answer m.clock ≠ .ok () → m'.stateAt id = some .error) := by
  obtain ⟨hstate, hready⟩ := h
  obtain ⟨plugin, hget, hvalidated⟩ := exists_of_stateAt hstate
  obtain ⟨m₀, hloading, hclock, hset, -⟩ := @setState_of_canGo m id .loading
    ⟨.validated, hstate, rfl⟩
  obtain ⟨m₁, hawait, hawaited⟩ := awaitWorker_eq host m₀
  have hloading₀ : m₀.stateAt id = some .loading := by
    rw [hset, if_pos rfl]
  -- a plugin that is loading cannot crash, so that its two later transitions are allowed
  have hloading₁ : m₁.stateAt id = some .loading := by
    refine (hawaited.stateAt_eq ?_).trans hloading₀
    rintro ⟨old, hold, hvalid⟩
    cases hloading₀.symm.trans hold
    exact absurd hvalid (by decide)
  have hrun : loadPlugin host id m = tryCatch
      (do
        awaitWorker host
        setState id .loaded)
      (fun error => do
        setState id .error
        throw error) m₀ := by
    unfold loadPlugin
    rw [getPlugin_throwIf_of_get hget fun hne => hne.1 hvalidated]
    show bindResult _ (throwIf _ _ m) = _
    rw [throwIf, if_neg (by rw [hready]; exact Bool.noConfusion)]
    exact bind_of_ok hloading
  rw [hrun]
  show ∃ m', catchResult _ (bindResult _ (awaitWorker host m₀)) = _ ∧ _
  rw [hawait, hclock]
  cases hanswer : host.answer m.clock with
  | ok _ =>
    obtain ⟨m', hset', -, hstates', -⟩ := @setState_of_canGo m₁ id .loaded
      ⟨.loading, hloading₁, rfl⟩
    refine ⟨m', ?_, fun q hq => ?_, fun _ => ?_, fun hne => absurd rfl hne⟩
    · show catchResult _ (setState id .loaded m₁) = _
      rw [hset']
      rfl
    · rw [hstates', if_neg hq]
      exact hawaited.states_of_set hclock hset hq
    · rw [hstates', if_pos rfl]
  | error e =>
    obtain ⟨m', hset', -, hstates', -⟩ := @setState_of_canGo m₁ id .error
      ⟨.loading, hloading₁, rfl⟩
    refine ⟨m', ?_, fun q hq => ?_, fun hok => (by cases hok), fun _ => ?_⟩
    · exact bind_of_ok hset'
    · rw [hstates', if_neg hq]
      exact hawaited.states_of_set hclock hset hq
    · rw [hstates', if_pos rfl]

/-- The plugin is loaded, disabled or crashed. -/
def CanEnable (m : PluginManager) (id : String) : Prop :=
  ∃ old, m.stateAt id = some old ∧ (old = .loaded ∨ old = .disabled ∨ old = .crashed)

theorem enablePlugin_of_not_canEnable (host : PluginHost) (h : ¬ m.CanEnable id) :
    ∃ e, enablePlugin host id m = (.error e, m) := by
  refine getPlugin_throwIf fun plugin hget => ⟨fun hstate => ?_, fun hstate => ?_, fun hstate => ?_⟩
  · exact h ⟨plugin.state, stateAt_of_get hget, Or.inl hstate⟩
  · exact h ⟨plugin.state, stateAt_of_get hget, Or.inr (Or.inl hstate)⟩
  · exact h ⟨plugin.state, stateAt_of_get hget, Or.inr (Or.inr hstate)⟩

theorem enablePlugin_of_canEnable (host : PluginHost) (h : m.CanEnable id) :
    ∃ m', (host.answer m.clock = .ok () → enablePlugin host id m = (.ok (), m')) ∧
      (host.answer m.clock ≠ .ok () → ∃ e, enablePlugin host id m = (.error e, m')) ∧
      (∀ q, q ≠ id → m'.stateAt q =
        if q ∈ host.crashes m.clock then (m.stateAt q).map afterCrash else m.stateAt q) ∧
      (host.answer m.clock = .ok () → m'.stateAt id = some .enabled) ∧
      (host.answer m.clock ≠ .ok () → m'.stateAt id = m.stateAt id) := by
  obtain ⟨old, hstate, hold⟩ := h
  obtain ⟨plugin, hget, hplugin⟩ := exists_of_stateAt hstate
  obtain ⟨m₁, hawait, hawaited⟩ := awaitWorker_eq host m
  -- the plugin is in none of the states from which a crash is allowed
  have hsame : m₁.stateAt id = m.stateAt id := by
    refine hawaited.stateAt_eq ?_
    rintro ⟨old', hold', hvalid⟩
    cases hstate.symm.trans hold'
    rcases hold with rfl | rfl | rfl <;> exact absurd hvalid (by decide)
  have hrun : enablePlugin host id m = tryCatch
      (do
        awaitWorker host
        setState id .enabled)
      (fun error => do
        setState id .error
        throw error) m := by
    unfold enablePlugin
    refine getPlugin_throwIf_of_get hget ?_
    rw [hplugin]
    rintro ⟨hloaded, hdisabled, hcrashed⟩
    rcases hold with hold | hold | hold
    · exact hloaded hold
    · exact hdisabled hold
    · exact hcrashed hold
  have hrun' : enablePlugin host id m = catchResult
      (fun error => do
        setState id .error
        throw error)
      (bindResult
        (fun _ => setState id .enabled)
        (host.answer m.clock, m₁)) := by
    rw [hrun, ← hawait]
    rfl
  rw [hrun']
  cases hanswer : host.answer m.clock with
  | ok _ =>
    have hgo : m₁.CanGo id .enabled := by
      refine ⟨old, hsame.trans hstate, ?_⟩
      rcases hold with rfl | rfl | rfl <;> rfl
    obtain ⟨m', hset', -, hstates', -⟩ := setState_of_canGo hgo
    refine ⟨m', fun _ => ?_, fun hne => absurd rfl hne, fun q hq => ?_, fun _ => ?_,
      fun hne => absurd rfl hne⟩
    · show catchResult _ (setState id .enabled m₁) = _
      rw [hset']
      rfl
    · rw [hstates', if_neg hq]
      exact hawaited.states q
    · rw [hstates', if_pos rfl]
  | error e =>
    -- no transition leads from these states to the error, so that the catch throws, too
    have hgo : ¬ m₁.CanGo id .error := by
      rintro ⟨old', hold', hvalid⟩
      cases (hsame.trans hstate).symm.trans hold'
      rcases hold with rfl | rfl | rfl <;> exact absurd hvalid (by decide)
    obtain ⟨refused, hset'⟩ := setState_of_not_canGo hgo
    refine ⟨m₁, fun hok => (by cases hok), fun _ => ⟨refused, ?_⟩, fun q _ => hawaited.states q,
      fun hok => (by cases hok), fun _ => hsame⟩
    exact bind_of_error hset'

end OpnetNode.PluginManager
