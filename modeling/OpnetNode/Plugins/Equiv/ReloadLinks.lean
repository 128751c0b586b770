import OpnetNode.Plugins.Equiv.PluginMethods
import OpnetNode.Transition

/-!
# The links of a reload

`reloadPlugin` is a chain of calls: each disables, unloads, registers, loads or enables one plugin
(`Link`).  `Link.Asks` is what the guards of a call check before it asks a worker, and `Link.Ready`
what has to hold in the state a call is made in for it to return (`Link.ready_iff`).

Only the call that enables a plugin makes it enabled (`Link.keeps_down`).  The calls that take
plugins down only lower the rank of their states (`Link.lowered`), so that what one of them has
changed no later one restores.
-/

namespace OpnetNode.PluginManager

open Proc PluginRegistry

variable {host : PluginHost} {m m' : PluginManager} {id : String} {state : PluginState}

/-! ### Links -/

/-- A call of a reload.  That of a dependent may depend on its state. -/
inductive Link
  | disable (ifEnabled : Bool) (pluginId : String)
  | unload (ifLoaded : Bool) (pluginId : String)
  | register (filePath : String)
  | load (pluginId : String)
  | enable (pluginId : String)

namespace Link

def procedure (host : PluginHost) : Link → ManagerM Unit
  | disable false pluginId => disablePlugin host pluginId
  | disable true pluginId => do
    let isEnabled ← isInState pluginId .enabled
    runIf isEnabled (disablePlugin host pluginId)
  | unload false pluginId => unloadPlugin host pluginId
  | unload true pluginId => do
    let isLoaded ← isInState pluginId .loaded
    let isDisabled ← isInState pluginId .disabled
    runIf (isLoaded || isDisabled) (unloadPlugin host pluginId)
  | register filePath => do
    let _ ← registerPlugin host filePath
    pure ()
  | load pluginId => loadPlugin host pluginId
  | enable pluginId => enablePlugin host pluginId

/-- The plugin is not in a state for the call to be made. -/
def Idle (m : PluginManager) : Link → Prop
  | disable ifEnabled pluginId => ifEnabled = true ∧ m.stateAt pluginId ≠ some .enabled
  | unload ifLoaded pluginId =>
    ifLoaded = true ∧ m.stateAt pluginId ≠ some .loaded ∧ m.stateAt pluginId ≠ some .disabled
  | _ => False

/-- The guards of the call are passed, so that it asks a worker. -/
def Asks (m : PluginManager) : Link → Prop
  | disable _ pluginId => m.stateAt pluginId = some .enabled
  | unload _ pluginId => m.CanUnload pluginId
  | register _ => False
  | load pluginId => m.CanLoad pluginId
  | enable pluginId => m.CanEnable pluginId

/-- The call goes through: it is not made, or its guards are passed and the worker agrees. -/
def Ready (host : PluginHost) (m : PluginManager) (link : Link) : Prop :=
  match link with
  | disable _ pluginId => link.Idle m ∨
      (link.Asks m ∧ host.answer m.clock = .ok () ∧ pluginId ∉ host.crashes m.clock)
  | register filePath => CanRegister host m filePath
  | _ => link.Idle m ∨ (link.Asks m ∧ host.answer m.clock = .ok ())

end Link

/-- The state a procedure returns in. -/
def returned {σ ε α : Type} : Except ε α × σ → Option σ
  | (.ok _, s) => some s
  | (.error _, _) => none

/-- A call that returns. -/
def Link.step (host : PluginHost) (m : PluginManager) (link : Link) : Option PluginManager :=
  returned (link.procedure host m)

theorem isInState_eq (m : PluginManager) (id : String) (state : PluginState) :
    isInState id state m = (.ok (decide (m.stateAt id = some state)), m) := rfl

namespace Link

theorem procedure_of_idle (host : PluginHost) {link : Link} (h : link.Idle m) :
    link.procedure host m = (.ok (), m) := by
  cases link with
  | disable ifEnabled pluginId =>
    obtain ⟨rfl, hstate⟩ := h
    unfold procedure
    show bindResult _ _ = _
    rw [isInState_eq, bindResult_ok, decide_eq_false hstate]
    rfl
  | unload ifLoaded pluginId =>
    obtain ⟨rfl, hloaded, hdisabled⟩ := h
    unfold procedure
    show bindResult _ _ = _
    rw [isInState_eq, bindResult_ok]
    show bindResult _ _ = _
    rw [isInState_eq, bindResult_ok, decide_eq_false hloaded, decide_eq_false hdisabled]
    rfl
  | register | load | enable => exact h.elim

theorem procedure_disable (host : PluginHost) {ifEnabled : Bool} {pluginId : String}
    (h : ¬ (disable ifEnabled pluginId).Idle m) :
    (disable ifEnabled pluginId).procedure host m = disablePlugin host pluginId m := by
  cases ifEnabled with
  | false => rfl
  | true =>
    have hstate : m.stateAt pluginId = some .enabled := by
      by_contra hne
      exact h ⟨rfl, hne⟩
    unfold procedure
    show bindResult _ _ = _
    rw [isInState_eq, bindResult_ok, decide_eq_true hstate]
    rfl

theorem procedure_unload (host : PluginHost) {ifLoaded : Bool} {pluginId : String}
    (h : ¬ (unload ifLoaded pluginId).Idle m) :
    (unload ifLoaded pluginId).procedure host m = unloadPlugin host pluginId m := by
  cases ifLoaded with
  | false => rfl
  | true =>
    unfold procedure
    show bindResult _ _ = _
    rw [isInState_eq, bindResult_ok]
    show bindResult _ _ = _
    rw [isInState_eq, bindResult_ok]
    have hstate : (decide (m.stateAt pluginId = some .loaded) ||
        decide (m.stateAt pluginId = some .disabled)) = true := by
      by_contra hne
      rw [Bool.or_eq_true, decide_eq_true_eq, decide_eq_true_eq, not_or] at hne
      exact h ⟨rfl, hne⟩
    rw [hstate]
    rfl

end Link

/-! ### Which calls return -/

theorem returned_isSome {σ ε : Type} {r : Except ε Unit} {s : σ} :
    (returned (r, s)).isSome = true ↔ r = .ok () := by
  cases r with
  | ok _ => exact ⟨fun _ => rfl, fun _ => rfl⟩
  | error e => exact ⟨fun h => (by cases h), fun h => (by cases h)⟩

theorem disablePlugin_returns_iff (host : PluginHost) (m : PluginManager) (id : String) :
    (returned (disablePlugin host id m)).isSome = true ↔
      m.stateAt id = some .enabled ∧ host.answer m.clock = .ok () ∧ id ∉ host.crashes m.clock := by
  by_cases henabled : m.stateAt id = some .enabled
  · obtain ⟨m₁, hawaited, hrun⟩ := disablePlugin_of_enabled host henabled
    rw [hrun]
    cases hanswer : host.answer m.clock with
    | error e => exact ⟨fun h => (by cases h), fun h => (by cases h.2.1)⟩
    | ok _ =>
      show (returned (setState id .disabled m₁)).isSome = true ↔ _
      have hstate := hawaited.states id
      by_cases hcrash : id ∈ host.crashes m.clock
      · rw [if_pos hcrash, henabled] at hstate
        have hgo : ¬ m₁.CanGo id .disabled := by
          rintro ⟨old, hold, hvalid⟩
          cases hstate.symm.trans hold
          exact absurd hvalid (by decide)
        obtain ⟨e, hset⟩ := setState_of_not_canGo hgo
        rw [hset, returned_isSome]
        exact ⟨fun h => (by cases h), fun h => absurd hcrash h.2.2⟩
      · rw [if_neg hcrash, henabled] at hstate
        obtain ⟨m', hset, -⟩ := @setState_of_canGo m₁ id .disabled ⟨.enabled, hstate, rfl⟩
        rw [hset, returned_isSome]
        exact ⟨fun _ => ⟨henabled, rfl, hcrash⟩, fun _ => rfl⟩
  · obtain ⟨e, hrun⟩ := disablePlugin_of_not_enabled host henabled
    rw [hrun, returned_isSome]
    exact ⟨fun h => (by cases h), fun h => absurd h.1 henabled⟩

theorem unloadPlugin_returns_iff (host : PluginHost) (m : PluginManager) (id : String) :
    (returned (unloadPlugin host id m)).isSome = true ↔
      m.CanUnload id ∧ host.answer m.clock = .ok () := by
  by_cases hcan : m.CanUnload id
  · obtain ⟨m', hrun, -⟩ := unloadPlugin_of_canUnload host hcan
    rw [hrun, returned_isSome]
    exact ⟨fun h => ⟨hcan, h⟩, fun h => h.2⟩
  · obtain ⟨e, m', hrun, -⟩ := unloadPlugin_of_not_canUnload host hcan
    rw [hrun, returned_isSome]
    exact ⟨fun h => (by cases h), fun h => absurd h.1 hcan⟩

theorem loadPlugin_returns_iff (host : PluginHost) (m : PluginManager) (id : String) :
    (returned (loadPlugin host id m)).isSome = true ↔
      m.CanLoad id ∧ host.answer m.clock = .ok () := by
  by_cases hcan : m.CanLoad id
  · obtain ⟨m', hrun, -⟩ := loadPlugin_of_canLoad host hcan
    rw [hrun, returned_isSome]
    exact ⟨fun h => ⟨hcan, h⟩, fun h => h.2⟩
  · obtain ⟨e, hrun⟩ := loadPlugin_of_not_canLoad host hcan
    rw [hrun, returned_isSome]
    exact ⟨fun h => (by cases h), fun h => absurd h.1 hcan⟩

theorem enablePlugin_returns_iff (host : PluginHost) (m : PluginManager) (id : String) :
    (returned (enablePlugin host id m)).isSome = true ↔
      m.CanEnable id ∧ host.answer m.clock = .ok () := by
  by_cases hcan : m.CanEnable id
  · obtain ⟨m', hok, herror, -⟩ := enablePlugin_of_canEnable host hcan
    by_cases hanswer : host.answer m.clock = .ok ()
    · rw [hok hanswer, returned_isSome]
      exact ⟨fun _ => ⟨hcan, hanswer⟩, fun _ => rfl⟩
    · obtain ⟨e, hrun⟩ := herror hanswer
      rw [hrun, returned_isSome]
      exact ⟨fun h => (by cases h), fun h => absurd h.2 hanswer⟩
  · obtain ⟨e, hrun⟩ := enablePlugin_of_not_canEnable host hcan
    rw [hrun, returned_isSome]
    exact ⟨fun h => (by cases h), fun h => absurd h.1 hcan⟩

/-- **A call of a reload returns exactly if it is ready.** -/
theorem Link.ready_iff (host : PluginHost) (m : PluginManager) (link : Link) :
    link.Ready host m ↔ (link.step host m).isSome = true := by
  unfold Link.step
  by_cases hidle : link.Idle m
  · rw [Link.procedure_of_idle host hidle]
    refine ⟨fun _ => rfl, fun _ => ?_⟩
    cases link with
    | disable | unload => exact Or.inl hidle
    | register | load | enable => exact hidle.elim
  · cases link with
    | disable ifEnabled pluginId =>
      rw [Link.procedure_disable host hidle, disablePlugin_returns_iff]
      exact or_iff_right hidle
    | unload ifLoaded pluginId =>
      rw [Link.procedure_unload host hidle, unloadPlugin_returns_iff]
      exact or_iff_right hidle
    | register filePath =>
      show CanRegister host m filePath ↔ (returned (bindResult _ _)).isSome = true
      by_cases hcan : CanRegister host m filePath
      · obtain ⟨plugin, m', hrun, -⟩ := registerPlugin_of_canRegister hcan
        rw [hrun]
        exact ⟨fun _ => rfl, fun _ => hcan⟩
      · obtain ⟨e, m', hrun, -⟩ := registerPlugin_of_not_canRegister hcan
        rw [hrun]
        exact ⟨fun h => absurd h hcan, fun h => (by cases h)⟩
    | load pluginId =>
      show _ ↔ (returned (loadPlugin host pluginId m)).isSome = true
      rw [loadPlugin_returns_iff]
      exact or_iff_right hidle
    | enable pluginId =>
      show _ ↔ (returned (enablePlugin host pluginId m)).isSome = true
      rw [enablePlugin_returns_iff]
      exact or_iff_right hidle

/-! ### A plugin that is not enabled -/

def Down (id : String) (m : PluginManager) : Prop := ¬ m.registry.EnabledAt id

theorem keeps_down_setState (id q : String) {state : PluginState} (h : state ≠ .enabled) :
    Keeps (Down id) (setState q state) :=
  keeps_setState fun _ _ hdown hset => not_enabledAt_setState hset h hdown

theorem keeps_down_record (id : String) (event : HostEvent) : Keeps (Down id) (record event) :=
  keeps_modify fun _ h => h

theorem kept_down (id : String) : Kept (Down id) where
  clock _ h := h
  crash q := by
    refine keeps_get_bind fun m hm => ?_
    rcases m.registry.get q with _ | plugin
    · exact hm
    · exact keeps_bind (keeps_down_record id _)
        (fun _ => keeps_down_setState id q (by decide)) m hm
  inactive q _ hstate := keeps_down_setState id q hstate.enabled

theorem keeps_down_unregister (id q : String) : Keeps (Down id) (unregister q) := by
  refine keeps_get_bind fun m hm => ?_
  show ¬ (m.registry.unregister q).EnabledAt id
  rw [enabledAt_iff, stateAt_unregister]
  split_ifs with hq
  · exact fun hnone => (by cases hnone)
  · rwa [← enabledAt_iff]

theorem keeps_down_disablePlugin (host : PluginHost) (id q : String) :
    Keeps (Down id) (disablePlugin host q) := by
  refine keeps_bind (keeps_getPlugin q) fun plugin => keeps_bind (keeps_throwIf _ _) fun _ => ?_
  exact keeps_bind ((kept_down id).awaitWorker host) fun _ => keeps_down_setState id q (by decide)

theorem keeps_down_unloadPlugin (host : PluginHost) (id q : String) :
    Keeps (Down id) (unloadPlugin host q) := by
  have hbegin : Keeps (Down id) (beginUnload q) := by
    refine keeps_bind (keeps_getPlugin q) fun plugin => keeps_get_bind fun m hm => ?_
    refine keeps_bind (keeps_throwIf _ _) (fun _ => ?_) m hm
    exact keeps_bind (keeps_down_setState id q (by decide)) fun _ => keeps_modify fun _ h => h
  refine keeps_bind hbegin fun _ => keeps_tryCatch ?_ fun e => ?_
  · exact keeps_bind ((kept_down id).awaitWorker host) fun _ => keeps_down_unregister id q
  · exact keeps_bind (keeps_down_unregister id q) fun _ => keeps_throw e

theorem keeps_down_registerPlugin (host : PluginHost) (id filePath : String) :
    Keeps (Down id) (registerPlugin host filePath) := by
  intro m hm
  have hstates : ∀ m', (∀ q, m'.stateAt q = m.stateAt q ∨ m'.stateAt q = some .error ∨
      m'.stateAt q = some .validated) → Down id m' := by
    intro m' h henabled
    rw [enabledAt_iff_stateAt] at henabled
    rcases h id with hsame | herror | hvalidated
    · exact hm (enabledAt_iff_stateAt.mpr (hsame.symm.trans henabled))
    · cases herror.symm.trans henabled
    · cases hvalidated.symm.trans henabled
  by_cases hcan : CanRegister host m filePath
  · obtain ⟨plugin, m', hrun, -, h⟩ := registerPlugin_of_canRegister hcan
    rw [hrun]
    exact hstates m' fun q => (h q).imp_right fun h => Or.inr h.2
  · obtain ⟨e, m', hrun, h⟩ := registerPlugin_of_not_canRegister hcan
    rw [hrun]
    exact hstates m' fun q => (h q).imp_right fun h => Or.inl h.2

theorem keeps_down_enablePlugin (host : PluginHost) {id q : String} (h : q ≠ id) :
    Keeps (Down id) (enablePlugin host q) := by
  refine keeps_bind (keeps_getPlugin q) fun plugin => keeps_bind (keeps_throwIf _ _) fun _ => ?_
  refine keeps_tryCatch ?_ fun e => ?_
  · refine keeps_bind ((kept_down id).awaitWorker host) fun _ => keeps_setState fun m r hm hset => ?_
    obtain ⟨plugin, hget, -, rfl⟩ := setState_eq_ok hset
    rintro ⟨p, hget', henabled⟩
    replace hget' : (m.registry.put _).get id = some p := hget'
    rw [get_put, if_neg fun heq => h ((id_of_get hget).symm.trans heq.symm)] at hget'
    exact hm ⟨p, hget', henabled⟩
  · exact keeps_bind (keeps_down_setState id q (by decide)) fun _ => keeps_throw e

theorem Link.keeps_down (host : PluginHost) {link : Link} (h : link ≠ .enable id) :
    Keeps (Down id) (link.procedure host) := by
  cases link with
  | disable ifEnabled pluginId =>
    cases ifEnabled with
    | false => exact keeps_down_disablePlugin host id pluginId
    | true =>
      exact keeps_bind (keeps_isInState pluginId _) fun _ =>
        keeps_runIf (keeps_down_disablePlugin host id pluginId) _
  | unload ifLoaded pluginId =>
    cases ifLoaded with
    | false => exact keeps_down_unloadPlugin host id pluginId
    | true =>
      exact keeps_bind (keeps_isInState pluginId _) fun _ =>
        keeps_bind (keeps_isInState pluginId _) fun _ =>
          keeps_runIf (keeps_down_unloadPlugin host id pluginId) _
  | register filePath =>
    exact keeps_bind (keeps_down_registerPlugin host id filePath) fun _ => keeps_pure ()
  | load pluginId => exact (kept_down id).loadPlugin host pluginId
  | enable pluginId =>
    exact keeps_down_enablePlugin host fun heq => h (congrArg Link.enable heq)

/-! ### Taking plugins down -/

/-- How far a plugin is from being gone. -/
def rank : Option PluginState → ℕ
  | none => 0
  | some .enabled => 4
  | some .syncing => 4
  | some .loaded => 3
  | some .disabled => 2
  | some .crashed => 2
  | some _ => 1

/-- No plugin has gone up. -/
def Lowered (m m' : PluginManager) : Prop := ∀ q, rank (m'.stateAt q) ≤ rank (m.stateAt q)

theorem Lowered.trans {m₁ m₂ m₃ : PluginManager} (h : Lowered m₁ m₂) (h' : Lowered m₂ m₃) :
    Lowered m₁ m₃ := fun q => (h' q).trans (h q)

theorem lowered_of_registry_eq (h : m'.registry = m.registry) : Lowered m m' := by
  intro q
  unfold stateAt
  rw [h]

theorem rank_afterCrash (o : Option PluginState) : rank (o.map afterCrash) ≤ rank o := by
  cases o with
  | none => exact le_rfl
  | some state => cases state <;> decide

theorem rank_crashed (h : m.CanGo id .crashed) : rank (some .crashed) < rank (m.stateAt id) := by
  obtain ⟨old, hstate, hvalid⟩ := h
  rw [hstate]
  revert hvalid
  cases old <;> decide

theorem rank_disabled (h : m.CanGo id .disabled) : rank (some .disabled) < rank (m.stateAt id) := by
  obtain ⟨old, hstate, hvalid⟩ := h
  rw [hstate]
  revert hvalid
  cases old <;> decide

theorem rank_unloading (h : m.CanGo id .unloading) : 2 ≤ rank (m.stateAt id) := by
  obtain ⟨old, hstate, hvalid⟩ := h
  rw [hstate]
  revert hvalid
  cases old <;> decide

theorem Awaited.lowered (h : Awaited host m m') : Lowered m m' := by
  intro q
  rw [h.states]
  split_ifs
  · exact rank_afterCrash _
  · exact le_rfl

theorem lowered_setState_disabled (m : PluginManager) (id : String) :
    Lowered m (setState id .disabled m).2 := by
  by_cases hgo : m.CanGo id .disabled
  · obtain ⟨m', hset, -, hstates, -⟩ := setState_of_canGo hgo
    rw [hset]
    intro q
    show rank (m'.stateAt q) ≤ _
    rw [hstates]
    split_ifs with hq
    · rw [hq]
      exact (rank_disabled hgo).le
    · exact le_rfl
  · obtain ⟨e, hset⟩ := setState_of_not_canGo hgo
    rw [hset]
    exact fun q => le_rfl

theorem lowered_disable_rest (answer : Except String Unit) (m : PluginManager) (id : String) :
    Lowered m (bindResult (fun _ => setState id .disabled) (answer, m)).2 := by
  cases answer with
  | error e => exact fun q => le_rfl
  | ok _ => exact lowered_setState_disabled m id

theorem lowered_disablePlugin (host : PluginHost) (m : PluginManager) (id : String) :
    Lowered m (disablePlugin host id m).2 := by
  by_cases henabled : m.stateAt id = some .enabled
  · obtain ⟨m₁, hawaited, hrun⟩ := disablePlugin_of_enabled host henabled
    rw [hrun]
    exact hawaited.lowered.trans (lowered_disable_rest _ m₁ id)
  · obtain ⟨e, hrun⟩ := disablePlugin_of_not_enabled host henabled
    rw [hrun]
    exact fun q => le_rfl

theorem lowered_unloadPlugin (host : PluginHost) (m : PluginManager) (id : String) :
    Lowered m (unloadPlugin host id m).2 := by
  by_cases hcan : m.CanUnload id
  · obtain ⟨m', hrun, hstates⟩ := unloadPlugin_of_canUnload host hcan
    rw [hrun]
    intro q
    show rank (m'.stateAt q) ≤ _
    rw [hstates]
    split_ifs
    · exact Nat.zero_le _
    · exact rank_afterCrash _
    · exact le_rfl
  · obtain ⟨e, m', hrun, hregistry⟩ := unloadPlugin_of_not_canUnload host hcan
    rw [hrun]
    exact lowered_of_registry_eq hregistry

namespace Link

def TakesDown (plugins : List String) : Link → Prop
  | disable _ pluginId => pluginId ∈ plugins
  | unload _ pluginId => pluginId ∈ plugins
  | _ => False

/-- The call is refused, and none of some plugins crashes. -/
def Refused (host : PluginHost) (plugins : List String) (m : PluginManager) : Link → Prop
  | disable _ pluginId => m.stateAt pluginId ≠ some .enabled ∨
      (host.answer m.clock ≠ .ok () ∧
        ∀ q ∈ plugins, q ∈ host.crashes m.clock → ¬ m.CanGo q .crashed)
  | unload _ pluginId => ¬ m.CanUnload pluginId
  | _ => False

variable {plugins : List String} {link : Link}

theorem lowered (host : PluginHost) (m : PluginManager) (h : link.TakesDown plugins) :
    Lowered m (link.procedure host m).2 := by
  by_cases hidle : link.Idle m
  · rw [procedure_of_idle host hidle]
    exact fun q => le_rfl
  · cases link with
    | disable ifEnabled pluginId =>
      rw [procedure_disable host hidle]
      exact lowered_disablePlugin host m pluginId
    | unload ifLoaded pluginId =>
      rw [procedure_unload host hidle]
      exact lowered_unloadPlugin host m pluginId
    | register | load | enable => exact h.elim

theorem procedure_of_refused (hidle : ¬ link.Idle m) (h : link.Refused host plugins m) :
    ∃ e m', link.procedure host m = (.error e, m') ∧
      ∀ q ∈ plugins, m'.registry.get q = m.registry.get q := by
  cases link with
  | disable ifEnabled pluginId =>
    rw [procedure_disable host hidle]
    by_cases henabled : m.stateAt pluginId = some .enabled
    · obtain ⟨hanswer, hcrashes⟩ := h.resolve_left fun hne => hne henabled
      obtain ⟨m₁, hawaited, hrun⟩ := disablePlugin_of_enabled host henabled
      rw [hrun]
      cases herror : host.answer m.clock with
      | ok _ => exact absurd herror hanswer
      | error e => exact ⟨e, m₁, rfl, fun q hq => hawaited.same q (hcrashes q hq)⟩
    · obtain ⟨e, hrun⟩ := disablePlugin_of_not_enabled host henabled
      exact ⟨e, m, hrun, fun q _ => rfl⟩
  | unload ifLoaded pluginId =>
    rw [procedure_unload host hidle]
    obtain ⟨e, m', hrun, hregistry⟩ := unloadPlugin_of_not_canUnload host h
    refine ⟨e, m', hrun, fun q _ => ?_⟩
    rw [hregistry]
  | register | load | enable => exact h.elim

theorem lowers_of_not_refused (hdown : link.TakesDown plugins) (hidle : ¬ link.Idle m)
    (h : ¬ link.Refused host plugins m) :
    ∃ q ∈ plugins, rank ((link.procedure host m).2.stateAt q) < rank (m.stateAt q) := by
  cases link with
  | disable ifEnabled pluginId =>
    rw [procedure_disable host hidle]
    have henabled : m.stateAt pluginId = some .enabled := by
      by_contra hne
      exact h (Or.inl hne)
    obtain ⟨m₁, hawaited, hrun⟩ := disablePlugin_of_enabled host henabled
    rw [hrun]
    -- the plugin is disabled, unless one of the plugins crashes while the answer is awaited
    by_cases hcrash : ∃ q ∈ plugins, q ∈ host.crashes m.clock ∧ m.CanGo q .crashed
    · obtain ⟨q, hq, hmem, hgo⟩ := hcrash
      refine ⟨q, hq, lt_of_le_of_lt (lowered_disable_rest _ m₁ pluginId q) ?_⟩
      have hstate : m₁.stateAt q = some .crashed := by
        obtain ⟨old, hold, hvalid⟩ := hgo
        rw [hawaited.states, if_pos hmem, hold, Option.map_some, afterCrash, if_pos hvalid]
      rw [hstate]
      exact rank_crashed hgo
    · have hanswer : host.answer m.clock = .ok () := by
        by_contra hne
        exact h (Or.inr ⟨hne, fun q hq hmem hgo => hcrash ⟨q, hq, hmem, hgo⟩⟩)
      have hstate : m₁.stateAt pluginId = some .enabled := by
        rw [hawaited.states, if_neg, henabled]
        exact fun hmem => hcrash ⟨pluginId, hdown, hmem, .enabled, henabled, rfl⟩
      obtain ⟨m', hset, -, hstates, -⟩ := @setState_of_canGo m₁ pluginId .disabled
        ⟨.enabled, hstate, rfl⟩
      refine ⟨pluginId, hdown, ?_⟩
      rw [hanswer]
      show rank ((setState pluginId .disabled m₁).2.stateAt _) < _
      rw [hset]
      show rank (m'.stateAt pluginId) < _
      rw [hstates, if_pos rfl, henabled]
      decide
  | unload ifLoaded pluginId =>
    rw [procedure_unload host hidle]
    have hcan : m.CanUnload pluginId := not_not.mp h
    obtain ⟨m', hrun, hstates⟩ := unloadPlugin_of_canUnload host hcan
    refine ⟨pluginId, hdown, ?_⟩
    rw [hrun]
    show rank (m'.stateAt pluginId) < _
    rw [hstates, if_pos rfl]
    exact lt_of_lt_of_le Nat.two_pos (rank_unloading hcan.2)
  | register | load | enable => exact hdown.elim

end Link

end OpnetNode.PluginManager
