import OpnetNode.Plugins.Equiv.PluginWorkerPool

/-!
# The life cycle of plugins

`Closed` is what the life cycle should keep: no forbidden transition is requested, a failed enable
leaves the plugin in the state of an error and reports that error, an enabled plugin is mapped to a
live worker, and a crashed plugin can be enabled again.

The program does not keep it.  No transition leads from the states a plugin is enabled in to
`error`, so that a failed enable reports the refused transition; a crash unmaps the plugin, so that a
crashed plugin has no worker to enable it in; and the two events of a failing worker crash its
plugins twice.  `Orderly` says, event by event, when the defects are not met; the states of a run are
closed exactly as long as its events are orderly (`closed_run_iff_orderly`).
-/

namespace OpnetNode

/-- A transition that `VALID_STATE_TRANSITIONS` has. -/
def Transition.Allowed (t : Transition) : Prop :=
  PluginState.isValidStateTransition t.previousState t.newState = true

/-- The plugin has the state of an error, with the original error, which is also reported. -/
def EnableFailure.Proper (f : EnableFailure) : Prop :=
  f.reported = f.original ∧ f.state = some .error ∧
    f.error.map IPluginError.message = some f.original

namespace PluginSystem

open Proc PluginState

/-! ### What should hold -/

/-- A worker of the pool whose thread has not ended. -/
def Live (s : PluginSystem) (workerId : ℕ) : Prop :=
  workerId ∈ s.workers ∧ ∃ info, s.workerInfos.get workerId = some info ∧ info.gone = false

def MappedLive (s : PluginSystem) (p : String) : Prop :=
  ∃ workerId, s.pluginWorkerMap.get p = some workerId ∧ s.Live workerId

/-- Enabling the plugin succeeds if the worker answers with success. -/
def CanBeEnabled (s : PluginSystem) (p : String) : Prop :=
  ((s.step (.enablePlugin p)).step
    (.answered s.nextRequestId (.response true none) (.ok ()))).stateOf p = some .enabled

/-- What the life cycle should keep. -/
structure Closed (s : PluginSystem) : Prop where
  allowed : ∀ t ∈ s.transitions, t.Allowed
  proper : ∀ f ∈ s.enableFailures, f.Proper
  mapped : ∀ p, s.stateOf p = some .enabled → s.MappedLive p
  recovers : ∀ p, s.stateOf p = some .crashed → s.CanBeEnabled p

/-! ### Orderly events -/

/-- The plugin is registered, and may go over to a state. -/
def Allows (s : PluginSystem) (p : String) (new : PluginState) : Prop :=
  ∃ old, s.stateOf p = some old ∧ isValidStateTransition old new = true

/-- The plugin may go over to a state if it is registered. -/
def AllowsIf (s : PluginSystem) (p : String) (new : PluginState) : Prop :=
  ∀ old, s.stateOf p = some old → isValidStateTransition old new = true

def NoneRegistered (s : PluginSystem) (workerId : ℕ) : Prop :=
  ∀ p ∈ s.pluginsOf workerId, s.stateOf p = none

/-- When the answer to a request does no harm: an enable succeeds, and meanwhile nothing else has
become of the plugin. -/
def AnswerOrderly (s : PluginSystem) (r : IPendingRequest) (answer : Answer)
    (handlers : Except String Unit) : Prop :=
  match r.type with
  | .LOAD_PLUGIN =>
    match (r.settled answer).check "Failed to load plugin", handlers with
    | .ok _, .ok _ => s.AllowsIf r.pluginId .loaded
    | _, _ => s.AllowsIf r.pluginId .error
  | .UNLOAD_PLUGIN => True
  | .ENABLE_PLUGIN =>
    match (r.settled answer).check "Failed to enable plugin" with
    | .ok _ => s.Allows r.pluginId .enabled ∧ s.MappedLive r.pluginId
    | .error _ => s.Allows r.pluginId .error
  | .DISABLE_PLUGIN =>
    match (r.settled answer).check "Failed to disable plugin" with
    | .ok _ => s.AllowsIf r.pluginId .disabled
    | .error _ => True

/-- When an event does no harm. -/
def Orderly (s : PluginSystem) : Event → Prop
  | .unloadPlugin p =>
    (s.registry.getDependents p).filter (·.state = .enabled) = [] → s.AllowsIf p .unloading
  | .enablePlugin p =>
    ∀ state, s.stateOf p = some state → state = .loaded ∨ state = .disabled ∨ state = .crashed →
      ∃ workerId, s.pluginWorkerMap.get p = some workerId ∧ workerId ∈ s.workers
  | .answered requestId answer handlers =>
    ∀ r, s.request requestId = some r → s.AnswerOrderly r answer handlers
  | .pluginCrashed p _ => s.stateOf p = none
  | .workerError workerId _ => s.NoneRegistered workerId
  | .workerExit workerId code =>
    if s.isCrash code then s.NoneRegistered workerId
    else ∀ p, s.stateOf p = some .enabled → s.pluginWorkerMap.get p ≠ some workerId
  | .shutdownEnds => ∀ p, s.stateOf p ≠ some .enabled
  | _ => True

/-- Every event of a run is orderly in the state it happens in. -/
def OrderlyRun (s : PluginSystem) : List Event → Prop
  | [] => True
  | event :: events => s.Orderly event ∧ (s.step event).OrderlyRun events

/-! ### Sound and broken states -/

/-- A closed state in which no plugin has crashed. -/
structure Sound (s : PluginSystem) : Prop where
  allowed : ∀ t ∈ s.transitions, t.Allowed
  proper : ∀ f ∈ s.enableFailures, f.Proper
  mapped : ∀ p, s.stateOf p = some .enabled → s.MappedLive p
  uncrashed : ∀ p, s.stateOf p ≠ some .crashed

/-- A forbidden transition has been requested. -/
def Forbidden (s : PluginSystem) : Prop := ∃ t ∈ s.transitions, ¬ t.Allowed

/-- A forbidden transition has been requested, or a plugin has crashed, which unmaps it. -/
def Lost (s : PluginSystem) : Prop :=
  s.Forbidden ∨ ∃ p, s.stateOf p = some .crashed ∧ s.pluginWorkerMap.get p = none

/-- What makes a state not closed. -/
def Broken (s : PluginSystem) : Prop :=
  s.Lost ∨ (∃ f ∈ s.enableFailures, ¬ f.Proper) ∨
    ∃ p, s.stateOf p = some .enabled ∧ ¬ s.MappedLive p

/-- The condition decides whether a state is sound or broken. -/
def Decides (condition : Prop) (s : PluginSystem) : Prop :=
  (condition → Sound s) ∧ (¬ condition → Broken s)

variable {s : PluginSystem} {p q : String}

theorem decides_of_sound {condition : Prop} (h : Sound s) (hcondition : condition) :
    Decides condition s :=
  ⟨fun _ => h, fun hnot => absurd hcondition hnot⟩

theorem Sound.closed (h : Sound s) : Closed s :=
  ⟨h.allowed, h.proper, h.mapped, fun p hp => absurd hp (h.uncrashed p)⟩

theorem Forbidden.broken (h : Forbidden s) : Broken s := .inl (.inl h)

/-- Nothing more is asked of a state whose records are the same, whose plugins are among the
registered ones, in the same states, and whose enabled plugins are mapped as before. -/
theorem Sound.mono {s' : PluginSystem} (h : Sound s) (htransitions : s'.transitions = s.transitions)
    (hfailures : s'.enableFailures = s.enableFailures)
    (hstates : ∀ q state, s'.stateOf q = some state → s.stateOf q = some state)
    (hmapped : ∀ q, s'.stateOf q = some .enabled → s.MappedLive q → s'.MappedLive q) :
    Sound s' := by
  refine ⟨?_, ?_, fun q hq => ?_, fun q hq => h.uncrashed q (hstates q _ hq)⟩
  · rw [htransitions]
    exact h.allowed
  · rw [hfailures]
    exact h.proper
  · exact hmapped q hq (h.mapped q (hstates q _ hq))

/-! ### Requested transitions -/

variable {new : PluginState}

theorem Sound.moved {old : PluginState} {r : PluginRegistry} (error : Option IPluginError)
    (h : Sound s) (hvalid : isValidStateTransition old new = true)
    (hr : ∀ q, (r.get q).map RegisteredPlugin.state = if q = p then some new else s.stateOf q)
    (hcrashed : new ≠ .crashed) (hmapped : new = .enabled → s.MappedLive p) :
    Sound ((s.requested ⟨p, old, new⟩).withState r p error) := by
  refine ⟨fun t ht => ?_, h.proper, fun q hq => ?_, fun q hq => ?_⟩
  · rcases List.mem_cons.mp ht with rfl | ht
    · exact hvalid
    · exact h.allowed t ht
  · have hq' := (hr q).symm.trans hq
    split_ifs at hq' with hqp
    · rw [hqp]
      exact hmapped (Option.some.inj hq')
    · exact h.mapped q hq'
  · have hq' := (hr q).symm.trans hq
    split_ifs at hq' with hqp
    · exact hcrashed (Option.some.inj hq')
    · exact h.uncrashed q hq'

variable {error : Option IPluginError}

theorem sound_setState (h : Sound s) (hallows : s.AllowsIf p new) (hcrashed : new ≠ .crashed)
    (hmapped : new = .enabled → s.MappedLive p) : Sound (setState p new error s).2 := by
  obtain ⟨-, heq⟩ | ⟨old, e, hold, hinvalid, -⟩ | ⟨old, r, -, hvalid, hr, heq⟩ :=
    setState_spec p new error s
  · rw [heq]
    exact h
  · rw [hallows old hold] at hinvalid
    cases hinvalid
  · rw [heq]
    exact Sound.moved _ h hvalid hr hcrashed hmapped

theorem forbidden_setState (error : Option IPluginError) (h : ¬ s.AllowsIf p new) :
    Forbidden (setState p new error s).2 ∧ ∃ e, (setState p new error s).1 = .error e := by
  obtain ⟨hnone, -⟩ | ⟨old, e, hold, hinvalid, heq⟩ | ⟨old, r, hold, hvalid, -, -⟩ :=
    setState_spec p new error s
  · refine absurd (fun old hold => ?_) h
    cases hnone.symm.trans hold
  · rw [heq]
    refine ⟨⟨_, List.mem_cons_self, fun hallowed => ?_⟩, e, rfl⟩
    exact Bool.false_ne_true (hinvalid.symm.trans hallowed)
  · refine absurd (fun old' hold' => ?_) h
    cases hold.symm.trans hold'
    exact hvalid

theorem keeps_forbidden_setState : Keeps Forbidden (setState p new error) := by
  rintro s ⟨t, ht, hnot⟩
  obtain ⟨-, heq⟩ | ⟨old, e, -, -, heq⟩ | ⟨old, r, -, -, -, heq⟩ := setState_spec p new error s
  · rw [heq]
    exact ⟨t, ht, hnot⟩
  · rw [heq]
    exact ⟨t, List.mem_cons_of_mem _ ht, hnot⟩
  · rw [heq]
    exact ⟨t, List.mem_cons_of_mem _ ht, hnot⟩

/-! ### Failed loads and enables -/

theorem loadFailed_snd (p error : String) (s : PluginSystem) :
    (loadFailed p error s).2 =
      (setState p .error (some { code := "LOAD_FAILED", message := error }) s).2 := by
  show (bindResult _ (setState p .error _ s)).2 = _
  rcases setState p .error (some { code := "LOAD_FAILED", message := error }) s with ⟨e | a, s'⟩ <;>
    rfl

variable {error : String}

theorem sound_loadFailed (h : Sound s) (hallows : s.AllowsIf p .error) :
    Sound (loadFailed p error s).2 := by
  rw [loadFailed_snd]
  exact sound_setState h hallows (by decide) nofun

theorem forbidden_loadFailed (h : ¬ s.AllowsIf p .error) : Forbidden (loadFailed p error s).2 := by
  rw [loadFailed_snd]
  exact (forbidden_setState _ h).1

theorem keeps_forbidden_loadFailed : Keeps Forbidden (loadFailed p error) := by
  intro s hs
  rw [loadFailed_snd]
  exact keeps_forbidden_setState s hs

/-- What a failed enable leaves: the plugin is gone, or it keeps its state and a forbidden transition
was requested, or it has the state of an error. -/
theorem enableFailed_spec (p error : String) (s : PluginSystem) :
    (s.stateOf p = none ∧ ∃ reported kept, (enableFailed p error s).2 =
      { s with enableFailures := ⟨p, error, reported, none, kept⟩ :: s.enableFailures }) ∨
    (∃ old f, s.stateOf p = some old ∧ isValidStateTransition old .error = false ∧
      (enableFailed p error s).2 =
        { s.requested ⟨p, old, .error⟩ with enableFailures := f :: s.enableFailures }) ∨
    (∃ old r, s.stateOf p = some old ∧ isValidStateTransition old .error = true ∧
      (∀ q, (r.get q).map RegisteredPlugin.state =
        if q = p then some .error else s.stateOf q) ∧
      (enableFailed p error s).2 =
        { (s.requested ⟨p, old, .error⟩).withState r p (some ⟨"ENABLE_FAILED", error⟩) with
          enableFailures :=
            ⟨p, error, error, some .error, some ⟨"ENABLE_FAILED", error⟩⟩ :: s.enableFailures }) := by
  have hrun : enableFailed p error s = bindResult
      (fun _ => noteEnableFailure p error error >>= fun _ => throw error)
      (catchResult (fun refused => noteEnableFailure p error refused >>= fun _ => throw refused)
        (setState p .error (some ⟨"ENABLE_FAILED", error⟩) s)) := rfl
  rw [hrun]
  obtain ⟨hnone, heq⟩ | ⟨old, e, hold, hinvalid, heq⟩ | ⟨old, r, hold, hvalid, hr, heq⟩ :=
    setState_spec p .error (some ⟨"ENABLE_FAILED", error⟩) s
  · refine .inl ⟨hnone, s!"Plugin not found: {p}", s.errors.get p, ?_⟩
    rw [heq, ← hnone]
    rfl
  · refine .inr (.inl ⟨old, ⟨p, error, e, s.stateOf p, s.errors.get p⟩, hold, hinvalid, ?_⟩)
    rw [heq]
    rfl
  · refine .inr (.inr ⟨old, r, hold, hvalid, hr, ?_⟩)
    rw [heq]
    have hstate : ((s.requested ⟨p, old, .error⟩).withState r p
        (some ⟨"ENABLE_FAILED", error⟩)).stateOf p = some .error := (hr p).trans (if_pos rfl)
    have herror : ((s.requested ⟨p, old, .error⟩).withState r p
        (some ⟨"ENABLE_FAILED", error⟩)).errors.get p = some ⟨"ENABLE_FAILED", error⟩ :=
      JsMap.get_set_self _ _ _
    show ({ (s.requested ⟨p, old, .error⟩).withState r p _ with enableFailures := _ ::
      s.enableFailures } : PluginSystem) = _
    rw [hstate, herror]

theorem sound_enableFailed (h : Sound s) (hallows : s.Allows p .error) :
    Sound (enableFailed p error s).2 := by
  obtain ⟨old, hold, hvalid⟩ := hallows
  obtain ⟨hnone, -⟩ | ⟨old', f, hold', hinvalid, -⟩ | ⟨old', r, -, hvalid', hr, heq⟩ :=
    enableFailed_spec p error s
  · cases hold.symm.trans hnone
  · cases hold.symm.trans hold'
    cases hvalid.symm.trans hinvalid
  · have hmoved := Sound.moved (some ⟨"ENABLE_FAILED", error⟩) h hvalid' hr (by decide) nofun
    rw [heq]
    refine ⟨hmoved.allowed, fun f hf => ?_, hmoved.mapped, hmoved.uncrashed⟩
    rcases List.mem_cons.mp hf with rfl | hf
    · exact ⟨rfl, rfl, rfl⟩
    · exact h.proper f hf

theorem broken_enableFailed (h : ¬ s.Allows p .error) : Broken (enableFailed p error s).2 := by
  obtain ⟨-, reported, kept, heq⟩ | ⟨old, f, -, hinvalid, heq⟩ | ⟨old, r, hold, hvalid, -, -⟩ :=
    enableFailed_spec p error s
  · rw [heq]
    exact .inr (.inl ⟨_, List.mem_cons_self, fun hproper => nomatch hproper.2.1⟩)
  · rw [heq]
    refine Forbidden.broken ⟨_, List.mem_cons_self, fun hallowed => ?_⟩
    exact Bool.false_ne_true (hinvalid.symm.trans hallowed)
  · exact absurd ⟨old, hold, hvalid⟩ h

theorem keeps_forbidden_enableFailed : Keeps Forbidden (enableFailed p error) := by
  have hnote : ∀ original reported, Keeps Forbidden (noteEnableFailure p original reported) :=
    fun _ _ _ hs => hs
  refine keeps_bind (keeps_tryCatch keeps_forbidden_setState fun _ => ?_) fun _ => ?_
  · exact keeps_bind (hnote _ _) fun _ => keeps_throw _
  · exact keeps_bind (hnote _ _) fun _ => keeps_throw _

/-! ### Broken states are not closed -/

theorem not_canBeEnabled (hb : Basic s) (hstate : s.stateOf p = some .crashed)
    (hmap : s.pluginWorkerMap.get p = none) : ¬ s.CanBeEnabled p := by
  obtain ⟨plugin, hget, hplugin⟩ := Option.map_eq_some_iff.mp hstate
  have hworker : ∃ e, getWorkerForPlugin p s = (.error e, s) := by
    obtain ⟨w, hw, -⟩ | ⟨-, he⟩ := getWorkerForPlugin_spec p s
    · cases hmap.symm.trans hw
    · exact he
  obtain ⟨e, hworker⟩ := hworker
  have hstep : s.step (.enablePlugin p) = (enableFailed p e s).2 := by
    show (bindResult _ (getPlugin p s)).2 = _
    rw [getPlugin_eq, hget]
    have hguard : throwIf (plugin.state ≠ .loaded ∧ plugin.state ≠ .disabled ∧
        plugin.state ≠ .crashed) s!"Plugin {p} cannot be enabled from state {plugin.state.text}" =
          (pure () : SystemM Unit) := if_neg fun hne => hne.2.2 hplugin
    show (bindResult _ (throwIf (plugin.state ≠ .loaded ∧ plugin.state ≠ .disabled ∧
      plugin.state ≠ .crashed) s!"Plugin {p} cannot be enabled from state {plugin.state.text}" s)).2
        = _
    rw [hguard]
    show (catchResult _ (bindResult _ (getWorkerForPlugin p s))).2 = _
    rw [hworker]
    rfl
  -- The enable sends no request, so that nothing is settled by an answer.
  have hrequests : (s.step (.enablePlugin p)).requests = s.requests ∧
      (s.step (.enablePlugin p)).stateOf p = some .crashed := by
    rw [hstep]
    obtain ⟨hnone, -⟩ | ⟨old, f, hold, -, heq⟩ | ⟨old, r, hold, hvalid, -, -⟩ :=
      enableFailed_spec p e s
    · cases hstate.symm.trans hnone
    · rw [heq]
      exact ⟨rfl, hstate⟩
    · cases hstate.symm.trans hold
      exact absurd hvalid (by decide)
  have hnone : (s.step (.enablePlugin p)).request s.nextRequestId = none := by
    unfold request
    rw [hrequests.1, List.find?_eq_none]
    intro r hr
    have hlt := hb.requestIds r hr
    simp only [decide_eq_true_eq]
    omega
  have hanswer : (s.step (.enablePlugin p)).step
      (.answered s.nextRequestId (.response true none) (.ok ())) = s.step (.enablePlugin p) := by
    show (answered s.nextRequestId _ _ (s.step (.enablePlugin p))).2 = _
    rw [answered_of_none hnone]
  unfold CanBeEnabled
  rw [hanswer, hrequests.2]
  decide

theorem Broken.not_closed (hb : Basic s) (h : Broken s) : ¬ Closed s := by
  intro hclosed
  obtain (⟨t, ht, hnot⟩ | ⟨p, hstate, hmap⟩) | ⟨f, hf, hnot⟩ | ⟨p, hstate, hnot⟩ := h
  · exact hnot (hclosed.allowed t ht)
  · exact not_canBeEnabled hb hstate hmap (hclosed.recovers p hstate)
  · exact hnot (hclosed.proper f hf)
  · exact hnot (hclosed.mapped p hstate)

/-! ### Calls -/

theorem registerPlugin_spec (filePath : String) (parsed : Except String ParsedPluginFile)
    (errors : List String) (s : PluginSystem) :
    (registerPlugin filePath parsed errors s).2 = s ∨
    ∃ p new error registry kept, (new = .error ∨ new = .validated) ∧
      (∀ q, (registry.get q).map RegisteredPlugin.state =
        if q = p then some .discovered else s.stateOf q) ∧
      (registerPlugin filePath parsed errors s).2 =
        (setState p new error { s with registry, errors := kept }).2 := by
  cases parsed with
  | error e => exact .inl rfl
  | ok file =>
    rcases hreg : s.registry.register filePath file with e | ⟨plugin, registry⟩
    · left
      show (bindResult _ _).2 = s
      rw [hreg]
      rfl
    · right
      have hstates : ∀ q, (registry.get q).map RegisteredPlugin.state =
          if q = plugin.id then some .discovered else s.stateOf q := by
        intro q
        unfold PluginRegistry.register at hreg
        dsimp only at hreg
        split_ifs at hreg with hsome
        cases hreg
        rw [PluginRegistry.get_put]
        split_ifs <;> rfl
      have hrun : (registerPlugin filePath (.ok file) errors s) =
          ((if errors ≠ [] then do
              setState plugin.id .error
                (some { code := "VALIDATION_FAILED", message := "; ".intercalate errors })
              throw ("; ".intercalate errors)
            else setState plugin.id .validated none : SystemM Unit)
          { s with registry, errors := s.errors.erase plugin.id }) := by
        show bindResult _ _ = _
        rw [hreg]
        rfl
      by_cases herrors : errors ≠ []
      · -- the error is thrown after the state was set
        have hthrow (m : SystemM Unit) (e : String) (s : PluginSystem) :
            ((m >>= fun _ => throw e : SystemM Unit) s).2 = (m s).2 := by
          show (bindResult _ (m s)).2 = _
          rcases m s with ⟨e | a, s'⟩ <;> rfl
        refine ⟨plugin.id, .error,
          some { code := "VALIDATION_FAILED", message := "; ".intercalate errors }, registry,
          s.errors.erase plugin.id, .inl rfl, hstates, ?_⟩
        rw [hrun, if_pos herrors]
        exact hthrow _ _ _
      · refine ⟨plugin.id, .validated, none, registry, s.errors.erase plugin.id, .inr rfl, hstates,
          ?_⟩
        rw [hrun, if_neg herrors]

theorem basic_registerPlugin (hb : Basic s) (filePath : String)
    (parsed : Except String ParsedPluginFile) (errors : List String) :
    Basic (registerPlugin filePath parsed errors s).2 := by
  obtain heq | ⟨p, new, error, registry, kept, hnew, hstates, heq⟩ :=
    registerPlugin_spec filePath parsed errors s
  · rw [heq]
    exact hb
  · have hvalid : isValidStateTransition .discovered new = true := by
      rcases hnew with rfl | rfl <;> rfl
    rw [heq]
    obtain ⟨hnone, -⟩ | ⟨old, e, hold, hinvalid, -⟩ | ⟨old, r, -, -, hr, heq'⟩ :=
      setState_spec p new error { s with registry, errors := kept }
    · have hp := (hstates p).symm.trans hnone
      rw [if_pos rfl] at hp
      cases hp
    · have hp := (hstates p).symm.trans hold
      rw [if_pos rfl] at hp
      cases hp
      cases hvalid.symm.trans hinvalid
    · rw [heq']
      refine hb.withRegistry fun q => ?_
      rw [hr]
      split_ifs with hq
      · rcases hnew with rfl | rfl <;> decide
      · have hother : ({ s with registry, errors := kept } : PluginSystem).stateOf q
            = s.stateOf q := (hstates q).trans (if_neg hq)
        rw [hother]
        exact hb.states q

theorem sound_registerPlugin (h : Sound s) (filePath : String)
    (parsed : Except String ParsedPluginFile) (errors : List String) :
    Sound (registerPlugin filePath parsed errors s).2 := by
  obtain heq | ⟨p, new, error, registry, kept, hnew, hstates, heq⟩ :=
    registerPlugin_spec filePath parsed errors s
  · rw [heq]
    exact h
  · have hregistered : Sound { s with registry, errors := kept } := by
      refine ⟨h.allowed, h.proper, fun q hq => ?_, fun q hq => ?_⟩
      · have hq' := (hstates q).symm.trans hq
        split_ifs at hq' with hqp
        · cases hq'
        · exact h.mapped q hq'
      · have hq' := (hstates q).symm.trans hq
        split_ifs at hq' with hqp
        · cases hq'
        · exact h.uncrashed q hq'
    rw [heq]
    apply sound_setState hregistered
    · intro old hold
      have hp := (hstates p).symm.trans hold
      rw [if_pos rfl] at hp
      cases hp
      rcases hnew with rfl | rfl <;> rfl
    · rcases hnew with rfl | rfl <;> decide
    · rcases hnew with rfl | rfl <;> exact nofun

variable {workerId : ℕ}

theorem Sound.sendMessage {type : WorkerMessageType} (h : Sound s) :
    Sound (PluginSystem.sendMessage workerId type p s).2 :=
  h.mono rfl rfl (fun _ _ hq => hq) fun _ _ hq => hq

theorem sound_unregister (h : Sound s) : Sound (unregister p s).2 := by
  refine h.mono rfl rfl (fun q state hq => ?_) fun _ _ hq => hq
  have hq' := (stateOf_unregister s p q).symm.trans hq
  split_ifs at hq'
  exact hq'

theorem sound_loadPlugin (hb : Basic s) (h : Sound s) (prepared : Except String Unit) :
    Sound (loadPlugin p prepared s).2 := by
  show Sound (bindResult _ (getPlugin p s)).2
  rw [getPlugin_eq]
  cases hget : s.registry.get p with
  | none => exact h
  | some plugin =>
    have hstate : s.stateOf p = some plugin.state := by rw [stateOf, hget, Option.map_some]
    by_cases hguard : plugin.state ≠ .validated ∧ plugin.state ≠ .discovered
    · show Sound (bindResult _ (throwIf _ _ s)).2
      rw [throwIf, if_pos hguard]
      exact h
    -- a registered plugin is never left as discovered
    have hvalidated : plugin.state = .validated := by
      have hne : plugin.state ≠ .discovered := fun heq => hb.states p (by rw [hstate, heq])
      by_contra hne'
      exact hguard ⟨hne', hne⟩
    show Sound (bindResult _ (throwIf _ _ s)).2
    rw [throwIf, if_neg hguard]
    by_cases hready : s.registry.areDependenciesReady p = false
    · show Sound (bindResult _ (throwIf _ _ s)).2
      rw [throwIf, if_pos hready]
      exact h
    show Sound (bindResult _ (throwIf _ _ s)).2
    rw [throwIf, if_neg hready]
    show Sound (bindResult _ (setState p .loading none s)).2
    obtain ⟨hnone, -⟩ | ⟨old, e, hold, hinvalid, -⟩ | ⟨old, r, hold, hvalid, hr, heq⟩ :=
      setState_spec p .loading none s
    · rw [hstate] at hnone
      cases hnone
    · obtain rfl := Option.some.inj (hold.symm.trans hstate)
      rw [hvalidated] at hinvalid
      cases hinvalid
    · have hloading := Sound.moved none h hvalid hr (by decide) nofun
      -- whatever fails from here on finds the plugin loading
      have hfailed (error : String) : Sound (loadFailed p error
          ((s.requested ⟨p, old, .loading⟩).withState r p none)).2 := by
        apply sound_loadFailed hloading
        intro old' hold'
        have hp := (hr p).symm.trans hold'
        rw [if_pos rfl] at hp
        cases hp
        rfl
      rw [heq]
      generalize (s.requested ⟨p, old, .loading⟩).withState r p none = s₁ at hloading hfailed
      cases prepared with
      | error e => exact hfailed e
      | ok _ =>
        show Sound (catchResult _ (bindResult _
          (throwIf (s₁.selectWorkerForPlugin ∉ s₁.workers) _ s₁))).2
        by_cases hw : s₁.selectWorkerForPlugin ∈ s₁.workers
        · rw [throwIf, if_neg (not_not_intro hw)]
          exact hloading.sendMessage
        · rw [throwIf, if_pos hw]
          exact hfailed _

theorem decides_unloadPlugin (h : Sound s) :
    Decides (s.Orderly (.unloadPlugin p)) (unloadPlugin p s).2 := by
  show Decides _ (bindResult _ (getPlugin p s)).2
  rw [getPlugin_eq]
  cases hget : s.registry.get p with
  | none =>
    have hnone : s.stateOf p = none := by rw [stateOf, hget, Option.map_none]
    apply decides_of_sound h
    intro _ old hold
    cases hnone.symm.trans hold
  | some plugin =>
    by_cases hdependents : (s.registry.getDependents p).filter (·.state = .enabled) ≠ []
    · -- a dependent is enabled: the unload is refused, and nothing changes
      apply decides_of_sound _ fun heq => absurd heq hdependents
      show Sound (bindResult _ (throwIf _ _ s)).2
      rw [throwIf, if_pos hdependents]
      exact h
    · rw [not_not] at hdependents
      show Decides _ (bindResult _ (throwIf _ _ s)).2
      rw [throwIf, if_neg (not_not_intro hdependents)]
      show Decides _ (bindResult _ (setState p .unloading none s)).2
      constructor
      · intro horderly
        have hsound : Sound (setState p .unloading none s).2 :=
          sound_setState h (horderly hdependents) (by decide) nofun
        rcases hrun : setState p .unloading none s with ⟨e | a, s₁⟩
        · rw [hrun] at hsound
          exact hsound
        · rw [hrun] at hsound
          rw [bindResult_ok]
          show Sound (bindResult _ (.ok s₁, s₁)).2
          rw [bindResult_ok]
          cases s₁.pluginWorkerMap.get p with
          | none => exact sound_unregister hsound
          | some workerId =>
            -- a plugin whose worker is gone is removed at once
            by_cases hw : workerId ∈ s₁.workers
            · dsimp only
              rw [if_pos hw]
              exact hsound.sendMessage
            · dsimp only
              rw [if_neg hw]
              exact sound_unregister hsound
      · intro hnot
        have hallows : ¬ s.AllowsIf p .unloading := fun hallows => hnot fun _ => hallows
        obtain ⟨hforbidden, e, he⟩ := forbidden_setState none hallows
        rcases hrun : setState p .unloading none s with ⟨e | a, s₁⟩
        · rw [hrun] at hforbidden
          exact hforbidden.broken
        · rw [hrun] at he
          cases he

theorem decides_enablePlugin (h : Sound s) :
    Decides (s.Orderly (.enablePlugin p)) (enablePlugin p s).2 := by
  show Decides _ (bindResult _ (getPlugin p s)).2
  rw [getPlugin_eq]
  cases hget : s.registry.get p with
  | none =>
    have hnone : s.stateOf p = none := by rw [stateOf, hget, Option.map_none]
    apply decides_of_sound h
    intro state hstate
    cases hnone.symm.trans hstate
  | some plugin =>
    have hstate : s.stateOf p = some plugin.state := by rw [stateOf, hget, Option.map_some]
    show Decides _ (bindResult _ (throwIf _ _ s)).2
    by_cases hguard : plugin.state ≠ .loaded ∧ plugin.state ≠ .disabled ∧ plugin.state ≠ .crashed
    · rw [throwIf, if_pos hguard]
      apply decides_of_sound h
      intro state hstate' hone
      cases hstate.symm.trans hstate'
      exact absurd hone (by tauto)
    · have hone : plugin.state = .loaded ∨ plugin.state = .disabled ∨ plugin.state = .crashed := by
        tauto
      rw [throwIf, if_neg hguard]
      show Decides _ (catchResult _ (bindResult _ (getWorkerForPlugin p s))).2
      obtain ⟨w, hw, hmem, heq⟩ | ⟨hnot, e, heq⟩ := getWorkerForPlugin_spec p s
      · rw [heq]
        exact decides_of_sound h.sendMessage fun _ _ _ => ⟨w, hw, hmem⟩
      · rw [heq]
        refine ⟨fun horderly => absurd (horderly _ hstate hone) hnot, fun _ => ?_⟩
        refine broken_enableFailed fun hallows => ?_
        obtain ⟨old, hold, hvalid⟩ := hallows
        cases hstate.symm.trans hold
        rcases hone with heq | heq | heq <;> rw [heq] at hvalid <;> cases hvalid

theorem sound_disablePlugin (h : Sound s) : Sound (disablePlugin p s).2 := by
  show Sound (bindResult _ (getPlugin p s)).2
  rw [getPlugin_eq]
  cases hget : s.registry.get p with
  | none => exact h
  | some plugin =>
    show Sound (bindResult _ (throwIf (plugin.state ≠ .enabled) _ s)).2
    by_cases hguard : plugin.state ≠ .enabled
    · rw [throwIf, if_pos hguard]
      exact h
    · rw [throwIf, if_neg hguard]
      show Sound (bindResult _ (getWorkerForPlugin p s)).2
      obtain ⟨w, -, -, heq⟩ | ⟨-, e, heq⟩ := getWorkerForPlugin_spec p s
      · rw [heq]
        exact h.sendMessage
      · rw [heq]
        exact h

/-! ### Answers -/

theorem AllowsIf.ne_enabled (h : s.AllowsIf p new)
    (hnew : isValidStateTransition .enabled new = false) : s.stateOf p ≠ some .enabled := by
  intro henabled
  have hvalid := h _ henabled
  cases hnew.symm.trans hvalid

variable {f : IWorkerInfo → IWorkerInfo}

theorem live_updateWorker {w : ℕ}
    (hf : ∀ info, (f info).gone = info.gone) (h : s.Live w) : (s.updateWorker workerId f).Live w := by
  obtain ⟨hmem, info, hinfo, hgone⟩ := h
  constructor
  · rw [updateWorker_eq]
    exact hmem
  · rw [get_updateWorker, hinfo]
    split_ifs
    · exact ⟨f info, rfl, by rw [hf, hgone]⟩
    · exact ⟨info, rfl, hgone⟩

theorem Sound.updateWorker (workerId : ℕ) (h : Sound s)
    (hf : ∀ info, (f info).gone = info.gone) : Sound (s.updateWorker workerId f) := by
  have htables := updateWorker_eq s workerId f
  refine h.mono ?_ ?_ (fun q state hq => ?_) ?_
  · rw [htables]
  · rw [htables]
  · rw [htables] at hq
    exact hq
  · rintro q - ⟨w, hw, hlive⟩
    refine ⟨w, ?_, live_updateWorker hf hlive⟩
    rw [htables]
    exact hw

/-- The tables after a plugin was loaded into its worker. -/
def afterLoad (s : PluginSystem) (workerId : ℕ) (p : String) : PluginSystem :=
  { s.updateWorker workerId fun info => { info with plugins := addToSet info.plugins p } with
    pluginWorkerMap := (s.updateWorker workerId fun info =>
      { info with plugins := addToSet info.plugins p }).pluginWorkerMap.set p workerId }

theorem stateOf_afterLoad (s : PluginSystem) (workerId : ℕ) (p q : String) :
    (s.afterLoad workerId p).stateOf q = s.stateOf q := by
  unfold afterLoad
  rw [updateWorker_eq]
  rfl

theorem sound_afterLoad (workerId : ℕ) (h : Sound s) (hp : s.stateOf p ≠ some .enabled) :
    Sound (s.afterLoad workerId p) := by
  have hknown := h.updateWorker workerId
    (f := fun info => { info with plugins := addToSet info.plugins p }) fun _ => rfl
  refine hknown.mono rfl rfl (fun _ _ hq => hq) ?_
  rintro q hq ⟨w, hw, hlive⟩
  have hne : q ≠ p := by
    rintro rfl
    have hq' := (stateOf_afterLoad s workerId q q).symm.trans hq
    exact hp hq'
  refine ⟨w, ?_, hlive⟩
  exact (JsMap.get_set_of_ne _ _ hne).trans hw

variable {answer : Answer}

variable {handlers : Except String Unit}

theorem decides_loadAnswered (h : Sound s) :
    Decides (match answer.check "Failed to load plugin", handlers with
        | .ok _, .ok _ => s.AllowsIf p .loaded
        | _, _ => s.AllowsIf p .error)
      (loadAnswered workerId p answer handlers s).2 := by
  have hrun : loadAnswered workerId p answer handlers s = catchResult (loadFailed p) (bindResult
      (fun _ => do
        modify fun s => s.updateWorker workerId fun info =>
          { info with plugins := addToSet info.plugins p }
        modify fun s => { s with pluginWorkerMap := s.pluginWorkerMap.set p workerId }
        liftExcept handlers
        setState p .loaded none)
      (liftExcept (answer.check "Failed to load plugin") s)) := rfl
  rw [hrun]
  have hstates (new : PluginState) :
      (s.afterLoad workerId p).AllowsIf p new ↔ s.AllowsIf p new := by
    unfold AllowsIf
    rw [stateOf_afterLoad]
  cases answer.check "Failed to load plugin" with
  | error e => exact ⟨sound_loadFailed h, fun hnot => (forbidden_loadFailed hnot).broken⟩
  | ok _ =>
    cases handlers with
    -- the worker has answered, but the handlers throw
    | error e =>
      refine ⟨fun hallows => ?_, fun hnot => ?_⟩
      · exact sound_loadFailed (sound_afterLoad workerId h (hallows.ne_enabled rfl)) ((hstates _).mpr hallows)
      · exact (forbidden_loadFailed (s := s.afterLoad workerId p)
          fun hallows => hnot ((hstates _).mp hallows)).broken
    | ok _ =>
      show Decides (s.AllowsIf p .loaded)
        (catchResult (loadFailed p) (setState p .loaded none (s.afterLoad workerId p))).2
      constructor
      · intro hallows
        have hsound := sound_afterLoad workerId h (hallows.ne_enabled rfl)
        obtain ⟨hnone, heq⟩ | ⟨old, e, hold, hinvalid, -⟩ | ⟨old, r, -, hvalid, hr, heq⟩ :=
          setState_spec p .loaded none (s.afterLoad workerId p)
        · rw [heq]
          refine sound_loadFailed hsound fun old hold => ?_
          cases hnone.symm.trans hold
        · have hvalid := (hstates _).mpr hallows old hold
          cases hinvalid.symm.trans hvalid
        · rw [heq]
          exact Sound.moved none hsound hvalid hr (by decide) nofun
      · intro hnot
        obtain ⟨hforbidden, e, he⟩ := forbidden_setState (s := s.afterLoad workerId p)
          none fun hallows => hnot ((hstates _).mp hallows)
        rcases hset : setState p .loaded none (s.afterLoad workerId p) with ⟨e' | a, s₁⟩
        · rw [hset] at hforbidden
          exact (keeps_forbidden_loadFailed s₁ hforbidden).broken
        · rw [hset] at he
          cases he

theorem sound_unloadAnswered (h : Sound s) : Sound (unloadAnswered workerId p s).2 := by
  have hforgets := h.updateWorker workerId
    (f := fun info => { info with plugins := info.plugins.erase p }) fun _ => rfl
  refine hforgets.mono rfl rfl (fun q state hq => ?_) ?_
  · have hq' := (stateOf_unregister _ p q).symm.trans hq
    split_ifs at hq'
    exact hq'
  · rintro q hq ⟨w, hw, hlive⟩
    have hq' := (stateOf_unregister _ p q).symm.trans hq
    split_ifs at hq' with hqp
    refine ⟨w, ?_, hlive⟩
    exact (JsMap.get_erase _ _ _).trans ((if_neg hqp).trans hw)

/-- An enable that fails needs a plugin that may take the state of an error, and one that succeeds
needs one that may be enabled and is still mapped to a live worker. -/
theorem decides_enableAnswered (h : Sound s) :
    Decides (match answer.check "Failed to enable plugin" with
        | .ok _ => s.Allows p .enabled ∧ s.MappedLive p
        | .error _ => s.Allows p .error)
      (enableAnswered p answer s).2 := by
  have hrun : enableAnswered p answer s = catchResult (enableFailed p) (bindResult
      (fun _ => setState p .enabled none) (liftExcept (answer.check "Failed to enable plugin") s)) :=
    rfl
  rw [hrun]
  cases answer.check "Failed to enable plugin" with
  | error e => exact ⟨sound_enableFailed h, broken_enableFailed⟩
  | ok _ =>
    show Decides _ (catchResult (enableFailed p) (setState p .enabled none s)).2
    obtain ⟨hnone, heq⟩ | ⟨old, e, hold, hinvalid, heq⟩ | ⟨old, r, hold, hvalid, hr, heq⟩ :=
      setState_spec p .enabled none s
    · rw [heq]
      constructor
      · rintro ⟨⟨old, hold, -⟩, -⟩
        cases hnone.symm.trans hold
      · intro _
        apply broken_enableFailed
        rintro ⟨old, hold, -⟩
        cases hnone.symm.trans hold
    · rw [heq]
      constructor
      · rintro ⟨⟨old', hold', hvalid⟩, -⟩
        cases hold.symm.trans hold'
        cases hinvalid.symm.trans hvalid
      · intro _
        refine (keeps_forbidden_enableFailed _ ⟨_, List.mem_cons_self, fun hallowed => ?_⟩).broken
        exact Bool.false_ne_true (hinvalid.symm.trans hallowed)
    · rw [heq]
      constructor
      · rintro ⟨-, hmapped⟩
        exact Sound.moved none h hvalid hr (by decide) fun _ => hmapped
      · intro hnot
        refine .inr (.inr ⟨p, (hr p).trans (if_pos rfl), fun hmapped => ?_⟩)
        exact hnot ⟨⟨old, hold, hvalid⟩, hmapped⟩

theorem decides_disableAnswered (h : Sound s) :
    Decides (match answer.check "Failed to disable plugin" with
        | .ok _ => s.AllowsIf p .disabled
        | .error _ => True)
      (disableAnswered p answer s).2 := by
  have hrun : disableAnswered p answer s = bindResult (fun _ => setState p .disabled none)
      (liftExcept (answer.check "Failed to disable plugin") s) := rfl
  rw [hrun]
  cases answer.check "Failed to disable plugin" with
  | error e => exact decides_of_sound h trivial
  | ok _ =>
    exact ⟨fun hallows => sound_setState h hallows (by decide) nofun,
      fun hnot => (forbidden_setState _ hnot).1.broken⟩

theorem decides_answered (h : Sound s) {requestId : ℕ} :
    Decides (s.Orderly (.answered requestId answer handlers))
      (answered requestId answer handlers s).2 := by
  show Decides (∀ r, s.request requestId = some r → s.AnswerOrderly r answer handlers)
    (answered requestId answer handlers s).2
  cases hfind : s.request requestId with
  | none =>
    rw [answered_of_none hfind]
    apply decides_of_sound h
    intro r hr
    cases hr
  | some request =>
    have hsettled : Sound { s with requests := s.requests.erase request } :=
      h.mono rfl rfl (fun _ _ hq => hq) fun _ _ hq => hq
    have hcondition : (∀ r, some request = some r → s.AnswerOrderly r answer handlers) ↔
        s.AnswerOrderly request answer handlers :=
      ⟨fun hall => hall request rfl, fun hone r hr => Option.some.inj hr ▸ hone⟩
    rw [hcondition, answered_of_some hfind]
    unfold AnswerOrderly
    cases request.type with
    | LOAD_PLUGIN => exact decides_loadAnswered hsettled
    | UNLOAD_PLUGIN => exact decides_of_sound (sound_unloadAnswered hsettled) trivial
    | ENABLE_PLUGIN => exact decides_enableAnswered hsettled
    | DISABLE_PLUGIN => exact decides_disableAnswered hsettled

/-! ### Crashes -/

theorem handlePluginCrash_eq (p error : String) (s : PluginSystem) :
    handlePluginCrash p error s =
      match s.registry.get p with
      | none => (.ok (), { s with pluginWorkerMap := s.pluginWorkerMap.erase p })
      | some _ => setState p .crashed (some { code := "PLUGIN_CRASHED", message := error })
          { s with pluginWorkerMap := s.pluginWorkerMap.erase p } := by
  show (match s.registry.get p with
    | none => pure ()
    | some _ => setState p .crashed _ : SystemM Unit)
      { s with pluginWorkerMap := s.pluginWorkerMap.erase p } = _
  cases s.registry.get p <;> rfl

theorem handlePluginCrash_of_none (h : s.stateOf p = none) : handlePluginCrash p error s =
      (.ok (), { s with pluginWorkerMap := s.pluginWorkerMap.erase p }) := by
  rw [handlePluginCrash_eq, Option.map_eq_none_iff.mp h]

/-- A crash of a registered plugin is forbidden, or it leaves the plugin crashed and not mapped. -/
theorem lost_handlePluginCrash (error : String) (h : s.stateOf p ≠ none) :
    Lost (handlePluginCrash p error s).2 := by
  rw [handlePluginCrash_eq]
  cases hget : s.registry.get p with
  | none => exact absurd (by rw [stateOf, hget, Option.map_none]) h
  | some plugin =>
    obtain ⟨hnone, -⟩ | ⟨old, e, -, hinvalid, heq⟩ | ⟨old, r, -, -, hr, heq⟩ :=
      setState_spec p .crashed (some { code := "PLUGIN_CRASHED", message := error })
        { s with pluginWorkerMap := s.pluginWorkerMap.erase p }
    · exact absurd hnone h
    · dsimp only
      rw [heq]
      refine .inl ⟨_, List.mem_cons_self, fun hallowed => ?_⟩
      exact Bool.false_ne_true (hinvalid.symm.trans hallowed)
    · dsimp only
      rw [heq]
      refine .inr ⟨p, (hr p).trans (if_pos rfl), ?_⟩
      exact (JsMap.get_erase _ _ _).trans (if_pos rfl)

theorem keeps_lost_handlePluginCrash : Keeps Lost (handlePluginCrash p error) := by
  intro s hs
  by_cases hp : s.stateOf p = none
  · rw [handlePluginCrash_of_none hp]
    rcases hs with hforbidden | ⟨q, hq, hmap⟩
    · exact .inl hforbidden
    · refine .inr ⟨q, hq, (JsMap.get_erase _ _ _).trans ?_⟩
      split_ifs
      · rfl
      · exact hmap
  · exact lost_handlePluginCrash _ hp

variable {l : List String}

theorem forEach_handlePluginCrash (h : ∀ p ∈ l, s.stateOf p = none) :
    forEach (fun p => handlePluginCrash p error) l s =
      (.ok (), { s with pluginWorkerMap := l.foldl JsMap.erase s.pluginWorkerMap }) := by
  induction l generalizing s with
  | nil => rfl
  | cons p l ih =>
    show bindResult _ (handlePluginCrash p error s) = _
    rw [handlePluginCrash_of_none (h p List.mem_cons_self), bindResult_ok]
    exact ih (s := { s with pluginWorkerMap := s.pluginWorkerMap.erase p })
      fun q hq => h q (List.mem_cons_of_mem p hq)

theorem lost_forEach_handlePluginCrash (h : ∃ p ∈ l, s.stateOf p ≠ none) :
    Lost (forEach (fun p => handlePluginCrash p error) l s).2 := by
  induction l generalizing s with
  | nil =>
    obtain ⟨p, hp, -⟩ := h
    cases hp
  | cons a l ih =>
    show Lost (bindResult _ (handlePluginCrash a error s)).2
    by_cases ha : s.stateOf a = none
    · rw [handlePluginCrash_of_none ha, bindResult_ok]
      obtain ⟨p, hp, hne⟩ := h
      rcases List.mem_cons.mp hp with rfl | hp
      · exact absurd ha hne
      · exact ih ⟨p, hp, hne⟩
    · have hlost := lost_handlePluginCrash error ha
      rcases hrun : handlePluginCrash a error s with ⟨e | u, s₁⟩
      · rw [hrun] at hlost
        exact hlost
      · rw [hrun] at hlost
        exact keeps_forEach (fun _ => keeps_lost_handlePluginCrash) l s₁ hlost

theorem get_foldl_erase (m : JsMap String ℕ) (h : q ∉ l) :
    (l.foldl JsMap.erase m).get q = m.get q := by
  induction l generalizing m with
  | nil => rfl
  | cons p l ih =>
    rw [List.mem_cons, not_or] at h
    rw [List.foldl_cons, ih _ h.2, JsMap.get_erase, if_neg h.1]

theorem sound_createWorker (hb : Basic s) (h : Sound s) : Sound (createWorker s).2 := by
  refine h.mono rfl rfl (fun _ _ hq => hq) ?_
  rintro q - ⟨w, hw, hmem, info, hinfo, hgone⟩
  have hlt := hb.created w (by rw [hinfo]; rfl)
  have hne : w ≠ s.nextWorkerId := by omega
  exact ⟨w, hw, hmem, info, (JsMap.get_set_of_ne _ _ hne).trans hinfo, hgone⟩

/-- A worker that knows no registered plugin, and to which no enabled plugin is mapped, leaves the
pool without harm. -/
theorem sound_handleWorkerCrash (hb : Basic s) (h : Sound s) (hnone : s.NoneRegistered workerId)
    (hfree : ∀ p, s.stateOf p = some .enabled → s.pluginWorkerMap.get p ≠ some workerId) :
    Sound (handleWorkerCrash workerId error s).2 := by
  -- the requests are rejected, the plugins are unmapped, and the worker leaves the pool
  let s₁ : PluginSystem := s.rejectRequests workerId error
  let s₂ : PluginSystem :=
    { s₁ with pluginWorkerMap := (s.pluginsOf workerId).foldl JsMap.erase s.pluginWorkerMap }
  let s₃ : PluginSystem := { s₂ with workers := s.workers.erase workerId }
  have hrun : handleWorkerCrash workerId error s =
      (if s.isShuttingDown then pure () else createWorker : SystemM Unit) s₃ := by
    have hloop : forEach (fun p => handlePluginCrash p error) (s.pluginsOf workerId) s₁ =
        (.ok (), s₂) := forEach_handlePluginCrash (s := s₁) hnone
    exact bind_of_ok hloop
  have hsound : Sound s₃ := by
    refine h.mono rfl rfl (fun _ _ hq => hq) ?_
    rintro q hq ⟨w, hw, hmem, hinfo⟩
    have hunknown : q ∉ s.pluginsOf workerId := by
      intro hknown
      have hq' : s.stateOf q = some .enabled := hq
      rw [hnone q hknown] at hq'
      cases hq'
    have hne : w ≠ workerId := by
      rintro rfl
      exact hfree q hq hw
    refine ⟨w, (get_foldl_erase _ hunknown).trans hw, ?_, hinfo⟩
    exact (List.mem_erase_of_ne hne).mpr hmem
  have hbasic : Basic s₃ := by
    refine ⟨hb.states, (hb.rejectRequests workerId error).requestIds,
      (hb.rejectRequests workerId error).requestWorkers,
      fun w hw => hb.pool w (List.mem_of_mem_erase hw), hb.created, fun q w hq => ?_⟩
    have hunmapped : ∀ (l : List String) (m : JsMap String ℕ),
        (l.foldl JsMap.erase m).get q = some w → m.get q = some w := by
      intro l
      induction l with
      | nil => exact fun _ hq => hq
      | cons p l ih =>
        intro m hq
        have hq' := ih _ hq
        rw [JsMap.get_erase] at hq'
        split_ifs at hq'
        exact hq'
    exact hb.mapped q w (hunmapped _ _ hq)
  rw [hrun]
  by_cases hshutdown : s.isShuttingDown
  · rw [if_pos hshutdown]
    exact hsound
  · rw [if_neg hshutdown]
    exact sound_createWorker hbasic hsound

theorem lost_handleWorkerCrash
    (h : ¬ s.NoneRegistered workerId) : Lost (handleWorkerCrash workerId error s).2 := by
  unfold NoneRegistered at h
  push Not at h
  have hlost : Lost (forEach (fun p => handlePluginCrash p error) (s.pluginsOf workerId)
      (s.rejectRequests workerId error)).2 := lost_forEach_handlePluginCrash h
  show Lost (bindResult _ (forEach (fun p => handlePluginCrash p error) (s.pluginsOf workerId)
    (s.rejectRequests workerId error))).2
  have hrest : Keeps Lost (do
      modify fun s => { s with workers := s.workers.erase workerId }
      let s ← get
      if s.isShuttingDown then pure () else createWorker : SystemM Unit) := by
    have hcreate : Keeps Lost createWorker := keeps_modify fun _ hs => hs
    refine keeps_bind (keeps_modify fun _ hs => hs) fun _ => keeps_get_bind fun s hs => ?_
    exact keeps_ite (keeps_pure ()) hcreate s hs
  rcases hloop : forEach (fun p => handlePluginCrash p error) (s.pluginsOf workerId)
      (s.rejectRequests workerId error) with ⟨e | u, s₁⟩
  · rw [hloop] at hlost
    exact hlost
  · rw [hloop] at hlost
    exact hrest s₁ hlost

theorem decides_pluginCrashed (h : Sound s) :
    Decides (s.Orderly (.pluginCrashed p error)) (handlePluginCrash p error s).2 := by
  constructor
  · intro hnone
    have hnone' : s.stateOf p = none := hnone
    rw [handlePluginCrash_of_none hnone']
    refine h.mono rfl rfl (fun _ _ hq => hq) ?_
    rintro q hq ⟨w, hw, hlive⟩
    have hne : q ≠ p := by
      rintro rfl
      have hq' : s.stateOf q = some .enabled := hq
      cases hnone'.symm.trans hq'
    exact ⟨w, (JsMap.get_erase _ _ _).trans ((if_neg hne).trans hw), hlive⟩
  · intro hne
    exact .inl (lost_handlePluginCrash _ hne)

/-! ### Workers -/

theorem sound_workerReady (h : Sound s) : Sound (workerReady workerId s).2 := by
  unfold workerReady
  show Sound (bindResult _ (.ok s, s)).2
  rw [bindResult_ok]
  cases s.workerInfos.get workerId with
  | none => exact h
  | some info =>
    dsimp only
    split_ifs
    · exact h
    · have hready := h.updateWorker workerId
        (f := fun info => { info with ready := true }) fun _ => rfl
      refine hready.mono rfl rfl (fun _ _ hq => hq) ?_
      rintro q - ⟨w, hw, hmem, hinfo⟩
      rw [updateWorker_eq] at hmem
      exact ⟨w, hw, List.mem_append_left _ hmem, hinfo⟩

theorem stateOf_threadEnded (s : PluginSystem) (workerId : ℕ) (q : String) :
    (threadEnded workerId s).2.stateOf q = s.stateOf q := by
  show (s.updateWorker workerId _).stateOf q = s.stateOf q
  rw [updateWorker_eq]
  rfl

theorem map_threadEnded (s : PluginSystem) (workerId : ℕ) :
    (threadEnded workerId s).2.pluginWorkerMap = s.pluginWorkerMap := by
  show (s.updateWorker workerId _).pluginWorkerMap = s.pluginWorkerMap
  rw [updateWorker_eq]

theorem pluginsOf_threadEnded (s : PluginSystem) (workerId w : ℕ) :
    (threadEnded workerId s).2.pluginsOf w = s.pluginsOf w := by
  show (((s.updateWorker workerId _).workerInfos.get w).map IWorkerInfo.plugins).getD [] = _
  rw [get_updateWorker]
  split_ifs
  · rw [Option.map_map]
    rfl
  · rfl

theorem noneRegistered_threadEnded :
    (threadEnded workerId s).2.NoneRegistered workerId ↔ s.NoneRegistered workerId := by
  unfold NoneRegistered
  rw [pluginsOf_threadEnded]
  simp only [stateOf_threadEnded]

theorem decides_threadEnded (h : Sound s) :
    Decides (∀ p, s.stateOf p = some .enabled → s.pluginWorkerMap.get p ≠ some workerId)
      (threadEnded workerId s).2 := by
  constructor
  · intro hfree
    refine h.mono ?_ ?_ (fun q state hq => ?_) ?_
    · show (s.updateWorker workerId _).transitions = s.transitions
      rw [updateWorker_eq]
    · show (s.updateWorker workerId _).enableFailures = s.enableFailures
      rw [updateWorker_eq]
    · rw [stateOf_threadEnded] at hq
      exact hq
    · rintro q hq ⟨w, hw, hmem, info, hinfo, hgone⟩
      rw [stateOf_threadEnded] at hq
      have hne : w ≠ workerId := by
        rintro rfl
        exact hfree q hq hw
      refine ⟨w, by rw [map_threadEnded]; exact hw, ?_, info, ?_, hgone⟩
      · show w ∈ (s.updateWorker workerId _).workers
        rw [updateWorker_eq]
        exact hmem
      · show (s.updateWorker workerId _).workerInfos.get w = some info
        rw [get_updateWorker, if_neg hne]
        exact hinfo
  · intro hnot
    push Not at hnot
    obtain ⟨p, henabled, hmap⟩ := hnot
    refine .inr (.inr ⟨p, by rw [stateOf_threadEnded]; exact henabled, ?_⟩)
    rintro ⟨w, hw, -, info, hinfo, hgone⟩
    rw [map_threadEnded, hmap] at hw
    cases hw
    have hinfo' : (s.updateWorker workerId fun info => { info with gone := true }).workerInfos.get
        workerId = some info := hinfo
    rw [get_updateWorker, if_pos rfl] at hinfo'
    obtain ⟨info', -, rfl⟩ := Option.map_eq_some_iff.mp hinfo'
    cases hgone

theorem NoneRegistered.free (hb : Basic s) (h : s.NoneRegistered workerId) :
    ∀ p, s.stateOf p = some .enabled → s.pluginWorkerMap.get p ≠ some workerId := by
  intro p henabled hmap
  rw [h p (hb.mapped p workerId hmap)] at henabled
  cases henabled

theorem decides_crash (hb : Basic s) (h : Sound s) : Decides (s.NoneRegistered workerId)
      (handleWorkerCrash workerId error (threadEnded workerId s).2).2 := by
  have hbasic := keeps_basic_threadEnded workerId s hb
  constructor
  · intro hnone
    have hnone' := noneRegistered_threadEnded.mpr hnone
    exact sound_handleWorkerCrash hbasic ((decides_threadEnded h).1 (hnone.free hb)) hnone'
      (hnone'.free hbasic)
  · intro hnot
    exact .inl (lost_handleWorkerCrash fun hnone => hnot (noneRegistered_threadEnded.mp hnone))

theorem isCrash_threadEnded (s : PluginSystem) (workerId code : ℕ) :
    (threadEnded workerId s).2.isCrash code = s.isCrash code := by
  show (s.updateWorker workerId _).isCrash code = s.isCrash code
  rw [updateWorker_eq]
  rfl

theorem decides_workerExit {code : ℕ} (hb : Basic s) (h : Sound s) :
    Decides (s.Orderly (.workerExit workerId code)) (workerExit workerId code s).2 := by
  show Decides (if s.isCrash code then s.NoneRegistered workerId
      else ∀ p, s.stateOf p = some .enabled → s.pluginWorkerMap.get p ≠ some workerId)
    ((if (threadEnded workerId s).2.isCrash code then
        handleWorkerCrash workerId s!"Worker exited with code {code}" else pure () : SystemM Unit)
      (threadEnded workerId s).2).2
  rw [isCrash_threadEnded]
  by_cases hcrash : s.isCrash code
  · rw [if_pos hcrash, if_pos hcrash]
    exact decides_crash hb h
  · rw [if_neg hcrash, if_neg hcrash]
    exact decides_threadEnded h

/-! ### Runs -/

theorem basic_step (hb : Basic s) (event : Event) : Basic (s.step event) := by
  cases event with
  | registerPlugin filePath parsed errors => exact basic_registerPlugin hb filePath parsed errors
  | resolveDependencies =>
    refine hb.withRegistry fun q => ?_
    have hsame : ((s.registry.buildDependencyGraph).get q).map RegisteredPlugin.state = s.stateOf q :=
      stateOf_congr (t := { s with registry := s.registry.buildDependencyGraph })
        (PluginRegistry.view_buildDependencyGraph s.registry q)
    rw [hsame]
    exact hb.states q
  | loadPlugin pluginId prepared => exact keeps_basic_loadPlugin s hb
  | unloadPlugin pluginId => exact keeps_basic_unloadPlugin s hb
  | enablePlugin pluginId => exact keeps_basic_enablePlugin s hb
  | disablePlugin pluginId => exact keeps_basic_disablePlugin s hb
  | answered requestId answer handlers => exact keeps_basic_answered s hb
  | pluginCrashed pluginId error => exact keeps_basic_handlePluginCrash s hb
  | workerReady workerId => exact keeps_basic_workerReady s hb
  | workerError workerId message =>
    exact keeps_bind (keeps_basic_threadEnded _) (fun _ => keeps_basic_handleWorkerCrash) s hb
  | workerExit workerId code =>
    refine keeps_bind (keeps_basic_threadEnded _) (fun _ => keeps_get_bind fun s hs => ?_) s hb
    exact keeps_ite keeps_basic_handleWorkerCrash (keeps_pure ()) s hs
  | shutdownBegins =>
    exact ⟨hb.states, hb.requestIds, hb.requestWorkers, hb.pool, hb.created, hb.mapped⟩
  | shutdownEnds =>
    exact ⟨hb.states, hb.requestIds, hb.requestWorkers, nofun, hb.created, nofun⟩

/-- One event: an orderly one leads to a sound state, any other one to a broken state. -/
theorem decides_step (hb : Basic s) (h : Sound s) (event : Event) :
    Decides (s.Orderly event) (s.step event) := by
  cases event with
  | registerPlugin filePath parsed errors =>
    exact decides_of_sound (sound_registerPlugin h filePath parsed errors) trivial
  | resolveDependencies =>
    refine decides_of_sound (h.mono rfl rfl (fun q state hq => ?_) fun _ _ hq => hq) trivial
    have hsame : (s.step .resolveDependencies).stateOf q = s.stateOf q :=
      stateOf_congr (t := { s with registry := s.registry.buildDependencyGraph })
        (PluginRegistry.view_buildDependencyGraph s.registry q)
    exact hsame.symm.trans hq
  | loadPlugin pluginId prepared => exact decides_of_sound (sound_loadPlugin hb h prepared) trivial
  | unloadPlugin pluginId => exact decides_unloadPlugin h
  | enablePlugin pluginId => exact decides_enablePlugin h
  | disablePlugin pluginId => exact decides_of_sound (sound_disablePlugin h) trivial
  | answered requestId answer handlers => exact decides_answered h
  | pluginCrashed pluginId error => exact decides_pluginCrashed h
  | workerReady workerId => exact decides_of_sound (sound_workerReady h) trivial
  | workerError workerId message => exact decides_crash hb h
  | workerExit workerId code => exact decides_workerExit hb h
  | shutdownBegins =>
    exact decides_of_sound (h.mono rfl rfl (fun _ _ hq => hq) fun _ _ hq => hq) trivial
  | shutdownEnds =>
    constructor
    · intro hnone
      refine ⟨h.allowed, h.proper, fun q hq => ?_, h.uncrashed⟩
      exact absurd hq (hnone q)
    · intro hnot
      have hnot' : ¬ ∀ p, s.stateOf p ≠ some .enabled := hnot
      push Not at hnot'
      obtain ⟨p, henabled⟩ := hnot'
      refine .inr (.inr ⟨p, henabled, ?_⟩)
      rintro ⟨w, hw, -⟩
      cases hw

theorem closed_run_iff_from (hb : Basic s) (h : Sound s) (events : List Event) :
    (∀ before, before <+: events → Closed (s.run before)) ↔ s.OrderlyRun events := by
  induction events generalizing s with
  | nil =>
    refine ⟨fun _ => trivial, fun _ before hbefore => ?_⟩
    rw [List.prefix_nil.mp hbefore]
    exact h.closed
  | cons event events ih =>
    obtain ⟨hsound, hbroken⟩ := decides_step hb h event
    have hbasic := basic_step hb event
    constructor
    · intro hclosed
      have horderly : s.Orderly event := by
        by_contra hnot
        have hone : [event] <+: event :: events := ⟨events, rfl⟩
        exact (hbroken hnot).not_closed hbasic (hclosed [event] hone)
      refine ⟨horderly, (ih hbasic (hsound horderly)).mp fun before hbefore => ?_⟩
      exact hclosed (event :: before) (List.cons_prefix_cons.mpr ⟨rfl, hbefore⟩)
    · rintro ⟨horderly, hrest⟩ before hbefore
      cases before with
      | nil => exact h.closed
      | cons event' before =>
        obtain ⟨rfl, htail⟩ := List.cons_prefix_cons.mp hbefore
        exact (ih hbasic (hsound horderly)).mpr hrest before htail

theorem initial_spec (workerCount : ℕ) :
    Basic (initial workerCount) ∧ Sound (initial workerCount) := by
  induction workerCount with
  | zero => exact ⟨⟨nofun, nofun, nofun, nofun, nofun, nofun⟩, ⟨nofun, nofun, nofun, nofun⟩⟩
  | succ workerCount ih =>
    exact ⟨keeps_basic_createWorker _ ih.1, sound_createWorker ih.1 ih.2⟩

/-- **The life cycle of plugins**: every state of a run is closed exactly if every event of the run
is orderly in the state it happens in. -/
theorem closed_run_iff_orderly (workerCount : ℕ) (events : List Event) :
    (∀ before, before <+: events → Closed ((initial workerCount).run before)) ↔
      (initial workerCount).OrderlyRun events := by
  obtain ⟨hb, h⟩ := initial_spec workerCount
  exact closed_run_iff_from hb h events

/-! ### A plugin that cannot be enabled -/

/-- A plugin without dependencies. -/
def plainPlugin : ParsedPluginFile where
  metadata :=
    { name := "plain", version := "1.0.0", dependencies := [], loadPriority := none
      enabledByDefault := none }
  bytecode := [0x01]

/-- The plugin is loaded; its worker answers the request to enable it with an error. -/
def failedEnable : List Event :=
  [.workerReady 0, .registerPlugin "plain.opnet" (.ok plainPlugin) [], .loadPlugin "plain" (.ok ()),
    .answered 0 (.response true none) (.ok ()), .enablePlugin "plain",
    .answered 1 (.response false (some "onEnable failed")) (.ok ())]

/-- The failed enable asks for the transition from `loaded` to `error`. -/
theorem not_closed_failedEnable :
    ¬ ∀ (workerCount : ℕ) (events : List Event), Closed ((initial workerCount).run events) := by
  intro h
  have hrequested : (⟨"plain", .loaded, .error⟩ : Transition) ∈
      ((initial 1).run failedEnable).transitions := by decide
  exact absurd ((h 1 failedEnable).allowed _ hrequested) (by unfold Transition.Allowed; decide)

end PluginSystem

end OpnetNode
