import OpnetNode.Plugins.Equiv.ReloadLinks

/-!
# What a failed reload leaves

`reloadPlugin` takes the dependents and the plugin down and brings them up again, with no way back:
when a call fails, nothing undoes those before it, and when it fails for a dependent that comes up
again, the reload returns.  The reload keeps what it has to (`KeepsOld`) exactly in two cases: it is
refused before it has changed anything (`Refused`), or no call fails (`GoesThrough`).

That no later call puts back what an earlier one has changed is the reason for the one direction:
taking down only lowers ranks (`removal_spec`), a plugin that cannot be brought up again is not in
the state it had (`arrival_of_throw`), and a dependent that is not enabled after its own calls stays
so (`down_restored`).
-/

namespace OpnetNode.PluginManager

open Proc PluginRegistry

/-! ### The chain -/

/-- Take the dependents down, in reverse order, and then the plugin. -/
def removalLinks (plugin : RegisteredPlugin) (dependents : List RegisteredPlugin) : List Link :=
  (dependents.reverse.flatMap fun dep => [Link.disable true dep.id, Link.unload true dep.id]) ++
    ((if plugin.state = .enabled then [Link.disable false plugin.id] else []) ++
      [Link.unload false plugin.id])

/-- Bring a plugin up again. -/
def arrivalLinks (plugin : RegisteredPlugin) : List Link :=
  [Link.register plugin.filePath, Link.load plugin.id] ++
    if plugin.state = .enabled then [Link.enable plugin.id] else []

/-- Bring a dependent up again, as far as that goes. -/
def restore (host : PluginHost) (dep : RegisteredPlugin) : ManagerM Unit :=
  ignoreErrors (forEach (Link.procedure host) (arrivalLinks dep))

variable {host : PluginHost} {m m' : PluginManager} {id : String} {plugin : RegisteredPlugin}
  {dependents : List RegisteredPlugin}

variable {α : Type}

theorem forEach_ite {c : Prop} [Decidable c] (f : α → ManagerM Unit) (a : α) :
    forEach f (if c then [a] else []) = runIf (decide c) (f a) := by
  by_cases h : c
  · rw [if_pos h, runIf, decide_eq_true h, if_pos rfl, forEach_singleton]
  · rw [if_neg h, runIf, decide_eq_false h, if_neg Bool.false_ne_true]
    rfl

theorem disableAndUnload_eq (host : PluginHost) (id : String) :
    disableAndUnload host id =
      forEach (Link.procedure host) [.disable true id, .unload true id] := by
  show _ = (Link.procedure host (.disable true id) >>= fun _ =>
    forEach (Link.procedure host) [.unload true id])
  rw [forEach_singleton]
  rfl

theorem restorePlugin_eq (host : PluginHost) (plugin : RegisteredPlugin) :
    restorePlugin host plugin.filePath plugin.id (plugin.state = .enabled) =
      forEach (Link.procedure host) (arrivalLinks plugin) := by
  unfold arrivalLinks
  rw [forEach_append, forEach_ite]
  show _ = ((registerPlugin host plugin.filePath >>= fun _ => pure ()) >>= fun _ =>
    forEach (Link.procedure host) [.load plugin.id]) >>= _
  rw [forEach_singleton, bind_assoc, bind_assoc]
  rfl

/-- The new file can be parsed, and is valid. -/
def NewVersionOk (host : PluginHost) (m : PluginManager) (plugin : RegisteredPlugin) : Prop :=
  ∃ file, host.parsePluginFile m.clock plugin.filePath = .ok file ∧ host.validate file = []

/-- The manager when the new file has been looked at. -/
def validated (m : PluginManager) : PluginManager := { m with clock := m.clock + 1 }

/-- The calls on the plugin, and on its dependents to take them down. -/
def reloadLinks (m : PluginManager) (plugin : RegisteredPlugin) : List Link :=
  removalLinks plugin (m.registry.getDependents plugin.id) ++ arrivalLinks plugin

theorem validateNewVersion_of_ok (h : NewVersionOk host m plugin) :
    validateNewVersion host plugin.filePath m = (.ok (), m.validated) := by
  obtain ⟨file, hparse, hvalid⟩ := h
  unfold validateNewVersion
  show bindResult _ (Except.ok _, m.validated) = _
  rw [bindResult_ok, hparse]
  show throwIf (host.validate file ≠ []) _ m.validated = _
  rw [throwIf, if_neg fun hne => hne hvalid]
  rfl

theorem validateNewVersion_of_not_ok (h : ¬ NewVersionOk host m plugin) :
    ∃ e, validateNewVersion host plugin.filePath m = (.error e, m.validated) := by
  unfold validateNewVersion
  show ∃ e, bindResult _ (Except.ok _, m.validated) = _
  cases hparse : host.parsePluginFile m.clock plugin.filePath with
  | error e => exact ⟨_, rfl⟩
  | ok file =>
    have hinvalid : host.validate file ≠ [] := fun hvalid => h ⟨file, hparse, hvalid⟩
    rw [bindResult_ok]
    show ∃ e, throwIf (host.validate file ≠ []) _ m.validated = _
    rw [throwIf, if_pos hinvalid]
    exact ⟨_, rfl⟩

theorem reloadPlugin_of_none (host : PluginHost) (hget : m.registry.get id = none) :
    ∃ e, reloadPlugin host id m = (.error e, m) := by
  obtain ⟨e, hrun⟩ := getPlugin_of_none hget
  refine ⟨e, ?_⟩
  unfold reloadPlugin
  exact bind_of_error hrun

theorem reloadPlugin_of_not_ok (hget : m.registry.get id = some plugin)
    (h : ¬ NewVersionOk host m plugin) :
    ∃ e, reloadPlugin host id m = (.error e, m.validated) := by
  obtain ⟨e, hrun⟩ := validateNewVersion_of_not_ok h
  refine ⟨e, ?_⟩
  unfold reloadPlugin
  refine (bind_of_ok (getPlugin_of_get hget)).trans ?_
  exact bind_of_error hrun

theorem reloadPlugin_of_ok (hget : m.registry.get id = some plugin)
    (h : NewVersionOk host m plugin) :
    reloadPlugin host id m =
      (forEach (Link.procedure host) (reloadLinks m plugin) >>= fun _ =>
        forEach (restore host) (m.registry.getDependents plugin.id)) m.validated := by
  obtain rfl : plugin.id = id := id_of_get hget
  have hrestore : (fun dep : RegisteredPlugin =>
      ignoreErrors (restorePlugin host dep.filePath dep.id (dep.state = .enabled))) =
        restore host := by
    funext dep
    rw [restorePlugin_eq]
    rfl
  unfold reloadPlugin
  refine (bind_of_ok (getPlugin_of_get hget)).trans ?_
  refine (bind_of_ok (validateNewVersion_of_ok h)).trans ?_
  unfold reloadLinks removalLinks
  rw [forEach_append, forEach_append, forEach_append, forEach_flatMap, forEach_ite,
    forEach_singleton, ← restorePlugin_eq, ← hrestore]
  simp only [← disableAndUnload_eq, bind_assoc]
  rfl

/-! ### Runs of links -/

theorem returned_forEach {σ ε : Type} (f : α → Proc σ ε Unit) (l : List α) (s : σ) :
    returned (forEach f l s) = runFrom (fun s a => returned (f a s)) s l := by
  induction l generalizing s with
  | nil => rfl
  | cons a l ih =>
    rw [runFrom_cons]
    show returned (bindResult (fun _ => forEach f l) (f a s)) = _
    rcases f a s with ⟨e | _, s'⟩
    · rfl
    · exact ih s'

/-- The calls all go through exactly if each is ready in the state it is made in. -/
theorem meets_ready_iff (host : PluginHost) (m : PluginManager) (links : List Link) :
    OpnetNode.Meets (Link.step host) (Link.Ready host) m links ↔
      ∃ m', forEach (Link.procedure host) links m = (.ok (), m') := by
  rw [meets_iff_runFrom (Link.ready_iff host)]
  show (runFrom (fun m link => returned _) m links).isSome = true ↔ _
  rw [← returned_forEach]
  rcases forEach (Link.procedure host) links m with ⟨e | _, m'⟩
  · exact ⟨fun h => (by cases h), fun ⟨_, h⟩ => (by cases h)⟩
  · exact ⟨fun _ => ⟨m', rfl⟩, fun _ => rfl⟩

/-! ### What a reload has to keep -/

/-- The state and the version of a plugin, if it is registered. -/
def seen (m : PluginManager) (id : String) : Option (PluginState × String) :=
  (m.registry.get id).map fun plugin => (plugin.state, plugin.metadata.version)

/-- The plugin and its recorded dependents. -/
def affected (m : PluginManager) (id : String) : List String :=
  id :: (m.registry.getDependents id).map RegisteredPlugin.id

/-- The plugin and its dependents are registered in the states and versions they had. -/
def SameAsBefore (m : PluginManager) (id : String) (m' : PluginManager) : Prop :=
  ∀ q ∈ m.affected id, m'.seen q = m.seen q

def DependentsEnabled (m : PluginManager) (id : String) (m' : PluginManager) : Prop :=
  ∀ dep ∈ m.registry.getDependents id, dep.state = .enabled → m'.registry.EnabledAt dep.id

/-- A reload that throws leaves the plugin and its dependents as they were, and one that returns
leaves the dependents enabled that were. -/
def KeepsOld (host : PluginHost) (m : PluginManager) (id : String) : Prop :=
  Outcome (fun _ => DependentsEnabled m id) (SameAsBefore m id) (reloadPlugin host id m)

/-- The first of some calls that is made is refused, and no affected plugin crashes. -/
def FirstRefused (host : PluginHost) (m : PluginManager) (id : String) : List Link → Prop
  | [] => False
  | link :: links => (link.Idle m ∧ FirstRefused host m id links) ∨
      (¬ link.Idle m ∧ link.Refused host (m.affected id) m)

/-- The reload is refused before it has changed anything: the plugin is not registered, its new file
is not valid, or the first call that is made is refused. -/
def Refused (host : PluginHost) (m : PluginManager) (id : String) : Prop :=
  ∀ plugin, m.registry.get id = some plugin → NewVersionOk host m plugin →
    FirstRefused host m.validated id
      (removalLinks plugin (m.registry.getDependents id))

/-- No dependent that has been enabled again crashes while the call asks a worker. -/
def Spared (host : PluginHost) (dependents : List RegisteredPlugin) (m : PluginManager)
    (link : Link) : Prop :=
  link.Asks m → ∀ dep ∈ dependents, dep.state = .enabled → m.registry.EnabledAt dep.id →
    dep.id ∉ host.crashes m.clock

/-- Bringing a dependent up again goes through if it was enabled, and costs no other one. -/
def RestoreOk (host : PluginHost) (dependents : List RegisteredPlugin) (m : PluginManager)
    (dep : RegisteredPlugin) : Prop :=
  (dep.state = .enabled → OpnetNode.Meets (Link.step host) (Link.Ready host) m (arrivalLinks dep)) ∧
    OpnetNode.Meets (Link.step host) (Spared host dependents) m (arrivalLinks dep)

def restoreStep (host : PluginHost) (m : PluginManager) (dep : RegisteredPlugin) :
    Option PluginManager :=
  some (restore host dep m).2

/-- Every call of the reload is ready in the state it is made in, but for those that bring up
dependents that were not enabled. -/
def GoesThrough (host : PluginHost) (m : PluginManager) (id : String) : Prop :=
  ∃ plugin, m.registry.get id = some plugin ∧ NewVersionOk host m plugin ∧
    OpnetNode.Meets (Link.step host) (Link.Ready host) m.validated (reloadLinks m plugin) ∧
    ∀ m', runFrom (Link.step host) m.validated (reloadLinks m plugin) = some m' →
      OpnetNode.Meets (restoreStep host) (RestoreOk host (m.registry.getDependents id)) m'
        (m.registry.getDependents id)

/-! ### Taking down -/

variable {q : String}

theorem not_sameAsBefore_of_stateAt (hq : q ∈ m.affected id)
    (h : m'.stateAt q ≠ m.stateAt q) : ¬ SameAsBefore m id m' := by
  intro hsame
  have hseen := congrArg (Option.map Prod.fst) (hsame q hq)
  unfold seen at hseen
  rw [Option.map_map, Option.map_map] at hseen
  exact h hseen

theorem sameAsBefore_of_get (h : ∀ q ∈ m.affected id, m'.registry.get q = m.registry.get q) :
    SameAsBefore m id m' := by
  intro q hq
  unfold seen
  rw [h q hq]

variable {links : List Link}

theorem lowered_forEach {plugins : List String}
    (h : ∀ link ∈ links, link.TakesDown plugins) (host : PluginHost) (m : PluginManager) :
    Lowered m (forEach (Link.procedure host) links m).2 := by
  induction links generalizing m with
  | nil => exact fun q => le_rfl
  | cons link links ih =>
    have hlink := Link.lowered host m (h link List.mem_cons_self)
    show Lowered m (bindResult (fun _ => forEach _ links) (link.procedure host m)).2
    rcases hrun : link.procedure host m with ⟨e | _, m₁⟩
    · rw [hrun] at hlink
      exact hlink
    · rw [hrun] at hlink
      exact hlink.trans (ih (fun l hl => h l (List.mem_cons_of_mem link hl)) m₁)

theorem removal_spec (h : ∀ link ∈ links, link.TakesDown (m.affected id))
    (hlast : ∃ link ∈ links, ¬ link.Idle m) :
    (FirstRefused host m id links ∧ ∃ e m', forEach (Link.procedure host) links m = (.error e, m') ∧
        SameAsBefore m id m') ∨
      (¬ FirstRefused host m id links ∧ ∃ q ∈ m.affected id,
        rank ((forEach (Link.procedure host) links m).2.stateAt q) < rank (m.stateAt q)) := by
  induction links with
  | nil =>
    obtain ⟨link, hmem, -⟩ := hlast
    exact absurd hmem List.not_mem_nil
  | cons link links ih =>
    by_cases hidle : link.Idle m
    · -- The call is not made, and the others are made in the same state.
      have hrun : forEach (Link.procedure host) (link :: links) m =
          forEach (Link.procedure host) links m := by
        show bindResult (fun _ => forEach _ links) (link.procedure host m) = _
        rw [Link.procedure_of_idle host hidle]
        rfl
      have hfirst : FirstRefused host m id (link :: links) ↔ FirstRefused host m id links :=
        ⟨fun hrefused => (hrefused.resolve_right fun hr => hr.1 hidle).2,
          fun hrefused => Or.inl ⟨hidle, hrefused⟩⟩
      rw [hrun, hfirst]
      obtain ⟨l, hl, hnot⟩ := hlast
      refine ih (fun l hl => h l (List.mem_cons_of_mem link hl)) ⟨l, ?_, hnot⟩
      rcases List.mem_cons.mp hl with rfl | hl
      · exact absurd hidle hnot
      · exact hl
    · by_cases hrefused : link.Refused host (m.affected id) m
      · left
        -- no later call is made
        obtain ⟨e, m', hrun, hsame⟩ := Link.procedure_of_refused hidle hrefused
        refine ⟨Or.inr ⟨hidle, hrefused⟩, e, m', ?_, sameAsBefore_of_get hsame⟩
        show bindResult (fun _ => forEach _ links) (link.procedure host m) = _
        rw [hrun]
        rfl
      · right
        refine ⟨fun hfirst => ?_, ?_⟩
        · rcases hfirst with ⟨hi, -⟩ | ⟨-, hr⟩
          · exact hidle hi
          · exact hrefused hr
        · obtain ⟨q, hq, hlt⟩ :=
            Link.lowers_of_not_refused (h link List.mem_cons_self) hidle hrefused
          refine ⟨q, hq, lt_of_le_of_lt ?_ hlt⟩
          show rank ((bindResult (fun _ => forEach _ links) (link.procedure host m)).2.stateAt q) ≤ _
          rcases hrun : link.procedure host m with ⟨e | _, m₁⟩
          · exact le_rfl
          · exact lowered_forEach (fun l hl => h l (List.mem_cons_of_mem link hl)) host m₁ q

variable {link : Link}

theorem mem_removalLinks (h : link ∈ removalLinks plugin dependents) :
    link.TakesDown (plugin.id :: dependents.map RegisteredPlugin.id) := by
  rcases List.mem_append.mp h with h | h
  · obtain ⟨dep, hdep, hlink⟩ := List.mem_flatMap.mp h
    have hid : dep.id ∈ plugin.id :: dependents.map RegisteredPlugin.id :=
      List.mem_cons_of_mem _ (List.mem_map_of_mem (List.mem_reverse.mp hdep))
    rcases List.mem_cons.mp hlink with rfl | hlink
    · exact hid
    · obtain rfl := List.mem_singleton.mp hlink
      exact hid
  · rcases List.mem_append.mp h with h | h
    · split_ifs at h
      · obtain rfl := List.mem_singleton.mp h
        exact List.mem_cons_self
      · exact absurd h List.not_mem_nil
    · obtain rfl := List.mem_singleton.mp h
      exact List.mem_cons_self

theorem forEach_append_eq_ok {f : α → ManagerM Unit} {l l' : List α}
    (h : forEach f (l ++ l') m = (.ok (), m')) :
    ∃ m₁, forEach f l m = (.ok (), m₁) ∧ forEach f l' m₁ = (.ok (), m') := by
  rw [forEach_append] at h
  obtain ⟨_, m₁, hl, hl'⟩ := bind_eq_ok h
  exact ⟨m₁, hl, hl'⟩

theorem stateAt_of_removal
    (h : forEach (Link.procedure host) (removalLinks plugin dependents) m = (.ok (), m')) :
    2 ≤ rank (m.stateAt plugin.id) ∧ m'.stateAt plugin.id = none := by
  unfold removalLinks at h
  rw [← List.append_assoc] at h
  obtain ⟨m₁, hfirst, hlast⟩ := forEach_append_eq_ok h
  have hlinks : ∀ link ∈ (dependents.reverse.flatMap fun dep =>
      [Link.disable true dep.id, Link.unload true dep.id]) ++
        (if plugin.state = .enabled then [Link.disable false plugin.id] else []),
      link.TakesDown (plugin.id :: dependents.map RegisteredPlugin.id) := by
    intro link hlink
    refine mem_removalLinks ?_
    unfold removalLinks
    rw [← List.append_assoc]
    exact List.mem_append_left _ hlink
  have hlowered := lowered_forEach hlinks host m plugin.id
  rw [hfirst] at hlowered
  rw [forEach_singleton] at hlast
  replace hlast : unloadPlugin host plugin.id m₁ = (.ok (), m') := hlast
  have hcan : m₁.CanUnload plugin.id := by
    by_contra hnot
    obtain ⟨e, m₂, hrun, -⟩ := unloadPlugin_of_not_canUnload host hnot
    cases hrun.symm.trans hlast
  obtain ⟨m₂, hrun, hstates⟩ := unloadPlugin_of_canUnload host hcan
  rw [hrun] at hlast
  obtain ⟨-, rfl⟩ := Prod.mk.inj hlast
  refine ⟨(rank_unloading hcan.2).trans hlowered, ?_⟩
  rw [hstates, if_pos rfl]

/-! ### Bringing up -/

variable {e : String}

/-- A plugin that could not be brought up again is not registered, has not come to be loaded, or is
loaded where it was to be enabled. -/
theorem arrival_of_throw (hgone : m.stateAt plugin.id = none)
    (h : forEach (Link.procedure host) (arrivalLinks plugin) m = (.error e, m')) :
    rank (m'.stateAt plugin.id) < 2 ∨
      (plugin.state = .enabled ∧ m'.stateAt plugin.id = some .loaded) := by
  rw [← restorePlugin_eq] at h
  unfold restorePlugin at h
  replace h : bindResult _ (registerPlugin host plugin.filePath m) = _ := h
  by_cases hregister : CanRegister host m plugin.filePath
  · obtain ⟨registered, m₁, hrun, -, hstates⟩ := registerPlugin_of_canRegister hregister
    rw [hrun, bindResult_ok] at h
    replace h : bindResult _ (loadPlugin host plugin.id m₁) = _ := h
    by_cases hload : m₁.CanLoad plugin.id
    · obtain ⟨m₂, hrun, -, hok, herror⟩ := loadPlugin_of_canLoad host hload
      rw [hrun] at h
      cases hanswer : host.answer m₁.clock with
      | error e' =>
        rw [hanswer] at h
        cases h
        rw [herror (by rw [hanswer]; exact fun heq => by cases heq)]
        exact Or.inl (by decide)
      | ok _ =>
        have hloaded := hok hanswer
        rw [hanswer, bindResult_ok] at h
        by_cases henabled : plugin.state = .enabled
        · replace h : runIf (decide (plugin.state = .enabled)) (enablePlugin host plugin.id) m₂ =
            _ := h
          rw [decide_eq_true henabled] at h
          replace h : enablePlugin host plugin.id m₂ = _ := h
          right
          -- the plugin was loaded, and enabling it again leaves it there
          refine ⟨henabled, ?_⟩
          obtain ⟨m₃, hok', herror', -, -, hsame⟩ := enablePlugin_of_canEnable host
            ⟨.loaded, hloaded, Or.inl rfl⟩
          by_cases hanswer' : host.answer m₂.clock = .ok ()
          · rw [hok' hanswer'] at h
            cases h
          · obtain ⟨e', hrun⟩ := herror' hanswer'
            cases hrun.symm.trans h
            rw [hsame hanswer', hloaded]
        · replace h : runIf (decide (plugin.state = .enabled)) (enablePlugin host plugin.id) m₂ =
            _ := h
          rw [decide_eq_false henabled] at h
          cases h
    · obtain ⟨e', hrun⟩ := loadPlugin_of_not_canLoad host hload
      rw [hrun] at h
      cases h
      left
      rcases hstates plugin.id with hsame | ⟨-, hvalidated⟩
      · rw [hsame, hgone]
        decide
      · rw [hvalidated]
        decide
  · obtain ⟨e', m₁, hrun, hstates⟩ := registerPlugin_of_not_canRegister hregister
    rw [hrun] at h
    cases h
    left
    rcases hstates plugin.id with hsame | ⟨-, herror⟩
    · rw [hsame, hgone]
      decide
    · rw [herror]
      decide

theorem enabledAt_of_arrival (henabled : plugin.state = .enabled)
    (h : forEach (Link.procedure host) (arrivalLinks plugin) m = (.ok (), m')) :
    m'.registry.EnabledAt plugin.id := by
  unfold arrivalLinks at h
  rw [if_pos henabled] at h
  obtain ⟨m₁, -, hlast⟩ := forEach_append_eq_ok h
  rw [forEach_singleton] at hlast
  replace hlast : enablePlugin host plugin.id m₁ = (.ok (), m') := hlast
  have hreturns := enablePlugin_returns_iff host m₁ plugin.id
  rw [hlast] at hreturns
  obtain ⟨hcan, hanswer⟩ := hreturns.mp rfl
  obtain ⟨m₂, hok, -, -, hstate, -⟩ := enablePlugin_of_canEnable host hcan
  rw [hok hanswer] at hlast
  cases hlast
  exact enabledAt_iff_stateAt.mpr (hstate hanswer)

theorem down_of_throw (hdown : Down plugin.id m)
    (h : forEach (Link.procedure host) (arrivalLinks plugin) m = (.error e, m')) :
    Down plugin.id m' := by
  have hfirst : Keeps (Down plugin.id)
      (forEach (Link.procedure host) [.register plugin.filePath, .load plugin.id]) := by
    refine keeps_forEach_of_mem fun link hlink => Link.keeps_down host ?_
    rintro rfl
    simp at hlink
  have hkept := hfirst m hdown
  unfold arrivalLinks at h
  rw [forEach_append] at h
  replace h : bindResult _ (forEach (Link.procedure host)
    [.register plugin.filePath, .load plugin.id] m) = _ := h
  rcases hrun : forEach (Link.procedure host)
    [.register plugin.filePath, .load plugin.id] m with ⟨e' | _, m₁⟩
  · rw [hrun] at h hkept
    cases h
    exact hkept
  · rw [hrun, bindResult_ok, forEach_ite] at h
    rw [hrun] at hkept
    replace hkept : Down plugin.id m₁ := hkept
    -- what is thrown is thrown by the enable, as the calls before have returned
    by_cases henabled : plugin.state = .enabled
    · rw [decide_eq_true henabled] at h
      replace h : enablePlugin host plugin.id m₁ = _ := h
      by_cases hcan : m₁.CanEnable plugin.id
      · obtain ⟨m₂, hok, herror, -, -, hsame⟩ := enablePlugin_of_canEnable host hcan
        by_cases hanswer : host.answer m₁.clock = .ok ()
        · rw [hok hanswer] at h
          cases h
        · obtain ⟨e', hrun'⟩ := herror hanswer
          cases hrun'.symm.trans h
          intro hup
          rw [enabledAt_iff_stateAt, hsame hanswer, ← enabledAt_iff_stateAt] at hup
          exact hkept hup
      · obtain ⟨e', hrun'⟩ := enablePlugin_of_not_canEnable host hcan
        cases hrun'.symm.trans h
        exact hkept
    · rw [decide_eq_false henabled] at h
      cases h

/-! ### Dependents that are up again -/

def Link.BringsUp (pluginId : String) : Link → Prop
  | .register _ => True
  | .load q => q = pluginId
  | .enable q => q = pluginId
  | _ => False

theorem bringsUp_of_mem (h : link ∈ arrivalLinks plugin) : link.BringsUp plugin.id := by
  rcases List.mem_append.mp h with h | h
  · rcases List.mem_cons.mp h with rfl | h
    · trivial
    · obtain rfl := List.mem_singleton.mp h
      rfl
  · split_ifs at h
    · obtain rfl := List.mem_singleton.mp h
      rfl
    · exact absurd h List.not_mem_nil

theorem Link.BringsUp.ne_enable (h : link.BringsUp id) (hq : q ≠ id) : link ≠ .enable q := by
  rintro rfl
  exact hq h

theorem Link.BringsUp.ne_of_asks (h : link.BringsUp id) (hasks : link.Asks m)
    (hq : m.registry.EnabledAt q) : q ≠ id := by
  rintro rfl
  rw [enabledAt_iff_stateAt] at hq
  cases link with
  | disable | unload => exact h.elim
  | register filePath => exact hasks.elim
  | load pluginId =>
    obtain rfl : pluginId = q := h
    cases hasks.1.symm.trans hq
  | enable pluginId =>
    obtain rfl : pluginId = q := h
    obtain ⟨old, hold, hcases⟩ := hasks
    cases hq.symm.trans hold
    rcases hcases with hcase | hcase | hcase <;> cases hcase

theorem Link.enabledAt_iff (hup : link.BringsUp id) (h : m.registry.EnabledAt q) :
    (link.procedure host m).2.registry.EnabledAt q ↔ (link.Asks m → q ∉ host.crashes m.clock) := by
  have hne : link.Asks m → q ≠ id := fun hasks => hup.ne_of_asks hasks h
  rw [enabledAt_iff_stateAt] at h
  rw [enabledAt_iff_stateAt]
  -- a crash is the only change to the state of another plugin
  have hcrash : ∀ m' : PluginManager, m'.stateAt q =
      (if q ∈ host.crashes m.clock then (m.stateAt q).map afterCrash else m.stateAt q) →
      (m'.stateAt q = some .enabled ↔ q ∉ host.crashes m.clock) := by
    intro m' hstate
    rw [hstate, h]
    split_ifs with hmem
    · exact ⟨fun heq => (by cases heq), fun hnot => absurd hmem hnot⟩
    · exact ⟨fun _ => hmem, fun _ => rfl⟩
  cases link with
  | disable | unload => exact hup.elim
  | register filePath =>
    refine ⟨fun _ hasks => hasks.elim, fun _ => ?_⟩
    show (bindResult _ (registerPlugin host filePath m)).2.stateAt q = some .enabled
    by_cases hcan : CanRegister host m filePath
    · obtain ⟨plugin, m', hrun, -, hstates⟩ := registerPlugin_of_canRegister hcan
      rw [hrun]
      rcases hstates q with hsame | ⟨hnone, -⟩
      · exact hsame.trans h
      · cases hnone.symm.trans h
    · obtain ⟨e, m', hrun, hstates⟩ := registerPlugin_of_not_canRegister hcan
      rw [hrun]
      rcases hstates q with hsame | ⟨hnone, -⟩
      · exact hsame.trans h
      · cases hnone.symm.trans h
  | load pluginId =>
    show (loadPlugin host pluginId m).2.stateAt q = some .enabled ↔ (m.CanLoad pluginId → _)
    by_cases hcan : m.CanLoad pluginId
    · obtain ⟨m', hrun, hstates, -⟩ := loadPlugin_of_canLoad host hcan
      obtain rfl : pluginId = id := hup
      rw [hrun, forall_prop_of_true hcan]
      exact hcrash m' (hstates q (hne hcan))
    · obtain ⟨e, hrun⟩ := loadPlugin_of_not_canLoad host hcan
      rw [hrun]
      exact ⟨fun _ hasks => absurd hasks hcan, fun _ => h⟩
  | enable pluginId =>
    show (enablePlugin host pluginId m).2.stateAt q = some .enabled ↔ (m.CanEnable pluginId → _)
    by_cases hcan : m.CanEnable pluginId
    · obtain ⟨m', hok, herror, hstates, -⟩ := enablePlugin_of_canEnable host hcan
      obtain rfl : pluginId = id := hup
      have hrun : (enablePlugin host pluginId m).2 = m' := by
        by_cases hanswer : host.answer m.clock = .ok ()
        · rw [hok hanswer]
        · obtain ⟨e, hrun⟩ := herror hanswer
          rw [hrun]
      rw [hrun, forall_prop_of_true hcan]
      exact hcrash m' (hstates q (hne hcan))
    · obtain ⟨e, hrun⟩ := enablePlugin_of_not_canEnable host hcan
      rw [hrun]
      exact ⟨fun _ hasks => absurd hasks hcan, fun _ => h⟩

theorem forEach_cons_snd (link : Link) (links : List Link) (host : PluginHost)
    (m : PluginManager) :
    (∃ m₁, link.step host m = some m₁ ∧ (link.procedure host m).2 = m₁ ∧
        (forEach (Link.procedure host) (link :: links) m).2 =
          (forEach (Link.procedure host) links m₁).2) ∨
      (link.step host m = none ∧
        (forEach (Link.procedure host) (link :: links) m).2 = (link.procedure host m).2) := by
  unfold Link.step
  show (∃ m₁, _ ∧ _ ∧ (bindResult (fun _ => forEach _ links) (link.procedure host m)).2 = _) ∨
    (_ ∧ (bindResult (fun _ => forEach _ links) (link.procedure host m)).2 = _)
  rcases link.procedure host m with ⟨e | _, m₁⟩
  · exact Or.inr ⟨rfl, rfl⟩
  · exact Or.inl ⟨m₁, rfl, rfl, rfl⟩

variable {dep : RegisteredPlugin}

theorem enabledAt_of_spared (hup : ∀ link ∈ links, link.BringsUp id)
    (h : OpnetNode.Meets (Link.step host) (Spared host dependents) m links)
    (hdep : dep ∈ dependents) (hstate : dep.state = .enabled)
    (henabled : m.registry.EnabledAt dep.id) :
    (forEach (Link.procedure host) links m).2.registry.EnabledAt dep.id := by
  induction links generalizing m with
  | nil => exact henabled
  | cons link links ih =>
    have hafter := (Link.enabledAt_iff (hup link List.mem_cons_self) henabled).mpr
      fun hasks => h.1 hasks dep hdep hstate henabled
    rcases forEach_cons_snd link links host m with
      ⟨m₁, hstep, hm₁, heq⟩ | ⟨hstep, heq⟩
    · rw [heq]
      rw [hm₁] at hafter
      exact ih (fun l hl => hup l (List.mem_cons_of_mem link hl)) (h.2 m₁ hstep) hafter
    · rw [heq]
      exact hafter

theorem down_forEach (hlinks : ∀ link ∈ links, link ≠ .enable q)
    (h : Down q m) : Down q (forEach (Link.procedure host) links m).2 :=
  keeps_forEach_of_mem (fun link hlink => Link.keeps_down host (hlinks link hlink)) m h

theorem exists_down_of_not_spared (hup : ∀ link ∈ links, link.BringsUp id)
    (h : ¬ OpnetNode.Meets (Link.step host) (Spared host dependents) m links) :
    ∃ dep ∈ dependents, dep.state = .enabled ∧ dep.id ≠ id ∧ m.registry.EnabledAt dep.id ∧
      Down dep.id (forEach (Link.procedure host) links m).2 := by
  induction links generalizing m with
  | nil => exact absurd trivial h
  | cons link links ih =>
    have hrest : ∀ l ∈ links, l.BringsUp id := fun l hl => hup l (List.mem_cons_of_mem link hl)
    by_cases hspared : Spared host dependents m link
    · rcases forEach_cons_snd link links host m with
        ⟨m₁, hstep, hm₁, heq⟩ | ⟨hstep, -⟩
      · have hnot : ¬ OpnetNode.Meets (Link.step host) (Spared host dependents) m₁ links := by
          refine fun hmeets => h ⟨hspared, fun m₂ hm₂ => ?_⟩
          cases hstep.symm.trans hm₂
          exact hmeets
        obtain ⟨dep, hdep, hstate, hne, henabled, hdown⟩ := ih hrest hnot
        refine ⟨dep, hdep, hstate, hne, ?_, heq ▸ hdown⟩
        by_contra hnotUp
        have hkept := Link.keeps_down host ((hup link List.mem_cons_self).ne_enable hne) m hnotUp
        rw [hm₁] at hkept
        exact hkept henabled
      · refine absurd ⟨hspared, fun m₁ hm₁ => ?_⟩ h
        cases hstep.symm.trans hm₁
    · unfold Spared at hspared
      push Not at hspared
      obtain ⟨hasks, dep, hdep, hstate, henabled, hcrash⟩ := hspared
      have hne := (hup link List.mem_cons_self).ne_of_asks hasks henabled
      -- this call crashes the dependent, and no later one enables it
      have hdown : Down dep.id (link.procedure host m).2 := by
        intro hstill
        exact (Link.enabledAt_iff (hup link List.mem_cons_self) henabled).mp hstill hasks hcrash
      refine ⟨dep, hdep, hstate, hne, henabled, ?_⟩
      rcases forEach_cons_snd link links host m with
        ⟨m₁, hstep, hm₁, heq⟩ | ⟨hstep, heq⟩
      · rw [heq]
        rw [hm₁] at hdown
        exact down_forEach (fun l hl => (hrest l hl).ne_enable hne) hdown
      · rw [heq]
        exact hdown

/-! ### All dependents -/

theorem restore_eq (host : PluginHost) (dep : RegisteredPlugin) (m : PluginManager) :
    restore host dep m = (.ok (), (forEach (Link.procedure host) (arrivalLinks dep) m).2) := by
  show catchResult _ _ = _
  rcases forEach (Link.procedure host) (arrivalLinks dep) m with ⟨e | _, m₁⟩ <;> rfl

/-- The manager when dependents have been brought up again, as far as that went. -/
def restored (host : PluginHost) : List RegisteredPlugin → PluginManager → PluginManager
  | [], m => m
  | dep :: todo, m => restored host todo (restore host dep m).2

theorem forEach_restore (host : PluginHost) (todo : List RegisteredPlugin) (m : PluginManager) :
    forEach (restore host) todo m = (.ok (), restored host todo m) := by
  induction todo generalizing m with
  | nil => rfl
  | cons dep todo ih =>
    show bindResult _ (restore host dep m) = _
    rw [restore_eq, bindResult_ok, ih]
    show _ = (Except.ok (), restored host todo (restore host dep m).2)
    rw [restore_eq]

variable {todo : List RegisteredPlugin}

theorem down_restored
    (hq : q ∉ todo.map RegisteredPlugin.id) (h : Down q m) : Down q (restored host todo m) := by
  induction todo generalizing m with
  | nil => exact h
  | cons dep todo ih =>
    rw [List.map_cons, List.mem_cons, not_or] at hq
    show Down q _
    refine ih hq.2 ?_
    rw [restore_eq]
    exact down_forEach (fun link hlink => (bringsUp_of_mem hlink).ne_enable hq.1) h

theorem enabledAt_restored
    (h : OpnetNode.Meets (restoreStep host) (RestoreOk host dependents) m todo)
    (hdep : dep ∈ dependents) (hstate : dep.state = .enabled)
    (henabled : m.registry.EnabledAt dep.id) :
    (restored host todo m).registry.EnabledAt dep.id := by
  induction todo generalizing m with
  | nil => exact henabled
  | cons head todo ih =>
    show (restored host todo (restore host head m).2).registry.EnabledAt dep.id
    refine ih (h.2 _ rfl) ?_
    rw [restore_eq]
    exact enabledAt_of_spared (fun link hlink => bringsUp_of_mem hlink) h.1.2 hdep hstate henabled

theorem enabledAt_of_restoreOk
    (h : OpnetNode.Meets (restoreStep host) (RestoreOk host dependents) m todo)
    (hdep : dep ∈ dependents) (hmem : dep ∈ todo) (hstate : dep.state = .enabled) :
    (restored host todo m).registry.EnabledAt dep.id := by
  induction todo generalizing m with
  | nil => exact absurd hmem List.not_mem_nil
  | cons head todo ih =>
    rcases List.mem_cons.mp hmem with rfl | hmem
    · show (restored host todo (restore host dep m).2).registry.EnabledAt dep.id
      refine enabledAt_restored (h.2 _ rfl) hdep hstate ?_
      obtain ⟨m', hrun⟩ := (meets_ready_iff host m _).mp (h.1.1 hstate)
      rw [restore_eq, hrun]
      exact enabledAt_of_arrival hstate hrun
    · exact ih (h.2 _ rfl) hmem

theorem restoreOk_of_enabledAt
    (hnodup : (dependents.map RegisteredPlugin.id).Nodup) (hsub : ∀ dep ∈ todo, dep ∈ dependents)
    (htodo : (todo.map RegisteredPlugin.id).Nodup)
    (hdown : ∀ dep ∈ todo, dep.state = .enabled → Down dep.id m)
    (h : ∀ dep ∈ dependents, dep.state = .enabled →
      (restored host todo m).registry.EnabledAt dep.id) :
    OpnetNode.Meets (restoreStep host) (RestoreOk host dependents) m todo := by
  induction todo generalizing m with
  | nil => trivial
  | cons dep todo ih =>
    rw [List.map_cons, List.nodup_cons] at htodo
    have hfinal : ∀ d ∈ dependents, d.state = .enabled →
        (restored host todo (restore host dep m).2).registry.EnabledAt d.id := h
    refine ⟨⟨fun hstate => ?_, ?_⟩, fun m' hm' => ?_⟩
    · -- A dependent that does not come up stays down.
      by_contra hnot
      rw [meets_ready_iff] at hnot
      have hdep : dep ∈ dependents := hsub dep List.mem_cons_self
      refine down_restored htodo.1 ?_ (hfinal dep hdep hstate)
      rw [restore_eq]
      rcases hrun : forEach (Link.procedure host) (arrivalLinks dep) m with ⟨e | _, m₁⟩
      · exact down_of_throw (hdown dep List.mem_cons_self hstate) hrun
      · exact absurd ⟨m₁, hrun⟩ hnot
    · -- One that goes down again stays down, too, as its own calls have been made.
      by_contra hnot
      obtain ⟨d, hd, hstate, hne, henabled, hdownAfter⟩ :=
        exists_down_of_not_spared (fun link hlink => bringsUp_of_mem hlink) hnot
      have hlater : d.id ∉ todo.map RegisteredPlugin.id := by
        intro hmem
        obtain ⟨e, he, heq⟩ := List.mem_map.mp hmem
        have hsame : e = d := List.inj_on_of_nodup_map hnodup
          (hsub e (List.mem_cons_of_mem dep he)) hd heq
        rw [hsame] at he
        exact hdown d (List.mem_cons_of_mem dep he) hstate henabled
      refine down_restored hlater ?_ (hfinal d hd hstate)
      rw [restore_eq]
      exact hdownAfter
    · cases hm'
      refine ih (fun d hd => hsub d (List.mem_cons_of_mem dep hd)) htodo.2 (fun d hd hstate => ?_)
        hfinal
      have hne : d.id ≠ dep.id := fun heq => htodo.1 (heq ▸ List.mem_map_of_mem hd)
      rw [restore_eq]
      exact down_forEach (fun link hlink => (bringsUp_of_mem hlink).ne_enable hne)
        (hdown d (List.mem_cons_of_mem dep hd) hstate)

/-! ### Dependents that were taken down -/

theorem down_of_disable {ifEnabled : Bool}
    (h : (Link.disable ifEnabled id).procedure host m = (.ok (), m')) : Down id m' := by
  by_cases henabled : m.stateAt id = some .enabled
  · have hidle : ¬ (Link.disable ifEnabled id).Idle m := fun hidle => hidle.2 henabled
    rw [Link.procedure_disable host hidle] at h
    obtain ⟨m₁, hawaited, hrun⟩ := disablePlugin_of_enabled host henabled
    rw [hrun] at h
    cases hanswer : host.answer m.clock with
    | error e =>
      rw [hanswer] at h
      cases h
    | ok _ =>
      rw [hanswer] at h
      replace h : setState id .disabled m₁ = (.ok (), m') := h
      by_cases hgo : m₁.CanGo id .disabled
      · obtain ⟨m₂, hset, -, hstates, -⟩ := setState_of_canGo hgo
        cases hset.symm.trans h
        intro hup
        rw [enabledAt_iff_stateAt, hstates, if_pos rfl] at hup
        cases hup
      · obtain ⟨e, hset⟩ := setState_of_not_canGo hgo
        cases hset.symm.trans h
  · have hdown : Down id m := fun hup => henabled (enabledAt_iff_stateAt.mp hup)
    have hne : Link.disable ifEnabled id ≠ .enable id := fun heq => (by cases heq)
    have hkept := Link.keeps_down host hne m hdown
    rw [h] at hkept
    exact hkept

theorem down_of_mem {ifEnabled : Bool} (hmem : .disable ifEnabled id ∈ links)
    (hlinks : ∀ link ∈ links, link ≠ .enable id)
    (h : forEach (Link.procedure host) links m = (.ok (), m')) : Down id m' := by
  induction links generalizing m with
  | nil => exact absurd hmem List.not_mem_nil
  | cons link links ih =>
    obtain ⟨_, m₁, hlink, hrest⟩ := bind_eq_ok h
    have hlater : ∀ l ∈ links, l ≠ .enable id := fun l hl =>
      hlinks l (List.mem_cons_of_mem link hl)
    rcases List.mem_cons.mp hmem with rfl | hmem
    · have hkept : Down id (forEach (Link.procedure host) links m₁).2 :=
        down_forEach hlater (down_of_disable hlink)
      rw [hrest] at hkept
      exact hkept
    · exact ih hmem hlater hrest

theorem disable_mem_removalLinks (h : dep ∈ dependents) :
    .disable true dep.id ∈ dependents.reverse.flatMap fun dep =>
      [Link.disable true dep.id, Link.unload true dep.id] :=
  List.mem_flatMap.mpr ⟨dep, List.mem_reverse.mpr h, List.mem_cons_self⟩

theorem down_of_reloadLinks
    (hdep : dep ∈ m.registry.getDependents plugin.id) (hstate : dep.state = .enabled)
    (hget : m.registry.get plugin.id = some plugin)
    (h : forEach (Link.procedure host) (reloadLinks m plugin) m.validated = (.ok (), m')) :
    Down dep.id m' := by
  have hremoval : ∀ link ∈ removalLinks plugin (m.registry.getDependents plugin.id),
      ∀ q, link ≠ .enable q := by
    rintro link hlink q rfl
    exact mem_removalLinks hlink
  obtain ⟨m₁, hdownRun, hupRun⟩ := forEach_append_eq_ok h
  by_cases hid : dep.id = plugin.id
  · -- A plugin that depends on itself has been taken down when its own turn comes.
    obtain rfl : dep = plugin := by
      have hget' := get_of_mem_getDependents hdep
      rw [hid, hget] at hget'
      exact (Option.some.inj hget').symm
    unfold removalLinks at hdownRun
    rw [if_pos hstate] at hdownRun
    obtain ⟨m₂, hfirst, hlast⟩ := forEach_append_eq_ok hdownRun
    have hdown : Down dep.id m₂ := by
      refine down_of_mem (disable_mem_removalLinks hdep) (fun link hlink => ?_) hfirst
      exact hremoval link (List.mem_append_left _ hlink) dep.id
    obtain ⟨_, m₃, hdisable, -⟩ := bind_eq_ok hlast
    replace hdisable : disablePlugin host dep.id m₂ = (.ok (), m₃) := hdisable
    obtain ⟨e, hrun⟩ := disablePlugin_of_not_enabled host fun henabled =>
      hdown (enabledAt_iff_stateAt.mpr henabled)
    cases hrun.symm.trans hdisable
  · have hdown : Down dep.id m₁ := by
      refine down_of_mem (List.mem_append_left _ (disable_mem_removalLinks hdep))
        (fun link hlink => hremoval link hlink dep.id) hdownRun
    have hkept : Down dep.id (forEach (Link.procedure host) (arrivalLinks plugin) m₁).2 :=
      down_forEach (fun link hlink => (bringsUp_of_mem hlink).ne_enable hid) hdown
    rw [hupRun] at hkept
    exact hkept

/-! ### When a reload keeps what it has to -/

theorem nodup_getDependents {r : PluginRegistry} (hget : r.get id = some plugin) :
    ((r.getDependents id).map RegisteredPlugin.id).Nodup := by
  have hdependents : r.getDependents id = plugin.dependents.items.filterMap r.get := by
    unfold getDependents
    rw [hget]
  have hinj : ∀ dep ∈ r.getDependents id, ∀ dep' ∈ r.getDependents id,
      dep.id = dep'.id → dep = dep' := by
    intro dep hdep dep' hdep' heq
    have hsome := get_of_mem_getDependents hdep
    rw [heq, get_of_mem_getDependents hdep'] at hsome
    exact (Option.some.inj hsome).symm
  refine List.Nodup.map_on hinj ?_
  rw [hdependents]
  refine plugin.dependents.nodup.filterMap fun p q dep hp hq => ?_
  rw [← id_of_get hp, ← id_of_get hq]

variable {m₂ : PluginManager}

/-- The plugin was in a state to be unloaded, so that it is not the one it was where it could not be
brought up again. -/
theorem not_sameAsBefore_of_throw {m₁ : PluginManager}
    (hget : m.registry.get plugin.id = some plugin)
    (hdown : forEach (Link.procedure host) (removalLinks plugin dependents) m.validated =
      (.ok (), m₁))
    (hup : forEach (Link.procedure host) (arrivalLinks plugin) m₁ = (.error e, m₂)) :
    ¬ SameAsBefore m plugin.id m₂ := by
  obtain ⟨hrank, hgone⟩ := stateAt_of_removal hdown
  have hstate : m.stateAt plugin.id = some plugin.state := stateAt_of_get hget
  replace hrank : 2 ≤ rank (m.stateAt plugin.id) := hrank
  refine not_sameAsBefore_of_stateAt List.mem_cons_self fun heq => ?_
  rcases arrival_of_throw hgone hup with hlt | ⟨henabled, hloaded⟩
  · rw [heq] at hlt
    omega
  · rw [heq, hstate, henabled] at hloaded
    cases hloaded

theorem exists_not_idle (plugin : RegisteredPlugin) (dependents : List RegisteredPlugin)
    (m : PluginManager) : ∃ link ∈ removalLinks plugin dependents, ¬ link.Idle m := by
  refine ⟨.unload false plugin.id, ?_, fun hidle => Bool.false_ne_true hidle.1⟩
  exact List.mem_append_right _ (List.mem_append_right _ List.mem_cons_self)

/-- Where one of the calls throws, all is as before exactly if that was the first one. -/
theorem sameAsBefore_iff_of_throw (hget : m.registry.get plugin.id = some plugin)
    (hrun : forEach (Link.procedure host) (reloadLinks m plugin) m.validated = (.error e, m₂)) :
    SameAsBefore m plugin.id m₂ ↔ FirstRefused host m.validated plugin.id
      (removalLinks plugin (m.registry.getDependents plugin.id)) := by
  have hlinks : forEach (Link.procedure host) (reloadLinks m plugin) =
      forEach (Link.procedure host)
        (removalLinks plugin (m.registry.getDependents plugin.id)) >>= fun _ =>
          forEach (Link.procedure host) (arrivalLinks plugin) := forEach_append ..
  rw [hlinks] at hrun
  replace hrun : bindResult _ (forEach (Link.procedure host)
    (removalLinks plugin (m.registry.getDependents plugin.id)) m.validated) = _ := hrun
  have hspec := @removal_spec host m.validated plugin.id
    (removalLinks plugin (m.registry.getDependents plugin.id))
    (fun link hlink => mem_removalLinks hlink) (exists_not_idle ..)
  rcases hspec with ⟨hfirst, e', m₁, hdown, hsame⟩ | ⟨hnot, q, hq, hlt⟩
  · refine iff_of_true ?_ hfirst
    rw [hdown] at hrun
    cases hrun
    exact hsame
  · refine iff_of_false ?_ hnot
    rcases hdown : forEach (Link.procedure host)
      (removalLinks plugin (m.registry.getDependents plugin.id)) m.validated with ⟨e' | _, m₁⟩
    · -- A call has changed something, and a later one throws.
      rw [hdown] at hrun hlt
      obtain ⟨-, rfl⟩ := Prod.mk.inj hrun
      refine not_sameAsBefore_of_stateAt hq fun heq => ?_
      have hlt' : rank (m₁.stateAt q) < rank (m.stateAt q) := hlt
      rw [heq] at hlt'
      exact lt_irrefl _ hlt'
    · -- The plugin is down, and does not come up again.
      rw [hdown, bindResult_ok] at hrun
      exact not_sameAsBefore_of_throw hget hdown hrun

theorem not_firstRefused_of_returns
    (hrun : forEach (Link.procedure host) (reloadLinks m plugin) m.validated = (.ok (), m₂)) :
    ¬ FirstRefused host m.validated plugin.id
      (removalLinks plugin (m.registry.getDependents plugin.id)) := by
  intro hfirst
  obtain ⟨m₁, hdown, -⟩ := forEach_append_eq_ok hrun
  have hspec := @removal_spec host m.validated plugin.id
    (removalLinks plugin (m.registry.getDependents plugin.id))
    (fun link hlink => mem_removalLinks hlink) (exists_not_idle ..)
  rcases hspec with ⟨-, e, m', hrefused, -⟩ | ⟨hnot, -⟩
  · cases hdown.symm.trans hrefused
  · exact hnot hfirst

theorem keepsOld_iff_of_returns (hget : m.registry.get plugin.id = some plugin)
    (hok : NewVersionOk host m plugin)
    (hrun : forEach (Link.procedure host) (reloadLinks m plugin) m.validated = (.ok (), m₂)) :
    KeepsOld host m plugin.id ↔ GoesThrough host m plugin.id := by
  have hreload : reloadPlugin host plugin.id m =
      (.ok (), restored host (m.registry.getDependents plugin.id) m₂) := by
    rw [reloadPlugin_of_ok hget hok]
    refine (bind_of_ok hrun).trans ?_
    rw [forEach_restore]
  have hrunFrom : runFrom (Link.step host) m.validated (reloadLinks m plugin) = some m₂ := by
    show runFrom (fun m link => returned _) _ _ = _
    rw [← returned_forEach, hrun]
    rfl
  unfold KeepsOld
  rw [hreload]
  constructor
  · intro henabled
    refine ⟨plugin, hget, hok, (meets_ready_iff host _ _).mpr ⟨m₂, hrun⟩, fun m' hm' => ?_⟩
    cases hrunFrom.symm.trans hm'
    have hnodup := nodup_getDependents hget
    exact restoreOk_of_enabledAt hnodup (fun _ hdep => hdep) hnodup
      (fun dep hdep hstate => down_of_reloadLinks hdep hstate hget hrun) henabled
  · rintro ⟨p, hp, -, -, hmeets⟩ dep hdep hstate
    cases hget.symm.trans hp
    exact enabledAt_of_restoreOk (hmeets m₂ hrunFrom) hdep hdep hstate

theorem GoesThrough.exists_run (hget : m.registry.get id = some plugin)
    (h : GoesThrough host m id) :
    ∃ m₂, forEach (Link.procedure host) (reloadLinks m plugin) m.validated = (.ok (), m₂) := by
  obtain ⟨p, hp, -, hmeets, -⟩ := h
  cases hget.symm.trans hp
  exact (meets_ready_iff host _ _).mp hmeets

/-- **A reload keeps the old version when it fails, and its dependents enabled when it does not,
exactly if it is refused before it has changed anything, or goes through.** -/
theorem keepsOld_iff (host : PluginHost) (m : PluginManager) (id : String) :
    KeepsOld host m id ↔ Refused host m id ∨ GoesThrough host m id := by
  have hsame : ∀ m' : PluginManager, m'.registry = m.registry → SameAsBefore m id m' := by
    intro m' hregistry
    refine sameAsBefore_of_get fun q _ => ?_
    rw [hregistry]
  cases hget : m.registry.get id with
  | none =>
    obtain ⟨e, hrun⟩ := reloadPlugin_of_none host hget
    refine iff_of_true ?_ (Or.inl fun plugin hplugin => ?_)
    · unfold KeepsOld
      rw [hrun]
      exact hsame m rfl
    · cases hget.symm.trans hplugin
  | some plugin =>
    by_cases hok : NewVersionOk host m plugin
    · obtain rfl : plugin.id = id := id_of_get hget
      have hrefused : Refused host m plugin.id ↔ FirstRefused host m.validated plugin.id
          (removalLinks plugin (m.registry.getDependents plugin.id)) := by
        refine ⟨fun hrefused => hrefused plugin hget hok, fun hfirst p hp _ => ?_⟩
        cases hget.symm.trans hp
        exact hfirst
      rw [hrefused]
      rcases hrun : forEach (Link.procedure host) (reloadLinks m plugin) m.validated with
        ⟨e | _, m₂⟩
      · -- The reload throws, so that it has to leave all as before.
        have hnot : ¬ GoesThrough host m plugin.id := by
          intro hgoes
          obtain ⟨m₃, hrun'⟩ := hgoes.exists_run hget
          cases hrun.symm.trans hrun'
        rw [or_iff_left hnot, ← sameAsBefore_iff_of_throw hget hrun]
        unfold KeepsOld
        rw [reloadPlugin_of_ok hget hok]
        show Outcome _ _ (bindResult _ _) ↔ _
        rw [hrun]
        rfl
      · -- The reload returns, so that it has to leave the dependents enabled.
        rw [or_iff_right (not_firstRefused_of_returns hrun)]
        exact keepsOld_iff_of_returns hget hok hrun
    · obtain ⟨e, hrun⟩ := reloadPlugin_of_not_ok hget hok
      refine iff_of_true ?_ (Or.inl fun p hp hok' => ?_)
      · unfold KeepsOld
        rw [hrun]
        exact hsame m.validated rfl
      · cases hget.symm.trans hp
        exact absurd hok' hok

instance decidableOutcome {σ ε α : Type} {Q : α → σ → Prop} {E : σ → Prop}
    [∀ a s, Decidable (Q a s)] [∀ s, Decidable (E s)] :
    ∀ r : Except ε α × σ, Decidable (Outcome Q E r)
  | (.ok a, s) => inferInstanceAs (Decidable (Q a s))
  | (.error _, s) => inferInstanceAs (Decidable (E s))

instance decidableSameAsBefore (m : PluginManager) (id : String) (m' : PluginManager) :
    Decidable (SameAsBefore m id m') :=
  inferInstanceAs (Decidable (∀ q ∈ m.affected id, m'.seen q = m.seen q))

instance decidableDependentsEnabled (m : PluginManager) (id : String) (m' : PluginManager) :
    Decidable (DependentsEnabled m id m') :=
  inferInstanceAs (Decidable (∀ dep ∈ m.registry.getDependents id,
    dep.state = .enabled → m'.registry.EnabledAt dep.id))

instance decidableKeepsOld (host : PluginHost) (m : PluginManager) (id : String) :
    Decidable (KeepsOld host m id) :=
  decidableOutcome (Q := fun _ => DependentsEnabled m id) (E := SameAsBefore m id)
    (reloadPlugin host id m)

/-- A library and a plugin that depends on it, both enabled. -/
def discovered : PluginManager := run sampleHost initial [.discoverAndLoadPlugins]

/-- A host where one question is answered with an error. -/
def failingHost (question : ℕ) : PluginHost :=
  { sampleHost with answer := fun q => if q = question then .error "worker error" else .ok () }

/-- The worker cannot load the new version: the dependent has been unloaded by then, and the plugin
is left with an error. -/
theorem not_keepsOld_failing : ¬ KeepsOld (failingHost 13) discovered "lib" := by
  decide +kernel

end OpnetNode.PluginManager
