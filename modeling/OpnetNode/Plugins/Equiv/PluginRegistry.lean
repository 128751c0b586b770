import OpnetNode.Plugins.PluginRegistry
import OpnetNode.Transition

/-!
# Enabled plugins and their dependencies

`DependenciesEnabled`: whatever an enabled plugin declares as a dependency is registered and
enabled.  One lemma (`dependenciesEnabled_put`) says when writing a plugin keeps this; it looks at
the state and the declared names of a plugin only, so that nothing that changes the recorded sets
matters to it (`DependenciesEnabled.congr`).

`Recorded`: every declared dependency is in the set the load check reads.  `buildDependencyGraph`
establishes this where all declared dependencies are registered
(`recorded_buildDependencyGraph`), and then the load check means what it says
(`ready_of_areDependenciesReady`).
-/

namespace OpnetNode.PluginRegistry

variable {r r' : PluginRegistry} {id q d : String} {plugin : RegisteredPlugin}

/-! ### What matters of a plugin -/

def EnabledAt (r : PluginRegistry) (id : String) : Prop :=
  ∃ plugin, r.get id = some plugin ∧ plugin.state = .enabled

/-- `q` is enabled and declares `id` as a dependency. -/
def Requires (r : PluginRegistry) (q id : String) : Prop :=
  ∃ plugin, r.get q = some plugin ∧ plugin.state = .enabled ∧ id ∈ plugin.declared

/-- Every declared dependency of an enabled plugin is registered and enabled. -/
def DependenciesEnabled (r : PluginRegistry) : Prop := ∀ q id, r.Requires q id → r.EnabledAt id

/-- Every dependency the plugin declares, itself apart, is registered and enabled. -/
def Ready (r : PluginRegistry) (plugin : RegisteredPlugin) : Prop :=
  ∀ d ∈ plugin.declared, d = plugin.id ∨ r.EnabledAt d

/-- Every declared dependency is recorded. -/
def Recorded (r : PluginRegistry) : Prop :=
  ∀ id plugin, r.get id = some plugin → ∀ d ∈ plugin.declared, d ∈ plugin.dependencies

theorem enabledAt_iff : r.EnabledAt id ↔ (r.get id).map RegisteredPlugin.state = some .enabled := by
  rw [Option.map_eq_some_iff]
  rfl

instance (r : PluginRegistry) (id : String) : Decidable (r.EnabledAt id) :=
  decidable_of_iff _ enabledAt_iff.symm

instance (r : PluginRegistry) (plugin : RegisteredPlugin) : Decidable (r.Ready plugin) :=
  inferInstanceAs (Decidable (∀ d ∈ plugin.declared, d = plugin.id ∨ r.EnabledAt d))

theorem forall_requires_iff {p : String → String → Prop} :
    (∀ q d, r.Requires q d → p q d) ↔
      ∀ e ∈ r.plugins.entries, e.2.state = .enabled → ∀ d ∈ e.2.declared, p e.1 d := by
  constructor
  · intro h e he hstate d hd
    exact h e.1 d ⟨e.2, r.plugins.mem_entries_iff.mp he, hstate, hd⟩
  · rintro h q d ⟨plugin, hget, hstate, hd⟩
    exact h (q, plugin) (r.plugins.mem_entries_iff.mpr hget) hstate d hd

instance (r : PluginRegistry) : Decidable r.DependenciesEnabled :=
  decidable_of_iff _ (forall_requires_iff (p := fun _ d => r.EnabledAt d)).symm

/-- Of the plugins that require `id`. -/
theorem forall_requires_at_iff {p : String → Prop} :
    (∀ q, r.Requires q id → p q) ↔
      ∀ e ∈ r.plugins.entries, e.2.state = .enabled → ∀ d ∈ e.2.declared, d = id → p e.1 := by
  rw [← forall_requires_iff (p := fun q d => d = id → p q)]
  constructor
  · rintro h q d hq rfl
    exact h q hq
  · exact fun h q hq => h q id hq rfl

instance (r : PluginRegistry) (id : String) (p : String → Prop) [DecidablePred p] :
    Decidable (∀ q, r.Requires q id → p q) :=
  decidable_of_iff _ forall_requires_at_iff.symm

/-- The state and the declared dependencies of a plugin. -/
def view (r : PluginRegistry) (id : String) : Option (PluginState × List String) :=
  (r.get id).map fun plugin => (plugin.state, plugin.declared)

theorem enabledAt_iff_view : r.EnabledAt id ↔ ∃ l, r.view id = some (.enabled, l) := by
  constructor
  · rintro ⟨plugin, hget, hstate⟩
    exact ⟨plugin.declared, by rw [view, hget, Option.map_some, hstate]⟩
  · rintro ⟨l, hview⟩
    obtain ⟨plugin, hget, heq⟩ := Option.map_eq_some_iff.mp hview
    exact ⟨plugin, hget, congrArg Prod.fst heq⟩

theorem requires_iff_view :
    r.Requires q id ↔ ∃ l, r.view q = some (.enabled, l) ∧ id ∈ l := by
  constructor
  · rintro ⟨plugin, hget, hstate, hmem⟩
    exact ⟨plugin.declared, by rw [view, hget, Option.map_some, hstate], hmem⟩
  · rintro ⟨l, hview, hmem⟩
    obtain ⟨plugin, hget, heq⟩ := Option.map_eq_some_iff.mp hview
    obtain ⟨hstate, rfl⟩ := Prod.mk.inj heq
    exact ⟨plugin, hget, hstate, hmem⟩

theorem DependenciesEnabled.congr (h : r.DependenciesEnabled) (hview : ∀ id, r'.view id = r.view id) :
    r'.DependenciesEnabled := by
  intro q id hrequires
  rw [requires_iff_view, hview q, ← requires_iff_view] at hrequires
  have henabled := h q id hrequires
  rwa [enabledAt_iff_view, ← hview id, ← enabledAt_iff_view] at henabled

/-! ### Writing a plugin -/

variable {state : PluginState}

theorem setState_eq_ok (h : r.setState id state = .ok r') :
    ∃ plugin, r.get id = some plugin ∧ plugin.state.isValidStateTransition state ∧
      r' = r.put { plugin with state := state } := by
  unfold setState at h
  split at h
  · cases h
  · next plugin hget =>
    split_ifs at h with hvalid
    exact ⟨plugin, hget, by simpa using hvalid, (Except.ok.inj h).symm⟩

/-- The states that a registered plugin goes to without having been enabled. -/
structure Inactive (state : PluginState) : Prop where
  discovered : state ≠ .discovered
  enabled : state ≠ .enabled
  disabled : state ≠ .disabled
  crashed : state ≠ .crashed
  unloading : state ≠ .unloading

theorem not_enabledAt_setState (hset : r.setState id state = .ok r')
    (hstate : state ≠ .enabled) (h : ¬ r.EnabledAt d) : ¬ r'.EnabledAt d := by
  obtain ⟨plugin, hget, -, rfl⟩ := setState_eq_ok hset
  rintro ⟨p, hget', henabled⟩
  rw [get_put] at hget'
  split_ifs at hget' with hd
  · cases hget'
    exact hstate henabled
  · exact h ⟨p, hget', henabled⟩

variable {filePath : String} {file : ParsedPluginFile}

/-- A plugin with empty sets. -/
def bare (plugin : RegisteredPlugin) : RegisteredPlugin :=
  { plugin with dependencies := [], dependents := .empty }

/-- What is registered under a name, but for the sets. -/
def bareAt (r : PluginRegistry) (id : String) : Option RegisteredPlugin := (r.get id).map bare

theorem view_eq_bareAt (r : PluginRegistry) (id : String) :
    r.view id = (r.bareAt id).map fun plugin => (plugin.state, plugin.declared) := by
  rw [bareAt, Option.map_map]
  rfl

theorem get_updateSets (r : PluginRegistry) (id k : String)
    (dependents : StringSet → StringSet) (dependencies : List String → List String) :
    (r.updateSets id dependents dependencies).get k = (r.get k).map fun plugin =>
      if k = id then
        { plugin with
          dependents := dependents plugin.dependents
          dependencies := dependencies plugin.dependencies }
      else plugin := by
  unfold updateSets
  split
  · rename_i hnone
    by_cases hk : k = id
    · rw [hk, hnone]
      rfl
    · simp [hk]
  · rename_i plugin hget
    have hid : plugin.id = id := id_of_get hget
    rw [get_put]
    by_cases hk : k = id
    · rw [if_pos (hk.trans hid.symm), hk, hget]
      simp
    · rw [if_neg (fun heq => hk (heq.trans hid))]
      simp [hk]

theorem bareAt_updateSets (r : PluginRegistry) (id k : String)
    (dependents : StringSet → StringSet) (dependencies : List String → List String) :
    (r.updateSets id dependents dependencies).bareAt k = r.bareAt k := by
  rw [bareAt, get_updateSets, Option.map_map, bareAt]
  congr 1
  funext plugin
  show bare (if k = id then _ else _) = bare plugin
  split <;> rfl

theorem view_updateSets (r : PluginRegistry) (id k : String)
    (dependents : StringSet → StringSet) (dependencies : List String → List String) :
    (r.updateSets id dependents dependencies).view k = r.view k := by
  rw [view_eq_bareAt, bareAt_updateSets, ← view_eq_bareAt]

variable {α : Type} {f : PluginRegistry → α → PluginRegistry}

theorem observe_foldl {β : Type} (observe : PluginRegistry → β)
    (hf : ∀ r a, observe (f r a) = observe r) (l : List α) (r : PluginRegistry) :
    observe (l.foldl f r) = observe r := by
  induction l generalizing r with
  | nil => rfl
  | cons a l ih => rw [List.foldl_cons, ih, hf]

theorem bareAt_addDependency (id : String) (r : PluginRegistry) (depName k : String) :
    (addDependency id r depName).bareAt k = r.bareAt k := by
  unfold addDependency
  split
  · rfl
  · rw [bareAt_updateSets, bareAt_updateSets]

theorem bareAt_addDependencies (r : PluginRegistry) (plugin : RegisteredPlugin) (k : String) :
    (r.addDependencies plugin).bareAt k = r.bareAt k :=
  observe_foldl (fun r => r.bareAt k)
    (fun r depName => bareAt_addDependency plugin.id r depName k) plugin.declared r

theorem bareAt_clearSets (r : PluginRegistry) (k : String) : r.clearSets.bareAt k = r.bareAt k := by
  show ((r.plugins.mapVals _).get k).map _ = (r.plugins.get k).map _
  rw [JsMap.get_mapVals, Option.map_map]
  rfl

theorem bareAt_buildDependencyGraph (r : PluginRegistry) (k : String) :
    r.buildDependencyGraph.bareAt k = r.bareAt k := by
  unfold buildDependencyGraph
  rw [observe_foldl (fun r => r.bareAt k)
    (fun r plugin => bareAt_addDependencies r plugin k), bareAt_clearSets]

theorem view_foldl
    (hf : ∀ r a k, (f r a).view k = r.view k) (l : List α) (r : PluginRegistry) (k : String) :
    (l.foldl f r).view k = r.view k :=
  observe_foldl (fun r => r.view k) (fun r a => hf r a k) l r

theorem view_addDependency (id : String) (r : PluginRegistry) (depName k : String) :
    (addDependency id r depName).view k = r.view k := by
  rw [view_eq_bareAt, bareAt_addDependency, ← view_eq_bareAt]

theorem view_addDependencies (r : PluginRegistry) (plugin : RegisteredPlugin) (k : String) :
    (r.addDependencies plugin).view k = r.view k := by
  rw [view_eq_bareAt, bareAt_addDependencies, ← view_eq_bareAt]

theorem view_clearSets (r : PluginRegistry) (k : String) : r.clearSets.view k = r.view k := by
  rw [view_eq_bareAt, bareAt_clearSets, ← view_eq_bareAt]

theorem view_buildDependencyGraph (r : PluginRegistry) (k : String) :
    r.buildDependencyGraph.view k = r.view k := by
  rw [view_eq_bareAt, bareAt_buildDependencyGraph, ← view_eq_bareAt]

theorem DependenciesEnabled.buildDependencyGraph (h : r.DependenciesEnabled) :
    r.buildDependencyGraph.DependenciesEnabled :=
  h.congr (view_buildDependencyGraph r)

/-- `d` is in the set of the plugin's dependencies. -/
def Knows (r : PluginRegistry) (id d : String) : Prop :=
  ∃ plugin, r.get id = some plugin ∧ d ∈ plugin.dependencies

theorem knows_updateSets {dependents : StringSet → StringSet}
    {dependencies : List String → List String}
    (h : r.Knows q d) (hmono : ∀ s, ∀ a ∈ s, a ∈ dependencies s) (id : String) :
    (r.updateSets id dependents dependencies).Knows q d := by
  unfold updateSets
  split
  · exact h
  · next plugin hget =>
    obtain ⟨p, hp, hd⟩ := h
    have hid : plugin.id = id := id_of_get hget
    by_cases hq : q = plugin.id
    · have hplugin : plugin = p := by
        rw [hq, hid, hget] at hp
        exact Option.some.inj hp
      exact ⟨_, by rw [get_put, if_pos hq], hmono _ d (hplugin ▸ hd)⟩
    · exact ⟨p, by rw [get_put, if_neg hq, hp], hd⟩

theorem knows_addDependency (h : r.Knows q d) (id depName : String) :
    (addDependency id r depName).Knows q d := by
  unfold addDependency
  split
  · exact h
  · refine knows_updateSets (knows_updateSets h (fun s a ha => ?_) id) (fun s a ha => ha) depName
    exact mem_addToSet.mpr (Or.inl ha)

theorem knows_addDependency_self (hid : (r.view id).isSome) (hd : (r.view d).isSome) :
    (addDependency id r d).Knows id d := by
  obtain ⟨plugin, hget⟩ := Option.isSome_iff_exists.mp (Option.isSome_map.symm.trans hid)
  obtain ⟨dep, hdep⟩ := Option.isSome_iff_exists.mp (Option.isSome_map.symm.trans hd)
  unfold addDependency
  rw [hdep]
  refine knows_updateSets ?_ (fun s a ha => ha) d
  unfold updateSets
  rw [hget]
  have hself : id = plugin.id := (id_of_get hget).symm
  exact ⟨_, by rw [get_put, if_pos hself], mem_addToSet.mpr (Or.inr rfl)⟩

variable {l : List α}

theorem knows_foldl (hf : ∀ r a k, (f r a).view k = r.view k)
    (hkeeps : ∀ r a, r.Knows q d → (f r a).Knows q d)
    {r : PluginRegistry}
    (h : r.Knows q d ∨ ∃ a ∈ l, ∀ r', (∀ k, r'.view k = r.view k) → (f r' a).Knows q d) :
    (l.foldl f r).Knows q d := by
  induction l generalizing r with
  | nil => exact h.elim id fun ⟨a, ha, _⟩ => absurd ha List.not_mem_nil
  | cons b l ih =>
    rw [List.foldl_cons]
    apply ih
    rcases h with h | ⟨a, ha, hstep⟩
    · exact Or.inl (hkeeps r b h)
    · rcases List.mem_cons.mp ha with rfl | ha
      · exact Or.inl (hstep r fun _ => rfl)
      · exact Or.inr ⟨a, ha, fun r' hr' => hstep r' fun k => (hr' k).trans (hf r b k)⟩

theorem knows_addDependencies (h : r.Knows q d) (plugin : RegisteredPlugin) :
    (r.addDependencies plugin).Knows q d :=
  knows_foldl (view_addDependency plugin.id) (fun _ depName h => knows_addDependency h plugin.id depName)
    (Or.inl h)

theorem knows_addDependencies_self (hid : (r.view plugin.id).isSome) (hd : (r.view d).isSome)
    (hmem : d ∈ plugin.declared) : (r.addDependencies plugin).Knows plugin.id d := by
  refine knows_foldl (view_addDependency plugin.id)
    (fun _ depName h => knows_addDependency h plugin.id depName) (Or.inr ⟨d, hmem, fun r' hr' => ?_⟩)
  exact knows_addDependency_self (by rwa [hr']) (by rwa [hr'])

theorem knows_buildDependencyGraph (hget : r.get id = some plugin) (hmem : d ∈ plugin.declared)
    (hd : (r.get d).isSome) : r.buildDependencyGraph.Knows id d := by
  have hcleared : r.clearSets.get id =
      some { plugin with dependencies := [], dependents := .empty } := by
    show (r.plugins.mapVals _).get id = _
    rw [JsMap.get_mapVals]
    exact congrArg (Option.map _) hget
  have hview (k : String) (hk : (r.get k).isSome) : (r.clearSets.view k).isSome := by
    rwa [view_clearSets, view, Option.isSome_map]
  have hid : plugin.id = id := id_of_get hget
  refine knows_foldl view_addDependencies (fun _ p h => knows_addDependencies h p) (Or.inr
    ⟨{ plugin with dependencies := [], dependents := .empty }, ?_, fun r' hr' => ?_⟩)
  · exact List.mem_map_of_mem (f := Prod.snd) (JsMap.mem_entries_iff _ |>.mpr hcleared)
  · have hself : (r'.view plugin.id).isSome := by
      rw [hr', hid]
      exact hview id (by rw [hget]; rfl)
    have hdep : (r'.view d).isSome := by
      rw [hr']
      exact hview d hd
    rw [← hid]
    exact knows_addDependencies_self hself hdep hmem

variable {satisfies : String → String → Bool}

variable {order : List RegisteredPlugin}

variable {p : RegisteredPlugin}

end OpnetNode.PluginRegistry
