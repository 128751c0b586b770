import OpnetNode.Plugins.Equiv.PluginRegistry
import OpnetNode.TopologicalSort

/-!
# The load order of the plugins

`buildDependencyGraph` records the declared dependencies that are registered, and no others
(`recorded_iff`). The two searches of the registry are those of `TopologicalSort` on this graph.

* `resolveDependencies_spec`: when the order is found, and what it is.
-/

namespace OpnetNode.PluginRegistry

open Relation TopologicalSort

variable {r : PluginRegistry} {id d : String} {plugin : RegisteredPlugin}

/-! ### The graph -/

/-- What is recorded is declared and registered. -/
def Justified (r : PluginRegistry) : Prop :=
  ∀ id plugin, r.get id = some plugin →
    ∀ d ∈ plugin.dependencies, d ∈ plugin.declared ∧ (r.get d).isSome

theorem justified_clearSets (r : PluginRegistry) : r.clearSets.Justified := by
  intro id plugin hget d hd
  replace hget : (r.plugins.mapVals _).get id = some plugin := hget
  rw [JsMap.get_mapVals] at hget
  obtain ⟨_, -, rfl⟩ := Option.map_eq_some_iff.mp hget
  exact absurd hd List.not_mem_nil

theorem Justified.addDependency (h : r.Justified)
    (hdeclared : ∀ plugin, r.get id = some plugin → d ∈ plugin.declared) :
    (addDependency id r d).Justified := by
  have hsome : ∀ k, ((PluginRegistry.addDependency id r d).get k).isSome = (r.get k).isSome := by
    intro k
    have hview := congrArg Option.isSome (view_addDependency id r d k)
    rwa [view, view, Option.isSome_map, Option.isSome_map] at hview
  intro k p hget d' hd'
  rw [hsome]
  unfold PluginRegistry.addDependency at hget
  cases hdep : r.get d with
  | none =>
    rw [hdep] at hget
    exact h k p hget d' hd'
  | some dep =>
    rw [hdep] at hget
    replace hget : ((r.updateSets id (fun s => s) (addToSet · d)).updateSets d (·.add id)
      (fun s => s)).get k = some p := hget
    rw [get_updateSets, get_updateSets, Option.map_map] at hget
    obtain ⟨plugin, hplugin, rfl⟩ := Option.map_eq_some_iff.mp hget
    -- the second update has no part in the dependencies
    have hdependencies : d' ∈ plugin.dependencies ∨ (k = id ∧ d' = d) := by
      simp only [Function.comp_apply] at hd'
      split_ifs at hd' with hkd hkid hkid
      · rcases mem_addToSet.mp hd' with hd' | hd'
        · exact Or.inl hd'
        · exact Or.inr ⟨hkid, hd'⟩
      · exact Or.inl hd'
      · rcases mem_addToSet.mp hd' with hd' | hd'
        · exact Or.inl hd'
        · exact Or.inr ⟨hkid, hd'⟩
      · exact Or.inl hd'
    have hsame : ∀ p : RegisteredPlugin, p.file = plugin.file → p.declared = plugin.declared :=
      fun p hp => congrArg (fun file : ParsedPluginFile => file.metadata.dependencies.map Prod.fst) hp
    rw [hsame _ (by simp only [Function.comp_apply]; split_ifs <;> rfl)]
    rcases hdependencies with hd' | ⟨rfl, rfl⟩
    · exact h k plugin hplugin d' hd'
    · exact ⟨hdeclared plugin hplugin, by rw [hdep]; rfl⟩

variable {α : Type} {l : List α}

theorem justified_foldl {f : PluginRegistry → α → PluginRegistry}
    (hview : ∀ r a k, (f r a).view k = r.view k) {r : PluginRegistry}
    (hf : ∀ r', (∀ k, r'.view k = r.view k) → ∀ a ∈ l, r'.Justified → (f r' a).Justified)
    (h : r.Justified) : (l.foldl f r).Justified := by
  induction l generalizing r with
  | nil => exact h
  | cons a l ih =>
    rw [List.foldl_cons]
    apply ih
    · intro r' hr' b hb
      exact hf r' (fun k => (hr' k).trans (hview r a k)) b (List.mem_cons_of_mem a hb)
    · exact hf r (fun _ => rfl) a List.mem_cons_self h

theorem Justified.addDependencies (h : r.Justified)
    (hplugin : ∀ p, r.get plugin.id = some p → p.declared = plugin.declared) :
    (r.addDependencies plugin).Justified := by
  apply justified_foldl (view_addDependency plugin.id) _ h
  intro r' hr' d hd h'
  apply h'.addDependency
  intro p hget
  have hview := hr' plugin.id
  rw [view, hget, Option.map_some, view] at hview
  obtain ⟨p₀, hget₀, heq⟩ := Option.map_eq_some_iff.mp hview.symm
  rw [← (Prod.mk.inj heq).2, hplugin p₀ hget₀]
  exact hd

theorem justified_buildDependencyGraph (r : PluginRegistry) : r.buildDependencyGraph.Justified := by
  apply justified_foldl view_addDependencies _ (justified_clearSets r)
  intro r' hr' plugin hmem h'
  apply h'.addDependencies
  intro p hget
  obtain ⟨⟨k, _⟩, hentry, rfl⟩ := List.mem_map.mp hmem
  have hcleared : r.clearSets.get k = some _ := r.clearSets.plugins.mem_entries_iff.mp hentry
  rw [id_of_get hcleared] at hget
  have hview := hr' k
  rw [view, hget, view, hcleared, Option.map_some, Option.map_some] at hview
  exact (Prod.mk.inj (Option.some.inj hview)).2

theorem isSome_get_buildDependencyGraph (r : PluginRegistry) (k : String) :
    (r.buildDependencyGraph.get k).isSome = (r.get k).isSome := by
  have hview := congrArg Option.isSome (view_buildDependencyGraph r k)
  rwa [view, view, Option.isSome_map, Option.isSome_map] at hview

/-- **The graph records the declared dependencies that are registered.** -/
theorem recorded_iff (hget : r.buildDependencyGraph.get id = some plugin) :
    d ∈ plugin.dependencies ↔ d ∈ plugin.declared ∧ (r.get d).isSome := by
  constructor
  · intro hd
    have hjustified := justified_buildDependencyGraph r id plugin hget d hd
    rwa [isSome_get_buildDependencyGraph] at hjustified
  · rintro ⟨hdeclared, hd⟩
    have hview := view_buildDependencyGraph r id
    rw [view, hget, Option.map_some, view] at hview
    obtain ⟨plugin₀, hget₀, heq⟩ := Option.map_eq_some_iff.mp hview.symm
    rw [← (Prod.mk.inj heq).2] at hdeclared
    obtain ⟨plugin', hget', hknows⟩ := knows_buildDependencyGraph hget₀ hdeclared hd
    obtain rfl : plugin = plugin' := Option.some.inj (hget.symm.trans hget')
    exact hknows

/-! ### The searches -/

def recordedDependencies (r : PluginRegistry) (id : String) : List String :=
  match r.get id with
  | none => []
  | some plugin => plugin.dependencies

/-- The error for a cycle that closes at `depId`. -/
def cycleError (path : List String) (depId : String) : String :=
  let cycle := " -> ".intercalate (path.drop (path.idxOf depId) ++ [depId])
  s!"Circular dependency detected: {cycle}"

theorem detectCyclesFrom_eq (r : PluginRegistry) (n : ℕ) (path : List String) (id : String)
    (visited : List String) :
    r.detectCyclesFrom n path id visited =
      findCycle r.recordedDependencies cycleError n path id visited := by
  induction n generalizing path id visited with
  | zero => rfl
  | succ n ih =>
    unfold detectCyclesFrom findCycle
    show List.foldlM _ _ _ = _
    congr 1
    funext visited y
    rw [ih]
    rfl

theorem detectCycles_eq (r : PluginRegistry) :
    r.detectCycles = r.plugins.keys.foldlM
      (searchNext (findCycle r.recordedDependencies cycleError (r.plugins.size + 1) [])
        (cycleError []) []) [] := by
  unfold detectCycles
  show List.foldlM _ _ r.plugins.keys = _
  congr 1
  funext visited id
  rw [detectCyclesFrom_eq]
  unfold searchNext
  rw [if_neg (List.not_mem_nil (a := id))]

/-- A part of an order: the plugins are those registered. -/
def OfRegistry (r : PluginRegistry) (order : List RegisteredPlugin) : Prop :=
  ∀ plugin ∈ order, r.get plugin.id = some plugin

theorem visit_foldl {f : List RegisteredPlugin → String → List RegisteredPlugin}
    {g : List String → String → List String} (ids : List String) (order : List RegisteredPlugin)
    (hf : ∀ order, ∀ id ∈ ids, r.OfRegistry order →
      r.OfRegistry (f order id) ∧
        (f order id).map RegisteredPlugin.id = g (order.map RegisteredPlugin.id) id)
    (horder : r.OfRegistry order) :
    r.OfRegistry (ids.foldl f order) ∧
      (ids.foldl f order).map RegisteredPlugin.id =
        ids.foldl g (order.map RegisteredPlugin.id) := by
  induction ids generalizing order with
  | nil => exact ⟨horder, rfl⟩
  | cons id ids ih =>
    obtain ⟨hfirst, hmap⟩ := hf order id List.mem_cons_self horder
    rw [List.foldl_cons, List.foldl_cons, ← hmap]
    exact ih _ (fun order id' hid' => hf order id' (List.mem_cons_of_mem id hid')) hfirst

theorem visit_spec (hregistered : ∀ id, ∀ d ∈ r.recordedDependencies id, (r.get d).isSome) (n : ℕ)
    (temp : List String) {order : List RegisteredPlugin} (horder : r.OfRegistry order)
    (hid : (r.get id).isSome) :
    r.OfRegistry (r.visit n temp order id) ∧
      (r.visit n temp order id).map RegisteredPlugin.id =
        postorder r.recordedDependencies n temp (order.map RegisteredPlugin.id) id := by
  induction n generalizing temp order id with
  | zero => exact ⟨horder, rfl⟩
  | succ n ih =>
    rw [visit, postorder]
    by_cases hdone : id ∈ order.map RegisteredPlugin.id
    · rw [if_pos hdone, if_pos hdone]
      exact ⟨horder, rfl⟩
    · rw [if_neg hdone, if_neg hdone]
      by_cases hbusy : id ∈ temp
      · rw [if_pos hbusy, if_pos hbusy]
        exact ⟨horder, rfl⟩
      · rw [if_neg hbusy, if_neg hbusy]
        obtain ⟨plugin, hget⟩ := Option.isSome_iff_exists.mp hid
        have hrecorded : r.recordedDependencies id = plugin.dependencies := by
          unfold recordedDependencies
          rw [hget]
        obtain ⟨hrest, hmap⟩ := visit_foldl (f := r.visit n (id :: temp))
          (g := postorder r.recordedDependencies n (id :: temp)) plugin.dependencies order
          (fun order d hd horder => ih (id :: temp) horder
            (hregistered id d (by rwa [hrecorded]))) horder
        rw [hget, hrecorded, ← hmap]
        refine ⟨?_, ?_⟩
        · intro p hp
          rcases List.mem_append.mp hp with hp | hp
          · exact hrest p hp
          · rw [List.mem_singleton.mp hp, id_of_get hget]
            exact hget
        · rw [← id_of_get hget]
          exact List.map_append

/-! ### The order -/

def DependsOn (r : PluginRegistry) (id d : String) : Prop :=
  ∃ plugin, r.get id = some plugin ∧ d ∈ plugin.declared ∧ (r.get d).isSome

/-- Some declared dependency is missing, has an incompatible version, or lies on a cycle. -/
def Unresolvable (satisfies : String → String → Bool) (r : PluginRegistry) : Prop :=
  ∃ id plugin, r.get id = some plugin ∧ ∃ dep ∈ plugin.metadata.dependencies,
    r.get dep.1 = none ∨
    (∃ found, r.get dep.1 = some found ∧ satisfies found.metadata.version dep.2 = false) ∨
    TransGen r.DependsOn dep.1 dep.1

/-- Each registered plugin once, after its dependencies. -/
structure IsLoadOrder (r : PluginRegistry) (order : List RegisteredPlugin) : Prop where
  registered : r.OfRegistry order
  once : (order.map RegisteredPlugin.id).Perm r.plugins.keys
  before : ∀ l plugin l', order = l ++ plugin :: l' →
    ∀ d ∈ plugin.declared, d ∈ l.map RegisteredPlugin.id

theorem file_buildDependencyGraph (r : PluginRegistry) (k : String) :
    (r.buildDependencyGraph.get k).map RegisteredPlugin.file =
      (r.get k).map RegisteredPlugin.file := by
  have hfile : ∀ p : Option RegisteredPlugin,
      p.map RegisteredPlugin.file = (p.map bare).map RegisteredPlugin.file := by
    intro p
    rw [Option.map_map]
    rfl
  rw [hfile, hfile (r.get k)]
  exact congrArg _ (bareAt_buildDependencyGraph r k)

theorem exists_get_buildDependencyGraph_iff {q : ParsedPluginFile → Prop} :
    (∃ plugin, r.buildDependencyGraph.get id = some plugin ∧ q plugin.file) ↔
      ∃ plugin, r.get id = some plugin ∧ q plugin.file := by
  have hmap : ∀ p : Option RegisteredPlugin, (∃ plugin, p = some plugin ∧ q plugin.file) ↔
      ∃ file, p.map RegisteredPlugin.file = some file ∧ q file := by
    intro p
    cases p <;> simp
  rw [hmap, hmap, file_buildDependencyGraph]

theorem edge_iff {a b : String} :
    Edge r.buildDependencyGraph.recordedDependencies a b ↔ r.DependsOn a b := by
  have hrecorded : b ∈ r.buildDependencyGraph.recordedDependencies a ↔
      ∃ plugin, r.buildDependencyGraph.get a = some plugin ∧ b ∈ plugin.dependencies := by
    unfold recordedDependencies
    cases r.buildDependencyGraph.get a <;> simp
  refine hrecorded.trans (Iff.trans ?_ (exists_get_buildDependencyGraph_iff
    (q := fun file => b ∈ file.metadata.dependencies.map Prod.fst ∧ (r.get b).isSome)))
  apply exists_congr
  intro plugin
  apply and_congr_right
  exact recorded_iff

theorem exists_transGen_iff : (∃ y, TransGen r.DependsOn y y) ↔
    ∃ id plugin, r.get id = some plugin ∧ ∃ dep ∈ plugin.metadata.dependencies,
      TransGen r.DependsOn dep.1 dep.1 := by
  constructor
  · rintro ⟨y, hy⟩
    obtain ⟨d, hd, hback⟩ := TransGen.head'_iff.mp hy
    have hcycle : TransGen r.DependsOn d d := TransGen.tail' hback hd
    obtain ⟨plugin, hget, hdeclared, -⟩ := hd
    obtain ⟨dep, hdep, rfl⟩ := List.mem_map.mp hdeclared
    exact ⟨y, plugin, hget, dep, hdep, hcycle⟩
  · rintro ⟨id, plugin, -, dep, -, hcycle⟩
    exact ⟨dep.1, hcycle⟩

theorem exists_forM_eq_error_iff {f : α → Except String Unit} :
    (∃ e, l.forM f = .error e) ↔ ∃ a ∈ l, ∃ e, f a = .error e := by
  induction l with
  | nil =>
    constructor
    · rintro ⟨e, he⟩
      cases he
    · rintro ⟨a, ha, -⟩
      exact absurd ha List.not_mem_nil
  | cons a l ih =>
    show (∃ e, (f a >>= fun _ => l.forM f) = .error e) ↔ _
    cases hfirst : f a with
    | error e => exact ⟨fun _ => ⟨a, List.mem_cons_self, e, hfirst⟩, fun _ => ⟨e, rfl⟩⟩
    | ok u =>
      refine Iff.trans ih ?_
      constructor
      · rintro ⟨b, hb, he⟩
        exact ⟨b, List.mem_cons_of_mem a hb, he⟩
      · rintro ⟨b, hb, e, he⟩
        rcases List.mem_cons.mp hb with rfl | hb
        · cases hfirst.symm.trans he
        · exact ⟨b, hb, e, he⟩

variable {satisfies : String → String → Bool}

theorem exists_validateDependency_eq_error_iff {dep : String × String} :
    (∃ e, r.validateDependency satisfies dep = .error e) ↔ r.get dep.1 = none ∨
      ∃ found, r.get dep.1 = some found ∧ satisfies found.metadata.version dep.2 = false := by
  unfold validateDependency
  cases hget : r.get dep.1 with
  | none => simp
  | some found =>
    cases hsatisfies : satisfies found.metadata.version dep.2 with
    | true | false => simp [hsatisfies]

theorem exists_validateDependencies_eq_error_iff (satisfies : String → String → Bool) :
    (∃ e, r.buildDependencyGraph.validateDependencies satisfies = .error e) ↔
      ∃ id plugin, r.get id = some plugin ∧ ∃ dep ∈ plugin.metadata.dependencies,
        r.get dep.1 = none ∨
        ∃ found, r.get dep.1 = some found ∧ satisfies found.metadata.version dep.2 = false := by
  have hbad : ∀ dep : String × String,
      (∃ e, r.buildDependencyGraph.validateDependency satisfies dep = .error e) ↔
        r.get dep.1 = none ∨
        ∃ found, r.get dep.1 = some found ∧ satisfies found.metadata.version dep.2 = false := by
    intro dep
    have hnone : r.buildDependencyGraph.get dep.1 = none ↔ r.get dep.1 = none := by
      rw [← Option.isNone_iff_eq_none, ← Option.isNone_iff_eq_none, ← Option.not_isSome,
        ← Option.not_isSome, isSome_get_buildDependencyGraph]
    rw [exists_validateDependency_eq_error_iff, hnone]
    apply or_congr_right
    exact exists_get_buildDependencyGraph_iff
      (q := fun file => satisfies file.metadata.version dep.2 = false)
  unfold validateDependencies
  rw [exists_forM_eq_error_iff]
  constructor
  · rintro ⟨plugin, hmem, hfails⟩
    obtain ⟨dep, hdep, herror⟩ := exists_forM_eq_error_iff.mp hfails
    obtain ⟨⟨k, p⟩, hentry, rfl⟩ := List.mem_map.mp hmem
    have hget := (JsMap.mem_entries_iff _).mp hentry
    obtain ⟨plugin₀, hget₀, hdep⟩ := (exists_get_buildDependencyGraph_iff
      (q := fun file => dep ∈ file.metadata.dependencies)).mp ⟨p, hget, hdep⟩
    exact ⟨k, plugin₀, hget₀, dep, hdep, (hbad dep).mp herror⟩
  · rintro ⟨id, plugin, hget, dep, hdep, hwrong⟩
    obtain ⟨plugin', hget', hdep'⟩ := (exists_get_buildDependencyGraph_iff
      (q := fun file => dep ∈ file.metadata.dependencies)).mpr ⟨plugin, hget, hdep⟩
    refine ⟨plugin', ?_, exists_forM_eq_error_iff.mpr ⟨dep, hdep', (hbad dep).mpr hwrong⟩⟩
    exact List.mem_map_of_mem (f := Prod.snd) ((JsMap.mem_entries_iff _).mpr hget')

theorem mem_keys_iff_isSome {k : String} : k ∈ r.plugins.keys ↔ (r.get k).isSome :=
  r.plugins.mem_keys_iff

theorem perm_keys {ids : List String} (hnodup : ids.Nodup)
    (hids : ∀ id, id ∈ ids ↔ (r.get id).isSome) : ids.Perm r.plugins.keys :=
  (List.perm_ext_iff_of_nodup hnodup r.plugins.keys_nodup).mpr fun id =>
    (hids id).trans mem_keys_iff_isSome.symm

theorem recordedDependencies_closed (a : String) (b : String)
    (hb : b ∈ r.buildDependencyGraph.recordedDependencies a) :
    (r.buildDependencyGraph.get b).isSome := by
  obtain ⟨-, -, -, hsome⟩ := edge_iff.mp hb
  rwa [isSome_get_buildDependencyGraph]

theorem exists_detectCycles_eq_error_iff :
    (∃ e, r.buildDependencyGraph.detectCycles = .error e) ↔ ∃ y, TransGen r.DependsOn y y := by
  have hedge : Edge r.buildDependencyGraph.recordedDependencies = r.DependsOn := by
    funext a b
    exact propext edge_iff
  rw [detectCycles_eq, ← hedge]
  apply exists_foldlM_findCycle_eq_error_iff
  · intro a _ b hb
    exact mem_keys_iff_isSome.mpr (recordedDependencies_closed a b hb)
  · intro a ha
    unfold recordedDependencies
    cases hget : r.buildDependencyGraph.get a with
    | none => rfl
    | some plugin => exact absurd (mem_keys_iff_isSome.mpr (by rw [hget]; rfl)) ha
  · show (r.buildDependencyGraph.plugins.entries.map Prod.fst).length < _
    rw [List.length_map]
    exact Nat.lt_succ_self _

theorem isLoadOrder_topologicalSort (hacyclic : ¬ ∃ y, TransGen r.DependsOn y y)
    (hregistered : ∀ id plugin, r.get id = some plugin →
      ∀ d ∈ plugin.declared, (r.get d).isSome) :
    r.buildDependencyGraph.IsLoadOrder r.buildDependencyGraph.topologicalSort := by
  generalize hgraph : r.buildDependencyGraph = g
  have hclosed : ∀ id, ∀ d ∈ g.recordedDependencies id, (g.get d).isSome := by
    rw [← hgraph]
    exact recordedDependencies_closed
  have hacyclic' : ∀ y, ¬ TransGen (Edge g.recordedDependencies) y y := by
    have hedge : Edge g.recordedDependencies = r.DependsOn := by
      funext a b
      rw [← hgraph]
      exact propext edge_iff
    rw [hedge]
    exact fun y hy => hacyclic ⟨y, hy⟩
  -- the ids are sorted by priority first
  let sortedIds := g.plugins.keys.insertionSort fun a b => g.loadPriority a ≤ g.loadPriority b
  have hsorted : sortedIds.Perm g.plugins.keys := List.perm_insertionSort _ _
  have hsome : ∀ id ∈ sortedIds, (g.get id).isSome := fun id hid =>
    mem_keys_iff_isSome.mp (hsorted.mem_iff.mp hid)
  have hfuel : g.plugins.keys.length < g.plugins.size + 1 := by
    show (g.plugins.entries.map Prod.fst).length < _
    rw [List.length_map]
    exact Nat.lt_succ_self _
  obtain ⟨hof, hmap⟩ := visit_foldl (r := g) (f := g.visit (g.plugins.size + 1) [])
    (g := postorder g.recordedDependencies (g.plugins.size + 1) []) sortedIds []
    (fun order id hid horder => visit_spec hclosed _ [] horder (hsome id hid))
    (by simp [OfRegistry])
  have hkeys : ∀ a ∈ g.plugins.keys, ∀ b ∈ g.recordedDependencies a, b ∈ g.plugins.keys :=
    fun a _ b hb => mem_keys_iff_isSome.mpr (hclosed a b hb)
  have hsub : ∀ id ∈ sortedIds, id ∈ g.plugins.keys := fun id hid => hsorted.mem_iff.mp hid
  obtain ⟨hordered, hall⟩ := ordered_foldl_postorder hkeys hacyclic' hsub hfuel
  rw [List.map_nil] at hmap
  rw [← hmap] at hordered hall
  refine ⟨hof, ?_, ?_⟩
  · apply perm_keys hordered.nodup
    intro id
    constructor
    · intro hid
      obtain ⟨plugin, hmem, rfl⟩ := List.mem_map.mp hid
      rw [hof plugin hmem]
      rfl
    · exact fun hid => hall id (hsorted.mem_iff.mpr (mem_keys_iff_isSome.mpr hid))
  · intro l plugin l' heq d hd
    have hmem : plugin ∈ l ++ plugin :: l' := by simp
    have hget : r.buildDependencyGraph.get plugin.id = some plugin := by
      rw [hgraph]
      exact hof plugin (by rw [← heq] at hmem; exact hmem)
    have hregistered' : (r.get d).isSome := by
      obtain ⟨plugin₀, hget₀, hd₀⟩ := (exists_get_buildDependencyGraph_iff
        (q := fun file => d ∈ file.metadata.dependencies.map Prod.fst)).mp ⟨plugin, hget, hd⟩
      exact hregistered plugin.id plugin₀ hget₀ d hd₀
    have hrecorded : d ∈ g.recordedDependencies plugin.id := by
      rw [← hgraph]
      unfold recordedDependencies
      rw [hget]
      exact (recorded_iff hget).mpr ⟨hd, hregistered'⟩
    apply hordered.before _ plugin.id (l'.map RegisteredPlugin.id) _ d hrecorded
    have hids := congrArg (List.map RegisteredPlugin.id) heq
    rw [List.map_append, List.map_cons] at hids
    exact hids

theorem unresolvable_iff : r.Unresolvable satisfies ↔ (∃ y, TransGen r.DependsOn y y) ∨
      ∃ id plugin, r.get id = some plugin ∧ ∃ dep ∈ plugin.metadata.dependencies,
        r.get dep.1 = none ∨
        ∃ found, r.get dep.1 = some found ∧ satisfies found.metadata.version dep.2 = false := by
  rw [exists_transGen_iff]
  constructor
  · rintro ⟨id, plugin, hget, dep, hdep, hnone | hfound | hcycle⟩
    · exact Or.inr ⟨id, plugin, hget, dep, hdep, Or.inl hnone⟩
    · exact Or.inr ⟨id, plugin, hget, dep, hdep, Or.inr hfound⟩
    · exact Or.inl ⟨id, plugin, hget, dep, hdep, hcycle⟩
  · rintro (⟨id, plugin, hget, dep, hdep, hcycle⟩ | ⟨id, plugin, hget, dep, hdep, hwrong⟩)
    · exact ⟨id, plugin, hget, dep, hdep, Or.inr (Or.inr hcycle)⟩
    · exact ⟨id, plugin, hget, dep, hdep, hwrong.imp_right Or.inl⟩

/-- **The load order is found unless some dependency is missing, incompatible or on a cycle**, and
then it has each plugin once and after its dependencies; the unload order is its reverse. -/
theorem resolveDependencies_spec (satisfies : String → String → Bool) (r : PluginRegistry) :
    ((∃ e, (r.resolveDependencies satisfies).1 = .error e) ↔ r.Unresolvable satisfies) ∧
      ∀ order, (r.resolveDependencies satisfies).1 = .ok order →
        (r.resolveDependencies satisfies).2.IsLoadOrder order ∧
          (order.map RegisteredPlugin.id).Perm r.plugins.keys ∧
          (r.getUnloadOrder satisfies).1 = .ok order.reverse := by
  have hcycle := exists_detectCycles_eq_error_iff (r := r)
  have hvalid := exists_validateDependencies_eq_error_iff (r := r) satisfies
  rw [unresolvable_iff, ← hcycle, ← hvalid]
  unfold getUnloadOrder resolveDependencies loadOrder
  cases hcycles : r.buildDependencyGraph.detectCycles with
  | error e =>
    refine ⟨⟨fun _ => Or.inl ⟨e, rfl⟩, fun _ => ⟨e, rfl⟩⟩, ?_⟩
    intro order horder
    cases horder
  | ok visited =>
    cases hvalidate : r.buildDependencyGraph.validateDependencies satisfies with
    | error e =>
      refine ⟨⟨fun _ => Or.inr ⟨e, rfl⟩, fun _ => ⟨e, rfl⟩⟩, ?_⟩
      intro order horder
      cases horder
    | ok u =>
      -- no cycle and no missing dependency was found, so the sort is an order of all plugins
      have hacyclic : ¬ ∃ y, TransGen r.DependsOn y y := by
        rw [← hcycle, hcycles]
        rintro ⟨e, he⟩
        cases he
      have hregistered : ∀ id plugin, r.get id = some plugin →
          ∀ d ∈ plugin.declared, (r.get d).isSome := by
        intro id plugin hget d hd
        obtain ⟨dep, hdep, rfl⟩ := List.mem_map.mp hd
        rw [Option.isSome_iff_ne_none]
        intro hnone
        obtain ⟨e, he⟩ := hvalid.mpr ⟨id, plugin, hget, dep, hdep, Or.inl hnone⟩
        cases hvalidate.symm.trans he
      constructor
      · constructor
        · rintro ⟨e, he⟩
          cases he
        · rintro (⟨e, he⟩ | ⟨e, he⟩)
          · cases he
          · cases he
      · intro order horder
        obtain rfl : r.buildDependencyGraph.topologicalSort = order := Except.ok.inj horder
        have hsorted := isLoadOrder_topologicalSort hacyclic hregistered
        refine ⟨hsorted, hsorted.once.trans (perm_keys ?_ ?_), rfl⟩
        · exact r.buildDependencyGraph.plugins.keys_nodup
        · intro id
          rw [mem_keys_iff_isSome, isSome_get_buildDependencyGraph]

end OpnetNode.PluginRegistry
