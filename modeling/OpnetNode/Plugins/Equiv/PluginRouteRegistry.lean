import Mathlib.Tactic.SplitIfs
import OpnetNode.Plugins.PluginRouteRegistry
import OpnetNode.Transition

/-!
# The routes belong to the plugins that declare them

`declared`: the routes of the plugins that are registered after some calls, each plugin with those it was
registered with last.

* `Inv`: the registry keeps the declared routes under their plugins, and under their keys.
* `separate_iff`: a registration leaves this so exactly if each of the new routes has a key of its own,
  and the plugin's routes from before are declared again.
* `routesBelong`: so it is in every run of such registrations, and of any calls to unregister.
-/

namespace OpnetNode.PluginRouteRegistry

def keyOf (route : IPluginRouteInstance) : String := routeKey route.method route.fullPath

/-! ### What is declared -/

def routesOf (apiPrefix : String) (plugin : ApiPlugin) : List IPluginRouteInstance :=
  match plugin.api with
  | none => []
  | some permissions =>
    if permissions.addEndpoints then
      (permissions.routes.getD []).map
        (instanceOf apiPrefix ((presentText permissions.basePath).getD ("/plugins/" ++ plugin.id))
          plugin.id)
    else []

/-- The routes of each registered plugin after a call. -/
def declare (apiPrefix : String) (d : String → List IPluginRouteInstance) :
    RouteCall → String → List IPluginRouteInstance
  | .registerPlugin plugin, id => if id = plugin.id then routesOf apiPrefix plugin else d id
  | .unregisterPlugin pluginId, id => if id = pluginId then [] else d id

/-- The routes of each plugin that is registered after some calls. -/
def declared (apiPrefix : String) (calls : List RouteCall) : String → List IPluginRouteInstance :=
  calls.foldl (declare apiPrefix) fun _ => []

variable {route : IPluginRouteInstance}

variable {apiPrefix : String}

theorem of_mem_routesOf {plugin : ApiPlugin} (h : route ∈ routesOf apiPrefix plugin) :
    route.pluginId = plugin.id ∧ ':' ∉ route.method.toList := by
  unfold routesOf at h
  cases hapi : plugin.api with
  | none =>
    rw [hapi] at h
    cases h
  | some permissions =>
    rw [hapi] at h
    simp only at h
    split at h
    · obtain ⟨routeDef, -, rfl⟩ := List.mem_map.mp h
      refine ⟨rfl, ?_⟩
      show ':' ∉ routeDef.method.text.toList
      cases routeDef.method <;> decide
    · cases h

theorem append_cons_inj {α : Type} {a : α} {x x' y y' : List α} (hx : a ∉ x) (hx' : a ∉ x')
    (h : x ++ a :: y = x' ++ a :: y') : x = x' ∧ y = y' := by
  induction x generalizing x' with
  | nil =>
    cases x' with
    | nil => exact ⟨rfl, (List.cons.inj h).2⟩
    | cons b x' => exact absurd (List.cons.inj h).1 (fun heq => hx' (heq ▸ List.mem_cons_self))
  | cons b x ih =>
    cases x' with
    | nil => exact absurd (List.cons.inj h).1 (fun heq => hx (heq ▸ List.mem_cons_self))
    | cons b' x' =>
      obtain ⟨rfl, hrest⟩ := List.cons.inj h
      obtain ⟨rfl, rfl⟩ := ih (List.not_mem_of_not_mem_cons hx) (List.not_mem_of_not_mem_cons hx') hrest
      exact ⟨rfl, rfl⟩

theorem routeKey_inj {method method' path path' : String} (hmethod : ':' ∉ method.toList)
    (hmethod' : ':' ∉ method'.toList) :
    routeKey method path = routeKey method' path' ↔ method = method' ∧ path = path' := by
  constructor
  · intro h
    have hlists := congrArg String.toList h
    unfold routeKey at hlists
    simp only [String.toList_append, List.append_assoc] at hlists
    have hcolon : ":".toList = [':'] := rfl
    rw [hcolon, List.singleton_append, List.singleton_append] at hlists
    obtain ⟨hfirst, hlast⟩ := append_cons_inj hmethod hmethod' hlists
    exact ⟨String.toList_inj.mp hfirst, String.toList_inj.mp hlast⟩
  · rintro ⟨rfl, rfl⟩
    rfl

/-! ### The two maps -/

theorem get_setHandlers (handlers : JsMap String IPluginRouteInstance)
    (instances : List IPluginRouteInstance) (key : String) :
    (∃ route ∈ instances, keyOf route = key ∧
      (setHandlers handlers instances).get key = some route) ∨
    ((∀ route ∈ instances, keyOf route ≠ key) ∧
      (setHandlers handlers instances).get key = handlers.get key) := by
  unfold setHandlers
  induction instances generalizing handlers with
  | nil => exact Or.inr ⟨by simp, rfl⟩
  | cons first rest ih =>
    rw [List.foldl_cons]
    rcases ih (handlers.set (keyOf first) first) with ⟨route, hmem, hkey, hget⟩ | ⟨hnone, hget⟩
    · exact Or.inl ⟨route, List.mem_cons_of_mem first hmem, hkey, hget⟩
    · rw [JsMap.get_set] at hget
      by_cases hkey : key = keyOf first
      · rw [if_pos hkey] at hget
        exact Or.inl ⟨first, List.mem_cons_self, hkey.symm, hget⟩
      · rw [if_neg hkey] at hget
        refine Or.inr ⟨?_, hget⟩
        rw [List.forall_mem_cons]
        exact ⟨fun heq => hkey heq.symm, hnone⟩

theorem get_deleteHandlers (handlers : JsMap String IPluginRouteInstance)
    (instances : List IPluginRouteInstance) (key : String) :
    (deleteHandlers handlers instances).get key =
      if key ∈ instances.map keyOf then none else handlers.get key :=
  JsMap.get_foldl_erase keyOf instances handlers key

theorem registerPlugin_eq (plugin : ApiPlugin) (s : PluginRouteRegistry) :
    ((registerPlugin plugin s).2 = s ∧ routesOf s.apiPrefix plugin = []) ∨
      (registerPlugin plugin s).2 =
        { s with
          handlers := setHandlers s.handlers (routesOf s.apiPrefix plugin)
          routes := s.routes.set plugin.id (routesOf s.apiPrefix plugin) } := by
  unfold registerPlugin routesOf
  cases plugin.api with
  | none => exact Or.inl ⟨rfl, rfl⟩
  | some permissions =>
    cases hadd : permissions.addEndpoints with
    | false =>
      left
      simp [hadd]
    | true =>
      cases hroutes : permissions.routes with
      | none =>
        left
        simp [hadd, hroutes]
      | some routes =>
        right
        simp only [hadd, hroutes]
        rfl

/-! ### The invariant -/

/-- The declared routes are kept under their plugins, and under their keys. -/
structure Inv (d : String → List IPluginRouteInstance) (s : PluginRouteRegistry) : Prop where
  routes : ∀ id, s.getPluginRoutes id = d id
  owned : ∀ id, ∀ route ∈ d id, route.pluginId = id ∧ ':' ∉ route.method.toList
  handlers : ∀ key route, s.handlers.get key = some route ↔
    route ∈ d route.pluginId ∧ keyOf route = key

theorem inv_new (apiPrefix : String) : Inv (fun _ => []) (new apiPrefix) where
  routes _ := rfl
  owned := by simp
  handlers := by simp [new]

variable {s : PluginRouteRegistry} {id : String}

variable {d : String → List IPluginRouteInstance}

theorem Inv.get_of_mem (h : Inv d s) (hmem : route ∈ d id) :
    s.handlers.get (keyOf route) = some route := by
  rw [h.handlers, (h.owned id route hmem).1]
  exact ⟨hmem, rfl⟩

theorem exists_entry
    (h : route ∈ s.getPluginRoutes id) : ∃ e ∈ s.routes.entries, e.1 = id ∧ route ∈ e.2 := by
  unfold getPluginRoutes at h
  cases hget : s.routes.get id with
  | none =>
    rw [hget] at h
    cases h
  | some instances =>
    rw [hget] at h
    exact ⟨(id, instances), s.routes.mem_entries_iff.mpr hget, rfl, h⟩

/-- What `getAllRoutes` lists. -/
theorem mem_getAllRoutes : route ∈ s.getAllRoutes ↔ ∃ id, route ∈ s.getPluginRoutes id := by
  unfold getAllRoutes
  rw [List.mem_flatten]
  constructor
  · rintro ⟨instances, hmem, hroute⟩
    obtain ⟨⟨id, _⟩, hentry, rfl⟩ := List.mem_map.mp hmem
    refine ⟨id, ?_⟩
    unfold getPluginRoutes
    rw [s.routes.mem_entries_iff.mp hentry]
    exact hroute
  · rintro ⟨id, hroute⟩
    obtain ⟨e, hentry, -, hmem⟩ := exists_entry hroute
    exact ⟨e.2, List.mem_map_of_mem (f := Prod.snd) hentry, hmem⟩

/-! ### What the routes are for -/

/-- A route is found exactly if it is declared with the method and path, and the routes that are listed
are those that can be found. -/
structure RoutesBelong (d : String → List IPluginRouteInstance) (s : PluginRouteRegistry) : Prop where
  found : ∀ method path route, ':' ∉ method.toList → (s.getRoute method path = some route ↔
    route ∈ d route.pluginId ∧ route.method = method ∧ route.fullPath = path)
  owned : ∀ id, ∀ route ∈ d id, route.pluginId = id
  listed : ∀ route, route ∈ s.getAllRoutes ↔ ∃ method path, s.getRoute method path = some route

/-- The routes of the plugins that a call is not about are found after it. -/
def KeepsOthers (d : String → List IPluginRouteInstance) (s' : PluginRouteRegistry) :
    RouteCall → Prop
  | .registerPlugin plugin => ∀ id ≠ plugin.id, ∀ route ∈ d id,
      s'.getRoute route.method route.fullPath = some route
  | .unregisterPlugin pluginId => ∀ id ≠ pluginId, ∀ route ∈ d id,
      s'.getRoute route.method route.fullPath = some route

/-- The condition of a registration: no route has the method and full path of another plugin's, nor of
another one of its own, and those that the plugin was registered with before are declared again. -/
def Separate (s : PluginRouteRegistry) : RouteCall → Prop
  | .registerPlugin plugin =>
    (∀ route ∈ routesOf s.apiPrefix plugin, ∀ e ∈ s.routes.entries, e.1 ≠ plugin.id →
      ∀ other ∈ e.2, keyOf other ≠ keyOf route) ∧
    (∀ route ∈ routesOf s.apiPrefix plugin, ∀ other ∈ routesOf s.apiPrefix plugin,
      keyOf other = keyOf route → other = route) ∧
    ∀ old ∈ s.getPluginRoutes plugin.id, ∃ route ∈ routesOf s.apiPrefix plugin,
      keyOf route = keyOf old
  | .unregisterPlugin _ => True

instance decidableSeparate (s : PluginRouteRegistry) : ∀ call, Decidable (Separate s call)
  | .registerPlugin _ => inferInstanceAs (Decidable (_ ∧ _))
  | .unregisterPlugin _ => isTrue trivial

theorem Inv.belong (h : Inv d s) : RoutesBelong d s := by
  refine ⟨?_, fun id route hmem => (h.owned id route hmem).1, ?_⟩
  · intro method path route hmethod
    show s.handlers.get (routeKey method path) = some route ↔ _
    rw [h.handlers]
    apply and_congr_right
    intro hmem
    exact routeKey_inj (h.owned _ route hmem).2 hmethod
  · intro route
    rw [mem_getAllRoutes]
    constructor
    · rintro ⟨id, hmem⟩
      rw [h.routes] at hmem
      exact ⟨route.method, route.fullPath, h.get_of_mem hmem⟩
    · rintro ⟨method, path, hget⟩
      refine ⟨route.pluginId, ?_⟩
      rw [h.routes]
      exact ((h.handlers _ route).mp hget).1

/-! ### Registrations -/

variable {d : String → List IPluginRouteInstance} {s : PluginRouteRegistry} {plugin : ApiPlugin}

/-- The plugin that a call is about. -/
def RouteCall.pluginId : RouteCall → String
  | .registerPlugin plugin => plugin.id
  | .unregisterPlugin pluginId => pluginId

variable {call : RouteCall}

theorem declare_of_ne (apiPrefix : String)
    (hid : id ≠ call.pluginId) : declare apiPrefix d call id = d id := by
  cases call with
  | registerPlugin | unregisterPlugin => exact if_neg hid

theorem declare_registerPlugin (apiPrefix : String) :
    declare apiPrefix d (.registerPlugin plugin) plugin.id = routesOf apiPrefix plugin := if_pos rfl

variable {s' : PluginRouteRegistry}

/-- A call that leaves the invariant keeps the routes of the others. -/
theorem Inv.keepsOthers (h : Inv (declare apiPrefix d call) s') : KeepsOthers d s' call := by
  have hkeeps : ∀ id ≠ call.pluginId, ∀ route ∈ d id,
      s'.getRoute route.method route.fullPath = some route := by
    intro id hid route hmem
    rw [← declare_of_ne (d := d) apiPrefix hid] at hmem
    exact h.get_of_mem hmem
  cases call with
  | registerPlugin | unregisterPlugin => exact hkeeps

/-- A registration that is separate keeps the invariant. -/
theorem Inv.registerPlugin (h : Inv d s) (hseparate : Separate s (.registerPlugin plugin)) :
    Inv (declare s.apiPrefix d (.registerPlugin plugin))
      (PluginRouteRegistry.registerPlugin plugin s).2 := by
  obtain ⟨hothers, hself, hagain⟩ := hseparate
  rcases registerPlugin_eq plugin s with ⟨hsame, hnone⟩ | hset
  · -- nothing is declared, now or before
    have hd : declare s.apiPrefix d (.registerPlugin plugin) = d := by
      funext id
      by_cases hid : id = plugin.id
      · rw [hid, declare_registerPlugin, hnone, ← h.routes]
        symm
        rw [List.eq_nil_iff_forall_not_mem]
        intro old hold
        obtain ⟨route, hroute, -⟩ := hagain old hold
        rw [hnone] at hroute
        exact absurd hroute List.not_mem_nil
      · exact declare_of_ne s.apiPrefix hid
    rw [hsame, hd]
    exact h
  · rw [hset]
    have hnew : ∀ route : IPluginRouteInstance, route.pluginId = plugin.id →
        (route ∈ declare s.apiPrefix d (.registerPlugin plugin) route.pluginId ↔
          route ∈ routesOf s.apiPrefix plugin) := by
      intro route hid
      rw [hid, declare_registerPlugin]
    have hold : ∀ route : IPluginRouteInstance, route.pluginId ≠ plugin.id →
        (route ∈ declare s.apiPrefix d (.registerPlugin plugin) route.pluginId ↔
          route ∈ d route.pluginId) := by
      intro route hid
      rw [declare_of_ne s.apiPrefix hid]
    refine ⟨?_, ?_, ?_⟩
    · intro id
      show ((s.routes.set plugin.id _).get id).getD [] = _
      rw [JsMap.get_set]
      by_cases hid : id = plugin.id
      · rw [if_pos hid, hid, declare_registerPlugin]
        rfl
      · rw [if_neg hid, declare_of_ne s.apiPrefix hid]
        exact h.routes id
    · intro id route hmem
      by_cases hid : id = plugin.id
      · rw [hid, declare_registerPlugin] at hmem
        rw [hid]
        exact of_mem_routesOf hmem
      · rw [declare_of_ne s.apiPrefix hid] at hmem
        exact h.owned id route hmem
    · intro key route
      show (setHandlers s.handlers _).get key = some route ↔ _
      rcases get_setHandlers s.handlers (routesOf s.apiPrefix plugin) key with
        ⟨written, hwritten, hkey, hget⟩ | ⟨hunwritten, hget⟩
      · rw [hget]
        constructor
        · intro heq
          obtain rfl := Option.some.inj heq
          rw [hnew written (of_mem_routesOf hwritten).1]
          exact ⟨hwritten, hkey⟩
        · rintro ⟨hmem, hkey'⟩
          have hkeys : keyOf route = keyOf written := hkey'.trans hkey.symm
          by_cases hid : route.pluginId = plugin.id
          · rw [hnew route hid] at hmem
            rw [hself written hwritten route hmem hkeys]
          · rw [hold route hid, ← h.routes] at hmem
            obtain ⟨e, hentry, he, hmem⟩ := exists_entry hmem
            exact absurd hkeys (hothers written hwritten e hentry (by rwa [he]) route hmem)
      · rw [hget, h.handlers]
        by_cases hid : route.pluginId = plugin.id
        · rw [hnew route hid]
          constructor
          · rintro ⟨hmem, hkey⟩
            rw [hid, ← h.routes] at hmem
            obtain ⟨again, hagain, hkey'⟩ := hagain route hmem
            exact absurd (hkey'.trans hkey) (hunwritten again hagain)
          · rintro ⟨hmem, hkey⟩
            exact absurd hkey (hunwritten route hmem)
        · rw [hold route hid]

theorem separate_of_routesBelong (h : Inv d s)
    (hbelong : RoutesBelong (declare s.apiPrefix d (.registerPlugin plugin))
      (PluginRouteRegistry.registerPlugin plugin s).2)
    (hkeeps : KeepsOthers d (PluginRouteRegistry.registerPlugin plugin s).2 (.registerPlugin plugin)) :
    Separate s (.registerPlugin plugin) := by
  -- each new route is found
  have hfound : ∀ route ∈ routesOf s.apiPrefix plugin,
      (PluginRouteRegistry.registerPlugin plugin s).2.handlers.get (keyOf route) = some route := by
    intro route hroute
    obtain ⟨hid, hmethod⟩ := of_mem_routesOf hroute
    have hget := (hbelong.found route.method route.fullPath route hmethod).mpr
    rw [hid, declare_registerPlugin] at hget
    exact hget ⟨hroute, rfl, rfl⟩
  refine ⟨?_, ?_, ?_⟩
  · intro route hroute e hentry hne other hother hkey
    have hmem : other ∈ d e.1 := by
      rw [← h.routes]
      unfold getPluginRoutes
      rw [s.routes.mem_entries_iff.mp hentry]
      exact hother
    have hget : (PluginRouteRegistry.registerPlugin plugin s).2.handlers.get (keyOf other) =
        some other := hkeeps e.1 hne other hmem
    rw [hkey, hfound route hroute] at hget
    cases hget
    exact hne ((h.owned e.1 route hmem).1.symm.trans (of_mem_routesOf hroute).1)
  · intro route hroute other hother hkey
    have hget := hfound other hother
    rw [hkey, hfound route hroute] at hget
    exact (Option.some.inj hget).symm
  · intro old hold
    rw [h.routes] at hold
    obtain ⟨hid, hmethod⟩ := h.owned plugin.id old hold
    by_contra hnone
    have hstale : (PluginRouteRegistry.registerPlugin plugin s).2.handlers.get (keyOf old) =
        some old := by
      rcases registerPlugin_eq plugin s with ⟨hsame, -⟩ | hset
      · rw [hsame]
        exact h.get_of_mem hold
      · rw [hset]
        rcases get_setHandlers s.handlers (routesOf s.apiPrefix plugin) (keyOf old) with
          ⟨route, hroute, hkey, -⟩ | ⟨-, hget⟩
        · exact absurd ⟨route, hroute, hkey⟩ hnone
        · exact hget.trans (h.get_of_mem hold)
    have hmem := ((hbelong.found old.method old.fullPath old hmethod).mp hstale).1
    rw [hid, declare_registerPlugin] at hmem
    exact hnone ⟨old, hmem, rfl⟩

theorem Inv.unregisterPlugin (h : Inv d s) (apiPrefix pluginId : String) :
    Inv (declare apiPrefix d (.unregisterPlugin pluginId))
      (PluginRouteRegistry.unregisterPlugin pluginId s) := by
  have hd : ∀ id, declare apiPrefix d (.unregisterPlugin pluginId) id =
      if id = pluginId then [] else d id := fun _ => rfl
  have hroutes := h.routes pluginId
  unfold getPluginRoutes at hroutes
  unfold PluginRouteRegistry.unregisterPlugin
  cases hget : s.routes.get pluginId with
  | none =>
    rw [hget, Option.getD_none] at hroutes
    have hsame : declare apiPrefix d (.unregisterPlugin pluginId) = d := by
      funext id
      rw [hd]
      split
      · rename_i hid
        rw [hid]
        exact hroutes
      · rfl
    rw [hsame]
    exact h
  | some instances =>
    rw [hget, Option.getD_some] at hroutes
    refine ⟨?_, ?_, ?_⟩
    · intro id
      show ((s.routes.erase pluginId).get id).getD [] = _
      rw [JsMap.get_erase, hd]
      split
      · rfl
      · exact h.routes id
    · intro id route hmem
      rw [hd] at hmem
      split at hmem
      · cases hmem
      · exact h.owned id route hmem
    · intro key route
      show (deleteHandlers s.handlers instances).get key = some route ↔ _
      rw [get_deleteHandlers, hd, hroutes]
      by_cases hkey : key ∈ (d pluginId).map keyOf
      · rw [if_pos hkey]
        obtain ⟨removed, hremoved, rfl⟩ := List.mem_map.mp hkey
        constructor
        · intro heq
          cases heq
        · rintro ⟨hmem, hkeys⟩
          split at hmem
          · cases hmem
          · rename_i hid
            -- the other plugin's route would be the removed one
            have hsame := h.get_of_mem hmem
            rw [hkeys, h.get_of_mem hremoved] at hsame
            rw [← Option.some.inj hsame] at hid
            exact absurd (h.owned pluginId removed hremoved).1 hid
      · rw [if_neg hkey, h.handlers]
        by_cases hid : route.pluginId = pluginId
        · rw [if_pos hid]
          constructor
          · rintro ⟨hmem, rfl⟩
            rw [hid] at hmem
            exact absurd (List.mem_map_of_mem hmem) hkey
          · rintro ⟨hmem, -⟩
            cases hmem
        · rw [if_neg hid]

/-! ### Runs -/

/-- A call is separate exactly if the routes belong to their plugins after it. -/
theorem separate_iff (h : Inv d s) (hstep : step s call = some s') : (Separate s call ↔
      RoutesBelong (declare s.apiPrefix d call) s' ∧ KeepsOthers d s' call) ∧
      (Separate s call → Inv (declare s.apiPrefix d call) s') := by
  have hinv : Separate s call → Inv (declare s.apiPrefix d call) s' := by
    intro hseparate
    cases call with
    | registerPlugin plugin =>
      cases hstep
      exact h.registerPlugin hseparate
    | unregisterPlugin pluginId =>
      cases hstep
      exact h.unregisterPlugin s.apiPrefix pluginId
  refine ⟨⟨fun hseparate => ?_, fun ⟨hbelong, hkeeps⟩ => ?_⟩, hinv⟩
  · exact ⟨(hinv hseparate).belong, (hinv hseparate).keepsOthers⟩
  · cases call with
    | registerPlugin plugin =>
      cases hstep
      exact separate_of_routesBelong h hbelong hkeeps
    | unregisterPlugin pluginId => trivial

theorem apiPrefix_step (hstep : step s call = some s') : s'.apiPrefix = s.apiPrefix := by
  cases call with
  | registerPlugin plugin =>
    cases hstep
    rcases registerPlugin_eq plugin s with ⟨hsame, -⟩ | hset
    · rw [hsame]
    · rw [hset]
  | unregisterPlugin pluginId =>
    cases hstep
    unfold PluginRouteRegistry.unregisterPlugin
    cases s.routes.get pluginId <;> rfl

theorem inv_runFrom {calls : List RouteCall} {t : PluginRouteRegistry} (h : Inv d s)
    (hseparate : Meets step Separate s calls) (hrun : runFrom step s calls = some t) :
    Inv (calls.foldl (declare s.apiPrefix) d) t := by
  induction calls generalizing d s with
  | nil =>
    cases hrun
    exact h
  | cons call calls ih =>
    rw [runFrom_cons, Option.bind_eq_some_iff] at hrun
    obtain ⟨s', hstep, hrest⟩ := hrun
    have hnext := ih ((separate_iff h hstep).2 hseparate.1) (hseparate.2 s' hstep) hrest
    rw [apiPrefix_step hstep] at hnext
    exact hnext

/-- **The routes belong to the plugins that declare them**, in every run of separate calls. -/
theorem routesBelong {apiPrefix : String} {calls : List RouteCall} {s : PluginRouteRegistry}
    (hseparate : Meets step Separate (new apiPrefix) calls)
    (hrun : runFrom step (new apiPrefix) calls = some s) :
    RoutesBelong (declared apiPrefix calls) s ∧
      ∀ call s', Separate s call → step s call = some s' →
        KeepsOthers (declared apiPrefix calls) s' call := by
  have hinv := inv_runFrom (inv_new apiPrefix) hseparate hrun
  replace hinv : Inv (declared apiPrefix calls) s := hinv
  refine ⟨hinv.belong, fun call s' hcall hstep => ?_⟩
  exact ((separate_iff hinv hstep).1.mp hcall).2

def pluginAt (id basePath path : String) : ApiPlugin where
  id
  api := some
    { addEndpoints := true
      addWebsocket := false
      basePath := some basePath
      routes := some [⟨path, .GET, "handle", none⟩]
      websocket := none }
  proto := none

def after (calls : List RouteCall) : PluginRouteRegistry :=
  calls.foldl (fun s call => (step s call).getD s) (new "/api/v1")

theorem runFrom_eq_after (calls : List RouteCall) :
    runFrom step (new "/api/v1") calls = some (after calls) := by
  have hrun : ∀ s, runFrom step s calls =
      some (calls.foldl (fun s call => (step s call).getD s) s) := by
    induction calls with
    | nil => exact fun _ => rfl
    | cons call calls ih =>
      intro s
      cases call with
      | registerPlugin | unregisterPlugin => exact ih _
  exact hrun _

/-- Two plugins, one of which is reloaded. -/
theorem routesBelong_reloaded :
    RoutesBelong
      (declared "/api/v1" [.registerPlugin (pluginAt "a" "/a" "x"),
        .registerPlugin (pluginAt "b" "/b" "x"), .unregisterPlugin "a",
        .registerPlugin (pluginAt "a" "/a" "y")])
      (after [.registerPlugin (pluginAt "a" "/a" "x"), .registerPlugin (pluginAt "b" "/b" "x"),
        .unregisterPlugin "a", .registerPlugin (pluginAt "a" "/a" "y")]) :=
  (@routesBelong "/api/v1" [.registerPlugin (pluginAt "a" "/a" "x"),
    .registerPlugin (pluginAt "b" "/b" "x"), .unregisterPlugin "a",
    .registerPlugin (pluginAt "a" "/a" "y")] _ (by decide) (runFrom_eq_after _)).1

/-- Two plugins declare the same route: the second one takes it over, and when it is unregistered the
route is gone, although it is still listed. -/
theorem not_routesBelong_coinciding :
    ¬ KeepsOthers (declared "/api/v1" [.registerPlugin (pluginAt "a" "/shared" "x")])
        (after [.registerPlugin (pluginAt "a" "/shared" "x"),
          .registerPlugin (pluginAt "b" "/shared/" "x")])
        (.registerPlugin (pluginAt "b" "/shared/" "x")) ∧
      ¬ RoutesBelong
        (declared "/api/v1" [.registerPlugin (pluginAt "a" "/shared" "x"),
          .registerPlugin (pluginAt "b" "/shared/" "x"), .unregisterPlugin "b"])
        (after [.registerPlugin (pluginAt "a" "/shared" "x"),
          .registerPlugin (pluginAt "b" "/shared/" "x"), .unregisterPlugin "b"]) := by
  let route : IPluginRouteInstance := ⟨"a", "x", "GET", "handle", "/api/v1/shared/x", none⟩
  refine ⟨fun h => ?_, fun h => ?_⟩
  · exact absurd (h "a" (by decide) route (by decide)) (by decide)
  · have hfound := (h.found "GET" "/api/v1/shared/x" route (by decide)).mpr
      ⟨by decide, rfl, rfl⟩
    exact absurd hfound (by decide)

end OpnetNode.PluginRouteRegistry
