import OpnetNode.JsMap
import OpnetNode.Plugins.ApiPermissions

/-!
# The routes of the plugins

The registry keeps the routes that a plugin declares under the plugin, and each of them under its method
and full path. The plugin chooses the base path of its full paths.
-/

namespace OpnetNode

/-- Route instance for a plugin. -/
structure IPluginRouteInstance where
  pluginId : String
  path : String
  method : String
  handler : String
  fullPath : String
  rateLimit : Option ℕ
  deriving DecidableEq, Repr

structure PluginRouteRegistry where
  apiPrefix : String
  /-- By plugin ID. -/
  routes : JsMap String (List IPluginRouteInstance)
  /-- By method and full path. -/
  handlers : JsMap String IPluginRouteInstance
  deriving DecidableEq

namespace PluginRouteRegistry

/-- The registry that is constructed. -/
def new (apiPrefix : String) : PluginRouteRegistry := ⟨apiPrefix, JsMap.empty, JsMap.empty⟩

/-- Replace the slashes that follow each other by one: `replace(/\/+/g, '/')`. -/
def singleSlashes : List Char → List Char
  | [] => []
  | c :: text =>
    if c = '/' ∧ text.head? = some '/' then singleSlashes text else c :: singleSlashes text

def routeKey (method fullPath : String) : String := method ++ ":" ++ fullPath

def instanceOf (apiPrefix basePath pluginId : String) (routeDef : IPluginRouteDefinition) :
    IPluginRouteInstance where
  pluginId
  path := routeDef.path
  method := routeDef.method.text
  handler := routeDef.handler
  fullPath :=
    String.ofList (singleSlashes (apiPrefix ++ basePath ++ "/" ++ routeDef.path).toList)
  rateLimit := routeDef.rateLimit

/-- Write the instances under their keys. -/
def setHandlers (handlers : JsMap String IPluginRouteInstance)
    (instances : List IPluginRouteInstance) : JsMap String IPluginRouteInstance :=
  instances.foldl
    (fun handlers route => handlers.set (routeKey route.method route.fullPath) route) handlers

/-- Remove the instances under their keys. -/
def deleteHandlers (handlers : JsMap String IPluginRouteInstance)
    (instances : List IPluginRouteInstance) : JsMap String IPluginRouteInstance :=
  instances.foldl
    (fun handlers route => handlers.erase (routeKey route.method route.fullPath)) handlers

def registerPlugin (plugin : ApiPlugin) (s : PluginRouteRegistry) :
    List IPluginRouteInstance × PluginRouteRegistry :=
  match plugin.api with
  | none => ([], s)
  | some permissions =>
    match permissions.addEndpoints, permissions.routes with
    | true, some routes =>
      let basePath := (presentText permissions.basePath).getD ("/plugins/" ++ plugin.id)
      let instances := routes.map (instanceOf s.apiPrefix basePath plugin.id)
      (instances,
        { s with
          handlers := setHandlers s.handlers instances
          routes := s.routes.set plugin.id instances })
    | _, _ => ([], s)

def unregisterPlugin (pluginId : String) (s : PluginRouteRegistry) : PluginRouteRegistry :=
  match s.routes.get pluginId with
  | none => s
  | some instances =>
    { s with
      handlers := deleteHandlers s.handlers instances
      routes := s.routes.erase pluginId }

def getPluginRoutes (s : PluginRouteRegistry) (pluginId : String) : List IPluginRouteInstance :=
  (s.routes.get pluginId).getD []

def getAllRoutes (s : PluginRouteRegistry) : List IPluginRouteInstance := s.routes.vals.flatten

def getRoute (s : PluginRouteRegistry) (method path : String) : Option IPluginRouteInstance :=
  s.handlers.get (routeKey method path)

/-- The calls that change the registry. -/
inductive RouteCall where
  | registerPlugin (plugin : ApiPlugin)
  | unregisterPlugin (pluginId : String)
  deriving DecidableEq, Repr

def step (s : PluginRouteRegistry) : RouteCall → Option PluginRouteRegistry
  | .registerPlugin plugin => some (registerPlugin plugin s).2
  | .unregisterPlugin pluginId => some (unregisterPlugin pluginId s)

end PluginRouteRegistry

end OpnetNode
