import Mathlib.Data.Nat.Notation

/-!
# The API permissions of a plugin

What a plugin declares for the API: its HTTP routes and its WebSocket handlers.
-/

namespace OpnetNode

/-- The methods of a route. -/
inductive HttpMethod where
  | GET
  | POST
  | PUT
  | DELETE
  | PATCH
  deriving DecidableEq, Repr

def HttpMethod.text : HttpMethod → String
  | .GET => "GET"
  | .POST => "POST"
  | .PUT => "PUT"
  | .DELETE => "DELETE"
  | .PATCH => "PATCH"

/-- HTTP route definition. -/
structure IPluginRouteDefinition where
  path : String
  method : HttpMethod
  handler : String
  rateLimit : Option ℕ
  deriving DecidableEq, Repr

/-- WebSocket handler definition. -/
structure IPluginWebSocketHandler where
  opcode : String
  requestType : String
  responseType : String
  handler : String
  pushType : Option String
  deriving DecidableEq, Repr

/-- WebSocket permission configuration. -/
structure IWebSocketPermissions where
  protoFile : Option String
  protoNamespace : Option String
  handlers : Option (List IPluginWebSocketHandler)
  deriving DecidableEq, Repr

/-- API permissions. -/
structure IApiPermissions where
  addEndpoints : Bool
  addWebsocket : Bool
  basePath : Option String
  routes : Option (List IPluginRouteDefinition)
  websocket : Option IWebSocketPermissions
  deriving DecidableEq, Repr

/-- What the registries of the API read of a registered plugin. -/
structure ApiPlugin where
  id : String
  api : Option IApiPermissions
  proto : Option (List UInt8)
  deriving DecidableEq, Repr

/-- A text that counts as true: there is one, and it is not empty. -/
def presentText : Option String → Option String
  | some text => if text = "" then none else some text
  | none => none

end OpnetNode
