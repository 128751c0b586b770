import OpnetNode.JsMap
import OpnetNode.Plugins.ApiPermissions
import OpnetNode.Proc
import OpnetNode.TextDecoder

/-!
# The opcodes of the plugins

The WebSocket handlers of a plugin get opcodes from a block that is allocated to the plugin: the
requests from one range, the responses from another. The blocks come one after the other, and are not
reclaimed when a plugin is unregistered.

The protobuf library is a parameter: `parse` reads a schema, `lookupType` finds a message type in it.
-/

namespace OpnetNode

/-- The protobuf library. -/
structure Protobuf (Root MessageType : Type) where
  parse : List Char → Except String Root
  lookupType : Root → String → Except String MessageType

def PLUGIN_REQUEST_OPCODE_BASE : ℕ := 0xa0

def PLUGIN_RESPONSE_OPCODE_BASE : ℕ := 0xc0

def OPCODES_PER_PLUGIN : ℕ := 8

/-- Opcode allocation for a plugin. -/
structure IOpcodeAllocation where
  pluginId : String
  requestBase : ℕ
  responseBase : ℕ
  count : ℕ
  deriving DecidableEq, Repr

/-- Registered plugin handler. -/
structure IRegisteredHandler (MessageType : Type) where
  pluginId : String
  opcodeName : String
  requestOpcode : ℕ
  responseOpcode : ℕ
  handler : String
  requestType : MessageType
  responseType : MessageType
  pushType : Option MessageType
  deriving DecidableEq

structure PluginOpcodeRegistry (Root MessageType : Type) where
  /-- By plugin ID. -/
  allocations : JsMap String IOpcodeAllocation
  /-- By request opcode. -/
  handlers : JsMap ℕ (IRegisteredHandler MessageType)
  /-- By plugin ID. -/
  protoRoots : JsMap String Root
  nextRequestOpcode : ℕ
  nextResponseOpcode : ℕ

namespace PluginOpcodeRegistry

open Proc

variable {Root MessageType : Type}

/-- The registry that is constructed. -/
def new : PluginOpcodeRegistry Root MessageType where
  allocations := JsMap.empty
  handlers := JsMap.empty
  protoRoots := JsMap.empty
  nextRequestOpcode := PLUGIN_REQUEST_OPCODE_BASE
  nextResponseOpcode := PLUGIN_RESPONSE_OPCODE_BASE

abbrev OpcodeM (Root MessageType α : Type) := Proc (PluginOpcodeRegistry Root MessageType) String α

/-- Return a value, or throw. -/
def liftExcept {α : Type} : Except String α → OpcodeM Root MessageType α
  | .ok a => pure a
  | .error e => throw e

def isPluginOpcode (opcode : ℕ) : Bool :=
  PLUGIN_REQUEST_OPCODE_BASE ≤ opcode && opcode < 0xe0

def getHandler (s : PluginOpcodeRegistry Root MessageType) (requestOpcode : ℕ) :
    Option (IRegisteredHandler MessageType) :=
  s.handlers.get requestOpcode

def allocateOpcodes (pluginId : String) (handlerCount : ℕ) :
    OpcodeM Root MessageType IOpcodeAllocation := do
  let s ← get
  match s.allocations.get pluginId with
  | some existing => return existing
  | none => do
    let allocation : IOpcodeAllocation :=
      { pluginId
        requestBase := s.nextRequestOpcode
        responseBase := s.nextResponseOpcode
        count := min handlerCount OPCODES_PER_PLUGIN }
    modify fun s =>
      { s with
        nextRequestOpcode := s.nextRequestOpcode + OPCODES_PER_PLUGIN
        nextResponseOpcode := s.nextResponseOpcode + OPCODES_PER_PLUGIN
        allocations := s.allocations.set pluginId allocation }
    return allocation

variable (protobuf : Protobuf Root MessageType)

def loadProtoSchema (pluginId : String) (protoContent : List UInt8) : OpcodeM Root MessageType Unit :=
  match protobuf.parse (TextDecoder.decode protoContent) with
  | .ok root => modify fun s => { s with protoRoots := s.protoRoots.set pluginId root }
  | .error error => throw ("Failed to parse proto schema: Error: " ++ error)

def messageTypes (root : Root) (protoNamespace : Option String)
    (handlerDef : IPluginWebSocketHandler) :
    Except String (MessageType × MessageType × Option MessageType) := do
  let ns := match presentText protoNamespace with
    | some protoNamespace => protoNamespace ++ "."
    | none => ""
  let requestType ← protobuf.lookupType root (ns ++ handlerDef.requestType)
  let responseType ← protobuf.lookupType root (ns ++ handlerDef.responseType)
  let pushType ← match presentText handlerDef.pushType with
    | some pushType => do
      let pushType ← protobuf.lookupType root (ns ++ pushType)
      pure (some pushType)
    | none => pure none
  return (requestType, responseType, pushType)

def registerHandler (pluginId : String) (handlerDef : IPluginWebSocketHandler)
    (requestOpcode responseOpcode : ℕ) (protoNamespace : Option String) :
    OpcodeM Root MessageType (IRegisteredHandler MessageType) := do
  let s ← get
  match s.protoRoots.get pluginId with
  | none => throw ("No proto schema loaded for plugin " ++ pluginId)
  | some root => do
    let types ← liftExcept (messageTypes protobuf root protoNamespace handlerDef)
    let handler : IRegisteredHandler MessageType :=
      { pluginId
        opcodeName := handlerDef.opcode
        requestOpcode
        responseOpcode
        handler := handlerDef.handler
        requestType := types.1
        responseType := types.2.1
        pushType := types.2.2 }
    modify fun s => { s with handlers := s.handlers.set requestOpcode handler }
    return handler

/-- Register the handlers from the index `i` on; one that throws is left out. -/
def registerHandlers (allocation : IOpcodeAllocation) (pluginId : String)
    (protoNamespace : Option String) :
    ℕ → List IPluginWebSocketHandler → OpcodeM Root MessageType (List (IRegisteredHandler MessageType))
  | _, [] => return []
  | i, handlerDef :: handlerDefs => do
    let registered ← tryCatch
      (do
        let handler ← registerHandler protobuf pluginId handlerDef (allocation.requestBase + i)
          (allocation.responseBase + i) protoNamespace
        return [handler])
      (fun _ => return [])
    let rest ← registerHandlers allocation pluginId protoNamespace (i + 1) handlerDefs
    return registered ++ rest

def loadProvidedSchema (plugin : ApiPlugin) (wsConfig : IWebSocketPermissions) :
    OpcodeM Root MessageType Unit :=
  match presentText wsConfig.protoFile, plugin.proto with
  | some _, some proto => loadProtoSchema protobuf plugin.id proto
  | _, _ => pure ()

/-- Register WebSocket handlers for a plugin. -/
def registerPlugin (plugin : ApiPlugin) :
    OpcodeM Root MessageType (List (IRegisteredHandler MessageType)) :=
  match plugin.api with
  | none => return []
  | some permissions =>
    match permissions.addWebsocket, permissions.websocket with
    | true, some wsConfig =>
      match wsConfig.handlers with
      | none => return []
      | some handlers =>
        if handlers.length = 0 then return []
        else do
          loadProvidedSchema protobuf plugin wsConfig
          let allocation ← allocateOpcodes plugin.id handlers.length
          registerHandlers protobuf allocation plugin.id wsConfig.protoNamespace 0 handlers
    | _, _ => return []

def removeHandlers (allocation : IOpcodeAllocation) (handlers : JsMap ℕ (IRegisteredHandler MessageType)) :
    JsMap ℕ (IRegisteredHandler MessageType) :=
  (List.range allocation.count).foldl
    (fun handlers i => handlers.erase (allocation.requestBase + i)) handlers

def unregisterPlugin (pluginId : String) : OpcodeM Root MessageType Unit := do
  let s ← get
  match s.allocations.get pluginId with
  | none => pure ()
  | some allocation =>
    modify fun s =>
      { s with
        handlers := removeHandlers allocation s.handlers
        protoRoots := s.protoRoots.erase pluginId
        allocations := s.allocations.erase pluginId }

/-- The calls that change the registry. -/
inductive OpcodeCall where
  | registerPlugin (plugin : ApiPlugin)
  | unregisterPlugin (pluginId : String)
  deriving DecidableEq, Repr

/-- The registry after a call, which may have thrown. -/
def step (s : PluginOpcodeRegistry Root MessageType) :
    OpcodeCall → Option (PluginOpcodeRegistry Root MessageType)
  | .registerPlugin plugin => some (registerPlugin protobuf plugin s).2
  | .unregisterPlugin pluginId => some (unregisterPlugin pluginId s).2

end PluginOpcodeRegistry

end OpnetNode
