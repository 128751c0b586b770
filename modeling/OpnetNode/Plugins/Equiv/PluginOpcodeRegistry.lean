import Mathlib.Tactic.SplitIfs
import OpnetNode.Plugins.PluginOpcodeRegistry
import OpnetNode.Transition

/-!
# The opcodes of different plugins do not collide

A registration writes the handlers whose message types are found, one after the other from the base of
the plugin's allocation (`registerPlugin_spec`).

* `Inv`: the allocations are blocks of opcodes, and each handler lies in the block of its plugin.
* `within_iff`: a call leaves this so exactly if no handler gets an index beyond the block or an opcode
  beyond the range of the requests, and an unregistered plugin has no handler beyond its count.
* `opcodesNeverCollide`: so it is in every run of such calls.
-/

namespace OpnetNode.PluginOpcodeRegistry

open Proc

variable {Root MessageType : Type} (protobuf : Protobuf Root MessageType)

/-! ### What a registration writes -/

/-- The WebSocket permissions that a registration goes by. -/
def wsConfigOf (plugin : ApiPlugin) : Option IWebSocketPermissions :=
  plugin.api.bind fun permissions => if permissions.addWebsocket then permissions.websocket else none

def handlerDefs (plugin : ApiPlugin) : List IPluginWebSocketHandler :=
  ((wsConfigOf plugin).bind IWebSocketPermissions.handlers).getD []

/-- The schema of a plugin: the one that comes with it, if it can be read, or the one from before. -/
def schema (s : PluginOpcodeRegistry Root MessageType) (plugin : ApiPlugin)
    (wsConfig : IWebSocketPermissions) : Option Root :=
  match presentText wsConfig.protoFile, plugin.proto with
  | some _, some proto => (protobuf.parse (TextDecoder.decode proto)).toOption
  | _, _ => s.protoRoots.get plugin.id

/-- The message types of the handler with an index, if they are found. -/
def typesAt (s : PluginOpcodeRegistry Root MessageType) (plugin : ApiPlugin) (i : ℕ) :
    Option (MessageType × MessageType × Option MessageType) := do
  let wsConfig ← wsConfigOf plugin
  let root ← schema protobuf s plugin wsConfig
  let handlerDef ← (handlerDefs plugin)[i]?
  (messageTypes protobuf root wsConfig.protoNamespace handlerDef).toOption

/-- The allocation of a plugin: the one that it has, or a new one. -/
def allocationFor (s : PluginOpcodeRegistry Root MessageType) (plugin : ApiPlugin) :
    IOpcodeAllocation :=
  (s.allocations.get plugin.id).getD
    { pluginId := plugin.id
      requestBase := s.nextRequestOpcode
      responseBase := s.nextResponseOpcode
      count := min (handlerDefs plugin).length OPCODES_PER_PLUGIN }

/-- The handler that is registered under an index of an allocation. -/
def handlerOf (allocation : IOpcodeAllocation) (pluginId : String) (protoNamespace : Option String)
    (root : Option Root) (i : ℕ) (handlerDef : IPluginWebSocketHandler) :
    Option (IRegisteredHandler MessageType) := do
  let root ← root
  let types ← (messageTypes protobuf root protoNamespace handlerDef).toOption
  return {
    pluginId
    opcodeName := handlerDef.opcode
    requestOpcode := allocation.requestBase + i
    responseOpcode := allocation.responseBase + i
    handler := handlerDef.handler
    requestType := types.1
    responseType := types.2.1
    pushType := types.2.2 }

/-- Write a handler, if there is one. -/
def setHandler (opcode : ℕ) (handler : Option (IRegisteredHandler MessageType))
    (handlers : JsMap ℕ (IRegisteredHandler MessageType)) :
    JsMap ℕ (IRegisteredHandler MessageType) :=
  handler.elim handlers (handlers.set opcode)

theorem get_setHandler (opcode opcode' : ℕ) (handler : Option (IRegisteredHandler MessageType))
    (handlers : JsMap ℕ (IRegisteredHandler MessageType)) :
    (setHandler opcode handler handlers).get opcode' =
      (if opcode' = opcode then handler else none).or (handlers.get opcode') := by
  cases handler with
  | none => simp [setHandler]
  | some handler =>
    show (handlers.set opcode handler).get opcode' = _
    rw [JsMap.get_set]
    split <;> simp

theorem tryRegisterHandler_eq (allocation : IOpcodeAllocation) (pluginId : String)
    (protoNamespace : Option String) (i : ℕ) (handlerDef : IPluginWebSocketHandler)
    (s : PluginOpcodeRegistry Root MessageType) :
    ∃ registered, tryCatch
      (do
        let handler ← registerHandler protobuf pluginId handlerDef (allocation.requestBase + i)
          (allocation.responseBase + i) protoNamespace
        return [handler])
      (fun _ => return []) s = (.ok registered, { s with
        handlers := setHandler (allocation.requestBase + i)
          (handlerOf protobuf allocation pluginId protoNamespace (s.protoRoots.get pluginId) i
            handlerDef) s.handlers }) := by
  unfold registerHandler
  cases hroot : s.protoRoots.get pluginId with
  | none =>
    refine ⟨[], ?_⟩
    show catchResult _ (bindResult _ (bindResult _ (.ok s, s))) = _
    rw [bindResult_ok]
    simp only [hroot]
    rfl
  | some root =>
    cases htypes : messageTypes protobuf root protoNamespace handlerDef with
    | error e =>
      have hhandler : handlerOf protobuf allocation pluginId protoNamespace (some root) i handlerDef =
          none := by
        simp only [handlerOf, Option.bind_eq_bind, Option.bind_some, htypes]
        rfl
      refine ⟨[], ?_⟩
      rw [hhandler]
      show catchResult _ (bindResult _ (bindResult _ (.ok s, s))) = _
      rw [bindResult_ok]
      simp only [hroot, htypes]
      rfl
    | ok types =>
      let handler : IRegisteredHandler MessageType :=
        ⟨pluginId, handlerDef.opcode, allocation.requestBase + i, allocation.responseBase + i,
          handlerDef.handler, types.1, types.2.1, types.2.2⟩
      have hhandler : handlerOf protobuf allocation pluginId protoNamespace (some root) i handlerDef =
          some handler := by
        simp only [handlerOf, Option.bind_eq_bind, Option.bind_some, htypes]
        rfl
      refine ⟨[handler], ?_⟩
      rw [hhandler]
      show catchResult _ (bindResult _ (bindResult _ (.ok s, s))) = _
      rw [bindResult_ok]
      simp only [hroot, htypes]
      rfl

/-- The handler that the loop writes under an opcode, from the index `i` on. -/
def written (allocation : IOpcodeAllocation) (pluginId : String) (protoNamespace : Option String)
    (root : Option Root) (handlerDefs : List IPluginWebSocketHandler) (i opcode : ℕ) :
    Option (IRegisteredHandler MessageType) :=
  if allocation.requestBase + i ≤ opcode then
    (handlerDefs[opcode - (allocation.requestBase + i)]?).bind
      (handlerOf protobuf allocation pluginId protoNamespace root (opcode - allocation.requestBase))
  else none

theorem written_cons (allocation : IOpcodeAllocation) (pluginId : String)
    (protoNamespace : Option String) (root : Option Root) (handlerDef : IPluginWebSocketHandler)
    (handlerDefs : List IPluginWebSocketHandler) (i opcode : ℕ) :
    written protobuf allocation pluginId protoNamespace root (handlerDef :: handlerDefs) i opcode =
      (written protobuf allocation pluginId protoNamespace root handlerDefs (i + 1) opcode).or
        (if opcode = allocation.requestBase + i then
          handlerOf protobuf allocation pluginId protoNamespace root i handlerDef else none) := by
  unfold written
  rcases Nat.lt_trichotomy opcode (allocation.requestBase + i) with hlt | rfl | hgt
  · rw [if_neg (by omega), if_neg (by omega), if_neg (by omega)]
    rfl
  · rw [if_pos (by omega), if_neg (by omega), if_pos rfl]
    simp
  · obtain ⟨j, rfl⟩ := Nat.exists_eq_add_of_lt hgt
    rw [if_pos (by omega), if_pos (by omega), if_neg (by omega)]
    have hindex : allocation.requestBase + i + j + 1 - (allocation.requestBase + i) = j + 1 := by
      omega
    have hindex' : allocation.requestBase + i + j + 1 - (allocation.requestBase + (i + 1)) = j := by
      omega
    rw [hindex, hindex', List.getElem?_cons_succ, Option.or_none]

theorem registerHandlers_spec (allocation : IOpcodeAllocation) (pluginId : String)
    (protoNamespace : Option String) (i : ℕ) (handlerDefs : List IPluginWebSocketHandler)
    (s : PluginOpcodeRegistry Root MessageType) :
    ∃ registered handlers,
      registerHandlers protobuf allocation pluginId protoNamespace i handlerDefs s =
        (.ok registered, { s with handlers }) ∧
      ∀ opcode, handlers.get opcode =
        (written protobuf allocation pluginId protoNamespace (s.protoRoots.get pluginId) handlerDefs
          i opcode).or (s.handlers.get opcode) := by
  induction handlerDefs generalizing i s with
  | nil =>
    refine ⟨[], s.handlers, rfl, ?_⟩
    intro opcode
    simp [written]
  | cons handlerDef handlerDefs ih =>
    obtain ⟨registered, hfirst⟩ :=
      tryRegisterHandler_eq protobuf allocation pluginId protoNamespace i handlerDef s
    obtain ⟨rest, handlers, hrest, hhandlers⟩ := ih (i + 1) { s with
      handlers := setHandler (allocation.requestBase + i)
        (handlerOf protobuf allocation pluginId protoNamespace (s.protoRoots.get pluginId) i
          handlerDef) s.handlers }
    refine ⟨registered ++ rest, handlers, ?_, ?_⟩
    · rw [registerHandlers]
      refine (bind_of_ok hfirst).trans ?_
      exact bind_of_ok hrest
    · intro opcode
      rw [hhandlers, get_setHandler, written_cons, Option.or_assoc]

def newHandler (s : PluginOpcodeRegistry Root MessageType) (plugin : ApiPlugin) (opcode : ℕ) :
    Option (IRegisteredHandler MessageType) := do
  let wsConfig ← wsConfigOf plugin
  written protobuf (allocationFor s plugin) plugin.id wsConfig.protoNamespace
    (schema protobuf s plugin wsConfig) (handlerDefs plugin) 0 opcode

variable {s : PluginOpcodeRegistry Root MessageType} {plugin : ApiPlugin}

variable {wsConfig : IWebSocketPermissions} {opcode : ℕ}

theorem newHandler_of_config (hconfig : wsConfigOf plugin = some wsConfig) :
    newHandler protobuf s plugin opcode =
      written protobuf (allocationFor s plugin) plugin.id wsConfig.protoNamespace
        (schema protobuf s plugin wsConfig) (handlerDefs plugin) 0 opcode := by
  unfold newHandler
  rw [hconfig]
  rfl

/-- What a registration does that goes through: it writes handlers, and allocates a block for a plugin
that has none. -/
structure Registered (plugin : ApiPlugin) (s s' : PluginOpcodeRegistry Root MessageType) : Prop where
  handlers : ∀ opcode, s'.handlers.get opcode =
    (newHandler protobuf s plugin opcode).or (s.handlers.get opcode)
  allocations : ∀ pluginId, s'.allocations.get pluginId =
    if pluginId = plugin.id then some (allocationFor s plugin) else s.allocations.get pluginId
  next : (s'.nextRequestOpcode, s'.nextResponseOpcode) =
    if (s.allocations.get plugin.id).isSome then (s.nextRequestOpcode, s.nextResponseOpcode)
    else (s.nextRequestOpcode + OPCODES_PER_PLUGIN, s.nextResponseOpcode + OPCODES_PER_PLUGIN)

/-- The state in which the plugin has its allocation. -/
def allocated (s : PluginOpcodeRegistry Root MessageType) (plugin : ApiPlugin) :
    PluginOpcodeRegistry Root MessageType :=
  if (s.allocations.get plugin.id).isSome then s
  else
    { s with
      nextRequestOpcode := s.nextRequestOpcode + OPCODES_PER_PLUGIN
      nextResponseOpcode := s.nextResponseOpcode + OPCODES_PER_PLUGIN
      allocations := s.allocations.set plugin.id (allocationFor s plugin) }

theorem allocateOpcodes_eq (plugin : ApiPlugin) (s : PluginOpcodeRegistry Root MessageType) :
    allocateOpcodes plugin.id (handlerDefs plugin).length s =
      (.ok (allocationFor s plugin), allocated s plugin) := by
  unfold allocateOpcodes allocated allocationFor
  show bindResult _ (.ok s, s) = _
  rw [bindResult_ok]
  cases s.allocations.get plugin.id with
  | none | some => rfl

theorem get_allocations_allocated (plugin : ApiPlugin) (s : PluginOpcodeRegistry Root MessageType)
    (pluginId : String) : (allocated s plugin).allocations.get pluginId =
      if pluginId = plugin.id then some (allocationFor s plugin) else s.allocations.get pluginId := by
  unfold allocated
  cases hexisting : s.allocations.get plugin.id with
  | none =>
    rw [if_neg (by simp)]
    exact JsMap.get_set s.allocations plugin.id pluginId _
  | some existing =>
    rw [if_pos Option.isSome_some]
    split
    · rename_i hid
      unfold allocationFor
      rw [hid, hexisting]
      rfl
    · rfl

theorem registered_of_run
    (hconfig : wsConfigOf plugin = some wsConfig) (s : PluginOpcodeRegistry Root MessageType)
    (protoRoots : JsMap String Root)
    (hroot : protoRoots.get plugin.id = schema protobuf s plugin wsConfig) :
    Registered protobuf plugin s
      ((do
        let allocation ← allocateOpcodes plugin.id (handlerDefs plugin).length
        registerHandlers protobuf allocation plugin.id wsConfig.protoNamespace 0
          (handlerDefs plugin) : OpcodeM Root MessageType _) { s with protoRoots }).2 := by
  let s₁ : PluginOpcodeRegistry Root MessageType := { s with protoRoots }
  have hroots : (allocated s₁ plugin).protoRoots = protoRoots := by
    unfold allocated
    split <;> rfl
  have hbefore : (allocated s₁ plugin).handlers = s.handlers := by
    unfold allocated
    split <;> rfl
  obtain ⟨registered, handlers, hrun, hhandlers⟩ := registerHandlers_spec protobuf
    (allocationFor s plugin) plugin.id wsConfig.protoNamespace 0 (handlerDefs plugin)
    (allocated s₁ plugin)
  rw [hroots, hbefore] at hhandlers
  -- the allocation is made first, and the loop runs in the state it leaves
  have hend : (do
      let allocation ← allocateOpcodes plugin.id (handlerDefs plugin).length
      registerHandlers protobuf allocation plugin.id wsConfig.protoNamespace 0
        (handlerDefs plugin) : OpcodeM Root MessageType _) s₁ =
      (.ok registered, { allocated s₁ plugin with handlers }) := by
    show bindResult _ _ = _
    rw [allocateOpcodes_eq, bindResult_ok]
    exact hrun
  rw [hend]
  refine ⟨?_, ?_, ?_⟩
  · intro opcode
    rw [newHandler_of_config protobuf hconfig, ← hroot]
    exact hhandlers opcode
  · exact get_allocations_allocated plugin s₁
  · show _ = _
    unfold allocated
    show _ = if (s₁.allocations.get plugin.id).isSome then _ else _
    split <;> rfl

theorem written_none (allocation : IOpcodeAllocation) (pluginId : String)
    (protoNamespace : Option String) (handlerDefs : List IPluginWebSocketHandler) (i opcode : ℕ) :
    written protobuf allocation pluginId protoNamespace none handlerDefs i opcode = none := by
  unfold written
  split
  · exact Option.bind_eq_none_iff.mpr fun _ _ => rfl
  · rfl

theorem newHandler_of_nil (s : PluginOpcodeRegistry Root MessageType)
    (h : handlerDefs plugin = []) (opcode : ℕ) : newHandler protobuf s plugin opcode = none := by
  unfold newHandler written
  rw [h]
  cases wsConfigOf plugin <;> simp

/-- The schema is the one that comes with the plugin, if any, unless it cannot be read. -/
theorem loadProvidedSchema_spec (plugin : ApiPlugin) (wsConfig : IWebSocketPermissions)
    (s : PluginOpcodeRegistry Root MessageType) :
    (∃ e, loadProvidedSchema protobuf plugin wsConfig s = (.error e, s) ∧
      schema protobuf s plugin wsConfig = none) ∨
    ∃ protoRoots : JsMap String Root,
      loadProvidedSchema protobuf plugin wsConfig s = (.ok (), { s with protoRoots }) ∧
      protoRoots.get plugin.id = schema protobuf s plugin wsConfig := by
  unfold loadProvidedSchema schema
  cases presentText wsConfig.protoFile with
  | none => exact Or.inr ⟨s.protoRoots, rfl, rfl⟩
  | some protoFile =>
    cases plugin.proto with
    | none => exact Or.inr ⟨s.protoRoots, rfl, rfl⟩
    | some proto =>
      simp only [loadProtoSchema]
      cases protobuf.parse (TextDecoder.decode proto) with
      | error e => exact Or.inl ⟨_, rfl, rfl⟩
      | ok root => exact Or.inr ⟨s.protoRoots.set plugin.id root, rfl, JsMap.get_set_self _ _ _⟩

theorem registerPlugin_spec (plugin : ApiPlugin) (s : PluginOpcodeRegistry Root MessageType) :
    ((registerPlugin protobuf plugin s).2 = s ∧ ∀ opcode, newHandler protobuf s plugin opcode = none) ∨
      Registered protobuf plugin s (registerPlugin protobuf plugin s).2 := by
  unfold registerPlugin
  cases hapi : plugin.api with
  | none =>
    left
    refine ⟨rfl, fun opcode => ?_⟩
    simp [newHandler, wsConfigOf, hapi]
  | some permissions =>
    cases hadd : permissions.addWebsocket with
    | false =>
      left
      simp only [hadd]
      refine ⟨rfl, fun opcode => ?_⟩
      simp [newHandler, wsConfigOf, hapi, hadd]
    | true =>
      cases hwebsocket : permissions.websocket with
      | none =>
        left
        simp only [hadd, hwebsocket]
        refine ⟨rfl, fun opcode => ?_⟩
        simp [newHandler, wsConfigOf, hapi, hwebsocket]
      | some wsConfig =>
        simp only [hadd, hwebsocket]
        have hconfig : wsConfigOf plugin = some wsConfig := by
          simp [wsConfigOf, hapi, hadd, hwebsocket]
        have hdefs : handlerDefs plugin = wsConfig.handlers.getD [] := by
          unfold handlerDefs
          rw [hconfig]
          rfl
        cases hhandlers : wsConfig.handlers with
        | none =>
          rw [hhandlers, Option.getD_none] at hdefs
          exact Or.inl ⟨rfl, newHandler_of_nil protobuf s hdefs⟩
        | some handlers =>
          rw [hhandlers, Option.getD_some] at hdefs
          subst hdefs
          simp only
          by_cases hempty : (handlerDefs plugin).length = 0
          · rw [if_pos hempty]
            exact Or.inl ⟨rfl, newHandler_of_nil protobuf s (List.eq_nil_of_length_eq_zero hempty)⟩
          · rw [if_neg hempty]
            -- without a schema the registration throws before it has allocated anything
            rcases loadProvidedSchema_spec protobuf plugin wsConfig s with
              ⟨e, hload, hschema⟩ | ⟨protoRoots, hload, hschema⟩
            · left
              refine ⟨?_, fun opcode => ?_⟩
              · show (bindResult _ _).2 = s
                rw [hload]
                rfl
              · rw [newHandler_of_config protobuf hconfig, hschema]
                exact written_none protobuf _ _ _ _ _ _
            · right
              show Registered protobuf plugin s (bindResult _ _).2
              rw [hload, bindResult_ok]
              exact registered_of_run protobuf hconfig s protoRoots hschema

/-! ### What is removed -/

theorem get_removeHandlers (allocation : IOpcodeAllocation)
    (handlers : JsMap ℕ (IRegisteredHandler MessageType)) (opcode : ℕ) :
    (removeHandlers allocation handlers).get opcode =
      if allocation.requestBase ≤ opcode ∧ opcode < allocation.requestBase + allocation.count then none
      else handlers.get opcode := by
  unfold removeHandlers
  rw [JsMap.get_foldl_erase]
  congr 1
  apply propext
  constructor
  · intro hmem
    obtain ⟨i, hi, rfl⟩ := List.mem_map.mp hmem
    rw [List.mem_range] at hi
    omega
  · rintro ⟨hle, hlt⟩
    refine List.mem_map.mpr ⟨opcode - allocation.requestBase, ?_, ?_⟩
    · rw [List.mem_range]
      omega
    · omega

theorem unregisterPlugin_eq (pluginId : String) (s : PluginOpcodeRegistry Root MessageType) :
    unregisterPlugin pluginId s = (.ok (), (s.allocations.get pluginId).elim s fun allocation =>
      { s with
        handlers := removeHandlers allocation s.handlers
        protoRoots := s.protoRoots.erase pluginId
        allocations := s.allocations.erase pluginId }) := by
  unfold unregisterPlugin
  show bindResult _ (.ok s, s) = _
  rw [bindResult_ok]
  cases s.allocations.get pluginId with
  | none | some => rfl

/-! ### The invariant -/

/-- A handler has the index `i` of an allocation, within its block and the range of the requests. -/
structure Placed (allocation : IOpcodeAllocation) (i : ℕ)
    (handler : IRegisteredHandler MessageType) : Prop where
  inBlock : i < OPCODES_PER_PLUGIN
  request : handler.requestOpcode = allocation.requestBase + i
  response : handler.responseOpcode = allocation.responseBase + i
  inRange : handler.requestOpcode < PLUGIN_RESPONSE_OPCODE_BASE

/-- The allocations are different blocks, and each handler is in the block of its plugin. -/
structure Inv (s : PluginOpcodeRegistry Root MessageType) : Prop where
  next : ∃ n, s.nextRequestOpcode = PLUGIN_REQUEST_OPCODE_BASE + OPCODES_PER_PLUGIN * n ∧
    s.nextResponseOpcode = PLUGIN_RESPONSE_OPCODE_BASE + OPCODES_PER_PLUGIN * n
  block : ∀ pluginId allocation, s.allocations.get pluginId = some allocation →
    allocation.requestBase < s.nextRequestOpcode ∧
    ∃ k, allocation.requestBase = PLUGIN_REQUEST_OPCODE_BASE + OPCODES_PER_PLUGIN * k ∧
      allocation.responseBase = PLUGIN_RESPONSE_OPCODE_BASE + OPCODES_PER_PLUGIN * k
  distinct : ∀ pluginId pluginId' allocation allocation',
    s.allocations.get pluginId = some allocation → s.allocations.get pluginId' = some allocation' →
    allocation.requestBase = allocation'.requestBase → pluginId = pluginId'
  placed : ∀ opcode handler, s.handlers.get opcode = some handler →
    handler.requestOpcode = opcode ∧ ∃ allocation i,
      s.allocations.get handler.pluginId = some allocation ∧ Placed allocation i handler

theorem inv_new : Inv (new : PluginOpcodeRegistry Root MessageType) where
  next := ⟨0, rfl, rfl⟩
  block := by simp [new]
  distinct := by simp [new]
  placed := by simp [new]

theorem Inv.block_allocationFor (h : Inv s) (plugin : ApiPlugin) :
    (∃ k, (allocationFor s plugin).requestBase = PLUGIN_REQUEST_OPCODE_BASE + OPCODES_PER_PLUGIN * k ∧
      (allocationFor s plugin).responseBase = PLUGIN_RESPONSE_OPCODE_BASE + OPCODES_PER_PLUGIN * k) ∧
    ∀ pluginId allocation, s.allocations.get pluginId = some allocation →
      allocation.requestBase = (allocationFor s plugin).requestBase → pluginId = plugin.id := by
  unfold allocationFor
  cases hexisting : s.allocations.get plugin.id with
  | none =>
    rw [Option.getD_none]
    refine ⟨h.next, ?_⟩
    intro pluginId allocation hget hsame
    have hless := (h.block pluginId allocation hget).1
    exact absurd hsame (Nat.ne_of_lt hless)
  | some existing =>
    rw [Option.getD_some]
    refine ⟨(h.block plugin.id existing hexisting).2, ?_⟩
    intro pluginId allocation hget hsame
    exact h.distinct pluginId plugin.id allocation existing hget hexisting hsame

/-! ### What the opcodes are for -/

/-- Every handler has its opcodes within the block of its plugin and the two ranges, and handlers of
different plugins have different opcodes. -/
structure NoCollision (s : PluginOpcodeRegistry Root MessageType) : Prop where
  own : ∀ opcode handler, s.getHandler opcode = some handler → handler.requestOpcode = opcode ∧
    ∃ allocation, s.allocations.get handler.pluginId = some allocation ∧
      allocation.requestBase ≤ opcode ∧ opcode < allocation.requestBase + OPCODES_PER_PLUGIN
  ranges : ∀ opcode handler, s.getHandler opcode = some handler →
    opcode < PLUGIN_RESPONSE_OPCODE_BASE ∧
      PLUGIN_RESPONSE_OPCODE_BASE ≤ handler.responseOpcode ∧ handler.responseOpcode < 0xe0
  apart : ∀ opcode opcode' handler handler', s.getHandler opcode = some handler →
    s.getHandler opcode' = some handler' → handler.pluginId ≠ handler'.pluginId →
      handler.requestOpcode ≠ handler'.requestOpcode ∧
      handler.requestOpcode ≠ handler'.responseOpcode ∧
      handler.responseOpcode ≠ handler'.responseOpcode

/-- A registration leaves the handlers of the other plugins, and an unregistered plugin has none. -/
def LeavesOthers (s s' : PluginOpcodeRegistry Root MessageType) : OpcodeCall → Prop
  | .registerPlugin plugin => ∀ opcode handler, s.getHandler opcode = some handler →
      handler.pluginId ≠ plugin.id → s'.getHandler opcode = some handler
  | .unregisterPlugin pluginId => ∀ opcode handler, s'.getHandler opcode = some handler →
      handler.pluginId ≠ pluginId

/-- The condition of a call: the handlers whose types are found have an index within the block and an
opcode below the responses; a plugin is unregistered that has no handler beyond its count. -/
def FitsBlock (s : PluginOpcodeRegistry Root MessageType) : OpcodeCall → Prop
  | .registerPlugin plugin => ∀ i < (handlerDefs plugin).length,
      (typesAt protobuf s plugin i).isSome → i < OPCODES_PER_PLUGIN ∧
        (allocationFor s plugin).requestBase + i < PLUGIN_RESPONSE_OPCODE_BASE
  | .unregisterPlugin pluginId => ∀ e ∈ s.handlers.entries, e.2.pluginId = pluginId →
      ∀ allocation ∈ s.allocations.get pluginId, e.1 < allocation.requestBase + allocation.count

instance decidableFitsBlock (s : PluginOpcodeRegistry Root MessageType) :
    ∀ call, Decidable (FitsBlock protobuf s call)
  | .registerPlugin plugin => inferInstanceAs (Decidable (∀ i < (handlerDefs plugin).length, _))
  | .unregisterPlugin _ => inferInstanceAs (Decidable (∀ e ∈ s.handlers.entries, _))

theorem Inv.noCollision (h : Inv s) : NoCollision s := by
  refine ⟨?_, ?_, ?_⟩
  · intro opcode handler hget
    obtain ⟨hopcode, allocation, i, hallocation, hplaced⟩ := h.placed opcode handler hget
    have hrequest := hplaced.request
    have hblock := hplaced.inBlock
    exact ⟨hopcode, allocation, hallocation, by omega, by omega⟩
  · intro opcode handler hget
    obtain ⟨hopcode, allocation, i, hallocation, hplaced⟩ := h.placed opcode handler hget
    obtain ⟨-, k, hrequestBase, hresponseBase⟩ := h.block _ _ hallocation
    have hrequest := hplaced.request
    have hresponse := hplaced.response
    have hrange := hplaced.inRange
    have hblock := hplaced.inBlock
    unfold PLUGIN_RESPONSE_OPCODE_BASE PLUGIN_REQUEST_OPCODE_BASE OPCODES_PER_PLUGIN at *
    omega
  · intro opcode opcode' handler handler' hget hget' hne
    obtain ⟨-, allocation, i, hallocation, hplaced⟩ := h.placed opcode handler hget
    obtain ⟨-, allocation', i', hallocation', hplaced'⟩ := h.placed opcode' handler' hget'
    obtain ⟨-, k, hrequestBase, hresponseBase⟩ := h.block _ _ hallocation
    obtain ⟨-, k', hrequestBase', hresponseBase'⟩ := h.block _ _ hallocation'
    have hbases : allocation.requestBase ≠ allocation'.requestBase := fun hsame =>
      hne (h.distinct _ _ _ _ hallocation hallocation' hsame)
    obtain ⟨hblock, hrequest, hresponse, hrange⟩ := hplaced
    obtain ⟨hblock', hrequest', hresponse', hrange'⟩ := hplaced'
    unfold PLUGIN_RESPONSE_OPCODE_BASE PLUGIN_REQUEST_OPCODE_BASE OPCODES_PER_PLUGIN at *
    omega

/-! ### Registrations -/

variable {pluginId : String} {i : ℕ}

variable {allocation : IOpcodeAllocation} {handler : IRegisteredHandler MessageType}

theorem handlerOf_eq_some {protoNamespace : Option String} {root : Option Root}
    {handlerDef : IPluginWebSocketHandler}
    (h : handlerOf protobuf allocation pluginId protoNamespace root i handlerDef = some handler) :
    (∃ schema, root = some schema ∧
      (messageTypes protobuf schema protoNamespace handlerDef).toOption.isSome) ∧
    handler.pluginId = pluginId ∧ handler.requestOpcode = allocation.requestBase + i ∧
      handler.responseOpcode = allocation.responseBase + i := by
  unfold handlerOf at h
  obtain ⟨schema, hroot, h⟩ := Option.bind_eq_some_iff.mp h
  obtain ⟨types, htypes, h⟩ := Option.bind_eq_some_iff.mp h
  rw [← Option.some.inj h]
  exact ⟨⟨schema, hroot, by rw [htypes]; rfl⟩, rfl, rfl, rfl⟩

theorem newHandler_eq_some (h : newHandler protobuf s plugin opcode = some handler) :
    ∃ i < (handlerDefs plugin).length, (typesAt protobuf s plugin i).isSome ∧
      opcode = (allocationFor s plugin).requestBase + i ∧ handler.pluginId = plugin.id ∧
      handler.requestOpcode = opcode ∧
      handler.responseOpcode = (allocationFor s plugin).responseBase + i := by
  obtain ⟨wsConfig, hconfig, hwritten⟩ := Option.bind_eq_some_iff.mp h
  unfold written at hwritten
  split at hwritten
  · rename_i hle
    rw [Nat.add_zero] at hle hwritten
    obtain ⟨i, rfl⟩ := Nat.exists_eq_add_of_le hle
    rw [Nat.add_sub_cancel_left] at hwritten
    obtain ⟨handlerDef, hdef, hhandler⟩ := Option.bind_eq_some_iff.mp hwritten
    obtain ⟨⟨root, hroot, htypes⟩, hid, hrequest, hresponse⟩ := handlerOf_eq_some protobuf hhandler
    refine ⟨i, (List.getElem?_eq_some_iff.mp hdef).1, ?_, rfl, hid, hrequest, hresponse⟩
    unfold typesAt
    rw [hconfig]
    simpa [hroot, hdef] using htypes
  · cases hwritten

theorem isSome_newHandler (h : (typesAt protobuf s plugin i).isSome) :
    (newHandler protobuf s plugin ((allocationFor s plugin).requestBase + i)).isSome := by
  obtain ⟨types, htypes⟩ := Option.isSome_iff_exists.mp h
  unfold typesAt at htypes
  obtain ⟨wsConfig, hconfig, htypes⟩ := Option.bind_eq_some_iff.mp htypes
  obtain ⟨root, hroot, htypes⟩ := Option.bind_eq_some_iff.mp htypes
  obtain ⟨handlerDef, hdef, htypes⟩ := Option.bind_eq_some_iff.mp htypes
  rw [newHandler_of_config protobuf hconfig]
  unfold written handlerOf
  rw [if_pos (by omega), Nat.add_zero, Nat.add_sub_cancel_left, hdef, hroot]
  simp [htypes]

variable {s' : PluginOpcodeRegistry Root MessageType}

variable {protobuf} in
theorem Inv.registered (h : Inv s) (hfits : FitsBlock protobuf s (.registerPlugin plugin))
    (hregistered : Registered protobuf plugin s s') : Inv s' := by
  -- the next block is behind all the allocated ones, that of the plugin included
  have hmore : s.nextRequestOpcode ≤ s'.nextRequestOpcode ∧
      (allocationFor s plugin).requestBase < s'.nextRequestOpcode := by
    have hnext := congrArg Prod.fst hregistered.next
    unfold allocationFor
    cases hexisting : s.allocations.get plugin.id with
    | none =>
      rw [hexisting, if_neg (by simp)] at hnext
      rw [Option.getD_none]
      unfold OPCODES_PER_PLUGIN at hnext
      show s.nextRequestOpcode ≤ s'.nextRequestOpcode ∧ s.nextRequestOpcode < s'.nextRequestOpcode
      omega
    | some existing =>
      rw [hexisting, if_pos Option.isSome_some] at hnext
      have hless := (h.block plugin.id existing hexisting).1
      rw [Option.getD_some]
      omega
  obtain ⟨hblock, hother⟩ := h.block_allocationFor plugin
  refine ⟨?_, ?_, ?_, ?_⟩
  · -- the two next opcodes move on by one block together
    obtain ⟨n, hrequest, hresponse⟩ := h.next
    have hnext := hregistered.next
    split at hnext
    · obtain ⟨hrequest', hresponse'⟩ := Prod.mk.inj hnext
      exact ⟨n, hrequest'.trans hrequest, hresponse'.trans hresponse⟩
    · obtain ⟨hrequest', hresponse'⟩ := Prod.mk.inj hnext
      refine ⟨n + 1, ?_, ?_⟩
      · rw [hrequest', hrequest, Nat.mul_succ, Nat.add_assoc]
      · rw [hresponse', hresponse, Nat.mul_succ, Nat.add_assoc]
  · intro pluginId allocation hget
    rw [hregistered.allocations] at hget
    split at hget
    · rw [← Option.some.inj hget]
      exact ⟨hmore.2, hblock⟩
    · obtain ⟨hless, hbases⟩ := h.block pluginId allocation hget
      exact ⟨Nat.lt_of_lt_of_le hless hmore.1, hbases⟩
  · intro pluginId pluginId' allocation allocation' hget hget' hsame
    rw [hregistered.allocations] at hget hget'
    split at hget
    · rename_i hid
      split at hget'
      · rename_i hid'
        rw [hid, hid']
      · rw [hid]
        rw [← Option.some.inj hget] at hsame
        exact (hother pluginId' allocation' hget' hsame.symm).symm
    · split at hget'
      · rename_i hid'
        rw [hid']
        rw [← Option.some.inj hget'] at hsame
        exact hother pluginId allocation hget hsame
      · exact h.distinct pluginId pluginId' allocation allocation' hget hget' hsame
  · intro opcode handler hget
    -- a handler is one that has just been written, or one from before
    rw [hregistered.handlers, Option.or_eq_some_iff] at hget
    rcases hget with hnew | ⟨-, hold⟩
    · obtain ⟨i, hi, htypes, hopcode, hid, hrequest, hresponse⟩ := newHandler_eq_some protobuf hnew
      obtain ⟨hinBlock, hinRange⟩ := hfits i hi htypes
      refine ⟨hrequest, allocationFor s plugin, i, ?_, ⟨hinBlock, ?_, hresponse, ?_⟩⟩
      · rw [hregistered.allocations, hid, if_pos rfl]
      · omega
      · omega
    · obtain ⟨hopcode, allocation, i, hallocation, hplaced⟩ := h.placed opcode handler hold
      refine ⟨hopcode, allocation, i, ?_, hplaced⟩
      rw [hregistered.allocations]
      split
      · rename_i hid
        unfold allocationFor
        rw [← hid, hallocation]
        rfl
      · exact hallocation

theorem eq_of_mem_blocks {allocation' : IOpcodeAllocation} {k k' i' : ℕ}
    (hk : allocation.requestBase = PLUGIN_REQUEST_OPCODE_BASE + OPCODES_PER_PLUGIN * k)
    (hk' : allocation'.requestBase = PLUGIN_REQUEST_OPCODE_BASE + OPCODES_PER_PLUGIN * k')
    (hi : i < OPCODES_PER_PLUGIN) (hi' : i' < OPCODES_PER_PLUGIN)
    (h : allocation.requestBase + i = allocation'.requestBase + i') :
    allocation.requestBase = allocation'.requestBase := by
  unfold OPCODES_PER_PLUGIN at *
  omega

theorem leavesOthers_registered (h : Inv s) (hfits : FitsBlock protobuf s (.registerPlugin plugin))
    (hregistered : Registered protobuf plugin s s') :
    LeavesOthers s s' (.registerPlugin plugin) := by
  intro opcode handler hget hne
  show s'.handlers.get opcode = some handler
  rw [hregistered.handlers]
  cases hnew : newHandler protobuf s plugin opcode with
  | none => exact hget
  | some new =>
    -- the opcode would be in the blocks of two plugins
    obtain ⟨i, hi, htypes, hopcode, -⟩ := newHandler_eq_some protobuf hnew
    obtain ⟨⟨k, hk, -⟩, hother⟩ := h.block_allocationFor plugin
    obtain ⟨hrequest, allocation, i', hallocation, hplaced⟩ := h.placed opcode handler hget
    obtain ⟨-, k', hk', -⟩ := h.block _ _ hallocation
    have hsame : allocation.requestBase + i' = (allocationFor s plugin).requestBase + i := by
      rw [← hplaced.request, hrequest, hopcode]
    have hbases := eq_of_mem_blocks hk' hk hplaced.inBlock (hfits i hi htypes).1 hsame
    exact absurd (hother _ allocation hallocation hbases) hne

theorem fitsBlock_of_registered
    (hregistered : Registered protobuf plugin s s') (h : NoCollision s') :
    FitsBlock protobuf s (.registerPlugin plugin) := by
  intro i hi htypes
  obtain ⟨handler, hnew⟩ := Option.isSome_iff_exists.mp (isSome_newHandler protobuf htypes)
  have hget : s'.getHandler ((allocationFor s plugin).requestBase + i) = some handler := by
    show s'.handlers.get _ = _
    rw [hregistered.handlers, hnew]
    rfl
  obtain ⟨-, -, -, -, hid, -⟩ := newHandler_eq_some protobuf hnew
  obtain ⟨-, allocation, hallocation, -, hless⟩ := h.own _ handler hget
  rw [hid, hregistered.allocations, if_pos rfl] at hallocation
  rw [← Option.some.inj hallocation] at hless
  exact ⟨by omega, (h.ranges _ handler hget).1⟩

/-! ### Calls -/

theorem inv_unregisterPlugin
    (h : Inv s) (hfits : FitsBlock protobuf s (.unregisterPlugin pluginId)) :
    Inv (unregisterPlugin pluginId s).2 ∧
      LeavesOthers s (unregisterPlugin pluginId s).2 (.unregisterPlugin pluginId) := by
  rw [unregisterPlugin_eq]
  cases hallocation : s.allocations.get pluginId with
  | none =>
    refine ⟨h, ?_⟩
    intro opcode handler hget hid
    obtain ⟨-, allocation, i, hsome, -⟩ := h.placed opcode handler hget
    rw [hid, hallocation] at hsome
    cases hsome
  | some allocation =>
    -- every handler of the plugin is below the count of its allocation, and so removed
    have hgone : ∀ opcode handler, (removeHandlers allocation s.handlers).get opcode = some handler →
        s.handlers.get opcode = some handler ∧ handler.pluginId ≠ pluginId := by
      intro opcode handler hget
      rw [get_removeHandlers] at hget
      split at hget
      · cases hget
      · rename_i hout
        refine ⟨hget, fun hid => ?_⟩
        obtain ⟨hrequest, allocation', i, hallocation', hplaced⟩ := h.placed opcode handler hget
        rw [hid, hallocation] at hallocation'
        cases hallocation'
        have hless := hfits (opcode, handler) (s.handlers.mem_entries_iff.mpr hget) hid allocation
          hallocation
        have hbase := hplaced.request
        omega
    refine ⟨⟨h.next, ?_, ?_, ?_⟩, ?_⟩
    · intro id a hget
      replace hget : (s.allocations.erase pluginId).get id = some a := hget
      rw [JsMap.get_erase] at hget
      split at hget
      · cases hget
      · exact h.block id a hget
    · intro id id' a a' hget hget' hsame
      replace hget : (s.allocations.erase pluginId).get id = some a := hget
      replace hget' : (s.allocations.erase pluginId).get id' = some a' := hget'
      rw [JsMap.get_erase] at hget hget'
      split at hget
      · cases hget
      · split at hget'
        · cases hget'
        · exact h.distinct id id' a a' hget hget' hsame
    · intro opcode handler hget
      obtain ⟨hold, hne⟩ := hgone opcode handler hget
      obtain ⟨hrequest, a, i, ha, hplaced⟩ := h.placed opcode handler hold
      refine ⟨hrequest, a, i, ?_, hplaced⟩
      show (s.allocations.erase pluginId).get handler.pluginId = some a
      rw [JsMap.get_erase, if_neg hne]
      exact ha
    · exact fun opcode handler hget => (hgone opcode handler hget).2

theorem fitsBlock_of_leavesOthers
    (h : LeavesOthers s (unregisterPlugin pluginId s).2 (.unregisterPlugin pluginId)) :
    FitsBlock protobuf s (.unregisterPlugin pluginId) := by
  rintro ⟨opcode, handler⟩ hentry hid allocation hallocation
  have hget : s.handlers.get opcode = some handler := s.handlers.mem_entries_iff.mp hentry
  rw [Option.mem_def] at hallocation
  by_contra hbeyond
  apply h opcode handler _ hid
  rw [unregisterPlugin_eq, hallocation]
  show (removeHandlers allocation s.handlers).get opcode = some handler
  rw [get_removeHandlers, if_neg (fun hin => hbeyond hin.2)]
  exact hget

theorem within_iff {call : OpcodeCall} (h : Inv s) (hstep : step protobuf s call = some s') :
    (FitsBlock protobuf s call ↔ NoCollision s' ∧ LeavesOthers s s' call) ∧
      (FitsBlock protobuf s call → Inv s') := by
  cases call with
  | registerPlugin plugin =>
    cases hstep
    rcases registerPlugin_spec protobuf plugin s with ⟨hsame, hnone⟩ | hregistered
    · have hfits : FitsBlock protobuf s (.registerPlugin plugin) := by
        intro i hi htypes
        have hnew := isSome_newHandler protobuf htypes
        rw [hnone] at hnew
        cases hnew
      rw [hsame]
      exact ⟨⟨fun _ => ⟨h.noCollision, fun _ _ hget _ => hget⟩, fun _ => hfits⟩, fun _ => h⟩
    · refine ⟨⟨fun hfits => ?_, fun hgood => ?_⟩, fun hfits => h.registered hfits hregistered⟩
      · exact ⟨(h.registered hfits hregistered).noCollision,
          leavesOthers_registered protobuf h hfits hregistered⟩
      · exact fitsBlock_of_registered protobuf hregistered hgood.1
  | unregisterPlugin pluginId =>
    cases hstep
    refine ⟨⟨fun hfits => ?_, fun hgood => ?_⟩, fun hfits => (inv_unregisterPlugin protobuf h hfits).1⟩
    · obtain ⟨hinv, hleaves⟩ := inv_unregisterPlugin protobuf h hfits
      exact ⟨hinv.noCollision, hleaves⟩
    · exact fitsBlock_of_leavesOthers protobuf hgood.2

/-- **The opcodes of different plugins do not collide** in any run of calls that fit. -/
theorem opcodesNeverCollide {calls : List OpcodeCall} {s : PluginOpcodeRegistry Root MessageType}
    (hfits : Meets (step protobuf) (FitsBlock protobuf) new calls)
    (hrun : runFrom (step protobuf) new calls = some s) :
    NoCollision s ∧ ∀ call s', FitsBlock protobuf s call → step protobuf s call = some s' →
      LeavesOthers s s' call := by
  have hinv : Inv s := invariant_runFrom
    (fun s call s' h hcall hstep => (within_iff protobuf h hstep).2 hcall) calls new s inv_new hfits hrun
  refine ⟨hinv.noCollision, fun call s' hcall hstep => ?_⟩
  exact ((within_iff protobuf hinv hstep).1.mp hcall).2

/-! ### Runs -/

/-- A library that reads one schema. -/
def oneSchema : Protobuf (List String) String where
  parse text := if text = "message A {}".toList then .ok ["A"] else .error "illegal token"
  lookupType root name := if name ∈ root then .ok name else .error ("no such type: " ++ name)

/-- A plugin that declares a number of handlers. -/
def pluginWith (id : String) (count : ℕ) : ApiPlugin where
  id
  api := some
    { addEndpoints := false
      addWebsocket := true
      basePath := none
      routes := none
      websocket := some
        { protoFile := some "plugin.proto"
          protoNamespace := none
          handlers := some (List.replicate count ⟨"OP", "A", "A", "handle", none⟩) } }
  proto := some (TextDecoder.encode "message A {}".toList)

def after (calls : List OpcodeCall) : PluginOpcodeRegistry (List String) String :=
  calls.foldl (fun s call => (step oneSchema s call).getD s) new

/-- Two plugins, one of which is reloaded. -/
theorem noCollision_reloaded :
    NoCollision (after [.registerPlugin (pluginWith "a" 2), .registerPlugin (pluginWith "b" 8),
      .unregisterPlugin "a", .registerPlugin (pluginWith "a" 2)]) :=
  (opcodesNeverCollide oneSchema
    (by decide : Meets (step oneSchema) (FitsBlock oneSchema) new
      [.registerPlugin (pluginWith "a" 2), .registerPlugin (pluginWith "b" 8),
        .unregisterPlugin "a", .registerPlugin (pluginWith "a" 2)])
    rfl).1

/-- A ninth handler lies in the block of the next plugin, and stays when its plugin is unregistered; the
fifth plugin has its requests among the responses. -/
theorem not_noCollision_ninth :
    ¬ NoCollision (after [.registerPlugin (pluginWith "a" 9)]) ∧
      ¬ LeavesOthers (after [.registerPlugin (pluginWith "a" 9)])
        (after [.registerPlugin (pluginWith "a" 9), .unregisterPlugin "a"])
        (.unregisterPlugin "a") ∧
      ¬ LeavesOthers (after [.registerPlugin (pluginWith "a" 1), .registerPlugin (pluginWith "b" 1)])
        (after [.registerPlugin (pluginWith "a" 1), .registerPlugin (pluginWith "b" 1),
          .registerPlugin (pluginWith "a" 9)])
        (.registerPlugin (pluginWith "a" 9)) ∧
      ¬ NoCollision (after [.registerPlugin (pluginWith "a" 1), .registerPlugin (pluginWith "b" 1),
        .registerPlugin (pluginWith "c" 1), .registerPlugin (pluginWith "d" 1),
        .registerPlugin (pluginWith "e" 1)]) := by
  refine ⟨fun h => ?_, fun h => ?_, fun h => ?_, fun h => ?_⟩
  · obtain ⟨-, allocation, hallocation, -, hless⟩ := h.own 0xa8 _ rfl
    rw [← Option.some.inj hallocation] at hless
    exact absurd hless (by decide)
  · exact h 0xa8 _ rfl rfl
  · exact absurd (h 0xa8 _ rfl (by decide)) (by decide)
  · exact absurd (h.ranges 0xc0 _ rfl).1 (by decide)

end OpnetNode.PluginOpcodeRegistry
