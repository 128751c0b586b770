import OpnetNode.Json
import OpnetNode.Plugins.PluginRegistry
import OpnetNode.Proc

/-!
# The hook dispatcher

A hook is dispatched to all enabled plugins, or to those with a permission, in parallel or one after
the other; two hooks of a reindex go to a single plugin. What the plugins do lies in their workers,
which answer a message, or throw (a timeout). The payload goes to a worker as JSON, which has no
bigints: `JSON.stringify` throws on the heights of a reorg or a reindex.

`executions` records the messages that are sent. The code has no such record; nothing depends on it.
-/

namespace OpnetNode

inductive HookExecutionMode where
  | PARALLEL
  | SEQUENTIAL
  deriving DecidableEq, Repr

inductive HookType where
  | LOAD
  | UNLOAD
  | ENABLE
  | DISABLE
  | BLOCK_PRE_PROCESS
  | BLOCK_POST_PROCESS
  | BLOCK_CHANGE
  | EPOCH_CHANGE
  | EPOCH_FINALIZED
  | MEMPOOL_TRANSACTION
  | REORG
  | REINDEX_REQUIRED
  | PURGE_BLOCKS
  deriving DecidableEq, Repr

structure IHookConfig where
  executionMode : HookExecutionMode
  timeoutMs : ℕ
  requiredPermission : Option String
  deriving DecidableEq, Repr

def HOOK_CONFIGS : HookType → IHookConfig
  | .LOAD => ⟨.SEQUENTIAL, 30000, none⟩
  | .UNLOAD => ⟨.SEQUENTIAL, 10000, none⟩
  | .ENABLE => ⟨.SEQUENTIAL, 5000, none⟩
  | .DISABLE => ⟨.SEQUENTIAL, 5000, none⟩
  | .BLOCK_PRE_PROCESS => ⟨.PARALLEL, 5000, some "blocks.preProcess"⟩
  | .BLOCK_POST_PROCESS => ⟨.PARALLEL, 5000, some "blocks.postProcess"⟩
  | .BLOCK_CHANGE => ⟨.PARALLEL, 5000, some "blocks.onChange"⟩
  | .EPOCH_CHANGE => ⟨.PARALLEL, 5000, some "epochs.onChange"⟩
  | .EPOCH_FINALIZED => ⟨.PARALLEL, 5000, some "epochs.onFinalized"⟩
  | .MEMPOOL_TRANSACTION => ⟨.PARALLEL, 2000, some "mempool.txFeed"⟩
  | .REORG => ⟨.SEQUENTIAL, 300000, none⟩
  | .REINDEX_REQUIRED => ⟨.SEQUENTIAL, 600000, none⟩
  | .PURGE_BLOCKS => ⟨.SEQUENTIAL, 600000, none⟩

/-! ### Payloads and results -/

structure IReorgData where
  fromBlock : ℕ
  toBlock : ℕ
  reason : String
  deriving DecidableEq, Repr

inductive ReindexAction where
  | NONE
  | PURGE
  | SYNC
  | RESET
  deriving DecidableEq, Repr

structure IReindexCheck where
  reindexEnabled : Bool
  reindexFromBlock : ℕ
  pluginLastSyncedBlock : ℕ
  action : ReindexAction
  requiresPurge : Bool
  purgeToBlock : Option ℕ
  requiresSync : Bool
  syncFromBlock : Option ℕ
  syncToBlock : Option ℕ
  deriving DecidableEq, Repr

inductive HookPayload where
  | reorg (reorg : IReorgData)
  | reindexCheck (check : IReindexCheck)
  | purgeBlocks (fromBlock : ℕ) (toBlock : Option ℕ)
  /-- Blocks, epochs and transactions; `none` if there is a bigint in it. -/
  | data (json : Option String)
  deriving DecidableEq, Repr

/-- `JSON.stringify` of a payload. No bigint has a `toJSON`, so that it throws on one. -/
def HookPayload.stringify : HookPayload → Except String String
  | .data (some json) => .ok json
  | .data none => .error "Do not know how to serialize a BigInt"
  | .reorg _ => .error "Do not know how to serialize a BigInt"
  | .reindexCheck _ => .error "Do not know how to serialize a BigInt"
  | .purgeBlocks _ _ => .error "Do not know how to serialize a BigInt"

/-- A message that asks a worker to execute a hook. -/
structure HookExecution where
  pluginId : String
  hookType : HookType
  payload : String
  timeoutMs : ℕ
  deriving DecidableEq, Repr

/-- The answer of a worker; of the value a hook returns it is only asked whether it is `false`. -/
structure IHookResultResponse where
  success : Bool
  durationMs : ℕ
  error : Option String
  result : Option Bool
  deriving DecidableEq, Repr

structure IHookResult where
  success : Bool
  pluginName : String
  hookType : HookType
  durationMs : ℕ
  error : Option String
  deriving DecidableEq, Repr

structure IHookDispatchOptions where
  timeoutMs : Option ℕ
  continueOnError : Option Bool
  deriving DecidableEq, Repr

/-- The worker of a plugin, or why there is none; and what the workers answer to a message, or
throw. -/
structure HookWorkers where
  getWorkerForPlugin : String → Except String Unit
  sendMessage : HookExecution → Except String IHookResultResponse

/-! ### The plugins of a hook -/

namespace PluginRegistry

def getEnabled (r : PluginRegistry) : List RegisteredPlugin :=
  r.plugins.vals.filter fun plugin => plugin.state = .enabled

/-- A property of a value of the metadata; `none` is `undefined`. -/
def property (value : Json) (name : String) : Option Json :=
  match value with
  | .object members =>
    (members.find? fun member => member.1 = name.toList.flatMap Json.codeUnits).map Prod.snd
  | _ => none

/-- Whether a permission is set. -/
def hasPermission : Option Json → List String → Bool
  | some (.bool true), [] => true
  | _, [] => false
  | none, _ :: _ => false
  | some .null, _ :: _ => false
  | some current, part :: parts => hasPermission (property current part) parts

/-- Get plugins with a specific permission; `permissions` is that part of the metadata. -/
def getWithPermission (permissions : RegisteredPlugin → Option Json) (r : PluginRegistry)
    (permission : String) : List RegisteredPlugin :=
  r.getEnabled.filter fun plugin => hasPermission (permissions plugin) (permission.splitOn ".")

end PluginRegistry

/-- The state of the dispatcher: the registry, and the record of its calls. -/
structure HookDispatcher where
  registry : PluginRegistry
  executions : List HookExecution
  deriving DecidableEq

namespace HookDispatcher

open Proc

abbrev HookM (α : Type) := Proc HookDispatcher String α

/-- Return a value, or throw. -/
def liftExcept {α : Type} : Except String α → HookM α
  | .ok a => pure a
  | .error e => throw e

variable (workers : HookWorkers)

end HookDispatcher

end OpnetNode
