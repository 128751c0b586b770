import OpnetNode.Plugins.HookDispatcher

/-!
# The reindex of the plugins

At the start of a reindex the plugin manager asks the worker of every enabled plugin for the last
block that the plugin processed, tells the plugin what has to be done, and lets it purge its data. The
workers keep the last synced block, also over a restart.

* `buildReindexCheck`: what a plugin has to do.
* `handleReindex`: all enabled plugins, one after the other; an error ends it.

A response is taken to come with the last synced block that the worker has for the plugin.
-/

namespace OpnetNode

/-- The response to a message about the sync state. -/
structure SyncStateResponse where
  success : Bool
  error : Option String
  deriving DecidableEq, Repr

/-- What the workers answer during a reindex, or throw. -/
structure ReindexWorkers where
  hooks : HookWorkers
  getSyncState : String → Except String SyncStateResponse
  resetSyncState : String → Except String SyncStateResponse

/-- The dispatcher, and the last synced block that the workers have for a plugin. -/
structure PluginReindex where
  hooks : HookDispatcher
  lastSyncedBlocks : JsMap String ℕ
  deriving DecidableEq

namespace PluginReindex

open Proc

abbrev ReindexM (α : Type) := Proc PluginReindex String α

/-- Return a value, or throw. -/
def liftExcept {α : Type} : Except String α → ReindexM α
  | .ok a => pure a
  | .error e => throw e

variable (workers : ReindexWorkers)

def ReindexAction.text : ReindexAction → String
  | .NONE => "none"
  | .PURGE => "purge"
  | .SYNC => "sync"
  | .RESET => "reset"

/-- Before the first start. -/
def start (registry : PluginRegistry) (lastSyncedBlocks : JsMap String ℕ) : PluginReindex :=
  ⟨⟨registry, []⟩, lastSyncedBlocks⟩

end PluginReindex

end OpnetNode
