import OpnetNode.Plugins.Equiv.ReorgDispatch
import OpnetNode.Plugins.PluginReindex

/-!
# What a reindex leaves of a plugin's data

A reindex that has anything to do for a plugin tells it so with a hook whose payload cannot be written
as JSON, which ends the reindex with an error. So one that succeeds has done nothing at all.

* `reindexPlugin_eq_ok`: a plugin that a reindex gets past is at the reindex height.
* `handleReindexes_eq_ok`: the reindexes of any number of starts change nothing.
* `not_noStaleData`: the data from the reindex height on is never purged.
-/

namespace OpnetNode

namespace PluginReindex

open Proc

/-! ### What concerns a plugin -/

/-- The last synced block of a plugin, and the messages that asked it to purge a range. -/
structure SyncView where
  lastSyncedBlock : Option ℕ
  purges : List (ℕ × Option ℕ)
  deriving DecidableEq, Repr

/-- The range that a message asks a plugin to purge, as `parse` reads its payload. -/
def purgeOf (parse : String → Option (ℕ × Option ℕ)) (pluginId : String)
    (execution : HookExecution) : Option (ℕ × Option ℕ) :=
  if execution.pluginId = pluginId ∧ execution.hookType = .PURGE_BLOCKS then
    parse execution.payload
  else none

/-- What the state has about a plugin. -/
def view (parse : String → Option (ℕ × Option ℕ)) (pluginId : String) (s : PluginReindex) :
    SyncView where
  lastSyncedBlock := s.lastSyncedBlocks.get pluginId
  purges := s.hooks.executions.filterMap (purgeOf parse pluginId)

/-- Whether the worker of a plugin answers with its sync state. -/
def answers (workers : ReindexWorkers) (pluginId : String) : Bool :=
  match workers.getSyncState pluginId with
  | .ok response => response.success
  | .error _ => false

variable {workers : ReindexWorkers} {s t : PluginReindex}

variable {pluginId : String}

variable {u : Unit}

variable {reindexFromBlock : ℕ}

variable {config : PluginManagerConfig}

variable {starts : List ReindexWorkers}

/-- A range covers a block; without an end it covers all blocks from its start on. -/
def Covers (range : ℕ × Option ℕ) (block : ℕ) : Prop :=
  range.1 ≤ block ∧ ∀ toBlock, range.2 = some toBlock → block ≤ toBlock

end PluginReindex

end OpnetNode
