import OpnetNode.Transition
import OpnetNode.Collection
import OpnetNode.AddressMap
import OpnetNode.Epoch.EpochManager
import OpnetNode.Epoch.EpochMerkleTree
import OpnetNode.Epoch.Equiv.BestSubmission
import OpnetNode.Epoch.Equiv.EpochAgreement
import OpnetNode.Epoch.Equiv.Replay
import OpnetNode.Mldsa.LinkRequest
import OpnetNode.Mldsa.Equiv.SenderResolution
import OpnetNode.Utxo.UnspentTransactionRepository
import OpnetNode.Storage.RevertData
import OpnetNode.Storage.Equiv.RevertData
import OpnetNode.Utxo.Equiv.Outpoint
import OpnetNode.Utxo.Equiv.Batches
import OpnetNode.Utxo.Equiv.Revert
import OpnetNode.Sync.ChainSynchronisation
import OpnetNode.Sync.Equiv.ChainSynchronisation
import OpnetNode.Sync.Equiv.Progress
import OpnetNode.Sync.Equiv.Reorg
import OpnetNode.Indexer.Equiv.RevertChain
import OpnetNode.Indexer.BlockIndexer
import OpnetNode.Indexer.Equiv.RevertExclusion
import OpnetNode.Indexer.Equiv.StaleWrite
import OpnetNode.Merkle.Equiv.StateMerkleTree
import OpnetNode.Vm.Equiv.BlockHeaderValidator
import OpnetNode.Vm.Equiv.HostSimulation
import OpnetNode.Vm.VMManager
import OpnetNode.Vm.Equiv.CallTree
import OpnetNode.Vm.Equiv.VMManager
import OpnetNode.Vm.Equiv.Atomicity
import OpnetNode.Vm.Block
import OpnetNode.Vm.Equiv.BlockReads
import OpnetNode.Vm.Equiv.BlockFold
import OpnetNode.Vm.Equiv.Block
import OpnetNode.Merkle.Equiv.ReceiptMerkleTree
import OpnetNode.Vm.Equiv.ReceiptRoot
import OpnetNode.Vm.Equiv.BlockSimulation
import OpnetNode.Vm.Equiv.StaleContracts
import OpnetNode.Vm.Equiv.EarlierCalls
import OpnetNode.Vm.Equiv.SharedState
import OpnetNode.Vm.Equiv.StorageSemantics
import OpnetNode.Vm.Equiv.DeploymentQuota
import OpnetNode.Plugins.PluginManager
import OpnetNode.Plugins.Equiv.PluginRegistry
import OpnetNode.Plugins.Equiv.DependencySafety
import OpnetNode.GreedyOrder
import OpnetNode.Hex
import OpnetNode.PriorityQueue
import OpnetNode.Transaction.TransactionSorter
import OpnetNode.Transaction.Equiv.DependencyGraph
import OpnetNode.Transaction.Equiv.EffectivePriority
import OpnetNode.Transaction.Equiv.CanonicalOrder
import OpnetNode.Mldsa.Equiv.OneIdentity
import OpnetNode.Vm.Equiv.StorageCheck
import OpnetNode.Gas.BlockGasPredictor
import OpnetNode.Gas.Equiv.BlockGasPredictor
import OpnetNode.Indexer.Equiv.ReorgWatchdog
import OpnetNode.Vm.Equiv.BoughtGas
import OpnetNode.Vm.Equiv.StorageGas
import OpnetNode.Vm.Equiv.CallGas
import OpnetNode.Vm.Equiv.HostCalls
import OpnetNode.Vm.Equiv.TransactionLimits
import OpnetNode.Vm.Equiv.AccountQueries
import OpnetNode.Json
import OpnetNode.Plugins.Equiv.PluginLoader
import OpnetNode.Plugins.Equiv.PluginLifeCycle
import OpnetNode.Vm.Equiv.DirectReads
import OpnetNode.Vm.Equiv.PointerPreload
import OpnetNode.Vm.Equiv.PreloadedReads
import OpnetNode.Consensus.Equiv.OPNetConsensus
import OpnetNode.Epoch.Equiv.TargetEpochs
import OpnetNode.Gas.Equiv.GasDemand
import OpnetNode.Transaction.DeploymentTransaction
import OpnetNode.Transaction.Equiv.ControlBlock
import OpnetNode.Epoch.BlockSubmissions
import OpnetNode.Epoch.Equiv.BlockSubmissions
import OpnetNode.Epoch.Equiv.SubmissionReplay
import OpnetNode.Epoch.Equiv.WinnerConsistency
import OpnetNode.Epoch.Equiv.MatchingBits
import OpnetNode.Indexer.Equiv.MempoolRemoval
import OpnetNode.Epoch.Equiv.EpochCompletion
import OpnetNode.Epoch.Equiv.EpochTreeExport
import OpnetNode.Mldsa.Equiv.Exposure
import OpnetNode.Witness.Equiv.StoredWitnesses
import OpnetNode.Transaction.Equiv.SuppliedOrder
import OpnetNode.Witness.Equiv.PoC
import OpnetNode.Mempool.Equiv.LatestChallenges
import OpnetNode.Mempool.Equiv.MempoolEviction
import OpnetNode.Mempool.Equiv.SpentOutPoints
import OpnetNode.Mempool.Equiv.PendingTransactions
import OpnetNode.Mempool.Equiv.RawTransactionData
import OpnetNode.Peer.Equiv.Authentication
import OpnetNode.Witness.Equiv.EarlyWitnesses
import OpnetNode.Witness.Equiv.ValidationBudget
import OpnetNode.Witness.Equiv.SelfWitnessQueue
import OpnetNode.Transaction.Equiv.WitnessRoundTrip
import OpnetNode.Peer.Equiv.BlacklistManager
import OpnetNode.Peer.Equiv.ReusableStream
import OpnetNode.Plugins.Equiv.LoadOrder
import OpnetNode.Plugins.Equiv.PluginFormat
import OpnetNode.Plugins.Equiv.PluginOpcodeRegistry
import OpnetNode.Plugins.Equiv.PluginReindex
import OpnetNode.Plugins.Equiv.PluginReload
import OpnetNode.Plugins.Equiv.PluginRouteRegistry
import OpnetNode.Plugins.Equiv.ReorgDispatch
import OpnetNode.Plugins.Equiv.WorkerFailure
import OpnetNode.Utils.Equiv.FastMap
import OpnetNode.Utils.Equiv.FastBigIntMap
import OpnetNode.Mempool.Mempool
import OpnetNode.Mempool.Equiv.Mempool
import OpnetNode.Api.WebSocketManager
import OpnetNode.Api.Equiv.WebSocketConnection
import OpnetNode.Api.Equiv.WebSocketManager
import OpnetNode.Threading.Thread
import OpnetNode.Threading.Equiv.Thread
import OpnetNode.Threading.Equiv.Threads
