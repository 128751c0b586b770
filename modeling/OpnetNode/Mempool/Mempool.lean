import OpnetNode.Mempool.MempoolEviction
import OpnetNode.Transaction.TransactionFactory

/-!
# Broadcast transactions

`Mempool.onTransactionReceived` takes one transaction and `onTransactionPackageReceived` several. They
are verified and handed to Bitcoin Core; one that it accepts is stored, and what it evicts is deleted.
Requests run side by side, each up to its next `await`. `MempoolManager` writes to the same
collection: in rounds, it stores what Bitcoin Core lists and deletes what it does not list.

* `MempoolRequest`: a request, and how far it is; `MempoolRequest.goOn` is what it does with an answer.
* `PopulationPhase`: how far a round of `generateMempoolPopulation` is.
* `MempoolState.step`: a request arrives or goes on, a round starts or goes on, or another part of the
  node deletes transactions.

The search for descendants is taken call by call, its stack being `todo`; what it collects, a set, is
a list. Of a transaction only what decides its way is kept, of an answer what is read of it. A write
may be reported as failed though it was made (`landed`); such a deletion is a `removed` and a failure.
-/

namespace OpnetNode

open TransactionFactory (OPNetTransactionTypes)

/-! ### Requests and answers -/

structure OPNetBroadcastData where
  raw : Bytes
  psbt : Bool
  id : Option String
  deriving DecidableEq, Repr

structure IMempoolTransactionObj where
  id : String
  data : Bytes
  transactionType : OPNetTransactionTypes
  inputs : List SpentOutPoint
  deriving DecidableEq, Repr

structure BroadcastResponse where
  success : Bool
  result : Option String
  error : Option String
  transactionType : Option OPNetTransactionTypes
  deriving DecidableEq, Repr

structure TestMempoolAcceptResult where
  txid : String
  allowed : Option Bool
  rejectReason : Option String
  deriving DecidableEq, Repr

structure PackageBroadcastTxResult where
  txid : String
  success : Bool
  error : Option String
  transactionType : OPNetTransactionTypes
  deriving DecidableEq, Repr

/-- `packageMsg` is `packageResult.package_msg`. -/
structure MempoolPackageBroadcastResponse where
  success : Bool
  error : Option String
  packageMsg : Option String
  testResults : Option (List TestMempoolAcceptResult)
  txResults : List PackageBroadcastTxResult
  fellBackToSequential : Bool
  deriving DecidableEq, Repr

inductive MempoolResponse where
  | transaction (response : BroadcastResponse)
  | package (response : MempoolPackageBroadcastResponse)
  deriving DecidableEq, Repr

/-- `parseInputs` is what `parseAndStoreInputOutputs` appends to the inputs. -/
structure MempoolEnvironment where
  PREVENT_TX_BROADCAST_IF_NOT_SYNCED : Bool
  ALLOW_LARGE_TRANSACTIONS : Bool
  MAXIMUM_TRANSACTION_BROADCAST_SIZE : ℕ
  parseInputs : Bytes → List SpentOutPoint

/-- `verifyTransactionSize` of a transaction that is not a PSBT: whether it is too large. -/
def MempoolEnvironment.verifyTransactionSize (env : MempoolEnvironment) (byteLength : ℕ) : Bool :=
  env.MAXIMUM_TRANSACTION_BROADCAST_SIZE < byteLength && !env.ALLOW_LARGE_TRANSACTIONS

/-! ### A request -/

inductive RequestKind where
  | single
  | package (isPackage : Bool)
  deriving DecidableEq, Repr

/-- Which function stores a transaction. -/
inductive StoreRoute where
  | decodeTransactionAndProcess
  | broadcastTransactionsAfterTest
  | storeVerifiedTransactions
  deriving DecidableEq, Repr

/-- Where `cleanupEvictedTransactions` waits. -/
inductive Cleanup where
  | finding
  /-- `findDirectDescendants` of the first of `todo`. -/
  | searching (todo visited toDelete : List String)
  | deleting (toDelete : List String)
  deriving DecidableEq, Repr

/-- Where a request waits; `i` is a place in its transactions. -/
inductive RequestPhase where
  /-- `hasTransactionById`. -/
  | checking (transaction : IMempoolTransactionObj) (later : List (String × Bytes))
  | verifying (transaction : IMempoolTransactionObj) (later : List (String × Bytes))
  /-- `testMempoolAccept`. -/
  | testing
  /-- `submitPackage`. -/
  | submitting
  /-- `sendRawTransaction`. -/
  | broadcasting (i : ℕ)
  | storing (route : StoreRoute) (i : ℕ)
  | cleaning (route : StoreRoute) (i : ℕ) (cleanup : Cleanup)
  | answered (response : MempoolResponse)
  /-- The request throws. -/
  | rejected
  deriving DecidableEq, Repr

structure MempoolRequest where
  kind : RequestKind
  transactions : List IMempoolTransactionObj
  /-- What Bitcoin Core answered to a transaction of its own. -/
  broadcast : Option BroadcastResponse
  packageMsg : Option String
  testResults : Option (List TestMempoolAcceptResult)
  txResults : List PackageBroadcastTxResult
  fellBackToSequential : Bool
  phase : RequestPhase
  deriving DecidableEq, Repr

/-- What a request waits for. -/
inductive CallAnswer where
  /-- A call of the repository other than a write. -/
  | done
  | verified (answer : Except String OPNetTransactionTypes)
  | tested (answer : Option (List TestMempoolAcceptResult))
  | submitted (packageMsg : Option String)
  | broadcast (answer : Except String (Option BroadcastResponse))
  | stored (ok landed : Bool)
  | threw
  deriving DecidableEq

/-- A request that has gone on, with the collection. -/
structure RequestProgress where
  request : MempoolRequest
  mempool : MempoolTransactions

namespace MempoolRequest

open MempoolRepository

def startOf (kind : RequestKind) (phase : RequestPhase) : MempoolRequest where
  kind := kind
  transactions := []
  broadcast := none
  packageMsg := none
  testResults := none
  txResults := []
  fellBackToSequential := false
  phase := phase

/-- A failure that carries nothing but a text. -/
def refusal : RequestKind → String → MempoolResponse
  | .single, result => .transaction ⟨false, some result, none, none⟩
  | .package _, error => .package ⟨false, some error, none, none, [], false⟩

def answer (s : MempoolRequest) (response : MempoolResponse) : MempoolRequest :=
  { s with phase := .answered response }

def refuse (s : MempoolRequest) (text : String) : MempoolRequest := s.answer (refusal s.kind text)

/-- `txResults.push`. -/
def report (s : MempoolRequest) (result : PackageBroadcastTxResult) : MempoolRequest :=
  { s with txResults := s.txResults ++ [result] }

def packageResponse (s : MempoolRequest) (success : Bool) (error : Option String) :
    MempoolPackageBroadcastResponse where
  success := success
  error := error
  packageMsg := s.packageMsg
  testResults := s.testResults
  txResults := s.txResults
  fellBackToSequential := s.fellBackToSequential

/-! #### Verification -/

/-- The loop over the transactions of a package: the rest of it, or the test. -/
def nextInPackage (env : MempoolEnvironment) (s : MempoolRequest) : List (String × Bytes) → MempoolRequest
  | [] => { s with phase := .testing }
  | (id, raw) :: later =>
    if env.verifyTransactionSize raw.length then s.refuse "Transaction too large"
    else { s with phase := .checking ⟨id, raw, .Generic, []⟩ later }

def broadcastBitcoinTransaction (s : MempoolRequest) (i : ℕ) : MempoolRequest :=
  { s with phase := .broadcasting i }

def onChecked (s : MempoolRequest) (mempool : MempoolTransactions)
    (transaction : IMempoolTransactionObj) (later : List (String × Bytes)) : MempoolRequest :=
  if (mempool.lookup transaction.id).isSome then
    match s.kind with
    | .single => s.refuse "Transaction already in mempool"
    | .package _ => s.refuse ("Transaction " ++ transaction.id ++ " already in mempool")
  else { s with phase := .verifying transaction later }

def onVerified (env : MempoolEnvironment) (s : MempoolRequest) (transaction : IMempoolTransactionObj)
    (later : List (String × Bytes)) : Except String OPNetTransactionTypes → MempoolRequest
  | .error error =>
    match s.kind with
    | .single => s.refuse ("Could not decode transaction (" ++ error ++ ")")
    | .package _ =>
      s.refuse ("Could not decode transaction " ++ transaction.id ++ " (" ++ error ++ ")")
  | .ok transactionType =>
    let kept := { s with transactions := s.transactions ++ [{ transaction with transactionType }] }
    match s.kind with
    | .single => kept.broadcastBitcoinTransaction 0
    | .package _ => kept.nextInPackage env later

/-! #### Bitcoin Core -/

/-- The head of the loop of `broadcastTransactionsAfterTest`. -/
def broadcastNext (s : MempoolRequest) (i : ℕ) : MempoolRequest :=
  match s.transactions[i]? with
  | some _ => s.broadcastBitcoinTransaction i
  | none => s.answer (.package (s.packageResponse true none))

/-- `parseAndStoreInputOutputs`, with the id of a transaction. -/
def parseAndStoreInputOutputs (env : MempoolEnvironment) (s : MempoolRequest) (i : ℕ) (id : String)
    (transaction : IMempoolTransactionObj) : MempoolRequest :=
  { s with
    transactions := s.transactions.set i
      { transaction with
        id
        inputs := transaction.inputs ++ env.parseInputs transaction.data } }

/-- The head of the loop of `storeVerifiedTransactions`. -/
def storeNext (env : MempoolEnvironment) (s : MempoolRequest) (i : ℕ) : MempoolRequest :=
  match s.transactions[i]? with
  | some transaction =>
    { s.parseAndStoreInputOutputs env i transaction.id transaction with
      phase := .storing .storeVerifiedTransactions i }
  | none => s.answer (.package (s.packageResponse true none))

/-- Each transaction is broadcast by itself, from the first on. -/
def broadcastTransactionsAfterTest (s : MempoolRequest) : MempoolRequest :=
  { s with txResults := [] }.broadcastNext 0

/-- `submitPackage` threw, or what followed it. -/
def fallBack (s : MempoolRequest) : MempoolRequest :=
  { s with packageMsg := none, fellBackToSequential := true }.broadcastTransactionsAfterTest

def rejectionError (result : TestMempoolAcceptResult) : String :=
  "Transaction " ++ result.txid ++ " rejected: " ++ result.rejectReason.getD "unknown"

def onTested (s : MempoolRequest) (isPackage : Bool) :
    Option (List TestMempoolAcceptResult) → MempoolRequest
  | none => s.refuse "testMempoolAccept failed"
  | some testResults =>
    let tested := { s with testResults := some testResults }
    match testResults.find? fun result => result.allowed == some false with
    | some result =>
      tested.answer (.package (tested.packageResponse false (some (rejectionError result))))
    | none =>
      if isPackage then { tested with phase := .submitting }
      else tested.broadcastTransactionsAfterTest

def onSubmitted (env : MempoolEnvironment) (s : MempoolRequest) : Option String → MempoolRequest
  | none => s.fallBack
  | some packageMsg =>
    let submitted := { s with packageMsg := some packageMsg }
    if packageMsg = "success" then submitted.storeNext env 0
    else submitted.answer (.package (submitted.packageResponse false (some packageMsg)))

/-- What `broadcastBitcoinTransaction` returns. -/
def broadcastAnswer : Except String (Option BroadcastResponse) → Option BroadcastResponse
  | .error message => some ⟨false, none, some message, none⟩
  | .ok response => response

/-- `broadcast && broadcast.result`: the id that Bitcoin Core gave. -/
def resultOf (broadcast : Option BroadcastResponse) : Option String :=
  (broadcast.bind BroadcastResponse.result).filter fun result => result ≠ ""

/-- The answer to a transaction of its own. -/
def singleResponse (broadcast : Option BroadcastResponse) (transaction : IMempoolTransactionObj) :
    MempoolResponse :=
  let response := broadcast.getD
    ⟨false, some "Could not broadcast transaction to the network.", none, none⟩
  .transaction { response with transactionType := some transaction.transactionType }

def onBroadcast (env : MempoolEnvironment) (s : MempoolRequest) (i : ℕ)
    (transaction : IMempoolTransactionObj) (broadcast : Option BroadcastResponse) : MempoolRequest :=
  match s.kind, resultOf broadcast with
  | .single, none => s.answer (singleResponse broadcast transaction)
  | .single, some id =>
    { s.parseAndStoreInputOutputs env i id transaction with
      broadcast
      phase := .storing .decodeTransactionAndProcess i }
  | .package _, none =>
    let error := (broadcast.bind BroadcastResponse.error).getD "Broadcast failed"
    let failed := s.report ⟨transaction.id, false, some error, transaction.transactionType⟩
    failed.answer
      (.package (failed.packageResponse false (some "Sequential broadcast halted on failure")))
  | .package _, some id =>
    { s.parseAndStoreInputOutputs env i id transaction with
      phase := .storing .broadcastTransactionsAfterTest i }

/-! #### The collection -/

/-- What a request does with a transaction that is stored, or could not be stored, once the evicted
transactions are deleted. -/
def afterStore (env : MempoolEnvironment) (s : MempoolRequest) (route : StoreRoute) (i : ℕ)
    (transaction : IMempoolTransactionObj) (stored : Bool) : MempoolRequest :=
  match route with
  | .decodeTransactionAndProcess =>
    if stored then s.answer (singleResponse s.broadcast transaction)
    else s.refuse "Could not store transaction in mempool."
  | .broadcastTransactionsAfterTest =>
    -- it is in Bitcoin Core, whether it could be stored or not
    (s.report ⟨transaction.id, true, none, transaction.transactionType⟩).broadcastNext (i + 1)
  | .storeVerifiedTransactions =>
    let error := if stored then none else some "Could not store in mempool"
    (s.report ⟨transaction.id, stored, error, transaction.transactionType⟩).storeNext env (i + 1)

/-- What is stored of a transaction. -/
def document (transaction : IMempoolTransactionObj) : SpendingTransaction :=
  ⟨transaction.id, transaction.inputs⟩

def onStored (env : MempoolEnvironment) (s : MempoolRequest) (mempool : MempoolTransactions)
    (route : StoreRoute) (i : ℕ) (transaction : IMempoolTransactionObj) (ok landed : Bool) :
    RequestProgress where
  request :=
    if ok then { s with phase := .cleaning route i .finding }
    else s.afterStore env route i transaction false
  mempool := if landed then storeTransaction (document transaction) mempool else mempool

/-- The search goes on with what was not visited, or is over. -/
def searchOn (todo visited toDelete : List String) : Cleanup :=
  match todo.dropWhile fun id => visited.contains id with
  | [] => .deleting toDelete
  | id :: rest => .searching (id :: rest) visited toDelete

def onCleanup (env : MempoolEnvironment) (s : MempoolRequest) (mempool : MempoolTransactions)
    (route : StoreRoute) (i : ℕ) (transaction : IMempoolTransactionObj) : Cleanup → RequestProgress
  | .finding =>
    let conflicts :=
      (findConflictingTransactions (document transaction) mempool.docs).map SpendingTransaction.id
    if conflicts = [] then ⟨s.afterStore env route i transaction true, mempool⟩
    else ⟨{ s with phase := .cleaning route i (searchOn conflicts [] conflicts) }, mempool⟩
  | .searching [] _ toDelete =>
    ⟨{ s with phase := .cleaning route i (.deleting toDelete) }, mempool⟩
  | .searching (id :: rest) visited toDelete =>
    let direct := (findDirectDescendants id mempool.docs).map SpendingTransaction.id
    ⟨{ s with
        phase := .cleaning route i (searchOn (direct ++ rest) (id :: visited) (toDelete ++ direct)) },
      mempool⟩
  | .deleting toDelete =>
    ⟨s.afterStore env route i transaction true,
      mempool.deleteMany fun tx => toDelete.contains tx.id⟩

/-! #### Failures -/

def onThrow (s : MempoolRequest) : MempoolRequest :=
  match s.kind, s.phase with
  | .single, _ => s.refuse "Bad transaction."
  | .package _, .submitting => s.fallBack
  | .package _, .cleaning .storeVerifiedTransactions _ _ => s.fallBack
  | .package _, _ => { s with phase := .rejected }

/-- What can throw: the repository when it reads or deletes, the verifier, and the RPC thread. What is
broadcast and what is stored is awaited in a `try`. -/
def canThrow : RequestPhase → Bool
  | .checking _ _ | .verifying _ _ | .testing | .submitting | .cleaning _ _ _ => true
  | .broadcasting _ | .storing _ _ | .answered _ | .rejected => false

/-- What a request does with an answer. -/
def goOn (env : MempoolEnvironment) (s : MempoolRequest) (mempool : MempoolTransactions) :
    CallAnswer → Option RequestProgress
  | .done =>
    match s.phase with
    | .checking transaction later => some ⟨s.onChecked mempool transaction later, mempool⟩
    | .cleaning route i cleanup =>
      s.transactions[i]?.map fun transaction => s.onCleanup env mempool route i transaction cleanup
    | _ => none
  | .verified verdict =>
    match s.phase with
    | .verifying transaction later => some ⟨s.onVerified env transaction later verdict, mempool⟩
    | _ => none
  | .tested testResults =>
    match s.kind, s.phase with
    | .package isPackage, .testing => some ⟨s.onTested isPackage testResults, mempool⟩
    | _, _ => none
  | .submitted packageMsg =>
    match s.phase with
    | .submitting => some ⟨s.onSubmitted env packageMsg, mempool⟩
    | _ => none
  | .broadcast response =>
    match s.phase with
    | .broadcasting i =>
      s.transactions[i]?.map fun transaction =>
        ⟨s.onBroadcast env i transaction (broadcastAnswer response), mempool⟩
    | _ => none
  | .stored ok landed =>
    match s.phase with
    | .storing route i =>
      s.transactions[i]?.map fun transaction => s.onStored env mempool route i transaction ok landed
    | _ => none
  | .threw => if canThrow s.phase then some ⟨s.onThrow, mempool⟩ else none

end MempoolRequest

/-! ### Rounds -/

/-- Where `generateMempoolPopulation` waits. -/
inductive PopulationPhase where
  | idle
  /-- `getRawMempool`. -/
  | listing
  /-- `getAllTransactionIncluded`. -/
  | including (listed unknown : List String)
  | fetching (listed newTxs : List String)
  /-- `storeTransactions`; `later` is what follows the batch. -/
  | storing (listed : List String) (batch later : List SpendingTransaction)
  /-- `getAllTransactionIds` of `cleanUpDB`; `last` in the `finally`. -/
  | clearing (listed : List String) (last : Bool)
  | deleting (listed toDelete : List String) (last : Bool)
  /-- A round threw, and no other is started. -/
  | stopped
  deriving DecidableEq, Repr

inductive PopulationAnswer where
  | listed (txsList : Option (List String))
  /-- A failure is taken as that no transaction is known. -/
  | included (ok : Bool)
  /-- The transactions that could be fetched. -/
  | fetched (txs : List (String × Bytes))
  /-- A write of the batch ends; a failure is only logged. -/
  | stored (place : ℕ) (landed : Bool)
  | done
  | threw
  deriving DecidableEq, Repr

/-- The batches of `storeTransactions`. -/
def STORE_BATCH : ℕ := 100

namespace PopulationPhase

/-- The `finally` of a round. -/
def finish (listed : List String) : PopulationPhase :=
  if listed = [] then .idle else .clearing listed true

/-- A batch is stored, and the next one starts. -/
def storeBatch (listed : List String) : List SpendingTransaction → PopulationPhase
  | [] => finish listed
  | txs => .storing listed (txs.take STORE_BATCH) (txs.drop STORE_BATCH)

/-- What follows `cleanUpDB`. -/
def afterClearing (listed : List String) (last : Bool) : PopulationPhase :=
  if last then .idle else finish listed

end PopulationPhase

/-! ### The two of them -/

structure MempoolState where
  mempool : MempoolTransactions
  requests : List MempoolRequest
  population : PopulationPhase
  mempoolTransactionCache : List String

inductive MempoolEvent where
  /-- `hasConsensus()`, and whether the node is synchronised. -/
  | received (hasConsensus fullSync : Bool) (data : OPNetBroadcastData)
  | packageReceived (hasConsensus fullSync : Bool) (isPackage : Bool) (txs : List (String × Bytes))
  | goOn (request : ℕ) (answer : CallAnswer)
  /-- The timer of `startFetchingMempool`. -/
  | populate
  | populationGoesOn (answer : PopulationAnswer)
  /-- Another part of the node deletes transactions. -/
  | removed (ids : List String)
  deriving DecidableEq

namespace MempoolState

open MempoolRepository PopulationPhase MempoolRequest

/-- `backup` is what `restoreMempoolBackup` read. -/
def start (mempool : MempoolTransactions) (backup : List String) : MempoolState where
  mempool := mempool
  requests := []
  population := .idle
  mempoolTransactionCache := backup

def notSynchronised : String :=
  "This node is still processing the latest block. Transaction broadcasting is temporarily disabled for your safety until full synchronization completes; please reload this page to ensure you’re viewing the most up-to-date chain data before trying again."

def onTransactionReceived (env : MempoolEnvironment) (hasConsensus fullSync : Bool)
    (data : OPNetBroadcastData) : MempoolRequest :=
  let refused := fun text => startOf .single (.answered (refusal .single text))
  if !hasConsensus then refused "Consensus not reached"
  else if env.PREVENT_TX_BROADCAST_IF_NOT_SYNCED && !fullSync then refused notSynchronised
  else if data.psbt then refused "PSBT transactions are not supported yet."
  else
    match data.id.filter fun id => id ≠ "" with
    | none => refused "No transaction hash provided"
    | some id =>
      if env.verifyTransactionSize data.raw.length then refused "Transaction too large"
      else startOf .single (.checking ⟨id, data.raw, .Generic, []⟩ [])

def onTransactionPackageReceived (env : MempoolEnvironment) (hasConsensus fullSync : Bool)
    (isPackage : Bool) (txs : List (String × Bytes)) : MempoolRequest :=
  let kind := RequestKind.package isPackage
  let refused := fun text => startOf kind (.answered (refusal kind text))
  if !hasConsensus then refused "Consensus not reached"
  else if env.PREVENT_TX_BROADCAST_IF_NOT_SYNCED && !fullSync then refused "Node not synchronized"
  else (startOf kind .testing).nextInPackage env txs

/-- The listing of Bitcoin Core arrives. -/
def onListed (s : MempoolState) : Option (List String) → MempoolState
  | none => { s with population := .idle }
  | some txsList =>
    let unknown := txsList.filter fun tx => !s.mempoolTransactionCache.contains tx
    { s with
      mempoolTransactionCache := txsList
      population := if unknown = [] then .clearing txsList false else .including txsList unknown }

def onIncluded (s : MempoolState) (listed unknown : List String) (ok : Bool) : MempoolState :=
  let newTxs := unknown.filter fun tx => !(ok && (s.mempool.lookup tx).isSome)
  { s with
    population := if newTxs = [] then .clearing listed false else .fetching listed newTxs }

def onFetched (env : MempoolEnvironment) (s : MempoolState) (listed : List String)
    (txs : List (String × Bytes)) : MempoolState :=
  { s with
    population :=
      if txs = [] then .clearing listed false
      else storeBatch listed (txs.map fun tx => ⟨tx.1, env.parseInputs tx.2⟩) }

def onPopulationStored (s : MempoolState) (listed : List String)
    (batch later : List SpendingTransaction) (place : ℕ) (tx : SpendingTransaction)
    (landed : Bool) : MempoolState :=
  { s with
    mempool := if landed then storeTransaction tx s.mempool else s.mempool
    population :=
      match batch.eraseIdx place with
      | [] => storeBatch listed later
      | rest => .storing listed rest later }

/-- `cleanUpDB` knows the ids of the collection. -/
def onClearing (s : MempoolState) (listed : List String) (last : Bool) : MempoolState :=
  let toDelete :=
    (s.mempool.docs.map SpendingTransaction.id).filter fun id => !listed.contains id
  { s with
    population :=
      if toDelete = [] then afterClearing listed last else .deleting listed toDelete last }

def populationGoesOn (env : MempoolEnvironment) (s : MempoolState) :
    PopulationAnswer → Option MempoolState
  | .listed txsList =>
    match s.population with
    | .listing => some (s.onListed txsList)
    | _ => none
  | .included ok =>
    match s.population with
    | .including listed unknown => some (s.onIncluded listed unknown ok)
    | _ => none
  | .fetched txs =>
    match s.population with
    | .fetching listed newTxs =>
      if (txs.map Prod.fst).isSublist newTxs then some (s.onFetched env listed txs) else none
    | _ => none
  | .stored place landed =>
    match s.population with
    | .storing listed batch later =>
      batch[place]?.map fun tx => s.onPopulationStored listed batch later place tx landed
    | _ => none
  | .done =>
    match s.population with
    | .clearing listed last => some (s.onClearing listed last)
    | .deleting listed toDelete last =>
      some
        { s with
          mempool := s.mempool.deleteMany fun tx => toDelete.contains tx.id
          population := afterClearing listed last }
    | _ => none
  | .threw =>
    match s.population with
    | .listing => some { s with population := .idle }
    | .fetching listed _ => some { s with population := finish listed }
    | .clearing listed false | .deleting listed _ false =>
      some { s with population := finish listed }
    | .clearing _ true | .deleting _ _ true => some { s with population := .stopped }
    | _ => none

def step (env : MempoolEnvironment) (s : MempoolState) : MempoolEvent → Option MempoolState
  | .received hasConsensus fullSync data =>
    some
      { s with
        requests := s.requests ++ [onTransactionReceived env hasConsensus fullSync data] }
  | .packageReceived hasConsensus fullSync isPackage txs =>
    some
      { s with
        requests := s.requests ++
          [onTransactionPackageReceived env hasConsensus fullSync isPackage txs] }
  | .goOn request answer =>
    s.requests[request]?.bind fun waiting =>
      (waiting.goOn env s.mempool answer).map fun progress =>
        { s with
          mempool := progress.mempool
          requests := s.requests.set request progress.request }
  | .populate =>
    match s.population with
    | .idle => some { s with population := .listing }
    | _ => none
  | .populationGoesOn answer => s.populationGoesOn env answer
  | .removed ids => some { s with mempool := s.mempool.deleteMany fun tx => ids.contains tx.id }

end MempoolState

end OpnetNode
