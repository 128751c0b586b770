import OpnetNode.Epoch.EpochMerkleTree
import OpnetNode.JsMap
import OpnetNode.Transaction.SharedInteractionParameters

/-!
# The epoch submissions of a block

`Block.processSubmissions` takes the submissions of a block's transactions, drops those already
stored for the epoch, validates the others against the header that the epoch mines, and saves them.
A revert deletes the submissions confirmed from its height on.

* `extractUniqueSubmissions`, `filterExistingSubmissions`, `validateSubmissions`,
  `epochSubmissionDocuments`: the passes of `processSubmissions`.
* `SubmissionNode`: the chain a node has processed, and its collection of submissions.
* `step`: a block is processed, or its task is cancelled, before its submissions are checked or while
  they are being saved; a revert; a cancelled task goes on, and a write of its lands.

A stored submission carries what its validation gave (`validated`, `targetRoot`); the program keeps
of it only the hash.
-/

namespace OpnetNode.BlockSubmissions

open EpochManager EpochValidator SharedInteractionParameters

/-- `EPOCH.MIN_DIFFICULTY`. -/
def MIN_DIFFICULTY : ℕ := 35

/-- What the submissions of a block are checked with, besides the storage. -/
structure SubmissionEnvironment extends EpochEnvironment where
  /-- `new Address(key).isDead()`. -/
  isDead : Bytes → Bool
  allowUnsafeSignatures : Bool

/-- What `processSubmissions` reads of a transaction. -/
structure SubmissionTransaction where
  transactionId : Bytes
  hash : Bytes
  submission : Option Submission
  deriving DecidableEq, Repr

/-- What `processSubmissions` reads of a block, and what the node answers while it is processed. -/
structure SubmissionBlock where
  transactions : List SubmissionTransaction
  checksumRoot : Bytes
  /-- `getMLDSAPublicKey`, once the transactions are executed. -/
  getMLDSAPublicKey : Bytes → Option MLDSAPublicKey
  /-- An existence query throws. -/
  existenceFails : Bool

structure PendingTargetEpoch where
  checksumRoot : Bytes
  targetHash : Bytes
  nextEpochNumber : ℕ
  deriving DecidableEq, Repr

structure ValidatedSolutionResult where
  valid : Bool
  matchingBits : ℕ
  hash : Bytes
  reason : Option String
  deriving DecidableEq, Repr

/-- A document of the collection, with the validation that let it in. -/
structure StoredSubmission extends EpochSubmissionDocument where
  validated : ValidatedSolutionResult
  targetRoot : Bytes
  deriving DecidableEq, Repr

/-- What makes a submission unique. -/
def StoredSubmission.key (d : StoredSubmission) : ℕ × Bytes × Bytes :=
  (d.epochNumber, d.epochProposed.mldsaPublicKey, d.epochProposed.salt)

/-! ### The repository -/

def submissionExists (mldsaPublicKey salt : Bytes) (epochNumber : ℕ)
    (submissions : Collection StoredSubmission) : Bool :=
  submissions.any fun d => decide (d.key = (epochNumber, mldsaPublicKey, salt))

/-- `saveSubmission`: an upsert by the transaction's hash. -/
def saveSubmission (submission : StoredSubmission) :
    Collection StoredSubmission → Collection StoredSubmission :=
  Collection.upsertOne (fun d => decide (d.submissionTxHash = submission.submissionTxHash))
    (fun _ => submission) submission

def deleteSubmissionsFromBlock (blockHeight : ℕ) :
    Collection StoredSubmission → Collection StoredSubmission :=
  Collection.deleteMany fun d => decide (blockHeight ≤ d.confirmedAt)

/-- The saves run in parallel; here they come in the order of the list. -/
def saveSubmissions (submissions : List StoredSubmission) (stored : Collection StoredSubmission) :
    Collection StoredSubmission :=
  submissions.foldl (fun stored submission => saveSubmission submission stored) stored

/-! ### The target and the validation -/

/-- `getEpochData`: the header that an epoch mines. -/
def getEpochData (env : SubmissionEnvironment) (headers : List Bytes) (epochNumber : ℕ) :
    Except String PendingTargetEpoch :=
  if epochNumber = 0 then .error "Epoch 0 cannot be mined"
  else
    let targetBlockHeight := epochNumber * BLOCKS_PER_EPOCH - 1
    match headers[targetBlockHeight]? with
    | none => .error ("Block header not found for mining target height " ++
        toString targetBlockHeight ++ " (for epoch " ++ toString epochNumber ++ ")")
    | some checksumRoot => .ok ⟨checksumRoot, env.hashBuffer checksumRoot, epochNumber⟩

def getPendingEpochTarget (env : SubmissionEnvironment) (headers : List Bytes) (currentEpoch : ℕ) :
    Except String PendingTargetEpoch :=
  if currentEpoch = 0 then
    let target := List.replicate 32 0
    .ok ⟨target, env.hashBuffer target, 0⟩
  else getEpochData env headers currentEpoch

def validateEpochSubmission (env : SubmissionEnvironment) (submission : Submission)
    (blockHeight : ℕ) (pendingTarget : PendingTargetEpoch) : ValidatedSolutionResult :=
  let currentEpoch := blockHeight / BLOCKS_PER_EPOCH
  if currentEpoch = 0 then ⟨false, 0, [], some "Epoch is 0"⟩
  else if pendingTarget.nextEpochNumber ≠ currentEpoch then
    ⟨false, 0, [], some "Submission epoch does not match pending target epoch"⟩
  else
    let preimage :=
      calculatePreimage pendingTarget.checksumRoot submission.mldsaPublicKey submission.salt
    let hash := env.hashBuffer preimage
    let matchingBits := countMatchingBits hash pendingTarget.targetHash
    if matchingBits < MIN_DIFFICULTY then
      ⟨false, matchingBits, hash, some ("Matching bits below minimum difficulty (" ++
        toString matchingBits ++ " < " ++ toString MIN_DIFFICULTY ++ ")")⟩
    else if submission.salt.length ≠ 32 then
      ⟨false, matchingBits, hash, some "Salt is not 32 bytes."⟩
    else if submission.graffiti.any fun graffiti => decide (GRAFFITI_LENGTH < graffiti.length) then
      ⟨false, matchingBits, hash, some ("Graffiti is " ++
        toString (submission.graffiti.getD []).length ++ " bytes. Max is " ++
        toString GRAFFITI_LENGTH ++ " bytes.")⟩
    else ⟨true, matchingBits, hash, none⟩

/-! ### The passes -/

/-- `EpochSubmission`: a submission with the transaction that carries it. -/
structure EpochSubmission where
  submission : Submission
  transactionId : Bytes
  txHash : Bytes
  deriving DecidableEq, Repr

/-- `generateSubmissionKey`; the source joins the two hexadecimal texts by a hyphen. -/
def generateSubmissionKey (submission : Submission) : Bytes × Bytes :=
  (submission.salt, submission.mldsaPublicKey)

/-- The loop body of `extractUniqueSubmissions`. -/
def addSubmission (epochSubmissions : JsMap (Bytes × Bytes) EpochSubmission)
    (transaction : SubmissionTransaction) : JsMap (Bytes × Bytes) EpochSubmission :=
  match transaction.submission with
  | none => epochSubmissions
  | some submissionData =>
    if epochSubmissions.has (generateSubmissionKey submissionData) then epochSubmissions
    else epochSubmissions.set (generateSubmissionKey submissionData)
      ⟨submissionData, transaction.transactionId, transaction.hash⟩

def extractUniqueSubmissions (transactions : List SubmissionTransaction) : List EpochSubmission :=
  (transactions.foldl addSubmission JsMap.empty).vals

/-- An error of a query drops all submissions of the block. -/
def filterExistingSubmissions (stored : Collection StoredSubmission) (currentEpoch : ℕ)
    (existenceFails : Bool) (epochSubmissions : List EpochSubmission) : List EpochSubmission :=
  if existenceFails then []
  else epochSubmissions.filter fun data =>
    !submissionExists data.submission.mldsaPublicKey data.submission.salt currentEpoch stored

/-- Keep the valid submissions, with their results. -/
def validateSubmissions (env : SubmissionEnvironment) (height : ℕ)
    (pendingTarget : PendingTargetEpoch) (epochSubmissions : List EpochSubmission) :
    List (EpochSubmission × ValidatedSolutionResult) :=
  epochSubmissions.filterMap fun data =>
    let validationResult := validateEpochSubmission env data.submission height pendingTarget
    if validationResult.valid then some (data, validationResult) else none

/-- The miner's identity, if its submissions are taken. -/
def submissionWallet (env : SubmissionEnvironment) (block : SubmissionBlock)
    (mldsaPublicKey : Bytes) : Option MLDSAPublicKey :=
  match block.getMLDSAPublicKey mldsaPublicKey with
  | none => none
  | some walletInfo =>
    if env.isDead mldsaPublicKey then none
    else if env.allowUnsafeSignatures then some walletInfo
    -- without unsafe signatures the key must be exposed
    else if walletInfo.exposedBlockHeight.getD 0 = 0 then none
    else if (walletInfo.publicKey.map List.length) ≠ some (publicKeyLen .LEVEL2) then none
    else some walletInfo

/-- The documents `saveEpochSubmissions` saves. -/
def epochSubmissionDocuments (env : SubmissionEnvironment) (height : ℕ) (block : SubmissionBlock)
    (pendingTarget : PendingTargetEpoch)
    (validated : List (EpochSubmission × ValidatedSolutionResult)) : List StoredSubmission :=
  let currentEpoch := height / BLOCKS_PER_EPOCH
  validated.filterMap fun entry =>
    (submissionWallet env block entry.1.submission.mldsaPublicKey).map fun walletInfo =>
      { confirmedAt := height
        epochNumber := currentEpoch
        startBlock := currentEpoch * BLOCKS_PER_EPOCH
        submissionTxId := entry.1.transactionId
        submissionTxHash := entry.1.txHash
        submissionHash := entry.2.hash
        epochProposed :=
          { solution := entry.2.hash
            mldsaPublicKey := entry.1.submission.mldsaPublicKey
            legacyPublicKey := walletInfo.legacyPublicKey
            salt := entry.1.submission.salt
            graffiti := entry.1.submission.graffiti }
        validated := entry.2
        targetRoot := pendingTarget.checksumRoot }

/-- `processSubmissions`, up to the saves. -/
def processSubmissions (env : SubmissionEnvironment) (headers : List Bytes) (height : ℕ)
    (block : SubmissionBlock) (stored : Collection StoredSubmission) :
    Except String (List StoredSubmission) := do
  let currentEpoch := height / BLOCKS_PER_EPOCH
  let epochSubmissions := filterExistingSubmissions stored currentEpoch block.existenceFails
    (extractUniqueSubmissions block.transactions)
  let pendingTarget ← getPendingEpochTarget env headers currentEpoch
  let validated := validateSubmissions env height pendingTarget epochSubmissions
  .ok (epochSubmissionDocuments env height block pendingTarget validated)

/-! ### The node -/

/-- The blocks that are processed, the submissions stored, and what is left of cancelled tasks. -/
structure SubmissionNode where
  chain : List SubmissionBlock
  submissions : Collection StoredSubmission
  /-- The next block was cut short, and not reverted yet. -/
  interrupted : Bool
  /-- The tasks that have not read anything yet, with their heights. -/
  cancelled : List (ℕ × SubmissionBlock)
  /-- The writes under way. -/
  orphaned : List StoredSubmission

/-- What can happen to a node, as far as submissions go. -/
inductive SubmissionEvent where
  | processBlock (block : SubmissionBlock)
  /-- The next block is cut short: of its submissions, those chosen by `landed` are written before
  its data is reverted. -/
  | interruptBlock (block : SubmissionBlock) (landed : StoredSubmission → Bool)
  /-- The task of the next block is cancelled before it has checked its submissions. -/
  | cancelTask (block : SubmissionBlock)
  /-- A cancelled task goes on: it checks its submissions against what is stored now. -/
  | cancelledReads (i : ℕ)
  /-- A revert, or the purge at a start. -/
  | revertDataUntilBlock (blockId : ℕ)
  /-- A write of a cancelled task lands. -/
  | orphanLanded (i : ℕ)

namespace SubmissionNode

def init : SubmissionNode := ⟨[], [], false, [], []⟩

def headers (node : SubmissionNode) : List Bytes := node.chain.map SubmissionBlock.checksumRoot

/-- The height of the next block. -/
def height (node : SubmissionNode) : ℕ := node.chain.length

def transactionHashes (chain : List SubmissionBlock) : List Bytes :=
  chain.flatMap fun block => block.transactions.map SubmissionTransaction.hash

/-- No transaction of a chain occurs twice: what the Bitcoin node promises of its blocks. -/
def extendsChain (chain : List SubmissionBlock) (block : SubmissionBlock) : Bool :=
  decide (transactionHashes (chain ++ [block])).Nodup

def nextSubmissions (env : SubmissionEnvironment) (node : SubmissionNode) (block : SubmissionBlock) :
    Option (List StoredSubmission) :=
  if node.interrupted then none
  else if extendsChain node.chain block = false then none
  else (processSubmissions env node.headers node.height block node.submissions).toOption

def step (env : SubmissionEnvironment) (node : SubmissionNode) :
    SubmissionEvent → Option SubmissionNode
  | .processBlock block =>
    (nextSubmissions env node block).map fun submissions =>
      { node with
        chain := node.chain ++ [block]
        submissions := saveSubmissions submissions node.submissions }
  | .interruptBlock block landed =>
    (nextSubmissions env node block).map fun submissions =>
      { node with
        submissions := saveSubmissions (submissions.filter landed) node.submissions
        interrupted := true
        orphaned := node.orphaned ++ submissions.filter fun d => !landed d }
  | .cancelTask block =>
    if node.interrupted then none
    else if extendsChain node.chain block = false then none
    else some
      { node with
        interrupted := true
        cancelled := node.cancelled ++ [(node.height, block)] }
  | .cancelledReads i =>
    (node.cancelled[i]?).map fun task =>
      let submissions := processSubmissions env node.headers task.1 task.2 node.submissions
      { node with
        cancelled := node.cancelled.eraseIdx i
        orphaned := node.orphaned ++ submissions.toOption.getD [] }
  | .revertDataUntilBlock blockId =>
    if blockId ≤ node.height then
      some
        { node with
          chain := node.chain.take blockId
          submissions := deleteSubmissionsFromBlock blockId node.submissions
          interrupted := false }
    else none
  | .orphanLanded i =>
    (node.orphaned[i]?).map fun submission =>
      { node with
        submissions := saveSubmission submission node.submissions
        orphaned := node.orphaned.eraseIdx i }

/-- What finalising an epoch reads of the node. -/
def store (node : SubmissionNode) (getWitnesses : ℕ → List BlockWitness) : EpochStore where
  checksumRoots := node.headers
  getSubmissionsByEpochNumber epochNumber :=
    (node.submissions.filter fun d => decide (d.epochNumber = epochNumber)).map
      StoredSubmission.toEpochSubmissionDocument
  getWitnesses := getWitnesses

end SubmissionNode

end OpnetNode.BlockSubmissions
