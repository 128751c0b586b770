import OpnetNode.Transition
import OpnetNode.Mldsa.MLDSAPublicKeyRepository

/-!
# Linking an ML-DSA key, and who sent a transaction

A transaction carries the sender's legacy key and possibly a request that links this key to a
hashed ML-DSA key of the sender's choice. `assignMLDSAToLegacy` checks and records the request, or
looks the sender up when there is none. Links wait in three pending maps until the block is
completed; the lookup asks these maps first and the collection after them.

* `getMLDSAPublicKeyFromLegacyKey`: the lookup.
* `addMLDSAInfoToStore`/`exposeMLDSAPublicKey`: the checks on a request.
* `mldsaStep`: one event: a transaction, the completion of a block, a revert.

Hashing, signature verification and the tweak that takes a legacy key to its tweaked key are
parameters, gathered in `LinkEnvironment`.
-/

namespace OpnetNode

open MLDSAPublicKeyRepository

structure MLDSARequestData where
  verifyRequest : Bool
  hashedPublicKey : Bytes
  publicKey : Option Bytes
  level : MLDSASecurityLevel
  mldsaSignature : Option Bytes
  legacySignature : Bytes
  deriving DecidableEq, Repr

structure LinkEnvironment where
  /-- `tweakedPublicKeyToBuffer` of an address with the given legacy key. -/
  tweakedPublicKey : Bytes → Bytes
  sha256 : Bytes → Bytes
  /-- `MessageSigner.verifySignature`: tweaked key, message, signature. -/
  verifySignature : Bytes → Bytes → Bytes → Bool
  /-- `MessageSigner.verifyMLDSASignature`: public key, level, message, signature. -/
  verifyMLDSASignature : Bytes → MLDSASecurityLevel → Bytes → Bytes → Bool
  levelToU8 : MLDSASecurityLevel → UInt8
  ENABLED_LEVELS : List MLDSASecurityLevel
  PROTOCOL_ID : Bytes
  chainId : Bytes

/-- The VM manager and the collection, as far as identities go. `links` is not in the program: it
lists the requests that were recorded, in the blocks that still stand. -/
structure MLDSANode where
  keys : Keys
  mldsaToStore : AddressMap MLDSAUpdateData
  mldsaToStoreLegacy : AddressMap Bytes
  mldsaToStoreByHash : AddressMap Bytes
  mldsaCacheFromLegacy : AddressMap (Option MLDSAPublicKey)
  height : ℕ
  links : List MLDSAPublicKey

namespace MLDSANode

def init : MLDSANode := ⟨[], [], [], [], [], 0, []⟩

/-- `VMManager.clear`. -/
def clear (node : MLDSANode) : MLDSANode :=
  { node with
    mldsaToStore := []
    mldsaToStoreLegacy := []
    mldsaToStoreByHash := []
    mldsaCacheFromLegacy := [] }

/-- The record linked to a tweaked key, and the node with the answer cached. -/
def getMLDSAPublicKeyFromLegacyKey (tweakedPublicKey : Bytes) (node : MLDSANode) :
    Option MLDSAPublicKey × MLDSANode :=
  match node.mldsaToStoreLegacy.get tweakedPublicKey with
  | some cachedAddress => ((node.mldsaToStore.get cachedAddress).map MLDSAUpdateData.data, node)
  | none =>
    match node.mldsaCacheFromLegacy.get tweakedPublicKey with
    | some cached => (cached, node)
    | none =>
      -- unlike the pending maps, the collection is asked for the key in any role
      let publicKeyData := getByHashedOrLegacy tweakedPublicKey node.height node.keys
      (publicKeyData,
        { node with
          mldsaCacheFromLegacy := node.mldsaCacheFromLegacy.set tweakedPublicKey publicKeyData })

/-! ### Recording a request -/

/-- Whether to go on with a request: not when the same user already has it pending. Throws when a
pending request of somebody else is in the way. -/
def validateMLDSALinkRequest (env : LinkEnvironment) (mldsaPublicKey : MLDSAPublicKey)
    (node : MLDSANode) : Except String Bool :=
  let address := mldsaPublicKey.hashedPublicKey
  match node.mldsaToStore.get address with
  | some existingEntry =>
    if existingEntry.data.legacyPublicKey = mldsaPublicKey.legacyPublicKey then .ok false
    else .error "MLDSA hashed public key is already pending to be linked to a different legacy key in current block."
  | none =>
    let tweakedAddress := env.tweakedPublicKey mldsaPublicKey.legacyPublicKey
    if (node.mldsaToStoreLegacy.get tweakedAddress).isSome then
      .error "Legacy key is already pending to be linked to a different MLDSA key in current block."
    else if (node.mldsaToStoreByHash.get address).any
        fun existingLegacyKey => existingLegacyKey ≠ mldsaPublicKey.legacyPublicKey then
      .error "MLDSA hashed public key is already pending to be linked to a different legacy key in current block."
    else .ok true

/-- Whether the collection already holds what a request asks for. -/
def shouldInsertMLDSAKey (hashedPublicKey legacyPublicKey : Bytes) (level : MLDSASecurityLevel)
    (isExpose : Bool) (node : MLDSANode) : Except String Bool := do
  let exists' ← existence hashedPublicKey legacyPublicKey node.keys
  let exist := exists'.hashedExists || exists'.legacyExists
  if exists'.hashedExists ≠ exists'.legacyExists then
    .error "Can not reassign existing MLDSA public key to legacy or hashed key."
  else if exists'.hashedExists && exists'.legacyExists && !exists'.sameId then
    .error "Conflicting MLDSA public key exists for legacy and hashed keys."
  else if exist && decide (exists'.level ≠ some level) then
    .error "Existing MLDSA public key level mismatch."
  -- the key can still be added, to a new link or to one without its key
  else if isExpose && !(exists'.publicKeyExists.getD false) then .ok false
  else .ok exist

/-- Put a request into the pending maps. -/
def setPending (env : LinkEnvironment) (exposePublicKey : Bool) (mldsaPublicKey : MLDSAPublicKey)
    (node : MLDSANode) : MLDSANode :=
  let address := mldsaPublicKey.hashedPublicKey
  let tweakedAddress := env.tweakedPublicKey mldsaPublicKey.legacyPublicKey
  { node with
    mldsaToStore := node.mldsaToStore.set address ⟨exposePublicKey, mldsaPublicKey⟩
    mldsaToStoreLegacy := node.mldsaToStoreLegacy.set tweakedAddress address
    mldsaToStoreByHash := node.mldsaToStoreByHash.set address mldsaPublicKey.legacyPublicKey
    links := node.links ++ [mldsaPublicKey] }

/-- What `addMLDSAInfoToStore` and `exposeMLDSAPublicKey` share after their first check. -/
def recordRequest (env : LinkEnvironment) (exposePublicKey : Bool) (mldsaPublicKey : MLDSAPublicKey)
    (node : MLDSANode) : Except String MLDSANode := do
  if !(← validateMLDSALinkRequest env mldsaPublicKey node) then .ok node
  else if ← shouldInsertMLDSAKey mldsaPublicKey.hashedPublicKey mldsaPublicKey.legacyPublicKey
      mldsaPublicKey.level exposePublicKey node then .ok node
  else .ok (setPending env exposePublicKey mldsaPublicKey node)

def addMLDSAInfoToStore (env : LinkEnvironment) (mldsaPublicKey : MLDSAPublicKey)
    (node : MLDSANode) : Except String MLDSANode :=
  if mldsaPublicKey.insertedBlockHeight ≠ some node.height then
    .error "MLDSA public key block height mismatch."
  else recordRequest env false mldsaPublicKey node

def exposeMLDSAPublicKey (env : LinkEnvironment) (mldsaPublicKey : MLDSAPublicKey)
    (node : MLDSANode) : Except String MLDSANode :=
  if mldsaPublicKey.publicKey.isNone then .error "MLDSA public key must be defined."
  else recordRequest env true mldsaPublicKey node

/-! ### Transactions -/

/-- The message both signatures are over; the ML-DSA one also covers the public key. -/
def linkMessage (env : LinkEnvironment) (request : MLDSARequestData) (publicKey tweakedKey
    originalKey : Bytes) : Bytes :=
  env.levelToU8 request.level :: request.hashedPublicKey ++ publicKey ++ tweakedKey ++ originalKey
    ++ env.PROTOCOL_ID ++ env.chainId

/-- Check a request that reveals the ML-DSA key, and record it. -/
def verifyMLDSASignature (env : LinkEnvironment) (request : MLDSARequestData)
    (originalKey tweakedKey : Bytes) (node : MLDSANode) : Except String MLDSANode :=
  match request.publicKey, request.mldsaSignature with
  | none, _ => .error "MLDSA public key not provided."
  | some _, none => .error "MLDSA signature not provided."
  | some publicKey, some mldsaSignature =>
    if env.sha256 publicKey ≠ request.hashedPublicKey then
      .error "MLDSA public key does not match the hashed public key."
    else if tweakedKey.length ≠ 32 then .error "Invalid tweaked public key length."
    else if originalKey.length ≠ 33 then .error "Invalid original public key length."
    else if !env.verifyMLDSASignature publicKey request.level
        (linkMessage env request publicKey tweakedKey originalKey) mldsaSignature then
      .error "OP_NET: Invalid ML-DSA signature for public key link request."
    else exposeMLDSAPublicKey env
      { level := request.level
        hashedPublicKey := request.hashedPublicKey
        legacyPublicKey := originalKey
        tweakedPublicKey := tweakedKey
        publicKey := some publicKey
        insertedBlockHeight := some node.height
        exposedBlockHeight := some node.height } node

/-- `MLDSAMetadata.fromLevel`: the length of a public key. -/
def fromLevel : MLDSASecurityLevel → ℕ
  | .LEVEL2 => 1312
  | .LEVEL3 => 1952
  | .LEVEL5 => 2592

/-- The checks of `decodeMLDSALinkRequest` on what it reads. -/
def decodes (env : LinkEnvironment) (request : MLDSARequestData) : Bool :=
  env.ENABLED_LEVELS.contains request.level && decide (request.hashedPublicKey.length = 32)
    && request.hashedPublicKey.any (· != 0)
    && (!request.verifyRequest
      || (request.publicKey.any (fun publicKey =>
          decide (publicKey.length = fromLevel request.level) && publicKey.any (· != 0))
        && request.mldsaSignature.isSome))

/-- Record a link request of the sender with legacy key `originalKey`. -/
def linkSender (env : LinkEnvironment) (originalKey : Bytes) (request : MLDSARequestData)
    (node : MLDSANode) : Except String MLDSANode :=
  let tweakedKey := env.tweakedPublicKey originalKey
  if !decodes env request then .error "OP_NET: Unable to decode features data."
  else if !env.verifySignature tweakedKey (linkMessage env request [] tweakedKey originalKey)
      request.legacySignature then
    .error "OP_NET: Invalid ML-DSA legacy signature for public key link request."
  else if request.verifyRequest then verifyMLDSASignature env request originalKey tweakedKey node
  -- the key is not shown, so nothing is checked of its hash
  else addMLDSAInfoToStore env
    { level := request.level
      hashedPublicKey := request.hashedPublicKey
      legacyPublicKey := originalKey
      tweakedPublicKey := tweakedKey
      publicKey := none
      insertedBlockHeight := some node.height
      exposedBlockHeight := none } node

/-- The sender of a transaction without a link request. -/
def regenerateProvenance (env : LinkEnvironment) (senderPubKey : Bytes) (node : MLDSANode) :
    Except String Address × MLDSANode :=
  let originalKey := env.tweakedPublicKey senderPubKey
  match node.getMLDSAPublicKeyFromLegacyKey originalKey with
  | (none, node') => (.error "OP_NET: No ML-DSA public key linked to the legacy address.", node')
  | (some keyData, node') => (.ok ⟨keyData.hashedPublicKey, originalKey⟩, node')

/-- The sender a transaction is executed as, and what it leaves behind: a request that throws
leaves nothing. -/
def assignMLDSAToLegacy (env : LinkEnvironment) (senderPubKey : Bytes)
    (mldsaLinkRequest : Option MLDSARequestData) (node : MLDSANode) :
    Except String Address × MLDSANode :=
  match mldsaLinkRequest with
  | none => regenerateProvenance env senderPubKey node
  | some request =>
    match linkSender env senderPubKey request node with
    | .error e => (.error e, node)
    | .ok node' => (.ok ⟨request.hashedPublicKey, senderPubKey⟩, node')

end MLDSANode

/-! ### Histories -/

inductive MLDSAEvent where
  /-- A transaction of the block at the current height. -/
  | transaction (senderPubKey : Bytes) (mldsaLinkRequest : Option MLDSARequestData)
  /-- The pending links are saved and the next block starts. -/
  | completeBlock
  /-- The block in progress is dropped and the collection reverted; at the current height, only the
  former. -/
  | revertDataUntilBlock (blockId : ℕ)

/-- One event. A block whose pending links cannot be saved is not completed. -/
def mldsaStep (env : LinkEnvironment) (node : MLDSANode) : MLDSAEvent → Option MLDSANode
  | .transaction senderPubKey mldsaLinkRequest =>
    some (node.assignMLDSAToLegacy env senderPubKey mldsaLinkRequest).2
  | .completeBlock =>
    match savePublicKeys (node.mldsaToStore.map Prod.snd) node.keys with
    | .error _ => none
    | .ok keys => some { node.clear with keys := keys, height := node.height + 1 }
  | .revertDataUntilBlock blockId =>
    if blockId ≤ node.height then
      some { node.clear with
        keys := deleteFromBlockHeight blockId node.keys
        height := blockId
        links := node.links.filter fun link => link.insertedBlockHeight.any (· < blockId) }
    else none

end OpnetNode
