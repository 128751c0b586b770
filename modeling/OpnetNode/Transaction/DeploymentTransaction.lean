import OpnetNode.Transaction.SharedInteractionParameters

/-!
# Deployment transactions

A deployment is recognised by the script of one of its inputs.  `parseTransaction` reads the
deployment from this input, derives the contract's address from deployer, bytecode and salt, checks
the address against a taproot control block and against the first output, and takes the fees from
the first two outputs.

* `getDeploymentWitnessData`: the layout of a deployment's script.
* `readDeployment`: the parse up to the control block, `checkControlBlock`: the check of the
  control block, `acceptOutputs`: the rest, `parseTransaction`: the three in turn.

Keys, addresses, hashing, the tapscript verifier and the check of the mined solution are other
components', and parameters here.
-/

namespace OpnetNode.DeploymentTransaction

open WitnessScript SharedInteractionParameters ScriptReader

/-- An output, as its constructor leaves it. The script is a hexadecimal text in the source; here it
is the bytes it stands for. -/
structure VOut where
  value : ℕ
  hex : Bytes
  type : String
  address : Option String
  deriving DecidableEq, Repr

structure TransactionData where
  vin : List VIn
  vout : List VOut
  deriving DecidableEq, Repr

/-- `CONTRACTS.MAXIMUM_CALLDATA_SIZE_COMPRESSED`. -/
def MAXIMUM_CALLDATA_SIZE_COMPRESSED : ℕ := 380 * 1024

/-- `CONTRACTS.MAXIMUM_CONTRACT_SIZE_COMPRESSED`. -/
def MAXIMUM_CONTRACT_SIZE_COMPRESSED : ℕ := 1536 * 1024

/-- `VM.CURRENT_DEPLOYMENT_VERSION`. -/
def CURRENT_DEPLOYMENT_VERSION : ℕ := 0

/-! ### The script -/

def LEGACY_DEPLOYMENT_SCRIPT : Bytes :=
  [OP_TOALTSTACK, OP_TOALTSTACK, OP_TOALTSTACK, OP_DUP, OP_HASH256, OP_EQUALVERIFY,
    OP_CHECKSIGVERIFY, OP_CHECKSIGVERIFY, OP_HASH256, OP_EQUALVERIFY, OP_DEPTH, OP_1, OP_NUMEQUAL,
    OP_IF, OP_0, OP_1NEGATE, OP_ELSE, OP_1, OP_ENDIF].map UInt8.ofNat

/-- `is`: the input whose script makes a transaction a deployment. -/
def is (env : ScriptEnvironment) (data : TransactionData) : Option ℕ :=
  detect env LEGACY_DEPLOYMENT_SCRIPT data.vin

structure DeploymentWitnessData where
  header : OPNetHeader
  senderPubKey : Bytes
  hashedSenderPubKey : Bytes
  contractSaltPubKey : Bytes
  contractSaltHash : Bytes
  bytecode : Bytes
  calldata : Option Bytes
  features : List RawFeature

/-- The calldata of a deployment, up to `OP_1NEGATE`. -/
def readCalldata : ScriptReader (Option Bytes) := fun scriptData =>
  match getDataFromScript OP_1NEGATE scriptData with
  | .error message => OptionT.mk (.error message)
  | .ok (calldata, rest) =>
    if calldata.any fun bytes => decide (MAXIMUM_CALLDATA_SIZE_COMPRESSED < bytes.length) then
      OptionT.mk (.error "OP_NET: Calldata length exceeds maximum allowed size.")
    else pure (calldata, rest)

/-- The bytecode of a deployment, up to `OP_ELSE`. -/
def readBytecode : ScriptReader Bytes := fun scriptData =>
  match getDataFromScript OP_ELSE scriptData with
  | .error message => OptionT.mk (.error message)
  | .ok (none, _) => OptionT.mk (.error "OP_NET: No contract bytecode.")
  | .ok (some bytecode, rest) =>
    if MAXIMUM_CONTRACT_SIZE_COMPRESSED < bytecode.length then
      OptionT.mk (.error "OP_NET: Contract length exceeds maximum allowed size.")
    else pure (bytecode, rest)

/-- `shift()`, which must give the magic. -/
def shiftMagic : ScriptReader Unit := fun scriptData =>
  match scriptData with
  | .push magic :: rest => if magic = OPNet_MAGIC then pure ((), rest) else OptionT.mk (.ok none)
  | _ => OptionT.mk (.ok none)

def getDeploymentWitnessData (env : ScriptEnvironment) : ScriptReader DeploymentWitnessData := do
  let header ← decodeOPNetHeader env
  let senderPubKey ← shiftBytes 32
  shiftOpcode OP_DUP
  shiftOpcode OP_HASH256
  let hashedSenderPubKey ← shiftBytes 32
  shiftOpcode OP_EQUALVERIFY
  shiftOpcode OP_CHECKSIGVERIFY
  let contractSaltPubKey ← shiftBytes 32
  shiftOpcode OP_CHECKSIGVERIFY
  shiftOpcode OP_HASH256
  let contractSaltHash ← shiftBytes 32
  shiftOpcode OP_EQUALVERIFY
  shiftOpcode OP_DEPTH
  shiftOpcode OP_1
  shiftOpcode OP_NUMEQUAL
  shiftOpcode OP_IF
  shiftMagic
  let features ← decodeFeatures env header
  shiftOpcode OP_0
  let calldata ← readCalldata
  shiftOpcode OP_1NEGATE
  let bytecode ← readBytecode
  pure
    { header, senderPubKey, hashedSenderPubKey, contractSaltPubKey, contractSaltHash, bytecode,
      calldata, features }

/-! ### The control block -/

/-- A feature as the tapscript verifier takes it. -/
inductive VerifiedFeature where
  | epochSubmission (publicKey solution : Bytes) (graffiti : Option Bytes)
  | mldsaLinkRequest (verifyRequest : Bool) (hashedPublicKey : Bytes) (publicKey : Option Bytes)
      (level : MLDSASecurityLevel) (mldsaSignature : Option Bytes) (legacySignature : Bytes)
  deriving DecidableEq

/-- What the tapscript verifier rebuilds the script from. -/
structure ContractAddressVerificationParams where
  deployerPubKey : Bytes
  contractSaltPubKey : Bytes
  originalSalt : Bytes
  bytecode : Bytes
  calldata : Option Bytes
  /-- The mined solution, and the miner's ML-DSA and legacy keys. -/
  challenge : Bytes × Bytes × Bytes
  priorityFee : ℕ
  features : List VerifiedFeature
  deriving DecidableEq

/-- What parsing a deployment takes from the configuration and from other components. -/
structure DeploymentEnvironment extends FeatureEnvironment where
  hash256 : Bytes → Bytes
  toXOnly : Bytes → Bytes
  createPublicKey : Bytes → Except String Bytes
  /-- `new Address(alloc(32), key)` and `isValidLegacyPublicKey`. -/
  isValidLegacyPublicKey : Bytes → Except String Bool
  /-- `TapscriptVerificator.getContractSeed`: x-only deployer key, bytecode, hash of the salt. -/
  getContractSeed : Bytes → Bytes → Bytes → Except String Bytes
  /-- The public key of `EcKeyPair.fromSeedKeyPair`. -/
  fromSeedKeyPair : Bytes → Except String (Option Bytes)
  /-- The check of a mined solution; it gives the miner's legacy key. -/
  verifyPreImage : Bytes → Bytes → Except String (Option Bytes)
  /-- `TapscriptVerificator.verifyControlBlock`; an input without witness has no control block. -/
  verifyControlBlock : ContractAddressVerificationParams → Option Bytes → Except String Bool
  /-- `Address.p2op`. -/
  p2op : Bytes → String
  /-- The address `payments.p2op` decodes from an output's script. -/
  decodeP2op : Bytes → Except String (Option String)
  allowUnsafeSignatures : Bool
  /-- The address of `TimeLockGenerator.generateTimeLockAddress`. -/
  generateTimeLockAddress : Bytes → Except String String
  writeBytesWithLength : Bytes → Bytes

/-- What has been read and derived when the control block is checked. -/
structure Deployment where
  header : OPNetHeader
  deployerPubKey : Bytes
  deployerPubKeyHash : Bytes
  contractSeed : Bytes
  contractSaltHash : Bytes
  bytecode : Bytes
  calldata : Option Bytes
  contractAddress : Bytes
  contractSigner : Bytes
  preimage : Bytes
  miner : Bytes
  minerLegacyPublicKey : Option Bytes
  features : FeatureState

/-- The error where the source reads a field of an input or a witness that is not there. -/
def typeError : String := "TypeError"

/-- `parseTransaction` up to the control block, from the input at `vInputIndex`. -/
def readDeployment (env : DeploymentEnvironment) (data : TransactionData) (vInputIndex : ℕ) :
    Except String Deployment := do
  let input ← (data.vin[vInputIndex]?).elim (.error typeError) .ok
  let scriptBytes ← (input.txinwitness[3]?).elim (.error "OP_NET: No script data.") .ok
  let decoded ← env.decompile scriptBytes
  let scriptData ← decoded.elim (.error "OP_NET: No script data.") .ok
  let witnessData ← (getDeploymentWitnessData env.toScriptEnvironment).run scriptData
  let read ← witnessData.elim (.error "OP_NET: No deployment witness data.") .ok
  let deploymentWitnessData := read.1
  let features ← parseFeatures env.toFeatureEnvironment deploymentWitnessData.features
  if input.txid.length = 0 then .error "OP_NET: No input transaction id."
  else do
  let deployerPubKey :=
    deploymentWitnessData.header.publicKeyPrefix :: deploymentWitnessData.senderPubKey
  let hashSenderPubKey := env.hash256 deploymentWitnessData.senderPubKey
  if hashSenderPubKey ≠ deploymentWitnessData.hashedSenderPubKey then
    .error "OP_NET: Sender public key hash mismatch."
  else do
  let validKey ← env.isValidLegacyPublicKey deployerPubKey
  if validKey = false then .error "OP_NET: Invalid sender address."
  else do
  let originalSalt ← (input.txinwitness[0]?).elim (.error typeError) .ok
  if originalSalt.length < 32 ∨ 128 < originalSalt.length then
    .error "OP_NET: Salt should be between 32 and 128 bytes."
  else do
  let hashOriginalSalt := env.hash256 originalSalt
  if hashOriginalSalt ≠ deploymentWitnessData.contractSaltHash then
    .error "OP_NET: Invalid contract salt hash found in deployment transaction."
  else do
  let publicKey ← env.createPublicKey deployerPubKey
  let contractPublicKey ←
    env.getContractSeed (env.toXOnly publicKey) deploymentWitnessData.bytecode hashOriginalSalt
  let contractSigner ← env.fromSeedKeyPair contractPublicKey
  let signerKey ← contractSigner.elim (.error "OP_NET: Invalid contract signer.") .ok
  if deploymentWitnessData.contractSaltPubKey ≠ env.toXOnly signerKey then
    .error "OP_NET: Invalid contract signer."
  else do
  let header := deploymentWitnessData.header
  let minerLegacyPublicKey ← env.verifyPreImage header.minerMLDSAPublicKey header.solution
  .ok
    { header
      deployerPubKey
      deployerPubKeyHash := hashSenderPubKey
      contractSeed := originalSalt
      contractSaltHash := hashOriginalSalt
      bytecode := deploymentWitnessData.bytecode
      calldata := deploymentWitnessData.calldata
      contractAddress := contractPublicKey
      contractSigner := signerKey
      preimage := header.solution
      miner := header.minerMLDSAPublicKey
      minerLegacyPublicKey
      features }

/-- The graffiti as the script carries it: before the patch, with its length. -/
def getGraffiti (env : DeploymentEnvironment) (submission : Submission) : Option Bytes :=
  if env.blockHeight < env.GRAFFITI_LENGTH_PATCH_BLOCK_HEIGHT then
    submission.graffiti.map env.writeBytesWithLength
  else submission.graffiti

def getFeatures (env : DeploymentEnvironment) (features : FeatureState) : List VerifiedFeature :=
  (features.submission.map fun submission =>
      .epochSubmission submission.mldsaPublicKey submission.salt (getGraffiti env submission)).toList
    ++ (features.mldsaLinkRequest.map fun request =>
      .mldsaLinkRequest request.mldsaSignature.isSome request.hashedPublicKey request.publicKey
        request.level request.mldsaSignature request.legacySignature).toList

/-- What the control block must commit to. -/
def verificationParams (env : DeploymentEnvironment) (deployment : Deployment) (publicKey : Bytes) :
    ContractAddressVerificationParams where
  deployerPubKey := publicKey
  contractSaltPubKey := deployment.contractSigner
  originalSalt := deployment.contractSeed
  bytecode := deployment.bytecode
  calldata := deployment.calldata.filter fun calldata => decide (0 < calldata.length)
  challenge :=
    (deployment.preimage, deployment.miner, deployment.minerLegacyPublicKey.getD [])
  priorityFee := deployment.header.priorityFeeSat
  features := getFeatures env deployment.features

def getOriginalContractAddress (env : DeploymentEnvironment) (deployment : Deployment)
    (controlBlock : Option Bytes) : Except String Unit := do
  let publicKey ← env.createPublicKey deployment.deployerPubKey
  match env.verifyControlBlock (verificationParams env deployment publicKey) controlBlock with
  | .error e => .error ("OP_NET: Invalid contract address from control block. " ++ e)
  | .ok false => .error "OP_NET: Invalid contract address from control block."
  | .ok true => .ok ()

/-- The control block that is checked: the last witness of the input at position 0. -/
def controlBlock (data : TransactionData) : Except String (Option Bytes) := do
  let input0 ← (data.vin[0]?).elim (.error typeError) .ok
  .ok input0.txinwitness.getLast?

def checkControlBlock (env : DeploymentEnvironment) (data : TransactionData)
    (deployment : Deployment) : Except String Unit := do
  let checked ← controlBlock data
  getOriginalContractAddress env deployment checked

/-! ### The outputs -/

def decodeAddress (env : DeploymentEnvironment) (outputWitness : Option VOut) :
    Except String (Option String) :=
  match outputWitness with
  | none => .error "Output does not have a valid p2op address."
  | some output =>
    -- the text starts with "60", the opcode OP_16
    if output.hex.head? = some 0x60 then env.decodeP2op output.hex
    else .error "Output does not have a valid p2op address."

def setBurnedFee (witnessOutput : VOut) : Except String ℕ :=
  -- an empty address counts as none
  if (witnessOutput.address.getD "") = "" then
    .error "No address found for contract witness output"
  else if 2000 < witnessOutput.value then
    .error ("Burned too much fee (" ++ toString witnessOutput.value ++ " satoshis)")
  else .ok witnessOutput.value

/-- `verifyRewardUTXO`: the reward the output pays, if it pays the miner. -/
def verifyRewardUTXO (env : DeploymentEnvironment) (deployment : Deployment)
    (rewardOutput : Option VOut) : Except String ℕ :=
  match rewardOutput with
  | none => .ok 0
  | some output =>
    if env.allowUnsafeSignatures = false then
      .error "Node need consensus upgrade. This is only possible once BIP360 is activated."
    else if (output.address.getD "") = "" ∨ output.type ≠ "witness_v0_scripthash" then .ok 0
    else do
      let publicKey ← env.createPublicKey (deployment.minerLegacyPublicKey.getD [])
      let rewardChallenge ← env.generateTimeLockAddress publicKey
      .ok (if output.address ≠ some rewardChallenge then 0 else output.value)

/-- A deployment that was accepted. -/
structure ParsedDeployment extends Deployment where
  burnedFee : ℕ
  reward : ℕ
  priorityFee : ℕ
  gasSatFee : ℕ

/-- `decompress`: the bytecode and the calldata as they are run. -/
def decompress (env : DeploymentEnvironment) (deployment : Deployment) :
    Except String (Bytes × Option Bytes) := do
  let bytecode ← decompressData env.toFeatureEnvironment deployment.bytecode
  if (bytecode[0]?).any fun version => decide (CURRENT_DEPLOYMENT_VERSION < version.toNat) then
    .error "Version not supported."
  else
    match deployment.calldata with
    | none => .ok (bytecode, none)
    | some calldata => do
      let decompressed ← decompressData env.toFeatureEnvironment calldata
      .ok (bytecode, some decompressed)

/-- `parseTransaction` after the control block. -/
def acceptOutputs (env : DeploymentEnvironment) (vout : List VOut) (deployment : Deployment) :
    Except String ParsedDeployment := do
  let decodedAddress ← decodeAddress env (vout[0]?)
  if decodedAddress ≠ some (env.p2op deployment.contractAddress) then
    .error ("OP_NET: Invalid contract address. " ++ ((vout[0]?).bind VOut.address).getD "undefined"
      ++ " != " ++ env.p2op deployment.contractAddress)
  else do
  let burnedFee ← (vout[0]?).elim (.error typeError) setBurnedFee
  let reward ← verifyRewardUTXO env deployment (vout[1]?)
  if burnedFee + reward < deployment.header.priorityFeeSat then
    .error "OP_NET: Priority fee is higher than actually received."
  else do
  let decompressed ← decompress env deployment
  .ok
    { deployment with
      bytecode := decompressed.1
      calldata := decompressed.2
      burnedFee
      reward
      priorityFee := deployment.header.priorityFeeSat
      gasSatFee := burnedFee + reward - deployment.header.priorityFeeSat }

def parseTransaction (env : DeploymentEnvironment) (data : TransactionData) (vInputIndex : ℕ) :
    Except String ParsedDeployment := do
  let deployment ← readDeployment env data vInputIndex
  checkControlBlock env data deployment
  acceptOutputs env data.vout deployment

end OpnetNode.DeploymentTransaction
