import OpnetNode.Transaction.DeploymentTransaction

/-!
# The script of an interaction

An interaction is recognised like a deployment, by the opcodes of a script of one of its inputs, and
its fields are read from the front of that script.

* `getInteractionWitnessDataHeader`: the layout up to the calldata.
* `getInteractionWitnessData`: with the calldata.
* `parseTransactionData`: the contract that is called, and the fees.
-/

namespace OpnetNode.InteractionTransaction

open WitnessScript SharedInteractionParameters ScriptReader
open DeploymentTransaction (TransactionData DeploymentEnvironment VOut
  MAXIMUM_CALLDATA_SIZE_COMPRESSED shiftMagic typeError)

def OP_HASH160 : ℕ := 169

def LEGACY_INTERACTION : Bytes :=
  [OP_TOALTSTACK, OP_TOALTSTACK, OP_TOALTSTACK, OP_DUP, OP_HASH256, OP_EQUALVERIFY,
    OP_CHECKSIGVERIFY, OP_CHECKSIGVERIFY, OP_HASH160, OP_EQUALVERIFY, OP_DEPTH, OP_1, OP_NUMEQUAL,
    OP_IF, OP_1NEGATE, OP_ELSE, OP_1, OP_ENDIF].map UInt8.ofNat

/-- `is`: the input whose script makes a transaction an interaction. -/
def is (env : ScriptEnvironment) (data : TransactionData) : Option ℕ :=
  detect env LEGACY_INTERACTION data.vin

structure InteractionWitnessDataHeader where
  header : OPNetHeader
  senderPubKey : Bytes
  interactionSaltPubKey : Bytes
  hashedSenderPubKey : Bytes
  contractSecretHash160 : Bytes
  features : List RawFeature
  deriving DecidableEq, Repr

structure InteractionWitnessData extends InteractionWitnessDataHeader where
  calldata : Bytes
  deriving DecidableEq, Repr

def getInteractionWitnessDataHeader (env : ScriptEnvironment) :
    ScriptReader InteractionWitnessDataHeader := do
  let header ← decodeOPNetHeader env
  let senderPubKey ← shiftBytes 32
  shiftOpcode OP_DUP
  shiftOpcode OP_HASH256
  let hashedSenderPubKey ← shiftBytes 32
  shiftOpcode OP_EQUALVERIFY
  shiftOpcode OP_CHECKSIGVERIFY
  let interactionSaltPubKey ← shiftBytes 32
  shiftOpcode OP_CHECKSIGVERIFY
  shiftOpcode OP_HASH160
  let contractSecretHash160 ← shiftBytes 20
  shiftOpcode OP_EQUALVERIFY
  shiftOpcode OP_DEPTH
  shiftOpcode OP_1
  shiftOpcode OP_NUMEQUAL
  shiftOpcode OP_IF
  shiftMagic
  let features ← decodeFeatures env header
  shiftOpcode OP_1NEGATE
  pure
    { header, senderPubKey, interactionSaltPubKey, hashedSenderPubKey, contractSecretHash160,
      features }

/-- The calldata of an interaction, up to `OP_ELSE`. -/
def readCalldata : ScriptReader Bytes := fun scriptData =>
  match getDataFromScript OP_ELSE scriptData with
  | .error message => OptionT.mk (.error message)
  | .ok (none, _) =>
    OptionT.mk (.error "No contract bytecode found in interaction transaction.")
  | .ok (some calldata, rest) =>
    if MAXIMUM_CALLDATA_SIZE_COMPRESSED < calldata.length then
      OptionT.mk (.error "OP_NET: Calldata length exceeds maximum allowed size.")
    else pure (calldata, rest)

def getInteractionWitnessData (env : ScriptEnvironment) : ScriptReader InteractionWitnessData := do
  let tx ← getInteractionWitnessDataHeader env
  let calldata ← readCalldata
  pure { tx with calldata }

/-! ### The parse -/

/-- What parsing an interaction takes from other components. -/
structure InteractionEnvironment extends DeploymentEnvironment where
  hash160 : Bytes → Bytes
  /-- `AddressVerificator.isValidPublicKey`. -/
  isValidPublicKey : Bytes → Bool
  /-- `new Address(contractSecret)`. -/
  newAddress : Bytes → Except String Bytes

/-- The reward an output pays, if it pays the miner of the given key. -/
def verifyRewardUTXO (env : DeploymentEnvironment) (minerLegacyPublicKey : Option Bytes)
    (rewardOutput : Option VOut) : Except String ℕ :=
  match rewardOutput with
  | none => .ok 0
  | some output =>
    if env.allowUnsafeSignatures = false then
      .error "Node need consensus upgrade. This is only possible once BIP360 is activated."
    else if (output.address.getD "") = "" ∨ output.type ≠ "witness_v0_scripthash" then .ok 0
    else do
      let publicKey ← env.createPublicKey (minerLegacyPublicKey.getD [])
      let rewardChallenge ← env.generateTimeLockAddress publicKey
      .ok (if output.address ≠ some rewardChallenge then 0 else output.value)

def regenerateContractAddress (env : InteractionEnvironment) (contractSecret : Bytes) :
    Except String Bytes :=
  let first := contractSecret.headD 0
  if contractSecret.length ≠ 32 ∧ contractSecret.length ≠ 33 ∧ contractSecret.length ≠ 65 then
    .error "OP_NET: Invalid contract address length specified."
  else if contractSecret.length = 33 ∧ first ≠ 0x02 ∧ first ≠ 0x03 then
    .error "OP_NET: Invalid contract address prefix specified."
  else if contractSecret.length = 65 ∧ first ≠ 0x04 ∧ first ≠ 0x06 ∧ first ≠ 0x07 then
    .error "OP_NET: Invalid contract uncompressed address specified."
  else if env.isValidPublicKey contractSecret = false then
    .error "OP_NET: Invalid contract pubkey specified."
  else env.newAddress contractSecret

/-- An interaction that was accepted. -/
structure ParsedInteraction where
  senderPubKey : Bytes
  contractAddress : Bytes
  calldata : Bytes
  features : FeatureState
  reward : ℕ
  priorityFee : ℕ
  gasSatFee : ℕ

/-- `parseTransactionData`, from the input at `vInputIndex`. -/
def parseTransactionData (env : InteractionEnvironment) (data : TransactionData)
    (vInputIndex : ℕ) : Except String ParsedInteraction := do
  let input ← (data.vin[vInputIndex]?).elim (.error typeError) .ok
  let scriptBytes ←
    (input.txinwitness[3]?).elim (.error "OP_NET: No script data found in witness.") .ok
  let decoded ← env.decompile scriptBytes
  let scriptData ← decoded.elim (.error "OP_NET: No script data found in witness.") .ok
  let witnessData ← (getInteractionWitnessData env.toScriptEnvironment).run scriptData
  let read ← witnessData.elim (.error "OP_NET: Failed to parse interaction witness data.") .ok
  let interactionWitnessData := read.1
  let features ← parseFeatures env.toFeatureEnvironment interactionWitnessData.features
  let contractSecret ← (input.txinwitness[0]?).elim (.error typeError) .ok
  let header := interactionWitnessData.header
  let senderPubKey := header.publicKeyPrefix :: interactionWitnessData.senderPubKey
  if env.hash256 interactionWitnessData.senderPubKey ≠ interactionWitnessData.hashedSenderPubKey then
    .error "OP_NET: Sender public key hash mismatch."
  else do
  let validKey ← env.isValidLegacyPublicKey senderPubKey
  if validKey = false then .error "OP_NET: Invalid sender address."
  else if env.hash160 contractSecret ≠ interactionWitnessData.contractSecretHash160 then
    .error "OP_NET: Contract salt hash mismatch."
  else do
  let minerLegacyPublicKey ← env.verifyPreImage header.minerMLDSAPublicKey header.solution
  let contractAddress ← regenerateContractAddress env contractSecret
  let reward ← verifyRewardUTXO env.toDeploymentEnvironment minerLegacyPublicKey (data.vout[0]?)
  -- nothing is burned: an interaction pays with its reward
  if reward < header.priorityFeeSat then
    .error "OP_NET: Priority fee is higher than actually received."
  else do
  let calldata ← decompressData env.toFeatureEnvironment interactionWitnessData.calldata
  .ok
    { senderPubKey
      contractAddress
      calldata
      features
      reward
      priorityFee := header.priorityFeeSat
      gasSatFee := reward - header.priorityFeeSat }

end OpnetNode.InteractionTransaction
