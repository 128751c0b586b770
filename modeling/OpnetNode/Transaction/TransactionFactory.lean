import Mathlib.Algebra.Order.Floor.Defs
import Mathlib.Data.Rat.Floor
import OpnetNode.Hex
import OpnetNode.Transaction.InteractionTransaction

/-!
# Parsing a transaction

A transaction comes to the parser as a record of the node's RPC.  Its inputs and outputs are read one
by one, and what their scripts say of the transaction depends on its type.

* `TransactionInput.new`, `TransactionOutput.new`: an input and an output.
* `getTransactionType`: the type, and the input that tells it.
* `parseTransaction`: the transaction.

Amounts are the rational numbers that floating point numbers stand for.  Hexadecimal texts are the
bytes they stand for, except where the source finds them in the text of a script.
-/

namespace OpnetNode.TransactionFactory

open WitnessScript InteractionTransaction

def OP_RETURN : ℕ := 106
def OP_CHECKSIG : ℕ := 172
def OP_CHECKMULTISIG : ℕ := 174

/-! ### The record -/

structure ScriptSig where
  asm : String
  hex : Bytes
  deriving DecidableEq, Repr

structure VIn where
  txid : Option Bytes
  vout : Option ℕ
  scriptSig : Option ScriptSig
  sequence : ℕ
  txinwitness : Option (List Bytes)
  coinbase : Option Bytes
  deriving DecidableEq, Repr

structure ScriptPubKey where
  hex : Bytes
  address : Option String
  addresses : Option (List String)
  type : String
  deriving DecidableEq, Repr

structure VOut where
  value : ℚ
  n : ℕ
  scriptPubKey : ScriptPubKey
  deriving DecidableEq, Repr

structure TransactionData where
  txid : Bytes
  version : ℕ
  locktime : ℕ
  vin : List VIn
  vout : List VOut
  in_active_chain : Bool
  hex : Bytes
  hash : Bytes
  size : ℕ
  vsize : ℕ
  weight : ℕ
  blockhash : Option String
  confirmations : ℕ
  blocktime : ℕ
  time : ℕ
  deriving DecidableEq, Repr

/-- What reading a record takes besides. -/
structure ParserEnvironment extends InteractionEnvironment where
  /-- The decimal text of a floating point number, as the number it says. -/
  toText : ℚ → ℚ

/-! ### Inputs -/

structure TransactionInput where
  originalTransactionId : Bytes
  outputTransactionIndex : Option ℕ
  scriptSignature : Option ScriptSig
  sequenceId : ℕ
  transactionInWitness : List Bytes
  decodedPubKey : Option Bytes
  decodedPubKeyHash : Option Bytes
  coinbase : Option Bytes
  deriving DecidableEq, Repr, Inhabited

def isValidPublicKeyBytes (bytes : Bytes) : Bool :=
  if bytes.length = 33 then decide (bytes.headD 0 = 0x02 ∨ bytes.headD 0 = 0x03)
  else decide (bytes.length = 65 ∧ bytes.headD 0 = 0x04)

/-- The second of exactly two witnesses. -/
def secondWitness : List Bytes → Option Bytes
  | [_, second] => some second
  | _ => none

/-- The second of exactly two words of the text of an input's script. -/
def secondPart (scriptSignature : Option ScriptSig) : Option String :=
  match scriptSignature with
  | none => none
  | some signature =>
    if signature.asm = "" then none
    else
      match signature.asm.splitOn " " with
      | [_, second] => some second
      | _ => none

/-- `fromHex`, which throws. -/
def readHex (text : String) : Except String Bytes :=
  (fromHex text).elim (.error "Invalid hex string") .ok

def decodePubKey (scriptSignature : Option ScriptSig) (witness : List Bytes) :
    Except String (Option Bytes) :=
  if (secondWitness witness).any isValidPublicKeyBytes then .ok (secondWitness witness)
  else
    match secondPart scriptSignature with
    | none => .ok none
    | some second =>
      if second.length = 66 ∨ second.length = 130 then do
        let pubkeyBytes ← readHex second
        .ok (if isValidPublicKeyBytes pubkeyBytes then some pubkeyBytes else none)
      else .ok none

def decodePubKeyHash (scriptSignature : Option ScriptSig) (witness : List Bytes) :
    Except String (Option Bytes) :=
  if witness.length = 2 ∧ (witness.headD []).length = 20 then .ok witness.head?
  else
    match secondPart scriptSignature with
    | none => .ok none
    | some second =>
      if second.length = 40 then (readHex second).map some else .ok none

/-- The constructor of `TransactionInput`. -/
def TransactionInput.new (data : VIn) : Except String TransactionInput := do
  let transactionInWitness := data.txinwitness.getD []
  let decodedPubKey ← decodePubKey data.scriptSig transactionInWitness
  let decodedPubKeyHash ← decodePubKeyHash data.scriptSig transactionInWitness
  .ok
    { originalTransactionId := data.txid.getD []
      outputTransactionIndex := data.vout
      scriptSignature := data.scriptSig
      sequenceId := data.sequence
      transactionInWitness
      decodedPubKey
      decodedPubKeyHash
      -- an empty text counts as none
      coinbase := data.coinbase.filter fun text => !text.isEmpty }

/-! ### Outputs -/

structure TransactionOutput where
  value : ℤ
  index : ℕ
  scriptPubKey : ScriptPubKey
  script : Option (List ScriptItem)
  decodedPubKeyHash : Option Bytes
  decodedPublicKeys : Option (List Bytes)
  decodedSchnorrPublicKey : Option Bytes
  deriving DecidableEq, Repr

/-- Round to the nearest integer, halves away from zero. -/
def roundHalfUp (x : ℚ) : ℤ := if 0 ≤ x then ⌊x + 1 / 2⌋ else -⌊-x + 1 / 2⌋

/-- `convertValue`: the satoshis an amount stands for. -/
def convertValue (env : ParserEnvironment) (value : ℚ) : ℤ :=
  roundHalfUp (env.toText value * 100000000)

/-- `decodePubKeyHash`, for P2PKH and P2WPKH. -/
def decodeOutputPubKeyHash : Option (List ScriptItem) → Option Bytes
  | some [.opcode a, .opcode b, .push hash, .opcode c, .opcode d] =>
    if a = OP_DUP ∧ b = OP_HASH160 ∧ hash.length = 20 ∧ c = OP_EQUALVERIFY ∧ d = OP_CHECKSIG then
      some hash
    else none
  | some [.opcode a, .push hash] => if a = OP_0 ∧ hash.length = 20 then some hash else none
  | _ => none

def compressedKeys (items : List ScriptItem) : List Bytes :=
  items.filterMap fun item =>
    match item with
    | .push data => if data.length = 33 then some data else none
    | .opcode _ => none

/-- `decodePublicKeys`, for bare multisig and P2PK. -/
def decodePublicKeys : Option (List ScriptItem) → Option (List Bytes)
  | none => none
  | some script =>
    if 4 ≤ script.length ∧ script.getLast? = some (.opcode OP_CHECKMULTISIG) then
      let pubKeys := compressedKeys ((script.take (script.length - 2)).drop 1)
      if pubKeys.isEmpty then none else some pubKeys
    else
      match script with
      | [.push key, .opcode code] =>
        if key.length = 33 ∧ code = OP_CHECKSIG then some [key] else none
      | _ => none

/-- `decodeSchnorrPublicKey`, for taproot. -/
def decodeSchnorrPublicKey : Option (List ScriptItem) → Option Bytes
  | some [.opcode a, .push key] => if a = OP_1 ∧ key.length = 32 then some key else none
  | _ => none

/-- The address of an output: its own, or the only one listed. -/
def ScriptPubKey.soleAddress (scriptPubKey : ScriptPubKey) : Option String :=
  match scriptPubKey.address.filter fun text => text ≠ "" with
  | some text => some text
  | none =>
    match scriptPubKey.addresses with
    | some [text] => some text
    | _ => none

/-- The constructor of `TransactionOutput`. -/
def TransactionOutput.new (env : ParserEnvironment) (data : VOut) :
    Except String TransactionOutput := do
  let decompiled ← env.decompile data.scriptPubKey.hex
  .ok
    { value := convertValue env data.value
      index := data.n
      scriptPubKey := { data.scriptPubKey with address := data.scriptPubKey.soleAddress }
      script := decompiled
      decodedPubKeyHash := decodeOutputPubKeyHash decompiled
      decodedPublicKeys := decodePublicKeys decompiled
      decodedSchnorrPublicKey := decodeSchnorrPublicKey decompiled }

/-! ### Transactions -/

inductive OPNetTransactionTypes where
  | Generic
  | Deployment
  | Interaction
  deriving DecidableEq, Repr

/-- A parsed transaction. `contractAddress` is none for a generic one. -/
structure ParsedTransaction where
  transactionType : OPNetTransactionTypes
  inputs : List TransactionInput
  outputs : List TransactionOutput
  contractAddress : Option Bytes
  burnedFee : ℕ
  reward : ℕ
  priorityFee : ℕ
  gasSatFee : ℕ
  deriving DecidableEq, Repr

/-- The witnesses of an input of the record. -/
def VIn.witnesses (vIn : VIn) : WitnessScript.VIn where
  txid := vIn.txid.getD []
  txinwitness := vIn.txinwitness.getD []

/-- What the parse of a type takes of the inputs and the outputs. -/
def scriptData (inputs : List TransactionInput) (outputs : List TransactionOutput) :
    DeploymentTransaction.TransactionData where
  vin := inputs.map fun input => ⟨input.originalTransactionId, input.transactionInWitness⟩
  vout := outputs.map fun output =>
    ⟨output.value.toNat, output.scriptPubKey.hex, output.scriptPubKey.type,
      output.scriptPubKey.address⟩

/-- The type of a transaction, and the input that tells it. -/
def getTransactionType (env : ScriptEnvironment) (data : TransactionData) :
    OPNetTransactionTypes × ℕ :=
  let recordScripts : DeploymentTransaction.TransactionData :=
    { vin := data.vin.map VIn.witnesses, vout := [] }
  if data.version ≠ 2 then (.Generic, 0)
  else
    match InteractionTransaction.is env recordScripts with
    | some vInIndex => (.Interaction, vInIndex)
    | none =>
      match DeploymentTransaction.is env recordScripts with
      | some vInIndex => (.Deployment, vInIndex)
      | none => (.Generic, 0)

/-- `parseTransaction` once the inputs and the outputs are read. -/
def parseByType (env : ParserEnvironment) (transactionType : OPNetTransactionTypes × ℕ)
    (inputs : List TransactionInput) (outputs : List TransactionOutput) :
    Except String ParsedTransaction :=
  match transactionType.1 with
  | .Generic =>
    .ok
      { transactionType := .Generic
        inputs
        outputs
        contractAddress := none
        burnedFee := 0
        reward := 0
        priorityFee := 0
        gasSatFee := 0 }
  | .Interaction => do
    let interaction ←
      parseTransactionData env.toInteractionEnvironment (scriptData inputs outputs)
        transactionType.2
    .ok
      { transactionType := .Interaction
        inputs
        outputs
        contractAddress := some interaction.contractAddress
        burnedFee := 0
        reward := interaction.reward
        priorityFee := interaction.priorityFee
        gasSatFee := interaction.gasSatFee }
  | .Deployment => do
    let deployment ←
      DeploymentTransaction.parseTransaction env.toDeploymentEnvironment
        (scriptData inputs outputs) transactionType.2
    .ok
      { transactionType := .Deployment
        inputs
        outputs
        contractAddress := some deployment.contractAddress
        burnedFee := deployment.burnedFee
        reward := deployment.reward
        priorityFee := deployment.priorityFee
        gasSatFee := deployment.gasSatFee }

/-- The parse of the record of a transaction in the block of the given hash. -/
def parseTransaction (env : ParserEnvironment) (data : TransactionData) (blockHash : String) :
    Except String ParsedTransaction :=
  let mismatch := data.blockhash.filter fun hash => hash ≠ "" ∧ hash ≠ blockHash
  match mismatch with
  | some hash => .error ("Block hash mismatch: " ++ hash ++ " !== " ++ blockHash)
  | none => do
    let inputs ← data.vin.mapM TransactionInput.new
    let outputs ← data.vout.mapM (TransactionOutput.new env)
    parseByType env (getTransactionType env.toScriptEnvironment data) inputs outputs

end OpnetNode.TransactionFactory
