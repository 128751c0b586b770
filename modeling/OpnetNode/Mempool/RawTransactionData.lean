import OpnetNode.Transaction.BitcoinTransaction
import OpnetNode.Transaction.TransactionFactory

/-!
# The two decodings of a transaction

A transaction is parsed when it is broadcast and again when a block carries it.  The mempool makes
the record itself, from the transaction the Bitcoin library read; the block's record is the RPC's of
the Bitcoin node.

* `scriptToAddress`: the address and the type of an output.
* `toRawTransactionData`: the mempool's record.
* `rpcTransactionData`: the RPC's record.
* `DecodingsAgree`: the records agree, and so do the transactions parsed from them.
-/

namespace OpnetNode.RawTransactionData

open TransactionFactory
open WitnessScript (ScriptItem)

/-- What making the record takes of other packages. -/
structure DecoderEnvironment extends ParserEnvironment where
  library : TransactionLibrary
  /-- The address of `payments.p2pkh` for an output's script; none where it throws. -/
  p2pkh : Bytes → Option String
  p2sh : Bytes → Option String
  p2wpkh : Bytes → Option String
  p2wsh : Bytes → Option String
  p2tr : Bytes → Option String
  toFutureOPNetAddress : Bytes → Option String
  toFutureSegwitAddress : Bytes → Option String
  /-- The nearest floating point number. -/
  toNumber : ℚ → ℚ

/-- What the RPC says of transactions and of scripts. -/
structure NodeRpc where
  txid : BitcoinTransaction → Bytes
  hash : BitcoinTransaction → Bytes
  hex : BitcoinTransaction → Bytes
  size : BitcoinTransaction → ℕ
  vsize : BitcoinTransaction → ℕ
  weight : BitcoinTransaction → ℕ
  /-- The text of an input's script. -/
  asm : Bytes → String
  address : Bytes → Option String
  addresses : Bytes → Option (List String)
  type : Bytes → String

/-- The RPC's hashes and sizes of a transaction, as they are documented: ids are reversed hashes. -/
structure NodeRpc.Documented (node : NodeRpc) (hash256 : Bytes → Bytes) (tx : BitcoinTransaction) :
    Prop where
  txid : node.txid tx = (hash256 (tx.toBuffer false)).reverse
  hash : node.hash tx = (hash256 (tx.toBuffer true)).reverse
  size : node.size tx = (tx.toBuffer true).length
  vsize : node.vsize tx = (3 * (tx.toBuffer false).length + (tx.toBuffer true).length + 3) / 4
  weight : node.weight tx = 3 * (tx.toBuffer false).length + (tx.toBuffer true).length

/-! ### Addresses -/

structure ScriptAddress where
  address : Option String
  addresses : Option (List String)
  type : String
  deriving DecidableEq, Repr

/-- The keys of a bare multisig script, if it is one. -/
def multisigKeys (env : DecoderEnvironment) (output : Bytes) : Option (List Bytes) :=
  match env.decompile output with
  | .ok (some chunks) =>
    let second := chunks.length - 2
    if chunks.getLast? ≠ some (ScriptItem.opcode OP_CHECKMULTISIG) then none
    else
      match chunks[0]?, chunks[second]? with
      | some (ScriptItem.opcode _), some (ScriptItem.opcode _) =>
        let pubKeys := (chunks.take second).drop 1
        if pubKeys.isEmpty then none
        else
          pubKeys.mapM fun key =>
            match key with
            | .push data => (env.createPublicKey data).toOption.map fun _ => data
            | .opcode _ => none
      | _, _ => none
  | _ => none

/-- `scriptToAddress`, on the decoders in the order they are tried. The addresses of the keys of a
multisig script are left out. -/
def scriptToAddress (env : DecoderEnvironment) (output : Bytes) : ScriptAddress :=
  if output.head? = some (UInt8.ofNat OP_RETURN) then ⟨none, none, "nulldata"⟩
  else if (env.p2pkh output).isSome then ⟨env.p2pkh output, none, "pubkeyhash"⟩
  else if (env.p2sh output).isSome then ⟨env.p2sh output, none, "scripthash"⟩
  else if (output.length = 35 ∨ output.length = 67) ∧
      output.getLast? = some (UInt8.ofNat OP_CHECKSIG) then ⟨none, none, "pubkey"⟩
  else if (env.p2wpkh output).isSome then ⟨env.p2wpkh output, none, "witness_v0_keyhash"⟩
  else if (env.p2wsh output).isSome then ⟨env.p2wsh output, none, "witness_v0_scripthash"⟩
  else if (env.p2tr output).isSome then ⟨env.p2tr output, none, "witness_v1_taproot"⟩
  else if (env.toFutureOPNetAddress output).isSome then
    ⟨env.toFutureOPNetAddress output, none, "witness_unknown"⟩
  else if (multisigKeys env output).isSome then ⟨none, none, "multisig"⟩
  else if (env.toFutureSegwitAddress output).isSome then
    ⟨env.toFutureSegwitAddress output, none, "witness_unknown"⟩
  else ⟨none, none, "nonstandard"⟩

/-! ### The mempool's record -/

/-- `EMPTY_BLOCK_HASH`: the text of 32 zero bytes. -/
def EMPTY_BLOCK_HASH : String := toHex (List.replicate 32 0)

def rawInput (input : BitcoinInput) : VIn where
  txid := some input.hash
  vout := some input.index
  scriptSig := some { asm := "", hex := input.script }
  sequence := input.sequence
  txinwitness := some input.witness
  coinbase := none

/-- `new BigNumber(Number(output.value)).div(1e8).toNumber()`. -/
def rawValue (env : DecoderEnvironment) (value : ℕ) : ℚ :=
  env.toNumber (env.toNumber value / 100000000)

def rawOutput (env : DecoderEnvironment) (i : ℕ) (output : BitcoinOutput) : VOut where
  value := rawValue env output.value
  n := i
  scriptPubKey :=
    { hex := output.script
      address := (scriptToAddress env output.script).address
      addresses := none
      type := (scriptToAddress env output.script).type }

def toRawTransactionData (env : DecoderEnvironment) (data : BitcoinTransaction) :
    TransactionData where
  txid := env.library.getId data
  version := data.version
  locktime := data.locktime
  vin := data.ins.map rawInput
  vout := data.outs.mapIdx (rawOutput env)
  in_active_chain := false
  hex := env.library.toBuffer data
  hash := env.library.getHash data
  size := env.library.byteLength data
  vsize := env.library.virtualSize data
  weight := env.library.weight data
  blockhash := some EMPTY_BLOCK_HASH
  confirmations := 0
  blocktime := 0
  time := 0

/-! ### The RPC's record -/

/-- The block that carries a transaction. `reported` is the hash the record has, if it has one. -/
structure BlockData where
  hash : String
  reported : Option String
  reported_eq : ∀ text ∈ reported, text = hash
  confirmations : ℕ
  time : ℕ

/-- An input that spends an output. Inputs without witness have none in the record. -/
def rpcInput (node : NodeRpc) (input : BitcoinInput) : VIn where
  txid := some input.hash.reverse
  vout := some input.index
  scriptSig := some { asm := node.asm input.script, hex := input.script }
  sequence := input.sequence
  txinwitness := if input.witness.isEmpty then none else some input.witness
  coinbase := none

/-- The amount is a decimal text of eight places, read as a floating point number. -/
def rpcOutput (env : DecoderEnvironment) (node : NodeRpc) (i : ℕ) (output : BitcoinOutput) :
    VOut where
  value := env.toNumber (output.value / 100000000)
  n := i
  scriptPubKey :=
    { hex := output.script
      address := node.address output.script
      addresses := node.addresses output.script
      type := node.type output.script }

/-- The RPC's record of a transaction that is not a coinbase. -/
def rpcTransactionData (env : DecoderEnvironment) (node : NodeRpc) (block : BlockData)
    (tx : BitcoinTransaction) : TransactionData where
  txid := node.txid tx
  version := tx.version
  locktime := tx.locktime
  vin := tx.ins.map (rpcInput node)
  vout := tx.outs.mapIdx (rpcOutput env node)
  in_active_chain := true
  hex := node.hex tx
  hash := node.hash tx
  size := node.size tx
  vsize := node.vsize tx
  weight := node.weight tx
  blockhash := block.reported
  confirmations := block.confirmations
  blocktime := block.time
  time := block.time

/-! ### Agreement -/

/-- The records say the same of what is spent and created, and have the same ids and sizes. -/
structure RecordsAgree (raw rpc : TransactionData) : Prop where
  txid : raw.txid = rpc.txid
  hash : raw.hash = rpc.hash
  outpoints : raw.vin.map (fun vIn => (vIn.txid, vIn.vout)) =
    rpc.vin.map fun vIn => (vIn.txid, vIn.vout)
  witnesses : raw.vin.map (fun vIn => vIn.txinwitness.getD []) =
    rpc.vin.map fun vIn => vIn.txinwitness.getD []
  scripts : raw.vout.map (fun vOut => vOut.scriptPubKey.hex) =
    rpc.vout.map fun vOut => vOut.scriptPubKey.hex
  values : raw.vout.map VOut.value = rpc.vout.map VOut.value
  sizes : (raw.size, raw.vsize, raw.weight) = (rpc.size, rpc.vsize, rpc.weight)

/-- The inputs and outputs read alike, and so do the type, the contract address and the fees. -/
structure ParsesAgree (env : DecoderEnvironment) (block : BlockData) (raw rpc : TransactionData) :
    Prop where
  inputs : raw.vin.map TransactionInput.new = rpc.vin.map TransactionInput.new
  outputs : raw.vout.map (TransactionOutput.new env.toParserEnvironment) =
    rpc.vout.map (TransactionOutput.new env.toParserEnvironment)
  type : getTransactionType env.toScriptEnvironment raw =
    getTransactionType env.toScriptEnvironment rpc
  transaction : parseTransaction env.toParserEnvironment raw EMPTY_BLOCK_HASH =
    parseTransaction env.toParserEnvironment rpc block.hash

/-- The two decodings of a transaction agree. -/
def DecodingsAgree (env : DecoderEnvironment) (node : NodeRpc) (block : BlockData)
    (tx : BitcoinTransaction) : Prop :=
  RecordsAgree (toRawTransactionData env tx) (rpcTransactionData env node block tx) ∧
    ParsesAgree env block (toRawTransactionData env tx) (rpcTransactionData env node block tx)

/-- The node gives the output of a script the type and the address that `scriptToAddress` gives. -/
structure SameAddress (env : DecoderEnvironment) (node : NodeRpc) (script : Bytes) : Prop where
  type : (scriptToAddress env script).type = node.type script
  address : (scriptToAddress env script).address.filter (fun text => text ≠ "") =
    ScriptPubKey.soleAddress
      ⟨script, node.address script, node.addresses script, node.type script⟩
  addresses : node.addresses script = none

end OpnetNode.RawTransactionData
