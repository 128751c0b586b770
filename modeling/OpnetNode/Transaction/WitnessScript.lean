import Mathlib.Data.Nat.Notation
import Mathlib.Data.List.Sort
import OpnetNode.AddressMap

/-!
# The script of an OP_NET input

An OP_NET transaction carries its data in the leaf script of one of its inputs: pushes of data
between opcodes that spell out the layout.  The node recognises a transaction by the sequence of
opcodes, and reads the fields by taking the decompiled script apart from the front.

* `dataIncludeOPNetMagic`, `verifyChecksum`, `detect`: the recognition (`detect` is `_is` of the
  source).
* `OPNetHeader`, `decodeOPNetHeader`, `decodeFlags`: the 12-byte header and the features it
  announces.
* `getDataFromScript`, `getDataUntilBufferEnd`, `decodeFeatures`: data spread over several pushes.
* `ScriptReader`: a reader of the script's front.  It may give up (the source returns `undefined`)
  or throw.

The decompiler and the binary reader are other packages', and parameters here.
-/

namespace OpnetNode.WitnessScript

/-- What `script.decompile` makes of an element of a script. -/
inductive ScriptItem where
  | opcode (code : ℕ)
  | push (data : Bytes)
  deriving DecidableEq, Repr

/-! ### The opcodes of the layouts -/

def OP_0 : ℕ := 0
def OP_1NEGATE : ℕ := 79
def OP_1 : ℕ := 81
def OP_IF : ℕ := 99
def OP_ELSE : ℕ := 103
def OP_ENDIF : ℕ := 104
def OP_TOALTSTACK : ℕ := 107
def OP_DEPTH : ℕ := 116
def OP_DUP : ℕ := 118
def OP_EQUALVERIFY : ℕ := 136
def OP_NUMEQUAL : ℕ := 156
def OP_HASH256 : ℕ := 170
def OP_CHECKSIGVERIFY : ℕ := 173

/-- `OPNet_MAGIC`: the text "op". -/
def OPNet_MAGIC : Bytes := [0x6f, 0x70]

/-- `POW.PREIMAGE_LENGTH`. -/
def PREIMAGE_LENGTH : ℕ := 20

/-- `OPNetHeader.EXPECTED_HEADER_LENGTH`. -/
def EXPECTED_HEADER_LENGTH : ℕ := 4 + 8

inductive Features where
  | ACCESS_LIST
  | EPOCH_SUBMISSION
  | MLDSA_LINK_PUBKEY
  deriving DecidableEq, Repr

/-- What reading a script takes from other packages. A reader of the binary data returns what is
left of it. -/
structure ScriptEnvironment where
  /-- `script.decompile`. -/
  decompile : Bytes → Except String (Option (List ScriptItem))
  readU8 : Bytes → Except String (ℕ × Bytes)
  readU16 : Bytes → Except String (ℕ × Bytes)
  readU32 : Bytes → Except String (ℕ × Bytes)
  readU64 : Bytes → Except String (ℕ × Bytes)
  readBoolean : Bytes → Except String (Bool × Bytes)
  readBytes : ℕ → Bytes → Except String (Bytes × Bytes)
  readAddress : Bytes → Except String (Bytes × Bytes)
  /-- `readBytesWithLength`, with the largest length it accepts. -/
  readBytesWithLength : Option ℕ → Bytes → Except String (Bytes × Bytes)
  /-- The bit of a feature in the header's flags. -/
  featureBit : Features → ℕ
  featurePriority : Features → ℕ

/-! ### Recognition -/

def dataIncludeOPNetMagic (data : List ScriptItem) : Bool :=
  data.any fun value =>
    match value with
    | .opcode _ => false
    | .push bytes => decide (bytes = OPNet_MAGIC)

/-- The opcodes of a script, in order, as bytes. -/
def getDataChecksum (data : List ScriptItem) : Bytes :=
  data.filterMap fun value =>
    match value with
    | .opcode code => some (UInt8.ofNat code)
    | .push _ => none

def verifyChecksum (scriptData : List ScriptItem) (typeChecksum : Bytes) : Bool :=
  decide (getDataChecksum scriptData = typeChecksum)

/-- An input of a transaction. The witnesses are hexadecimal texts in the source; here they are the
bytes they stand for. -/
structure VIn where
  txid : Bytes
  txinwitness : List Bytes
  deriving DecidableEq, Repr

/-- The number of hexadecimal digits of bytes. -/
def hexLength (bytes : Bytes) : ℕ := 2 * bytes.length

/-- The loop body of `_is`: whether an input carries a script of the given opcodes. -/
def isCorrectInput (env : ScriptEnvironment) (typeChecksum : Bytes) (vIn : VIn) : Bool :=
  match vIn.txinwitness with
  | [_, signatureA, signatureB, rawScript, controlBlock] =>
    if hexLength signatureA ≠ 128 ∨ hexLength signatureB ≠ 128 then false
    else if hexLength controlBlock ≠ 130 then false
    else
      match env.decompile rawScript with
      | .ok (some decodedScript) =>
        dataIncludeOPNetMagic decodedScript && verifyChecksum decodedScript typeChecksum
      | _ => false
  | _ => false

/-- `_is`: the position of the first input that carries a script of the given opcodes. -/
def detect (env : ScriptEnvironment) (typeChecksum : Bytes) (vin : List VIn) : Option ℕ :=
  vin.findIdx? (isCorrectInput env typeChecksum)

/-! ### Taking a script apart -/

/-- A reader of the front of a script: it gives up, throws, or returns a value and the rest. -/
abbrev ScriptReader (α : Type) := StateT (List ScriptItem) (OptionT (Except String)) α

namespace ScriptReader

variable {α : Type}

def raise (message : String) : ScriptReader α := fun _ => OptionT.mk (.error message)

/-- A computation that does not touch the script. -/
def ofExcept : Except String α → ScriptReader α
  | .ok a => pure a
  | .error message => raise message

/-- `shift()`, which must give the opcode. -/
def shiftOpcode (code : ℕ) : ScriptReader Unit := fun scriptData =>
  match scriptData with
  | .opcode found :: rest => if found = code then pure ((), rest) else OptionT.mk (.ok none)
  | _ => OptionT.mk (.ok none)

/-- `shift()`, which must give a push of the length. -/
def shiftBytes (length : ℕ) : ScriptReader Bytes := fun scriptData =>
  match scriptData with
  | .push data :: rest =>
    if data.length = length then pure (data, rest) else OptionT.mk (.ok none)
  | _ => OptionT.mk (.ok none)

end ScriptReader

open ScriptReader

structure OPNetHeader where
  minerMLDSAPublicKey : Bytes
  solution : Bytes
  priorityFeeSat : ℕ
  publicKeyPrefix : UInt8
  flags : ℕ
  deriving DecidableEq, Repr

/-- The constructor of `OPNetHeader`, with `decodeHeader`. -/
def OPNetHeader.new (env : ScriptEnvironment) (header minerMLDSAPublicKey solution : Bytes) :
    Except String OPNetHeader := do
  let headerBytes ← env.readBytes 4 header
  let priorityFeeSat ← env.readU64 headerBytes.2
  let byte := fun i => headerBytes.1.getD i 0
  if byte 0 ≠ 0x02 ∧ byte 0 ≠ 0x03 then .error "Invalid public key prefix"
  else
    .ok
      { minerMLDSAPublicKey
        solution
        priorityFeeSat := priorityFeeSat.1
        publicKeyPrefix := byte 0
        flags := (byte 1).toNat * 2 ^ 16 + (byte 2).toNat * 2 ^ 8 + (byte 3).toNat }

def OPNetHeader.decodeFlags (env : ScriptEnvironment) (header : OPNetHeader) : List Features :=
  [Features.ACCESS_LIST, Features.EPOCH_SUBMISSION, Features.MLDSA_LINK_PUBKEY].filter fun f =>
    header.flags &&& env.featureBit f = env.featureBit f

def decodeOPNetHeader (env : ScriptEnvironment) : ScriptReader OPNetHeader := do
  let header ← shiftBytes EXPECTED_HEADER_LENGTH
  shiftOpcode OP_TOALTSTACK
  let minerMLDSAPublicKey ← shiftBytes 32
  shiftOpcode OP_TOALTSTACK
  let preimage ← shiftBytes PREIMAGE_LENGTH
  shiftOpcode OP_TOALTSTACK
  ofExcept (OPNetHeader.new env header minerMLDSAPublicKey preimage)

/-- The pushes up to the break opcode, joined; `none` if there are none. -/
def getDataFromScript (breakWhenReachOpcode : ℕ) :
    List ScriptItem → Except String (Option Bytes × List ScriptItem)
  | [] => .ok (none, [])
  | .opcode code :: scriptData =>
    if code = breakWhenReachOpcode then .ok (none, .opcode code :: scriptData)
    else .error "Invalid contract bytecode found in transaction script."
  | .push currentItem :: scriptData => do
    let rest ← getDataFromScript breakWhenReachOpcode scriptData
    .ok (some (currentItem ++ rest.1.getD []), rest.2)

/-- The pushes up to the next opcode, joined; `none` if there are none. -/
def getDataUntilBufferEnd : List ScriptItem → Option Bytes × List ScriptItem
  | .push currentItem :: scriptData =>
    let rest := getDataUntilBufferEnd scriptData
    (some (currentItem ++ rest.1.getD []), rest.2)
  | scriptData => (none, scriptData)

/-- A feature as the script has it. -/
structure RawFeature where
  opcode : Features
  data : Bytes
  deriving DecidableEq, Repr

/-- The loop of `decodeFeatures`: one length-delimited field for each announced feature. -/
def readFeatures (env : ScriptEnvironment) : List Features → Bytes → Except String (List RawFeature)
  | [], _ => .ok []
  | opcode :: features, buffer => do
    let field ← env.readBytesWithLength none buffer
    let rest ← readFeatures env features field.2
    .ok (⟨opcode, field.1⟩ :: rest)

def decodeFeatures (env : ScriptEnvironment) (header : OPNetHeader) :
    ScriptReader (List RawFeature) := fun scriptData =>
  match header.decodeFlags env with
  | [] => pure ([], scriptData)
  | features =>
    match getDataUntilBufferEnd scriptData with
    | (none, _) => OptionT.mk (.error "OP_NET: Unable to decode features data.")
    | (some data, rest) =>
      match readFeatures env features data with
      | .ok decodedData => pure (decodedData, rest)
      | .error _ => OptionT.mk (.error "OP_NET: Unable to decode features data.")

end OpnetNode.WitnessScript
