import OpnetNode.Hex
import OpnetNode.Json
import OpnetNode.Mldsa.MLDSAPublicKeyRepository
import OpnetNode.TextDecoder

/-!
# Plugin files

`parsePluginFile` takes the bytes of a plugin file apart: a header with the key and the signature
of its author, then the metadata, the bytecode and an optional proto section, each after its length,
and last a checksum.  The validator checks the signature over the checksum.

The hash function and the signature scheme are given, and how many calls the stack holds.  The text
of a JSON syntax error is that of the engine and is left out.
-/

namespace OpnetNode

namespace PluginLoader

/-! ### The file format -/

/-- ASCII: `OPNETPLG`. -/
def PLUGIN_MAGIC_BYTES : Bytes := [0x4F, 0x50, 0x4E, 0x45, 0x54, 0x50, 0x4C, 0x47]

def PLUGIN_FORMAT_VERSION : ℕ := 1

inductive MLDSALevel
  | MLDSA44
  | MLDSA65
  | MLDSA87
  deriving DecidableEq

/-- The level of a number, if it is in the enumeration. -/
def MLDSALevel.ofByte (b : UInt8) : Option MLDSALevel :=
  if b = 0 then some .MLDSA44 else if b = 1 then some .MLDSA65 else if b = 2 then some .MLDSA87
  else none

def MLDSA_PUBLIC_KEY_SIZES : MLDSALevel → ℕ
  | .MLDSA44 => 1312
  | .MLDSA65 => 1952
  | .MLDSA87 => 2592

def MLDSA_SIGNATURE_SIZES : MLDSALevel → ℕ
  | .MLDSA44 => 2420
  | .MLDSA65 => 3309
  | .MLDSA87 => 4627

def calculateHeaderSize (level : MLDSALevel) : ℕ :=
  8 + 4 + 1 + MLDSA_PUBLIC_KEY_SIZES level + MLDSA_SIGNATURE_SIZES level

def MIN_PLUGIN_FILE_SIZE : ℕ :=
  8 + 4 + 1 + MLDSA_PUBLIC_KEY_SIZES .MLDSA44 + MLDSA_SIGNATURE_SIZES .MLDSA44
    + 4 + 2 + 4 + 1 + 4 + 32

def MAX_METADATA_SIZE : ℕ := 1024 * 1024

def MAX_BYTECODE_SIZE : ℕ := 100 * 1024 * 1024

def MAX_PROTO_SIZE : ℕ := 1024 * 1024

structure IPluginFileHeader where
  magic : Bytes
  version : ℕ
  mldsaLevel : MLDSALevel
  publicKey : Bytes
  signature : Bytes

structure IParsedPluginFile where
  formatVersion : ℕ
  mldsaLevel : MLDSALevel
  publicKey : Bytes
  signature : Bytes
  metadata : Json
  rawMetadata : List Char
  bytecode : Bytes
  proto : Option Bytes
  checksum : Bytes

/-! ### Errors -/

/-- What parsing throws: an error of the loader, or an error of the language. -/
inductive Failure
  | PluginLoadError (message code filePath : String)
  | TypeError (message : String)
  | RangeError (message : String)
  deriving DecidableEq

def check (ok : Bool) (filePath message code : String) : Except Failure Unit :=
  if ok then .ok () else .error (.PluginLoadError message code filePath)

/-- The check before bytes are read. -/
def checkBounds (buffer : Bytes) (filePath what : String) (needed : ℕ) : Except Failure Unit :=
  let length := buffer.length
  check (needed ≤ length) filePath
    s!"Buffer overflow: need {needed} bytes for {what}, but buffer is {length} bytes"
    "BUFFER_OVERFLOW"

/-- The check of the length of a section. -/
def checkSize (filePath what code : String) (size maximum : ℕ) : Except Failure Unit :=
  check (size ≤ maximum) filePath s!"{what} too large: {size} bytes (maximum: {maximum})" code

/-! ### Parsing -/

/-- The bytes from one offset up to another. -/
def subarray (buffer : Bytes) (start stop : ℕ) : Bytes := (buffer.take stop).drop start

/-- `DataView.getUint32`, little endian. -/
def getUint32 (buffer : Bytes) (offset : ℕ) : ℕ :=
  match buffer.drop offset with
  | a :: b :: c :: d :: _ => a.toNat + 0x100 * b.toNat + 0x10000 * c.toNat + 0x1000000 * d.toNat
  | _ => 0

def parseHeader (buffer : Bytes) (filePath : String) : Except Failure IPluginFileHeader := do
  let length := buffer.length
  check (13 ≤ length) filePath s!"File too small: {length} bytes (minimum header: 13 bytes)"
    "FILE_TOO_SMALL"
  let magic := subarray buffer 0 8
  let expected := toHex PLUGIN_MAGIC_BYTES
  let got := toHex magic
  check (magic = PLUGIN_MAGIC_BYTES) filePath
    s!"Invalid magic bytes: expected {expected}, got {got}" "INVALID_MAGIC"
  let version := getUint32 buffer 8
  check (version = PLUGIN_FORMAT_VERSION) filePath
    s!"Unsupported format version: {version} (supported: {PLUGIN_FORMAT_VERSION})"
    "UNSUPPORTED_VERSION"
  let level := (buffer.getD 12 0).toNat
  match MLDSALevel.ofByte (buffer.getD 12 0) with
  | none =>
    .error (.PluginLoadError s!"Invalid MLDSA level: {level}" "INVALID_MLDSA_LEVEL" filePath)
  | some mldsaLevel =>
    let offset := 13
    let publicKeySize := MLDSA_PUBLIC_KEY_SIZES mldsaLevel
    checkBounds buffer filePath "public key" (offset + publicKeySize)
    let publicKey := subarray buffer offset (offset + publicKeySize)
    let offset := offset + publicKeySize
    let signatureSize := MLDSA_SIGNATURE_SIZES mldsaLevel
    checkBounds buffer filePath "signature" (offset + signatureSize)
    let signature := subarray buffer offset (offset + signatureSize)
    return { magic, version, mldsaLevel, publicKey, signature }

/-- What `ToString` throws for a value, if anything; `stack` is how many calls of `join` fit, one inside
another.  A member `toString` of an object is no function, and `valueOf` gives no primitive value. -/
def toStringFailure : ℕ → Json → Option Failure
  | _, .object members =>
    if (members.lookup (Json.units "toString")).isSome then
      some (.TypeError "Cannot convert object to primitive value")
    else none
  | 0, .array _ => some (.RangeError "Maximum call stack size exceeded")
  | stack + 1, .array items => items.findSome? (toStringFailure stack)
  | _, _ => none

/-- What the log of a plugin throws, which names it and its version. -/
def logFailure (stack : ℕ) (metadata : Json) : Option Failure :=
  if metadata.isNull then some (.TypeError "Cannot read properties of null (reading 'name')")
  else
    ((metadata.member "name").bind (toStringFailure stack)).or
      ((metadata.member "version").bind (toStringFailure stack))

section

variable (stack : ℕ) (sha256 : Bytes → Bytes)

/-- Compute SHA-256 checksum of metadata + bytecode + proto.  What the hash is fed piece by piece
is one message. -/
def computeChecksum (rawMetadata : List Char) (bytecode : Bytes) (proto : Option Bytes) : Bytes :=
  sha256 (TextDecoder.encode rawMetadata ++ bytecode ++ proto.getD [])

/-- The proto section, which is absent if its length is 0, and the offset behind it. -/
def parseProto (buffer : Bytes) (filePath : String) (offset protoLength : ℕ) :
    Except Failure (Option Bytes × ℕ) :=
  if protoLength > 0 then do
    checkSize filePath "Proto" "PROTO_TOO_LARGE" protoLength MAX_PROTO_SIZE
    checkBounds buffer filePath "proto" (offset + protoLength)
    return (some (subarray buffer offset (offset + protoLength)), offset + protoLength)
  else .ok (none, offset)

/-- `JSON.parse` of the metadata. -/
def parseMetadata (filePath : String) (rawMetadata : List Char) : Except Failure Json :=
  match Json.parse rawMetadata with
  | none => .error (.PluginLoadError "Invalid metadata JSON" "INVALID_METADATA_JSON" filePath)
  | some metadata => .ok metadata

/-- Parse a .opnet plugin file, whose bytes have been read. -/
def parsePluginFile (filePath : String) (buffer : Bytes) : Except Failure IParsedPluginFile := do
  let length := buffer.length
  check (MIN_PLUGIN_FILE_SIZE ≤ length) filePath
    s!"Plugin file too small: {length} bytes (minimum: {MIN_PLUGIN_FILE_SIZE})" "FILE_TOO_SMALL"
  let header ← parseHeader buffer filePath
  let offset := calculateHeaderSize header.mldsaLevel
  checkBounds buffer filePath "metadata length" (offset + 4)
  let metadataLength := getUint32 buffer offset
  let offset := offset + 4
  checkSize filePath "Metadata" "METADATA_TOO_LARGE" metadataLength MAX_METADATA_SIZE
  checkBounds buffer filePath "metadata" (offset + metadataLength)
  let rawMetadata := TextDecoder.decode (subarray buffer offset (offset + metadataLength))
  let offset := offset + metadataLength
  let metadata ← parseMetadata filePath rawMetadata
  checkBounds buffer filePath "bytecode length" (offset + 4)
  let bytecodeLength := getUint32 buffer offset
  let offset := offset + 4
  checkSize filePath "Bytecode" "BYTECODE_TOO_LARGE" bytecodeLength MAX_BYTECODE_SIZE
  checkBounds buffer filePath "bytecode" (offset + bytecodeLength)
  let bytecode := subarray buffer offset (offset + bytecodeLength)
  let offset := offset + bytecodeLength
  checkBounds buffer filePath "proto length" (offset + 4)
  let protoLength := getUint32 buffer offset
  let offset := offset + 4
  let (proto, offset) ← parseProto buffer filePath offset protoLength
  checkBounds buffer filePath "checksum" (offset + 32)
  let checksum := subarray buffer offset (offset + 32)
  let computedChecksum := computeChecksum sha256 rawMetadata bytecode proto
  let expected := toHex checksum
  let got := toHex computedChecksum
  check (checksum = computedChecksum) filePath
    s!"Checksum mismatch: expected {expected}, got {got}" "CHECKSUM_MISMATCH"
  match logFailure stack metadata with
  | some failure => .error failure
  | none =>
    .ok
      { formatVersion := header.version
        mldsaLevel := header.mldsaLevel
        publicKey := header.publicKey
        signature := header.signature
        metadata, rawMetadata, bytecode, proto, checksum }

end

end PluginLoader

/-! ### The signature -/

namespace PluginValidator

open PluginLoader

/-- The signature scheme: a key pair made from a public key and a chain code, which may fail, and
the check of a signature over a message, which may throw. -/
structure SignatureScheme (KeyPair : Type) where
  fromPublicKey : Bytes → Bytes → MLDSASecurityLevel → Except String KeyPair
  verifyMLDSASignature : KeyPair → Bytes → Bytes → Except String Bool

def mldsaLevelToSecurityLevel : MLDSALevel → MLDSASecurityLevel
  | .MLDSA44 => .LEVEL2
  | .MLDSA65 => .LEVEL3
  | .MLDSA87 => .LEVEL5

def validateSignature {KeyPair : Type} (scheme : SignatureScheme KeyPair)
    (plugin : IParsedPluginFile) : Bool :=
  let securityLevel := mldsaLevelToSecurityLevel plugin.mldsaLevel
  let verified : Except String Bool := do
    let keyPair ← scheme.fromPublicKey plugin.publicKey (List.replicate 32 0) securityLevel
    scheme.verifyMLDSASignature keyPair plugin.checksum plugin.signature
  match verified with
  | .ok valid => valid
  | .error _ => false

end PluginValidator

end OpnetNode
