import OpnetNode.Plugins.Equiv.PluginLoader

/-!
# The reads of the plugin parser

`Reading.parsePluginFile` is the parser with its reads in view: a run that reads outside of the file
has no outcome.  Each read stands behind a check of its bounds, so every run has one
(`Reading.parsePluginFile_eq`).
-/

namespace OpnetNode

namespace PluginLoader

open TextDecoder

/-- A computation on a buffer, without an outcome if it reads outside of it. -/
abbrev Reading (α : Type) := ExceptT Failure Option α

namespace Reading

/-- A computation that does not read. -/
def finish {α : Type} (x : Except Failure α) : Reading α := some x

/-- A read of the bytes from one offset up to another. -/
def subarray (buffer : Bytes) (start stop : ℕ) : Reading Bytes :=
  if start ≤ stop ∧ stop ≤ buffer.length then some (.ok (PluginLoader.subarray buffer start stop))
  else none

def getUint32 (buffer : Bytes) (offset : ℕ) : Reading ℕ :=
  if offset + 4 ≤ buffer.length then some (.ok (PluginLoader.getUint32 buffer offset)) else none

def getByte (buffer : Bytes) (offset : ℕ) : Reading UInt8 :=
  if offset < buffer.length then some (.ok (buffer.getD offset 0)) else none

/-- `parseHeader`, with its reads in view. -/
def parseHeader (buffer : Bytes) (filePath : String) : Reading IPluginFileHeader := do
  let length := buffer.length
  finish <| check (13 ≤ length) filePath s!"File too small: {length} bytes (minimum header: 13 bytes)"
    "FILE_TOO_SMALL"
  let magic ← subarray buffer 0 8
  let expected := toHex PLUGIN_MAGIC_BYTES
  let got := toHex magic
  finish <| check (magic = PLUGIN_MAGIC_BYTES) filePath
    s!"Invalid magic bytes: expected {expected}, got {got}" "INVALID_MAGIC"
  let version ← getUint32 buffer 8
  finish <| check (version = PLUGIN_FORMAT_VERSION) filePath
    s!"Unsupported format version: {version} (supported: {PLUGIN_FORMAT_VERSION})"
    "UNSUPPORTED_VERSION"
  let byte ← getByte buffer 12
  let level := byte.toNat
  match MLDSALevel.ofByte byte with
  | none =>
    finish <|
      .error (.PluginLoadError s!"Invalid MLDSA level: {level}" "INVALID_MLDSA_LEVEL" filePath)
  | some mldsaLevel =>
    let offset := 13
    let publicKeySize := MLDSA_PUBLIC_KEY_SIZES mldsaLevel
    finish <| checkBounds buffer filePath "public key" (offset + publicKeySize)
    let publicKey ← subarray buffer offset (offset + publicKeySize)
    let offset := offset + publicKeySize
    let signatureSize := MLDSA_SIGNATURE_SIZES mldsaLevel
    finish <| checkBounds buffer filePath "signature" (offset + signatureSize)
    let signature ← subarray buffer offset (offset + signatureSize)
    return { magic, version, mldsaLevel, publicKey, signature }

/-- `parseProto`, with its reads in view. -/
def parseProto (buffer : Bytes) (filePath : String) (offset protoLength : ℕ) :
    Reading (Option Bytes × ℕ) :=
  if protoLength > 0 then do
    finish <| checkSize filePath "Proto" "PROTO_TOO_LARGE" protoLength MAX_PROTO_SIZE
    finish <| checkBounds buffer filePath "proto" (offset + protoLength)
    let proto ← subarray buffer offset (offset + protoLength)
    return (some proto, offset + protoLength)
  else return (none, offset)

/-- `parsePluginFile`, with its reads in view. -/
def parsePluginFile (stack : ℕ) (sha256 : Bytes → Bytes) (filePath : String) (buffer : Bytes) :
    Reading IParsedPluginFile := do
  let length := buffer.length
  finish <| check (MIN_PLUGIN_FILE_SIZE ≤ length) filePath
    s!"Plugin file too small: {length} bytes (minimum: {MIN_PLUGIN_FILE_SIZE})" "FILE_TOO_SMALL"
  let header ← parseHeader buffer filePath
  let offset := calculateHeaderSize header.mldsaLevel
  finish <| checkBounds buffer filePath "metadata length" (offset + 4)
  let metadataLength ← getUint32 buffer offset
  let offset := offset + 4
  finish <| checkSize filePath "Metadata" "METADATA_TOO_LARGE" metadataLength MAX_METADATA_SIZE
  finish <| checkBounds buffer filePath "metadata" (offset + metadataLength)
  let rawMetadata := TextDecoder.decode (← subarray buffer offset (offset + metadataLength))
  let offset := offset + metadataLength
  let metadata ← finish <| parseMetadata filePath rawMetadata
  finish <| checkBounds buffer filePath "bytecode length" (offset + 4)
  let bytecodeLength ← getUint32 buffer offset
  let offset := offset + 4
  finish <| checkSize filePath "Bytecode" "BYTECODE_TOO_LARGE" bytecodeLength MAX_BYTECODE_SIZE
  finish <| checkBounds buffer filePath "bytecode" (offset + bytecodeLength)
  let bytecode ← subarray buffer offset (offset + bytecodeLength)
  let offset := offset + bytecodeLength
  finish <| checkBounds buffer filePath "proto length" (offset + 4)
  let protoLength ← getUint32 buffer offset
  let offset := offset + 4
  let (proto, offset) ← parseProto buffer filePath offset protoLength
  finish <| checkBounds buffer filePath "checksum" (offset + 32)
  let checksum ← subarray buffer offset (offset + 32)
  let computedChecksum := computeChecksum sha256 rawMetadata bytecode proto
  let expected := toHex checksum
  let got := toHex computedChecksum
  finish <| check (checksum = computedChecksum) filePath
    s!"Checksum mismatch: expected {expected}, got {got}" "CHECKSUM_MISMATCH"
  finish <|
    match logFailure stack metadata with
    | some failure => .error failure
    | none =>
      .ok
        { formatVersion := header.version
          mldsaLevel := header.mldsaLevel
          publicKey := header.publicKey
          signature := header.signature
          metadata, rawMetadata, bytecode, proto, checksum }

section

variable {α β : Type}

theorem finish_bind {x : Except Failure α} {f : α → Except Failure β} {F : α → Reading β}
    (h : ∀ a, x = .ok a → F a = finish (f a)) : finish x >>= F = finish (x >>= f) := by
  cases x with
  | error e => rfl
  | ok a => exact h a rfl

variable {buffer : Bytes} {y : Reading β}

theorem subarray_bind {start stop : ℕ} {F : Bytes → Reading β}
    (h : start ≤ stop ∧ stop ≤ buffer.length)
    (hF : F (PluginLoader.subarray buffer start stop) = y) : subarray buffer start stop >>= F = y := by
  unfold subarray
  rw [if_pos h]
  exact hF

variable {offset : ℕ}

theorem getUint32_bind {F : ℕ → Reading β}
    (h : offset + 4 ≤ buffer.length) (hF : F (PluginLoader.getUint32 buffer offset) = y) :
    getUint32 buffer offset >>= F = y := by
  unfold getUint32
  rw [if_pos h]
  exact hF

theorem getByte_bind {F : UInt8 → Reading β}
    (h : offset < buffer.length) (hF : F (buffer.getD offset 0) = y) :
    getByte buffer offset >>= F = y := by
  unfold getByte
  rw [if_pos h]
  exact hF

end

theorem parseHeader_eq (buffer : Bytes) (filePath : String) :
    parseHeader buffer filePath = finish (PluginLoader.parseHeader buffer filePath) := by
  unfold parseHeader PluginLoader.parseHeader
  apply finish_bind
  intro _ hlength
  rw [check_eq_ok, decide_eq_true_iff] at hlength
  apply subarray_bind (by omega)
  apply finish_bind
  intro _ _
  apply getUint32_bind (by omega)
  apply finish_bind
  intro _ _
  apply getByte_bind (by omega)
  cases MLDSALevel.ofByte (buffer.getD 12 0) with
  | none => rfl
  | some level =>
    apply finish_bind
    intro _ hkey
    rw [checkBounds_eq_ok] at hkey
    apply subarray_bind ⟨Nat.le_add_right _ _, hkey⟩
    apply finish_bind
    intro _ hsignature
    rw [checkBounds_eq_ok] at hsignature
    exact subarray_bind ⟨Nat.le_add_right _ _, hsignature⟩ rfl

theorem parseProto_eq (buffer : Bytes) (filePath : String) (offset protoLength : ℕ) :
    parseProto buffer filePath offset protoLength
      = finish (PluginLoader.parseProto buffer filePath offset protoLength) := by
  unfold parseProto PluginLoader.parseProto
  split_ifs with hpos
  · apply finish_bind
    intro _ _
    apply finish_bind
    intro _ hproto
    rw [checkBounds_eq_ok] at hproto
    exact subarray_bind ⟨Nat.le_add_right _ _, hproto⟩ rfl
  · rfl

theorem parsePluginFile_eq (stack : ℕ) (sha256 : Bytes → Bytes) (filePath : String) (buffer : Bytes) :
    parsePluginFile stack sha256 filePath buffer
      = some (PluginLoader.parsePluginFile stack sha256 filePath buffer) := by
  show _ = finish _
  unfold parsePluginFile PluginLoader.parsePluginFile
  apply finish_bind
  intro _ _
  rw [parseHeader_eq]
  apply finish_bind
  intro header _
  apply finish_bind
  -- each read stands behind a check of its bounds, from which it is within the file
  intro _ hmetadataLength
  rw [checkBounds_eq_ok] at hmetadataLength
  apply getUint32_bind hmetadataLength
  apply finish_bind
  intro _ _
  apply finish_bind
  intro _ hmetadata
  rw [checkBounds_eq_ok] at hmetadata
  apply subarray_bind ⟨Nat.le_add_right _ _, hmetadata⟩
  apply finish_bind
  intro metadata _
  apply finish_bind
  intro _ hbytecodeLength
  rw [checkBounds_eq_ok] at hbytecodeLength
  apply getUint32_bind hbytecodeLength
  apply finish_bind
  intro _ _
  apply finish_bind
  intro _ hbytecode
  rw [checkBounds_eq_ok] at hbytecode
  apply subarray_bind ⟨Nat.le_add_right _ _, hbytecode⟩
  apply finish_bind
  intro _ hprotoLength
  rw [checkBounds_eq_ok] at hprotoLength
  apply getUint32_bind hprotoLength
  dsimp only
  rw [parseProto_eq]
  apply finish_bind
  intro proto _
  apply finish_bind
  intro _ hchecksum
  rw [checkBounds_eq_ok] at hchecksum
  apply subarray_bind ⟨Nat.le_add_right _ _, hchecksum⟩
  apply finish_bind
  intro _ _
  cases logFailure stack metadata <;> rfl

end Reading

end PluginLoader

end OpnetNode
