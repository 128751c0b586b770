import OpnetNode.Plugins.PluginLoader

/-!
# What a plugin signature binds

The signature is checked over the checksum, and the checksum is the hash of the text of the
metadata, the bytecode and the proto section, fed one behind the other.  Nothing in it tells where a
section ends, and the text of the metadata does not keep a byte order mark or malformed bytes.  So
accepted files with one key and one checksum agree in their sections exactly if they have the same
layout (`sections_eq_iff_sameLayout`).
-/

namespace OpnetNode

namespace PluginLoader

open TextDecoder

/-- The sections of a plugin file. -/
@[ext]
structure Sections where
  metadata : Bytes
  bytecode : Bytes
  proto : Bytes
  deriving DecidableEq

/-- The bytes after a length field, as many as it says. -/
def sectionAt (buffer : Bytes) (offset : ℕ) : Bytes :=
  subarray buffer (offset + 4) (offset + 4 + getUint32 buffer offset)

def behind (buffer : Bytes) (offset : ℕ) : ℕ := offset + 4 + getUint32 buffer offset

/-- The offset of the metadata's length field. -/
def metadataOffset (buffer : Bytes) : ℕ :=
  calculateHeaderSize ((MLDSALevel.ofByte (buffer.getD 12 0)).getD .MLDSA44)

/-- The sections of a plugin file, one behind the other. -/
def sections (buffer : Bytes) : Sections where
  metadata := sectionAt buffer (metadataOffset buffer)
  bytecode := sectionAt buffer (behind buffer (metadataOffset buffer))
  proto := sectionAt buffer (behind buffer (behind buffer (metadataOffset buffer)))

theorem bind_eq_ok {α β : Type} {x : Except Failure α} {f : α → Except Failure β} {r : β} :
    (x >>= f) = .ok r ↔ ∃ a, x = .ok a ∧ f a = .ok r := by
  cases x with
  | error | ok => simp [bind, Except.bind]

variable {filePath : String} {u : Unit}

theorem check_eq_ok {ok : Bool} {message code : String} :
    check ok filePath message code = .ok u ↔ ok := by
  unfold check
  split_ifs with h <;> simp [h]

variable {buffer : Bytes}

theorem checkBounds_eq_ok {what : String} {needed : ℕ} :
    checkBounds buffer filePath what needed = .ok u ↔ needed ≤ buffer.length := by
  unfold checkBounds
  rw [check_eq_ok, decide_eq_true_iff]

theorem checkSize_eq_ok {what code : String} {size maximum : ℕ} :
    checkSize filePath what code size maximum = .ok u ↔ size ≤ maximum := by
  unfold checkSize
  rw [check_eq_ok, decide_eq_true_iff]

theorem parseHeader_eq_ok {header : IPluginFileHeader}
    (h : parseHeader buffer filePath = .ok header) :
    MLDSALevel.ofByte (buffer.getD 12 0) = some header.mldsaLevel ∧
      header.publicKey = subarray buffer 13 (13 + MLDSA_PUBLIC_KEY_SIZES header.mldsaLevel) ∧
      13 + MLDSA_PUBLIC_KEY_SIZES header.mldsaLevel ≤ buffer.length := by
  simp only [parseHeader, bind_eq_ok, check_eq_ok] at h
  obtain ⟨_, -, _, -, _, -, h⟩ := h
  cases hlevel : MLDSALevel.ofByte (buffer.getD 12 0) with
  | none =>
    simp only [hlevel] at h
    cases h
  | some level =>
    simp only [hlevel, bind_eq_ok, checkBounds_eq_ok] at h
    obtain ⟨_, hkey, _, -, h⟩ := h
    cases h
    exact ⟨rfl, rfl, hkey⟩

theorem parseProto_eq_ok {offset protoLength : ℕ} {proto : Option Bytes} {offset' : ℕ}
    (h : parseProto buffer filePath offset protoLength = .ok (proto, offset')) :
    proto.getD [] = subarray buffer offset (offset + protoLength) := by
  unfold parseProto at h
  split_ifs at h with hpos
  · simp only [bind_eq_ok] at h
    obtain ⟨_, -, _, -, h⟩ := h
    cases h
    rfl
  · cases h
    have hzero : protoLength = 0 := by omega
    simp [subarray, hzero]

theorem parsePluginFile_eq_ok {stack : ℕ} {sha256 : Bytes → Bytes} {p : IParsedPluginFile}
    (h : parsePluginFile stack sha256 filePath buffer = .ok p) :
    p.rawMetadata = decode (sections buffer).metadata ∧
      p.bytecode = (sections buffer).bytecode ∧
      p.proto.getD [] = (sections buffer).proto ∧
      p.checksum = computeChecksum sha256 p.rawMetadata p.bytecode p.proto ∧
      p.publicKey.length = MLDSA_PUBLIC_KEY_SIZES p.mldsaLevel := by
  simp only [parsePluginFile, bind_eq_ok, check_eq_ok, checkBounds_eq_ok, checkSize_eq_ok] at h
  obtain ⟨_, -, header, hheader, _, -, _, -, _, hmetadata, metadata, -, _, -, _, -, _, hbytecode, _,
    -, ⟨proto, offset⟩, hproto, _, -, _, hchecksum, h⟩ := h
  obtain ⟨hlevel, hkey, hbound⟩ := parseHeader_eq_ok hheader
  have hoffset : metadataOffset buffer = calculateHeaderSize header.mldsaLevel := by
    rw [metadataOffset, hlevel, Option.getD_some]
  split at h
  · cases h
  cases h
  refine ⟨?_, ?_, ?_, by simpa using hchecksum, ?_⟩
  · simp only [sections, sectionAt, hoffset]
  · simp only [sections, sectionAt, behind, hoffset]
  · simp only [sections, sectionAt, behind, hoffset]
    exact parseProto_eq_ok hproto
  · show header.publicKey.length = MLDSA_PUBLIC_KEY_SIZES header.mldsaLevel
    rw [hkey, subarray, List.length_drop, List.length_take]
    omega

/-! ### What the checksum covers -/

def hashedMessage (p : IParsedPluginFile) : Bytes :=
  encode p.rawMetadata ++ p.bytecode ++ p.proto.getD []

variable {a b : IParsedPluginFile}

theorem mldsaLevel_eq_of_publicKey_eq {stackA stackB : ℕ} {sha256 : Bytes → Bytes}
    {pathA pathB : String} {fileA fileB : Bytes}
    (ha : parsePluginFile stackA sha256 pathA fileA = .ok a)
    (hb : parsePluginFile stackB sha256 pathB fileB = .ok b) (hkey : a.publicKey = b.publicKey) :
    a.mldsaLevel = b.mldsaLevel := by
  obtain ⟨-, -, -, -, hsizeA⟩ := parsePluginFile_eq_ok ha
  obtain ⟨-, -, -, -, hsizeB⟩ := parsePluginFile_eq_ok hb
  have hsize : MLDSA_PUBLIC_KEY_SIZES a.mldsaLevel = MLDSA_PUBLIC_KEY_SIZES b.mldsaLevel := by
    rw [← hsizeA, ← hsizeB, hkey]
  revert hsize
  cases a.mldsaLevel <;> cases b.mldsaLevel <;> decide

theorem validateSignature_eq {KeyPair : Type} (scheme : PluginValidator.SignatureScheme KeyPair)
    (hlevel : a.mldsaLevel = b.mldsaLevel)
    (hkey : a.publicKey = b.publicKey) (hchecksum : a.checksum = b.checksum)
    (hsignature : a.signature = b.signature) :
    PluginValidator.validateSignature scheme a = PluginValidator.validateSignature scheme b := by
  unfold PluginValidator.validateSignature
  rw [hlevel, hkey, hchecksum, hsignature]

/-- The sections begin at the same offsets, and the text decoder alters the metadata in the same
places and the same way. -/
def SameLayout (s t : Sections) : Prop :=
  s.metadata.length = t.metadata.length ∧ alterations s.metadata = alterations t.metadata ∧
    s.bytecode.length = t.bytecode.length

/-- **What a plugin signature binds.**  Two accepted files with one key and one checksum pass the
validator with the same signatures.  They have the same metadata, bytecode and proto bytes exactly
if they have the same layout: the checksum does not cover where the sections end, nor what the text
decoder does to the metadata. -/
theorem sections_eq_iff_sameLayout {stackA stackB : ℕ} {sha256 : Bytes → Bytes}
    {pathA pathB : String} {fileA fileB : Bytes} {a b : IParsedPluginFile}
    (ha : parsePluginFile stackA sha256 pathA fileA = .ok a)
    (hb : parsePluginFile stackB sha256 pathB fileB = .ok b) (hkey : a.publicKey = b.publicKey)
    (hchecksum : a.checksum = b.checksum)
    (hcollision : sha256 (hashedMessage a) = sha256 (hashedMessage b) →
      hashedMessage a = hashedMessage b) :
    (∀ {KeyPair : Type} (scheme : PluginValidator.SignatureScheme KeyPair),
        a.signature = b.signature →
          PluginValidator.validateSignature scheme a = PluginValidator.validateSignature scheme b) ∧
      (sections fileA = sections fileB ↔ SameLayout (sections fileA) (sections fileB)) := by
  have hlevel := mldsaLevel_eq_of_publicKey_eq ha hb hkey
  refine ⟨fun scheme => validateSignature_eq scheme hlevel hkey hchecksum, ?_⟩
  obtain ⟨hmetadataA, hbytecodeA, hprotoA, hchecksumA, -⟩ := parsePluginFile_eq_ok ha
  obtain ⟨hmetadataB, hbytecodeB, hprotoB, hchecksumB, -⟩ := parsePluginFile_eq_ok hb
  constructor
  · intro h
    rw [h]
    exact ⟨rfl, rfl, rfl⟩
  · rintro ⟨hlength, halterations, hbytecode⟩
    have hmessage : hashedMessage a = hashedMessage b := by
      apply hcollision
      show computeChecksum sha256 a.rawMetadata a.bytecode a.proto
        = computeChecksum sha256 b.rawMetadata b.bytecode b.proto
      rw [← hchecksumA, ← hchecksumB, hchecksum]
    unfold hashedMessage at hmessage
    rw [hmetadataA, hbytecodeA, hprotoA, hmetadataB, hbytecodeB, hprotoB, List.append_assoc,
      List.append_assoc] at hmessage
    obtain ⟨hmetadata, hrest⟩ := decode_injective hlength halterations hmessage
    obtain ⟨hcode, hproto⟩ := List.append_inj hrest hbytecode
    exact Sections.ext hmetadata hcode hproto

/-! ### Shifted sections -/

/-- A file of the first level with short sections. -/
def pluginFile (metadata bytecode proto checksum : Bytes) : Bytes :=
  PLUGIN_MAGIC_BYTES ++ [1, 0, 0, 0] ++ [0] ++ List.replicate 1312 7 ++ List.replicate 2420 9
    ++ [UInt8.ofNat metadata.length, 0, 0, 0] ++ metadata
    ++ [UInt8.ofNat bytecode.length, 0, 0, 0] ++ bytecode
    ++ [UInt8.ofNat proto.length, 0, 0, 0] ++ proto ++ checksum

/-- The SHA-256 digest of the bytes `7b 7d 01 02`. -/
def shiftedChecksum : Bytes :=
  [0x24, 0x60, 0xFF, 0xCA, 0xF0, 0x59, 0xE0, 0x6F, 0x7B, 0xB2, 0xEA, 0x49, 0x6E, 0x56, 0xB0, 0x77,
    0x72, 0x8B, 0xB7, 0x1C, 0xAC, 0x3E, 0x9D, 0xEE, 0xD7, 0xBD, 0xD4, 0xB7, 0xB9, 0x32, 0xF4, 0x85]

/-- A hash function with that digest. -/
def shiftedHash (message : Bytes) : Bytes :=
  if message = [0x7B, 0x7D, 0x01, 0x02] then shiftedChecksum else message

/-- A file with the metadata `7b 7d` and the bytecode `01 02`, without a proto section. -/
def unshiftedFile : Bytes := pluginFile [0x7B, 0x7D] [0x01, 0x02] [] shiftedChecksum

/-- The same file, but that the last byte of the bytecode has become the proto section. -/
def shiftedFile : Bytes := pluginFile [0x7B, 0x7D] [0x01] [0x02] shiftedChecksum

/-- What the signature is checked with, and what is hashed. -/
def outline (p : IParsedPluginFile) :
    (Bytes × Bytes × Bytes) × List Char × Bytes × Option Bytes :=
  ((p.publicKey, p.signature, p.checksum), p.rawMetadata, p.bytecode, p.proto)

/-- What both files are signed with. -/
def signedWith : Bytes × Bytes × Bytes :=
  (List.replicate 1312 7, List.replicate 2420 9, shiftedChecksum)

theorem exists_of_outline {o : (Bytes × Bytes × Bytes) × List Char × Bytes × Option Bytes}
    (h : (parsePluginFile 1000 shiftedHash "plugin.opnet" buffer).toOption.map outline = some o) :
    ∃ p, parsePluginFile 1000 shiftedHash "plugin.opnet" buffer = .ok p ∧ outline p = o := by
  rcases hparse : parsePluginFile 1000 shiftedHash "plugin.opnet" buffer with e | p
  · rw [hparse] at h
    cases h
  · rw [hparse] at h
    exact ⟨p, rfl, Option.some.inj h⟩

theorem unshiftedFile_accepted :
    ∃ p, parsePluginFile 1000 shiftedHash "plugin.opnet" unshiftedFile = .ok p ∧
      outline p = (signedWith, ['\x7b', '\x7d'], [0x01, 0x02], none) :=
  exists_of_outline (by decide +kernel)

theorem shiftedFile_accepted :
    ∃ p, parsePluginFile 1000 shiftedHash "plugin.opnet" shiftedFile = .ok p ∧
      outline p = (signedWith, ['\x7b', '\x7d'], [0x01], some [0x02]) :=
  exists_of_outline (by decide +kernel)

theorem outlines_agree (ha : outline a = (signedWith, ['\x7b', '\x7d'], [0x01, 0x02], none))
    (hb : outline b = (signedWith, ['\x7b', '\x7d'], [0x01], some [0x02])) :
    a.publicKey = b.publicKey ∧ a.signature = b.signature ∧ a.checksum = b.checksum ∧
      hashedMessage a = hashedMessage b ∧ a.bytecode ≠ b.bytecode := by
  simp only [outline, Prod.mk.injEq] at ha hb
  obtain ⟨hsignedA, hrawA, hcodeA, hprotoA⟩ := ha
  obtain ⟨hsignedB, hrawB, hcodeB, hprotoB⟩ := hb
  have hsigned := hsignedA.trans hsignedB.symm
  simp only [Prod.mk.injEq] at hsigned
  refine ⟨hsigned.1, hsigned.2.1, hsigned.2.2, ?_, ?_⟩
  · unfold hashedMessage
    rw [hrawA, hcodeA, hprotoA, hrawB, hcodeB, hprotoB]
    rfl
  · rw [hcodeA, hcodeB]
    decide

/-- Both files have one key, one checksum and one signature, and different bytecodes. -/
theorem not_sections_eq_shiftedFile :
    ¬ ∀ (stackA stackB : ℕ) (sha256 : Bytes → Bytes) (pathA pathB : String) (fileA fileB : Bytes)
        (a b : IParsedPluginFile), parsePluginFile stackA sha256 pathA fileA = .ok a →
        parsePluginFile stackB sha256 pathB fileB = .ok b → a.publicKey = b.publicKey →
        a.checksum = b.checksum → a.signature = b.signature →
        (sha256 (hashedMessage a) = sha256 (hashedMessage b) →
          hashedMessage a = hashedMessage b) →
        sections fileA = sections fileB := by
  intro h
  obtain ⟨a, ha, hoa⟩ := unshiftedFile_accepted
  obtain ⟨b, hb, hob⟩ := shiftedFile_accepted
  obtain ⟨hkey, hsignature, hchecksum, hmessage, hne⟩ := outlines_agree hoa hob
  have hsections := h _ _ shiftedHash _ _ _ _ a b ha hb hkey hchecksum hsignature fun _ => hmessage
  obtain ⟨-, hbytecodeA, -⟩ := parsePluginFile_eq_ok ha
  obtain ⟨-, hbytecodeB, -⟩ := parsePluginFile_eq_ok hb
  exact hne (by rw [hbytecodeA, hbytecodeB, hsections])

/-- The theorem at these files. -/
theorem sections_eq_iff_sameLayout_shiftedFile :
    ∃ a b, parsePluginFile 1000 shiftedHash "plugin.opnet" unshiftedFile = .ok a ∧
      parsePluginFile 1000 shiftedHash "plugin.opnet" shiftedFile = .ok b ∧
      (sections unshiftedFile = sections shiftedFile
        ↔ SameLayout (sections unshiftedFile) (sections shiftedFile)) := by
  obtain ⟨a, ha, hoa⟩ := unshiftedFile_accepted
  obtain ⟨b, hb, hob⟩ := shiftedFile_accepted
  obtain ⟨hkey, -, hchecksum, hmessage, -⟩ := outlines_agree hoa hob
  exact ⟨a, b, ha, hb, (sections_eq_iff_sameLayout ha hb hkey hchecksum fun _ => hmessage).2⟩

end PluginLoader

end OpnetNode
