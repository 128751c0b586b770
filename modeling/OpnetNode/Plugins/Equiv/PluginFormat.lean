import OpnetNode.Plugins.Equiv.PluginReads

/-!
# The plugin file format

`layout` writes the parts of a plugin one behind the other, as the format has them.  A file passes
the checks of `parsePluginFile` exactly if it is in `Passes`, and gives then the parts that stand in
it (`parsePluginFile_gives`); but the parser takes the checksum from behind the proto section, not
from the end of the file, hashes the text of the metadata and not its bytes, and writes the name and
the version of a plugin to a log, of metadata that need not be `Loggable`.
-/

namespace OpnetNode

namespace PluginLoader

open TextDecoder

/-! ### Writing a file -/

/-- A number in four bytes, little endian. -/
def uint32Bytes (n : ℕ) : Bytes :=
  [UInt8.ofNat n, UInt8.ofNat (n / 0x100), UInt8.ofNat (n / 0x10000), UInt8.ofNat (n / 0x1000000)]

/-- A section behind its length. -/
def withLength (bytes : Bytes) : Bytes := uint32Bytes bytes.length ++ bytes

def MLDSALevel.toByte : MLDSALevel → UInt8
  | .MLDSA44 => 0
  | .MLDSA65 => 1
  | .MLDSA87 => 2

/-- The file with the given parts. -/
def layout (p : IParsedPluginFile) : Bytes :=
  PLUGIN_MAGIC_BYTES ++ (uint32Bytes p.formatVersion ++ ([p.mldsaLevel.toByte] ++ (p.publicKey ++
    (p.signature ++ (withLength (encode p.rawMetadata) ++ (withLength p.bytecode ++
      (withLength (p.proto.getD []) ++ p.checksum)))))))

/-- The parts have the sizes and the contents that the format asks for. -/
structure InFormat (sha256 : Bytes → Bytes) (p : IParsedPluginFile) : Prop where
  version : p.formatVersion = PLUGIN_FORMAT_VERSION
  publicKey : p.publicKey.length = MLDSA_PUBLIC_KEY_SIZES p.mldsaLevel
  signature : p.signature.length = MLDSA_SIGNATURE_SIZES p.mldsaLevel
  metadata : Json.parse p.rawMetadata = some p.metadata
  metadata_le : (encode p.rawMetadata).length ≤ MAX_METADATA_SIZE
  bytecode_le : p.bytecode.length ≤ MAX_BYTECODE_SIZE
  proto_le : (p.proto.getD []).length ≤ MAX_PROTO_SIZE
  checksum : p.checksum = computeChecksum sha256 p.rawMetadata p.bytecode p.proto

/-! ### What stands in a file -/

def levelOf (buffer : Bytes) : MLDSALevel := (MLDSALevel.ofByte (buffer.getD 12 0)).getD .MLDSA44

/-- The offset of the bytecode's length field. -/
def bytecodeOffset (buffer : Bytes) : ℕ := behind buffer (metadataOffset buffer)

/-- The offset of the proto section's length field. -/
def protoOffset (buffer : Bytes) : ℕ := behind buffer (bytecodeOffset buffer)

def checksumOffset (buffer : Bytes) : ℕ := behind buffer (protoOffset buffer)

def metadataText (buffer : Bytes) : List Char := decode (sectionAt buffer (metadataOffset buffer))

/-- The metadata, `null` if it is no JSON text. -/
def metadataOf (buffer : Bytes) : Json := (Json.parse (metadataText buffer)).getD .null

/-- The proto section, if there is one. -/
def protoOf (buffer : Bytes) : Option Bytes :=
  if getUint32 buffer (protoOffset buffer) > 0 then some (sectionAt buffer (protoOffset buffer))
  else none

def headerOf (buffer : Bytes) : IPluginFileHeader where
  magic := subarray buffer 0 8
  version := getUint32 buffer 8
  mldsaLevel := levelOf buffer
  publicKey := subarray buffer 13 (13 + MLDSA_PUBLIC_KEY_SIZES (levelOf buffer))
  signature := subarray buffer (13 + MLDSA_PUBLIC_KEY_SIZES (levelOf buffer))
    (13 + MLDSA_PUBLIC_KEY_SIZES (levelOf buffer) + MLDSA_SIGNATURE_SIZES (levelOf buffer))

/-- The parts that stand in a file, from its beginning on. -/
def partsOf (buffer : Bytes) : IParsedPluginFile where
  formatVersion := getUint32 buffer 8
  mldsaLevel := levelOf buffer
  publicKey := (headerOf buffer).publicKey
  signature := (headerOf buffer).signature
  metadata := metadataOf buffer
  rawMetadata := metadataText buffer
  bytecode := sectionAt buffer (bytecodeOffset buffer)
  proto := protoOf buffer
  checksum := subarray buffer (checksumOffset buffer) (checksumOffset buffer + 32)

theorem proto_partsOf (buffer : Bytes) : (partsOf buffer).proto = protoOf buffer := by
  rw [partsOf]

/-- The checks of the header. -/
structure HeaderPasses (buffer : Bytes) : Prop where
  magic : subarray buffer 0 8 = PLUGIN_MAGIC_BYTES
  version : getUint32 buffer 8 = PLUGIN_FORMAT_VERSION
  level : (MLDSALevel.ofByte (buffer.getD 12 0)).isSome
  inside : metadataOffset buffer ≤ buffer.length

/-- The checks of a file. -/
structure Passes (sha256 : Bytes → Bytes) (buffer : Bytes) : Prop where
  minimum : MIN_PLUGIN_FILE_SIZE ≤ buffer.length
  header : HeaderPasses buffer
  metadata_le : getUint32 buffer (metadataOffset buffer) ≤ MAX_METADATA_SIZE
  metadata : (Json.parse (metadataText buffer)).isSome
  bytecode_le : getUint32 buffer (bytecodeOffset buffer) ≤ MAX_BYTECODE_SIZE
  proto_le : getUint32 buffer (protoOffset buffer) ≤ MAX_PROTO_SIZE
  inside : checksumOffset buffer + 32 ≤ buffer.length
  checksum : subarray buffer (checksumOffset buffer) (checksumOffset buffer + 32)
    = computeChecksum sha256 (metadataText buffer) (sectionAt buffer (bytecodeOffset buffer))
        (protoOf buffer)

/-! ### Computations that fail as the loader does -/

/-- The one computation goes on as the other if a condition holds, and fails with an error of the
loader otherwise. -/
def Gives {α : Type} (filePath : String) (P : Prop) (x y : Except Failure α) : Prop :=
  (P → x = y) ∧ (¬ P → ∃ message code, x = .error (.PluginLoadError message code filePath))

section

variable {α β : Type} {filePath : String} {P Q : Prop}

theorem Gives.rfl {x : Except Failure α} : Gives filePath True x x :=
  ⟨fun _ => Eq.refl x, fun h => absurd trivial h⟩

theorem Gives.of_iff {x y : Except Failure α} (h : Gives filePath P x y) (hiff : P ↔ Q) :
    Gives filePath Q x y :=
  ⟨fun hQ => h.1 (hiff.mpr hQ), fun hQ => h.2 (fun hP => hQ (hiff.mp hP))⟩

theorem Gives.bind {x : Except Failure α} {a : α} {f : α → Except Failure β} {z : Except Failure β}
    (h : Gives filePath P x (.ok a)) (h' : P → Gives filePath Q (f a) z) :
    Gives filePath (P ∧ Q) (x >>= f) z := by
  constructor
  · rintro ⟨hP, hQ⟩
    rw [h.1 hP]
    exact (h' hP).1 hQ
  · intro hnot
    by_cases hP : P
    · rw [h.1 hP]
      exact (h' hP).2 (fun hQ => hnot ⟨hP, hQ⟩)
    · obtain ⟨message, code, hx⟩ := h.2 hP
      exact ⟨message, code, by rw [hx]; rfl⟩

theorem check_gives (ok : Bool) (message code : String) :
    Gives filePath (ok = true) (check ok filePath message code) (.ok ()) := by
  unfold check
  constructor
  · intro h
    rw [if_pos h]
  · intro h
    rw [if_neg h]
    exact ⟨message, code, Eq.refl _⟩

theorem checkBounds_gives (buffer : Bytes) (what : String) (needed : ℕ) :
    Gives filePath (needed ≤ buffer.length) (checkBounds buffer filePath what needed) (.ok ()) :=
  (check_gives _ _ _).of_iff decide_eq_true_iff

theorem checkSize_gives (what code : String) (size maximum : ℕ) :
    Gives filePath (size ≤ maximum) (checkSize filePath what code size maximum) (.ok ()) :=
  (check_gives _ _ _).of_iff decide_eq_true_iff

theorem parseMetadata_gives (rawMetadata : List Char) :
    Gives filePath ((Json.parse rawMetadata).isSome = true) (parseMetadata filePath rawMetadata)
      (.ok ((Json.parse rawMetadata).getD .null)) := by
  unfold parseMetadata
  cases Json.parse rawMetadata with
  | none => exact ⟨fun h => by simp at h, fun _ => ⟨_, _, Eq.refl _⟩⟩
  | some metadata => exact ⟨fun _ => Eq.refl _, fun h => absurd (Eq.refl true) h⟩

theorem parseProto_gives (buffer : Bytes) (offset : ℕ) (hoffset : offset ≤ buffer.length)
    (protoLength : ℕ) :
    Gives filePath (protoLength ≤ MAX_PROTO_SIZE ∧ offset + protoLength ≤ buffer.length)
      (parseProto buffer filePath offset protoLength)
      (.ok (if protoLength > 0 then some (subarray buffer offset (offset + protoLength)) else none,
        offset + protoLength)) := by
  unfold parseProto
  split_ifs with h
  · refine (checkSize_gives _ _ _ _).bind fun hle => ?_
    refine ((checkBounds_gives _ _ _).bind fun _ => Gives.rfl).of_iff ?_
    exact and_iff_left trivial
  · have hzero : protoLength = 0 := by omega
    subst hzero
    exact Gives.rfl.of_iff ⟨fun _ => ⟨Nat.zero_le _, hoffset⟩, fun _ => trivial⟩

theorem Gives.error (message code : String) (y : Except Failure α) :
    Gives filePath False (.error (.PluginLoadError message code filePath)) y :=
  ⟨False.elim, fun _ => ⟨message, code, Eq.refl _⟩⟩

theorem parseHeader_gives (buffer : Bytes) :
    Gives filePath (HeaderPasses buffer) (parseHeader buffer filePath) (.ok (headerOf buffer)) := by
  have hsize : metadataOffset buffer = 13 + MLDSA_PUBLIC_KEY_SIZES (levelOf buffer)
      + MLDSA_SIGNATURE_SIZES (levelOf buffer) := rfl
  cases hbyte : MLDSALevel.ofByte (buffer.getD 12 0) with
  | none =>
    simp only [parseHeader, hbyte]
    refine Gives.of_iff ((check_gives _ _ _).bind fun _ => (check_gives _ _ _).bind fun _ =>
      (check_gives _ _ _).bind fun _ => Gives.error _ _ _) ?_
    constructor
    · rintro ⟨-, -, -, h⟩
      exact h.elim
    · intro h
      have hlevel := h.level
      rw [hbyte] at hlevel
      cases hlevel
  | some level =>
    have hlevelOf : levelOf buffer = level := by rw [levelOf, hbyte, Option.getD_some]
    simp only [parseHeader, headerOf, hbyte, hlevelOf]
    refine Gives.of_iff ((check_gives _ _ _).bind fun _ => (check_gives _ _ _).bind fun _ =>
      (check_gives _ _ _).bind fun _ => (checkBounds_gives _ _ _).bind fun _ =>
      (checkBounds_gives _ _ _).bind fun _ => Gives.rfl) ?_
    rw [hlevelOf] at hsize
    simp only [decide_eq_true_iff]
    constructor
    · rintro ⟨-, hmagic, hversion, -, hinside, -⟩
      exact ⟨hmagic, hversion, by rw [hbyte]; rfl, by omega⟩
    · rintro ⟨hmagic, hversion, -, hinside⟩
      exact ⟨by omega, hmagic, hversion, by omega, by omega, trivial⟩

/-- A value that can be written as a text: no object has a member `toString`, and arrays are not nested
too deeply. -/
def Printable : ℕ → Json → Prop
  | _, .object members => ∀ m ∈ members, m.1 ≠ Json.units "toString"
  | 0, .array _ => False
  | stack + 1, .array items => ∀ item ∈ items, Printable stack item
  | _, _ => True

/-- Metadata whose name and version can be written to the log. -/
structure Loggable (stack : ℕ) (metadata : Json) : Prop where
  not_null : metadata.isNull = false
  name : ∀ v ∈ metadata.member "name", Printable stack v
  version : ∀ v ∈ metadata.member "version", Printable stack v

theorem toStringFailure_eq_none_iff {stack : ℕ} {v : Json} :
    toStringFailure stack v = none ↔ Printable stack v := by
  have hobject : ∀ members stack,
      toStringFailure stack (.object members) = none ↔ Printable stack (.object members) := by
    intro members stack
    have hlookup : toStringFailure stack (.object members) = none ↔
        (members.lookup (Json.units "toString")).isSome = false := by
      cases stack <;> simp only [toStringFailure] <;> split_ifs with h <;> simp only [h, reduceCtorEq]
    rw [hlookup, Option.isSome_eq_false_iff, Option.isNone_iff_eq_none, List.lookup_eq_none_iff]
    cases stack <;> simp [Printable, ne_comm, -Prod.forall]
  induction stack generalizing v with
  | zero =>
    cases v with
    | object members => exact hobject members 0
    | _ => simp [toStringFailure, Printable]
  | succ stack ih =>
    cases v with
    | object members => exact hobject members (stack + 1)
    | array items => simp [toStringFailure, Printable, ih]
    | _ => simp [toStringFailure, Printable]

theorem logFailure_eq_none_iff {stack : ℕ} {metadata : Json} :
    logFailure stack metadata = none ↔ Loggable stack metadata := by
  have hmember : ∀ member : Option Json, member.bind (toStringFailure stack) = none ↔
      ∀ v ∈ member, Printable stack v := by
    intro member
    cases member with
    | none => simp
    | some v => simp [toStringFailure_eq_none_iff]
  unfold logFailure
  split_ifs with hnull
  · constructor
    · intro h
      cases h
    · intro h
      cases h.not_null.symm.trans hnull
  · rw [Option.or_eq_none_iff, hmember, hmember]
    exact ⟨fun h => ⟨eq_false_of_ne_true hnull, h.1, h.2⟩, fun h => ⟨h.name, h.version⟩⟩

theorem logFailure_ne {stack : ℕ} {metadata : Json} (message code filePath : String) :
    logFailure stack metadata ≠ some (.PluginLoadError message code filePath) := by
  have hprint : ∀ stack v, toStringFailure stack v ≠ some (.PluginLoadError message code filePath) := by
    intro stack
    induction stack with
    | zero =>
      intro v
      cases v <;> simp [toStringFailure]
    | succ stack ih =>
      intro v
      cases v with
      | array items =>
        intro h
        obtain ⟨item, -, hitem⟩ := List.exists_of_findSome?_eq_some h
        exact ih item hitem
      | _ => simp [toStringFailure]
  have hmember : ∀ member : Option Json,
      member.bind (toStringFailure stack) ≠ some (.PluginLoadError message code filePath) := by
    intro member h
    obtain ⟨v, -, hv⟩ := Option.bind_eq_some_iff.mp h
    exact hprint stack v hv
  unfold logFailure
  split_ifs with hnull
  · simp
  · intro h
    rcases Option.or_eq_some_iff.mp h with hname | ⟨-, hversion⟩
    · exact hmember _ hname
    · exact hmember _ hversion

/-- What a file that passes the checks gives: its parts, unless the log fails. -/
def resultOf (stack : ℕ) (buffer : Bytes) : Except Failure IParsedPluginFile :=
  match logFailure stack (metadataOf buffer) with
  | some failure => .error failure
  | none => .ok (partsOf buffer)

theorem resultOf_eq_ok {stack : ℕ} {buffer : Bytes} {p : IParsedPluginFile} :
    resultOf stack buffer = .ok p ↔ Loggable stack (metadataOf buffer) ∧ partsOf buffer = p := by
  rw [← logFailure_eq_none_iff]
  unfold resultOf
  cases logFailure stack (metadataOf buffer) with
  | none | some => simp

theorem parsePluginFile_gives (stack : ℕ) (filePath : String) (sha256 : Bytes → Bytes)
    (buffer : Bytes) :
    Gives filePath (Passes sha256 buffer) (parsePluginFile stack sha256 filePath buffer)
      (resultOf stack buffer) := by
  unfold parsePluginFile
  refine Gives.of_iff ((check_gives _ _ _).bind fun _ => (parseHeader_gives buffer).bind fun _ =>
    (checkBounds_gives _ _ _).bind fun _ => (checkSize_gives _ _ _ _).bind fun _ =>
    (checkBounds_gives _ _ _).bind fun _ => (parseMetadata_gives _).bind fun _ =>
    (checkBounds_gives _ _ _).bind fun _ => (checkSize_gives _ _ _ _).bind fun _ =>
    (checkBounds_gives _ _ _).bind fun _ => (checkBounds_gives _ _ _).bind fun hproto =>
    (parseProto_gives _ _ hproto _).bind fun _ =>
    (checkBounds_gives _ _ _).bind fun _ => (check_gives _ _ _).bind fun _ => Gives.rfl) ?_
  simp only [decide_eq_true_iff]
  have hsize : metadataOffset buffer = calculateHeaderSize (headerOf buffer).mldsaLevel := rfl
  rw [← hsize]
  constructor
  · rintro ⟨hminimum, hheader, -, hmetadata, -, hjson, -, hbytecode, -, -, ⟨hproto, -⟩, hinside,
      hchecksum, -⟩
    exact ⟨hminimum, hheader, hmetadata, hjson, hbytecode, hproto, hinside, hchecksum⟩
  · rintro ⟨hminimum, hheader, hmetadata, hjson, hbytecode, hproto, hinside, hchecksum⟩
    -- The checksum is the last that is read, so all before it is inside the file.
    have hbound := hinside
    simp only [checksumOffset, protoOffset, bytecodeOffset, behind] at hbound
    exact ⟨hminimum, hheader, by omega, hmetadata, by omega, hjson, by omega, hbytecode, by omega,
      by omega, ⟨hproto, by omega⟩, hinside, hchecksum, trivial⟩

end

/-! ### Reading what was written -/

theorem subarray_eq (buffer : Bytes) (start size : ℕ) :
    subarray buffer start (start + size) = (buffer.drop start).take size := by
  rw [subarray, List.drop_take, Nat.add_sub_cancel_left]

theorem subarray_append (buffer : Bytes) (start size : ℕ) :
    subarray buffer start (start + size) ++ buffer.drop (start + size) = buffer.drop start := by
  rw [subarray_eq, ← List.drop_drop, List.take_append_drop]

theorem read_bytes {buffer bytes rest : Bytes} {start : ℕ} (h : buffer.drop start = bytes ++ rest) :
    subarray buffer start (start + bytes.length) = bytes ∧
      buffer.drop (start + bytes.length) = rest := by
  rw [subarray_eq, ← List.drop_drop, h]
  exact ⟨List.take_left, List.drop_left⟩

theorem getUint32_of_drop {buffer rest : Bytes} {offset n : ℕ} (hlt : n < 0x100000000)
    (h : buffer.drop offset = uint32Bytes n ++ rest) : getUint32 buffer offset = n := by
  have hread : getUint32 buffer offset = n % 256 + 0x100 * (n / 0x100 % 256)
      + 0x10000 * (n / 0x10000 % 256) + 0x1000000 * (n / 0x1000000 % 256) := by
    unfold getUint32
    rw [h]
    rfl
  omega

theorem uint32Bytes_getUint32 {buffer : Bytes} {offset : ℕ} (h : offset + 4 ≤ buffer.length) :
    uint32Bytes (getUint32 buffer offset) = subarray buffer offset (offset + 4) := by
  have hlength : 4 ≤ (buffer.drop offset).length := by
    rw [List.length_drop]
    omega
  rw [subarray_eq]
  unfold getUint32
  generalize buffer.drop offset = bytes at hlength
  obtain ⟨a, b, c, d, rest, rfl⟩ : ∃ a b c d rest, bytes = a :: b :: c :: d :: rest := by
    rcases bytes with _ | ⟨a, _ | ⟨b, _ | ⟨c, _ | ⟨d, rest⟩⟩⟩⟩
    · simp at hlength
    · simp at hlength
    · simp at hlength
    · simp at hlength
    · exact ⟨a, b, c, d, rest, rfl⟩
  have ha := a.toNat_lt
  have hb := b.toNat_lt
  have hc := c.toNat_lt
  have hd := d.toNat_lt
  show [_, _, _, _] = [a, b, c, d]
  simp only [List.cons.injEq, and_true, ← UInt8.toNat_inj, UInt8.toNat_ofNat']
  omega

theorem read_section {buffer bytes rest : Bytes} {offset : ℕ} (hlt : bytes.length < 0x100000000)
    (h : buffer.drop offset = withLength bytes ++ rest) :
    getUint32 buffer offset = bytes.length ∧ sectionAt buffer offset = bytes ∧
      buffer.drop (behind buffer offset) = rest := by
  rw [withLength, List.append_assoc] at h
  have hsize := getUint32_of_drop hlt h
  obtain ⟨-, hdrop⟩ := read_bytes h
  obtain ⟨hbytes, hrest⟩ := @read_bytes _ _ _ (offset + 4) hdrop
  unfold sectionAt behind
  rw [hsize]
  exact ⟨rfl, hbytes, hrest⟩

theorem withLength_injective {a b rest rest' : Bytes} (ha : a.length < 0x100000000)
    (hb : b.length < 0x100000000) (h : withLength a ++ rest = withLength b ++ rest') :
    a = b ∧ rest = rest' := by
  obtain ⟨-, hsection, hrest⟩ := @read_section (withLength a ++ rest) _ _ 0 ha rfl
  obtain ⟨-, hsection', hrest'⟩ := @read_section (withLength a ++ rest) _ _ 0 hb h
  exact ⟨hsection.symm.trans hsection', hrest.symm.trans hrest'⟩

theorem withLength_sectionAt {buffer : Bytes} {offset : ℕ}
    (h : behind buffer offset ≤ buffer.length) :
    withLength (sectionAt buffer offset) ++ buffer.drop (behind buffer offset)
      = buffer.drop offset := by
  unfold behind at h ⊢
  have hlength : (sectionAt buffer offset).length = getUint32 buffer offset := by
    rw [sectionAt, subarray_eq, List.length_take, List.length_drop]
    omega
  have hnumber : uint32Bytes (getUint32 buffer offset) = subarray buffer offset (offset + 4) :=
    uint32Bytes_getUint32 (by omega)
  rw [withLength, hlength, hnumber, List.append_assoc, sectionAt, subarray_append, subarray_append]

/-! ### The parts of a file that was laid out -/

theorem ofByte_toByte (level : MLDSALevel) : MLDSALevel.ofByte level.toByte = some level := by
  cases level <;> rfl

theorem getD_of_drop {buffer rest : Bytes} {n : ℕ} {b : UInt8} (h : buffer.drop n = b :: rest) :
    buffer.getD n 0 = b := by
  rw [List.getD_eq_getElem?_getD, ← List.head?_drop, h]
  rfl

section

variable {sha256 : Bytes → Bytes} {p : IParsedPluginFile}

theorem read_header (h : InFormat sha256 p) :
    subarray (layout p) 0 8 = PLUGIN_MAGIC_BYTES ∧ getUint32 (layout p) 8 = p.formatVersion ∧
      MLDSALevel.ofByte ((layout p).getD 12 0) = some p.mldsaLevel ∧
      (headerOf (layout p)).publicKey = p.publicKey ∧
      (headerOf (layout p)).signature = p.signature ∧
      (layout p).drop (metadataOffset (layout p)) = withLength (encode p.rawMetadata) ++
        (withLength p.bytecode ++ (withLength (p.proto.getD []) ++ p.checksum)) := by
  have hstart : (layout p).drop 0 = layout p := rfl
  obtain ⟨hmagic, hdrop⟩ := read_bytes hstart
  have hversion := getUint32_of_drop (by rw [h.version]; decide) hdrop
  obtain ⟨-, hdrop⟩ := read_bytes hdrop
  have hbyte : (layout p).getD 12 0 = p.mldsaLevel.toByte := getD_of_drop hdrop
  have hlevel : MLDSALevel.ofByte ((layout p).getD 12 0) = some p.mldsaLevel := by
    rw [hbyte, ofByte_toByte]
  obtain ⟨-, hdrop⟩ := @read_bytes _ [p.mldsaLevel.toByte] _ _ hdrop
  obtain ⟨hkey, hdrop⟩ := read_bytes hdrop
  obtain ⟨hsignature, hdrop⟩ := read_bytes hdrop
  have hlevelOf : levelOf (layout p) = p.mldsaLevel := by rw [levelOf, hlevel, Option.getD_some]
  have hoffset : metadataOffset (layout p)
      = 0 + PLUGIN_MAGIC_BYTES.length + (uint32Bytes p.formatVersion).length
        + [p.mldsaLevel.toByte].length + p.publicKey.length + p.signature.length := by
    show calculateHeaderSize (levelOf (layout p)) = _
    rw [hlevelOf, h.publicKey, h.signature]
    rfl
  rw [← hoffset] at hdrop
  refine ⟨hmagic, hversion, hlevel, ?_, ?_, hdrop⟩
  · simp only [headerOf, hlevelOf, ← h.publicKey]
    exact hkey
  · simp only [headerOf, hlevelOf, ← h.publicKey, ← h.signature]
    exact hsignature

theorem read_sections (h : InFormat sha256 p) :
    (getUint32 (layout p) (metadataOffset (layout p)) = (encode p.rawMetadata).length ∧
      metadataText (layout p) = decode (encode p.rawMetadata)) ∧
    (getUint32 (layout p) (bytecodeOffset (layout p)) = p.bytecode.length ∧
      sectionAt (layout p) (bytecodeOffset (layout p)) = p.bytecode) ∧
    (getUint32 (layout p) (protoOffset (layout p)) = (p.proto.getD []).length ∧
      sectionAt (layout p) (protoOffset (layout p)) = p.proto.getD []) ∧
    (layout p).drop (checksumOffset (layout p)) = p.checksum := by
  have hmetadata := h.metadata_le
  have hbytecode := h.bytecode_le
  have hproto := h.proto_le
  unfold MAX_METADATA_SIZE at hmetadata
  unfold MAX_BYTECODE_SIZE at hbytecode
  unfold MAX_PROTO_SIZE at hproto
  obtain ⟨-, -, -, -, -, hdrop⟩ := read_header h
  obtain ⟨hsizeM, hmetadata, hdrop⟩ := read_section (by omega) hdrop
  obtain ⟨hsizeB, hbytecode, hdrop⟩ := read_section (by omega) hdrop
  obtain ⟨hsizeP, hproto, hdrop⟩ := read_section (by omega) hdrop
  exact ⟨⟨hsizeM, congrArg decode hmetadata⟩, ⟨hsizeB, hbytecode⟩, ⟨hsizeP, hproto⟩, hdrop⟩

theorem head?_ne_mark {text : List Char} {metadata : Json} (h : Json.parse text = some metadata) :
    text.head? ≠ some markCharacter := by
  intro hfirst
  obtain ⟨rest, rfl⟩ : ∃ rest, text = markCharacter :: rest := by
    cases text with
    | nil => simp at hfirst
    | cons c rest => exact ⟨rest, by simpa using hfirst⟩
  have hnone : Json.step ⟨[], .value⟩ markCharacter = none := by decide
  simp [Json.parse, hnone] at h

theorem passes_layout (h : InFormat sha256 p) (hsize : p.checksum.length = 32) :
    Passes sha256 (layout p) ↔ MIN_PLUGIN_FILE_SIZE ≤ (layout p).length := by
  obtain ⟨hmagic, hversion, hlevel, -, -, hdrop⟩ := read_header h
  obtain ⟨⟨hsizeM, hmetadata⟩, ⟨hsizeB, hbytecode⟩, ⟨hsizeP, hproto⟩, hchecksum⟩ := read_sections h
  have htext : metadataText (layout p) = p.rawMetadata := by
    rw [hmetadata, decode_encode (head?_ne_mark h.metadata)]
  have hend := congrArg List.length hchecksum
  rw [List.length_drop, hsize] at hend
  constructor
  · intro hpasses
    exact hpasses.minimum
  · intro hminimum
    refine ⟨hminimum, ⟨hmagic, ?_, ?_, ?_⟩, ?_, ?_, ?_, ?_, by omega, ?_⟩
    · rw [hversion, h.version]
    · rw [hlevel]
      rfl
    · have hbound := hend
      simp only [checksumOffset, protoOffset, bytecodeOffset, behind] at hbound
      omega
    · rw [hsizeM]
      exact h.metadata_le
    · rw [htext, h.metadata]
      rfl
    · rw [hsizeB]
      exact h.bytecode_le
    · rw [hsizeP]
      exact h.proto_le
    · rw [subarray_eq, hchecksum, List.take_of_length_le hsize.le, htext, hbytecode, h.checksum]
      have hgetD : (protoOf (layout p)).getD [] = p.proto.getD [] := by
        unfold protoOf
        rw [hsizeP, hproto]
        split_ifs with hpos
        · rfl
        · exact (List.eq_nil_of_length_eq_zero (by omega)).symm
      unfold computeChecksum
      rw [hgetD]

theorem partsOf_layout (h : InFormat sha256 p) (hsize : p.checksum.length = 32)
    (hproto : p.proto ≠ some []) : partsOf (layout p) = p := by
  obtain ⟨-, hversion, hlevel, hkey, hsignature, -⟩ := read_header h
  obtain ⟨⟨-, hmetadata⟩, ⟨-, hbytecode⟩, ⟨hsizeP, hprotoAt⟩, hchecksum⟩ := read_sections h
  have htext : metadataText (layout p) = p.rawMetadata := by
    rw [hmetadata, decode_encode (head?_ne_mark h.metadata)]
  have hlevelOf : levelOf (layout p) = p.mldsaLevel := by rw [levelOf, hlevel, Option.getD_some]
  have hprotoOf : protoOf (layout p) = p.proto := by
    unfold protoOf
    rw [hsizeP, hprotoAt]
    cases hp : p.proto with
    | none => rfl
    | some bytes =>
      have hpos : bytes.length > 0 := by
        apply List.length_pos_of_ne_nil
        rintro rfl
        exact hproto hp
      exact if_pos hpos
  have hmetadataOf : metadataOf (layout p) = p.metadata := by
    rw [metadataOf, htext, h.metadata, Option.getD_some]
  have hchecksumAt : subarray (layout p) (checksumOffset (layout p))
      (checksumOffset (layout p) + 32) = p.checksum := by
    rw [subarray_eq, hchecksum, List.take_of_length_le hsize.le]
  unfold partsOf
  rw [hversion, hlevelOf, hkey, hsignature, hmetadataOf, htext, hbytecode, hprotoOf, hchecksumAt]

/-- What the parser keeps of a file that it lays out: all but metadata that cannot be logged, an empty
proto section, and what is smaller than the least file. -/
structure Readable (stack : ℕ) (p : IParsedPluginFile) : Prop where
  metadata : Loggable stack p.metadata
  proto : p.proto ≠ some []
  minimum : MIN_PLUGIN_FILE_SIZE ≤ (layout p).length

theorem parsePluginFile_layout_iff (stack : ℕ) (filePath : String) (h : InFormat sha256 p)
    (hsize : p.checksum.length = 32) :
    parsePluginFile stack sha256 filePath (layout p) = .ok p ↔ Readable stack p := by
  obtain ⟨hpass, hfail⟩ := parsePluginFile_gives stack filePath sha256 (layout p)
  have hmetadata : metadataOf (layout p) = p.metadata := by
    obtain ⟨⟨-, htext⟩, -⟩ := read_sections h
    rw [metadataOf, htext, decode_encode (head?_ne_mark h.metadata), h.metadata, Option.getD_some]
  constructor
  · intro hok
    have hpasses : Passes sha256 (layout p) := by
      by_contra hnot
      obtain ⟨message, code, herror⟩ := hfail hnot
      cases herror.symm.trans hok
    obtain ⟨hloggable, hparts⟩ := resultOf_eq_ok.mp ((hpass hpasses).symm.trans hok)
    refine ⟨hmetadata ▸ hloggable, ?_, hpasses.minimum⟩
    intro hempty
    obtain ⟨-, -, ⟨hsizeP, -⟩, -⟩ := read_sections h
    have hprotoOf : protoOf (layout p) = some [] := by
      rw [← proto_partsOf, hparts, hempty]
    unfold protoOf at hprotoOf
    rw [hsizeP, hempty] at hprotoOf
    simp at hprotoOf
  · intro hreadable
    rw [hpass ((passes_layout h hsize).mpr hreadable.minimum), resultOf_eq_ok, hmetadata]
    exact ⟨hreadable.metadata, partsOf_layout h hsize hreadable.proto⟩

end

/-! ### The layout of the parts of a file -/

theorem getD_protoOf (buffer : Bytes) :
    (protoOf buffer).getD [] = sectionAt buffer (protoOffset buffer) := by
  unfold protoOf
  split_ifs with hpos
  · rfl
  · have hzero : getUint32 buffer (protoOffset buffer) = 0 := by omega
    rw [sectionAt, hzero, subarray_eq]
    rfl

theorem toByte_of_ofByte {b : UInt8} {level : MLDSALevel} (h : MLDSALevel.ofByte b = some level) :
    level.toByte = b := by
  unfold MLDSALevel.ofByte at h
  split_ifs at h with h0 h1 h2
  · cases h
    exact h0.symm
  · cases h
    exact h1.symm
  · cases h
    exact h2.symm

section

variable {sha256 : Bytes → Bytes} {buffer : Bytes}

theorem append_header (h : HeaderPasses buffer) :
    PLUGIN_MAGIC_BYTES ++ (uint32Bytes (getUint32 buffer 8) ++ ([(levelOf buffer).toByte] ++
      ((headerOf buffer).publicKey ++ ((headerOf buffer).signature ++
        buffer.drop (metadataOffset buffer))))) = buffer := by
  have hinside := h.inside
  have hsize : metadataOffset buffer = 13 + MLDSA_PUBLIC_KEY_SIZES (levelOf buffer)
      + MLDSA_SIGNATURE_SIZES (levelOf buffer) := rfl
  have hlevel : [(levelOf buffer).toByte] = subarray buffer 12 (12 + 1) := by
    obtain ⟨level, hbyte⟩ := Option.isSome_iff_exists.mp h.level
    have hlt : 12 < buffer.length := by omega
    rw [levelOf, hbyte, Option.getD_some, toByte_of_ofByte hbyte, subarray_eq,
      List.drop_eq_getElem_cons hlt, List.getD_eq_getElem?_getD, List.getElem?_eq_getElem hlt]
    rfl
  have hversion : uint32Bytes (getUint32 buffer 8) = subarray buffer 8 (8 + 4) :=
    uint32Bytes_getUint32 (by omega)
  rw [← h.magic, hversion, hlevel, headerOf, hsize]
  simp only
  rw [subarray_append, subarray_append, subarray_append, subarray_append buffer 8 4]
  exact subarray_append buffer 0 8

/-- The file is laid out as it is: nothing stands behind the checksum, and the decoder alters
nothing in the metadata. -/
structure Canonical (buffer : Bytes) : Prop where
  metadata : alterations (sectionAt buffer (metadataOffset buffer)) = (false, [])
  end_eq : checksumOffset buffer + 32 = buffer.length

theorem length_metadataSection (h : Passes sha256 buffer) :
    (sectionAt buffer (metadataOffset buffer)).length < 0x100000000 := by
  have hsize := h.metadata_le
  unfold MAX_METADATA_SIZE at hsize
  rw [sectionAt, subarray_eq, List.length_take]
  omega

theorem length_metadataText (h : Passes sha256 buffer) :
    (encode (metadataText buffer)).length < 0x100000000 := by
  have hle := length_encode_decode (sectionAt buffer (metadataOffset buffer))
  have hsize := h.metadata_le
  unfold MAX_METADATA_SIZE at hsize
  have hsection : (sectionAt buffer (metadataOffset buffer)).length
      ≤ getUint32 buffer (metadataOffset buffer) := by
    rw [sectionAt, subarray_eq, List.length_take]
    exact Nat.min_le_left _ _
  show (encode (decode _)).length < _
  omega

theorem append_sections (h : Passes sha256 buffer) :
    withLength (sectionAt buffer (metadataOffset buffer)) ++
      (withLength (sectionAt buffer (bytecodeOffset buffer)) ++
        (withLength (sectionAt buffer (protoOffset buffer)) ++
          (subarray buffer (checksumOffset buffer) (checksumOffset buffer + 32) ++
            buffer.drop (checksumOffset buffer + 32)))) = buffer.drop (metadataOffset buffer) := by
  have hinside := h.inside
  have hproto : protoOffset buffer ≤ checksumOffset buffer := by
    unfold checksumOffset behind
    omega
  have hbytecode : bytecodeOffset buffer ≤ protoOffset buffer := by
    unfold protoOffset behind
    omega
  have hP : behind buffer (protoOffset buffer) ≤ buffer.length := by
    show checksumOffset buffer ≤ _
    omega
  have hB : behind buffer (bytecodeOffset buffer) ≤ buffer.length := by
    show protoOffset buffer ≤ _
    omega
  have hM : behind buffer (metadataOffset buffer) ≤ buffer.length := by
    show bytecodeOffset buffer ≤ _
    omega
  rw [subarray_append]
  have hlast := withLength_sectionAt hP
  have hmiddle := withLength_sectionAt hB
  have hfirst := withLength_sectionAt hM
  show _ ++ (_ ++ (_ ++ buffer.drop (behind buffer (protoOffset buffer)))) = _
  rw [hlast]
  show _ ++ (_ ++ buffer.drop (behind buffer (bytecodeOffset buffer))) = _
  rw [hmiddle]
  exact hfirst

/-- A file that passes the checks is the layout of its parts exactly if it is laid out as it is. -/
theorem layout_partsOf_iff (h : Passes sha256 buffer) :
    layout (partsOf buffer) = buffer ↔ Canonical buffer := by
  have hheader := append_header h.header
  have hsections := append_sections h
  have hlayout : layout (partsOf buffer) =
      PLUGIN_MAGIC_BYTES ++ (uint32Bytes (getUint32 buffer 8) ++ ([(levelOf buffer).toByte] ++
        ((headerOf buffer).publicKey ++ ((headerOf buffer).signature ++
          (withLength (encode (metadataText buffer)) ++
            (withLength (sectionAt buffer (bytecodeOffset buffer)) ++
              (withLength (sectionAt buffer (protoOffset buffer)) ++
                subarray buffer (checksumOffset buffer) (checksumOffset buffer + 32)))))))) := by
    rw [← getD_protoOf]
    rfl
  have hend := List.length_drop (i := checksumOffset buffer + 32) (l := buffer)
  have hinside := h.inside
  constructor
  · intro heq
    rw [hlayout] at heq
    have hcancel := List.append_cancel_left (heq.trans hheader.symm)
    have hcancel := List.append_cancel_left hcancel
    have hcancel := List.append_cancel_left hcancel
    have hcancel := List.append_cancel_left hcancel
    have hcancel := List.append_cancel_left hcancel
    rw [← hsections] at hcancel
    obtain ⟨htext, hrest⟩ :=
      withLength_injective (length_metadataText h) (length_metadataSection h) hcancel
    have hrest := List.append_cancel_left (List.append_cancel_left hrest)
    have hlength := congrArg List.length hrest
    rw [List.length_append, hend] at hlength
    exact ⟨encode_decode_iff.mp htext, by omega⟩
  · intro hcanonical
    have htext : encode (metadataText buffer) = sectionAt buffer (metadataOffset buffer) :=
      encode_decode_iff.mpr hcanonical.metadata
    have hnothing : buffer.drop (checksumOffset buffer + 32) = [] :=
      List.drop_of_length_le hcanonical.end_eq.ge
    rw [hnothing, List.append_nil] at hsections
    rw [hlayout, htext, hsections, hheader]

/-- The file is refused by the loader, or its parts are laid out as the whole file. -/
def Exact (stack : ℕ) (sha256 : Bytes → Bytes) (filePath : String) (buffer : Bytes) : Prop :=
  (∃ message code, parsePluginFile stack sha256 filePath buffer
    = .error (.PluginLoadError message code filePath)) ∨
  ∃ p, parsePluginFile stack sha256 filePath buffer = .ok p ∧ layout p = buffer

theorem exact_iff (stack : ℕ) (sha256 : Bytes → Bytes) (filePath : String) (buffer : Bytes) :
    Exact stack sha256 filePath buffer ↔
      (Passes sha256 buffer → Loggable stack (metadataOf buffer) ∧ Canonical buffer) := by
  obtain ⟨hpass, hfail⟩ := parsePluginFile_gives stack filePath sha256 buffer
  unfold Exact
  constructor
  · intro hexact hpasses
    rw [hpass hpasses] at hexact
    rcases hexact with ⟨message, code, herror⟩ | ⟨p, hok, hlayout⟩
    · unfold resultOf at herror
      split at herror
      · rename_i failure hlog
        rw [Except.error.inj herror] at hlog
        exact absurd hlog (logFailure_ne message code filePath)
      · cases herror
    · obtain ⟨hloggable, rfl⟩ := resultOf_eq_ok.mp hok
      exact ⟨hloggable, (layout_partsOf_iff hpasses).mp hlayout⟩
  · intro hcanonical
    by_cases hpasses : Passes sha256 buffer
    · obtain ⟨hloggable, hlaid⟩ := hcanonical hpasses
      right
      refine ⟨partsOf buffer, ?_, (layout_partsOf_iff hpasses).mpr hlaid⟩
      rw [hpass hpasses, resultOf_eq_ok]
      exact ⟨hloggable, rfl⟩
    · exact .inl (hfail hpasses)

end

/-! ### The format -/

/-- **The plugin file format.**  A file that is laid out from parts in the format gives back exactly
these parts, if the name and the version of its metadata can be logged, a proto section that is there
is not empty, and it is no smaller than the least file.  A file is refused by the loader, or the layout
of what it gives is the whole file, unless it passes the checks and its metadata cannot be logged or is
altered by the text decoder, or something stands behind its checksum.  No read is outside of the
file. -/
theorem parsePluginFile_format (stack : ℕ) (sha256 : Bytes → Bytes)
    (hdigest : ∀ message, (sha256 message).length = 32) (filePath : String) :
    (∀ p, InFormat sha256 p →
      (parsePluginFile stack sha256 filePath (layout p) = .ok p ↔ Readable stack p)) ∧
    (∀ buffer, Exact stack sha256 filePath buffer ↔
      (Passes sha256 buffer → Loggable stack (metadataOf buffer) ∧ Canonical buffer)) ∧
    ∀ buffer, Reading.parsePluginFile stack sha256 filePath buffer
      = some (parsePluginFile stack sha256 filePath buffer) := by
  refine ⟨fun p h => ?_, exact_iff stack sha256 filePath,
    Reading.parsePluginFile_eq stack sha256 filePath⟩
  have hsize : p.checksum.length = 32 := by
    rw [h.checksum]
    exact hdigest _
  exact parsePluginFile_layout_iff stack filePath h hsize

/-! ### A file with a byte behind its checksum -/

/-- A hash function with the digest of the bytes `7b 7d 01 02`. -/
def paddedHash (message : Bytes) : Bytes :=
  if message = [0x7B, 0x7D, 0x01, 0x02] then shiftedChecksum else List.replicate 32 0

theorem length_paddedHash (message : Bytes) : (paddedHash message).length = 32 := by
  unfold paddedHash
  split_ifs <;> rfl

/-- The file with the metadata `7b 7d` and the bytecode `01 02`, and one more byte. -/
def paddedFile : Bytes := unshiftedFile ++ [0xFF]

/-- The padded file is accepted, and its parts are those of a shorter one. -/
theorem not_exact_paddedFile :
    ¬ ∀ (stack : ℕ) (sha256 : Bytes → Bytes), (∀ message, (sha256 message).length = 32) →
      ∀ filePath : String,
        (∀ p, InFormat sha256 p → parsePluginFile stack sha256 filePath (layout p) = .ok p) ∧
        (∀ buffer, Exact stack sha256 filePath buffer) ∧
        ∀ buffer, Reading.parsePluginFile stack sha256 filePath buffer
          = some (parsePluginFile stack sha256 filePath buffer) := by
  intro h
  have hlayout : (parsePluginFile 1000 paddedHash "plugin.opnet" paddedFile).toOption.map layout
      = some unshiftedFile := by
    decide +kernel
  obtain ⟨-, hexact, -⟩ := h 1000 paddedHash length_paddedHash "plugin.opnet"
  rcases hexact paddedFile with ⟨message, code, herror⟩ | ⟨p, hok, hwhole⟩
  · rw [herror] at hlayout
    cases hlayout
  · rw [hok] at hlayout
    have hshort : layout p = unshiftedFile := Option.some.inj hlayout
    rw [hwhole] at hshort
    have hlength : (unshiftedFile ++ [0xFF]).length = unshiftedFile.length :=
      congrArg List.length hshort
    rw [List.length_append, List.length_singleton] at hlength
    omega

/-- The theorem at the padded file. -/
theorem parsePluginFile_format_paddedFile :
    Exact 1000 paddedHash "plugin.opnet" paddedFile ↔
      (Passes paddedHash paddedFile → Loggable 1000 (metadataOf paddedFile) ∧ Canonical paddedFile) :=
  (parsePluginFile_format 1000 paddedHash length_paddedHash "plugin.opnet").2.1 paddedFile

end PluginLoader

end OpnetNode
