import OpnetNode.Epoch.EpochRepository
import OpnetNode.Hex
import OpnetNode.Mldsa.LinkRequest
import OpnetNode.Transaction.WitnessScript

/-!
# The features of a transaction

The payloads announced by the header of an OP_NET script: an access list, an epoch submission, a
request to link an ML-DSA key.  They are decoded in the order of their priorities; the last payload
of a kind stands.
-/

namespace OpnetNode.SharedInteractionParameters

open WitnessScript

/-- An epoch submission in a transaction. -/
structure Submission where
  mldsaPublicKey : Bytes
  salt : Bytes
  graffiti : Option Bytes
  deriving DecidableEq, Repr

/-- What the features set in the transaction. -/
structure FeatureState where
  accessList : Option (AddressMap (List Bytes))
  submission : Option Submission
  mldsaLinkRequest : Option MLDSARequestData

/-- What decoding the features takes from the configuration and from other packages. -/
structure FeatureEnvironment extends ScriptEnvironment where
  blockHeight : ℕ
  GRAFFITI_LENGTH_PATCH_BLOCK_HEIGHT : ℕ
  ENABLE_ACCESS_LIST : Bool
  ENABLED_LEVELS : List MLDSASecurityLevel
  /-- The number of a security level, as it is written. -/
  levelNumber : MLDSASecurityLevel → ℕ
  /-- `zlib.unzipSync` within the limit on the decompressed size. -/
  unzip : Bytes → Except String Bytes

def GZIP_HEADER : Bytes := [0x1f, 0x8b]

/-- `decompressBuffer`: a buffer that does not start like gzip stands for itself. -/
def decompressData (env : FeatureEnvironment) (buffer : Bytes) : Except String Bytes :=
  if buffer.take 2 = GZIP_HEADER then
    match env.unzip buffer with
    | .ok out => .ok out
    | .error _ => .error "OP_NET: Invalid compressed data."
  else .ok buffer

/-- `isZero`. -/
def isEmptyBuffer (buffer : Bytes) : Bool := buffer.all fun byte => decide (byte = 0)

/-- `count` pointers of 32 bytes. -/
def readPointers (env : FeatureEnvironment) : ℕ → Bytes → Except String (List Bytes × Bytes)
  | 0, buffer => .ok ([], buffer)
  | count + 1, buffer => do
    let pointer ← env.readBytes 32 buffer
    let rest ← readPointers env count pointer.2
    .ok (pointer.1 :: rest.1, rest.2)

/-- `count` contracts with their pointers. -/
def readAccessList (env : FeatureEnvironment) :
    ℕ → AddressMap (List Bytes) → Bytes → Except String (AddressMap (List Bytes))
  | 0, accessList, _ => .ok accessList
  | count + 1, accessList, buffer => do
    let contract ← env.readAddress buffer
    if (accessList.get contract.1).isSome then
      .error "Duplicate contract address in access list"
    else do
      let pointerLength ← env.readU32 contract.2
      let storage ← readPointers env pointerLength.1 pointerLength.2
      readAccessList env count (accessList.set contract.1 storage.1) storage.2

def decodeAccessList (env : FeatureEnvironment) (data : Bytes) :
    Except String (AddressMap (List Bytes)) :=
  if env.ENABLE_ACCESS_LIST = false then .error "OP_NET: Access list feature is not enabled."
  else if data.length = 0 then .ok []
  else
    let decoded := do
      let decompressedData ← decompressData env data
      let accessListLength ← env.readU16 decompressedData
      readAccessList env accessListLength.1 [] accessListLength.2
    match decoded with
    | .ok accessList => .ok accessList
    | .error _ => .error "OP_NET: Unable to decode access list"

/-- The graffiti at the end of a submission, if it has one. -/
def decodeGraffiti (env : FeatureEnvironment) (buffer : Bytes) : Except String (Option Bytes) :=
  let bytesLeft := buffer.length
  if bytesLeft = 0 then .ok none
  -- before the patch a graffiti has a length of its own
  else if env.blockHeight < env.GRAFFITI_LENGTH_PATCH_BLOCK_HEIGHT then
    if bytesLeft ≤ GRAFFITI_LENGTH then
      (env.readBytesWithLength (some bytesLeft) buffer).map fun read => some read.1
    else .ok none
  else if bytesLeft ≤ GRAFFITI_LENGTH then
    (env.readBytes bytesLeft buffer).map fun read => some read.1
  else .error "OP_NET: Epoch submission graffiti too long."

def decodeEpochSubmission (env : FeatureEnvironment) (data : Bytes) : Except String Submission :=
  if 32 + 32 + GRAFFITI_LENGTH < data.length then
    .error ("OP_NET: Invalid epoch submission feature data length. (" ++ toString data.length ++
      " bytes [" ++ (if data.length < 200 then toHex data else "") ++ "])")
  else do
    let mldsaPublicKey ← env.readBytes 32 data
    let salt ← env.readBytes 32 mldsaPublicKey.2
    let graffiti ← decodeGraffiti env salt.2
    if isEmptyBuffer mldsaPublicKey.1 then
      .error "OP_NET: ML-DSA public key in epoch submission cannot be empty."
    else if isEmptyBuffer salt.1 then
      .error "OP_NET: Salt in epoch submission cannot be empty."
    else .ok ⟨mldsaPublicKey.1, salt.1, graffiti⟩

/-- `MLDSAMetadata.fromLevel`: the length of a public key. -/
def publicKeyLen : MLDSASecurityLevel → ℕ
  | .LEVEL2 => 1312
  | .LEVEL3 => 1952
  | .LEVEL5 => 2592

/-- `MLDSAMetadata.signatureLen`. -/
def signatureLen : MLDSASecurityLevel → ℕ
  | .LEVEL2 => 2420
  | .LEVEL3 => 3309
  | .LEVEL5 => 4627

/-- The public key and the signature of a request that exposes the key. -/
def readExposure (env : FeatureEnvironment) (level : MLDSASecurityLevel) (buffer : Bytes) :
    Except String (Bytes × Bytes × Bytes) := do
  let publicKey ← env.readBytes (publicKeyLen level) buffer
  let signature ← env.readBytes (signatureLen level) publicKey.2
  if isEmptyBuffer publicKey.1 then .error "OP_NET: ML-DSA public key cannot be empty."
  else .ok (publicKey.1, signature.1, signature.2)

def decodeMLDSALinkRequest (env : FeatureEnvironment) (data : Bytes) :
    Except String MLDSARequestData := do
  let levelNumber ← env.readU8 data
  match env.ENABLED_LEVELS.find? fun level => decide (env.levelNumber level = levelNumber.1) with
  | none => .error ("OP_NET: ML-DSA level " ++ toString levelNumber.1 ++ " is not enabled.")
  | some level => do
    let hashedPublicKey ← env.readBytes 32 levelNumber.2
    if isEmptyBuffer hashedPublicKey.1 then
      .error "OP_NET: ML-DSA hashed public key cannot be empty."
    else do
      let verifyRequest ← env.readBoolean hashedPublicKey.2
      if verifyRequest.1 then do
        let exposure ← readExposure env level verifyRequest.2
        let legacySignature ← env.readBytes 64 exposure.2.2
        .ok
          { verifyRequest := true
            hashedPublicKey := hashedPublicKey.1
            publicKey := some exposure.1
            level
            mldsaSignature := some exposure.2.1
            legacySignature := legacySignature.1 }
      else do
        let legacySignature ← env.readBytes 64 verifyRequest.2
        .ok
          { verifyRequest := false
            hashedPublicKey := hashedPublicKey.1
            publicKey := none
            level
            mldsaSignature := none
            legacySignature := legacySignature.1 }

def decodeFeature (env : FeatureEnvironment) (state : FeatureState) (feature : RawFeature) :
    Except String FeatureState :=
  match feature.opcode with
  | .ACCESS_LIST => do
    let accessList ← decodeAccessList env feature.data
    .ok { state with accessList := some accessList }
  | .EPOCH_SUBMISSION => do
    let submission ← decodeEpochSubmission env feature.data
    .ok { state with submission := some submission }
  | .MLDSA_LINK_PUBKEY => do
    let mldsaLinkRequest ← decodeMLDSALinkRequest env feature.data
    .ok { state with mldsaLinkRequest := some mldsaLinkRequest }

/-- Decode the features in the order of their priorities. -/
def parseFeatures (env : FeatureEnvironment) (rawFeatures : List RawFeature) :
    Except String FeatureState :=
  let features := rawFeatures.insertionSort fun a b =>
    env.featurePriority a.opcode ≤ env.featurePriority b.opcode
  features.foldlM (decodeFeature env) ⟨none, none, none⟩

end OpnetNode.SharedInteractionParameters
