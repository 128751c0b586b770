import OpnetNode.Transaction.InteractionTransaction

/-!
# Assembled scripts

The script of an interaction or of a deployment, assembled from its fields, and the readers on it. The
data of a script (features, calldata, bytecode) may be cut into pushes in any way.

* `Reads`: what a reader of scripts returns, and what it leaves.
* `WitnessFields.items`: the assembled script, `WitnessFields.WellFormed`: what is asked of the fields.
* `reads_getInteractionWitnessData`, `reads_getDeploymentWitnessData`: the fields are read back.
-/

namespace OpnetNode.WitnessScript

open ScriptReader

/-! ### What a reader returns -/

/-- The reader takes the front of a script, returns a value and leaves the rest. -/
def Reads {α : Type} (reader : ScriptReader α) (scriptData : List ScriptItem) (a : α)
    (rest : List ScriptItem) : Prop :=
  reader scriptData = OptionT.mk (.ok (some (a, rest)))

section Reads

variable {α β : Type} {reader : ScriptReader α} {scriptData rest rest' : List ScriptItem} {a : α}

theorem Reads.bind {next : α → ScriptReader β} {b : β} (h : Reads reader scriptData a rest)
    (h' : Reads (next a) rest b rest') : Reads (reader >>= next) scriptData b rest' := by
  have hbind : (reader >>= next) scriptData = reader scriptData >>= fun p => next p.1 p.2 := rfl
  rw [Reads, hbind, h]
  exact h'

theorem reads_pure (a : α) (scriptData : List ScriptItem) :
    Reads (pure a) scriptData a scriptData := rfl

theorem reads_ofExcept {x : Except String α} (h : x = .ok a) (scriptData : List ScriptItem) :
    Reads (ofExcept x) scriptData a scriptData := by
  rw [h]
  rfl

theorem reads_shiftOpcode (code : ℕ) (rest : List ScriptItem) :
    Reads (shiftOpcode code) (.opcode code :: rest) () rest := by
  rw [Reads, shiftOpcode, if_pos rfl]
  rfl

theorem reads_shiftBytes {data : Bytes} {length : ℕ} (h : data.length = length)
    (rest : List ScriptItem) : Reads (shiftBytes length) (.push data :: rest) data rest := by
  rw [Reads, shiftBytes, if_pos h]
  rfl

end Reads

/-- The pushes of some data. -/
def pushesOf (chunks : List Bytes) : List ScriptItem := chunks.map .push

/-- Data as it is joined from pushes; there is none without a push. -/
def joined (chunks : List Bytes) : Option Bytes := if chunks = [] then none else some chunks.flatten

theorem joined_cons (chunk : Bytes) (chunks : List Bytes) :
    joined (chunk :: chunks) = some (chunk ++ (joined chunks).getD []) := by
  unfold joined
  rw [if_neg (List.cons_ne_nil _ _), List.flatten_cons]
  split
  · rename_i hnil
    rw [hnil]
    rfl
  · rfl

theorem joined_of_flatten_ne_nil {chunks : List Bytes} (h : chunks.flatten ≠ []) :
    joined chunks = some chunks.flatten := by
  apply if_neg
  intro hnil
  rw [hnil] at h
  exact h rfl

theorem getDataFromScript_pushesOf (code : ℕ) (chunks : List Bytes) (rest : List ScriptItem) :
    getDataFromScript code (pushesOf chunks ++ .opcode code :: rest) =
      .ok (joined chunks, .opcode code :: rest) := by
  induction chunks with
  | nil =>
    show getDataFromScript code (.opcode code :: rest) = _
    rw [getDataFromScript, if_pos rfl]
    rfl
  | cons chunk chunks ih =>
    show getDataFromScript code (.push chunk :: (pushesOf chunks ++ .opcode code :: rest)) = _
    rw [getDataFromScript, ih, joined_cons]
    rfl

theorem getDataUntilBufferEnd_pushesOf (code : ℕ) (chunks : List Bytes) (rest : List ScriptItem) :
    getDataUntilBufferEnd (pushesOf chunks ++ .opcode code :: rest) =
      (joined chunks, .opcode code :: rest) := by
  induction chunks with
  | nil => rfl
  | cons chunk chunks ih =>
    show getDataUntilBufferEnd (.push chunk :: (pushesOf chunks ++ .opcode code :: rest)) = _
    rw [getDataUntilBufferEnd, ih, joined_cons]

/-! ### What is assembled -/

/-- The writer of binary data. -/
structure ScriptWriter where
  writeU64 : ℕ → Bytes
  /-- Four bytes for the length come first. -/
  writeBytesWithLength : Bytes → Bytes

/-- What is written is read back. -/
structure ReadsBack (env : ScriptEnvironment) (writer : ScriptWriter) : Prop where
  readBytes : ∀ (data rest : Bytes), env.readBytes data.length (data ++ rest) = .ok (data, rest)
  length_writeU64 : ∀ n, (writer.writeU64 n).length = 8
  readU64 : ∀ n < 2 ^ 64, ∀ rest, env.readU64 (writer.writeU64 n ++ rest) = .ok (n, rest)
  length_writeBytesWithLength : ∀ data, (writer.writeBytesWithLength data).length = 4 + data.length
  readBytesWithLength : ∀ data : Bytes, data.length < 2 ^ 32 → ∀ rest,
    env.readBytesWithLength none (writer.writeBytesWithLength data ++ rest) = .ok (data, rest)

inductive Layout where
  | interaction
  | deployment
  deriving DecidableEq, Repr

namespace Layout

def checksum : Layout → Bytes
  | .interaction => InteractionTransaction.LEGACY_INTERACTION
  | .deployment => DeploymentTransaction.LEGACY_DEPLOYMENT_SCRIPT

def hashOpcode : Layout → ℕ
  | .interaction => InteractionTransaction.OP_HASH160
  | .deployment => OP_HASH256

def hashLength : Layout → ℕ
  | .interaction => 20
  | .deployment => 32

def is (env : ScriptEnvironment) (data : DeploymentTransaction.TransactionData) : Layout → Option ℕ
  | .interaction => InteractionTransaction.is env data
  | .deployment => DeploymentTransaction.is env data

end Layout

/-- The fields of a transaction, with the pushes that its data are cut into. -/
structure WitnessFields where
  layout : Layout
  publicKeyPrefix : UInt8
  flagBytes : UInt8 × UInt8 × UInt8
  priorityFeeSat : ℕ
  minerMLDSAPublicKey : Bytes
  preimage : Bytes
  senderPubKey : Bytes
  hashedSenderPubKey : Bytes
  saltPubKey : Bytes
  /-- The hash of the secret of an interaction, or of the salt of a deployment. -/
  saltHash : Bytes
  features : List RawFeature
  featurePushes : List Bytes
  calldataPushes : List Bytes
  /-- Only a deployment has a bytecode. -/
  bytecodePushes : List Bytes

namespace WitnessFields

variable (env : ScriptEnvironment) (writer : ScriptWriter) (w : WitnessFields)

def header : OPNetHeader where
  minerMLDSAPublicKey := w.minerMLDSAPublicKey
  solution := w.preimage
  priorityFeeSat := w.priorityFeeSat
  publicKeyPrefix := w.publicKeyPrefix
  flags := w.flagBytes.1.toNat * 2 ^ 16 + w.flagBytes.2.1.toNat * 2 ^ 8 + w.flagBytes.2.2.toNat

def headerBytes : Bytes :=
  [w.publicKeyPrefix, w.flagBytes.1, w.flagBytes.2.1, w.flagBytes.2.2] ++
    writer.writeU64 w.priorityFeeSat

/-- The payloads one after the other. -/
def featuresData : Bytes :=
  (w.features.map fun feature => writer.writeBytesWithLength feature.data).flatten

/-- The pushes that may turn into opcodes. -/
def pushes : List Bytes :=
  match w.layout with
  | .interaction => w.featurePushes ++ w.calldataPushes
  | .deployment => w.featurePushes ++ w.calldataPushes ++ w.bytecodePushes

/-- Well-formed fields, within the limits of size. -/
structure WellFormed : Prop where
  publicKeyPrefix : w.publicKeyPrefix = 2 ∨ w.publicKeyPrefix = 3
  priorityFeeSat : w.priorityFeeSat < 2 ^ 64
  minerMLDSAPublicKey : w.minerMLDSAPublicKey.length = 32
  preimage : w.preimage.length = PREIMAGE_LENGTH
  senderPubKey : w.senderPubKey.length = 32
  hashedSenderPubKey : w.hashedSenderPubKey.length = 32
  saltPubKey : w.saltPubKey.length = 32
  saltHash : w.saltHash.length = w.layout.hashLength
  features : w.features.map RawFeature.opcode = w.header.decodeFlags env
  payloads : ∀ feature ∈ w.features, feature.data.length < 2 ^ 32
  featurePushes : w.featurePushes.flatten = w.featuresData writer
  calldata : w.layout = .interaction → w.calldataPushes.flatten ≠ []
  calldataSize :
    w.calldataPushes.flatten.length ≤ DeploymentTransaction.MAXIMUM_CALLDATA_SIZE_COMPRESSED
  bytecode : w.layout = .deployment → w.bytecodePushes.flatten ≠ []
  bytecodeSize :
    w.bytecodePushes.flatten.length ≤ DeploymentTransaction.MAXIMUM_CONTRACT_SIZE_COMPRESSED

/-- What follows the header. -/
def keyItems (body : List ScriptItem) : List ScriptItem :=
  .push w.senderPubKey :: .opcode OP_DUP :: .opcode OP_HASH256 :: .push w.hashedSenderPubKey ::
    .opcode OP_EQUALVERIFY :: .opcode OP_CHECKSIGVERIFY :: .push w.saltPubKey ::
    .opcode OP_CHECKSIGVERIFY :: .opcode w.layout.hashOpcode :: .push w.saltHash ::
    .opcode OP_EQUALVERIFY :: .opcode OP_DEPTH :: .opcode OP_1 :: .opcode OP_NUMEQUAL ::
    .opcode OP_IF :: .push OPNet_MAGIC :: body

def headerItems (rest : List ScriptItem) : List ScriptItem :=
  .push (w.headerBytes writer) :: .opcode OP_TOALTSTACK :: .push w.minerMLDSAPublicKey ::
    .opcode OP_TOALTSTACK :: .push w.preimage :: .opcode OP_TOALTSTACK :: rest

/-- The end of a script, from `OP_ELSE` on. -/
def endItems : List ScriptItem := [.opcode OP_ELSE, .opcode OP_1, .opcode OP_ENDIF]

/-- The features and the data. -/
def bodyItems : List ScriptItem :=
  match w.layout with
  | .interaction =>
    pushesOf w.featurePushes ++ .opcode OP_1NEGATE :: (pushesOf w.calldataPushes ++ endItems)
  | .deployment =>
    pushesOf w.featurePushes ++ .opcode OP_0 :: (pushesOf w.calldataPushes ++
      .opcode OP_1NEGATE :: (pushesOf w.bytecodePushes ++ endItems))

def items : List ScriptItem := w.headerItems writer (w.keyItems w.bodyItems)

end WitnessFields

/-! ### The readers on an assembled script -/

section Readers

variable {env : ScriptEnvironment} {writer : ScriptWriter} {w : WitnessFields}

theorem newHeader_headerBytes (hreads : ReadsBack env writer) (hw : w.WellFormed env writer) :
    OPNetHeader.new env (w.headerBytes writer) w.minerMLDSAPublicKey w.preimage = .ok w.header := by
  have hbytes : env.readBytes 4 (w.headerBytes writer) =
      .ok ([w.publicKeyPrefix, w.flagBytes.1, w.flagBytes.2.1, w.flagBytes.2.2],
        writer.writeU64 w.priorityFeeSat) :=
    hreads.readBytes [w.publicKeyPrefix, w.flagBytes.1, w.flagBytes.2.1, w.flagBytes.2.2]
      (writer.writeU64 w.priorityFeeSat)
  have hfee : env.readU64 (writer.writeU64 w.priorityFeeSat) = .ok (w.priorityFeeSat, []) := by
    have hread := hreads.readU64 w.priorityFeeSat hw.priorityFeeSat []
    rwa [List.append_nil] at hread
  have hvalid : ¬ (w.publicKeyPrefix ≠ 0x02 ∧ w.publicKeyPrefix ≠ 0x03) := by
    rcases hw.publicKeyPrefix with htwo | hthree
    · exact fun hboth => hboth.1 htwo
    · exact fun hboth => hboth.2 hthree
  unfold OPNetHeader.new
  rw [hbytes]
  show (env.readU64 _ >>= fun priorityFeeSat => if w.publicKeyPrefix ≠ 0x02 ∧ w.publicKeyPrefix ≠
    0x03 then .error "Invalid public key prefix" else .ok { w.header with priorityFeeSat :=
    priorityFeeSat.1 }) = _
  rw [hfee]
  exact if_neg hvalid

theorem reads_decodeOPNetHeader (hreads : ReadsBack env writer) (hw : w.WellFormed env writer)
    (rest : List ScriptItem) :
    Reads (decodeOPNetHeader env) (w.headerItems writer rest) w.header rest := by
  have hlength : (w.headerBytes writer).length = EXPECTED_HEADER_LENGTH := by
    rw [WitnessFields.headerBytes, List.length_append, hreads.length_writeU64]
    rfl
  refine (reads_shiftBytes hlength _).bind ((reads_shiftOpcode _ _).bind ?_)
  refine (reads_shiftBytes hw.minerMLDSAPublicKey _).bind ((reads_shiftOpcode _ _).bind ?_)
  refine (reads_shiftBytes hw.preimage _).bind ((reads_shiftOpcode _ _).bind ?_)
  exact reads_ofExcept (newHeader_headerBytes hreads hw) rest

theorem readFeatures_featuresData (hreads : ReadsBack env writer) (features : List RawFeature)
    (h : ∀ feature ∈ features, feature.data.length < 2 ^ 32) :
    readFeatures env (features.map RawFeature.opcode)
        (features.map fun feature => writer.writeBytesWithLength feature.data).flatten =
      .ok features := by
  induction features with
  | nil => rfl
  | cons feature features ih =>
    have hfield := hreads.readBytesWithLength feature.data (h feature List.mem_cons_self)
      (features.map fun feature => writer.writeBytesWithLength feature.data).flatten
    have hrest := ih fun feature' hfeature' => h feature' (List.mem_cons_of_mem _ hfeature')
    rw [List.map_cons, List.map_cons, List.flatten_cons, readFeatures, hfield]
    show (readFeatures env _ _ >>= fun rest => _) = _
    rw [hrest]
    rfl

theorem reads_decodeFeatures (hreads : ReadsBack env writer) (hw : w.WellFormed env writer)
    (hpushes : ∀ push ∈ w.featurePushes, push ≠ []) (code : ℕ) (rest : List ScriptItem) :
    Reads (decodeFeatures env w.header) (pushesOf w.featurePushes ++ .opcode code :: rest) w.features
      (.opcode code :: rest) := by
  unfold Reads decodeFeatures
  split
  · rename_i hnone
    have hfeatures : w.features = [] := by
      have hmap := hw.features
      rw [hnone] at hmap
      exact List.map_eq_nil_iff.mp hmap
    have hnothing : w.featurePushes = [] := by
      have hflatten := hw.featurePushes
      rw [WitnessFields.featuresData, hfeatures] at hflatten
      rw [List.eq_nil_iff_forall_not_mem]
      intro push hpush
      exact hpushes push hpush (List.flatten_eq_nil_iff.mp hflatten push hpush)
    rw [hfeatures, hnothing]
    rfl
  · rename_i hsome
    have hne : w.featurePushes.flatten ≠ [] := by
      rw [hw.featurePushes, WitnessFields.featuresData]
      cases hfeatures : w.features with
      | nil =>
        have hmap := hw.features
        rw [hfeatures] at hmap
        exact absurd hmap.symm hsome
      | cons feature features =>
        have hlength := hreads.length_writeBytesWithLength feature.data
        intro hnil
        rw [List.map_cons, List.flatten_cons, List.append_eq_nil_iff] at hnil
        rw [hnil.1] at hlength
        simp at hlength
        omega
    rw [getDataUntilBufferEnd_pushesOf, joined_of_flatten_ne_nil hne, hw.featurePushes]
    dsimp only
    rw [← hw.features, WitnessFields.featuresData, readFeatures_featuresData hreads _ hw.payloads]
    rfl

theorem reads_shiftMagic (rest : List ScriptItem) :
    Reads DeploymentTransaction.shiftMagic (.push OPNet_MAGIC :: rest) () rest := by
  rw [Reads, DeploymentTransaction.shiftMagic, if_pos rfl]
  rfl

theorem reads_interactionCalldata {chunks : List Bytes} (hne : chunks.flatten ≠ [])
    (hsize : chunks.flatten.length ≤ DeploymentTransaction.MAXIMUM_CALLDATA_SIZE_COMPRESSED)
    (rest : List ScriptItem) :
    Reads InteractionTransaction.readCalldata (pushesOf chunks ++ .opcode OP_ELSE :: rest)
      chunks.flatten (.opcode OP_ELSE :: rest) := by
  unfold Reads InteractionTransaction.readCalldata
  rw [getDataFromScript_pushesOf, joined_of_flatten_ne_nil hne]
  exact if_neg (not_lt.mpr hsize)

theorem reads_deploymentCalldata {chunks : List Bytes}
    (hsize : chunks.flatten.length ≤ DeploymentTransaction.MAXIMUM_CALLDATA_SIZE_COMPRESSED)
    (rest : List ScriptItem) :
    Reads DeploymentTransaction.readCalldata (pushesOf chunks ++ .opcode OP_1NEGATE :: rest)
      (joined chunks) (.opcode OP_1NEGATE :: rest) := by
  have hwithin : ¬ ((joined chunks).any fun bytes =>
      decide (DeploymentTransaction.MAXIMUM_CALLDATA_SIZE_COMPRESSED < bytes.length)) = true := by
    unfold joined
    split
    · exact Bool.false_ne_true
    · rw [Option.any_some, decide_eq_true_iff]
      exact not_lt.mpr hsize
  unfold Reads DeploymentTransaction.readCalldata
  rw [getDataFromScript_pushesOf]
  exact if_neg hwithin

theorem reads_bytecode {chunks : List Bytes} (hne : chunks.flatten ≠ [])
    (hsize : chunks.flatten.length ≤ DeploymentTransaction.MAXIMUM_CONTRACT_SIZE_COMPRESSED)
    (rest : List ScriptItem) :
    Reads DeploymentTransaction.readBytecode (pushesOf chunks ++ .opcode OP_ELSE :: rest)
      chunks.flatten (.opcode OP_ELSE :: rest) := by
  unfold Reads DeploymentTransaction.readBytecode
  rw [getDataFromScript_pushesOf, joined_of_flatten_ne_nil hne]
  exact if_neg (not_lt.mpr hsize)

def WitnessFields.interaction (w : WitnessFields) :
    InteractionTransaction.InteractionWitnessData where
  header := w.header
  senderPubKey := w.senderPubKey
  interactionSaltPubKey := w.saltPubKey
  hashedSenderPubKey := w.hashedSenderPubKey
  contractSecretHash160 := w.saltHash
  features := w.features
  calldata := w.calldataPushes.flatten

/-- The fields of a deployment; there is no calldata where nothing was pushed. -/
def WitnessFields.deployment (w : WitnessFields) : DeploymentTransaction.DeploymentWitnessData where
  header := w.header
  senderPubKey := w.senderPubKey
  hashedSenderPubKey := w.hashedSenderPubKey
  contractSaltPubKey := w.saltPubKey
  contractSaltHash := w.saltHash
  bytecode := w.bytecodePushes.flatten
  calldata := joined w.calldataPushes
  features := w.features

theorem reads_getInteractionWitnessData (hreads : ReadsBack env writer)
    (hw : w.WellFormed env writer) (hlayout : w.layout = .interaction)
    (hpushes : ∀ push ∈ w.featurePushes, push ≠ []) :
    Reads (InteractionTransaction.getInteractionWitnessData env) (w.items writer) w.interaction
      WitnessFields.endItems := by
  have hhash : w.saltHash.length = 20 := by
    rw [hw.saltHash, hlayout]
    rfl
  have hbody : w.bodyItems = pushesOf w.featurePushes ++ .opcode OP_1NEGATE ::
      (pushesOf w.calldataPushes ++ WitnessFields.endItems) := by
    rw [WitnessFields.bodyItems, hlayout]
  have hkeys : w.keyItems w.bodyItems = .push w.senderPubKey :: .opcode OP_DUP :: .opcode OP_HASH256 ::
      .push w.hashedSenderPubKey :: .opcode OP_EQUALVERIFY :: .opcode OP_CHECKSIGVERIFY ::
      .push w.saltPubKey :: .opcode OP_CHECKSIGVERIFY ::
      .opcode InteractionTransaction.OP_HASH160 :: .push w.saltHash :: .opcode OP_EQUALVERIFY ::
      .opcode OP_DEPTH :: .opcode OP_1 :: .opcode OP_NUMEQUAL :: .opcode OP_IF ::
      .push OPNet_MAGIC :: w.bodyItems := by
    rw [WitnessFields.keyItems, hlayout]
    rfl
  have hheader : Reads (InteractionTransaction.getInteractionWitnessDataHeader env) (w.items writer)
      w.interaction.toInteractionWitnessDataHeader
      (pushesOf w.calldataPushes ++ WitnessFields.endItems) := by
    refine (reads_decodeOPNetHeader hreads hw _).bind ?_
    rw [hkeys]
    refine (reads_shiftBytes hw.senderPubKey _).bind ?_
    refine (reads_shiftOpcode _ _).bind ((reads_shiftOpcode _ _).bind ?_)
    refine (reads_shiftBytes hw.hashedSenderPubKey _).bind ?_
    refine (reads_shiftOpcode _ _).bind ((reads_shiftOpcode _ _).bind ?_)
    refine (reads_shiftBytes hw.saltPubKey _).bind ?_
    refine (reads_shiftOpcode _ _).bind ((reads_shiftOpcode _ _).bind ?_)
    refine (reads_shiftBytes hhash _).bind ((reads_shiftOpcode _ _).bind ?_)
    refine (reads_shiftOpcode _ _).bind ((reads_shiftOpcode _ _).bind ?_)
    refine (reads_shiftOpcode _ _).bind ((reads_shiftOpcode _ _).bind ?_)
    refine (reads_shiftMagic _).bind ?_
    rw [hbody]
    refine (reads_decodeFeatures hreads hw hpushes _ _).bind ((reads_shiftOpcode _ _).bind ?_)
    exact reads_pure _ _
  refine hheader.bind ((reads_interactionCalldata (hw.calldata hlayout) hw.calldataSize _).bind ?_)
  exact reads_pure _ _

theorem reads_getDeploymentWitnessData (hreads : ReadsBack env writer)
    (hw : w.WellFormed env writer) (hlayout : w.layout = .deployment)
    (hpushes : ∀ push ∈ w.featurePushes, push ≠ []) :
    Reads (DeploymentTransaction.getDeploymentWitnessData env) (w.items writer) w.deployment
      WitnessFields.endItems := by
  have hhash : w.saltHash.length = 32 := by
    rw [hw.saltHash, hlayout]
    rfl
  have hbody : w.bodyItems = pushesOf w.featurePushes ++ .opcode OP_0 ::
      (pushesOf w.calldataPushes ++ .opcode OP_1NEGATE ::
        (pushesOf w.bytecodePushes ++ WitnessFields.endItems)) := by
    rw [WitnessFields.bodyItems, hlayout]
  have hkeys : w.keyItems w.bodyItems = .push w.senderPubKey :: .opcode OP_DUP :: .opcode OP_HASH256 ::
      .push w.hashedSenderPubKey :: .opcode OP_EQUALVERIFY :: .opcode OP_CHECKSIGVERIFY ::
      .push w.saltPubKey :: .opcode OP_CHECKSIGVERIFY :: .opcode OP_HASH256 :: .push w.saltHash ::
      .opcode OP_EQUALVERIFY :: .opcode OP_DEPTH :: .opcode OP_1 :: .opcode OP_NUMEQUAL ::
      .opcode OP_IF :: .push OPNet_MAGIC :: w.bodyItems := by
    rw [WitnessFields.keyItems, hlayout]
    rfl
  refine (reads_decodeOPNetHeader hreads hw _).bind ?_
  rw [hkeys]
  refine (reads_shiftBytes hw.senderPubKey _).bind ?_
  refine (reads_shiftOpcode _ _).bind ((reads_shiftOpcode _ _).bind ?_)
  refine (reads_shiftBytes hw.hashedSenderPubKey _).bind ?_
  refine (reads_shiftOpcode _ _).bind ((reads_shiftOpcode _ _).bind ?_)
  refine (reads_shiftBytes hw.saltPubKey _).bind ?_
  refine (reads_shiftOpcode _ _).bind ((reads_shiftOpcode _ _).bind ?_)
  refine (reads_shiftBytes hhash _).bind ((reads_shiftOpcode _ _).bind ?_)
  refine (reads_shiftOpcode _ _).bind ((reads_shiftOpcode _ _).bind ?_)
  refine (reads_shiftOpcode _ _).bind ((reads_shiftOpcode _ _).bind ?_)
  refine (reads_shiftMagic _).bind ?_
  rw [hbody]
  refine (reads_decodeFeatures hreads hw hpushes _ _).bind ((reads_shiftOpcode _ _).bind ?_)
  refine (reads_deploymentCalldata hw.calldataSize _).bind ((reads_shiftOpcode _ _).bind ?_)
  refine (reads_bytecode (hw.bytecode hlayout) hw.bytecodeSize _).bind ?_
  exact reads_pure _ _

end Readers

end OpnetNode.WitnessScript
