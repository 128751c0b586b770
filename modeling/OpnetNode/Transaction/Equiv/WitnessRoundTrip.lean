import Mathlib.Tactic.NormNum
import OpnetNode.Merkle.RustMerkleTree
import OpnetNode.Transaction.Equiv.AssembledScript
import OpnetNode.Transaction.Equiv.ControlBlock

/-!
# Scripts that are read back

The decompiler turns a push that minimal encoding writes as a small number into the opcode of that
number, and the recognition compares all opcodes: so an assembled script is read back as long as no
push of features, calldata or bytecode is such a number.

* `verifyChecksum_items_iff`: when the opcodes are those of the layout.
* `roundTrips_iff`: when a script is recognised and its fields are read back.
-/

namespace OpnetNode.WitnessScript

/-! ### The opcodes of an assembled script -/

/-- The opcode that minimal encoding writes for a push of a small number. -/
def asMinimalOP : Bytes → Option ℕ
  | [] => some OP_0
  | [byte] =>
    if 1 ≤ byte.toNat ∧ byte.toNat ≤ 16 then some (80 + byte.toNat)
    else if byte.toNat = 0x81 then some OP_1NEGATE
    else none
  | _ => none

/-- An element of a script as the decompiler returns it. -/
def decompiled : ScriptItem → ScriptItem
  | .opcode code => .opcode code
  | .push data => (asMinimalOP data).elim (.push data) .opcode

variable {data : Bytes}

theorem asMinimalOP_of_two_le (h : 2 ≤ data.length) : asMinimalOP data = none := by
  cases data with
  | nil => simp at h
  | cons byte data =>
    cases data with
    | nil => simp at h
    | cons byte' data => rfl

theorem decompiled_push (h : asMinimalOP data = none) : decompiled (.push data) = .push data := by
  rw [decompiled, h]
  rfl

def opcodesOf (chunks : List Bytes) : Bytes := getDataChecksum ((pushesOf chunks).map decompiled)

theorem opcodesOf_cons (chunk : Bytes) (chunks : List Bytes) :
    opcodesOf (chunk :: chunks) =
      (asMinimalOP chunk).elim (opcodesOf chunks) fun code =>
        UInt8.ofNat code :: opcodesOf chunks := by
  unfold opcodesOf pushesOf
  rw [List.map_cons, List.map_cons, decompiled]
  cases asMinimalOP chunk with
  | none | some => rfl

theorem opcodesOf_eq_nil_iff (chunks : List Bytes) :
    opcodesOf chunks = [] ↔ ∀ chunk ∈ chunks, asMinimalOP chunk = none := by
  induction chunks with
  | nil => simp [opcodesOf, pushesOf, getDataChecksum]
  | cons chunk chunks ih =>
    rw [opcodesOf_cons, List.forall_mem_cons, ← ih]
    cases asMinimalOP chunk with
    | none | some => simp

theorem pushesOf_map_decompiled {chunks : List Bytes}
    (h : ∀ chunk ∈ chunks, asMinimalOP chunk = none) :
    (pushesOf chunks).map decompiled = pushesOf chunks := by
  unfold pushesOf
  rw [List.map_map]
  apply List.map_congr_left
  intro chunk hchunk
  exact decompiled_push (h chunk hchunk)

theorem getDataChecksum_append (a b : List ScriptItem) :
    getDataChecksum (a ++ b) = getDataChecksum a ++ getDataChecksum b :=
  List.filterMap_append

namespace WitnessFields

variable {env : ScriptEnvironment} {writer : ScriptWriter} {w : WitnessFields}

theorem map_decompiled_items (hreads : ReadsBack env writer) (hw : w.WellFormed env writer) :
    (w.items writer).map decompiled =
      w.headerItems writer (w.keyItems (w.bodyItems.map decompiled)) := by
  have hheader : decompiled (.push (w.headerBytes writer)) = .push (w.headerBytes writer) := by
    apply decompiled_push
    apply asMinimalOP_of_two_le
    rw [headerBytes, List.length_append, hreads.length_writeU64]
    simp
  have hlong {data : Bytes} {length : ℕ} (hlength : data.length = length) (hle : 2 ≤ length) :
      decompiled (.push data) = .push data := by
    apply decompiled_push
    apply asMinimalOP_of_two_le
    omega
  have hhash : 2 ≤ w.layout.hashLength := by
    cases w.layout with
    | interaction | deployment => decide
  have hmagic : decompiled (.push OPNet_MAGIC) = .push OPNet_MAGIC := rfl
  have hopcode (code : ℕ) : decompiled (.opcode code) = .opcode code := rfl
  unfold items headerItems keyItems
  simp only [List.map_cons, hheader, hmagic, hopcode,
    hlong hw.minerMLDSAPublicKey (by decide), hlong hw.preimage (by decide),
    hlong hw.senderPubKey (by decide), hlong hw.hashedSenderPubKey (by decide),
    hlong hw.saltPubKey (by decide), hlong hw.saltHash hhash]

/-- The opcodes before the body. -/
def frontOpcodes (layout : Layout) : Bytes :=
  [OP_TOALTSTACK, OP_TOALTSTACK, OP_TOALTSTACK, OP_DUP, OP_HASH256, OP_EQUALVERIFY,
    OP_CHECKSIGVERIFY, OP_CHECKSIGVERIFY, layout.hashOpcode, OP_EQUALVERIFY, OP_DEPTH, OP_1,
    OP_NUMEQUAL, OP_IF].map UInt8.ofNat

theorem getDataChecksum_front (body : List ScriptItem) :
    getDataChecksum (w.headerItems writer (w.keyItems body)) =
      frontOpcodes w.layout ++ getDataChecksum body := rfl

/-- The opcodes of the body, with those that pushes turn into. -/
def bodyOpcodes (w : WitnessFields) : Bytes :=
  match w.layout with
  | .interaction =>
    opcodesOf w.featurePushes ++ UInt8.ofNat OP_1NEGATE ::
      (opcodesOf w.calldataPushes ++ getDataChecksum endItems)
  | .deployment =>
    opcodesOf w.featurePushes ++ UInt8.ofNat OP_0 :: (opcodesOf w.calldataPushes ++
      UInt8.ofNat OP_1NEGATE :: (opcodesOf w.bytecodePushes ++ getDataChecksum endItems))

theorem getDataChecksum_body : getDataChecksum (w.bodyItems.map decompiled) = w.bodyOpcodes := by
  have hend : endItems.map decompiled = endItems := rfl
  have hcons (code : ℕ) (rest : List ScriptItem) :
      getDataChecksum (decompiled (.opcode code) :: rest) =
        UInt8.ofNat code :: getDataChecksum rest := rfl
  unfold bodyItems bodyOpcodes
  cases w.layout with
  | interaction =>
    dsimp only
    rw [List.map_append, getDataChecksum_append, List.map_cons, hcons, List.map_append,
      getDataChecksum_append, hend]
    rfl
  | deployment =>
    dsimp only
    rw [List.map_append, getDataChecksum_append, List.map_cons, hcons, List.map_append,
      getDataChecksum_append, List.map_cons, hcons, List.map_append, getDataChecksum_append, hend]
    rfl

/-- The opcodes are those of the layout when no push turns into one: others make them too many. -/
theorem verifyChecksum_items_iff (hreads : ReadsBack env writer) (hw : w.WellFormed env writer) :
    verifyChecksum ((w.items writer).map decompiled) w.layout.checksum = true ↔
      ∀ push ∈ w.pushes, asMinimalOP push = none := by
  rw [verifyChecksum, decide_eq_true_iff, map_decompiled_items hreads hw, getDataChecksum_front,
    getDataChecksum_body]
  unfold bodyOpcodes pushes
  -- in both layouts the opcodes of the layout are there already, so that any other makes too many
  cases w.layout with
  | interaction =>
    have hchecksum : Layout.interaction.checksum = frontOpcodes .interaction ++
        ([] ++ UInt8.ofNat OP_1NEGATE :: ([] ++ getDataChecksum endItems)) := rfl
    dsimp only
    rw [hchecksum, List.append_cancel_left_eq, List.forall_mem_append, ← opcodesOf_eq_nil_iff,
      ← opcodesOf_eq_nil_iff]
    constructor
    · intro heq
      have hlength := congrArg List.length heq
      simp only [List.length_append, List.length_cons, List.length_nil] at hlength
      constructor
      · apply List.length_eq_zero_iff.mp
        omega
      · apply List.length_eq_zero_iff.mp
        omega
    · rintro ⟨hfeatures, hcalldata⟩
      rw [hfeatures, hcalldata]
  | deployment =>
    have hchecksum : Layout.deployment.checksum = frontOpcodes .deployment ++
        ([] ++ UInt8.ofNat OP_0 :: ([] ++
          UInt8.ofNat OP_1NEGATE :: ([] ++ getDataChecksum endItems))) := rfl
    dsimp only
    rw [hchecksum, List.append_cancel_left_eq, List.forall_mem_append, List.forall_mem_append,
      ← opcodesOf_eq_nil_iff, ← opcodesOf_eq_nil_iff, ← opcodesOf_eq_nil_iff]
    constructor
    · intro heq
      have hlength := congrArg List.length heq
      simp only [List.length_append, List.length_cons, List.length_nil] at hlength
      refine ⟨⟨?_, ?_⟩, ?_⟩
      · apply List.length_eq_zero_iff.mp
        omega
      · apply List.length_eq_zero_iff.mp
        omega
      · apply List.length_eq_zero_iff.mp
        omega
    · rintro ⟨⟨hfeatures, hcalldata⟩, hbytecode⟩
      rw [hfeatures, hcalldata, hbytecode]

theorem dataIncludeOPNetMagic_items (hreads : ReadsBack env writer) (hw : w.WellFormed env writer) :
    dataIncludeOPNetMagic ((w.items writer).map decompiled) = true := by
  rw [map_decompiled_items hreads hw, dataIncludeOPNetMagic, List.any_eq_true]
  refine ⟨.push OPNet_MAGIC, ?_, by decide⟩
  simp [headerItems, keyItems]

/-! ### The round trip -/

/-- An input that carries a script in the shape of an OP_NET input. -/
def CarriesScript (rawScript : Bytes) (vIn : VIn) : Prop :=
  ∃ secret signatureA signatureB controlBlock,
    vIn.txinwitness = [secret, signatureA, signatureB, rawScript, controlBlock] ∧
      signatureA.length = 64 ∧ signatureB.length = 64 ∧ controlBlock.length = 65

/-- A transaction with the script is recognised by the first input that carries it. -/
def IsRecognised (env : ScriptEnvironment) (w : WitnessFields) (rawScript : Bytes) : Prop :=
  ∀ (data : DeploymentTransaction.TransactionData) (y : ℕ) (hy : y < data.vin.length),
    CarriesScript rawScript (data.vin[y]) →
      (∀ j (hj : j < y), isCorrectInput env w.layout.checksum (data.vin[j]) = false) →
        w.layout.is env data = some y

def IsRead (env : ScriptEnvironment) (w : WitnessFields) (scriptData : List ScriptItem) : Prop :=
  match w.layout with
  | .interaction =>
    ∃ rest, Reads (InteractionTransaction.getInteractionWitnessData env) scriptData w.interaction rest
  | .deployment =>
    ∃ rest, Reads (DeploymentTransaction.getDeploymentWitnessData env) scriptData w.deployment rest

/-- A script that is assembled from fields is recognised, and the fields are read from it. -/
def RoundTrips (env : ScriptEnvironment) (w : WitnessFields) (rawScript : Bytes) : Prop :=
  w.IsRecognised env rawScript ∧
    ∃ scriptData, env.decompile rawScript = .ok (some scriptData) ∧ w.IsRead env scriptData

theorem is_eq_detect (data : DeploymentTransaction.TransactionData) (layout : Layout) :
    layout.is env data = detect env layout.checksum data.vin := by
  cases layout with
  | interaction | deployment => rfl

variable {rawScript : Bytes} {scriptData : List ScriptItem}

theorem isCorrectInput_of_carriesScript {typeChecksum : Bytes} {vIn : VIn}
    (hcarries : CarriesScript rawScript vIn)
    (hscript : env.decompile rawScript = .ok (some scriptData)) :
    isCorrectInput env typeChecksum vIn =
      (dataIncludeOPNetMagic scriptData && verifyChecksum scriptData typeChecksum) := by
  obtain ⟨secret, signatureA, signatureB, controlBlock, hwitness, hA, hB, hcontrol⟩ := hcarries
  unfold isCorrectInput
  rw [hwitness]
  dsimp only
  unfold hexLength
  rw [hA, hB, hcontrol, hscript]
  rfl

def carrier (rawScript : Bytes) : VIn where
  txid := []
  txinwitness :=
    [[], List.replicate 64 0, List.replicate 64 0, rawScript, List.replicate 65 0]

theorem carriesScript_carrier (rawScript : Bytes) : CarriesScript rawScript (carrier rawScript) :=
  ⟨_, _, _, _, rfl, List.length_replicate, List.length_replicate, List.length_replicate⟩

theorem isRecognised_iff (hscript : env.decompile rawScript = .ok (some scriptData))
    (hmagic : dataIncludeOPNetMagic scriptData = true) :
    w.IsRecognised env rawScript ↔ verifyChecksum scriptData w.layout.checksum = true := by
  constructor
  · intro hrecognised
    have hcarries := carriesScript_carrier rawScript
    have his := hrecognised ⟨[carrier rawScript], []⟩ 0 Nat.one_pos hcarries
      fun j hj => absurd hj (Nat.not_lt_zero j)
    rw [is_eq_detect, detect, List.findIdx?_eq_some_iff_getElem] at his
    obtain ⟨_, hcorrect, -⟩ := his
    have hcorrect : isCorrectInput env w.layout.checksum (carrier rawScript) = true := hcorrect
    rw [isCorrectInput_of_carriesScript hcarries hscript, hmagic, Bool.true_and] at hcorrect
    exact hcorrect
  · intro hverified data y hy hcarries hbefore
    rw [is_eq_detect, detect, List.findIdx?_eq_some_iff_getElem]
    refine ⟨hy, ?_, ?_⟩
    · rw [isCorrectInput_of_carriesScript hcarries hscript, hmagic, hverified]
      rfl
    · intro j hj
      rw [hbefore j hj]
      exact Bool.false_ne_true

theorem ne_nil_of_asMinimalOP_eq_none {push : Bytes} (h : asMinimalOP push = none) : push ≠ [] := by
  rintro rfl
  cases h

theorem map_decompiled_body (h : ∀ push ∈ w.pushes, asMinimalOP push = none) :
    w.bodyItems.map decompiled = w.bodyItems := by
  have hend : endItems.map decompiled = endItems := rfl
  have hopcode (code : ℕ) : decompiled (.opcode code) = .opcode code := rfl
  unfold pushes at h
  unfold bodyItems
  cases hlayout : w.layout with
  | interaction =>
    rw [hlayout] at h
    obtain ⟨hfeatures, hcalldata⟩ := List.forall_mem_append.mp h
    dsimp only
    rw [List.map_append, pushesOf_map_decompiled hfeatures, List.map_cons, hopcode, List.map_append,
      pushesOf_map_decompiled hcalldata, hend]
  | deployment =>
    rw [hlayout] at h
    obtain ⟨h, hbytecode⟩ := List.forall_mem_append.mp h
    obtain ⟨hfeatures, hcalldata⟩ := List.forall_mem_append.mp h
    dsimp only
    rw [List.map_append, pushesOf_map_decompiled hfeatures, List.map_cons, hopcode, List.map_append,
      pushesOf_map_decompiled hcalldata, List.map_cons, hopcode, List.map_append,
      pushesOf_map_decompiled hbytecode, hend]

theorem featurePushes_subset (w : WitnessFields) : w.featurePushes ⊆ w.pushes := by
  unfold pushes
  split
  · exact List.subset_append_left _ _
  · rw [List.append_assoc]
    exact List.subset_append_left _ _

theorem isRecognised_items_iff (hreads : ReadsBack env writer) (hw : w.WellFormed env writer)
    (hscript : env.decompile rawScript = .ok (some ((w.items writer).map decompiled))) :
    w.IsRecognised env rawScript ↔ ∀ push ∈ w.pushes, asMinimalOP push = none := by
  rw [isRecognised_iff hscript (dataIncludeOPNetMagic_items hreads hw)]
  exact verifyChecksum_items_iff hreads hw

/-- **An assembled script is read back exactly when no push is a small number.** -/
theorem roundTrips_iff {env : ScriptEnvironment} {writer : ScriptWriter} {w : WitnessFields}
    (hreads : ReadsBack env writer) (hw : w.WellFormed env writer) {rawScript : Bytes}
    (hscript : env.decompile rawScript = .ok (some ((w.items writer).map decompiled))) :
    w.RoundTrips env rawScript ↔ ∀ push ∈ w.pushes, asMinimalOP push = none := by
  have hrecognised := isRecognised_items_iff hreads hw hscript
  constructor
  · intro htrips
    exact hrecognised.mp htrips.1
  · intro hpushes
    refine ⟨hrecognised.mpr hpushes, _, hscript, ?_⟩
    have hnonempty : ∀ push ∈ w.featurePushes, push ≠ [] := fun push hpush =>
      ne_nil_of_asMinimalOP_eq_none (hpushes push (w.featurePushes_subset hpush))
    rw [map_decompiled_items hreads hw, map_decompiled_body hpushes]
    unfold IsRead
    cases hlayout : w.layout with
    | interaction =>
      exact ⟨_, reads_getInteractionWitnessData hreads hw hlayout hnonempty⟩
    | deployment =>
      exact ⟨_, reads_getDeploymentWitnessData hreads hw hlayout hnonempty⟩

end WitnessFields

/-! ### Sample scripts -/

section Samples

open DeploymentTransaction (takeBytes takeNumber decompilePushes sampleEnvironment)

/-- Pushes of small numbers come back as opcodes here. -/
def minimalEnvironment : ScriptEnvironment :=
  { sampleEnvironment.toScriptEnvironment with
    decompile := fun script =>
      .ok ((decompilePushes script.length script).map (List.map decompiled)) }

def bigEndianWriter : ScriptWriter where
  writeU64 := toBigEndian 8
  writeBytesWithLength data := toBigEndian 4 data.length ++ data

theorem takeBytes_append (data rest : Bytes) :
    takeBytes data.length (data ++ rest) = .ok (data, rest) := by
  have hle : data.length ≤ (data ++ rest).length := by simp
  rw [takeBytes, if_pos hle, List.take_left, List.drop_left]

theorem takeNumber_toBigEndian {k n : ℕ} (hn : n < 256 ^ k) (rest : Bytes) :
    takeNumber k (toBigEndian k n ++ rest) = .ok (n, rest) := by
  have htake := takeBytes_append (toBigEndian k n) rest
  have hnumber : (toBigEndian k n).foldl (fun k byte => k * 256 + byte.toNat) 0 = n :=
    (ofBigEndian_toBigEndian k n).trans (Nat.mod_eq_of_lt hn)
  rw [length_toBigEndian] at htake
  rw [takeNumber, htake]
  show Except.ok ((toBigEndian k n).foldl _ 0, rest) = _
  rw [hnumber]

theorem readsBack_bigEndianWriter : ReadsBack minimalEnvironment bigEndianWriter where
  readBytes := takeBytes_append
  length_writeU64 := length_toBigEndian 8
  readU64 n hn rest := by
    have hlt : n < 256 ^ 8 := by
      rw [show 256 ^ 8 = 2 ^ 64 by norm_num]
      exact hn
    exact takeNumber_toBigEndian hlt rest
  length_writeBytesWithLength data := by
    show (toBigEndian 4 data.length ++ data).length = _
    rw [List.length_append, length_toBigEndian]
  readBytesWithLength data hdata rest := by
    show (takeNumber 4 (toBigEndian 4 data.length ++ data ++ rest) >>= fun length =>
      takeBytes length.1 length.2) = _
    have hlt : data.length < 256 ^ 4 := by
      rw [show 256 ^ 4 = 2 ^ 32 by norm_num]
      exact hdata
    rw [List.append_assoc, takeNumber_toBigEndian hlt]
    exact takeBytes_append data rest

/-- A script as bytes, with short pushes. -/
def assemble (items : List ScriptItem) : Bytes :=
  items.flatMap fun item =>
    match item with
    | .opcode code => [UInt8.ofNat code]
    | .push data => UInt8.ofNat data.length :: data

/-- Fields with one feature, a calldata in the given pushes and a bytecode of three bytes. -/
def sampleFields (layout : Layout) (calldataPushes : List Bytes) : WitnessFields where
  layout := layout
  publicKeyPrefix := 2
  flagBytes := (0, 0, 4)
  priorityFeeSat := 1000
  minerMLDSAPublicKey := List.replicate 32 1
  preimage := List.replicate 20 2
  senderPubKey := List.replicate 32 3
  hashedSenderPubKey := List.replicate 32 4
  saltPubKey := List.replicate 32 5
  saltHash := List.replicate layout.hashLength 6
  features := [⟨.MLDSA_LINK_PUBKEY, [7, 7, 7]⟩]
  featurePushes := [[0, 0, 0], [3, 7, 7, 7]]
  calldataPushes := calldataPushes
  bytecodePushes := [[8, 8, 8]]

variable {calldataPushes : List Bytes}

theorem wellFormed_sampleFields (layout : Layout) (hcalldata : calldataPushes.flatten ≠ [])
    (hsize : calldataPushes.flatten.length ≤ DeploymentTransaction.MAXIMUM_CALLDATA_SIZE_COMPRESSED) :
    (sampleFields layout calldataPushes).WellFormed minimalEnvironment bigEndianWriter where
  publicKeyPrefix := Or.inl rfl
  priorityFeeSat := by
    show 1000 < 2 ^ 64
    norm_num
  minerMLDSAPublicKey := rfl
  preimage := rfl
  senderPubKey := rfl
  hashedSenderPubKey := rfl
  saltPubKey := rfl
  saltHash := List.length_replicate
  features := by
    have hflags : (sampleFields layout calldataPushes).header.flags = 4 := by
      simp [sampleFields, WitnessFields.header]
    show [Features.MLDSA_LINK_PUBKEY] = _
    unfold OPNetHeader.decodeFlags
    rw [hflags]
    decide +kernel
  payloads feature hfeature := by
    rw [List.mem_singleton.mp hfeature]
    norm_num
  featurePushes := rfl
  calldata _ := hcalldata
  calldataSize := hsize
  bytecode _ := List.cons_ne_nil _ _
  bytecodeSize := by
    show 3 ≤ _
    decide

/-- The last push of the calldata is the number 5. -/
def endsWithFive : List Bytes := [[1, 2, 3], [5]]

/-- The last push of the calldata is the number 17. -/
def endsWithSeventeen : List Bytes := [[1, 2, 3], [17]]

theorem decompile_assemble_sampleFields :
    ∀ layout : Layout, ∀ calldataPushes ∈ [endsWithFive, endsWithSeventeen],
      (decompilePushes
          (assemble ((sampleFields layout calldataPushes).items bigEndianWriter)).length
          (assemble ((sampleFields layout calldataPushes).items bigEndianWriter))).map
        (List.map decompiled) =
      some (((sampleFields layout calldataPushes).items bigEndianWriter).map decompiled) := by
  intro layout
  cases layout with
  | interaction | deployment => decide +kernel

theorem decompile_sample (layout : Layout)
    (h : calldataPushes ∈ [endsWithFive, endsWithSeventeen]) :
    minimalEnvironment.decompile
        (assemble ((sampleFields layout calldataPushes).items bigEndianWriter)) =
      .ok (some (((sampleFields layout calldataPushes).items bigEndianWriter).map decompiled)) :=
  congrArg Except.ok (decompile_assemble_sampleFields layout calldataPushes h)

/-- An interaction and a deployment that are read back. -/
theorem roundTrips_endsWithSeventeen :
    ((sampleFields .interaction endsWithSeventeen).RoundTrips minimalEnvironment
        (assemble ((sampleFields .interaction endsWithSeventeen).items bigEndianWriter))) ∧
      (sampleFields .deployment endsWithSeventeen).RoundTrips minimalEnvironment
        (assemble ((sampleFields .deployment endsWithSeventeen).items bigEndianWriter)) := by
  have hwell (layout : Layout) : (sampleFields layout endsWithSeventeen).WellFormed
      minimalEnvironment bigEndianWriter :=
    wellFormed_sampleFields layout (by decide) (by decide)
  have hmem : endsWithSeventeen ∈ [endsWithFive, endsWithSeventeen] := by decide
  constructor
  · exact (WitnessFields.roundTrips_iff readsBack_bigEndianWriter (hwell .interaction)
      (decompile_sample .interaction hmem)).mpr (by decide)
  · exact (WitnessFields.roundTrips_iff readsBack_bigEndianWriter (hwell .deployment)
      (decompile_sample .deployment hmem)).mpr (by decide)

theorem not_roundTrips_sampleFields (layout : Layout) :
    (sampleFields layout endsWithFive).WellFormed minimalEnvironment bigEndianWriter ∧
      ¬ (sampleFields layout endsWithFive).RoundTrips minimalEnvironment
        (assemble ((sampleFields layout endsWithFive).items bigEndianWriter)) := by
  have hwell : (sampleFields layout endsWithFive).WellFormed minimalEnvironment bigEndianWriter :=
    wellFormed_sampleFields layout (by decide) (by decide)
  have hmem : endsWithFive ∈ [endsWithFive, endsWithSeventeen] := by decide
  have hrecognised := WitnessFields.isRecognised_items_iff readsBack_bigEndianWriter hwell
    (decompile_sample layout hmem)
  refine ⟨hwell, ?_⟩
  rintro ⟨his, -⟩
  have hfive : [5] ∈ (sampleFields layout endsWithFive).pushes := by
    cases layout with
    | interaction | deployment => decide
  cases hrecognised.mp his [5] hfive

/-- Well-formed fields of an interaction and of a deployment, whose scripts are not recognised. -/
theorem not_roundTrips_endsWithFive :
    ((sampleFields .interaction endsWithFive).WellFormed minimalEnvironment bigEndianWriter ∧
      ¬ (sampleFields .interaction endsWithFive).RoundTrips minimalEnvironment
        (assemble ((sampleFields .interaction endsWithFive).items bigEndianWriter))) ∧
    (sampleFields .deployment endsWithFive).WellFormed minimalEnvironment bigEndianWriter ∧
      ¬ (sampleFields .deployment endsWithFive).RoundTrips minimalEnvironment
        (assemble ((sampleFields .deployment endsWithFive).items bigEndianWriter)) :=
  ⟨not_roundTrips_sampleFields .interaction, not_roundTrips_sampleFields .deployment⟩

end Samples

end OpnetNode.WitnessScript
