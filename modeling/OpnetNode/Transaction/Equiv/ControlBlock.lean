import OpnetNode.Transaction.DeploymentTransaction

/-!
# Whose control block is checked

The script and the salt of a deployment come from the input that was recognised, the control block
from the input at position 0.  What is read before the control block depends on the recognised input
alone (`readDeployment_congr`), what follows on the outputs alone.

* `dependsOnOwnInput_iff`: the parse keeps to the recognised input exactly when this is the first
  input, or when it is refused before the control block is looked at.
-/

namespace OpnetNode.DeploymentTransaction

open WitnessScript SharedInteractionParameters

/-- A transaction that was recognised as a deployment, with the input found. -/
structure Recognised (env : DeploymentEnvironment) where
  data : TransactionData
  vInputIndex : ℕ
  recognised : is env.toScriptEnvironment data = some vInputIndex

variable {env : DeploymentEnvironment}

namespace Recognised

def ownControlBlock (d : Recognised env) : Option Bytes :=
  (d.data.vin[d.vInputIndex]?).bind fun input => input.txinwitness.getLast?

/-- Two transactions that differ at most in the witnesses of the other inputs. -/
def SameOwnInput (d d' : Recognised env) : Prop :=
  d'.vInputIndex = d.vInputIndex ∧ d'.data.vout = d.data.vout ∧
    d'.data.vin[d.vInputIndex]? = d.data.vin[d.vInputIndex]? ∧
    d'.data.vin.map VIn.txid = d.data.vin.map VIn.txid

/-- The parse gets to the control block. -/
def ReachesControlBlock (d : Recognised env) : Prop :=
  ∃ deployment, readDeployment env d.data d.vInputIndex = .ok deployment

/-- Acceptance, and the contract address, deployer and bytecode of an accepted deployment. -/
def outcome (d : Recognised env) : Option (Bytes × Bytes × Bytes) :=
  (parseTransaction env d.data d.vInputIndex).toOption.map fun parsed =>
    (parsed.contractAddress, parsed.deployerPubKey, parsed.bytecode)

/-- Whatever the other inputs carry, the control block that is checked is the one of the recognised
input, and the outcome is the same. -/
def DependsOnOwnInput (d : Recognised env) : Prop :=
  ∀ d' : Recognised env, d.SameOwnInput d' →
    (d'.ReachesControlBlock → controlBlock d'.data = .ok d.ownControlBlock) ∧
      d'.outcome = d.outcome

end Recognised

/-! ### What the parse reads -/

variable {data data' : TransactionData} {i : ℕ}

/-- What is read before the control block comes from the input at `vInputIndex`. -/
theorem readDeployment_congr (h : data'.vin[i]? = data.vin[i]?) :
    readDeployment env data' i = readDeployment env data i := by
  unfold readDeployment
  rw [h]

theorem controlBlock_congr (h : data'.vin[0]? = data.vin[0]?) :
    controlBlock data' = controlBlock data := by
  unfold controlBlock
  rw [h]

theorem parseTransaction_congr
    (hinput : data'.vin[i]? = data.vin[i]?) (hfirst : data'.vin[0]? = data.vin[0]?)
    (hvout : data'.vout = data.vout) :
    parseTransaction env data' i = parseTransaction env data i := by
  unfold parseTransaction checkControlBlock
  rw [readDeployment_congr hinput, controlBlock_congr hfirst, hvout]

theorem parseTransaction_of_not_reads
    (h : ∀ deployment, readDeployment env data i ≠ .ok deployment) :
    (parseTransaction env data i).toOption = none := by
  unfold parseTransaction
  cases hread : readDeployment env data i with
  | error message => rfl
  | ok deployment => exact absurd hread (h deployment)

/-! ### Recognition -/

theorem length_txinwitness_of_isCorrectInput {senv : ScriptEnvironment} {typeChecksum : Bytes}
    {input : VIn} (h : isCorrectInput senv typeChecksum input = true) :
    input.txinwitness.length = 5 := by
  unfold isCorrectInput at h
  split at h
  next heq => rw [heq]; rfl
  next => cases h

namespace Recognised

variable (d : Recognised env)

theorem exists_input : ∃ input, d.data.vin[d.vInputIndex]? = some input ∧
    isCorrectInput env.toScriptEnvironment LEGACY_DEPLOYMENT_SCRIPT input = true := by
  have hdetect := d.recognised
  unfold is detect at hdetect
  obtain ⟨hlt, hcorrect, -⟩ := List.findIdx?_eq_some_iff_getElem.mp hdetect
  exact ⟨d.data.vin[d.vInputIndex], List.getElem?_eq_getElem hlt, hcorrect⟩

theorem ownControlBlock_ne_none : d.ownControlBlock ≠ none := by
  obtain ⟨input, hinput, hcorrect⟩ := d.exists_input
  have hlength := length_txinwitness_of_isCorrectInput hcorrect
  unfold ownControlBlock
  rw [hinput, Option.bind_some, Ne, List.getLast?_eq_none_iff]
  intro hnil
  rw [hnil] at hlength
  cases hlength

theorem controlBlock_of_first (h : d.vInputIndex = 0) :
    controlBlock d.data = .ok d.ownControlBlock := by
  obtain ⟨input, hinput, -⟩ := d.exists_input
  rw [h] at hinput
  unfold controlBlock ownControlBlock
  rw [h, hinput]
  rfl

/-- The transaction with other witnesses on an earlier input. -/
def withFirstWitness (witness : List Bytes) (data : TransactionData) : TransactionData :=
  { data with vin := data.vin.modify 0 fun input => { input with txinwitness := witness } }

theorem recognised_withFirstWitness {witness : List Bytes} (hlength : witness.length ≠ 5)
    (h : d.vInputIndex ≠ 0) :
    is env.toScriptEnvironment (withFirstWitness witness d.data) = some d.vInputIndex := by
  have hdetect := d.recognised
  unfold is detect at hdetect ⊢
  unfold withFirstWitness
  cases hvin : d.data.vin with
  | nil =>
    rw [hvin] at hdetect
    cases hdetect
  | cons input vin =>
    have hother : isCorrectInput env.toScriptEnvironment LEGACY_DEPLOYMENT_SCRIPT
        { input with txinwitness := witness } = false := by
      rw [Bool.eq_false_iff]
      intro hcorrect
      exact hlength (length_txinwitness_of_isCorrectInput hcorrect)
    rw [hvin, List.findIdx?_cons] at hdetect
    show List.findIdx? _ ({ input with txinwitness := witness } :: vin) = _
    rw [List.findIdx?_cons, hother]
    by_cases hfirst : isCorrectInput env.toScriptEnvironment LEGACY_DEPLOYMENT_SCRIPT input = true
    · rw [if_pos hfirst] at hdetect
      exact absurd (Option.some.inj hdetect).symm h
    · rwa [if_neg hfirst] at hdetect

/-- The same transaction with another witness on its first input, which is not the recognised one. -/
def replaceFirst (witness : List Bytes) (hlength : witness.length ≠ 5) (h : d.vInputIndex ≠ 0) :
    Recognised env where
  data := withFirstWitness witness d.data
  vInputIndex := d.vInputIndex
  recognised := d.recognised_withFirstWitness hlength h

section ReplaceFirst

variable {witness : List Bytes} {hlength : witness.length ≠ 5} {h : d.vInputIndex ≠ 0}

theorem sameOwnInput_replaceFirst : d.SameOwnInput (d.replaceFirst witness hlength h) := by
  refine ⟨rfl, rfl, ?_, ?_⟩
  · show (d.data.vin.modify 0 _)[d.vInputIndex]? = _
    have hne : ¬ 0 = d.vInputIndex := fun heq => h heq.symm
    rw [List.getElem?_modify]
    simp [hne]
  · show (d.data.vin.modify 0 _).map VIn.txid = _
    cases d.data.vin with
    | nil | cons => rfl

theorem controlBlock_replaceFirst :
    controlBlock (d.replaceFirst witness hlength h).data = .ok witness.getLast? := by
  obtain ⟨input, hinput, -⟩ := d.exists_input
  unfold controlBlock
  show ((d.data.vin.modify 0 _)[0]?).elim _ _ >>= _ = _
  cases hvin : d.data.vin with
  | nil =>
    rw [hvin] at hinput
    simp at hinput
  | cons first vin => rfl

end ReplaceFirst

/-! ### The first input -/

/-- A transaction whose first input is recognised, or that is refused before the control block,
depends on the recognised input and the outputs. -/
theorem dependsOnOwnInput_of (h : d.vInputIndex = 0 ∨ ¬ d.ReachesControlBlock) :
    d.DependsOnOwnInput := by
  rintro d' ⟨hindex, hvout, hinput, -⟩
  have hown : d'.ownControlBlock = d.ownControlBlock := by
    unfold ownControlBlock
    rw [hindex, hinput]
  have hread : readDeployment env d'.data d'.vInputIndex =
      readDeployment env d.data d.vInputIndex := by
    rw [hindex]
    exact readDeployment_congr hinput
  rcases h with hfirst | hstops
  · constructor
    · intro _
      rw [← hown]
      exact d'.controlBlock_of_first (hindex.trans hfirst)
    · have hsame : d'.data.vin[0]? = d.data.vin[0]? := by rw [← hfirst, hinput]
      unfold outcome
      rw [hindex, parseTransaction_congr hinput hsame hvout]
  · have hstops' : ¬ d'.ReachesControlBlock := by
      unfold ReachesControlBlock at hstops ⊢
      rwa [hread]
    constructor
    · intro hreaches
      exact absurd hreaches hstops'
    · unfold outcome
      rw [parseTransaction_of_not_reads (not_exists.mp hstops'),
        parseTransaction_of_not_reads (not_exists.mp hstops)]

/-- Whatever the other inputs carry, the parse keeps to the recognised input, exactly when this is
the first input or is refused before the control block is looked at. -/
theorem dependsOnOwnInput_iff :
    d.DependsOnOwnInput ↔ d.vInputIndex = 0 ∨ ¬ d.ReachesControlBlock := by
  constructor
  · intro hdepends
    by_contra hcontra
    rw [not_or, not_not] at hcontra
    obtain ⟨hindex, deployment, hread⟩ := hcontra
    -- Without a witness on the first input there is no control block to check.
    have hlength : ([] : List Bytes).length ≠ 5 := by decide
    have hsame : d.SameOwnInput (d.replaceFirst [] hlength hindex) := d.sameOwnInput_replaceFirst
    have hreaches : (d.replaceFirst [] hlength hindex).ReachesControlBlock :=
      ⟨deployment, (readDeployment_congr hsame.2.2.1).trans hread⟩
    have hchecked := (hdepends _ hsame).1 hreaches
    rw [controlBlock_replaceFirst] at hchecked
    exact d.ownControlBlock_ne_none (Except.ok.inj hchecked).symm
  · exact d.dependsOnOwnInput_of

end Recognised

/-! ### A deployment on the second input -/

/-- A decompiler for scripts of opcodes and pushes of at most 75 bytes. -/
def decompilePushes : ℕ → Bytes → Option (List ScriptItem)
  | _, [] => some []
  | 0, _ :: _ => none
  | fuel + 1, code :: rest =>
    if 0 < code.toNat ∧ code.toNat ≤ 75 then
      if code.toNat ≤ rest.length then
        (decompilePushes fuel (rest.drop code.toNat)).map (.push (rest.take code.toNat) :: ·)
      else none
    else (decompilePushes fuel rest).map (.opcode code.toNat :: ·)

/-- Take `n` bytes. -/
def takeBytes (n : ℕ) (buffer : Bytes) : Except String (Bytes × Bytes) :=
  if n ≤ buffer.length then .ok (buffer.take n, buffer.drop n) else .error "Out of bounds"

/-- A number of `n` bytes, the most significant first. -/
def takeNumber (n : ℕ) (buffer : Bytes) : Except String (ℕ × Bytes) :=
  (takeBytes n buffer).map fun read => (read.1.foldl (fun k byte => k * 256 + byte.toNat) 0, read.2)

def sampleControlBlock : Bytes := List.replicate 65 0xc0

/-- An environment in which a hash is the front of the text and a contract is named by its
deployer's key. -/
def sampleEnvironment : DeploymentEnvironment where
  decompile script := .ok (decompilePushes script.length script)
  readU8 := takeNumber 1
  readU16 := takeNumber 2
  readU32 := takeNumber 4
  readU64 := takeNumber 8
  readBoolean buffer := (takeNumber 1 buffer).map fun read => (decide (read.1 = 1), read.2)
  readBytes := takeBytes
  readAddress := takeBytes 32
  readBytesWithLength _ buffer := do
    let length ← takeNumber 4 buffer
    takeBytes length.1 length.2
  featureBit
    | .ACCESS_LIST => 1
    | .EPOCH_SUBMISSION => 2
    | .MLDSA_LINK_PUBKEY => 4
  featurePriority
    | .ACCESS_LIST => 1
    | .EPOCH_SUBMISSION => 2
    | .MLDSA_LINK_PUBKEY => 3
  blockHeight := 0
  GRAFFITI_LENGTH_PATCH_BLOCK_HEIGHT := 0
  ENABLE_ACCESS_LIST := false
  ENABLED_LEVELS := [.LEVEL2]
  levelNumber
    | .LEVEL2 => 0
    | .LEVEL3 => 1
    | .LEVEL5 => 2
  unzip := .ok
  hash256 text := (text ++ List.replicate 32 0).take 32
  toXOnly key := key.drop 1
  createPublicKey := .ok
  isValidLegacyPublicKey _ := .ok true
  getContractSeed key _ _ := .ok key
  fromSeedKeyPair seed := .ok (some (2 :: seed))
  verifyPreImage _ _ := .ok none
  verifyControlBlock _ controlBlock := .ok (decide (controlBlock = some sampleControlBlock))
  p2op _ := "p2op"
  decodeP2op _ := .ok (some "p2op")
  allowUnsafeSignatures := true
  generateTimeLockAddress _ := .ok "timelock"
  writeBytesWithLength bytes := bytes

/-- A push of 32 equal bytes. -/
def push32 (byte : UInt8) : Bytes := 32 :: List.replicate 32 byte

/-- A deployment without features and calldata, whose bytecode is one byte. -/
def sampleScript : Bytes :=
  (12 :: 2 :: List.replicate 11 0) ++ [107] ++ push32 1 ++ [107] ++ (20 :: List.replicate 20 4) ++
    [107] ++ push32 5 ++ [118, 170] ++ push32 5 ++ [136, 173] ++ push32 5 ++ [173, 170] ++
    push32 6 ++ [136, 116, 81, 156, 99, 2, 0x6f, 0x70, 0, 79, 1, 0, 103, 81, 104]

/-- The sample deployment on the second input, behind a first input with the given witness. -/
def sampleTransaction (firstWitness : List Bytes) : TransactionData where
  vin :=
    [⟨[1], firstWitness⟩,
      ⟨[2], [List.replicate 32 6, List.replicate 64 0, List.replicate 64 0, sampleScript,
        sampleControlBlock]⟩]
  vout := [⟨1000, [0x60], "witness_unknown", some "p2op"⟩]

theorem recognised_sampleTransaction :
    is sampleEnvironment.toScriptEnvironment (sampleTransaction [sampleControlBlock]) = some 1 ∧
      is sampleEnvironment.toScriptEnvironment (sampleTransaction []) = some 1 := by
  decide +kernel

/-- The sample behind an input that happens to end with the same control block. -/
def sampleAccepted : Recognised sampleEnvironment :=
  ⟨sampleTransaction [sampleControlBlock], 1, recognised_sampleTransaction.1⟩

/-- The sample behind an input without witness. -/
def sampleRefused : Recognised sampleEnvironment :=
  ⟨sampleTransaction [], 1, recognised_sampleTransaction.2⟩

/-- The same deployment is accepted or refused by what the first input carries. -/
theorem not_dependsOnOwnInput_sample : ¬ sampleRefused.DependsOnOwnInput := by
  have haccepted : sampleAccepted.outcome.isSome = true := by decide +kernel
  have hrefused : sampleRefused.outcome = none := by decide +kernel
  intro hdepends
  have hsame : sampleRefused.SameOwnInput sampleAccepted := ⟨rfl, rfl, rfl, rfl⟩
  have houtcome := (hdepends sampleAccepted hsame).2
  rw [houtcome, hrefused] at haccepted
  exact Bool.false_ne_true haccepted

end OpnetNode.DeploymentTransaction
