import OpnetNode.Mempool.RawTransactionData
import OpnetNode.Transaction.Equiv.ControlBlock

/-!
# When the two decodings of a transaction agree

The mempool's record has the hashes of the library as they are: the ids of the outputs that are
spent, and the hash over the witnesses, are in internal byte order, where the RPC shows them
reversed.  The id of the transaction is reversed, and everything else the two records have in common
is the same (`records_agree_iff`).  So the records agree only where each of these hashes is its own
reverse.

The inputs read alike if their scripts are empty as well, since the mempool's record has no text of
them (`new_rawInput_eq_iff`); the outputs, where `scriptToAddress` and the node say the same of a
script (`new_rawOutput_eq_iff`).  The type is the same in any case (`type_agrees`), and the contract
and the fees do not depend on the ids (`settlement_agrees`).  Together they are
`decodingsAgree_iff`.
-/

namespace OpnetNode.RawTransactionData

open TransactionFactory

variable {env : DecoderEnvironment} {node : NodeRpc} {block : BlockData} {tx : BitcoinTransaction}

/-! ### Lists -/

variable {α β : Type}

theorem map_mapIdx_eq_iff {γ : Type} (f g : ℕ → α → β) (read : β → γ) (l : List α) :
    (l.mapIdx f).map read = (l.mapIdx g).map read ↔
      ∀ (i : ℕ) (h : i < l.length), read (f i l[i]) = read (g i l[i]) := by
  have hmap : ∀ f : ℕ → α → β, (l.mapIdx f).map read = l.mapIdx fun i a => read (f i a) := by
    intro f
    apply List.ext_getElem
    · simp
    · intro i _ _
      simp
  rw [hmap, hmap, List.mapIdx_eq_mapIdx_iff]

theorem mapM_eq_of_map_eq {read : α → Except String β} {l l' : List α}
    (h : l.map read = l'.map read) : l.mapM read = l'.mapM read := by
  have hid : ∀ l : List α, l.mapM read = (l.map read).mapM id := by
    intro l
    rw [List.mapM_map]
    rfl
  rw [hid, hid, h]

/-! ### The records -/

theorem txid_agrees (hlibrary : env.library.Documented env.hash256 tx)
    (hnode : node.Documented env.hash256 tx) :
    (toRawTransactionData env tx).txid = (rpcTransactionData env node block tx).txid :=
  hlibrary.getId.trans hnode.txid.symm

theorem hash_agrees_iff (hlibrary : env.library.Documented env.hash256 tx)
    (hnode : node.Documented env.hash256 tx) (hcoinbase : tx.isCoinbase = false) :
    (toRawTransactionData env tx).hash = (rpcTransactionData env node block tx).hash ↔
      (env.library.getHash tx).reverse = env.library.getHash tx := by
  have hhash : env.library.getHash tx = env.hash256 (tx.toBuffer true) := by
    rw [hlibrary.getHash]
    simp [BitcoinTransaction.getHash, hcoinbase]
  show env.library.getHash tx = node.hash tx ↔ _
  rw [hnode.hash, hhash]
  exact eq_comm

theorem outpoints_agree_iff :
    (toRawTransactionData env tx).vin.map (fun vIn => (vIn.txid, vIn.vout)) =
        (rpcTransactionData env node block tx).vin.map (fun vIn => (vIn.txid, vIn.vout)) ↔
      ∀ input ∈ tx.ins, input.hash.reverse = input.hash := by
  show (tx.ins.map rawInput).map _ = (tx.ins.map (rpcInput node)).map _ ↔ _
  rw [List.map_map, List.map_map, List.map_inj_left]
  constructor
  · intro h input hinput
    have hids := h input hinput
    simp only [Function.comp_apply, rawInput, rpcInput, Prod.mk.injEq, Option.some.injEq,
      and_true] at hids
    exact hids.symm
  · intro h input hinput
    simp [rawInput, rpcInput, h input hinput]

theorem txinwitness_rpcInput (node : NodeRpc) (input : BitcoinInput) :
    (rpcInput node input).txinwitness.getD [] = input.witness := by
  unfold rpcInput
  cases hwitness : input.witness with
  | nil | cons => rfl

theorem witnesses_agree :
    (toRawTransactionData env tx).vin.map (fun vIn => vIn.txinwitness.getD []) =
      (rpcTransactionData env node block tx).vin.map (fun vIn => vIn.txinwitness.getD []) := by
  show (tx.ins.map rawInput).map _ = (tx.ins.map (rpcInput node)).map _
  rw [List.map_map, List.map_map]
  apply List.map_congr_left
  intro input _
  exact (txinwitness_rpcInput node input).symm

theorem scripts_agree :
    (toRawTransactionData env tx).vout.map (fun vOut => vOut.scriptPubKey.hex) =
      (rpcTransactionData env node block tx).vout.map (fun vOut => vOut.scriptPubKey.hex) := by
  show (tx.outs.mapIdx _).map _ = (tx.outs.mapIdx _).map _
  rw [map_mapIdx_eq_iff]
  intro i _
  rfl

theorem value_rpcOutput (node : NodeRpc) (hexact : ∀ n : ℕ, n ≤ 2 ^ 53 → env.toNumber n = n) (i : ℕ)
    (output : BitcoinOutput) :
    (rawOutput env i output).value = (rpcOutput env node i output).value := by
  have hlt : output.value ≤ 2 ^ 53 := by
    have h := output.value_le
    unfold MAX_SATOSHI at h
    omega
  show env.toNumber _ = env.toNumber (output.value / 100000000)
  rw [hexact output.value hlt]

theorem values_agree (hexact : ∀ n : ℕ, n ≤ 2 ^ 53 → env.toNumber n = n) :
    (toRawTransactionData env tx).vout.map VOut.value =
      (rpcTransactionData env node block tx).vout.map VOut.value := by
  show (tx.outs.mapIdx _).map _ = (tx.outs.mapIdx _).map _
  rw [map_mapIdx_eq_iff]
  intro i _
  exact value_rpcOutput node hexact i _

theorem sizes_agree (hlibrary : env.library.Documented env.hash256 tx)
    (hnode : node.Documented env.hash256 tx) :
    ((toRawTransactionData env tx).size, (toRawTransactionData env tx).vsize,
        (toRawTransactionData env tx).weight) =
      ((rpcTransactionData env node block tx).size, (rpcTransactionData env node block tx).vsize,
        (rpcTransactionData env node block tx).weight) := by
  have hweight : tx.weight = 3 * (tx.toBuffer false).length + (tx.toBuffer true).length := by
    show (tx.toBuffer false).length * 3 + (tx.toBuffer true).length = _
    omega
  have hvirtual :
      tx.virtualSize = (3 * (tx.toBuffer false).length + (tx.toBuffer true).length + 3) / 4 := by
    unfold BitcoinTransaction.virtualSize
    rw [hweight]
  show (env.library.byteLength tx, env.library.virtualSize tx, env.library.weight tx) =
    (node.size tx, node.vsize tx, node.weight tx)
  rw [hlibrary.byteLength, hlibrary.virtualSize, hlibrary.weight, hnode.size, hnode.vsize,
    hnode.weight, hvirtual, hweight]
  rfl

/-- **The records agree exactly where each hash the mempool leaves unreversed is its own
reverse.** -/
theorem records_agree_iff (hlibrary : env.library.Documented env.hash256 tx)
    (hnode : node.Documented env.hash256 tx) (hcoinbase : tx.isCoinbase = false)
    (hexact : ∀ n : ℕ, n ≤ 2 ^ 53 → env.toNumber n = n) :
    RecordsAgree (toRawTransactionData env tx) (rpcTransactionData env node block tx) ↔
      (∀ input ∈ tx.ins, input.hash.reverse = input.hash) ∧
        (env.library.getHash tx).reverse = env.library.getHash tx := by
  constructor
  · intro h
    exact ⟨outpoints_agree_iff.mp h.outpoints, (hash_agrees_iff hlibrary hnode hcoinbase).mp h.hash⟩
  · intro h
    exact
      { txid := txid_agrees hlibrary hnode
        hash := (hash_agrees_iff hlibrary hnode hcoinbase).mpr h.2
        outpoints := outpoints_agree_iff.mpr h.1
        witnesses := witnesses_agree
        scripts := scripts_agree
        values := values_agree hexact
        sizes := sizes_agree hlibrary hnode }

/-! ### Inputs -/

theorem new_ok {data : VIn} {input : TransactionInput} (h : TransactionInput.new data = .ok input) :
    input.originalTransactionId = data.txid.getD [] ∧ input.scriptSignature = data.scriptSig ∧
      input.transactionInWitness = data.txinwitness.getD [] := by
  unfold TransactionInput.new at h
  cases hkey : decodePubKey data.scriptSig (data.txinwitness.getD []) with
  | error e => simp [hkey, bind, Except.bind] at h
  | ok key =>
    cases hhash : decodePubKeyHash data.scriptSig (data.txinwitness.getD []) with
    | error e => simp [hkey, hhash, bind, Except.bind] at h
    | ok hash =>
      simp only [hkey, hhash, bind, Except.bind, Except.ok.injEq] at h
      rw [← h]
      exact ⟨rfl, rfl, rfl⟩

variable {scriptSignature : Option ScriptSig}

theorem exists_decodePubKey (hpart : secondPart scriptSignature = none) (witness : List Bytes) :
    ∃ key, decodePubKey scriptSignature witness = .ok key := by
  unfold decodePubKey
  rw [hpart]
  by_cases hkey : (secondWitness witness).any isValidPublicKeyBytes
  · exact ⟨_, if_pos hkey⟩
  · exact ⟨_, if_neg hkey⟩

theorem exists_decodePubKeyHash (hpart : secondPart scriptSignature = none) (witness : List Bytes) :
    ∃ hash, decodePubKeyHash scriptSignature witness = .ok hash := by
  unfold decodePubKeyHash
  rw [hpart]
  by_cases hhash : witness.length = 2 ∧ (witness.headD []).length = 20
  · exact ⟨_, if_pos hhash⟩
  · exact ⟨_, if_neg hhash⟩

theorem exists_new_rawInput (input : BitcoinInput) :
    ∃ read, TransactionInput.new (rawInput input) = .ok read := by
  have hpart : secondPart (rawInput input).scriptSig = none := rfl
  obtain ⟨key, hkey⟩ := exists_decodePubKey hpart ((rawInput input).txinwitness.getD [])
  obtain ⟨hash, hhash⟩ := exists_decodePubKeyHash hpart ((rawInput input).txinwitness.getD [])
  unfold TransactionInput.new
  simp only [hkey, hhash, bind, Except.bind]
  exact ⟨_, rfl⟩

variable {input : BitcoinInput}

theorem new_rpcInput (hhash : input.hash.reverse = input.hash) (hasm : node.asm input.script = "") :
    TransactionInput.new (rpcInput node input) = TransactionInput.new (rawInput input) := by
  have hwitness := txinwitness_rpcInput node input
  have hscript : (rpcInput node input).scriptSig = (rawInput input).scriptSig := by
    simp [rpcInput, rawInput, hasm]
  have htxid : (rpcInput node input).txid = (rawInput input).txid := by
    simp [rpcInput, rawInput, hhash]
  unfold TransactionInput.new
  rw [hwitness, hscript, htxid]
  rfl

theorem new_rawInput_eq_iff (hasm : ∀ script, node.asm script = "" ↔ script = []) :
    TransactionInput.new (rawInput input) = TransactionInput.new (rpcInput node input) ↔
      input.hash.reverse = input.hash ∧ input.script = [] := by
  constructor
  · intro h
    obtain ⟨read, hraw⟩ := exists_new_rawInput input
    have hrpc : TransactionInput.new (rpcInput node input) = .ok read := by rw [← h, hraw]
    obtain ⟨hrawId, hrawScript, _⟩ := new_ok hraw
    obtain ⟨hrpcId, hrpcScript, _⟩ := new_ok hrpc
    have hid : input.hash = input.hash.reverse := hrawId.symm.trans hrpcId
    have htext : (some ⟨"", input.script⟩ : Option ScriptSig) =
        some ⟨node.asm input.script, input.script⟩ := hrawScript.symm.trans hrpcScript
    have hempty : node.asm input.script = "" := by
      simp only [Option.some.injEq, ScriptSig.mk.injEq, and_true] at htext
      exact htext.symm
    exact ⟨hid.symm, (hasm _).mp hempty⟩
  · intro h
    exact (new_rpcInput h.1 ((hasm _).mpr h.2)).symm

theorem inputs_agree_iff (env : DecoderEnvironment) (block : BlockData)
    (hasm : ∀ script, node.asm script = "" ↔ script = []) :
    (toRawTransactionData env tx).vin.map TransactionInput.new =
        (rpcTransactionData env node block tx).vin.map TransactionInput.new ↔
      ∀ input ∈ tx.ins, input.hash.reverse = input.hash ∧ input.script = [] := by
  show (tx.ins.map rawInput).map _ = (tx.ins.map (rpcInput node)).map _ ↔ _
  rw [List.map_map, List.map_map, List.map_inj_left]
  constructor
  · intro h input hinput
    exact (new_rawInput_eq_iff hasm).mp (h input hinput)
  · intro h input hinput
    exact (new_rawInput_eq_iff hasm).mpr (h input hinput)

/-! ### Outputs -/

theorem soleAddress_rawOutput (env : DecoderEnvironment) (i : ℕ) (output : BitcoinOutput) :
    (rawOutput env i output).scriptPubKey.soleAddress =
      (scriptToAddress env output.script).address.filter fun text => text ≠ "" := by
  have haddresses : (rawOutput env i output).scriptPubKey.addresses = none := rfl
  have haddress : (rawOutput env i output).scriptPubKey.address =
      (scriptToAddress env output.script).address := rfl
  unfold ScriptPubKey.soleAddress
  rw [haddresses, haddress]
  cases (scriptToAddress env output.script).address.filter fun text => text ≠ "" with
  | none | some => rfl

theorem new_rawOutput_eq_iff (hexact : ∀ n : ℕ, n ≤ 2 ^ 53 → env.toNumber n = n) (i : ℕ)
    (output : BitcoinOutput) :
    TransactionOutput.new env.toParserEnvironment (rawOutput env i output) =
        TransactionOutput.new env.toParserEnvironment (rpcOutput env node i output) ↔
      ∀ script, env.decompile output.script = .ok script → SameAddress env node output.script := by
  have hvalue := value_rpcOutput node hexact i output
  have hsole := soleAddress_rawOutput env i output
  unfold TransactionOutput.new
  rw [hvalue, hsole]
  show (do let decompiled ← env.decompile output.script; _) =
    (do let decompiled ← env.decompile output.script; _) ↔ _
  cases hscript : env.decompile output.script with
  | error e =>
    constructor
    · intro _ script h
      exact absurd h (by simp)
    · intro _
      rfl
  | ok decompiled =>
    simp only [bind, Except.bind, Except.ok.injEq, TransactionOutput.mk.injEq,
      ScriptPubKey.mk.injEq, true_and, and_true]
    constructor
    · rintro ⟨_, _, haddress, haddresses, htype⟩ _ _
      exact ⟨htype, haddress, haddresses.symm⟩
    · intro h
      have hsame := h decompiled rfl
      exact ⟨rfl, rfl, hsame.address, hsame.addresses.symm, hsame.type⟩

theorem outputs_agree_iff (block : BlockData)
    (hexact : ∀ n : ℕ, n ≤ 2 ^ 53 → env.toNumber n = n) :
    (toRawTransactionData env tx).vout.map (TransactionOutput.new env.toParserEnvironment) =
        (rpcTransactionData env node block tx).vout.map
          (TransactionOutput.new env.toParserEnvironment) ↔
      ∀ output ∈ tx.outs, ∀ script, env.decompile output.script = .ok script →
        SameAddress env node output.script := by
  show (tx.outs.mapIdx _).map _ = (tx.outs.mapIdx _).map _ ↔ _
  rw [map_mapIdx_eq_iff]
  constructor
  · intro h output houtput
    obtain ⟨i, hi, rfl⟩ := List.getElem_of_mem houtput
    exact (new_rawOutput_eq_iff hexact i _).mp (h i hi)
  · intro h i hi
    exact (new_rawOutput_eq_iff hexact i _).mpr (h _ (List.getElem_mem hi))

/-! ### The type -/

theorem isCorrectInput_congr (scripts : WitnessScript.ScriptEnvironment) (typeChecksum : Bytes)
    {vIn vIn' : WitnessScript.VIn} (h : vIn.txinwitness = vIn'.txinwitness) :
    WitnessScript.isCorrectInput scripts typeChecksum vIn =
      WitnessScript.isCorrectInput scripts typeChecksum vIn' := by
  unfold WitnessScript.isCorrectInput
  rw [h]

theorem detect_agrees (node : NodeRpc) (scripts : WitnessScript.ScriptEnvironment)
    (typeChecksum : Bytes) (ins : List BitcoinInput) :
    WitnessScript.detect scripts typeChecksum ((ins.map rawInput).map VIn.witnesses) =
      WitnessScript.detect scripts typeChecksum ((ins.map (rpcInput node)).map VIn.witnesses) := by
  unfold WitnessScript.detect
  rw [List.map_map, List.map_map, List.findIdx?_map, List.findIdx?_map]
  congr 1
  funext input
  exact isCorrectInput_congr scripts typeChecksum (txinwitness_rpcInput node input).symm

/-- **The mempool and the indexer give a transaction the same type.** -/
theorem type_agrees (node : NodeRpc) (block : BlockData)
    (scripts : WitnessScript.ScriptEnvironment) :
    getTransactionType scripts (toRawTransactionData env tx) =
      getTransactionType scripts (rpcTransactionData env node block tx) := by
  unfold getTransactionType InteractionTransaction.is DeploymentTransaction.is
  show _ = (if tx.version ≠ 2 then _ else _)
  have hdetect := fun typeChecksum =>
    detect_agrees node scripts typeChecksum tx.ins
  simp only [toRawTransactionData, rpcTransactionData, hdetect]

/-! ### The transaction -/

theorem parseTransaction_raw :
    parseTransaction env.toParserEnvironment (toRawTransactionData env tx) EMPTY_BLOCK_HASH =
      (do
        let inputs ← (toRawTransactionData env tx).vin.mapM TransactionInput.new
        let outputs ← (toRawTransactionData env tx).vout.mapM
          (TransactionOutput.new env.toParserEnvironment)
        parseByType env.toParserEnvironment
          (getTransactionType env.toScriptEnvironment (toRawTransactionData env tx)) inputs
          outputs) := by
  have hnone : ((toRawTransactionData env tx).blockhash.filter fun hash =>
      hash ≠ "" ∧ hash ≠ EMPTY_BLOCK_HASH) = none := by
    simp [toRawTransactionData]
  unfold parseTransaction
  simp only [hnone]

theorem parseTransaction_rpc :
    parseTransaction env.toParserEnvironment (rpcTransactionData env node block tx) block.hash =
      (do
        let inputs ← (rpcTransactionData env node block tx).vin.mapM TransactionInput.new
        let outputs ← (rpcTransactionData env node block tx).vout.mapM
          (TransactionOutput.new env.toParserEnvironment)
        parseByType env.toParserEnvironment
          (getTransactionType env.toScriptEnvironment (rpcTransactionData env node block tx))
          inputs outputs) := by
  have hnone : ((rpcTransactionData env node block tx).blockhash.filter fun hash =>
      hash ≠ "" ∧ hash ≠ block.hash) = none := by
    rw [Option.filter_eq_none_iff]
    intro text htext
    have heq : text = block.hash := block.reported_eq text htext
    simp [heq]
  unfold parseTransaction
  simp only [hnone]

theorem parseTransaction_agrees
    (hinputs : (toRawTransactionData env tx).vin.map TransactionInput.new =
      (rpcTransactionData env node block tx).vin.map TransactionInput.new)
    (houtputs : (toRawTransactionData env tx).vout.map
        (TransactionOutput.new env.toParserEnvironment) =
      (rpcTransactionData env node block tx).vout.map
        (TransactionOutput.new env.toParserEnvironment)) :
    parseTransaction env.toParserEnvironment (toRawTransactionData env tx) EMPTY_BLOCK_HASH =
      parseTransaction env.toParserEnvironment (rpcTransactionData env node block tx)
        block.hash := by
  rw [parseTransaction_raw, parseTransaction_rpc, mapM_eq_of_map_eq hinputs,
    mapM_eq_of_map_eq houtputs, type_agrees node block]

theorem parses_agree_iff (hexact : ∀ n : ℕ, n ≤ 2 ^ 53 → env.toNumber n = n)
    (hasm : ∀ script, node.asm script = "" ↔ script = []) :
    ParsesAgree env block (toRawTransactionData env tx) (rpcTransactionData env node block tx) ↔
      (∀ input ∈ tx.ins, input.hash.reverse = input.hash ∧ input.script = []) ∧
        ∀ output ∈ tx.outs, ∀ script, env.decompile output.script = .ok script →
          SameAddress env node output.script := by
  constructor
  · intro h
    exact ⟨(inputs_agree_iff env block hasm).mp h.inputs,
      (outputs_agree_iff block hexact).mp h.outputs⟩
  · intro h
    have hinputs := (inputs_agree_iff env block hasm).mpr h.1
    have houtputs := (outputs_agree_iff block hexact).mpr h.2
    exact
      { inputs := hinputs
        outputs := houtputs
        type := type_agrees node block env.toScriptEnvironment
        transaction := parseTransaction_agrees hinputs houtputs }

/-- **The two decodings of a transaction agree exactly where each hash the mempool leaves unreversed
is its own reverse, no input has a script, and the node says the same of each output's script.** -/
theorem decodingsAgree_iff (hlibrary : env.library.Documented env.hash256 tx)
    (hnode : node.Documented env.hash256 tx) (hcoinbase : tx.isCoinbase = false)
    (hexact : ∀ n : ℕ, n ≤ 2 ^ 53 → env.toNumber n = n)
    (hasm : ∀ script, node.asm script = "" ↔ script = []) :
    DecodingsAgree env node block tx ↔
      (∀ input ∈ tx.ins, input.hash.reverse = input.hash ∧ input.script = []) ∧
        (env.library.getHash tx).reverse = env.library.getHash tx ∧
        ∀ output ∈ tx.outs, ∀ script, env.decompile output.script = .ok script →
          SameAddress env node output.script := by
  unfold DecodingsAgree
  rw [records_agree_iff hlibrary hnode hcoinbase hexact, parses_agree_iff hexact hasm]
  constructor
  · intro h
    exact ⟨h.2.1, h.1.2, h.2.2⟩
  · intro h
    exact ⟨⟨fun input hinput => (h.1 input hinput).1, h.2.1⟩, h.1, h.2.2⟩

/-! ### The contract and the fees -/

/-- Two transactions carry the same scripts, and the same inputs have ids. -/
structure SameScripts (data data' : DeploymentTransaction.TransactionData) : Prop where
  vin : data.vin.map (fun vIn => (vIn.txid.length, vIn.txinwitness)) =
    data'.vin.map fun vIn => (vIn.txid.length, vIn.txinwitness)
  vout : data.vout = data'.vout

namespace SameScripts

variable {data data' : DeploymentTransaction.TransactionData}

theorem getElem? (h : SameScripts data data') (i : ℕ) :
    (data.vin[i]? = none ∧ data'.vin[i]? = none) ∨
      ∃ vIn vIn', data.vin[i]? = some vIn ∧ data'.vin[i]? = some vIn' ∧
        vIn.txid.length = vIn'.txid.length ∧ vIn.txinwitness = vIn'.txinwitness := by
  have hi := congrArg (fun l => l[i]?) h.vin
  simp only [List.getElem?_map] at hi
  cases hvIn : data.vin[i]? with
  | none =>
    cases hvIn' : data'.vin[i]? with
    | none => exact Or.inl ⟨rfl, rfl⟩
    | some vIn' => simp [hvIn, hvIn'] at hi
  | some vIn =>
    cases hvIn' : data'.vin[i]? with
    | none => simp [hvIn, hvIn'] at hi
    | some vIn' =>
      simp only [hvIn, hvIn', Option.map_some, Option.some.injEq, Prod.mk.injEq] at hi
      exact Or.inr ⟨vIn, vIn', rfl, rfl, hi.1, hi.2⟩

theorem parseTransactionData (h : SameScripts data data')
    (env : InteractionTransaction.InteractionEnvironment) (i : ℕ) :
    InteractionTransaction.parseTransactionData env data i =
      InteractionTransaction.parseTransactionData env data' i := by
  unfold InteractionTransaction.parseTransactionData
  rw [h.vout]
  obtain ⟨hvIn, hvIn'⟩ | ⟨vIn, vIn', hvIn, hvIn', _, hwitness⟩ := h.getElem? i
  · rw [hvIn, hvIn']
  · rw [hvIn, hvIn']
    simp only [Option.elim, bind, Except.bind, hwitness]

theorem readDeployment (h : SameScripts data data')
    (env : DeploymentTransaction.DeploymentEnvironment) (i : ℕ) :
    DeploymentTransaction.readDeployment env data i =
      DeploymentTransaction.readDeployment env data' i := by
  unfold DeploymentTransaction.readDeployment
  obtain ⟨hvIn, hvIn'⟩ | ⟨vIn, vIn', hvIn, hvIn', hlength, hwitness⟩ := h.getElem? i
  · rw [hvIn, hvIn']
  · rw [hvIn, hvIn']
    simp only [Option.elim, bind, Except.bind, hwitness, hlength]

theorem controlBlock (h : SameScripts data data') :
    DeploymentTransaction.controlBlock data = DeploymentTransaction.controlBlock data' := by
  unfold DeploymentTransaction.controlBlock
  obtain ⟨hvIn, hvIn'⟩ | ⟨vIn, vIn', hvIn, hvIn', _, hwitness⟩ := h.getElem? 0
  · rw [hvIn, hvIn']
  · rw [hvIn, hvIn']
    simp only [Option.elim, bind, Except.bind, hwitness]

theorem parseTransaction (h : SameScripts data data')
    (env : DeploymentTransaction.DeploymentEnvironment) (i : ℕ) :
    DeploymentTransaction.parseTransaction env data i =
      DeploymentTransaction.parseTransaction env data' i := by
  unfold DeploymentTransaction.parseTransaction DeploymentTransaction.checkControlBlock
  rw [h.readDeployment, h.controlBlock, h.vout]

end SameScripts
/-- The type of a transaction, the contract it deploys or calls, and its fees. -/
def settlement (transaction : ParsedTransaction) :
    OPNetTransactionTypes × Option Bytes × ℕ × ℕ × ℕ × ℕ :=
  (transaction.transactionType, transaction.contractAddress, transaction.burnedFee,
    transaction.reward, transaction.priorityFee, transaction.gasSatFee)

theorem settlement_parseByType (parser : ParserEnvironment)
    (transactionType : OPNetTransactionTypes × ℕ) {inputs inputs' : List TransactionInput}
    (outputs : List TransactionOutput)
    (h : SameScripts (scriptData inputs outputs) (scriptData inputs' outputs)) :
    (parseByType parser transactionType inputs outputs).map settlement =
      (parseByType parser transactionType inputs' outputs).map settlement := by
  obtain ⟨type, i⟩ := transactionType
  cases type with
  | Generic => rfl
  | Interaction =>
    unfold parseByType
    simp only [h.parseTransactionData]
    cases InteractionTransaction.parseTransactionData parser.toInteractionEnvironment
      (scriptData inputs' outputs) i with
    | error e => rfl
    | ok interaction => rfl
  | Deployment =>
    unfold parseByType
    simp only [h.parseTransaction]
    cases DeploymentTransaction.parseTransaction parser.toDeploymentEnvironment
      (scriptData inputs' outputs) i with
    | error e => rfl
    | ok deployment => rfl

theorem mapM_of_forall_ok {α β : Type} {read : α → Except String β} {g : α → β} {l : List α}
    (h : ∀ a ∈ l, read a = .ok (g a)) : l.mapM read = .ok (l.map g) := by
  induction l with
  | nil => rfl
  | cons a l ih =>
    have htail : l.mapM read = .ok (l.map g) := ih fun b hb => h b (List.mem_cons_of_mem a hb)
    rw [List.mapM_cons, h a List.mem_cons_self, htail]
    rfl

/-- **The unreversed ids leave the contract and the fees as they are**: where the outputs read alike
and the inputs of the block's record read at all, the two parses give the same, or both throw. -/
theorem settlement_agrees (hexact : ∀ n : ℕ, n ≤ 2 ^ 53 → env.toNumber n = n)
    (hread : ∀ input ∈ tx.ins, ∃ read, TransactionInput.new (rpcInput node input) = .ok read)
    (houtputs : ∀ output ∈ tx.outs, ∀ script, env.decompile output.script = .ok script →
      SameAddress env node output.script) :
    (parseTransaction env.toParserEnvironment (toRawTransactionData env tx)
        EMPTY_BLOCK_HASH).map settlement =
      (parseTransaction env.toParserEnvironment (rpcTransactionData env node block tx)
        block.hash).map settlement := by
  choose readRaw hraw using exists_new_rawInput
  choose! readRpc hrpc using hread
  have hrawInputs : (toRawTransactionData env tx).vin.mapM TransactionInput.new =
      .ok (tx.ins.map readRaw) := by
    show (tx.ins.map rawInput).mapM TransactionInput.new = _
    rw [List.mapM_map]
    exact mapM_of_forall_ok fun input _ => hraw input
  have hrpcInputs : (rpcTransactionData env node block tx).vin.mapM TransactionInput.new =
      .ok (tx.ins.map readRpc) := by
    show (tx.ins.map (rpcInput node)).mapM TransactionInput.new = _
    rw [List.mapM_map]
    exact mapM_of_forall_ok hrpc
  -- the scripts read the ids and witnesses of the inputs, and the ids are the reversed ones
  have hsame : ∀ outputs,
      SameScripts (scriptData (tx.ins.map readRaw) outputs)
        (scriptData (tx.ins.map readRpc) outputs) := by
    intro outputs
    refine ⟨?_, rfl⟩
    simp only [scriptData, List.map_map]
    apply List.map_congr_left
    intro input hinput
    obtain ⟨hrawId, -, hrawWitness⟩ := new_ok (hraw input)
    obtain ⟨hrpcId, -, hrpcWitness⟩ := new_ok (hrpc input hinput)
    have hid : (readRaw input).originalTransactionId = input.hash := hrawId
    have hid' : (readRpc input).originalTransactionId = input.hash.reverse := hrpcId
    have hwitness : (readRaw input).transactionInWitness = input.witness := hrawWitness
    have hwitness' : (readRpc input).transactionInWitness = input.witness :=
      hrpcWitness.trans (txinwitness_rpcInput node input)
    simp [hid, hid', hwitness, hwitness']
  have houts := (outputs_agree_iff block hexact).mpr houtputs
  rw [parseTransaction_raw, parseTransaction_rpc, hrawInputs, hrpcInputs,
    mapM_eq_of_map_eq houts, type_agrees node block]
  simp only [bind, Except.bind]
  cases (rpcTransactionData env node block tx).vout.mapM
    (TransactionOutput.new env.toParserEnvironment) with
  | error e => rfl
  | ok outputs => exact settlement_parseByType _ _ outputs (hsame outputs)

/-! ### Three transactions -/

/-- Spends the first output of a transaction, by a witness, and creates one output of half a coin
that only carries the text "op". -/
def spendingTransaction (hash : Bytes) (witness : List Bytes) : BitcoinTransaction where
  version := 2
  ins := [{ hash, index := 0, script := [], sequence := 0xffffffff, witness }]
  outs := [{ value := 50000000, script := [0x6a, 0x02, 0x6f, 0x70], value_le := by decide }]
  locktime := 0

/-- A transaction whose input has the hash 01 02 .. 20. -/
def countedHash : BitcoinTransaction :=
  spendingTransaction ((List.range 32).map fun i => UInt8.ofNat (i + 1)) [[0x51]]

/-- A transaction whose input has the hash 11 11 .. 11. -/
def palindromicHash : BitcoinTransaction := spendingTransaction (List.replicate 32 0x11) [[0x51]]

/-- The double SHA-256 of the two transactions, with and without their witnesses. -/
def sampleHash256 (bytes : Bytes) : Bytes :=
  if bytes = countedHash.toBuffer true then
    [152, 22, 93, 30, 32, 203, 9, 173, 69, 19, 226, 171, 177, 35, 132, 101, 131, 73, 241, 84, 193,
      215, 38, 51, 110, 116, 136, 87, 229, 61, 15, 204]
  else if bytes = countedHash.toBuffer false then
    [162, 235, 231, 110, 149, 129, 179, 70, 42, 55, 218, 68, 130, 116, 237, 63, 61, 166, 13, 166,
      117, 191, 32, 60, 155, 82, 129, 67, 78, 223, 194, 213]
  else if bytes = palindromicHash.toBuffer true then
    [213, 33, 219, 169, 241, 191, 155, 225, 9, 16, 199, 25, 116, 158, 33, 219, 254, 68, 250, 243,
      65, 76, 91, 67, 113, 101, 245, 45, 151, 82, 233, 24]
  else
    [94, 8, 171, 48, 156, 115, 29, 174, 80, 31, 221, 224, 110, 83, 108, 26, 65, 148, 69, 231, 113,
      80, 22, 28, 230, 25, 206, 28, 178, 237, 216, 224]

/-- The packages on the two transactions; their amounts are exact, and their output has no
address. -/
def sampleDecoder : DecoderEnvironment where
  toParserEnvironment :=
    { toInteractionEnvironment :=
        { toDeploymentEnvironment :=
            { DeploymentTransaction.sampleEnvironment with
              hash256 := sampleHash256 }
          hash160 := fun bytes => bytes.take 20
          isValidPublicKey := fun _ => true
          newAddress := .ok }
      toText := id }
  library :=
    { toBuffer := fun tx => tx.toBuffer true
      getHash := fun tx => tx.getHash sampleHash256 true
      getId := fun tx => tx.getId sampleHash256
      byteLength := BitcoinTransaction.byteLength
      virtualSize := BitcoinTransaction.virtualSize
      weight := BitcoinTransaction.weight }
  p2pkh := fun _ => none
  p2sh := fun _ => none
  p2wpkh := fun _ => none
  p2wsh := fun _ => none
  p2tr := fun _ => none
  toFutureOPNetAddress := fun _ => none
  toFutureSegwitAddress := fun _ => none
  toNumber := id

open DeploymentTransaction in
/-- An interaction without features, whose calldata is one byte. -/
def interactionScript : Bytes :=
  (12 :: 2 :: List.replicate 11 0) ++ [107] ++ push32 1 ++ [107] ++ (20 :: List.replicate 20 4) ++
    [107] ++ push32 5 ++ [118, 170] ++ (32 :: sampleHash256 (List.replicate 32 5)) ++ [136, 173] ++
    push32 5 ++ [173, 169] ++ (20 :: List.replicate 20 6) ++
    [136, 116, 81, 156, 99, 2, 0x6f, 0x70, 79, 1, 32, 103, 81, 104]

/-- The witness of a call of the contract 06 06 .. 06. -/
def interactionWitness : List Bytes :=
  [List.replicate 32 6, List.replicate 64 0, List.replicate 64 0, interactionScript,
    DeploymentTransaction.sampleControlBlock]

def interaction : BitcoinTransaction :=
  spendingTransaction (List.replicate 32 1) interactionWitness

def sampleNode : NodeRpc where
  txid tx := (sampleHash256 (tx.toBuffer false)).reverse
  hash tx := (sampleHash256 (tx.toBuffer true)).reverse
  hex tx := tx.toBuffer true
  size tx := (tx.toBuffer true).length
  vsize tx := (3 * (tx.toBuffer false).length + (tx.toBuffer true).length + 3) / 4
  weight tx := 3 * (tx.toBuffer false).length + (tx.toBuffer true).length
  asm script := if script.isEmpty then "" else "OP_UNKNOWN"
  address := fun _ => none
  addresses := fun _ => none
  type := fun _ => "nulldata"

def sampleBlock : BlockData where
  hash := toHex (List.replicate 32 0xab)
  reported := none
  reported_eq := by simp
  confirmations := 1
  time := 1700000000

theorem asm_sampleNode (script : Bytes) : sampleNode.asm script = "" ↔ script = [] := by
  cases script with
  | nil | cons => simp [sampleNode]

/-- The type and the fees of a transaction are the same though the input has another id, and those of
an interaction are. -/
theorem settlement_countedHash :
    (parseTransaction sampleDecoder.toParserEnvironment (toRawTransactionData sampleDecoder countedHash)
        EMPTY_BLOCK_HASH).map settlement =
      (parseTransaction sampleDecoder.toParserEnvironment
        (rpcTransactionData sampleDecoder sampleNode sampleBlock countedHash)
        sampleBlock.hash).map settlement ∧
    (parseTransaction sampleDecoder.toParserEnvironment
        (rpcTransactionData sampleDecoder sampleNode sampleBlock interaction)
        sampleBlock.hash).map settlement =
      .ok (.Interaction, some (List.replicate 32 6), 0, 0, 0, 0) := by
  have hagrees (hash : Bytes) (witness : List Bytes)
      (hread : ∀ input ∈ (spendingTransaction hash witness).ins, ∃ read,
        TransactionInput.new (rpcInput sampleNode input) = .ok read) :
      (parseTransaction sampleDecoder.toParserEnvironment
          (toRawTransactionData sampleDecoder (spendingTransaction hash witness))
          EMPTY_BLOCK_HASH).map settlement =
        (parseTransaction sampleDecoder.toParserEnvironment
          (rpcTransactionData sampleDecoder sampleNode sampleBlock (spendingTransaction hash witness))
          sampleBlock.hash).map settlement := by
    refine settlement_agrees (fun _ _ => rfl) hread ?_
    intro output houtput script _
    obtain rfl := List.mem_singleton.mp houtput
    exact ⟨by decide, by decide, rfl⟩
  have hinteraction := hagrees (List.replicate 32 1) interactionWitness
    (List.forall_mem_singleton.mpr ⟨_, rfl⟩)
  exact ⟨hagrees _ [[0x51]] (List.forall_mem_singleton.mpr ⟨_, rfl⟩),
    hinteraction.symm.trans (by decide +kernel)⟩

/-- The witness hash alone makes the records differ. -/
theorem not_decodingsAgree_palindromicHash :
    ¬ DecodingsAgree sampleDecoder sampleNode sampleBlock palindromicHash := by
  have hcoinbase : palindromicHash.isCoinbase = false := by decide
  have hhash : (sampleDecoder.library.getHash palindromicHash).reverse ≠
      sampleDecoder.library.getHash palindromicHash := by decide
  intro h
  exact hhash ((decodingsAgree_iff ⟨rfl, rfl, rfl, rfl, rfl⟩ ⟨rfl, rfl, rfl, rfl, rfl⟩ hcoinbase
    (fun _ _ => rfl) asm_sampleNode).mp h).2.1

/-- The outputs that are spent have other ids in the two records. -/
theorem not_decodingsAgree_countedHash :
    ¬ DecodingsAgree sampleDecoder sampleNode sampleBlock countedHash := by
  have hhash : ¬ ∀ input ∈ countedHash.ins, input.hash.reverse = input.hash := by decide
  intro h
  exact hhash (outpoints_agree_iff.mp h.1.outpoints)

end OpnetNode.RawTransactionData
