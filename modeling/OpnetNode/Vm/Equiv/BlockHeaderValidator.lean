import OpnetNode.Transition
import OpnetNode.Vm.BlockHeaderValidator
import Mathlib.Logic.Equiv.Multiset

/-!
# Header checksums: what is signed is accepted, and what is accepted was signed

`validateBlockChecksum_eq_true_iff` says what it takes for a header to be accepted.  A signed
header meets it (`validateBlockChecksum_signBlock`), because the prover lists its proofs by the
position of the leaf and the position is the index the verifier asks for.  In the other direction
every accepted field is a leaf of the tree (`fieldBytes_of_accepted`), and the index byte at
its head says which.  This needs the tree to have one leaf for each index: a tree built by other
means can hold two.
-/

namespace OpnetNode

open ChecksumMerkle BlockHeaderValidator

/-! ### Running a check over a list -/

/-- All results of a throwing check are `true` exactly when every call returns `true`. -/
theorem mapM_all_eq_true_iff {ε α : Type} (f : α → Except ε Bool) (l : List α) :
    (∃ results, l.mapM f = .ok results ∧ results.all id = true) ↔ ∀ x ∈ l, f x = .ok true := by
  induction l with
  | nil => simp [pure, Except.pure]
  | cons x l ih =>
    rw [List.mapM_cons, List.forall_mem_cons, ← ih]
    constructor
    · rintro ⟨results, hrun, hall⟩
      obtain ⟨b, hb, hrun⟩ := exceptBind_eq_ok hrun
      obtain ⟨rest, hrest, hpure⟩ := exceptBind_eq_ok hrun
      obtain rfl : b :: rest = results := Except.ok.inj hpure
      rw [List.all_cons, Bool.and_eq_true, id] at hall
      exact ⟨hall.1 ▸ hb, rest, hrest, hall.2⟩
    · rintro ⟨hx, rest, hrest, hall⟩
      refine ⟨true :: rest, ?_, by simpa using hall⟩
      rw [hx, hrest]
      rfl

theorem mapM_eq_some {α β : Type} {f : α → Option β} {g : α → β} {l : List α}
    (h : ∀ x ∈ l, f x = some (g x)) : l.mapM f = some (l.map g) := by
  induction l with
  | nil => rfl
  | cons x l ih =>
    rw [List.forall_mem_cons] at h
    rw [List.mapM_cons, h.1, ih h.2]
    rfl

variable {T : RustMerkleTree} {codec : HexCodec T}

/-! ### What is accepted -/

/-- A header is accepted exactly when its data is present, its previous checksum is the one of the
header below, and each of its fields verifies under the proof listed for its index. -/
theorem validateBlockChecksum_eq_true_iff (v : BlockHeaderValidator T)
    (header : StoredBlockHeader T) :
    validateBlockChecksum codec v header = .ok true ↔
      ∃ data previous, checkedData header = .ok data ∧
        v.getPreviousBlockChecksumOfHeight data.height = .ok previous ∧ previous ≠ [] ∧
        header.previousBlockChecksum = some previous ∧
        ∀ value ∈ checkedValues codec header data previous,
          verifyField (codec.rootFromHex data.checksumRoot) data.proofs value = .ok true := by
  constructor
  · intro h
    obtain ⟨data, hdata, h⟩ := exceptBind_eq_ok h
    obtain ⟨previous, hprevious, h⟩ := exceptBind_eq_ok h
    refine ⟨data, previous, hdata, hprevious, ?_⟩
    by_cases hempty : previous = []
    · simp [hempty, throw, throwThe, MonadExceptOf.throw, bind, Except.bind] at h
    · simp only [hempty, ↓reduceIte] at h
      by_cases hsame : header.previousBlockChecksum = some previous
      · simp only [hsame, ne_eq, not_true_eq_false, ↓reduceIte] at h
        obtain ⟨results, hrun, hall⟩ := exceptBind_eq_ok h
        refine ⟨hempty, hsame, ?_⟩
        exact (mapM_all_eq_true_iff _ _).mp ⟨results, hrun, Except.ok.inj hall⟩
      · simp [hsame, pure, Except.pure] at h
  · rintro ⟨data, previous, hdata, hprevious, hempty, hsame, hfields⟩
    obtain ⟨results, hrun, hall⟩ := (mapM_all_eq_true_iff _ _).mpr hfields
    unfold validateBlockChecksum
    simp only [hdata, hprevious, hempty, hsame, hrun, bind, Except.bind, pure, Except.pure,
      ↓reduceIte, ne_eq, not_true_eq_false, hall]

/-! ### Completeness -/

theorem getProofs_spec (hT : T.ProvesOwnLeaves) {leaves : List Bytes}
    (hlen : 2 ≤ leaves.length) :
    ∃ r proofs, T.root leaves = some r ∧ getProofs T leaves = some proofs ∧
      ∀ (i : Nat) (d : Bytes), leaves[i]? = some d →
        ∃ π, getProofForIndex proofs i = .ok π ∧ T.verify π r (T.hash d) = true := by
  obtain ⟨d₀, hd₀⟩ : ∃ d, leaves[0]? = some d := by
    rw [List.getElem?_eq_getElem (by omega)]
    exact ⟨_, rfl⟩
  obtain ⟨r, -, hroot, -⟩ := hT.verify_getProof leaves 0 d₀ hlen hd₀
  -- The proof that the loop of `getProofs` finds at each position.
  have hentry : ∀ i : Nat, ∃ π, ∀ d, leaves[i]? = some d →
      ((T.getIndexHash leaves (T.hash d)).bind fun j => T.getProof leaves j) = some π ∧
        T.verify π r (T.hash d) = true := by
    intro i
    cases hi : leaves[i]? with
    | none => exact ⟨[], fun d hd => nomatch hd⟩
    | some d =>
      obtain ⟨j, hj, d', hd', hhash⟩ := hT.getIndexHash_eq leaves i d hi
      obtain ⟨r', π, hroot', hproof, hverify⟩ := hT.verify_getProof leaves j d' hlen hd'
      obtain rfl : r = r' := Option.some.inj (hroot.symm.trans hroot')
      refine ⟨π, fun d'' hd'' => ?_⟩
      obtain rfl : d = d'' := Option.some.inj hd''
      rw [hj, Option.bind_some, hhash] at *
      exact ⟨hproof, hverify⟩
  choose proofAt hproofAt using hentry
  have hproofs : getProofs T leaves =
      some ((T.hashes leaves).zipIdx.map fun entry => (entry.2, proofAt entry.2)) := by
    apply mapM_eq_some
    rintro ⟨h, i⟩ hmem
    have hhash : (T.hashes leaves)[i]? = some h := by
      simpa using List.mem_zipIdx_iff_getElem?.mp hmem
    rw [hT.hashes_eq, List.getElem?_map, Option.map_eq_some_iff] at hhash
    obtain ⟨d, hd, rfl⟩ := hhash
    have hfound := (hproofAt i d hd).1
    obtain ⟨j, hj, hπ⟩ := Option.bind_eq_some_iff.mp hfound
    simp [hj, hπ]
  refine ⟨r, _, hroot, hproofs, ?_⟩
  intro i d hd
  refine ⟨proofAt i, ?_, (hproofAt i d hd).2⟩
  have hhash : (T.hashes leaves)[i]? = some (T.hash d) := by
    rw [hT.hashes_eq, List.getElem?_map, hd, Option.map_some]
  have hmem : (T.hash d, i) ∈ (T.hashes leaves).zipIdx :=
    List.mem_zipIdx_iff_getElem?.mpr (by simpa using hhash)
  unfold getProofForIndex
  rw [List.find?_map]
  cases hfind : (T.hashes leaves).zipIdx.find?
      ((fun proof : Nat × List T.Hash => decide (proof.1 = i)) ∘ fun entry =>
        (entry.2, proofAt entry.2)) with
  | none =>
    rw [List.find?_eq_none] at hfind
    have hnot := hfind _ hmem
    simp at hnot
  | some entry =>
    have hindex : entry.2 = i := by simpa using List.find?_some hfind
    simp [hindex]

/-- What signs a block: its hash and its roots are not empty. -/
structure BlockData.Signable (block : BlockData) : Prop where
  hash_ne : block.hash ≠ []
  merkleRoot_ne : block.merkleRoot ≠ []
  storageRoot_ne : block.storageRoot ≠ []
  receiptRoot_ne : block.receiptRoot ≠ []

theorem truthy_some {s : HexText} (h : s ≠ []) : truthy (some s) = some s := by
  simp [truthy, h]

theorem orZeroHash_some {s : HexText} (h : s ≠ []) : orZeroHash (some s) = s := by
  simp [orZeroHash, h]

theorem hexToUint8Array_orZeroHash (hcodec : codec.Lawful) (previousBlockHash : Option HexText) :
    codec.hexToUint8Array (orZeroHash previousBlockHash) =
      prevHashValue codec previousBlockHash := by
  unfold prevHashValue
  cases previousBlockHash with
  | none => exact hcodec.zeroHash
  | some hash =>
    by_cases hempty : hash = []
    · simp [orZeroHash, truthy, hempty, hcodec.zeroHash]
    · rw [orZeroHash_some hempty, truthy_some hempty]

variable {previous : HexText} {block : BlockData} {value : Nat × Bytes}

theorem getElem?_leaves_setBlockData (h : value ∈ setBlockData codec previous block) :
    (leaves (setBlockData codec previous block))[value.1]? = some (toBytes value) := by
  simp only [setBlockData, List.mem_cons, List.not_mem_nil, or_false] at h
  rcases h with rfl | rfl | rfl | rfl | rfl | rfl <;> rfl

theorem validateBlockChecksum_signBlock (hT : T.ProvesOwnLeaves) (hcodec : codec.Lawful)
    {v : BlockHeaderValidator T}
    (hblock : block.Signable) (hne : previous ≠ [])
    (hprevious : v.getPreviousBlockChecksumOfHeight block.height = .ok previous) :
    ∃ header, signBlock codec previous block = some header ∧
      validateBlockChecksum codec v header = .ok true := by
  have hlen : 2 ≤ (leaves (setBlockData codec previous block)).length := by
    show 2 ≤ 6
    omega
  obtain ⟨r, proofs, hroot, hproofs, hspec⟩ := getProofs_spec hT hlen
  have hsign : signBlock codec previous block =
      some (getBlockHeaderDocument codec previous block r proofs) := by
    simp [signBlock, hroot, hproofs]
  refine ⟨_, hsign, (validateBlockChecksum_eq_true_iff v _).mpr
    ⟨⟨block.height, codec.rootHex r, proofs, block.hash, block.merkleRoot, block.storageRoot,
      block.receiptRoot⟩, previous, ?_, hprevious, hne, rfl, ?_⟩⟩
  · simp only [checkedData, getBlockHeaderDocument, truthy_some (hcodec.rootHex_ne r), truthy_some hblock.hash_ne,
      truthy_some hblock.merkleRoot_ne, truthy_some hblock.storageRoot_ne,
      truthy_some hblock.receiptRoot_ne]
  · -- The verifier checks the very values that were signed.
    intro value hvalue
    have hsigned : value ∈ setBlockData codec previous block := by
      rw [setBlockData, hexToUint8Array_orZeroHash hcodec, orZeroHash_some hne,
        orZeroHash_some hblock.hash_ne, orZeroHash_some hblock.merkleRoot_ne,
        orZeroHash_some hblock.storageRoot_ne, orZeroHash_some hblock.receiptRoot_ne]
      exact hvalue
    obtain ⟨π, hπ, hverify⟩ := hspec value.1 _ (getElem?_leaves_setBlockData hsigned)
    have hroot' : codec.rootFromHex (codec.rootHex r) = r := hcodec.rootFromHex_rootHex r
    simp only [verifyField, hπ, hroot', ChecksumMerkle.verify]
    show Except.ok _ = Except.ok true
    rw [hverify]

/-! ### Binding -/

/-- The bytes of the six fields of a header, as the validator reads them. -/
def fieldBytes (codec : HexCodec T) (header : StoredBlockHeader T) : List Bytes :=
  [prevHashValue codec header.previousBlockHash,
   codec.hexToUint8Array (header.previousBlockChecksum.getD []),
   codec.hexToUint8Array (header.hash.getD []),
   codec.hexToUint8Array (header.merkleRoot.getD []),
   codec.hexToUint8Array (header.storageRoot.getD []),
   codec.hexToUint8Array (header.receiptRoot.getD [])]

theorem truthy_eq_some {s : Option HexText} {t : HexText} (h : truthy s = some t) : s = some t := by
  cases s with
  | none => cases h
  | some value =>
    by_cases hempty : value = []
    · simp [truthy, hempty] at h
    · simpa [truthy, hempty] using h

variable {header : StoredBlockHeader T}

theorem checkedData_spec {data : CheckedData T} (h : checkedData header = .ok data) :
    header.checksumRoot = some data.checksumRoot ∧ header.hash = some data.hash ∧
      header.merkleRoot = some data.merkleRoot ∧ header.storageRoot = some data.storageRoot ∧
      header.receiptRoot = some data.receiptRoot := by
  unfold checkedData at h
  split at h
  next checksumRoot height hchecksum hheight =>
    split at h
    next receiptRoot storageRoot hash merkleRoot proofs hreceipt hstorage hhash hmerkle hproofs =>
      cases h
      exact ⟨truthy_eq_some hchecksum, truthy_eq_some hhash, truthy_eq_some hmerkle,
        truthy_eq_some hstorage, truthy_eq_some hreceipt⟩
    · cases h
  · cases h

theorem toBytes_mem_of_verifyField (hS : T.SoundProofs) {leaves : List Bytes} {r : T.Hash}
    (hroot : T.root leaves = some r) {proofs : List (Nat × List T.Hash)}
    (h : verifyField r proofs value = .ok true) : toBytes value ∈ leaves := by
  obtain ⟨π, -, hverify⟩ := exceptBind_eq_ok h
  exact hS leaves r π _ hroot (Except.ok.inj hverify)

theorem checkedValues_index {data : CheckedData T}
    (h : value ∈ checkedValues codec header data previous) : value.1 < 256 := by
  simp only [checkedValues, List.mem_cons, List.not_mem_nil, or_false] at h
  rcases h with rfl | rfl | rfl | rfl | rfl | rfl <;> simp

/-- A leaf with a one-byte index is the leaf of one value only. -/
theorem mem_of_toBytes_mem
    (h : toBytes value ∈ leaves (setBlockData codec previous block)) (hindex : value.1 < 256) :
    value ∈ setBlockData codec previous block := by
  obtain ⟨signed, hsigned, hbytes⟩ := List.mem_map.mp h
  have hsignedIndex : signed.1 < 256 := by
    simp only [setBlockData, List.mem_cons, List.not_mem_nil, or_false] at hsigned
    rcases hsigned with rfl | rfl | rfl | rfl | rfl | rfl <;> simp
  rw [toBytes_eq, toBytes_eq, List.cons.injEq] at hbytes
  have hsame : signed.1 = value.1 := by
    have hnat := congrArg UInt8.toNat hbytes.1
    rwa [UInt8.toNat_ofNat_of_lt' hsignedIndex, UInt8.toNat_ofNat_of_lt' hindex] at hnat
  rwa [← Prod.ext hsame hbytes.2]

theorem fieldBytes_of_accepted (hS : T.SoundProofs) (hcodec : codec.Lawful)
    {v : BlockHeaderValidator T}
    {signed : StoredBlockHeader T} (hsigned : signBlock codec previous block = some signed)
    (hroot : header.checksumRoot = signed.checksumRoot)
    (haccepted : validateBlockChecksum codec v header = .ok true) :
    fieldBytes codec header = (setBlockData codec previous block).map Prod.snd := by
  obtain ⟨data, stored, hdata, -, -, hstored, hfields⟩ :=
    (validateBlockChecksum_eq_true_iff v header).mp haccepted
  obtain ⟨hchecksum, hhash, hmerkle, hstorage, hreceipt⟩ := checkedData_spec hdata
  -- The tree the header is checked against is the one that was signed.
  obtain ⟨r, proofs, hr, rfl⟩ := signBlock_eq_some hsigned
  have hdataRoot : codec.rootFromHex data.checksumRoot = r := by
    have hprinted : data.checksumRoot = codec.rootHex r :=
      Option.some.inj (hchecksum.symm.trans hroot)
    rw [hprinted]
    exact hcodec.rootFromHex_rootHex r
  -- The index byte at the head of a leaf says which field it is.
  have hmem : ∀ value ∈ checkedValues codec header data stored,
      value ∈ setBlockData codec previous block := by
    intro value hvalue
    apply mem_of_toBytes_mem _ (checkedValues_index hvalue)
    exact toBytes_mem_of_verifyField hS hr (hdataRoot ▸ hfields value hvalue)
  simp only [checkedValues, List.forall_mem_cons] at hmem
  obtain ⟨h0, h1, h2, h3, h4, h5, -⟩ := hmem
  simp only [setBlockData, List.mem_cons, List.not_mem_nil, Prod.mk.injEq, Nat.reduceEqDiff,
    false_and, true_and, OfNat.ofNat_ne_zero, OfNat.ofNat_ne_one, OfNat.zero_ne_ofNat,
    OfNat.one_ne_ofNat, zero_ne_one, one_ne_zero, or_false, false_or] at h0 h1 h2 h3 h4 h5
  simp only [fieldBytes, hstored, hhash, hmerkle, hstorage, hreceipt, Option.getD_some,
    setBlockData, List.map_cons, List.map_nil, h0, h1, h2, h3, h4, h5]

/-- Every signed header is accepted over the header it was signed on, and two headers accepted
against the checksum root of one signed block agree in the bytes of all six fields. -/
theorem headerChecksum_complete_and_binding (hT : T.ProvesOwnLeaves) (hS : T.SoundProofs)
    (hcodec : codec.Lawful) :
    (∀ (v : BlockHeaderValidator T) (previous : HexText) (block : BlockData),
      block.Signable → previous ≠ [] →
      v.getPreviousBlockChecksumOfHeight block.height = .ok previous →
      ∃ header, signBlock codec previous block = some header ∧
        validateBlockChecksum codec v header = .ok true) ∧
    (∀ (v v' : BlockHeaderValidator T) (previous : HexText) (block : BlockData)
      (signed header header' : StoredBlockHeader T),
      signBlock codec previous block = some signed →
      header.checksumRoot = signed.checksumRoot → header'.checksumRoot = signed.checksumRoot →
      validateBlockChecksum codec v header = .ok true →
      validateBlockChecksum codec v' header' = .ok true →
      fieldBytes codec header = fieldBytes codec header') := by
  constructor
  · intro v previous block hblock hne hprevious
    exact validateBlockChecksum_signBlock hT hcodec hblock hne hprevious
  · intro v v' previous block signed header header' hsigned hroot hroot' haccepted haccepted'
    rw [fieldBytes_of_accepted hS hcodec hsigned hroot haccepted,
      fieldBytes_of_accepted hS hcodec hsigned hroot' haccepted']

/-! ### A codec, and a tree that was not signed -/

instance encodableUInt8 : Encodable UInt8 :=
  Encodable.ofLeftInverse UInt8.toNat UInt8.ofNat fun _ => UInt8.ofNat_toNat

def hexDigit (c : Char) : Nat := if c.isDigit then c.toNat - '0'.toNat else c.toNat - 'a'.toNat + 10

def decodeHex : HexText → Bytes
  | c :: c' :: s => UInt8.ofNat (16 * hexDigit c + hexDigit c') :: decodeHex s
  | _ => []

/-- A root printed by its number among the multisets. -/
def multisetRootHex (r : Multiset Bytes) : HexText := 'f' :: List.replicate (Encodable.encode r) 'f'

/-- The multiset of a printed root. -/
def multisetFromHex (s : HexText) : Multiset Bytes := (Encodable.decode s.tail.length).getD 0

theorem multisetFromHex_rootHex (r : Multiset Bytes) :
    multisetFromHex (multisetRootHex r) = r := by
  rw [multisetRootHex, multisetFromHex, List.tail_cons, List.length_replicate, Encodable.encodek]
  rfl

/-- Hex strings over the tree of multisets; `0x` may stand in front. -/
def multisetCodec : HexCodec RustMerkleTree.multisetTree where
  hexToUint8Array s := decodeHex (if s.take 2 = ['0', 'x'] then s.drop 2 else s)
  rootHex := multisetRootHex
  rootFromHex := multisetFromHex

theorem lawful_multisetCodec : multisetCodec.Lawful where
  zeroHash := by decide +kernel
  rootFromHex_rootHex := multisetFromHex_rootHex
  rootHex_ne _ := List.cons_ne_nil _ _

def genesisValidator : BlockHeaderValidator RustMerkleTree.multisetTree where
  getBlockHeader _ := none
  light := false

def genesisBlock : BlockData where
  height := 0
  previousBlockHash := none
  hash := ['a', 'a']
  merkleRoot := ['b', 'b']
  storageRoot := ZERO_HASH
  receiptRoot := ['c', 'c']

/-- The genesis block meets the hypotheses. -/
theorem headerChecksum_genesis :
    ∃ header, signBlock multisetCodec ZERO_HASH genesisBlock = some header ∧
      validateBlockChecksum multisetCodec genesisValidator header = .ok true :=
  (headerChecksum_complete_and_binding RustMerkleTree.provesOwnLeaves_multisetTree
    RustMerkleTree.soundProofs_multisetTree lawful_multisetCodec).1 genesisValidator ZERO_HASH
    genesisBlock ⟨by decide, by decide, by decide, by decide⟩ (by decide) rfl

/-- The leaves of the genesis block and one more for another block hash. -/
def forgedLeaves : List Bytes :=
  leaves (setBlockData multisetCodec ZERO_HASH genesisBlock ++ [(2, [0xdd])])

/-- The header over the forged tree with the given block hash. -/
def forgedHeader (hash : HexText) : StoredBlockHeader RustMerkleTree.multisetTree :=
  getBlockHeaderDocument multisetCodec ZERO_HASH { genesisBlock with hash }
    (forgedLeaves : Multiset Bytes) ((List.range 6).map fun i => (i, []))

theorem forgedHeader_accepted {hash : HexText} (hne : hash ≠ [])
    (hleaf : toBytes (2, multisetCodec.hexToUint8Array hash) ∈ forgedLeaves) :
    validateBlockChecksum multisetCodec genesisValidator (forgedHeader hash) = .ok true := by
  rw [validateBlockChecksum_eq_true_iff]
  refine ⟨⟨0, multisetRootHex forgedLeaves, (List.range 6).map fun i => (i, []), hash,
    genesisBlock.merkleRoot, genesisBlock.storageRoot, genesisBlock.receiptRoot⟩, ZERO_HASH, ?_,
    rfl, by decide, rfl, ?_⟩
  · simp only [checkedData, forgedHeader, getBlockHeaderDocument, truthy_some hne]
    rfl
  · intro value hvalue
    -- Every field is a leaf of the forged tree, the block hash by hypothesis.
    have hmem : toBytes value ∈ forgedLeaves := by
      simp only [checkedValues, List.mem_cons, List.not_mem_nil, or_false] at hvalue
      rcases hvalue with rfl | rfl | rfl | rfl | rfl | rfl
      · show toBytes (0, prevHashValue multisetCodec none) ∈ forgedLeaves
        decide +kernel
      · decide +kernel
      · exact hleaf
      · decide +kernel
      · decide +kernel
      · decide +kernel
    have hproof : getProofForIndex (T := RustMerkleTree.multisetTree)
        ((List.range 6).map fun i => (i, [])) value.1 = .ok [] := by
      simp only [checkedValues, List.mem_cons, List.not_mem_nil, or_false] at hvalue
      rcases hvalue with rfl | rfl | rfl | rfl | rfl | rfl <;> rfl
    have hverify : ChecksumMerkle.verify (T := RustMerkleTree.multisetTree)
        (multisetFromHex (multisetRootHex forgedLeaves)) value [] = true := by
      rw [multisetFromHex_rootHex]
      simpa [ChecksumMerkle.verify, RustMerkleTree.multisetTree] using hmem
    show (do
      let proof ← getProofForIndex (T := RustMerkleTree.multisetTree)
        ((List.range 6).map fun i => (i, [])) value.1
      return ChecksumMerkle.verify (T := RustMerkleTree.multisetTree)
        (multisetFromHex (multisetRootHex forgedLeaves)) value proof) = Except.ok true
    rw [hproof]
    exact congrArg Except.ok hverify

/-- Two headers with different block hashes are accepted against one checksum root, and a header
that was signed with an empty receipt root is not accepted. -/
theorem headerChecksum_forgedRoot :
    validateBlockChecksum multisetCodec genesisValidator (forgedHeader ['a', 'a']) = .ok true ∧
    validateBlockChecksum multisetCodec genesisValidator (forgedHeader ['d', 'd']) = .ok true ∧
    (forgedHeader ['a', 'a']).checksumRoot = (forgedHeader ['d', 'd']).checksumRoot ∧
    fieldBytes multisetCodec (forgedHeader ['a', 'a']) ≠
      fieldBytes multisetCodec (forgedHeader ['d', 'd']) ∧
    ∀ header, signBlock multisetCodec ZERO_HASH { genesisBlock with receiptRoot := [] } =
        some header →
      validateBlockChecksum multisetCodec genesisValidator header = .error .blockDataNotFound := by
  refine ⟨forgedHeader_accepted (by decide) (by decide +kernel),
    forgedHeader_accepted (by decide) (by decide +kernel), rfl, ?_, ?_⟩
  · decide +kernel
  · intro header hsigned
    obtain ⟨r, proofs, -, rfl⟩ := signBlock_eq_some hsigned
    rfl

end OpnetNode
