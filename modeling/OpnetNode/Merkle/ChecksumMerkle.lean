import OpnetNode.BinaryWriter

/-!
# The checksum tree of a block header

`ChecksumMerkle` commits to the six fields of a header: its leaves are an index byte followed by
the bytes of the field.  `signBlock` is the part of `Block.signBlock` and `getBlockHeaderDocument`
that builds the tree and the stored header.  Hex strings are lists of characters; what decodes and
prints them is not part of the repository and is given by a `HexCodec`.
-/

namespace OpnetNode

/-- A string of a header. -/
abbrev HexText := List Char

def ZERO_HASH : HexText := '0' :: 'x' :: List.replicate 64 '0'

/-- The conversions between hex strings and bytes. -/
structure HexCodec (T : RustMerkleTree) where
  /-- `BufferHelper.hexToUint8Array`. -/
  hexToUint8Array : HexText → Bytes
  /-- `tree.rootHex()`. -/
  rootHex : T.Hash → HexText
  /-- `fromHex` of a root, its `0x` removed. -/
  rootFromHex : HexText → T.Hash

/-- What the header code relies on: zeros decode to zeros, and a printed root is not empty and
decodes to itself. -/
structure HexCodec.Lawful {T : RustMerkleTree} (codec : HexCodec T) : Prop where
  zeroHash : codec.hexToUint8Array ZERO_HASH = List.replicate 32 0
  rootFromHex_rootHex : ∀ r, codec.rootFromHex (codec.rootHex r) = r
  rootHex_ne : ∀ r, codec.rootHex r ≠ []

/-- `value || ZERO_HASH`. -/
def orZeroHash : Option HexText → HexText
  | none => ZERO_HASH
  | some value => if value = [] then ZERO_HASH else value

/-- The fields of a block that its header checksum covers; a genesis block has no previous hash. -/
structure BlockData where
  height : Nat
  previousBlockHash : Option HexText
  hash : HexText
  merkleRoot : HexText
  storageRoot : HexText
  receiptRoot : HexText
  deriving DecidableEq

/-- A block header as it is stored; any of its fields may be missing. -/
structure StoredBlockHeader (T : RustMerkleTree) where
  height : Option Nat
  checksumRoot : Option HexText
  checksumProofs : Option (List (Nat × List T.Hash))
  previousBlockHash : Option HexText
  previousBlockChecksum : Option HexText
  hash : Option HexText
  merkleRoot : Option HexText
  storageRoot : Option HexText
  receiptRoot : Option HexText

namespace ChecksumMerkle

variable {T : RustMerkleTree} (codec : HexCodec T)

/-- `toBytes`: the index in one byte, then the field. -/
def toBytes (value : Nat × Bytes) : Bytes :=
  BinaryWriter.bytesOf (1 + value.2.length) [[UInt8.ofNat value.1], value.2]

theorem toBytes_eq (value : Nat × Bytes) : toBytes value = UInt8.ofNat value.1 :: value.2 := by
  unfold toBytes
  rw [BinaryWriter.bytesOf_of_length_eq (by simp [Nat.add_comm])]
  simp

def verify (root : T.Hash) (value : Nat × Bytes) (proof : List T.Hash) : Bool :=
  T.verify proof root (T.hash (toBytes value))

/-- `setBlockData`: the values of the tree. -/
def setBlockData (previousBlockChecksum : HexText) (block : BlockData) : List (Nat × Bytes) :=
  [(0, codec.hexToUint8Array (orZeroHash block.previousBlockHash)),
   (1, codec.hexToUint8Array (orZeroHash (some previousBlockChecksum))),
   (2, codec.hexToUint8Array (orZeroHash (some block.hash))),
   (3, codec.hexToUint8Array (orZeroHash (some block.merkleRoot))),
   (4, codec.hexToUint8Array (orZeroHash (some block.storageRoot))),
   (5, codec.hexToUint8Array (orZeroHash (some block.receiptRoot)))]

/-- The leaves that `generateTree` hands to the Rust tree. -/
def leaves (values : List (Nat × Bytes)) : List Bytes := values.map toBytes

/-- `getProofs`: for each hash of the tree its position and its proof. -/
def getProofs (T : RustMerkleTree) (leaves : List Bytes) : Option (List (Nat × List T.Hash)) :=
  (T.hashes leaves).zipIdx.mapM fun entry => do
    let index ← T.getIndexHash leaves entry.1
    let proof ← T.getProof leaves index
    return (entry.2, proof)

/-- `getBlockHeaderDocument`, given the root and the proofs of the checksum tree. -/
def getBlockHeaderDocument (previousBlockChecksum : HexText) (block : BlockData) (root : T.Hash)
    (proofs : List (Nat × List T.Hash)) : StoredBlockHeader T where
  height := some block.height
  checksumRoot := some (codec.rootHex root)
  checksumProofs := some proofs
  previousBlockHash := block.previousBlockHash
  previousBlockChecksum := some previousBlockChecksum
  hash := some block.hash
  merkleRoot := some block.merkleRoot
  storageRoot := some block.storageRoot
  receiptRoot := some block.receiptRoot

/-- `signBlock`: build the checksum tree and the header that is stored. -/
def signBlock (previousBlockChecksum : HexText) (block : BlockData) :
    Option (StoredBlockHeader T) := do
  let leaves := leaves (setBlockData codec previousBlockChecksum block)
  let root ← T.root leaves
  let proofs ← getProofs T leaves
  return getBlockHeaderDocument codec previousBlockChecksum block root proofs

theorem signBlock_eq_some {codec : HexCodec T} {previousBlockChecksum : HexText}
    {block : BlockData} {signed : StoredBlockHeader T}
    (h : signBlock codec previousBlockChecksum block = some signed) :
    ∃ root proofs, T.root (leaves (setBlockData codec previousBlockChecksum block)) = some root ∧
      signed = getBlockHeaderDocument codec previousBlockChecksum block root proofs := by
  unfold signBlock at h
  cases hroot : T.root (leaves (setBlockData codec previousBlockChecksum block)) with
  | none => simp [hroot] at h
  | some root =>
    cases hproofs : getProofs T (leaves (setBlockData codec previousBlockChecksum block)) with
    | none => simp [hroot, hproofs] at h
    | some proofs =>
      refine ⟨root, proofs, rfl, ?_⟩
      simpa [hroot, hproofs] using h.symm

end ChecksumMerkle

end OpnetNode
