import OpnetNode.Merkle.ChecksumMerkle

/-!
# `BlockHeaderValidator`

`validateBlockChecksum` checks a stored header against its checksum root: each of six fields is
verified as a leaf of the tree, under the proof the header carries for the field's index.
-/

namespace OpnetNode

/-- Errors thrown while a header is validated. -/
inductive HeaderError where
  | blockChecksumNotFound
  | blockDataNotFound
  | previousBlockNotFound (height : Nat)
  | previousBlockChecksumNotFound
  | proofNotFound (index : Nat)
  deriving DecidableEq, Repr

/-- The validator: the headers it finds in its cache or in the storage, and whether the node runs
in light mode. -/
structure BlockHeaderValidator (T : RustMerkleTree) where
  getBlockHeader : Nat → Option (StoredBlockHeader T)
  light : Bool

/-- A string that is present and not empty. -/
def truthy : Option HexText → Option HexText
  | none => none
  | some value => if value = [] then none else some value

namespace BlockHeaderValidator

variable {T : RustMerkleTree} (codec : HexCodec T)

def getPreviousBlockChecksumOfHeight (v : BlockHeaderValidator T) :
    Nat → Except HeaderError HexText
  | 0 => .ok ZERO_HASH
  | previous + 1 =>
    match (v.getBlockHeader previous).bind fun header => truthy header.checksumRoot with
    | some checksumRoot => .ok checksumRoot
    | none => if v.light then .ok ZERO_HASH else .error (.previousBlockNotFound previous)

def getProofForIndex (proofs : List (Nat × List T.Hash)) (index : Nat) :
    Except HeaderError (List T.Hash) :=
  match proofs.find? fun proof => proof.1 = index with
  | some proof => .ok proof.2
  | none => .error (.proofNotFound index)

/-- The leaf value of the previous block hash: 32 zero bytes if the header has none. -/
def prevHashValue (prevBlockHash : Option HexText) : Bytes :=
  match truthy prevBlockHash with
  | some hash => codec.hexToUint8Array hash
  | none => List.replicate 32 0

/-- Look up the proof of an index and verify a field under it. -/
def verifyField (root : T.Hash) (proofs : List (Nat × List T.Hash)) (value : Nat × Bytes) :
    Except HeaderError Bool := do
  let proof ← getProofForIndex proofs value.1
  return ChecksumMerkle.verify root value proof

/-- The part of a header that must be present for its checksum to be checked. -/
structure CheckedData (T : RustMerkleTree) where
  height : Nat
  checksumRoot : HexText
  proofs : List (Nat × List T.Hash)
  hash : HexText
  merkleRoot : HexText
  storageRoot : HexText
  receiptRoot : HexText

/-- The presence checks at the top of `validateBlockChecksum`. -/
def checkedData (header : StoredBlockHeader T) : Except HeaderError (CheckedData T) :=
  match truthy header.checksumRoot, header.height with
  | some checksumRoot, some height =>
    match truthy header.receiptRoot, truthy header.storageRoot, truthy header.hash,
        truthy header.merkleRoot, header.checksumProofs with
    | some receiptRoot, some storageRoot, some hash, some merkleRoot, some proofs =>
      .ok { height, checksumRoot, proofs, hash, merkleRoot, storageRoot, receiptRoot }
    | _, _, _, _, _ => .error .blockDataNotFound
  | _, _ => .error .blockChecksumNotFound

/-- The six leaves that a header is checked for. -/
def checkedValues (header : StoredBlockHeader T) (data : CheckedData T)
    (previousBlockChecksum : HexText) : List (Nat × Bytes) :=
  [(0, prevHashValue codec header.previousBlockHash),
   (1, codec.hexToUint8Array previousBlockChecksum),
   (2, codec.hexToUint8Array data.hash),
   (3, codec.hexToUint8Array data.merkleRoot),
   (4, codec.hexToUint8Array data.storageRoot),
   (5, codec.hexToUint8Array data.receiptRoot)]

def validateBlockChecksum (v : BlockHeaderValidator T) (header : StoredBlockHeader T) :
    Except HeaderError Bool := do
  let data ← checkedData header
  let previousBlockChecksum ← v.getPreviousBlockChecksumOfHeight data.height
  if previousBlockChecksum = [] then
    throw .previousBlockChecksumNotFound
  if header.previousBlockChecksum ≠ some previousBlockChecksum then
    return false
  -- All six proofs are looked up and verified before the results are combined.
  let results ← (checkedValues codec header data previousBlockChecksum).mapM
    (verifyField (codec.rootFromHex data.checksumRoot) data.proofs)
  return results.all id

end BlockHeaderValidator

end OpnetNode
