import OpnetNode.AddressMap

/-!
# The mining puzzle of an epoch

* `countMatchingBits`: how many leading bits two hashes share.
* `calculatePreimage`: the 32-byte mining preimage `checksumRoot ⊕ mldsaPublicKey ⊕ salt`.
-/

namespace OpnetNode

namespace EpochValidator

/-- The inner loop of `countMatchingBits` over the bits `bit - 1, …, 0` of two bytes: the number of
bits counted, and whether the loop stopped at a non-matching bit. -/
def countMatchingBitsInByte (byte1 byte2 : UInt8) : ℕ → ℕ × Bool
  | 0 => (0, false)
  | bit + 1 =>
    if (byte1.toNat >>> bit) &&& 1 = (byte2.toNat >>> bit) &&& 1 then
      let rest := countMatchingBitsInByte byte1 byte2 bit
      (rest.1 + 1, rest.2)
    else (0, true)

/-- The number of leading bits two hashes share, up to the length of the shorter one. -/
def countMatchingBits : Bytes → Bytes → ℕ
  | byte1 :: hash1, byte2 :: hash2 =>
    if byte1 = byte2 then 8 + countMatchingBits hash1 hash2
    else
      match countMatchingBitsInByte byte1 byte2 8 with
      | (bits, true) => bits
      | (bits, false) => bits + countMatchingBits hash1 hash2
  | _, _ => 0

/-- The first 32 bytes of `b`, padded with zeros on the right. -/
def to32 (b : Bytes) : Bytes := b.take 32 ++ List.replicate (32 - b.length) 0

/-- The mining preimage: checksum root, public key and salt, each cut or padded to 32 bytes, XORed
byte by byte. -/
def calculatePreimage (checksumRoot mldsaPublicKey salt : Bytes) : Bytes :=
  List.zipWith (· ^^^ ·) (List.zipWith (· ^^^ ·) (to32 checksumRoot) (to32 mldsaPublicKey))
    (to32 salt)

end EpochValidator

end OpnetNode
