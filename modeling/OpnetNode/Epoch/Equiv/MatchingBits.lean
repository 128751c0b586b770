import Mathlib.Data.Nat.Bitwise
import OpnetNode.CommonPrefix
import OpnetNode.Epoch.EpochValidator

/-!
# Matching bits are a common prefix

`countMatchingBits` counts whole bytes as long as they are equal, and then the bits of the first
byte that differs.

* `bits`: a byte string as the sequence of its bits, the most significant bit of a byte first.
* `countMatchingBits_eq`: the count is the common prefix of the two sequences, by induction on the
  bytes; `countMatchingBitsInByte_spec` is the induction on the bits of one byte.
* `countMatchingBits_spec`: it is the longest one, symmetric, and an ultrametric.
-/

namespace OpnetNode.EpochValidator

/-! ### The bits of a byte -/

/-- The bits below `bit`, the highest one first. -/
def bitsBelow (byte : UInt8) : ℕ → List Bool
  | 0 => []
  | bit + 1 => byte.toNat.testBit bit :: bitsBelow byte bit

/-- The bits of a byte string, big-endian. -/
def bits (hash : Bytes) : List Bool := hash.flatMap fun byte => bitsBelow byte 8

@[simp] theorem length_bitsBelow (byte : UInt8) (bit : ℕ) : (bitsBelow byte bit).length = bit := by
  induction bit with
  | zero => rfl
  | succ bit ih => rw [bitsBelow, List.length_cons, ih]

theorem bits_cons (byte : UInt8) (hash : Bytes) :
    bits (byte :: hash) = bitsBelow byte 8 ++ bits hash := List.flatMap_cons

@[simp] theorem length_bits (hash : Bytes) : (bits hash).length = 8 * hash.length := by
  induction hash with
  | nil => rfl
  | cons byte hash ih =>
    rw [bits_cons, List.length_append, ih, length_bitsBelow, List.length_cons]
    omega

theorem testBit_eq_of_bitsBelow {byte1 byte2 : UInt8} {bit : ℕ}
    (h : bitsBelow byte1 bit = bitsBelow byte2 bit) {i : ℕ} (hi : i < bit) :
    byte1.toNat.testBit i = byte2.toNat.testBit i := by
  induction bit with
  | zero => omega
  | succ bit ih =>
    obtain ⟨hbit, hrest⟩ := List.cons.inj h
    rcases Nat.lt_succ_iff_lt_or_eq.mp hi with hlt | rfl
    · exact ih hrest hlt
    · exact hbit

theorem bitsBelow_eight_inj {byte1 byte2 : UInt8} (h : bitsBelow byte1 8 = bitsBelow byte2 8) :
    byte1 = byte2 := by
  apply UInt8.toNat_inj.mp
  apply Nat.eq_of_testBit_eq
  intro i
  by_cases hi : i < 8
  · exact testBit_eq_of_bitsBelow h hi
  · have hbyte : ∀ byte : UInt8, byte.toNat < 2 ^ i := fun byte =>
      lt_of_lt_of_le byte.toNat_lt (Nat.pow_le_pow_right (by decide) (Nat.le_of_not_lt hi))
    rw [Nat.testBit_lt_two_pow (hbyte byte1), Nat.testBit_lt_two_pow (hbyte byte2)]

theorem shiftRight_and_one_eq_iff (m n i : ℕ) :
    (m >>> i) &&& 1 = (n >>> i) &&& 1 ↔ m.testBit i = n.testBit i := by
  rw [Nat.and_one_is_mod, Nat.and_one_is_mod, Nat.shiftRight_eq_div_pow, Nat.shiftRight_eq_div_pow,
    Nat.testBit_eq_decide_div_mod_eq, Nat.testBit_eq_decide_div_mod_eq, decide_eq_decide]
  omega

/-! ### The count -/

theorem countMatchingBitsInByte_spec (byte1 byte2 : UInt8) (bit : ℕ) :
    countMatchingBitsInByte byte1 byte2 bit =
      (commonPrefix (bitsBelow byte1 bit) (bitsBelow byte2 bit),
        decide (bitsBelow byte1 bit ≠ bitsBelow byte2 bit)) := by
  induction bit with
  | zero => rfl
  | succ bit ih =>
    rw [countMatchingBitsInByte, bitsBelow, bitsBelow, commonPrefix_cons]
    by_cases hbit : byte1.toNat.testBit bit = byte2.toNat.testBit bit
    · rw [if_pos ((shiftRight_and_one_eq_iff _ _ _).mpr hbit), ih, if_pos hbit]
      simp [hbit]
    · rw [if_neg fun heq => hbit ((shiftRight_and_one_eq_iff _ _ _).mp heq), if_neg hbit]
      simp [hbit]

/-- **The count is the common prefix of the bits.** -/
theorem countMatchingBits_eq (hash1 hash2 : Bytes) :
    countMatchingBits hash1 hash2 = commonPrefix (bits hash1) (bits hash2) := by
  induction hash1 generalizing hash2 with
  | nil => rfl
  | cons byte1 hash1 ih =>
    cases hash2 with
    | nil =>
      rw [countMatchingBits]
      · exact (commonPrefix_nil_right _).symm
      · simp
    | cons byte2 hash2 =>
      rw [countMatchingBits, bits_cons, bits_cons]
      by_cases hbyte : byte1 = byte2
      · rw [if_pos hbyte, hbyte, commonPrefix_append_left, length_bitsBelow, ih]
      · -- different bytes differ in a bit, so that the inner loop is always stopped
        have hbits : bitsBelow byte1 8 ≠ bitsBelow byte2 8 := fun heq =>
          hbyte (bitsBelow_eight_inj heq)
        rw [if_neg hbyte, countMatchingBitsInByte_spec, decide_eq_true hbits,
          commonPrefix_append_of_ne (by simp) hbits]

/-- **Matching bits are the longest common prefix of the bits**, up to the length of the shorter
string; they are symmetric, and of the three counts of three strings the two smallest are equal. -/
theorem countMatchingBits_spec :
    (∀ hash1 hash2 : Bytes,
      IsGreatest {n | n ≤ 8 * min hash1.length hash2.length ∧
        (bits hash1).take n = (bits hash2).take n} (countMatchingBits hash1 hash2)) ∧
    (∀ hash1 hash2 : Bytes, countMatchingBits hash1 hash2 = countMatchingBits hash2 hash1) ∧
    ∀ hash1 hash2 hash3 : Bytes, TwoSmallest (countMatchingBits hash1 hash2)
      (countMatchingBits hash2 hash3) (countMatchingBits hash1 hash3) := by
  refine ⟨fun hash1 hash2 => ?_, fun hash1 hash2 => ?_, fun hash1 hash2 hash3 => ?_⟩
  · have hgreatest := isGreatest_commonPrefix (bits hash1) (bits hash2)
    rw [length_bits, length_bits, Nat.mul_min_mul_left] at hgreatest
    rw [countMatchingBits_eq]
    exact hgreatest
  · rw [countMatchingBits_eq, countMatchingBits_eq, commonPrefix_comm]
  · rw [countMatchingBits_eq, countMatchingBits_eq, countMatchingBits_eq]
    exact two_smallest_commonPrefix _ _ _

end OpnetNode.EpochValidator
