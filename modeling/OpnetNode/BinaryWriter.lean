import OpnetNode.Merkle.RustMerkleTree

/-!
# The buffer of a `BinaryWriter`

A `BinaryWriter` begins with a buffer of zeros of some length.  A write that goes past the end of the
buffer makes it longer by the bytes of that write, and `getBuffer` gives all of it: unless the lengths
fit, there are zeros behind what was written.

Numbers are written big-endian and cut to their width.  `writeU64` refuses a number from `2 ^ 64` on,
which no height, no time and no difference of two gas counters is; a negative one is written in two's
complement.
-/

namespace OpnetNode

/-- The number that `writeU64` writes for a `bigint`. -/
def u64 (value : ℤ) : ℕ := (value % 2 ^ 64).toNat

theorem u64_lt (value : ℤ) : u64 value < 2 ^ 64 := by
  unfold u64
  omega

def writeU64 (value : ℤ) : Bytes := toBigEndian 8 (u64 value)

def writeU16 (value : ℕ) : Bytes := toBigEndian 2 (value % 2 ^ 16)

/-- A `BinaryWriter`: what was written, and the length of the buffer. -/
structure BinaryWriter where
  written : Bytes
  size : ℕ
  fits : written.length ≤ size

namespace BinaryWriter

def new (length : ℕ) : BinaryWriter := ⟨[], length, Nat.zero_le _⟩

def writeBytes (w : BinaryWriter) (value : Bytes) : BinaryWriter where
  written := w.written ++ value
  size := if w.size < w.written.length + value.length then w.size + value.length else w.size
  fits := by
    have hfits := w.fits
    rw [List.length_append]
    split_ifs <;> omega

def getBuffer (w : BinaryWriter) : Bytes :=
  w.written ++ List.replicate (w.size - w.written.length) 0

/-- Some byte strings, written one after the other into a buffer of a length. -/
def bytesOf (length : ℕ) (values : List Bytes) : Bytes :=
  (values.foldl writeBytes (new length)).getBuffer

theorem getBuffer_foldl (values : List Bytes) {w : BinaryWriter}
    (h : w.written.length + values.flatten.length ≤ w.size) :
    (values.foldl writeBytes w).getBuffer = w.written ++ values.flatten ++
      List.replicate (w.size - (w.written.length + values.flatten.length)) 0 := by
  induction values generalizing w with
  | nil =>
    rw [List.flatten_nil, List.append_nil, List.length_nil, Nat.add_zero]
    rfl
  | cons value values ih =>
    rw [List.flatten_cons, List.length_append] at h
    have hsize : (w.writeBytes value).size = w.size := if_neg (by omega)
    have hlength : (w.writeBytes value).written.length = w.written.length + value.length :=
      List.length_append
    rw [List.foldl_cons, ih (by omega), hsize, hlength, List.flatten_cons, List.length_append,
      Nat.add_assoc]
    show w.written ++ value ++ _ ++ _ = _
    rw [List.append_assoc w.written]

theorem bytesOf_of_le {length : ℕ} {values : List Bytes} (h : values.flatten.length ≤ length) :
    bytesOf length values =
      values.flatten ++ List.replicate (length - values.flatten.length) 0 := by
  have hfits : (new length).written.length + values.flatten.length ≤ (new length).size := by
    show 0 + _ ≤ length
    omega
  unfold bytesOf
  rw [getBuffer_foldl values hfits]
  show [] ++ values.flatten ++ List.replicate (length - (0 + values.flatten.length)) 0 = _
  rw [List.nil_append, Nat.zero_add]

theorem bytesOf_of_length_eq {length : ℕ} {values : List Bytes}
    (h : values.flatten.length = length) : bytesOf length values = values.flatten := by
  rw [bytesOf_of_le (Nat.le_of_eq h), h, Nat.sub_self, List.replicate_zero, List.append_nil]

end BinaryWriter

end OpnetNode
