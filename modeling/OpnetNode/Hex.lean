import OpnetNode.AddressMap

/-!
# Hexadecimal texts

`toHex` and `fromHex`; a text that is printed is read back (`fromHex_toHex`).
-/

namespace OpnetNode

/-- The two digits of a byte. -/
def hexDigits (b : UInt8) : List Char :=
  [Nat.digitChar (b.toNat / 16), Nat.digitChar (b.toNat % 16)]

/-- The hexadecimal text of bytes, in lower case. -/
def toHex (bytes : Bytes) : String := String.ofList (bytes.flatMap hexDigits)

/-- The value of a hexadecimal digit. -/
def hexValue (c : Char) : Option ℕ :=
  if '0' ≤ c ∧ c ≤ '9' then some (c.toNat - '0'.toNat)
  else if 'a' ≤ c ∧ c ≤ 'f' then some (c.toNat - 'a'.toNat + 10)
  else if 'A' ≤ c ∧ c ≤ 'F' then some (c.toNat - 'A'.toNat + 10)
  else none

/-- The bytes of a list of digits, two at a time. -/
def fromHexDigits : List Char → Option Bytes
  | [] => some []
  | [_] => none
  | high :: low :: rest => do
    let highValue ← hexValue high
    let lowValue ← hexValue low
    let bytes ← fromHexDigits rest
    return UInt8.ofNat (16 * highValue + lowValue) :: bytes

/-- The bytes of a hexadecimal text; `none` if it throws. -/
def fromHex (text : String) : Option Bytes := fromHexDigits text.toList

theorem hexValue_digitChar : ∀ n < 16, hexValue (Nat.digitChar n) = some n := by decide

theorem fromHexDigits_flatMap (bytes : Bytes) :
    fromHexDigits (bytes.flatMap hexDigits) = some bytes := by
  induction bytes with
  | nil => rfl
  | cons b bytes ih =>
    have hlt : b.toNat < 256 := b.toNat_lt
    have hhigh : b.toNat / 16 < 16 := by omega
    have hlow : b.toNat % 16 < 16 := by omega
    have hbyte : UInt8.ofNat (16 * (b.toNat / 16) + b.toNat % 16) = b := by
      rw [Nat.div_add_mod]
      exact UInt8.ofNat_toNat
    rw [List.flatMap_cons]
    show fromHexDigits (_ :: _ :: bytes.flatMap hexDigits) = _
    rw [fromHexDigits, hexValue_digitChar _ hhigh, hexValue_digitChar _ hlow, ih]
    show some (UInt8.ofNat _ :: bytes) = _
    rw [hbyte]

theorem fromHex_toHex (bytes : Bytes) : fromHex (toHex bytes) = some bytes := by
  unfold fromHex toHex
  rw [String.toList_ofList, fromHexDigits_flatMap]

end OpnetNode
