import ByteMachine.Text.Hexadecimal

/-!
# Bytes and their halves

A byte is a vector of eight bits, a nibble one of four; a byte is a high nibble followed by a low
one.  An integer is taken modulo the size of the vector, so that every integer names a byte.
-/

namespace ByteMachine

/-- Eight bits. -/
abbrev Byte := BitVec 8

/-- Four bits. -/
abbrev Nibble := BitVec 4

namespace Byte

/-- The byte with the given halves. -/
def ofNibbles (high low : Nibble) : Byte :=
  high ++ low

/-- The upper half of a byte. -/
def high (byte : Byte) : Nibble :=
  byte.extractLsb' 4 4

/-- The lower half of a byte. -/
def low (byte : Byte) : Nibble :=
  byte.extractLsb' 0 4

@[simp]
theorem high_ofNibbles (upper lower : Nibble) : (ofNibbles upper lower).high = upper := by
  revert upper lower
  decide

@[simp]
theorem low_ofNibbles (upper lower : Nibble) : (ofNibbles upper lower).low = lower := by
  revert upper lower
  decide

@[simp]
theorem ofNibbles_high_low (byte : Byte) : ofNibbles byte.high byte.low = byte := by
  revert byte
  decide

/-- The byte that an integer names has its residue. -/
theorem ofInt_eq_iff {number : Int} {byte : Byte} :
    BitVec.ofInt 8 number = byte ↔ (byte.toNat : Int) = number % 256 := by
  have small := byte.isLt
  rw [← BitVec.toNat_inj, BitVec.toNat_ofInt]
  omega

theorem toNat_ofInt (number : Int) : ((BitVec.ofInt 8 number).toNat : Int) = number % 256 :=
  ofInt_eq_iff.mp rfl

theorem ofInt_toNat (byte : Byte) : BitVec.ofInt 8 byte.toNat = byte := by
  have small := byte.isLt
  rw [ofInt_eq_iff]
  omega

/-- A byte as two hexadecimal digits. -/
def hex (byte : Byte) : Text :=
  Text.hexNat 2 byte.toNat

/-- The bytes two by two in hexadecimal with a blank between neighbours. -/
def spacedHex (bytes : List Byte) : Text :=
  Text.join [' '] (bytes.map hex)

end Byte

/-- A nibble as one hexadecimal digit. -/
def Nibble.hex (nibble : Nibble) : Text :=
  Text.hexNat 1 nibble.toNat

end ByteMachine
