import ByteMachine.Store

/-!
# Dumps

Bytes are shown as rows of eight words in hexadecimal, each row after its offset; registers are
shown in rows of eight.
-/

namespace ByteMachine

/-- The items in rows of `width + 1`; the last row may be shorter. -/
def rows {α : Type} (width : Nat) : List α → List (List α)
  | [] => []
  | item :: rest => (item :: rest.take width) :: rows width (rest.drop width)
termination_by items => items.length
decreasing_by simp only [List.length_drop, List.length_cons]; omega

/-- Two bytes, or an odd last one, in hexadecimal. -/
def pairHex (pair : List Byte) : Text :=
  pair.flatMap Byte.hex

/-- A row of a dump, which starts at an offset. -/
def dumpRow (offset : Nat) (bytes : List Byte) : Text :=
  Text.hexNat 2 offset ++ ": ".toList ++ Text.join [' '] ((rows 1 bytes).map pairHex)

/-- Bytes in hexadecimal, eight words on a row. -/
def hexDump (bytes : List Byte) : Text :=
  Text.joinLines ((rows 15 bytes).zipIdx.map fun row => dumpRow (16 * row.2) row.1)

/-- Registers in rows of eight. -/
def registerDump (values : List Byte) : Text :=
  Text.joinLines ((rows 7 (registerCells values)).map (Text.join [' ']))

end ByteMachine
