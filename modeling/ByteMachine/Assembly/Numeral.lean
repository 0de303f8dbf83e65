import ByteMachine.Assembly.Diagnostic
import ByteMachine.Byte
import ByteMachine.Text.Digit

/-!
# Numerals

A number is written in decimal with an optional sign and an optional `d` behind it, in binary with
an optional `b`, or in hexadecimal after `0x` or a dollar sign or before an `h`; the last form must
not begin with a letter.  The forms are tried in this order, and one whose value does not fit a byte
gives way to the next.
-/

namespace ByteMachine
namespace Numeral

/-- The value of a digit in base sixteen, of either case. -/
def hexValue? (c : Char) : Option Nat :=
  if 0x30 ≤ c.toNat ∧ c.toNat ≤ 0x39 then some (c.toNat - 0x30)
  else if 0x41 ≤ c.toNat ∧ c.toNat ≤ 0x46 then some (c.toNat - 0x37)
  else if 0x61 ≤ c.toNat ∧ c.toNat ≤ 0x66 then some (c.toNat - 0x57)
  else none

/-- The value of a digit in a base of at most sixteen. -/
def digitValue? (base : Nat) (c : Char) : Option Nat :=
  (hexValue? c).filter (· < base)

/-- The digits of a text that consists of at least one digit of the base. -/
def digits? (base : Nat) (text : Text) : Option (List Nat) :=
  if text = [] then none else text.mapM (digitValue? base)

/-- The text without the letter `mark` at its end, if it has it. -/
def dropMark (mark : Char) (text : Text) : Text :=
  if text.getLast? = some mark then text.dropLast else text

/-- The number denoted in the given base, if it fits a byte. -/
def byte? (base : Nat) (digits : List Nat) : Option Byte :=
  if Text.ofDigits base digits < 256 then some (BitVec.ofNat 8 (Text.ofDigits base digits))
  else none

/-- The byte of a signed number from -128 to 255. -/
def signedByte? (minus : Bool) (magnitude : Nat) : Option Byte :=
  if minus then
    if magnitude ≤ 128 then some (BitVec.ofInt 8 (-magnitude)) else none
  else if magnitude < 256 then some (BitVec.ofNat 8 magnitude) else none

/-- The decimal form. -/
def decimal? (text : Text) : Except OverlongNumeral (Option Byte) :=
  let signed := Text.takeSign text
  match digits? 10 (dropMark 'd' signed.2) with
  | none => .ok none
  | some digits =>
      if Text.maxDecimalDigits < digits.length then .error ⟨digits.length⟩
      else .ok (signedByte? signed.1 (Text.ofDigits 10 digits))

/-- The binary form. -/
def binary? (text : Text) : Option Byte :=
  (digits? 2 (dropMark 'b' text)).bind (byte? 2)

/-- The hexadecimal digits that one of the three hexadecimal forms marks as such. -/
def hexBody? : Text → Option Text
  | '0' :: 'x' :: body => some body
  | '$' :: body => some body
  | c :: rest =>
      if rest.getLast? = some 'h' && !c.isAlpha then some (c :: rest.dropLast) else none
  | [] => none

/-- The hexadecimal forms. -/
def hexadecimal? (text : Text) : Option Byte :=
  ((hexBody? text).bind (digits? 16)).bind (byte? 16)

/-- The byte that a numeral denotes, if it is one. -/
def read? (text : Text) : Except OverlongNumeral (Option Byte) := do
  match ← decimal? text with
  | some byte => return some byte
  | none => return (binary? text).orElse fun _ => hexadecimal? text

end Numeral
end ByteMachine
