import ByteMachine.Text.Basic

/-!
# Hexadecimal and decimal numerals

Numbers are written in upper-case hexadecimal with a least width, the sign of a negative number
counting towards the width, and in plain decimal.
-/

namespace ByteMachine
namespace Text

/-- The upper-case digit of a number below sixteen. -/
def hexDigit (n : Nat) : Char :=
  if n < 10 then Char.ofNat (0x30 + n) else Char.ofNat (0x37 + n)

/-- The hexadecimal digits of a number, with no leading zero beyond a single one. -/
def hexDigits (n : Nat) : Text :=
  if n < 16 then [hexDigit n] else hexDigits (n / 16) ++ [hexDigit (n % 16)]

/-- A number in hexadecimal, with zeros in front up to the given width. -/
def hexNat (width n : Nat) : Text :=
  padStart '0' width (hexDigits n)

/-- An integer in hexadecimal; a minus takes one place of the width. -/
def hexInt (width : Nat) : Int → Text
  | .ofNat n => hexNat width n
  | .negSucc n => '-' :: hexNat (width - 1) (n + 1)

/-- A number in decimal. -/
def decimalNat (n : Nat) : Text :=
  Nat.toDigits 10 n

/-- An integer in decimal. -/
def decimalInt : Int → Text
  | .ofNat n => decimalNat n
  | .negSucc n => '-' :: decimalNat (n + 1)

end Text
end ByteMachine
