import ByteMachine.Text.Basic

/-!
# Decimal digits and integers

A decimal digit is a character of one of the runs of ten digits of the Unicode standard, version
14.  An integer is written as an optional sign and digits of any of these runs, where a single
underscore may stand between two digits and blanks, the separator controls excepted, may stand
around the whole.
-/

namespace ByteMachine
namespace Text

/-- The zeros of the runs of ten decimal digits. -/
def digitZeros : List Nat :=
  [0x30, 0x660, 0x6F0, 0x7C0, 0x966, 0x9E6, 0xA66, 0xAE6, 0xB66, 0xBE6, 0xC66, 0xCE6, 0xD66,
   0xDE6, 0xE50, 0xED0, 0xF20, 0x1040, 0x1090, 0x17E0, 0x1810, 0x1946, 0x19D0, 0x1A80, 0x1A90,
   0x1B50, 0x1BB0, 0x1C40, 0x1C50, 0xA620, 0xA8D0, 0xA900, 0xA9D0, 0xA9F0, 0xAA50, 0xABF0,
   0xFF10, 0x104A0, 0x10D30, 0x11066, 0x110F0, 0x11136, 0x111D0, 0x112F0, 0x11450, 0x114D0,
   0x11650, 0x116C0, 0x11730, 0x118E0, 0x11950, 0x11C50, 0x11D50, 0x11DA0, 0x16A60, 0x16AC0,
   0x16B50, 0x1D7CE, 0x1D7D8, 0x1D7E2, 0x1D7EC, 0x1D7F6, 0x1E140, 0x1E2F0, 0x1E950, 0x1FBF0]

/-- The value of a decimal digit. -/
def digitValue? (c : Char) : Option Nat :=
  (digitZeros.find? fun first => first ≤ c.toNat && c.toNat ≤ first + 9).map (c.toNat - ·)

/-- The longest decimal numeral that is read, in digits. -/
def maxDecimalDigits : Nat := 4300

/-- A digit in front of the digits already read. -/
def consDigit? (c : Char) (digits : Option (List Nat)) : Option (List Nat) := do
  let digit ← digitValue? c
  return digit :: (← digits)

/-- The digits of a numeral in which single underscores may stand between digits. -/
def groupedDigits? : Text → Option (List Nat)
  | [] => none
  | [c] => (digitValue? c).map ([·])
  | c :: '_' :: rest => consDigit? c (groupedDigits? rest)
  | c :: next :: rest => consDigit? c (groupedDigits? (next :: rest))

/-- The number that a list of digits denotes in the given base, the first digit weighing most. -/
def ofDigits (base : Nat) (digits : List Nat) : Nat :=
  digits.foldl (fun value digit => value * base + digit) 0

/-- The sign before a numeral, as whether it is a minus, and the text after it. -/
def takeSign : Text → Bool × Text
  | '+' :: rest => (false, rest)
  | '-' :: rest => (true, rest)
  | text => (false, text)

/-- The blanks that may stand around an integer. -/
def isNumeralMargin (c : Char) : Bool :=
  isBlank c && !(0x1C ≤ c.toNat && c.toNat ≤ 0x1F)

/-- The integer that a text denotes; none if it denotes none or has too many digits. -/
def toInt? (text : Text) : Option Int :=
  let signed := takeSign (dropEndWhile isNumeralMargin (text.dropWhile isNumeralMargin))
  match groupedDigits? signed.2 with
  | none => none
  | some digits =>
      if digits.length ≤ maxDecimalDigits then
        some (if signed.1 then -(ofDigits 10 digits : Int) else ofDigits 10 digits)
      else none

end Text
end ByteMachine
