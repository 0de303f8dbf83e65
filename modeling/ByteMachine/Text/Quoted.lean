import ByteMachine.Text.Hexadecimal
import ByteMachine.Text.Printable

/-!
# Quoted text

A text as it is named inside a message: between single quotation marks, or between double ones when
it holds a single mark and no double one.  The mark around it and the backslash are escaped, the
tab and the two line breaks have an escape of a letter, and any other character that is not
printable is written by its code point in lower-case hexadecimal.
-/

namespace ByteMachine
namespace Text

/-- A code point in lower-case hexadecimal. -/
def lowerHexNat (width n : Nat) : Text :=
  (hexNat width n).map Char.toLower

/-- A character inside a text that stands between two of the characters `mark`. -/
def escapeChar (mark c : Char) : Text :=
  if c = mark || c = '\\' then ['\\', c]
  else if c = '\t' then ['\\', 't']
  else if c = '\n' then ['\\', 'n']
  else if c = '\r' then ['\\', 'r']
  else if isPrintable c then [c]
  else if c.toNat < 0x100 then '\\' :: 'x' :: lowerHexNat 2 c.toNat
  else if c.toNat < 0x10000 then '\\' :: 'u' :: lowerHexNat 4 c.toNat
  else '\\' :: 'U' :: lowerHexNat 8 c.toNat

/-- The character that stands around a text when it is quoted. -/
def quotationMark (text : Text) : Char :=
  if text.contains '\'' && !text.contains '"' then '"' else '\''

/-- A text as it is named inside a message. -/
def escaped (text : Text) : Text :=
  quotationMark text :: text.flatMap (escapeChar (quotationMark text)) ++ [quotationMark text]

end Text
end ByteMachine
