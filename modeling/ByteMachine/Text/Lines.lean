import ByteMachine.Text.Basic

/-!
# Lines of a text

A line ends at a line feed, a carriage return, the pair of both, a vertical tab, a form feed, one
of the three upper separator controls, the next-line control or one of the two Unicode separators.
A break at the very end of a text opens no further line.  `unifyBreaks` turns the carriage return
and the pair into a line feed, as is done when a file is read.
-/

namespace ByteMachine
namespace Text

/-- The characters that end a line. -/
def isLineBreak (c : Char) : Bool :=
  (0xA ≤ c.toNat && c.toNat ≤ 0xD) || (0x1C ≤ c.toNat && c.toNat ≤ 0x1E) ||
    c.toNat == 0x85 || c.toNat == 0x2028 || c.toNat == 0x2029

/-- The lines of a text without their breaks. -/
def lines : Text → List Text
  | [] => []
  | '\r' :: '\n' :: rest => [] :: lines rest
  | c :: rest =>
      if isLineBreak c then [] :: lines rest
      else
        match lines rest with
        | [] => [[c]]
        | line :: more => (c :: line) :: more

/-- The text with each carriage return, and each pair of a carriage return and a line feed, turned
into one line feed. -/
def unifyBreaks : Text → Text
  | [] => []
  | '\r' :: '\n' :: rest => '\n' :: unifyBreaks rest
  | c :: rest => (if c = '\r' then '\n' else c) :: unifyBreaks rest

end Text
end ByteMachine
