import ByteMachine.Text.Basic

/-!
# Terminal control sequences

A control sequence is an escape character, an opening bracket, parameters made of digits, semicolons
and question marks, and a letter.  What goes to a file and not to a terminal is written without
control sequences; an escape character that begins none stays.
-/

namespace ByteMachine
namespace Text

/-- The character that begins a control sequence. -/
def escapeCharacter : Char :=
  Char.ofNat 0x1B

/-- A character of the parameters of a control sequence. -/
def isSequenceParameter (c : Char) : Bool :=
  c = ';' || c = '?' || c.isDigit

/-- The text without control sequences, where `held` is the beginning of one that comes before the
text, last character first. -/
def withoutSequencesAfter (held : Text) : Text → Text
  | [] => held.reverse
  | c :: rest =>
      if 1 < held.length && isSequenceParameter c || held.length = 1 && c = '[' then
        withoutSequencesAfter (c :: held) rest
      else if 1 < held.length && c.isAlpha then withoutSequencesAfter [] rest
      else if c = escapeCharacter then held.reverse ++ withoutSequencesAfter [c] rest
      else held.reverse ++ c :: withoutSequencesAfter [] rest

/-- The text without control sequences. -/
def withoutSequences (text : Text) : Text :=
  withoutSequencesAfter [] text

end Text
end ByteMachine
