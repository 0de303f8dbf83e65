import ByteMachine.Assembly.Numeral

/-!
# Operands

An operand is a register, an address or a string.  A register or an address may stand between
square brackets, and a statement asks for one of the two writings.  An address is a number or the
name of a label; the names of the registers are not read as labels.
-/

namespace ByteMachine

/-- Whether an operand has to stand between square brackets or must not touch one. -/
inductive Brackets
  | present
  | absent
  deriving DecidableEq, Repr

/-- An address or value as it is written: a number, or a label. -/
inductive Target
  | value (byte : Byte)
  | label (name : Text)
  deriving DecidableEq, Repr

/-- An address or value as far as the labels known so far tell it. -/
inductive Reference (α : Type)
  | known (value : α)
  | pending (name : Text)
  deriving DecidableEq, Repr

/-- The target with its label looked up. -/
def Target.resolve {α : Type} (ofByte : Byte → α) (find : Text → Option α) :
    Target → Reference α
  | value byte => .known (ofByte byte)
  | label name =>
      match find name with
      | some known => .known known
      | none => .pending name

namespace Operand

/-- Whether a text opens with a bracket and ends with one. -/
def isBracketed (text : Text) : Bool :=
  text.head? == some '[' && text.getLast? == some ']'

/-- Whether a text has the brackets that are asked for. -/
def fits : Brackets → Text → Bool
  | .present, text => isBracketed text
  | .absent, text => text.head? != some '[' && text.getLast? != some ']'

/-- The text between the brackets, trimmed, or the whole text when it has none. -/
def inner (text : Text) : Text :=
  if isBracketed text then Text.trim (text.drop 1).dropLast else text

/-- The number of a register that a text names. -/
def registerNumber? : Text → Option Nibble
  | ['R', c] => if c.isLower then none else (Numeral.hexValue? c).map (BitVec.ofNat 4)
  | _ => none

/-- The register that an operand with the given brackets names. -/
def register? (brackets : Brackets) (text : Text) : Option Nibble :=
  if fits brackets text then registerNumber? (inner text) else none

/-- The characters of labels. -/
def isLabelChar (c : Char) : Bool :=
  c.isAlphanum || c == '#' || c == '_' || c == '~'

/-- Whether a text is the name of a label: label characters, the first of them no digit. -/
def isLabelName : Text → Bool
  | [] => false
  | c :: rest => !c.isDigit && (c :: rest).all isLabelChar

/-- Whether a text is the name of a label followed by a colon. -/
def isLabelDefinition (text : Text) : Bool :=
  text.getLast? == some ':' && isLabelName text.dropLast

/-- The address that an operand with the given brackets names. -/
def target? (brackets : Brackets) (text : Text) : Except OverlongNumeral (Option Target) :=
  if fits brackets text then do
    match ← Numeral.read? (inner text) with
    | some byte => return some (.value byte)
    | none =>
        if (registerNumber? (inner text)).isNone && isLabelName (inner text) then
          return some (.label (inner text))
        else return none
  else .ok none

/-- The characters between two equal quotation marks, taken as they stand. -/
def string? : Text → Option Text
  | [] => none
  | mark :: rest =>
      if (mark = '"' ∨ mark = '\'') ∧ rest.getLast? = some mark then some rest.dropLast else none

end Operand
end ByteMachine
