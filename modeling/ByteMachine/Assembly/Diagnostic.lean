import ByteMachine.Text.Hexadecimal

/-!
# What is wrong with a source text

A cause says what is wrong, a diagnostic also where: in which file, line and column, and what the
line says.  Its message has the place and the description on the first line, then the source line
with a caret under the column, then a hint, each only when it is known.  A decimal numeral with too
many digits is no diagnostic but a fault of its own, and it has no place.
-/

namespace ByteMachine

/-- A place in a source file. -/
structure Location where
  /-- Name of the file. -/
  file : Text
  /-- Line number, counted from one. -/
  line : Int
  /-- Column number, counted from one. -/
  column : Int
  deriving DecidableEq, Repr

/-- The place as it stands in front of a message. -/
def Location.text (location : Location) : Text :=
  location.file ++ ':' :: Text.decimalInt location.line ++ ':' :: Text.decimalInt location.column

/-- What is wrong. -/
inductive Cause
  /-- A fault that only its description tells. -/
  | general (description : Text) (hint : Option Text)
  /-- The operands do not suit the mnemonic. -/
  | operands (description : Text) (hint : Option Text)
  /-- A number does not fit its field. -/
  | range (value greatest : Int)
  /-- What stands before a colon is no label. -/
  | label (label : Text)
  /-- The mnemonic names no instruction and no directive. -/
  | mnemonic (mnemonic : Text)
  /-- A label is used but never defined; `similar` are defined labels much like it. -/
  | undefinedSymbol (symbol : Text) (hint : Option Text) (similar : List Text)
  deriving DecidableEq, Repr

namespace Cause

/-- The description of a cause in one line. -/
def description : Cause → Text
  | general text _ => text
  | operands text _ => text
  | range _ greatest =>
      "Number cannot be larger than ".toList ++ Text.decimalInt greatest ++ ['.']
  | label text => "invalid label ".toList ++ Text.quoted text
  | mnemonic text => "unrecognized mnemonic ".toList ++ Text.quoted text
  | undefinedSymbol symbol _ _ => "undefined symbol ".toList ++ Text.quoted symbol

/-- The question that offers similar labels, at most three of them. -/
def suggestion (similar : List Text) : Text :=
  "did you mean ".toList ++ Text.join [',', ' '] ((similar.take 3).map Text.quoted) ++ ['?']

/-- The hint that goes with a cause; a given hint that is not empty stands before a suggestion. -/
def hint : Cause → Option Text
  | general _ given => given
  | operands _ given => given
  | range value _ => some ("got ".toList ++ Text.decimalInt value)
  | label _ =>
      some ("labels use letters, digits, '#', '_' or '~' and cannot start with a digit".toList)
  | mnemonic _ => none
  | undefinedSymbol _ given similar =>
      if given.getD [] = [] && similar ≠ [] then some (suggestion similar) else given

end Cause

/-- A cause with the place where it arose. -/
structure Diagnostic where
  /-- What is wrong. -/
  cause : Cause
  /-- The place, when it is known. -/
  location : Option Location
  /-- The line at that place, when it is known. -/
  sourceLine : Option Text
  deriving DecidableEq, Repr

namespace Diagnostic

/-- A cause whose place is not known. -/
def ofCause (cause : Cause) : Diagnostic :=
  ⟨cause, none, none⟩

/-- The diagnostic with a place; a place already known stays. -/
def locatedAt (diagnostic : Diagnostic) (location : Option Location) (sourceLine : Option Text) :
    Diagnostic :=
  match diagnostic.location with
  | some _ => diagnostic
  | none => { diagnostic with location, sourceLine }

/-- The line that says what is wrong and where. -/
def headLine (diagnostic : Diagnostic) : Text :=
  (match diagnostic.location with
    | some location => location.text ++ ": ".toList
    | none => []) ++
    "error: ".toList ++ diagnostic.cause.description

/-- The source line, and the caret under the column when the column is positive. -/
def excerpt (diagnostic : Diagnostic) : List Text :=
  match diagnostic.location, diagnostic.sourceLine with
  | some location, some line =>
      ("    ".toList ++ line) ::
        (if 0 < location.column then
          [List.replicate (4 + location.column - 1).toNat ' ' ++ ['^']]
        else [])
  | _, _ => []

/-- The line with the hint, when there is one that is not empty. -/
def hintLine (diagnostic : Diagnostic) : List Text :=
  match diagnostic.cause.hint with
  | none | some [] => []
  | some hint => ["hint: ".toList ++ hint]

/-- The whole message. -/
def message (diagnostic : Diagnostic) : Text :=
  Text.joinLines (diagnostic.headLine :: diagnostic.excerpt ++ diagnostic.hintLine)

end Diagnostic

/-- A decimal numeral with too many digits. -/
structure OverlongNumeral where
  /-- How many digits it has. -/
  digits : Nat
  deriving DecidableEq, Repr

/-- The message for a numeral with too many digits. -/
def OverlongNumeral.message (numeral : OverlongNumeral) : Text :=
  "Exceeds the limit (4300 digits) for integer string conversion: value has ".toList ++
    Text.decimalNat numeral.digits ++
    " digits; use sys.set_int_max_str_digits() to increase the limit".toList

/-- Why a source is not assembled: a fault that is reported as an `ε`, or a numeral with too many
digits. -/
inductive Fault (ε : Type)
  | reported (report : ε)
  | overlong (numeral : OverlongNumeral)
  deriving DecidableEq, Repr

/-- The fault with its report changed. -/
def Fault.map {ε δ : Type} (change : ε → δ) : Fault ε → Fault δ
  | reported report => .reported (change report)
  | overlong numeral => .overlong numeral

end ByteMachine
