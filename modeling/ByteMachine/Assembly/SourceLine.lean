import ByteMachine.Assembly.Statement

/-!
# Lines of source

A line consists of a label with a colon, a mnemonic, operands with commas between them, and a
comment after a semicolon; each part may be missing.  The comment is cut off first, then the label.
Blanks around the parts do not count, except that none may stand between a label and its colon.
-/

namespace ByteMachine

/-- A line of source taken apart. -/
structure SourceLine where
  /-- The label without its colon. -/
  label : Option Text
  /-- The mnemonic as it is written. -/
  mnemonic : Option Text
  /-- The operands, trimmed. -/
  operands : List Text
  /-- The comment, trimmed; empty when there is none. -/
  comment : Text
  deriving DecidableEq, Repr

namespace SourceLine

/-- A line without its label and its comment. -/
def ofBody (label : Option Text) (body comment : Text) : SourceLine :=
  match Text.trim body with
  | [] => ⟨label, none, [], comment⟩
  | trimmed =>
      let word := Text.firstWord trimmed
      ⟨label, some word.1,
        if word.2 = [] then [] else (Text.pieces ',' word.2).map Text.trim, comment⟩

/-- The parts of a line. -/
def ofText (text : Text) : Except Cause SourceLine :=
  let code := Text.cut ';' text
  let comment := Text.trim (code.2.getD [])
  let labelled := Text.cut ':' code.1
  match labelled.2 with
  | none => .ok (ofBody none code.1 comment)
  | some body =>
      let name := Text.trimStart labelled.1
      if Operand.isLabelName name then .ok (ofBody (some name) body comment)
      else .error (.label (name ++ [':']))

/-- The mnemonic and the operands, as they are shown. -/
def text (line : SourceLine) : Text :=
  Text.trim (line.mnemonic.getD [] ++ ' ' :: Text.join [','] line.operands)

/-- The statement of a line, if it has one. -/
def statement (line : SourceLine) : Except (Fault Cause) (Option Statement) :=
  match line.mnemonic with
  | none => .ok none
  | some mnemonic => some <$> Statement.ofParts mnemonic line.operands

end SourceLine
end ByteMachine
