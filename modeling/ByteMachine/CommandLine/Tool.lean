import ByteMachine.CommandLine.Platform
import ByteMachine.Text.Lines
import ByteMachine.Text.Quoted
import ByteMachine.Text.Utf8

/-!
# Tools

All tools have the same version and read one source file, which their only operand names.
-/

namespace ByteMachine

/-- Name of the operand of every tool. -/
def inputOperand : Text :=
  "INPUT_FILE".toList

/-- The version of the tools. -/
def toolVersion : Text :=
  "1.0.0".toList

/-- The source in a file, whose line breaks are made alike. -/
def readSource (files : Files) (file : Text) : Except ToolFailure Text :=
  match files.find? file with
  | some (.file bytes) =>
      match Text.decodeUtf8 bytes with
      | .ok text => .ok text.unifyBreaks
      | .error fault => .error (.file fault.message)
  | some .directory => .error (.internal (PathFault.isDirectory.message (Text.escaped file)))
  | none => .error (.file (PathFault.missing.message (Text.escaped file)))

end ByteMachine
