import ByteMachine.Assembly.Diagnostic

/-!
# How a tool fails

A tool that fails prints a message and ends with an exit code that tells whose fault it was: that of
the source, of the arguments and files, or of the tool itself.
-/

namespace ByteMachine

/-- How a tool ends. -/
inductive ExitCode
  | success
  /-- The source is at fault. -/
  | buildError
  /-- The arguments or the files are at fault. -/
  | invalidArguments
  /-- The tool is at fault. -/
  | internalError
  deriving DecidableEq, Repr

namespace ExitCode

/-- The number of an exit code. -/
def number : ExitCode → Nat
  | success => 0
  | buildError => 1
  | invalidArguments => 2
  | internalError => 3

end ExitCode

/-- Why a tool fails. -/
inductive ToolFailure
  /-- The source cannot be assembled. -/
  | diagnosed (diagnostic : Diagnostic)
  /-- The library fails with a message. -/
  | plain (message : Text)
  /-- An argument is invalid. -/
  | argument (message : Text)
  /-- A file cannot be read or written. -/
  | file (message : Text)
  /-- Anything else. -/
  | internal (message : Text)
  deriving DecidableEq, Repr

namespace ToolFailure

/-- The failure for a source that cannot be assembled. -/
def ofFault : Fault Diagnostic → ToolFailure
  | .reported diagnostic => diagnosed diagnostic
  | .overlong numeral => internal numeral.message

/-- The exit code of a failure. -/
def exitCode : ToolFailure → ExitCode
  | diagnosed _ | plain _ => .buildError
  | argument _ | file _ => .invalidArguments
  | internal _ => .internalError

/-- What stands before a message: the kind of error if it has a name. -/
def heading (kind : Text) : Text :=
  if kind = [] then "Error: ".toList else kind ++ " error: ".toList

/-- What is printed for a failure.  A diagnostic with a place needs no heading. -/
def text (kind : Text) : ToolFailure → Text
  | diagnosed diagnostic =>
      if diagnostic.location.isSome then diagnostic.message else heading kind ++ diagnostic.message
  | plain message => heading kind ++ message
  | argument message | file message => "Error: ".toList ++ message
  | internal message => "Internal error: ".toList ++ message

end ToolFailure
end ByteMachine
