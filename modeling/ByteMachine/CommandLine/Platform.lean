import ByteMachine.CommandLine.Failure
import ByteMachine.CommandLine.Files
import ByteMachine.CommandLine.Terminal

/-!
# What a tool stands on

A tool declares its options and leaves its arguments to a library, which either calls the tool with
what they say or answers them by itself.  The tool prints by the same library, which may leave out
control sequences on a stream that is no terminal; and where a failure of the tool itself comes from
is told by the runtime.  A tool is a function of its platform: nothing is assumed of it here.
-/

namespace ByteMachine

/-- What the value of an option is. -/
inductive OptionKind
  /-- The name of a file, which need not be there but must not be a directory. -/
  | file
  /-- An integer that is not less than a bound. -/
  | integer (least : Int)
  /-- The option has no value. -/
  | flag
  deriving DecidableEq, Repr

/-- How an option is declared. -/
structure OptionForm (ο : Type) where
  /-- The option. -/
  option : ο
  /-- The character after a single dash. -/
  short : Option Char
  /-- The name with its two dashes. -/
  long : Text
  /-- What its value is. -/
  kind : OptionKind

/-- What a tool says about itself.  Its only operand is the name of a file that has to be there. -/
structure Declaration (ο : Type) where
  /-- Name of the tool. -/
  name : Text
  /-- The version of the tool. -/
  version : Text
  /-- Name of the operand. -/
  operand : Text
  /-- How the tool is used, below the line with its name. -/
  help : List Text
  /-- The options of the tool. -/
  forms : List (OptionForm ο)

/-- What a tool is called with. -/
structure Arguments (ο : Type) where
  /-- The operand. -/
  input : Text
  /-- The file that an option names. -/
  file? : ο → Option Text
  /-- The integer that is the value of an option. -/
  integer? : ο → Option Int
  /-- Whether an option without a value is given. -/
  has : ο → Bool

/-- What a library makes of arguments. -/
inductive Reply (ο : Type)
  /-- It calls the tool. -/
  | call (arguments : Arguments ο)
  /-- It prints something and ends. -/
  | answer (exitCode : ExitCode) (terminal : Terminal)

/-- A library that calls tools and prints for them, and a runtime. -/
structure Platform where
  /-- What is made of the arguments of a tool that sees some files. -/
  read {ο : Type} [DecidableEq ο] (tool : Declaration ο) (files : Files) (given : List Text) : Reply ο
  /-- A text as it is printed on a stream that is no terminal. -/
  shown (text : Text) : Text
  /-- What is told of where a failure comes from. -/
  traceback (failure : ToolFailure) : Text

/-- What a tool leaves behind. -/
structure Outcome where
  /-- How the tool ended. -/
  exitCode : ExitCode
  /-- What it printed. -/
  terminal : Terminal
  /-- The files afterwards. -/
  files : Files

/-- The kind of error that a tool names when a source is at fault. -/
def assemblyKind : Text :=
  "Assembly".toList

namespace Platform

variable (platform : Platform)

/-- Prints a text on the output. -/
def put (text : Text) : Terminal → Terminal :=
  .addOutput (platform.shown text)

/-- Prints a line on the output. -/
def say (text : Text) : Terminal → Terminal :=
  platform.put (text ++ ['\n'])

/-- Prints a line among the messages. -/
def report (text : Text) : Terminal → Terminal :=
  .addMessages (platform.shown (text ++ ['\n']))

/-- Prints what is said about a failure; for a failure of the tool itself this includes where it comes
from, if much is to be said. -/
def reportFailure (verbose : Bool) (kind : Text) (failure : ToolFailure) (terminal : Terminal) :
    Terminal :=
  let reported := platform.report (failure.text kind) terminal
  match failure with
  | .internal _ => if verbose then reported.addMessages (platform.traceback failure) else reported
  | _ => reported

/-- The outcome when the work of a tool has failed. -/
def failed (verbose : Bool) (failure : ToolFailure) (terminal : Terminal) (files : Files) : Outcome :=
  ⟨failure.exitCode, platform.reportFailure verbose assemblyKind failure terminal, files⟩

/-- What a tool leaves behind that is given some arguments. -/
def call {ο : Type} [DecidableEq ο] (tool : Declaration ο) (files : Files) (given : List Text)
    (work : Arguments ο → Outcome) : Outcome :=
  match platform.read tool files given with
  | .call arguments => work arguments
  | .answer exitCode terminal => ⟨exitCode, terminal, files⟩

end Platform
end ByteMachine
