import ByteMachine.Text.Basic

/-!
# What a tool prints

A tool prints on two streams: what it was asked for on the output, everything else among the
messages.  Lines of the log stand among the messages too, if their level is shown.
-/

namespace ByteMachine

/-- What was printed. -/
structure Terminal where
  /-- The output. -/
  output : Array Char
  /-- The messages. -/
  messages : Array Char
  deriving DecidableEq, Repr

/-- How important a line of the log is. -/
inductive LogLevel
  | debug
  | info
  | warning
  deriving DecidableEq, Repr

namespace LogLevel

/-- The name of a level. -/
def name : LogLevel → Text
  | debug => "DEBUG".toList
  | info => "INFO".toList
  | warning => "WARNING".toList

/-- Whether lines of a level are printed; most are only when much is to be said. -/
def isShown (verbose : Bool) (level : LogLevel) : Bool :=
  verbose || level = warning

end LogLevel

namespace Terminal

/-- Nothing is printed yet. -/
def blank : Terminal :=
  ⟨#[], #[]⟩

/-- The terminal with more output. -/
def addOutput (text : Text) (terminal : Terminal) : Terminal :=
  { terminal with output := terminal.output ++ text }

/-- The terminal with more messages. -/
def addMessages (text : Text) (terminal : Terminal) : Terminal :=
  { terminal with messages := terminal.messages ++ text }

/-- Prints a line of the log among the messages, if its level is shown. -/
def log (verbose : Bool) (level : LogLevel) (text : Text) (terminal : Terminal) : Terminal :=
  if level.isShown verbose then terminal.addMessages (level.name ++ ": ".toList ++ text ++ ['\n'])
  else terminal

end Terminal
end ByteMachine
