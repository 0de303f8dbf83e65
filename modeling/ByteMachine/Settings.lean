import ByteMachine.Machine.Basic
import ByteMachine.Text.Digit
import ByteMachine.Text.LowerCase

/-!
# Settings

The settings of a simulator have usual values, of which some can be changed by variables of the
environment.  A variable whose value makes no sense changes nothing.
-/

namespace ByteMachine

/-- How a simulator behaves. -/
structure Settings where
  /-- Number of instructions that a run may execute when no other number is given. -/
  maxSteps : Int
  /-- Whether all memory is set to zero before a program is loaded. -/
  clearsMemory : Bool
  /-- The address at which stores print a character. -/
  outputAddress : Int
  deriving DecidableEq, Repr

namespace Settings

/-- The usual settings. -/
def usual : Settings :=
  ⟨10000, true, Machine.defaultOutput⟩

/-- The environment variable with the number of instructions. -/
def maxStepsVariable : Text :=
  "SIMPSIM_MAX_STEPS".toList

/-- The environment variable that says whether memory is set to zero. -/
def clearMemoryVariable : Text :=
  "SIMPSIM_CLEAR_MEMORY".toList

/-- Words that mean yes. -/
def affirmatives : List Text :=
  ["1".toList, "true".toList, "yes".toList, "on".toList]

/-- Words that mean no. -/
def negatives : List Text :=
  ["0".toList, "false".toList, "no".toList, "off".toList]

/-- The answer that a text gives to a question, in any letter case and with blanks around it. -/
def answer? (text : Text) : Option Bool :=
  let word := Text.lower (Text.trim text)
  if word ∈ affirmatives then some true
  else if word ∈ negatives then some false
  else none

/-- The settings in an environment that gives values to some variables. -/
def ofEnvironment (value : Text → Option Text) : Settings :=
  { usual with
    maxSteps := ((value maxStepsVariable).bind Text.toInt?).getD usual.maxSteps
    clearsMemory := ((value clearMemoryVariable).bind answer?).getD usual.clearsMemory }

end Settings
end ByteMachine
