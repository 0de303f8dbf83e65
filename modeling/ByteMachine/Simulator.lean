import ByteMachine.Assembly.Program
import ByteMachine.Machine.Run
import ByteMachine.Settings

/-!
# The simulator

A simulator is a machine together with an assembler that loads programs into it.  It keeps what the
machine prints.  A source that cannot be assembled leaves the machine as it is.
-/

namespace ByteMachine

/-- What a simulator has besides its machine; `σ` is what its own surroundings keep. -/
structure Simulator (σ : Type) where
  /-- How the simulator behaves. -/
  settings : Settings
  /-- The assembler that assembled the last source. -/
  assembler : Assembler
  /-- The characters printed since the last time they were cleared. -/
  printed : Array Char
  /-- What the surroundings of the simulator keep. -/
  host : σ

/-- Why something done with a simulator fails. -/
inductive Failure
  /-- The source cannot be assembled. -/
  | refused (fault : Fault Diagnostic)
  /-- A listener failed with a message. -/
  | raised (message : Text)
  deriving DecidableEq, Repr

namespace Simulator

variable {σ : Type}

/-- A new simulator with a new machine. -/
def world (settings : Settings) (host : σ) : World (Simulator σ) where
  machine := Machine.fresh settings.outputAddress
  surroundings := ⟨settings, Assembler.fresh, #[], host⟩

/-- What can be done with a simulator. -/
abbrev Activity (σ α : Type) := Action Failure (Simulator σ) α

/-- What hears the notices of a simulator's machine. -/
abbrev Hearer (σ : Type) := Listener Failure (Simulator σ)

/-- The character of a byte. -/
def character (byte : Byte) : Char :=
  Char.ofNat byte.toNat

/-- The text that was printed. -/
def output (simulator : Simulator σ) : Text :=
  simulator.printed.toList

/-- What the surroundings of the simulator keep. -/
def Activity.host : Activity σ σ :=
  return (← Action.surroundings).host

/-- Changes what the surroundings of the simulator keep. -/
def Activity.changeHost (change : σ → σ) : Activity σ Unit :=
  Action.changeSurroundings fun simulator => { simulator with host := change simulator.host }

/-- Keeps the characters that are printed, before others hear of them. -/
def collecting (hear : Hearer σ) : Hearer σ := fun notice => do
  if let .output byte := notice then
    Action.changeSurroundings fun simulator =>
      { simulator with printed := simulator.printed.push (character byte) }
  hear notice

/-- Forgets what was printed. -/
def clearOutput : Activity σ Unit :=
  Action.changeSurroundings fun simulator => { simulator with printed := #[] }

variable (hear : Hearer σ)

/-- Puts a program into memory from address zero on and sets the program counter to zero. -/
def load (words : List Word) : Activity σ Unit := do
  if (← Action.surroundings).settings.clearsMemory then Action.clearMemory hear
  Action.loadWords hear words
  Action.resetCounter hear

/-- Assembles a source. -/
def assemble (file source : Text) : Activity σ (List Word) := do
  let (result, assembler) := (← Action.surroundings).assembler.assemble file source
  Action.changeSurroundings fun simulator => { simulator with assembler }
  match result with
  | .ok words => return words
  | .error fault => Action.fail (.refused fault)

/-- Assembles a source and loads its program. -/
def assembleAndLoad (file source : Text) : Activity σ (List Word) := do
  let words ← assemble file source
  load hear words
  return words

/-- Sets memory, registers and program counter to zero and forgets what was printed. -/
def reset : Activity σ Unit := do
  Action.clearMemory hear
  Action.clearRegisters hear
  Action.resetCounter hear
  clearOutput

/-- Executes one instruction. -/
def step : Activity σ Stop := do
  let word ← Action.step hear
  let counter := (← Action.machine).counter
  let stop :=
    if word.operation = .halt then Stop.halted (counter - 2).toNat else Stop.stepped counter.toNat
  return stop.after 1

/-- Runs the machine.  Without a number of instructions that of the settings counts. -/
def run (limit : Option Int) : Activity σ Stop := do
  let limit := limit.getD (← Action.surroundings).settings.maxSteps
  Action.run hear 0 (some limit)

end Simulator
end ByteMachine
