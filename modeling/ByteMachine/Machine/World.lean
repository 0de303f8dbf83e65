import ByteMachine.Machine.Basic

/-!
# The machine and its surroundings

A machine announces every change of its state to its surroundings, after it has made the change.
What the surroundings do with a notice is an action like any other: it may look at the machine,
change it, make it execute, or fail.  So an operation that changes the machine is given the listener
that hears its notices, and when the listener fails the operation ends at that notice.
-/

namespace ByteMachine

/-- The announcement of a change. -/
inductive Notice
  /-- A register has got a value. -/
  | registerChanged (register : Nibble) (value : Byte)
  /-- A memory cell has got a value. -/
  | memoryChanged (address value : Byte)
  /-- The program counter has got a value. -/
  | counterChanged (counter : Byte)
  /-- The instruction register has got a word. -/
  | instructionChanged (word : Word)
  /-- The machine was started or has come to rest. -/
  | modeChanged (mode : Mode)
  /-- A store has printed a character. -/
  | output (character : Byte)
  deriving DecidableEq, Repr

/-- A machine with what its surroundings keep. -/
structure World (σ : Type) where
  /-- The machine. -/
  machine : Machine
  /-- What the surroundings keep. -/
  surroundings : σ

/-- Why an action does not end. -/
inductive Interruption (ε : Type)
  /-- It has failed. -/
  | failed (failure : ε)
  /-- It has taken longer than was allowed. -/
  | unfinished
  deriving DecidableEq, Repr

/-- What can be done in a world, with failures of a type `ε`. -/
abbrev Action (ε σ α : Type) := EStateM (Interruption ε) (World σ) α

/-- What the surroundings do when they hear a notice. -/
abbrev Listener (ε σ : Type) := Notice → Action ε σ Unit

namespace Action

variable {ε σ : Type}

/-- The machine as it is now. -/
def machine : Action ε σ Machine :=
  return (← get).machine

/-- Changes the machine without a notice. -/
def changeMachine (change : Machine → Machine) : Action ε σ Unit :=
  modify fun world => { world with machine := change world.machine }

/-- What the surroundings keep. -/
def surroundings : Action ε σ σ :=
  return (← get).surroundings

/-- Changes what the surroundings keep. -/
def changeSurroundings (change : σ → σ) : Action ε σ Unit :=
  modify fun world => { world with surroundings := change world.surroundings }

/-- Ends the action with a failure. -/
def fail {α : Type} (failure : ε) : Action ε σ α :=
  throw (.failed failure)

/-- Changes what stops a run. -/
def changeControl (change : StopControl → StopControl) : Action ε σ Unit :=
  changeMachine fun machine => { machine with control := change machine.control }

/-- Takes the reason to stop before the next instruction, if there is one. -/
def takeStop (address : Int) (breakpoints : Bool) : Action ε σ (Option Stop) := do
  let (stop, control) := (← machine).control.check address breakpoints
  changeControl fun _ => control
  return stop

/-- Asks a machine to stop, if it is running. -/
def requestStop : Action ε σ Unit := do
  if (← machine).mode = .running then changeControl StopControl.request

variable (hear : Listener ε σ)

/-- Gives a register a value. -/
def setRegister (register : Nibble) (value : Byte) : Action ε σ Unit := do
  changeMachine fun machine =>
    { machine with registers := machine.registers.write register value }
  hear (.registerChanged register value)

/-- Gives a memory cell a value. -/
def setMemory (address value : Byte) : Action ε σ Unit := do
  changeMachine fun machine => { machine with memory := machine.memory.write address value }
  hear (.memoryChanged address value)

/-- Gives the program counter a value. -/
def setCounter (counter : Byte) : Action ε σ Unit := do
  changeMachine fun machine => { machine with counter }
  hear (.counterChanged counter)

/-- Gives the instruction register a word. -/
def setInstruction (word : Word) : Action ε σ Unit := do
  changeMachine fun machine => { machine with instruction := word }
  hear (.instructionChanged word)

/-- Starts the machine or brings it to rest; there is a notice only if that is a change. -/
def setMode (mode : Mode) : Action ε σ Unit := do
  if (← machine).mode ≠ mode then
    changeMachine fun machine => { machine with mode }
    hear (.modeChanged mode)

/-- Makes writes to registers, one after the other. -/
def writeRegisters (changes : List (Store.Write 4)) : Action ε σ Unit :=
  changes.forM fun change => setRegister hear change.index change.value

/-- Makes writes to memory, one after the other. -/
def writeMemory (changes : List (Store.Write 8)) : Action ε σ Unit :=
  changes.forM fun change => setMemory hear change.index change.value

/-- Sets all registers to zero. -/
def clearRegisters : Action ε σ Unit :=
  writeRegisters hear (Store.clearing 4)

/-- Sets all memory cells to zero. -/
def clearMemory : Action ε σ Unit :=
  writeMemory hear (Store.clearing 8)

/-- Puts numbers into consecutive cells. -/
def loadBytes (address : Int) (data : List Int) : Action ε σ Unit :=
  writeMemory hear (Store.loadingNumbers address data)

/-- Puts words into memory from address zero on. -/
def loadWords (words : List Word) : Action ε σ Unit :=
  writeMemory hear (Store.loadingWords 0 words)

/-- Sets the program counter to zero. -/
def resetCounter : Action ε σ Unit :=
  setCounter hear 0

end Action
end ByteMachine
