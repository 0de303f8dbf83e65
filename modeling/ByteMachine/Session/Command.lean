import ByteMachine.Machine.StopCommand
import ByteMachine.Simulator

/-!
# Commands to a simulator

A session with a simulator is a list of commands.  Among them are those that let something listen to
the machine: recorders write down what they hear, and reactions give commands of their own when they
are called, which may change the machine, run it, add listeners, or fail.  Registers, addresses and
values are given as integers of any size.
-/

namespace ByteMachine

/-- What a notice is about. -/
inductive Topic
  | register
  | memory
  | counter
  | instruction
  | mode
  | output
  deriving DecidableEq, Repr

/-- What a notice is about. -/
def Notice.topic : Notice → Topic
  | registerChanged .. => .register
  | memoryChanged .. => .memory
  | counterChanged .. => .counter
  | instructionChanged .. => .instruction
  | modeChanged .. => .mode
  | output .. => .output

/-- A request to a simulator. -/
inductive Command
  /-- Calls the recorder of each topic for every notice, once more than before. -/
  | subscribe (topics : List Topic)
  /-- Calls the recorder of each topic once less than before. -/
  | unsubscribe (topics : List Topic)
  /-- Lets a new listener react to each of its calls, which are counted from one. -/
  | hook (topic : Topic) (react : Nat → Option Command)
  /-- Fails with a message. -/
  | raise (message : Text)
  /-- Assembles a source and puts its words into memory. -/
  | loadSource (source : Text)
  | loadWords (words : List Word)
  | loadBytes (address : Int) (data : List Int)
  | setCounter (counter : Int)
  | setInstruction (word : Word)
  | resetCounter
  | clearMemory
  | clearRegisters
  | readRegister (register : Int)
  | writeRegister (register value : Int)
  | readMemory (address : Int)
  | writeMemory (address value : Int)
  /-- Executes one word. -/
  | step
  /-- Executes a number of words. -/
  | steps (times : Nat)
  | run (limit : Option Int)
  | runUntil (address : Int) (limit : Option Int)
  | requestStop
  | isRunning
  | snapshot
  | control (command : StopCommand)
  /-- Assembles a source and loads its program into the simulator. -/
  | load (file source : Text)
  /-- Executes one word and tells why execution ends after it. -/
  | stepOnce
  /-- Runs with the number of instructions of the settings unless another one is given. -/
  | runWithin (limit : Option Int)
  | reset
  | clearOutput
  | symbols

/-- A reaction to one call only, the first being number one. -/
def Command.onCall (topic : Topic) (number : Nat) (command : Command) : Command :=
  hook topic fun call => if call = number then some command else none

/-- What a simulator answers. -/
inductive Answer
  | done
  | byte (value : Byte)
  | flag (value : Bool)
  | word (word : Word)
  | words (words : List Word)
  | snapshot (snapshot : Snapshot)
  | stop (stop : Stop)
  | control (answer : StopAnswer)
  | symbols (table : SymbolTable)

end ByteMachine
