import ByteMachine.Machine.StopControl
import ByteMachine.Minifloat
import ByteMachine.Store

/-!
# The machine

The machine has memory, registers, a program counter and an instruction register.  What a word does
is its effect: at most one register, one memory cell or the program counter is changed, or the
machine halts.  The effect of a word is read off the machine before anything is changed.
-/

namespace ByteMachine

/-- Whether a program is running. -/
inductive Mode
  | idle
  | running
  deriving DecidableEq, Repr

/-- The machine and what stops it. -/
structure Machine where
  /-- The registers. -/
  registers : Registers
  /-- The main memory. -/
  memory : Memory
  /-- Address of the next word. -/
  counter : Byte
  /-- The word that was fetched last. -/
  instruction : Word
  /-- Whether a program is running. -/
  mode : Mode
  /-- What stops a run. -/
  control : StopControl
  /-- The address at which stores print a character. -/
  outputAddress : Byte
  deriving DecidableEq

/-- The registers, memory, counter, instruction register and mode of a machine at one moment. -/
structure Snapshot where
  /-- The registers. -/
  registers : Registers
  /-- The main memory. -/
  memory : Memory
  /-- Address of the next word. -/
  counter : Byte
  /-- The word that was fetched last. -/
  instruction : Word
  /-- Whether a program is running. -/
  mode : Mode
  deriving DecidableEq

/-- What the execution of a word changes. -/
inductive Effect
  /-- Nothing is changed. -/
  | nothing
  /-- A register gets a value. -/
  | setRegister (register : Nibble) (value : Byte)
  /-- A memory cell gets a value. -/
  | store (address value : Byte)
  /-- Execution goes on at an address. -/
  | jump (target : Byte)
  /-- Execution ends. -/
  | halt
  deriving DecidableEq, Repr

namespace Machine

/-- The usual address at which stores print a character. -/
def defaultOutput : Int :=
  0xFF

/-- A machine that is all zero. -/
def fresh (outputAddress : Int) : Machine where
  registers := Store.zero 4
  memory := Store.zero 8
  counter := 0
  instruction := ⟨0, 0⟩
  mode := .idle
  control := StopControl.fresh
  outputAddress := .ofInt 8 outputAddress

/-- The state of the machine at this moment. -/
def snapshot (machine : Machine) : Snapshot where
  registers := machine.registers
  memory := machine.memory
  counter := machine.counter
  instruction := machine.instruction
  mode := machine.mode

/-- The value of a register. -/
def register (machine : Machine) (index : Nibble) : Byte :=
  machine.registers.read index

/-- The word at the program counter. -/
def fetched (machine : Machine) : Word :=
  machine.memory.word machine.counter

/-- What a word does to the machine. -/
def effect (machine : Machine) (word : Word) : Effect :=
  match word.operation with
  | .noOperation => .nothing
  | .directLoad => .setRegister word.r (machine.memory.read word.address)
  | .immediateLoad => .setRegister word.r word.address
  | .directStore => .store word.address (machine.register word.r)
  | .move => .setRegister word.x (machine.register word.y)
  | .integerAdd => .setRegister word.r (machine.register word.x + machine.register word.y)
  | .floatAdd =>
      .setRegister word.r (Minifloat.add (machine.register word.x) (machine.register word.y))
  | .or => .setRegister word.r (machine.register word.x ||| machine.register word.y)
  | .and => .setRegister word.r (machine.register word.x &&& machine.register word.y)
  | .xor => .setRegister word.r (machine.register word.x ^^^ machine.register word.y)
  | .rotate => .setRegister word.r ((machine.register word.r).rotateRight word.y.toNat)
  | .jumpEqual =>
      if machine.register word.r = machine.register 0 then .jump word.address else .nothing
  | .halt => .halt
  | .indirectLoad =>
      .setRegister word.x (machine.memory.read (machine.register word.y))
  | .indirectStore => .store (machine.register word.y) (machine.register word.x)
  | .jumpLessEqual =>
      if (machine.register word.r).sle (machine.register 0) then .jump word.address else .nothing

end Machine
end ByteMachine
