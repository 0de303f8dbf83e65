import ByteMachine.Text.Hexadecimal

/-!
# Why a run ends

A stop says why execution ended and after how many instructions.  It may carry a message of its own;
a stop without one is described from its reason and the address and value it carries.
-/

namespace ByteMachine

/-- What ends an execution. -/
inductive StopReason
  /-- A halt instruction was executed. -/
  | halt
  /-- The program counter reached a breakpoint. -/
  | breakpoint
  /-- A watched cell was written. -/
  | memoryWrite
  /-- A single instruction was executed. -/
  | step
  /-- The user asked for it. -/
  | userInterrupt
  /-- As many instructions as were allowed have been executed. -/
  | stepLimit
  deriving DecidableEq, Repr

/-- The end of an execution. -/
structure Stop where
  /-- Why execution ended. -/
  reason : StopReason
  /-- The address at which it ended, or which was written. -/
  address : Option Int
  /-- The value that was written. -/
  value : Option Int
  /-- Number of instructions executed. -/
  steps : Int
  /-- A description; when empty, one is made from the reason. -/
  message : Text
  deriving DecidableEq, Repr

namespace Stop

/-- An address or a value as it stands in a description. -/
def shown (number : Int) : Text :=
  '$' :: Text.hexInt 2 number

/-- The description of a breakpoint at an address. -/
def breakpointMessage (address : Int) : Text :=
  "Breakpoint at ".toList ++ shown address

/-- The description of a write to a watched address. -/
def writeMessage (address value : Int) : Text :=
  "Write ".toList ++ shown value ++ " to ".toList ++ shown address

/-- The description of a stop without a message, if it carries the numbers that are named there. -/
def defaultText? (stop : Stop) : Option Text :=
  match stop.reason with
  | .halt => some "Halted".toList
  | .breakpoint => stop.address.map breakpointMessage
  | .memoryWrite => do return writeMessage (← stop.address) (← stop.value)
  | .step => some "Single step".toList
  | .userInterrupt => some "Stopped".toList
  | .stepLimit => some "Maximum steps reached".toList

/-- The description of a stop, if there is one. -/
def text? (stop : Stop) : Option Text :=
  if stop.message = [] then stop.defaultText? else some stop.message

/-- A halt instruction at an address was executed. -/
def halted (address : Int) : Stop :=
  ⟨.halt, some address, none, 0, []⟩

/-- The program counter reached a breakpoint. -/
def atBreakpoint (address : Int) : Stop :=
  ⟨.breakpoint, some address, none, 0, breakpointMessage address⟩

/-- A watched cell was written. -/
def atWrite (address value : Int) : Stop :=
  ⟨.memoryWrite, some address, some value, 0, writeMessage address value⟩

/-- The user asked for it before the instruction at an address. -/
def interrupted (address : Int) : Stop :=
  ⟨.userInterrupt, some address, none, 0, "User interrupt".toList⟩

/-- The number of instructions allowed is used up before the instruction at an address. -/
def atLimit (address limit : Int) : Stop :=
  ⟨.stepLimit, some address, none, 0,
    "Reached max steps (".toList ++ Text.decimalInt limit ++ [')']⟩

/-- One instruction was executed and the one at an address comes next. -/
def stepped (address : Int) : Stop :=
  ⟨.step, some address, none, 0, "Step at ".toList ++ shown address⟩

/-- The stop with the number of instructions that were executed. -/
def after (stop : Stop) (steps : Int) : Stop :=
  { stop with steps }

end Stop
end ByteMachine
