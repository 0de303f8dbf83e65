import ByteMachine.Machine.World

/-!
# Execution

A step fetches the word at the program counter, advances the counter and executes the word.  A run
repeats steps until the machine halts or something stops it; what is pending is dropped when a run
ends, however it ends, and the machine is brought to rest.  A breakpoint at the first instruction of
a run does not stop it, so that a run goes on from the breakpoint at which the last one stopped.
-/

namespace ByteMachine
namespace Action

variable {ε σ : Type} (hear : Listener ε σ)

/-- A store by an instruction: a watched cell counts only while a program is running, and at the
output address the value is printed. -/
def store (address value : Byte) : Action ε σ Unit := do
  setMemory hear address value
  if (← machine).mode = .running then
    changeControl fun control => control.noteWrite address.toNat value.toNat
  if address = (← machine).outputAddress then
    hear (.output value)

/-- Makes the change that a word causes. -/
def perform : Effect → Action ε σ Unit
  | .nothing => return
  | .setRegister register value => setRegister hear register value
  | .store address value => store hear address value
  | .jump target => setCounter hear target
  | .halt => setMode hear .idle

/-- Fetches and executes one word, and tells which. -/
def step : Action ε σ Word := do
  setInstruction hear (← machine).fetched
  setCounter hear ((← machine).counter + 2)
  let ready ← machine
  perform hear (ready.effect ready.instruction)
  return (← machine).instruction

/-- Fetches and executes words, a given number of them. -/
def stepTimes : Nat → Action ε σ (List Word)
  | 0 => return []
  | times + 1 => do
      let word ← step hear
      return word :: (← stepTimes times)

/-- Takes the reason to stop after a number of steps, if there is one: what stops a run comes before
the number of instructions allowed. -/
def takeStopAfter (limit : Option Int) (steps : Nat) : Action ε σ (Option Stop) := do
  match ← takeStop (← machine).counter.toNat (0 < steps) with
  | some stop => return some stop
  | none =>
      match limit with
      | none => return none
      | some limit =>
          if limit ≤ steps then return some (.atLimit (← machine).counter.toNat limit)
          else return none

/-- Executes words until there is a reason to stop.  The first argument bounds the number of words
executed here. -/
def runFrom (limit : Option Int) : Nat → Nat → Action ε σ Stop
  | 0, _ => throw .unfinished
  | fuel + 1, steps => do
      match ← takeStopAfter limit steps with
      | some stop => return stop.after steps
      | none =>
          let word ← step hear
          if word.operation = .halt then
            return (Stop.halted ((← machine).counter - 2).toNat).after (steps + 1 : Nat)
          else runFrom limit fuel (steps + 1)

/-- Drops what is pending and brings the machine to rest. -/
def settle : Action ε σ Unit := do
  changeControl StopControl.clearPending
  setMode hear .idle

/-- How many rounds a run takes at most: as many as are allowed and one more, or, when no number is
given, as many as the caller is ready to wait for. -/
def rounds (patience : Nat) : Option Int → Nat
  | none => patience
  | some limit => limit.toNat + 1

/-- Runs the machine until there is a reason to stop, and records it. -/
def run (patience : Nat) (limit : Option Int) : Action ε σ Stop := do
  setMode hear .running
  let stop ←
    try runFrom hear limit (rounds patience limit) 0
    finally settle hear
  changeControl fun control => control.record stop
  return stop

/-- Runs the machine until the counter reaches an address; tells whether that is why it stopped.
There is a breakpoint at the address meanwhile. -/
def runUntil (patience : Nat) (address : Int) (limit : Option Int) : Action ε σ Bool := do
  let present := (← machine).control.hasBreakpoint address
  unless present do changeControl fun control => control.addBreakpoint address
  try
    let stop ← run hear patience limit
    pure (stop.reason = .breakpoint && stop.address = some (address % 256))
  finally
    unless present do changeControl fun control => control.removeBreakpoint address

end Action
end ByteMachine
