import ByteMachine.Machine.StopControl

/-!
# Commands for what stops a run

Everything that can be asked of the control of stops, as data, so that a history of it is a list.
-/

namespace ByteMachine

/-- A request to the control of stops. -/
inductive StopCommand
  | addBreakpoint (address : Int)
  | removeBreakpoint (address : Int)
  | hasBreakpoint (address : Int)
  | breakpoints
  | clearBreakpoints
  | addWatchpoint (address : Int)
  | removeWatchpoint (address : Int)
  | watchpoints
  | clearWatchpoints
  | request
  | clearRequest
  | clearPending
  /-- Removes everything, the last stop included. -/
  | clearAll
  | record (stop : Stop)
  /-- Asks for the stop that was recorded last. -/
  | last
  /-- Takes the reason to stop before the instruction at an address. -/
  | check (address : Int) (breakpoints : Bool)
  /-- Tells that a cell was written. -/
  | noteWrite (address value : Int)
  deriving DecidableEq, Repr

/-- What the control of stops answers. -/
inductive StopAnswer
  | done
  | flag (value : Bool)
  | addresses (members : List Byte)
  | stop (stop : Option Stop)
  deriving DecidableEq, Repr

namespace StopControl

/-- The answer to a command, and the control after it. -/
def obey (control : StopControl) : StopCommand → StopAnswer × StopControl
  | .addBreakpoint address => (.done, control.addBreakpoint address)
  | .removeBreakpoint address => (.done, control.removeBreakpoint address)
  | .hasBreakpoint address => (.flag (control.hasBreakpoint address), control)
  | .breakpoints => (.addresses control.breakpoints.toList, control)
  | .clearBreakpoints => (.done, control.clearBreakpoints)
  | .addWatchpoint address => (.done, control.addWatchpoint address)
  | .removeWatchpoint address => (.done, control.removeWatchpoint address)
  | .watchpoints => (.addresses control.watchpoints.toList, control)
  | .clearWatchpoints => (.done, control.clearWatchpoints)
  | .request => (.done, control.request)
  | .clearRequest => (.done, control.clearRequest)
  | .clearPending => (.done, control.clearPending)
  | .clearAll => (.done, fresh)
  | .record stop => (.stop (some stop), control.record stop)
  | .last => (.stop control.last, control)
  | .check address breakpoints =>
      let (stop, control) := control.check address breakpoints
      (.stop stop, control)
  | .noteWrite address value => (.done, control.noteWrite address value)

/-- The control after a list of commands. -/
def obeyAll (control : StopControl) (commands : List StopCommand) : StopControl :=
  commands.foldl (fun control command => (control.obey command).2) control

end StopControl
end ByteMachine
