import ByteMachine.ByteSet
import ByteMachine.Machine.Stop

/-!
# What stops a run

A run is stopped between two instructions: when the user has asked for it, when the last instruction
wrote a watched cell, or when the next one has a breakpoint, in this order.  A request and a watched
write stay pending until they are reported or dropped.  Any integer may be given for the address of a
breakpoint or of a watched cell; it counts modulo 256.
-/

namespace ByteMachine

/-- The breakpoints, the watched cells, and what is pending. -/
structure StopControl where
  /-- Addresses before whose instruction a run stops. -/
  breakpoints : ByteSet
  /-- Addresses after whose writing a run stops. -/
  watchpoints : ByteSet
  /-- Whether the user has asked for a stop that is not reported yet. -/
  requested : Bool
  /-- The latest write of a watched cell, if it is not reported yet. -/
  hit : Option Stop
  /-- The stop that was recorded last. -/
  last : Option Stop
  deriving DecidableEq

namespace StopControl

/-- Nothing stops a run. -/
def fresh : StopControl :=
  ⟨ByteSet.empty, ByteSet.empty, false, none, none⟩

/-- Sets a breakpoint. -/
def addBreakpoint (control : StopControl) (address : Int) : StopControl :=
  { control with breakpoints := control.breakpoints.insert (.ofInt 8 address) }

/-- Removes a breakpoint. -/
def removeBreakpoint (control : StopControl) (address : Int) : StopControl :=
  { control with breakpoints := control.breakpoints.erase (.ofInt 8 address) }

/-- Whether an address has a breakpoint. -/
def hasBreakpoint (control : StopControl) (address : Int) : Bool :=
  control.breakpoints.contains (.ofInt 8 address)

/-- Removes all breakpoints. -/
def clearBreakpoints (control : StopControl) : StopControl :=
  { control with breakpoints := ByteSet.empty }

/-- Watches a cell. -/
def addWatchpoint (control : StopControl) (address : Int) : StopControl :=
  { control with watchpoints := control.watchpoints.insert (.ofInt 8 address) }

/-- Watches a cell no longer. -/
def removeWatchpoint (control : StopControl) (address : Int) : StopControl :=
  { control with watchpoints := control.watchpoints.erase (.ofInt 8 address) }

/-- Watches no cell. -/
def clearWatchpoints (control : StopControl) : StopControl :=
  { control with watchpoints := ByteSet.empty }

/-- Asks for a stop. -/
def request (control : StopControl) : StopControl :=
  { control with requested := true }

/-- Takes back the wish to stop. -/
def clearRequest (control : StopControl) : StopControl :=
  { control with requested := false }

/-- Drops what is pending. -/
def clearPending (control : StopControl) : StopControl :=
  { control with requested := false, hit := none }

/-- Records a stop as the last one. -/
def record (control : StopControl) (stop : Stop) : StopControl :=
  { control with last := some stop }

/-- Whether an address of any size is a member of a set of addresses. -/
def isMember (set : ByteSet) (address : Int) : Bool :=
  (0 ≤ address && address < 256) && set.contains (BitVec.ofInt 8 address)

/-- Notes that a cell was written, if it is watched. -/
def noteWrite (control : StopControl) (address value : Int) : StopControl :=
  if isMember control.watchpoints address then
    { control with hit := some (.atWrite address value) }
  else control

/-- The reason to stop before the instruction at an address, and the control afterwards, where what
was reported is no longer pending.  Breakpoints count only if asked for. -/
def check (control : StopControl) (address : Int) (breakpoints : Bool) :
    Option Stop × StopControl :=
  if control.requested then (some (.interrupted address), control.clearRequest)
  else
    match control.hit with
    | some stop => (some stop, { control with hit := none })
    | none =>
        if breakpoints && isMember control.breakpoints address then
          (some (.atBreakpoint address), control)
        else (none, control)

end StopControl
end ByteMachine
