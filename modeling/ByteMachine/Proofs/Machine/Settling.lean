import ByteMachine.Proofs.Machine.Ending

/-!
# After a run

Whatever ends a run, also a listener that fails in the middle of it, the machine is brought to rest
and nothing stays pending.  Only the announcement of the start stands outside of what is cleaned up:
when a listener fails at it, the machine is left running.
-/

namespace ByteMachine

namespace Machine

/-- The machine does not run, and nothing would stop it as soon as it is run. -/
structure AtRest (machine : Machine) : Prop where
  /-- No program is running. -/
  idle : machine.mode = .idle
  /-- No stop is asked for. -/
  noRequest : machine.control.requested = false
  /-- No write to a watched cell is still to be reported. -/
  noHit : machine.control.hit = none

/-- The machine after it was asked to stop, which counts only while it runs. -/
def askedToStop (machine : Machine) : Machine :=
  if machine.mode = .running then { machine with control := machine.control.request } else machine

/-- The machine that has a breakpoint at an address. -/
def guarded (machine : Machine) (address : Int) : Machine :=
  if machine.control.hasBreakpoint address then machine
  else { machine with control := machine.control.addBreakpoint address }

theorem mode_askedToStop (machine : Machine) : machine.askedToStop.mode = machine.mode := by
  rw [askedToStop]
  split <;> rfl

theorem outputAddress_askedToStop (machine : Machine) :
    machine.askedToStop.outputAddress = machine.outputAddress := by
  rw [askedToStop]
  split <;> rfl

theorem askedToStop_of_idle {machine : Machine} (idle : machine.mode = .idle) :
    machine.askedToStop = machine := by
  rw [askedToStop, if_neg (by simp [idle])]

theorem atRest_removeBreakpoint_iff {machine : Machine} {address : Int} :
    ({ machine with control := machine.control.removeBreakpoint address } : Machine).AtRest ↔
      machine.AtRest :=
  ⟨fun rest => ⟨rest.idle, rest.noRequest, rest.noHit⟩,
    fun rest => ⟨rest.idle, rest.noRequest, rest.noHit⟩⟩

end Machine

/-- Whatever the surroundings do when they hear a notice, to the machine they do no more than ask it
to stop.  They may fail. -/
def Listener.OnlyInterrupts {ε σ : Type} (hear : Listener ε σ) : Prop :=
  ∀ notice world,
    ((hear notice).ended world).machine = world.machine ∨
      ((hear notice).ended world).machine = world.machine.askedToStop

namespace Action

variable {ε σ : Type} {hear : Listener ε σ}

/-- The surroundings do not fail when a run that starts in the world is announced. -/
def StartIsHeard (hear : Listener ε σ) (world : World σ) : Prop :=
  ∃ between, setMode hear .running world = .ok () between

theorem requestStop_eq (world : World σ) :
    (requestStop : Action ε σ Unit) world =
      .ok () ⟨world.machine.askedToStop, world.surroundings⟩ := by
  have read : (machine : Action ε σ Machine) world = .ok world.machine world := rfl
  rw [requestStop, bind_of_ok read, Machine.askedToStop]
  split <;> rfl

theorem returns_requestStop (world : World σ) :
    Returns (requestStop : Action ε σ Unit) world () world.machine.askedToStop :=
  ⟨world.surroundings, requestStop_eq world⟩

/-- The mode is set before the surroundings hear of it, so that they can ask a machine that has just
been started to stop, but not one that has just come to rest. -/
theorem machine_ended_setMode (interrupts : hear.OnlyInterrupts) (mode : Mode) (world : World σ) :
    ((setMode hear mode).ended world).machine = { world.machine with mode } ∨
      ((setMode hear mode).ended world).machine =
        ({ world.machine with mode } : Machine).askedToStop := by
  rw [setMode, ended_bind_of_ok machine _ rfl]
  split
  next =>
    rw [ended_bind_of_ok (changeMachine _) _ rfl]
    exact interrupts _ _
  next same =>
    have unchanged : world.machine.mode = mode := by simpa using same
    subst unchanged
    exact .inl rfl

/-- Bringing the machine to rest succeeds in doing so even if a listener fails at the notice. -/
theorem atRest_ended_settle (interrupts : hear.OnlyInterrupts) (world : World σ) :
    ((settle hear).ended world).machine.AtRest := by
  rw [settle, ended_bind_of_ok (changeControl _) _ rfl]
  rcases machine_ended_setMode interrupts .idle _ with same | asked
  · rw [same]
    exact ⟨rfl, rfl, rfl⟩
  · rw [asked, Machine.askedToStop_of_idle rfl]
    exact ⟨rfl, rfl, rfl⟩

theorem preserves_atRest_record (stop : Stop) :
    Preserves (fun world : World σ => world.machine.AtRest) (do
      changeControl fun control => control.record stop
      return stop : Action ε σ Stop) :=
  fun _ rest => ⟨rest.idle, rest.noRequest, rest.noHit⟩

theorem atRest_ended_run (interrupts : hear.OnlyInterrupts) {world : World σ}
    (heard : StartIsHeard hear world) (patience : Nat) (limit : Option Int) :
    ((run hear patience limit).ended world).machine.AtRest := by
  obtain ⟨between, started⟩ := heard
  rw [run, ended_bind_of_ok _ _ started]
  apply property_ended_bind fun world : World σ => world.machine.AtRest
  · rw [ended_finally]
    exact atRest_ended_settle interrupts _
  · exact preserves_atRest_record

theorem mode_ended_run (interrupts : hear.OnlyInterrupts) {world : World σ}
    (unheard : ¬StartIsHeard hear world) (patience : Nat) (limit : Option Int) :
    ((run hear patience limit).ended world).machine.mode = .running := by
  cases started : setMode hear .running world with
  | ok _ between => exact absurd ⟨between, started⟩ unheard
  | error failure between =>
      rw [run, ended_bind_of_error _ _ started, ← ended_of_error started]
      rcases machine_ended_setMode interrupts .running world with same | asked
      · rw [same]
      · rw [asked, Machine.mode_askedToStop]

/-- A run leaves the machine at rest exactly if its start is announced without a failure. -/
theorem atRest_ended_run_iff (interrupts : hear.OnlyInterrupts) (world : World σ) (patience : Nat)
    (limit : Option Int) :
    ((run hear patience limit).ended world).machine.AtRest ↔ StartIsHeard hear world := by
  constructor
  · intro rest
    by_contra unheard
    have running := mode_ended_run interrupts unheard patience limit
    rw [rest.idle] at running
    cases running
  · intro heard
    exact atRest_ended_run interrupts heard patience limit

/-- A run to an address ends as the run with the breakpoint does. -/
theorem atRest_ended_runUntil_iff (patience : Nat) (address : Int)
    (limit : Option Int) (world : World σ) :
    ((runUntil hear patience address limit).ended world).machine.AtRest ↔
      ((run hear patience limit).ended
        { world with machine := world.machine.guarded address }).machine.AtRest := by
  rw [runUntil, ended_bind_of_ok machine _ rfl]
  by_cases present : world.machine.control.hasBreakpoint address
  · simp only [if_pos present, Machine.guarded]
    rw [ended_finally, ended_bind_pure]
    rfl
  · simp only [if_neg present, Machine.guarded]
    rw [ended_bind_of_ok (changeControl _) _ rfl, ended_finally, ended_bind_pure]
    exact Machine.atRest_removeBreakpoint_iff

/-- When the surroundings do no more to the machine than ask it to stop, a run and a run to an address
leave it at rest, however they end, exactly if the surroundings do not fail at the announcement of
the start. -/
theorem run_settles_iff (interrupts : hear.OnlyInterrupts) (world : World σ) (patience : Nat)
    (limit : Option Int) (address : Int) :
    (((run hear patience limit).ended world).machine.AtRest ↔ StartIsHeard hear world) ∧
      (((runUntil hear patience address limit).ended world).machine.AtRest ↔
        StartIsHeard hear { world with machine := world.machine.guarded address }) := by
  refine ⟨atRest_ended_run_iff interrupts world patience limit, ?_⟩
  rw [atRest_ended_runUntil_iff]
  exact atRest_ended_run_iff interrupts _ patience limit

/-- A listener asks for a stop when a watched cell is written and fails when the character is printed:
the request and the write are both pending when the run is broken off. -/
theorem run_settles_after_failure :
    let machine : Machine :=
      { Machine.fresh Machine.defaultOutput with
        memory := (Store.zero 8).applyAll (Store.loading 0 [0x31, 0xFF])
        control := StopControl.fresh.addWatchpoint 0xFF }
    let hear : Listener Unit Unit := fun
      | .memoryChanged .. => requestStop
      | .output _ => fail ()
      | _ => pure ()
    hear.OnlyInterrupts ∧
      ∃ final, run hear 0 (some 5) ⟨machine, ()⟩ = .error (.failed ()) final ∧
        final.machine.AtRest := by
  intro machine hear
  have interrupts : hear.OnlyInterrupts := by
    intro notice world
    cases notice with
    | memoryChanged address value =>
        obtain ⟨surroundings, done⟩ := returns_requestStop (ε := Unit) world
        exact .inr (congrArg World.machine (ended_of_ok done))
    | _ => exact .inl rfl
  have fails : ∃ final, run hear 0 (some 5) ⟨machine, ()⟩ = .error (.failed ()) final := by
    dsimp only [machine, hear]
    exact ⟨_, rfl⟩
  obtain ⟨final, failed⟩ := fails
  have settles := (run_settles_iff interrupts ⟨machine, ()⟩ 0 (some 5) 0).1.mpr ⟨_, rfl⟩
  rw [ended_of_error failed] at settles
  exact ⟨interrupts, final, failed, settles⟩

/-- A listener that fails at the announcement of the start leaves the machine running. -/
theorem run_left_running :
    let hear : Listener Unit Unit := fun notice =>
      if notice = .modeChanged .running then fail () else pure ()
    hear.OnlyInterrupts ∧
      ∃ final, run hear 0 (some 1) ⟨Machine.fresh Machine.defaultOutput, ()⟩ =
          .error (.failed ()) final ∧
        final.machine.mode = .running ∧ ¬final.machine.AtRest := by
  intro hear
  refine ⟨?_, _, rfl, rfl, ?_⟩
  · intro notice world
    refine .inl ?_
    change (ended (if notice = .modeChanged .running then fail () else pure ()) world).machine = _
    split <;> rfl
  · intro rest
    exact nomatch rest.idle

end Action
end ByteMachine
