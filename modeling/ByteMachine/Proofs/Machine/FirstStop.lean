import ByteMachine.Proofs.Machine.Step
import Mathlib.Data.Nat.Find

/-!
# The first reason to stop

A run in passive surroundings, with nothing pending when it starts, is a number of steps: the least
number after which there is a reason to stop.  The reasons are told by the machine after that many
steps and by the step that led there.  They come in a fixed order: a halt instruction, a write to a
watched cell, a breakpoint, and the number of instructions allowed.
-/

namespace ByteMachine

/-! ## Reasons to stop -/

namespace Machine

variable (start : Machine)

/-- The stop of a halt instruction that was the last of a number of steps. -/
def haltStop? : Nat → Option Stop
  | 0 => none
  | steps + 1 =>
      if (start.after steps).fetched.operation = .halt then
        some (.halted ((start.after (steps + 1)).counter - 2).toNat)
      else none

/-- The stop of a store to a watched cell that was the last of a number of steps. -/
def writeStop? : Nat → Option Stop
  | 0 => none
  | steps + 1 =>
      match (start.after steps).nextStore? with
      | some (address, value) =>
          if start.control.watchpoints.contains address then
            some (.atWrite address.toNat value.toNat)
          else none
      | none => none

/-- The stop of a breakpoint that was reached after a positive number of steps. -/
def breakpointStop? (steps : Nat) : Option Stop :=
  if 0 < steps && start.control.breakpoints.contains (start.after steps).counter then
    some (.atBreakpoint (start.after steps).counter.toNat)
  else none

/-- The stop of a machine after a number of steps that is all that is allowed. -/
def atLimit? (machine : Machine) (limit : Option Int) (steps : Nat) : Option Stop :=
  match limit with
  | none => none
  | some limit =>
      if limit ≤ steps then some (.atLimit machine.counter.toNat limit) else none

/-- The stop of a number of steps that is all that is allowed. -/
def limitStop? (limit : Option Int) (steps : Nat) : Option Stop :=
  match limit with
  | none => none
  | some limit =>
      if limit ≤ steps then some (.atLimit (start.after steps).counter.toNat limit) else none

/-- The reason to stop after a number of steps, if there is one. -/
def stop? (limit : Option Int) (steps : Nat) : Option Stop :=
  (start.haltStop? steps).or <| (start.writeStop? steps).or <|
    (start.breakpointStop? steps).or (start.limitStop? limit steps)

/-- After a number of steps, and after no fewer, there is a reason to stop. -/
structure StopsFirst (limit : Option Int) (steps : Nat) (reason : Stop) : Prop where
  /-- The reason to stop. -/
  isReason : start.stop? limit steps = some reason
  /-- There is none earlier. -/
  first : ∀ fewer < steps, start.stop? limit fewer = none

/-- The machine of a run that goes on after a number of steps. -/
def running (steps : Nat) : Machine :=
  { start.after steps with mode := .running, control := { start.control with hit := none } }

/-- The machine of a run after a number of steps, when it has not been told whether the last one
wrote a watched cell. -/
def pending (steps : Nat) : Machine :=
  { start.running steps with control := { start.control with hit := start.writeStop? steps } }

/-- The machine brought to rest with nothing pending. -/
def settled (machine : Machine) : Machine :=
  { machine with mode := .idle, control := machine.control.clearPending }

variable {start}

theorem pending_zero (noHit : start.control.hit = none) :
    start.pending 0 = { start with mode := .running } := by
  have unchanged : { start.control with hit := none } = start.control := by
    rw [← noHit]
  rw [pending, writeStop?, unchanged]
  rfl

theorem haltStop?_succ_eq_none_iff {steps : Nat} :
    start.haltStop? (steps + 1) = none ↔ (start.after steps).fetched.operation ≠ .halt := by
  rw [haltStop?, ite_eq_right_iff]
  simp

theorem haltStop?_eq_none {limit : Option Int} {steps : Nat}
    (noStop : start.stop? limit steps = none) : start.haltStop? steps = none :=
  (Option.or_eq_none_iff.mp noStop).1

theorem writeStop?_succ_of_store {steps : Nat} {address value : Byte}
    (stores : (start.after steps).effect (start.after steps).fetched = .store address value) :
    start.writeStop? (steps + 1) =
      if start.control.watchpoints.contains address then
        some (.atWrite address.toNat value.toNat)
      else none := by
  rw [writeStop?, nextStore?_eq_some_iff.mpr stores]

theorem writeStop?_succ_eq_none {steps : Nat}
    (noStore : ∀ address value,
      (start.after steps).effect (start.after steps).fetched ≠ .store address value) :
    start.writeStop? (steps + 1) = none := by
  rw [writeStop?, nextStore?_eq_none noStore]

theorem exists_stopsFirst {limit : Option Int} {steps : Nat}
    (stops : start.stop? limit steps ≠ none) :
    ∃ first reason, first ≤ steps ∧ start.StopsFirst limit first reason := by
  have some : ∃ number, (start.stop? limit number).isSome = true :=
    ⟨steps, Option.isSome_iff_ne_none.mpr stops⟩
  obtain ⟨reason, isReason⟩ := Option.isSome_iff_exists.mp (Nat.find_spec some)
  refine ⟨Nat.find some, reason, ?_, isReason, ?_⟩
  · exact Nat.find_min' some (Option.isSome_iff_ne_none.mpr stops)
  · intro fewer below
    simpa using Nat.find_min some below

theorem isMember_toNat (set : ByteSet) (address : Byte) :
    StopControl.isMember set address.toNat = set.contains address := by
  have small := address.isLt
  simp [StopControl.isMember]
  omega

/-- Without a request a write to a watched cell is reported before a breakpoint. -/
theorem check_of_not_requested {control : StopControl} (noRequest : control.requested = false)
    (address : Byte) (breakpoints : Bool) :
    control.check address.toNat breakpoints =
      (control.hit.or
        (if breakpoints && control.breakpoints.contains address then
          some (.atBreakpoint address.toNat)
        else none),
        { control with hit := none }) := by
  obtain ⟨marked, watched, requested, hit, last⟩ := control
  subst noRequest
  cases hit with
  | some stop => rfl
  | none =>
      change (if breakpoints && StopControl.isMember marked address.toNat then _ else _) =
        (if breakpoints && marked.contains address then _ else _, _)
      rw [isMember_toNat]
      cases breakpoints && marked.contains address <;> rfl

theorem noteWrite_toNat (control : StopControl) (address value : Byte) :
    control.noteWrite address.toNat value.toNat =
      if control.watchpoints.contains address then
        { control with hit := some (.atWrite address.toNat value.toNat) }
      else control := by
  rw [StopControl.noteWrite, isMember_toNat]

/-- A step of a run leads to the next stage of the run, unless it halts. -/
theorem next_running {steps : Nat} (goesOn : (start.after steps).fetched.operation ≠ .halt) :
    (start.running steps).next = start.pending (steps + 1) := by
  have noHalt := mt effect_eq_halt_iff.mp goesOn
  change ({ (start.after steps).fetch with
      mode := .running, control := { start.control with hit := none } } : Machine).apply
    ((start.after steps).effect (start.after steps).fetched) = _
  rw [pending, running, after_succ, next]
  cases effect : (start.after steps).effect (start.after steps).fetched with
  | nothing | setRegister | jump =>
      rw [writeStop?_succ_eq_none (by simp [effect])]
      rfl
  | store address value =>
      rw [writeStop?_succ_of_store effect]
      simp only [apply, noteWrite_toNat, if_pos]
      split <;> rfl
  | halt => exact absurd effect noHalt

theorem settled_next_running {steps : Nat}
    (halts : (start.after steps).fetched.operation = .halt) :
    (start.running steps).next.settled = (start.running (steps + 1)).settled := by
  have isHalt := effect_eq_halt_iff.mpr halts
  change (({ (start.after steps).fetch with
      mode := .running, control := { start.control with hit := none } } : Machine).apply
    ((start.after steps).effect (start.after steps).fetched)).settled = _
  rw [running, after_succ, next, isHalt]
  rfl

end Machine

/-! ## The loop of a run -/

namespace Action

open Machine

variable {ε σ : Type} {hear : Listener ε σ} {start : Machine} {limit : Option Int}

theorem takeStop_of_check {address : Int} {breakpoints : Bool} {found : Option Stop}
    {left : StopControl} {world : World σ}
    (checked : world.machine.control.check address breakpoints = (found, left)) :
    (takeStop address breakpoints : Action ε σ (Option Stop)) world =
      .ok found ⟨{ world.machine with control := left }, world.surroundings⟩ := by
  have taken : (takeStop address breakpoints : Action ε σ (Option Stop)) world =
      .ok (world.machine.control.check address breakpoints).1
        ⟨{ world.machine with control := (world.machine.control.check address breakpoints).2 },
          world.surroundings⟩ := rfl
  rw [taken, checked]

/-- What stops a run comes before the number of instructions allowed. -/
theorem takeStopAfter_of_check {steps : Nat} {found : Option Stop} {left : StopControl}
    {world : World σ}
    (checked : world.machine.control.check world.machine.counter.toNat (decide (0 < steps)) =
      (found, left)) :
    (takeStopAfter limit steps : Action ε σ (Option Stop)) world =
      .ok (found.or (world.machine.atLimit? limit steps))
        ⟨{ world.machine with control := left }, world.surroundings⟩ := by
  have read : (machine : Action ε σ Machine) world = .ok world.machine world := rfl
  refine (bind_of_ok read).trans ((bind_of_ok (takeStop_of_check checked)).trans ?_)
  cases found with
  | some stop => rfl
  | none =>
      cases limit with
      | none => rfl
      | some limit =>
          simp only [atLimit?, Option.none_or]
          split <;> rfl

/-- Between two steps a run is told whether the last one wrote a watched cell, and then whether
there is a breakpoint. -/
theorem check_pending (noRequest : start.control.requested = false) (steps : Nat) :
    (start.pending steps).control.check (start.after steps).counter.toNat (decide (0 < steps)) =
      ((start.writeStop? steps).or (start.breakpointStop? steps),
        { start.control with hit := none }) := by
  have noRequestNow : (start.pending steps).control.requested = false := noRequest
  exact check_of_not_requested noRequestNow (start.after steps).counter (decide (0 < steps))

/-- Before its next step a run that has not halted takes the reason to stop. -/
theorem takeStopAfter_of_pending (noRequest : start.control.requested = false) {steps : Nat}
    (noHalt : start.haltStop? steps = none) {world : World σ}
    (here : world.machine = start.pending steps) :
    (takeStopAfter limit steps : Action ε σ (Option Stop)) world =
      .ok (start.stop? limit steps) ⟨start.running steps, world.surroundings⟩ := by
  obtain ⟨machine, surroundings⟩ := world
  subst here
  rw [takeStopAfter_of_check (check_pending noRequest steps), stop?, noHalt, Option.none_or,
    ← Option.or_assoc]
  rfl

theorem returns_takeStopAfter (noRequest : start.control.requested = false) {steps : Nat}
    (noHalt : start.haltStop? steps = none) {world : World σ}
    (here : world.machine = start.pending steps) :
    Returns (takeStopAfter limit steps : Action ε σ (Option Stop)) world (start.stop? limit steps)
      (start.running steps) :=
  ⟨_, takeStopAfter_of_pending noRequest noHalt here⟩

/-- A round ends the run when there is a reason to stop. -/
theorem returns_runFrom_of_stop (noRequest : start.control.requested = false) {fuel steps : Nat}
    {stop : Stop} (noHalt : start.haltStop? steps = none)
    (isStop : start.stop? limit steps = some stop) {world : World σ}
    (here : world.machine = start.pending steps) :
    Returns (runFrom hear limit (fuel + 1) steps) world (stop.after steps)
      (start.running steps) := by
  have taken : Returns (takeStopAfter limit steps : Action ε σ (Option Stop)) world
      (start.stop? limit steps) (start.running steps) :=
    returns_takeStopAfter noRequest noHalt here
  rw [isStop] at taken
  exact taken.bind fun _ => returns_pure _ _

/-- A round without a reason to stop executes a word, and ends the run if that halts. -/
theorem returns_runFrom_of_halt (passive : hear.Passive)
    (noRequest : start.control.requested = false) {fuel steps : Nat}
    (noHalt : start.haltStop? steps = none) (noStop : start.stop? limit steps = none)
    (halts : (start.after steps).fetched.operation = .halt) {world : World σ}
    (here : world.machine = start.pending steps) :
    Returns (runFrom hear limit (fuel + 1) steps) world
      ((Stop.halted ((start.after (steps + 1)).counter - 2).toNat).after (steps + 1 : Nat))
      (start.running steps).next := by
  have taken : Returns (takeStopAfter limit steps : Action ε σ (Option Stop)) world
      (start.stop? limit steps) (start.running steps) :=
    returns_takeStopAfter noRequest noHalt here
  have isHalt : (start.running steps).fetched.operation = .halt := halts
  have settledCounter := congrArg Machine.counter (settled_next_running halts)
  have counter : (start.running steps).next.counter = (start.after (steps + 1)).counter :=
    settledCounter
  rw [noStop] at taken
  apply taken.bind
  intro surroundings
  apply (returns_step passive _).bind
  intro others
  simp only [if_pos isHalt]
  rw [← counter]
  exact (returns_machine _).bind fun _ => returns_pure _ _

/-- Otherwise the run goes on with the next round. -/
theorem runFrom_succ (passive : hear.Passive) (fuel : Nat)
    (noRequest : start.control.requested = false) {steps : Nat}
    (noHalt : start.haltStop? steps = none)
    (noStop : start.stop? limit steps = none)
    (goesOn : (start.after steps).fetched.operation ≠ .halt) {world : World σ}
    (here : world.machine = start.pending steps) :
    ∃ surroundings, runFrom hear limit (fuel + 1) steps world =
      runFrom hear limit fuel (steps + 1) ⟨start.pending (steps + 1), surroundings⟩ := by
  have taken : Returns (takeStopAfter limit steps : Action ε σ (Option Stop)) world
      (start.stop? limit steps) (start.running steps) :=
    returns_takeStopAfter noRequest noHalt here
  rw [noStop] at taken
  obtain ⟨surroundings, stopTaken⟩ := taken
  obtain ⟨others, stepped⟩ := returns_step passive ⟨start.running steps, surroundings⟩
  have noHaltNow : (start.running steps).fetched.operation ≠ .halt := goesOn
  refine ⟨others, ?_⟩
  rw [runFrom, bind_of_ok stopTaken, ← next_running goesOn]
  refine (bind_of_ok stepped).trans ?_
  rw [if_neg noHaltNow]

/-- The loop ends at the first reason to stop, if it has rounds enough; a halt instruction ends it
within the round that executes it. -/
theorem returns_runFrom (passive : hear.Passive) (noRequest : start.control.requested = false)
    {fuel steps final : Nat} {stop : Stop} (isStop : start.stop? limit final = some stop)
    (first : ∀ fewer, steps ≤ fewer → fewer < final → start.stop? limit fewer = none)
    (noHalt : start.haltStop? steps = none) (ahead : steps ≤ final)
    (room : final < steps + fuel ∨ final = steps + fuel ∧ start.haltStop? final ≠ none)
    {world : World σ} (here : world.machine = start.pending steps) :
    ∃ machine, Returns (runFrom hear limit fuel steps) world (stop.after final) machine ∧
      machine.settled = (start.running final).settled := by
  -- On the rounds that are left; at the beginning of each the machine is `start.pending steps`.
  induction fuel generalizing steps world with
  | zero =>
      rcases room with impossible | ⟨rfl, halted⟩
      · omega
      · exact absurd noHalt halted
  | succ fuel induction =>
      by_cases last : steps = final
      · subst last
        exact ⟨start.running steps, returns_runFrom_of_stop noRequest noHalt isStop here, rfl⟩
      · have noStop : start.stop? limit steps = none := first steps (Nat.le_refl _) (by omega)
        by_cases halts : (start.after steps).fetched.operation = .halt
        · have halted : start.stop? limit (steps + 1) =
              some (.halted ((start.after (steps + 1)).counter - 2).toNat) := by
            rw [stop?, haltStop?, if_pos halts, Option.some_or]
          have isNext : final = steps + 1 := by
            by_contra later
            rw [first (steps + 1) (by omega) (by omega)] at halted
            cases halted
          subst isNext
          rw [isStop] at halted
          cases halted
          exact ⟨(start.running steps).next,
            returns_runFrom_of_halt passive noRequest noHalt noStop halts here,
            settled_next_running halts⟩
        · obtain ⟨surroundings, same⟩ :=
            runFrom_succ passive fuel noRequest noHalt noStop halts here
          have later : ∃ machine, Returns (runFrom hear limit fuel (steps + 1))
              ⟨start.pending (steps + 1), surroundings⟩ (stop.after final) machine ∧
                machine.settled = (start.running final).settled := by
            apply induction
            · exact fun fewer above => first fewer (by omega)
            · exact haltStop?_succ_eq_none_iff.mpr halts
            · omega
            · exact room.imp (fun below => by omega) fun atEnd => ⟨by omega, atEnd.2⟩
            · rfl
          obtain ⟨machine, returns, settles⟩ := later
          refine ⟨machine, ?_, settles⟩
          rw [Returns, same]
          exact returns

/-- Without a reason to stop the loop runs out of rounds. -/
theorem runFrom_eq_unfinished (passive : hear.Passive) (noRequest : start.control.requested = false)
    {fuel steps : Nat}
    (noStop : ∀ number, steps ≤ number → number < steps + fuel → start.stop? limit number = none)
    (noHalt : start.haltStop? steps = none) (noLastHalt : start.haltStop? (steps + fuel) = none)
    {world : World σ} (here : world.machine = start.pending steps) :
    ∃ final, runFrom hear limit fuel steps world = .error .unfinished final := by
  induction fuel generalizing steps world with
  | zero => exact ⟨world, rfl⟩
  | succ fuel induction =>
      have noNextHalt : start.haltStop? (steps + 1) = none := by
        cases fuel with
        | zero => exact noLastHalt
        | succ fuel => exact haltStop?_eq_none (noStop (steps + 1) (by omega) (by omega))
      have noStopNow : start.stop? limit steps = none :=
        noStop steps (Nat.le_refl _) (by omega)
      have goesOn := haltStop?_succ_eq_none_iff.mp noNextHalt
      obtain ⟨surroundings, same⟩ :=
        runFrom_succ passive fuel noRequest noHalt noStopNow goesOn here
      rw [same]
      apply induction
      · intro number above below
        exact noStop number (by omega) (by omega)
      · exact noNextHalt
      · rw [Nat.add_right_comm]
        exact noLastHalt
      · rfl

/-! ## Runs -/

theorem returns_settle (passive : hear.Passive) (world : World σ) :
    Returns (settle hear) world () world.machine.settled :=
  (returns_changeMachine _ world).bind fun _ => returns_setMode passive .idle _

/-- A run ends at the first reason to stop, if that is within the rounds that it may take. -/
theorem returns_run (passive : hear.Passive) {world : World σ}
    (noRequest : world.machine.control.requested = false)
    (noHit : world.machine.control.hit = none) {patience final : Nat} {reason : Stop}
    (stops : world.machine.StopsFirst limit final reason)
    (room : final < rounds patience limit ∨
      final = rounds patience limit ∧ world.machine.haltStop? final ≠ none) :
    Returns (run hear patience limit) world (reason.after final)
      { world.machine.after final with
        mode := .idle
        control := world.machine.control.clearPending.record (reason.after final) } := by
  obtain ⟨surroundings, started⟩ := returns_setMode passive .running world
  have looped : ∃ machine, Returns (runFrom hear limit (rounds patience limit) 0)
      ⟨{ world.machine with mode := .running }, surroundings⟩ (reason.after final) machine ∧
        machine.settled = (world.machine.running final).settled := by
    apply returns_runFrom passive noRequest stops.isReason
    · exact fun fewer _ => stops.first fewer
    · rfl
    · exact Nat.zero_le final
    · rw [Nat.zero_add]
      exact room
    · exact (pending_zero noHit).symm
  obtain ⟨machine, looped, settles⟩ := looped
  have finished : Returns (tryFinally (runFrom hear limit (rounds patience limit) 0) (settle hear))
      ⟨{ world.machine with mode := .running }, surroundings⟩ (reason.after final)
      (world.machine.running final).settled := by
    rw [← settles]
    exact looped.finally fun _ => returns_settle passive _
  rw [Returns, run, bind_of_ok started]
  apply finished.bind
  intro others
  exact (returns_changeMachine _ _).bind fun _ => returns_pure _ _

theorem run_eq_unfinished (passive : hear.Passive) {world : World σ}
    (noRequest : world.machine.control.requested = false)
    (noHit : world.machine.control.hit = none) {patience : Nat}
    (noStop : ∀ steps < rounds patience limit, world.machine.stop? limit steps = none)
    (noHalt : world.machine.haltStop? (rounds patience limit) = none) :
    ∃ final, run hear patience limit world = .error .unfinished final := by
  obtain ⟨surroundings, started⟩ := returns_setMode passive .running world
  have looped : ∃ final, runFrom hear limit (rounds patience limit) 0
      ⟨{ world.machine with mode := .running }, surroundings⟩ = .error .unfinished final := by
    apply runFrom_eq_unfinished passive noRequest
    · rw [Nat.zero_add]
      exact fun steps _ => noStop steps
    · rfl
    · rw [Nat.zero_add]
      exact noHalt
    · exact (pending_zero noHit).symm
  obtain ⟨between, looped⟩ := looped
  obtain ⟨final, finished⟩ := finally_of_error looped (returns_settle passive between)
  refine ⟨final, ?_⟩
  rw [run, bind_of_ok started]
  exact bind_of_error _ finished

/-- A run that ends has a first reason to stop within its rounds. -/
theorem exists_stopsFirst_of_run (passive : hear.Passive) {world final : World σ}
    (noRequest : world.machine.control.requested = false)
    (noHit : world.machine.control.hit = none) {patience : Nat} {stop : Stop}
    (ended : run hear patience limit world = .ok stop final) :
    ∃ steps reason, world.machine.StopsFirst limit steps reason ∧
      (steps < rounds patience limit ∨
        steps = rounds patience limit ∧ world.machine.haltStop? steps ≠ none) := by
  by_cases early : ∃ steps < rounds patience limit, world.machine.stop? limit steps ≠ none
  · obtain ⟨steps, below, stops⟩ := early
    obtain ⟨first, reason, least, stopsFirst⟩ := exists_stopsFirst stops
    exact ⟨first, reason, stopsFirst, .inl (by omega)⟩
  · have noStop : ∀ steps < rounds patience limit, world.machine.stop? limit steps = none := by
      simpa using early
    by_cases halts : world.machine.haltStop? (rounds patience limit) = none
    · obtain ⟨other, unfinished⟩ := run_eq_unfinished passive noRequest noHit noStop halts
      rw [ended] at unfinished
      cases unfinished
    · have stops : world.machine.stop? limit (rounds patience limit) ≠ none :=
        mt haltStop?_eq_none halts
      obtain ⟨reason, isReason⟩ := Option.ne_none_iff_exists'.mp stops
      exact ⟨rounds patience limit, reason, ⟨isReason, noStop⟩, .inr ⟨rfl, halts⟩⟩

/-- A run in passive surroundings that starts with nothing pending is as many steps as lead to the
first reason to stop.  With a number of instructions allowed it ends, after at most that many. -/
theorem run_stops_first (passive : hear.Passive) {world : World σ}
    (noRequest : world.machine.control.requested = false)
    (noHit : world.machine.control.hit = none) (patience : Nat) (limit : Option Int) :
    (∀ steps, Returns (stepTimes hear steps) world
      ((List.range steps).map fun earlier => (world.machine.after earlier).fetched)
      (world.machine.after steps)) ∧
    (∀ stop final, run hear patience limit world = .ok stop final →
      ∃ (steps : Nat) (reason : Stop), stop = reason.after steps ∧
        world.machine.StopsFirst limit steps reason ∧
        final.machine =
          { world.machine.after steps with
            mode := .idle
            control := world.machine.control.clearPending.record stop }) ∧
    (∀ steps < rounds patience limit, world.machine.stop? limit steps ≠ none →
      ∃ stop final, run hear patience limit world = .ok stop final) ∧
    ∀ allowed, limit = some allowed →
      ∃ stop final, run hear patience limit world = .ok stop final ∧
        stop.steps ≤ max allowed 0 := by
  refine ⟨fun steps => returns_stepTimes passive steps world, ?_, ?_, ?_⟩
  · intro stop final ended
    obtain ⟨steps, reason, stopsFirst, room⟩ :=
      exists_stopsFirst_of_run passive noRequest noHit ended
    have returns := returns_run passive noRequest noHit stopsFirst room
    obtain ⟨rfl, machine⟩ := returns.eq_of_ok ended
    exact ⟨steps, reason, rfl, stopsFirst, machine⟩
  · intro steps below stops
    obtain ⟨first, reason, least, stopsFirst⟩ := exists_stopsFirst stops
    have room : first < rounds patience limit := by omega
    obtain ⟨surroundings, ended⟩ := returns_run passive noRequest noHit stopsFirst (Or.inl room)
    exact ⟨_, _, ended⟩
  · rintro allowed rfl
    have reached : allowed ≤ (allowed.toNat : Int) := Int.self_le_toNat allowed
    have isLimit : world.machine.limitStop? (some allowed) allowed.toNat = some _ :=
      if_pos reached
    have stops : world.machine.stop? (some allowed) allowed.toNat ≠ none := by
      simp [stop?, isLimit]
    obtain ⟨steps, reason, least, stopsFirst⟩ := exists_stopsFirst stops
    have room : steps < rounds patience (some allowed) := by
      rw [rounds]
      omega
    obtain ⟨surroundings, ended⟩ := returns_run passive noRequest noHit stopsFirst (Or.inl room)
    refine ⟨_, _, ended, ?_⟩
    change (steps : Int) ≤ max allowed 0
    omega

/-- After two instructions a write to a watched cell, a breakpoint and the number of instructions
allowed coincide. -/
theorem run_stops_first_at_write :
    let machine : Machine :=
      { Machine.fresh Machine.defaultOutput with
        memory := (Store.zero 8).applyAll (Store.loading 0 [0x21, 0x07, 0x31, 0x80])
        control := (StopControl.fresh.addWatchpoint 0x80).addBreakpoint 4 }
    let hear : Listener Empty Unit := fun _ => pure ()
    hear.Passive ∧ machine.control.requested = false ∧ machine.control.hit = none ∧
      ∃ final, run hear 0 (some 2) ⟨machine, ()⟩ = .ok ((Stop.atWrite 0x80 7).after 2) final ∧
        final.machine.counter = 4 := by
  intro machine hear
  have passive : hear.Passive := fun _ world => ⟨world.surroundings, rfl⟩
  have noRequest : (⟨machine, ()⟩ : World Unit).machine.control.requested = false := rfl
  have noHit : (⟨machine, ()⟩ : World Unit).machine.control.hit = none := rfl
  have noneAtZero : machine.stop? (some 2) 0 = none := by rfl
  have noneAtOne : machine.stop? (some 2) 1 = none := by decide +kernel
  have writeAtTwo : machine.stop? (some 2) 2 = some (.atWrite 0x80 7) := by decide +kernel
  have counter : (machine.after 2).counter = 4 := by decide +kernel
  obtain ⟨-, isFirst, -, ends⟩ := run_stops_first passive noRequest noHit 0 (some 2)
  obtain ⟨stop, final, ended, -⟩ := ends 2 rfl
  obtain ⟨steps, reason, rfl, stopsFirst, left⟩ := isFirst stop final ended
  have isReason : machine.stop? (some 2) steps = some reason := stopsFirst.isReason
  have atMost : ¬2 < steps := by
    intro above
    have absent := stopsFirst.first 2 above
    rw [writeAtTwo] at absent
    cases absent
  obtain rfl | rfl | rfl : steps = 0 ∨ steps = 1 ∨ steps = 2 := by omega
  · rw [noneAtZero] at isReason
    cases isReason
  · rw [noneAtOne] at isReason
    cases isReason
  · rw [writeAtTwo] at isReason
    cases isReason
    refine ⟨passive, noRequest, noHit, final, ended, ?_⟩
    rw [left]
    exact counter

end Action
end ByteMachine
