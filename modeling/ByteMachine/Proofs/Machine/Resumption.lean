import ByteMachine.Proofs.Machine.FirstStop

/-!
# Runs that go on where a run has stopped

A run that has stopped leaves a machine from which the next steps are those that the run would have
made.  What may differ is the first look at what stops a run: a breakpoint at the place where a run
starts does not count.  So a run that is cut by the number of instructions allowed is the same as
one that is not, because no breakpoint and no watched write is due when that number stops it.
-/

namespace ByteMachine

/-- Why and where execution ended, without the number of instructions and the message. -/
def Stop.occasion (stop : Stop) : StopReason × Option Int × Option Int :=
  (stop.reason, stop.address, stop.value)

namespace Machine

/-! ## Machines that execute alike -/

/-- Two machines execute alike: they differ at most in mode, in what stops them and in where they
print. -/
structure Alike (left right : Machine) : Prop where
  /-- They have the same registers. -/
  registers : left.registers = right.registers
  /-- They have the same memory. -/
  memory : left.memory = right.memory
  /-- They have the same counter. -/
  counter : left.counter = right.counter
  /-- They have fetched the same word. -/
  instruction : left.instruction = right.instruction

section Alike

variable {left right : Machine}

theorem Alike.fetched (alike : left.Alike right) : left.fetched = right.fetched := by
  rw [Machine.fetched, Machine.fetched, alike.memory, alike.counter]

theorem Alike.effect (alike : left.Alike right) (word : Word) :
    left.effect word = right.effect word := by
  cases left
  cases right
  obtain ⟨rfl, rfl, rfl, rfl⟩ := alike
  rfl

theorem Alike.nextStore? (alike : left.Alike right) : left.nextStore? = right.nextStore? := by
  simp only [Machine.nextStore?, register, alike.fetched, alike.registers]

theorem Alike.apply (alike : left.Alike right) (effect : Effect) :
    (left.apply effect).Alike (right.apply effect) := by
  cases effect with
  | nothing | halt => exact ⟨alike.registers, alike.memory, alike.counter, alike.instruction⟩
  | setRegister register value =>
      exact ⟨congrArg (·.write register value) alike.registers, alike.memory, alike.counter,
        alike.instruction⟩
  | store address value =>
      exact ⟨alike.registers, congrArg (·.write address value) alike.memory, alike.counter,
        alike.instruction⟩
  | jump target => exact ⟨alike.registers, alike.memory, rfl, alike.instruction⟩

theorem Alike.next (alike : left.Alike right) : left.next.Alike right.next := by
  have fetches : left.fetch.Alike right.fetch :=
    ⟨alike.registers, alike.memory, congrArg (· + 2) alike.counter, alike.fetched⟩
  rw [Machine.next, Machine.next, alike.fetched, alike.effect]
  exact fetches.apply _

theorem Alike.after (alike : left.Alike right) (steps : Nat) :
    (left.after steps).Alike (right.after steps) := by
  induction steps with
  | zero => exact alike
  | succ steps induction =>
      rw [after_succ, after_succ]
      exact induction.next

theorem Alike.symm (alike : left.Alike right) : right.Alike left :=
  ⟨alike.registers.symm, alike.memory.symm, alike.counter.symm, alike.instruction.symm⟩

theorem Alike.trans {other : Machine} (alike : left.Alike right) (same : right.Alike other) :
    left.Alike other :=
  ⟨alike.registers.trans same.registers, alike.memory.trans same.memory,
    alike.counter.trans same.counter, alike.instruction.trans same.instruction⟩

theorem Alike.snapshot_eq (alike : left.Alike right) (modes : left.mode = right.mode) :
    left.snapshot = right.snapshot := by
  simp only [snapshot, alike.registers, alike.memory, alike.counter, alike.instruction, modes]

end Alike

theorem after_after (machine : Machine) (steps more : Nat) :
    (machine.after steps).after more = machine.after (steps + more) := by
  rw [Nat.add_comm]
  exact (Function.iterate_add_apply Machine.next more steps machine).symm

/-! ## Reasons to stop, seen from a later machine -/

section Later

variable {start later : Machine} {steps : Nat}

theorem Alike.after_add (alike : later.Alike (start.after steps)) (more : Nat) :
    (later.after more).Alike (start.after (steps + more)) := by
  rw [← after_after]
  exact alike.after more

theorem Alike.haltStop?_succ (alike : later.Alike (start.after steps)) (more : Nat) :
    later.haltStop? (more + 1) = start.haltStop? (steps + more + 1) := by
  simp only [haltStop?, (alike.after_add more).fetched, Nat.add_assoc,
    (alike.after_add (more + 1)).counter]

theorem Alike.writeStop?_succ (alike : later.Alike (start.after steps))
    (watchpoints : later.control.watchpoints = start.control.watchpoints) (more : Nat) :
    later.writeStop? (more + 1) = start.writeStop? (steps + more + 1) := by
  simp only [writeStop?, (alike.after_add more).nextStore?, watchpoints]

theorem Alike.breakpointStop?_succ (alike : later.Alike (start.after steps))
    (breakpoints : later.control.breakpoints = start.control.breakpoints) (more : Nat) :
    later.breakpointStop? (more + 1) = start.breakpointStop? (steps + more + 1) := by
  have positive : 0 < steps + (more + 1) := by omega
  simp only [breakpointStop?, (alike.after_add (more + 1)).counter,
    breakpoints, Nat.add_assoc, positive, Nat.succ_pos]

/-- The later machine is at rest after a number of steps, with nothing pending and stopped by the same
breakpoints and watched cells. -/
structure Resumes (start : Machine) (steps : Nat) (later : Machine) : Prop where
  /-- It executes as the machine after the steps does. -/
  alike : later.Alike (start.after steps)
  /-- It has the same breakpoints. -/
  breakpoints : later.control.breakpoints = start.control.breakpoints
  /-- The same cells are watched. -/
  watchpoints : later.control.watchpoints = start.control.watchpoints
  /-- No stop is asked for. -/
  noRequest : later.control.requested = false
  /-- No watched write is still to be reported. -/
  noHit : later.control.hit = none

theorem resumes_zero (noRequest : start.control.requested = false)
    (noHit : start.control.hit = none) : start.Resumes 0 start :=
  ⟨⟨rfl, rfl, rfl, rfl⟩, rfl, rfl, noRequest, noHit⟩

/-- The machine that a run of a number of steps leaves. -/
theorem Resumes.of_run (resumes : start.Resumes steps later) (more : Nat) (stop : Stop) :
    start.Resumes (steps + more)
      { later.after more with
        mode := .idle
        control := later.control.clearPending.record stop } := by
  have alike := resumes.alike.after_add more
  exact ⟨⟨alike.registers, alike.memory, alike.counter, alike.instruction⟩, resumes.breakpoints,
    resumes.watchpoints, rfl, rfl⟩

theorem stop?_eq_or (limit : Option Int) (steps : Nat) :
    start.stop? limit steps = (start.stop? none steps).or (start.limitStop? limit steps) := by
  simp only [stop?, limitStop?, Option.or_assoc, Option.none_or]

theorem Resumes.stop?_succ (resumes : start.Resumes steps later) (more : Nat) :
    later.stop? none (more + 1) = start.stop? none (steps + more + 1) := by
  simp only [stop?, limitStop?, resumes.alike.haltStop?_succ,
    resumes.alike.writeStop?_succ resumes.watchpoints,
    resumes.alike.breakpointStop?_succ resumes.breakpoints]

/-! ## Which reason stops a run -/

theorem reason_of_haltStop? {stop : Stop} (isStop : start.haltStop? steps = some stop) :
    stop.reason = .halt := by
  cases steps with
  | zero => cases isStop
  | succ steps =>
      rw [haltStop?, Option.ite_none_right_eq_some] at isStop
      rw [← Option.some.inj isStop.2]
      rfl

theorem reason_of_writeStop? {stop : Stop} (isStop : start.writeStop? steps = some stop) :
    stop.reason = .memoryWrite := by
  cases steps with
  | zero => cases isStop
  | succ steps =>
      rw [writeStop?] at isStop
      split at isStop
      next address value _ =>
        rw [Option.ite_none_right_eq_some] at isStop
        rw [← Option.some.inj isStop.2]
        rfl
      next => cases isStop

theorem reason_of_breakpointStop? {stop : Stop}
    (isStop : start.breakpointStop? steps = some stop) : stop.reason = .breakpoint := by
  rw [breakpointStop?, Option.ite_none_right_eq_some] at isStop
  rw [← Option.some.inj isStop.2]
  rfl

theorem reason_of_limitStop? {limit : Option Int} {stop : Stop}
    (isStop : start.limitStop? limit steps = some stop) : stop.reason = .stepLimit := by
  cases limit with
  | none => cases isStop
  | some limit =>
      rw [limitStop?, Option.ite_none_right_eq_some] at isStop
      rw [← Option.some.inj isStop.2]
      rfl

theorem stop?_none_cases {stop : Stop} (isStop : start.stop? none steps = some stop) :
    start.haltStop? steps = some stop ∨ start.writeStop? steps = some stop ∨
      start.writeStop? steps = none ∧ start.breakpointStop? steps = some stop := by
  rw [stop?, limitStop?, Option.or_none, Option.or_eq_some_iff, Option.or_eq_some_iff] at isStop
  rcases isStop with halt | ⟨-, write | ⟨noWrite, breakpoint⟩⟩
  · exact .inl halt
  · exact .inr (.inl write)
  · exact .inr (.inr ⟨noWrite, breakpoint⟩)

theorem reason_ne_stepLimit {stop : Stop} (isStop : start.stop? none steps = some stop) :
    stop.reason ≠ .stepLimit := by
  rcases stop?_none_cases isStop with halt | write | ⟨-, breakpoint⟩
  · simp [reason_of_haltStop? halt]
  · simp [reason_of_writeStop? write]
  · simp [reason_of_breakpointStop? breakpoint]

theorem limitStop?_eq_none_iff {limit steps : Nat} :
    start.limitStop? (some (limit : Int)) steps = none ↔ steps < limit := by
  rw [limitStop?, ite_eq_right_iff]
  simp

/-- A run with a number of instructions allowed has a first reason to stop. -/
theorem exists_stopsFirst_of_limit (start : Machine) (limit : Nat) :
    ∃ steps reason, steps ≤ limit ∧ start.StopsFirst (some (limit : Int)) steps reason := by
  apply exists_stopsFirst
  rw [stop?_eq_or, ne_eq, Option.or_eq_none_iff, limitStop?_eq_none_iff]
  omega

/-- When the number of instructions allowed stops a run, nothing else has been due. -/
theorem StopsFirst.of_stepLimit {limit : Nat} {reason : Stop}
    (stops : start.StopsFirst (some (limit : Int)) steps reason)
    (isLimit : reason.reason = .stepLimit) :
    steps = limit ∧ ∀ fewer ≤ limit, start.stop? none fewer = none := by
  have isReason := stops.isReason
  rw [stop?_eq_or] at isReason
  have noneNow : start.stop? none steps = none := by
    cases other : start.stop? none steps with
    | none => rfl
    | some stop =>
        rw [other, Option.some_or] at isReason
        cases isReason
        exact absurd isLimit (reason_ne_stepLimit other)
  have noneEarlier : ∀ fewer < steps,
      start.stop? none fewer = none ∧ fewer < limit := by
    intro fewer below
    have none := stops.first fewer below
    rw [stop?_eq_or, Option.or_eq_none_iff, limitStop?_eq_none_iff] at none
    exact none
  have reached : ¬steps < limit := by
    intro below
    rw [noneNow, Option.none_or, limitStop?_eq_none_iff.mpr below] at isReason
    cases isReason
  have exact : steps = limit := by
    by_contra different
    have beyond := (noneEarlier limit (by omega)).2
    omega
  refine ⟨exact, ?_⟩
  intro fewer within
  rcases Nat.lt_or_eq_of_le within with below | rfl
  · exact (noneEarlier fewer (by omega)).1
  · rw [← exact]
    exact noneNow

/-- Where nothing is due, the reason to stop is the same for a run that starts there with the rest of
the instructions allowed. -/
theorem Resumes.occasion_stop? (resumes : start.Resumes steps later)
    (noneDue : start.stop? none steps = none) (limit more : Nat) :
    (later.stop? (some (limit : Int)) more).map Stop.occasion =
      (start.stop? (some ((steps + limit : Nat) : Int)) (steps + more)).map Stop.occasion := by
  have same : later.stop? none more = start.stop? none (steps + more) := by
    cases more with
    | zero => exact noneDue.symm
    | succ more => exact resumes.stop?_succ more
  rw [stop?_eq_or, stop?_eq_or (some ((steps + limit : Nat) : Int)), same]
  cases start.stop? none (steps + more) with
  | some stop => rfl
  | none =>
      have reached : (limit : Int) ≤ more ↔ ((steps + limit : Nat) : Int) ≤ (steps + more : Nat) := by
        omega
      simp only [Option.none_or, limitStop?, reached, (resumes.alike.after_add more).counter]
      split <;> rfl

/-- So the first reason to stop is the same. -/
theorem Resumes.exists_stopsFirst (resumes : start.Resumes steps later)
    (noneDue : start.stop? none steps = none) {limit more : Nat} {reason : Stop}
    (whole : start.StopsFirst (some ((steps + limit : Nat) : Int)) (steps + more) reason) :
    ∃ same, later.StopsFirst (some (limit : Int)) more same ∧ same.occasion = reason.occasion := by
  have occasions := resumes.occasion_stop? noneDue limit
  have isLater : (later.stop? (some (limit : Int)) more).map Stop.occasion =
      some reason.occasion := by
    rw [occasions, whole.isReason]
    rfl
  obtain ⟨same, isReason, sameOccasion⟩ := Option.map_eq_some_iff.mp isLater
  refine ⟨same, ⟨isReason, ?_⟩, sameOccasion⟩
  intro fewer below
  have none := occasions fewer
  rw [whole.first (steps + fewer) (by omega)] at none
  exact Option.map_eq_none_iff.mp none

end Later
end Machine

namespace Action

open Machine

variable {ε σ : Type} {hear : Listener ε σ}

/-- A run that starts where a machine is after some steps leaves a machine that goes on from where the
first one is some more steps later. -/
theorem run_resumes (passive : hear.Passive) {start : Machine} {steps more patience : Nat}
    {limit : Option Int} {reason : Stop} {world : World σ}
    (resumes : start.Resumes steps world.machine)
    (stops : world.machine.StopsFirst limit more reason)
    (room : more < rounds patience limit ∨
      more = rounds patience limit ∧ world.machine.haltStop? more ≠ none) :
    ∃ final, run hear patience limit world = .ok (reason.after more) final ∧
      start.Resumes (steps + more) final.machine ∧ final.machine.mode = .idle := by
  obtain ⟨_, ended⟩ := returns_run passive resumes.noRequest resumes.noHit stops room
  exact ⟨_, ended, resumes.of_run more (reason.after more), rfl⟩

/-- A run that the number of instructions allowed stops, followed by a run of some more instructions,
ends as the run does that is allowed all of them at once. -/
theorem run_split (passive : hear.Passive) {world between : World σ}
    (noRequest : world.machine.control.requested = false)
    (noHit : world.machine.control.hit = none) (patience n m : Nat) {stop : Stop}
    (first : run hear patience (some (n : Int)) world = .ok stop between)
    (used : stop.reason = .stepLimit) :
    ∃ second whole final single,
      run hear patience (some (m : Int)) between = .ok second final ∧
      run hear patience (some ((n + m : Nat) : Int)) world = .ok whole single ∧
      final.machine.snapshot = single.machine.snapshot ∧
      second.occasion = whole.occasion ∧
      stop.steps + second.steps = whole.steps := by
  have here : world.machine.Resumes 0 world.machine := resumes_zero noRequest noHit
  obtain ⟨steps, reason, stopsFirst, room⟩ :=
    exists_stopsFirst_of_run passive noRequest noHit first
  obtain ⟨_, ran, resumes, -⟩ := run_resumes passive here stopsFirst room
  rw [Nat.zero_add] at resumes
  cases first.symm.trans ran
  obtain ⟨rfl, noneDue⟩ := stopsFirst.of_stepLimit used
  obtain ⟨total, wholeReason, within, wholeFirst⟩ :=
    exists_stopsFirst_of_limit world.machine (steps + m)
  have goesOn : steps ≤ total := by
    by_contra below
    have isReason := wholeFirst.isReason
    rw [stop?_eq_or, noneDue total (by omega), Option.none_or,
      limitStop?_eq_none_iff.mpr (by omega)] at isReason
    cases isReason
  obtain ⟨more, rfl⟩ := Nat.exists_eq_add_of_le goesOn
  obtain ⟨secondReason, secondFirst, sameOccasion⟩ :=
    resumes.exists_stopsFirst (noneDue steps (Nat.le_refl _)) wholeFirst
  have secondRoom : more < rounds patience (some (m : Int)) := by
    rw [rounds]
    omega
  have wholeRoom : steps + more < rounds patience (some ((steps + m : Nat) : Int)) := by
    rw [rounds]
    omega
  obtain ⟨final, second, secondEnd, finalIdle⟩ :=
    run_resumes passive resumes secondFirst (.inl secondRoom)
  obtain ⟨single, whole, wholeEnd, singleIdle⟩ :=
    run_resumes passive here wholeFirst (.inl wholeRoom)
  rw [Nat.zero_add] at wholeEnd
  exact ⟨_, _, final, single, second, whole,
    (secondEnd.alike.trans wholeEnd.alike.symm).snapshot_eq (finalIdle.trans singleIdle.symm),
    sameOccasion, (Int.natCast_add steps more).symm⟩

/-- A run of one instruction ends before the one whose write is watched; there a breakpoint and the
number of instructions allowed are due as well. -/
theorem run_split_before_write :
    let machine : Machine :=
      { Machine.fresh Machine.defaultOutput with
        memory := (Store.zero 8).applyAll (Store.loading 0 [0x21, 0x07, 0x31, 0x80])
        control := (StopControl.fresh.addWatchpoint 0x80).addBreakpoint 4 }
    let hear : Listener Empty Unit := fun _ => pure ()
    ∃ stop between second final whole single,
      run hear 0 (some (1 : Nat)) ⟨machine, ()⟩ = .ok stop between ∧ stop.reason = .stepLimit ∧
      run hear 0 (some (1 : Nat)) between = .ok second final ∧
      run hear 0 (some (2 : Nat)) ⟨machine, ()⟩ = .ok whole single ∧
      final.machine.snapshot = single.machine.snapshot ∧
      second.occasion = whole.occasion ∧ whole.occasion = (.memoryWrite, some 0x80, some 7) ∧
      stop.steps + second.steps = whole.steps := by
  intro machine hear
  have passive : hear.Passive := fun _ world => ⟨world.surroundings, rfl⟩
  have first : ∃ stop between, run hear 0 (some (1 : Nat)) ⟨machine, ()⟩ = .ok stop between ∧
      stop.reason = .stepLimit := by
    dsimp only [machine, hear]
    exact ⟨_, _, rfl, rfl⟩
  have atWrite : ∃ whole single, run hear 0 (some (2 : Nat)) ⟨machine, ()⟩ = .ok whole single ∧
      whole.occasion = (.memoryWrite, some 0x80, some 7) := by
    dsimp only [machine, hear]
    exact ⟨_, _, rfl, rfl⟩
  obtain ⟨stop, between, first, used⟩ := first
  obtain ⟨_, _, expected, occasion⟩ := atWrite
  obtain ⟨second, whole, final, single, rest, together, same, occasions, sum⟩ :=
    run_split passive rfl rfl 0 1 1 first used
  rw [expected] at together
  cases together
  exact ⟨stop, between, second, final, _, _, first, used, rest, expected, same, occasions, occasion,
    sum⟩

end Action
end ByteMachine
