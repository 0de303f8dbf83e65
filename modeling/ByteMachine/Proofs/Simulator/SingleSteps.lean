import ByteMachine.Proofs.Machine.Resumption
import ByteMachine.Proofs.Simulator.Reset

/-!
# Single steps and runs

A simulator can be made to step again and again until it halts.  While its listeners leave it alone
and nothing else stops a run, this comes to the same as a run with as many instructions allowed as
there may be steps: the same registers, memory, counters and output after the same number of
instructions, and a halt instruction is found at the same address.
-/

namespace ByteMachine

namespace Machine

/-! ## Stops of single steps -/

/-- The stop that a single step tells. -/
def stepStop (machine : Machine) : Stop :=
  (if machine.fetched.operation = .halt then Stop.halted (machine.next.counter - 2).toNat
    else Stop.stepped machine.next.counter.toNat).after 1

/-- The stops that a number of single steps tell. -/
def stepStops (machine : Machine) (steps : Nat) : List Stop :=
  (List.range steps).map fun earlier => (machine.after earlier).stepStop

theorem stepStops_succ (machine : Machine) (steps : Nat) :
    machine.stepStops (steps + 1) = machine.stepStop :: machine.next.stepStops steps :=
  map_range_succ stepStop machine steps

theorem getLast?_stepStops_succ (machine : Machine) (steps : Nat) :
    (machine.stepStops (steps + 1)).getLast? = some (machine.after steps).stepStop := by
  rw [stepStops, List.range_succ, List.map_append, List.map_singleton, List.getLast?_concat]

theorem reason_stepStop (machine : Machine) :
    machine.stepStop.reason = .halt ↔ machine.fetched.operation = .halt := by
  rw [stepStop]
  split
  next halts => simp [Stop.after, Stop.halted, halts]
  next goesOn => simp [Stop.after, Stop.stepped, goesOn]

theorem portStores_succ (machine : Machine) (port : Byte) (steps : Nat) :
    machine.portStores port (steps + 1) =
      (machine.portStore? port).toList ++ machine.next.portStores port steps := by
  simp only [portStores, List.filterMap_eq_flatMap_toList]
  exact flatMap_range_succ (fun machine => (machine.portStore? port).toList) machine steps

/-! ## Steps up to a halt -/

/-- A number of steps leads to the first halt instruction, or is all that is allowed. -/
structure LeadsToHalt (machine : Machine) (calls steps : Nat) : Prop where
  /-- There are no more steps than are allowed. -/
  within : steps ≤ calls
  /-- None of them halts before the last one. -/
  goesOn : ∀ fewer < steps, machine.haltStop? fewer = none
  /-- If more are allowed, the last one halts. -/
  ends : steps < calls → machine.haltStop? steps ≠ none

theorem haltStop?_next {machine : Machine} (goesOn : machine.fetched.operation ≠ .halt)
    (steps : Nat) : machine.next.haltStop? steps = machine.haltStop? (steps + 1) := by
  cases steps with
  | zero =>
      have noHalt : machine.haltStop? (0 + 1) = none := haltStop?_succ_eq_none_iff.mpr goesOn
      exact noHalt.symm
  | succ steps => rw [haltStop?, haltStop?, after_next, after_next]

theorem LeadsToHalt.next {machine : Machine} {calls steps : Nat}
    (leads : machine.LeadsToHalt (calls + 1) (steps + 1))
    (goesOn : machine.fetched.operation ≠ .halt) : machine.next.LeadsToHalt calls steps where
  within := Nat.le_of_succ_le_succ leads.within
  goesOn fewer below := by
    rw [haltStop?_next goesOn]
    exact leads.goesOn _ (Nat.succ_lt_succ below)
  ends more := by
    rw [haltStop?_next goesOn]
    exact leads.ends (Nat.succ_lt_succ more)

/-- The first step that halts is the last one. -/
theorem LeadsToHalt.eq_one {machine : Machine} {calls steps : Nat}
    (leads : machine.LeadsToHalt calls (steps + 1)) (halts : machine.fetched.operation = .halt) :
    steps = 0 := by
  by_contra more
  have noHalt : machine.haltStop? (0 + 1) = none := leads.goesOn 1 (by omega)
  exact haltStop?_succ_eq_none_iff.mp noHalt halts

/-! ## Stops of runs that nothing guards -/

section Unguarded

variable {start : Machine} (noBreakpoints : start.control.breakpoints = ByteSet.empty)
  (noWatchpoints : start.control.watchpoints = ByteSet.empty)
include noBreakpoints noWatchpoints

/-- When no cell is watched and there is no breakpoint, a run stops at a halt instruction or when it
has executed as many instructions as are allowed. -/
theorem stop?_of_unguarded (limit : Option Int) (steps : Nat) :
    start.stop? limit steps = (start.haltStop? steps).or (start.limitStop? limit steps) := by
  have noWrite : start.writeStop? steps = none := by
    cases steps with
    | zero => rfl
    | succ steps =>
        rw [writeStop?, noWatchpoints]
        split
        · simp
        · rfl
  have noBreakpoint : start.breakpointStop? steps = none := by
    simp [breakpointStop?, noBreakpoints]
  rw [stop?, noWrite, noBreakpoint, Option.none_or, Option.none_or]

/-- Such a run executes an instruction, and leads to the first halt or to the limit. -/
theorem exists_stopsFirst_of_unguarded {calls : Nat} (positive : 1 ≤ calls) :
    ∃ before reason, start.StopsFirst (some calls) (before + 1) reason ∧
      start.LeadsToHalt calls (before + 1) := by
  have unguarded := stop?_of_unguarded noBreakpoints noWatchpoints (some calls)
  obtain ⟨steps, reason, within, stopsFirst⟩ := exists_stopsFirst_of_limit start calls
  cases steps with
  | zero =>
      have isReason := stopsFirst.isReason
      rw [unguarded, limitStop?_eq_none_iff.mpr positive] at isReason
      cases isReason
  | succ before =>
      have ends : before + 1 < calls → start.haltStop? (before + 1) ≠ none := by
        intro more noHalt
        have isReason := stopsFirst.isReason
        rw [unguarded, limitStop?_eq_none_iff.mpr more, noHalt] at isReason
        cases isReason
      exact ⟨before, reason, stopsFirst, within,
        fun fewer below => haltStop?_eq_none (stopsFirst.first fewer below), ends⟩

/-- The last single step before the stop of such a run and the run tell a halt at the same address,
or they tell the address of the next instruction. -/
theorem stepStop_of_stopsFirst {limit : Int} {before : Nat} {reason : Stop}
    (stopsFirst : start.StopsFirst (some limit) (before + 1) reason) :
    (∃ address, (start.after before).stepStop = (Stop.halted address).after 1 ∧
      reason = Stop.halted address) ∨
    (start.after before).stepStop =
        (Stop.stepped (start.after (before + 1)).counter.toNat).after 1 ∧
      reason = Stop.atLimit (start.after (before + 1)).counter.toNat limit := by
  have isReason := stopsFirst.isReason
  rw [stop?_of_unguarded noBreakpoints noWatchpoints] at isReason
  rw [stepStop, ← after_succ]
  by_cases halts : (start.after before).fetched.operation = .halt
  · rw [haltStop?, if_pos halts, Option.some_or] at isReason
    rw [if_pos halts]
    exact .inl ⟨_, rfl, (Option.some.inj isReason).symm⟩
  · rw [haltStop?, if_neg halts, Option.none_or] at isReason
    rw [if_neg halts]
    simp only [limitStop?] at isReason
    split at isReason
    · exact .inr ⟨rfl, (Option.some.inj isReason).symm⟩
    · cases isReason

end Unguarded

end Machine

/-! ## Steps until a halt, and a run -/

namespace Simulator

open ByteMachine.Action

variable {σ : Type} {hear : Hearer σ} {calm : σ → Prop}

/-- Steps until one of them halts, but at most a number of times, and tells how each of them
ended. -/
def stepToHalt (hear : Hearer σ) : Nat → Activity σ (List Stop)
  | 0 => return []
  | calls + 1 => do
      let stop ← step hear
      if stop.reason = .halt then return [stop]
      else return stop :: (← stepToHalt hear calls)

theorem Hearer.Spectates.asking {mayAsk : Prop} (spectates : hear.Spectates calm mayAsk) :
    hear.Spectates calm True := by
  intro notice world isCalm
  obtain ⟨times, host, heard, stillCalm, -⟩ := spectates notice world isCalm
  exact ⟨times, host, heard, stillCalm, fun _ => trivial⟩

section Unasked

variable (spectates : hear.Spectates calm False)
include spectates

theorem step_eq {world : World (Simulator σ)} (isCalm : calm world.surroundings.host) :
    ∃ others, step (collecting hear) world =
        .ok world.machine.stepStop ⟨world.machine.next, others⟩ ∧
      calm others.host ∧
      others.output = world.surroundings.output ++
        (world.machine.portStore? world.machine.outputAddress).toList.map character := by
  have follows := follows_collecting spectates world.surroundings.output
  obtain ⟨others, stepped, spectated⟩ :=
    (announces_step follows.tracks world.machine).unasked follows (spectated_self False isCalm)
  refine ⟨others, (bind_of_ok stepped).trans rfl, spectated.isCalm, ?_⟩
  rw [spectated.output, List.nil_append, Machine.printed_stepNotices]

theorem stepToHalt_eq {world : World (Simulator σ)} (isCalm : calm world.surroundings.host)
    {calls steps : Nat} (leads : world.machine.LeadsToHalt calls steps) :
    ∃ others, stepToHalt (collecting hear) calls world =
        .ok (world.machine.stepStops steps) ⟨world.machine.after steps, others⟩ ∧
      others.output = world.surroundings.output ++
        (world.machine.portStores world.machine.outputAddress steps).map character := by
  induction steps generalizing world calls with
  | zero =>
      obtain rfl : calls = 0 := by
        by_contra more
        exact leads.ends (Nat.pos_of_ne_zero more) rfl
      exact ⟨world.surroundings, rfl, (List.append_nil _).symm⟩
  | succ steps induction =>
      obtain ⟨calls, rfl⟩ := Nat.exists_eq_add_of_le' (Nat.le_of_add_left_le leads.within)
      obtain ⟨between, stepped, stillCalm, printed⟩ := step_eq spectates isCalm
      rw [stepToHalt, bind_of_ok stepped, Machine.stepStops_succ, ← Machine.after_next,
        Machine.portStores_succ]
      by_cases halts : world.machine.fetched.operation = .halt
      · obtain rfl := leads.eq_one halts
        rw [if_pos ((Machine.reason_stepStop _).mpr halts)]
        refine ⟨between, rfl, ?_⟩
        rw [printed, Machine.portStores, List.range_zero, List.filterMap_nil, List.append_nil]
      · rw [if_neg (mt (Machine.reason_stepStop _).mp halts)]
        obtain ⟨others, called, printedMore⟩ :=
          @induction ⟨world.machine.next, between⟩ stillCalm calls (leads.next halts)
        refine ⟨others, bind_of_ok called, ?_⟩
        rw [printedMore, printed, List.append_assoc, ← List.map_append, Machine.outputAddress_next]

/-- A run tells and records the first reason to stop, also when its listeners have surroundings of
their own. -/
theorem exists_run_eq_of_stopsFirst {world : World (Simulator σ)}
    (isCalm : calm world.surroundings.host) (noRequest : world.machine.control.requested = false)
    (noHit : world.machine.control.hit = none) {calls : Nat} (positive : 1 ≤ calls) {steps : Nat}
    (within : steps ≤ calls) {reason : Stop}
    (stopsFirst : world.machine.StopsFirst (some calls) steps reason) :
    ∃ final, run (collecting hear) (some calls) world = .ok (reason.after steps) final ∧
      final.machine.control.last = some (reason.after steps) := by
  have positiveLimit : (1 : Int) ≤ calls := by exact_mod_cast positive
  obtain ⟨stop, machine, notices, told⟩ :=
    @exists_foretold_run Failure calls positiveLimit world.machine noRequest noHit 0
  -- What the run comes to is read off a run to which nobody listens.
  let silent : Listener Failure Unit := fun _ => pure ()
  have passive : silent.Passive := fun _ world => ⟨world.surroundings, rfl⟩
  have silentFollows : silent.Follows fun _ asked _ => asked = false := ⟨passive.tracks, id⟩
  have foretold : Returns (Action.run silent 0 (some calls)) ⟨world.machine, ()⟩ stop machine :=
    (told _ _ _ silentFollows).returns
  have room : steps < rounds 0 (some (calls : Int)) := by
    rw [rounds]
    omega
  have alone : Returns (Action.run silent 0 (some calls)) ⟨world.machine, ()⟩ _ _ :=
    returns_run passive noRequest noHit stopsFirst (.inl room)
  obtain ⟨_, ranAlone⟩ := alone
  obtain ⟨rfl, rfl⟩ := foretold.eq_of_ok ranAlone
  have follows := follows_collecting spectates world.surroundings.output
  have toldHere :=
    told world.machine.instruction world.machine.mode world.machine.control.last follows
  obtain ⟨others, ran, -⟩ := toldHere.unasked follows (spectated_self False isCalm)
  exact ⟨_, ran, rfl⟩

theorem executes_run {world : World (Simulator σ)} (isCalm : calm world.surroundings.host)
    (noRequest : world.machine.control.requested = false)
    (noHit : world.machine.control.hit = none) {calls : Nat} (positive : 1 ≤ calls) {steps : Nat}
    (within : steps ≤ calls) {reason : Stop}
    (stopsFirst : world.machine.StopsFirst (some calls) steps reason) :
    ∃ final, run (collecting hear) (some calls) world = .ok (reason.after steps) final ∧
      Executes world steps final := by
  obtain ⟨final, ran, recorded⟩ :=
    exists_run_eq_of_stopsFirst spectates isCalm noRequest noHit positive within stopsFirst
  rcases runs_run spectates.asking isCalm 0 (some calls) with
    ⟨_, stop, _, again, alsoRecorded, executes⟩ | ⟨_, unfinished⟩
  · cases ran.symm.trans again
    obtain rfl := Option.some.inj (recorded.symm.trans alsoRecorded)
    exact ⟨final, ran, executes⟩
  · cases ran.symm.trans unfinished

end Unasked

/-- Single steps until one of them halts come to the same as a run with as many instructions allowed
as there may be steps: the same registers, memory, counter, instruction register and output after
the same number of instructions.  Either the last step and the run both tell a halt, and at the same
address, or they both tell the address of the next instruction, the step as that of a step and the
run as that of a limit. -/
theorem stepToHalt_agrees_with_run (spectates : hear.Spectates calm False)
    {world : World (Simulator σ)} (isCalm : calm world.surroundings.host)
    (noBreakpoints : world.machine.control.breakpoints = ByteSet.empty)
    (noWatchpoints : world.machine.control.watchpoints = ByteSet.empty)
    (noRequest : world.machine.control.requested = false)
    (noHit : world.machine.control.hit = none) {calls : Nat} (positive : 1 ≤ calls) :
    ∃ stops last stepped stop ran,
      stepToHalt (collecting hear) calls world = .ok stops stepped ∧
      run (collecting hear) (some calls) world = .ok stop ran ∧
      stepped.machine.Alike ran.machine ∧
      stepped.surroundings.output = ran.surroundings.output ∧
      stop.steps = stops.length ∧ stops.getLast? = some last ∧
      (∀ address, last.reason = .halt ∧ last.address = some address ↔
        stop.reason = .halt ∧ stop.address = some address) ∧
      ((¬∃ address, last.reason = .halt ∧ last.address = some address) →
        last.reason = .step ∧ last.address = some (stepped.machine.counter.toNat : Int) ∧
          stop.reason = .stepLimit ∧ stop.address = some (ran.machine.counter.toNat : Int)) := by
  obtain ⟨before, reason, stopsFirst, leads⟩ :=
    Machine.exists_stopsFirst_of_unguarded noBreakpoints noWatchpoints positive
  obtain ⟨others, called, printed⟩ := stepToHalt_eq spectates isCalm leads
  obtain ⟨ran, isRun, executes⟩ :=
    executes_run spectates isCalm noRequest noHit positive leads.within stopsFirst
  have alike := executes.alike.symm
  have sameOutput := printed.trans executes.printed.symm
  have stepsAgree : ((before + 1 : Nat) : Int) = (world.machine.stepStops (before + 1)).length := by
    rw [Machine.stepStops, List.length_map, List.length_range]
  refine ⟨_, _, _, _, ran, called, isRun, alike, sameOutput, stepsAgree,
    world.machine.getLast?_stepStops_succ before, ?_⟩
  rcases Machine.stepStop_of_stopsFirst noBreakpoints noWatchpoints stopsFirst with
    ⟨address, isHalt, rfl⟩ | ⟨isStep, rfl⟩
  · rw [isHalt]
    exact ⟨fun _ => Iff.rfl, fun noHalt => absurd ⟨address, rfl, rfl⟩ noHalt⟩
  · rw [isStep, ← alike.counter]
    exact ⟨fun _ => ⟨nofun, nofun⟩, fun _ => ⟨rfl, rfl, rfl, rfl⟩⟩

/-- A program at the end of memory stores a halt instruction at address zero, where characters are
printed, and goes on there, with its last step allowed. -/
theorem stepToHalt_agrees_on_stored_halt :
    let hear : Hearer (List Notice) := fun notice world =>
      .ok () ⟨world.machine,
        { world.surroundings with host := world.surroundings.host ++ [notice] }⟩
    let world : World (Simulator (List Notice)) :=
      ⟨{ Machine.fresh 0 with
          memory := [0x21, 0xC0, 0x31, 0x00].zipIdx.foldl
            (fun memory cell => memory.write (0xFC + cell.2) cell.1) (Store.zero 8)
          counter := 0xFC },
        ⟨⟨10, false, 0⟩, Assembler.fresh, #['A'], []⟩⟩
    hear.Spectates (fun _ => True) False ∧
      ∃ stops last stepped stop ran,
        stepToHalt (collecting hear) 3 world = .ok stops stepped ∧
        run (collecting hear) (some 3) world = .ok stop ran ∧
        stepped.machine.Alike ran.machine ∧
        stepped.surroundings.output = ran.surroundings.output ∧
        ran.surroundings.output = ['A', 'À'] ∧
        stop.steps = 3 ∧ stops.length = 3 ∧ stops.getLast? = some last ∧
        last.reason = .halt ∧ last.address = some 0 := by
  intro hear world
  have spectates : hear.Spectates (fun _ => True) False :=
    fun _ _ _ => ⟨0, _, rfl, trivial, Nat.not_lt_zero 0⟩
  have halting : (match run (collecting hear) (some 3) world with
      | .ok stop ran => stop = (Stop.halted 0).after 3 && ran.surroundings.output = ['A', 'À']
      | .error _ _ => false) = true := by
    decide +kernel
  obtain ⟨stops, last, stepped, stop, ran, called, isRun, alike, sameOutput, count, isLast, halts,
      -⟩ :=
    @stepToHalt_agrees_with_run _ _ _ spectates world trivial rfl rfl rfl rfl 3 (by decide)
  have isRunHere : run (collecting hear) (some 3) world = .ok stop ran := isRun
  rw [isRunHere] at halting
  obtain ⟨rfl, output⟩ :
      stop = (Stop.halted 0).after 3 ∧ ran.surroundings.output = ['A', 'À'] := by
    simpa using halting
  obtain ⟨isHalt, address⟩ := (halts 0).mpr ⟨rfl, rfl⟩
  exact ⟨spectates, stops, last, stepped, _, _, called, isRun, alike, sameOutput, output, rfl,
    Int.ofNat.inj count.symm, isLast, isHalt, address⟩

end Simulator
end ByteMachine
