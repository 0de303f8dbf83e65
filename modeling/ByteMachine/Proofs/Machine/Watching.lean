import ByteMachine.Proofs.Machine.Resumption
import Mathlib.Algebra.Ring.Int.Defs

/-!
# Runs that stop at watched writes

A run that is stopped by the writes to watched cells, and started again after each of them, comes to
where the run comes that watches no cell, in as many steps.  It stops there for the same reason, with
one exception: when the last of these steps is itself a watched write, it is this write that is
reported.  A breakpoint that stops the other run at the same place is then left behind, since the
next run starts at it.
-/

namespace ByteMachine
namespace Machine

/-- The machine with no cell watched. -/
def unwatched (machine : Machine) : Machine :=
  { machine with control := machine.control.clearWatchpoints }

section Unwatched

variable {start : Machine} {steps : Nat}

theorem alike_unwatched (start : Machine) : start.unwatched.Alike (start.after 0) :=
  ⟨rfl, rfl, rfl, rfl⟩

theorem haltStop?_unwatched : start.unwatched.haltStop? steps = start.haltStop? steps := by
  cases steps with
  | zero => rfl
  | succ steps => simpa using start.alike_unwatched.haltStop?_succ steps

theorem breakpointStop?_unwatched :
    start.unwatched.breakpointStop? steps = start.breakpointStop? steps := by
  cases steps with
  | zero => rfl
  | succ steps => simpa using start.alike_unwatched.breakpointStop?_succ rfl steps

theorem writeStop?_unwatched : start.unwatched.writeStop? steps = none := by
  cases steps with
  | zero => rfl
  | succ steps =>
      have noCell (address : Byte) :
          start.unwatched.control.watchpoints.contains address = false :=
        ByteSet.contains_empty address
      simp only [writeStop?, noCell]
      split <;> rfl

theorem stop?_unwatched :
    start.unwatched.stop? none steps =
      (start.haltStop? steps).or (start.breakpointStop? steps) := by
  simp only [stop?, limitStop?, haltStop?_unwatched, breakpointStop?_unwatched,
    writeStop?_unwatched, Option.none_or, Option.or_none]

/-- Where neither a halt instruction nor a breakpoint is due, only a watched write can be. -/
theorem reason_of_stop?_none {stop : Stop} (noHalt : start.haltStop? steps = none)
    (noBreakpoint : start.breakpointStop? steps = none)
    (isStop : start.stop? none steps = some stop) : stop.reason = .memoryWrite := by
  rcases stop?_none_cases isStop with halt | write | ⟨-, breakpoint⟩
  · rw [noHalt] at halt
    cases halt
  · exact reason_of_writeStop? write
  · rw [noBreakpoint] at breakpoint
    cases breakpoint

/-- An instruction that writes does not halt. -/
theorem haltStop?_of_writeStop? {write : Stop} (isWrite : start.writeStop? steps = some write) :
    start.haltStop? steps = none := by
  cases steps with
  | zero => rfl
  | succ steps =>
      rw [haltStop?_succ_eq_none_iff]
      intro halts
      have noWrite : start.writeStop? (steps + 1) = none := by
        apply writeStop?_succ_eq_none
        intro address value stores
        rw [effect_eq_halt_iff.mpr halts] at stores
        cases stores
      rw [noWrite] at isWrite
      cases isWrite

theorem stop?_of_not_write (noWrite : start.writeStop? steps = none) :
    start.stop? none steps = start.unwatched.stop? none steps := by
  rw [stop?_unwatched, stop?, noWrite, limitStop?, Option.none_or, Option.or_none]

theorem stop?_of_write {write : Stop} (isWrite : start.writeStop? steps = some write) :
    start.stop? none steps = some write := by
  rw [stop?, haltStop?_of_writeStop? isWrite, isWrite, Option.none_or, Option.some_or]

theorem reason_of_write {write stop : Stop} (isWrite : start.writeStop? steps = some write)
    (isStop : start.unwatched.stop? none steps = some stop) : stop.reason = .breakpoint := by
  rw [stop?_unwatched, haltStop?_of_writeStop? isWrite, Option.none_or] at isStop
  exact reason_of_breakpointStop? isStop

theorem reason_ne_memoryWrite {stop : Stop}
    (isStop : start.unwatched.stop? none steps = some stop) : stop.reason ≠ .memoryWrite := by
  rw [stop?_unwatched, Option.or_eq_some_iff] at isStop
  rcases isStop with halt | ⟨-, breakpoint⟩
  · simp [reason_of_haltStop? halt]
  · simp [reason_of_breakpointStop? breakpoint]

/-- The first run of a chain has as much room as the run that watches nothing needs. -/
theorem Resumes.room {later : Machine} (resumes : start.Resumes steps later)
    {done total patience : Nat} (within : steps + done + 1 ≤ total)
    (room : total < patience ∨ total = patience ∧ start.haltStop? total ≠ none) :
    done + 1 < patience ∨ done + 1 = patience ∧ later.haltStop? (done + 1) ≠ none := by
  rw [resumes.alike.haltStop?_succ]
  rcases room with below | ⟨rfl, halts⟩
  · exact .inl (by omega)
  · by_cases fewer : done + 1 < total
    · exact .inl fewer
    · have atEnd : steps + done + 1 = total := by omega
      rw [atEnd]
      exact .inr ⟨by omega, halts⟩

end Unwatched
end Machine

namespace Action

open Machine

variable {ε σ : Type} {hear : Listener ε σ}

/-- Runs the machine, and once more after each stop at a watched write; no more often than a given
number of times. -/
def runPastWrites (hear : Listener ε σ) (patience : Nat) : Nat → Action ε σ (List Stop)
  | 0 => return []
  | runs + 1 => do
      let stop ← run hear patience none
      if stop.reason = .memoryWrite then
        return stop :: (← runPastWrites hear patience runs)
      else return [stop]

theorem runPastWrites_one {patience : Nat} {world final : World σ} {stop : Stop}
    (ended : run hear patience none world = .ok stop final) :
    runPastWrites hear patience 1 world = .ok [stop] final := by
  rw [runPastWrites, bind_of_ok ended]
  split <;> rfl

theorem runPastWrites_succ {patience runs : Nat} {world between final : World σ} {stop : Stop}
    {stops : List Stop} (ended : run hear patience none world = .ok stop between)
    (isWrite : stop.reason = .memoryWrite)
    (later : runPastWrites hear patience runs between = .ok stops final) :
    runPastWrites hear patience (runs + 1) world = .ok (stop :: stops) final := by
  rw [runPastWrites, bind_of_ok ended, if_pos isWrite]
  exact bind_of_ok later

section Chain

variable {start : Machine} {total patience : Nat} {reason : Stop}

/-- While nothing but watched writes is due, runs lead to where something is due that need not be
one. -/
theorem exists_runPastWrites (passive : hear.Passive)
    (isReason : start.stop? none total = some reason)
    (onlyWrites : ∀ fewer < total,
      start.haltStop? fewer = none ∧ start.breakpointStop? fewer = none)
    (room : total < patience ∨ total = patience ∧ start.haltStop? total ≠ none)
    {steps more : Nat} (ahead : steps + more + 1 = total) {world : World σ}
    (resumes : start.Resumes steps world.machine) :
    ∃ runs stops last final,
      runPastWrites hear patience runs world = .ok (stops ++ [last]) final ∧
      (∀ earlier ∈ stops, earlier.reason = .memoryWrite) ∧
      ((stops ++ [last]).map Stop.steps).sum = (more + 1 : Nat) ∧
      start.Resumes total final.machine ∧ final.machine.mode = .idle ∧
      last.occasion = reason.occasion := by
  -- On the steps still to be made; the first run takes some of them, the runs after it the others.
  induction more using Nat.strong_induction_on generalizing steps world with
  | _ more induction =>
      have due : world.machine.stop? none (more + 1) = some reason := by
        rw [resumes.stop?_succ, ahead, isReason]
      have isDue : world.machine.stop? none (more + 1) ≠ none := by
        simp [due]
      obtain ⟨first, early, within, stopsFirst⟩ := exists_stopsFirst isDue
      have positive : first ≠ 0 := by
        rintro rfl
        cases stopsFirst.isReason
      obtain ⟨done, rfl⟩ := Nat.exists_eq_succ_of_ne_zero positive
      have roomNow := resumes.room (by omega : steps + done + 1 ≤ total) room
      obtain ⟨between, ran, later, idle⟩ := run_resumes passive resumes stopsFirst roomNow
      have sooner := stopsFirst.isReason
      rw [resumes.stop?_succ] at sooner
      rcases Nat.lt_or_eq_of_le within with earlier | atEnd
      · have isWrite : early.reason = .memoryWrite := by
          obtain ⟨noHalt, noBreakpoint⟩ := onlyWrites (steps + done + 1) (by omega)
          exact reason_of_stop?_none noHalt noBreakpoint sooner
        obtain ⟨remaining, rfl⟩ := Nat.exists_eq_add_of_le (Nat.succ_lt_succ_iff.mp earlier)
        obtain ⟨runs, stops, last, final, chain, writes, sum, there, atRest, occasion⟩ :=
          induction remaining (by omega) (by omega) later
        refine ⟨runs + 1, early.after (done + 1 : Nat) :: stops, last, final,
          runPastWrites_succ ran isWrite chain, ?_, ?_, there, atRest, occasion⟩
        · intro stop isMember
          rcases List.mem_cons.mp isMember with rfl | isLater
          · exact isWrite
          · exact writes stop isLater
        · rw [List.cons_append, List.map_cons, List.sum_cons, sum]
          change ((done + 1 : Nat) : Int) + (remaining + 1 : Nat) = (done + 1 + remaining + 1 : Nat)
          omega
      · cases atEnd
        rw [ahead, isReason] at sooner
        cases sooner
        rw [← ahead]
        exact ⟨1, [], _, between, runPastWrites_one ran, by simp, by simp [Stop.after], later, idle,
          rfl⟩

end Chain

/-- A run does not stop at a breakpoint before its first instruction. -/
theorem steps_pos_of_breakpoint (passive : hear.Passive) {world final : World σ}
    (noRequest : world.machine.control.requested = false)
    (noHit : world.machine.control.hit = none) {patience : Nat} {limit : Option Int} {stop : Stop}
    (ended : run hear patience limit world = .ok stop final)
    (isBreakpoint : stop.reason = .breakpoint) : 0 < stop.steps := by
  obtain ⟨steps, reason, stopsFirst, room⟩ :=
    exists_stopsFirst_of_run passive noRequest noHit ended
  obtain ⟨rfl, -⟩ := (returns_run passive noRequest noHit stopsFirst room).eq_of_ok ended
  cases steps with
  | zero =>
      have isLimit : reason.reason = .stepLimit := reason_of_limitStop? stopsFirst.isReason
      rw [Stop.after, isLimit] at isBreakpoint
      cases isBreakpoint
  | succ steps => exact Int.natCast_pos.mpr (Nat.succ_pos steps)

/-- Where a run that watches nothing ends, and what is due to the watching machine on the way. -/
theorem exists_of_run_unwatched (passive : hear.Passive) {world ended : World σ}
    (noRequest : world.machine.control.requested = false)
    (noHit : world.machine.control.hit = none) {patience : Nat} {stop : Stop}
    (unwatched : run hear patience none ⟨world.machine.unwatched, world.surroundings⟩ =
      .ok stop ended) :
    ∃ (more : Nat) (reason : Stop),
      stop = reason.after (more + 1 : Nat) ∧
      world.machine.unwatched.stop? none (more + 1) = some reason ∧
      (∀ fewer < more + 1, world.machine.haltStop? fewer = none ∧
        world.machine.breakpointStop? fewer = none) ∧
      (more + 1 < patience ∨ more + 1 = patience ∧ world.machine.haltStop? (more + 1) ≠ none) ∧
      ended.machine.Alike (world.machine.after (more + 1)) ∧ ended.machine.mode = .idle := by
  let bare : World σ := ⟨world.machine.unwatched, world.surroundings⟩
  have noRequestBare : bare.machine.control.requested = false := noRequest
  have noHitBare : bare.machine.control.hit = none := noHit
  obtain ⟨total, reason, stopsFirst, room⟩ :=
    exists_stopsFirst_of_run passive noRequestBare noHitBare unwatched
  obtain ⟨_, ran, there, idle⟩ :=
    run_resumes passive (resumes_zero noRequestBare noHitBare) stopsFirst room
  cases unwatched.symm.trans ran
  have isReason : world.machine.unwatched.stop? none total = some reason := stopsFirst.isReason
  obtain ⟨more, rfl⟩ : ∃ more, total = more + 1 := by
    apply Nat.exists_eq_succ_of_ne_zero
    rintro rfl
    cases isReason
  refine ⟨more, reason, rfl, isReason, ?_, ?_, ?_, idle⟩
  · intro fewer below
    have noneDue : world.machine.unwatched.stop? none fewer = none := stopsFirst.first fewer below
    rwa [stop?_unwatched, Option.or_eq_none_iff] at noneDue
  · rw [← haltStop?_unwatched]
    exact room
  · have bareThere := world.machine.alike_unwatched.after_add (more + 1)
    have bareEnd := there.alike
    rw [Nat.zero_add] at bareThere bareEnd
    exact bareEnd.trans bareThere

/-- Runs that go on after each watched write come to where the run comes that watches nothing, in as
many steps, and stop there for its reason, unless the last of the steps is a watched write.  That
write hides no more than a breakpoint, at which the next run does not stop. -/
theorem run_past_writes (passive : hear.Passive) {world ended : World σ}
    (noRequest : world.machine.control.requested = false)
    (noHit : world.machine.control.hit = none) (patience : Nat) {stop : Stop}
    (unwatched : run hear patience none ⟨world.machine.unwatched, world.surroundings⟩ =
      .ok stop ended) :
    ∃ (steps runs : Nat) (stops : List Stop) (last : Stop) (final : World σ),
      stop.steps = steps ∧
      runPastWrites hear patience runs world = .ok (stops ++ [last]) final ∧
      (∀ earlier ∈ stops, earlier.reason = .memoryWrite) ∧
      ((stops ++ [last]).map Stop.steps).sum = stop.steps ∧
      final.machine.snapshot = ended.machine.snapshot ∧
      (world.machine.writeStop? steps = none →
        last.reason ≠ .memoryWrite ∧ last.occasion = stop.occasion) ∧
      ∀ write, world.machine.writeStop? steps = some write →
        stop.reason = .breakpoint ∧ last.occasion = write.occasion ∧
        ∀ limit next after, run hear patience limit final = .ok next after →
          next.reason = .breakpoint → 0 < next.steps := by
  obtain ⟨more, reason, rfl, isReason, onlyWrites, room, bareEnd, bareIdle⟩ :=
    exists_of_run_unwatched passive noRequest noHit unwatched
  have started : world.machine.Resumes 0 world.machine := resumes_zero noRequest noHit
  have ahead : 0 + more + 1 = more + 1 := by omega
  have shows {final : World σ} (there : world.machine.Resumes (more + 1) final.machine)
      (idle : final.machine.mode = .idle) : final.machine.snapshot = ended.machine.snapshot :=
    (there.alike.trans bareEnd.symm).snapshot_eq (idle.trans bareIdle.symm)
  cases write : world.machine.writeStop? (more + 1) with
  | none =>
      have isDue := isReason
      rw [← stop?_of_not_write write] at isDue
      obtain ⟨runs, stops, last, final, chain, writes, sum, there, idle, occasion⟩ :=
        exists_runPastWrites passive isDue onlyWrites room ahead started
      have sameReason : last.reason = reason.reason := congrArg Prod.fst occasion
      refine ⟨more + 1, runs, stops, last, final, rfl, chain, writes, sum, shows there idle, ?_, ?_⟩
      · intro _
        rw [sameReason]
        exact ⟨reason_ne_memoryWrite isReason, occasion⟩
      · intro other isWrite
        rw [write] at isWrite
        cases isWrite
  | some due =>
      obtain ⟨runs, stops, last, final, chain, writes, sum, there, idle, occasion⟩ :=
        exists_runPastWrites passive (stop?_of_write write) onlyWrites room ahead started
      refine ⟨more + 1, runs, stops, last, final, rfl, chain, writes, sum, shows there idle, ?_, ?_⟩
      · intro noWrite
        rw [write] at noWrite
        cases noWrite
      · intro other isWrite
        rw [write] at isWrite
        cases isWrite
        have isBreakpoint : reason.reason = .breakpoint := reason_of_write write isReason
        refine ⟨isBreakpoint, occasion, ?_⟩
        intro limit next after later
        exact steps_pos_of_breakpoint passive there.noRequest there.noHit later

/-- Two writes of a watched cell, before a halt instruction. -/
theorem run_past_two_writes :
    let machine : Machine :=
      { Machine.fresh Machine.defaultOutput with
        memory := (Store.zero 8).applyAll
          (Store.loading 0 [0x21, 0x07, 0x31, 0x80, 0x31, 0x80, 0xC0, 0x00])
        control := StopControl.fresh.addWatchpoint 0x80 }
    let hear : Listener Empty Unit := fun _ => pure ()
    ∃ stop ended runs stops last final,
      run hear 9 none ⟨machine.unwatched, ()⟩ = .ok stop ended ∧
      runPastWrites hear 9 runs ⟨machine, ()⟩ = .ok (stops ++ [last]) final ∧
      (∀ earlier ∈ stops, earlier.reason = .memoryWrite) ∧
      ((stops ++ [last]).map Stop.steps).sum = 4 ∧
      final.machine.snapshot = ended.machine.snapshot ∧
      last.occasion = (.halt, some 6, none) := by
  intro machine hear
  have passive : hear.Passive := fun _ world => ⟨world.surroundings, rfl⟩
  have noRequest : (⟨machine, ()⟩ : World Unit).machine.control.requested = false := rfl
  have noHit : (⟨machine, ()⟩ : World Unit).machine.control.hit = none := rfl
  have haltsFirst : machine.unwatched.StopsFirst none 4 (.halted 6) :=
    ⟨by decide +kernel, by decide +kernel⟩
  have noWrite : machine.writeStop? 4 = none := by decide +kernel
  have bareNoRequest : (⟨machine.unwatched, ()⟩ : World Unit).machine.control.requested = false := rfl
  obtain ⟨_, bare⟩ := returns_run passive bareNoRequest noHit haltsFirst (.inl (by decide : 4 < 9))
  obtain ⟨steps, runs, stops, last, final, count, chain, writes, sum, same, unhidden, -⟩ :=
    run_past_writes passive noRequest noHit 9 bare
  obtain rfl : steps = 4 := (Int.ofNat.inj count).symm
  exact ⟨_, _, runs, stops, last, final, bare, chain, writes, sum, same, (unhidden noWrite).2⟩

/-- The write that leads to a breakpoint is reported in its place, and the next run goes on from
there. -/
theorem breakpoint_behind_write :
    let machine : Machine :=
      { Machine.fresh Machine.defaultOutput with
        memory := (Store.zero 8).applyAll (Store.loading 0 [0x31, 0x80, 0xC0, 0x00])
        control := (StopControl.fresh.addWatchpoint 0x80).addBreakpoint 2 }
    let hear : Listener Empty Unit := fun _ => pure ()
    hear.Passive ∧ machine.control.requested = false ∧ machine.control.hit = none ∧
      ∃ ended final,
        run hear 9 none ⟨machine.unwatched, ()⟩ = .ok ((Stop.atBreakpoint 2).after 1) ended ∧
        runPastWrites hear 9 9 ⟨machine, ()⟩ =
          .ok [(Stop.atWrite 0x80 0).after 1, (Stop.halted 2).after 1] final ∧
        ended.machine.counter = 2 ∧ final.machine.counter = 4 :=
  ⟨fun _ world => ⟨world.surroundings, rfl⟩, rfl, rfl, _, _, rfl, rfl, rfl, rfl⟩

end Action
end ByteMachine
