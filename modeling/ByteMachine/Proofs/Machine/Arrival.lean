import ByteMachine.Proofs.Machine.Resumption
import ByteMachine.Proofs.Machine.Settling

/-!
# Runs to an address

A run to an address is a run with a breakpoint there, which is taken away again unless it was there
before.  It tells that the address was reached exactly if the counter comes to it, after one step or
more, before anything else stops the run; the machine is then left as so many steps leave it.
-/

namespace ByteMachine

namespace ByteSet

theorem ext_contains {left right : ByteSet}
    (agree : ∀ byte, left.contains byte = right.contains byte) : left = right := by
  obtain ⟨leftMarks⟩ := left
  obtain ⟨rightMarks⟩ := right
  exact congrArg mk (Cells.ext_read agree)

theorem erase_insert {set : ByteSet} {byte : Byte} (absent : set.contains byte = false) :
    (set.insert byte).erase byte = set := by
  apply ext_contains
  intro other
  rw [contains_erase, contains_insert]
  cases same : other == byte with
  | true => simp [beq_iff_eq.mp same, absent]
  | false => simp [bne, same]

end ByteSet

namespace Machine

/-! ## Arriving at an address -/

/-- After a number of steps the counter comes to an address, which is taken modulo 256, for the first
time since the start, and nothing else stops a run on the way. -/
structure Arrives (start : Machine) (address : Int) (limit : Option Int) (steps : Nat) :
    Prop where
  /-- There is at least one step. -/
  moves : 0 < steps
  /-- After the steps the counter is at the address. -/
  arrives : ((start.after steps).counter.toNat : Int) = address % 256
  /-- It has not been there after any of them before. -/
  first : ∀ fewer, 0 < fewer → fewer < steps →
    ((start.after fewer).counter.toNat : Int) ≠ address % 256
  /-- No word on the way is a halt instruction. -/
  noHalt : ∀ fewer < steps, (start.after fewer).fetched.operation ≠ .halt
  /-- No word on the way is a store to a watched cell. -/
  noWrite : ∀ fewer < steps, ∀ cell value, (start.after fewer).nextStore? = some (cell, value) →
    start.control.watchpoints.contains cell = false
  /-- There is no breakpoint on the way. -/
  noBreakpoint : ∀ fewer, 0 < fewer → fewer < steps →
    start.control.breakpoints.contains (start.after fewer).counter = false
  /-- So many steps are allowed. -/
  within : ∀ allowed, limit = some allowed → (steps : Int) ≤ allowed

section Guarded

variable {start : Machine} {address : Int} {limit : Option Int} {steps : Nat}

theorem alike_guarded (start : Machine) (address : Int) :
    (start.guarded address).Alike (start.after 0) := by
  rw [guarded]
  split <;> exact ⟨rfl, rfl, rfl, rfl⟩

theorem watchpoints_guarded (start : Machine) (address : Int) :
    (start.guarded address).control.watchpoints = start.control.watchpoints := by
  rw [guarded]
  split <;> rfl

theorem contains_breakpoints_guarded (start : Machine) (address : Int) (place : Byte) :
    (start.guarded address).control.breakpoints.contains place =
      (place == .ofInt 8 address || start.control.breakpoints.contains place) := by
  rw [guarded]
  split
  next present =>
    by_cases same : place = .ofInt 8 address
    · have marked : start.control.breakpoints.contains (.ofInt 8 address) = true := present
      rw [same, marked, Bool.or_true]
    · simp [same]
  next => exact ByteSet.contains_insert _ _ _

theorem haltStop?_guarded : (start.guarded address).haltStop? steps = start.haltStop? steps := by
  cases steps with
  | zero => rfl
  | succ steps => simpa using (start.alike_guarded address).haltStop?_succ steps

theorem writeStop?_guarded : (start.guarded address).writeStop? steps = start.writeStop? steps := by
  cases steps with
  | zero => rfl
  | succ steps =>
      simpa using (start.alike_guarded address).writeStop?_succ
        (start.watchpoints_guarded address) steps

theorem counter_after_guarded :
    ((start.guarded address).after steps).counter = (start.after steps).counter := by
  simpa using ((start.alike_guarded address).after_add steps).counter

theorem breakpointStop?_guarded_eq_none_iff :
    (start.guarded address).breakpointStop? steps = none ↔
      (0 < steps → ((start.after steps).counter.toNat : Int) ≠ address % 256 ∧
        start.control.breakpoints.contains (start.after steps).counter = false) := by
  rw [breakpointStop?, ite_eq_right_iff, counter_after_guarded, contains_breakpoints_guarded,
    ne_eq, ← Byte.ofInt_eq_iff, @eq_comm _ (BitVec.ofInt 8 address)]
  simp

end Guarded

/-! ## The stop at the address -/

section Stops

variable {start : Machine} {address : Int} {limit : Option Int} {steps : Nat}

theorem stop?_eq_none_iff :
    start.stop? limit steps = none ↔
      (start.haltStop? steps = none ∧ start.writeStop? steps = none) ∧
        start.breakpointStop? steps = none ∧ start.limitStop? limit steps = none := by
  simp only [stop?, Option.or_eq_none_iff, and_assoc]

theorem writeStop?_succ_eq_none_iff :
    start.writeStop? (steps + 1) = none ↔
      ∀ cell value, (start.after steps).nextStore? = some (cell, value) →
        start.control.watchpoints.contains cell = false := by
  rw [writeStop?]
  cases (start.after steps).nextStore? with
  | none => simp
  | some store =>
      simp only [ite_eq_right_iff, Option.some.injEq]
      constructor
      · rintro unwatched cell value rfl
        simpa using unwatched
      · intro unwatched watched
        rw [unwatched store.1 store.2 rfl] at watched
        cases watched

theorem limitStop?_eq_none_iff_forall :
    start.limitStop? limit steps = none ↔
      ∀ allowed, limit = some allowed → (steps : Int) < allowed := by
  cases limit with
  | none => simp [limitStop?]
  | some allowed => simp [limitStop?]

/-- A run with a number of instructions allowed, even a negative one, has a first reason to stop. -/
theorem exists_stopsFirst_of_allowed (start : Machine) (allowed : Int) :
    ∃ steps reason, steps ≤ allowed.toNat ∧ start.StopsFirst (some allowed) steps reason := by
  apply exists_stopsFirst
  intro isNone
  have below := limitStop?_eq_none_iff_forall.mp (stop?_eq_none_iff.mp isNone).2.2 allowed rfl
  exact absurd below (Int.not_lt.mpr (Int.self_le_toNat allowed))

/-- What is the first reason to stop, and after how many steps, is determined. -/
theorem StopsFirst.unique {other : Nat} {reason otherReason : Stop}
    (stops : start.StopsFirst limit steps reason)
    (also : start.StopsFirst limit other otherReason) : steps = other ∧ reason = otherReason := by
  have same : steps = other := by
    rcases Nat.lt_trichotomy steps other with below | same | above
    · have none := also.first steps below
      rw [stops.isReason] at none
      cases none
    · exact same
    · have none := stops.first other above
      rw [also.isReason] at none
      cases none
  subst same
  exact ⟨rfl, Option.some.inj (stops.isReason.symm.trans also.isReason)⟩

/-- No step has been a halt instruction or a watched write exactly if none of the words was one. -/
theorem forall_le_quiet_iff :
    (∀ number ≤ steps, start.haltStop? number = none ∧ start.writeStop? number = none) ↔
      ∀ fewer < steps, (start.after fewer).fetched.operation ≠ .halt ∧
        ∀ cell value, (start.after fewer).nextStore? = some (cell, value) →
          start.control.watchpoints.contains cell = false := by
  constructor
  · intro quiet fewer below
    obtain ⟨noHalt, noWrite⟩ := quiet (fewer + 1) below
    exact ⟨haltStop?_succ_eq_none_iff.mp noHalt, writeStop?_succ_eq_none_iff.mp noWrite⟩
  · intro quiet number upTo
    cases number with
    | zero => exact ⟨rfl, rfl⟩
    | succ fewer =>
        obtain ⟨noHalt, noWrite⟩ := quiet fewer upTo
        exact ⟨haltStop?_succ_eq_none_iff.mpr noHalt, writeStop?_succ_eq_none_iff.mpr noWrite⟩

/-- With a breakpoint at an address a run goes on as long as it would without it and the counter is
elsewhere. -/
theorem stop?_guarded_eq_none_iff :
    (start.guarded address).stop? limit steps = none ↔
      (start.haltStop? steps = none ∧ start.writeStop? steps = none) ∧
        (0 < steps → ((start.after steps).counter.toNat : Int) ≠ address % 256 ∧
          start.control.breakpoints.contains (start.after steps).counter = false) ∧
        ∀ allowed, limit = some allowed → (steps : Int) < allowed := by
  rw [stop?_eq_none_iff, haltStop?_guarded, writeStop?_guarded,
    breakpointStop?_guarded_eq_none_iff, limitStop?_eq_none_iff_forall]

/-- A breakpoint stops a run where the counter is, if neither a halt instruction nor a watched write
does. -/
theorem breakpointStop?_of_reason {reason : Stop} (isStop : start.stop? limit steps = some reason)
    (isBreakpoint : reason.reason = .breakpoint) :
    (start.haltStop? steps = none ∧ start.writeStop? steps = none) ∧
      start.breakpointStop? steps = some reason := by
  rw [stop?, Option.or_eq_some_iff, Option.or_eq_some_iff, Option.or_eq_some_iff] at isStop
  rcases isStop with halt | ⟨noHalt, write | ⟨noWrite, breakpoint | ⟨-, atLimit⟩⟩⟩
  · rw [reason_of_haltStop? halt] at isBreakpoint
    cases isBreakpoint
  · rw [reason_of_writeStop? write] at isBreakpoint
    cases isBreakpoint
  · exact ⟨⟨noHalt, noWrite⟩, breakpoint⟩
  · rw [reason_of_limitStop? atLimit] at isBreakpoint
    cases isBreakpoint

theorem breakpointStop?_eq_some_iff {reason : Stop} :
    start.breakpointStop? steps = some reason ↔
      (0 < steps ∧ start.control.breakpoints.contains (start.after steps).counter = true) ∧
        reason = .atBreakpoint (start.after steps).counter.toNat := by
  rw [breakpointStop?, Option.ite_none_right_eq_some, Bool.and_eq_true, decide_eq_true_iff,
    Option.some.injEq, @eq_comm _ reason]

/-- When the breakpoint at the address stops a run first, the machine arrives there. -/
theorem arrives_of_stopsFirst {reason : Stop}
    (stops : (start.guarded address).StopsFirst limit steps reason)
    (isBreakpoint : reason.reason = .breakpoint)
    (there : reason.address = some (address % 256)) : start.Arrives address limit steps := by
  obtain ⟨last, breakpoint⟩ := breakpointStop?_of_reason stops.isReason isBreakpoint
  obtain ⟨⟨moves, -⟩, rfl⟩ := breakpointStop?_eq_some_iff.mp breakpoint
  rw [haltStop?_guarded, writeStop?_guarded] at last
  -- At the arrival only the breakpoint is due; before it nothing is.
  have earlier (fewer : Nat) (below : fewer < steps) :=
    stop?_guarded_eq_none_iff.mp (stops.first fewer below)
  have quiet := forall_le_quiet_iff.mp fun number upTo =>
    (Nat.lt_or_eq_of_le upTo).elim (fun below => (earlier number below).1) fun same => same ▸ last
  exact
    { moves := moves
      arrives := by
        rw [← @counter_after_guarded _ address]
        exact Option.some.inj there
      first := fun fewer positive below => ((earlier fewer below).2.1 positive).1
      noHalt := fun fewer below => (quiet fewer below).1
      noWrite := fun fewer below => (quiet fewer below).2
      noBreakpoint := fun fewer positive below => ((earlier fewer below).2.1 positive).2
      within := by
        intro allowed isLimit
        have below := (earlier (steps - 1) (by omega)).2.2 allowed isLimit
        omega }

/-- When the machine arrives at the address, the breakpoint there stops the run first. -/
theorem Arrives.stopsFirst (arrives : start.Arrives address limit steps) :
    (start.guarded address).StopsFirst limit steps (.atBreakpoint (address % 256)) := by
  have quiet := forall_le_quiet_iff.mpr fun fewer below =>
    ⟨arrives.noHalt fewer below, arrives.noWrite fewer below⟩
  refine ⟨?_, fun fewer below => stop?_guarded_eq_none_iff.mpr ⟨?_, ?_, ?_⟩⟩
  · obtain ⟨noHalt, noWrite⟩ := quiet steps (Nat.le_refl _)
    have marked : (start.guarded address).control.breakpoints.contains
        (start.after steps).counter = true := by
      rw [contains_breakpoints_guarded, Byte.ofInt_eq_iff.mpr arrives.arrives, beq_self_eq_true,
        Bool.true_or]
    have breakpoint : (start.guarded address).breakpointStop? steps =
        some (.atBreakpoint (address % 256)) := by
      rw [breakpointStop?_eq_some_iff, counter_after_guarded, arrives.arrives]
      exact ⟨⟨arrives.moves, marked⟩, rfl⟩
    rw [stop?, haltStop?_guarded, noHalt, writeStop?_guarded, noWrite, breakpoint]
    rfl
  · exact quiet fewer (Nat.le_of_lt below)
  · exact fun positive => ⟨arrives.first fewer positive below,
      arrives.noBreakpoint fewer positive below⟩
  · intro allowed isLimit
    have within := arrives.within allowed isLimit
    omega

end Stops

/-! ## Taking the breakpoint away -/

/-- The machine without the breakpoint at an address, unless another machine has it. -/
def released (machine before : Machine) (address : Int) : Machine :=
  if before.control.hasBreakpoint address then machine
  else { machine with control := machine.control.removeBreakpoint address }

/-- What a run with the breakpoint leaves, without the breakpoint. -/
theorem released_guarded (start : Machine) (address : Int) (steps : Nat) (stop : Stop) :
    let left := Machine.released
      { (start.guarded address).after steps with
        mode := .idle
        control := (start.guarded address).control.clearPending.record stop } start address
    left.control = start.control.clearPending.record stop ∧
      left.snapshot = { (start.after steps).snapshot with mode := .idle } := by
  intro left
  have alike : ((start.guarded address).after steps).Alike (start.after steps) := by
    simpa using (start.alike_guarded address).after_add steps
  obtain ⟨registers, memory, counter, instruction⟩ := alike
  by_cases present : start.control.hasBreakpoint address
  · have same : start.guarded address = start := if_pos present
    simp only [left, released, if_pos present, same]
    trivial
  · have absent : start.control.breakpoints.contains (.ofInt 8 address) = false :=
      Bool.eq_false_iff.mpr present
    have marked : (start.guarded address).control = start.control.addBreakpoint address := by
      rw [guarded, if_neg present]
    simp only [left, released, if_neg present, snapshot, registers, memory, counter, instruction,
      marked, and_true]
    simp only [StopControl.removeBreakpoint, StopControl.addBreakpoint, StopControl.record,
      StopControl.clearPending, ByteSet.erase_insert absent]

end Machine

/-! ## Runs to an address -/

namespace Action

open Machine

variable {ε σ : Type} {hear : Listener ε σ} {limit : Option Int} {patience : Nat} {address : Int}
  {world : World σ}

/-- What a run to an address makes of a stop: whether it was stopped by the breakpoint there. -/
def isArrival (address : Int) (stop : Stop) : Bool :=
  stop.reason = .breakpoint && stop.address = some (address % 256)

theorem runUntil_eq (patience : Nat) (address : Int) (limit : Option Int) (world : World σ) :
    runUntil hear patience address limit world =
      tryFinally (run hear patience limit >>= fun stop => pure (isArrival address stop))
        (changeMachine fun machine => machine.released world.machine address)
        { world with machine := world.machine.guarded address } := by
  have read : (machine : Action ε σ Machine) world = .ok world.machine world := rfl
  rw [runUntil, bind_of_ok read]
  by_cases present : world.machine.control.hasBreakpoint address
  · simp only [if_pos present, released, guarded]
    rfl
  · simp only [if_neg present, released, guarded]
    rfl

theorem returns_runUntil {stop : Stop} {machine : Machine}
    (ran : Returns (run hear patience limit)
      { world with machine := world.machine.guarded address } stop machine) :
    Returns (runUntil hear patience address limit) world (isArrival address stop)
      (machine.released world.machine address) := by
  rw [Returns, runUntil_eq]
  apply (ran.bind fun _ => returns_pure (isArrival address stop) _).finally
  intro surroundings
  exact returns_changeMachine (fun machine => machine.released world.machine address)
    ⟨machine, surroundings⟩

theorem exists_run_of_runUntil {reached : Bool} {final : World σ}
    (ended : runUntil hear patience address limit world = .ok reached final) :
    ∃ stop between, run hear patience limit
      { world with machine := world.machine.guarded address } = .ok stop between := by
  cases ran : run hear patience limit { world with machine := world.machine.guarded address } with
  | ok stop between => exact ⟨stop, between, rfl⟩
  | error failure between =>
      have unheeded := bind_of_error (fun stop => pure (isArrival address stop)) ran
      obtain ⟨_, failed⟩ := finally_of_error unheeded
        (returns_changeMachine (fun machine => machine.released world.machine address) between)
      rw [runUntil_eq, failed] at ended
      cases ended

theorem requested_guarded (machine : Machine) (address : Int) :
    (machine.guarded address).control.requested = machine.control.requested := by
  rw [guarded]
  split <;> rfl

theorem hit_guarded (machine : Machine) (address : Int) :
    (machine.guarded address).control.hit = machine.control.hit := by
  rw [guarded]
  split <;> rfl

theorem isArrival_eq_true_iff {stop : Stop} :
    isArrival address stop = true ↔
      stop.reason = .breakpoint ∧ stop.address = some (address % 256) := by
  rw [isArrival, Bool.and_eq_true, decide_eq_true_iff, decide_eq_true_iff]

/-- A run to an address ends at the first reason to stop that there is with the breakpoint. -/
theorem returns_runUntil_of_stopsFirst (passive : hear.Passive)
    (noRequest : world.machine.control.requested = false)
    (noHit : world.machine.control.hit = none) {steps : Nat} {reason : Stop}
    (stops : (world.machine.guarded address).StopsFirst limit steps reason)
    (room : steps < rounds patience limit ∨
      steps = rounds patience limit ∧ (world.machine.guarded address).haltStop? steps ≠ none) :
    ∃ machine, Returns (runUntil hear patience address limit) world
        (isArrival address (reason.after steps)) machine ∧
      machine.control = world.machine.control.clearPending.record (reason.after steps) ∧
      machine.snapshot = { (world.machine.after steps).snapshot with mode := .idle } := by
  have noRequestThere := (requested_guarded world.machine address).trans noRequest
  have noHitThere := (hit_guarded world.machine address).trans noHit
  exact ⟨_, returns_runUntil (returns_run passive noRequestThere noHitThere stops room),
    released_guarded world.machine address steps (reason.after steps)⟩

/-- When a run to an address has ended there was such a reason. -/
theorem exists_stopsFirst_of_runUntil (passive : hear.Passive)
    (noRequest : world.machine.control.requested = false)
    (noHit : world.machine.control.hit = none) {reached : Bool} {final : World σ}
    (ended : runUntil hear patience address limit world = .ok reached final) :
    ∃ steps reason, (world.machine.guarded address).StopsFirst limit steps reason ∧
      reached = isArrival address (reason.after steps) ∧
      final.machine.control = world.machine.control.clearPending.record (reason.after steps) ∧
      final.machine.snapshot = { (world.machine.after steps).snapshot with mode := .idle } := by
  obtain ⟨stop, between, ran⟩ := exists_run_of_runUntil ended
  obtain ⟨steps, reason, stops, room⟩ := exists_stopsFirst_of_run passive
    ((requested_guarded world.machine address).trans noRequest)
    ((hit_guarded world.machine address).trans noHit) ran
  obtain ⟨machine, returns, control, snapshot⟩ :=
    returns_runUntil_of_stopsFirst passive noRequest noHit stops room
  obtain ⟨rfl, rfl⟩ := returns.eq_of_ok ended
  exact ⟨steps, reason, stops, rfl, control, snapshot⟩

/-- In passive surroundings, with nothing pending when it starts, a run to an address tells that the
address was reached exactly if the machine arrives there.  It leaves the breakpoints and the watched
cells as they were. -/
theorem runUntil_arrives (passive : hear.Passive)
    (noRequest : world.machine.control.requested = false)
    (noHit : world.machine.control.hit = none) (patience : Nat) (address : Int)
    (limit : Option Int) :
    (∀ reached final, runUntil hear patience address limit world = .ok reached final →
      final.machine.control.breakpoints = world.machine.control.breakpoints ∧
      final.machine.control.watchpoints = world.machine.control.watchpoints ∧
      (reached = true ↔ ∃ steps, world.machine.Arrives address limit steps) ∧
      ∀ steps, world.machine.Arrives address limit steps →
        Returns (stepTimes hear steps) world
          ((List.range steps).map fun earlier => (world.machine.after earlier).fetched)
          (world.machine.after steps) ∧
        final.machine.snapshot = { (world.machine.after steps).snapshot with mode := .idle } ∧
        final.machine.counter.toNat = address % 256) ∧
    (∀ steps < rounds patience limit, world.machine.Arrives address limit steps →
      ∃ final, runUntil hear patience address limit world = .ok true final) ∧
    ∀ allowed, limit = some allowed →
      ∃ reached final, runUntil hear patience address limit world = .ok reached final := by
  refine ⟨?_, ?_, ?_⟩
  · intro reached final ended
    obtain ⟨taken, reason, stops, rfl, control, snapshot⟩ :=
      exists_stopsFirst_of_runUntil passive noRequest noHit ended
    refine ⟨by rw [control]; rfl, by rw [control]; rfl, ?_, ?_⟩
    · rw [isArrival_eq_true_iff]
      constructor
      · rintro ⟨isBreakpoint, there⟩
        exact ⟨taken, arrives_of_stopsFirst stops isBreakpoint there⟩
      · rintro ⟨steps, arrives⟩
        obtain ⟨-, rfl⟩ := stops.unique arrives.stopsFirst
        exact ⟨rfl, rfl⟩
    · intro steps arrives
      obtain ⟨rfl, -⟩ := stops.unique arrives.stopsFirst
      have counter := congrArg Snapshot.counter snapshot
      refine ⟨returns_stepTimes passive taken world, snapshot, ?_⟩
      rw [← arrives.arrives]
      exact congrArg (fun counter : Byte => (counter.toNat : Int)) counter
  · intro steps room arrives
    obtain ⟨_, ⟨surroundings, ended⟩, -⟩ :=
      returns_runUntil_of_stopsFirst passive noRequest noHit arrives.stopsFirst (.inl room)
    rw [isArrival_eq_true_iff.mpr ⟨rfl, rfl⟩] at ended
    exact ⟨_, ended⟩
  · rintro allowed rfl
    obtain ⟨steps, reason, within, stops⟩ :=
      exists_stopsFirst_of_allowed (world.machine.guarded address) allowed
    have room : steps < rounds patience (some allowed) := Nat.lt_succ_of_le within
    obtain ⟨_, ⟨surroundings, ended⟩, -⟩ :=
      returns_runUntil_of_stopsFirst passive noRequest noHit stops (.inl room)
    exact ⟨_, _, ended⟩

/-- The machine starts at the address, which is a breakpoint already, and comes back after as many
instructions as are allowed. -/
theorem runUntil_arrives_again :
    let machine : Machine :=
      { Machine.fresh Machine.defaultOutput with
        memory := (Store.zero 8).applyAll (Store.loading 0 [0x21, 0x01, 0xB0, 0x00])
        control := StopControl.fresh.addBreakpoint 0 }
    let hear : Listener Empty Unit := fun _ => pure ()
    hear.Passive ∧ machine.control.requested = false ∧ machine.control.hit = none ∧
      machine.Arrives 256 (some 2) 2 ∧
      ∃ final, runUntil hear 0 256 (some 2) ⟨machine, ()⟩ = .ok true final ∧
        final.machine.control.hasBreakpoint 0 = true ∧ final.machine.counter = 0 := by
  intro machine hear
  have passive : hear.Passive := fun _ world => ⟨world.surroundings, rfl⟩
  have noRequest : (⟨machine, ()⟩ : World Unit).machine.control.requested = false := rfl
  have noHit : (⟨machine, ()⟩ : World Unit).machine.control.hit = none := rfl
  have counters : (machine.after 1).counter = 2 ∧ (machine.after 2).counter = 0 := by
    decide +kernel
  have operations : (machine.after 0).fetched.operation = .immediateLoad ∧
      (machine.after 1).fetched.operation = .jumpEqual := by
    decide +kernel
  have arrives : machine.Arrives 256 (some 2) 2 :=
    { moves := by decide
      arrives := by
        rw [counters.2]
        rfl
      first := by
        intro fewer positive below
        obtain rfl : fewer = 1 := by omega
        rw [counters.1]
        decide
      noHalt := by
        intro fewer below
        obtain rfl | rfl : fewer = 0 ∨ fewer = 1 := by omega
        · simp [operations.1]
        · simp [operations.2]
      noWrite := by
        intro fewer below cell value stores
        exact ByteSet.contains_empty cell
      noBreakpoint := by
        intro fewer positive below
        obtain rfl : fewer = 1 := by omega
        rw [counters.1]
        rfl
      within := by
        rintro allowed ⟨⟩
        exact Int.le_refl 2 }
  obtain ⟨kept, reaches, -⟩ := runUntil_arrives passive noRequest noHit 0 256 (some 2)
  obtain ⟨final, ended⟩ := reaches 2 (by decide) arrives
  obtain ⟨breakpoints, -, -, left⟩ := kept true final ended
  obtain ⟨-, -, counter⟩ := left 2 arrives
  refine ⟨passive, noRequest, noHit, arrives, final, ended, ?_,
    BitVec.eq_of_toNat_eq (Int.ofNat_inj.mp counter)⟩
  rw [StopControl.hasBreakpoint, breakpoints]
  rfl

end Action
end ByteMachine
