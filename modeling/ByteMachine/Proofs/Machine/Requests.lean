import ByteMachine.Proofs.Machine.FirstStop
import ByteMachine.Proofs.Machine.Settling

/-!
# Requests to stop

Surroundings that do no more to a machine than ask it to stop do not change what its steps do, and a
run from rest follows the course of these steps.  A request is heeded at the next point between two
steps, before everything else that would stop the run there; only a halt instruction leaves no such
point.  A machine at rest does not heed requests, and when a run ends none is left.
-/

namespace ByteMachine

namespace Machine

theorem askedToStop_withRequest (machine : Machine) (asked : Bool) :
    (machine.withRequest asked).askedToStop =
      machine.withRequest (asked || decide (machine.mode = .running)) := by
  cases mode : machine.mode with
  | idle =>
      have rests : (machine.withRequest asked).mode = .idle := mode
      simp [askedToStop_of_idle rests]
  | running =>
      have runs : (machine.withRequest asked).mode = .running := mode
      rw [askedToStop, if_pos runs]
      simp [withRequest, StopControl.request]

/-- Only a running machine can be asked to stop, and once is as good as often. -/
theorem askedToStop_iterate_withRequest (machine : Machine) (asked : Bool) (times : Nat) :
    askedToStop^[times] (machine.withRequest asked) =
      machine.withRequest (asked || decide (0 < times ∧ machine.mode = .running)) := by
  induction times with
  | zero => simp
  | succ times induction =>
      rw [Function.iterate_succ_apply', induction, askedToStop_withRequest]
      cases asked <;> cases machine.mode <;> simp

theorem check_of_requested {control : StopControl} (requested : control.requested = true)
    (address : Int) (breakpoints : Bool) :
    control.check address breakpoints = (some (.interrupted address), control.clearRequest) :=
  if_pos requested

theorem pending_eq_running {start : Machine} {limit : Option Int} {steps : Nat}
    (noStop : start.stop? limit steps = none) :
    start.pending steps = start.running steps := by
  have noWrite : start.writeStop? steps = none :=
    (Option.or_eq_none_iff.mp (Option.or_eq_none_iff.mp noStop).2).1
  rw [pending, noWrite]
  rfl

end Machine

/-- To the machine the surroundings do no more than ask it to stop, as often as they like, and they
count how often.  They do not fail. -/
def Listener.OnlyAsks {ε σ : Type} (hear : Listener ε σ) (requests : σ → Nat) : Prop :=
  ∀ notice world, ∃ times surroundings,
    hear notice world = .ok () ⟨Machine.askedToStop^[times] world.machine, surroundings⟩ ∧
      requests surroundings = requests world.surroundings + times

/-- No fewer requests have been made than before, and while the machine runs it has been asked to stop
exactly if there are more. -/
structure Counted {σ : Type} (requests : σ → Nat) (before : Nat) (mode : Mode) (asked : Bool)
    (surroundings : σ) : Prop where
  /-- There are no fewer requests than before. -/
  noFewer : before ≤ requests surroundings
  /-- A running machine has been asked if there are more. -/
  isAsked : mode = .running → asked = decide (before < requests surroundings)

theorem counted_self {σ : Type} (requests : σ → Nat) (mode : Mode) (surroundings : σ) :
    Counted requests (requests surroundings) mode false surroundings :=
  ⟨le_rfl, fun _ => (decide_eq_false (lt_irrefl _)).symm⟩

theorem Listener.OnlyAsks.tracks {ε σ : Type} {hear : Listener ε σ} {requests : σ → Nat}
    (asks : hear.OnlyAsks requests) (before : Nat) :
    hear.Tracks fun _ => Counted requests before where
  hears {_ asked surroundings machine} notice keeps := by
    obtain ⟨noFewer, isAsked⟩ := keeps
    obtain ⟨times, others, done, count⟩ := asks notice ⟨machine.withRequest asked, surroundings⟩
    rw [Machine.askedToStop_iterate_withRequest] at done
    simp only at count
    refine ⟨_, others, done, ?_, ?_⟩
    · omega
    · intro running
      rw [isAsked running, count, Bool.eq_iff_iff]
      simp only [running, and_true, Bool.or_eq_true, decide_eq_true_iff]
      omega
  rests keeps := ⟨keeps.noFewer, nofun⟩

namespace Action

variable {ε σ : Type}

/-! ## The course of a run -/

section Course

variable (hear : Listener ε σ) (requests : σ → Nat) (world : World σ)

/-- The world of a run after a number of steps, the first being the one after the announcement of the
start.  Whether something stops the run is left out of account. -/
def course : Nat → World σ
  | 0 => (setMode hear .running).ended world
  | steps + 1 => (step hear).ended (course steps)

/-- Whether a stop is asked for during the last one of a number of steps, or, when there is none,
while the start is announced. -/
def isAsked : Nat → Bool
  | 0 => requests world.surroundings < requests (course hear world 0).surroundings
  | steps + 1 =>
      requests (course hear world steps).surroundings <
        requests (course hear world (steps + 1)).surroundings

/-- The reason to stop after a number of steps: a request comes after a halt instruction and before
everything else. -/
def dueStop? (limit : Option Int) (steps : Nat) : Option Stop :=
  (world.machine.haltStop? steps).or <|
    (if isAsked hear requests world steps then
      some (.interrupted (world.machine.after steps).counter.toNat)
    else none).or (world.machine.stop? limit steps)

end Course

open Machine

variable {hear : Listener ε σ} {requests : σ → Nat} {world : World σ} {limit : Option Int}

theorem dueStop?_of_halt {steps : Nat}
    (halts : (world.machine.after steps).fetched.operation = .halt) :
    dueStop? hear requests world limit (steps + 1) =
      some (.halted ((world.machine.after (steps + 1)).counter - 2).toNat) := by
  rw [dueStop?, haltStop?, if_pos halts, Option.some_or]

theorem dueStop?_eq_none_iff {steps : Nat} :
    dueStop? hear requests world limit steps = none ↔
      isAsked hear requests world steps = false ∧ world.machine.stop? limit steps = none := by
  have halt : world.machine.stop? limit steps = none → world.machine.haltStop? steps = none :=
    haltStop?_eq_none
  rw [dueStop?, Option.or_eq_none_iff, Option.or_eq_none_iff]
  cases isAsked hear requests world steps <;> simp_all

theorem dueStop?_of_asked {steps : Nat} (asked : isAsked hear requests world steps = true) :
    dueStop? hear requests world limit steps =
      some ((world.machine.haltStop? steps).getD
        (.interrupted (world.machine.after steps).counter.toNat)) := by
  rw [dueStop?, if_pos asked]
  cases world.machine.haltStop? steps <;> rfl

section Asks

variable (asks : hear.OnlyAsks requests)
include asks

/-- The course starts with the announcement of the start. -/
theorem setMode_running_eq (idle : world.machine.mode = .idle) :
    setMode hear .running world = .ok () (course hear world 0) ∧
      (course hear world 0).machine =
        ({ world.machine with mode := .running } : Machine).withRequest
          (isAsked hear requests world 0) := by
  let startedWorld : World σ := ⟨{ world.machine with mode := .running }, world.surroundings⟩
  have starts : setMode hear .running world = hear (.modeChanged .running) startedWorld := by
    have read : (machine : Action ε σ Machine) world = .ok world.machine world := rfl
    have change : world.machine.mode ≠ .running := by simp [idle]
    rw [setMode, bind_of_ok read, if_pos change]
    rfl
  have tracks := asks.tracks (requests world.surroundings)
  obtain ⟨asked, others, heard, -, isAsked⟩ :=
    (announces_hear tracks (.modeChanged .running) startedWorld.machine).from_world []
      (counted_self requests .running world.surroundings)
  have here : course hear world 0 = ⟨startedWorld.machine.withRequest asked, others⟩ :=
    ended_of_ok (starts.trans heard)
  rw [starts, heard, Action.isAsked, here, isAsked rfl]
  exact ⟨rfl, rfl⟩

/-- The course goes on with a step. -/
theorem step_course (world : World σ) (steps : Nat) :
    let before := (course hear world steps).machine
    ∃ asked,
      step hear (course hear world steps) = .ok before.fetched (course hear world (steps + 1)) ∧
      (course hear world (steps + 1)).machine = before.next.withRequest asked ∧
      (before.next.mode = .running → asked = isAsked hear requests world (steps + 1)) := by
  intro before
  have tracks := asks.tracks (requests (course hear world steps).surroundings)
  obtain ⟨asked, others, stepped, -, isAsked⟩ :=
    (announces_step tracks before).from_world [] (counted_self requests before.mode _)
  have there : course hear world (steps + 1) = _ := ended_of_ok stepped
  refine ⟨asked, by rw [there, stepped], by rw [there], ?_⟩
  intro goesOn
  rw [isAsked goesOn, Action.isAsked, there]

/-- Before anything stops the run its machine is as it would be without requests, and it has been
asked to stop if it was asked during the last step. -/
theorem machine_course (rest : world.machine.AtRest) {steps : Nat}
    (first : ∀ fewer < steps, dueStop? hear requests world limit fewer = none)
    (noHalt : world.machine.haltStop? steps = none) :
    (course hear world steps).machine =
      (world.machine.pending steps).withRequest (isAsked hear requests world steps) := by
  induction steps with
  | zero =>
      rw [pending_zero rest.noHit]
      exact (setMode_running_eq asks rest.idle).2
  | succ steps induction =>
      have goesOn := haltStop?_succ_eq_none_iff.mp noHalt
      obtain ⟨notAsked, noStop⟩ := dueStop?_eq_none_iff.mp (first steps (Nat.lt_succ_self steps))
      have here : (course hear world steps).machine = world.machine.running steps := by
        have firstHere : ∀ fewer < steps, dueStop? hear requests world limit fewer = none :=
          fun fewer below => first fewer (Nat.lt_succ_of_lt below)
        rw [induction firstHere (haltStop?_eq_none noStop), notAsked, withRequest_false,
          pending_eq_running noStop]
      obtain ⟨asked, -, there, isAsked⟩ := step_course asks world steps
      rw [here, next_running goesOn] at there isAsked
      rw [there, isAsked rfl]

/-! ## Runs -/

/-- Between two steps the run takes the reason to stop that is due.  Afterwards nothing tells which it
was, once what is pending is dropped. -/
theorem takeStopAfter_course (rest : world.machine.AtRest) {steps : Nat}
    (first : ∀ fewer < steps, dueStop? hear requests world limit fewer = none)
    (noHalt : world.machine.haltStop? steps = none) :
    ∃ between, (takeStopAfter limit steps : Action ε σ (Option Stop)) (course hear world steps) =
        .ok (dueStop? hear requests world limit steps) between ∧
      between.machine.settled = (world.machine.running steps).settled ∧
      (dueStop? hear requests world limit steps = none → between = course hear world steps) := by
  have here := machine_course asks rest first noHalt
  cases asked : isAsked hear requests world steps with
  | true =>
      rw [asked] at here
      have requested : (course hear world steps).machine.control.requested = true := by
        rw [here]
        exact Bool.or_true _
      have checked := check_of_requested requested
        (course hear world steps).machine.counter.toNat (decide (0 < steps))
      rw [takeStopAfter_of_check checked, dueStop?_of_asked asked, noHalt, here]
      exact ⟨_, rfl, rfl, nofun⟩
  | false =>
      rw [asked, withRequest_false] at here
      have due : dueStop? hear requests world limit steps = world.machine.stop? limit steps := by
        rw [dueStop?, asked, noHalt]
        rfl
      rw [takeStopAfter_of_pending rest.noRequest noHalt here, due]
      refine ⟨_, rfl, rfl, fun noStop => ?_⟩
      rw [← pending_eq_running noStop, ← here]

/-- The loop of a run from a point of the course ends with the first reason to stop that is due, or
takes longer than is waited for when there is none. -/
theorem runFrom_course (rest : world.machine.AtRest) (fuel : Nat) {steps : Nat}
    (first : ∀ fewer < steps, dueStop? hear requests world limit fewer = none)
    (noHalt : world.machine.haltStop? steps = none) :
    (∃ (count : Nat) (reason : Stop) (final : World σ),
      runFrom hear limit fuel steps (course hear world steps) = .ok (reason.after count) final ∧
        dueStop? hear requests world limit count = some reason ∧
        (∀ fewer < count, dueStop? hear requests world limit fewer = none) ∧
        final.machine.settled = (world.machine.running count).settled) ∨
    (∀ fewer < steps + fuel, dueStop? hear requests world limit fewer = none) ∧
      ∃ final, runFrom hear limit fuel steps (course hear world steps) =
        .error .unfinished final := by
  induction fuel generalizing steps with
  | zero => exact .inr ⟨first, _, rfl⟩
  | succ fuel induction =>
      obtain ⟨between, taken, settles, unchanged⟩ := takeStopAfter_course asks rest first noHalt
      cases due : dueStop? hear requests world limit steps with
      | some reason =>
          rw [due] at taken
          refine .inl ⟨steps, reason, between, ?_, due, first, settles⟩
          rw [runFrom, bind_of_ok taken]
          rfl
      | none =>
          obtain rfl := unchanged due
          obtain ⟨notAsked, noStop⟩ := dueStop?_eq_none_iff.mp due
          have here : (course hear world steps).machine = world.machine.running steps := by
            rw [machine_course asks rest first noHalt, notAsked, withRequest_false,
              pending_eq_running noStop]
          obtain ⟨asked, stepped, there, -⟩ := step_course asks world steps
          rw [due] at taken
          rw [here] at stepped there
          have firstThere : ∀ fewer < steps + 1, dueStop? hear requests world limit fewer = none :=
            Nat.forall_lt_succ_right.mpr ⟨first, due⟩
          have round : runFrom hear limit (fuel + 1) steps (course hear world steps) = _ :=
            (bind_of_ok taken).trans (bind_of_ok stepped)
          by_cases halts : (world.machine.after steps).fetched.operation = .halt
          · have isHalt : (world.machine.running steps).fetched.operation = .halt := halts
            have settles : (course hear world (steps + 1)).machine.settled =
                (world.machine.running (steps + 1)).settled :=
              (congrArg settled there).trans (settled_next_running halts)
            have settledCounter := congrArg Machine.counter settles
            have counter : (course hear world (steps + 1)).machine.counter =
                (world.machine.after (steps + 1)).counter := settledCounter
            rw [if_pos isHalt] at round
            refine .inl ⟨steps + 1, _, course hear world (steps + 1), round.trans ?_,
              dueStop?_of_halt halts, firstThere, settles⟩
            rw [← counter]
            rfl
          · have noHaltNow : (world.machine.running steps).fetched.operation ≠ .halt := halts
            rw [if_neg noHaltNow] at round
            rw [round]
            have later := @induction (steps + 1) firstThere (haltStop?_succ_eq_none_iff.mpr halts)
            rw [Nat.add_right_comm] at later
            exact later

/-- At rest the machine does not heed the requests that are made when the rest is announced. -/
theorem returns_settle_of_asks (world : World σ) :
    Returns (settle hear) world () world.machine.settled := by
  apply (returns_changeMachine _ world).bind
  intro surroundings
  apply (returns_machine _).bind
  intro surroundings
  split
  next =>
    apply (returns_changeMachine _ _).bind
    intro surroundings
    obtain ⟨times, others, done, -⟩ := asks (.modeChanged .idle) ⟨world.machine.settled, surroundings⟩
    rw [Function.iterate_fixed (askedToStop_of_idle rfl)] at done
    exact ⟨others, done⟩
  next same =>
    have idle : world.machine.mode = .idle := not_not.mp same
    rw [settled, ← idle]
    exact returns_pure _ _

/-- A run from rest ends with the first reason to stop that is due, or takes longer than is waited for
when there is none. -/
theorem run_course (rest : world.machine.AtRest) (patience : Nat) (limit : Option Int) :
    (∃ (steps : Nat) (reason : Stop),
      Returns (run hear patience limit) world (reason.after steps)
        { world.machine.after steps with
          mode := .idle
          control := world.machine.control.clearPending.record (reason.after steps) } ∧
        dueStop? hear requests world limit steps = some reason ∧
        ∀ fewer < steps, dueStop? hear requests world limit fewer = none) ∨
    (∀ fewer < rounds patience limit, dueStop? hear requests world limit fewer = none) ∧
      ∃ final, run hear patience limit world = .error .unfinished final := by
  have started := (setMode_running_eq asks rest.idle).1
  have first : ∀ fewer < 0, dueStop? hear requests world limit fewer = none :=
    fun _ below => absurd below (Nat.not_lt_zero _)
  rcases runFrom_course asks rest (rounds patience limit) first rfl with
    ⟨steps, reason, between, looped, due, first, settles⟩ | ⟨none, between, unfinished⟩
  · obtain ⟨others, settled⟩ := returns_settle_of_asks asks between
    refine .inl ⟨steps, reason, ⟨others, ?_⟩, due, first⟩
    rw [run, bind_of_ok started, bind_of_ok (finally_of_ok looped settled), settles]
    rfl
  · obtain ⟨final, finished⟩ := finally_of_error unfinished (returns_settle_of_asks asks between)
    rw [Nat.zero_add] at none
    refine .inr ⟨none, final, ?_⟩
    rw [run, bind_of_ok started]
    exact bind_of_error _ finished

end Asks

theorem dueStop?_ne_none_of_limit (hear : Listener ε σ) (requests : σ → Nat) (world : World σ)
    (allowed : Int) : dueStop? hear requests world (some allowed) allowed.toNat ≠ none := by
  have reached : allowed ≤ (allowed.toNat : Int) := Int.self_le_toNat allowed
  have isLimit : world.machine.limitStop? (some allowed) allowed.toNat = some _ := if_pos reached
  intro noStop
  have absent := (dueStop?_eq_none_iff.mp noStop).2
  simp [stop?, isLimit] at absent

/-- A request that is made during a step of a run from rest, or while its start is announced, ends the
run after this step, in preference to everything else that would stop it there, unless the step
halts.  No request is left when the run has ended, and at rest none is accepted: so a run is ended by
a request only if that was made during the run. -/
theorem run_heeds_requests (asks : hear.OnlyAsks requests) (rest : world.machine.AtRest)
    (patience : Nat) (limit : Option Int) :
    (∀ steps, isAsked hear requests world steps = true →
      (∀ fewer < steps, dueStop? hear requests world limit fewer = none) →
      (limit = none → steps < patience) →
      ∃ final, run hear patience limit world =
        .ok (((world.machine.haltStop? steps).getD
          (.interrupted (world.machine.after steps).counter.toNat)).after steps) final) ∧
    (∀ stop final, run hear patience limit world = .ok stop final →
      ∃ (steps : Nat) (reason : Stop), stop = reason.after steps ∧
        dueStop? hear requests world limit steps = some reason ∧
        (∀ fewer < steps, dueStop? hear requests world limit fewer = none) ∧
        final.machine =
          { world.machine.after steps with
            mode := .idle
            control := world.machine.control.clearPending.record stop } ∧
        final.machine.AtRest) ∧
    ∀ other : World σ, other.machine.mode = .idle →
      (requestStop : Action ε σ Unit) other = .ok () other := by
  refine ⟨?_, ?_, ?_⟩
  · intro steps asked first room
    have due : dueStop? hear requests world limit steps = some _ := dueStop?_of_asked asked
    rcases run_course asks rest patience limit with
      ⟨others, reason, ⟨surroundings, ended⟩, dueThere, firstThere⟩ | ⟨none, -⟩
    · obtain below | rfl | above := Nat.lt_trichotomy others steps
      · rw [first others below] at dueThere
        cases dueThere
      · rw [due] at dueThere
        cases dueThere
        exact ⟨_, ended⟩
      · rw [firstThere steps above] at due
        cases due
    · have room : steps < rounds patience limit := by
        cases limit with
        | none => exact room rfl
        | some allowed =>
            by_contra many
            rw [rounds] at many
            exact dueStop?_ne_none_of_limit hear requests world allowed (first _ (by omega))
      rw [none steps room] at due
      cases due
  · intro stop final ended
    rcases run_course asks rest patience limit with
      ⟨steps, reason, returns, due, first⟩ | ⟨-, other, unfinished⟩
    · obtain ⟨rfl, machine⟩ := returns.eq_of_ok ended
      refine ⟨steps, reason, rfl, due, first, machine, ?_⟩
      rw [machine]
      exact ⟨rfl, rfl, rfl⟩
    · rw [ended] at unfinished
      cases unfinished
  · intro other idle
    rw [requestStop_eq, askedToStop_of_idle idle]

/-- A request that is made when a watched cell is written comes before the write, a breakpoint and the
number of instructions allowed. -/
theorem run_heeds_request_at_write :
    let machine : Machine :=
      { Machine.fresh Machine.defaultOutput with
        memory := (Store.zero 8).applyAll (Store.loading 0 [0x21, 0x07, 0x31, 0x80])
        control := (StopControl.fresh.addWatchpoint 0x80).addBreakpoint 4 }
    let hear : Listener Empty Nat := fun
      | .memoryChanged .. => do
          requestStop
          changeSurroundings Nat.succ
      | _ => pure ()
    hear.OnlyAsks id ∧ machine.AtRest ∧ machine.stop? (some 2) 2 = some (.atWrite 0x80 7) ∧
      ∃ final, run hear 0 (some 2) ⟨machine, 0⟩ = .ok ((Stop.interrupted 4).after 2) final := by
  intro machine hear
  have asks : hear.OnlyAsks id := by
    intro notice world
    cases notice with
    | memoryChanged address value =>
        exact ⟨1, _, bind_of_ok (requestStop_eq world), rfl⟩
    | _ => exact ⟨0, world.surroundings, rfl, rfl⟩
  have rest : (⟨machine, 0⟩ : World Nat).machine.AtRest := ⟨rfl, rfl, rfl⟩
  have asked : isAsked hear id ⟨machine, 0⟩ 2 = true := by decide +kernel
  have first : ∀ fewer < 2, dueStop? hear id ⟨machine, 0⟩ (some 2) fewer = none := by decide +kernel
  obtain ⟨final, ended⟩ := (run_heeds_requests asks rest 0 (some 2)).1 2 asked first nofun
  have reason : (machine.haltStop? 2).getD (.interrupted (machine.after 2).counter.toNat) =
      .interrupted 4 := by
    decide +kernel
  rw [reason] at ended
  exact ⟨asks, rest, by decide +kernel, final, ended⟩

end Action
end ByteMachine
