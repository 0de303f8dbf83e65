import ByteMachine.Proofs.Machine.Resumption

/-!
# What a run announces

The notices of a run in surroundings that do no more to the machine than ask it to stop are those of
its steps, between the announcement of the start and that of the rest.  A step announces the word that
it fetches, the advanced counter, and then what the operation of the word changes.  A halt instruction
announces the rest within its step, and every other stop after it, so that the rest is announced once.
-/

namespace ByteMachine

namespace Machine

/-! ## Announcements of a step -/

/-- What a step announces, operation by operation, apart from the rest to which a halt instruction
brings the machine. -/
def announcements (machine : Machine) : List Notice :=
  let word := machine.fetched
  .instructionChanged word :: .counterChanged (machine.counter + 2) ::
    match word.operation with
    | .noOperation | .halt => []
    | .directLoad | .immediateLoad | .integerAdd | .floatAdd | .or | .and | .xor | .rotate =>
        [.registerChanged word.r (machine.next.register word.r)]
    | .move | .indirectLoad => [.registerChanged word.x (machine.next.register word.x)]
    | .directStore => machine.storeNotices word.address (machine.register word.r)
    | .indirectStore =>
        machine.storeNotices (machine.register word.y) (machine.register word.x)
    | .jumpEqual =>
        if machine.register word.r = machine.register 0 then [.counterChanged word.address] else []
    | .jumpLessEqual =>
        if (machine.register word.r).sle (machine.register 0) then [.counterChanged word.address]
        else []

theorem register_next {machine : Machine} {register : Nibble} {value : Byte}
    (sets : machine.effect machine.fetched = .setRegister register value) :
    machine.next.register register = value := by
  rw [next, sets]
  exact Cells.read_write_self _ _ _

theorem notices_of_setRegister {machine : Machine} {register : Nibble} {value : Byte}
    (sets : machine.effect machine.fetched = .setRegister register value) :
    machine.notices (machine.effect machine.fetched) =
      [.registerChanged register (machine.next.register register)] := by
  rw [register_next sets, sets, notices]

/-- The notices of a step are its announcements, and for a halt instruction that of the rest. -/
theorem stepNotices_eq (machine : Machine) :
    machine.stepNotices = machine.announcements ++
      if machine.fetched.operation = .halt then machine.modeNotices .idle else [] := by
  rw [stepNotices, announcements]
  cases operation : machine.fetched.operation with
  | noOperation | halt | directStore | indirectStore =>
      simp [effect, operation, notices, storeNotices]
  | jumpEqual | jumpLessEqual =>
      simp only [effect, operation]
      split <;> simp [notices]
  | move | indirectLoad =>
      obtain ⟨value, sets⟩ : ∃ value,
          machine.effect machine.fetched = .setRegister machine.fetched.x value := by
        rw [effect, operation]
        exact ⟨_, rfl⟩
      simp [notices_of_setRegister sets]
  | _ =>
      obtain ⟨value, sets⟩ : ∃ value,
          machine.effect machine.fetched = .setRegister machine.fetched.r value := by
        rw [effect, operation]
        exact ⟨_, rfl⟩
      simp [notices_of_setRegister sets]

theorem Alike.announcements {left right : Machine} (alike : left.Alike right)
    (outputs : left.outputAddress = right.outputAddress) :
    left.announcements = right.announcements := by
  have registers := alike.next.registers
  cases left
  cases right
  obtain ⟨rfl, rfl, rfl, rfl⟩ := alike
  subst outputs
  simp only [Machine.announcements, register, registers]
  rfl

theorem outputAddress_next (machine : Machine) :
    machine.next.outputAddress = machine.outputAddress := by
  rw [next]
  cases machine.effect machine.fetched <;> rfl

theorem outputAddress_after (machine : Machine) (steps : Nat) :
    (machine.after steps).outputAddress = machine.outputAddress := by
  induction steps with
  | zero => rfl
  | succ steps induction => rw [after_succ, outputAddress_next, induction]

theorem mode_next_of_halt {machine : Machine} (halts : machine.fetched.operation = .halt) :
    machine.next.mode = .idle := by
  rw [next, effect_eq_halt_iff.mpr halts]
  rfl

theorem mode_next {machine : Machine} (goesOn : machine.fetched.operation ≠ .halt) :
    machine.next.mode = machine.mode := by
  have noHalt := mt effect_eq_halt_iff.mp goesOn
  rw [next]
  cases effect : machine.effect machine.fetched with
  | halt => exact absurd effect noHalt
  | _ => rfl

/-- What a number of steps announce. -/
def stream (machine : Machine) (steps : Nat) : List Notice :=
  (List.range steps).flatMap fun earlier => (machine.after earlier).announcements

theorem stream_succ (machine : Machine) (steps : Nat) :
    machine.stream (steps + 1) = machine.announcements ++ machine.next.stream steps :=
  flatMap_range_succ announcements machine steps

theorem Alike.stream {left right : Machine} (alike : left.Alike right)
    (outputs : left.outputAddress = right.outputAddress) (steps : Nat) :
    left.stream steps = right.stream steps := by
  rw [Machine.stream, Machine.stream]
  congr 1
  funext earlier
  apply (alike.after earlier).announcements
  rw [outputAddress_after, outputAddress_after, outputs]

theorem alike_withRequest (machine : Machine) (asked : Bool) :
    (machine.withRequest asked).Alike machine :=
  ⟨rfl, rfl, rfl, rfl⟩

end Machine

/-- The surroundings neither change the machine nor fail, and they put down what they hear. -/
def Listener.Records {ε σ : Type} (hear : Listener ε σ) (heard : σ → List Notice) : Prop :=
  ∀ notice world, ∃ surroundings, hear notice world = .ok () ⟨world.machine, surroundings⟩ ∧
    heard surroundings = heard world.surroundings ++ [notice]

theorem Listener.Records.tracks {ε σ : Type} {hear : Listener ε σ} {heard : σ → List Notice}
    (records : hear.Records heard) (start : List Notice) :
    hear.Tracks fun notices _ _ surroundings => heard surroundings = start ++ notices where
  hears {_ asked _ _} notice keeps := by
    obtain ⟨others, done, putDown⟩ := records notice _
    refine ⟨asked, others, done, ?_⟩
    rw [putDown, keeps, List.append_assoc]
  rests keeps := keeps

namespace Action

open Machine

variable {ε σ : Type} {hear : Listener ε σ} {kept : List Notice → σ → Prop}

/-! ## The loop of a run -/

/-- A number of steps have led from a machine to a world, and the surroundings, which had heard some
notices before, have heard what the steps announce.  What a halt instruction announces in addition is
what is still to be announced after any other end. -/
structure Streamed (kept : List Notice → σ → Prop) (before : List Notice) (start : Machine)
    (steps : Nat) (final : World σ) : Prop where
  /-- The machine is where the steps lead. -/
  alike : final.machine.Alike (start.after steps)
  /-- It prints where it did. -/
  outputs : final.machine.outputAddress = start.outputAddress
  /-- Together with the announcement of the rest the notices are those of the steps. -/
  heard : ∃ notices, kept (before ++ notices) final.surroundings ∧
    notices ++ final.machine.modeNotices .idle = start.stream steps ++ [.modeChanged .idle]

theorem Streamed.zero {before : List Notice} {start : Machine} {final : World σ}
    (alike : final.machine.Alike start)
    (outputs : final.machine.outputAddress = start.outputAddress)
    (running : final.machine.mode = .running) (keeps : kept before final.surroundings) :
    Streamed kept before start 0 final := by
  refine ⟨alike, outputs, [], ?_, ?_⟩
  · rw [List.append_nil]
    exact keeps
  · rw [modeNotices, running]
    rfl

theorem Streamed.one {before : List Notice} {start other : Machine} {asked : Bool}
    {surroundings : σ} (alike : other.Alike start)
    (outputs : other.outputAddress = start.outputAddress)
    (running : other.mode = .running) (halts : other.fetched.operation = .halt)
    (keeps : kept (before ++ other.stepNotices) surroundings) :
    Streamed kept before start 1 ⟨other.next.withRequest asked, surroundings⟩ := by
  refine ⟨(other.next.alike_withRequest asked).trans alike.next,
    (outputAddress_next other).trans outputs, _, keeps, ?_⟩
  have single : start.stream 1 = start.announcements := List.append_nil _
  have idle : (other.next.withRequest asked).mode = .idle := mode_next_of_halt halts
  rw [stepNotices_eq, if_pos halts, single, alike.announcements outputs]
  simp only [modeNotices, idle, running, if_true, List.append_nil]
  rfl

theorem Streamed.succ {before : List Notice} {start other : Machine} {asked : Bool} {steps : Nat}
    {final : World σ} (alike : other.Alike start)
    (outputs : other.outputAddress = start.outputAddress)
    (goesOn : other.fetched.operation ≠ .halt)
    (rest : Streamed kept (before ++ other.stepNotices) (other.next.withRequest asked) steps final) :
    Streamed kept before start (steps + 1) final := by
  have nextAlike : (other.next.withRequest asked).Alike start.next :=
    (other.next.alike_withRequest asked).trans alike.next
  have nextOutputs : (other.next.withRequest asked).outputAddress = start.next.outputAddress := by
    rw [outputAddress_next, ← outputs, ← outputAddress_next other]
    rfl
  obtain ⟨notices, keeps, same⟩ := rest.heard
  refine ⟨?_, ?_, other.stepNotices ++ notices, ?_, ?_⟩
  · rw [← after_next]
    exact rest.alike.trans (nextAlike.after steps)
  · exact rest.outputs.trans ((outputAddress_next other).trans outputs)
  · rw [← List.append_assoc]
    exact keeps
  · rw [List.append_assoc, same, stepNotices_eq, if_neg goesOn, List.append_nil, stream_succ,
      alike.announcements outputs, nextAlike.stream nextOutputs, List.append_assoc]

section Tracks

variable (tracks : hear.Tracks fun heard _ _ surroundings => kept heard surroundings)
include tracks

/-- A loop that starts while the machine runs ends with a stop that tells its steps, or takes longer
than is waited for, which it does not if there are rounds for all the instructions allowed. -/
theorem runFrom_streamed {limit : Option Int} {fuel steps : Nat} {world : World σ}
    {before : List Notice} (running : world.machine.mode = .running)
    (keeps : kept before world.surroundings) :
    (∃ (more : Nat) (stop : Stop) (final : World σ),
      runFrom hear limit fuel steps world = .ok stop final ∧ stop.steps = (steps + more : Nat) ∧
        Streamed kept before world.machine more final) ∨
    (∀ allowed, limit = some allowed → fuel ≤ (allowed - steps).toNat) ∧
      ∃ final heard, runFrom hear limit fuel steps world = .error .unfinished final ∧
        kept heard final.surroundings := by
  induction fuel generalizing steps world before with
  | zero => exact .inr ⟨fun _ _ => Nat.zero_le _, world, before, rfl, keeps⟩
  | succ fuel induction =>
      obtain ⟨found, left, checked⟩ : ∃ found left,
          world.machine.control.check world.machine.counter.toNat (decide (0 < steps)) =
            (found, left) := ⟨_, _, rfl⟩
      let checkedWorld : World σ := ⟨{ world.machine with control := left }, world.surroundings⟩
      have taken : (takeStopAfter limit steps : Action ε σ (Option Stop)) world =
          .ok (found.or (world.machine.atLimit? limit steps)) checkedWorld :=
        takeStopAfter_of_check checked
      have alike : checkedWorld.machine.Alike world.machine := ⟨rfl, rfl, rfl, rfl⟩
      cases due : found.or (world.machine.atLimit? limit steps) with
      | some stop =>
          rw [due] at taken
          refine .inl ⟨0, stop.after steps, checkedWorld, ?_, rfl, .zero alike rfl running keeps⟩
          rw [runFrom, bind_of_ok taken]
          rfl
      | none =>
          rw [due] at taken
          have allowsMore : ∀ allowed, limit = some allowed → steps < allowed := by
            rintro allowed rfl
            simpa [atLimit?] using (Option.or_eq_none_iff.mp due).2
          obtain ⟨asked, others, stepped, keeps⟩ :=
            (announces_step tracks checkedWorld.machine).from_world before keeps
          let steppedWorld : World σ := ⟨checkedWorld.machine.next.withRequest asked, others⟩
          have round : runFrom hear limit (fuel + 1) steps world = _ :=
            (bind_of_ok taken).trans (bind_of_ok stepped)
          by_cases halts : checkedWorld.machine.fetched.operation = .halt
          · rw [if_pos halts] at round
            exact .inl ⟨1, (Stop.halted (steppedWorld.machine.counter - 2).toNat).after
              (steps + 1 : Nat), steppedWorld, round, rfl, .one alike rfl running halts keeps⟩
          · rw [if_neg halts] at round
            have runningNext : steppedWorld.machine.mode = .running :=
              (mode_next halts).trans running
            rcases @induction (steps + 1) steppedWorld _ runningNext keeps with
              ⟨more, stop, final, ended, count, streamed⟩ |
                ⟨short, final, heard, unfinished, keeps⟩
            · refine .inl ⟨more + 1, stop, final, round.trans ended, ?_,
                .succ alike rfl halts streamed⟩
              rw [count]
              congr 1
              omega
            · refine .inr ⟨?_, final, heard, round.trans unfinished, keeps⟩
              intro allowed isLimit
              have fewer := short allowed isLimit
              have below := allowsMore allowed isLimit
              omega

/-! ## Runs -/

theorem settle_streamed {world : World σ} {before : List Notice}
    (keeps : kept before world.surroundings) :
    ∃ asked others,
      settle hear world = .ok () ⟨world.machine.settled.withRequest asked, others⟩ ∧
        kept (before ++ world.machine.modeNotices .idle) others := by
  let cleared : World σ :=
    ⟨{ world.machine with control := world.machine.control.clearPending }, world.surroundings⟩
  have clears : (changeControl StopControl.clearPending : Action ε σ Unit) world = .ok () cleared :=
    rfl
  obtain ⟨asked, others, rested, keeps⟩ :=
    (announces_setMode tracks .idle cleared.machine id).from_world before keeps
  exact ⟨asked, others, (bind_of_ok clears).trans rested, keeps⟩

/-- A run in surroundings that do no more than ask the machine to stop ends with a stop that tells its
steps, or takes longer than is waited for, which it does only if any number of instructions is
allowed. -/
theorem run_streamed (patience : Nat) (limit : Option Int) {world : World σ} {before : List Notice}
    (keeps : kept before world.surroundings) :
    (∃ (steps : Nat) (stop : Stop) (final : World σ),
      run hear patience limit world = .ok stop final ∧ stop.steps = steps ∧
        final.machine.Alike (world.machine.after steps) ∧
        final.machine.outputAddress = world.machine.outputAddress ∧
        final.machine.control.last = some stop ∧
        kept (before ++ (world.machine.modeNotices .running ++
          (world.machine.stream steps ++ [.modeChanged .idle]))) final.surroundings) ∨
    limit = none ∧ ∃ final, run hear patience limit world = .error .unfinished final := by
  obtain ⟨asked, surroundings, started, keeps⟩ :=
    (announces_setMode tracks .running world.machine id).from_world before keeps
  let startedWorld : World σ :=
    ⟨({ world.machine with mode := .running } : Machine).withRequest asked, surroundings⟩
  have alike : startedWorld.machine.Alike world.machine := ⟨rfl, rfl, rfl, rfl⟩
  have running : startedWorld.machine.mode = .running := rfl
  rcases @runFrom_streamed _ _ _ _ tracks limit (rounds patience limit) 0 startedWorld _ running
      keeps with
    ⟨steps, stop, between, looped, count, streamed⟩ |
      ⟨short, between, heard, unfinished, keeps⟩
  · obtain ⟨notices, keeps, same⟩ := streamed.heard
    obtain ⟨again, others, settled, keeps⟩ := settle_streamed tracks keeps
    have there := streamed.alike.trans (alike.after steps)
    let rest := between.machine.settled.withRequest again
    refine .inl ⟨steps, stop, ⟨{ rest with control := rest.control.record stop }, others⟩, ?_, ?_,
      ⟨there.registers, there.memory, there.counter, there.instruction⟩, streamed.outputs, rfl, ?_⟩
    · rw [run, bind_of_ok started, bind_of_ok (finally_of_ok looped settled)]
      rfl
    · rw [count, Nat.zero_add]
    · rw [List.append_assoc, List.append_assoc, same, alike.stream rfl] at keeps
      exact keeps
  · obtain ⟨again, others, settled, -⟩ := settle_streamed tracks keeps
    obtain ⟨final, finished⟩ := finally_of_error unfinished ⟨others, settled⟩
    refine .inr ⟨?_, final, ?_⟩
    · cases limit with
      | none => rfl
      | some allowed =>
          have fewer := short allowed rfl
          rw [rounds] at fewer
          omega
    · rw [run, bind_of_ok started]
      exact bind_of_error _ finished

end Tracks

/-- The notices of a run from rest, whatever stops it: that of the start, those of each step in order
and that of the rest, once.  Only a run without a number of instructions allowed may take longer than
is waited for. -/
theorem notices_of_run {heard : σ → List Notice} (records : hear.Records heard) {world : World σ}
    (idle : world.machine.mode = .idle) (patience : Nat) (limit : Option Int) :
    (∃ (steps : Nat) (stop : Stop) (final : World σ),
      run hear patience limit world = .ok stop final ∧ stop.steps = steps ∧
        final.machine.Alike (world.machine.after steps) ∧
        heard final.surroundings = heard world.surroundings ++
          (.modeChanged .running ::
            ((List.range steps).flatMap fun earlier => (world.machine.after earlier).announcements) ++
              [.modeChanged .idle])) ∨
    limit = none ∧ ∃ final, run hear patience limit world = .error .unfinished final := by
  have nothingYet : heard world.surroundings = heard world.surroundings ++ [] :=
    (List.append_nil _).symm
  have start : world.machine.modeNotices .running = [.modeChanged .running] := by
    rw [modeNotices, idle]
    rfl
  rcases run_streamed (records.tracks (heard world.surroundings)) patience limit nothingYet with
    ⟨steps, stop, final, ended, count, there, -, -, keeps⟩ | unfinished
  · rw [start] at keeps
    exact .inl ⟨steps, stop, final, ended, count, there, keeps⟩
  · exact .inr unfinished

/-- A load, a store at the output address and a halt instruction. -/
theorem notices_of_run_printing :
    let machine : Machine :=
      { Machine.fresh 0x80 with
        memory := (Store.zero 8).applyAll (Store.loading 0 [0x21, 0x41, 0x31, 0x80, 0xC0]) }
    let hear : Listener Empty (List Notice) := fun notice world =>
      .ok () ⟨world.machine, world.surroundings ++ [notice]⟩
    hear.Records id ∧ machine.mode = .idle ∧ ∃ stop final,
      run hear 5 none ⟨machine, []⟩ = .ok stop final ∧ final.surroundings =
        [.modeChanged .running,
          .instructionChanged ⟨0x21, 0x41⟩, .counterChanged 2, .registerChanged 1 0x41,
          .instructionChanged ⟨0x31, 0x80⟩, .counterChanged 4, .memoryChanged 0x80 0x41, .output 0x41,
          .instructionChanged ⟨0xC0, 0x00⟩, .counterChanged 6, .modeChanged .idle] := by
  intro machine hear
  have records : hear.Records id := fun _ _ => ⟨_, rfl, rfl⟩
  have halted : (match run hear 5 none ⟨machine, []⟩ with
      | .ok stop _ => stop.steps
      | .error _ _ => 0) = 3 := by
    decide +kernel
  have idle : (⟨machine, []⟩ : World (List Notice)).machine.mode = .idle := rfl
  rcases notices_of_run records idle 5 none with
    ⟨steps, stop, final, ended, count, -, heard⟩ | ⟨-, final, unfinished⟩
  · rw [ended] at halted
    have counted : (steps : Int) = 3 := count.symm.trans halted
    obtain rfl : steps = 3 := by omega
    refine ⟨records, rfl, stop, final, ended, heard.trans ?_⟩
    decide +kernel
  · rw [unfinished] at halted
    cases halted

end Action
end ByteMachine
