import ByteMachine.Proofs.Simulator.Output

/-!
# Listeners that trace

A listener that heeds only words that are fetched and characters that are printed sees a machine with
the counter at the word when the word is fetched, whatever the word does to the counter afterwards.
So what such a listener keeps after a run is told by the machine before each of its steps.
-/

namespace ByteMachine

/-- Whether a notice tells of a word that is fetched or of a character that is printed. -/
def Notice.isTraced : Notice → Bool
  | .instructionChanged _ | .output _ => true
  | _ => false

/-- The surroundings let the machine alone.  What they keep changes when a word is fetched, depending
on where the machine stands, and when a character is printed, and with no other notice. -/
structure Listener.Traces {ε σ : Type} (hear : Listener ε σ) (fetching : Byte → Word → σ → σ)
    (printing : Byte → σ → σ) : Prop where
  /-- What they do when a word is fetched. -/
  fetches : ∀ word world, hear (.instructionChanged word) world =
    .ok () ⟨world.machine, fetching world.machine.counter word world.surroundings⟩
  /-- What they do when a character is printed. -/
  prints : ∀ byte world, hear (.output byte) world =
    .ok () ⟨world.machine, printing byte world.surroundings⟩
  /-- They do nothing else. -/
  rests : ∀ notice, notice.isTraced = false → ∀ world, hear notice world = .ok () world

theorem Listener.Traces.passive {ε σ : Type} {hear : Listener ε σ} {fetching : Byte → Word → σ → σ}
    {printing : Byte → σ → σ} (traces : hear.Traces fetching printing) : hear.Passive := by
  intro notice world
  cases notice with
  | instructionChanged word => exact ⟨_, traces.fetches word world⟩
  | output byte => exact ⟨_, traces.prints byte world⟩
  | _ => exact ⟨_, traces.rests _ rfl world⟩

namespace Machine

variable {σ : Type} (fetching : Byte → Word → σ → σ) (printing : Byte → σ → σ)

/-- What is kept after a step, when some surroundings were kept before it. -/
def traced (machine : Machine) (surroundings : σ) : σ :=
  let fetched := fetching machine.counter machine.fetched surroundings
  match machine.portStore? machine.outputAddress with
  | some value => printing value fetched
  | none => fetched

end Machine

namespace Action

open Machine

variable {ε σ : Type} {hear : Listener ε σ} {fetching : Byte → Word → σ → σ}
  {printing : Byte → σ → σ}

section Traces

variable (traces : hear.Traces fetching printing)
include traces

theorem setMode_of_traces (mode : Mode) (world : World σ) :
    setMode hear mode world = .ok () ⟨{ world.machine with mode }, world.surroundings⟩ := by
  have read : (machine : Action ε σ Machine) world = .ok world.machine world := rfl
  rw [setMode, bind_of_ok read]
  by_cases change : world.machine.mode ≠ mode
  · rw [if_pos change]
    exact traces.rests (.modeChanged mode) rfl _
  · rw [if_neg change, ← not_not.mp change]
    rfl

theorem settle_of_traces (world : World σ) :
    settle hear world = .ok () ⟨world.machine.settled, world.surroundings⟩ :=
  setMode_of_traces traces .idle _

theorem store_of_traces (address value : Byte) (world : World σ) :
    store hear address value world = .ok () ⟨world.machine.apply (.store address value),
      if address = world.machine.outputAddress then printing value world.surroundings
      else world.surroundings⟩ := by
  let written : World σ :=
    ⟨{ world.machine with memory := world.machine.memory.write address value }, world.surroundings⟩
  have writes : setMemory hear address value world = .ok () written :=
    traces.rests (.memoryChanged address value) rfl written
  have outputs (machine : Machine) : (do
      if address = (← Action.machine).outputAddress then hear (.output value))
        (⟨machine, world.surroundings⟩ : World σ) = .ok () ⟨machine,
          if address = machine.outputAddress then printing value world.surroundings
          else world.surroundings⟩ := by
    have read : (Action.machine : Action ε σ Machine) ⟨machine, world.surroundings⟩ =
        .ok machine ⟨machine, world.surroundings⟩ := rfl
    rw [bind_of_ok read]
    by_cases printed : address = machine.outputAddress
    · rw [if_pos printed, if_pos printed]
      exact traces.prints value _
    · rw [if_neg printed, if_neg printed]
      rfl
  have read : (machine : Action ε σ Machine) written = .ok written.machine written := rfl
  rw [store, bind_of_ok writes, bind_of_ok read]
  by_cases running : world.machine.mode = .running
  · have here : written.machine.mode = .running := running
    simp only [Machine.apply, if_pos running, if_pos here]
    exact outputs _
  · have here : written.machine.mode ≠ .running := running
    simp only [Machine.apply, if_neg running, if_neg here]
    exact outputs _

theorem perform_of_traces (effect : Effect) (world : World σ) :
    perform hear effect world = .ok () ⟨world.machine.apply effect,
      match effect with
      | .store address value =>
          if address = world.machine.outputAddress then printing value world.surroundings
          else world.surroundings
      | _ => world.surroundings⟩ := by
  cases effect with
  | nothing => rfl
  | setRegister register value => exact traces.rests (.registerChanged register value) rfl _
  | store address value => exact store_of_traces traces address value world
  | jump target => exact traces.rests (.counterChanged target) rfl _
  | halt => exact setMode_of_traces traces .idle world

/-- When the word is fetched the counter still is at the word. -/
theorem step_of_traces (world : World σ) :
    step hear world = .ok world.machine.fetched
      ⟨world.machine.next, world.machine.traced fetching printing world.surroundings⟩ := by
  let atWord : World σ :=
    ⟨{ world.machine with instruction := world.machine.fetched },
      fetching world.machine.counter world.machine.fetched world.surroundings⟩
  let ready : World σ := ⟨world.machine.fetch, atWord.surroundings⟩
  have fetched : setInstruction hear world.machine.fetched world = .ok () atWord :=
    traces.fetches world.machine.fetched _
  have advanced : setCounter hear (world.machine.counter + 2) atWord = .ok () ready :=
    traces.rests (.counterChanged _) rfl _
  have performed := perform_of_traces traces (world.machine.effect world.machine.fetched) ready
  have whole : step hear world = _ :=
    (bind_of_ok (rfl : (machine : Action ε σ Machine) world = .ok world.machine world)).trans <|
      (bind_of_ok fetched).trans <|
        (bind_of_ok (rfl : (machine : Action ε σ Machine) atWord = .ok _ _)).trans <|
          (bind_of_ok advanced).trans <|
            (bind_of_ok (rfl : (machine : Action ε σ Machine) ready = .ok _ _)).trans <|
              bind_of_ok performed
  rw [whole, Machine.traced, Machine.next]
  cases effect : world.machine.effect world.machine.fetched with
  | store address value =>
      rw [portStore?, nextStore?_eq_some_iff.mpr effect]
      have sameOutput : ready.machine.outputAddress = world.machine.outputAddress := rfl
      by_cases printed : address = world.machine.outputAddress
      · simp only [sameOutput, if_pos printed]
        rfl
      · simp only [sameOutput, if_neg printed]
        rfl
  | nothing | setRegister | jump | halt =>
      rw [portStore?_eq_none (by simp [effect])]
      rfl

/-- A loop that ends has traced the machine before each of its steps. -/
theorem runFrom_of_traces {start : Machine} {limit : Option Int} {fuel steps : Nat}
    (noRequest : start.control.requested = false) (noHalt : start.haltStop? steps = none)
    {world final : World σ} {stop : Stop} (here : world.machine = start.pending steps)
    (ended : runFrom hear limit fuel steps world = .ok stop final) :
    ∃ more : Nat, stop.steps = (steps + more : Nat) ∧
      final.surroundings = (List.range' steps more).foldl
        (fun surroundings earlier => (start.after earlier).traced fetching printing surroundings)
        world.surroundings := by
  induction fuel generalizing steps world with
  | zero => cases ended
  | succ fuel induction =>
      have taken : (takeStopAfter limit steps : Action ε σ (Option Stop)) world =
          .ok (start.stop? limit steps) ⟨start.running steps, world.surroundings⟩ :=
        takeStopAfter_of_pending noRequest noHalt here
      cases due : start.stop? limit steps with
      | some reason =>
          rw [due] at taken
          rw [runFrom, bind_of_ok taken] at ended
          cases ended
          exact ⟨0, rfl, rfl⟩
      | none =>
          rw [due] at taken
          have stepped := step_of_traces traces ⟨start.running steps, world.surroundings⟩
          have round : runFrom hear limit (fuel + 1) steps world = _ :=
            (bind_of_ok taken).trans (bind_of_ok stepped)
          rw [round] at ended
          by_cases halts : (start.after steps).fetched.operation = .halt
          · have isHalt : (start.running steps).fetched.operation = .halt := halts
            rw [if_pos isHalt] at ended
            cases ended
            exact ⟨1, rfl, rfl⟩
          · have goesOn : (start.running steps).fetched.operation ≠ .halt := halts
            rw [if_neg goesOn] at ended
            obtain ⟨more, count, kept⟩ := induction (haltStop?_succ_eq_none_iff.mpr halts)
              (next_running halts) ended
            refine ⟨more + 1, ?_, ?_⟩
            · rw [count]
              congr 1
              omega
            · rw [kept]
              rfl

/-- What is kept after a run is told by the machine before each of its steps. -/
theorem run_of_traces {world : World σ} (noRequest : world.machine.control.requested = false)
    (noHit : world.machine.control.hit = none) {patience steps : Nat} {limit : Option Int}
    {reason : Stop} (stops : world.machine.StopsFirst limit steps reason)
    (room : steps < rounds patience limit ∨
      steps = rounds patience limit ∧ world.machine.haltStop? steps ≠ none) :
    run hear patience limit world = .ok (reason.after steps)
      ⟨{ world.machine.after steps with
          mode := .idle
          control := world.machine.control.clearPending.record (reason.after steps) },
        (List.range steps).foldl
          (fun surroundings earlier =>
            (world.machine.after earlier).traced fetching printing surroundings)
          world.surroundings⟩ := by
  -- Where the run ends is known of every passive listener; its loop tells what this one keeps.
  obtain ⟨others, ended⟩ := returns_run traces.passive noRequest noHit stops room
  rw [ended]
  rw [run, bind_of_ok (setMode_of_traces traces .running world)] at ended
  cases looped : runFrom hear limit (rounds patience limit) 0
      ⟨{ world.machine with mode := .running }, world.surroundings⟩ with
  | error failure between =>
      obtain ⟨final, failed⟩ := finally_of_error looped ⟨_, settle_of_traces traces between⟩
      rw [bind_of_error _ failed] at ended
      cases ended
  | ok stop between =>
      have finished := finally_of_ok looped (settle_of_traces traces between)
      rw [bind_of_ok finished] at ended
      obtain ⟨more, count, kept⟩ :=
        runFrom_of_traces traces noRequest rfl (pending_zero noHit).symm looped
      obtain ⟨sameStop, sameWorld⟩ := EStateM.Result.ok.inj ended
      have sameOthers : between.surroundings = others := congrArg World.surroundings sameWorld
      have isCount : (steps : Int) = (0 + more : Nat) := by
        rw [← count, sameStop]
        rfl
      obtain rfl : steps = more := by omega
      rw [← sameOthers, kept, List.range_eq_range']

end Traces
end Action
end ByteMachine
