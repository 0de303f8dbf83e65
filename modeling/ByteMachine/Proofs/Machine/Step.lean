import ByteMachine.Machine.Run
import Mathlib.Logic.Function.Iterate

/-!
# Steps in passive surroundings

When the surroundings neither change the machine nor fail, a step is a function of the machine: it
fetches the word at the counter and applies its effect.  Repeated steps are the iterates of this
function.  The same is true, up to a request to stop, when the surroundings may ask the machine to
stop, since a step does not look at requests.  What the surroundings hear of a step is determined by
the machine as well, so that whatever they keep of what they hear can be followed along a number of
steps.
-/

namespace ByteMachine

/-! ## The step as a function -/

namespace Machine

/-- The machine with the word at the counter fetched. -/
def fetch (machine : Machine) : Machine :=
  { machine with instruction := machine.fetched, counter := machine.counter + 2 }

/-- The machine after an effect.  A store is noted only while a program is running. -/
def apply (machine : Machine) : Effect → Machine
  | .nothing => machine
  | .setRegister register value =>
      { machine with registers := machine.registers.write register value }
  | .store address value =>
      { machine with
        memory := machine.memory.write address value
        control :=
          if machine.mode = .running then machine.control.noteWrite address.toNat value.toNat
          else machine.control }
  | .jump target => { machine with counter := target }
  | .halt => { machine with mode := .idle }

/-- The machine after one step. -/
def next (machine : Machine) : Machine :=
  machine.fetch.apply (machine.effect machine.fetched)

/-- The machine after a number of steps. -/
def after (machine : Machine) (steps : Nat) : Machine :=
  next^[steps] machine

theorem instruction_next (machine : Machine) : machine.next.instruction = machine.fetched := by
  rw [next]
  cases machine.effect machine.fetched <;> rfl

theorem after_succ (machine : Machine) (steps : Nat) :
    machine.after (steps + 1) = (machine.after steps).next :=
  Function.iterate_succ_apply' next steps machine

theorem after_next (machine : Machine) (steps : Nat) :
    machine.next.after steps = machine.after (steps + 1) :=
  (Function.iterate_succ_apply next steps machine).symm

/-- The address and the value of the store that the next word makes, if it makes one. -/
def nextStore? (machine : Machine) : Option (Byte × Byte) :=
  match machine.fetched.operation with
  | .directStore => some (machine.fetched.address, machine.register machine.fetched.r)
  | .indirectStore =>
      some (machine.register machine.fetched.y, machine.register machine.fetched.x)
  | _ => none

theorem nextStore?_eq_some_iff {machine : Machine} {address value : Byte} :
    machine.nextStore? = some (address, value) ↔
      machine.effect machine.fetched = .store address value := by
  rw [nextStore?, effect]
  cases machine.fetched.operation with
  | directStore | indirectStore => simp
  | jumpEqual | jumpLessEqual => simp only; split <;> simp
  | _ => simp

theorem nextStore?_eq_none {machine : Machine}
    (noStore : ∀ address value, machine.effect machine.fetched ≠ .store address value) :
    machine.nextStore? = none := by
  cases found : machine.nextStore? with
  | none => rfl
  | some place => exact absurd (nextStore?_eq_some_iff.mp found) (noStore place.1 place.2)

theorem effect_eq_halt_iff {machine : Machine} :
    machine.effect machine.fetched = .halt ↔ machine.fetched.operation = .halt := by
  rw [effect]
  cases machine.fetched.operation with
  | jumpEqual | jumpLessEqual => simp only; split <;> simp
  | _ => simp

/-! ## What is announced -/

/-- The notices of a change of the mode; it is no change if the mode is the same. -/
def modeNotices (machine : Machine) (mode : Mode) : List Notice :=
  if machine.mode = mode then [] else [.modeChanged mode]

/-- The notices of a store: that of the cell, and at the output address that of the character. -/
def storeNotices (machine : Machine) (address value : Byte) : List Notice :=
  .memoryChanged address value :: if address = machine.outputAddress then [.output value] else []

/-- The notices of an effect. -/
def notices (machine : Machine) : Effect → List Notice
  | .nothing => []
  | .setRegister register value => [.registerChanged register value]
  | .store address value => machine.storeNotices address value
  | .jump target => [.counterChanged target]
  | .halt => machine.modeNotices .idle

/-- The notices of one step. -/
def stepNotices (machine : Machine) : List Notice :=
  .instructionChanged machine.fetched :: .counterChanged (machine.counter + 2) ::
    machine.notices (machine.effect machine.fetched)

theorem map_range_succ {α : Type} (f : Machine → α) (machine : Machine) (steps : Nat) :
    (List.range (steps + 1)).map (fun earlier => f (machine.after earlier)) =
      f machine :: (List.range steps).map fun earlier => f (machine.next.after earlier) := by
  rw [List.range_succ_eq_map, List.map_cons, List.map_map]
  simp only [after_next]
  rfl

theorem flatMap_range_succ {α : Type} (f : Machine → List α) (machine : Machine) (steps : Nat) :
    (List.range (steps + 1)).flatMap (fun earlier => f (machine.after earlier)) =
      f machine ++ (List.range steps).flatMap fun earlier => f (machine.next.after earlier) := by
  rw [List.flatMap_def, map_range_succ f]
  rfl

end Machine

/-! ## Requests -/

namespace Machine

/-- The machine with a request to stop, unless there is none to be added. -/
def withRequest (machine : Machine) (asked : Bool) : Machine :=
  { machine with
    control := { machine.control with requested := machine.control.requested || asked } }

theorem withRequest_false (machine : Machine) : machine.withRequest false = machine := by
  rw [withRequest, Bool.or_false]

/-- A write to a watched cell is noted whether or not there is a request. -/
theorem noteWrite_withRequest (machine : Machine) (address value : Int) (asked : Bool) :
    ({ machine.withRequest asked with
        control := (machine.withRequest asked).control.noteWrite address value } : Machine) =
      ({ machine with control := machine.control.noteWrite address value } : Machine).withRequest
        asked := by
  by_cases watched : StopControl.isMember machine.control.watchpoints address <;>
    simp [withRequest, StopControl.noteWrite, watched]

end Machine

/-! ## Steps as actions -/

/-- The surroundings neither change the machine nor fail. -/
def Listener.Passive {ε σ : Type} (hear : Listener ε σ) : Prop :=
  ∀ notice world, ∃ surroundings, hear notice world = .ok () ⟨world.machine, surroundings⟩

/-- The surroundings do not fail, and to the machine they do no more than ask it to stop.  There is
something to be told of the notices heard, the mode, the requests made and what the surroundings keep,
which remains so with every notice, and when the machine is brought to rest. -/
structure Listener.Tracks {ε σ : Type} (hear : Listener ε σ)
    (kept : List Notice → Mode → Bool → σ → Prop) : Prop where
  /-- It is true again after one more notice. -/
  hears : ∀ {heard asked surroundings} {machine : Machine} (notice : Notice),
    kept heard machine.mode asked surroundings →
      ∃ again others,
        hear notice ⟨machine.withRequest asked, surroundings⟩ =
          .ok () ⟨machine.withRequest again, others⟩ ∧
        kept (heard ++ [notice]) machine.mode again others
  /-- It is still true of a machine at rest. -/
  rests : ∀ {heard mode asked surroundings},
    kept heard mode asked surroundings → kept heard .idle asked surroundings

/-- Of passive surroundings it can be told that they make no request. -/
theorem Listener.Passive.tracks {ε σ : Type} {hear : Listener ε σ} (passive : hear.Passive) :
    hear.Tracks fun _ _ asked _ => asked = false where
  hears notice keeps := by
    subst keeps
    obtain ⟨others, done⟩ := passive notice _
    exact ⟨false, others, done, rfl⟩
  rests keeps := keeps

namespace Action

variable {ε σ α β : Type}

/-- In a world the action ends with a value and leaves a machine. -/
def Returns (action : Action ε σ α) (world : World σ) (value : α) (machine : Machine) : Prop :=
  ∃ surroundings, action world = .ok value ⟨machine, surroundings⟩

theorem returns_pure (value : α) (world : World σ) :
    Returns (pure value : Action ε σ α) world value world.machine :=
  ⟨world.surroundings, rfl⟩

theorem returns_machine (world : World σ) :
    Returns (machine : Action ε σ Machine) world world.machine world.machine :=
  ⟨world.surroundings, rfl⟩

theorem returns_changeMachine (change : Machine → Machine) (world : World σ) :
    Returns (changeMachine change : Action ε σ Unit) world () (change world.machine) :=
  ⟨world.surroundings, rfl⟩

theorem bind_of_ok {action : Action ε σ α} {rest : α → Action ε σ β} {world between : World σ}
    {value : α} (done : action world = .ok value between) :
    (action >>= rest) world = rest value between := by
  change EStateM.bind action rest world = _
  rw [EStateM.bind, done]

theorem Returns.bind {action : Action ε σ α} {rest : α → Action ε σ β} {world : World σ} {value : α}
    {machine final : Machine} {result : β} (first : Returns action world value machine)
    (second : ∀ surroundings, Returns (rest value) ⟨machine, surroundings⟩ result final) :
    Returns (action >>= rest) world result final := by
  obtain ⟨surroundings, done⟩ := first
  rw [Returns, bind_of_ok done]
  exact second surroundings

theorem finally_of_ok {action : Action ε σ α} {cleanup : Action ε σ Unit}
    {world between final : World σ} {value : α} (done : action world = .ok value between)
    (cleaned : cleanup between = .ok () final) :
    tryFinally action cleanup world = .ok value final := by
  simp only [tryFinally, tryFinally', Functor.map, EStateM.map, done, cleaned]

theorem Returns.finally {action : Action ε σ α} {cleanup : Action ε σ Unit} {world : World σ}
    {value : α} {machine final : Machine} (first : Returns action world value machine)
    (second : ∀ surroundings, Returns cleanup ⟨machine, surroundings⟩ () final) :
    Returns (tryFinally action cleanup) world value final := by
  obtain ⟨surroundings, done⟩ := first
  obtain ⟨others, cleaned⟩ := second surroundings
  exact ⟨others, finally_of_ok done cleaned⟩

theorem finally_of_error {action : Action ε σ α} {cleanup : Action ε σ Unit}
    {world between : World σ} {failure : Interruption ε} {final : Machine}
    (failed : action world = .error failure between) (cleans : Returns cleanup between () final) :
    ∃ ended, tryFinally action cleanup world = .error failure ended := by
  obtain ⟨surroundings, cleaned⟩ := cleans
  refine ⟨⟨final, surroundings⟩, ?_⟩
  simp only [tryFinally, tryFinally', Functor.map, EStateM.map, failed, cleaned]

theorem bind_of_error {action : Action ε σ α} (rest : α → Action ε σ β) {world between : World σ}
    {failure : Interruption ε} (failed : action world = .error failure between) :
    (action >>= rest) world = .error failure between := by
  change EStateM.bind action rest world = _
  rw [EStateM.bind, failed]

/-- What an action returns is determined by the world. -/
theorem Returns.eq_of_ok {action : Action ε σ α} {world final : World σ} {value result : α}
    {machine : Machine} (returns : Returns action world value machine)
    (ended : action world = .ok result final) : result = value ∧ final.machine = machine := by
  obtain ⟨surroundings, done⟩ := returns
  rw [done] at ended
  cases ended
  exact ⟨rfl, rfl⟩

section Tracks

variable {kept : List Notice → Mode → Bool → σ → Prop}

/-- On a machine, whether it has been asked to stop or not, the action ends with a value and leaves a
machine, and after some more notices it can again be told of the surroundings what could be told
before. -/
def Announces (kept : List Notice → Mode → Bool → σ → Prop) (action : Action ε σ α)
    (machine : Machine) (value : α) (final : Machine) (notices : List Notice) : Prop :=
  ∀ heard asked surroundings, kept heard machine.mode asked surroundings →
    ∃ again others,
      action ⟨machine.withRequest asked, surroundings⟩ = .ok value ⟨final.withRequest again, others⟩ ∧
      kept (heard ++ notices) final.mode again others

/-- An action may start from any world: the machine as it is has got no further request. -/
theorem Announces.from_world {action : Action ε σ α} {world : World σ} {value : α} {final : Machine}
    {notices : List Notice}
    (announces : Announces kept action world.machine value final notices) (heard : List Notice)
    (keeps : kept heard world.machine.mode false world.surroundings) :
    ∃ again others, action world = .ok value ⟨final.withRequest again, others⟩ ∧
      kept (heard ++ notices) final.mode again others := by
  have started := announces heard false world.surroundings keeps
  rw [Machine.withRequest_false] at started
  exact started

theorem announces_pure (value : α) (machine : Machine) :
    Announces kept (pure value : Action ε σ α) machine value machine [] := by
  intro heard asked surroundings keeps
  rw [List.append_nil]
  exact ⟨asked, surroundings, rfl, keeps⟩

/-- What is read off the machine may depend on requests, but what follows must not. -/
theorem Announces.of_machine {rest : Machine → Action ε σ α} {before : Machine} {value : α}
    {final : Machine} {notices : List Notice}
    (follows : ∀ asked, Announces kept (rest (before.withRequest asked)) before value final notices) :
    Announces kept (machine >>= rest) before value final notices :=
  fun heard asked surroundings keeps => follows asked heard asked surroundings keeps

theorem announces_changeMachine {change : Machine → Machine} {machine : Machine}
    (commutes : ∀ asked, change (machine.withRequest asked) = (change machine).withRequest asked)
    (sameMode : (change machine).mode = machine.mode) :
    Announces kept (changeMachine change : Action ε σ Unit) machine () (change machine) [] := by
  intro heard asked surroundings keeps
  refine ⟨asked, surroundings, ?_, ?_⟩
  · rw [← commutes]
    rfl
  · rw [List.append_nil, sameMode]
    exact keeps

theorem Announces.bind {action : Action ε σ α} {rest : α → Action ε σ β} {machine between : Machine}
    {value : α} {final : Machine} {result : β} {notices more : List Notice}
    (first : Announces kept action machine value between notices)
    (second : Announces kept (rest value) between result final more) :
    Announces kept (action >>= rest) machine result final (notices ++ more) := by
  intro heard asked surroundings keeps
  obtain ⟨again, others, done, keeps⟩ := first heard asked surroundings keeps
  rw [bind_of_ok done, ← List.append_assoc]
  exact second _ _ _ keeps

theorem Announces.bind_of_silent {action : Action ε σ α} {rest : α → Action ε σ β}
    {machine between : Machine} {value : α} {final : Machine} {result : β} {notices : List Notice}
    (first : Announces kept action machine value between [])
    (second : Announces kept (rest value) between result final notices) :
    Announces kept (action >>= rest) machine result final notices :=
  first.bind second

theorem Announces.bind_of_one {action : Action ε σ α} {rest : α → Action ε σ β}
    {machine between : Machine} {value : α} {final : Machine} {result : β} {notice : Notice}
    {notices : List Notice} (first : Announces kept action machine value between [notice])
    (second : Announces kept (rest value) between result final notices) :
    Announces kept (action >>= rest) machine result final (notice :: notices) :=
  first.bind second

theorem Announces.bind_silent {action : Action ε σ α} {rest : α → Action ε σ β}
    {machine between : Machine} {value : α} {final : Machine} {result : β} {notices : List Notice}
    (first : Announces kept action machine value between notices)
    (second : Announces kept (rest value) between result final []) :
    Announces kept (action >>= rest) machine result final notices := by
  rw [← List.append_nil notices]
  exact first.bind second

variable {hear : Listener ε σ} (tracks : hear.Tracks kept)
include tracks

theorem announces_hear (notice : Notice) (machine : Machine) :
    Announces kept (hear notice) machine () machine [notice] :=
  fun _ _ _ keeps => tracks.hears notice keeps

/-- A change is announced once. -/
theorem announces_change {change : Machine → Machine} (notice : Notice) {machine : Machine}
    (commutes : ∀ asked, change (machine.withRequest asked) = (change machine).withRequest asked)
    (sameMode : (change machine).mode = machine.mode) :
    Announces kept (do changeMachine change; hear notice) machine () (change machine) [notice] :=
  (announces_changeMachine commutes sameMode).bind_of_silent (announces_hear tracks notice _)

/-- Of the modes, what can be told must be true in both. -/
theorem announces_setMode (mode : Mode) (machine : Machine)
    (holds : ∀ {heard asked surroundings},
      kept heard machine.mode asked surroundings → kept heard mode asked surroundings) :
    Announces kept (setMode hear mode) machine () { machine with mode }
      (machine.modeNotices mode) := by
  refine .of_machine fun asked => ?_
  change Announces kept (if machine.mode ≠ mode then _ else _) _ _ _ _
  by_cases same : machine.mode = mode
  · subst same
    simp only [Machine.modeNotices, ne_eq, not_true_eq_false, if_false, if_true]
    exact announces_pure _ _
  · simp only [Machine.modeNotices, ne_eq, if_pos same, if_neg same]
    intro heard asked surroundings keeps
    exact announces_hear tracks (.modeChanged mode) { machine with mode } heard asked surroundings
      (holds keeps)

theorem announces_output (address value : Byte) (machine : Machine) :
    Announces kept (do if address = (← Action.machine).outputAddress then hear (.output value))
      machine () machine (if address = machine.outputAddress then [.output value] else []) := by
  refine .of_machine fun asked => ?_
  change Announces kept (if address = machine.outputAddress then _ else _) _ _ _ _
  by_cases printed : address = machine.outputAddress
  · simp only [if_pos printed]
    exact announces_hear tracks _ _
  · simp only [if_neg printed]
    exact announces_pure _ _

theorem announces_store (address value : Byte) (machine : Machine) :
    Announces kept (store hear address value) machine () (machine.apply (.store address value))
      (machine.storeNotices address value) := by
  apply Announces.bind_of_one
    (announces_change tracks (.memoryChanged address value) (fun _ => rfl) rfl)
  refine .of_machine fun asked => ?_
  change Announces kept (if machine.mode = .running then _ else _) _ _ _ _
  by_cases running : machine.mode = .running
  · simp only [Machine.apply, if_pos running]
    apply Announces.bind_of_silent (announces_changeMachine
      (Machine.noteWrite_withRequest _ address.toNat value.toNat) rfl)
    exact announces_output tracks address value _
  · simp only [Machine.apply, if_neg running]
    exact announces_output tracks address value _

theorem announces_perform (effect : Effect) (machine : Machine) :
    Announces kept (perform hear effect) machine () (machine.apply effect)
      (machine.notices effect) := by
  cases effect with
  | nothing => exact announces_pure () machine
  | setRegister register value => exact announces_change tracks _ (fun _ => rfl) rfl
  | store address value => exact announces_store tracks address value machine
  | jump target => exact announces_change tracks _ (fun _ => rfl) rfl
  | halt => exact announces_setMode tracks .idle machine tracks.rests

/-- A step is the function of machines, and its notices are determined by the machine. -/
theorem announces_step (machine : Machine) :
    Announces kept (step hear) machine machine.fetched machine.next machine.stepNotices := by
  refine .of_machine fun asked => ?_
  apply Announces.bind_of_one
    (announces_change tracks (.instructionChanged machine.fetched) (fun _ => rfl) rfl)
  refine .of_machine fun asked => ?_
  apply Announces.bind_of_one
    (announces_change tracks (.counterChanged (machine.counter + 2)) (fun _ => rfl) rfl)
  refine .of_machine fun asked => ?_
  change Announces kept (perform hear (machine.effect machine.fetched) >>= _) machine.fetch _ _
    (machine.fetch.notices (machine.effect machine.fetched))
  apply (announces_perform tracks _ _).bind_silent
  change Announces kept _ machine.next _ _ _
  rw [← machine.instruction_next]
  exact .of_machine fun asked => announces_pure _ _

/-- Repeated steps are the iterates of the function. -/
theorem announces_stepTimes (steps : Nat) (machine : Machine) :
    Announces kept (stepTimes hear steps) machine
      ((List.range steps).map fun earlier => (machine.after earlier).fetched) (machine.after steps)
      ((List.range steps).flatMap fun earlier => (machine.after earlier).stepNotices) := by
  induction steps generalizing machine with
  | zero => exact announces_pure _ _
  | succ steps induction =>
      rw [Machine.map_range_succ, Machine.flatMap_range_succ, ← Machine.after_next]
      apply (announces_step tracks machine).bind
      exact (induction _).bind_silent (announces_pure _ _)

end Tracks

section Passive

variable {hear : Listener ε σ}

/-- An action that makes no request itself makes none in passive surroundings. -/
theorem Announces.returns {action : Action ε σ α} {world : World σ} {value : α} {final : Machine}
    {notices : List Notice}
    (announces : Announces (fun _ _ asked _ => asked = false) action world.machine value final
      notices) :
    Returns action world value final := by
  obtain ⟨asked, others, done, rfl⟩ := announces.from_world [] rfl
  rw [Machine.withRequest_false] at done
  exact ⟨others, done⟩

theorem returns_setMode (passive : hear.Passive) (mode : Mode) (world : World σ) :
    Returns (setMode hear mode) world () { world.machine with mode } :=
  (announces_setMode passive.tracks mode world.machine id).returns

theorem returns_step (passive : hear.Passive) (world : World σ) :
    Returns (step hear) world world.machine.fetched world.machine.next :=
  (announces_step passive.tracks world.machine).returns

theorem returns_stepTimes (passive : hear.Passive) (steps : Nat) (world : World σ) :
    Returns (stepTimes hear steps) world
      ((List.range steps).map fun earlier => (world.machine.after earlier).fetched)
      (world.machine.after steps) :=
  (announces_stepTimes passive.tracks steps world.machine).returns

end Passive
end Action
end ByteMachine
