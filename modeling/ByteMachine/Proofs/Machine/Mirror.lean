import ByteMachine.Proofs.Machine.Maintaining

/-!
# A mirror of the machine

A mirror starts as a snapshot of the machine and from then on only heeds notices, each before any
other callback hears of it.  The other callbacks may do anything with the machine that can be done with
it, and what they do is heard in the same way.  Every operation makes a change before it announces it,
and announces what it has made, so that the mirror shows the machine whenever an operation ends, also
when it is broken off.
-/

namespace ByteMachine

/-- The snapshot after a notice was heeded. -/
def Snapshot.heed (snapshot : Snapshot) : Notice → Snapshot
  | .registerChanged register value =>
      { snapshot with registers := snapshot.registers.write register value }
  | .memoryChanged address value =>
      { snapshot with memory := snapshot.memory.write address value }
  | .counterChanged counter => { snapshot with counter }
  | .instructionChanged word => { snapshot with instruction := word }
  | .modeChanged mode => { snapshot with mode }
  | .output _ => snapshot

/-- What is kept by a mirror and by the other callbacks. -/
structure Mirrored (σ : Type) where
  /-- What the mirror shows. -/
  mirror : Snapshot
  /-- What the other callbacks keep. -/
  others : σ

/-- The mirror heeds a notice, and then the other callbacks are called. -/
def Listener.mirrored {ε σ : Type} (others : Listener ε (Mirrored σ)) : Listener ε (Mirrored σ) :=
  fun notice => do
    Action.changeSurroundings fun kept => { kept with mirror := kept.mirror.heed notice }
    others notice

namespace Action

variable {ε σ α : Type}

/-- What is done with a machine through its operations alone, which the given listener hears.  In
between it may look at everything, keep what it likes, fail, and go on after a failure. -/
inductive Operates (hear : Listener ε (Mirrored σ)) : {α : Type} → Action ε (Mirrored σ) α → Prop
  | done {α : Type} (value : α) : Operates hear (pure value)
  | andThen {α β : Type} {action : Action ε (Mirrored σ) α} {rest : α → Action ε (Mirrored σ) β}
      (first : Operates hear action) (second : ∀ value, Operates hear (rest value)) :
      Operates hear (action >>= rest)
  | raise {α : Type} (failure : Interruption ε) :
      Operates hear (throw failure : Action ε (Mirrored σ) α)
  | handle {α : Type} {action : Action ε (Mirrored σ) α}
      {handler : Interruption ε → Action ε (Mirrored σ) α} (first : Operates hear action)
      (second : ∀ failure, Operates hear (handler failure)) :
      Operates hear (tryCatch action handler)
  | look : Operates hear get
  | keep (change : σ → σ) :
      Operates hear (changeSurroundings fun kept => { kept with others := change kept.others })
  | changeControl (change : StopControl → StopControl) : Operates hear (changeControl change)
  | setOutputAddress (outputAddress : Byte) :
      Operates hear (changeMachine fun machine => { machine with outputAddress })
  | setRegister (register : Nibble) (value : Byte) : Operates hear (setRegister hear register value)
  | setMemory (address value : Byte) : Operates hear (setMemory hear address value)
  | setCounter (counter : Byte) : Operates hear (setCounter hear counter)
  | setInstruction (word : Word) : Operates hear (setInstruction hear word)
  /-- Among these is clearing the registers. -/
  | writeRegisters (changes : List (Store.Write 4)) : Operates hear (writeRegisters hear changes)
  /-- Among these are clearing memory and loading bytes and words. -/
  | writeMemory (changes : List (Store.Write 8)) : Operates hear (writeMemory hear changes)
  | step : Operates hear (step hear)
  | run (patience : Nat) (limit : Option Int) : Operates hear (run hear patience limit)
  | runUntil (patience : Nat) (address : Int) (limit : Option Int) :
      Operates hear (runUntil hear patience address limit)

end Action

/-- Callbacks that touch the machine through its operations alone, whoever hears these. -/
structure Callbacks (ε σ : Type) where
  /-- What they do at a notice, given what hears the operations that they use. -/
  respond : Listener ε (Mirrored σ) → Listener ε (Mirrored σ)
  /-- They use operations alone. -/
  operates : ∀ hear notice, Action.Operates hear (respond hear notice)

/-- A mirror that comes before callbacks whose operations are heard in the same way, at most so many
deep in one another. -/
def Callbacks.mirrored {ε σ : Type} (callbacks : Callbacks ε σ) : Nat → Listener ε (Mirrored σ)
  | 0 => Listener.mirrored fun _ => throw .unfinished
  | depth + 1 => Listener.mirrored (callbacks.respond (callbacks.mirrored depth))

namespace Action

variable {ε σ α : Type}

/-- The mirror shows the machine. -/
def InSync (world : World (Mirrored σ)) : Prop :=
  world.surroundings.mirror = world.machine.snapshot

/-- A listener ends with the mirror showing the machine when all that the mirror lacked was the
notice. -/
def Restores (hear : Listener ε (Mirrored σ)) : Prop :=
  ∀ notice world, world.surroundings.mirror.heed notice = world.machine.snapshot →
    InSync ((hear notice).ended world)

section Restores

variable {hear : Listener ε (Mirrored σ)}

/-- A change that is announced as it was made leaves the mirror showing the machine. -/
theorem Restores.preserves_announced (restores : Restores hear) (change : Machine → Machine)
    (notice : Notice) (agrees : ∀ machine, machine.snapshot.heed notice = (change machine).snapshot) :
    Preserves InSync (do changeMachine change; hear notice) := by
  intro world inSync
  rw [ended_bind_of_ok (changeMachine change) _ rfl]
  apply restores
  change world.surroundings.mirror.heed notice = (change world.machine).snapshot
  rw [show world.surroundings.mirror = world.machine.snapshot from inSync]
  exact agrees world.machine

theorem Restores.maintains (restores : Restores hear) : hear.Maintains InSync where
  setRegister _ _ := restores.preserves_announced _ _ fun _ => rfl
  setMemory _ _ := restores.preserves_announced _ _ fun _ => rfl
  setCounter _ := restores.preserves_announced _ _ fun _ => rfl
  setInstruction _ := restores.preserves_announced _ _ fun _ => rfl
  changeMode _ := restores.preserves_announced _ _ fun _ => rfl
  output value world inSync := restores (.output value) world inSync
  changeControl _ _ inSync := inSync

/-- Whatever is done through operations alone, when it ends the mirror shows the machine. -/
theorem Operates.preserves (restores : Restores hear) {action : Action ε (Mirrored σ) α}
    (operates : Operates hear action) : Preserves InSync action := by
  have maintains := restores.maintains
  induction operates with
  | done value => exact preserves_pure value
  | andThen _ _ first second => exact first.bind second
  | raise failure => exact preserves_throw failure
  | handle _ _ first second => exact first.tryCatch second
  | look => exact preserves_get
  | keep change => exact fun _ inSync => inSync
  | changeControl change => exact maintains.changeControl change
  | setOutputAddress address => exact fun _ inSync => inSync
  | setRegister register value => exact maintains.setRegister register value
  | setMemory address value => exact maintains.setMemory address value
  | setCounter counter => exact maintains.setCounter counter
  | setInstruction word => exact maintains.setInstruction word
  | writeRegisters changes => exact maintains.writeRegisters changes
  | writeMemory changes => exact maintains.writeMemory changes
  | step => exact maintains.step
  | run patience limit => exact maintains.run patience limit
  | runUntil patience address limit => exact maintains.runUntil patience address limit

end Restores

theorem restores_mirrored {others : Listener ε (Mirrored σ)}
    (preserves : ∀ notice, Preserves InSync (others notice)) :
    Restores (Listener.mirrored others) := by
  intro notice world lacking
  rw [Listener.mirrored, ended_bind_of_ok (changeSurroundings _) _ rfl]
  exact preserves notice _ lacking

/-- However deep callbacks are nested, the mirror comes to show the machine: what they do starts from
a mirror that has heeded the notice, and its own notices are heard less deep. -/
theorem restores_callbacks (callbacks : Callbacks ε σ) (depth : Nat) :
    Restores (callbacks.mirrored depth) := by
  induction depth with
  | zero => exact restores_mirrored fun _ => preserves_throw _
  | succ depth induction =>
      exact restores_mirrored fun notice =>
        (callbacks.operates _ notice).preserves induction

/-- A mirror that starts as a snapshot and heeds every notice first shows the machine after any
sequence of operations, whether they return or fail and whatever the other callbacks do. -/
theorem mirror_eq_snapshot (callbacks : Callbacks ε σ) (depth : Nat) (start : Machine) (others : σ)
    {operations : List (Action ε (Mirrored σ) Unit)}
    (operate : ∀ operation ∈ operations, Operates (callbacks.mirrored depth) operation) :
    let final := endedAll operations ⟨start, ⟨start.snapshot, others⟩⟩
    final.surroundings.mirror = final.machine.snapshot := by
  have restores := restores_callbacks callbacks depth
  have preserve : ∀ operation ∈ operations, Preserves InSync operation :=
    fun operation member => (operate operation member).preserves restores
  exact endedAll_preserves InSync preserve rfl

theorem operates_requestStop (hear : Listener ε (Mirrored σ)) : Operates hear requestStop := by
  refine .andThen (.andThen .look fun _ => .done _) fun before => ?_
  split
  next => exact .changeControl _
  next => exact .done _

end Action

/-- Copies a register that has changed to memory, and asks for a stop and fails when memory has
changed. -/
def Callbacks.copying : Callbacks Unit Unit where
  respond hear
    | .registerChanged _ value => Action.setMemory hear 0x80 value
    | .memoryChanged .. => do
        Action.requestStop
        Action.fail ()
    | _ => pure ()
  operates hear notice := by
    cases notice with
    | registerChanged register value => exact .setMemory 0x80 value
    | memoryChanged address value =>
        exact .andThen (Action.operates_requestStop hear) fun _ => .raise _
    | _ => exact .done ()

namespace Action

/-- A run is broken off by a failure in a callback of an operation in a callback, and then memory is
cleared, which is broken off as well. -/
theorem mirror_eq_snapshot_after_failure :
    let start : Machine :=
      { Machine.fresh Machine.defaultOutput with
        memory := (Store.zero 8).applyAll (Store.loading 0 [0x21, 0x07]) }
    let hear := Callbacks.copying.mirrored 2
    let final := endedAll [run hear 0 (some 5) >>= fun _ => pure (), clearMemory hear]
      ⟨start, ⟨start.snapshot, ()⟩⟩
    final.surroundings.mirror = final.machine.snapshot ∧
      final.machine.memory.read 0 = 0 ∧ final.machine.memory.read 1 = 7 ∧
      final.machine.memory.read 0x80 = 7 ∧ final.machine.counter = 2 := by
  refine ⟨mirror_eq_snapshot .copying 2 _ () ?_, rfl, rfl, rfl, rfl⟩
  intro operation member
  rw [List.mem_cons, List.mem_singleton] at member
  rcases member with rfl | rfl
  · exact .andThen (.run 0 (some 5)) fun _ => .done ()
  · exact .writeMemory _

end Action
end ByteMachine
