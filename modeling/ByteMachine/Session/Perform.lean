import ByteMachine.Session.Registry

/-!
# Performing commands

A notice calls the listeners that were subscribed to its topic when it was made.  A reaction
performs its command in the same way as the session does, so that reactions may cause notices to
which there are reactions in turn; how deeply they may be nested is bounded.
-/

namespace ByteMachine
namespace Session

open ByteMachine.Action

/-- What can be done in a session. -/
abbrev Activity (α : Type) := Simulator.Activity Registry α

/-- Adds a line to the record. -/
def note (entry : Entry) : Activity Unit :=
  Simulator.Activity.changeHost fun registry => registry.note entry

/-- Calls a listener. -/
def call (obey : Command → Activity Answer) (notice : Notice) : Subscriber → Activity Unit
  | .recorder => note (.heard notice)
  | .reaction number => do
      let (command, registry) := (← Simulator.Activity.host).countCall number
      Simulator.Activity.changeHost fun _ => registry
      match command with
      | none => return
      | some command => note (.reacted (← obey command))

/-- Calls the listeners of a notice. -/
def publish (obey : Command → Activity Answer) : Simulator.Hearer Registry := fun notice => do
  let subscribers := (← Simulator.Activity.host).subscribersOf notice.topic
  subscribers.forM (call obey notice)

/-- Does something that has no answer. -/
def quietly (activity : Activity Unit) : Activity Answer := do
  activity
  return .done

/-- Performs a command whose notices are heard. -/
def perform (hear : Simulator.Hearer Registry) (patience : Nat) : Command → Activity Answer
  | .subscribe topics =>
      quietly (Simulator.Activity.changeHost fun registry =>
        topics.foldl Registry.subscribe registry)
  | .unsubscribe topics =>
      quietly (Simulator.Activity.changeHost fun registry =>
        topics.foldl Registry.unsubscribe registry)
  | .hook topic react =>
      quietly (Simulator.Activity.changeHost fun registry => registry.hook topic react)
  | .raise message => fail (.raised message)
  | .loadSource source =>
      match Program.assemble inputName source with
      | .ok program => quietly (loadWords hear program.words)
      | .error fault => fail (.refused fault)
  | .loadWords words => quietly (loadWords hear words)
  | .loadBytes address data => quietly (loadBytes hear address data)
  | .setCounter counter => quietly (setCounter hear (.ofInt 8 counter))
  | .setInstruction word => quietly (setInstruction hear word)
  | .resetCounter => quietly (resetCounter hear)
  | .clearMemory => quietly (clearMemory hear)
  | .clearRegisters => quietly (clearRegisters hear)
  | .readRegister register => return .byte ((← machine).registers.readAt register)
  | .writeRegister register value => quietly (writeRegisters hear [.ofNumbers register value])
  | .readMemory address => return .byte ((← machine).memory.readAt address)
  | .writeMemory address value => quietly (writeMemory hear [.ofNumbers address value])
  | .step => return .word (← Action.step hear)
  | .steps times => return .words (← stepTimes hear times)
  | .run limit => return .stop (← Action.run hear patience limit)
  | .runUntil address limit => return .flag (← Action.runUntil hear patience address limit)
  | .requestStop => quietly requestStop
  | .isRunning => return .flag ((← machine).mode = .running)
  | .snapshot => return .snapshot (← machine).snapshot
  | .control command => do
      let (answer, control) := (← machine).control.obey command
      changeControl fun _ => control
      return .control answer
  | .load file source => return .words (← Simulator.assembleAndLoad hear file source)
  | .stepOnce => return .stop (← Simulator.step hear)
  | .runWithin limit => return .stop (← Simulator.run hear limit)
  | .reset => quietly (Simulator.reset hear)
  | .clearOutput => quietly Simulator.clearOutput
  | .symbols => return .symbols (← surroundings).assembler.symbols

/-- Performs a command and the reactions to it.  A run that has no limit of its own may take
`patience` steps, and reactions may be nested `depth` deep. -/
def obey (patience : Nat) : Nat → Command → Activity Answer
  | 0, _ => throw .unfinished
  | depth + 1, command =>
      perform (Simulator.collecting (publish (obey patience depth))) patience command

end Session

/-- A simulator in use: the world of its machine. -/
structure Session where
  /-- The machine and the simulator. -/
  world : World (Simulator Registry)

namespace Session

/-- A session with a new simulator. -/
def start (settings : Settings) : Session :=
  ⟨Simulator.world settings Registry.empty⟩

/-- The simulator's state besides its machine. -/
def simulator (session : Session) : Simulator Registry :=
  session.world.surroundings

/-- What was recorded during the last command. -/
def entries (session : Session) : List Entry :=
  session.simulator.host.entries.toList

/-- How many steps a run without a limit may take. -/
def patience : Nat :=
  1000000000

/-- How deeply reactions may be nested. -/
def depth : Nat :=
  1000

/-- The answer to a command, and the session after it, in which the record is that of this command
alone. -/
def next (session : Session) (command : Command) :
    Except (Interruption Failure) Answer × Session :=
  let action : Activity Answer := do
    Simulator.Activity.changeHost Registry.forget
    obey patience depth command
  match EStateM.run action session.world with
  | .ok answer world => (.ok answer, ⟨world⟩)
  | .error interruption world => (.error interruption, ⟨world⟩)

end Session
end ByteMachine
