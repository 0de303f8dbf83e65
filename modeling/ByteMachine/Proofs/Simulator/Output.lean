import ByteMachine.Proofs.Machine.NoticeStream
import ByteMachine.Proofs.Simulator.Loading
import ByteMachine.Session.Perform
import Mathlib.Data.List.Basic

/-!
# What a simulator prints

While its listeners leave a simulator alone, its output consists of the values that instructions have
stored at the output address, one character each, in the order of execution and since the output was
cleared the last time.  What a command executes is told by the machine before it and the number of
steps; everything else that writes to memory announces no output.
-/

namespace ByteMachine

/-! ## Stores at the output address -/

namespace Machine

/-- The value that the next word stores at a port, if that is what it does. -/
def portStore? (machine : Machine) (port : Byte) : Option Byte :=
  match machine.nextStore? with
  | some (address, value) => if address = port then some value else none
  | none => none

/-- The values that a number of steps store at a port, in this order. -/
def portStores (machine : Machine) (port : Byte) (steps : Nat) : List Byte :=
  (List.range steps).filterMap fun earlier => (machine.after earlier).portStore? port

theorem Alike.portStores {left right : Machine} (alike : left.Alike right) (port : Byte)
    (steps : Nat) : left.portStores port steps = right.portStores port steps := by
  rw [Machine.portStores, Machine.portStores]
  congr 1
  funext earlier
  rw [portStore?, portStore?, (alike.after earlier).nextStore?]

theorem portStore?_eq_none {machine : Machine} {port : Byte}
    (noStore : ∀ address value, machine.effect machine.fetched ≠ .store address value) :
    machine.portStore? port = none := by
  rw [portStore?, nextStore?_eq_none noStore]

/-- A step prints what it stores at the output address. -/
theorem printed_stepNotices (machine : Machine) :
    machine.stepNotices.filterMap Notice.printed? =
      (machine.portStore? machine.outputAddress).toList := by
  rw [stepNotices]
  cases effect : machine.effect machine.fetched with
  | store address value =>
      rw [portStore?, nextStore?_eq_some_iff.mpr effect]
      by_cases printed : address = machine.outputAddress
      · simp only [notices, storeNotices, if_pos printed]
        rfl
      · simp only [notices, storeNotices, if_neg printed]
        rfl
  | halt =>
      rw [portStore?_eq_none (by simp [effect]), notices, modeNotices]
      split <;> simp [Notice.printed?]
  | nothing | setRegister | jump =>
      rw [portStore?_eq_none (by simp [effect])]
      simp [notices, Notice.printed?]

theorem printed_modeNotices (machine : Machine) (mode : Mode) :
    (machine.modeNotices mode).filterMap Notice.printed? = [] := by
  rw [modeNotices]
  split <;> rfl

theorem printed_announcements (machine : Machine) :
    machine.announcements.filterMap Notice.printed? =
      (machine.portStore? machine.outputAddress).toList := by
  rw [← printed_stepNotices, stepNotices_eq, List.filterMap_append]
  split <;> simp [printed_modeNotices]

/-- When each step prints what it stores at the output address, a number of steps do. -/
theorem printed_flatMap {noticesOf : Machine → List Notice}
    (each : ∀ machine, (noticesOf machine).filterMap Notice.printed? =
      (machine.portStore? machine.outputAddress).toList) (machine : Machine) (steps : Nat) :
    ((List.range steps).flatMap fun earlier => noticesOf (machine.after earlier)).filterMap
        Notice.printed? =
      machine.portStores machine.outputAddress steps := by
  rw [portStores, List.filterMap_flatMap, List.filterMap_eq_flatMap_toList]
  simp only [each, outputAddress_after]

theorem printed_stream (machine : Machine) (steps : Nat) :
    (machine.stream steps).filterMap Notice.printed? =
      machine.portStores machine.outputAddress steps :=
  printed_flatMap printed_announcements machine steps

end Machine

namespace Simulator

open ByteMachine.Action

variable {σ : Type} {hear : Hearer σ} {calm : σ → Prop}

/-! ## Execution -/

/-- A number of steps have led from a world to another one, in which what they printed is added to the
output. -/
structure Executes (world : World (Simulator σ)) (steps : Nat) (final : World (Simulator σ)) :
    Prop where
  /-- The machine is where the steps lead. -/
  alike : final.machine.Alike (world.machine.after steps)
  /-- It prints where it did. -/
  outputs : final.machine.outputAddress = world.machine.outputAddress
  /-- What the steps store at the output address is printed. -/
  printed : final.surroundings.output = world.surroundings.output ++
    (world.machine.portStores world.machine.outputAddress steps).map character

/-- The activity returns and leaves on record how much it has executed, or it takes longer than is
waited for. -/
def Runs {α : Type} (activity : Activity σ α) (world : World (Simulator σ)) : Prop :=
  (∃ value stop final, activity world = .ok value final ∧
    final.machine.control.last = some stop ∧ Executes world stop.steps.toNat final) ∨
  ∃ final, activity world = .error .unfinished final

section Executes

variable (spectates : hear.Spectates calm True) {world : World (Simulator σ)}
  (isCalm : calm world.surroundings.host)
include spectates isCalm

theorem runs_run (patience : Nat) (limit : Option Int) :
    Runs (Action.run (collecting hear) patience limit) world := by
  have tracks := tracks_collecting_asking spectates world.surroundings.output
  rcases run_streamed tracks patience limit (spectated_self True isCalm) with
    ⟨steps, stop, final, ended, count, alike, outputs, recorded, spectated⟩ | ⟨-, unfinished⟩
  · refine .inl ⟨stop, stop, final, ended, recorded, ?_⟩
    rw [count, Int.toNat_natCast]
    refine ⟨alike, outputs, ?_⟩
    rw [spectated.output, List.nil_append, List.filterMap_append, List.filterMap_append,
      Machine.printed_modeNotices, Machine.printed_stream, List.nil_append]
    congr 2
    exact List.append_nil _
  · exact .inr unfinished

end Executes

/-! ## What prints nothing -/

/-- Nothing was printed between two worlds. -/
structure Quiet (calm : σ → Prop) (world final : World (Simulator σ)) : Prop where
  /-- The machine prints where it did. -/
  outputs : final.machine.outputAddress = world.machine.outputAddress
  /-- The output is the same. -/
  output : final.surroundings.output = world.surroundings.output
  /-- The surroundings are calm. -/
  isCalm : calm final.surroundings.host

theorem Quiet.trans {world between final : World (Simulator σ)} (first : Quiet calm world between)
    (second : Quiet calm between final) : Quiet calm world final :=
  ⟨second.outputs.trans first.outputs, second.output.trans first.output, second.isCalm⟩

section Quiet

variable (spectates : hear.Spectates calm True) {world : World (Simulator σ)}
  (isCalm : calm world.surroundings.host)
include spectates isCalm

end Quiet
end Simulator

/-! ## Histories of a session -/

/-- The number of words that a command has executed, which a run leaves on record in the machine; other
commands execute nothing. -/
def Command.executed? (after : Machine) : Command → Option Nat
  | .step | .stepOnce => some 1
  | .steps times => some times
  | .run _ | .runUntil .. | .runWithin _ => after.control.last.map fun stop => stop.steps.toNat
  | _ => none

/-- Whether a command clears the output. -/
def Command.clearsOutput : Command → Bool
  | .reset | .clearOutput => true
  | _ => false

/-- A command that was performed, with the machine before and after it. -/
structure Deed where
  /-- The command. -/
  command : Command
  /-- The machine before. -/
  before : Machine
  /-- The machine after. -/
  after : Machine

namespace Deed

/-- The number of words that were executed, if that is what the command does. -/
def executed? (deed : Deed) : Option Nat :=
  deed.command.executed? deed.after

/-- The output after a deed: a command that executes adds a character for each store at the port. -/
def printed (port : Byte) (text : Text) (deed : Deed) : Text :=
  match deed.executed? with
  | some steps => text ++ (deed.before.portStores port steps).map Simulator.character
  | none => if deed.command.clearsOutput then [] else text

end Deed

namespace Session

open ByteMachine.Action Simulator

/-- The deeds that have led from a world to another one.  Every command was completed, and the
surroundings were calm when it was given. -/
inductive History (hear : Hearer Registry) (calm : Registry → Prop) (patience : Nat)
    (start : World (Simulator Registry)) : List Deed → World (Simulator Registry) → Prop
  | start : History hear calm patience start [] start
  | next {deeds : List Deed} {world final : World (Simulator Registry)} (command : Command)
      (earlier : History hear calm patience start deeds world)
      (isCalm : calm world.surroundings.host)
      (completes : Completes (perform hear patience command) world final) :
      History hear calm patience start (deeds ++ [⟨command, world.machine, final.machine⟩]) final

/-- The output after a deed is what the deed makes of the output before it, and the machine is where
the executed words lead. -/
structure Accounts (command : Command) (world final : World (Simulator Registry)) : Prop where
  /-- The machine prints where it did. -/
  outputs : final.machine.outputAddress = world.machine.outputAddress
  /-- The output is that after the deed. -/
  printed : final.surroundings.output =
    Deed.printed world.machine.outputAddress world.surroundings.output
      ⟨command, world.machine, final.machine⟩
  /-- The words that count as executed lead to the machine. -/
  executed : ∀ steps, command.executed? final.machine = some steps →
    final.machine.Alike (world.machine.after steps)

section Accounts

variable {command : Command} {world final : World (Simulator Registry)}

theorem Accounts.of_executes {steps : Nat} (count : command.executed? final.machine = some steps)
    (executes : Executes world steps final) : Accounts command world final where
  outputs := executes.outputs
  printed := by
    rw [executes.printed, Deed.printed, Deed.executed?, count]
  executed others same := by
    rw [count] at same
    cases same
    exact executes.alike

variable {hear : Hearer Registry} {calm : Registry → Prop} {patience : Nat}

/-- A command that runs the machine. -/
theorem Accounts.of_run {α : Type} {activity : Activity α} {answer : α → Answer}
    (completes : Completes (perform hear patience command) world final)
    (performs : perform hear patience command = activity >>= fun value => pure (answer value))
    (counts : ∀ machine, command.executed? machine =
      machine.control.last.map fun stop => stop.steps.toNat)
    (runs : Runs activity world) : Accounts command world final := by
  rw [performs] at completes
  rcases runs with ⟨value, stop, between, ended, recorded, executes⟩ | ⟨between, unfinished⟩
  · obtain rfl := completes.eq_of_ok (bind_of_ok ended)
    exact .of_executes (by rw [counts, recorded]; rfl) executes
  · exact absurd completes (not_completes_of_unfinished (bind_of_error _ unfinished))

end Accounts

/-- The listeners of a session are recorders. -/
def OnlyRecorders (registry : Registry) : Prop :=
  ∀ entry ∈ registry.subscribers, entry.2 = .recorder

instance : DecidablePred OnlyRecorders :=
  fun registry => inferInstanceAs (Decidable (∀ entry ∈ registry.subscribers, entry.2 = .recorder))

/-- Recorders write down what they hear and do nothing else. -/
theorem spectates_publish (obey : Command → Activity Answer) {mayAsk : Prop} :
    (publish obey).Spectates OnlyRecorders mayAsk := by
  intro notice world recorders
  have record (listeners : List Subscriber) (all : ∀ listener ∈ listeners, listener = .recorder)
      (world : World (Simulator Registry)) : ∃ host,
        listeners.forM (call obey notice) world =
          .ok () ⟨world.machine, { world.surroundings with host }⟩ ∧
        host.subscribers = world.surroundings.host.subscribers := by
    induction listeners generalizing world with
    | nil => exact ⟨_, rfl, rfl⟩
    | cons listener rest induction =>
        rw [List.forall_mem_cons] at all
        obtain ⟨rfl, others⟩ := all
        obtain ⟨host, recorded, same⟩ := induction others ⟨world.machine, { world.surroundings with
          host := world.surroundings.host.note (.heard notice) }⟩
        exact ⟨host, recorded, same⟩
  have all : ∀ listener ∈ world.surroundings.host.subscribersOf notice.topic,
      listener = .recorder := by
    intro listener member
    obtain ⟨entry, subscribed, heard⟩ := List.mem_filterMap.mp member
    split at heard
    next => exact (Option.some.inj heard).symm.trans (recorders entry subscribed)
    next => cases heard
  obtain ⟨host, recorded, same⟩ := record _ all world
  refine ⟨0, host, recorded, ?_, fun asks => absurd asks (Nat.lt_irrefl 0)⟩
  rw [OnlyRecorders, same]
  exact recorders

end Session
end ByteMachine
