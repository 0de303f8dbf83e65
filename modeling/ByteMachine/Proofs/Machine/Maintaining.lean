import ByteMachine.Proofs.Machine.Ending

/-!
# What every change maintains

The operations on a machine are made of single changes, each of them announced after it was made.  A
property of worlds that is maintained by each change together with its notice still holds when an
operation ends, also when the operation is broken off by a listener that fails.
-/

namespace ByteMachine

open ByteMachine.Action

/-- Every single change of the machine, together with its notice, preserves the property of worlds,
and so does what is changed without a notice. -/
structure Listener.Maintains {ε σ : Type} (hear : Listener ε σ) (property : World σ → Prop) :
    Prop where
  /-- A register gets a value. -/
  setRegister : ∀ register value, Preserves property (setRegister hear register value)
  /-- A memory cell gets a value. -/
  setMemory : ∀ address value, Preserves property (setMemory hear address value)
  /-- The program counter gets a value. -/
  setCounter : ∀ counter, Preserves property (setCounter hear counter)
  /-- The instruction register gets a word. -/
  setInstruction : ∀ word, Preserves property (setInstruction hear word)
  /-- The mode is another one. -/
  changeMode : ∀ mode, Preserves property (do
    changeMachine fun machine => { machine with mode }
    hear (.modeChanged mode))
  /-- A character is printed. -/
  output : ∀ value, Preserves property (hear (.output value))
  /-- What stops a run changes. -/
  changeControl : ∀ change, Preserves property (changeControl change : Action ε σ Unit)

namespace Listener.Maintains

variable {ε σ : Type} {hear : Listener ε σ} {property : World σ → Prop}

theorem setMode (maintains : hear.Maintains property) (mode : Mode) :
    Preserves property (Action.setMode hear mode) := by
  refine preserves_machine.bind fun before => ?_
  split
  next => exact maintains.changeMode mode
  next => exact preserves_pure _

theorem store (maintains : hear.Maintains property) (address value : Byte) :
    Preserves property (Action.store hear address value) := by
  have printed : Preserves property
      (do if address = (← machine).outputAddress then hear (.output value)) := by
    refine preserves_machine.bind fun before => ?_
    split
    next => exact maintains.output value
    next => exact preserves_pure _
  refine (maintains.setMemory address value).bind fun _ => ?_
  refine preserves_machine.bind fun before => ?_
  by_cases running : before.mode = .running
  · simp only [if_pos running]
    exact (maintains.changeControl _).bind fun _ => printed
  · simp only [if_neg running]
    exact printed

theorem perform (maintains : hear.Maintains property) (effect : Effect) :
    Preserves property (Action.perform hear effect) := by
  cases effect with
  | nothing => exact preserves_pure ()
  | setRegister register value => exact maintains.setRegister register value
  | store address value => exact maintains.store address value
  | jump target => exact maintains.setCounter target
  | halt => exact maintains.setMode .idle

theorem step (maintains : hear.Maintains property) : Preserves property (Action.step hear) := by
  refine preserves_machine.bind fun before => ?_
  refine (maintains.setInstruction _).bind fun _ => ?_
  refine preserves_machine.bind fun fetched => ?_
  refine (maintains.setCounter _).bind fun _ => ?_
  refine preserves_machine.bind fun ready => ?_
  refine (maintains.perform _).bind fun _ => ?_
  exact preserves_machine.bind fun _ => preserves_pure _

theorem stepTimes (maintains : hear.Maintains property) (times : Nat) :
    Preserves property (Action.stepTimes hear times) := by
  induction times with
  | zero => exact preserves_pure _
  | succ times induction =>
      exact maintains.step.bind fun _ => induction.bind fun _ => preserves_pure _

theorem takeStopAfter (maintains : hear.Maintains property) (limit : Option Int) (steps : Nat) :
    Preserves property (Action.takeStopAfter limit steps : Action ε σ (Option Stop)) := by
  have takes (address : Int) (breakpoints : Bool) :
      Preserves property (takeStop address breakpoints : Action ε σ (Option Stop)) :=
    preserves_machine.bind fun _ => (maintains.changeControl _).bind fun _ => preserves_pure _
  refine preserves_machine.bind fun before => (takes _ _).bind fun found => ?_
  cases found with
  | some stop => exact preserves_pure _
  | none =>
      cases limit with
      | none => exact preserves_pure _
      | some allowed =>
          simp only
          split
          next => exact preserves_machine.bind fun _ => preserves_pure _
          next => exact preserves_pure _

theorem runFrom (maintains : hear.Maintains property) (limit : Option Int) (fuel steps : Nat) :
    Preserves property (Action.runFrom hear limit fuel steps) := by
  induction fuel generalizing steps with
  | zero => exact preserves_throw _
  | succ fuel induction =>
      refine (maintains.takeStopAfter limit steps).bind fun found => ?_
      cases found with
      | some stop => exact preserves_pure _
      | none =>
          refine maintains.step.bind fun word => ?_
          split
          next => exact preserves_machine.bind fun _ => preserves_pure _
          next => exact induction (steps + 1)

theorem run (maintains : hear.Maintains property) (patience : Nat) (limit : Option Int) :
    Preserves property (Action.run hear patience limit) := by
  have settles : Preserves property (settle hear) :=
    (maintains.changeControl _).bind fun _ => maintains.setMode .idle
  refine (maintains.setMode .running).bind fun _ => ?_
  refine ((maintains.runFrom limit _ 0).finally settles).bind fun stop => ?_
  exact (maintains.changeControl _).bind fun _ => preserves_pure _

theorem runUntil (maintains : hear.Maintains property) (patience : Nat) (address : Int)
    (limit : Option Int) : Preserves property (Action.runUntil hear patience address limit) := by
  have guardedRun (cleanup : Action ε σ Unit) (cleans : Preserves property cleanup)
      (verdict : Stop → Bool) : Preserves property
        (tryFinally (do let stop ← Action.run hear patience limit; pure (verdict stop)) cleanup) :=
    ((maintains.run patience limit).bind fun _ => preserves_pure _).finally cleans
  refine preserves_machine.bind fun before => ?_
  by_cases present : before.control.hasBreakpoint address
  · simp only [if_pos present]
    exact guardedRun _ (preserves_pure ()) _
  · simp only [if_neg present]
    exact (maintains.changeControl _).bind fun _ => guardedRun _ (maintains.changeControl _) _

theorem writeRegisters (maintains : hear.Maintains property) (changes : List (Store.Write 4)) :
    Preserves property (Action.writeRegisters hear changes) :=
  Preserves.forM fun _ => maintains.setRegister _ _

theorem writeMemory (maintains : hear.Maintains property) (changes : List (Store.Write 8)) :
    Preserves property (Action.writeMemory hear changes) :=
  Preserves.forM fun _ => maintains.setMemory _ _

end Listener.Maintains
end ByteMachine
