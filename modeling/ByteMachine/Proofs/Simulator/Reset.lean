import ByteMachine.Proofs.Machine.Foretelling
import ByteMachine.Proofs.Machine.Maintaining
import ByteMachine.Proofs.Simulator.Output

/-!
# What is left after a reset

A reset leaves the word that was fetched last, the mode and the stop that was recorded last, and what
stops a run.  When nothing of the latter is set or pending, a source that is loaded and run after a reset
comes to the same as on a new simulator with the same settings.
-/

namespace ByteMachine

namespace Simulator

open ByteMachine.Action

variable {σ α : Type}

/-- Does something and tells what came of it, also when it has failed. -/
def attempt (activity : Activity σ α) : Activity σ (Except Failure α) :=
  tryCatch (do return .ok (← activity)) fun
    | .failed failure => return .error failure
    | .unfinished => throw .unfinished

theorem attempt_of_ok {activity : Activity σ α} {world final : World (Simulator σ)} {value : α}
    (done : activity world = .ok value final) : attempt activity world = .ok (.ok value) final := by
  rw [attempt, tryCatch_apply, bind_of_ok done]
  rfl

theorem attempt_of_error {activity : Activity σ α} {world final : World (Simulator σ)}
    {failure : Failure} (failed : activity world = .error (.failed failure) final) :
    attempt activity world = .ok (.error failure) final := by
  rw [attempt, tryCatch_apply, bind_of_error _ failed]
  rfl

/-- Loads a source and then runs, also when the source is refused. -/
def loadAndRun (hear : Hearer σ) (file source : Text) (limit : Int) :
    Activity σ (Except Failure (List Word) × Stop) := do
  let loaded ← attempt (assembleAndLoad hear file source)
  let stop ← run hear (some limit)
  return (loaded, stop)

/-! ## The configuration -/

/-- The simulator has certain settings, and its machine prints where they say. -/
structure Configured (settings : Settings) (world : World (Simulator σ)) : Prop where
  /-- These are its settings. -/
  hasSettings : world.surroundings.settings = settings
  /-- Characters are printed at the address of the settings. -/
  outputs : world.machine.outputAddress = (Machine.fresh settings.outputAddress).outputAddress

/-- The simulator has certain settings and calm surroundings. -/
def CalmlyConfigured (calm : σ → Prop) (settings : Settings) (world : World (Simulator σ)) : Prop :=
  calm world.surroundings.host ∧ Configured settings world

variable {hear : Hearer σ} {calm : σ → Prop} {mayAsk : Prop} {settings : Settings}

/-- Listeners that leave a simulator alone leave its configuration, whatever is done. -/
theorem maintains_configured (spectates : hear.Spectates calm mayAsk) (settings : Settings) :
    (collecting hear).Maintains (CalmlyConfigured calm settings) := by
  have outputs (machine : Machine) (times : Nat) :
      (Machine.askedToStop^[times] machine).outputAddress = machine.outputAddress := by
    induction times with
    | zero => rfl
    | succ times induction =>
        rw [Function.iterate_succ_apply', Machine.outputAddress_askedToStop, induction]
  have heard (notice : Notice) : Preserves (CalmlyConfigured calm settings) (hear notice) := by
    rintro world ⟨isCalm, configured⟩
    obtain ⟨times, host, done, stillCalm, -⟩ := spectates notice world isCalm
    rw [ended_of_ok done]
    exact ⟨stillCalm, configured.hasSettings, (outputs _ _).trans configured.outputs⟩
  have collected (notice : Notice) :
      Preserves (CalmlyConfigured calm settings) (collecting hear notice) := by
    cases notice with
    | output byte =>
        refine Preserves.bind ?_ fun _ => heard _
        exact fun _ holds => ⟨holds.1, holds.2.hasSettings, holds.2.outputs⟩
    | _ => exact heard _
  have announced (change : Machine → Machine) (notice : Notice)
      (sameOutput : ∀ machine, (change machine).outputAddress = machine.outputAddress) :
      Preserves (CalmlyConfigured calm settings)
        (do changeMachine change; collecting hear notice) := by
    refine Preserves.bind ?_ fun _ => collected notice
    exact fun _ holds => ⟨holds.1, holds.2.hasSettings, (sameOutput _).trans holds.2.outputs⟩
  exact {
    setRegister := fun _ _ => announced _ _ fun _ => rfl
    setMemory := fun _ _ => announced _ _ fun _ => rfl
    setCounter := fun _ => announced _ _ fun _ => rfl
    setInstruction := fun _ => announced _ _ fun _ => rfl
    changeMode := fun _ => announced _ _ fun _ => rfl
    output := fun _ => collected _
    changeControl := fun _ _ holds => ⟨holds.1, holds.2.hasSettings, holds.2.outputs⟩ }

theorem preserves_reset (spectates : hear.Spectates calm mayAsk) :
    Preserves (CalmlyConfigured calm settings) (reset (collecting hear)) := by
  have maintains := maintains_configured spectates settings
  refine (maintains.writeMemory _).bind fun _ => (maintains.writeRegisters _).bind fun _ =>
    (maintains.setCounter _).bind fun _ => ?_
  exact fun _ holds => ⟨holds.1, holds.2.hasSettings, holds.2.outputs⟩

theorem preserves_assembleAndLoad (spectates : hear.Spectates calm mayAsk) (file source : Text) :
    Preserves (CalmlyConfigured calm settings)
      (assembleAndLoad (collecting hear) file source) := by
  have maintains := maintains_configured spectates settings
  have assembles : Preserves (CalmlyConfigured calm settings)
      (assemble file source : Activity σ (List Word)) := by
    rintro world ⟨isCalm, configured⟩
    cases outcome : Program.assemble file source with
    | ok program =>
        rw [ended_of_ok (assemble_of_ok outcome world)]
        exact ⟨isCalm, configured.hasSettings, configured.outputs⟩
    | error fault =>
        rw [ended_of_error (assemble_of_error outcome world)]
        exact ⟨isCalm, configured.hasSettings, configured.outputs⟩
  have loads (words : List Word) :
      Preserves (CalmlyConfigured calm settings) (load (collecting hear) words) := by
    have written := (maintains.writeMemory (Store.loadingWords 0 words)).bind fun _ =>
      maintains.setCounter 0
    refine Preserves.bind (fun _ holds => holds) fun simulator => ?_
    split
    next => exact (maintains.writeMemory _).bind fun _ => written
    next => exact written
  exact assembles.bind fun words => (loads words).bind fun _ => preserves_pure _

/-! ## After a reset -/

/-- Of listeners that leave a simulator alone the output can be told whatever the mode is. -/
theorem follows_collecting (spectates : hear.Spectates calm False) (text : Text) :
    (collecting hear).Follows (Spectated calm False text) where
  tracks := tracks_collecting spectates text
  unasked := Spectated.unasked

/-- A machine that nothing stops is new, apart from its past, when it was set to zero. -/
theorem zeroed_eq_withPast {machine : Machine} {address : Int}
    (outputs : machine.outputAddress = (Machine.fresh address).outputAddress)
    (noBreakpoints : machine.control.breakpoints = ByteSet.empty)
    (noWatchpoints : machine.control.watchpoints = ByteSet.empty)
    (noRequest : machine.control.requested = false) (noHit : machine.control.hit = none) :
    { machine with registers := Store.zero 4, memory := Store.zero 8, counter := 0 } =
      (Machine.fresh address).withPast machine.instruction machine.mode machine.control.last := by
  obtain ⟨_, _, _, _, _, ⟨breakpoints, watchpoints, requested, hit, last⟩, port⟩ := machine
  obtain rfl : port = .ofInt 8 address := outputs
  obtain rfl : breakpoints = ByteSet.empty := noBreakpoints
  obtain rfl : watchpoints = ByteSet.empty := noWatchpoints
  obtain rfl : requested = false := noRequest
  obtain rfl : hit = none := noHit
  rfl

theorem announces_overwriting {kept : List Notice → Mode → Bool → Simulator σ → Prop}
    (tracks : hear.Tracks kept) (cells : List (Store.Write 8)) (registers : List (Store.Write 4))
    (counter : Byte) (machine : Machine) :
    Announces kept
      (do writeMemory hear cells; writeRegisters hear registers; setCounter hear counter) machine ()
      { machine with
        registers := machine.registers.applyAll registers
        memory := machine.memory.applyAll cells
        counter }
      (Machine.writeNotices cells ++
        (registers.map (fun change => .registerChanged change.index change.value) ++
          [.counterChanged counter])) :=
  (announces_writeMemory tracks cells machine).bind
    ((announces_writeRegisters tracks registers _).bind (announces_setCounter tracks counter _))

theorem reset_eq (spectates : hear.Spectates calm False) {world : World (Simulator σ)}
    (isCalm : calm world.surroundings.host) (configured : Configured settings world)
    (noBreakpoints : world.machine.control.breakpoints = ByteSet.empty)
    (noWatchpoints : world.machine.control.watchpoints = ByteSet.empty)
    (noRequest : world.machine.control.requested = false)
    (noHit : world.machine.control.hit = none) :
    ∃ simulator,
      reset (collecting hear) world =
        .ok () ⟨(Machine.fresh settings.outputAddress).withPast world.machine.instruction
          world.machine.mode world.machine.control.last, simulator⟩ ∧
      simulator.settings = settings ∧ calm simulator.host ∧ simulator.output = [] := by
  have follows := follows_collecting spectates world.surroundings.output
  have overwrites := announces_overwriting follows.tracks (Store.clearing 8) (Store.clearing 4) 0
    world.machine
  obtain ⟨others, cleared, spectated⟩ :=
    overwrites.unasked follows (spectated_self False isCalm)
  have zeroes :=
    zeroed_eq_withPast configured.outputs noBreakpoints noWatchpoints noRequest noHit
  rw [Store.applyAll_clearing, Store.applyAll_clearing, zeroes] at cleared
  -- what is set to zero is announced, but that the output is forgotten is not
  have inTurn : reset (collecting hear) = (do
      clearMemory (collecting hear)
      clearRegisters (collecting hear)
      resetCounter (collecting hear)) >>= fun _ => clearOutput := by
    simp only [reset, bind_assoc]
  have resets : reset (collecting hear) world = _ :=
    (congrFun inTurn world).trans (bind_of_ok cleared)
  have kept := preserves_reset spectates world ⟨isCalm, configured⟩
  rw [ended_of_ok resets] at kept
  exact ⟨_, resets, kept.2.hasSettings, spectated.isCalm, rfl⟩

/-- Loading a source is told by the machine and the settings, and leaves the past of the machine. -/
theorem exists_loaded (settings : Settings) (file source : Text) (machine : Machine) :
    ∃ (loaded : Except Failure (List Word)) (memory : Memory) (counter : Byte),
      ∀ {σ : Type} {hear : Hearer σ} {calm : σ → Prop}, hear.Spectates calm False →
        ∀ (word : Word) (mode : Mode) (last : Option Stop) (simulator : Simulator σ),
          simulator.settings = settings → calm simulator.host →
            ∃ others,
              attempt (assembleAndLoad (collecting hear) file source)
                  ⟨machine.withPast word mode last, simulator⟩ =
                .ok loaded
                  ⟨({ machine with memory, counter } : Machine).withPast word mode last, others⟩ ∧
              calm others.host ∧ others.output = simulator.output := by
  cases outcome : Program.assemble file source with
  | error fault =>
      refine ⟨.error (.refused fault), machine.memory, machine.counter, ?_⟩
      intro σ hear calm spectates word mode last simulator hasSettings isCalm
      have refused := assemble_of_error outcome ⟨machine.withPast word mode last, simulator⟩
      exact ⟨_, attempt_of_error (bind_of_error _ refused), isCalm, rfl⟩
  | ok program =>
      refine ⟨.ok program.words,
        Store.loaded machine.memory settings.clearsMemory program.words, 0, ?_⟩
      rintro σ hear calm spectates word mode last simulator rfl isCalm
      have assembled := assemble_of_ok outcome ⟨machine.withPast word mode last, simulator⟩
      let between : World (Simulator σ) :=
        ⟨machine.withPast word mode last, { simulator with assembler := ⟨some program⟩ }⟩
      have keeps : Spectated calm False simulator.output [] false between.surroundings :=
        @spectated_self _ _ False between.surroundings isCalm
      obtain ⟨asked, others, loaded, spectated⟩ :=
        load_of_tracks (tracks_collecting spectates simulator.output) program.words keeps
      obtain rfl := spectated.unasked
      rw [Machine.withRequest_false] at loaded
      refine ⟨others, attempt_of_ok ((bind_of_ok assembled).trans (bind_of_ok loaded)),
        spectated.isCalm, ?_⟩
      rw [spectated.output, List.nil_append, printed_loadNotices]
      exact List.append_nil _

/-- A run that may execute an instruction is told by the machine, and so is what it prints; of the past
of the machine nothing is left. -/
theorem exists_ran {limit : Int} (positive : 1 ≤ limit) {machine : Machine}
    (noRequest : machine.control.requested = false) (noHit : machine.control.hit = none) :
    ∃ (stop : Stop) (final : Machine) (text : Text),
      ∀ {σ : Type} {hear : Hearer σ} {calm : σ → Prop}, hear.Spectates calm False →
        ∀ (word : Word) (mode : Mode) (last : Option Stop) (simulator : Simulator σ),
          calm simulator.host →
            ∃ others,
              run (collecting hear) (some limit) ⟨machine.withPast word mode last, simulator⟩ =
                .ok stop ⟨final, others⟩ ∧
              others.output = simulator.output ++ text := by
  obtain ⟨stop, final, notices, told⟩ :=
    @exists_foretold_run Failure limit positive machine noRequest noHit 0
  refine ⟨stop, final, (notices.filterMap Notice.printed?).map character, ?_⟩
  intro σ hear calm spectates word mode last simulator isCalm
  let world : World (Simulator σ) := ⟨machine.withPast word mode last, simulator⟩
  have follows := follows_collecting spectates simulator.output
  have keeps : Spectated calm False simulator.output [] false world.surroundings :=
    spectated_self False isCalm
  obtain ⟨others, ran, spectated⟩ :=
    @Announces.unasked _ _ _ _ _ follows _ world _ _ _ _ (told word mode last follows) keeps
  refine ⟨others, ran, ?_⟩
  rw [spectated.output, List.nil_append, List.filterMap_append, Machine.printed_modeNotices,
    List.nil_append]

/-- Loading a source and running are told by the machine and the settings, and nothing of the past of
the machine is left in what they come to. -/
theorem exists_loadedAndRan (settings : Settings) (file source : Text) {limit : Int}
    (positive : 1 ≤ limit) {machine : Machine}
    (noRequest : machine.control.requested = false) (noHit : machine.control.hit = none) :
    ∃ (outcome : Except Failure (List Word) × Stop) (final : Machine) (text : Text),
      ∀ {σ : Type} {hear : Hearer σ} {calm : σ → Prop}, hear.Spectates calm False →
        ∀ (word : Word) (mode : Mode) (last : Option Stop) (simulator : Simulator σ),
          simulator.settings = settings → calm simulator.host →
            ∃ others,
              loadAndRun (collecting hear) file source limit
                  ⟨machine.withPast word mode last, simulator⟩ =
                .ok outcome ⟨final, others⟩ ∧
              others.output = simulator.output ++ text := by
  obtain ⟨loaded, memory, counter, loads⟩ := exists_loaded settings file source machine
  obtain ⟨stop, final, text, runs⟩ :=
    @exists_ran limit positive { machine with memory, counter } noRequest noHit
  refine ⟨(loaded, stop), final, text, ?_⟩
  intro σ hear calm spectates word mode last simulator hasSettings isCalm
  obtain ⟨between, loaded, stillCalm, same⟩ :=
    loads spectates word mode last simulator hasSettings isCalm
  obtain ⟨others, ran, output⟩ := runs spectates word mode last between stillCalm
  refine ⟨others, (bind_of_ok loaded).trans (bind_of_ok ran), ?_⟩
  rw [output, same]

end Simulator

/-! ## Histories that are erased -/

namespace Session

open ByteMachine.Action Simulator

variable {hear : Hearer Registry} {calm : Registry → Prop}

/-- Every command leaves the configuration. -/
theorem configured_of_completes {mayAsk : Prop} {settings : Settings}
    (spectates : hear.Spectates calm mayAsk) {patience : Nat} {command : Command}
    {world final : World (Simulator Registry)} (isCalm : calm world.surroundings.host)
    (configured : Configured settings world)
    (completes : Completes (perform (collecting hear) patience command) world final) :
    Configured settings final := by
  have maintains := maintains_configured spectates settings
  have answered {α : Type} {activity : Activity α} (answer : α → Answer)
      (preserves : Preserves (CalmlyConfigured calm settings) activity) :
      Configured settings
        (ended (activity >>= fun value => pure (answer value) : Activity Answer) world) := by
    rw [ended_bind_pure]
    exact (preserves world ⟨isCalm, configured⟩).2
  rw [← completes.ended_eq]
  cases command with
  | step => exact answered _ maintains.step
  | steps times => exact answered _ (maintains.stepTimes times)
  | stepOnce =>
      have steps : Preserves (CalmlyConfigured calm settings)
          (Simulator.step (collecting hear)) :=
        maintains.step.bind fun _ => preserves_machine.bind fun _ => preserves_pure _
      exact answered _ steps
  | run limit => exact answered _ (maintains.run patience limit)
  | runUntil address limit => exact answered _ (maintains.runUntil patience address limit)
  | runWithin limit =>
      have runs : Preserves (CalmlyConfigured calm settings)
          (Simulator.run (collecting hear) limit) :=
        Preserves.bind (fun _ holds => holds) fun _ => maintains.run 0 _
      exact answered _ runs
  | loadSource source =>
      rw [perform]
      cases Program.assemble inputName source with
      | ok program => exact answered _ (maintains.writeMemory _)
      | error fault => exact configured
  | loadWords words => exact answered _ (maintains.writeMemory _)
  | loadBytes address bytes => exact answered _ (maintains.writeMemory _)
  | clearMemory => exact answered _ (maintains.writeMemory _)
  | clearRegisters => exact answered _ (maintains.writeRegisters _)
  | setCounter counter => exact answered _ (maintains.setCounter _)
  | resetCounter => exact answered _ (maintains.setCounter 0)
  | setInstruction word => exact answered _ (maintains.setInstruction word)
  | writeRegister register value => exact answered _ (maintains.writeRegisters _)
  | writeMemory address value => exact answered _ (maintains.writeMemory _)
  | load file source => exact answered _ (preserves_assembleAndLoad spectates file source)
  | reset => exact answered _ (preserves_reset spectates)
  | requestStop =>
      have asks : Preserves (CalmlyConfigured calm settings) (requestStop : Activity Unit) := by
        rintro world ⟨isCalm, configured⟩
        rw [ended_of_ok (requestStop_eq world)]
        exact ⟨isCalm, configured.hasSettings,
          (Machine.outputAddress_askedToStop _).trans configured.outputs⟩
      exact answered _ asks
  | subscribe | unsubscribe | hook | raise | readRegister | readMemory | isRunning | snapshot
  | symbols | control | clearOutput => exact ⟨configured.hasSettings, configured.outputs⟩

theorem History.configured {mayAsk : Prop} (spectates : hear.Spectates calm mayAsk)
    {settings : Settings} {host : Registry} {patience : Nat} {deeds : List Deed}
    {final : World (Simulator Registry)}
    (history : History (collecting hear) calm patience (Simulator.world settings host) deeds final) :
    Configured settings final := by
  induction history with
  | start => exact ⟨rfl, rfl⟩
  | next command _ isCalm completes induction =>
      exact configured_of_completes spectates isCalm induction completes

/-- A reset erases history.  Whatever was done with a simulator whose listeners leave it alone, when no
breakpoint and no watchpoint is set and nothing is pending, a reset after which a source is loaded and
run comes to the same as loading and running it on a new simulator with the same settings: the words
that were loaded or the reason for which the source was refused, the stop, the machine, and the
output. -/
theorem reset_erases_history (spectates : hear.Spectates calm False) (settings : Settings)
    (host : Registry) (patience : Nat) {deeds : List Deed} {world : World (Simulator Registry)}
    (history : History (collecting hear) calm patience (Simulator.world settings host) deeds world)
    (isCalm : calm world.surroundings.host)
    (noBreakpoints : world.machine.control.breakpoints = ByteSet.empty)
    (noWatchpoints : world.machine.control.watchpoints = ByteSet.empty)
    (noRequest : world.machine.control.requested = false)
    (noHit : world.machine.control.hit = none)
    {σ : Type} {other : Hearer σ} {calmly : σ → Prop} (otherSpectates : other.Spectates calmly False)
    {newHost : σ} (newIsCalm : calmly newHost) (file source : Text) {limit : Int}
    (positive : 1 ≤ limit) :
    ∃ outcome machine surroundings others,
      (do reset (collecting hear)
          loadAndRun (collecting hear) file source limit) world =
        .ok outcome ⟨machine, surroundings⟩ ∧
      loadAndRun (collecting other) file source limit (Simulator.world settings newHost) =
        .ok outcome ⟨machine, others⟩ ∧
      surroundings.output = others.output := by
  obtain ⟨simulator, resets, hasSettings, stillCalm, forgotten⟩ :=
    reset_eq spectates isCalm (history.configured spectates) noBreakpoints noWatchpoints noRequest
      noHit
  obtain ⟨outcome, machine, text, comes⟩ :=
    @exists_loadedAndRan settings file source limit positive
      (Machine.fresh settings.outputAddress) rfl rfl
  obtain ⟨surroundings, afterReset, output⟩ :=
    comes spectates _ _ _ simulator hasSettings stillCalm
  obtain ⟨others, onNew, newOutput⟩ :=
    comes otherSpectates ⟨0, 0⟩ .idle none (Simulator.world settings newHost).surroundings rfl
      newIsCalm
  refine ⟨outcome, machine, surroundings, others, (bind_of_ok resets).trans afterReset, onNew, ?_⟩
  rw [output, forgotten, newOutput]
  rfl

/-- A watched store has stopped a run, a cell is written and the watchpoint is removed; the source that
is loaded after the reset prints what is in this cell, and memory is not cleared for it. -/
theorem reset_erases_watched_run :
    let hear : Hearer Registry := publish (obey 5 0)
    let start := Simulator.world ⟨10, false, 0x80⟩ Registry.empty
    let source := "load R1,[0x06]\nstore R1,[0x80]\nhalt".toList
    hear.Spectates OnlyRecorders False ∧ ∃ deeds world,
      History (collecting hear) OnlyRecorders 5 start deeds world ∧
        world.machine.memory.read 6 = 0x42 ∧ world.surroundings.output = ['A'] ∧
        ∃ outcome machine surroundings others,
          (do reset (collecting hear)
              loadAndRun (collecting hear) inputName source 3) world =
            .ok outcome ⟨machine, surroundings⟩ ∧
          loadAndRun (collecting hear) inputName source 3 start = .ok outcome ⟨machine, others⟩ ∧
          surroundings.output = others.output := by
  intro hear start source
  have spectates : hear.Spectates OnlyRecorders False := spectates_publish _
  let after (command : Command) (world : World (Simulator Registry)) : World (Simulator Registry) :=
    (perform (collecting hear) 5 command).ended world
  let subscribed := after (.subscribe [.output]) start
  let loaded := after (.loadBytes 0 [0x21, 0x41, 0x31, 0x80, 0xC0]) subscribed
  let watched := after (.control (.addWatchpoint 0x80)) loaded
  let stopped := after (.run none) watched
  let written := after (.writeMemory 6 0x42) stopped
  let freed := after (.control (.removeWatchpoint 0x80)) written
  have none : History (collecting hear) OnlyRecorders 5 start [] start := .start
  have subscribes : History _ _ 5 start _ subscribed :=
    none.next _ (by decide +kernel) (completes_of_returns (by decide +kernel))
  have loads : History _ _ 5 start _ loaded :=
    subscribes.next _ (by decide +kernel) (completes_of_returns (by decide +kernel))
  have watches : History _ _ 5 start _ watched :=
    loads.next _ (by decide +kernel) (completes_of_returns (by decide +kernel))
  have stops : History _ _ 5 start _ stopped :=
    watches.next _ (by decide +kernel) (completes_of_returns (by decide +kernel))
  have writes : History _ _ 5 start _ written :=
    stops.next _ (by decide +kernel) (completes_of_returns (by decide +kernel))
  have frees : History _ _ 5 start _ freed :=
    writes.next _ (by decide +kernel) (completes_of_returns (by decide +kernel))
  have noBreakpoints : freed.machine.control.breakpoints = ByteSet.empty :=
    ByteSet.eq_empty (by decide +kernel)
  have noWatchpoints : freed.machine.control.watchpoints = ByteSet.empty :=
    ByteSet.eq_empty (by decide +kernel)
  have calmNow : OnlyRecorders freed.surroundings.host := by decide +kernel
  have calmAtStart : OnlyRecorders Registry.empty := by decide
  refine ⟨spectates, _, freed, frees, by decide +kernel, by decide +kernel, ?_⟩
  exact reset_erases_history spectates _ Registry.empty 5 frees calmNow noBreakpoints
    noWatchpoints (by decide +kernel) (by decide +kernel) spectates calmAtStart inputName
    source (by decide)

end Session
end ByteMachine
