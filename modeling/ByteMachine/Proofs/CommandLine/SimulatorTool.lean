import ByteMachine.CommandLine.Simulate
import ByteMachine.Proofs.Assembly.Statements
import ByteMachine.Proofs.CommandLine.Calls
import ByteMachine.Proofs.CommandLine.Printing
import ByteMachine.Proofs.Machine.Arrival
import ByteMachine.Proofs.Simulator.Loading
import ByteMachine.Proofs.Simulator.SingleSteps
import ByteMachine.Proofs.Simulator.Tracing

/-!
# The trace is the execution

When the simulator tool is asked to trace, it prints a line for each instruction that is executed,
with the address it was fetched from and the word that was fetched.  What it prints besides is what
the program prints and where the machine ends.
-/

namespace ByteMachine

theorem Machine.portStores_concat (machine : Machine) (port : Byte) (steps : Nat) :
    machine.portStores port (steps + 1) =
      machine.portStores port steps ++ ((machine.after steps).portStore? port).toList := by
  rw [portStores, List.range_succ, List.filterMap_append, List.filterMap_eq_flatMap_toList _ [_],
    List.flatMap_singleton]
  rfl

/-! ## Descriptions of stops -/

namespace Stop

theorem text?_of_message {stop : Stop} (worded : stop.message ≠ []) :
    stop.text? = some stop.message := by
  rw [text?, if_neg worded]

theorem text?_atBreakpoint (address : Int) :
    (atBreakpoint address).text? = some (breakpointMessage address) :=
  text?_of_message (List.append_ne_nil_of_right_ne_nil _ (List.cons_ne_nil _ _))

theorem text?_atWrite (address value : Int) :
    (atWrite address value).text? = some (writeMessage address value) :=
  text?_of_message (List.append_ne_nil_of_right_ne_nil _ (List.cons_ne_nil _ _))

theorem text?_atLimit (address limit : Int) :
    (atLimit address limit).text? =
      some ("Reached max steps (".toList ++ Text.decimalInt limit ++ [')']) :=
  text?_of_message (List.append_ne_nil_of_right_ne_nil _ (List.cons_ne_nil _ _))

end Stop

/-- Every reason for which a machine stops has a description. -/
theorem Machine.exists_text_of_stop? {start : Machine} {limit : Option Int} {steps : Nat}
    {reason : Stop} (isReason : start.stop? limit steps = some reason) :
    ∃ text, reason.text? = some text := by
  simp only [stop?, Option.or_eq_some_iff] at isReason
  obtain halts | ⟨-, writes | ⟨-, reaches | ⟨-, ends⟩⟩⟩ := isReason
  · cases steps with
    | zero => cases halts
    | succ steps =>
        obtain ⟨-, same⟩ := Option.ite_none_right_eq_some.mp halts
        rw [← Option.some.inj same]
        exact ⟨_, rfl⟩
  · cases steps with
    | zero => cases writes
    | succ steps =>
        rw [writeStop?] at writes
        split at writes
        next address value _ =>
          obtain ⟨-, same⟩ := Option.ite_none_right_eq_some.mp writes
          rw [← Option.some.inj same]
          exact ⟨_, Stop.text?_atWrite _ _⟩
        next => cases writes
  · obtain ⟨-, same⟩ := Option.ite_none_right_eq_some.mp reaches
    rw [← Option.some.inj same]
    exact ⟨_, Stop.text?_atBreakpoint _⟩
  · cases limit with
    | none => cases ends
    | some limit =>
        obtain ⟨-, same⟩ := Option.ite_none_right_eq_some.mp ends
        rw [← Option.some.inj same]
        exact ⟨_, Stop.text?_atLimit _ _⟩

namespace SimulateTool

open Text Simulator ByteMachine.Action

variable {platform : Platform}

/-! ## What is heard -/

/-- What the tool keeps when a word is fetched. -/
def noteFetch (platform : Platform) (address : Byte) (word : Word)
    (simulator : Simulator Terminal) : Simulator Terminal :=
  { simulator with host := platform.report (traceLine address word) simulator.host }

/-- What the tool keeps when a character is printed. -/
def noteOutput (platform : Platform) (byte : Byte) (simulator : Simulator Terminal) :
    Simulator Terminal :=
  { simulator with
    printed := simulator.printed.push (character byte)
    host := platform.put [character byte] simulator.host }

theorem print_log_quiet {level : LogLevel} (minor : level ≠ .warning) (text : Text)
    (world : World (Simulator Terminal)) :
    print (Terminal.log false level text) world = .ok () world := by
  cases level with
  | debug | info => rfl
  | warning => exact absurd rfl minor

/-- The tool heeds only words that are fetched and characters that are printed. -/
theorem traces_hear :
    (collecting (hear platform true false)).Traces (noteFetch platform) (noteOutput platform) where
  fetches _ _ := rfl
  prints _ _ := rfl
  rests notice untraced world := by
    cases notice with
    | instructionChanged word => cases untraced
    | output byte => cases untraced
    | counterChanged counter =>
        change (if world.machine.instruction.operation = .halt then
          print (Terminal.log false .debug (haltLine (counter - 2))) else pure ()) world = _
        split <;> rfl
    | _ => rfl

/-- What was printed and kept, and the settings, after some more lines and characters than before. -/
structure Extends (platform : Platform) (before after : Simulator Terminal) (lines : List Text)
    (characters : Text) : Prop where
  /-- The lines are added to the messages. -/
  messages : after.host.messages.toList = before.host.messages.toList ++ platform.printed lines
  /-- The characters are added to the output of the tool. -/
  output : after.host.output.toList = before.host.output.toList ++ characters
  /-- They are added to those kept. -/
  kept : after.output = before.output ++ characters
  /-- The settings are the same. -/
  settings : after.settings = before.settings

theorem Extends.trans {before between after : Simulator Terminal} {lines more : List Text}
    {characters others : Text} (first : Extends platform before between lines characters)
    (second : Extends platform between after more others) :
    Extends platform before after (lines ++ more) (characters ++ others) where
  messages := by rw [second.messages, first.messages, Platform.printed_append, List.append_assoc]
  output := by rw [second.output, first.output, List.append_assoc]
  kept := by rw [second.kept, first.kept, List.append_assoc]
  settings := second.settings.trans first.settings

theorem extends_traced (faithful : platform.Faithful) (machine : Machine)
    (simulator : Simulator Terminal) :
    Extends platform simulator
      (machine.traced (noteFetch platform) (noteOutput platform) simulator)
      [traceLine machine.counter machine.fetched]
      ((machine.portStore? machine.outputAddress).toList.map character) := by
  rw [Machine.traced]
  cases machine.portStore? machine.outputAddress with
  | none =>
      exact ⟨Platform.messages_report _ _, (List.append_nil _).symm, (List.append_nil _).symm, rfl⟩
  | some value =>
      refine ⟨Platform.messages_report _ _, ?_, Array.toList_push, rfl⟩
      rw [Option.toList_some, List.map_singleton, ← faithful.shown_singleton (character value)]
      exact Platform.output_put _ _

/-- The lines of the trace for a number of steps. -/
def traceLines (start : Machine) (steps : Nat) : List Text :=
  (List.range steps).map fun earlier =>
    traceLine (start.after earlier).counter (start.after earlier).fetched

/-- A line is added for each step, and the characters that the steps store at the port. -/
theorem extends_foldl_traced (faithful : platform.Faithful) (start : Machine) (steps : Nat)
    (simulator : Simulator Terminal) :
    Extends platform simulator ((List.range steps).foldl
        (fun simulator earlier =>
          (start.after earlier).traced (noteFetch platform) (noteOutput platform) simulator)
        simulator)
      (traceLines start steps) ((start.portStores start.outputAddress steps).map character) := by
  induction steps with
  | zero => exact ⟨(List.append_nil _).symm, (List.append_nil _).symm, (List.append_nil _).symm, rfl⟩
  | succ steps induction =>
      have last := extends_traced faithful (start.after steps)
      rw [Machine.outputAddress_after] at last
      rw [traceLines, Machine.portStores_concat, List.range_succ, List.foldl_append, List.map_append,
        List.map_append]
      exact induction.trans (last _)

/-! ## Loading and running -/

variable {file source : Text} {program : Program}

theorem remarks_quiet (remarks : List Remark) (world : World (Simulator Terminal)) :
    (forIn remarks PUnit.unit fun remark _ => do
        print (Terminal.log false .debug remark.text)
        pure (.yield PUnit.unit) : Work PUnit) world = .ok () world := by
  induction remarks with
  | nil => rfl
  | cons remark rest induction =>
      rw [List.forIn_cons]
      exact induction

/-- The machine that the tool starts for a program. -/
def startOf (words : List Word) : Machine :=
  { Machine.fresh Machine.defaultOutput with
    memory := (Store.zero 8).applyAll (Store.loadingWords 0 words) }

/-- The simulator of the tool after a program was loaded. -/
def loadedSimulator (settings : Settings) (program : Program) : Simulator Terminal :=
  ⟨settings, ⟨some program⟩, #[], .blank⟩

/-- Until a word is fetched or a character printed, the tool keeps what it has. -/
theorem tracks_quiet (simulator : Simulator Terminal) :
    (collecting (hear platform true false)).Tracks fun heard _ asked others =>
      asked = false ∧ ((∀ notice ∈ heard, notice.isTraced = false) → others = simulator) where
  hears := by
    rintro heard asked others machine notice ⟨rfl, same⟩
    cases untraced : notice.isTraced with
    | false =>
        refine ⟨false, others, traces_hear.rests notice untraced _, rfl, fun all => ?_⟩
        exact same fun other member => all other (List.mem_append_left _ member)
    | true =>
        obtain ⟨others, done⟩ := traces_hear.passive notice ⟨machine.withRequest false, others⟩
        refine ⟨false, others, done, rfl, fun all => ?_⟩
        have absent := all notice (by simp)
        rw [untraced] at absent
        cases absent
  rests keeps := keeps

theorem isTraced_loadNotices {clears : Bool} {words : List Word} {notice : Notice}
    (member : notice ∈ loadNotices clears words) : notice.isTraced = false := by
  have writes {changes : List (Store.Write 8)} (member : notice ∈ Machine.writeNotices changes) :
      notice.isTraced = false := by
    obtain ⟨change, -, rfl⟩ := List.mem_map.mp member
    rfl
  rw [loadNotices, List.mem_append, List.mem_append, List.mem_singleton] at member
  obtain cleared | loaded | rfl := member
  · cases clears with
    | true => exact writes cleared
    | false => cases cleared
  · exact writes loaded
  · rfl

/-- A new memory is the same whether it is cleared before loading or not. -/
theorem loaded_zero (clears : Bool) (words : List Word) :
    Store.loaded (Store.zero 8) clears words =
      (Store.zero 8).applyAll (Store.loadingWords 0 words) := by
  cases clears with
  | true => rw [Store.loaded, if_pos rfl, Store.applyAll_clearing]
  | false => rfl

theorem load_quiet (assembled : Program.assemble file source = .ok program) {settings : Settings}
    (port : settings.outputAddress = Machine.defaultOutput) :
    load platform false (collecting (hear platform true false)) file source
        (Simulator.world settings .blank) =
      .ok () ⟨startOf program.words, loadedSimulator settings program⟩ := by
  let between : World (Simulator Terminal) :=
    ⟨Machine.fresh settings.outputAddress, loadedSimulator settings program⟩
  obtain ⟨asked, simulator, loads, rfl, same⟩ :=
    @load_of_tracks _ _ _ (tracks_quiet between.surroundings) program.words between []
      ⟨rfl, fun _ => rfl⟩
  -- Loading fetches no word and prints nothing, so that nothing is kept of it.
  obtain rfl := same fun _ => isTraced_loadNotices
  have machine : ({ Machine.fresh settings.outputAddress with
      memory := Store.loaded (Store.zero 8) settings.clearsMemory program.words
      counter := 0 } : Machine) = startOf program.words := by
    rw [startOf, ← loaded_zero settings.clearsMemory, port]
    rfl
  have loaded : Simulator.load (collecting (hear platform true false)) program.words between =
      .ok () ⟨startOf program.words, between.surroundings⟩ :=
    machine ▸ loads
  have done : assembleAndLoad (collecting (hear platform true false)) file source
      (Simulator.world settings .blank) =
        .ok program.words ⟨startOf program.words, between.surroundings⟩ :=
    (bind_of_ok (assemble_of_ok assembled _)).trans (bind_of_ok loaded)
  rw [load, bind_of_ok (remarks_quiet _ _), bind_of_ok done]
  obtain ⟨maxSteps, clears, outputAddress⟩ := settings
  cases clears <;> rfl

/-- The line of the log for a run that has used up its instructions. -/
def warningLine (limit : Int) : Text :=
  "Program did not halt within ".toList ++ decimalInt limit ++ " steps".toList

/-- The line for a run that has not halted, with the description of its stop. -/
def stoppedLine (description : Text) : Text :=
  "Stopped: ".toList ++ description

/-- The line with the counter at the end and the number of steps. -/
def counterLine (machine : Machine) (steps : Int) : Text :=
  "PC=".toList ++ machine.counter.hex ++ " steps=".toList ++ decimalInt steps

/-- What the tool has printed when the run has ended. -/
def warned (stop : Stop) (limit : Int) (host : Terminal) : Terminal :=
  if stop.reason = .stepLimit then host.log false .warning (warningLine limit) else host

theorem describe_of_text {stop : Stop} {description : Text}
    (described : stop.text? = some description) : describe stop = pure description := by
  rw [describe, described]

theorem execute_of_stopsFirst (faithful : platform.Faithful) {world : World (Simulator Terminal)}
    (noRequest : world.machine.control.requested = false)
    (noHit : world.machine.control.hit = none) {steps : Nat} {reason : Stop}
    (within : steps ≤ world.surroundings.settings.maxSteps.toNat)
    (stops : world.machine.StopsFirst (some world.surroundings.settings.maxSteps) steps reason) :
    ∃ final after, execute false (collecting (hear platform true false)) world =
        .ok (reason.after steps) ⟨final, { after with
          host := warned reason world.surroundings.settings.maxSteps after.host }⟩ ∧
      final.Alike (world.machine.after steps) ∧
      Extends platform world.surroundings after (traceLines world.machine steps)
        ((world.machine.portStores world.machine.outputAddress steps).map character) := by
  have room : steps < rounds 0 (some world.surroundings.settings.maxSteps) :=
    Nat.lt_succ_of_le within
  have ran := run_of_traces (@traces_hear platform) noRequest noHit stops (.inl room)
  have read : (surroundings : Work (Simulator Terminal)) world = .ok world.surroundings world := rfl
  have readMachine : (machine : Work Machine) world = .ok world.machine world := rfl
  have simulated : Simulator.run (collecting (hear platform true false)) none world = _ :=
    (bind_of_ok read).trans ran
  obtain ⟨description, described⟩ := Machine.exists_text_of_stop? stops.isReason
  have describes (world : World (Simulator Terminal)) :
      describe (reason.after steps) world = .ok description world :=
    congrFun (describe_of_text described) world
  refine ⟨{ world.machine.after steps with
      mode := .idle
      control := world.machine.control.clearPending.record (reason.after steps) }, _, ?_,
    ⟨rfl, rfl, rfl, rfl⟩, extends_foldl_traced faithful world.machine steps _⟩
  refine (bind_of_ok read).trans <| (bind_of_ok readMachine).trans <|
    (bind_of_ok (print_log_quiet (by decide) _ _)).trans <| (bind_of_ok simulated).trans <|
      (bind_of_ok (describes _)).trans <|
        (bind_of_ok (print_log_quiet (by decide) _ _)).trans ?_
  rw [warned]
  have sameReason : (reason.after steps).reason = reason.reason := rfl
  by_cases isLimit : reason.reason = .stepLimit
  · simp only [sameReason, if_pos isLimit]
    rfl
  · simp only [sameReason, if_neg isLimit]
    rfl

/-- The end of a line that is not ended yet. -/
def lineEnd (text : Text) : Text :=
  if text ≠ [] ∧ text.getLast? ≠ some '\n' then ['\n'] else []

theorem endOutput_eq (faithful : platform.Faithful) (machine : Machine)
    (simulator : Simulator Terminal) :
    ∃ host, endOutput platform ⟨machine, simulator⟩ = .ok () ⟨machine, { simulator with host }⟩ ∧
      host.messages = simulator.host.messages ∧
      host.output.toList = simulator.host.output.toList ++ lineEnd simulator.output := by
  have read : (surroundings : Work (Simulator Terminal)) ⟨machine, simulator⟩ =
      .ok simulator ⟨machine, simulator⟩ := rfl
  rw [endOutput, bind_of_ok read, lineEnd]
  split
  · refine ⟨platform.say [] simulator.host, rfl, rfl, ?_⟩
    rw [Platform.output_say, faithful.printed_singleton_of_clear isClear_nil]
    rfl
  · exact ⟨simulator.host, rfl, rfl, (List.append_nil _).symm⟩

theorem conclude_eq {stop : Stop} {description : Text} (described : stop.text? = some description)
    (faithful : platform.Faithful) (machine : Machine) (simulator : Simulator Terminal) :
    ∃ host, conclude platform stop ⟨machine, simulator⟩ =
        .ok () ⟨machine, { simulator with host }⟩ ∧
      host.messages.toList = simulator.host.messages.toList ++
        (if stop.reason = .halt then [] else platform.printed [stoppedLine description]) ∧
      host.output.toList = simulator.host.output.toList ++ lineEnd simulator.output ++
        platform.printed
          [registerDump machine.registers.toList, counterLine machine stop.steps] := by
  obtain ⟨ended, ends, messages, output⟩ := endOutput_eq faithful machine simulator
  let stopped : Terminal :=
    if stop.reason ≠ .halt then platform.report (stoppedLine description) ended else ended
  have sameOutput : stopped.output = ended.output := by
    simp only [stopped]
    split <;> rfl
  refine ⟨platform.say (counterLine machine stop.steps)
    (platform.say (registerDump machine.registers.toList) stopped), ?_, ?_, ?_⟩
  · rw [conclude, bind_of_ok ends, describe_of_text described]
    by_cases goesOn : stop.reason ≠ .halt
    · simp only [stopped, if_pos goesOn]
      rfl
    · simp only [stopped, if_neg goesOn]
      rfl
  · rw [Platform.messages_say, Platform.messages_say, ← messages]
    by_cases halts : stop.reason = .halt
    · simp [stopped, halts]
    · simp [stopped, halts]
  · rw [Platform.output_say, Platform.output_say, sameOutput, output, List.append_assoc,
      ← Platform.printed_append]
    rfl

/-! ## The whole tool -/

theorem not_mem_traceLine {mark : Char} (unwritten : Operand.isWrittenChar mark = false)
    (unmarked : mark ∉ ['$', ':', ' ', ',']) (address : Byte) (word : Word) :
    mark ∉ traceLine address word := by
  have foreign : mark.isAlphanum = false := by
    rw [Operand.isWrittenChar, Bool.or_eq_false_iff, Bool.or_eq_false_iff] at unwritten
    exact unwritten.1.1
  have notHex (byte : Byte) : mark ∉ byte.hex := (isPlain_hexNat 2 byte.toNat).not_mem foreign
  simp only [List.mem_cons, List.not_mem_nil, or_false, not_or] at unmarked
  obtain ⟨noDollar, noColon, noSpace, noComma⟩ := unmarked
  have notText := word.not_mem_text unwritten noSpace noComma
  have spaces : "  ".toList = [' ', ' '] := rfl
  have colon : ": ".toList = [':', ' '] := rfl
  simp [traceLine, Word.hex, notHex, notText, spaces, colon, noDollar, noColon, noSpace]

theorem printed_traceLines (faithful : platform.Faithful) (start : Machine) (steps : Nat) :
    platform.printed (traceLines start steps) =
      (traceLines start steps).flatMap (· ++ ['\n']) := by
  refine faithful.printed_of_clear fun line isLine => ?_
  obtain ⟨earlier, -, rfl⟩ := List.mem_map.mp isLine
  exact not_mem_traceLine rfl (by decide) _ _

/-- What is printed among the messages when a run has used up its instructions. -/
def exhausted (limit : Int) : Text :=
  "WARNING: ".toList ++ warningLine limit ++ ['\n'] ++
    ("Stopped: ".toList ++ ("Reached max steps (".toList ++ decimalInt limit ++ [')']) ++ ['\n'])

/-- A run of a program that was loaded ends at the first halt instruction, or when it has used up its
instructions. -/
theorem exists_ending (words : List Word) (limit : Int) :
    ∃ steps reason, (startOf words).StopsFirst (some limit) steps reason ∧
      (startOf words).LeadsToHalt limit.toNat steps ∧
      if (startOf words).haltStop? steps = none then ∃ address, reason = .atLimit address limit
      else ∃ address, reason = .halted address := by
  obtain ⟨steps, reason, within, stops⟩ := (startOf words).exists_stopsFirst_of_allowed limit
  have isReason := stops.isReason
  rw [Machine.stop?_of_unguarded rfl rfl] at isReason
  have leads : (startOf words).LeadsToHalt limit.toNat steps := by
    refine ⟨within, fun fewer below => Machine.haltStop?_eq_none (stops.first fewer below), ?_⟩
    intro more noHalt
    have allowed : (startOf words).limitStop? (some limit) steps = none :=
      Machine.limitStop?_eq_none_iff_forall.mpr fun _ same => by cases same; omega
    rw [noHalt, allowed] at isReason
    cases isReason
  refine ⟨steps, reason, stops, leads, ?_⟩
  by_cases goesOn : (startOf words).haltStop? steps = none
  · rw [goesOn, Option.none_or] at isReason
    obtain ⟨-, same⟩ := Option.ite_none_right_eq_some.mp isReason
    rw [if_pos goesOn]
    exact ⟨_, (Option.some.inj same).symm⟩
  · have positive : steps ≠ 0 := by
      rintro rfl
      exact goesOn rfl
    obtain ⟨before, rfl⟩ := Nat.exists_eq_succ_of_ne_zero positive
    have halts : ((startOf words).after before).fetched.operation = .halt :=
      not_not.mp (mt Machine.haltStop?_succ_eq_none_iff.mpr goesOn)
    rw [Machine.haltStop?, if_pos halts] at isReason
    rw [if_neg goesOn]
    exact ⟨_, (Option.some.inj isReason).symm⟩

/-- A run that has used up its instructions is warned of and said to have stopped; nothing is said of
one that has halted. -/
theorem messages_warned (faithful : platform.Faithful) {isUsed : Prop} [Decidable isUsed]
    {reason : Stop} {limit : Int} {steps : Nat} {description : Text}
    (described : reason.text? = some description)
    (ending : if isUsed then ∃ address, reason = .atLimit address limit
      else ∃ address, reason = .halted address) (host : Terminal) :
    (warned reason limit host).messages.toList ++
        (if (reason.after steps).reason = .halt then []
          else platform.printed [stoppedLine description]) =
      host.messages.toList ++ if isUsed then exhausted limit else [] := by
  by_cases used : isUsed
  · rw [if_pos used] at ending
    obtain ⟨address, rfl⟩ := ending
    rw [Stop.text?_atLimit] at described
    have line : stoppedLine description =
        "Stopped: ".toList ++ ("Reached max steps (".toList ++ decimalInt limit ++ [')']) :=
      congrArg _ (Option.some.inj described).symm
    have clear : IsClear (stoppedLine description) := by
      simp only [line, isClear_append]
      exact ⟨by decide, ⟨by decide, isClear_decimalInt limit⟩, by decide⟩
    have logged : LogLevel.warning.logged false [warningLine limit] =
        "WARNING: ".toList ++ warningLine limit ++ ['\n'] := List.flatMap_singleton _ _
    have isLimit : (Stop.atLimit address limit).reason = .stepLimit := rfl
    have goesOn : ((Stop.atLimit address limit).after steps).reason ≠ .halt :=
      (by decide : StopReason.stepLimit ≠ .halt)
    have lines : exhausted limit = ("WARNING: ".toList ++ warningLine limit ++ ['\n']) ++
      (stoppedLine description ++ ['\n']) :=
      congrArg (fun line => _ ++ (line ++ ['\n'])) line.symm
    rw [warned, if_pos isLimit, Terminal.messages_log, logged, if_neg goesOn, if_pos used,
      faithful.printed_singleton_of_clear clear, lines, List.append_assoc]
  · rw [if_neg used] at ending
    obtain ⟨address, rfl⟩ := ending
    rw [if_neg used]
    rfl

theorem output_warned (reason : Stop) (limit : Int) (host : Terminal) :
    (warned reason limit host).output = host.output := by
  rw [warned]
  split
  · exact Terminal.output_log _ _ _ _
  · rfl

theorem isClear_counterLine (machine : Machine) (steps : Int) :
    IsClear (counterLine machine steps) := by
  simp only [counterLine, isClear_append]
  exact ⟨⟨⟨by decide, machine.counter.isClear_hex⟩, by decide⟩, isClear_decimalInt steps⟩

/-- The whole work on a source that can be assembled. -/
theorem simulate_of_assembled (faithful : platform.Faithful)
    (assembled : Program.assemble file source = .ok program)
    {settings : Settings} (port : settings.outputAddress = Machine.defaultOutput) :
    let start := startOf program.words
    ∃ steps final,
      simulate platform true false file source (Simulator.world settings .blank) = .ok () final ∧
      start.LeadsToHalt settings.maxSteps.toNat steps ∧
      final.surroundings.host.messages.toList =
        (traceLines start steps).flatMap (· ++ ['\n']) ++
          (if start.haltStop? steps = none then exhausted settings.maxSteps else []) ∧
      let characters := (start.portStores Machine.defaultOutput steps).map character
      final.surroundings.host.output.toList = characters ++ lineEnd characters ++
        (registerDump (start.after steps).registers.toList ++ ['\n'] ++
          (counterLine (start.after steps) steps ++ ['\n'])) := by
  intro start
  obtain ⟨steps, reason, stops, leads, ending⟩ := exists_ending program.words settings.maxSteps
  let loaded : World (Simulator Terminal) := ⟨start, loadedSimulator settings program⟩
  obtain ⟨machine, after, executed, alike, extended⟩ :=
    @execute_of_stopsFirst platform faithful loaded rfl rfl steps reason leads.within stops
  obtain ⟨description, described⟩ := Machine.exists_text_of_stop? stops.isReason
  obtain ⟨host, concluded, messages, output⟩ := @conclude_eq platform (reason.after steps)
    description described faithful machine
    { after with host := warned reason settings.maxSteps after.host }
  have done : simulate platform true false file source (Simulator.world settings .blank) = _ :=
    (bind_of_ok (load_quiet assembled port)).trans <| (bind_of_ok executed).trans concluded
  refine ⟨steps, _, done, leads, ?_, ?_⟩
  · have lines : after.host.messages.toList = platform.printed (traceLines start steps) :=
      extended.messages
    rw [messages, messages_warned faithful described ending, lines, printed_traceLines faithful]
  · have characters : after.host.output.toList =
        (start.portStores Machine.defaultOutput steps).map character := extended.output
    have kept : after.output = (start.portStores Machine.defaultOutput steps).map character :=
      extended.kept
    have line : counterLine machine (reason.after steps).steps =
        counterLine (start.after steps) steps := by
      rw [counterLine, alike.counter]
      rfl
    have clear : ∀ line ∈ [registerDump (start.after steps).registers.toList,
        counterLine (start.after steps) steps], IsClear line := by
      simp only [List.mem_pair, forall_eq_or_imp, forall_eq]
      exact ⟨isClear_registerDump _, isClear_counterLine _ _⟩
    have ended : host.output.toList =
        (warned reason settings.maxSteps after.host).output.toList ++ lineEnd after.output ++
          platform.printed [registerDump machine.registers.toList,
            counterLine machine (reason.after steps).steps] := output
    have registers : machine.registers = (start.after steps).registers := alike.registers
    rw [ended, output_warned, characters, kept, line, registers,
      faithful.printed_of_clear clear,
      List.flatMap_cons, List.flatMap_singleton]

theorem outputAddress_settings (chosen : Arguments SimulateOption)
    (environment : Text → Option Text) :
    (settings chosen environment).outputAddress = Machine.defaultOutput := by
  rw [settings]
  split <;> rfl

/-- When the source of the input file can be assembled, the tool executes it up to the first halt
instruction or until as many instructions as are allowed have been executed, and succeeds.  Asked for
a trace and for nothing else to be said, it prints among the messages one line for each instruction
that was executed, in this order, with the address from which and the word as which it was fetched;
when the last one is no halt instruction there follow the warning and the line that says so.  On the
output stand the characters stored at the port, in a line that is ended, and the registers and the
counter after as many steps as there are lines of the trace. -/
theorem trace_is_execution {given : List Text} {files : Files} {environment : Text → Option Text}
    {chosen : Arguments SimulateOption} (faithful : platform.Faithful)
    (asks : platform.read declaration files given = .call chosen)
    (traces : chosen.has .trace = true) (quiet : chosen.has .verbose = false)
    (readable : readSource files (plainPath chosen.input) = .ok source)
    (assembled : Program.assemble (plainPath chosen.input) source = .ok program) :
    let start := startOf program.words
    let limit := (settings chosen environment).maxSteps
    let outcome := run platform given files environment
    ∃ steps, start.LeadsToHalt limit.toNat steps ∧
      outcome.exitCode = .success ∧ outcome.files = files ∧
      outcome.terminal.messages.toList =
        ((List.range steps).flatMap fun earlier =>
          traceLine (start.after earlier).counter (start.after earlier).fetched ++ ['\n']) ++
        (if start.haltStop? steps = none then exhausted limit else []) ∧
      (∀ earlier, '\n' ∉ traceLine (start.after earlier).counter (start.after earlier).fetched) ∧
      let characters := (start.portStores Machine.defaultOutput steps).map character
      outcome.terminal.output.toList = characters ++ lineEnd characters ++
        (registerDump (start.after steps).registers.toList ++ ['\n'] ++
          (counterLine (start.after steps) steps ++ ['\n'])) := by
  intro start limit outcome
  obtain ⟨steps, final, done, leads, messages, output⟩ :=
    simulate_of_assembled faithful assembled (outputAddress_settings chosen environment)
  have isOutcome : outcome = ⟨.success, final.surroundings.host, files⟩ := by
    simp only [outcome, run]
    rw [Platform.call, asks]
    dsimp only
    rw [SimulateTool.outcome, traces, quiet]
    simp only [readable]
    rw [if_neg Bool.false_ne_true, EStateM.run, done]
  rw [isOutcome]
  refine ⟨steps, leads, rfl, rfl, ?_, fun _ => not_mem_traceLine rfl (by decide) _ _, output⟩
  rw [messages, traceLines, List.flatMap_map]

/-- A program that writes its own halt instruction is traced as what it has become. -/
theorem trace_of_changed_word :
    let source := "load R1,0xC0\nstore R1,[6]\nstore R1,[0xFF]\ndb 0,0".toList
    let files : Files := ⟨[(["a.asm".toList], .file (encodeUtf8 source))]⟩
    let outcome := run .conventional ["--trace".toList, "a.asm".toList] files fun _ => none
    outcome.exitCode = .success ∧
      outcome.terminal.messages.toList =
        ("$00: 21C0  load R1,0xC0\n$02: 3106  store R1,[0x06]\n" ++
          "$04: 31FF  store R1,[0xFF]\n$06: C000  halt\n").toList ∧
      outcome.terminal.output.toList.take 2 = ['À', '\n'] := by
  intro source files outcome
  let parts : Conventions.Parts SimulateOption := ⟨[(.own .trace, none)], ["a.asm".toList]⟩
  let chosen : Arguments SimulateOption := parts.arguments "a.asm".toList
  have asks : Platform.conventional.read declaration files ["--trace".toList, "a.asm".toList] =
      .call chosen := by
    have isFile : files.find? "a.asm".toList = some (.file (encodeUtf8 source)) := by
      decide +kernel
    have read : Conventions.readAfter (Conventions.allForms declaration.forms) ⟨[], []⟩
        ["--trace".toList, "a.asm".toList] = .ok parts := rfl
    refine Conventions.reply_eq_call read rfl (fun form _ value isValue => ?_) rfl isFile
    generalize form.option = option at isValue
    cases option <;> cases isValue
  have readable : readSource files (plainPath "a.asm".toList) = .ok source := by decide +kernel
  obtain ⟨program, assembled, words⟩ : ∃ program,
      Program.assemble (plainPath "a.asm".toList) source = .ok program ∧
        program.words = [⟨0x21, 0xC0⟩, ⟨0x31, 0x06⟩, ⟨0x31, 0xFF⟩, ⟨0, 0⟩] := ⟨_, rfl, rfl⟩
  obtain ⟨steps, leads, exitCode, -, messages, -, output⟩ :=
    @trace_is_execution .conventional _ _ _ files (fun _ => none) chosen
      Platform.conventional_faithful asks rfl rfl readable assembled
  have early : ∀ fewer < 4, (startOf program.words).haltStop? fewer = none := by
    rw [words]
    decide +kernel
  have halts : (startOf program.words).haltStop? 4 ≠ none := by
    rw [words]
    decide +kernel
  obtain rfl : steps = 4 := by
    rcases Nat.lt_trichotomy steps 4 with below | same | above
    · exact absurd (early steps below) (leads.ends (Nat.lt_trans below (by decide +kernel)))
    · exact same
    · exact absurd (leads.goesOn 4 above) halts
  rw [words] at messages output
  refine ⟨exitCode, ?_, ?_⟩
  · rw [messages]
    decide +kernel
  · rw [output]
    decide +kernel

end SimulateTool
end ByteMachine
