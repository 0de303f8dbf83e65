import ByteMachine.Proofs.Assembly.DiagnosticPlaces
import ByteMachine.Proofs.Assembly.ListingAccount
import ByteMachine.Proofs.CommandLine.Calls
import ByteMachine.Proofs.CommandLine.FileWriting
import ByteMachine.Proofs.CommandLine.Printing

/-!
# The assembler delivers everything or nothing

When a source cannot be assembled, the tool prints why, and no file is written.  When it can be, and
each of the files to be written can be, every one of them is, and the code is shown if it is not
written.
-/

namespace ByteMachine
namespace AssembleTool

open LogLevel Text

/-! ## Work -/

section

variable {α β : Type} {platform : Platform} {verbose : Bool} {files later : Files}
  {said noted : List Text}

/-- A result or a failure, with the desk that is left behind. -/
def ended : Except ToolFailure α → Desk → EStateM.Result ToolFailure Desk α
  | .ok value, desk => .ok value desk
  | .error failure, desk => .error failure desk

/-- Whatever was printed before, some work has a result or fails, turns some files into others, and
prints lines on the output and in the log. -/
def ComesTo (platform : Platform) (work : Work α) (verbose : Bool) (files : Files)
    (result : Except ToolFailure α) (later : Files) (said noted : List Text) : Prop :=
  ∀ terminal, ∃ after,
    work ⟨files, terminal⟩ = ended result ⟨later, after⟩ ∧
    after.output.toList = terminal.output.toList ++ platform.printed said ∧
    after.messages.toList = terminal.messages.toList ++ debug.logged verbose noted

theorem comesTo_pure (value : α) :
    ComesTo platform (pure value) verbose files (.ok value) files [] [] :=
  fun terminal => ⟨terminal, rfl, (List.append_nil _).symm, by simp [logged]⟩

theorem comesTo_throw (failure : ToolFailure) :
    ComesTo platform (throw failure : Work α) verbose files (.error failure) files [] [] :=
  fun terminal => ⟨terminal, rfl, (List.append_nil _).symm, by simp [logged]⟩

theorem ComesTo.bind {first : Work α} {next : α → Work β} {value : α}
    {result : Except ToolFailure β} {middle : Files} {moreSaid moreNoted : List Text}
    (done : ComesTo platform first verbose files (.ok value) middle said noted)
    (more : ComesTo platform (next value) verbose middle result later moreSaid moreNoted) :
    ComesTo platform (first >>= next) verbose files result later (said ++ moreSaid)
      (noted ++ moreNoted) := by
  intro terminal
  obtain ⟨between, first, output, messages⟩ := done terminal
  obtain ⟨after, next, moreOutput, moreMessages⟩ := more between
  refine ⟨after, ?_, ?_, ?_⟩
  · change EStateM.bind _ _ _ = _
    rw [EStateM.bind, first]
    exact next
  · rw [moreOutput, output, Platform.printed_append, List.append_assoc]
  · rw [moreMessages, messages, logged_append, List.append_assoc]

theorem ComesTo.andThen {first : Work PUnit} {next : Work β} {result : Except ToolFailure β}
    {middle : Files} {moreSaid moreNoted : List Text}
    (done : ComesTo platform first verbose files (.ok ()) middle said noted)
    (more : ComesTo platform next verbose middle result later moreSaid moreNoted) :
    ComesTo platform (first >>= fun _ => next) verbose files result later (said ++ moreSaid)
      (noted ++ moreNoted) :=
  done.bind more

theorem ComesTo.bind_of_error {first : Work α} (next : α → Work β) {failure : ToolFailure}
    (failed : ComesTo platform first verbose files (.error failure) later said noted) :
    ComesTo platform (first >>= next) verbose files (.error failure) later said noted := by
  intro terminal
  obtain ⟨after, first, output, messages⟩ := failed terminal
  refine ⟨after, ?_, output, messages⟩
  change EStateM.bind _ _ _ = _
  rw [EStateM.bind, first]
  rfl

/-- Work that looks at the desk first. -/
theorem ComesTo.of_get {next : Desk → Work α} {result : Except ToolFailure α}
    (more : ∀ terminal,
      ComesTo platform (next ⟨files, terminal⟩) verbose files result later said noted) :
    ComesTo platform (get >>= next) verbose files result later said noted :=
  fun terminal => more terminal terminal

theorem comesTo_putFiles :
    ComesTo platform (modify fun desk => { desk with files := later }) verbose files (.ok ()) later
      [] [] :=
  fun terminal => ⟨terminal, rfl, (List.append_nil _).symm, by simp [logged]⟩

theorem comesTo_print_say (text : Text) :
    ComesTo platform (print (platform.say text)) verbose files (.ok ()) files [text] [] :=
  fun terminal =>
    ⟨platform.say text terminal, rfl, Platform.output_say text terminal, by simp [logged]⟩

theorem comesTo_print_log (verbose : Bool) (files : Files) (text : Text) :
    ComesTo platform (print (Terminal.log verbose .debug text)) verbose files (.ok ()) files []
      [text] :=
  fun terminal => ⟨terminal.log verbose .debug text, rfl, by simp [Platform.printed_nil],
    Terminal.messages_log text terminal verbose .debug⟩

/-- Lines that are said only if much is to be said. -/
def spoken (verbose : Bool) (lines : List Text) : List Text :=
  if verbose then lines else []

theorem spoken_nil : spoken verbose [] = [] := by
  cases verbose <;> rfl

theorem spoken_append (lines more : List Text) :
    spoken verbose (lines ++ more) = spoken verbose lines ++ spoken verbose more := by
  cases verbose <;> rfl

theorem comesTo_say (text : Text) :
    ComesTo platform (say platform verbose text) verbose files (.ok ()) files
      (spoken verbose [text]) [] := by
  cases verbose with
  | true => exact comesTo_print_say text
  | false => exact comesTo_pure ()

theorem comesTo_write {file : Text} {bytes : List Byte}
    (written : files.write file bytes = .ok later) :
    ComesTo platform (write verbose file bytes) verbose files (.ok ()) later []
      ["Wrote ".toList ++ file] := by
  refine ComesTo.of_get fun terminal => ?_
  rw [written]
  exact comesTo_putFiles.andThen (comesTo_print_log _ _ _)

/-- The file that is to be written, if there is one, with what it will hold. -/
def delivery (file : Option Text) (bytes : List Byte) : List (Text × List Byte) :=
  file.toList.map fun file => (plainPath file, bytes)

/-- What is said when a file has been written. -/
def receipt (file : Option Text) (what : Text) : List Text :=
  file.toList.map fun file => "Wrote ".toList ++ what ++ " to ".toList ++ plainPath file

/-- What is noted in the log when a file has been written. -/
def note (file : Option Text) : List Text :=
  file.toList.map fun file => "Wrote ".toList ++ plainPath file

theorem comesTo_writeNamed (verbose : Bool) {file : Option Text} {content : Work (List Byte)}
    {bytes : List Byte} (what : Text) (known : content = pure bytes)
    (written : files.writeAll (delivery file bytes) = .ok later) :
    ComesTo platform (writeNamed platform verbose file content what) verbose files (.ok ()) later
      (spoken verbose (receipt file what)) (note file) := by
  cases file with
  | none =>
      cases written
      cases verbose <;> exact comesTo_pure ()
  | some file =>
      rw [delivery, Option.toList_some, List.map_singleton, Files.writeAll_singleton] at written
      rw [writeNamed, known]
      exact (comesTo_pure bytes).bind ((comesTo_write written).andThen (comesTo_say _))

theorem comesTo_remarks (verbose : Bool) (files : Files) (remarks : List Remark) :
    ComesTo platform (forIn remarks PUnit.unit fun remark _ => do
        print (Terminal.log verbose .debug remark.text)
        pure (.yield PUnit.unit)) verbose files (.ok ()) files [] (remarks.map Remark.text) := by
  induction remarks with
  | nil => exact comesTo_pure ()
  | cons remark rest induction =>
      rw [List.forIn_cons]
      exact ((comesTo_print_log verbose files remark.text).andThen (comesTo_pure _)).bind induction

end

/-! ## What is delivered -/

section

variable {platform : Platform} {chosen : Arguments AssembleOption} {program : Program}
  {listing : Text} {files later : Files}

/-- The files that are to be written, with what they will hold, in the order of writing. -/
def deliveries (chosen : Arguments AssembleOption) (program : Program) (listing : Text) :
    List (Text × List Byte) :=
  delivery (chosen.file? .output) program.code ++
    delivery (chosen.file? .listing) (encodeUtf8 listing) ++
      delivery (chosen.file? .symbols) (encodeUtf8 (Assembler.mk (some program)).symbolListing)

/-- The code as it is shown when it is not written. -/
def codeShown (chosen : Arguments AssembleOption) (program : Program) : List Text :=
  match chosen.file? .output with
  | none => [hexDump program.code]
  | some _ => []

theorem printed_codeShown (faithful : platform.Faithful) (chosen : Arguments AssembleOption)
    (program : Program) :
    platform.printed (codeShown chosen program) =
      if chosen.file? .output = none then hexDump program.code ++ ['\n'] else [] := by
  rw [codeShown]
  cases chosen.file? .output with
  | none =>
      rw [faithful.printed_singleton_of_clear (isClear_hexDump _), if_pos rfl]
  | some file => rfl

/-- The line with the size of a program. -/
def sizeLine (program : Program) : Text :=
  "Assembly complete: ".toList ++ decimalNat (program.code.length / 2) ++
    " instructions (".toList ++ bytesText program.code ++ [')']

/-- The line with the number of labels of a program. -/
def symbolCountLine (program : Program) : Text :=
  "Defined ".toList ++ decimalNat (Assembler.mk (some program)).symbols.size ++ " symbols".toList

/-- What is said about the files that were written and about the program. -/
def summary (chosen : Arguments AssembleOption) (program : Program) : List Text :=
  receipt (chosen.file? .output) (bytesText program.code) ++
    receipt (chosen.file? .listing) "listing".toList ++
    receipt (chosen.file? .symbols) "symbols".toList ++
    [sizeLine program, symbolCountLine program]

/-- What is noted in the log about the files that were written. -/
def notes (chosen : Arguments AssembleOption) : List Text :=
  note (chosen.file? .output) ++ note (chosen.file? .listing) ++
    note (chosen.file? .symbols)

theorem listingBytes_eq (isListing : (Assembler.mk (some program)).listing? = some listing) :
    listingBytes ⟨some program⟩ = pure (encodeUtf8 listing) := by
  rw [listingBytes, isListing]

theorem comesTo_deliver (isListing : (Assembler.mk (some program)).listing? = some listing)
    (written : files.writeAll (deliveries chosen program listing) = .ok later) :
    ComesTo platform (deliver platform chosen program) (chosen.has .verbose) files (.ok ()) later
      (codeShown chosen program ++
        spoken (chosen.has .verbose) (summary chosen program))
      (notes chosen) := by
  obtain ⟨listed, writtenTwo, writtenSymbols⟩ := Files.writeAll_append_eq_ok_iff.mp written
  obtain ⟨coded, writtenCode, writtenListing⟩ := Files.writeAll_append_eq_ok_iff.mp writtenTwo
  have writeListing := @comesTo_writeNamed platform _ _ (chosen.has .verbose) _ _ _ "listing".toList
    (listingBytes_eq isListing) writtenListing
  have rest := writeListing.andThen
    ((comesTo_writeNamed _ "symbols".toList rfl writtenSymbols).andThen
      ((comesTo_say (sizeLine program)).andThen (comesTo_say (symbolCountLine program))))
  have pair : [sizeLine program, symbolCountLine program] =
      [sizeLine program] ++ [symbolCountLine program] := rfl
  have allNotes : notes chosen = note (chosen.file? .output) ++
      (note (chosen.file? .listing) ++ (note (chosen.file? .symbols) ++ ([] ++ []))) := by
    simp [notes]
  rw [summary, pair, spoken_append, spoken_append, spoken_append, spoken_append, List.append_assoc,
    List.append_assoc, codeShown, allNotes, deliver]
  cases isOutput : chosen.file? .output with
  | none =>
      rw [isOutput] at writtenCode
      cases writtenCode
      have nothing : receipt none (bytesText program.code) = [] := rfl
      rw [nothing, spoken_nil, List.nil_append]
      exact (comesTo_print_say (hexDump program.code)).andThen rest
  | some file =>
      rw [isOutput] at writtenCode
      exact (comesTo_writeNamed _ (bytesText program.code) rfl writtenCode).andThen rest

end

/-! ## The whole tool -/

section

variable {platform : Platform} {chosen : Arguments AssembleOption} {program : Program}
  {files later : Files} {source listing : Text}

theorem comesTo_assemble (verbose : Bool) (files : Files) (file source : Text) :
    ComesTo platform (assemble verbose file source) verbose files
      ((Program.assemble file source).mapError ToolFailure.ofFault) files []
      ((Program.remarks file source).map Remark.text) := by
  have remarked := @comesTo_remarks platform verbose files (Program.remarks file source)
  rw [assemble, ← List.append_nil (List.map _ _)]
  cases Program.assemble file source with
  | ok program => exact remarked.andThen (comesTo_pure program)
  | error fault => exact remarked.andThen (comesTo_throw (.ofFault fault))

/-- What is said before a source is read. -/
def openingLine (input : Text) : Text :=
  "Assembling ".toList ++ plainPath input ++ "...".toList

/-- What is noted in the log while a source is assembled. -/
def assemblyNotes (input source : Text) : List Text :=
  ("Assembling ".toList ++ plainPath input) ::
    (Program.remarks (plainPath input) source).map Remark.text

theorem comesTo_work_of_error {fault : Fault Diagnostic}
    (readable : readSource files (plainPath chosen.input) = .ok source)
    (refused : Program.assemble (plainPath chosen.input) source = .error fault) :
    ComesTo platform (work platform chosen) (chosen.has .verbose) files (.error (.ofFault fault))
      files (spoken (chosen.has .verbose) [openingLine chosen.input])
      (assemblyNotes chosen.input source) := by
  have failed :=
    @comesTo_assemble platform (chosen.has .verbose) files (plainPath chosen.input) source
  rw [refused] at failed
  rw [work, ← List.append_nil (spoken _ _)]
  refine (comesTo_say _).andThen ((comesTo_print_log _ _ _).andThen (ComesTo.of_get fun terminal => ?_))
  rw [readable]
  exact failed.bind_of_error _

theorem comesTo_work_of_ok (readable : readSource files (plainPath chosen.input) = .ok source)
    (assembled : Program.assemble (plainPath chosen.input) source = .ok program)
    (isListing : (Assembler.mk (some program)).listing? = some listing)
    (written : files.writeAll (deliveries chosen program listing) = .ok later) :
    ComesTo platform (work platform chosen) (chosen.has .verbose) files (.ok ()) later
      (spoken (chosen.has .verbose) [openingLine chosen.input] ++ (codeShown chosen program ++
        spoken (chosen.has .verbose) (summary chosen program)))
      (assemblyNotes chosen.input source ++ notes chosen) := by
  have done := @comesTo_assemble platform (chosen.has .verbose) files (plainPath chosen.input) source
  rw [assembled] at done
  rw [work]
  refine (comesTo_say _).andThen ((comesTo_print_log _ _ _).andThen (ComesTo.of_get fun terminal => ?_))
  rw [readable]
  exact done.bind (comesTo_deliver isListing written)

theorem run_of_call {given : List Text}
    (asks : platform.read declaration files given = .call chosen) :
    run platform given files = outcome platform files chosen := by
  rw [run, Platform.call, asks]

theorem outcome_of_ok {said noted : List Text}
    (done : ComesTo platform (work platform chosen) (chosen.has .verbose) files (.ok ()) later said
      noted) :
    (outcome platform files chosen).files = later ∧
      (outcome platform files chosen).terminal.output.toList = platform.printed said ∧
      (outcome platform files chosen).exitCode = .success ∧
      (outcome platform files chosen).terminal.messages.toList =
        debug.logged (chosen.has .verbose) noted := by
  obtain ⟨after, ended, output, messages⟩ := done .blank
  rw [outcome, EStateM.run, ended]
  exact ⟨rfl, output, rfl, messages⟩

theorem outcome_of_error {failure : ToolFailure} {said noted : List Text}
    (done : ComesTo platform (work platform chosen) (chosen.has .verbose) files (.error failure) later
      said noted) :
    (outcome platform files chosen).files = later ∧
      (outcome platform files chosen).terminal.output.toList = platform.printed said ∧
      (outcome platform files chosen).exitCode = failure.exitCode ∧
      (outcome platform files chosen).terminal.messages.toList =
        debug.logged (chosen.has .verbose) noted ++
          (platform.printed [failure.text assemblyKind] ++
            platform.traced (chosen.has .verbose) failure) := by
  obtain ⟨after, ended, output, messages⟩ := done .blank
  rw [outcome, EStateM.run, ended]
  refine ⟨rfl, ?_, rfl, ?_⟩
  · exact (congrArg Array.toList Platform.output_reportFailure).trans output
  · exact Platform.messages_reportFailure.trans (congrArg (· ++ _) messages)

theorem isClear_overlong (numeral : OverlongNumeral) :
    IsClear ((ToolFailure.ofFault (.overlong numeral)).text assemblyKind) := by
  have front : IsClear
      "Exceeds the limit (4300 digits) for integer string conversion: value has ".toList := by
    decide +kernel
  have back : IsClear " digits; use sys.set_int_max_str_digits() to increase the limit".toList := by
    decide +kernel
  have message : numeral.message.IsClear :=
    isClear_append.mpr ⟨isClear_append.mpr ⟨front, (isPlain_decimalNat _).isClear⟩, back⟩
  exact isClear_append.mpr ⟨by decide, message⟩

/-- When the source of the input file cannot be assembled, the tool ends with the code for a faulty
source, or for a fault of its own when a decimal numeral is too long; it prints the message on the
error stream, in full if it has no escape character, and where the fault comes from only if the fault
is the tool's own and much is to be said; all files stay as they are.  When it can be and the files
named for the code, the listing and the labels can be written, the tool succeeds: the path of each
name holds what was delivered last to it, in this order, and every other path holds what it held; the
code is shown exactly when no file is named for it. -/
theorem delivers_everything_or_nothing {given : List Text} (faithful : platform.Faithful)
    (asks : platform.read declaration files given = .call chosen)
    (readable : readSource files (plainPath chosen.input) = .ok source) :
    let outcome := run platform given files
    let verbose := chosen.has .verbose
    let opening := spoken verbose [openingLine chosen.input]
    let noted := assemblyNotes chosen.input source
    (∀ report, Program.assemble (plainPath chosen.input) source = .error (.reported report) →
      outcome.exitCode.number = 1 ∧ outcome.files = files ∧
      outcome.terminal.output.toList = platform.printed opening ∧
      outcome.terminal.messages.toList =
        debug.logged verbose noted ++ platform.shown (report.message ++ ['\n']) ∧
      (report.message.IsClear → outcome.terminal.messages.toList =
        debug.logged verbose noted ++ (report.message ++ ['\n']))) ∧
    (∀ numeral, Program.assemble (plainPath chosen.input) source = .error (.overlong numeral) →
      outcome.exitCode.number = 3 ∧ outcome.files = files ∧
      outcome.terminal.output.toList = platform.printed opening ∧
      outcome.terminal.messages.toList =
        debug.logged verbose noted ++ ("Internal error: ".toList ++ numeral.message ++ ['\n'] ++
          if verbose then platform.traceback (.internal numeral.message) else [])) ∧
    ∀ program, Program.assemble (plainPath chosen.input) source = .ok program →
      ∃ listing, (Assembler.mk (some program)).listing? = some listing ∧
      ((∀ delivery ∈ deliveries chosen program listing,
          ∃ path, files.LeadsToFile delivery.1 path) →
        outcome.exitCode.number = 0 ∧
        (∀ path, outcome.files.node? path =
          ((files.delivered? path (deliveries chosen program listing)).map FileNode.file).or
            (files.node? path)) ∧
        outcome.terminal.output.toList = platform.printed opening ++
          (if chosen.file? .output = none then hexDump program.code ++ ['\n'] else []) ++
          platform.printed (spoken verbose (summary chosen program)) ∧
        outcome.terminal.messages.toList = debug.logged verbose (noted ++ notes chosen)) := by
  intro outcome verbose opening noted
  have isOutcome : outcome = AssembleTool.outcome platform files chosen := run_of_call asks
  rw [isOutcome]
  refine ⟨fun report refused => ?_, fun numeral refused => ?_, fun program assembled => ?_⟩
  · obtain ⟨sameFiles, output, exitCode, messages⟩ :=
      outcome_of_error (comesTo_work_of_error readable refused)
    obtain ⟨number, text, -, -, located⟩ := Program.exists_reportOn_of_assemble refused
    have plain : (ToolFailure.ofFault (.reported report)).text assemblyKind = report.message := by
      rw [located]
      rfl
    rw [plain, Platform.printed_singleton] at messages
    have shown : _ = debug.logged verbose noted ++ platform.shown (report.message ++ ['\n']) :=
      messages.trans (congrArg _ (List.append_nil _))
    refine ⟨congrArg ExitCode.number exitCode, sameFiles, output, shown, fun clear => ?_⟩
    rw [shown, faithful.shown_of_isClear _ (isClear_append.mpr ⟨clear, by decide⟩)]
  · obtain ⟨sameFiles, output, exitCode, messages⟩ :=
      outcome_of_error (comesTo_work_of_error readable refused)
    rw [faithful.printed_singleton_of_clear (isClear_overlong numeral)] at messages
    exact ⟨congrArg ExitCode.number exitCode, sameFiles, output, messages⟩
  · obtain ⟨shown, -, isListing⟩ := Program.exists_listing assembled
    refine ⟨_, isListing, fun ready => ?_⟩
    obtain ⟨later, written, nodes⟩ := Files.exists_writeAll ready
    obtain ⟨sameFiles, output, exitCode, messages⟩ :=
      outcome_of_ok (comesTo_work_of_ok readable assembled isListing written)
    rw [Platform.printed_append, Platform.printed_append, printed_codeShown faithful,
      ← List.append_assoc] at output
    exact ⟨congrArg ExitCode.number exitCode, sameFiles ▸ nodes, output, messages⟩

/-- The code and the labels are written; of a source that cannot be assembled nothing is. -/
theorem delivers_code_and_labels :
    let given := commandLine (some ['x']) none (some ['y']) true "a.asm".toList
    let desk (source : Text) : Files := ⟨[(["a.asm".toList], .file (encodeUtf8 source))]⟩
    (∃ program, Program.assemble "a.asm".toList "go: jmp go".toList = .ok program ∧
      program.code = [0xB0, 0] ∧
      let outcome := run .conventional given (desk "go: jmp go".toList)
      outcome.exitCode.number = 0 ∧
      outcome.files.node? [['x']] = some (.file program.code) ∧
      outcome.files.node? [['y']] =
        some (.file (encodeUtf8 (Assembler.mk (some program)).symbolListing))) ∧
      (run .conventional given (desk "jmp go".toList)).exitCode.number = 1 ∧
      (run .conventional given (desk "jmp go".toList)).files = desk "jmp go".toList := by
  intro given desk
  let chosen := (parts (some ['x']) none (some ['y']) true "a.asm".toList).arguments "a.asm".toList
  have asks {source : Text}
      (isFile : (desk source).find? "a.asm".toList = some (.file (encodeUtf8 source)))
      (free : ∀ file ∈ [['x'], ['y']], (desk source).find? file ≠ some .directory) :
      Platform.conventional.read declaration (desk source) given = .call chosen :=
    read_commandLine true isFile free
  obtain ⟨program, assembled, code⟩ : ∃ program,
      Program.assemble (plainPath "a.asm".toList) "go: jmp go".toList = .ok program ∧
        program.code = [0xB0, 0] := ⟨_, rfl, rfl⟩
  have readableGood : readSource (desk "go: jmp go".toList) (plainPath "a.asm".toList) =
      .ok "go: jmp go".toList := by decide +kernel
  have readableBad : readSource (desk "jmp go".toList) (plainPath "a.asm".toList) =
      .ok "jmp go".toList := by decide +kernel
  have atCode : (desk "go: jmp go".toList).LeadsToFile ['x'] [['x']] :=
    ⟨by decide +kernel, by decide +kernel⟩
  have atLabels : (desk "go: jmp go".toList).LeadsToFile ['y'] [['y']] :=
    ⟨by decide +kernel, by decide +kernel⟩
  obtain ⟨report, refused⟩ : ∃ report,
      Program.assemble (plainPath "a.asm".toList) "jmp go".toList = .error (.reported report) :=
    ⟨_, rfl⟩
  obtain ⟨-, -, done⟩ := delivers_everything_or_nothing Platform.conventional_faithful
    (asks (by decide +kernel) (by decide +kernel)) readableGood
  obtain ⟨failed, -⟩ := delivers_everything_or_nothing Platform.conventional_faithful
    (asks (by decide +kernel) (by decide +kernel)) readableBad
  obtain ⟨listing, -, done⟩ := done program assembled
  have files : deliveries chosen program listing =
      [(['x'], program.code),
        (['y'], encodeUtf8 (Assembler.mk (some program)).symbolListing)] := rfl
  rw [files] at done
  obtain ⟨exitCode, nodes, -⟩ := done fun delivery member => by
    rw [List.mem_pair] at member
    obtain rfl | rfl := member
    · exact ⟨_, atCode⟩
    · exact ⟨_, atLabels⟩
  obtain ⟨exitCodeBad, sameFiles, -⟩ := failed _ refused
  refine ⟨⟨program, assembled, code, exitCode, ?_, ?_⟩, exitCodeBad, sameFiles⟩
  all_goals
    rw [nodes, Files.delivered?, Files.delivered?, Files.delivered?, atCode.1, atLabels.1]
    rfl

/-- One name for the code and for the listing leaves only the listing, and a message that quotes a
control sequence is printed without it. -/
theorem delivers_last_of_one_name :
    (let files : Files := ⟨[(["a.asm".toList], .file (encodeUtf8 "halt".toList))]⟩
      let outcome :=
        run .conventional (["-o", "x", "-l", "x", "a.asm"].map String.toList) files
      ∃ program, Program.assemble "a.asm".toList "halt".toList = .ok program ∧
        outcome.exitCode.number = 0 ∧ files.LeadsToFile ['x'] [['x']] ∧
        outcome.files.node? [['x']] ≠ some (.file program.code)) ∧
      let source := escapeCharacter :: "[1m".toList
      let files : Files := ⟨[(["a.asm".toList], .file (encodeUtf8 source))]⟩
      ∃ report, Program.assemble "a.asm".toList source = .error (.reported report) ∧
        (run .conventional ["a.asm".toList] files).terminal.messages.toList ≠
          report.message ++ ['\n'] := by
  refine ⟨⟨_, rfl, by decide +kernel, ⟨by decide +kernel, by decide +kernel⟩, by decide +kernel⟩,
    _, rfl, by decide +kernel⟩

end

end AssembleTool
end ByteMachine
