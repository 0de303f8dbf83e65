import ByteMachine.Proofs.Assembly.AssemblerRuns
import ByteMachine.Proofs.Assembly.SourceLayout

/-!
# Where diagnostics point

Whatever an assembler reports, the report is on a line of the source that is not blank: it has the
place and the text of this line.  The cause of such a report is told in one line, and so is its
hint, so that the message is made of as many lines as it has parts, with the caret below the first
character of the source line that is no blank.
-/

namespace ByteMachine

/-! ## Blanks before a line -/

namespace Text

theorem trimEnd_eq_append {text : Text} (solid : trim text ≠ []) :
    trimEnd text = text.takeWhile isBlank ++ trim text := by
  have present : ¬(text.trimStart.reverse.dropWhile isBlank).isEmpty := by
    rw [List.isEmpty_iff]
    exact fun empty => solid (List.reverse_eq_nil_iff.mpr empty)
  have parts : text.reverse = text.trimStart.reverse ++ (text.takeWhile isBlank).reverse := by
    rw [← List.reverse_append, trimStart, List.takeWhile_append_dropWhile]
  rw [trimEnd, dropEndWhile, parts, List.dropWhile_append, if_neg present, List.reverse_append,
    List.reverse_reverse]
  rfl

/-- The first character of a line that is no blank is found behind the margin and the blanks at the
start of the line, also when the blanks at the end are left out. -/
theorem findIdx?_margin_trimEnd {margin text : Text} (blank : ∀ c ∈ margin, isBlank c = true)
    (solid : trim text ≠ []) :
    (margin ++ trimEnd text).findIdx? (!isBlank ·) =
      some (margin.length + (text.takeWhile isBlank).length) := by
  obtain ⟨c, rest, trimmed⟩ := List.exists_cons_of_ne_nil solid
  have first : isBlank c = false := by
    have parts : trim text ++ text.trimStart.rtakeWhile isBlank = text.trimStart :=
      List.rdropWhile_append_rtakeWhile
    have stops := List.head?_dropWhile_not isBlank text
    rw [← trimStart, ← parts, trimmed] at stops
    exact stops
  have indented : ∀ c ∈ margin ++ text.takeWhile isBlank, isBlank c = true := by
    intro c member
    rcases List.mem_append.mp member with outside | inside
    · exact blank c outside
    · exact List.mem_takeWhile_imp inside
  have absent : (margin ++ text.takeWhile isBlank).findIdx? (!isBlank ·) = none :=
    List.findIdx?_eq_none_iff.mpr fun c member => by rw [indented c member, Bool.not_true]
  rw [trimEnd_eq_append solid, ← List.append_assoc, trimmed, List.findIdx?_append, absent,
    Option.none_or, List.findIdx?_cons, first, Bool.not_false, if_pos rfl, Option.map_some,
    Nat.zero_add, List.length_append]

theorem mem_of_mem_trimEnd {c : Char} {text : Text} (member : c ∈ trimEnd text) : c ∈ text := by
  have prefixed : trimEnd text <+: text := List.rdropWhile_prefix ..
  exact prefixed.mem member

/-! ## Texts of one line -/

theorem not_mem_decimalNat (n : Nat) : '\n' ∉ decimalNat n := by
  intro member
  have digit := Nat.isDigit_of_mem_toDigits (by decide) (by decide) member
  contradiction

theorem not_mem_decimalInt (n : Int) : '\n' ∉ decimalInt n := by
  cases n with
  | ofNat n => exact not_mem_decimalNat n
  | negSucc n =>
      rw [decimalInt, List.mem_cons, not_or]
      exact ⟨by decide, not_mem_decimalNat (n + 1)⟩

theorem not_mem_quoted {text : Text} (clean : '\n' ∉ text) : '\n' ∉ quoted text := by
  simp [quoted, clean]

theorem not_mem_of_mem_lines {source text : Text} (member : text ∈ lines source) : '\n' ∉ text := by
  intro inside
  have impossible := isLineBreak_of_mem_lines member '\n' inside
  contradiction

end Text

/-! ## Causes told in one line -/

namespace Cause

open Text

/-- The description of a cause is one line, and so is the hint, which is not empty. -/
structure IsOneLine (cause : Cause) : Prop where
  /-- The description has no line feed. -/
  description : '\n' ∉ cause.description
  /-- Nor has the hint, and it says something. -/
  hint : ∀ hint ∈ cause.hint, hint ≠ [] ∧ '\n' ∉ hint

theorem isOneLine_expectation (mnemonic : Mnemonic) :
    IsOneLine (.operands mnemonic.expectation none) where
  description := by cases mnemonic <;> decide +kernel
  hint := nofun

theorem isOneLine_range (value greatest : Int) : IsOneLine (.range value greatest) where
  description :=
    List.not_mem_append (List.not_mem_append (by decide) (not_mem_decimalInt greatest)) (by decide)
  hint := by
    rintro hint ⟨⟩
    exact ⟨List.append_ne_nil_of_left_ne_nil (by decide) _,
      List.not_mem_append (by decide) (not_mem_decimalInt value)⟩

theorem isOneLine_label {label : Text} (clean : '\n' ∉ label) : IsOneLine (.label label) where
  description := List.not_mem_append (by decide) (not_mem_quoted clean)
  hint := by
    intro hint isHint
    obtain rfl := Option.some.inj isHint
    decide +kernel

theorem isOneLine_mnemonic {word : Text} (clean : '\n' ∉ word) : IsOneLine (.mnemonic word) where
  description := List.not_mem_append (by decide) (not_mem_quoted clean)
  hint := nofun

theorem suggestion_ne_nil (similar : List Text) : suggestion similar ≠ [] := by
  have opens : "did you mean ".toList ≠ [] := by decide
  exact List.append_ne_nil_of_left_ne_nil (List.append_ne_nil_of_left_ne_nil opens _) _

theorem not_mem_suggestion {similar : List Text} (clean : ∀ other ∈ similar, '\n' ∉ other) :
    '\n' ∉ suggestion similar := by
  refine List.not_mem_append (List.not_mem_append (by decide) fun member => ?_) (by decide)
  rcases mem_join member with between | ⟨text, isText, inside⟩
  · exact absurd between (by decide)
  · obtain ⟨other, isOther, rfl⟩ := List.mem_map.mp isText
    exact not_mem_quoted (clean other (List.mem_of_mem_take isOther)) inside

theorem isOneLine_undefinedSymbol {symbol : Text} {similar : List Text} (clean : '\n' ∉ symbol)
    (cleanSimilar : ∀ other ∈ similar, '\n' ∉ other) :
    IsOneLine (.undefinedSymbol symbol none similar) where
  description := List.not_mem_append (by decide) (not_mem_quoted clean)
  hint := by
    intro hint isHint
    change (if _ then some (suggestion similar) else none) = some hint at isHint
    obtain ⟨-, isSuggestion⟩ := Option.ite_none_right_eq_some.mp isHint
    rw [← Option.some.inj isSuggestion]
    exact ⟨suggestion_ne_nil similar, not_mem_suggestion cleanSimilar⟩

end Cause

/-! ## Causes found on a line -/

namespace SourceLine

theorem isOneLine_of_contents?_eq_error {text : Text} {cause : Cause} (clean : '\n' ∉ text)
    (failed : contents? text = .error (.reported cause)) : cause.IsOneLine := by
  obtain ⟨name, rfl, inside⟩ | ⟨line, word, read, isWord, isCause⟩ :=
    contents?_eq_error_cases failed
  · apply Cause.isOneLine_label
    exact List.not_mem_append (fun member => clean (inside _ member)) (by decide)
  · obtain ⟨front, rest, rfl, -⟩ := exists_isAround read isWord
    obtain rfl | ⟨mnemonic, rfl⟩ | ⟨count, rfl⟩ := isCause
    · exact Cause.isOneLine_mnemonic fun member => clean (by simp [member])
    · exact Cause.isOneLine_expectation mnemonic
    · exact Cause.isOneLine_range _ _

theorem isLabelName_of_ofText {text name : Text} {line : SourceLine}
    (read : ofText text = .ok line) (labelled : line.label = some name) :
    Operand.isLabelName name = true := by
  rw [ofText] at read
  simp only at read
  split at read
  next =>
    cases read
    rw [label_ofBody] at labelled
    cases labelled
  next =>
    split at read
    next named =>
      cases read
      rw [label_ofBody] at labelled
      cases labelled
      exact named
    next => cases read

end SourceLine

/-! ## Labels that are not defined -/

namespace Statement

theorem exists_operand_of_mem_cells {statement : Statement} {name : Text}
    (member : .label name ∈ statement.cells) :
    ∃ body, statement = .instruction body ∧ body.second .value = .label name := by
  cases statement with
  | instruction body =>
      rcases List.mem_pair.mp member with impossible | operand
      · cases impossible
      · exact ⟨body, rfl, operand.symm⟩
  | data bytes =>
      obtain ⟨_, -, impossible⟩ := List.mem_map.mp member
      cases impossible
  | origin address => cases member

end Statement

namespace PlacedLine

theorem exists_filling_of_refers {lines : List PlacedLine} {cell : Byte} {line : PlacedLine}
    {name : Text} (refers : Refers lines cell line name) :
    line ∈ lines ∧ ∃ address, line.filling cell address = some (.label name) := by
  obtain ⟨before, after, rfl, fills⟩ := exists_of_lastFilling refers
  exact ⟨List.mem_append_cons_self, _, fills⟩

theorem isLabelName_of_filling {file text name : Text} {number : Nat} {line : PlacedLine}
    {cell address : Byte} (read : read file number text = .ok line)
    (fills : line.filling cell address = some (.label name)) : Operand.isLabelName name = true := by
  obtain ⟨parts, _, -, isStatement, rfl⟩ := read_eq_ok_iff.mp read
  obtain ⟨statement, rfl, put⟩ := Option.bind_eq_some_iff.mp fills
  obtain ⟨offset, there, -⟩ := Image.exists_of_lastPut put
  obtain ⟨body, rfl, operand⟩ := Statement.exists_operand_of_mem_cells (List.mem_of_getElem? there)
  cases isWord : parts.mnemonic with
  | none =>
      rw [SourceLine.statement, isWord] at isStatement
      cases isStatement
  | some word =>
      obtain ⟨mnemonic, _, -, readWord, ⟨⟩⟩ :=
        SourceLine.exists_read_of_statement isWord isStatement
      exact Statement.isLabelName_of_read readWord operand

end PlacedLine

namespace Program

open PlacedLine

variable {file source : Text} {lines : List PlacedLine}

theorem isLabelName_of_mem_names (read : readLines file source = .ok lines) {name : Text}
    (member : name ∈ (Layout.ofLines lines).symbols.names) : Operand.isLabelName name = true := by
  obtain ⟨entry, isEntry, rfl⟩ := List.mem_map.mp member
  have defined : lastDefinition entry.1 0 lines ≠ none := by
    rw [← Layout.find?_ofLines]
    intro absent
    have apart := List.lookup_eq_none_iff.mp absent entry isEntry
    simp at apart
  rw [ne_eq, lastDefinition_eq_none_iff] at defined
  push Not at defined
  obtain ⟨line, isLine, labelled⟩ := defined
  obtain ⟨numbered, -, readLine⟩ := exists_of_mem_mapM read isLine
  obtain ⟨parts, _, ofText, -, rfl⟩ := read_eq_ok_iff.mp readLine
  exact SourceLine.isLabelName_of_ofText ofText labelled

theorem isOneLine_undefinedReport (read : readLines file source = .ok lines) {cell : Byte}
    {line : PlacedLine} {name : Text} (refers : Refers lines cell line name) :
    (Layout.undefinedReport lines line name).cause.IsOneLine := by
  obtain ⟨isLine, address, fills⟩ := exists_filling_of_refers refers
  obtain ⟨numbered, -, readLine⟩ := exists_of_mem_mapM read isLine
  have clean {label : Text} (named : Operand.isLabelName label = true) : '\n' ∉ label :=
    Operand.not_mem_of_isLabelName named rfl
  apply Cause.isOneLine_undefinedSymbol (clean (isLabelName_of_filling readLine fills))
  intro other isSimilar
  have defined := List.mem_of_mem_filter (List.mem_of_mem_take isSimilar)
  exact clean (isLabelName_of_mem_names read defined)

/-! ## Reports -/

/-- Every report is on a line of the source that is not blank. -/
theorem exists_reportOn_of_assemble {report : Diagnostic}
    (refused : assemble file source = .error (.reported report)) :
    ∃ number text, (number, text) ∈ numberedLines source ∧ report.cause.IsOneLine ∧
      report = reportOn file number text report.cause := by
  obtain unread | ⟨lines, read, cell, line, name, ⟨refers, -⟩, -, same⟩ :=
    assemble_eq_error_iff.mp refused
  · obtain ⟨before, ⟨number, text⟩, after, split, -, failed⟩ := mapM_eq_error_iff.mp unread
    have member : (number, text) ∈ numberedLines source := split ▸ List.mem_append_cons_self
    obtain ⟨-, isLine, -⟩ := getElem?_of_mem_numbered member
    obtain ⟨cause | numeral, noContents, same⟩ := read_eq_error_iff.mp failed
    · cases same
      have clean := Text.not_mem_of_mem_lines (List.mem_of_getElem? isLine)
      exact ⟨number, text, member, SourceLine.isOneLine_of_contents?_eq_error clean noContents, rfl⟩
    · cases same
  · cases same
    obtain ⟨isLine, -⟩ := exists_filling_of_refers refers
    obtain ⟨⟨number, text⟩, member, readLine⟩ := exists_of_mem_mapM read isLine
    refine ⟨number, text, member, isOneLine_undefinedReport read refers, ?_⟩
    obtain ⟨parts, statement, -, -, rfl⟩ := read_eq_ok_iff.mp readLine
    rw [Layout.undefinedReport, place_eq]
    rfl

end Program

/-! ## Messages -/

namespace Diagnostic

open Text PlacedLine

theorem not_mem_locationText {file : Text} (clean : '\n' ∉ file) (number column : Nat) :
    '\n' ∉ file ++ ':' :: decimalNat number ++ ':' :: decimalNat column := by
  simp only [List.mem_append, List.mem_cons, not_or]
  exact ⟨⟨clean, by decide, not_mem_decimalNat number⟩, by decide, not_mem_decimalNat column⟩

theorem headLine_reportOn (file : Text) (number : Nat) (text : Text) (cause : Cause) :
    (reportOn file number text cause).headLine =
      file ++ ':' :: decimalNat number ++ ':' ::
        decimalNat ((text.takeWhile isBlank).length + 1) ++ ": error: ".toList ++
        cause.description := by
  have marks : ": ".toList ++ "error: ".toList = ": error: ".toList := by decide
  change Location.text _ ++ ": ".toList ++ "error: ".toList ++ _ = _
  rw [List.append_assoc (Location.text _), marks]
  rfl

theorem excerpt_reportOn (file : Text) (number : Nat) (text : Text) (cause : Cause) :
    (reportOn file number text cause).excerpt =
      ["    ".toList ++ trimEnd text,
        List.replicate (4 + (text.takeWhile isBlank).length) ' ' ++ ['^']] := by
  have positive : (0 : Int) < (text.takeWhile isBlank).length + 1 := by omega
  have caret : (4 + ((text.takeWhile isBlank).length + 1 : Int) - 1).toNat =
      4 + (text.takeWhile isBlank).length := by
    omega
  rw [excerpt]
  simp only [reportOn, if_pos positive, caret]

theorem hintLine_of_isOneLine {diagnostic : Diagnostic} (isOneLine : diagnostic.cause.IsOneLine) :
    diagnostic.hintLine = diagnostic.cause.hint.toList.map ("hint: ".toList ++ ·) := by
  unfold hintLine
  cases given : diagnostic.cause.hint with
  | none => rfl
  | some hint =>
      cases hint with
      | nil => exact absurd rfl (isOneLine.hint [] given).1
      | cons c rest => rfl

/-- The lines of the message of a report on a line. -/
theorem pieces_message_reportOn {file text : Text} {cause : Cause} (number : Nat)
    (cleanFile : '\n' ∉ file) (cleanText : '\n' ∉ text) (isOneLine : cause.IsOneLine) :
    pieces '\n' (reportOn file number text cause).message =
      [file ++ ':' :: decimalNat number ++ ':' ::
          decimalNat ((text.takeWhile isBlank).length + 1) ++ ": error: ".toList ++
          cause.description,
        "    ".toList ++ trimEnd text,
        List.replicate (4 + (text.takeWhile isBlank).length) ' ' ++ ['^']] ++
      cause.hint.toList.map ("hint: ".toList ++ ·) := by
  have hintLine : (reportOn file number text cause).hintLine = _ := hintLine_of_isOneLine isOneLine
  have parts : (reportOn file number text cause).message = joinLines _ := rfl
  rw [parts, headLine_reportOn, excerpt_reportOn, hintLine]
  refine pieces_join (List.cons_ne_nil _ _) fun line member => ?_
  rcases List.mem_append.mp member with shown | isHint
  · rcases List.mem_cons.mp shown with rfl | excerpted
    · exact List.not_mem_append
        (List.not_mem_append (not_mem_locationText cleanFile number _) (by decide))
        isOneLine.description
    · rcases List.mem_pair.mp excerpted with rfl | rfl
      · exact List.not_mem_append (by decide) fun inside => cleanText (mem_of_mem_trimEnd inside)
      · simp [List.mem_replicate]
  · obtain ⟨hint, given, rfl⟩ := List.mem_map.mp isHint
    exact List.not_mem_append (by decide) (isOneLine.hint hint (Option.mem_toList.mp given)).2

end Diagnostic

namespace Assembler

open Text

/-- Diagnostics point at a line.  Whatever an assembler reports on a source whose name has no line
feed in it, the report has the place and the text of a line of the source, without the blanks at its
end.  The message has the place and the description on its first line, then that line of the source,
then a caret below the first character of the line that is no blank, then the hint if there is one,
and nothing else. -/
theorem report_points_at_line (assembler : Assembler) {file source : Text} {report : Diagnostic}
    (unbroken : '\n' ∉ file)
    (refused : (assembler.assemble file source).1 = .error (.reported report)) :
    ∃ number column line index,
      1 ≤ number ∧ number ≤ (lines source).length ∧ (lines source)[number - 1]? = some line ∧
      report.location = some ⟨file, (number : Nat), (column : Nat)⟩ ∧
      report.sourceLine = some (trimEnd line) ∧
      ("    ".toList ++ trimEnd line).findIdx? (!isBlank ·) = some index ∧
      pieces '\n' report.message =
        [file ++ ':' :: decimalNat number ++ ':' :: decimalNat column ++ ": error: ".toList ++
            report.cause.description,
          "    ".toList ++ trimEnd line,
          List.replicate index ' ' ++ ['^']] ++
        report.cause.hint.toList.map ("hint: ".toList ++ ·) := by
  have failed : Program.assemble file source = .error (.reported report) := by
    rw [assemble_eq] at refused
    cases result : Program.assemble file source with
    | ok program =>
        rw [result] at refused
        cases refused
    | error fault =>
        rw [result] at refused
        cases refused
        rfl
  obtain ⟨number, line, member, isOneLine, isReport⟩ := Program.exists_reportOn_of_assemble failed
  obtain ⟨positive, isLine, solid⟩ := getElem?_of_mem_numbered member
  have clean := not_mem_of_mem_lines (List.mem_of_getElem? isLine)
  obtain ⟨inside, -⟩ := List.getElem?_eq_some_iff.mp isLine
  refine ⟨number, (line.takeWhile isBlank).length + 1, line,
    4 + (line.takeWhile isBlank).length, positive, by omega, isLine, ?_, ?_, ?_, ?_⟩
  · rw [isReport]
    rfl
  · rw [isReport]
    rfl
  · have blank : ∀ c ∈ "    ".toList, isBlank c = true := List.all_eq_true.mp (by decide)
    exact findIdx?_margin_trimEnd blank solid
  · have message := Diagnostic.pieces_message_reportOn number unbroken clean isOneLine
    rwa [← isReport] at message

/-- A label is misspelled on the third line, which is indented; a blank line stands before it. -/
theorem report_points_at_misspelled_label :
    let file := "prog.asm".toList
    let source := "loop: halt\n\n\t jmp lop ; again \n".toList
    ∃ report, (fresh.assemble file source).1 = .error (.reported report) ∧
      report.cause = .undefinedSymbol "lop".toList none ["loop".toList] ∧
      report.location = some ⟨file, 3, 3⟩ ∧
      pieces '\n' report.message =
        ["prog.asm:3:3: error: undefined symbol 'lop'".toList,
          "    \t jmp lop ; again".toList,
          "      ^".toList,
          "hint: did you mean 'loop'?".toList] := by
  intro file source
  let report : Diagnostic :=
    ⟨.undefinedSymbol "lop".toList none ["loop".toList], some ⟨file, 3, 3⟩,
      some "\t jmp lop ; again".toList⟩
  have refused : (fresh.assemble file source).1 = .error (.reported report) := by decide +kernel
  obtain ⟨number, column, line, index, -, -, isLine, located, -, below, shown⟩ :=
    report_points_at_line fresh (by decide : '\n' ∉ file) refused
  obtain ⟨rfl, rfl⟩ : number = 3 ∧ column = 3 := by
    simp only [report, Option.some.injEq, Location.mk.injEq] at located
    omega
  obtain rfl : "\t jmp lop ; again ".toList = line := Option.some.inj isLine
  obtain rfl : 6 = index := Option.some.inj below
  refine ⟨report, refused, rfl, rfl, shown.trans ?_⟩
  decide +kernel

end Assembler
end ByteMachine
