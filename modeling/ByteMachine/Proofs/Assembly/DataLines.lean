import ByteMachine.Proofs.Assembly.AssemblerRuns
import ByteMachine.Proofs.Assembly.DataWords
import ByteMachine.Proofs.Assembly.LineContents
import ByteMachine.Proofs.Assembly.OperandForms

/-!
# Lines of data

A data line puts down what its operands stand for, one operand after another.  It can be read exactly
when each operand makes a data line of its own that can be read, and then it does to an image what
these lines do to it in order; a line that cannot be read puts nothing down.  A text between quotation
marks stands for its characters.
-/

namespace ByteMachine

/-! ## Bytes of operands -/

namespace Statement

/-- The operands stand for bytes, each operand for a part of its own. -/
def StandFor (operands : List Text) (parts : List (List Byte)) : Prop :=
  List.Forall₂ (fun operand part => readDatum operand = .ok (some part)) operands parts

/-- Operands of data are read when each of them is, and what they stand for comes in their order. -/
theorem readData_eq_ok_iff {operands : List Text} {bytes : List Byte} :
    readData operands = .ok (some bytes) ↔
      ∃ parts, StandFor operands parts ∧ bytes = parts.flatten := by
  induction operands generalizing bytes with
  | nil => simp [readData, StandFor, eq_comm]
  | cons operand rest induction =>
      rw [readData, bind_eq_ok_iff]
      constructor
      · rintro ⟨found, datum, read⟩
        cases found with
        | none => cases read
        | some part =>
            obtain ⟨others, readRest, same⟩ := bind_eq_ok_iff.mp read
            obtain ⟨more, rfl, rfl⟩ := Option.map_eq_some_iff.mp (Except.ok.inj same)
            obtain ⟨parts, each, rfl⟩ := induction.mp readRest
            exact ⟨part :: parts, .cons datum each, rfl⟩
      · rintro ⟨_, _ | ⟨datum, each⟩, rfl⟩
        refine ⟨_, datum, bind_eq_ok_iff.mpr ⟨_, induction.mpr ⟨_, each, rfl⟩, ?_⟩⟩
        rfl

theorem read_db_eq_ok_iff {operands : List Text} {statement : Statement} (present : operands ≠ []) :
    Statement.read .db operands = .ok statement ↔
      ∃ parts, StandFor operands parts ∧ statement = .data parts.flatten := by
  rw [Statement.read, if_neg present, map_eq_ok_iff]
  constructor
  · rintro ⟨bytes, expected, rfl⟩
    obtain ⟨parts, each, rfl⟩ := readData_eq_ok_iff.mp (eq_ok_of_expecting expected)
    exact ⟨parts, each, rfl⟩
  · rintro ⟨parts, each, rfl⟩
    exact ⟨_, by rw [readData_eq_ok_iff.mpr ⟨parts, each, rfl⟩]; rfl, rfl⟩

/-- Between quotation marks stand characters, of which the codes are put down. -/
theorem readDatum_quoted {mark : Char} (quote : mark = '"' ∨ mark = '\'') (chars : Text) :
    readDatum (mark :: (chars ++ [mark])) =
      .ok (some (chars.map fun c => BitVec.ofNat 8 c.toNat)) := by
  have string : Operand.string? (mark :: (chars ++ [mark])) = some chars := by
    rw [Operand.string?, if_pos ⟨quote, List.getLast?_concat⟩, List.dropLast_concat]
  rw [readDatum, Numeral.read?_of_quoted quote, string]
  rfl

end Statement

/-! ## Data lines -/

namespace SourceLine

/-- A text that can stand among the operands of a line without a label: it neither starts nor ends
with a blank, and holds no mark that stands between the parts of a line, nor a break. -/
@[mk_iff]
structure IsToken (text : Text) : Prop where
  trimmed : text.IsTrimmed
  noComma : ',' ∉ text
  noSemicolon : ';' ∉ text
  noColon : ':' ∉ text
  noBreak : ∀ c ∈ text, Text.isLineBreak c = false

instance : DecidablePred IsToken := fun text =>
  decidable_of_iff
    ((text.head?.all (!Text.isBlank ·) ∧ text.getLast?.all (!Text.isBlank ·)) ∧
      ',' ∉ text ∧ ';' ∉ text ∧ ':' ∉ text ∧ text.all (!Text.isLineBreak ·))
    (by
      have same := isToken_iff text
      simp only [same, Text.IsTrimmed, Option.all_eq_true, List.all_eq_true, Bool.not_eq_true',
        Option.mem_def])

/-- The data line with the given operands. -/
def dataLine (operands : List Text) : Text :=
  written Mnemonic.db.name operands

theorem IsToken.quoted {mark : Char} {chars : Text} (quote : mark = '"' ∨ mark = '\'')
    (noComma : ',' ∉ chars) (noSemicolon : ';' ∉ chars) (noColon : ':' ∉ chars)
    (noBreak : ∀ c ∈ chars, Text.isLineBreak c = false) : IsToken (mark :: (chars ++ [mark])) := by
  have solid : Text.isBlank mark = false ∧ Text.isLineBreak mark = false := by
    rcases quote with rfl | rfl <;> decide
  refine ⟨⟨?_, ?_⟩, ?_, ?_, ?_, ?_⟩
  · simpa using solid.1
  · rw [← List.cons_append, List.getLast?_concat]
    simpa using solid.1
  · rcases quote with rfl | rfl <;> simpa using noComma
  · rcases quote with rfl | rfl <;> simpa using noSemicolon
  · rcases quote with rfl | rfl <;> simpa using noColon
  · simp only [List.forall_mem_cons, List.forall_mem_append]
    exact ⟨solid.2, noBreak, solid.2, by simp⟩

section Tokens

variable {operands : List Text}

/-- The rendering of a data line without a label, blanks and a comment. -/
def dataRendering (operands : List Text) (tokens : ∀ operand ∈ operands, IsToken operand)
    (notOneEmpty : operands ≠ [[]]) : Rendering where
  label := none
  margin := []
  mnemonic := Mnemonic.db.name
  gap := [' ']
  operands := operands.pmap (fun operand token =>
    ⟨[], operand, [], by simp, by simp, token.trimmed, token.noComma, token.noSemicolon⟩) tokens
  comment := []
  isLabelName := by simp
  blankMargin := by simp
  present := Mnemonic.name_ne_nil _
  solid c member := Text.isBlank_of_isAlphanum (Mnemonic.db.isPlain_name c member)
  noSemicolon := Mnemonic.db.isPlain_name.not_mem rfl
  blankGap := by simp [Text.isBlank]
  apart := by simp
  notOneEmpty := by simpa [List.map_pmap] using notOneEmpty
  noColon _ := by
    refine ⟨Mnemonic.db.isPlain_name.not_mem rfl, fun operand member => ?_⟩
    obtain ⟨text, isText, rfl⟩ := List.mem_pmap.mp member
    exact (tokens text isText).noColon
  trimmed := by simp [Text.IsTrimmed]

theorem code_dataRendering (present : operands ≠ [])
    (tokens : ∀ operand ∈ operands, IsToken operand) (notOneEmpty : operands ≠ [[]]) :
    (dataRendering operands tokens notOneEmpty).code = dataLine operands := by
  obtain ⟨first, rest, rfl⟩ := List.exists_cons_of_ne_nil present
  simp [dataRendering, Rendering.code, Rendering.body, Rendering.operandText, dataLine, written,
    List.map_pmap, PaddedOperand.padded]

theorem ofText_dataLine (present : operands ≠ [])
    (tokens : ∀ operand ∈ operands, IsToken operand) (notOneEmpty : operands ≠ [[]]) :
    ofText (dataLine operands) = .ok ⟨none, some Mnemonic.db.name, operands, []⟩ := by
  have same : (dataRendering operands tokens notOneEmpty).operands.map (·.text) = operands := by
    simp [dataRendering, List.map_pmap]
  rw [← code_dataRendering present tokens notOneEmpty, Rendering.ofText_code, Rendering.ofBody_body,
    same]
  rfl

/-- A data line says what the statement of its operands says. -/
theorem contents?_dataLine (present : operands ≠ [])
    (tokens : ∀ operand ∈ operands, IsToken operand) :
    contents? (dataLine operands) =
      (fun statement => (none, some statement)) <$> Statement.read .db operands := by
  by_cases oneEmpty : operands = [[]]
  · -- Nothing stands behind the mnemonic, which is refused just as an empty operand is.
    subst oneEmpty
    rfl
  · rw [contents?, ofText_dataLine present tokens oneEmpty]
    change (do
      let statement ← some <$> Statement.read .db operands
      return (none, statement)) = _
    cases Statement.read .db operands <;> rfl

theorem contents?_dataLine_eq_ok_iff (present : operands ≠ [])
    (tokens : ∀ operand ∈ operands, IsToken operand) {said : Option Text × Option Statement} :
    contents? (dataLine operands) = .ok said ↔
      ∃ parts, Statement.StandFor operands parts ∧ said = (none, some (.data parts.flatten)) := by
  rw [contents?_dataLine present tokens, map_eq_ok_iff]
  simp only [Statement.read_db_eq_ok_iff present]
  constructor
  · rintro ⟨_, ⟨parts, each, rfl⟩, rfl⟩
    exact ⟨parts, each, rfl⟩
  · rintro ⟨parts, each, rfl⟩
    exact ⟨_, ⟨parts, each, rfl⟩, rfl⟩

theorem dataLine_of_ne_nil (present : operands ≠ []) :
    dataLine operands = Mnemonic.db.name ++ ' ' :: Text.join [','] operands := by
  obtain ⟨first, rest, rfl⟩ := List.exists_cons_of_ne_nil present
  rfl

theorem isLineBreak_dataLine (tokens : ∀ operand ∈ operands, IsToken operand) :
    ∀ c ∈ dataLine operands, Text.isLineBreak c = false := by
  have name : ∀ c ∈ Mnemonic.db.name, Text.isLineBreak c = false := fun c member =>
    Text.isLineBreak_of_isAlphanum (Mnemonic.db.isPlain_name c member)
  by_cases present : operands = []
  · rw [present]
    exact name
  · rw [dataLine_of_ne_nil present]
    simp only [List.forall_mem_append, List.forall_mem_cons]
    refine ⟨name, rfl, fun c member => ?_⟩
    rcases Text.mem_join member with comma | ⟨operand, isOperand, inside⟩
    · rw [List.mem_singleton.mp comma]
      rfl
    · exact (tokens operand isOperand).noBreak c inside

end Tokens

theorem head_mem_dataLine (operands : List Text) : 'd' ∈ dataLine operands := by
  have head : 'd' ∈ Mnemonic.db.name := by decide
  unfold dataLine written
  split
  next => exact head
  next => exact List.mem_append_left _ head

theorem trim_dataLine_ne_nil (operands : List Text) : Text.trim (dataLine operands) ≠ [] :=
  Text.trim_ne_nil (head_mem_dataLine operands) (by decide)

theorem numberedLines_dataLine {operands : List Text}
    (tokens : ∀ operand ∈ operands, IsToken operand) :
    numberedLines (dataLine operands) = [(1, dataLine operands)] :=
  numberedLines_of_clean (trim_dataLine_ne_nil operands) (isLineBreak_dataLine tokens)

end SourceLine

/-! ## Layouts of data -/

namespace PlacedLine

/-- No label is used on a line of data. -/
theorem not_refers_of_data {line other : PlacedLine} {bytes : List Byte} {cell : Byte}
    {name : Text} (said : line.contents = (none, some (.data bytes))) :
    ¬ Refers [line] cell other name := by
  intro refers
  rw [Refers, lastFilling, lastFilling, Option.none_or] at refers
  obtain ⟨target, fills, same⟩ := Option.map_eq_some_iff.mp refers
  have isData : line.statement = some (.data bytes) := congrArg Prod.snd said
  rw [filling, isData, Option.bind_some, Statement.cells, Image.lastPut_map] at fills
  obtain ⟨byte, -, rfl⟩ := Option.map_eq_some_iff.mp fills
  cases same

end PlacedLine

namespace Layout

open PlacedLine

/-- Data are put down as they are, whatever labels are known. -/
theorem add_of_data (layout : Layout) {line : PlacedLine} {bytes : List Byte}
    (said : line.contents = (none, some (.data bytes))) :
    (layout.add line).image = layout.image.putAll (bytes.map .literal) ∧
      (layout.add line).symbols = layout.symbols := by
  obtain ⟨noLabel, isData⟩ := Prod.mk.inj said
  constructor
  · rw [image_add, imageAfter, isData]
    exact congrArg _ (List.map_map ..)
  · rw [symbols_add, noLabel]
    rfl

theorem foldl_add_of_data (layout : Layout) {lines : List PlacedLine} {parts : List (List Byte)}
    (each : List.Forall₂ (fun line part => line.contents = (none, some (.data part))) lines parts) :
    (lines.foldl add layout).image = layout.image.putAll (parts.flatten.map .literal) ∧
      (lines.foldl add layout).symbols = layout.symbols := by
  induction each generalizing layout with
  | nil => exact ⟨rfl, rfl⟩
  | @cons line part lines parts first _ induction =>
      obtain ⟨image, symbols⟩ := layout.add_of_data first
      obtain ⟨imageMore, symbolsMore⟩ := induction (layout.add line)
      rw [List.foldl_cons, imageMore, symbolsMore, image, symbols, ← Image.putAll_append,
        List.flatten_cons, List.map_append]
      exact ⟨rfl, rfl⟩

/-- Data put down by one line or by several lines one after another, between the same lines. -/
theorem ofLines_matches_of_data {lines separate : List PlacedLine}
    {before after : List (Option Text × Option Statement)} {parts : List (List Byte)}
    (together : lines.map contents =
      before ++ ([(none, some (.data parts.flatten))] ++ after))
    (apart : separate.map contents =
      before ++ ((parts.map fun part => (none, some (.data part))) ++ after)) :
    (ofLines lines).Matches (ofLines separate) := by
  obtain ⟨first, _, rfl, isFirst, rest⟩ := List.map_eq_append_iff.mp together
  obtain ⟨_, last, rfl, isData, isLast⟩ := List.map_eq_append_iff.mp rest
  obtain ⟨line, rfl, said⟩ := List.map_eq_singleton_iff.mp isData
  obtain ⟨otherFirst, _, rfl, isOtherFirst, otherRest⟩ := List.map_eq_append_iff.mp apart
  obtain ⟨data, otherLast, rfl, areData, isOtherLast⟩ := List.map_eq_append_iff.mp otherRest
  have each : List.Forall₂ (fun line part => line.contents = (none, some (.data part)))
      data parts := by
    have same : List.Forall₂ (· = ·) (data.map contents) _ :=
      List.forall₂_eq_eq_eq ▸ areData
    rwa [List.forall₂_map_left_iff, List.forall₂_map_right_iff] at same
  obtain ⟨image, symbols⟩ := (ofLines first).add_of_data said
  obtain ⟨imageApart, symbolsApart⟩ := (ofLines first).foldl_add_of_data each
  have here : ((ofLines first).add line).Matches (data.foldl add (ofLines first)) :=
    matches_of_eq (symbols.trans symbolsApart.symm) (image.trans imageApart.symm)
  have start := ofLines_matches (isFirst.trans isOtherFirst.symm)
  have there : (data.foldl add (ofLines first)).Matches (data.foldl add (ofLines otherFirst)) :=
    start.foldl_add rfl
  rw [ofLines_append, ofLines_append, List.foldl_append, List.foldl_append]
  exact (here.trans there).foldl_add (isLast.trans isOtherLast.symm)

end Layout

/-! ## Sources with data lines -/

namespace Program

open PlacedLine SourceLine

section Tokens

variable {operands : List Text}

/-- A data line is assembled when it can be read: no label is used on it. -/
theorem exists_assemble_dataLine_iff (file : Text)
    (tokens : ∀ operand ∈ operands, IsToken operand) (present : operands ≠ []) :
    (∃ program, assemble file (dataLine operands) = .ok program) ↔
      ∃ parts, Statement.StandFor operands parts := by
  have single : readLines file (dataLine operands) = _ :=
    readLines_of_singleton (numberedLines_dataLine tokens)
  constructor
  · rintro ⟨program, assembled⟩
    obtain ⟨lines, read, -⟩ := assemble_eq_ok_iff.mp assembled
    rw [single] at read
    obtain ⟨line, readLine, -⟩ := map_eq_ok_iff.mp read
    obtain ⟨parts, each, -⟩ := (contents?_dataLine_eq_ok_iff present tokens).mp
      (exists_read_iff.mp ⟨line, readLine, rfl⟩)
    exact ⟨parts, each⟩
  · rintro ⟨parts, each⟩
    obtain ⟨line, readLine, said⟩ := exists_read_iff.mpr
      ((contents?_dataLine_eq_ok_iff present tokens).mpr ⟨parts, each, rfl⟩)
    have read : readLines file (dataLine operands) = .ok [line] := by
      rw [single]
      exact congrArg _ readLine
    cases outcome : assemble file (dataLine operands) with
    | ok program => exact ⟨program, rfl⟩
    | error fault =>
        obtain unread | ⟨lines, again, cell, other, name, ⟨refers, -⟩, -⟩ :=
          assemble_eq_error_iff.mp outcome
        · rw [read] at unread
          cases unread
        · obtain rfl := Except.ok.inj (read.symm.trans again)
          exact absurd refers (not_refers_of_data said)

/-- The data lines of the operands are read as the operands are, whatever their numbers are. -/
theorem exists_mapM_read_dataLine (file : Text) {parts : List (List Byte)}
    (tokens : ∀ operand ∈ operands, IsToken operand)
    (each : Statement.StandFor operands parts) (start : Nat) :
    ∃ lines, ((operands.zipIdx start).mapM fun operand =>
        PlacedLine.read file operand.2 (dataLine [operand.1])) = .ok lines ∧
      List.Forall₂ (fun line part => line.contents = (none, some (.data part))) lines parts := by
  induction each generalizing start with
  | nil => exact ⟨[], rfl, .nil⟩
  | @cons operand part rest parts first _ induction =>
      obtain ⟨token, later⟩ := List.forall_mem_cons.mp tokens
      have single := (contents?_dataLine_eq_ok_iff (List.cons_ne_nil operand [])
        (List.forall_mem_singleton.mpr token)).mpr ⟨[part], .cons first .nil, rfl⟩
      rw [List.flatten_singleton] at single
      obtain ⟨line, readLine, said⟩ := exists_read_iff.mpr single
      obtain ⟨lines, readLines, all⟩ := induction later (start + 1)
      refine ⟨line :: lines, ?_, .cons said all⟩
      exact mapM_eq_ok_iff.mpr (.cons readLine (mapM_eq_ok_iff.mp readLines))

theorem said?_dataLine_eq_ok_iff (present : operands ≠ [])
    (tokens : ∀ operand ∈ operands, IsToken operand)
    {said : List (Option Text × Option Statement)} :
    said? [dataLine operands] = .ok said ↔
      ∃ parts, Statement.StandFor operands parts ∧ said = [(none, some (.data parts.flatten))] := by
  simp only [said?_singleton, map_eq_ok_iff, contents?_dataLine_eq_ok_iff present tokens]
  constructor
  · rintro ⟨_, ⟨_, ⟨parts, each, rfl⟩, rfl⟩, rfl⟩
    exact ⟨parts, each, rfl⟩
  · rintro ⟨parts, each, rfl⟩
    exact ⟨_, ⟨_, ⟨parts, each, rfl⟩, rfl⟩, rfl⟩

/-- The data lines of the operands say what each of the operands stands for. -/
theorem said?_map_dataLine_eq_ok_iff (tokens : ∀ operand ∈ operands, IsToken operand)
    {said : List (Option Text × Option Statement)} :
    said? (operands.map fun operand => dataLine [operand]) = .ok said ↔
      ∃ parts, Statement.StandFor operands parts ∧
        said = parts.map fun part => (none, some (.data part)) := by
  induction operands generalizing said with
  | nil => simp [said?, Statement.StandFor, Functor.map, Except.map, pure, Except.pure, eq_comm]
  | cons operand rest induction =>
      obtain ⟨token, later⟩ := List.forall_mem_cons.mp tokens
      rw [List.map_cons, ← List.singleton_append, said?_append_eq_ok_iff]
      simp only [induction later, said?_dataLine_eq_ok_iff (List.cons_ne_nil operand [])
        (List.forall_mem_singleton.mpr token)]
      constructor
      · rintro ⟨_, _, ⟨_, _ | ⟨first, _ | _⟩, rfl⟩, ⟨parts, each, rfl⟩, rfl⟩
        refine ⟨_, .cons first each, ?_⟩
        rw [List.flatten_singleton]
        rfl
      · rintro ⟨_, _ | ⟨first, each⟩, rfl⟩
        refine ⟨_, _, ⟨_, .cons first .nil, rfl⟩, ⟨_, each, rfl⟩, ?_⟩
        rw [List.flatten_singleton]
        rfl

/-- Between the same lines, a data line and the data lines of its operands come to the same. -/
theorem exists_assemble_dataLines_iff (file : Text) (present : operands ≠ [])
    (tokens : ∀ operand ∈ operands, IsToken operand) {source separate : Text}
    {before after : List Text} (together : Text.lines source = before ++ dataLine operands :: after)
    (apart : Text.lines separate =
      before ++ (operands.map fun operand => dataLine [operand]) ++ after)
    {words : List Word} {symbols : SymbolTable} :
    (∃ program, assemble file source = .ok program ∧ program.words = words ∧
        program.layout.symbols = symbols) ↔
      ∃ program, assemble file separate = .ok program ∧ program.words = words ∧
        program.layout.symbols = symbols := by
  rw [exists_assemble_iff_said, exists_assemble_iff_said, together, apart, List.append_assoc,
    ← List.singleton_append]
  simp only [said?_append_eq_ok_iff, said?_dataLine_eq_ok_iff present tokens,
    said?_map_dataLine_eq_ok_iff tokens]
  constructor
  · rintro ⟨lines, ⟨first, _, isFirst, ⟨_, last, ⟨parts, each, rfl⟩, isLast, rfl⟩, said⟩, rfl, found⟩
    obtain ⟨others, saidOthers⟩ := exists_map_contents_eq
      (first ++ ((parts.map fun part => (none, some (.data part))) ++ last))
    have matching := Layout.ofLines_matches_of_data said saidOthers
    refine ⟨others, ⟨first, _, isFirst, ⟨_, last, ⟨parts, each, rfl⟩, isLast, rfl⟩, saidOthers⟩,
      matching.symbols.symm, ?_⟩
    rw [matching.symbols]
    exact matching.words_eq_ok_iff.mp found
  · rintro ⟨lines, ⟨first, _, isFirst, ⟨_, last, ⟨parts, each, rfl⟩, isLast, rfl⟩, said⟩, rfl, found⟩
    obtain ⟨others, saidOthers⟩ := exists_map_contents_eq
      (first ++ ([(none, some (.data parts.flatten))] ++ last))
    have matching := Layout.ofLines_matches_of_data saidOthers said
    refine ⟨others, ⟨first, _, isFirst, ⟨_, last, ⟨parts, each, rfl⟩, isLast, rfl⟩, saidOthers⟩,
      matching.symbols, ?_⟩
    rw [← matching.symbols]
    exact matching.words_eq_ok_iff.mpr found

end Tokens

/-- The lines of a source that is assembled can be read. -/
theorem exists_contents_of_assemble {file source text : Text} {program : Program}
    (assembled : assemble file source = .ok program) (member : text ∈ Text.lines source) :
    ∃ said, contents? text = .ok said := by
  obtain ⟨lines, said, -⟩ := exists_assemble_iff_said.mp ⟨program, assembled, rfl, rfl⟩
  obtain ⟨before, after, split⟩ := List.append_of_mem member
  rw [split, ← List.singleton_append, said?_append_eq_ok_iff] at said
  obtain ⟨-, _, -, rest, -⟩ := said
  obtain ⟨_, -, here, -⟩ := said?_append_eq_ok_iff.mp rest
  rw [said?_singleton, map_eq_ok_iff] at here
  obtain ⟨_, read, -⟩ := here
  obtain ⟨said, read, -⟩ := map_eq_ok_iff.mp read
  exact ⟨said, read⟩

/-- A data line is assembled exactly when the data line of each of its operands is.  If it is not,
then no run of an assembler on a source with the line leaves anything behind.  If it is, then the
line does to the cells, the origin and the extent of every image, and to the labels, what the data
lines of the operands do one after another; and in a source it can be replaced by them.  An operand
between quotation marks puts down the codes of the characters between them. -/
theorem dataLine_concatenates (file : Text) :
    (∀ operands, operands ≠ [] → (∀ operand ∈ operands, IsToken operand) →
      ((∃ program, assemble file (dataLine operands) = .ok program) ↔
          ∀ operand ∈ operands, ∃ program, assemble file (dataLine [operand]) = .ok program) ∧
        ((¬∃ program, assemble file (dataLine operands) = .ok program) →
          ∀ source, dataLine operands ∈ Text.lines source → ∀ assembler : Assembler,
            ∃ fault, assembler.assemble file source = (.error fault, .fresh)) ∧
        ((∃ program, assemble file (dataLine operands) = .ok program) →
          ∀ (layout : Layout) (number start : Nat), ∃ line separate,
            PlacedLine.read file number (dataLine operands) = .ok line ∧
            ((operands.zipIdx start).mapM fun operand =>
              PlacedLine.read file operand.2 (dataLine [operand.1])) = .ok separate ∧
            (layout.add line).image = (separate.foldl Layout.add layout).image ∧
            (layout.add line).symbols = (separate.foldl Layout.add layout).symbols) ∧
        ∀ source separate before after,
          Text.lines source = before ++ dataLine operands :: after →
          Text.lines separate =
            before ++ (operands.map fun operand => dataLine [operand]) ++ after →
          ∀ words symbols,
            (∃ program, assemble file source = .ok program ∧ program.words = words ∧
              program.layout.symbols = symbols) ↔
            ∃ program, assemble file separate = .ok program ∧ program.words = words ∧
              program.layout.symbols = symbols) ∧
    ∀ mark (chars : Text), mark = '"' ∨ mark = '\'' → ',' ∉ chars → ';' ∉ chars → ':' ∉ chars →
      (∀ c ∈ chars, Text.isLineBreak c = false) → ∀ (layout : Layout) (number : Nat), ∃ line,
        PlacedLine.read file number (dataLine [mark :: (chars ++ [mark])]) = .ok line ∧
        (layout.add line).image =
          layout.image.putAll (chars.map fun c => .literal (BitVec.ofNat 8 c.toNat)) := by
  constructor
  · intro operands present tokens
    have assembles := exists_assemble_dataLine_iff file tokens present
    refine ⟨?_, ?_, ?_, ?_⟩
    · simp only [assembles, Statement.StandFor, exists_forall₂_iff]
      refine forall₂_congr fun operand member => ?_
      have token := List.forall_mem_singleton.mpr (tokens operand member)
      simp [exists_assemble_dataLine_iff file token, Statement.StandFor, exists_forall₂_iff]
    · intro refused source member assembler
      rw [Assembler.assemble_eq]
      cases outcome : assemble file source with
      | error fault => exact ⟨fault, rfl⟩
      | ok program =>
          obtain ⟨said, read⟩ := exists_contents_of_assemble outcome member
          obtain ⟨parts, each, -⟩ := (contents?_dataLine_eq_ok_iff present tokens).mp read
          exact absurd (assembles.mpr ⟨parts, each⟩) refused
    · intro assembled layout number start
      obtain ⟨parts, each⟩ := assembles.mp assembled
      obtain ⟨line, read, said⟩ := exists_read_iff.mpr
        ((contents?_dataLine_eq_ok_iff present tokens).mpr ⟨parts, each, rfl⟩)
      obtain ⟨separate, reads, all⟩ := exists_mapM_read_dataLine file tokens each start
      obtain ⟨image, symbols⟩ := layout.add_of_data said
      obtain ⟨imageApart, symbolsApart⟩ := layout.foldl_add_of_data all
      exact ⟨line, separate, read, reads, image.trans imageApart.symm,
        symbols.trans symbolsApart.symm⟩
    · intro source separate before after together apart words symbols
      exact exists_assemble_dataLines_iff file present tokens together apart
  · intro mark chars quote noComma noSemicolon noColon noBreak layout number
    have token := IsToken.quoted quote noComma noSemicolon noColon noBreak
    obtain ⟨line, read, said⟩ := exists_read_iff.mpr
      ((contents?_dataLine_eq_ok_iff (List.cons_ne_nil _ []) (List.forall_mem_singleton.mpr token)).mpr
        ⟨_, .cons (Statement.readDatum_quoted quote chars) .nil, rfl⟩)
    rw [List.flatten_singleton] at said
    refine ⟨line, read, (layout.add_of_data said).1.trans ?_⟩
    rw [List.map_map]
    rfl

/-- A number, a quoted text with a blank, a quotation mark and a wide character in it, and a negative
number; and an operand that is neither a number nor quoted. -/
theorem dataLine_concatenates_mixed :
    (∃ program, assemble inputName "db 0x41\ndb '\u0161 \"'\ndb -1\n".toList = .ok program ∧
      program.words = [⟨0x41, 0x61⟩, ⟨0x20, 0x22⟩, ⟨0xFF, 0x00⟩]) ∧
    ∃ fault, Assembler.fresh.assemble inputName "db 7\ndb 1,x".toList = (.error fault, .fresh) := by
  constructor
  · have tokens : ∀ operand ∈ ["0x41".toList, "'\u0161 \"'".toList, "-1".toList],
        IsToken operand := by
      decide
    obtain ⟨-, -, -, replaced⟩ :=
      (dataLine_concatenates inputName).1 _ (List.cons_ne_nil _ _) tokens
    obtain ⟨program, assembled, words, -⟩ := (replaced "db 0x41,'\u0161 \"',-1".toList
      "db 0x41\ndb '\u0161 \"'\ndb -1\n".toList [] [] rfl rfl _ _).mp ⟨_, rfl, rfl, rfl⟩
    exact ⟨program, assembled, words⟩
  · have tokens : ∀ operand ∈ ["1".toList, "x".toList], IsToken operand := by decide
    obtain ⟨each, refused, -⟩ :=
      (dataLine_concatenates inputName).1 _ (List.cons_ne_nil _ _) tokens
    refine refused (fun assembled => ?_) _ (by decide) Assembler.fresh
    obtain ⟨program, alone⟩ := each.mp assembled "x".toList (by simp)
    cases alone

end Program
end ByteMachine
