import ByteMachine.Proofs.Assembly.Placement
import ByteMachine.Proofs.Text.Cutting
import Mathlib.Data.List.Nodup

/-!
# Lines read by themselves

What a line says, its label and its statement, is told by its text alone.  The place of the line
only goes into the report when the line cannot be read, and that report is never on an undefined
label: a label is not looked up before all lines are read.
-/

namespace ByteMachine

/-! ## Faults -/

/-- Whether a label that is not defined is what is wrong. -/
def Cause.isUndefinedSymbol : Cause → Bool
  | undefinedSymbol .. => true
  | _ => false

namespace Fault

variable {ε δ γ : Type}

/-- Whether the fault is a report on a label that is not defined. -/
def isUndefinedSymbol : Fault Diagnostic → Bool
  | reported report => report.cause.isUndefinedSymbol
  | overlong _ => false

theorem map_map (first : ε → δ) (second : δ → γ) (fault : Fault ε) :
    (fault.map first).map second = fault.map (second ∘ first) := by
  cases fault <;> rfl

end Fault

namespace Statement

theorem eq_of_expecting_eq_error {α : Type} {mnemonic : Mnemonic}
    {found : Except OverlongNumeral (Option α)} {cause : Cause}
    (failed : expecting mnemonic found = .error (.reported cause)) :
    cause = .operands mnemonic.expectation none := by
  cases found with
  | error numeral => cases failed
  | ok read =>
      cases read with
      | none =>
          cases failed
          rfl
      | some value => cases failed

theorem eq_of_rotation_eq_error {r : Nibble} {count : Byte} {cause : Cause}
    (failed : rotation r count = .error (.reported cause)) :
    cause = .range count.toNat maxRotation := by
  rw [rotation] at failed
  split at failed
  next =>
    cases failed
    rfl
  next => cases failed

/-- A statement that is reported has operands of another shape than its mnemonic expects, or a count
that is too large. -/
theorem eq_of_read_eq_error {mnemonic : Mnemonic} {operands : List Text} {cause : Cause}
    (failed : Statement.read mnemonic operands = .error (.reported cause)) :
    cause = .operands mnemonic.expectation none ∨
      ∃ count : Byte, cause = .range count.toNat maxRotation := by
  cases mnemonic with
  | ror =>
      obtain failed | ⟨found, -, failed⟩ := bind_eq_error_iff.mp failed
      · exact .inl (eq_of_expecting_eq_error failed)
      · exact .inr ⟨found.2, eq_of_rotation_eq_error (map_eq_error_iff.mp failed)⟩
  | _ => exact .inl (eq_of_expecting_eq_error (map_eq_error_iff.mp failed))

end Statement

/-! ## Contents of a line -/

namespace SourceLine

/-- What a line of source says: its label and its statement. -/
def contents? (text : Text) : Except (Fault Cause) (Option Text × Option Statement) := do
  let line ← (ofText text).mapError .reported
  let statement ← line.statement
  return (line.label, statement)

theorem eq_label_of_ofText_eq_error {text : Text} {cause : Cause}
    (failed : ofText text = .error cause) :
    ∃ name, cause = .label (name ++ [':']) ∧ ∀ c ∈ name, c ∈ text := by
  have inside {mark c : Char} {text : Text} (member : c ∈ (Text.cut mark text).1) : c ∈ text := by
    rw [← Text.fst_cut_append mark text]
    exact List.mem_append_left _ member
  unfold ofText at failed
  simp only at failed
  split at failed
  next => cases failed
  next =>
    split at failed
    next => cases failed
    next =>
      cases failed
      exact ⟨_, rfl, fun c member => inside (inside ((List.dropWhile_sublist _).mem member))⟩

/-- A line is refused for what stands before a colon, for its mnemonic or for its operands. -/
theorem contents?_eq_error_cases {text : Text} {cause : Cause}
    (failed : contents? text = .error (.reported cause)) :
    (∃ name, cause = .label (name ++ [':']) ∧ ∀ c ∈ name, c ∈ text) ∨
      ∃ line word, ofText text = .ok line ∧ line.mnemonic = some word ∧
        (cause = .mnemonic word ∨
          (∃ mnemonic, cause = .operands (Mnemonic.expectation mnemonic) none) ∨
          ∃ count : Byte, cause = .range count.toNat Statement.maxRotation) := by
  obtain noLine | ⟨line, read, failed⟩ := bind_eq_error_iff.mp failed
  · obtain ⟨other, noLine, same⟩ := mapError_eq_error_iff.mp noLine
    cases same
    exact .inl (eq_label_of_ofText_eq_error noLine)
  · obtain noStatement | ⟨statement, -, impossible⟩ := bind_eq_error_iff.mp failed
    · rw [SourceLine.statement] at noStatement
      split at noStatement
      next => cases noStatement
      next word isWord =>
        refine .inr ⟨line, word, mapError_eq_ok_iff.mp read, isWord, ?_⟩
        have noParts := map_eq_error_iff.mp noStatement
        rw [Statement.ofParts] at noParts
        split at noParts
        next mnemonic _ =>
          obtain isOperands | isRange := Statement.eq_of_read_eq_error noParts
          · exact .inr (.inl ⟨mnemonic, isOperands⟩)
          · exact .inr (.inr isRange)
        next =>
          cases noParts
          exact .inl rfl
    · cases impossible

/-- No line is refused for a label that is not defined. -/
theorem isUndefinedSymbol_of_contents?_eq_error {text : Text} {cause : Cause}
    (failed : contents? text = .error (.reported cause)) : cause.isUndefinedSymbol = false := by
  obtain ⟨_, rfl, -⟩ | ⟨_, _, -, -, rfl | ⟨_, rfl⟩ | ⟨_, rfl⟩⟩ := contents?_eq_error_cases failed
  all_goals rfl

end SourceLine

namespace PlacedLine

open SourceLine

/-- What a line says: its label and its statement. -/
def contents (line : PlacedLine) : Option Text × Option Statement :=
  (line.label, line.statement)

theorem place_eq (file : Text) (number : Nat) (text : Text) :
    place file number text = ⟨file, number, (text.takeWhile Text.isBlank).length + 1⟩ := by
  have lengths :
      text.length = (text.takeWhile Text.isBlank).length + (Text.trimStart text).length := by
    rw [Text.trimStart, ← List.length_append, List.takeWhile_append_dropWhile]
  rw [place, Location.mk.injEq]
  exact ⟨rfl, rfl, by omega⟩

/-- The report on a cause that arose on a line of source: the column is that of the first character
that is no blank, and the blanks at the end of the line are left out. -/
def reportOn (file : Text) (number : Nat) (text : Text) (cause : Cause) : Diagnostic :=
  ⟨cause, some ⟨file, number, (text.takeWhile Text.isBlank).length + 1⟩, some (Text.trimEnd text)⟩

/-- Wherever a line stands, it is read for what it says. -/
theorem read_eq (file : Text) (number : Nat) (text : Text) :
    read file number text =
      match contents? text with
      | .ok contents =>
          .ok ⟨place file number text, Text.trimEnd text, contents.1, contents.2⟩
      | .error fault => .error (fault.map (reportOn file number text)) := by
  unfold read contents? reportOn
  rw [← place_eq]
  cases ofText text with
  | error cause => rfl
  | ok line =>
      simp only [bind, Except.bind, Except.mapError]
      cases line.statement with
      | error fault => rfl
      | ok statement => rfl

theorem read_eq_error_iff {file text : Text} {number : Nat} {fault : Fault Diagnostic} :
    read file number text = .error fault ↔
      ∃ cause, contents? text = .error cause ∧ fault = cause.map (reportOn file number text) := by
  rw [read_eq]
  cases contents? text with
  | ok contents => simp
  | error cause => simp [eq_comm]

theorem exists_read_iff {file text : Text} {number : Nat}
    {said : Option Text × Option Statement} :
    (∃ line, read file number text = .ok line ∧ line.contents = said) ↔
      contents? text = .ok said := by
  rw [read_eq]
  cases contents? text with
  | ok found => simp [contents]
  | error cause => simp

theorem isUndefinedSymbol_of_read_eq_error {file text : Text} {number : Nat}
    {fault : Fault Diagnostic} (failed : read file number text = .error fault) :
    fault.isUndefinedSymbol = false := by
  obtain ⟨cause, noContents, rfl⟩ := read_eq_error_iff.mp failed
  cases cause with
  | reported cause => exact isUndefinedSymbol_of_contents?_eq_error noContents
  | overlong numeral => rfl

end PlacedLine

/-! ## Lines of a source -/

theorem getElem?_of_mem_numbered {texts : List Text} {start : Nat} {line : Nat × Text}
    (member : line ∈ (texts.zipIdx start).filterMap fun line =>
      if Text.trim line.1 = [] then none else some (line.2, line.1)) :
    start ≤ line.1 ∧ texts[line.1 - start]? = some line.2 ∧ Text.trim line.2 ≠ [] := by
  obtain ⟨placed, isPlaced, kept⟩ := List.mem_filterMap.mp member
  obtain ⟨solid, ⟨⟩⟩ := Option.ite_none_left_eq_some.mp kept
  obtain ⟨least, there⟩ := List.mem_zipIdx_iff_le_and_getElem?_sub.mp isPlaced
  exact ⟨least, there, solid⟩

theorem pairwise_numberedLines (source : Text) :
    (numberedLines source).Pairwise fun line other => line.1 < other.1 := by
  have numbers : ((Text.lines source).zipIdx 1).Pairwise fun line other => line.2 < other.2 := by
    rw [← List.pairwise_map (f := Prod.snd) (R := (· < ·)), List.zipIdx_map_snd]
    exact List.pairwise_lt_range'
  rw [numberedLines, List.pairwise_filterMap]
  refine numbers.imp fun less kept isKept other isOther => ?_
  obtain ⟨-, ⟨⟩⟩ := Option.ite_none_left_eq_some.mp isKept
  obtain ⟨-, ⟨⟩⟩ := Option.ite_none_left_eq_some.mp isOther
  exact less

namespace Program

/-- No source is refused for a label that is not defined while its lines are read. -/
theorem isUndefinedSymbol_of_readLines_eq_error {file source : Text} {fault : Fault Diagnostic}
    (unread : readLines file source = .error fault) : fault.isUndefinedSymbol = false := by
  obtain ⟨before, line, after, -, -, failed⟩ := mapM_eq_error_iff.mp unread
  exact PlacedLine.isUndefinedSymbol_of_read_eq_error failed

theorem location_of_readLines {file source : Text} {lines : List PlacedLine}
    (read : readLines file source = .ok lines) :
    lines.map (·.location.line) = (numberedLines source).map fun line => (line.1 : Int) := by
  replace read := mapM_eq_ok_iff.mp read
  generalize numberedLines source = numbered at read
  induction read with
  | nil => rfl
  | cons first _ induction =>
      obtain ⟨_, _, -, -, rfl⟩ := PlacedLine.read_eq_ok_iff.mp first
      rw [List.map_cons, List.map_cons, induction]
      rfl

/-- The lines of a source have different locations. -/
theorem nodup_location {file source : Text} {lines : List PlacedLine}
    (read : readLines file source = .ok lines) : (lines.map (·.location.line)).Nodup := by
  have ascending : (lines.map (·.location.line)).Pairwise (· < ·) := by
    rw [location_of_readLines read, List.pairwise_map]
    exact (pairwise_numberedLines source).imp fun less => Int.ofNat_lt.mpr less
  exact ascending.imp fun less => Int.ne_of_lt less

end Program
end ByteMachine
