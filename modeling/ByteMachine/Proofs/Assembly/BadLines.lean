import ByteMachine.Proofs.Assembly.LastFilling

/-!
# Lines that cannot be read

A line is bad when it is refused even if it is a whole source, and not for a label that it leaves
undefined.  The first bad line of a source decides the outcome, whatever stands before and after it:
the report has the cause that the line has alone, and the place of the line.  A source without bad
lines fails at most for a label that is not defined.
-/

namespace ByteMachine

open Text

/-! ## Numbers of lines -/

theorem mem_of_mem_numbered {texts : List Text} {start : Nat} {line : Nat × Text}
    (member : line ∈ (texts.zipIdx start).filterMap fun line =>
      if trim line.1 = [] then none else some (line.2, line.1)) :
    line.2 ∈ texts ∧ trim line.2 ≠ [] := by
  obtain ⟨-, there, solid⟩ := getElem?_of_mem_numbered member
  exact ⟨List.mem_of_getElem? there, solid⟩

/-- A line that is not blank is numbered by the lines that stand before it, blank or not. -/
theorem exists_numberedLines_eq_append {source text : Text} {before after : List Text}
    (split : lines source = before ++ text :: after) (solid : trim text ≠ []) :
    ∃ earlier later, numberedLines source = earlier ++ (before.length + 1, text) :: later ∧
      ∀ line ∈ earlier, line.2 ∈ before ∧ trim line.2 ≠ [] := by
  rw [numberedLines, split, List.zipIdx_append, List.zipIdx_cons, List.filterMap_append,
    List.filterMap_cons, if_neg solid, Nat.add_comm 1]
  exact ⟨_, _, rfl, fun line => mem_of_mem_numbered⟩

namespace Program

/-- Assembled alone, the line is refused, and not for a label that is not defined. -/
def IsBad (text : Text) : Prop :=
  ∃ fault, assemble inputName text = .error fault ∧ fault.isUndefinedSymbol = false

/-- When a line cannot be read and those before it are blank or can be, the source fails at that
line. -/
theorem assemble_eq_error_of_split {source text : Text} {before after : List Text}
    (file : Text) (split : lines source = before ++ text :: after) (solid : trim text ≠ [])
    (each : ∀ other ∈ before, trim other ≠ [] →
      ∃ contents, SourceLine.contents? other = .ok contents)
    {cause : Fault Cause} (failed : SourceLine.contents? text = .error cause) :
    assemble file source =
      .error (cause.map (PlacedLine.reportOn file (before.length + 1) text)) := by
  obtain ⟨earlier, later, numbered, inside⟩ := exists_numberedLines_eq_append split solid
  refine assemble_eq_error_iff.mpr (.inl (mapM_eq_error_iff.mpr ?_))
  refine ⟨earlier, _, later, numbered, fun line member => ?_, ?_⟩
  · obtain ⟨isBefore, lineSolid⟩ := inside line member
    obtain ⟨contents, read⟩ := each line.2 isBefore lineSolid
    rw [PlacedLine.read_eq, read]
    exact ⟨_, rfl⟩
  · exact PlacedLine.read_eq_error_iff.mpr ⟨cause, failed, rfl⟩

/-- A source that fails as its lines are read has a line that cannot be read. -/
theorem exists_of_readLines_eq_error {file source : Text} {fault : Fault Diagnostic}
    (unread : readLines file source = .error fault) :
    ∃ text ∈ lines source, trim text ≠ [] ∧ ∃ cause, SourceLine.contents? text = .error cause := by
  obtain ⟨before, line, after, split, -, failed⟩ := mapM_eq_error_iff.mp unread
  have member : line ∈ numberedLines source := split ▸ List.mem_append_cons_self
  obtain ⟨isLine, solid⟩ := mem_of_mem_numbered member
  obtain ⟨cause, noContents, -⟩ := PlacedLine.read_eq_error_iff.mp failed
  exact ⟨line.2, isLine, solid, cause, noContents⟩

theorem lines_of_mem_lines {source text : Text} (member : text ∈ lines source)
    (present : text ≠ []) : lines text = [text] :=
  lines_of_forall present (isLineBreak_of_mem_lines member)

/-- A line that cannot be read fails alone as it does in its source, but as the first line. -/
theorem assemble_line_eq_error {source text : Text} (file : Text) (member : text ∈ lines source)
    (solid : trim text ≠ []) {cause : Fault Cause}
    (failed : SourceLine.contents? text = .error cause) :
    assemble file text = .error (cause.map (PlacedLine.reportOn file 1 text)) := by
  have present : text ≠ [] := by
    rintro rfl
    exact solid rfl
  have alone : lines text = [] ++ text :: [] := lines_of_mem_lines member present
  exact assemble_eq_error_of_split file alone solid (by simp) failed

/-- A line of a source is bad exactly when it is not blank and cannot be read. -/
theorem isBad_iff {source text : Text} (member : text ∈ lines source) :
    IsBad text ↔ trim text ≠ [] ∧ ∃ cause, SourceLine.contents? text = .error cause := by
  constructor
  · rintro ⟨fault, failed, defined⟩
    cases read : readLines inputName text with
    | ok lines =>
        rw [isUndefinedSymbol_of_readLines_eq_ok read failed] at defined
        cases defined
    | error other =>
        obtain ⟨line, isLine, solid, cause, unread⟩ := exists_of_readLines_eq_error read
        have present : text ≠ [] := by
          rintro rfl
          cases isLine
        rw [lines_of_mem_lines member present, List.mem_singleton] at isLine
        subst isLine
        exact ⟨solid, cause, unread⟩
  · rintro ⟨solid, cause, failed⟩
    refine ⟨_, assemble_line_eq_error inputName member solid failed, ?_⟩
    exact PlacedLine.isUndefinedSymbol_of_read_eq_error
      (PlacedLine.read_eq_error_iff.mpr ⟨cause, failed, rfl⟩)

/-- The first bad line of a source alone decides the outcome.  The source fails with the same fault
as this line alone; if that is a report, then it is moved to the number of the line among all lines
and to the first character of the line that is no blank.  When no line is bad, the source is
assembled, or a label is reported that is not defined. -/
theorem first_bad_line_decides (file source : Text) :
    (∀ before text after, lines source = before ++ text :: after → IsBad text →
      (∀ other ∈ before, ¬ IsBad other) →
        ∃ fault, assemble inputName text = .error fault ∧
          assemble file source = .error (fault.map fun report =>
            { report with
              location := some ⟨file, before.length + 1, (text.takeWhile isBlank).length + 1⟩
              sourceLine := some (trimEnd text) })) ∧
    ((∀ text ∈ lines source, ¬ IsBad text) →
      (∃ program, assemble file source = .ok program) ∨
        ∃ report, assemble file source = .error (.reported report) ∧
          report.cause.isUndefinedSymbol = true) := by
  constructor
  · intro before text after split bad isFirst
    have member : text ∈ lines source := split ▸ List.mem_append_cons_self
    obtain ⟨solid, cause, failed⟩ := (isBad_iff member).mp bad
    refine ⟨_, assemble_line_eq_error inputName member solid failed, ?_⟩
    rw [Fault.map_map]
    refine assemble_eq_error_of_split file split solid (fun other isBefore otherSolid => ?_) failed
    have otherMember : other ∈ lines source := split ▸ List.mem_append_left _ isBefore
    cases read : SourceLine.contents? other with
    | ok contents => exact ⟨contents, rfl⟩
    | error otherCause =>
        exact absurd ((isBad_iff otherMember).mpr ⟨otherSolid, otherCause, read⟩)
          (isFirst other isBefore)
  · intro good
    cases outcome : assemble file source with
    | ok program => exact .inl ⟨program, rfl⟩
    | error fault =>
        obtain unread | ⟨_, -, cell, line, name, -, -, rfl⟩ := assemble_eq_error_iff.mp outcome
        · obtain ⟨text, member, solid, failed⟩ := exists_of_readLines_eq_error unread
          exact absurd ((isBad_iff member).mpr ⟨solid, failed⟩) (good text member)
        · exact .inr ⟨_, rfl, rfl⟩

/-- The count of a rotation is too large on the fourth line.  Two blank lines stand before it, and
the label that the first line leaves undefined is not what is reported. -/
theorem bad_line_after_undefined_symbol :
    let source := "jmp gone\n\u2028 \n  ror R1,16 ; too far\ndb\n".toList
    assemble "test".toList source = .error (.reported
      ⟨.range 16 15, some ⟨"test".toList, 4, 3⟩, some "  ror R1,16 ; too far".toList⟩) := by
  intro source
  have good : ∀ other ∈ ["jmp gone".toList, [], [' ']], ¬ IsBad other := by
    simp only [List.forall_mem_cons]
    refine ⟨?_, ?_, ?_, by simp⟩ <;> rintro ⟨fault, failed, defined⟩
    · cases failed
      cases defined
    · cases failed
    · cases failed
  obtain ⟨fault, alone, failed⟩ := (first_bad_line_decides "test".toList source).1
    ["jmp gone".toList, [], [' ']] "  ror R1,16 ; too far".toList ["db".toList] rfl
    ⟨_, rfl, rfl⟩ good
  cases alone
  exact failed

end Program
end ByteMachine
