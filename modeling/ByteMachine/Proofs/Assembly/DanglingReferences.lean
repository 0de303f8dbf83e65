import ByteMachine.Proofs.Assembly.LastFilling
import Mathlib.Order.WellFounded

/-!
# Labels that are not defined

A label that no line defines is reported exactly when a reference to it is still in a cell at the
end of the source.  The report is on the lowest such cell, at the line that filled it last.  Among
several references to one label this is the first of them in the source exactly when no other one
lies at a lower address, as it is when the cells are filled in ascending order.
-/

namespace ByteMachine

namespace PlacedLine

theorem filledBy_append (address : Byte) (lines more : List PlacedLine) :
    filledBy address (lines ++ more) =
      filledBy address lines ++ filledBy (cursor address lines) more := by
  induction lines generalizing address with
  | nil => rfl
  | cons line rest induction =>
      rw [List.cons_append, filledBy, induction, filledBy, List.append_assoc, cursor_cons]

/-- Among the cells in which references dangle there is a lowest one. -/
theorem exists_lowest_dangles {lines : List PlacedLine}
    (dangling : ∃ cell line name, Dangles lines cell line name) :
    ∃ cell line name, Dangles lines cell line name ∧
      ∀ lower < cell, ∀ other label, ¬ Dangles lines lower other label := by
  obtain ⟨cell, ⟨line, name, dangles⟩, lowest⟩ :=
    WellFounded.has_min (measure fun cell : Byte => cell.toNat).wf
      {cell | ∃ line name, Dangles lines cell line name} dangling
  exact ⟨cell, line, name, dangles, fun lower less other label below =>
    lowest lower ⟨other, label, below⟩ (BitVec.lt_def.mp less)⟩

/-- In a list where some line still refers to a label there is a first such line. -/
theorem exists_first_refers {lines : List PlacedLine} {cell : Byte} {line : PlacedLine}
    {name : Text} (refers : Refers lines cell line name) :
    ∃ before first after, lines = before ++ first :: after ∧
      (∃ cell, Refers lines cell first name) ∧
      ∀ earlier ∈ before, ∀ cell, ¬ Refers lines cell earlier name := by
  classical
  obtain ⟨before, after, split, -⟩ := exists_of_lastFilling refers
  have member : line ∈ lines := by simp [split]
  obtain ⟨first, before, after, earlier, isFirst, split, -⟩ :=
    List.exists_of_eraseP (p := fun line => decide (∃ cell, Refers lines cell line name)) member
      (decide_eq_true ⟨cell, refers⟩)
  refine ⟨before, first, after, split, of_decide_eq_true isFirst, ?_⟩
  intro other otherMember cell otherRefers
  exact earlier other otherMember (decide_eq_true ⟨cell, otherRefers⟩)

/-- When the cells are filled in ascending order, no line refers to a label at a lower address than
the first line that does. -/
theorem exists_refers_of_ascending {before after : List PlacedLine} {first line : PlacedLine}
    {name : Text} {cell : Byte}
    (ascending : (filledBy 0 (before ++ first :: after)).Pairwise (· < ·))
    (distinct : first ∉ after)
    (refers : ∃ cell, Refers (before ++ first :: after) cell first name)
    (isFirst : ∀ earlier ∈ before, ∀ cell, ¬ Refers (before ++ first :: after) cell earlier name)
    (later : Refers (before ++ first :: after) cell line name) :
    ∃ lower ≤ cell, Refers (before ++ first :: after) lower first name := by
  -- A reference on a line after the lines `before` is made by the first line or by a later one.
  have place {cell : Byte} {line : PlacedLine}
      (refers : Refers (before ++ first :: after) cell line name) :
      lastFilling cell (first.next (cursor 0 before)) after = some (line, .label name) ∨
        first = line ∧ cell ∈ first.filled (cursor 0 before) := by
    have last := refers
    rw [Refers, lastFilling_append, lastFilling, Option.or_eq_some_iff, Option.or_eq_some_iff]
      at last
    obtain (inside | ⟨-, here⟩) | ⟨-, there⟩ := last
    · exact .inl inside
    · obtain ⟨target, puts, same⟩ := Option.map_eq_some_iff.mp here
      cases same
      exact .inr ⟨rfl, mem_filled_of_filling puts⟩
    · obtain ⟨front, back, rfl, -⟩ := exists_of_lastFilling there
      exact absurd refers (isFirst line (by simp) cell)
  obtain ⟨lower, refers⟩ := refers
  obtain inside | ⟨rfl, -⟩ := place later
  · refine ⟨lower, ?_, refers⟩
    obtain again | ⟨-, filled⟩ := place refers
    · obtain ⟨front, back, rfl, -⟩ := exists_of_lastFilling again
      exact absurd (by simp) distinct
    · rw [filledBy_append, filledBy, List.pairwise_append, List.pairwise_append] at ascending
      have less := ascending.2.1.2.2 lower filled cell (mem_filledBy_of_lastFilling inside)
      exact BitVec.le_of_lt less
  · exact ⟨cell, BitVec.le_refl cell, later⟩

end PlacedLine

namespace Program

open PlacedLine

variable {file source : Text} {lines : List PlacedLine}

/-- When the lines of a source can be read, a label that is not defined is reported exactly when a
reference dangles.  The report names the label of the lowest cell in which one does, and has the
location and the text of the line that filled this cell last. -/
theorem undefined_symbol_iff_dangles (read : readLines file source = .ok lines) :
    ((∃ report, assemble file source = .error (.reported report) ∧
        report.cause.isUndefinedSymbol = true) ↔
      ∃ cell line name, Dangles lines cell line name) ∧
    ∀ cell line name, Dangles lines cell line name →
      (∀ lower < cell, ∀ other label, ¬ Dangles lines lower other label) →
      assemble file source = .error (.reported
        ⟨.undefinedSymbol name none ((Layout.ofLines lines).symbols.similar name),
          some line.location, some line.source⟩) := by
  have reported {cell : Byte} {line : PlacedLine} {name : Text}
      (dangles : Dangles lines cell line name)
      (lowest : ∀ lower < cell, ∀ other label, ¬ Dangles lines lower other label) :
      assemble file source = .error (.reported (Layout.undefinedReport lines line name)) :=
    assemble_eq_error_iff.mpr (.inr ⟨lines, read, cell, line, name, dangles, lowest, rfl⟩)
  refine ⟨⟨?_, fun dangling => ?_⟩, fun cell line name => reported⟩
  · rintro ⟨report, failed, -⟩
    obtain unread | ⟨found, sameRead, cell, line, name, dangles, -⟩ :=
      assemble_eq_error_iff.mp failed
    · rw [read] at unread
      cases unread
    · obtain rfl : lines = found := Except.ok.inj (read.symm.trans sameRead)
      exact ⟨cell, line, name, dangles⟩
  · obtain ⟨cell, line, name, dangles, lowest⟩ := exists_lowest_dangles dangling
    exact ⟨_, reported dangles lowest, rfl⟩

/-- A reference that is overwritten is not reported, and of two that are left the lower one is, even
though it comes later. -/
theorem undefined_symbol_at_lowest_cell :
    let source := "jmp gone\norg 0\nhalt\norg 8\njmp high\norg 4\n  jmp low".toList
    ∃ lines, readLines inputName source = .ok lines ∧
      assemble inputName source = .error (.reported
        ⟨.undefinedSymbol "low".toList none [], some ⟨inputName, 7, 3⟩,
          some "  jmp low".toList⟩) := by
  intro source
  let lines : List PlacedLine :=
    [⟨⟨inputName, 1, 1⟩, "jmp gone".toList, none,
        some (.instruction (.jump (.label "gone".toList)))⟩,
      ⟨⟨inputName, 2, 1⟩, "org 0".toList, none, some (.origin 0)⟩,
      ⟨⟨inputName, 3, 1⟩, "halt".toList, none, some (.instruction .halt)⟩,
      ⟨⟨inputName, 4, 1⟩, "org 8".toList, none, some (.origin 8)⟩,
      ⟨⟨inputName, 5, 1⟩, "jmp high".toList, none,
        some (.instruction (.jump (.label "high".toList)))⟩,
      ⟨⟨inputName, 6, 1⟩, "org 4".toList, none, some (.origin 4)⟩,
      ⟨⟨inputName, 7, 3⟩, "  jmp low".toList, none,
        some (.instruction (.jump (.label "low".toList)))⟩]
  have read : readLines inputName source = .ok lines := rfl
  -- The cells below are filled with bytes, or not at all.
  have bytes : ∀ lower < (5 : Byte), ∀ last ∈ lastFilling lower 0 lines,
      (last.2.byte? fun _ => none).isSome = true := by
    decide
  refine ⟨lines, read, (undefined_symbol_iff_dangles read).2 5 _ "low".toList ⟨rfl, by decide⟩ ?_⟩
  intro lower less other label dangles
  cases bytes lower less _ dangles.1

/-- A label that is not defined is reported at the first line that still refers to it exactly when
no other line does so at a lower address; in particular when the cells are filled in ascending
order. -/
theorem reported_at_first_reference_iff {report : Diagnostic} {name : Text} {hint : Option Text}
    {similar : List Text} (failed : assemble file source = .error (.reported report))
    (isUndefined : report.cause = .undefinedSymbol name hint similar) :
    ∃ lines, readLines file source = .ok lines ∧
      ∃ before first after, lines = before ++ first :: after ∧
        (∃ cell, Refers lines cell first name) ∧
        (∀ earlier ∈ before, ∀ cell, ¬ Refers lines cell earlier name) ∧
        (report.location = some first.location ↔
          ∀ cell line, Refers lines cell line name →
            ∃ lower ≤ cell, Refers lines lower first name) ∧
        ((filledBy 0 lines).Pairwise (· < ·) → report.location = some first.location) := by
  obtain unread | ⟨lines, read, lowest, reported, label, dangles, isLowest, same⟩ :=
    assemble_eq_error_iff.mp failed
  · have defined := isUndefinedSymbol_of_readLines_eq_error unread
    rw [Fault.isUndefinedSymbol, isUndefined] at defined
    cases defined
  obtain rfl := Fault.reported.inj same
  cases isUndefined
  obtain ⟨before, first, after, rfl, refers, isFirst⟩ := exists_first_refers dangles.1
  have nodup := nodup_location read
  -- References to the reported label all dangle, so none of them is lower than the reported one.
  have lower {cell : Byte} {line : PlacedLine}
      (refersLine : Refers (before ++ first :: after) cell line name) : lowest ≤ cell := by
    by_contra below
    exact isLowest cell (BitVec.not_le.mp below) line name ⟨refersLine, dangles.2⟩
  have here (below : ∀ cell line, Refers (before ++ first :: after) cell line name →
      ∃ lower ≤ cell, Refers (before ++ first :: after) lower first name) :
      some reported.location = some first.location := by
    obtain ⟨cell, notAbove, refersFirst⟩ := below lowest reported dangles.1
    obtain rfl : cell = lowest := BitVec.le_antisymm notAbove (lower refersFirst)
    have sameLine := Option.some.inj (refersFirst.symm.trans dangles.1)
    cases sameLine
    rfl
  refine ⟨_, read, before, first, after, rfl, refers, isFirst, ⟨?_, here⟩, fun ascending => ?_⟩
  · intro same cell line refersLine
    obtain ⟨front, back, split, -⟩ := exists_of_lastFilling dangles.1
    obtain rfl : reported = first :=
      List.inj_on_of_nodup_map nodup (by simp [split]) (by simp)
        (congrArg Location.line (Option.some.inj same))
    exact ⟨lowest, lower refersLine, dangles.1⟩
  · have distinct : first ∉ after := by
      have unique := List.Nodup.of_map _ nodup
      rw [List.nodup_append, List.nodup_cons] at unique
      exact unique.2.1.1
    exact here fun cell line refersLine =>
      exists_refers_of_ascending ascending distinct refers isFirst refersLine

/-- Two references to a label, of which the first one fills the lower cell. -/
theorem reported_at_first_of_two_references :
    let source := "halt\njmp foo\norg 8\nload R1,[foo]".toList
    ∃ report lines first, assemble inputName source = .error (.reported report) ∧
      readLines inputName source = .ok lines ∧ (∃ cell, Refers lines cell first "foo".toList) ∧
        report.location = some first.location ∧ first.location = ⟨inputName, 2, 1⟩ := by
  intro source
  have failed : assemble inputName source = .error (.reported
      ⟨.undefinedSymbol "foo".toList none [], some ⟨inputName, 2, 1⟩, some "jmp foo".toList⟩) := rfl
  obtain ⟨lines, read, before, first, after, split, refers, -, -, located⟩ :=
    reported_at_first_reference_iff failed rfl
  have known : readLines inputName source = .ok
      [⟨⟨inputName, 1, 1⟩, "halt".toList, none, some (.instruction .halt)⟩,
        ⟨⟨inputName, 2, 1⟩, "jmp foo".toList, none,
          some (.instruction (.jump (.label "foo".toList)))⟩,
        ⟨⟨inputName, 3, 1⟩, "org 8".toList, none, some (.origin 8)⟩,
        ⟨⟨inputName, 4, 1⟩, "load R1,[foo]".toList, none,
          some (.instruction (.loadCell 1 (.label "foo".toList)))⟩] := rfl
  obtain rfl := Except.ok.inj (known.symm.trans read)
  have atFirst := located (by decide)
  exact ⟨_, _, first, failed, read, refers, atFirst, (Option.some.inj atFirst).symm⟩

/-- A label is reported at the fourth line although the second one still refers to it: the origin
was moved back between them. -/
theorem reported_after_first_reference :
    let source := "org 0x10\njmp foo\norg 0\njmp foo".toList
    ∃ report lines first, assemble inputName source = .error (.reported report) ∧
      report.cause = .undefinedSymbol "foo".toList none [] ∧
        report.location = some ⟨inputName, 4, 1⟩ ∧ readLines inputName source = .ok lines ∧
          lines[1]? = some first ∧ Refers lines 0x11 first "foo".toList ∧
            first.location = ⟨inputName, 2, 1⟩ :=
  ⟨_, _, _, rfl, rfl, rfl, rfl, rfl, rfl, rfl⟩

end Program
end ByteMachine
