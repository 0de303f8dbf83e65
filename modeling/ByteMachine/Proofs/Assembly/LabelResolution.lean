import ByteMachine.Proofs.Assembly.Placement

/-!
# What labels stand for

A label operand that no later line overwrites ends up as the address of a definition of its label:
of the last one up to its own line, or, when there is none up to there, of the last one in the
source.  The address of a definition is the one at which its line is placed, before the statement of
that line has any effect.
-/

namespace ByteMachine

/-- The byte of an operand when labels have the given addresses. -/
def Target.byte? (address : Text → Option Byte) : Target → Option Byte
  | value byte => some byte
  | label name => address name

namespace PlacedLine

/-- The address that a label stands for on the last of the lines `known` when the lines `later`
follow: that of its last definition so far, or else of its last definition at all. -/
def labelAddress (known later : List PlacedLine) (name : Text) : Option Byte :=
  (lastDefinition name 0 known).or (lastDefinition name 0 (known ++ later))

theorem lastDefinition_eq_none_iff {name : Text} {address : Byte} {lines : List PlacedLine} :
    lastDefinition name address lines = none ↔ ∀ line ∈ lines, line.label ≠ some name := by
  induction lines generalizing address with
  | nil => simp [lastDefinition]
  | cons line rest induction =>
      rw [lastDefinition, Option.or_eq_none_iff, induction, List.forall_mem_cons, and_comm]
      simp

/-- A label with at most one definition stands for the same address everywhere. -/
theorem labelAddress_eq_lastDefinition {known later : List PlacedLine} {name : Text}
    (unique : (known ++ later).countP (fun line => line.label = some name) ≤ 1) :
    labelAddress known later name = lastDefinition name 0 (known ++ later) := by
  rw [labelAddress]
  cases defined : lastDefinition name 0 known with
  | none => rfl
  | some address =>
      have knownDefines : 0 < known.countP (fun line => line.label = some name) := by
        rw [List.countP_pos_iff]
        by_contra missing
        rw [lastDefinition_eq_none_iff.mpr (by simpa using missing)] at defined
        cases defined
      have laterDefines : later.countP (fun line => line.label = some name) = 0 := by
        rw [List.countP_append] at unique
        omega
      have absent : lastDefinition name (cursor 0 known) later = none :=
        lastDefinition_eq_none_iff.mpr (by simpa [List.countP_eq_zero] using laterDefines)
      rw [lastDefinition_append, absent, defined]
      rfl

end PlacedLine

namespace Layout

open PlacedLine

/-- Resolving the cell of an operand at the end of the source gives the byte of the operand. -/
theorem byte?_of_resolve_cellOf {known later : List PlacedLine} {line : PlacedLine}
    {target : Target} {byte : Byte}
    (resolved : (cellOf (ofLines known).symbols line target).resolve
      (ofLines (known ++ later)).symbols = .ok byte) :
    target.byte? (labelAddress known later) = some byte := by
  cases target with
  | value value =>
      cases resolved
      rfl
  | label name =>
      rw [Target.byte?, labelAddress]
      rw [cellOf, Target.resolve, find?_ofLines] at resolved
      cases defined : lastDefinition name 0 known with
      | some address =>
          rw [defined] at resolved
          cases resolved
          rfl
      | none =>
          rw [defined] at resolved
          change (ImageCell.pending name _ _).resolve _ = _ at resolved
          rw [ImageCell.resolve, find?_ofLines] at resolved
          cases final : lastDefinition name 0 (known ++ later) with
          | none =>
              rw [final] at resolved
              cases resolved
          | some address =>
              rw [final] at resolved
              cases resolved
              rfl

end Layout

namespace Program

open PlacedLine

variable {file source : Text} {program : Program} {lines before after : List PlacedLine}
  {line : PlacedLine} {body : Instruction Target}

/-- The bytes of an instruction whose cells are filled by no later line. -/
theorem code_of_instruction (assembled : assemble file source = .ok program)
    (read : readLines file source = .ok lines) (split : lines = before ++ line :: after)
    (isInstruction : line.statement = some (.instruction body)) :
    (cursor 0 before ∉ filledBy (line.next (cursor 0 before)) after →
      program.code[(cursor 0 before).toNat]? = some body.first) ∧
    (cursor 0 before + 1 ∉ filledBy (line.next (cursor 0 before)) after →
      ∃ byte, program.code[(cursor 0 before + 1).toNat]? = some byte ∧
        (body.second .value).byte? (labelAddress (before ++ [line]) after) = some byte) := by
  obtain ⟨found, sameRead, layout, -⟩ := assemble_eq_ok_iff.mp assembled
  obtain rfl : lines = found := Except.ok.inj (read.symm.trans sameRead)
  have known : (Layout.ofLines before).add line = Layout.ofLines (before ++ [line]) := by
    rw [Layout.ofLines_append_cons]
    rfl
  have whole : before ++ [line] ++ after = lines := by simp [split]
  have origin := Layout.origin_ofLines before
  have filled := (Layout.ofLines before).read_add_instruction isInstruction
  rw [known, origin] at filled
  -- A cell that the later lines do not fill is in the program what it was after this line.
  have kept {address : Byte} (apart : address ∉ filledBy (line.next (cursor 0 before)) after) :
      program.layout.image.cells.read address =
        (Layout.ofLines (before ++ [line])).image.cells.read address := by
    rw [layout, split, Layout.ofLines_append_cons, Layout.read_foldl_add_of_not_mem, known]
    rw [Layout.origin_add, origin]
    exact apart
  constructor
  · intro apart
    obtain ⟨byte, there, resolved⟩ := code_of_read assembled ((kept apart).trans filled.1)
    cases resolved
    exact there
  · intro apart
    obtain ⟨byte, there, resolved⟩ := code_of_read assembled ((kept apart).trans filled.2)
    rw [layout, ← whole] at resolved
    exact ⟨byte, there, Layout.byte?_of_resolve_cellOf resolved⟩

/-- Every label operand that no later line overwrites is the address of the last definition of its
label up to its own line or, without one, of the last definition in the source; if the label has
only one definition, it is the address of the label in the symbol table. -/
theorem code_of_label_operand (assembled : assemble file source = .ok program) :
    ∃ lines, readLines file source = .ok lines ∧
      ∀ before line after, lines = before ++ line :: after →
        ∀ body name, line.statement = some (.instruction body) →
          body.second .value = .label name →
          cursor 0 before + 1 ∉ filledBy (cursor 0 (before ++ [line])) after →
          ∃ byte, program.code[(cursor 0 before + 1).toNat]? = some byte ∧
            (lastDefinition name 0 (before ++ [line])).or (lastDefinition name 0 lines) =
              some byte ∧
            (lines.countP (fun other => other.label = some name) ≤ 1 →
              program.layout.symbols.find? name = some byte) := by
  obtain ⟨lines, read, layout, -⟩ := assemble_eq_ok_iff.mp assembled
  refine ⟨lines, read, fun before line after split body name isInstruction isLabel apart => ?_⟩
  rw [cursor_append] at apart
  obtain ⟨byte, there, resolved⟩ :=
    (code_of_instruction assembled read split isInstruction).2 apart
  have whole : before ++ [line] ++ after = lines := by simp [split]
  rw [isLabel, Target.byte?] at resolved
  refine ⟨byte, there, ?_, fun unique => ?_⟩
  · rw [← resolved, labelAddress, whole]
  · rw [layout, Layout.find?_ofLines, ← resolved, ← whole,
      labelAddress_eq_lastDefinition (by rw [whole]; exact unique)]

/-- A label that is defined later, and one that is defined on the first line and again on the line
of its last use. -/
theorem code_of_repeated_label :
    ∃ program, assemble inputName "a: jmp b\njmp a\na: jmp a\nb: halt".toList = .ok program ∧
      program.code[1]? = some 6 ∧ program.code[3]? = some 0 ∧ program.code[5]? = some 4 := by
  have succeeds : ∃ program,
      assemble inputName "a: jmp b\njmp a\na: jmp a\nb: halt".toList = .ok program := ⟨_, rfl⟩
  obtain ⟨program, assembled⟩ := succeeds
  obtain ⟨lines, read, resolved⟩ := code_of_label_operand assembled
  have known : readLines inputName "a: jmp b\njmp a\na: jmp a\nb: halt".toList = .ok
      [⟨⟨inputName, 1, 1⟩, "a: jmp b".toList, some ['a'],
          some (.instruction (.jump (.label ['b'])))⟩,
        ⟨⟨inputName, 2, 1⟩, "jmp a".toList, none, some (.instruction (.jump (.label ['a'])))⟩,
        ⟨⟨inputName, 3, 1⟩, "a: jmp a".toList, some ['a'],
          some (.instruction (.jump (.label ['a'])))⟩,
        ⟨⟨inputName, 4, 1⟩, "b: halt".toList, some ['b'], some (.instruction .halt)⟩] := rfl
  obtain rfl := Except.ok.inj (known.symm.trans read)
  obtain ⟨forward, forwardByte, isSix, -⟩ := resolved [] _ _ rfl _ ['b'] rfl rfl (by decide)
  obtain ⟨first, firstByte, isZero, -⟩ := resolved [_] _ _ rfl _ ['a'] rfl rfl (by decide)
  obtain ⟨own, ownByte, isFour, -⟩ := resolved [_, _] _ _ rfl _ ['a'] rfl rfl (by decide)
  cases isSix
  cases isZero
  cases isFour
  exact ⟨program, assembled, forwardByte, firstByte, ownByte⟩

end Program
end ByteMachine
