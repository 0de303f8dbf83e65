import ByteMachine.CommandLine.SourceFile
import ByteMachine.Proofs.Assembly.AssemblerRuns
import ByteMachine.Proofs.Text.StoredText
import ByteMachine.Simulator

/-!
# Sources in files

Assembling a source file comes to the same as assembling the text that is stored in it, with its
breaks as they are.
-/

namespace ByteMachine

theorem numberedLines_unifyBreaks (source : Text) :
    numberedLines source.unifyBreaks = numberedLines source := by
  rw [numberedLines, Text.lines_unifyBreaks, numberedLines]

theorem Program.assemble_unifyBreaks (file source : Text) :
    assemble file source.unifyBreaks = assemble file source := by
  rw [assemble, numberedLines_unifyBreaks, assemble]

theorem Assembler.assemble_unifyBreaks (assembler : Assembler) (file source : Text) :
    assembler.assemble file source.unifyBreaks = assembler.assemble file source := by
  rw [assemble_eq, assemble_eq, Program.assemble_unifyBreaks]

theorem Simulator.assembleAndLoad_unifyBreaks {σ : Type} (hear : Hearer σ) (file source : Text) :
    assembleAndLoad hear file source.unifyBreaks = assembleAndLoad hear file source := by
  simp only [assembleAndLoad, assemble, Assembler.assemble_unifyBreaks]

/-- What is read from a file is the text that is stored in it, with its breaks made alike. -/
theorem readSource_eq {files : Files} {file text : Text} {bytes : List Byte}
    (stored : files.find? file = some (.file bytes)) (decoded : Text.decodeUtf8 bytes = .ok text) :
    readSource files file = .ok text.unifyBreaks := by
  rw [readSource, stored]
  dsimp only
  rw [decoded]

/-- A run of an assembler on a source file comes to the same, and leaves the same assembler, as a run
on the text that is stored in the file, under the name of the file and with all breaks as they are
stored.  A simulator loads the same from the file as from the text.  And every text can be stored. -/
theorem Assembler.assembleFile_eq_assemble (files : Files) (path : Text) :
    (∀ bytes text, files.find? (plainPath path) = some (.file bytes) →
      Text.decodeUtf8 bytes = .ok text →
        (∀ assembler : Assembler,
          assembler.assembleFile files path = .ok (assembler.assemble (plainPath path) text)) ∧
        ∃ read, readSource files (plainPath path) = .ok read ∧
          ∀ (σ : Type) (hear : Simulator.Hearer σ),
            Simulator.assembleAndLoad hear (plainPath path) read =
              Simulator.assembleAndLoad hear (plainPath path) text) ∧
      ∀ text, Text.decodeUtf8 (Text.encodeUtf8 text) = .ok text := by
  refine ⟨fun bytes text stored decoded => ?_, Text.decodeUtf8_encodeUtf8⟩
  have read := readSource_eq stored decoded
  refine ⟨fun assembler => ?_, _, read, fun σ hear => ?_⟩
  · rw [assembleFile, read]
    exact congrArg Except.ok (assembler.assemble_unifyBreaks _ _)
  · exact Simulator.assembleAndLoad_unifyBreaks hear _ _

/-- The line that cannot be read is the fifth: before it there are two pairs of breaks, a separator
and a carriage return alone. -/
theorem Assembler.assembleFile_of_mixed_breaks :
    let text := "jmp x\r\n\r\n\u2028\r \tmove R1\n".toList
    let files : Files := ⟨[(["a.asm".toList], .file (Text.encodeUtf8 text))]⟩
    (fresh.assembleFile files "./a.asm".toList).map Prod.fst = .ok (.error (.reported
      ⟨.operands "Expected two registers.".toList none, some ⟨"a.asm".toList, 5, 3⟩,
        some " \tmove R1".toList⟩)) := by
  intro text files
  have stored : files.find? (plainPath "./a.asm".toList) = some (.file (Text.encodeUtf8 text)) := by
    decide +kernel
  have same := ((assembleFile_eq_assemble files "./a.asm".toList).1 _ text stored
    ((assembleFile_eq_assemble files []).2 text)).1 fresh
  rw [same]
  rfl

end ByteMachine
