import ByteMachine.Proofs.Assembly.CanonicalText
import ByteMachine.Proofs.Assembly.SourceRoundTrip

/-!
# Words that are written as data

Every word is written as a line of source that assembles to it.  The line is a data statement
exactly for the words that no instruction has: whatever a line says that opens with the mnemonic of
an instruction, and however it is spelled, the word that it assembles to has an instruction, and
this is what is written for the word.
-/

namespace ByteMachine

/-- A line of source opens with a mnemonic, in any letter case. -/
def SourceLine.Opens (text : Text) (mnemonic : Mnemonic) : Prop :=
  ∃ line word, ofText text = .ok line ∧ line.mnemonic = some word ∧
    Mnemonic.ofText? word = some mnemonic

theorem SourceLine.Opens.unique {text : Text} {mnemonic other : Mnemonic}
    (opens : Opens text mnemonic) (also : Opens text other) : mnemonic = other := by
  obtain ⟨line, word, ofText, isWord, named⟩ := opens
  obtain ⟨same, again, sameText, isAgain, alsoNamed⟩ := also
  cases ofText.symm.trans sameText
  cases isWord.symm.trans isAgain
  exact Option.some.inj (named.symm.trans alsoNamed)

theorem Instruction.mnemonic_ne_directive {α : Type} (body : Instruction α) :
    body.mnemonic ≠ .db ∧ body.mnemonic ≠ .org := by
  cases body with
  | combine combination => cases combination <;> simp [mnemonic, Combination.mnemonic]
  | _ => simp [mnemonic]

/-! ## The line of a word -/

/-- A text without breaks that is not blank is the only line of its source. -/
theorem numberedLines_of_clean {line : Text} (solid : Text.trim line ≠ [])
    (clean : ∀ c ∈ line, Text.isLineBreak c = false) : numberedLines line = [(1, line)] := by
  have present : line ≠ [] := by
    rintro rfl
    exact solid rfl
  rw [numberedLines, Text.lines_of_forall present clean, List.zipIdx_singleton]
  simp [solid]

/-- No address has a name. -/
def AddressNames.nameless : AddressNames :=
  ⟨[]⟩

theorem AddressNames.areLabels_nameless : nameless.AreLabels :=
  fun _ impossible => nomatch impossible

namespace Word

/-- The word as it is shown when no address has a name. -/
def nameless (word : Word) : DisassembledWord :=
  AddressNames.nameless.disassembleWord word 0

theorem ofText_text (word : Word) :
    SourceLine.ofText word.text = .ok ⟨none, some word.mnemonic.name, word.operands, []⟩ :=
  AddressNames.ofText_sourceLine AddressNames.areLabels_nameless word.nameless

theorem opens_text (word : Word) : SourceLine.Opens word.text word.mnemonic :=
  ⟨_, _, word.ofText_text, rfl, Mnemonic.ofText?_name _⟩

theorem opens_text_db_iff (word : Word) :
    SourceLine.Opens word.text .db ↔ word.instruction? = none := by
  constructor
  · intro opens
    have isData : word.mnemonic = .db := word.opens_text.unique opens
    rw [mnemonic] at isData
    split at isData
    next body _ => exact absurd isData body.mnemonic_ne_directive.1
    next none => exact none
  · intro none
    have opens := word.opens_text
    rw [mnemonic, none] at opens
    exact opens

theorem numberedLines_text (word : Word) : numberedLines word.text = [(1, word.text)] := by
  obtain ⟨c, member, solid⟩ := word.exists_solid_mem_text
  exact numberedLines_of_clean (Text.trim_ne_nil member solid) word.isLineBreak_text

end Word

namespace Program

open PlacedLine

theorem readLines_of_singleton {file source line : Text} {number : Nat}
    (single : numberedLines source = [(number, line)]) :
    readLines file source = (fun read => [read]) <$> PlacedLine.read file number line := by
  rw [readLines, single, List.mapM_cons, List.mapM_nil]
  cases PlacedLine.read file number line <;> rfl

/-- The line that is written for a word assembles to the word. -/
theorem exists_assemble_text (file : Text) (word : Word) :
    ∃ program, assemble file word.text = .ok program ∧ program.words = [word] := by
  obtain ⟨line, read, isLine⟩ := AddressNames.exists_read_sourceLine
    AddressNames.areLabels_nameless file 1 word.nameless
  have lines : readLines file word.text = .ok [line] := by
    rw [readLines_of_singleton word.numberedLines_text]
    exact congrArg _ read
  have areLines : List.Forall₂ AddressNames.nameless.IsLineOf
      (AddressNames.nameless.disassembleWords 0 [word]) [line] := .cons isLine .nil
  have empty : Layout.empty.image.Holds [] := ⟨rfl, rfl, fun _ small => nomatch small⟩
  have holds : (Layout.ofLines [line]).image.Holds word.bytes :=
    AddressNames.holds_foldl_add empty (by simp) areLines
  have words : (Layout.ofLines [line]).image.words (Layout.ofLines [line]).symbols =
      .ok [word] := by
    have even : word.bytes.length % 2 = 0 := by simp [Word.bytes]
    rw [Image.words, holds.bytes_eq (Layout.withinExtent_ofLines [line]) even]
    rfl
  exact ⟨⟨_, [word]⟩, assemble_eq_ok_iff.mpr ⟨[line], lines, rfl, words⟩, rfl⟩

/-! ## Lines of instructions -/

/-- A source of a single line, blank lines apart, that opens with the mnemonic of an instruction
assembles to a word. -/
def Encodes (file source : Text) (word : Word) : Prop :=
  ∃ number line mnemonic program, numberedLines source = [(number, line)] ∧
    SourceLine.Opens line mnemonic ∧ mnemonic ≠ .db ∧ mnemonic ≠ .org ∧
    assemble file source = .ok program ∧ program.words = [word]

/-- Such a word is that of the instruction on the line with its operand looked up, so that the
instruction can be read from it. -/
theorem Encodes.exists_instruction? {file source : Text} {word : Word}
    (encodes : Encodes file source word) : ∃ body, word.instruction? = some body := by
  obtain ⟨number, text, mnemonic, program, single, opens, noData, noOrigin, assembled, words⟩ :=
    encodes
  obtain ⟨lines, read, -, -⟩ := assemble_eq_ok_iff.mp assembled
  have readAlone := read
  rw [readLines_of_singleton single] at readAlone
  obtain ⟨line, readLine, rfl⟩ := map_eq_ok_iff.mp readAlone
  obtain ⟨parts, statement, ofText, isStatement, rfl⟩ := PlacedLine.read_eq_ok_iff.mp readLine
  obtain ⟨same, name, sameText, isName, named⟩ := opens
  obtain rfl : parts = same := Except.ok.inj (ofText.symm.trans sameText)
  obtain ⟨found, said, alsoNamed, readWord, rfl⟩ :=
    SourceLine.exists_read_of_statement isName isStatement
  obtain rfl : mnemonic = found := Option.some.inj (named.symm.trans alsoNamed)
  obtain ⟨body, rfl⟩ := Statement.exists_instruction_of_read readWord noData noOrigin
  -- There is no later line, so the two bytes of the line are those of the code.
  obtain ⟨firstByte, secondByte⟩ := code_of_instruction assembled read (List.nil_append _).symm rfl
  obtain ⟨second, isSecond, resolved⟩ := secondByte List.not_mem_nil
  have isFirst := firstByte List.not_mem_nil
  have code : program.code = word.bytes := by
    rw [Program.code, words]
    rfl
  rw [code] at isFirst isSecond
  have first : word.first = body.first := Option.some.inj isFirst
  have operand : word.second = second := Option.some.inj isSecond
  have isWord : word = (body.map fun _ => second).word := by
    rw [Instruction.word_map resolved, ← first, ← operand]
  exact ⟨_, isWord ▸ Instruction.instruction?_word _⟩

/-- The line that is written for a word is a data statement exactly if no line that opens with the
mnemonic of an instruction assembles to the word by itself; and it does assemble to the word. -/
theorem opens_db_iff (file : Text) (word : Word) :
    (SourceLine.Opens word.text .db ↔ ∀ source, ¬Encodes file source word) ∧
      ∃ program, assemble file word.text = .ok program ∧ program.words = [word] := by
  have assembles := exists_assemble_text file word
  refine ⟨?_, assembles⟩
  rw [word.opens_text_db_iff]
  constructor
  · intro none source encodes
    obtain ⟨body, found⟩ := encodes.exists_instruction?
    rw [none] at found
    cases found
  · intro noLine
    by_contra some
    obtain ⟨body, found⟩ := Option.ne_none_iff_exists'.mp some
    have mnemonic : word.mnemonic = body.mnemonic := by rw [Word.mnemonic, found]
    obtain ⟨program, assembled, words⟩ := assembles
    exact noLine word.text ⟨1, word.text, body.mnemonic, program, word.numberedLines_text,
      mnemonic ▸ word.opens_text, body.mnemonic_ne_directive.1, body.mnemonic_ne_directive.2,
      assembled, words⟩

end Program
end ByteMachine
