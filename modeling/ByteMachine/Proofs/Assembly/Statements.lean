import ByteMachine.Disassembly
import ByteMachine.Proofs.Assembly.Operands
import ByteMachine.Assembly.SourceLine

/-!
# Statements read back

The statement that is written for a word is read as a statement that fills two cells with the bytes
of the word.  It is read so by itself and behind a label.
-/

namespace ByteMachine

/-! ## Instructions -/

@[simp]
theorem Mnemonic.ofText?_name (mnemonic : Mnemonic) : ofText? mnemonic.name = some mnemonic := by
  cases mnemonic <;> rfl

namespace Statement

open Operand

theorem comparedRegister?_registerName {first : Char} (more : Text) (register : Nibble)
    (foreign : first.isAlphanum = false) :
    comparedRegister? (first :: more) (registerName register) = some register := by
  have plain := isPlain_registerName register
  rw [comparedRegister?, Text.cutAt_of_not_mem more (plain.not_mem foreign)]
  simp only [plain.isTrimmed.trim, register?_registerName]

theorem readLoad_value (r : Nibble) (value : Byte) :
    readLoad r (byteNumeral value) = .ok (some (.loadValue r (.value value))) := by
  rw [readLoad, target?_byteNumeral]
  rfl

theorem readLoad_cell (r : Nibble) (address : Byte) :
    readLoad r (bracketed (byteNumeral address)) = .ok (some (.loadCell r (.value address))) := by
  rw [readLoad, target?_absent_bracketed, target?_bracketed_byteNumeral]
  rfl

theorem readLoad_indirect (r s : Nibble) :
    readLoad r (bracketed (registerName s)) = .ok (some (.loadIndirect r s)) := by
  rw [readLoad, target?_absent_bracketed, target?_bracketed_registerName,
    register?_bracketed_registerName]
  rfl

theorem readStore_cell (r : Nibble) (address : Byte) :
    readStore r (bracketed (byteNumeral address)) = .ok (some (.storeCell r (.value address))) := by
  rw [readStore, target?_bracketed_byteNumeral]
  rfl

theorem readStore_indirect (r s : Nibble) :
    readStore r (bracketed (registerName s)) = .ok (some (.storeIndirect r s)) := by
  rw [readStore, target?_bracketed_registerName, register?_bracketed_registerName]
  rfl

theorem readCombination_registers (combination : Combination) (r s t : Nibble) :
    readCombination combination [registerName r, registerName s, registerName t] =
      some (.combine combination r s t) := by
  simp [readCombination, register?_registerName]

theorem readJump_target {first : Char} (more : Text) (r : Nibble) (target : Byte)
    (foreign : first.isAlphanum = false) (jump : Nibble → Target → Instruction Target) :
    readJump (first :: more) jump [registerName r, byteNumeral target] =
      .ok (some (jump r (.value target))) := by
  rw [readJump, target?_byteNumeral, comparedRegister?_registerName more r foreign]
  rfl

theorem rotation_of_nibble (r count : Nibble) :
    rotation r (BitVec.ofNat 8 count.toNat) = .ok (.rotate r count) := by
  have bound := count.isLt
  have value : (BitVec.ofNat 8 count.toNat).toNat = count.toNat := by
    rw [BitVec.toNat_ofNat]
    omega
  rw [rotation, value, maxRotation, if_neg (by omega), BitVec.ofNat_toNat, BitVec.setWidth_eq]

/-- The operands of an instruction are read as that instruction. -/
theorem read_operands (body : Instruction Byte) :
    read body.mnemonic body.operands = .ok (.instruction (body.map .value)) := by
  cases body with
  | loadValue r value =>
      simp only [Instruction.mnemonic, Instruction.operands, read, register?_registerName,
        readLoad_value]
      rfl
  | loadCell r address =>
      simp only [Instruction.mnemonic, Instruction.operands, read, register?_registerName,
        readLoad_cell]
      rfl
  | loadIndirect r s =>
      simp only [Instruction.mnemonic, Instruction.operands, read, register?_registerName,
        readLoad_indirect]
      rfl
  | storeCell r address =>
      simp only [Instruction.mnemonic, Instruction.operands, read, register?_registerName,
        readStore_cell]
      rfl
  | storeIndirect r s =>
      simp only [Instruction.mnemonic, Instruction.operands, read, register?_registerName,
        readStore_indirect]
      rfl
  | move r s =>
      simp only [Instruction.mnemonic, Instruction.operands, read, register?_registerName]
      rfl
  | combine combination r s t =>
      cases combination <;>
        simp only [Instruction.mnemonic, Instruction.operands, Combination.mnemonic, read,
          readCombination_registers] <;>
        rfl
  | rotate r count =>
      simp only [Instruction.mnemonic, Instruction.operands, read, register?_registerName,
        Numeral.read?_decimalNat]
      change instruction <$> rotation r (BitVec.ofNat 8 count.toNat) = _
      rw [rotation_of_nibble]
      rfl
  | jump target =>
      simp only [Instruction.mnemonic, Instruction.operands, read, target?_byteNumeral]
      rfl
  | jumpEqual r target =>
      simp only [Instruction.mnemonic, Instruction.operands, read]
      rw [readJump_target [] r target (by simp)]
      rfl
  | jumpLessEqual r target =>
      simp only [Instruction.mnemonic, Instruction.operands, read]
      rw [readJump_target ['='] r target (by simp)]
      rfl
  | halt => rfl

end Statement

/-! ## Words -/

namespace Word

@[simp]
theorem first_eq (word : Word) : Byte.ofNibbles word.operation.code word.r = word.first := by
  simp [operation, r]

@[simp]
theorem second_eq (word : Word) : Byte.ofNibbles word.x word.y = word.second := by
  simp [x, y]

theorem word_eq {body : Instruction Byte} {word : Word}
    (operation : body.operation = word.operation) (register : body.r = word.r)
    (second : body.second id = word.second) : body.word = word := by
  rw [Instruction.word, Instruction.first, operation, register, first_eq, second]

/-- The instruction of a word has that word. -/
theorem word_of_instruction? {word : Word} {body : Instruction Byte}
    (found : word.instruction? = some body) : body.word = word := by
  have second := word.second_eq
  cases same : word.operation <;> rw [instruction?, same] at found <;> simp only at found
  case noOperation => cases found
  -- Where operand nibbles have to be zero, the zeros are those of the instruction's word.
  case move | indirectLoad | indirectStore =>
    obtain ⟨unused, ⟨⟩⟩ := Option.ite_none_right_eq_some.mp found
    exact word_eq same.symm unused.symm second
  case rotate =>
    obtain ⟨unused, ⟨⟩⟩ := Option.ite_none_right_eq_some.mp found
    exact word_eq same.symm rfl (by rw [← second, unused]; rfl)
  case jumpEqual =>
    split at found
    next unused =>
      cases found
      exact word_eq same.symm unused.symm rfl
    next =>
      cases found
      exact word_eq same.symm rfl rfl
  case halt =>
    obtain ⟨⟨unused, empty⟩, ⟨⟩⟩ := Option.ite_none_right_eq_some.mp found
    exact word_eq same.symm unused.symm empty.symm
  case directLoad | immediateLoad | directStore | jumpLessEqual =>
    cases found
    exact word_eq same.symm rfl rfl
  case integerAdd | floatAdd | or | and | xor =>
    cases found
    exact word_eq same.symm rfl second

/-- The statement that is written for a word. -/
def statement (word : Word) : Statement :=
  match word.instruction? with
  | some body => .instruction (body.map .value)
  | none => .data word.bytes

/-- The mnemonic that is written for a word. -/
def mnemonic (word : Word) : Mnemonic :=
  match word.instruction? with
  | some body => body.mnemonic
  | none => .db

/-- The operands that are written for a word. -/
def operands (word : Word) : List Text :=
  match word.instruction? with
  | some body => body.operands
  | none => [byteNumeral word.first, byteNumeral word.second]

theorem read_operands (word : Word) :
    Statement.read word.mnemonic word.operands = .ok word.statement := by
  rw [mnemonic, operands, statement]
  cases word.instruction? with
  | some body => exact Statement.read_operands body
  | none =>
      simp [Statement.read, Statement.readData, Statement.readDatum, Numeral.read?_byteNumeral,
        Statement.expecting, bytes, bind, Except.bind, pure, Except.pure]

/-- The statement that is written for a word fills two cells with its bytes. -/
theorem cells_statement (word : Word) :
    word.statement.cells = [.value word.first, .value word.second] := by
  rw [statement]
  cases found : word.instruction? with
  | none => rfl
  | some body =>
      have whole := word_of_instruction? found
      change [Target.value (body.map Target.value).first,
        (body.map Target.value).second Target.value] = _
      rw [← whole]
      cases body <;> rfl

theorem statement_ne_origin (word : Word) (address : Byte) : word.statement ≠ .origin address := by
  rw [statement]
  split <;> exact Statement.noConfusion

end Word

/-! ## Lines of source -/

namespace SourceLine

/-- A body that starts with a word is taken apart into the word and the operands behind it. -/
theorem ofBody_of_trim (label : Option Text) (comment : Text) {body word rest : Text}
    (trimmed : Text.trim body = word ++ rest) (solid : ∀ c ∈ word, Text.isBlank c = false)
    (present : word ≠ []) (apart : ∀ c ∈ rest.head?, Text.isBlank c = true) :
    ofBody label body comment =
      let operands := Text.trimStart rest
      ⟨label, some word, if operands = [] then [] else (Text.pieces ',' operands).map Text.trim,
        comment⟩ := by
  rw [ofBody, trimmed]
  split
  next empty => exact absurd (List.append_eq_nil_iff.mp empty).1 present
  next => simp only [Text.firstWord_append solid apart]

theorem ofBody_word (label : Option Text) (comment : Text) {margin word : Text}
    (blank : ∀ c ∈ margin, Text.isBlank c = true) (solid : ∀ c ∈ word, Text.isBlank c = false)
    (present : word ≠ []) :
    ofBody label (margin ++ word) comment = ⟨label, some word, [], comment⟩ := by
  have trimmed : Text.trim (margin ++ word) = word ++ [] := by
    rw [Text.trim, Text.trimStart_append word blank, ← Text.trim,
      (Text.isTrimmed_of_forall solid).trim, List.append_nil]
  exact ofBody_of_trim label comment trimmed solid present (by simp)

theorem ofBody_word_append (label : Option Text) (comment : Text) {margin word rest : Text}
    (blank : ∀ c ∈ margin, Text.isBlank c = true) (solid : ∀ c ∈ word, Text.isBlank c = false)
    (present : word ≠ []) (trimmed : rest.IsTrimmed) (operands : rest ≠ []) :
    ofBody label (margin ++ (word ++ ' ' :: rest)) comment =
      ⟨label, some word, (Text.pieces ',' rest).map Text.trim, comment⟩ := by
  have whole : (word ++ ' ' :: rest).IsTrimmed :=
    Text.isTrimmed_append_append [' '] (Text.isTrimmed_of_forall solid) trimmed present operands
  have body : Text.trim (margin ++ (word ++ ' ' :: rest)) = word ++ ' ' :: rest := by
    rw [Text.trim, Text.trimStart_append _ blank, ← Text.trim, whole.trim]
  have space : ∀ c ∈ [' '], Text.isBlank c = true := by simp [Text.isBlank]
  have behind : Text.trimStart (' ' :: rest) = rest :=
    (Text.trimStart_append rest space).trans (Text.dropWhile_of_head trimmed.1)
  rw [ofBody_of_trim label comment body solid present (by simpa using space)]
  simp only [behind, if_neg operands]

theorem ofText_of_unlabelled {code : Text} (noComment : ';' ∉ code) (noLabel : ':' ∉ code) :
    ofText code = .ok (ofBody none code []) := by
  rw [ofText, Text.cut_of_not_mem noComment]
  simp only [Text.cut_of_not_mem noLabel]
  rfl

theorem ofText_of_labelled {name body : Text} (valid : Operand.isLabelName name = true)
    (noComment : ';' ∉ body) :
    ofText (name ++ ':' :: body) = .ok (ofBody (some name) body []) := by
  have noColon : ':' ∉ name := Operand.not_mem_of_isLabelName valid rfl
  have uncommented : ';' ∉ name ++ ':' :: body := by
    have noMark : ';' ∉ name := Operand.not_mem_of_isLabelName valid rfl
    simp [noMark, noComment]
  have solid : name.IsTrimmed :=
    Text.isTrimmed_of_forall fun c member =>
      Operand.isBlank_of_isLabelChar (Operand.isLabelChar_of_mem valid member)
  have start : Text.trimStart name = name := Text.dropWhile_of_head solid.1
  rw [ofText, Text.cut_of_not_mem uncommented]
  simp only [Text.cut_append body noColon, start, valid]
  rfl

/-- A mnemonic with its operands. -/
def written (mnemonic : Text) : List Text → Text
  | [] => mnemonic
  | operands => mnemonic ++ ' ' :: Text.join [','] operands

/-- The parts of a line are read back when neither they nor the operands contain a blank or one of
the marks that stand between parts. -/
theorem ofBody_written (label : Option Text) {margin mnemonic : Text} {operands : List Text}
    (blank : ∀ c ∈ margin, Text.isBlank c = true) (solid : ∀ c ∈ mnemonic, Text.isBlank c = false)
    (present : mnemonic ≠ [])
    (separate : ∀ operand ∈ operands,
      operand ≠ [] ∧ ∀ c ∈ operand, Text.isBlank c = false ∧ c ≠ ',') :
    ofBody label (margin ++ written mnemonic operands) [] =
      ⟨label, some mnemonic, operands, []⟩ := by
  cases operands with
  | nil => exact ofBody_word label [] blank solid present
  | cons operand more =>
      have joined : (Text.join [','] (operand :: more)).IsTrimmed := by
        refine Text.isTrimmed_of_forall fun c member => ?_
        rcases Text.mem_join member with comma | ⟨other, otherMem, inside⟩
        · obtain rfl := List.mem_singleton.mp comma
          rfl
        · exact ((separate other otherMem).2 c inside).1
      have nonempty : Text.join [','] (operand :: more) ≠ [] := by
        cases more with
        | nil => exact (separate operand (by simp)).1
        | cons next rest => simp [Text.join]
      have pieces : Text.pieces ',' (Text.join [','] (operand :: more)) = operand :: more :=
        Text.pieces_join (by simp) fun other otherMem comma =>
          ((separate other otherMem).2 ',' comma).2 rfl
      have unchanged : (operand :: more).map Text.trim = operand :: more := by
        refine (List.map_congr_left fun other otherMem => ?_).trans (List.map_id _)
        exact (Text.isTrimmed_of_forall fun c inside =>
          ((separate other otherMem).2 c inside).1).trim
      rw [written, ofBody_word_append label [] blank solid present joined nonempty, pieces,
        unchanged]
      simp

end SourceLine

namespace Word

theorem text_eq (word : Word) :
    word.text = SourceLine.written word.mnemonic.name word.operands := by
  rw [text, mnemonic, operands]
  cases word.instruction? with
  | none => rfl
  | some body => rfl

end Word

namespace Instruction

variable {α : Type}

/-- The instruction, except that a jump on equality of register zero is the unconditional jump. -/
def normal : Instruction α → Instruction α
  | jumpEqual r target => if r = 0 then jump target else jumpEqual r target
  | body => body

theorem operation_word (body : Instruction Byte) : body.word.operation = body.operation := by
  rw [Word.operation, word, first, Byte.high_ofNibbles, Operation.ofCode_code]

theorem r_word (body : Instruction Byte) : body.word.r = body.r := by
  rw [Word.r, word, first, Byte.low_ofNibbles]

theorem nibbles_word {body : Instruction Byte} {x y : Nibble}
    (nibbles : body.second id = Byte.ofNibbles x y) : body.word.x = x ∧ body.word.y = y := by
  constructor
  · rw [Word.x, word, nibbles, Byte.high_ofNibbles]
  · rw [Word.y, word, nibbles, Byte.low_ofNibbles]

/-- The word of an instruction is read back as the instruction. -/
theorem instruction?_word (body : Instruction Byte) :
    body.word.instruction? = some body.normal := by
  have operation := body.operation_word
  have register := body.r_word
  have nibbles := @nibbles_word body
  rw [Word.instruction?, operation, register]
  cases body with
  | loadValue | loadCell | storeCell | jump | jumpLessEqual | halt => rfl
  | jumpEqual r target =>
      exact (apply_ite some (r = 0) (jump target) (jumpEqual r target)).symm
  | loadIndirect r s | storeIndirect r s | move r s =>
      obtain ⟨x, y⟩ := nibbles rfl
      rw [x, y]
      rfl
  | combine combination r s t =>
      obtain ⟨x, y⟩ := nibbles rfl
      rw [x, y]
      cases combination <;> rfl
  | rotate r count =>
      obtain ⟨x, y⟩ := nibbles rfl
      rw [x, y]
      rfl

theorem text_word (body : Instruction Byte) :
    body.word.text = SourceLine.written body.normal.mnemonic.name body.normal.operands := by
  rw [Word.text, instruction?_word]
  rfl

end Instruction

theorem Mnemonic.name_ne_nil (mnemonic : Mnemonic) : mnemonic.name ≠ [] := by
  cases mnemonic <;> exact List.cons_ne_nil _ _

theorem Mnemonic.isPlain_name (mnemonic : Mnemonic) : mnemonic.name.IsPlain := by
  rw [Text.IsPlain, ← List.all_eq_true]
  cases mnemonic <;> rfl

open Operand in
theorem Instruction.isWritten_operands (body : Instruction Byte) :
    ∀ operand ∈ body.operands, IsWritten operand := by
  cases body <;>
    simp [operands, isWritten_registerName, isWritten_byteNumeral, isWritten_bracketed,
      isWritten_decimalNat]

namespace Word

open Operand

theorem isWritten_operands (word : Word) : ∀ operand ∈ word.operands, IsWritten operand := by
  rw [operands]
  cases word.instruction? with
  | some body => exact body.isWritten_operands
  | none => simp [isWritten_byteNumeral]

theorem mem_text {word : Word} {c : Char} (member : c ∈ word.text) :
    isWrittenChar c = true ∨ c = ' ' ∨ c = ',' := by
  have named (inside : c ∈ word.mnemonic.name) : isWrittenChar c = true := by
    rw [isWrittenChar, word.mnemonic.isPlain_name c inside]
    rfl
  rw [text_eq] at member
  unfold SourceLine.written at member
  split at member
  next => exact .inl (named member)
  next =>
    rw [List.mem_append, List.mem_cons] at member
    rcases member with inside | rfl | joined
    · exact .inl (named inside)
    · exact .inr (.inl rfl)
    · rcases Text.mem_join joined with comma | ⟨operand, operandMem, inside⟩
      · exact .inr (.inr (List.mem_singleton.mp comma))
      · exact .inl ((word.isWritten_operands operand operandMem).2 c inside)

theorem not_mem_text (word : Word) {mark : Char} (unwritten : isWrittenChar mark = false)
    (noSpace : mark ≠ ' ') (noComma : mark ≠ ',') : mark ∉ word.text := by
  intro member
  rcases mem_text member with written | isSpace | isComma
  · rw [written] at unwritten
    contradiction
  · exact noSpace isSpace
  · exact noComma isComma

theorem exists_solid_mem_text (word : Word) : ∃ c ∈ word.text, Text.isBlank c = false := by
  obtain ⟨c, rest, named⟩ := List.exists_cons_of_ne_nil word.mnemonic.name_ne_nil
  have member : c ∈ word.mnemonic.name := named ▸ List.mem_cons_self ..
  refine ⟨c, ?_, Text.isBlank_of_isAlphanum (word.mnemonic.isPlain_name c member)⟩
  rw [text_eq]
  unfold SourceLine.written
  split
  · exact member
  · exact List.mem_append_left _ member

theorem isLineBreak_text (word : Word) : ∀ c ∈ word.text, Text.isLineBreak c = false := by
  intro c member
  rcases mem_text member with written | rfl | rfl
  · exact isLineBreak_of_isWrittenChar written
  · rfl
  · rfl

/-- The text of a word, behind blanks, is taken apart into its mnemonic and its operands. -/
theorem ofBody_text (word : Word) (label : Option Text) (margin : Text)
    (blank : ∀ c ∈ margin, Text.isBlank c = true) :
    SourceLine.ofBody label (margin ++ word.text) [] =
      ⟨label, some word.mnemonic.name, word.operands, []⟩ := by
  rw [text_eq]
  refine SourceLine.ofBody_written label blank ?_ word.mnemonic.name_ne_nil ?_
  · exact fun c member => Text.isBlank_of_isAlphanum (word.mnemonic.isPlain_name c member)
  · intro operand member
    obtain ⟨present, written⟩ := word.isWritten_operands operand member
    refine ⟨present, fun c inside => ⟨isBlank_of_isWrittenChar (written c inside), ?_⟩⟩
    rintro rfl
    exact absurd (written ',' inside) (by decide)

end Word
end ByteMachine
