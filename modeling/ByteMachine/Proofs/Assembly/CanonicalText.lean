import ByteMachine.Proofs.Assembly.LabelResolution
import ByteMachine.Proofs.Assembly.StatementReading
import ByteMachine.Proofs.Assembly.Statements

/-!
# Statements disassembled

The two bytes of an instruction, when no later line overwrites them, are disassembled to the
statement that was assembled, written canonically: the mnemonic in lower case, registers with their
digits, numbers and labels as bytes in hexadecimal, the count of a rotation in decimal, a comparison
with register zero left out, and a jump on equality of register zero as the unconditional jump.
-/

namespace ByteMachine

/-! ## Operands -/

/-- A text with the brackets that an operand is asked for. -/
def Brackets.around : Brackets → Text → Text
  | present, text => bracketed text
  | absent, text => text

namespace Operand

/-- What stands between the brackets of an operand, written canonically when labels have the given
addresses. -/
def canonicalInner? (address : Text → Option Byte) (text : Text) : Option Text :=
  match registerNumber? text with
  | some register => some (registerName register)
  | none =>
      match Numeral.read? text with
      | .ok (some byte) => some (byteNumeral byte)
      | _ => (address text).map byteNumeral

/-- An operand written canonically: a register with its digit, a number or a label as a byte in
hexadecimal, each with the brackets that it had. -/
def canonical? (address : Text → Option Byte) (text : Text) : Option Text :=
  (canonicalInner? address (inner text)).map fun written =>
    if isBracketed text then bracketed written else written

theorem canonical?_of_inner {address : Text → Option Byte} {brackets : Brackets}
    {text written : Text} (fit : fits brackets text = true)
    (inside : canonicalInner? address (inner text) = some written) :
    canonical? address text = some (brackets.around written) := by
  have bracketing := isBracketed_of_fits fit
  rw [canonical?, inside]
  cases brackets with
  | present => simp [bracketing, Brackets.around]
  | absent => simp [bracketing, Brackets.around]

variable {address : Text → Option Byte} {brackets : Brackets} {text : Text}

theorem canonical?_of_register? (address : Text → Option Byte) {register : Nibble}
    (found : register? brackets text = some register) :
    canonical? address text = some (brackets.around (registerName register)) := by
  obtain ⟨fit, named⟩ := Option.ite_none_right_eq_some.mp found
  have inside : canonicalInner? address (inner text) = some (registerName register) := by
    rw [canonicalInner?, named]
  exact canonical?_of_inner fit inside

theorem canonical?_of_target? {target : Target} {byte : Byte}
    (found : target? brackets text = .ok (some target))
    (resolved : target.byte? address = some byte) :
    canonical? address text = some (brackets.around (byteNumeral byte)) := by
  obtain ⟨fit, ⟨value, number, rfl⟩ | ⟨noNumber, noRegister, -, rfl⟩⟩ := eq_of_target? found
  · have noRegister : registerNumber? (inner text) = none := by
      cases named : registerNumber? (inner text) with
      | none => rfl
      | some register =>
          have noNumber := Numeral.read?_of_isLabelName (isLabelName_registerName register)
          rw [← eq_registerName_of_registerNumber? named, number] at noNumber
          cases noNumber
    have inside : canonicalInner? address (inner text) = some (byteNumeral byte) := by
      cases resolved
      rw [canonicalInner?, noRegister, number]
    exact canonical?_of_inner fit inside
  · have inside : canonicalInner? address (inner text) = some (byteNumeral byte) := by
      have there : address (inner text) = some byte := resolved
      rw [canonicalInner?, noRegister, noNumber, there]
      rfl
    exact canonical?_of_inner fit inside

end Operand

/-! ## Instructions -/

namespace Instruction

/-- When the operand of an instruction is resolved, its two bytes are the word of the instruction
with the resolved operand. -/
theorem word_map {address : Text → Option Byte} {body : Instruction Target} {byte : Byte}
    (resolved : (body.second .value).byte? address = some byte) :
    (body.map fun _ => byte).word = ⟨body.first, byte⟩ := by
  cases body with
  | loadValue | loadCell | storeCell | jump | jumpEqual | jumpLessEqual => rfl
  | loadIndirect | storeIndirect | move | combine | rotate | halt =>
      cases resolved
      rfl

end Instruction

/-! ## Lines -/

namespace SourceLine

open Operand Statement

/-- What stands before an operator, without the blanks around it. -/
def compared (operator text : Text) : Text :=
  Text.trim (Text.cutAt operator text).1

/-- The statement of a line written canonically when labels have the given addresses.  The count of
a rotation is written in decimal and the register of a conditional jump without the comparison; a
jump on equality of register zero is written as the unconditional jump. -/
def canonicalText? (address : Text → Option Byte) (line : SourceLine) : Option Text :=
  line.mnemonic.bind fun word =>
    match Mnemonic.ofText? word, line.operands with
    | some .ror, [register, count] =>
        match Numeral.read? count with
        | .ok (some byte) => some (written word.lower [register, Text.decimalNat byte.toNat])
        | _ => none
    | some .jmpeq, [comparison, target] =>
        (canonical? address target).map fun target =>
          if compared ['='] comparison = registerName 0 then written Mnemonic.jmp.name [target]
          else written word.lower [compared ['='] comparison, target]
    | some .jmple, [comparison, target] =>
        (canonical? address target).map fun target =>
          written word.lower [compared ['<', '='] comparison, target]
    | _, operands => (operands.mapM (canonical? address)).map (written word.lower)

variable {address : Text → Option Byte} {line : SourceLine} {word : Text}
  {body : Instruction Target} {byte : Byte}

/-- Where no operand is special, the statement is written with each operand written canonically. -/
theorem canonicalText?_of_operands {mnemonic : Mnemonic}
    (isWord : line.mnemonic = some word) (named : Mnemonic.ofText? word = some mnemonic)
    (ordinary : mnemonic ≠ .ror ∧ mnemonic ≠ .jmpeq ∧ mnemonic ≠ .jmple)
    (resolved : (body.second .value).byte? address = some byte)
    (same : (body.map fun _ => byte).normal.mnemonic = mnemonic)
    (each : List.Forall₂ (fun operand written => canonical? address operand = some written)
      line.operands (body.map fun _ => byte).normal.operands) :
    line.canonicalText? address = some (Word.text ⟨body.first, byte⟩) := by
  have canonical : line.operands.mapM (canonical? address) =
      some (body.map fun _ => byte).normal.operands := mapM_eq_some_of_forall₂ each
  have lower := Mnemonic.name_of_ofText? named
  rw [← Instruction.word_map resolved, Instruction.text_word, same, lower]
  rw [canonicalText?, isWord, Option.bind_some, named]
  split
  next isRor _ => exact absurd (Option.some.inj isRor) ordinary.1
  next isJmpeq _ => exact absurd (Option.some.inj isJmpeq) ordinary.2.1
  next isJmple _ => exact absurd (Option.some.inj isJmple) ordinary.2.2
  next => rw [canonical, Option.map_some]

theorem canonicalText?_of_load (isWord : line.mnemonic = some word)
    (named : Mnemonic.ofText? word = some .load)
    (read : Statement.read .load line.operands = .ok (.instruction body))
    (resolved : (body.second .value).byte? address = some byte) :
    line.canonicalText? address = some (Word.text ⟨body.first, byte⟩) := by
  obtain ⟨first, source, r, operands, register, found⟩ := exists_operands_of_load read
  have canonicalFirst := canonical?_of_register? address register
  obtain ⟨value, target, rfl⟩ | ⟨cell, target, rfl⟩ | ⟨s, second, rfl⟩ := eq_of_readLoad found
  · have canonicalSource := canonical?_of_target? target resolved
    apply canonicalText?_of_operands isWord named (by simp) resolved rfl
    rw [operands]
    exact .cons canonicalFirst (.cons canonicalSource .nil)
  · have canonicalSource := canonical?_of_target? target resolved
    apply canonicalText?_of_operands isWord named (by simp) resolved rfl
    rw [operands]
    exact .cons canonicalFirst (.cons canonicalSource .nil)
  · have canonicalSource := canonical?_of_register? address second
    apply canonicalText?_of_operands isWord named (by simp) resolved rfl
    rw [operands]
    exact .cons canonicalFirst (.cons canonicalSource .nil)

theorem canonicalText?_of_store (isWord : line.mnemonic = some word)
    (named : Mnemonic.ofText? word = some .store)
    (read : Statement.read .store line.operands = .ok (.instruction body))
    (resolved : (body.second .value).byte? address = some byte) :
    line.canonicalText? address = some (Word.text ⟨body.first, byte⟩) := by
  obtain ⟨first, destination, r, operands, register, found⟩ := exists_operands_of_store read
  have canonicalFirst := canonical?_of_register? address register
  obtain ⟨cell, target, rfl⟩ | ⟨s, second, rfl⟩ := eq_of_readStore found
  · have canonicalDestination := canonical?_of_target? target resolved
    apply canonicalText?_of_operands isWord named (by simp) resolved rfl
    rw [operands]
    exact .cons canonicalFirst (.cons canonicalDestination .nil)
  · have canonicalDestination := canonical?_of_register? address second
    apply canonicalText?_of_operands isWord named (by simp) resolved rfl
    rw [operands]
    exact .cons canonicalFirst (.cons canonicalDestination .nil)

theorem canonicalText?_of_combination (combination : Combination)
    (isWord : line.mnemonic = some word)
    (named : Mnemonic.ofText? word = some combination.mnemonic)
    (read : readCombination combination line.operands = some body)
    (resolved : (body.second .value).byte? address = some byte) :
    line.canonicalText? address = some (Word.text ⟨body.first, byte⟩) := by
  obtain ⟨first, second, third, r, s, t, operands, hasFirst, hasSecond, hasThird, rfl⟩ :=
    eq_of_readCombination read
  have canonicalFirst := canonical?_of_register? address hasFirst
  have canonicalSecond := canonical?_of_register? address hasSecond
  have canonicalThird := canonical?_of_register? address hasThird
  have ordinary : combination.mnemonic ≠ .ror ∧ combination.mnemonic ≠ .jmpeq ∧
      combination.mnemonic ≠ .jmple := by
    cases combination <;> decide
  apply canonicalText?_of_operands isWord named ordinary resolved rfl
  rw [operands]
  exact .cons canonicalFirst (.cons canonicalSecond (.cons canonicalThird .nil))

theorem canonicalText?_of_move (isWord : line.mnemonic = some word)
    (named : Mnemonic.ofText? word = some .move)
    (read : Statement.read .move line.operands = .ok (.instruction body))
    (resolved : (body.second .value).byte? address = some byte) :
    line.canonicalText? address = some (Word.text ⟨body.first, byte⟩) := by
  obtain ⟨first, second, r, s, operands, hasFirst, hasSecond, rfl⟩ := exists_operands_of_move read
  have canonicalFirst := canonical?_of_register? address hasFirst
  have canonicalSecond := canonical?_of_register? address hasSecond
  apply canonicalText?_of_operands isWord named (by simp) resolved rfl
  rw [operands]
  exact .cons canonicalFirst (.cons canonicalSecond .nil)

theorem canonicalText?_of_jump (isWord : line.mnemonic = some word)
    (named : Mnemonic.ofText? word = some .jmp)
    (read : Statement.read .jmp line.operands = .ok (.instruction body))
    (resolved : (body.second .value).byte? address = some byte) :
    line.canonicalText? address = some (Word.text ⟨body.first, byte⟩) := by
  obtain ⟨text, target, operands, isTarget, rfl⟩ := exists_operand_of_jump read
  have canonicalTarget := canonical?_of_target? isTarget resolved
  apply canonicalText?_of_operands isWord named (by simp) resolved rfl
  rw [operands]
  exact .cons canonicalTarget .nil

theorem canonicalText?_of_rotate (isWord : line.mnemonic = some word)
    (named : Mnemonic.ofText? word = some .ror)
    (read : Statement.read .ror line.operands = .ok (.instruction body))
    (resolved : (body.second .value).byte? address = some byte) :
    line.canonicalText? address = some (Word.text ⟨body.first, byte⟩) := by
  obtain ⟨text, numeral, r, count, operands, register, number, rotated⟩ := eq_of_readRotate read
  obtain ⟨small, rfl⟩ := eq_of_rotation rotated
  have registerText : text = registerName r := eq_registerName_of_register? register
  have lower := Mnemonic.name_of_ofText? named
  have nibble : (BitVec.ofNat 4 count.toNat).toNat = count.toNat := by
    rw [BitVec.toNat_ofNat]
    exact Nat.mod_eq_of_lt small
  rw [← Instruction.word_map resolved, Instruction.text_word]
  rw [canonicalText?, isWord, Option.bind_some, named, operands]
  simp only [number, ← lower, registerText]
  change _ = some (written _ [registerName r, Text.decimalNat (BitVec.ofNat 4 count.toNat).toNat])
  rw [nibble]
  rfl

theorem canonicalText?_of_jumpEqual (isWord : line.mnemonic = some word)
    (named : Mnemonic.ofText? word = some .jmpeq)
    (read : Statement.read .jmpeq line.operands = .ok (.instruction body))
    (resolved : (body.second .value).byte? address = some byte) :
    line.canonicalText? address = some (Word.text ⟨body.first, byte⟩) := by
  obtain ⟨comparison, text, r, target, operands, register, isTarget, rfl⟩ :=
    eq_of_readJump (instruction_eq_of_expecting read)
  have registerText : compared ['='] comparison = registerName r :=
    eq_registerName_of_register? register
  have canonicalTarget := canonical?_of_target? isTarget resolved
  have lower := Mnemonic.name_of_ofText? named
  rw [← Instruction.word_map resolved, Instruction.text_word]
  rw [canonicalText?, isWord, Option.bind_some, named, operands]
  simp only [canonicalTarget, Option.map_some, registerText, ← lower]
  by_cases zero : r = 0
  · subst zero
    rw [if_pos rfl]
    rfl
  · have apart : registerName r ≠ registerName 0 := fun same => zero (registerName_injective same)
    have kept : (Instruction.map (fun _ => byte) (.jumpEqual r target)).normal =
        .jumpEqual r byte := if_neg zero
    rw [if_neg apart, kept]
    rfl

theorem canonicalText?_of_jumpLessEqual (isWord : line.mnemonic = some word)
    (named : Mnemonic.ofText? word = some .jmple)
    (read : Statement.read .jmple line.operands = .ok (.instruction body))
    (resolved : (body.second .value).byte? address = some byte) :
    line.canonicalText? address = some (Word.text ⟨body.first, byte⟩) := by
  obtain ⟨comparison, text, r, target, operands, register, isTarget, rfl⟩ :=
    eq_of_readJump (instruction_eq_of_expecting read)
  have registerText : compared ['<', '='] comparison = registerName r :=
    eq_registerName_of_register? register
  have canonicalTarget := canonical?_of_target? isTarget resolved
  have lower := Mnemonic.name_of_ofText? named
  rw [← Instruction.word_map resolved, Instruction.text_word]
  rw [canonicalText?, isWord, Option.bind_some, named, operands]
  simp only [canonicalTarget, Option.map_some, registerText, ← lower]
  rfl

theorem canonicalText?_of_halt (isWord : line.mnemonic = some word)
    (named : Mnemonic.ofText? word = some .halt)
    (read : Statement.read .halt line.operands = .ok (.instruction body))
    (resolved : (body.second .value).byte? address = some byte) :
    line.canonicalText? address = some (Word.text ⟨body.first, byte⟩) := by
  have found := Except.ok.inj (instruction_eq_of_expecting read)
  obtain ⟨operands, same⟩ := Option.ite_none_right_eq_some.mp found
  cases same
  apply canonicalText?_of_operands isWord named (by simp) resolved rfl
  rw [operands]
  exact .nil

/-- The two bytes of an instruction with its operand resolved are disassembled to the canonical text
of its line. -/
theorem canonicalText?_of_read {mnemonic : Mnemonic} (isWord : line.mnemonic = some word)
    (named : Mnemonic.ofText? word = some mnemonic)
    (noData : mnemonic ≠ .db) (noOrigin : mnemonic ≠ .org)
    (read : Statement.read mnemonic line.operands = .ok (.instruction body))
    (resolved : (body.second .value).byte? address = some byte) :
    line.canonicalText? address = some (Word.text ⟨body.first, byte⟩) := by
  cases mnemonic with
  | load => exact canonicalText?_of_load isWord named read resolved
  | store => exact canonicalText?_of_store isWord named read resolved
  | move => exact canonicalText?_of_move isWord named read resolved
  | addi =>
      have found := Except.ok.inj (instruction_eq_of_expecting read)
      exact canonicalText?_of_combination .integerAdd isWord named found resolved
  | addf =>
      have found := Except.ok.inj (instruction_eq_of_expecting read)
      exact canonicalText?_of_combination .floatAdd isWord named found resolved
  | and =>
      have found := Except.ok.inj (instruction_eq_of_expecting read)
      exact canonicalText?_of_combination .and isWord named found resolved
  | or =>
      have found := Except.ok.inj (instruction_eq_of_expecting read)
      exact canonicalText?_of_combination .or isWord named found resolved
  | xor =>
      have found := Except.ok.inj (instruction_eq_of_expecting read)
      exact canonicalText?_of_combination .xor isWord named found resolved
  | ror => exact canonicalText?_of_rotate isWord named read resolved
  | jmp => exact canonicalText?_of_jump isWord named read resolved
  | jmpeq => exact canonicalText?_of_jumpEqual isWord named read resolved
  | jmple => exact canonicalText?_of_jumpLessEqual isWord named read resolved
  | db => exact absurd rfl noData
  | org => exact absurd rfl noOrigin
  | halt => exact canonicalText?_of_halt isWord named read resolved

end SourceLine

/-! ## Programs -/

namespace Program

open PlacedLine

variable {file source : Text} {program : Program} {lines : List PlacedLine}

theorem exists_read_of_readLines (read : readLines file source = .ok lines) {index number : Nat}
    {text : Text} (there : (numberedLines source)[index]? = some (number, text)) :
    ∃ line, lines[index]? = some line ∧ PlacedLine.read file number text = .ok line := by
  have each := List.forall₂_iff_get.mp (mapM_eq_ok_iff.mp read)
  obtain ⟨inside, same⟩ := List.getElem?_eq_some_iff.mp there
  have inLines : index < lines.length := each.1 ▸ inside
  refine ⟨lines[index], List.getElem?_eq_getElem inLines, ?_⟩
  have readHere := each.2 index inside inLines
  rw [List.get_eq_getElem, List.get_eq_getElem, same] at readHere
  exact readHere

/-- The cells of an instruction that no later line overwrites are disassembled to the canonical text
of its line. -/
theorem text_of_instruction_line (assembled : assemble file source = .ok program) :
    ∃ lines, readLines file source = .ok lines ∧
      ∀ index number text parts word,
        (numberedLines source)[index]? = some (number, text) →
        SourceLine.ofText text = .ok parts → parts.mnemonic = some word →
        word.lower ≠ Mnemonic.db.name → word.lower ≠ Mnemonic.org.name →
        let address := cursor 0 (lines.take index)
        let known := lines.take (index + 1)
        let later := lines.drop (index + 1)
        address ∉ filledBy (cursor 0 known) later →
        address + 1 ∉ filledBy (cursor 0 known) later →
        ∃ first second, program.code[address.toNat]? = some first ∧
          program.code[(address + 1).toNat]? = some second ∧
          parts.canonicalText? (labelAddress known later) = some (Word.text ⟨first, second⟩) := by
  obtain ⟨lines, read, -, -⟩ := assemble_eq_ok_iff.mp assembled
  refine ⟨lines, read, ?_⟩
  intro index number text parts word there ofText isWord noData noOrigin address known later
    firstApart secondApart
  obtain ⟨line, hasLine, readLine⟩ := exists_read_of_readLines read there
  have knownEq : known = lines.take index ++ [line] := by
    rw [← Option.toList_some, ← hasLine]
    exact List.take_add_one
  have split : lines = lines.take index ++ line :: later := by
    have rejoined := List.take_append_drop (index + 1) lines
    change known ++ later = lines at rejoined
    rw [knownEq, List.append_assoc] at rejoined
    exact rejoined.symm
  obtain ⟨found, statement, sameParts, isStatement, isLine⟩ :=
    PlacedLine.read_eq_ok_iff.mp readLine
  obtain rfl : parts = found := Except.ok.inj (ofText.symm.trans sameParts)
  obtain ⟨mnemonic, found, named, readWord, rfl⟩ :=
    SourceLine.exists_read_of_statement isWord isStatement
  have lower := Mnemonic.name_of_ofText? named
  have isNoData : mnemonic ≠ .db := by
    rintro rfl
    exact noData lower.symm
  have isNoOrigin : mnemonic ≠ .org := by
    rintro rfl
    exact noOrigin lower.symm
  obtain ⟨body, rfl⟩ := Statement.exists_instruction_of_read readWord isNoData isNoOrigin
  have isInstruction : line.statement = some (.instruction body) := by rw [isLine]
  have next : cursor 0 known = line.next address := by
    rw [knownEq, cursor_append]
    rfl
  rw [next] at firstApart secondApart
  obtain ⟨firstByte, operandByte⟩ := code_of_instruction assembled read split isInstruction
  obtain ⟨second, secondByte, resolved⟩ := operandByte secondApart
  refine ⟨body.first, second, firstByte firstApart, secondByte, ?_⟩
  rw [knownEq]
  exact SourceLine.canonicalText?_of_read isWord named isNoData isNoOrigin readWord resolved

/-- A label between brackets that is defined later, and a jump on equality of register zero. -/
theorem text_of_forward_load :
    ∃ program, assemble inputName "a: LOAD R1 , [ b ]\njmpeq R0 = R0,a\nb: halt".toList =
        .ok program ∧
      (∃ first second, program.code[0]? = some first ∧ program.code[1]? = some second ∧
        Word.text ⟨first, second⟩ = "load R1,[0x04]".toList) ∧
      ∃ first second, program.code[2]? = some first ∧ program.code[3]? = some second ∧
        Word.text ⟨first, second⟩ = "jmp 0x00".toList := by
  have succeeds : ∃ program,
      assemble inputName "a: LOAD R1 , [ b ]\njmpeq R0 = R0,a\nb: halt".toList = .ok program :=
    ⟨_, rfl⟩
  obtain ⟨program, assembled⟩ := succeeds
  obtain ⟨lines, read, canonical⟩ := text_of_instruction_line assembled
  have known : readLines inputName "a: LOAD R1 , [ b ]\njmpeq R0 = R0,a\nb: halt".toList = .ok
      [⟨⟨inputName, 1, 1⟩, "a: LOAD R1 , [ b ]".toList, some ['a'],
          some (.instruction (.loadCell 1 (.label ['b'])))⟩,
        ⟨⟨inputName, 2, 1⟩, "jmpeq R0 = R0,a".toList, none,
          some (.instruction (.jumpEqual 0 (.label ['a'])))⟩,
        ⟨⟨inputName, 3, 1⟩, "b: halt".toList, some ['b'], some (.instruction .halt)⟩] := rfl
  obtain rfl := Except.ok.inj (known.symm.trans read)
  obtain ⟨first, second, firstByte, secondByte, load⟩ :=
    canonical 0 1 "a: LOAD R1 , [ b ]".toList
      ⟨some ['a'], some "LOAD".toList, ["R1".toList, "[ b ]".toList], []⟩ "LOAD".toList
      rfl rfl rfl (by decide) (by decide) (by decide) (by decide)
  obtain ⟨third, fourth, thirdByte, fourthByte, jump⟩ :=
    canonical 1 2 "jmpeq R0 = R0,a".toList
      ⟨none, some "jmpeq".toList, ["R0 = R0".toList, ['a']], []⟩ "jmpeq".toList
      rfl rfl rfl (by decide) (by decide) (by decide) (by decide)
  have loadText : Word.text ⟨first, second⟩ = "load R1,[0x04]".toList :=
    Option.some.inj (load.symm.trans (by decide +kernel))
  have jumpText : Word.text ⟨third, fourth⟩ = "jmp 0x00".toList :=
    Option.some.inj (jump.symm.trans (by decide +kernel))
  exact ⟨program, assembled, ⟨first, second, firstByte, secondByte, loadText⟩,
    third, fourth, thirdByte, fourthByte, jumpText⟩

end Program
end ByteMachine
