import ByteMachine.Assembly.SourceLine
import ByteMachine.Proofs.Assembly.Operands
import ByteMachine.Proofs.Outcome

/-!
# What is read

What a reader accepts tells what was written.  A register is written with its digit; a target is a
number, or a label that is no register; and the operands of a statement have the shape that its
mnemonic expects.
-/

namespace ByteMachine

/-! ## Operands -/

namespace Operand

variable {brackets : Brackets} {text : Text}

theorem isBracketed_of_fits (fit : fits brackets text = true) :
    isBracketed text = (brackets = .present) := by
  cases brackets with
  | present => simpa [fits] using fit
  | absent =>
      rw [fits, Bool.and_eq_true, bne_iff_ne] at fit
      simp [isBracketed, fit.1]

theorem eq_registerName_of_register? {register : Nibble}
    (found : register? .absent text = some register) : text = registerName register := by
  obtain ⟨fit, named⟩ := Option.ite_none_right_eq_some.mp found
  have bracketing : isBracketed text = false := by
    simpa using isBracketed_of_fits fit
  rw [inner, bracketing, if_neg Bool.false_ne_true] at named
  exact eq_registerName_of_registerNumber? named

theorem registerName_injective {left right : Nibble}
    (same : registerName left = registerName right) : left = right := by
  have number := registerNumber?_registerName left
  rw [same, registerNumber?_registerName] at number
  exact (Option.some.inj number).symm

/-- A target is a number, or a label that is no register. -/
theorem eq_of_target? {target : Target} (found : target? brackets text = .ok (some target)) :
    fits brackets text = true ∧
      ((∃ byte, Numeral.read? (inner text) = .ok (some byte) ∧ target = .value byte) ∨
        (Numeral.read? (inner text) = .ok none ∧ registerNumber? (inner text) = none ∧
          isLabelName (inner text) = true ∧ target = .label (inner text))) := by
  rw [target?] at found
  split at found
  next fit =>
    obtain ⟨read, number, found⟩ := bind_eq_ok_iff.mp found
    cases read with
    | some byte =>
        cases found
        exact ⟨fit, .inl ⟨byte, number, rfl⟩⟩
    | none =>
        simp only at found
        split at found
        next isLabel =>
          rw [Bool.and_eq_true, Option.isNone_iff_eq_none] at isLabel
          cases found
          exact ⟨fit, .inr ⟨number, isLabel.1, isLabel.2, rfl⟩⟩
        next => cases found
  next => cases found

theorem isLabelName_of_target? {name : Text}
    (found : target? brackets text = .ok (some (.label name))) : isLabelName name = true := by
  obtain ⟨-, ⟨byte, -, impossible⟩ | ⟨-, -, named, same⟩⟩ := eq_of_target? found
  · cases impossible
  · cases same
    exact named

end Operand

/-! ## Statements -/

namespace Statement

open Operand

theorem eq_ok_of_expecting {α : Type} {mnemonic : Mnemonic}
    {found : Except OverlongNumeral (Option α)} {result : α}
    (expected : expecting mnemonic found = .ok result) : found = .ok (some result) := by
  cases found with
  | error overlong => cases expected
  | ok read =>
      cases read with
      | none => cases expected
      | some other => rw [Except.ok.inj expected]

theorem instruction_eq_of_expecting {mnemonic : Mnemonic} {body : Instruction Target}
    {found : Except OverlongNumeral (Option (Instruction Target))}
    (expected : instruction <$> expecting mnemonic found = .ok (.instruction body)) :
    found = .ok (some body) := by
  obtain ⟨other, isOther, same⟩ := map_eq_ok_iff.mp expected
  cases same
  exact eq_ok_of_expecting isOther

/-- Only the two directives are read as anything but an instruction. -/
theorem exists_instruction_of_read {mnemonic : Mnemonic} {operands : List Text}
    {statement : Statement} (read : Statement.read mnemonic operands = .ok statement)
    (noData : mnemonic ≠ .db) (noOrigin : mnemonic ≠ .org) :
    ∃ body, statement = .instruction body := by
  cases mnemonic with
  | db => exact absurd rfl noData
  | org => exact absurd rfl noOrigin
  | ror =>
      obtain ⟨parts, -, read⟩ := bind_eq_ok_iff.mp read
      obtain ⟨body, -, same⟩ := map_eq_ok_iff.mp read
      exact ⟨body, same.symm⟩
  | _ =>
      obtain ⟨body, -, same⟩ := map_eq_ok_iff.mp read
      exact ⟨body, same.symm⟩

theorem exists_operands_of_load {operands : List Text} {body : Instruction Target}
    (read : Statement.read .load operands = .ok (.instruction body)) :
    ∃ first source r, operands = [first, source] ∧ register? .absent first = some r ∧
      readLoad r source = .ok (some body) := by
  have found := instruction_eq_of_expecting read
  split at found
  next first source =>
    split at found
    next r register => exact ⟨first, source, r, rfl, register, found⟩
    next => cases found
  next => cases found

theorem exists_operands_of_store {operands : List Text} {body : Instruction Target}
    (read : Statement.read .store operands = .ok (.instruction body)) :
    ∃ first destination r, operands = [first, destination] ∧ register? .absent first = some r ∧
      readStore r destination = .ok (some body) := by
  have found := instruction_eq_of_expecting read
  split at found
  next first destination =>
    split at found
    next r register => exact ⟨first, destination, r, rfl, register, found⟩
    next => cases found
  next => cases found

theorem eq_of_readLoad {r : Nibble} {source : Text} {body : Instruction Target}
    (read : readLoad r source = .ok (some body)) :
    (∃ value, target? .absent source = .ok (some value) ∧ body = .loadValue r value) ∨
      (∃ address, target? .present source = .ok (some address) ∧ body = .loadCell r address) ∨
        ∃ s, register? .present source = some s ∧ body = .loadIndirect r s := by
  obtain ⟨value, plain, read⟩ := bind_eq_ok_iff.mp read
  cases value with
  | some value =>
      cases read
      exact .inl ⟨value, plain, rfl⟩
  | none =>
      obtain ⟨address, cell, read⟩ := bind_eq_ok_iff.mp read
      cases address with
      | some address =>
          cases read
          exact .inr (.inl ⟨address, cell, rfl⟩)
      | none =>
          have found := Except.ok.inj read
          obtain ⟨s, register, rfl⟩ := Option.map_eq_some_iff.mp found
          exact .inr (.inr ⟨s, register, rfl⟩)

theorem eq_of_readStore {r : Nibble} {destination : Text} {body : Instruction Target}
    (read : readStore r destination = .ok (some body)) :
    (∃ address, target? .present destination = .ok (some address) ∧
        body = .storeCell r address) ∨
      ∃ s, register? .present destination = some s ∧ body = .storeIndirect r s := by
  obtain ⟨address, cell, read⟩ := bind_eq_ok_iff.mp read
  cases address with
  | some address =>
      cases read
      exact .inl ⟨address, cell, rfl⟩
  | none =>
      have found := Except.ok.inj read
      obtain ⟨s, register, rfl⟩ := Option.map_eq_some_iff.mp found
      exact .inr ⟨s, register, rfl⟩

theorem eq_of_readCombination {combination : Combination} {operands : List Text}
    {body : Instruction Target} (read : readCombination combination operands = some body) :
    ∃ first second third r s t, operands = [first, second, third] ∧
      register? .absent first = some r ∧ register? .absent second = some s ∧
        register? .absent third = some t ∧ body = .combine combination r s t := by
  unfold readCombination at read
  split at read
  next first second third =>
    obtain ⟨r, hasFirst, read⟩ := Option.bind_eq_some_iff.mp read
    obtain ⟨s, hasSecond, read⟩ := Option.bind_eq_some_iff.mp read
    obtain ⟨t, hasThird, read⟩ := Option.bind_eq_some_iff.mp read
    cases read
    exact ⟨first, second, third, r, s, t, rfl, hasFirst, hasSecond, hasThird, rfl⟩
  next => cases read

theorem comparedRegister?_eq_some {operator text : Text} {register : Nibble}
    (found : comparedRegister? operator text = some register) :
    register? .absent (Text.trim (Text.cutAt operator text).1) = some register := by
  unfold comparedRegister? at found
  simp only at found
  split at found
  · exact found
  · split at found
    · exact found
    · cases found

theorem eq_of_readJump {operator : Text} {jump : Nibble → Target → Instruction Target}
    {operands : List Text} {body : Instruction Target}
    (read : readJump operator jump operands = .ok (some body)) :
    ∃ compared text r target, operands = [compared, text] ∧
      register? .absent (Text.trim (Text.cutAt operator compared).1) = some r ∧
        target? .absent text = .ok (some target) ∧ body = jump r target := by
  unfold readJump at read
  split at read
  next compared text =>
    obtain ⟨target, found, read⟩ := bind_eq_ok_iff.mp read
    obtain ⟨r, register, both⟩ := Option.bind_eq_some_iff.mp (Except.ok.inj read)
    obtain ⟨address, rfl, both⟩ := Option.bind_eq_some_iff.mp both
    cases both
    exact ⟨compared, text, r, address, rfl, comparedRegister?_eq_some register, found, rfl⟩
  next => cases read

theorem exists_operands_of_move {operands : List Text} {body : Instruction Target}
    (read : Statement.read .move operands = .ok (.instruction body)) :
    ∃ first second r s, operands = [first, second] ∧ register? .absent first = some r ∧
      register? .absent second = some s ∧ body = .move r s := by
  have found := Except.ok.inj (instruction_eq_of_expecting read)
  split at found
  next first second =>
    obtain ⟨r, hasFirst, found⟩ := Option.bind_eq_some_iff.mp found
    obtain ⟨s, hasSecond, found⟩ := Option.bind_eq_some_iff.mp found
    cases found
    exact ⟨first, second, r, s, rfl, hasFirst, hasSecond, rfl⟩
  next => cases found

theorem exists_operand_of_jump {operands : List Text} {body : Instruction Target}
    (read : Statement.read .jmp operands = .ok (.instruction body)) :
    ∃ text target, operands = [text] ∧ target? .absent text = .ok (some target) ∧
      body = .jump target := by
  have found := instruction_eq_of_expecting read
  split at found
  next text =>
    obtain ⟨target, isTarget, found⟩ := bind_eq_ok_iff.mp found
    obtain ⟨target, rfl, rfl⟩ := Option.map_eq_some_iff.mp (Except.ok.inj found)
    exact ⟨text, target, rfl, isTarget, rfl⟩
  next => cases found

theorem eq_of_readRotate {operands : List Text} {body : Instruction Target}
    (read : Statement.read .ror operands = .ok (.instruction body)) :
    ∃ text numeral r count, operands = [text, numeral] ∧ register? .absent text = some r ∧
      Numeral.read? numeral = .ok (some count) ∧ rotation r count = .ok body := by
  obtain ⟨⟨r, count⟩, parts, read⟩ := bind_eq_ok_iff.mp read
  obtain ⟨other, rotated, same⟩ := map_eq_ok_iff.mp read
  cases same
  have found := eq_ok_of_expecting parts
  split at found
  next text numeral =>
    obtain ⟨value, number, found⟩ := bind_eq_ok_iff.mp found
    obtain ⟨r, register, both⟩ := Option.bind_eq_some_iff.mp (Except.ok.inj found)
    obtain ⟨count, rfl, both⟩ := Option.bind_eq_some_iff.mp both
    cases both
    exact ⟨text, numeral, r, count, rfl, register, number, rotated⟩
  next => cases found

theorem eq_of_rotation {r : Nibble} {count : Byte} {body : Instruction Target}
    (read : rotation r count = .ok body) :
    count.toNat < 16 ∧ body = .rotate r (BitVec.ofNat 4 count.toNat) := by
  rw [rotation] at read
  split at read
  next => cases read
  next small =>
    cases read
    rw [maxRotation] at small
    exact ⟨by omega, rfl⟩

/-- The label operand of an instruction that was read has the form of a label. -/
theorem isLabelName_of_read {mnemonic : Mnemonic} {operands : List Text} {body : Instruction Target}
    {name : Text} (read : Statement.read mnemonic operands = .ok (.instruction body))
    (operand : body.second .value = .label name) : isLabelName name = true := by
  cases mnemonic with
  | load =>
      obtain ⟨_, _, _, -, -, found⟩ := exists_operands_of_load read
      obtain ⟨target, isTarget, rfl⟩ | ⟨target, isTarget, rfl⟩ | ⟨_, -, rfl⟩ :=
        eq_of_readLoad found
      · obtain rfl : target = .label name := operand
        exact isLabelName_of_target? isTarget
      · obtain rfl : target = .label name := operand
        exact isLabelName_of_target? isTarget
      · cases operand
  | store =>
      obtain ⟨_, _, _, -, -, found⟩ := exists_operands_of_store read
      obtain ⟨target, isTarget, rfl⟩ | ⟨_, -, rfl⟩ := eq_of_readStore found
      · obtain rfl : target = .label name := operand
        exact isLabelName_of_target? isTarget
      · cases operand
  | jmp =>
      obtain ⟨_, target, -, isTarget, rfl⟩ := exists_operand_of_jump read
      obtain rfl : target = .label name := operand
      exact isLabelName_of_target? isTarget
  | jmpeq | jmple =>
      obtain ⟨_, _, _, target, -, -, isTarget, rfl⟩ :=
        eq_of_readJump (instruction_eq_of_expecting read)
      obtain rfl : target = .label name := operand
      exact isLabelName_of_target? isTarget
  | move =>
      obtain ⟨_, _, _, _, -, -, -, rfl⟩ := exists_operands_of_move read
      cases operand
  | addi | addf | and | or | xor =>
      obtain ⟨_, _, _, _, _, _, -, -, -, -, rfl⟩ :=
        eq_of_readCombination (Except.ok.inj (instruction_eq_of_expecting read))
      cases operand
  | ror =>
      obtain ⟨_, _, _, _, -, -, -, rotated⟩ := eq_of_readRotate read
      obtain ⟨-, rfl⟩ := eq_of_rotation rotated
      cases operand
  | db | org =>
      obtain ⟨_, -, impossible⟩ := map_eq_ok_iff.mp read
      cases impossible
  | halt =>
      obtain ⟨-, same⟩ :=
        Option.ite_none_right_eq_some.mp (Except.ok.inj (instruction_eq_of_expecting read))
      cases same
      cases operand

end Statement

/-! ## Lines -/

theorem Mnemonic.name_of_ofText? {word : Text} {mnemonic : Mnemonic}
    (found : ofText? word = some mnemonic) : mnemonic.name = word.lower := by
  have same := List.find?_some found
  exact beq_iff_eq.mp same

theorem SourceLine.exists_read_of_statement {line : SourceLine} {word : Text}
    {statement : Option Statement} (isWord : line.mnemonic = some word)
    (isStatement : line.statement = .ok statement) :
    ∃ mnemonic found, Mnemonic.ofText? word = some mnemonic ∧
      Statement.read mnemonic line.operands = .ok found ∧ statement = some found := by
  rw [SourceLine.statement, isWord] at isStatement
  obtain ⟨found, read, rfl⟩ := map_eq_ok_iff.mp isStatement
  rw [Statement.ofParts] at read
  split at read
  next mnemonic named => exact ⟨mnemonic, found, named, read, rfl⟩
  next => cases read

end ByteMachine
