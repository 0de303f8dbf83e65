import ByteMachine.Assembly.Statement
import ByteMachine.Proofs.Text.Cutting
import Mathlib.Tactic.IntervalCases

/-!
# Operands read back

A byte written in hexadecimal, a rotation count written in decimal and a register written with its
digit are read as themselves, and none of them is read as anything else.  The name of a label is
never a number, so a register name is not one either.
-/

namespace ByteMachine

/-! ## Digits -/

namespace Text

theorem hexDigits_of_lt {n : Nat} (small : n < 16) : hexDigits n = [hexDigit n] := by
  rw [hexDigits, if_pos small]

theorem hexNat_one {n : Nat} (small : n < 16) : hexNat 1 n = [hexDigit n] := by
  simp [hexNat, padStart, hexDigits_of_lt small]

theorem hexNat_two {n : Nat} (small : n < 256) :
    hexNat 2 n = [hexDigit (n / 16), hexDigit (n % 16)] := by
  by_cases single : n < 16
  · have quotient : n / 16 = 0 := by omega
    have remainder : n % 16 = n := by omega
    rw [hexNat, padStart, hexDigits_of_lt single, quotient, remainder]
    rfl
  · have short : n / 16 < 16 := by omega
    rw [hexNat, padStart, hexDigits, if_neg single, hexDigits_of_lt short]
    rfl

end Text

theorem registerName_eq (register : Nibble) :
    registerName register = ['R', Text.hexDigit register.toNat] := by
  rw [registerName, Nibble.hex, Text.hexNat_one register.isLt]

theorem byteNumeral_eq (byte : Byte) :
    byteNumeral byte =
      ['0', 'x', Text.hexDigit (byte.toNat / 16), Text.hexDigit (byte.toNat % 16)] := by
  rw [byteNumeral, Byte.hex, Text.hexNat_two byte.isLt]

/-! ## Numerals -/

namespace Numeral

theorem hexValue?_hexDigit {n : Nat} (small : n < 16) :
    hexValue? (Text.hexDigit n) = some n := by
  revert n
  decide

/-- A digit that is no small letter is the one with which its value is written. -/
theorem hexDigit_of_hexValue? {c : Char} {n : Nat} (value : hexValue? c = some n)
    (upper : c.isLower = false) : n < 16 ∧ Text.hexDigit n = c := by
  have named (code : Nat) (same : code = c.toNat) : Char.ofNat code = c := by
    rw [same, Char.ofNat_toNat]
  rw [hexValue?] at value
  split at value
  next decimal =>
    cases value
    refine ⟨by omega, ?_⟩
    rw [Text.hexDigit, if_pos (by omega)]
    exact named _ (by omega)
  next =>
    split at value
    next capital =>
      cases value
      refine ⟨by omega, ?_⟩
      rw [Text.hexDigit, if_neg (by omega)]
      exact named _ (by omega)
    next =>
      split at value
      next small =>
        have isLower : c.isLower = true := by
          delta Char.isLower
          rw [Bool.and_eq_true, decide_eq_true_iff, decide_eq_true_iff]
          have bound : c.toNat ≤ 0x7A := by omega
          exact ⟨UInt32.le_iff_toNat_le.mpr small.1, UInt32.le_iff_toNat_le.mpr bound⟩
        rw [isLower] at upper
        contradiction
      next => cases value

theorem digits?_eq_none {base : Nat} {text : Text} {c : Char} (member : c ∈ text)
    (foreign : digitValue? base c = none) : digits? base text = none := by
  have failed : text.mapM (digitValue? base) = none := by
    induction text with
    | nil => simp at member
    | cons first rest induction =>
        rw [List.mapM_cons]
        rcases List.mem_cons.mp member with rfl | later
        · simp [foreign]
        · simp [induction later]
  rw [digits?, failed, ite_self]

theorem dropMark_cons_cons (mark c next : Char) (rest : Text) :
    dropMark mark (c :: next :: rest) = c :: dropMark mark (next :: rest) := by
  rw [dropMark, dropMark, List.getLast?_cons_cons, List.dropLast_cons_cons]
  split <;> rfl

theorem digitValue?_eq_none {base : Nat} {c : Char}
    (foreign : ∀ digit, hexValue? c = some digit → base ≤ digit) : digitValue? base c = none := by
  rw [digitValue?, Option.filter_eq_none_iff]
  intro digit value
  simpa using foreign digit value

/-- The marks of the decimal and the binary form stand behind the digits, so a first character that
is no digit spoils these forms. -/
theorem digits?_dropMark_eq_none {base : Nat} {mark c : Char} {rest : Text}
    (foreign : digitValue? base c = none) : digits? base (dropMark mark (c :: rest)) = none := by
  cases rest with
  | nil =>
      by_cases isMark : c = mark
      · simp [dropMark, isMark, digits?]
      · rw [dropMark, List.getLast?_singleton, if_neg (by simpa using isMark)]
        exact digits?_eq_none (List.mem_singleton_self c) foreign
  | cons next more =>
      rw [dropMark_cons_cons]
      exact digits?_eq_none (List.mem_cons_self ..) foreign

theorem decimal?_eq_none {c : Char} {rest : Text} (noPlus : c ≠ '+') (noMinus : c ≠ '-')
    (foreign : digits? 10 (dropMark 'd' (c :: rest)) = none) :
    decimal? (c :: rest) = .ok none := by
  have unsigned : Text.takeSign (c :: rest) = (false, c :: rest) := by
    rw [Text.takeSign]
    · intro more isPlus
      exact absurd (List.head_eq_of_cons_eq isPlus) noPlus
    · intro more isMinus
      exact absurd (List.head_eq_of_cons_eq isMinus) noMinus
  rw [decimal?]
  simp only [unsigned, foreign]

/-- A byte is read back from its two hexadecimal digits. -/
theorem read?_byteNumeral (byte : Byte) : read? (byteNumeral byte) = .ok (some byte) := by
  obtain ⟨high, highDef⟩ : ∃ high, high = byte.toNat / 16 := ⟨_, rfl⟩
  obtain ⟨low, lowDef⟩ : ∃ low, low = byte.toNat % 16 := ⟨_, rfl⟩
  have highSmall : high < 16 := by have := byte.isLt; omega
  have lowSmall : low < 16 := by omega
  have text : byteNumeral byte = ['0', 'x', Text.hexDigit high, Text.hexDigit low] := by
    rw [byteNumeral_eq, highDef, lowDef]
  -- The letter x is a digit of no base, so only the hexadecimal form is left.
  have spoiled (base : Nat) (mark : Char) :
      digits? base (dropMark mark ['0', 'x', Text.hexDigit high, Text.hexDigit low]) = none := by
    rw [dropMark_cons_cons, dropMark_cons_cons]
    refine digits?_eq_none (c := 'x') (by simp) (digitValue?_eq_none ?_)
    simp [hexValue?]
  have notDecimal : decimal? (byteNumeral byte) = .ok none := by
    rw [text]
    exact decimal?_eq_none (by simp) (by simp) (spoiled 10 'd')
  have notBinary : binary? (byteNumeral byte) = none := by
    rw [text, binary?, spoiled, Option.bind_none]
  have digits : digits? 16 [Text.hexDigit high, Text.hexDigit low] = some [high, low] := by
    have highValue : digitValue? 16 (Text.hexDigit high) = some high := by
      simp [digitValue?, hexValue?_hexDigit highSmall, highSmall]
    have lowValue : digitValue? 16 (Text.hexDigit low) = some low := by
      simp [digitValue?, hexValue?_hexDigit lowSmall, lowSmall]
    simp [digits?, highValue, lowValue]
  have value : Text.ofDigits 16 [high, low] = byte.toNat := by
    simp [Text.ofDigits]
    omega
  have hexadecimal : hexadecimal? (byteNumeral byte) = some byte := by
    rw [text, hexadecimal?, hexBody?, Option.bind_some, digits, Option.bind_some, byte?, value,
      if_pos byte.isLt, BitVec.ofNat_toNat]
    simp
  rw [read?, notDecimal]
  simp [notBinary, hexadecimal, bind, Except.bind, pure, Except.pure]

theorem read?_decimalNat (count : Nibble) :
    read? (Text.decimalNat count.toNat) = .ok (some (BitVec.ofNat 8 count.toNat)) := by
  have all : ∀ n < 16, read? (Text.decimalNat n) = .ok (some (BitVec.ofNat 8 n)) := by
    intro n small
    interval_cases n <;> rfl
  exact all _ count.isLt

theorem digitValue?_of_not_isDigit {base : Nat} {c : Char} (small : base ≤ 10)
    (noDigit : c.isDigit = false) : digitValue? base c = none := by
  have outside : ¬(0x30 ≤ c.toNat ∧ c.toNat ≤ 0x39) := by
    intro inside
    have isDigit : c.isDigit = true := by
      rw [Char.isDigit, Bool.and_eq_true, decide_eq_true_iff, decide_eq_true_iff]
      exact ⟨UInt32.le_iff_toNat_le.mpr inside.1, UInt32.le_iff_toNat_le.mpr inside.2⟩
    rw [isDigit] at noDigit
    contradiction
  refine digitValue?_eq_none fun digit value => ?_
  rw [hexValue?, if_neg outside] at value
  split at value
  · cases value
    omega
  · split at value
    · cases value
      omega
    · cases value

/-- The name of a label is no number: it starts with no digit, and what may start it besides a
letter is no hexadecimal digit. -/
theorem read?_of_isLabelName {name : Text} (named : Operand.isLabelName name = true) :
    read? name = .ok none := by
  cases name with
  | nil => simp [Operand.isLabelName] at named
  | cons c rest =>
      simp only [Operand.isLabelName, List.all_cons, Bool.and_eq_true, Bool.not_eq_true',
        Operand.isLabelChar, Bool.or_eq_true, beq_iff_eq] at named
      obtain ⟨noDigit, labelChar, -⟩ := named
      have notSpecial : c ≠ '+' ∧ c ≠ '-' ∧ c ≠ '$' ∧ c ≠ '0' := by
        refine ⟨?_, ?_, ?_, ?_⟩ <;> rintro rfl <;> revert noDigit labelChar <;> decide
      have notDecimal : decimal? (c :: rest) = .ok none :=
        decimal?_eq_none notSpecial.1 notSpecial.2.1
          (digits?_dropMark_eq_none (digitValue?_of_not_isDigit (by omega) noDigit))
      have notBinary : binary? (c :: rest) = none := by
        rw [binary?, digits?_dropMark_eq_none (digitValue?_of_not_isDigit (by omega) noDigit),
          Option.bind_none]
      have notHexadecimal : hexadecimal? (c :: rest) = none := by
        rw [hexadecimal?]
        unfold hexBody?
        split
        next body isZero => exact absurd (List.head_eq_of_cons_eq isZero) notSpecial.2.2.2
        next body isDollar => exact absurd (List.head_eq_of_cons_eq isDollar) notSpecial.2.2.1
        next first more _ _ same =>
          obtain ⟨rfl, rfl⟩ := List.cons_eq_cons.mp same
          split
          next marked =>
            rw [Bool.and_eq_true, Bool.not_eq_true'] at marked
            have foreign : digitValue? 16 c = none := by
              rw [Char.isAlphanum, marked.2, noDigit] at labelChar
              rcases labelChar with ((impossible | rfl) | rfl) | rfl
              · contradiction
              all_goals rfl
            rw [Option.bind_some, digits?_eq_none (List.mem_cons_self ..) foreign,
              Option.bind_none]
          next => rfl
        next impossible => cases impossible
      rw [read?, notDecimal]
      simp [notBinary, notHexadecimal, bind, Except.bind, pure, Except.pure]

end Numeral

/-! ## Labels -/

namespace Operand

theorem isLabelChar_of_mem {name : Text} {c : Char} (named : isLabelName name = true)
    (member : c ∈ name) : isLabelChar c = true := by
  cases name with
  | nil => cases member
  | cons first rest =>
      rw [isLabelName, Bool.and_eq_true] at named
      exact List.all_eq_true.mp named.2 c member

theorem not_mem_of_isLabelName {name : Text} {mark : Char} (named : isLabelName name = true)
    (foreign : isLabelChar mark = false) : mark ∉ name := by
  intro member
  rw [isLabelChar_of_mem named member] at foreign
  contradiction

theorem isBlank_of_isLabelChar {c : Char} (labelChar : isLabelChar c = true) :
    Text.isBlank c = false := by
  simp only [isLabelChar, Bool.or_eq_true, beq_iff_eq] at labelChar
  rcases labelChar with ((plain | rfl) | rfl) | rfl
  · exact Text.isBlank_of_isAlphanum plain
  all_goals rfl

theorem isLineBreak_of_isLabelChar {c : Char} (labelChar : isLabelChar c = true) :
    Text.isLineBreak c = false := by
  simp only [isLabelChar, Bool.or_eq_true, beq_iff_eq] at labelChar
  rcases labelChar with ((plain | rfl) | rfl) | rfl
  · exact Text.isLineBreak_of_isAlphanum plain
  all_goals rfl

/-! ## Registers and brackets -/

theorem isLabelName_registerName (register : Nibble) :
    isLabelName (registerName register) = true := by
  rw [registerName_eq]
  revert register
  decide

theorem registerNumber?_registerName (register : Nibble) :
    registerNumber? (registerName register) = some register := by
  rw [registerName_eq]
  revert register
  decide

/-- The only text that names a register is the one with which the register is written. -/
theorem eq_registerName_of_registerNumber? {text : Text} {register : Nibble}
    (named : registerNumber? text = some register) : text = registerName register := by
  unfold registerNumber? at named
  split at named
  next c =>
    split at named
    next => cases named
    next upper =>
      obtain ⟨digit, value, rfl⟩ := Option.map_eq_some_iff.mp named
      obtain ⟨small, written⟩ :=
        Numeral.hexDigit_of_hexValue? value (by simpa using upper)
      rw [registerName_eq, BitVec.toNat_ofNat, Nat.mod_eq_of_lt small, written]
  next => cases named

theorem isBracketed_bracketed (text : Text) : isBracketed (bracketed text) = true := by
  rw [isBracketed, bracketed, List.getLast?_concat]
  rfl

theorem inner_bracketed {text : Text} (trimmed : text.IsTrimmed) :
    inner (bracketed text) = text := by
  rw [inner, if_pos (isBracketed_bracketed text), bracketed, List.cons_append, List.drop_one,
    List.tail_cons, List.dropLast_concat, trimmed.trim]

theorem fits_present_bracketed (text : Text) : fits .present (bracketed text) = true :=
  isBracketed_bracketed text

theorem fits_absent_bracketed (text : Text) : fits .absent (bracketed text) = false :=
  rfl

theorem isAlphanum_hexDigit {n : Nat} (small : n < 16) : (Text.hexDigit n).isAlphanum = true := by
  revert n
  decide

theorem isPlain_registerName (register : Nibble) : (registerName register).IsPlain := by
  rw [registerName_eq]
  simp [Text.IsPlain, isAlphanum_hexDigit register.isLt]

theorem isPlain_byteNumeral (byte : Byte) : (byteNumeral byte).IsPlain := by
  have small := byte.isLt
  have high : byte.toNat / 16 < 16 := by omega
  have low : byte.toNat % 16 < 16 := by omega
  rw [byteNumeral_eq]
  simp [Text.IsPlain, isAlphanum_hexDigit high, isAlphanum_hexDigit low]

theorem fits_absent_of_isPlain {text : Text} (plain : text.IsPlain) :
    fits .absent text = true := by
  have opens : text.head? ≠ some '[' := fun first =>
    plain.not_mem (by simp) (List.mem_of_mem_head? first)
  have closes : text.getLast? ≠ some ']' := fun last =>
    plain.not_mem (by simp) (List.mem_of_mem_getLast? last)
  simp [fits, opens, closes]

theorem inner_of_isPlain {text : Text} (plain : text.IsPlain) : inner text = text := by
  have opens : text.head? ≠ some '[' := fun first =>
    plain.not_mem (by simp) (List.mem_of_mem_head? first)
  simp [inner, isBracketed, opens]

theorem register?_registerName (register : Nibble) :
    register? .absent (registerName register) = some register := by
  have plain := isPlain_registerName register
  rw [register?, if_pos (fits_absent_of_isPlain plain), inner_of_isPlain plain,
    registerNumber?_registerName]

theorem register?_bracketed_registerName (register : Nibble) :
    register? .present (bracketed (registerName register)) = some register := by
  rw [register?, if_pos (fits_present_bracketed _),
    inner_bracketed (isPlain_registerName register).isTrimmed, registerNumber?_registerName]

theorem target?_byteNumeral (byte : Byte) :
    target? .absent (byteNumeral byte) = .ok (some (.value byte)) := by
  have plain := isPlain_byteNumeral byte
  rw [target?, if_pos (fits_absent_of_isPlain plain), inner_of_isPlain plain,
    Numeral.read?_byteNumeral]
  rfl

theorem target?_bracketed_byteNumeral (byte : Byte) :
    target? .present (bracketed (byteNumeral byte)) = .ok (some (.value byte)) := by
  rw [target?, if_pos (fits_present_bracketed _),
    inner_bracketed (isPlain_byteNumeral byte).isTrimmed, Numeral.read?_byteNumeral]
  rfl

theorem target?_absent_bracketed (text : Text) : target? .absent (bracketed text) = .ok none := by
  rw [target?, fits_absent_bracketed, if_neg Bool.false_ne_true]

/-- A register between brackets is no address, so that it is left to the indirect forms. -/
theorem target?_bracketed_registerName (register : Nibble) :
    target? .present (bracketed (registerName register)) = .ok none := by
  rw [target?, if_pos (fits_present_bracketed _),
    inner_bracketed (isPlain_registerName register).isTrimmed,
    Numeral.read?_of_isLabelName (isLabelName_registerName register)]
  simp [registerNumber?_registerName, bind, Except.bind, pure, Except.pure]

/-! ## Characters of operands -/

/-- The characters of which written operands consist. -/
def isWrittenChar (c : Char) : Bool :=
  c.isAlphanum || c == '[' || c == ']'

/-- A text that can stand among operands without being taken apart. -/
def IsWritten (text : Text) : Prop :=
  text ≠ [] ∧ ∀ c ∈ text, isWrittenChar c = true

theorem isWritten_of_isPlain {text : Text} (present : text ≠ []) (plain : text.IsPlain) :
    IsWritten text :=
  ⟨present, fun c member => by rw [isWrittenChar, plain c member]; rfl⟩

theorem isWritten_registerName (register : Nibble) : IsWritten (registerName register) :=
  isWritten_of_isPlain (List.cons_ne_nil _ _) (isPlain_registerName register)

theorem isWritten_byteNumeral (byte : Byte) : IsWritten (byteNumeral byte) :=
  isWritten_of_isPlain (List.cons_ne_nil _ _) (isPlain_byteNumeral byte)

theorem isWritten_decimalNat (count : Nibble) : IsWritten (Text.decimalNat count.toNat) := by
  have all : ∀ n < 16, Text.decimalNat n ≠ [] ∧
      (Text.decimalNat n).all isWrittenChar = true := by
    intro n small
    interval_cases n <;> exact ⟨List.cons_ne_nil _ _, rfl⟩
  obtain ⟨present, written⟩ := all _ count.isLt
  exact ⟨present, List.all_eq_true.mp written⟩

theorem isWritten_bracketed {text : Text} (written : IsWritten text) :
    IsWritten (bracketed text) := by
  refine ⟨List.cons_ne_nil _ _, fun c member => ?_⟩
  rw [bracketed, List.mem_append, List.mem_cons, List.mem_singleton] at member
  rcases member with (rfl | inside) | rfl
  · rfl
  · exact written.2 c inside
  · rfl

theorem isBlank_of_isWrittenChar {c : Char} (written : isWrittenChar c = true) :
    Text.isBlank c = false := by
  simp only [isWrittenChar, Bool.or_eq_true, beq_iff_eq] at written
  rcases written with (plain | rfl) | rfl
  · exact Text.isBlank_of_isAlphanum plain
  all_goals rfl

theorem isLineBreak_of_isWrittenChar {c : Char} (written : isWrittenChar c = true) :
    Text.isLineBreak c = false := by
  simp only [isWrittenChar, Bool.or_eq_true, beq_iff_eq] at written
  rcases written with (plain | rfl) | rfl
  · exact Text.isLineBreak_of_isAlphanum plain
  all_goals rfl

end Operand
end ByteMachine
