import ByteMachine.Proofs.Assembly.LineRendering
import ByteMachine.Proofs.Assembly.StatementReading

/-!
# Forms of an operand

A statement tells what its operands are by trying the forms that an operand may have.  The order in
which they are tried does not matter: no text is of two forms.  Nor do the labels known so far: they
tell where an address is, but not whether the operand is one.  As the name of a label is no number,
every label can be written where an address is asked for, except those that are named as registers.
-/

namespace ByteMachine

/-! ## Texts that are no numbers -/

namespace Numeral

/-- The hexadecimal digits of a numeral that starts neither with zero nor with a dollar sign
start where it does. -/
theorem hexBody?_cons {c : Char} {rest : Text} (noZero : c ≠ '0') (noDollar : c ≠ '$') :
    hexBody? (c :: rest) =
      if rest.getLast? = some 'h' && !c.isAlpha then some (c :: rest.dropLast) else none := by
  unfold hexBody?
  split
  next isZero => exact absurd (List.head_eq_of_cons_eq isZero) noZero
  next isDollar => exact absurd (List.head_eq_of_cons_eq isDollar) noDollar
  next same =>
    obtain ⟨rfl, rfl⟩ := List.cons_eq_cons.mp same
    rfl
  next impossible => cases impossible

theorem hexadecimal?_eq_none {c : Char} {rest : Text} (noZero : c ≠ '0') (noDollar : c ≠ '$')
    (foreign : digitValue? 16 c = none) : hexadecimal? (c :: rest) = none := by
  rw [hexadecimal?, hexBody?_cons noZero noDollar]
  split
  · rw [Option.bind_some, digits?_eq_none (List.mem_cons_self ..) foreign, Option.bind_none]
  · rfl

/-- A text between quotation marks is no number. -/
theorem read?_of_quoted {mark : Char} (quote : mark = '"' ∨ mark = '\'') (rest : Text) :
    read? (mark :: rest) = .ok none := by
  have foreign : ∀ base ≤ 16, digitValue? base mark = none := by
    intro base _
    rw [digitValue?]
    rcases quote with rfl | rfl <;> rfl
  have plain : mark ≠ '+' ∧ mark ≠ '-' ∧ mark ≠ '0' ∧ mark ≠ '$' := by
    rcases quote with rfl | rfl <;> simp
  obtain ⟨noPlus, noMinus, noZero, noDollar⟩ := plain
  have noDecimal : decimal? (mark :: rest) = .ok none :=
    decimal?_eq_none noPlus noMinus (digits?_dropMark_eq_none (foreign 10 (by omega)))
  have noBinary : binary? (mark :: rest) = none := by
    rw [binary?, digits?_dropMark_eq_none (foreign 2 (by omega)), Option.bind_none]
  have noHexadecimal : hexadecimal? (mark :: rest) = none :=
    hexadecimal?_eq_none noZero noDollar (foreign 16 (Nat.le_refl _))
  rw [read?, noDecimal]
  simp [noBinary, noHexadecimal, bind, Except.bind, pure, Except.pure]

end Numeral

namespace Operand

/-! ## Forms -/

/-- The address that an operand with the given brackets names, as far as the labels known so far
tell it. -/
def address? {α : Type} (ofByte : Byte → α) (find : Text → Option α) (brackets : Brackets)
    (text : Text) : Except OverlongNumeral (Option (Reference α)) :=
  (target? brackets text).map (Option.map (Target.resolve ofByte find))

/-- The forms that an operand may have. -/
inductive Form
  | register (brackets : Brackets)
  | address (brackets : Brackets)
  | string
  deriving DecidableEq, Repr

section Forms

variable {α β : Type} {ofByte : Byte → α} {find : Text → Option α} {brackets other : Brackets}
  {text : Text}

/-- An operand has a form when it can be read in it. -/
def HasForm (ofByte : Byte → α) (find : Text → Option α) (text : Text) : Form → Prop
  | .register brackets => ∃ register, register? brackets text = some register
  | .address brackets => ∃ reference, address? ofByte find brackets text = .ok (some reference)
  | .string => ∃ chars, string? text = some chars

theorem address?_eq_some_iff {reference : Reference α} :
    address? ofByte find brackets text = .ok (some reference) ↔
      ∃ target, target? brackets text = .ok (some target) ∧
        target.resolve ofByte find = reference := by
  rw [address?]
  cases target? brackets text with
  | error numeral => simp [Except.map]
  | ok found => simp [Except.map]

/-- The labels that are known have no part in whether an operand is an address. -/
theorem hasForm_address_iff :
    HasForm ofByte find text (.address brackets) ↔
      ∃ target, target? brackets text = .ok (some target) := by
  simp only [HasForm, address?_eq_some_iff]
  constructor
  · rintro ⟨-, target, found, -⟩
    exact ⟨target, found⟩
  · rintro ⟨target, found⟩
    exact ⟨_, target, found, rfl⟩

theorem hasForm_iff (ofByte : Byte → α) (find : Text → Option α) (ofOther : Byte → β)
    (findOther : Text → Option β) (form : Form) :
    HasForm ofByte find text form ↔ HasForm ofOther findOther text form := by
  cases form with
  | register | string => exact Iff.rfl
  | address => rw [hasForm_address_iff, hasForm_address_iff]

/-! ## No text has two forms -/

theorem eq_of_fits (fit : fits brackets text = true) (also : fits other text = true) :
    brackets = other := by
  have same := (isBracketed_of_fits fit).symm.trans (isBracketed_of_fits also)
  cases brackets <;> cases other <;> simp_all

theorem fits_of_register? {register : Nibble} (found : register? brackets text = some register) :
    fits brackets text = true ∧ inner text = registerName register := by
  obtain ⟨fit, named⟩ := Option.ite_none_right_eq_some.mp found
  exact ⟨fit, eq_registerName_of_registerNumber? named⟩

/-- A register is no address. -/
theorem target?_of_inner_eq_registerName {register : Nibble}
    (named : inner text = registerName register) : target? brackets text = .ok none := by
  rw [target?, named, Numeral.read?_of_isLabelName (isLabelName_registerName register),
    registerNumber?_registerName]
  simp [bind, Except.bind, pure, Except.pure]

/-- What stands between quotation marks is neither between brackets nor a register or an address. -/
theorem inner_of_string? {chars : Text} (found : string? text = some chars) :
    isBracketed text = false ∧ inner text = text ∧ registerNumber? text = none ∧
      isLabelName text = false ∧ Numeral.read? text = .ok none := by
  cases text with
  | nil => cases found
  | cons mark rest =>
      obtain ⟨⟨quote, -⟩, -⟩ := Option.ite_none_right_eq_some.mp found
      have opens : isBracketed (mark :: rest) = false := by
        rcases quote with rfl | rfl <;> rfl
      have noRegister : registerNumber? (mark :: rest) = none := by
        rcases quote with rfl | rfl <;> rfl
      have noLabel : isLabelName (mark :: rest) = false := by
        rcases quote with rfl | rfl <;> rfl
      have whole : inner (mark :: rest) = mark :: rest := by
        rw [inner, opens, if_neg Bool.false_ne_true]
      exact ⟨opens, whole, noRegister, noLabel, Numeral.read?_of_quoted quote rest⟩

theorem register?_of_string? {chars : Text} (found : string? text = some chars) :
    register? brackets text = none := by
  obtain ⟨-, whole, noRegister, -⟩ := inner_of_string? found
  rw [register?, whole, noRegister, ite_self]

theorem target?_of_string? {chars : Text} (found : string? text = some chars) :
    target? brackets text = .ok none := by
  obtain ⟨-, whole, -, noLabel, noNumber⟩ := inner_of_string? found
  rw [target?, whole, noNumber, noLabel]
  simp [bind, Except.bind, pure, Except.pure]

theorem not_address_of_register
    (isRegister : HasForm ofByte find text (.register brackets)) :
    ¬HasForm ofByte find text (.address other) := by
  intro isAddress
  obtain ⟨register, named⟩ := isRegister
  obtain ⟨target, found⟩ := hasForm_address_iff.mp isAddress
  rw [target?_of_inner_eq_registerName (fits_of_register? named).2] at found
  cases found

theorem not_register_of_string (isString : HasForm ofByte find text .string) :
    ¬HasForm ofByte find text (.register brackets) := by
  rintro ⟨register, named⟩
  obtain ⟨chars, found⟩ := isString
  rw [register?_of_string? found] at named
  cases named

theorem not_address_of_string (isString : HasForm ofByte find text .string) :
    ¬HasForm ofByte find text (.address brackets) := by
  intro isAddress
  obtain ⟨chars, found⟩ := isString
  obtain ⟨target, named⟩ := hasForm_address_iff.mp isAddress
  rw [target?_of_string? found] at named
  cases named

theorem HasForm.fits_of_register (isRegister : HasForm ofByte find text (.register brackets)) :
    fits brackets text = true := by
  obtain ⟨register, named⟩ := isRegister
  exact (fits_of_register? named).1

theorem HasForm.fits_of_address (isAddress : HasForm ofByte find text (.address brackets)) :
    fits brackets text = true := by
  obtain ⟨target, found⟩ := hasForm_address_iff.mp isAddress
  exact (eq_of_target? found).1

theorem HasForm.unique {first second : Form} (isFirst : HasForm ofByte find text first)
    (isSecond : HasForm ofByte find text second) : first = second := by
  cases first with
  | register brackets =>
      cases second with
      | register other => rw [eq_of_fits isFirst.fits_of_register isSecond.fits_of_register]
      | address other => exact absurd isSecond (not_address_of_register isFirst)
      | string => exact absurd isFirst (not_register_of_string isSecond)
  | address brackets =>
      cases second with
      | register other => exact absurd isFirst (not_address_of_register isSecond)
      | address other => rw [eq_of_fits isFirst.fits_of_address isSecond.fits_of_address]
      | string => exact absurd isFirst (not_address_of_string isSecond)
  | string =>
      cases second with
      | register other => exact absurd isSecond (not_register_of_string isFirst)
      | address other => exact absurd isSecond (not_address_of_string isFirst)
      | string => rfl

end Forms

/-! ## Labels as addresses -/

section Labels

variable {name operand : Text} {brackets : Brackets}

/-- Some line of source defines a label of the name. -/
def IsDefinable (name : Text) : Prop :=
  ∃ source line, SourceLine.ofText source = .ok line ∧ line.label = some name

/-- The labels that can be defined are those with the name of a label. -/
theorem isDefinable_iff : IsDefinable name ↔ isLabelName name = true := by
  constructor
  · rintro ⟨source, line, read, labelled⟩
    unfold SourceLine.ofText at read
    simp only at read
    split at read
    next =>
      cases read
      rw [SourceLine.label_ofBody] at labelled
      cases labelled
    next =>
      split at read
      next named =>
        cases read
        rw [SourceLine.label_ofBody, Option.some.injEq] at labelled
        rw [← labelled]
        exact named
      next => cases read
  · intro named
    have noComment : ';' ∉ ([] : Text) := List.not_mem_nil
    exact ⟨name ++ [':'], _, SourceLine.ofText_of_labelled named noComment,
      SourceLine.label_ofBody _ _ _⟩

/-- The operands in which a name is written where an address is asked for. -/
inductive Writes (name : Text) : Brackets → Text → Prop
  | bare : Writes name .absent name
  | bracketed {padded : Text} (around : Text.IsPadded name padded) :
      Writes name .present (bracketed padded)

theorem inner_bracketed_eq_trim (text : Text) : inner (bracketed text) = Text.trim text := by
  rw [inner, if_pos (isBracketed_bracketed text), bracketed, List.cons_append, List.drop_one,
    List.tail_cons, List.dropLast_concat]

theorem isTrimmed_of_isLabelName (named : isLabelName name = true) : name.IsTrimmed :=
  Text.isTrimmed_of_forall fun _ member => isBlank_of_isLabelChar (isLabelChar_of_mem named member)

/-- The brackets are those that are asked for, and between them there is the name. -/
theorem Writes.inner_eq (writes : Writes name brackets operand) (named : isLabelName name = true) :
    fits brackets operand = true ∧ inner operand = name := by
  cases writes with
  | bare =>
      have opens : name.head? ≠ some '[' := fun first =>
        not_mem_of_isLabelName named rfl (List.mem_of_mem_head? first)
      have closes : name.getLast? ≠ some ']' := fun last =>
        not_mem_of_isLabelName named rfl (List.mem_of_mem_getLast? last)
      simp [fits, inner, isBracketed, opens, closes]
  | bracketed around =>
      refine ⟨fits_present_bracketed _, ?_⟩
      rw [inner_bracketed_eq_trim, around.trim_eq, (isTrimmed_of_isLabelName named).trim]

/-- A label that is not named as a register stands for itself where an address is asked for. -/
theorem target?_of_writes (writes : Writes name brackets operand) (named : isLabelName name = true)
    (noRegister : ∀ register, name ≠ registerName register) :
    target? brackets operand = .ok (some (.label name)) := by
  obtain ⟨fit, inside⟩ := writes.inner_eq named
  have notRegister : registerNumber? name = none := by
    rw [Option.eq_none_iff_forall_ne_some]
    intro register isRegister
    exact noRegister register (eq_registerName_of_registerNumber? isRegister)
  rw [target?, if_pos fit, inside, Numeral.read?_of_isLabelName named, notRegister, named]
  rfl

theorem register?_of_writes {register : Nibble}
    (writes : Writes (registerName register) brackets operand) :
    register? brackets operand = some register := by
  obtain ⟨fit, inside⟩ := writes.inner_eq (isLabelName_registerName register)
  rw [register?, if_pos fit, inside, registerNumber?_registerName]

end Labels

/-- An operand has at most one of the five forms, and the same one whatever labels are known.  The
name of a label is no number.  Where an address is asked for, a label that can be defined stands
for itself, unless it is named as a register: then a register is written there. -/
theorem hasForm_unique {α β : Type} (ofByte : Byte → α) (find : Text → Option α)
    (ofOther : Byte → β) (findOther : Text → Option β) :
    (∀ text first second, HasForm ofByte find text first → HasForm ofByte find text second →
      first = second) ∧
    (∀ text form, HasForm ofByte find text form ↔ HasForm ofOther findOther text form) ∧
    (∀ name, isLabelName name = true → Numeral.read? name = .ok none) ∧
    ∀ name, IsDefinable name → ∀ brackets operand, Writes name brackets operand →
      ((∀ register, name ≠ registerName register) →
        (∀ known, find name = some known →
          address? ofByte find brackets operand = .ok (some (.known known))) ∧
        (find name = none → address? ofByte find brackets operand = .ok (some (.pending name)))) ∧
      ∀ register, name = registerName register →
        register? brackets operand = some register ∧
          address? ofByte find brackets operand = .ok none := by
  refine ⟨fun _ _ _ isFirst => isFirst.unique, fun _ => hasForm_iff ofByte find ofOther findOther,
    fun _ => Numeral.read?_of_isLabelName, ?_⟩
  intro name definable brackets operand writes
  have named := isDefinable_iff.mp definable
  constructor
  · intro noRegister
    have found := target?_of_writes writes named noRegister
    constructor
    · intro known isKnown
      exact address?_eq_some_iff.mpr ⟨_, found, by simp only [Target.resolve, isKnown]⟩
    · intro unknown
      exact address?_eq_some_iff.mpr ⟨_, found, by simp only [Target.resolve, unknown]⟩
  · rintro register rfl
    refine ⟨register?_of_writes writes, ?_⟩
    rw [address?, target?_of_inner_eq_registerName (writes.inner_eq named).2]
    rfl

/-- A label that looks like a hexadecimal number, with blanks inside the brackets. -/
theorem hasForm_unique_ah :
    let find : Text → Option Nat := fun name => if name = "bh".toList then some 5 else none
    let address? := address? BitVec.toNat find .present
    isLabelName "ah".toList = true ∧ Numeral.read? "ah".toList = .ok none ∧
      address? "[ ah ]".toList = .ok (some (.pending "ah".toList)) ∧
      ¬HasForm BitVec.toNat find "[ ah ]".toList (.address .absent) := by
  intro find address?
  have named : isLabelName "ah".toList = true := rfl
  have noRegister (register : Nibble) : "ah".toList ≠ registerName register := by
    intro same
    have starts : 'a' = 'R' := Option.some.inj (congrArg List.head? same)
    simp at starts
  have around : Text.IsPadded "ah".toList " ah ".toList :=
    ⟨[' '], [' '], by simp [Text.isBlank], by simp [Text.isBlank], rfl⟩
  have writes : Writes "ah".toList .present "[ ah ]".toList := .bracketed around
  obtain ⟨unique, -, noNumber, labels⟩ := hasForm_unique BitVec.toNat find BitVec.toNat find
  obtain ⟨stands, -⟩ := labels _ (isDefinable_iff.mpr named) _ _ writes
  have found := (stands noRegister).2 rfl
  refine ⟨named, noNumber _ named, found, fun isBare => ?_⟩
  cases unique _ _ (.address .present) isBare ⟨_, found⟩

end Operand
end ByteMachine
