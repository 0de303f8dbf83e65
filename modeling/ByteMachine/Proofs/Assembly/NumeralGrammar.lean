import ByteMachine.Proofs.Assembly.Operands
import Mathlib.Data.List.Basic
import Mathlib.Data.List.Induction

/-!
# The grammar of numerals

A numeral is a text of digits that denotes a number by the places of its digits, with a sign before it
or a mark around it.  There are three kinds of numerals, and a text is read as the first kind under
which its number is that of a byte.
-/

namespace ByteMachine
namespace Numeral

/-! ## Digits and places -/

/-- A character is the digit of a value below the base; the letters are digits in both cases. -/
def IsDigit (base : Nat) (c : Char) (value : Nat) : Prop :=
  value < base ∧
    ("0123456789ABCDEF".toList[value]? = some c ∨ "0123456789abcdef".toList[value]? = some c)

/-- A text of one or more digits denotes a number: each further digit multiplies by the base what
stands before it. -/
inductive Denotes (base : Nat) : Text → Nat → Prop
  /-- A single digit. -/
  | digit {c : Char} {value : Nat} (isDigit : IsDigit base c value) : Denotes base [c] value
  /-- A digit behind others. -/
  | behind {text : Text} {value last : Nat} {c : Char} (front : Denotes base text value)
      (isDigit : IsDigit base c last) : Denotes base (text ++ [c]) (value * base + last)

instance (base : Nat) (c : Char) (value : Nat) : Decidable (IsDigit base c value) :=
  inferInstanceAs (Decidable (_ ∧ _))

theorem hexValue?_eq_some_iff {c : Char} {value : Nat} :
    hexValue? c = some value ↔ IsDigit 16 c value := by
  constructor
  · intro found
    have ascii : c.toNat < 128 := by
      rw [hexValue?] at found
      split at found
      next => omega
      next =>
        split at found
        next => omega
        next =>
          split at found
          next => omega
          next => cases found
    have all : ∀ code < 128, ∀ value ∈ hexValue? (Char.ofNat code),
        IsDigit 16 (Char.ofNat code) value := by decide
    rw [← Char.ofNat_toNat c] at found ⊢
    exact all _ ascii value found
  · rintro ⟨small, isDigit⟩
    have all : ∀ value < 16,
        "0123456789ABCDEF".toList[value]?.bind hexValue? = some value ∧
          "0123456789abcdef".toList[value]?.bind hexValue? = some value := by decide
    obtain ⟨capital, small⟩ := all value small
    rcases isDigit with isCapital | isSmall
    · rwa [isCapital, Option.bind_some] at capital
    · rwa [isSmall, Option.bind_some] at small

theorem digitValue?_eq_some_iff {base : Nat} {c : Char} {value : Nat} (few : base ≤ 16) :
    digitValue? base c = some value ↔ IsDigit base c value := by
  rw [digitValue?, Option.filter_eq_some_iff, hexValue?_eq_some_iff, decide_eq_true_iff]
  constructor
  · rintro ⟨⟨-, isDigit⟩, small⟩
    exact ⟨small, isDigit⟩
  · rintro ⟨small, isDigit⟩
    exact ⟨⟨by omega, isDigit⟩, small⟩

theorem ofDigits_concat (base : Nat) (digits : List Nat) (last : Nat) :
    Text.ofDigits base (digits ++ [last]) = Text.ofDigits base digits * base + last := by
  rw [Text.ofDigits, List.foldl_append]
  rfl

theorem digits?_singleton (base : Nat) (c : Char) :
    digits? base [c] = (digitValue? base c).map ([·]) := by
  rw [digits?, if_neg (by simp), List.mapM_cons, List.mapM_nil]
  cases digitValue? base c <;> rfl

theorem digits?_concat (base : Nat) {text : Text} (c : Char) (present : text ≠ []) :
    digits? base (text ++ [c]) = do
      let digits ← digits? base text
      let last ← digitValue? base c
      return digits ++ [last] := by
  rw [digits?, digits?, if_neg present, if_neg (by simp), List.mapM_append, List.mapM_cons,
    List.mapM_nil]
  cases text.mapM (digitValue? base) with
  | none => rfl
  | some digits => cases digitValue? base c <;> rfl

theorem length_of_digits? {base : Nat} {text : Text} {digits : List Nat}
    (found : digits? base text = some digits) : digits.length = text.length := by
  have all : text.mapM (digitValue? base) = some digits := by
    rw [digits?] at found
    split at found
    · cases found
    · exact found
  clear found
  induction text generalizing digits with
  | nil =>
      cases all
      rfl
  | cons c rest induction =>
      rw [List.mapM_cons] at all
      obtain ⟨first, -, others⟩ := Option.bind_eq_some_iff.mp all
      obtain ⟨more, foundMore, same⟩ := Option.bind_eq_some_iff.mp others
      obtain rfl := Option.some.inj same
      exact congrArg (· + 1) (induction foundMore)

/-- The digits read of a text are those of the number that the text denotes. -/
theorem denotes_iff {base : Nat} {text : Text} {value : Nat} (few : base ≤ 16) :
    Denotes base text value ↔
      ∃ digits, digits? base text = some digits ∧ Text.ofDigits base digits = value := by
  constructor
  · intro denotes
    induction denotes with
    | @digit c value isDigit =>
        have found := (digitValue?_eq_some_iff few).mpr isDigit
        exact ⟨[value], by rw [digits?_singleton, found]; rfl, by simp [Text.ofDigits]⟩
    | @behind text value last c front isDigit induction =>
        obtain ⟨digits, found, rfl⟩ := induction
        have present : text ≠ [] := by
          rintro rfl
          cases found
        have foundLast := (digitValue?_eq_some_iff few).mpr isDigit
        refine ⟨digits ++ [last], ?_, ofDigits_concat base digits last⟩
        rw [digits?_concat base c present, found, foundLast]
        rfl
  · rintro ⟨digits, found, rfl⟩
    induction text using List.reverseRecOn generalizing digits with
    | nil => cases found
    | append_singleton text c induction =>
        by_cases empty : text = []
        · subst empty
          rw [List.nil_append, digits?_singleton] at found
          obtain ⟨value, foundValue, rfl⟩ := Option.map_eq_some_iff.mp found
          rw [Text.ofDigits, List.foldl_cons, Nat.zero_mul, Nat.zero_add]
          exact .digit ((digitValue?_eq_some_iff few).mp foundValue)
        · rw [digits?_concat base c empty] at found
          obtain ⟨front, foundFront, rest⟩ := Option.bind_eq_some_iff.mp found
          obtain ⟨last, foundLast, same⟩ := Option.bind_eq_some_iff.mp rest
          obtain rfl := Option.some.inj same
          rw [ofDigits_concat]
          exact .behind (induction front foundFront) ((digitValue?_eq_some_iff few).mp foundLast)

/-- Zeros in front of a numeral do not change its number. -/
theorem Denotes.zeros {base : Nat} {text : Text} {value : Nat} (denotes : Denotes base text value)
    (zeros : Nat) : Denotes base (List.replicate zeros '0' ++ text) value := by
  have positive : 0 < base := by
    cases denotes with
    | digit isDigit => exact Nat.zero_lt_of_lt isDigit.1
    | behind _ isDigit => exact Nat.zero_lt_of_lt isDigit.1
  have isZero : IsDigit base '0' 0 := ⟨positive, .inl rfl⟩
  have padded (text : Text) {value : Nat} (denotes : Denotes base text value) :
      Denotes base ('0' :: text) value := by
    induction denotes with
    | @digit c value isDigit =>
        have both := Denotes.behind (.digit isZero) isDigit
        rwa [Nat.zero_mul, Nat.zero_add] at both
    | behind _ isDigit induction => exact .behind induction isDigit
  induction zeros with
  | zero => exact denotes
  | succ zeros induction => exact padded _ induction

theorem Denotes.exists_isDigit {base : Nat} {text : Text} {value : Nat}
    (denotes : Denotes base text value) : ∀ c ∈ text, ∃ digit, IsDigit base c digit := by
  induction denotes with
  | @digit c value isDigit => simpa using ⟨value, isDigit⟩
  | @behind text value last c _ isDigit induction =>
      simp only [List.mem_append, List.mem_singleton]
      rintro other (inside | rfl)
      · exact induction other inside
      · exact ⟨last, isDigit⟩

theorem Denotes.ne_nil {base : Nat} {text : Text} {value : Nat} (denotes : Denotes base text value) :
    text ≠ [] := by
  cases denotes <;> simp

/-! ## Marks -/

/-- A mark that is no digit is taken off the end of a text if it stands there. -/
theorem digits?_dropMark_iff {base : Nat} {mark : Char} {text : Text} {digits : List Nat}
    (foreign : digitValue? base mark = none) :
    digits? base (dropMark mark text) = some digits ↔
      ∃ body, digits? base body = some digits ∧ (text = body ∨ text = body ++ [mark]) := by
  constructor
  · intro found
    rw [dropMark] at found
    split at found
    next marked =>
      exact ⟨_, found, .inr (List.dropLast_append_getLast? mark marked).symm⟩
    next => exact ⟨text, found, .inl rfl⟩
  · rintro ⟨body, found, rfl | rfl⟩
    · have unmarked : text.getLast? ≠ some mark := fun last => by
        rw [digits?_eq_none (List.mem_of_mem_getLast? last) foreign] at found
        cases found
      rwa [dropMark, if_neg unmarked]
    · rwa [dropMark, List.getLast?_concat, if_pos rfl, List.dropLast_concat]

/-- The signs before decimal digits, and whether they are that of a negative number. -/
inductive Signs : Bool → Text → Prop
  | none : Signs false []
  | plus : Signs false ['+']
  | minus : Signs true ['-']

theorem signs_takeSign (text : Text) :
    ∃ sign, Signs (Text.takeSign text).1 sign ∧ sign ++ (Text.takeSign text).2 = text := by
  rw [Text.takeSign.eq_def]
  split
  · exact ⟨['+'], .plus, rfl⟩
  · exact ⟨['-'], .minus, rfl⟩
  · exact ⟨[], .none, rfl⟩

theorem takeSign_append {minus : Bool} {sign rest : Text} (signs : Signs minus sign)
    (unsigned : ∀ c ∈ rest.head?, c ≠ '+' ∧ c ≠ '-') :
    Text.takeSign (sign ++ rest) = (minus, rest) := by
  cases signs with
  | none =>
      rw [List.nil_append, Text.takeSign.eq_def]
      split
      · exact absurd rfl (unsigned _ rfl).1
      · exact absurd rfl (unsigned _ rfl).2
      · rfl
  | plus => rfl
  | minus => rfl

/-! ## The three kinds -/

/-- A text is a decimal numeral: an optional sign, digits and an optional mark. -/
def IsDecimal (text : Text) (minus : Bool) (digits : Text) (magnitude : Nat) : Prop :=
  Denotes 10 digits magnitude ∧
    ∃ sign, Signs minus sign ∧ (text = sign ++ digits ∨ text = sign ++ digits ++ ['d'])

/-- A text is a decimal numeral with more digits than are read, so many in number. -/
def IsOverlong (text : Text) (count : Nat) : Prop :=
  ∃ minus digits magnitude, IsDecimal text minus digits magnitude ∧ digits.length = count ∧
    4300 < count

/-- A text is a decimal numeral of an integer from -128 to 255, to which the byte is congruent. -/
def IsDecimalByte (text : Text) (byte : Byte) : Prop :=
  ∃ minus digits magnitude, IsDecimal text minus digits magnitude ∧
    ∃ number : Int, number = (if minus then -(magnitude : Int) else magnitude) ∧
      -128 ≤ number ∧ number ≤ 255 ∧ (byte.toNat : Int) = number % 256

/-- A text is a binary numeral of a byte: digits and an optional mark. -/
def IsBinaryByte (text : Text) (byte : Byte) : Prop :=
  ∃ digits, Denotes 2 digits byte.toNat ∧ (text = digits ∨ text = digits ++ ['b'])

/-- A text is a hexadecimal numeral of a byte: digits with a mark before them, or digits of which the
first is no letter with a mark behind them. -/
def IsHexadecimalByte (text : Text) (byte : Byte) : Prop :=
  ∃ digits, Denotes 16 digits byte.toNat ∧
    (text = '0' :: 'x' :: digits ∨ text = '$' :: digits ∨
      text = digits ++ ['h'] ∧ ∀ c ∈ digits.head?, c.isAlpha = false)

/-- A text denotes a byte: a decimal numeral of a byte does, or else a binary one, or else a
hexadecimal one. -/
def IsNumeral (text : Text) (byte : Byte) : Prop :=
  IsDecimalByte text byte ∨
    (∀ other, ¬IsDecimalByte text other) ∧
      (IsBinaryByte text byte ∨
        (∀ other, ¬IsBinaryByte text other) ∧ IsHexadecimalByte text byte)

theorem isDecimal_iff {text : Text} {minus : Bool} {magnitude count : Nat} :
    (∃ digits, IsDecimal text minus digits magnitude ∧ digits.length = count) ↔
      ∃ digits, digits? 10 (dropMark 'd' (Text.takeSign text).2) = some digits ∧
        digits.length = count ∧ (Text.takeSign text).1 = minus ∧
          Text.ofDigits 10 digits = magnitude := by
  have foreign : digitValue? 10 'd' = none := rfl
  constructor
  · rintro ⟨digits, ⟨denotes, sign, signs, shape⟩, rfl⟩
    obtain ⟨values, found, isMagnitude⟩ := (denotes_iff (by omega)).mp denotes
    have unsigned (rest : Text) : ∀ c ∈ (digits ++ rest).head?, c ≠ '+' ∧ c ≠ '-' := by
      obtain ⟨first, more, rfl⟩ := List.exists_cons_of_ne_nil denotes.ne_nil
      obtain ⟨digit, isDigit⟩ := denotes.exists_isDigit first (by simp)
      rw [← digitValue?_eq_some_iff (by omega)] at isDigit
      rintro c isFirst
      obtain rfl := Option.some.inj isFirst
      constructor <;> rintro rfl <;> cases isDigit
    have taken : Text.takeSign text = (minus, digits) ∨
        Text.takeSign text = (minus, digits ++ ['d']) := by
      rcases shape with rfl | rfl
      · exact .inl (takeSign_append signs (by simpa using unsigned []))
      · rw [List.append_assoc]
        exact .inr (takeSign_append signs (unsigned ['d']))
    refine ⟨values, (digits?_dropMark_iff foreign).mpr ⟨digits, found, ?_⟩,
      length_of_digits? found, ?_, isMagnitude⟩
    · exact taken.imp (congrArg Prod.snd) (congrArg Prod.snd)
    · rcases taken with same | same <;> rw [same]
  · rintro ⟨values, found, rfl, rfl, rfl⟩
    obtain ⟨body, foundBody, shape⟩ := (digits?_dropMark_iff foreign).mp found
    obtain ⟨sign, signs, whole⟩ := signs_takeSign text
    refine ⟨body, ⟨(denotes_iff (by omega)).mpr ⟨values, foundBody, rfl⟩, sign, signs, ?_⟩,
      (length_of_digits? foundBody).symm⟩
    rcases shape with same | same
    · exact .inl (by rw [← whole, same])
    · exact .inr (by rw [← whole, same, List.append_assoc])

theorem signedByte?_eq_some_iff {minus : Bool} {magnitude : Nat} {byte : Byte} :
    signedByte? minus magnitude = some byte ↔
      ∃ number : Int, number = (if minus then -(magnitude : Int) else magnitude) ∧
        -128 ≤ number ∧ number ≤ 255 ∧ (byte.toNat : Int) = number % 256 := by
  have small := byte.isLt
  cases minus with
  | true =>
      simp only [signedByte?, if_true, exists_eq_left, Option.ite_none_right_eq_some,
        Option.some.injEq, Byte.ofInt_eq_iff]
      omega
  | false =>
      have ofNat : BitVec.ofNat 8 magnitude = BitVec.ofInt 8 magnitude :=
        (BitVec.ofInt_natCast 8 magnitude).symm
      simp only [signedByte?, Bool.false_eq_true, if_false, exists_eq_left,
        Option.ite_none_right_eq_some, Option.some.injEq, ofNat, Byte.ofInt_eq_iff]
      omega

/-- A text that is read as a decimal numeral is one, and has not too many digits. -/
theorem decimal?_of_isOverlong {text : Text} {count : Nat} (overlong : IsOverlong text count) :
    decimal? text = .error ⟨count⟩ := by
  obtain ⟨minus, digits, magnitude, isDecimal, sameLength, many⟩ := overlong
  obtain ⟨values, found, rfl, -⟩ := isDecimal_iff.mp ⟨digits, isDecimal, sameLength⟩
  simp only [decimal?, found]
  exact if_pos many

theorem exists_decimal? {text : Text} (short : ∀ count, ¬IsOverlong text count) :
    ∃ result, decimal? text = .ok result ∧ ∀ byte, result = some byte ↔ IsDecimalByte text byte := by
  cases found : digits? 10 (dropMark 'd' (Text.takeSign text).2) with
  | none =>
      refine ⟨none, by simp only [decimal?, found], fun byte => ⟨nofun, ?_⟩⟩
      rintro ⟨minus, digits, magnitude, isDecimal, -⟩
      obtain ⟨values, foundSome, -⟩ := isDecimal_iff.mp ⟨digits, isDecimal, rfl⟩
      rw [found] at foundSome
      cases foundSome
  | some values =>
      have fewDigits : ¬4300 < values.length := fun many => by
        obtain ⟨digits, isDecimal, sameLength⟩ := isDecimal_iff.mpr ⟨values, found, rfl, rfl, rfl⟩
        exact short _ ⟨_, digits, _, isDecimal, sameLength, many⟩
      refine ⟨signedByte? (Text.takeSign text).1 (Text.ofDigits 10 values), ?_, fun byte => ?_⟩
      · simp only [decimal?, found]
        exact if_neg fewDigits
      · rw [signedByte?_eq_some_iff]
        constructor
        · intro denoted
          obtain ⟨digits, isDecimal, -⟩ := isDecimal_iff.mpr ⟨values, found, rfl, rfl, rfl⟩
          exact ⟨_, digits, _, isDecimal, denoted⟩
        · rintro ⟨minus, digits, magnitude, isDecimal, denoted⟩
          obtain ⟨others, foundOthers, -, rfl, rfl⟩ := isDecimal_iff.mp ⟨digits, isDecimal, rfl⟩
          obtain rfl := Option.some.inj (found.symm.trans foundOthers)
          exact denoted

theorem byte?_eq_some_iff {base : Nat} {digits : List Nat} {byte : Byte} :
    byte? base digits = some byte ↔ Text.ofDigits base digits = byte.toNat := by
  have small := byte.isLt
  rw [byte?, Option.ite_none_right_eq_some, Option.some.injEq, ← BitVec.toNat_inj,
    BitVec.toNat_ofNat]
  omega

theorem bind_byte?_iff {base : Nat} {text : Text} {byte : Byte} (few : base ≤ 16) :
    (digits? base text).bind (byte? base) = some byte ↔ Denotes base text byte.toNat := by
  rw [Option.bind_eq_some_iff, denotes_iff few]
  simp only [byte?_eq_some_iff]

theorem binary?_eq_some_iff {text : Text} {byte : Byte} :
    binary? text = some byte ↔ IsBinaryByte text byte := by
  have foreign : digitValue? 2 'b' = none := rfl
  simp only [binary?, Option.bind_eq_some_iff, digits?_dropMark_iff foreign, IsBinaryByte,
    ← bind_byte?_iff (show 2 ≤ 16 by omega)]
  constructor
  · rintro ⟨values, ⟨body, found, shape⟩, fits⟩
    exact ⟨body, ⟨values, found, fits⟩, shape⟩
  · rintro ⟨body, ⟨values, found, fits⟩, shape⟩
    exact ⟨values, ⟨body, found, shape⟩, fits⟩

/-- The marked digits of a hexadecimal numeral are found if they are digits. -/
theorem hexBody?_eq_some_iff {text digits : Text} (present : digits ≠ [])
    (each : ∀ c ∈ digits, ∃ digit, IsDigit 16 c digit) :
    hexBody? text = some digits ↔
      text = '0' :: 'x' :: digits ∨ text = '$' :: digits ∨
        text = digits ++ ['h'] ∧ ∀ c ∈ digits.head?, c.isAlpha = false := by
  have foreign {c : Char} (member : c ∈ digits) : hexValue? c ≠ none := by
    obtain ⟨digit, isDigit⟩ := each c member
    rw [hexValue?_eq_some_iff.mpr isDigit]
    simp
  constructor
  · intro found
    rw [hexBody?.eq_def] at found
    split at found
    next body => exact .inl (by rw [Option.some.inj found])
    next body => exact .inr (.inl (by rw [Option.some.inj found]))
    next c rest _ _ =>
      split at found
      next marked =>
        rw [Bool.and_eq_true, decide_eq_true_iff, Bool.not_eq_true'] at marked
        obtain rfl := Option.some.inj found
        refine .inr (.inr ⟨?_, fun first isFirst => ?_⟩)
        · rw [List.cons_append, List.dropLast_append_getLast? 'h' marked.1]
        · obtain rfl := Option.some.inj isFirst
          exact marked.2
      next => cases found
    next => cases found
  · rintro (rfl | rfl | ⟨rfl, noLetter⟩)
    · rfl
    · rfl
    · obtain ⟨first, more, rfl⟩ := List.exists_cons_of_ne_nil present
      rw [hexBody?.eq_def]
      split
      next body same =>
        -- The letter x would have to be one of the digits, or the mark behind them.
        rw [List.cons_append] at same
        have inside : 'x' ∈ more ++ ['h'] := by simp [(List.cons_eq_cons.mp same).2]
        rcases List.mem_append.mp inside with isDigit | isMark
        · exact absurd rfl (foreign (List.mem_cons_of_mem first isDigit))
        · exact absurd (List.mem_singleton.mp isMark) (by decide)
      next body same =>
        rw [List.cons_append] at same
        obtain rfl := (List.cons_eq_cons.mp same).1
        exact absurd rfl (foreign List.mem_cons_self)
      next c rest _ _ same =>
        rw [List.cons_append] at same
        obtain ⟨rfl, rfl⟩ := List.cons_eq_cons.mp same
        rw [List.getLast?_concat, List.dropLast_concat, noLetter first rfl]
        rfl
      next impossible => cases impossible

theorem hexadecimal?_eq_some_iff {text : Text} {byte : Byte} :
    hexadecimal? text = some byte ↔ IsHexadecimalByte text byte := by
  rw [hexadecimal?, Option.bind_assoc, Option.bind_eq_some_iff]
  simp only [bind_byte?_iff (show 16 ≤ 16 by omega), IsHexadecimalByte]
  constructor
  · rintro ⟨digits, found, denotes⟩
    exact ⟨digits, denotes,
      (hexBody?_eq_some_iff denotes.ne_nil denotes.exists_isDigit).mp found⟩
  · rintro ⟨digits, denotes, shape⟩
    exact ⟨digits, (hexBody?_eq_some_iff denotes.ne_nil denotes.exists_isDigit).mpr shape, denotes⟩

/-- Of two alternatives the second is taken where the first gives nothing. -/
theorem orElse_eq_some_iff {first second : Option Byte} {left right : Byte → Prop}
    (isLeft : ∀ byte, first = some byte ↔ left byte)
    (isRight : ∀ byte, second = some byte ↔ right byte) (byte : Byte) :
    (first.orElse fun _ => second) = some byte ↔
      left byte ∨ (∀ other, ¬left other) ∧ right byte := by
  cases first with
  | some found =>
      have holds := (isLeft found).mp rfl
      rw [or_iff_left fun none => none.1 found holds]
      exact isLeft byte
  | none =>
      have never (other : Byte) : ¬left other := fun holds => nomatch (isLeft other).mpr holds
      rw [or_iff_right (never byte), and_iff_right never]
      exact isRight byte

/-- A text with a decimal numeral of too many digits is refused.  Every other text is read as the byte
that it denotes, if it denotes one, and else as no number.  Zeros in front of the digits of a numeral
change nothing. -/
theorem read?_follows_grammar (text : Text) :
    (∀ count, IsOverlong text count → read? text = .error ⟨count⟩) ∧
      ((∀ count, ¬IsOverlong text count) →
        ∃ result, read? text = .ok result ∧ ∀ byte, result = some byte ↔ IsNumeral text byte) ∧
      ∀ base digits value zeros, Denotes base digits value →
        Denotes base (List.replicate zeros '0' ++ digits) value := by
  refine ⟨fun count overlong => ?_, fun short => ?_, fun _ _ _ zeros denotes => denotes.zeros zeros⟩
  · rw [read?, decimal?_of_isOverlong overlong]
    rfl
  · obtain ⟨decimal, read, isDecimal⟩ := exists_decimal? short
    refine ⟨decimal.orElse fun _ => (binary? text).orElse fun _ => hexadecimal? text, ?_, ?_⟩
    · rw [read?, read]
      cases decimal <;> rfl
    · exact orElse_eq_some_iff isDecimal
        (orElse_eq_some_iff (fun _ => binary?_eq_some_iff) fun _ => hexadecimal?_eq_some_iff)

/-- Four digits are too great a decimal number for a byte, and are read as a binary one. -/
theorem read?_follows_grammar_of_thousand :
    let text := "1000".toList
    (∀ count, ¬IsOverlong text count) ∧ read? text = .ok (some 8) ∧ IsNumeral text 8 ∧
      Denotes 2 text 8 ∧ Denotes 2 ("000".toList ++ text) 8 := by
  intro text
  have denotes : Denotes 2 text 8 := (denotes_iff (by omega)).mpr ⟨[1, 0, 0, 0], rfl, rfl⟩
  have short : ∀ count, ¬IsOverlong text count := by
    rintro count ⟨minus, digits, magnitude, ⟨-, sign, -, shape⟩, rfl, many⟩
    have length : text.length = 4 := rfl
    rcases shape with same | same <;> rw [same] at length <;> simp at length <;> omega
  obtain ⟨-, reads, padded⟩ := read?_follows_grammar text
  obtain ⟨result, read, follows⟩ := reads short
  have isEight : read? text = .ok (some 8) := rfl
  obtain rfl := Except.ok.inj (read.symm.trans isEight)
  exact ⟨short, isEight, (follows 8).mp rfl, denotes, padded 2 text 8 3 denotes⟩

end Numeral
end ByteMachine
