import ByteMachine.Minifloat
import Mathlib.Algebra.Order.Floor.Semifield
import Mathlib.Data.Rat.Floor
import Mathlib.Tactic.Linarith
import Mathlib.Tactic.NormNum

/-!
# Truncation to floating-point bytes

A number is coded by a byte of its own sign, and of the magnitudes of all bytes the greatest that does
not exceed the magnitude of the number.  Of the bytes with the same value one is canonical, with a
mantissa as large as the least exponent allows, and a number is always coded by a canonical byte.  So
coding gives back every canonical byte from its value, and respects the order of the numbers.
-/

namespace ByteMachine

namespace Quantity

/-- The number that is coded, if it is finite. -/
def number? : Quantity → Option ℚ
  | dyadic mantissa exponent => some (mantissa * 2 ^ exponent)
  | infinite _ | undefined => none

/-- The order of what is coded.  An infinity lies beyond all numbers, and what is no number is not
comparable with anything. -/
def AtMost : Quantity → Quantity → Prop
  | dyadic mantissa exponent, dyadic other power =>
      (mantissa * 2 ^ exponent : ℚ) ≤ other * 2 ^ power
  | dyadic _ _, infinite minus => minus = false
  | infinite minus, dyadic _ _ => minus = true
  | infinite minus, infinite other => other = true → minus = true
  | undefined, _ | _, undefined => False

end Quantity

namespace Minifloat

/-! ## Fields -/

/-- The mantissa of a byte, as a whole number. -/
def mantissa (byte : Byte) : Nat :=
  byte.toNat % 16

/-- The exponent of a byte, with the excess. -/
def exponent (byte : Byte) : Nat :=
  byte.toNat / 16 % 8

/-- The number that a byte denotes. -/
def number (byte : Byte) : ℚ :=
  value byte / 256

/-- The number that a byte denotes, to be coded. -/
def decode (byte : Byte) : Quantity :=
  .dyadic (value byte) (-8)

/-- The bytes by which numbers are coded: zero, those with a leading mantissa bit, and under the least
exponent those with any other mantissa but zero. -/
def IsCanonical (byte : Byte) : Prop :=
  byte = 0 ∨ 8 ≤ mantissa byte ∨ exponent byte = 0 ∧ 1 ≤ mantissa byte ∧ mantissa byte ≤ 7

instance (byte : Byte) : Decidable (IsCanonical byte) :=
  inferInstanceAs (Decidable (_ ∨ _))

theorem number?_decode (byte : Byte) : (decode byte).number? = some (number byte) := by
  rw [decode, Quantity.number?, number, div_eq_mul_inv]
  norm_num

theorem mantissa_lt (byte : Byte) : mantissa byte < 16 :=
  Nat.mod_lt _ (by omega)

theorem exponent_lt (byte : Byte) : exponent byte < 8 :=
  Nat.mod_lt _ (by omega)

theorem magnitude_eq (byte : Byte) : magnitude byte = mantissa byte * 2 ^ exponent byte :=
  rfl

theorem negative_eq (byte : Byte) : negative byte = decide (128 ≤ byte.toNat) :=
  BitVec.msb_eq_decide byte

/-- A byte is its sign, its exponent and its mantissa. -/
theorem toNat_eq (byte : Byte) :
    byte.toNat = (if negative byte then 128 else 0) + exponent byte * 16 + mantissa byte := by
  have bound := byte.isLt
  rw [negative_eq, exponent, mantissa]
  simp only [decide_eq_true_iff]
  split <;> omega

theorem toNat_signed (minus : Bool) {fields : Nat} (small : fields < 128) :
    ((if minus then signBit else 0) ||| BitVec.ofNat 8 fields).toNat =
      (if minus then 128 else 0) + fields := by
  have whole : (BitVec.ofNat 8 fields).toNat = fields := by
    rw [BitVec.toNat_ofNat]
    omega
  cases minus with
  | false => simp [whole]
  | true =>
      rw [BitVec.toNat_or, whole]
      exact (Nat.two_pow_add_eq_or_of_lt (i := 7) small 1).symm

theorem fields_of_toNat {byte : Byte} {minus : Bool} {power digits : Nat} (low : power < 8)
    (short : digits < 16)
    (whole : byte.toNat = (if minus then 128 else 0) + (power * 16 + digits)) :
    negative byte = minus ∧ exponent byte = power ∧ mantissa byte = digits := by
  rw [negative_eq, exponent, mantissa, whole]
  cases minus <;> simp <;> omega

/-! ## Leading digits -/

/-- The four leading bits of a number of units and the exponent under which they stand.  Below eight
units there are fewer of them, and from the greatest magnitude on they stay the same. -/
structure IsLeading (units power digits : Nat) : Prop where
  /-- The exponent has three bits. -/
  low : power < 8
  /-- The mantissa has four bits. -/
  short : digits < 16
  /-- The first of the four bits is set unless the exponent is the least. -/
  normal : 8 ≤ digits ∨ power = 0
  /-- The bits are within the units. -/
  fits : digits * 2 ^ power ≤ units
  /-- What they leave is less than the last of them, unless they are the greatest. -/
  rest : units < (digits + 1) * 2 ^ power ∨ power = 7 ∧ digits = 15

/-- No other four bits under any exponent make a greater number within the same units. -/
theorem IsLeading.greatest {units power digits otherPower otherDigits : Nat}
    (leading : IsLeading units power digits) (low : otherPower < 8) (short : otherDigits < 16)
    (fits : otherDigits * 2 ^ otherPower ≤ units) :
    otherDigits * 2 ^ otherPower ≤ digits * 2 ^ power := by
  rcases leading.rest with rest | ⟨rfl, rfl⟩
  · rcases Nat.lt_or_ge otherPower power with lower | higher
    · have full : 8 ≤ digits := leading.normal.resolve_right (by omega)
      calc
        otherDigits * 2 ^ otherPower ≤ 16 * 2 ^ otherPower := Nat.mul_le_mul_right _ (by omega)
        _ = 8 * 2 ^ (otherPower + 1) := by rw [Nat.pow_succ]; omega
        _ ≤ 8 * 2 ^ power := Nat.mul_le_mul_left 8 (Nat.pow_le_pow_right (by omega) lower)
        _ ≤ digits * 2 ^ power := Nat.mul_le_mul_right _ full
    · -- The other number is a multiple of the last of the leading bits.
      obtain ⟨shift, rfl⟩ := Nat.exists_eq_add_of_le higher
      have multiple : otherDigits * 2 ^ (power + shift) = otherDigits * 2 ^ shift * 2 ^ power := by
        rw [Nat.pow_add, Nat.mul_assoc, Nat.mul_comm (2 ^ shift)]
      rw [multiple] at fits ⊢
      have fewer : otherDigits * 2 ^ shift < digits + 1 :=
        Nat.lt_of_mul_lt_mul_right (Nat.lt_of_le_of_lt fits rest)
      exact Nat.mul_le_mul_right _ (by omega)
  · exact Nat.mul_le_mul (by omega) (Nat.pow_le_pow_right (by omega) (by omega))

theorem isLeading_zero : IsLeading 0 0 0 :=
  ⟨by omega, by omega, .inr rfl, by omega, .inl (by omega)⟩

theorem isLeading_small {units : Nat} (small : units < 8) : IsLeading units 0 units :=
  ⟨by omega, by omega, .inr rfl, by omega, .inl (by omega)⟩

theorem isLeading_large {units : Nat} (large : 2048 ≤ units) : IsLeading units 7 15 :=
  ⟨by omega, by omega, .inl (by omega), by omega, .inr ⟨rfl, rfl⟩⟩

theorem isLeading_log2 {units : Nat} (many : 8 ≤ units) (few : units < 2048) :
    IsLeading units (units.log2 - 3) (units / 2 ^ (units.log2 - 3)) := by
  have present : units ≠ 0 := by omega
  have atLeast : 3 ≤ units.log2 := (Nat.le_log2 present).mpr many
  have atMost : units.log2 < 11 := (Nat.log2_lt present).mpr few
  obtain ⟨power, logarithm⟩ := Nat.exists_eq_add_of_le' atLeast
  have positive : 0 < 2 ^ power := Nat.two_pow_pos power
  have lower : 8 * 2 ^ power ≤ units := by
    have self := Nat.log2_self_le present
    rw [logarithm, Nat.pow_add] at self
    omega
  have upper : units < 16 * 2 ^ power := by
    have self := Nat.lt_log2_self (n := units)
    rw [logarithm, Nat.add_assoc, Nat.pow_add] at self
    omega
  rw [logarithm, Nat.add_sub_cancel]
  refine ⟨by omega, (Nat.div_lt_iff_lt_mul positive).mpr upper,
    .inl ((Nat.le_div_iff_mul_le positive).mpr lower), Nat.div_mul_le_self units _, .inl ?_⟩
  exact Nat.lt_mul_of_div_lt (Nat.lt_succ_self _) positive

/-- A number of units is coded by its leading bits; there is no negative zero. -/
theorem exists_isLeading (minus : Bool) (units : Nat) :
    ∃ power digits, IsLeading units power digits ∧
      (ofMagnitude minus units).toNat =
        (if minus && units != 0 then 128 else 0) + (power * 16 + digits) := by
  unfold ofMagnitude
  by_cases none : units = 0
  · subst none
    exact ⟨0, 0, isLeading_zero, by simp⟩
  have some : (minus && units != 0) = minus := by simp [none]
  rw [some]
  simp only [if_neg none]
  split
  next large => exact ⟨7, 15, isLeading_large large, @toNat_signed minus 127 (by omega)⟩
  next few =>
    split
    next small =>
      exact ⟨0, units, isLeading_small small, by rw [toNat_signed minus (by omega)]; omega⟩
    next many =>
      have leading := isLeading_log2 (Nat.le_of_not_lt many) (Nat.lt_of_not_ge few)
      have low := leading.low
      have short := leading.short
      exact ⟨_, _, leading, toNat_signed minus (by rw [Nat.pow_eq]; omega)⟩

/-! ## Bytes for magnitudes -/

theorem negative_ofMagnitude (minus : Bool) (units : Nat) :
    negative (ofMagnitude minus units) = (minus && units != 0) := by
  obtain ⟨power, digits, leading, whole⟩ := exists_isLeading minus units
  exact (fields_of_toNat leading.low leading.short whole).1

theorem value_ofMagnitude (minus : Bool) (units : Nat) :
    value (ofMagnitude minus units) =
      if minus then -(magnitude (ofMagnitude minus units) : Int)
      else magnitude (ofMagnitude minus units) := by
  rw [value, negative_ofMagnitude]
  by_cases none : units = 0
  · subst none
    cases minus <;> rfl
  · simp [none]

theorem isLeading_ofMagnitude (minus : Bool) (units : Nat) :
    IsLeading units (exponent (ofMagnitude minus units)) (mantissa (ofMagnitude minus units)) := by
  obtain ⟨power, digits, leading, whole⟩ := exists_isLeading minus units
  obtain ⟨-, powerEq, digitsEq⟩ := fields_of_toNat leading.low leading.short whole
  rw [powerEq, digitsEq]
  exact leading

theorem magnitude_ofMagnitude_le (minus : Bool) (units : Nat) :
    magnitude (ofMagnitude minus units) ≤ units :=
  (isLeading_ofMagnitude minus units).fits

theorem le_magnitude_ofMagnitude (minus : Bool) {units : Nat} {other : Byte}
    (fits : magnitude other ≤ units) :
    magnitude other ≤ magnitude (ofMagnitude minus units) :=
  (isLeading_ofMagnitude minus units).greatest (exponent_lt other) (mantissa_lt other) fits

theorem isCanonical_ofMagnitude (minus : Bool) (units : Nat) :
    IsCanonical (ofMagnitude minus units) := by
  have leading := isLeading_ofMagnitude minus units
  rcases leading.normal with full | least
  · exact .inr (.inl full)
  · by_cases none : units = 0
    · subst none
      exact .inl rfl
    · refine .inr ?_
      have rest := leading.rest
      rw [least] at rest ⊢
      omega

/-! ## Canonical bytes -/

theorem IsCanonical.normal {byte : Byte} (canonical : IsCanonical byte) :
    8 ≤ mantissa byte ∨ exponent byte = 0 := by
  rcases canonical with rfl | full | ⟨least, -⟩
  · exact .inr rfl
  · exact .inl full
  · exact .inr least

/-- With a greater exponent a canonical byte has a greater magnitude. -/
theorem magnitude_lt_of_exponent_lt {left right : Byte} (canonical : IsCanonical right)
    (lower : exponent left < exponent right) : magnitude left < magnitude right := by
  have full : 8 ≤ mantissa right := canonical.normal.resolve_right (by omega)
  have short := mantissa_lt left
  calc
    magnitude left < 16 * 2 ^ exponent left :=
      Nat.mul_lt_mul_of_pos_right short (Nat.two_pow_pos _)
    _ = 8 * 2 ^ (exponent left + 1) := by rw [Nat.pow_succ]; omega
    _ ≤ 8 * 2 ^ exponent right := Nat.mul_le_mul_left 8 (Nat.pow_le_pow_right (by omega) lower)
    _ ≤ magnitude right := Nat.mul_le_mul_right _ full

theorem IsCanonical.eq_zero {byte : Byte} (canonical : IsCanonical byte)
    (nothing : magnitude byte = 0) : byte = 0 := by
  have noMantissa : mantissa byte = 0 :=
    (Nat.mul_eq_zero.mp nothing).resolve_right (Nat.two_pow_pos _).ne'
  rcases canonical with zero | full | ⟨-, some, -⟩
  · exact zero
  all_goals omega

/-- Canonical bytes differ in their values. -/
theorem IsCanonical.eq_of_value_eq {left right : Byte} (canonical : IsCanonical left)
    (other : IsCanonical right) (same : value left = value right) : left = right := by
  have magnitudes : magnitude left = magnitude right := by
    rw [value, value] at same
    split at same <;> split at same <;> omega
  by_cases nothing : magnitude left = 0
  · rw [canonical.eq_zero nothing, other.eq_zero (magnitudes ▸ nothing)]
  · have signs : negative left = negative right := by
      rw [value, value] at same
      cases minus : negative left <;> cases otherMinus : negative right <;>
        simp only [minus, otherMinus] at same ⊢ <;> simp at same <;> omega
    have powers : exponent left = exponent right := by
      rcases Nat.lt_trichotomy (exponent left) (exponent right) with lower | equal | higher
      · exact absurd magnitudes (magnitude_lt_of_exponent_lt other lower).ne
      · exact equal
      · exact absurd magnitudes (magnitude_lt_of_exponent_lt canonical higher).ne'
    have digits : mantissa left = mantissa right := by
      rw [magnitude_eq, magnitude_eq, powers] at magnitudes
      exact Nat.eq_of_mul_eq_mul_right (Nat.two_pow_pos _) magnitudes
    refine BitVec.eq_of_toNat_eq ?_
    rw [toNat_eq left, toNat_eq right, signs, powers, digits]

/-! ## Truncation -/

/-- A byte is what is left of a number when the part that no byte can show is dropped. -/
structure Truncates (byte : Byte) (amount : ℚ) : Prop where
  /-- Its value is not negative if the number is not. -/
  nonneg : 0 ≤ amount → 0 ≤ number byte
  /-- Its value is not positive if the number is not. -/
  nonpos : amount ≤ 0 → number byte ≤ 0
  /-- Of all magnitudes of bytes up to that of the number, its magnitude is the greatest. -/
  greatest : IsGreatest {size | size ≤ |amount| ∧ ∃ other, |number other| = size} |number byte|

theorem abs_number (byte : Byte) : |number byte| = (magnitude byte : ℚ) / 256 := by
  rw [number, abs_div, value]
  split <;> simp

theorem number_eq_zero {byte : Byte} (nothing : magnitude byte = 0) : number byte = 0 := by
  rw [← abs_eq_zero, abs_number, nothing, Nat.cast_zero, zero_div]

theorem abs_number_le (byte : Byte) : |number byte| ≤ 15 / 2 := by
  have bound : magnitude byte ≤ 15 * 2 ^ 7 :=
    Nat.mul_le_mul (Nat.le_of_lt_succ (mantissa_lt byte))
      (Nat.pow_le_pow_right (by omega) (Nat.le_of_lt_succ (exponent_lt byte)))
  have cast : (magnitude byte : ℚ) ≤ 1920 := by exact_mod_cast bound
  rw [abs_number]
  linarith

theorem number_largest (minus : Bool) :
    number ((if minus then signBit else 0) ||| largest) = if minus then -(15 / 2) else 15 / 2 := by
  have values : ∀ minus : Bool,
      value ((if minus then signBit else 0) ||| largest) = if minus then -1920 else 1920 := by
    decide
  rw [number, values]
  cases minus <;> norm_num

/-- The units of a number are its magnitude in 256ths without the fraction. -/
theorem unitsOf_eq_floor (digits : Nat) (power : Int) :
    unitsOf digits power = ⌊(digits * 2 ^ power * 256 : ℚ)⌋₊ := by
  have shifted : (digits * 2 ^ power * 256 : ℚ) = digits * 2 ^ (power + 8) := by
    rw [zpow_add₀ (by norm_num), mul_assoc]
    norm_num
  rw [shifted, unitsOf]
  split
  next whole =>
    obtain ⟨shift, isShift⟩ := Int.eq_ofNat_of_zero_le whole
    rw [isShift, Int.toNat_natCast, zpow_natCast, Nat.pow_eq]
    exact_mod_cast (Nat.floor_natCast (digits * 2 ^ shift)).symm
  next parted =>
    obtain ⟨shift, isShift⟩ := Int.eq_ofNat_of_zero_le (a := -(power + 8)) (by omega)
    have negated : power + 8 = -(shift : Int) := by omega
    rw [isShift, Int.toNat_natCast, negated, zpow_neg, zpow_natCast, ← div_eq_mul_inv, Nat.pow_eq]
    exact_mod_cast (Nat.floor_div_eq_div (K := ℚ) digits (2 ^ shift)).symm

theorem truncates_encode (digits power : Int) :
    Truncates (encode (.dyadic digits power)) (digits * 2 ^ power) := by
  have positive : (0 : ℚ) < 2 ^ power := zpow_pos (by norm_num) power
  let units := unitsOf digits.natAbs power
  let byte := ofMagnitude (decide (digits < 0)) units
  have size : |(digits * 2 ^ power : ℚ)| = digits.natAbs * 2 ^ power := by
    rw [abs_mul, abs_of_pos positive, Nat.cast_natAbs, Int.cast_abs]
  have isFloor : units = ⌊|(digits * 2 ^ power : ℚ)| * 256⌋₊ := by
    rw [size]
    exact unitsOf_eq_floor _ _
  change Truncates byte _
  refine ⟨fun nonneg => ?_, fun nonpos => ?_, ⟨?_, byte, rfl⟩, ?_⟩
  · have notNegative : ¬digits < 0 := by
      have digitsNonneg : (0 : ℚ) ≤ digits := nonneg_of_mul_nonneg_left nonneg positive
      exact_mod_cast digitsNonneg.not_gt
    rw [number, value_ofMagnitude, decide_eq_false notNegative, if_neg Bool.false_ne_true,
      Int.cast_natCast]
    positivity
  · have notPositive : digits ≤ 0 := by
      exact_mod_cast nonpos_of_mul_nonpos_left nonpos positive
    rcases notPositive.lt_or_eq with negative | rfl
    · rw [number, value_ofMagnitude, decide_eq_true negative, if_pos rfl, Int.cast_neg,
        Int.cast_natCast, neg_div]
      exact neg_nonpos.mpr (by positivity)
    · have none : units = 0 := by simp [units, unitsOf]
      have nothing : magnitude byte = 0 :=
        Nat.le_zero.mp (none ▸ magnitude_ofMagnitude_le _ _)
      exact (number_eq_zero nothing).le
  · have below : (magnitude byte : ℚ) ≤ |(digits * 2 ^ power : ℚ)| * 256 :=
      (Nat.le_floor_iff (by positivity)).mp (isFloor ▸ magnitude_ofMagnitude_le _ _)
    rw [abs_number]
    linarith
  · rintro _ ⟨fits, other, rfl⟩
    rw [abs_number] at fits ⊢
    have inUnits : magnitude other ≤ units := by
      rw [isFloor]
      exact Nat.le_floor (by linarith)
    have most : (magnitude other : ℚ) ≤ magnitude byte := by
      exact_mod_cast le_magnitude_ofMagnitude _ inUnits
    rw [abs_number]
    linarith

namespace Truncates

variable {byte : Byte} {amount : ℚ}

theorem le (truncates : Truncates byte amount) : |number byte| ≤ |amount| :=
  truncates.greatest.1.1

theorem ge (truncates : Truncates byte amount) {other : Byte} (fits : |number other| ≤ |amount|) :
    |number other| ≤ |number byte| :=
  truncates.greatest.2 ⟨fits, other, rfl⟩

/-- What is dropped of the greater of two numbers does not bring it below the other. -/
theorem mono {other : Byte} {more : ℚ} (truncates : Truncates byte amount)
    (otherTruncates : Truncates other more) (atMost : amount ≤ more) :
    number byte ≤ number other := by
  rcases le_total amount 0 with nonpos | nonneg
  · rcases le_total more 0 with moreNonpos | moreNonneg
    · -- Below zero the greater number has the smaller magnitude.
      have fits : |number other| ≤ |amount| := by
        refine otherTruncates.le.trans ?_
        rw [abs_of_nonpos nonpos, abs_of_nonpos moreNonpos]
        exact neg_le_neg atMost
      have sizes := truncates.ge fits
      rw [abs_of_nonpos (truncates.nonpos nonpos), abs_of_nonpos (otherTruncates.nonpos moreNonpos)]
        at sizes
      exact neg_le_neg_iff.mp sizes
    · exact (truncates.nonpos nonpos).trans (otherTruncates.nonneg moreNonneg)
  · have moreNonneg := nonneg.trans atMost
    have fits : |number byte| ≤ |more| := by
      refine truncates.le.trans ?_
      rw [abs_of_nonneg nonneg, abs_of_nonneg moreNonneg]
      exact atMost
    have sizes := otherTruncates.ge fits
    rwa [abs_of_nonneg (truncates.nonneg nonneg), abs_of_nonneg (otherTruncates.nonneg moreNonneg)]
      at sizes

/-- Nothing is dropped of the value of a byte. -/
theorem number_eq {other : Byte} (truncates : Truncates byte (number other)) :
    number byte = number other := by
  have sizes : |number byte| = |number other| := le_antisymm truncates.le (truncates.ge le_rfl)
  rcases le_total (number other) 0 with nonpos | nonneg
  · rw [abs_of_nonpos (truncates.nonpos nonpos), abs_of_nonpos nonpos] at sizes
    exact neg_injective sizes
  · rwa [abs_of_nonneg (truncates.nonneg nonneg), abs_of_nonneg nonneg] at sizes

theorem abs_eq_of_large (truncates : Truncates byte amount) (large : 15 / 2 ≤ |amount|) :
    |number byte| = 15 / 2 := by
  have size : |number ((if false then signBit else 0) ||| largest)| = 15 / 2 := by
    rw [number_largest]
    norm_num
  refine le_antisymm (abs_number_le byte) ?_
  rw [← size] at large ⊢
  exact truncates.ge large

theorem eq_zero_of_small (truncates : Truncates byte amount) (small : |amount| < 1 / 256) :
    number byte = 0 := by
  have below : (magnitude byte : ℚ) / 256 < 1 / 256 := abs_number byte ▸ truncates.le.trans_lt small
  have fewer : (magnitude byte : ℚ) < 1 := by linarith
  exact number_eq_zero (Nat.lt_one_iff.mp (by exact_mod_cast fewer))

end Truncates

theorem isCanonical_encode (quantity : Quantity) : IsCanonical (encode quantity) := by
  cases quantity with
  | dyadic digits power => exact isCanonical_ofMagnitude _ _
  | infinite minus => cases minus <;> decide
  | undefined => exact .inl rfl

theorem truncates_of_number? {quantity : Quantity} {amount : ℚ}
    (finite : quantity.number? = some amount) : Truncates (encode quantity) amount := by
  cases quantity with
  | dyadic digits power =>
      cases finite
      exact truncates_encode digits power
  | infinite minus => cases finite
  | undefined => cases finite

theorem number_injOn : Set.InjOn number {byte | IsCanonical byte} := by
  intro left canonical right other same
  refine canonical.eq_of_value_eq other ?_
  rw [number, number, div_left_inj' (by norm_num)] at same
  exact_mod_cast same

/-- A canonical byte is the code of its value, however the value is given. -/
theorem encode_of_number {byte : Byte} {quantity : Quantity} (canonical : IsCanonical byte)
    (denotes : quantity.number? = some (number byte)) : encode quantity = byte :=
  number_injOn (isCanonical_encode quantity) canonical (truncates_of_number? denotes).number_eq

theorem number_encode_mono {left right : Quantity} (atMost : left.AtMost right) :
    number (encode left) ≤ number (encode right) := by
  have bounds (byte : Byte) := abs_le.mp (abs_number_le byte)
  have value (minus : Bool) : number (encode (.infinite minus)) = if minus then -(15 / 2) else 15 / 2 :=
    number_largest minus
  cases left with
  | dyadic digits power =>
      cases right with
      | dyadic other otherPower =>
          exact (truncates_encode digits power).mono (truncates_encode other otherPower) atMost
      | infinite minus =>
          rw [value, show minus = false from atMost]
          exact (bounds _).2
      | undefined => exact atMost.elim
  | infinite minus =>
      cases right with
      | dyadic other otherPower =>
          rw [value, show minus = true from atMost]
          exact (bounds _).1
      | infinite other =>
          rw [value, value]
          cases other with
          | false => cases minus <;> norm_num
          | true => rw [show minus = true from atMost rfl]
      | undefined => exact atMost.elim
  | undefined => exact atMost.elim

/-- Coding truncates towards zero.  A finite number is coded by a byte of its own sign with the
greatest magnitude of a byte that does not exceed its own: the largest of all, 7.5, from there on, and
zero below one 256th; an infinity is coded by the largest magnitude.  The byte is always canonical,
and canonical bytes are the codes of their values.  So a code is the code of its own value, and coding
respects the order of what is coded. -/
theorem encode_truncates :
    (∀ quantity amount, quantity.number? = some amount →
      Truncates (encode quantity) amount ∧
        (15 / 2 ≤ |amount| → |number (encode quantity)| = 15 / 2) ∧
        (|amount| < 1 / 256 → number (encode quantity) = 0)) ∧
      (∀ minus, number (encode (.infinite minus)) = if minus then -(15 / 2) else 15 / 2) ∧
      (∀ quantity, IsCanonical (encode quantity) ∧ encode quantity ≠ signBit) ∧
      (∀ byte, IsCanonical byte →
        encode (decode byte) = byte ∧
          ∀ quantity, quantity.number? = some (number byte) → encode quantity = byte) ∧
      (∀ quantity, encode (decode (encode quantity)) = encode quantity) ∧
      ∀ left right, left.AtMost right → number (encode left) ≤ number (encode right) := by
  have decoded {byte : Byte} (canonical : IsCanonical byte) : encode (decode byte) = byte :=
    encode_of_number canonical (number?_decode byte)
  refine ⟨fun quantity amount finite => ?_, number_largest, fun quantity => ?_,
    fun byte canonical => ⟨decoded canonical, fun _ => encode_of_number canonical⟩,
    fun quantity => decoded (isCanonical_encode quantity), fun _ _ => number_encode_mono⟩
  · have truncates := truncates_of_number? finite
    exact ⟨truncates, truncates.abs_eq_of_large, truncates.eq_zero_of_small⟩
  · have canonical := isCanonical_encode quantity
    refine ⟨canonical, fun same => ?_⟩
    rw [same] at canonical
    revert canonical
    decide

/-- The number -2.875 needs five bits of mantissa and is coded by the byte of -2.75. -/
theorem encode_truncates_five_bits :
    (Quantity.dyadic (-23) (-3)).number? = some (-23 / 8) ∧
      Truncates (encode (.dyadic (-23) (-3))) (-23 / 8) ∧ encode (.dyadic (-23) (-3)) = 0xEB ∧
      IsCanonical 0xEB ∧ encode (decode 0xEB) = 0xEB ∧
      (Quantity.dyadic (-23) (-3)).AtMost (.dyadic (-1) (-9)) ∧
      number (encode (.dyadic (-23) (-3))) ≤ number (encode (.dyadic (-1) (-9))) := by
  obtain ⟨finite, -, -, canonical, -, mono⟩ := encode_truncates
  have denoted : (Quantity.dyadic (-23) (-3)).number? = some (-23 / 8) := by
    norm_num [Quantity.number?]
  have isCanonical : IsCanonical 0xEB := by decide
  have atMost : (Quantity.dyadic (-23) (-3)).AtMost (.dyadic (-1) (-9)) := by
    norm_num [Quantity.AtMost]
  exact ⟨denoted, (finite _ _ denoted).1, by decide, isCanonical, (canonical _ isCanonical).1, atMost,
    mono _ _ atMost⟩

end Minifloat
end ByteMachine
