import ByteMachine.Byte

/-!
# Floating-point bytes

A byte holds a sign, a three-bit exponent in excess-four notation and a four-bit mantissa with the
radix point to its left.  Every byte is then a whole number of 256ths, the mantissa shifted left by
the exponent, and sums of such numbers are exact.  A number is coded by the greatest magnitude that
does not exceed its own: low bits are dropped, what is too large is coded by the largest magnitude,
and a number below one 256th is coded by the zero byte.
-/

namespace ByteMachine

/-- A number to be coded. -/
inductive Quantity
  /-- The number `mantissa * 2 ^ exponent`. -/
  | dyadic (mantissa exponent : Int)
  /-- An infinity. -/
  | infinite (negative : Bool)
  /-- No number. -/
  | undefined
  deriving DecidableEq, Repr

namespace Minifloat

/-- The bit that marks a negative number. -/
def signBit : Byte := 0x80

/-- The byte of the largest positive number. -/
def largest : Byte := 0x7F

/-- Whether a byte carries the sign of a negative number; so does the negative zero. -/
def negative (byte : Byte) : Bool :=
  byte.msb

/-- The magnitude of a byte in 256ths. -/
def magnitude (byte : Byte) : Nat :=
  (byte.toNat % 16) * Nat.pow 2 (byte.toNat / 16 % 8)

/-- The value of a byte in 256ths. -/
def value (byte : Byte) : Int :=
  if negative byte then -(magnitude byte : Int) else magnitude byte

/-- The byte for a sign and a magnitude given as a whole number of 256ths.  Below eight 256ths the
magnitude is its own mantissa under the least exponent; from there on the four leading bits are
the mantissa. -/
def ofMagnitude (minus : Bool) (units : Nat) : Byte :=
  let sign : Byte := if minus then signBit else 0
  if units = 0 then 0
  else if 2048 ≤ units then sign ||| largest
  else if units < 8 then sign ||| BitVec.ofNat 8 units
  else
    let exponent := units.log2 - 3
    sign ||| BitVec.ofNat 8 (exponent * 16 + units / Nat.pow 2 exponent)

/-- The magnitude of `mantissa * 2 ^ exponent` in 256ths, without the part below one 256th. -/
def unitsOf (mantissa : Nat) (exponent : Int) : Nat :=
  if 0 ≤ exponent + 8 then mantissa * Nat.pow 2 (exponent + 8).toNat
  else mantissa / Nat.pow 2 (-(exponent + 8)).toNat

/-- The byte that codes a number. -/
def encode : Quantity → Byte
  | .dyadic mantissa exponent =>
      ofMagnitude (decide (mantissa < 0)) (unitsOf mantissa.natAbs exponent)
  | .infinite minus => (if minus then signBit else 0) ||| largest
  | .undefined => 0

/-- The sum of two floating-point bytes, coded. -/
def add (left right : Byte) : Byte :=
  let sum := value left + value right
  ofMagnitude (decide (sum < 0)) sum.natAbs

/-- The value of a byte in decimal, with the eight places that a 256th needs. -/
def decimal (byte : Byte) : Text :=
  let hundredMillionths := magnitude byte * 390625
  (if negative byte then ['-'] else []) ++ Text.decimalNat (hundredMillionths / 100000000) ++
    ['.'] ++ Text.padStart '0' 8 (Text.decimalNat (hundredMillionths % 100000000))

end Minifloat
end ByteMachine
