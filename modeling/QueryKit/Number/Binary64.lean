/-!
# Binary64 numbers

A number is its 64-bit interchange pattern, so signed zeros and the payload of a
NaN are kept. Arithmetic is exact rational arithmetic followed by one rounding,
`Binary64.ofRatio`; no operation of the machine's floating-point unit is used.
-/

namespace QueryKit

/-- The quotient of two natural numbers rounded to the nearest integer, with
halves going to the even neighbour. -/
def roundHalfEven (numerator : Nat) (denominator : Nat) : Nat :=
  let quotient := numerator / denominator
  let remainder := numerator % denominator
  if 2 * remainder < denominator then quotient
  else if denominator < 2 * remainder then quotient + 1
  else if quotient % 2 = 0 then quotient
  else quotient + 1

/-- A binary64 number, given by its interchange pattern. -/
structure Binary64 where
  /-- The pattern: sign, eleven exponent bits, fifty-two fraction bits. -/
  bits : UInt64
  deriving DecidableEq

namespace Binary64

/-- Whether the sign bit is set. -/
def isNegative (number : Binary64) : Bool := number.bits.toNat / 0x8000_0000_0000_0000 % 2 == 1

/-- The eleven exponent bits. -/
def exponentField (number : Binary64) : Nat := number.bits.toNat / 0x10_0000_0000_0000 % 0x800

/-- The fifty-two fraction bits. -/
def fractionField (number : Binary64) : Nat := number.bits.toNat % 0x10_0000_0000_0000

/-- A number that is neither infinite nor a NaN. -/
def isFinite (number : Binary64) : Bool := number.exponentField != 2047

/-- A positive or negative infinity. -/
def isInfinite (number : Binary64) : Bool :=
  number.exponentField == 2047 && number.fractionField == 0

/-- A NaN of any payload. -/
def isNaN (number : Binary64) : Bool :=
  number.exponentField == 2047 && number.fractionField != 0

/-- A positive or negative zero. -/
def isZero (number : Binary64) : Bool :=
  number.exponentField == 0 && number.fractionField == 0

/-- The integral significand of a finite number. -/
def significand (number : Binary64) : Nat :=
  if number.exponentField = 0 then number.fractionField
  else 0x10_0000_0000_0000 + number.fractionField

/-- The binary exponent of a finite number: its magnitude is
`significand * 2 ^ binaryExponent`. -/
def binaryExponent (number : Binary64) : Int :=
  (max number.exponentField 1 : Nat) - 1075

/-- The numerator of the magnitude of a finite number. -/
def numerator (number : Binary64) : Nat :=
  number.significand * Nat.pow 2 number.binaryExponent.toNat

/-- The denominator of the magnitude of a finite number, a power of two. -/
def denominator (number : Binary64) : Nat :=
  Nat.pow 2 (-number.binaryExponent).toNat

/-- The pattern of a sign and the remaining sixty-three bits. -/
def ofFields (negative : Bool) (magnitude : Nat) : Binary64 :=
  ⟨UInt64.ofNat ((if negative then 0x8000_0000_0000_0000 else 0) + magnitude)⟩

/-- The infinity of a sign. -/
def infinity (negative : Bool) : Binary64 := ofFields negative (2047 * 0x10_0000_0000_0000)

/-- The zero of a sign. -/
def zero (negative : Bool) : Binary64 := ofFields negative 0

/-- The exponent `e` with `2 ^ e ≤ numerator / denominator < 2 ^ (e + 1)`, for
positive arguments. -/
def binaryMagnitude (numerator : Nat) (denominator : Nat) : Int :=
  let guess : Int := (numerator.log2 : Int) - denominator.log2
  if denominator * Nat.pow 2 guess.toNat ≤ numerator * Nat.pow 2 (-guess).toNat then guess
  else guess - 1

/-- The number nearest to a signed quotient, halves going to the even
significand, and quotients beyond the range going to infinity. The denominator
is positive. -/
def ofRatio (negative : Bool) (numerator : Nat) (denominator : Nat) : Binary64 :=
  if numerator = 0 then zero negative
  else
    let unit : Int := max (binaryMagnitude numerator denominator - 52) (-1074)
    let rounded :=
      roundHalfEven (numerator * Nat.pow 2 (-unit).toNat) (denominator * Nat.pow 2 unit.toNat)
    let magnitude := (unit + 1074).toNat * 0x10_0000_0000_0000 + rounded
    if magnitude < 2047 * 0x10_0000_0000_0000 then ofFields negative magnitude
    else infinity negative

/-- The number nearest to a natural number. -/
def ofNat (value : Nat) : Binary64 := ofRatio false value 1

/-- The number nearest to an integer. -/
def ofInt (value : Int) : Binary64 := ofRatio (value < 0) value.natAbs 1

/-- The product of two finite numbers. -/
def mul (left right : Binary64) : Binary64 :=
  ofRatio (left.isNegative != right.isNegative)
    (left.numerator * right.numerator) (left.denominator * right.denominator)

/-- The quotient of a finite number by a finite number other than zero. -/
def div (dividend divisor : Binary64) : Binary64 :=
  ofRatio (dividend.isNegative != divisor.isNegative)
    (dividend.numerator * divisor.denominator) (dividend.denominator * divisor.numerator)

/-- The number with the opposite sign bit. -/
def neg (number : Binary64) : Binary64 :=
  ⟨number.bits ^^^ 0x8000_0000_0000_0000⟩

/-- Numeric equality: the two zeros are equal and a NaN equals nothing. -/
def numericEq (left right : Binary64) : Bool :=
  !left.isNaN && !right.isNaN && (left == right || left.isZero && right.isZero)

/-- The integer part of a number, clamped to the signed 64-bit range; a NaN gives
zero. -/
def toInt64 (number : Binary64) : Int64 :=
  if number.isNaN then 0
  else if number.isFinite then
    let magnitude := number.numerator / number.denominator
    if number.isNegative then Int64.ofInt (max (-(magnitude : Int)) (-0x8000_0000_0000_0000))
    else Int64.ofInt (min (magnitude : Int) 0x7FFF_FFFF_FFFF_FFFF)
  else if number.isNegative then Int64.ofInt (-0x8000_0000_0000_0000)
  else Int64.ofInt 0x7FFF_FFFF_FFFF_FFFF

/-- The share of `part` in `total`, both rounded to binary64 before the division;
the share of an empty total is zero. -/
def share (part : Nat) (total : Nat) : Binary64 :=
  if total = 0 then zero false else (ofNat part).div (ofNat total)

/-- The binary64 number of a binary32 pattern. Every binary32 number is
represented exactly, and a NaN keeps its payload and becomes quiet. -/
def ofBinary32 (pattern : UInt32) : Binary64 :=
  let negative := pattern.toNat / 0x8000_0000 == 1
  let exponent := pattern.toNat / 0x80_0000 % 0x100
  let fraction := pattern.toNat % 0x80_0000
  if exponent = 255 then
    if fraction = 0 then infinity negative
    else ofFields negative (2047 * 0x10_0000_0000_0000 + 0x8_0000_0000_0000 +
      fraction % 0x40_0000 * 0x2000_0000)
  else if exponent = 0 then ofRatio negative fraction (Nat.pow 2 149)
  else ofRatio negative ((0x80_0000 + fraction) * Nat.pow 2 exponent) (Nat.pow 2 150)

end Binary64

end QueryKit
