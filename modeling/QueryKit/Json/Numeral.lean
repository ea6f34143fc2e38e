import QueryKit.Number.Positional

/-!
# JSON numerals

A numeral keeps the digits it was written with, so reading and writing lose
nothing. Its three readings are separate: as an unsigned word, as a signed word
and as a binary64 number. The last one collects digits in a 64-bit significand
and scales it by a power of ten, which may differ from the nearest number in the
last place.
-/

namespace QueryKit.Json

/-- How the sign of an exponent is written. -/
inductive ExponentSign where
  | absent
  | plus
  | minus
  deriving DecidableEq

/-- The exponent of a numeral. -/
structure Exponent where
  sign : ExponentSign
  digits : List Char
  deriving DecidableEq

/-- A number as it is written: sign, digits before the point, digits after it and
exponent. -/
structure Numeral where
  negative : Bool
  whole : List Char
  fraction : Option (List Char)
  exponent : Option Exponent
  deriving DecidableEq

namespace Numeral

/-- The numeral of a natural number. -/
def ofNat (value : Nat) : Numeral := ⟨false, Nat.toDigits 10 value, none, none⟩

/-- The numeral of an integer. -/
def ofInt (value : Int) : Numeral := ⟨value < 0, Nat.toDigits 10 value.natAbs, none, none⟩

/-- How binary64 numbers are written: which of two equally near decimals is taken, from
which power of ten on the notation is positional, and whether exponents that are not
negative have a sign. -/
structure Style where
  tie : Decimal.Tie
  lowest : Int
  signed : Bool

/-- The numeral of a finite binary64 number in a style: the shortest digits that read
back, in positional notation with at least one place from the lowest power of the style
up to `1e16` and in scientific notation elsewhere. -/
def ofFinite (style : Style) (number : Binary64) : Numeral :=
  if number.isZero then ⟨number.isNegative, ['0'], some ['0'], none⟩
  else
    let decimal := Decimal.shortest style.tie number
    let digits := Nat.toDigits 10 decimal.coefficient
    let leading : Int := decimal.exponent + digits.length - 1
    if style.lowest ≤ leading ∧ leading < 16 then
      let (whole, fraction) := decimal.positional
      ⟨number.isNegative, whole, some (if fraction.isEmpty then ['0'] else fraction), none⟩
    else
      ⟨number.isNegative, digits.take 1,
        if digits.length = 1 then none else some (digits.drop 1),
        some ⟨if leading < 0 then .minus else if style.signed then .plus else .absent,
          Nat.toDigits 10 leading.natAbs⟩⟩

/-- The numeral of a finite binary64 number in a document. -/
def ofBinary64 (number : Binary64) : Numeral := ofFinite ⟨.even, -5, true⟩ number

/-- The characters of an exponent. -/
def exponentChars (exponent : Exponent) : List Char :=
  'e' :: (match exponent.sign with
    | .absent => exponent.digits
    | .plus => '+' :: exponent.digits
    | .minus => '-' :: exponent.digits)

/-- The characters of a numeral. -/
def chars (numeral : Numeral) : List Char :=
  (if numeral.negative then ['-'] else []) ++ numeral.whole ++
    (match numeral.fraction with
      | some digits => '.' :: digits
      | none => []) ++
    (match numeral.exponent with
      | some exponent => exponentChars exponent
      | none => [])

/-- The value of a decimal digit. -/
def digitValue (digit : Char) : Nat := digit.toNat - '0'.toNat

/-- The natural number written by decimal digits. -/
def digitsValue (digits : List Char) : Nat :=
  digits.foldl (fun value digit => value * 10 + digitValue digit) 0

/-- A numeral without point and exponent. -/
def isInteger (numeral : Numeral) : Bool := numeral.fraction.isNone && numeral.exponent.isNone

/-- The reading as an unsigned word below `bound`; a sign is not allowed. -/
def natural? (numeral : Numeral) (bound : Nat) : Option Nat :=
  if numeral.isInteger && !numeral.negative && digitsValue numeral.whole < bound then
    some (digitsValue numeral.whole)
  else none

/-- The reading as a signed 64-bit word. Negative zero has none. -/
def integer? (numeral : Numeral) : Option Int64 :=
  let magnitude := digitsValue numeral.whole
  if !numeral.isInteger then none
  else if numeral.negative then
    if 0 < magnitude ∧ magnitude ≤ 0x8000_0000_0000_0000 then
      some (Int64.ofInt (-(magnitude : Int)))
    else none
  else if magnitude < 0x8000_0000_0000_0000 then some (Int64.ofInt magnitude)
  else none

/-- Appends digits to a significand while it stays below `2 ^ 64`, and counts the
digits left over once one does not fit. -/
def collectWhole : Nat → List Char → Nat × Nat
  | significand, [] => (significand, 0)
  | significand, digit :: rest =>
    let next := significand * 10 + digitValue digit
    if next < 0x1_0000_0000_0000_0000 then collectWhole next rest
    else (significand, rest.length + 1)

/-- Appends digits to a significand while it stays below `2 ^ 64`, and counts the
digits taken; the digits after the first that does not fit are ignored. -/
def collectFraction : Nat → List Char → Nat × Nat
  | significand, [] => (significand, 0)
  | significand, digit :: rest =>
    let next := significand * 10 + digitValue digit
    if next < 0x1_0000_0000_0000_0000 then
      let (collected, places) := collectFraction next rest
      (collected, places + 1)
    else (significand, 0)

/-- The binary64 number nearest to a power of ten. -/
def powerOfTen (exponent : Nat) : Binary64 := Binary64.ofNat (Nat.pow 10 exponent)

/-- The product with a power of ten; none when it leaves the range. -/
def scaleUp? (number : Binary64) (exponent : Nat) : Option Binary64 :=
  if exponent ≤ 308 then
    let scaled := number.mul (powerOfTen exponent)
    if scaled.isInfinite then none else some scaled
  else if number.isZero then some number
  else none

/-- The quotient by a power of ten, taken in steps of at most `1e308`. -/
def scaleDown (number : Binary64) (exponent : Nat) : Binary64 :=
  if exponent ≤ 308 then number.div (powerOfTen exponent)
  else if number.isZero then number
  else scaleDown (number.div (powerOfTen 308)) (exponent - 308)
termination_by exponent

/-- The product of a significand with a power of ten; none when it leaves the
range. -/
def scale? (significand : Nat) : Int → Option Binary64
  | .ofNat exponent => scaleUp? (Binary64.ofNat significand) exponent
  | .negSucc exponent => some (scaleDown (Binary64.ofNat significand) (exponent + 1))

/-- The reading of the magnitude as a binary64 number; none when it leaves the
range. Exponents beyond 31 bits give zero or leave the range at once. -/
def magnitude? (numeral : Numeral) : Option Binary64 :=
  let (wholeDigits, dropped) := collectWhole 0 numeral.whole
  let (significand, places) := collectFraction wholeDigits (numeral.fraction.getD [])
  let start : Int := (dropped : Int) - places
  match numeral.exponent with
  | none => scale? significand start
  | some exponent =>
    let shift := digitsValue exponent.digits
    if shift < 0x8000_0000 then
      scale? significand (if exponent.sign = .minus then start - shift else start + shift)
    else if significand = 0 ∨ exponent.sign = .minus then some (Binary64.zero false)
    else none

/-- The reading as a binary64 number; none when it leaves the range. -/
def binary64? (numeral : Numeral) : Option Binary64 :=
  numeral.magnitude?.map fun magnitude => if numeral.negative then magnitude.neg else magnitude

end Numeral

end QueryKit.Json
