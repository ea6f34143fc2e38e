import QueryKit.Number.Binary64

/-!
# Shortest decimals

The decimal with the fewest significant digits that rounds to a given binary64
number, and among those of that length the nearest one. The search is exact: it
tries each length in turn on the two grid points that enclose the number.
-/

namespace QueryKit

/-- A decimal `coefficient * 10 ^ exponent`. -/
structure Decimal where
  coefficient : Nat
  exponent : Int
  deriving DecidableEq

namespace Decimal

/-- What to do when two shortest decimals are equally near. -/
inductive Tie where
  /-- Take the greater one. -/
  | up
  /-- Take the one whose last digit is even. -/
  | even
  deriving DecidableEq

/-- The number of decimal digits of a natural number. -/
def digitCount (value : Nat) : Nat := (Nat.toDigits 10 value).length

/-- A natural number is told by its digits. -/
theorem toDigits_inj {left right : Nat} :
    Nat.toDigits 10 left = Nat.toDigits 10 right ↔ left = right := by
  refine ⟨fun same => ?_, congrArg _⟩
  rw [← Nat.ofDigitChars_ten_toDigits (n := left), same, Nat.ofDigitChars_ten_toDigits]

/-- Removes the trailing zeros of a positive coefficient; `fuel` bounds their
number. -/
def dropZeros : Nat → Nat → Int → Decimal
  | 0, coefficient, exponent => ⟨coefficient, exponent⟩
  | fuel + 1, coefficient, exponent =>
    if coefficient % 10 = 0 then dropZeros fuel (coefficient / 10) (exponent + 1)
    else ⟨coefficient, exponent⟩

/-- The set of magnitudes that round to one number, in quarter units of its last
place, together with that number. -/
structure RoundingInterval where
  low : Nat
  middle : Nat
  high : Nat
  /-- Whether the two ends belong to the interval. -/
  closed : Bool
  /-- The exponent of the quarter unit. -/
  unit : Int

/-- The rounding interval of a positive finite number. Below a power of two the
neighbours are half as far apart, and ends belong to even significands. -/
def RoundingInterval.of (number : Binary64) : RoundingInterval where
  low := 4 * number.significand -
    (if number.fractionField = 0 ∧ 1 < number.exponentField then 1 else 2)
  middle := 4 * number.significand
  high := 4 * number.significand + 2
  closed := number.significand % 2 == 0
  unit := number.binaryExponent - 2

/-- The whole part of the middle of an interval shifted by decimal places. -/
def RoundingInterval.shifted (interval : RoundingInterval) (places : Nat) : Nat :=
  interval.middle * Nat.pow 2 interval.unit.toNat * Nat.pow 10 places /
    Nat.pow 2 (-interval.unit).toNat

/-- The exponent `p` with `10 ^ (p - 1) ≤ m < 10 ^ p` for the middle `m` of an
interval, found by counting the digits of `m` shifted by so many places that it is not
below one. -/
def RoundingInterval.decimalMagnitude (interval : RoundingInterval) (places : Nat) : Int :=
  digitCount (interval.shifted places) - places

/-- The quarter unit of an interval in the measure in which a grid of spacing
`10 ^ step` compares. -/
def RoundingInterval.scale (interval : RoundingInterval) (step : Int) : Nat :=
  Nat.pow 2 interval.unit.toNat * Nat.pow 10 (-step).toNat

/-- The spacing of a grid in the same measure. -/
def RoundingInterval.spacing (interval : RoundingInterval) (step : Int) : Nat :=
  Nat.pow 2 (-interval.unit).toNat * Nat.pow 10 step.toNat

/-- Whether a grid point lies in the interval. -/
def RoundingInterval.inside (interval : RoundingInterval) (step : Int) (point : Nat) : Bool :=
  if interval.closed then
    interval.low * interval.scale step ≤ point * interval.spacing step &&
      point * interval.spacing step ≤ interval.high * interval.scale step
  else
    interval.low * interval.scale step < point * interval.spacing step &&
      point * interval.spacing step < interval.high * interval.scale step

/-- The grid point of spacing `10 ^ step` that represents the interval best, if
one lies in it. -/
def RoundingInterval.onGrid? (interval : RoundingInterval) (tie : Tie) (step : Int) : Option Nat :=
  let middle := interval.middle * interval.scale step
  let below := middle / interval.spacing step
  let above := below + 1
  match interval.inside step below, interval.inside step above with
  | false, false => none
  | true, false => some below
  | false, true => some above
  | true, true =>
    let gapBelow := middle - below * interval.spacing step
    let gapAbove := above * interval.spacing step - middle
    if gapBelow < gapAbove then some below
    else if gapAbove < gapBelow then some above
    else match tie with
      | .up => some above
      | .even => if below % 2 = 0 then some below else some above

/-- The first grid, from `length` digits on, with a point in the interval.
Seventeen digits always suffice, so eighteen lengths are never exhausted. -/
def RoundingInterval.search (interval : RoundingInterval) (tie : Tie) (magnitude : Int) :
    Nat → Nat → Decimal
  | 0, length => ⟨0, magnitude - length⟩
  | fuel + 1, length =>
    match interval.onGrid? tie (magnitude - length) with
    | some point => dropZeros 20 point (magnitude - length)
    | none => interval.search tie magnitude fuel (length + 1)

/-- The shortest decimal that rounds to the magnitude of a finite number other
than zero. -/
def shortest (tie : Tie) (number : Binary64) : Decimal :=
  let interval := RoundingInterval.of number
  interval.search tie (interval.decimalMagnitude 330) 18 1

end Decimal

end QueryKit
