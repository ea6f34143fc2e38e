import Mathlib.Algebra.Order.Field.Power
import Mathlib.Data.Nat.Cast.Order.Field
import Mathlib.Data.Rat.Cast.Order
import Mathlib.Tactic.FieldSimp
import Mathlib.Tactic.Linarith
import Mathlib.Tactic.Positivity
import Mathlib.Tactic.Ring
import QueryKit.Number.Shortest

/-!
# Shortest decimals tell numbers apart

The shortest decimal of a number lies in the rounding interval of the number, since the search
for it always ends: with eighteen digits the grid is finer than the distance from the number
to the upper end. The intervals of two numbers of one sign never share a value. The upper end
of the smaller number is not above the lower end of the greater one, and if the two ends meet,
one of the two significands is odd and its interval is open.
-/

namespace QueryKit

namespace Decimal

/-- The value of a decimal. -/
def value (decimal : Decimal) : ℚ := decimal.coefficient * 10 ^ decimal.exponent

/-- An integral power is a quotient of two natural ones, one of which is one. -/
theorem zpow_eq_div (base : ℚ) (exponent : Int) :
    base ^ exponent = base ^ exponent.toNat / base ^ (-exponent).toNat := by
  cases exponent with
  | ofNat power => simp
  | negSucc power => simp [zpow_negSucc, Int.neg_negSucc]

/-- Trailing zeros move between coefficient and exponent. -/
theorem value_dropZeros (fuel coefficient : Nat) (exponent : Int) :
    (dropZeros fuel coefficient exponent).value = coefficient * 10 ^ exponent := by
  induction fuel generalizing coefficient exponent with
  | zero => rfl
  | succ fuel ih =>
    rw [dropZeros]
    split
    · next divisible =>
      have whole : coefficient / 10 * 10 = coefficient := by omega
      rw [ih, zpow_add_one₀ (by norm_num), mul_comm _ (10 : ℚ), ← mul_assoc]
      congr 1
      exact_mod_cast whole
    · rfl

namespace RoundingInterval

variable {interval : RoundingInterval} {tie : Tie} {step : Int} {point : Nat}

/-- The quarter unit of an interval. -/
def quarter (interval : RoundingInterval) : ℚ := 2 ^ interval.unit

/-- The quarter unit is positive. -/
theorem quarter_pos (interval : RoundingInterval) : 0 < interval.quarter := by
  unfold quarter
  positivity

/-- A value lies in the interval. -/
def Contains (interval : RoundingInterval) (value : ℚ) : Prop :=
  interval.low * interval.quarter ≤ value ∧ value ≤ interval.high * interval.quarter ∧
    (interval.closed = false →
      interval.low * interval.quarter < value ∧ value < interval.high * interval.quarter)

/-- Quarter unit and spacing are measured alike. -/
theorem exists_measure (interval : RoundingInterval) (step : Int) :
    ∃ measure : ℚ, 0 < measure ∧ interval.quarter = interval.scale step * measure ∧
      (10 : ℚ) ^ step = interval.spacing step * measure := by
  refine ⟨1 / (2 ^ (-interval.unit).toNat * 10 ^ (-step).toNat), by positivity, ?_, ?_⟩
  · rw [quarter, zpow_eq_div, scale]
    push_cast [Nat.pow_eq]
    field_simp
  · rw [zpow_eq_div, spacing]
    push_cast [Nat.pow_eq]
    field_simp

/-- The grid point next above the middle. -/
def nextAbove (interval : RoundingInterval) (step : Int) : Nat :=
  interval.middle * interval.scale step / interval.spacing step + 1

/-- The point found on a grid is inside, and where none is found the one next above the middle is
outside. -/
theorem onGrid?_neighbours (interval : RoundingInterval) (tie : Tie) (step : Int) :
    (∃ point, interval.onGrid? tie step = some point ∧ interval.inside step point = true) ∨
      (interval.onGrid? tie step = none ∧
        interval.inside step (interval.nextAbove step) = false) := by
  unfold onGrid?
  extract_lets middle below above gapBelow gapAbove
  rw [show interval.nextAbove step = above from rfl]
  cases insideBelow : interval.inside step below with
  | false =>
    cases insideAbove : interval.inside step above with
    | false => exact .inr ⟨rfl, rfl⟩
    | true => exact .inl ⟨above, rfl, insideAbove⟩
  | true =>
    cases insideAbove : interval.inside step above with
    | false => exact .inl ⟨below, rfl, insideBelow⟩
    | true =>
      left
      simp only
      -- Whichever of the two is taken, it is inside.
      split
      · exact ⟨below, rfl, insideBelow⟩
      · split
        · exact ⟨above, rfl, insideAbove⟩
        · cases tie with
          | up => exact ⟨above, rfl, insideAbove⟩
          | even =>
            simp only
            split
            · exact ⟨below, rfl, insideBelow⟩
            · exact ⟨above, rfl, insideAbove⟩

/-- What is inside by comparison lies in the interval. -/
theorem contains_of_inside (isInside : interval.inside step point = true) :
    interval.Contains (point * 10 ^ step) := by
  obtain ⟨measure, positive, quarter, spacing⟩ := interval.exists_measure step
  unfold inside at isInside
  rw [Contains, quarter, spacing]
  simp only [← mul_assoc]
  split at isInside
  · next closed =>
    obtain ⟨lower, upper⟩ : interval.low * interval.scale step ≤ point * interval.spacing step ∧
        point * interval.spacing step ≤ interval.high * interval.scale step := by
      simpa using isInside
    refine ⟨mul_le_mul_of_nonneg_right (by exact_mod_cast lower) positive.le,
      mul_le_mul_of_nonneg_right (by exact_mod_cast upper) positive.le, ?_⟩
    simp [closed]
  · obtain ⟨lower, upper⟩ : interval.low * interval.scale step < point * interval.spacing step ∧
        point * interval.spacing step < interval.high * interval.scale step := by
      simpa using isInside
    have lower : (interval.low * interval.scale step : ℚ) < point * interval.spacing step := by
      exact_mod_cast lower
    have upper : (point * interval.spacing step : ℚ) < interval.high * interval.scale step := by
      exact_mod_cast upper
    have above := mul_lt_mul_of_pos_right lower positive
    have below := mul_lt_mul_of_pos_right upper positive
    exact ⟨above.le, below.le, fun _ => ⟨above, below⟩⟩

/-- A grid finer than the upper half of an interval has a point in it. -/
theorem inside_nextAbove (fine : (10 : ℚ) ^ step < 2 * interval.quarter)
    (lower : interval.low < interval.middle) (upper : interval.high = interval.middle + 2) :
    interval.inside step (interval.nextAbove step) = true := by
  obtain ⟨measure, positive, quarter, spacing⟩ := interval.exists_measure step
  have finer : interval.spacing step < 2 * interval.scale step := by
    rw [quarter, spacing, ← mul_assoc, mul_lt_mul_iff_left₀ positive] at fine
    exact_mod_cast fine
  have spaced : 0 < interval.spacing step :=
    Nat.mul_pos (Nat.pow_pos (by decide)) (Nat.pow_pos (by decide))
  have behind := Nat.lt_mul_div_succ (interval.middle * interval.scale step) spaced
  have near := Nat.div_mul_le_self (interval.middle * interval.scale step) (interval.spacing step)
  have above : interval.low * interval.scale step <
      interval.nextAbove step * interval.spacing step :=
    calc interval.low * interval.scale step
        ≤ interval.middle * interval.scale step := Nat.mul_le_mul_right _ lower.le
      _ < interval.nextAbove step * interval.spacing step := by
        rw [nextAbove, Nat.mul_comm (_ + 1)]
        exact behind
  have below : interval.nextAbove step * interval.spacing step <
      interval.high * interval.scale step := by
    rw [nextAbove, upper, Nat.add_mul, Nat.add_mul]
    omega
  unfold inside
  split <;> simp [above, above.le, below, below.le]

/-! ### The search ends -/

/-- A search that reaches a fine grid ends with a decimal in the interval. -/
theorem contains_search {magnitude : Int} (enough : Nat)
    (fine : (10 : ℚ) ^ (magnitude - enough) < 2 * interval.quarter)
    (lower : interval.low < interval.middle) (upper : interval.high = interval.middle + 2)
    (fuel length : Nat) (reaches : length ≤ enough) (lasts : enough < length + fuel) :
    interval.Contains (interval.search tie magnitude fuel length).value := by
  induction fuel generalizing length with
  | zero => omega
  | succ fuel ih =>
    unfold search
    rcases interval.onGrid?_neighbours tie (magnitude - length) with
      ⟨point, found, isInside⟩ | ⟨missing, outside⟩
    · rw [found]
      simp only [value_dropZeros]
      exact contains_of_inside isInside
    · rw [missing]
      refine ih (length + 1) ?_ (by omega)
      -- The fine grid would have had a point.
      by_contra beyond
      obtain rfl : length = enough := by omega
      simp [inside_nextAbove fine lower upper] at outside

/-- As many digits as a positive number has, it needs. -/
theorem ten_pow_le_of_digitCount {value : Nat} (positive : 0 < value) :
    10 ^ (digitCount value - 1) ≤ value := by
  by_contra small
  have short : digitCount value ≤ digitCount value - 1 := by
    by_cases single : digitCount value - 1 = 0
    · rw [single] at small
      omega
    · exact (Nat.length_toDigits_le_iff (by decide) (by omega)).2 (not_le.1 small)
  have written : 0 < digitCount value := List.length_pos_iff.2 Nat.toDigits_ne_nil
  omega

/-- Cutting off the shifted middle makes it no greater. -/
theorem shifted_le (interval : RoundingInterval) (places : Nat) :
    interval.shifted places ≤ interval.middle * interval.quarter * 10 ^ places := by
  refine le_trans Nat.cast_div_le (le_of_eq ?_)
  rw [quarter, zpow_eq_div]
  push_cast [Nat.pow_eq]
  ring

/-- Shifted by enough places, the middle is not cut off to zero. -/
theorem shifted_pos {places : Nat}
    (large : (1 : ℚ) ≤ interval.middle * interval.quarter * 10 ^ places) :
    0 < interval.shifted places := by
  have positive : (0 : ℚ) < 2 ^ (-interval.unit).toNat := by positivity
  refine Nat.div_pos ?_ (Nat.pow_pos (by decide))
  rw [quarter, zpow_eq_div, mul_div_assoc', div_mul_eq_mul_div, le_div_iff₀ positive, one_mul]
    at large
  simp only [Nat.pow_eq]
  exact_mod_cast large

/-- The power of ten before the magnitude of an interval is not above its middle. -/
theorem ten_zpow_le_middle {places : Nat}
    (large : (1 : ℚ) ≤ interval.middle * interval.quarter * 10 ^ places) :
    (10 : ℚ) ^ (interval.decimalMagnitude places - 1) ≤ interval.middle * interval.quarter := by
  have positive := shifted_pos large
  have floor := interval.shifted_le places
  have magnitude :
      interval.decimalMagnitude places = digitCount (interval.shifted places) - places := rfl
  generalize interval.shifted places = whole at positive floor magnitude
  have written : 0 < digitCount whole := List.length_pos_iff.2 Nat.toDigits_ne_nil
  have split :
      interval.decimalMagnitude places - 1 = ((digitCount whole - 1 : Nat) : Int) - places := by
    omega
  rw [split, zpow_sub₀ (by norm_num), zpow_natCast, zpow_natCast, div_le_iff₀ (by positivity)]
  calc (10 : ℚ) ^ (digitCount whole - 1) ≤ whole := by
        exact_mod_cast ten_pow_le_of_digitCount positive
    _ ≤ interval.middle * interval.quarter * 10 ^ places := floor

end RoundingInterval

end Decimal

/-! ### Rounding intervals of numbers -/

namespace Binary64

variable {number left right : Binary64}

/-- The fraction of a number has 52 bits. -/
theorem fractionField_lt (number : Binary64) : number.fractionField < 0x10_0000_0000_0000 :=
  Nat.mod_lt _ (by decide)

/-- The significand of a number has at most 53 bits. -/
theorem significand_lt (number : Binary64) : number.significand < 0x20_0000_0000_0000 := by
  have := number.fractionField_lt
  unfold significand
  split <;> omega

/-- The significand of a number other than zero is positive. -/
theorem significand_pos (nonzero : number.isZero = false) : 0 < number.significand := by
  unfold significand
  split
  · next subnormal =>
    simp only [isZero, subnormal, BEq.rfl, Bool.true_and, beq_eq_false_iff_ne] at nonzero
    omega
  · omega

/-- No number has a smaller exponent than the subnormal ones. -/
theorem binaryExponent_ge (number : Binary64) : -1074 ≤ number.binaryExponent := by
  unfold binaryExponent
  omega

/-- A number is its sign and its two fields. -/
theorem eq_of_fields (signs : left.isNegative = right.isNegative)
    (exponents : left.exponentField = right.exponentField)
    (fractions : left.fractionField = right.fractionField) : left = right := by
  have inWord := left.bits.toNat_lt
  have inWordToo := right.bits.toNat_lt
  simp only [isNegative, exponentField, fractionField, beq_eq_beq] at signs exponents fractions
  have patterns : left.bits.toNat = right.bits.toNat := by omega
  cases left
  cases right
  exact congrArg mk (UInt64.toNat_inj.1 patterns)

/-- Exponent field and fraction can be told from exponent and significand: a subnormal number
has the exponent of the least normal ones, but a smaller significand. -/
theorem eq_of_parts (signs : left.isNegative = right.isNegative)
    (exponents : left.binaryExponent = right.binaryExponent)
    (significands : left.significand = right.significand) : left = right := by
  have small := left.fractionField_lt
  have smallToo := right.fractionField_lt
  unfold binaryExponent at exponents
  unfold significand at significands
  refine eq_of_fields signs ?_ ?_ <;>
    split at significands <;> split at significands <;> omega

/-- There are two zeros, told apart by their sign. -/
theorem eq_of_isZero (signs : left.isNegative = right.isNegative) (zero : left.isZero = true)
    (zeroToo : right.isZero = true) : left = right := by
  simp only [isZero, Bool.and_eq_true, beq_iff_eq] at zero zeroToo
  exact eq_of_fields signs (zero.1.trans zeroToo.1.symm) (zero.2.trans zeroToo.2.symm)

/-- There are two infinities, told apart by their sign. -/
theorem eq_of_isInfinite (signs : left.isNegative = right.isNegative)
    (infinite : left.isInfinite = true) (infiniteToo : right.isInfinite = true) : left = right := by
  simp only [isInfinite, Bool.and_eq_true, beq_iff_eq] at infinite infiniteToo
  exact eq_of_fields signs (infinite.1.trans infiniteToo.1.symm)
    (infinite.2.trans infiniteToo.2.symm)

end Binary64

namespace Decimal

open Binary64 RoundingInterval

variable {number left right : Binary64} {value : ℚ}

/-- The middle of a rounding interval is above its lower end. -/
theorem RoundingInterval.low_lt_middle (nonzero : number.isZero = false) :
    (RoundingInterval.of number).low < (RoundingInterval.of number).middle := by
  have := significand_pos nonzero
  simp only [RoundingInterval.of]
  split <;> omega

/-- The quarter unit of every number is at least that of the least one. -/
theorem RoundingInterval.quarter_ge (number : Binary64) :
    (2 : ℚ) ^ (-1076 : Int) ≤ (RoundingInterval.of number).quarter := by
  have := number.binaryExponent_ge
  refine zpow_le_zpow_right₀ (by norm_num) ?_
  simp only [RoundingInterval.of]
  omega

/-- Shifted by 330 places, the middle of a rounding interval is not below one. -/
theorem RoundingInterval.one_le_shifted_middle (nonzero : number.isZero = false) :
    (1 : ℚ) ≤ (RoundingInterval.of number).middle * (RoundingInterval.of number).quarter *
      10 ^ 330 := by
  have whole : (1 : ℚ) ≤ (RoundingInterval.of number).middle := by
    have := RoundingInterval.low_lt_middle nonzero
    exact_mod_cast (by omega : 1 ≤ (RoundingInterval.of number).middle)
  have powers : (2 : ℚ) ^ (1076 : Nat) ≤ 10 ^ 330 :=
    calc (2 : ℚ) ^ (1076 : Nat) ≤ 2 ^ (33 * 33) := pow_le_pow_right₀ (by norm_num) (by norm_num)
      _ = (2 ^ 33) ^ 33 := pow_mul 2 33 33
      _ ≤ (10 ^ 10) ^ 33 := pow_le_pow_left₀ (by norm_num) (by norm_num) 33
      _ = 10 ^ 330 := (pow_mul 10 10 33).symm
  calc (1 : ℚ) = 1 * 2 ^ (-1076 : Int) * 2 ^ (1076 : Nat) := by
        rw [one_mul, ← zpow_natCast, ← zpow_add₀ (by norm_num)]
        rfl
    _ ≤ (RoundingInterval.of number).middle * (RoundingInterval.of number).quarter * 10 ^ 330 :=
      mul_le_mul
        (mul_le_mul whole (RoundingInterval.quarter_ge number) (by positivity) (by positivity))
        powers (by positivity)
        (mul_nonneg (by positivity) (RoundingInterval.of number).quarter_pos.le)

/-- The shortest decimal of a number lies in its rounding interval. -/
theorem contains_shortest (tie : Tie) (nonzero : number.isZero = false) :
    (RoundingInterval.of number).Contains (shortest tie number).value := by
  have small := number.significand_lt
  have positive := significand_pos nonzero
  have tiny := RoundingInterval.quarter_ge number
  have middle : (RoundingInterval.of number).middle = 4 * number.significand := rfl
  refine contains_search 18 ?_ (RoundingInterval.low_lt_middle nonzero) rfl 18 1
    (by decide) (by decide)
  have below := ten_zpow_le_middle (RoundingInterval.one_le_shifted_middle nonzero)
  have unit := (RoundingInterval.of number).quarter_pos
  generalize (RoundingInterval.of number).decimalMagnitude 330 = magnitude at below ⊢
  generalize (RoundingInterval.of number).quarter = quarter at below unit ⊢
  rw [middle] at below
  have narrow : ((4 * number.significand : Nat) : ℚ) < 4 * 0x20_0000_0000_0000 := by
    exact_mod_cast Nat.mul_lt_mul_of_pos_left small (by decide)
  calc (10 : ℚ) ^ (magnitude - 18)
      = 10 ^ (magnitude - 1) / 10 ^ 17 := by
        rw [show magnitude - 18 = magnitude - 1 - (17 : Nat) by omega, zpow_sub₀ (by norm_num),
          zpow_natCast]
    _ ≤ (4 * number.significand : Nat) * quarter / 10 ^ 17 := by gcongr
    _ < 2 * quarter := by
      rw [div_lt_iff₀ (by positivity)]
      nlinarith

/-- The shortest decimal of a number other than zero is not zero. -/
theorem coefficient_shortest_pos (tie : Tie) (nonzero : number.isZero = false) :
    0 < (shortest tie number).coefficient := by
  obtain ⟨above, _⟩ := contains_shortest tie nonzero
  have unit := (RoundingInterval.of number).quarter_pos
  have lower : 0 < (RoundingInterval.of number).low := by
    have := significand_pos nonzero
    simp only [RoundingInterval.of]
    split <;> omega
  by_contra zero
  rw [Decimal.value, Nat.eq_zero_of_not_pos zero, Nat.cast_zero, zero_mul] at above
  exact absurd above (not_le.2 (mul_pos (by exact_mod_cast lower) unit))

/-! ### Numbers of different magnitude -/

/-- One magnitude is below another: its exponent is smaller, or its significand at the same
exponent. -/
def Below (left right : Binary64) : Prop :=
  left.binaryExponent < right.binaryExponent ∨
    left.binaryExponent = right.binaryExponent ∧ left.significand < right.significand

/-- With one exponent, ends are compared in the same unit. -/
theorem high_le_low_of_significand (less : left.significand < right.significand) :
    (RoundingInterval.of left).high ≤ (RoundingInterval.of right).low ∧
      ((RoundingInterval.of left).closed → (RoundingInterval.of right).closed →
        (RoundingInterval.of left).high < (RoundingInterval.of right).low) := by
  simp only [RoundingInterval.of, beq_iff_eq]
  split <;> omega

/-- Between exponents the unit of the greater number is at least twice as long. -/
theorem high_le_low_of_exponent (less : left.binaryExponent < right.binaryExponent) :
    (RoundingInterval.of left).high ≤ 2 * (RoundingInterval.of right).low ∧
      ((RoundingInterval.of left).closed →
        (RoundingInterval.of left).high < 2 * (RoundingInterval.of right).low) := by
  have small := left.significand_lt
  have normal : 1 < right.exponentField := by
    have := left.binaryExponent_ge
    simp only [binaryExponent] at less this
    omega
  have significand : right.significand = 0x10_0000_0000_0000 + right.fractionField := by
    rw [Binary64.significand, if_neg (by omega)]
  simp only [RoundingInterval.of, beq_iff_eq]
  split <;> omega

/-- The upper end of a number is not above the lower end of a greater one, and the two ends
meet only if one of them does not belong to its interval. -/
theorem ends_apart (below : Below left right) :
    (RoundingInterval.of left).high * (RoundingInterval.of left).quarter ≤
        (RoundingInterval.of right).low * (RoundingInterval.of right).quarter ∧
      ((RoundingInterval.of left).closed → (RoundingInterval.of right).closed →
        (RoundingInterval.of left).high * (RoundingInterval.of left).quarter <
          (RoundingInterval.of right).low * (RoundingInterval.of right).quarter) := by
  have unit := (RoundingInterval.of left).quarter_pos
  rcases below with exponents | ⟨sameExponent, significands⟩
  · obtain ⟨ends, apart⟩ := high_le_low_of_exponent exponents
    have longer : 2 * (RoundingInterval.of left).quarter ≤ (RoundingInterval.of right).quarter := by
      rw [quarter, quarter, mul_comm, ← zpow_add_one₀ (by norm_num)]
      refine zpow_le_zpow_right₀ (by norm_num) ?_
      simp only [RoundingInterval.of]
      omega
    have scaled : (2 * (RoundingInterval.of right).low : Nat) * (RoundingInterval.of left).quarter ≤
        (RoundingInterval.of right).low * (RoundingInterval.of right).quarter := by
      rw [Nat.mul_comm, Nat.cast_mul, mul_assoc, Nat.cast_ofNat]
      exact mul_le_mul_of_nonneg_left longer (by positivity)
    refine ⟨le_trans (mul_le_mul_of_nonneg_right (by exact_mod_cast ends) unit.le) scaled, ?_⟩
    intro closed _
    exact lt_of_lt_of_le (mul_lt_mul_of_pos_right (by exact_mod_cast apart closed) unit) scaled
  · obtain ⟨ends, apart⟩ := high_le_low_of_significand significands
    have sameUnit : (RoundingInterval.of right).quarter = (RoundingInterval.of left).quarter := by
      simp only [quarter, RoundingInterval.of, sameExponent]
    rw [sameUnit]
    refine ⟨mul_le_mul_of_nonneg_right (by exact_mod_cast ends) unit.le, fun closed closedToo => ?_⟩
    exact mul_lt_mul_of_pos_right (by exact_mod_cast apart closed closedToo) unit

/-- No value rounds to two magnitudes one of which is below the other. -/
theorem not_contains_both (below : Below left right)
    (inLeft : (RoundingInterval.of left).Contains value)
    (inRight : (RoundingInterval.of right).Contains value) : False := by
  obtain ⟨ends, apart⟩ := ends_apart below
  obtain ⟨_, atMost, strictly⟩ := inLeft
  obtain ⟨atLeast, _, strictlyToo⟩ := inRight
  cases closed : (RoundingInterval.of left).closed with
  | false => linarith [(strictly closed).2]
  | true =>
    cases closedToo : (RoundingInterval.of right).closed with
    | false => linarith [(strictlyToo closedToo).1]
    | true => linarith [apart closed closedToo]

/-- A number is determined by its sign and the value of its shortest decimal. -/
theorem eq_of_shortest {tie : Tie} (nonzero : left.isZero = false)
    (nonzeroToo : right.isZero = false) (signs : left.isNegative = right.isNegative)
    (values : (shortest tie left).value = (shortest tie right).value) :
    left = right := by
  have inLeft := contains_shortest tie nonzero
  have inRight := contains_shortest tie nonzeroToo
  rw [← values] at inRight
  rcases lt_trichotomy left.binaryExponent right.binaryExponent with less | same | greater
  · exact (not_contains_both (.inl less) inLeft inRight).elim
  · rcases lt_trichotomy left.significand right.significand with less | sameToo | greater
    · exact (not_contains_both (.inr ⟨same, less⟩) inLeft inRight).elim
    · exact eq_of_parts signs same sameToo
    · exact (not_contains_both (.inr ⟨same.symm, greater⟩) inRight inLeft).elim
  · exact (not_contains_both (.inl greater) inRight inLeft).elim

end Decimal

end QueryKit
