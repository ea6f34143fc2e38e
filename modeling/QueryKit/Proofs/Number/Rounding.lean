import Mathlib.Tactic.NormNum.Pow
import QueryKit.Proofs.Number.Shortest

/-!
# Rounding near the end of the range

A quotient is rounded in a unit that depends on its size. Whether it leaves the range is decided
by its size alone: everything below the middle between the greatest number and the next power of
two stays in it. A natural number is not rounded up by more than a part in `2 ^ 53` of itself.
Together these two facts bound what a product of two rounded numbers can become.
-/

namespace QueryKit

/-! ### Rounding to integers -/

section Integers

variable {numerator denominator : Nat}

/-- Rounding goes up by at most a half. -/
theorem two_mul_roundHalfEven_le (numerator denominator : Nat) :
    2 * (roundHalfEven numerator denominator * denominator) ≤ 2 * numerator + denominator := by
  have division := Nat.div_add_mod numerator denominator
  have above : (numerator / denominator + 1) * denominator =
      numerator / denominator * denominator + denominator := Nat.succ_mul _ _
  rw [Nat.mul_comm] at division
  simp only [roundHalfEven]
  split_ifs <;> omega

/-- Rounding does not go below a natural number. -/
theorem le_roundHalfEven {bound : Nat} (positive : 0 < denominator)
    (above : bound * denominator ≤ numerator) : bound ≤ roundHalfEven numerator denominator := by
  have floor := (Nat.le_div_iff_mul_le positive).2 above
  simp only [roundHalfEven]
  split_ifs <;> omega

/-- Rounding does not go above a natural number. -/
theorem roundHalfEven_le {bound : Nat} (positive : 0 < denominator)
    (below : numerator < bound * denominator) : roundHalfEven numerator denominator ≤ bound := by
  have floor := (Nat.div_lt_iff_lt_mul positive).2 below
  simp only [roundHalfEven]
  split_ifs <;> omega

end Integers

namespace Binary64

/-! ### The unit of a quotient -/

/-- The magnitude of a finite number. -/
def magnitude (number : Binary64) : ℚ := number.significand * 2 ^ number.binaryExponent

/-- Magnitudes are not negative. -/
theorem magnitude_nonneg (number : Binary64) : 0 ≤ number.magnitude := by
  unfold magnitude
  positivity

/-- The magnitude of a number is its quotient of natural numbers. -/
theorem magnitude_eq_div (number : Binary64) :
    number.magnitude = number.numerator / number.denominator := by
  rw [magnitude, Decimal.zpow_eq_div, numerator, denominator]
  push_cast [Nat.pow_eq]
  ring

/-- The denominator of a magnitude is positive. -/
theorem denominator_pos (number : Binary64) : 0 < number.denominator :=
  Nat.pow_pos (by decide)

section Quotients

variable {numerator denominator : Nat}

/-- The binary magnitude of a quotient is the exponent of the power of two below it. -/
theorem binaryMagnitude_bounds (nonzero : numerator ≠ 0) (positive : 0 < denominator) :
    (2 : ℚ) ^ binaryMagnitude numerator denominator ≤ numerator / denominator ∧
      (numerator / denominator : ℚ) < 2 ^ (binaryMagnitude numerator denominator + 1) := by
  have divisor : (0 : ℚ) < denominator := by exact_mod_cast positive
  have numeratorAbove : (2 : ℚ) ^ numerator.log2 ≤ numerator := by
    exact_mod_cast Nat.log2_self_le nonzero
  have numeratorBelow : (numerator : ℚ) < 2 ^ (numerator.log2 + 1) := by
    exact_mod_cast Nat.lt_log2_self
  have divisorAbove : (2 : ℚ) ^ denominator.log2 ≤ denominator := by
    exact_mod_cast Nat.log2_self_le positive.ne'
  have divisorBelow : (denominator : ℚ) < 2 ^ (denominator.log2 + 1) := by
    exact_mod_cast Nat.lt_log2_self
  unfold binaryMagnitude
  extract_lets guess
  have reached : denominator * Nat.pow 2 guess.toNat ≤ numerator * Nat.pow 2 (-guess).toNat ↔
      (2 : ℚ) ^ guess ≤ numerator / denominator := by
    rw [Decimal.zpow_eq_div, div_le_div_iff₀ (by positivity) divisor, mul_comm]
    simp only [Nat.pow_eq]
    exact_mod_cast Iff.rfl
  have power (left right : Nat) : (2 : ℚ) ^ ((left : Int) - right) = 2 ^ left / 2 ^ right := by
    rw [zpow_sub₀ (by norm_num), zpow_natCast, zpow_natCast]
  split
  · next above =>
    refine ⟨reached.1 above, ?_⟩
    rw [show guess + 1 = ((numerator.log2 + 1 : Nat) : Int) - denominator.log2 by omega, power]
    exact div_lt_div₀ numeratorBelow divisorAbove (by positivity) (by positivity)
  · next below =>
    rw [reached, not_le] at below
    refine ⟨?_, by rwa [Int.sub_add_cancel]⟩
    rw [show guess - 1 = (numerator.log2 : Int) - ((denominator.log2 + 1 : Nat) : Int) by omega,
      power]
    exact div_le_div₀ (by positivity) numeratorAbove divisor divisorBelow.le

/-- The exponent of the unit in which a quotient is rounded. -/
def unitOf (numerator denominator : Nat) : Int :=
  max (binaryMagnitude numerator denominator - 52) (-1074)

/-- A quotient in its unit, rounded. -/
def roundedOf (numerator denominator : Nat) : Nat :=
  roundHalfEven (numerator * Nat.pow 2 (-unitOf numerator denominator).toNat)
    (denominator * Nat.pow 2 (unitOf numerator denominator).toNat)

/-- The exponent and the significand of a quotient, which carries into the exponent. -/
def fieldsOf (numerator denominator : Nat) : Nat :=
  (unitOf numerator denominator + 1074).toNat * 0x10_0000_0000_0000 +
    roundedOf numerator denominator

/-- A quotient other than zero is packed, unless it overflows. -/
theorem ofRatio_of_ne_zero (negative : Bool) (nonzero : numerator ≠ 0) :
    ofRatio negative numerator denominator =
      if fieldsOf numerator denominator < 2047 * 0x10_0000_0000_0000 then
        ofFields negative (fieldsOf numerator denominator)
      else infinity negative := by
  rw [ofRatio, if_neg nonzero]
  rfl

/-- A quotient is compared with a number of units by natural numbers. -/
theorem lt_units_iff (positive : 0 < denominator) (unit : Int) (count : Nat) :
    (numerator / denominator : ℚ) < count * 2 ^ unit ↔
      numerator * Nat.pow 2 (-unit).toNat < count * (denominator * Nat.pow 2 unit.toNat) := by
  have divisor : (0 : ℚ) < denominator := by exact_mod_cast positive
  rw [Decimal.zpow_eq_div, mul_div_assoc', div_lt_div_iff₀ divisor (by positivity)]
  simp only [Nat.pow_eq]
  rw [mul_assoc, mul_comm ((2 : ℚ) ^ unit.toNat)]
  exact_mod_cast Iff.rfl

/-- A quotient has at most `2 ^ 53` of its units. -/
theorem lt_unit (nonzero : numerator ≠ 0) (positive : 0 < denominator) :
    (numerator / denominator : ℚ) <
      (0x20_0000_0000_0000 : Nat) * 2 ^ unitOf numerator denominator := by
  have below := (binaryMagnitude_bounds nonzero positive).2
  refine lt_of_lt_of_le below ?_
  rw [show ((0x20_0000_0000_0000 : Nat) : ℚ) = 2 ^ (53 : Int) by norm_num,
    ← zpow_add₀ (by norm_num)]
  refine zpow_le_zpow_right₀ (by norm_num) ?_
  unfold unitOf
  omega

/-- The rounded significand carries into the next binade at most. -/
theorem roundedOf_le (nonzero : numerator ≠ 0) (positive : 0 < denominator) :
    roundedOf numerator denominator ≤ 0x20_0000_0000_0000 :=
  roundHalfEven_le (Nat.mul_pos positive (Nat.pow_pos (by decide)))
    ((lt_units_iff positive _ _).1 (lt_unit nonzero positive))

/-- A quotient is rounded up by at most half a unit. -/
theorem roundedOf_mul_le (numerator : Nat) (positive : 0 < denominator) :
    (roundedOf numerator denominator : ℚ) * 2 ^ unitOf numerator denominator ≤
      numerator / denominator + 2 ^ unitOf numerator denominator / 2 := by
  have half := two_mul_roundHalfEven_le
    (numerator * Nat.pow 2 (-unitOf numerator denominator).toNat)
    (denominator * Nat.pow 2 (unitOf numerator denominator).toNat)
  have divisor : (0 : ℚ) < denominator := by exact_mod_cast positive
  rw [← roundedOf] at half
  generalize unitOf numerator denominator = unit at half ⊢
  generalize roundedOf numerator denominator = rounded at half ⊢
  have cast : 2 * ((rounded : ℚ) * (denominator * 2 ^ unit.toNat)) ≤
      2 * (numerator * 2 ^ (-unit).toNat) + denominator * 2 ^ unit.toNat := by
    simp only [Nat.pow_eq] at half
    exact_mod_cast half
  rw [Decimal.zpow_eq_div]
  calc (rounded : ℚ) * (2 ^ unit.toNat / 2 ^ (-unit).toNat)
      = 2 * (rounded * (denominator * 2 ^ unit.toNat)) / (2 * denominator * 2 ^ (-unit).toNat) := by
        field_simp
    _ ≤ (2 * (numerator * 2 ^ (-unit).toNat) + denominator * 2 ^ unit.toNat) /
          (2 * denominator * 2 ^ (-unit).toNat) := by gcongr
    _ = numerator / denominator + 2 ^ unit.toNat / 2 ^ (-unit).toNat / 2 := by field_simp

/-! ### What stays in the range -/

/-- The middle between the greatest number and the next power of two. -/
def edge : Nat := (2 ^ 54 - 1) * 2 ^ 970

/-- The edge as a rational number. -/
theorem cast_edge : (edge : ℚ) = (2 ^ 54 - 1) * 2 ^ 970 := by
  rw [edge, Nat.cast_mul, Nat.cast_pow, Nat.cast_ofNat]
  norm_num only

-- Unification must not evaluate such powers.
attribute [irreducible] edge

/-- Fields before the last exponent are those of a number that is not infinite. -/
theorem not_isInfinite_ofFields (negative : Bool) {fields : Nat}
    (small : fields < 2047 * 0x10_0000_0000_0000) :
    (ofFields negative fields).isInfinite = false := by
  have other : (ofFields negative fields).exponentField ≠ 2047 := by
    simp only [ofFields, exponentField, UInt64.toNat_ofNat']
    split <;> omega
  simp [isInfinite, other]

/-- A quotient before the edge is rounded in a unit of the range. -/
theorem unitOf_le (nonzero : numerator ≠ 0) (positive : 0 < denominator)
    (below : (numerator / denominator : ℚ) < edge) : unitOf numerator denominator ≤ 971 := by
  have reaches := (binaryMagnitude_bounds nonzero positive).1
  have range : (2 : ℚ) ^ binaryMagnitude numerator denominator < 2 ^ (1024 : Int) :=
    calc (2 : ℚ) ^ binaryMagnitude numerator denominator ≤ numerator / denominator := reaches
      _ < edge := below
      _ < 2 ^ 54 * 2 ^ 970 := by
        rw [cast_edge]
        exact mul_lt_mul_of_pos_right (by norm_num) (by positivity)
      _ = 2 ^ (1024 : Int) := by
        rw [← pow_add, ← zpow_natCast]
        rfl
  have := (zpow_lt_zpow_iff_right₀ (by norm_num : (1 : ℚ) < 2)).1 range
  unfold unitOf
  omega

/-- In the greatest unit, a quotient before the edge does not carry into the exponent. -/
theorem fieldsOf_lt (nonzero : numerator ≠ 0) (positive : 0 < denominator)
    (below : (numerator / denominator : ℚ) < edge) :
    fieldsOf numerator denominator < 2047 * 0x10_0000_0000_0000 := by
  have unit := unitOf_le nonzero positive below
  have units := roundedOf_le nonzero positive
  have up := roundedOf_mul_le numerator positive
  unfold fieldsOf
  by_cases greatest : unitOf numerator denominator = 971
  · have few : (roundedOf numerator denominator : ℚ) * 2 ^ (971 : Int) <
        (0x20_0000_0000_0000 : Nat) * 2 ^ (971 : Int) := by
      have unit : (2 : ℚ) ^ (971 : Int) = 2 * 2 ^ 970 := by
        rw [mul_comm, ← pow_succ, ← zpow_natCast]
        rfl
      rw [cast_edge] at below
      rw [greatest, unit] at up
      rw [unit]
      push_cast
      generalize (2 : ℚ) ^ 970 = half at below up ⊢
      linarith
    have few : roundedOf numerator denominator < 0x20_0000_0000_0000 := by
      exact_mod_cast lt_of_mul_lt_mul_right few (by positivity)
    omega
  · omega

/-- A quotient before the edge is not rounded to infinity. -/
theorem not_isInfinite_ofRatio (negative : Bool) (positive : 0 < denominator)
    (below : (numerator / denominator : ℚ) < edge) :
    (ofRatio negative numerator denominator).isInfinite = false := by
  by_cases nonzero : numerator = 0
  · rw [ofRatio, if_pos nonzero]
    exact not_isInfinite_ofFields negative (by decide)
  · have small := fieldsOf_lt nonzero positive below
    rw [ofRatio_of_ne_zero negative nonzero, if_pos small]
    exact not_isInfinite_ofFields negative small

end Quotients

/-! ### Natural numbers and their products -/

/-- The number of a unit and a rounded significand, which is at most twice the least normal
one and then carries into the exponent. -/
theorem magnitude_ofFields {unit : Int} {rounded : Nat} (least : -1074 ≤ unit)
    (normal : 0x10_0000_0000_0000 ≤ rounded) (full : rounded ≤ 0x20_0000_0000_0000)
    (small : (unit + 1074).toNat * 0x10_0000_0000_0000 + rounded < 2047 * 0x10_0000_0000_0000) :
    (ofFields false ((unit + 1074).toNat * 0x10_0000_0000_0000 + rounded)).magnitude =
      rounded * 2 ^ unit := by
  obtain ⟨fields, shape⟩ : ∃ fields, fields =
      (unit + 1074).toNat * 0x10_0000_0000_0000 + rounded := ⟨_, rfl⟩
  have bits : (ofFields false fields).bits.toNat = fields := by
    simp only [ofFields, UInt64.toNat_ofNat', Bool.false_eq_true, if_false]
    omega
  rw [← shape]
  -- A significand of `2 ^ 53` leaves no fraction and adds one to the exponent.
  rcases Nat.lt_or_eq_of_le full with inside | carries
  · have exponent : (ofFields false fields).exponentField = (unit + 1074).toNat + 1 := by
      rw [exponentField, bits]
      omega
    have fraction : (ofFields false fields).fractionField = rounded - 0x10_0000_0000_0000 := by
      rw [fractionField, bits]
      omega
    rw [magnitude, significand, binaryExponent, exponent, fraction, if_neg (by omega)]
    rw [Nat.add_sub_cancel' normal,
      show (((max ((unit + 1074).toNat + 1) 1 : Nat) : Int) - 1075) = unit by omega]
  · have exponent : (ofFields false fields).exponentField = (unit + 1074).toNat + 2 := by
      rw [exponentField, bits]
      omega
    have fraction : (ofFields false fields).fractionField = 0 := by
      rw [fractionField, bits]
      omega
    rw [magnitude, significand, binaryExponent, exponent, fraction, if_neg (by omega), carries,
      show (((max ((unit + 1074).toNat + 2) 1 : Nat) : Int) - 1075) = unit + 1 by omega,
      zpow_add_one₀ (by norm_num)]
    norm_num
    ring

/-- A natural number before the edge is rounded up by at most a part in `2 ^ 53`. -/
theorem magnitude_ofNat_le {value : Nat} (below : value < edge) :
    (ofNat value).magnitude ≤ value * (1 + 1 / 2 ^ 53) := by
  by_cases nonzero : value = 0
  · subst nonzero
    have zero : (ofNat 0).significand = 0 := by decide
    simp [magnitude, zero]
  have below : (value / (1 : Nat) : ℚ) < edge := by
    rw [Nat.cast_one, div_one]
    exact Nat.cast_lt.2 below
  have small := fieldsOf_lt nonzero one_pos below
  obtain ⟨reaches, before⟩ := binaryMagnitude_bounds nonzero one_pos
  have whole : (1 : ℚ) ≤ value := by exact_mod_cast Nat.pos_of_ne_zero nonzero
  have atLeast : 0 ≤ binaryMagnitude value 1 := by
    have : (2 : ℚ) ^ (0 : Int) < 2 ^ (binaryMagnitude value 1 + 1) := by
      refine lt_of_le_of_lt ?_ before
      simpa using whole
    have := (zpow_lt_zpow_iff_right₀ (by norm_num : (1 : ℚ) < 2)).1 this
    omega
  have unit : binaryMagnitude value 1 = unitOf value 1 + 52 := by
    unfold unitOf
    omega
  have units : (2 : ℚ) ^ unitOf value 1 * 2 ^ 52 ≤ value := by
    rw [unit, zpow_add₀ (by norm_num)] at reaches
    simpa using reaches
  have normal : 0x10_0000_0000_0000 ≤ roundedOf value 1 := by
    refine le_roundHalfEven (Nat.mul_pos one_pos (Nat.pow_pos (by decide))) ?_
    rw [← not_lt, ← lt_units_iff one_pos, not_lt, mul_comm, Nat.cast_one, div_one]
    push_cast
    norm_num at units ⊢
    exact units
  rw [ofNat, ofRatio_of_ne_zero false nonzero, if_pos small, fieldsOf,
    magnitude_ofFields (by omega) normal (roundedOf_le nonzero one_pos) small]
  refine le_trans (roundedOf_mul_le value one_pos) ?_
  norm_num at units ⊢
  linarith

/-- A bound so far before the edge that rounding both factors and their product does not lead
beyond it. -/
def margin : Nat := (2 ^ 54 - 5) * 2 ^ 970

/-- The margin as a rational number. -/
theorem cast_margin : (margin : ℚ) = (2 ^ 54 - 5) * 2 ^ 970 := by
  rw [margin, Nat.cast_mul, Nat.cast_pow, Nat.cast_ofNat]
  norm_num only

attribute [irreducible] margin

/-- The product of two natural numbers within the margin is rounded to a finite number. -/
theorem not_isInfinite_mul_ofNat {left right : Nat} (leftBelow : left < edge)
    (rightBelow : right < edge) (within : left * right ≤ margin) :
    ((ofNat left).mul (ofNat right)).isInfinite = false := by
  refine not_isInfinite_ofRatio _ (Nat.mul_pos (denominator_pos _) (denominator_pos _)) ?_
  have product : (((ofNat left).numerator * (ofNat right).numerator : Nat) /
      ((ofNat left).denominator * (ofNat right).denominator : Nat) : ℚ) =
        (ofNat left).magnitude * (ofNat right).magnitude := by
    rw [magnitude_eq_div, magnitude_eq_div, div_mul_div_comm]
    push_cast
    rfl
  have within : (left * right : ℚ) ≤ margin := by
    rw [← Nat.cast_mul]
    exact Nat.cast_le.2 within
  rw [product]
  calc (ofNat left).magnitude * (ofNat right).magnitude
      ≤ left * (1 + 1 / 2 ^ 53) * (right * (1 + 1 / 2 ^ 53)) :=
        mul_le_mul (magnitude_ofNat_le leftBelow) (magnitude_ofNat_le rightBelow)
          (magnitude_nonneg _) (mul_nonneg (Nat.cast_nonneg left) (by norm_num))
    _ = left * right * (1 + 1 / 2 ^ 53) ^ 2 := by ring
    _ ≤ margin * (1 + 1 / 2 ^ 53) ^ 2 := mul_le_mul_of_nonneg_right within (by norm_num)
    _ < edge := by
      rw [cast_margin, cast_edge, mul_right_comm]
      exact mul_lt_mul_of_pos_right (by norm_num) (by positivity)

end Binary64

end QueryKit
