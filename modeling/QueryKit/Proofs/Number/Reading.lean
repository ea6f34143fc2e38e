import QueryKit.Proofs.Number.Notation
import QueryKit.Proofs.Number.Rounding

/-!
# Written numbers are read as numbers

A numeral is read by collecting its digits in a significand of 64 bits, so digits may be lost,
and by scaling the significand with a power of ten, so it is rounded twice. Losing digits makes
the value smaller, and values within the margin survive both roundings. The numerals of all
finite numbers are within it but for the two greatest magnitudes, where the reader is run.
-/

namespace QueryKit

open Binary64

namespace Json.Numeral

variable {digits : List Char} {significand : Nat}

/-! ### Collecting digits -/

/-- A digit is less than ten. -/
theorem digitValue_lt {digit : Char} (isDigit : digit.isDigit = true) : digitValue digit < 10 := by
  simp only [Char.isDigit, Bool.and_eq_true, decide_eq_true_eq, UInt32.le_iff_toNat_le] at isDigit
  have code : digit.toNat = digit.val.toNat := rfl
  have nine : '9'.val.toNat = 57 := rfl
  have zero : '0'.toNat = 48 := rfl
  rw [digitValue, code, zero]
  omega

/-- Digits before the point are all taken when what they add up to fits. -/
theorem collectWhole_eq (significand : Nat)
    (fits : significand * 10 ^ digits.length + digitsValue digits < 0x1_0000_0000_0000_0000) :
    collectWhole significand digits =
      (significand * 10 ^ digits.length + digitsValue digits, 0) := by
  rw [← foldl_digits] at fits ⊢
  induction digits generalizing significand with
  | nil => rfl
  | cons digit rest ih =>
    rw [List.foldl_cons] at fits ⊢
    have next : significand * 10 + digitValue digit < 0x1_0000_0000_0000_0000 := by
      refine lt_of_le_of_lt ?_ fits
      rw [foldl_digits]
      exact le_trans (Nat.le_mul_of_pos_right _ (by positivity)) (Nat.le_add_right _ _)
    rw [collectWhole, if_pos next, ih _ fits]

/-- Digits behind the point that are left out make the value smaller. -/
theorem collectFraction_le (digits : List Char) (small : significand < 0x1_0000_0000_0000_0000) :
    (collectFraction significand digits).1 < 0x1_0000_0000_0000_0000 ∧
      (collectFraction significand digits).1 * 10 ^ digits.length ≤
        (significand * 10 ^ digits.length + digitsValue digits) *
          10 ^ (collectFraction significand digits).2 := by
  rw [← foldl_digits]
  induction digits generalizing significand with
  | nil => simpa [collectFraction] using small
  | cons digit rest ih =>
    rw [collectFraction]
    split
    · next next =>
      obtain ⟨fits, less⟩ := ih next
      refine ⟨fits, ?_⟩
      simp only [List.length_cons, List.foldl_cons, pow_succ, ← mul_assoc]
      exact Nat.mul_le_mul_right 10 less
    · refine ⟨small, ?_⟩
      rw [foldl_digits, pow_zero, mul_one]
      exact Nat.le_add_right _ _

/-! ### Scaling -/

/-- The powers of ten in the table are numbers before the edge. -/
theorem pow_lt_edge {exponent : Nat} (inTable : exponent ≤ 308) : 10 ^ exponent < edge := by
  have greatest : 10 ^ 308 < edge := by decide +kernel
  exact lt_of_le_of_lt (pow_le_pow_right₀ (by decide) inTable) greatest

/-- The margin has at most 309 digits before its point. -/
theorem margin_lt_zpow : (margin : ℚ) < 10 ^ (309 : Int) := by
  have greatest : margin < 10 ^ 309 := by decide +kernel
  have cast : ((10 ^ 309 : Nat) : ℚ) = 10 ^ (309 : Int) := by
    rw [Nat.cast_pow, ← zpow_natCast]
    rfl
  rw [← cast, Nat.cast_lt]
  exact greatest

/-- A significand times a power of ten within the margin is scaled to a finite number. -/
theorem isSome_scale? {exponent : Int} (small : significand < 0x1_0000_0000_0000_0000)
    (within : (significand : ℚ) * 10 ^ exponent ≤ margin) :
    (scale? significand exponent).isSome = true := by
  cases exponent with
  | negSucc exponent => rfl
  | ofNat exponent =>
    rw [scale?, scaleUp?]
    by_cases inTable : exponent ≤ 308
    · have below : significand < edge := by
        have := pow_lt_edge (show 20 ≤ 308 by decide)
        omega
      have within : significand * 10 ^ exponent ≤ margin := by
        rw [Int.ofNat_eq_natCast, zpow_natCast] at within
        exact_mod_cast within
      have finite := not_isInfinite_mul_ofNat below (pow_lt_edge inTable) within
      rw [if_pos inTable, powerOfTen, Nat.pow_eq, if_neg (by simp [finite])]
      rfl
    · -- Only zero stays within the margin then.
      have zero : significand = 0 := by
        by_contra nonzero
        have positive : (1 : ℚ) ≤ significand := by exact_mod_cast Nat.pos_of_ne_zero nonzero
        have reached := calc (10 : ℚ) ^ (309 : Int) ≤ 10 ^ (Int.ofNat exponent) :=
              zpow_le_zpow_right₀ (by norm_num) (by simp only [Int.ofNat_eq_natCast]; omega)
          _ ≤ significand * 10 ^ (Int.ofNat exponent) :=
              le_mul_of_one_le_left (zpow_nonneg (by norm_num) _) positive
          _ ≤ margin := within
        exact margin_lt_zpow.not_ge reached
      subst zero
      rw [if_neg inTable, if_pos (by decide)]
      rfl

/-! ### Numerals within the margin -/

/-- Numerals whose digits before the point fit into the significand, whose exponent fits into
31 bits or makes the number smaller, and whose magnitude is within the margin. -/
structure Modest (numeral : Numeral) : Prop where
  whole : digitsValue numeral.whole < 0x1_0000_0000_0000_0000
  exponent : ∀ exponent ∈ numeral.exponent,
    exponent.sign = .minus ∨ digitsValue exponent.digits < 0x8000_0000
  within : numeral.magnitude ≤ margin

/-- The collected digits, scaled by their places and the exponent, do not exceed the magnitude. -/
theorem collected_le {numeral : Numeral} {collected : Nat × Nat}
    (small : digitsValue numeral.whole < 0x1_0000_0000_0000_0000)
    (collects : collectFraction (digitsValue numeral.whole) (numeral.fraction.getD []) =
      collected) :
    (collected.1 : ℚ) * 10 ^ ((numeral.exponent.map Exponent.value).getD 0 - collected.2) ≤
      numeral.magnitude := by
  have less := (collectFraction_le (numeral.fraction.getD []) small).2
  rw [← digitsValue_append, collects] at less
  have less : (collected.1 : ℚ) * 10 ^ (numeral.fraction.getD []).length ≤
      digitsValue (numeral.whole ++ numeral.fraction.getD []) * 10 ^ collected.2 := by
    exact_mod_cast less
  rw [magnitude, zpow_sub₀ (by norm_num), zpow_sub₀ (by norm_num), zpow_natCast, zpow_natCast,
    mul_div_assoc', mul_div_assoc', div_le_div_iff₀ (by positivity) (by positivity),
    mul_right_comm, mul_right_comm _ _ ((10 : ℚ) ^ collected.2)]
  exact mul_le_mul_of_nonneg_right less (by positivity)

/-- Modest numerals are read. -/
theorem Modest.isSome_binary64? {numeral : Numeral} (modest : numeral.Modest) :
    numeral.binary64?.isSome = true := by
  have whole : collectWhole 0 numeral.whole = (digitsValue numeral.whole, 0) := by
    simpa using collectWhole_eq 0 (by simpa using modest.whole)
  obtain ⟨⟨significand, places⟩, collects⟩ :
    ∃ collected, collectFraction (digitsValue numeral.whole) (numeral.fraction.getD []) =
      collected := ⟨_, rfl⟩
  have small : significand < 0x1_0000_0000_0000_0000 := by
    simpa only [collects] using
      (collectFraction_le (numeral.fraction.getD []) modest.whole).1
  have within := le_trans (collected_le modest.whole collects) modest.within
  rw [binary64?, Option.isSome_map, magnitude?]
  simp only [whole, collects]
  cases exponent : numeral.exponent with
  | none =>
    refine isSome_scale? small ?_
    simpa [exponent] using within
  | some given =>
    simp only [exponent, Option.map_some, Option.getD_some] at within
    have power : (if given.sign = .minus then ((0 : Nat) : Int) - places - digitsValue given.digits
        else ((0 : Nat) : Int) - places + digitsValue given.digits) = given.value - places := by
      unfold Exponent.value
      split <;> omega
    simp only
    split
    · rw [power]
      exact isSome_scale? small within
    · next long =>
      rw [if_pos (.inr ((modest.exponent given exponent).resolve_right long))]
      rfl

end Json.Numeral

/-! ### The numerals of finite numbers -/

namespace Decimal

open Json.Numeral

/-- The value of a decimal by the place of its first digit. -/
theorem value_bounds {decimal : Decimal} (positive : 0 < decimal.coefficient) :
    (10 : ℚ) ^ (decimal.exponent + digitCount decimal.coefficient - 1) ≤ decimal.value ∧
      decimal.value < 10 ^ (decimal.exponent + digitCount decimal.coefficient) := by
  have written : 0 < digitCount decimal.coefficient := List.length_pos_iff.2 Nat.toDigits_ne_nil
  have lower : (10 : ℚ) ^ (digitCount decimal.coefficient - 1) ≤ decimal.coefficient := by
    exact_mod_cast RoundingInterval.ten_pow_le_of_digitCount positive
  have upper : (decimal.coefficient : ℚ) < 10 ^ digitCount decimal.coefficient := by
    exact_mod_cast (Nat.length_toDigits_le_iff (by decide) written).1 le_rfl
  rw [value]
  constructor
  · rw [show decimal.exponent + digitCount decimal.coefficient - 1 =
        ((digitCount decimal.coefficient - 1 : Nat) : Int) + decimal.exponent by omega,
      zpow_add₀ (by norm_num), zpow_natCast]
    exact mul_le_mul_of_nonneg_right lower (by positivity)
  · rw [Int.add_comm, zpow_add₀ (by norm_num), zpow_natCast]
    exact mul_lt_mul_of_pos_right upper (by positivity)

/-- The digits before the point are not above the value. -/
theorem Writes.whole_le {decimal : Decimal} {whole fraction : List Char}
    (writes : decimal.Writes whole fraction) : (digitsValue whole : ℚ) ≤ decimal.value := by
  have value := writes.value
  rw [digitsValue_append] at value
  push_cast at value
  refine le_of_mul_le_mul_right ?_ (by positivity : (0 : ℚ) < 10 ^ fraction.length)
  rw [← value]
  exact le_add_of_nonneg_right (Nat.cast_nonneg _)

/-- Apart from the two greatest magnitudes, shortest decimals are within the margin. -/
theorem shortest_le_margin (tie : Tie) {number : Binary64} (nonzero : number.isZero = false)
    (finite : number.exponentField < 2047)
    (lower : number.exponentField = 2046 → number.fractionField + 2 < 0x10_0000_0000_0000) :
    (shortest tie number).value ≤ margin := by
  have top : (margin : ℚ) = (0x40_0000_0000_0000 - 5 : Nat) * 2 ^ (970 : Int) := by
    rw [cast_margin, ← zpow_natCast]
    congr 1
    norm_num
  refine le_trans (contains_shortest tie nonzero).2.1 ?_
  rw [top]
  simp only [RoundingInterval.quarter, RoundingInterval.of]
  by_cases greatest : number.exponentField = 2046
  · -- In the greatest unit the upper end is an odd number of half units.
    have exponent : number.binaryExponent - 2 = -1 + (970 : Int) := by
      rw [binaryExponent, greatest]
      rfl
    have below : 2 * number.significand + 1 ≤ 0x40_0000_0000_0000 - 5 := by
      have := lower greatest
      rw [significand, if_neg (by omega)]
      omega
    rw [exponent, zpow_add₀ (by norm_num), ← mul_assoc]
    refine mul_le_mul_of_nonneg_right ?_ (by positivity)
    have below : ((2 * number.significand + 1 : Nat) : ℚ) ≤ (0x40_0000_0000_0000 - 5 : Nat) :=
      Nat.cast_le.2 below
    refine le_trans (le_of_eq ?_) below
    push_cast
    norm_num
    ring
  · have exponent : number.binaryExponent - 2 ≤ -2 + (970 : Int) := by
      unfold binaryExponent
      omega
    have small := number.significand_lt
    calc ((4 * number.significand + 2 : Nat) : ℚ) * 2 ^ (number.binaryExponent - 2)
        ≤ (0x80_0000_0000_0000 : Nat) * 2 ^ (-2 + (970 : Int)) :=
          mul_le_mul (Nat.cast_le.2 (by omega)) (zpow_le_zpow_right₀ (by norm_num) exponent)
            (by positivity) (by positivity)
      _ ≤ (0x40_0000_0000_0000 - 5 : Nat) * 2 ^ (970 : Int) := by
        rw [zpow_add₀ (by norm_num), ← mul_assoc]
        exact mul_le_mul_of_nonneg_right (by norm_num) (by positivity)

end Decimal

namespace Json.Numeral

variable {number : Binary64}

/-- Positional notation is used below `1e16`, and scientific notation leaves one digit before
the point. -/
theorem whole_ofFinite_lt (style : Style) (nonzero : number.isZero = false) :
    digitsValue (ofFinite style number).whole < 10 ^ 16 := by
  have positive := Decimal.coefficient_shortest_pos style.tie nonzero
  have before := (Decimal.value_bounds positive).2
  have whole := (Decimal.writes_positional positive).whole_le
  obtain ⟨written, areDigits⟩ := digits_toDigits (Decimal.shortest style.tie number).coefficient
  rw [ofFinite, if_neg (by simp [nonzero])]
  extract_lets decimal digits leading
  have place : leading = decimal.exponent + Decimal.digitCount decimal.coefficient - 1 := rfl
  split
  · have short : (10 : ℚ) ^ (decimal.exponent + Decimal.digitCount decimal.coefficient) ≤
        10 ^ (16 : Int) :=
      zpow_le_zpow_right₀ (by norm_num) (by omega)
    have small : (digitsValue decimal.positional.1 : ℚ) < (10 ^ 16 : Nat) := by
      push_cast
      exact lt_of_le_of_lt whole (lt_of_lt_of_le before short)
    exact Nat.cast_lt.1 small
  · obtain ⟨first, rest, split⟩ := List.exists_cons_of_ne_nil written
    have single : digitsValue (digits.take 1) = digitValue first := by
      rw [show digits = first :: rest from split]
      simp [digitsValue]
    have := digitValue_lt (areDigits first (by simp [split]))
    show digitsValue (digits.take 1) < _
    omega

/-- An exponent that is written without a minus is that of a power of ten not above the
number. -/
theorem pow_exponent_ofFinite_le (style : Style) {exponent : Exponent}
    (given : exponent ∈ (ofFinite style number).exponent) :
    exponent.sign = .minus ∨
      number.isZero = false ∧
        (10 : ℚ) ^ (digitsValue exponent.digits : Int) ≤
          (Decimal.shortest style.tie number).value := by
  cases zero : number.isZero with
  | true => simp [ofFinite, zero] at given
  | false =>
    have positive := Decimal.coefficient_shortest_pos style.tie zero
    have reaches := (Decimal.value_bounds positive).1
    revert given
    rw [ofFinite, if_neg (by simp [zero])]
    extract_lets decimal digits leading
    split
    · simp
    · rintro ⟨⟩
      by_cases small : leading < 0
      · exact .inl (if_pos small)
      · refine .inr ⟨rfl, ?_⟩
        have place : ((leading.natAbs : Nat) : Int) =
            decimal.exponent + Decimal.digitCount decimal.coefficient - 1 := by
          have : leading = decimal.exponent + Decimal.digitCount decimal.coefficient - 1 := rfl
          omega
        rw [digitsValue_toDigits, place]
        exact reaches

/-- A numeral of a number is modest when the shortest decimal is within the margin. -/
theorem modest_ofFinite (style : Style)
    (within : number.isZero = false → (Decimal.shortest style.tie number).value ≤ margin) :
    (ofFinite style number).Modest where
  whole := by
    cases zero : number.isZero with
    | true =>
      rw [ofFinite, if_pos zero]
      exact (by decide : digitsValue ['0'] < 0x1_0000_0000_0000_0000)
    | false => exact lt_trans (whole_ofFinite_lt style zero) (by decide)
  exponent := by
    intro exponent given
    refine (pow_exponent_ofFinite_le style given).imp_right ?_
    rintro ⟨nonzero, reaches⟩
    have power := lt_of_le_of_lt (le_trans reaches (within nonzero)) margin_lt_zpow
    have := (zpow_lt_zpow_iff_right₀ (by norm_num : (1 : ℚ) < 10)).1 power
    omega
  within := by
    cases zero : number.isZero with
    | true =>
      rw [magnitude_of_isZero style zero]
      exact Nat.cast_nonneg margin
    | false => exact (shows_ofFinite style zero).magnitude.trans_le (within zero)

/-- The numerals of finite numbers are no integers. -/
theorem not_isInteger_ofFinite (style : Style) (number : Binary64) :
    (ofFinite style number).isInteger = false := by
  unfold ofFinite
  split
  · rfl
  · extract_lets decimal digits leading
    split
    · rfl
    · exact Bool.and_false _

/-- The two greatest magnitudes, which lie beyond the margin. -/
def greatest : List Binary64 :=
  [0x7FEF_FFFF_FFFF_FFFE, 0x7FEF_FFFF_FFFF_FFFF, 0xFFEF_FFFF_FFFF_FFFE, 0xFFEF_FFFF_FFFF_FFFF].map
    Binary64.mk

/-- A number with the last exponent and one of its last two fractions is among the greatest. -/
theorem mem_greatest (exponent : number.exponentField = 2046)
    (fraction : 0x10_0000_0000_0000 ≤ number.fractionField + 2) : number ∈ greatest := by
  have small := number.fractionField_lt
  have either : number.fractionField = 0xF_FFFF_FFFF_FFFE ∨
      number.fractionField = 0xF_FFFF_FFFF_FFFF := by omega
  have found : ∀ other ∈ greatest, number.isNegative = other.isNegative →
      number.fractionField = other.fractionField → number ∈ greatest := by
    intro other member signs fractions
    have exponents : ∀ other ∈ greatest, other.exponentField = 2046 := by decide
    rwa [eq_of_fields signs (exponent.trans (exponents other member).symm) fractions]
  cases sign : number.isNegative <;> rcases either with fraction | fraction
  · exact found ⟨0x7FEF_FFFF_FFFF_FFFE⟩ (by decide) sign fraction
  · exact found ⟨0x7FEF_FFFF_FFFF_FFFF⟩ (by decide) sign fraction
  · exact found ⟨0xFFEF_FFFF_FFFF_FFFE⟩ (by decide) sign fraction
  · exact found ⟨0xFFEF_FFFF_FFFF_FFFF⟩ (by decide) sign fraction

/-- The numerals of the two greatest magnitudes are read as numbers. -/
theorem isSome_binary64?_greatest :
    ∀ number ∈ greatest, (ofBinary64 number).binary64?.isSome = true := by
  decide +kernel

/-- The numeral of a finite number is read as a number. -/
theorem isSome_binary64?_ofBinary64 (finite : number.isFinite = true) :
    (ofBinary64 number).binary64?.isSome = true := by
  by_cases lower : number.exponentField = 2046 → number.fractionField + 2 < 0x10_0000_0000_0000
  · refine (modest_ofFinite _ fun nonzero => ?_).isSome_binary64?
    have small : number.exponentField < 2048 := Nat.mod_lt _ (by decide)
    have : number.exponentField ≠ 2047 := by simpa [isFinite] using finite
    exact Decimal.shortest_le_margin _ nonzero (by omega) lower
  · push Not at lower
    exact isSome_binary64?_greatest number (mem_greatest lower.1 lower.2)

end Json.Numeral

end QueryKit
