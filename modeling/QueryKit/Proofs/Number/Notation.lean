import QueryKit.Proofs.Json.Literal
import QueryKit.Proofs.Number.Shortest

/-!
# Written numbers tell numbers apart

The numeral of a number has the shape of a JSON number in every style, so it can be read back
from its characters, and the value of its digits is that of the shortest decimal. With the sign
this leaves one number only.
-/

namespace QueryKit

namespace Json.Numeral

/-! ### Digits and their value -/

/-- Reading digits on from a number shifts it past them. -/
theorem foldl_digits (digits : List Char) (start : Nat) :
    digits.foldl (fun value digit => value * 10 + digitValue digit) start =
      start * 10 ^ digits.length + digitsValue digits := by
  induction digits generalizing start with
  | nil => simp [digitsValue]
  | cons digit rest ih =>
    rw [digitsValue, List.foldl_cons, List.foldl_cons, ih, ih (0 * 10 + digitValue digit),
      List.length_cons, pow_succ]
    ring

/-- Digits in front count for the places behind them. -/
theorem digitsValue_append (front back : List Char) :
    digitsValue (front ++ back) = digitsValue front * 10 ^ back.length + digitsValue back := by
  rw [digitsValue, List.foldl_append, foldl_digits]
  rfl

/-- Zeros alone have no value. -/
theorem digitsValue_zeros (count : Nat) : digitsValue (List.replicate count '0') = 0 := by
  induction count with
  | zero => rfl
  | succ count ih =>
    rw [List.replicate_succ', digitsValue_append, ih, Nat.zero_mul]
    rfl

/-- Zeros are digits. -/
theorem isDigit_of_mem_zeros {count : Nat} {character : Char}
    (member : character ∈ List.replicate count '0') : character.isDigit = true := by
  rw [List.eq_of_mem_replicate member]
  rfl

end Json.Numeral

namespace Decimal

open Json Json.Numeral

/-- Digits before and after a point write a decimal. -/
structure Writes (decimal : Decimal) (whole fraction : List Char) : Prop where
  wholeDigits : Digits whole
  noLeadingZero : whole.head? = some '0' → whole = ['0']
  fractionDigits : ∀ digit ∈ fraction, digit.isDigit = true
  value : (digitsValue (whole ++ fraction) : ℚ) = decimal.value * 10 ^ fraction.length

/-- An integer is written by its digits with zeros behind. -/
theorem writes_zeros {coefficient : Nat} (positive : 0 < coefficient) (zeros : Nat) :
    Writes ⟨coefficient, .ofNat zeros⟩ (Nat.toDigits 10 coefficient ++ List.replicate zeros '0')
      [] where
  wholeDigits := by
    obtain ⟨written, digits⟩ := digits_toDigits coefficient
    refine ⟨List.append_ne_nil_of_left_ne_nil written _, fun digit member => ?_⟩
    rcases List.mem_append.1 member with inDigits | inZeros
    · exact digits digit inDigits
    · exact isDigit_of_mem_zeros inZeros
  noLeadingZero := by
    intro leading
    rw [List.head?_append_of_ne_nil _ Nat.toDigits_ne_nil] at leading
    have := head?_toDigits leading
    omega
  fractionDigits := by simp
  value := by
    rw [List.append_nil, digitsValue_append, digitsValue_zeros, digitsValue_toDigits]
    simp [Decimal.value]

/-- Other decimals have their last digits behind the point, after zeros that fill up the
places and leave one digit before it. -/
theorem writes_places {coefficient : Nat} (positive : 0 < coefficient) (places : Nat)
    {padded : List Char}
    (shape : padded = List.replicate (places + 2 - (Nat.toDigits 10 coefficient).length) '0' ++
      Nat.toDigits 10 coefficient) :
    Writes ⟨coefficient, .negSucc places⟩ (padded.take (padded.length - (places + 1)))
      (padded.drop (padded.length - (places + 1))) := by
  have long : places + 2 ≤ padded.length := by
    rw [shape, List.length_append, List.length_replicate]
    omega
  have digits : ∀ digit ∈ padded, digit.isDigit = true := by
    intro digit member
    rw [shape] at member
    rcases List.mem_append.1 member with inZeros | inDigits
    · exact isDigit_of_mem_zeros inZeros
    · exact (digits_toDigits coefficient).2 digit inDigits
  have front :
      (padded.take (padded.length - (places + 1))).length = padded.length - (places + 1) := by
    rw [List.length_take]
    omega
  have back : (padded.drop (padded.length - (places + 1))).length = places + 1 := by
    rw [List.length_drop]
    omega
  constructor
  · refine ⟨List.ne_nil_of_length_pos (by omega), fun digit member => ?_⟩
    exact digits digit (List.mem_of_mem_take member)
  · intro leading
    rw [List.head?_take, if_neg (by omega)] at leading
    by_cases filled : places + 2 ≤ (Nat.toDigits 10 coefficient).length
    · -- Nothing is filled in, and the digits do not start with zero.
      rw [shape, Nat.sub_eq_zero_of_le filled, List.replicate_zero, List.nil_append] at leading
      have := head?_toDigits leading
      omega
    · -- One digit stands before the point.
      have single : padded.length - (places + 1) = 1 := by
        rw [shape, List.length_append, List.length_replicate]
        omega
      obtain ⟨first, rest, split⟩ :=
        List.exists_cons_of_ne_nil (List.ne_nil_of_length_pos (by omega : 0 < padded.length))
      rw [split] at leading
      rw [single, split]
      simpa using leading
  · exact fun digit member => digits digit (List.mem_of_mem_drop member)
  · rw [List.take_append_drop, back, shape, digitsValue_append, digitsValue_zeros,
      digitsValue_toDigits, Decimal.value]
    simp [zpow_negSucc]

/-- A positive decimal is written by its positional notation. -/
theorem writes_positional {decimal : Decimal} (positive : 0 < decimal.coefficient) :
    decimal.Writes decimal.positional.1 decimal.positional.2 := by
  obtain ⟨coefficient, exponent⟩ := decimal
  cases exponent with
  | ofNat zeros => exact writes_zeros positive zeros
  | negSucc places =>
    simp only [positional, List.splitAt_eq]
    exact writes_places positive places rfl

/-- A zero place may be added where there is none. -/
theorem Writes.place {decimal : Decimal} {whole fraction : List Char}
    (writes : decimal.Writes whole fraction) :
    decimal.Writes whole (if fraction.isEmpty then ['0'] else fraction) := by
  cases fraction with
  | cons first rest => exact writes
  | nil =>
    refine ⟨writes.wholeDigits, writes.noLeadingZero, by simp [Char.isDigit], ?_⟩
    have value := writes.value
    simp only [List.append_nil, List.length_nil, pow_zero, mul_one] at value
    have shifted : digitsValue (whole ++ ['0']) = digitsValue whole * 10 := by
      rw [digitsValue_append]
      rfl
    simp [shifted, value]

/-- With the zero place there is always a digit behind the point. -/
theorem place_ne_nil (fraction : List Char) :
    (if fraction.isEmpty then ['0'] else fraction) ≠ [] := by
  cases fraction <;> simp

end Decimal

namespace Json

/-- The exponent that is written. -/
def Exponent.value (exponent : Exponent) : Int :=
  if exponent.sign = .minus then -(Numeral.digitsValue exponent.digits : Int)
  else Numeral.digitsValue exponent.digits

namespace Numeral

/-- The magnitude that is written. -/
def magnitude (numeral : Numeral) : ℚ :=
  digitsValue (numeral.whole ++ numeral.fraction.getD []) *
    10 ^ ((numeral.exponent.map Exponent.value).getD 0 - (numeral.fraction.getD []).length)

/-- A numeral has the shape of a JSON number and the magnitude of a decimal. -/
structure Shows (numeral : Numeral) (decimal : Decimal) : Prop where
  lawful : numeral.Lawful
  magnitude : numeral.magnitude = decimal.value

/-- Positional notation shows the decimal that it writes. -/
theorem shows_positional {decimal : Decimal} {whole fraction : List Char} (negative : Bool)
    (writes : decimal.Writes whole fraction) (placed : fraction ≠ []) :
    Shows ⟨negative, whole, some fraction, none⟩ decimal where
  lawful := by
    refine ⟨writes.wholeDigits, writes.noLeadingZero, ?_, by simp⟩
    rintro _ ⟨⟩
    exact ⟨placed, writes.fractionDigits⟩
  magnitude := by
    simp only [Numeral.magnitude, Option.getD_some, Option.map_none, Option.getD_none, writes.value,
      zero_sub, zpow_neg, zpow_natCast]
    exact mul_inv_cancel_right₀ (by positivity) _

/-- Scientific notation puts the point behind the first digit and says in the exponent by how
many places it is off. -/
theorem shows_scientific {decimal : Decimal} (negative signed : Bool) {digits : List Char}
    {leading : Int} (written : digits = Nat.toDigits 10 decimal.coefficient)
    (places : leading = decimal.exponent + digits.length - 1) :
    Shows ⟨negative, digits.take 1, if digits.length = 1 then none else some (digits.drop 1),
      some ⟨if leading < 0 then .minus else if signed then .plus else .absent,
        Nat.toDigits 10 leading.natAbs⟩⟩ decimal where
  lawful := by
    obtain ⟨nonempty, areDigits⟩ := written ▸ digits_toDigits decimal.coefficient
    obtain ⟨first, rest, rfl⟩ := List.exists_cons_of_ne_nil nonempty
    refine ⟨⟨by simp, by simpa using areDigits first (by simp)⟩, by simp, ?_, ?_⟩
    · intro fraction isFraction
      cases rest with
      | nil => cases isFraction
      | cons second others =>
        obtain rfl : second :: others = fraction := by simpa using isFraction
        exact ⟨by simp, fun digit member => areDigits digit (List.mem_cons_of_mem first member)⟩
    · rintro _ ⟨⟩
      exact digits_toDigits _
  magnitude := by
    have count : 0 < digits.length := written ▸ List.length_pos_iff.2 Nat.toDigits_ne_nil
    have behind : (if digits.length = 1 then none else some (digits.drop 1)).getD [] =
        digits.drop 1 := by
      split
      · next single => exact (List.drop_eq_nil_of_le single.le).symm
      · rfl
    have exponent : Exponent.value
        ⟨if leading < 0 then .minus else if signed then .plus else .absent,
          Nat.toDigits 10 leading.natAbs⟩ = leading := by
      simp only [Exponent.value, digitsValue_toDigits]
      split_ifs <;> first | omega | simp_all
    simp only [Numeral.magnitude, behind, List.take_append_drop, Option.map_some, Option.getD_some,
      exponent, List.length_drop]
    rw [written, digitsValue_toDigits, ← written, Decimal.value,
      show leading - ((digits.length - 1 : Nat) : Int) = decimal.exponent by omega]

variable {style : Style} {number : Binary64}

/-- The numeral of a number shows its shortest decimal. -/
theorem shows_ofFinite (style : Style) (nonzero : number.isZero = false) :
    (ofFinite style number).Shows (Decimal.shortest style.tie number) := by
  have positive := Decimal.coefficient_shortest_pos style.tie nonzero
  rw [ofFinite, if_neg (by simp [nonzero])]
  extract_lets decimal digits leading
  split
  · refine shows_positional number.isNegative (Decimal.writes_positional positive).place ?_
    exact Decimal.place_ne_nil _
  · exact shows_scientific number.isNegative style.signed rfl rfl

/-- Numerals of numbers have the shape of JSON numbers. -/
theorem lawful_ofFinite (style : Style) (number : Binary64) : (ofFinite style number).Lawful := by
  cases zero : number.isZero with
  | true =>
    rw [ofFinite, if_pos zero]
    constructor <;> simp [Digits, Char.isDigit]
  | false => exact (shows_ofFinite style zero).lawful

/-- The numeral of a number has its sign, also that of a negative zero. -/
theorem negative_ofFinite (style : Style) (number : Binary64) :
    (ofFinite style number).negative = number.isNegative := by
  unfold ofFinite
  split
  · rfl
  · extract_lets decimal digits leading
    split <;> rfl

/-- The numeral of a zero has magnitude zero. -/
theorem magnitude_of_isZero (style : Style) (zero : number.isZero = true) :
    (ofFinite style number).magnitude = 0 := by
  rw [ofFinite, if_pos zero]
  simp [magnitude, digitsValue, digitValue]

/-- The numeral of a number other than zero has a magnitude other than zero. -/
theorem magnitude_ne_zero (style : Style) (nonzero : number.isZero = false) :
    (ofFinite style number).magnitude ≠ 0 := by
  have positive := Decimal.coefficient_shortest_pos style.tie nonzero
  rw [(shows_ofFinite style nonzero).magnitude, Decimal.value]
  positivity

/-- In every style, a numeral is that of one number only. -/
theorem ofFinite_injective (style : Style) : Function.Injective (ofFinite style) := by
  intro left right same
  have signs : left.isNegative = right.isNegative := by
    rw [← negative_ofFinite style left, same, negative_ofFinite]
  have magnitudes : (ofFinite style left).magnitude = (ofFinite style right).magnitude := by
    rw [same]
  cases zero : left.isZero with
  | true =>
    cases zeroToo : right.isZero with
    | true => exact Binary64.eq_of_isZero signs zero zeroToo
    | false =>
      rw [magnitude_of_isZero style zero] at magnitudes
      exact absurd magnitudes.symm (magnitude_ne_zero style zeroToo)
  | false =>
    cases zeroToo : right.isZero with
    | true =>
      rw [magnitude_of_isZero style zeroToo] at magnitudes
      exact absurd magnitudes (magnitude_ne_zero style zero)
    | false =>
      rw [(shows_ofFinite style zero).magnitude, (shows_ofFinite style zeroToo).magnitude]
        at magnitudes
      exact Decimal.eq_of_shortest zero zeroToo signs magnitudes

/-- A numeral can be told from its characters. -/
theorem chars_injective {left right : Numeral} (lawful : left.Lawful) (lawfulToo : right.Lawful)
    (same : left.chars = right.chars) : left = right := by
  have ends : EndsNumber [] := by simp [EndsNumber]
  have read := readNumeral_chars lawful ends
  rw [same, readNumeral_chars lawfulToo ends, Option.some.injEq, Prod.mk.injEq] at read
  exact read.1.symm

/-- Numerals are made of digits, a point, an exponent letter and signs. -/
theorem mem_chars {numeral : Numeral} (lawful : numeral.Lawful) {character : Char}
    (member : character ∈ numeral.chars) :
    character.isDigit = true ∨ character ∈ ['-', '+', '.', 'e'] := by
  rw [chars_eq, List.mem_append, List.mem_append, List.mem_append] at member
  rcases member with isSign | inWhole | inFraction | inExponent
  · cases numeral.negative <;> simp_all
  · exact .inl (lawful.whole.2 character inWhole)
  · cases fraction : numeral.fraction with
    | none => simp [fraction, fractionChars] at inFraction
    | some digits =>
      rw [fraction, fractionChars, List.mem_cons] at inFraction
      rcases inFraction with rfl | inDigits
      · simp
      · exact .inl ((lawful.fraction digits fraction).2 character inDigits)
  · cases exponent : numeral.exponent with
    | none => simp [exponent, exponentText] at inExponent
    | some given =>
      have digits := (lawful.exponent given exponent).2 character
      rw [exponent, exponentText, List.mem_cons] at inExponent
      rcases inExponent with rfl | inSigned
      · simp
      · cases sign : given.sign <;> simp [sign, signedDigits] at inSigned
        · exact .inl (digits inSigned)
        · rcases inSigned with rfl | inDigits
          · simp
          · exact .inl (digits inDigits)
        · rcases inSigned with rfl | inDigits
          · simp
          · exact .inl (digits inDigits)

end Numeral

end Json

end QueryKit
