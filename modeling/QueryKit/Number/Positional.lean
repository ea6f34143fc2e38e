import QueryKit.Number.Shortest

/-!
# Positional notation

Decimals written without an exponent, and the plain text of a binary64 number.
-/

namespace QueryKit

namespace Decimal

/-- The digits before and after the decimal point. The first list is never
empty; the second is empty for integers. -/
def positional (decimal : Decimal) : List Char × List Char :=
  let digits := Nat.toDigits 10 decimal.coefficient
  match decimal.exponent with
  | .ofNat zeros => (digits ++ List.replicate zeros '0', [])
  | .negSucc places =>
    let padded := List.replicate (places + 2 - digits.length) '0' ++ digits
    padded.splitAt (padded.length - (places + 1))

end Decimal

namespace Binary64

/-- The plain text of a number: the shortest digits that read back, always in
positional notation, integers without a point. -/
def toText (number : Binary64) : String :=
  if number.isNaN then "NaN"
  else
    let sign := if number.isNegative then "-" else ""
    if number.isInfinite then sign ++ "inf"
    else if number.isZero then sign ++ "0"
    else
      let (whole, fraction) := (Decimal.shortest .up number).positional
      sign ++ String.ofList (if fraction.isEmpty then whole else whole ++ '.' :: fraction)

end Binary64

end QueryKit
