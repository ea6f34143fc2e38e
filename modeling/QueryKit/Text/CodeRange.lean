/-!
# Ranges of code points

Character properties are tables of inclusive code-point ranges in ascending
order.
-/

namespace QueryKit.Text

/-- Whether a character lies in one of the given inclusive ranges. -/
def inRanges (ranges : List (Nat × Nat)) (character : Char) : Bool :=
  ranges.any fun range => range.1 ≤ character.toNat && character.toNat ≤ range.2

end QueryKit.Text
