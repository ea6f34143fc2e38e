import QueryKit.Json.Numeral
import QueryKit.Text.Quoted
import QueryKit.Value

/-!
# Values in keys

Values as they stand in the key of a cached result: marked with their kind, texts between
quotes, numbers in decimal.
-/

namespace QueryKit

/-- The text of a number in a key: the shortest digits that read back, in positional notation
from `1e-4` up to `1e16`. All NaNs are written alike, the two zeros are not. -/
def Binary64.keyText (number : Binary64) : String :=
  if number.isNaN then "NaN"
  else if number.isInfinite then if number.isNegative then "-inf" else "inf"
  else String.ofList (Json.Numeral.ofFinite ⟨.up, -4, false⟩ number).chars

/-- The text of a value in a key. -/
def Value.keyText : Value → String
  | .null => "Null"
  | .bool value => if value then "Bool(true)" else "Bool(false)"
  | .integer value => "Integer(" ++ toString value.toInt ++ ")"
  | .float value => "Float(" ++ value.keyText ++ ")"
  | .text value => "Text(" ++ Text.quote value ++ ")"
  | .bytes value =>
    "Bytes([" ++ ", ".intercalate (value.map fun byte => toString byte.toNat) ++ "])"

end QueryKit
