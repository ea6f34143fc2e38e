import QueryKit.Number.Positional

/-!
# Values

The scalars that conditions bind and that rows hold, with the views that callers
take of them. A view either converts the value or has no answer; none of them
fails.
-/

namespace QueryKit

/-- A scalar exchanged with the store. -/
inductive Value where
  | null
  | bool (value : Bool)
  | integer (value : Int64)
  | float (value : Binary64)
  | text (value : String)
  | bytes (value : List UInt8)
  deriving DecidableEq

/-- A row, as its columns and their values. Each column occurs once. -/
abbrev Record := List (String × Value)

namespace Value

/-- Whether the value is null. -/
def isNull : Value → Bool
  | .null => true
  | _ => false

/-- The integer view: floats lose their fraction and stop at the ends of the
range, booleans count as zero and one. -/
def asInteger? : Value → Option Int64
  | .integer value => some value
  | .float value => some value.toInt64
  | .bool value => some (if value then 1 else 0)
  | _ => none

/-- The floating-point view of the two kinds of number. -/
def asFloat? : Value → Option Binary64
  | .float value => some value
  | .integer value => some (Binary64.ofInt value.toInt)
  | _ => none

/-- The text of a text. -/
def asText? : Value → Option String
  | .text value => some value
  | _ => none

/-- The truth of booleans, and of integers by being other than zero. -/
def asBool? : Value → Option Bool
  | .bool value => some value
  | .integer value => some (value != 0)
  | _ => none

/-- The bytes of a blob. -/
def asBytes? : Value → Option (List UInt8)
  | .bytes value => some value
  | _ => none

/-- The storage class of the value. -/
def typeName : Value → String
  | .null => "NULL"
  | .bool _ => "BOOLEAN"
  | .integer _ => "INTEGER"
  | .float _ => "REAL"
  | .text _ => "TEXT"
  | .bytes _ => "BLOB"

/-- Equality of values of one kind; numbers in floats are compared numerically, so
the two zeros are equal and a NaN equals nothing. -/
def sameAs : Value → Value → Bool
  | .null, .null => true
  | .bool left, .bool right => left == right
  | .integer left, .integer right => left == right
  | .float left, .float right => left.numericEq right
  | .text left, .text right => left == right
  | .bytes left, .bytes right => left == right
  | _, _ => false

/-- A single quote. -/
def singleQuote : Char := '\x27'

/-- A text between single quotes, with the quotes inside it doubled. -/
def literal (text : String) : String :=
  String.ofList (singleQuote ::
    text.toList.flatMap (fun character =>
      if character = singleQuote then [singleQuote, singleQuote] else [character]) ++
    [singleQuote])

/-- The value as it is shown to people. -/
def display : Value → String
  | .null => "NULL"
  | .bool value => if value then "true" else "false"
  | .integer value => toString value.toInt
  | .float value => value.toText
  | .text value => literal value
  | .bytes value => "<" ++ toString value.length ++ " bytes>"

/-- An optional value, with null for an absent one. -/
def ofOption (value : Option Value) : Value := value.getD .null

end Value

end QueryKit
