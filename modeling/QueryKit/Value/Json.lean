import QueryKit.Json.Reader
import QueryKit.Json.Writer
import QueryKit.Value

/-!
# Values and rows in JSON

Values are written without a tag and told apart by their form: integers in range
are integers, every other number is a float, and an array of small unsigned
integers is a blob. A float that is not finite is written as null.
-/

namespace QueryKit

namespace Value

/-- The document of a value. -/
def toJson : Value → Json
  | .null => .null
  | .bool value => .bool value
  | .integer value => .number (Json.Numeral.ofInt value.toInt)
  | .float value => if value.isFinite then .number (Json.Numeral.ofBinary64 value) else .null
  | .text value => Json.text value
  | .bytes value => .array (value.map fun byte => Json.nat byte.toNat)

/-- The byte of a document. -/
def byte? (document : Json) : Option UInt8 := (document.natural? 256).map UInt8.ofNat

/-- The value of a document. -/
def ofJson? : Json → Option Value
  | .null => some .null
  | .bool value => some (.bool value)
  | .number numeral =>
    match numeral.integer? with
    | some value => some (.integer value)
    | none => numeral.binary64?.map .float
  | .string content => content.map .text
  | .array elements => (elements.mapM byte?).map .bytes
  | .object _ => none

/-- The JSON text of a value. -/
def json (value : Value) : String := value.toJson.compact

end Value

namespace Record

/-- The row with a column set, whose other columns keep their places. -/
def set (record : Record) (column : String) (value : Value) : Record :=
  if record.any fun entry => entry.1 == column then
    record.map fun entry => if entry.1 == column then (column, value) else entry
  else record ++ [(column, value)]

/-- The row of an object; the last of several members with one name counts. -/
def ofMembers? (record : Record) : List (Option String × Json) → Option Record
  | [] => some record
  | (none, _) :: _ => none
  | (some column, document) :: rest =>
    match Value.ofJson? document with
    | some value => ofMembers? (record.set column value) rest
    | none => none

/-- The row of a document. -/
def ofJson? : Json → Option Record
  | .object members => ofMembers? [] members
  | _ => none

/-- The columns of a row in ascending order. -/
def sorted (record : Record) : Record :=
  record.mergeSort fun left right => left.1 ≤ right.1

/-- The document of a row, columns in ascending order. -/
def toJson (record : Record) : Json :=
  Json.record (record.sorted.map fun entry => (entry.1, entry.2.toJson))

end Record

end QueryKit
