import QueryKit.Json.Numeral

/-!
# JSON documents

The syntax tree of a JSON text. Objects keep their members in order and may
repeat names; what a repetition means is decided by whoever reads the tree.
-/

namespace QueryKit

/-- A JSON document. A string or member name without text (`none`) is one whose
escapes name an unpaired surrogate: such a literal is well formed, but only a
reader that ignores it accepts it. -/
inductive Json where
  | null
  | bool (value : Bool)
  | number (numeral : Json.Numeral)
  | string (text : Option String)
  | array (elements : List Json)
  | object (members : List (Option String × Json))

namespace Json

/-- The string of a text. -/
def text (content : String) : Json := .string (some content)

/-- The number of a natural number. -/
def nat (value : Nat) : Json := .number (Numeral.ofNat value)

/-- An object with the given members. -/
def record (members : List (String × Json)) : Json :=
  .object (members.map fun member => (some member.1, member.2))

/-- An optional document, with `null` for an absent one. -/
def ofOption (document : Option Json) : Json := document.getD .null

/-- The text of a string. -/
def text? : Json → Option String
  | .string content => content
  | _ => none

/-- The value of a boolean. -/
def bool? : Json → Option Bool
  | .bool value => some value
  | _ => none

/-- The value of an unsigned integer below `bound`. -/
def natural? (bound : Nat) : Json → Option Nat
  | .number numeral => numeral.natural? bound
  | _ => none

/-- The value of an unsigned 64-bit integer. -/
def word? (document : Json) : Option Nat := document.natural? 0x1_0000_0000_0000_0000

/-- The list of what the elements of an array decode to. -/
def list? {α : Type} (decode : Json → Option α) : Json → Option (List α)
  | .array elements => elements.mapM decode
  | _ => none

/-- `null` as an absent value, anything else as decoded. -/
def nullable? {α : Type} (decode : Json → Option α) : Json → Option (Option α)
  | .null => some none
  | document => (decode document).map some

end Json

end QueryKit
