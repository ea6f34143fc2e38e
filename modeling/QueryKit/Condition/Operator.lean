import QueryKit.Text.Blank
import QueryKit.Value

/-!
# Comparison operators

The operators of a comparison, their spellings in statements and the spellings
that callers may use for them.
-/

namespace QueryKit

/-- A comparison between a field and its operand. -/
inductive Operator where
  | equal
  | notEqual
  | greater
  | greaterOrEqual
  | less
  | lessOrEqual
  | like
  | notLike
  | isNull
  | isNotNull
  | between
  deriving DecidableEq

namespace Operator

/-- The spelling in a statement. -/
def sql : Operator → String
  | .equal => "="
  | .notEqual => "!="
  | .greater => ">"
  | .greaterOrEqual => ">="
  | .less => "<"
  | .lessOrEqual => "<="
  | .like => "LIKE"
  | .notLike => "NOT LIKE"
  | .isNull => "IS NULL"
  | .isNotNull => "IS NOT NULL"
  | .between => "BETWEEN"

/-- Whether the operator takes no operand. -/
def isUnary : Operator → Bool
  | .isNull => true
  | .isNotNull => true
  | _ => false

/-- The accepted spellings, in upper case with single spaces. -/
def spellings : List (String × Operator) :=
  [("=", .equal), ("==", .equal), ("!=", .notEqual), ("<>", .notEqual), (">", .greater),
    (">=", .greaterOrEqual), ("<", .less), ("<=", .lessOrEqual), ("LIKE", .like),
    ("NOT LIKE", .notLike), ("IS NULL", .isNull), ("IS NOT NULL", .isNotNull),
    ("BETWEEN", .between)]

/-- The operator that a text spells, in any ASCII case and with any blanks around
its words. -/
def ofText? (text : String) : Option Operator :=
  spellings.lookup (String.ofList ((Text.squeezeBlanks text.toList).map Char.toUpper))

end Operator

/-- What a comparison compares its field with. -/
inductive Operand where
  | none
  | value (value : Value)
  | range (low high : Value)
  deriving DecidableEq

end QueryKit
