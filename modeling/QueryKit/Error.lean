import QueryKit.Condition.Operator

/-!
# Errors

Everything that can go wrong, as causes. The wording of a cause is one function
of it, and so is the class that callers tell errors apart by.
-/

namespace QueryKit

/-- Why a condition or a statement has no SQL form. -/
inductive QueryError where
  /-- A predicate that only runs on fetched rows; the path leads to its clause. -/
  | customPredicate (label : String) (path : List Nat)
  /-- A field without any visible character. -/
  | emptyField
  /-- A range given to an operator without operand. -/
  | takesNoValue (operator : Operator) (field : String)
  /-- Anything but a range given to BETWEEN. -/
  | needsPair (field : String)
  /-- Anything but a single value given to an operator of one value. -/
  | needsOneValue (operator : Operator) (field : String)
  /-- A membership test in no values at all. -/
  | needsValues (negated : Bool) (field : String)
  /-- A text that spells no operator. -/
  | unknownOperator (text : String)
  /-- An update that sets no column. -/
  | updateWithoutColumns (table : String)
  /-- An update of a column without any visible character. -/
  | invalidUpdateColumn (column : String)
  deriving DecidableEq

/-- Why a configuration is refused. -/
inductive ConfigError where
  | emptyDefaultSpace
  | zeroCacheSize
  | zeroStatementSize
  deriving DecidableEq

/-- Why a file cannot be read or written. -/
inductive FileError where
  | notFound
  | isDirectory
  | invalidUtf8
  deriving DecidableEq

/-- Why a query gives no answer: it has no SQL form, or the store refused it with
a text of its own. -/
inductive ExecuteError where
  | compile (cause : QueryError)
  | backend (text : String)
  deriving DecidableEq

/-- Why a configuration cannot be loaded or saved. -/
inductive LoadError where
  | file (cause : FileError)
  | json
  | config (cause : ConfigError)
  deriving DecidableEq

/-- The positions of a path, separated by points. -/
def pathText (path : List Nat) : String := ".".intercalate (path.map fun index => toString index)

/-- The keyword of a membership test. -/
def memberKeyword (negated : Bool) : String := if negated then "NOT IN" else "IN"

namespace QueryError

/-- The classes of errors about queries. -/
inductive Kind where
  | unsupported
  | invalidArgument
  deriving DecidableEq

/-- The class of an error. -/
def kind : QueryError → Kind
  | .customPredicate _ _ => .unsupported
  | _ => .invalidArgument

/-- The wording of an error, without its class. -/
def detail : QueryError → String
  | .customPredicate label path =>
    "custom predicate '" ++ label ++ "' at clause " ++ pathText path ++
      " has no SQL form; filter the fetched rows instead"
  | .emptyField => "empty field name"
  | .takesNoValue operator field => operator.sql ++ " on '" ++ field ++ "' takes no value"
  | .needsPair field => "BETWEEN on '" ++ field ++ "' needs a (low, high) pair"
  | .needsOneValue operator field => operator.sql ++ " on '" ++ field ++ "' needs exactly one value"
  | .needsValues negated field =>
    memberKeyword negated ++ " on '" ++ field ++ "' needs at least one value"
  | .unknownOperator text => "unknown operator '" ++ text ++ "'"
  | .updateWithoutColumns table => "UPDATE on '" ++ table ++ "' needs at least one column"
  | .invalidUpdateColumn column => "invalid UPDATE column '" ++ column ++ "'"

/-- The wording of an error. -/
def message (error : QueryError) : String :=
  (match error.kind with
    | .unsupported => "Unsupported operation: "
    | .invalidArgument => "Invalid argument: ") ++ error.detail

end QueryError

namespace ConfigError

/-- The wording of an error. -/
def message : ConfigError → String
  | .emptyDefaultSpace => "Configuration error: default_space must not be empty"
  | .zeroCacheSize => "Configuration error: cache.max_size must be at least 1"
  | .zeroStatementSize => "Configuration error: statements.max_size must be at least 1"

end ConfigError

namespace FileError

/-- The wording of an error. -/
def message : FileError → String
  | .notFound => "IO error: No such file or directory (os error 2)"
  | .isDirectory => "IO error: Is a directory (os error 21)"
  | .invalidUtf8 => "IO error: stream did not contain valid UTF-8"

end FileError

end QueryKit
