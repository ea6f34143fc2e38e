import QueryKit.Condition.Basic

/-!
# Compiling conditions

A condition compiles to SQL text with one placeholder per bound value, and to
the bound values in the order of their placeholders. A connective is written
only between two written predicates: of several in a row the last one counts,
and one that leads, trails or stands next to an empty group is dropped unless
predicates follow on both sides. The first clause without SQL form decides the
error.
-/

namespace QueryKit

/-- SQL text with placeholders, the bound values, and the number of placeholders
written. -/
structure Fragment where
  sql : String
  arguments : List Value
  placeholders : Nat
  deriving DecidableEq

namespace Fragment

/-- The fragment that writes nothing. -/
def empty : Fragment := ⟨"", [], 0⟩

/-- A fragment of text alone. -/
def text (sql : String) : Fragment := ⟨sql, [], 0⟩

/-- A placeholder with its value. -/
def bound (value : Value) : Fragment := ⟨"?", [value], 1⟩

/-- One fragment after the other. -/
def append (left right : Fragment) : Fragment :=
  ⟨left.sql ++ right.sql, left.arguments ++ right.arguments,
    left.placeholders + right.placeholders⟩

instance : Append Fragment := ⟨append⟩

@[simp] theorem append_sql (left right : Fragment) :
    (left ++ right).sql = left.sql ++ right.sql := rfl

@[simp] theorem append_arguments (left right : Fragment) :
    (left ++ right).arguments = left.arguments ++ right.arguments := rfl

@[simp] theorem append_placeholders (left right : Fragment) :
    (left ++ right).placeholders = left.placeholders + right.placeholders := rfl

/-- Two fragments are one if they agree in text, values and placeholders. -/
@[ext] theorem ext {left right : Fragment} (sql : left.sql = right.sql)
    (arguments : left.arguments = right.arguments)
    (placeholders : left.placeholders = right.placeholders) : left = right := by
  cases left
  cases right
  simp_all

/-- Placeholders for a list of values, separated by commas. -/
def boundList : List Value → Fragment
  | [] => empty
  | [value] => bound value
  | value :: rest => bound value ++ text ", " ++ boundList rest

/-- Whether nothing is written. -/
def isEmpty (fragment : Fragment) : Bool := fragment.sql.isEmpty

end Fragment

namespace Connective

/-- The connective between two predicates. -/
def sql : Connective → String
  | .and => " AND "
  | .or => " OR "

end Connective

namespace Condition

/-- The fragment of a comparison. The field is checked first, then the fit of the
operand to the operator. -/
def compareFragment (field : String) (operator : Operator) (operand : Operand) :
    Except QueryError Fragment :=
  if Text.isBlankText field then .error .emptyField
  else
    match operator, operand with
    | .isNull, .range _ _ => .error (.takesNoValue .isNull field)
    | .isNotNull, .range _ _ => .error (.takesNoValue .isNotNull field)
    | .isNull, _ => .ok (.text (field ++ " " ++ Operator.isNull.sql))
    | .isNotNull, _ => .ok (.text (field ++ " " ++ Operator.isNotNull.sql))
    | .between, .range low high =>
      .ok (.text (field ++ " BETWEEN ") ++ .bound low ++ .text " AND " ++ .bound high)
    | .between, _ => .error (.needsPair field)
    | operator, .value value => .ok (.text (field ++ " " ++ operator.sql ++ " ") ++ .bound value)
    | operator, _ => .error (.needsOneValue operator field)

/-- The fragment of a membership test. -/
def memberFragment (field : String) (values : List Value) (negated : Bool) :
    Except QueryError Fragment :=
  if Text.isBlankText field then .error .emptyField
  else if values.isEmpty then .error (.needsValues negated field)
  else
    .ok (.text (field ++ " " ++ memberKeyword negated ++ " (") ++ .boundList values ++ .text ")")

/-- The written predicates, each but the first after the connective it carries. -/
def joinWritten : List (Connective × Fragment) → Fragment
  | [] => .empty
  | [(_, fragment)] => fragment
  | (_, fragment) :: (connective, next) :: rest =>
    fragment ++ .text connective.sql ++ joinWritten ((connective, next) :: rest)

mutual

/-- The fragment of the clause at a path; connectives and groups without
predicate have none. -/
def compileClause (path : List Nat) : Clause → Except QueryError (Option Fragment)
  | .compare field operator operand => (compareFragment field operator operand).map some
  | .member field values negated => (memberFragment field values negated).map some
  | .custom predicate => .error (.customPredicate predicate.label path)
  | .connective _ => .ok none
  | .group clauses =>
    match compileClauses path 0 none clauses with
    | .error error => .error error
    | .ok [] => .ok none
    | .ok written => .ok (some (.text "(" ++ joinWritten written ++ .text ")"))

/-- The predicates that a list of clauses writes, each with the connective before
it: the last one since the predicate before, or AND. The clauses start at a
position below a path, after the connective `pending`. -/
def compileClauses (path : List Nat) (position : Nat) (pending : Option Connective) :
    List Clause → Except QueryError (List (Connective × Fragment))
  | [] => .ok []
  | .connective connective :: rest => compileClauses path (position + 1) (some connective) rest
  | clause :: rest =>
    match compileClause (path ++ [position]) clause with
    | .error error => .error error
    | .ok none => compileClauses path (position + 1) pending rest
    | .ok (some fragment) =>
      match compileClauses path (position + 1) none rest with
      | .error error => .error error
      | .ok written => .ok ((pending.getD .and, fragment) :: written)

end

/-- The SQL text and the bound values of a condition. -/
def compile (condition : Condition) : Except QueryError Fragment :=
  (compileClauses [] 0 none condition).map joinWritten

/-- The SQL text of a condition. -/
def toSql (condition : Condition) : Except QueryError String :=
  condition.compile.map Fragment.sql

/-- The bound values of a condition. -/
def arguments (condition : Condition) : Except QueryError (List Value) :=
  condition.compile.map Fragment.arguments

end Condition

end QueryKit
