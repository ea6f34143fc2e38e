import QueryKit.Error

/-!
# Conditions

A condition is an ordered list of clauses. Connectives stand between the
predicates they join, and two predicates without a connective between them are
joined by AND. A group is the only way to say which predicates belong together.
-/

namespace QueryKit

/-- The operator that a text spells. -/
def Operator.parse (text : String) : Except QueryError Operator :=
  match Operator.ofText? text with
  | some operator => .ok operator
  | none => .error (.unknownOperator text)

/-- How two neighbouring predicates are joined. -/
inductive Connective where
  | and
  | or
  deriving DecidableEq

/-- A test that runs on fetched rows, known by its label. -/
structure RowPredicate where
  label : String
  holds : Record → Bool

/-- One clause of a condition. -/
inductive Clause where
  /-- A comparison of a field. -/
  | compare (field : String) (operator : Operator) (operand : Operand)
  /-- Membership of a field in a list of values. -/
  | member (field : String) (values : List Value) (negated : Bool)
  /-- A test without SQL form. -/
  | custom (predicate : RowPredicate)
  /-- A connective for the predicates around it. -/
  | connective (connective : Connective)
  /-- A condition of its own, evaluated as a unit. -/
  | group (clauses : List Clause)

/-- A list of clauses. -/
abbrev Condition := List Clause

namespace Clause

/-- Whether the clause is a connective. -/
def isConnective : Clause → Bool
  | .connective _ => true
  | _ => false

/-- A comparison with one value; operators without operand drop the value. -/
def comparing (field : String) (operator : Operator) (value : Value) : Clause :=
  .compare field operator (if operator.isUnary then .none else .value value)

/-- A comparison with one value by the operator that a text spells. -/
def comparingAs (field : String) (operator : String) (value : Value) : Except QueryError Clause :=
  (Operator.parse operator).map fun operator => comparing field operator value

/-- The field lies between two values. -/
def between (field : String) (low high : Value) : Clause :=
  .compare field .between (.range low high)

/-- The field is null. -/
def isNull (field : String) : Clause := .compare field .isNull .none

/-- The field is not null. -/
def isNotNull (field : String) : Clause := .compare field .isNotNull .none

end Clause

namespace Condition

mutual

/-- The tests without SQL form in a clause. -/
def customOfClause : Clause → List RowPredicate
  | .custom predicate => [predicate]
  | .group clauses => customPredicates clauses
  | _ => []

/-- The tests without SQL form at any depth, in order. -/
def customPredicates : Condition → List RowPredicate
  | [] => []
  | clause :: rest => customOfClause clause ++ customPredicates rest

end

end Condition

end QueryKit
