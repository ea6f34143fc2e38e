import QueryKit.Condition.Compile

/-!
# Sentences

A sentence is what a condition says once the connectives that join nothing and
the groups that hold nothing are gone: predicates with one connective between
neighbours. This module reads a sentence off the clauses of a condition, prints
sentences, and shows that compiling writes the sentence of the condition.

Sentences are generic in what stands for a value, so that one printer serves the
statement with placeholders, the statement with its values in place, and the
shape that is left when values are forgotten.
-/

namespace QueryKit

/-- Whether the operator compares a field with one value. -/
def Operator.takesOneValue : Operator → Bool
  | .isNull => false
  | .isNotNull => false
  | .between => false
  | _ => true

/-- An operator that compares a field with one value. -/
structure Comparison where
  operator : Operator
  takesOneValue : operator.takesOneValue = true
  deriving DecidableEq

/-- What a predicate says about its field. -/
inductive Test (α : Type) where
  | compare (comparison : Comparison) (value : α)
  | null (negated : Bool)
  | between (low high : α)
  | member (negated : Bool) (first : α) (rest : List α)
  deriving DecidableEq

mutual

/-- A test of a field, or a sentence in parentheses. -/
inductive Predicate (α : Type) where
  | test (field : String) (test : Test α)
  | group (sentence : Sentence α)

/-- Predicates with a connective between neighbours. -/
inductive Sentence (α : Type) where
  | single (predicate : Predicate α)
  | joined (predicate : Predicate α) (connective : Connective) (rest : Sentence α)

end

variable {α β : Type}

namespace Test

/-- The values of the test, in order. -/
def values : Test α → List α
  | .compare _ value => [value]
  | .null _ => []
  | .between low high => [low, high]
  | .member _ first rest => first :: rest

/-- The test with other values. -/
def map (convert : α → β) : Test α → Test β
  | .compare comparison value => .compare comparison (convert value)
  | .null negated => .null negated
  | .between low high => .between (convert low) (convert high)
  | .member negated first rest => .member negated (convert first) (rest.map convert)

/-- Printed values, separated by commas. -/
def listText (print : α → String) : α → List α → String
  | last, [] => print last
  | first, second :: rest => print first ++ ", " ++ listText print second rest

/-- The text of the test, behind the field and a blank. -/
def text (print : α → String) : Test α → String
  | .compare comparison value => comparison.operator.sql ++ " " ++ print value
  | .null negated => if negated then "IS NOT NULL" else "IS NULL"
  | .between low high => "BETWEEN " ++ print low ++ " AND " ++ print high
  | .member negated first rest =>
    memberKeyword negated ++ " (" ++ listText print first rest ++ ")"

end Test

mutual

/-- The values of a predicate, from left to right. -/
def Predicate.values : Predicate α → List α
  | .test _ test => test.values
  | .group sentence => sentence.values

/-- The values of a sentence, from left to right. -/
def Sentence.values : Sentence α → List α
  | .single predicate => predicate.values
  | .joined predicate _ rest => predicate.values ++ rest.values

end

mutual

/-- The fields of a predicate, from left to right. -/
def Predicate.fields : Predicate α → List String
  | .test field _ => [field]
  | .group sentence => sentence.fields

/-- The fields of a sentence, from left to right. -/
def Sentence.fields : Sentence α → List String
  | .single predicate => predicate.fields
  | .joined predicate _ rest => predicate.fields ++ rest.fields

end

mutual

/-- The predicate with other values. -/
def Predicate.map (convert : α → β) : Predicate α → Predicate β
  | .test field test => .test field (test.map convert)
  | .group sentence => .group (sentence.map convert)

/-- The sentence with other values. -/
def Sentence.map (convert : α → β) : Sentence α → Sentence β
  | .single predicate => .single (predicate.map convert)
  | .joined predicate connective rest =>
    .joined (predicate.map convert) connective (rest.map convert)

end

mutual

/-- The text of a predicate with each value printed in its place. -/
def Predicate.text (print : α → String) : Predicate α → String
  | .test field test => field ++ " " ++ test.text print
  | .group sentence => "(" ++ sentence.text print ++ ")"

/-- The text of a sentence with each value printed in its place. -/
def Sentence.text (print : α → String) : Sentence α → String
  | .single predicate => predicate.text print
  | .joined predicate connective rest =>
    predicate.text print ++ connective.sql ++ rest.text print

end

/-- Every predicate has its own characters beside those of its field and its values. -/
theorem Predicate.text_ne_empty (print : α → String) (predicate : Predicate α) :
    predicate.text print ≠ "" := by
  cases predicate <;> simp [Predicate.text]

/-- A sentence is printed as some text. -/
theorem Sentence.text_ne_empty (print : α → String) (sentence : Sentence α) :
    sentence.text print ≠ "" := by
  cases sentence with
  | single predicate => exact predicate.text_ne_empty print
  | joined predicate connective rest => simp [Sentence.text, predicate.text_ne_empty]

section Map

variable (convert : α → β) (print : β → String)

/-- Printing converted values is converting them as they are printed. -/
theorem Test.listText_map (first : α) (rest : List α) :
    listText print (convert first) (rest.map convert) = listText (print ∘ convert) first rest := by
  induction rest generalizing first with
  | nil => rfl
  | cons second rest ih => rw [List.map_cons, listText, listText, ih, Function.comp_apply]

/-- A test of converted values is printed as the test whose values are converted. -/
theorem Test.text_map (test : Test α) :
    (test.map convert).text print = test.text (print ∘ convert) := by
  cases test with
  | member negated first rest => rw [map, text, text, Test.listText_map]
  | compare | null | between => rfl

mutual

/-- A predicate with other values prints them in the same places. -/
theorem Predicate.text_map (predicate : Predicate α) :
    (predicate.map convert).text print = predicate.text (print ∘ convert) := by
  match predicate with
  | .test field test => rw [Predicate.map, Predicate.text, Predicate.text, Test.text_map]
  | .group sentence => rw [Predicate.map, Predicate.text, Predicate.text, Sentence.text_map]

/-- A sentence with other values prints them in the same places. -/
theorem Sentence.text_map (sentence : Sentence α) :
    (sentence.map convert).text print = sentence.text (print ∘ convert) := by
  match sentence with
  | .single predicate => exact Predicate.text_map predicate
  | .joined predicate connective rest =>
    rw [Sentence.map, Sentence.text, Sentence.text, Predicate.text_map, Sentence.text_map]

end

mutual

/-- A predicate with other values has the same fields. -/
theorem Predicate.fields_map (predicate : Predicate α) :
    (predicate.map convert).fields = predicate.fields := by
  match predicate with
  | .test field test => rfl
  | .group sentence => exact Sentence.fields_map sentence

/-- A sentence with other values has the same fields. -/
theorem Sentence.fields_map (sentence : Sentence α) :
    (sentence.map convert).fields = sentence.fields := by
  match sentence with
  | .single predicate => exact Predicate.fields_map predicate
  | .joined predicate connective rest =>
    rw [Sentence.map, Sentence.fields, Sentence.fields, Predicate.fields_map, Sentence.fields_map]

end

end Map

/-- What stands in a statement for any value. -/
def placeholder (_ : α) : String := "?"

/-- The test that an operator makes with its operand, if the two fit. -/
def Operator.test? (operator : Operator) (operand : Operand) : Option (Test Value) :=
  match operator, operand with
  | .isNull, .range _ _ => none
  | .isNotNull, .range _ _ => none
  | .isNull, _ => some (.null false)
  | .isNotNull, _ => some (.null true)
  | .between, .range low high => some (.between low high)
  | operator, .value value =>
    if fits : operator.takesOneValue = true then some (.compare ⟨operator, fits⟩ value) else none
  | _, _ => none

mutual

/-- Whether the clause can be written: every test in it has a named field and fits
its operand, and none is without SQL form. -/
def Clause.Writable : Clause → Prop
  | .compare field operator operand =>
    Text.isBlankText field = false ∧ (operator.test? operand).isSome
  | .member field values _ => Text.isBlankText field = false ∧ values ≠ []
  | .custom _ => False
  | .connective _ => True
  | .group clauses => Condition.Writable clauses

/-- Whether every clause can be written. -/
def Condition.Writable : Condition → Prop
  | [] => True
  | clause :: rest => clause.Writable ∧ Condition.Writable rest

end

mutual

/-- Whether the clause holds a predicate at some depth. -/
def Clause.holdsPredicate : Clause → Bool
  | .compare _ _ _ => true
  | .member _ _ _ => true
  | .custom _ => false
  | .connective _ => false
  | .group clauses => Condition.holdsPredicate clauses

/-- Whether the condition holds a predicate at some depth. -/
def Condition.holdsPredicate : Condition → Bool
  | [] => false
  | clause :: rest => clause.holdsPredicate || Condition.holdsPredicate rest

end

/-- The connective that the clause is. -/
def Clause.connective? : Clause → Option Connective
  | .connective word => some word
  | _ => none

/-- The clause that is read as a connective is that connective. -/
theorem Clause.connective?_eq_some {clause : Clause} {word : Connective}
    (kind : clause.connective? = some word) : clause = .connective word := by
  cases clause <;> simp_all [Clause.connective?]

/-- The last connective before the first clause with a predicate. -/
def Condition.leadingConnective? (condition : Condition) : Option Connective :=
  ((condition.takeWhile fun clause => !clause.holdsPredicate).filterMap Clause.connective?).getLast?

/-- The connective between a predicate and the first one of what follows it: the
last that stands there, or AND. -/
def Condition.connectiveBefore (following : Condition) : Connective :=
  following.leadingConnective?.getD .and

mutual

/-- The predicate that the clause stands for. -/
def Clause.predicate? : Clause → Option (Predicate Value)
  | .compare field operator operand => (operator.test? operand).map (.test field)
  | .member _ [] _ => none
  | .member field (first :: rest) negated => some (.test field (.member negated first rest))
  | .custom _ => none
  | .connective _ => none
  | .group clauses => (Condition.sentence? clauses).map .group

/-- The sentence that the condition stands for. -/
def Condition.sentence? : Condition → Option (Sentence Value)
  | [] => none
  | clause :: rest =>
    match clause.predicate?, Condition.sentence? rest with
    | none, following => following
    | some predicate, none => some (.single predicate)
    | some predicate, some following =>
      some (.joined predicate (Condition.connectiveBefore rest) following)

end

namespace Condition

mutual

/-- A clause that can be written stands for a predicate exactly when it holds one. -/
theorem isSome_predicate? {clause : Clause} (writable : clause.Writable) :
    clause.predicate?.isSome = clause.holdsPredicate := by
  match clause with
  | .compare field operator operand =>
    simpa [Clause.predicate?, Clause.holdsPredicate] using writable.2
  | .member field [] negated => exact absurd rfl writable.2
  | .member field (first :: rest) negated => rfl
  | .connective word => rfl
  | .group clauses =>
    simpa [Clause.predicate?, Clause.holdsPredicate] using isSome_sentence? writable

/-- A condition that can be written stands for a sentence exactly when it holds a
predicate. -/
theorem isSome_sentence? {condition : Condition} (writable : condition.Writable) :
    condition.sentence?.isSome = condition.holdsPredicate := by
  match condition with
  | [] => rfl
  | clause :: rest =>
    have head := isSome_predicate? writable.1
    have tail := isSome_sentence? writable.2
    rw [holdsPredicate, ← head, ← tail, sentence?]
    cases clause.predicate? <;> cases sentence? rest <;> rfl

end

/-- The connective after which a list of clauses starts: none if it starts with a
predicate, and else the last one up to its first predicate. -/
theorem leadingConnective?_cons (clause : Clause) (rest : Condition) :
    leadingConnective? (clause :: rest) =
      if clause.holdsPredicate then none
      else (leadingConnective? rest).or clause.connective? := by
  cases holds : clause.holdsPredicate with
  | true => simp [leadingConnective?, holds]
  | false =>
    cases kind : clause.connective? with
    | none => simp [leadingConnective?, holds, kind]
    | some word => simp [leadingConnective?, holds, kind, List.getLast?_cons]

end Condition

end QueryKit
