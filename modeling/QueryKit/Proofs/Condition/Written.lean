import QueryKit.Proofs.Condition.Sentence

/-!
# Compiling writes the sentence

A condition compiles exactly when all its clauses can be written, and what it
compiles to is the sentence it stands for: its text with a placeholder for every
value, and its values from left to right.
-/

namespace QueryKit

namespace Test

/-- The placeholders of a list of values are its printed list. -/
theorem boundList_cons (first : Value) (rest : List Value) :
    Fragment.boundList (first :: rest) =
      ⟨listText placeholder first rest, first :: rest, rest.length + 1⟩ := by
  induction rest generalizing first with
  | nil => rfl
  | cons second rest ih =>
    rw [Fragment.boundList, ih second]
    · refine Fragment.ext rfl rfl ?_
      simp [Fragment.bound, Fragment.text]
      omega
    · simp

end Test

/-- The three ways in which an operator fits its operand. -/
theorem Operator.test?_eq_some {operator : Operator} {operand : Operand} {test : Test Value}
    (fits : operator.test? operand = some test) :
    (∃ comparison value, operator = comparison.operator ∧ operand = .value value ∧
        test = .compare comparison value) ∨
      (∃ negated, operator = (if negated then .isNotNull else .isNull) ∧
        (∀ low high, operand ≠ .range low high) ∧ test = .null negated) ∨
      ∃ low high, operator = .between ∧ operand = .range low high ∧ test = .between low high := by
  cases operator <;> cases operand <;>
    simp [Operator.test?, Operator.takesOneValue] at fits <;>
    subst fits <;> simp

/-- The fragment that writes a predicate. -/
def Predicate.fragment (predicate : Predicate Value) : Fragment :=
  ⟨predicate.text placeholder, predicate.values, predicate.values.length⟩

namespace Sentence

/-- The fragment that writes a sentence. -/
def fragment (sentence : Sentence Value) : Fragment :=
  ⟨sentence.text placeholder, sentence.values, sentence.values.length⟩

/-- The predicates of a sentence as they are written, the first one after a given
connective. -/
def written (first : Connective) : Sentence Value → List (Connective × Fragment)
  | .single predicate => [(first, predicate.fragment)]
  | .joined predicate connective rest => (first, predicate.fragment) :: rest.written connective

/-- A sentence writes at least one predicate. -/
theorem written_ne_nil (first : Connective) (sentence : Sentence Value) :
    sentence.written first ≠ [] := by
  cases sentence <;> simp [written]

/-- A joined sentence is written predicate, connective, rest. -/
theorem fragment_joined (predicate : Predicate Value) (connective : Connective)
    (rest : Sentence Value) :
    (joined predicate connective rest).fragment =
      predicate.fragment ++ .text connective.sql ++ rest.fragment := by
  apply Fragment.ext
  · simp [fragment, Predicate.fragment, Fragment.text, text]
  · simp [fragment, Predicate.fragment, Fragment.text, values]
  · simp [fragment, Predicate.fragment, Fragment.text, values]

/-- A sentence in parentheses is written in parentheses. -/
theorem fragment_group (sentence : Sentence Value) :
    (Predicate.group sentence).fragment =
      .text "(" ++ sentence.fragment ++ .text ")" := by
  apply Fragment.ext
  · simp [fragment, Predicate.fragment, Fragment.text, Predicate.text]
  · simp [fragment, Predicate.fragment, Fragment.text, Predicate.values]
  · simp [fragment, Predicate.fragment, Fragment.text, Predicate.values]

end Sentence

namespace Condition

variable {path : List Nat} {position : Nat} {pending : Option Connective}

/-- Joining the written predicates of a sentence writes the sentence. -/
theorem joinWritten_written (first : Connective) :
    ∀ sentence : Sentence Value, joinWritten (sentence.written first) = sentence.fragment
  | .single predicate => rfl
  | .joined predicate connective rest => by
    have following := joinWritten_written connective rest
    rw [Sentence.fragment_joined, ← following]
    cases rest <;> rfl

/-- A comparison with one value compiles to field, operator and the bound value. -/
theorem compareFragment_value {field : String} (named : Text.isBlankText field = false)
    {operator : Operator} (single : operator.takesOneValue = true) (value : Value) :
    compareFragment field operator (.value value) =
      .ok (.text (field ++ " " ++ operator.sql ++ " ") ++ .bound value) := by
  cases operator <;> simp_all [compareFragment, Operator.takesOneValue]

/-- A comparison whose operand fits is written as the test it makes. -/
theorem compareFragment_of_test {field : String} {operator : Operator} {operand : Operand}
    {test : Test Value} (named : Text.isBlankText field = false)
    (fits : operator.test? operand = some test) :
    compareFragment field operator operand = .ok (Predicate.test field test).fragment := by
  rcases Operator.test?_eq_some fits with
    ⟨comparison, value, rfl, rfl, rfl⟩ | ⟨negated, rfl, plain, rfl⟩ | ⟨low, high, rfl, rfl, rfl⟩
  · rw [compareFragment_value named comparison.takesOneValue]
    refine congrArg Except.ok (Fragment.ext ?_ rfl rfl)
    simp [Fragment.text, Fragment.bound, Predicate.fragment, Predicate.text, Test.text,
      placeholder, String.append_assoc]
  · cases negated <;> cases operand <;>
      simp_all [compareFragment, Predicate.fragment, Predicate.text, Predicate.values, Test.text,
        Test.values, Fragment.text, Operator.sql]
  · simp only [compareFragment, named, Bool.false_eq_true, if_false, Except.ok.injEq]
    refine Fragment.ext ?_ rfl rfl
    simp [Fragment.text, Fragment.bound, Predicate.fragment, Predicate.text, Test.text,
      placeholder, ← String.toList_inj]

/-- A comparison is written only if its field is named and its operand fits. -/
theorem named_and_fits_of_compareFragment {field : String} {operator : Operator}
    {operand : Operand} {fragment : Fragment}
    (written : compareFragment field operator operand = .ok fragment) :
    Text.isBlankText field = false ∧ (operator.test? operand).isSome := by
  cases named : Text.isBlankText field with
  | true => simp [compareFragment, named] at written
  | false =>
    refine ⟨rfl, ?_⟩
    cases operator <;> cases operand <;>
      simp_all [compareFragment, Operator.test?, Operator.takesOneValue]

/-- A membership test in some value is written as the test it makes. -/
theorem memberFragment_cons {field : String} (named : Text.isBlankText field = false)
    (first : Value) (rest : List Value) (negated : Bool) :
    memberFragment field (first :: rest) negated =
      .ok (Predicate.test field (.member negated first rest)).fragment := by
  simp only [memberFragment, named, Test.boundList_cons, Bool.false_eq_true, if_false,
    List.isEmpty_cons, Except.ok.injEq]
  apply Fragment.ext
  · simp [Fragment.text, Predicate.fragment, Predicate.text, Test.text, String.append_assoc]
  · simp [Fragment.text, Predicate.fragment, Predicate.values, Test.values]
  · simp [Fragment.text, Predicate.fragment, Predicate.values, Test.values]

/-- A membership test is written only if its field is named and it has a value. -/
theorem named_and_ne_nil_of_memberFragment {field : String} {values : List Value}
    {negated : Bool} {fragment : Fragment}
    (written : memberFragment field values negated = .ok fragment) :
    Text.isBlankText field = false ∧ values ≠ [] := by
  cases named : Text.isBlankText field with
  | true => simp [memberFragment, named] at written
  | false =>
    refine ⟨rfl, ?_⟩
    rintro rfl
    simp [memberFragment, named] at written

/-- A clause that is no connective is compiled, and then the clauses after it: with
the same connective pending if nothing was written, else with none. -/
theorem compileClauses_cons {clause : Clause} (predicate : clause.connective? = none)
    (rest : Condition) :
    compileClauses path position pending (clause :: rest) =
      match compileClause (path ++ [position]) clause with
      | .error error => .error error
      | .ok none => compileClauses path (position + 1) pending rest
      | .ok (some fragment) =>
        match compileClauses path (position + 1) none rest with
        | .error error => .error error
        | .ok written => .ok ((pending.getD .and, fragment) :: written) := by
  cases clause with
  | connective word => simp [Clause.connective?] at predicate
  | compare | member | custom | group => exact compileClauses.eq_def _ _ _ _

mutual

/-- A clause compiles only if it can be written. -/
theorem writable_of_compileClause {path : List Nat} {clause : Clause} {output : Option Fragment}
    (compiled : compileClause path clause = .ok output) : clause.Writable := by
  match clause with
  | .compare field operator operand =>
    rw [compileClause] at compiled
    cases written : compareFragment field operator operand with
    | error error => simp [written, Except.map] at compiled
    | ok fragment => exact named_and_fits_of_compareFragment written
  | .member field values negated =>
    rw [compileClause] at compiled
    cases written : memberFragment field values negated with
    | error error => simp [written, Except.map] at compiled
    | ok fragment => exact named_and_ne_nil_of_memberFragment written
  | .custom predicate => simp [compileClause] at compiled
  | .connective word => trivial
  | .group clauses =>
    rw [compileClause] at compiled
    cases inner : compileClauses path 0 none clauses with
    | error error => simp [inner] at compiled
    | ok written => exact writable_of_compileClauses inner

/-- Clauses compile only if all of them can be written. -/
theorem writable_of_compileClauses {path : List Nat} {position : Nat}
    {pending : Option Connective} {clauses : Condition} {written : List (Connective × Fragment)}
    (compiled : compileClauses path position pending clauses = .ok written) :
    Condition.Writable clauses := by
  match clauses with
  | [] => trivial
  | clause :: rest =>
    cases kind : clause.connective? with
    | some word =>
      obtain rfl := Clause.connective?_eq_some kind
      rw [compileClauses] at compiled
      exact ⟨trivial, writable_of_compileClauses compiled⟩
    | none =>
      rw [compileClauses_cons kind] at compiled
      cases head : compileClause (path ++ [position]) clause with
      | error error => simp [head] at compiled
      | ok output =>
        refine ⟨writable_of_compileClause head, ?_⟩
        cases output with
        | none =>
          simp only [head] at compiled
          exact writable_of_compileClauses compiled
        | some fragment =>
          simp only [head] at compiled
          cases tail : compileClauses path (position + 1) none rest with
          | error error => simp [tail] at compiled
          | ok written => exact writable_of_compileClauses tail

end

mutual

/-- A clause that can be written compiles to its predicate. -/
theorem compileClause_of_writable (path : List Nat) {clause : Clause}
    (writable : clause.Writable) :
    compileClause path clause = .ok (clause.predicate?.map Predicate.fragment) := by
  match clause with
  | .compare field operator operand =>
    obtain ⟨named, fits⟩ := writable
    obtain ⟨test, fits⟩ := Option.isSome_iff_exists.1 fits
    rw [compileClause, compareFragment_of_test named fits]
    simp [Clause.predicate?, fits, Except.map]
  | .member field [] negated => exact absurd rfl writable.2
  | .member field (first :: rest) negated =>
    rw [compileClause, memberFragment_cons writable.1]
    simp [Clause.predicate?, Except.map]
  | .connective word => rfl
  | .group clauses =>
    have inner := compileClauses_of_writable path 0 none writable
    rw [compileClause, inner, Clause.predicate?]
    cases sentence? clauses with
    | none => rfl
    | some sentence =>
      -- A sentence writes some predicate, so the group is not skipped.
      simp only [Option.elim_some, Option.map_some, Sentence.fragment_group]
      rw [← joinWritten_written (((leadingConnective? clauses).or none).getD .and)]
      cases shape : sentence.written (((leadingConnective? clauses).or none).getD .and) with
      | nil => exact absurd shape (Sentence.written_ne_nil _ _)
      | cons head tail => rfl

/-- Clauses that can be written compile to the predicates of their sentence, the
first one after the last connective that leads them. -/
theorem compileClauses_of_writable (path : List Nat) (position : Nat)
    (pending : Option Connective) {clauses : Condition} (writable : clauses.Writable) :
    compileClauses path position pending clauses =
      .ok (clauses.sentence?.elim [] fun sentence =>
        sentence.written ((clauses.leadingConnective?.or pending).getD .and)) := by
  match clauses with
  | [] => rfl
  | clause :: rest =>
    rw [leadingConnective?_cons, ← isSome_predicate? writable.1]
    cases kind : clause.connective? with
    | some word =>
      obtain rfl := Clause.connective?_eq_some kind
      rw [compileClauses, compileClauses_of_writable path _ _ writable.2, sentence?]
      simp [Clause.predicate?]
    | none =>
      rw [compileClauses_cons kind, compileClause_of_writable _ writable.1, sentence?]
      have following := fun pending =>
        compileClauses_of_writable path (position + 1) pending writable.2
      cases clause.predicate? with
      | none => simp [following]
      | some predicate =>
        simp only [following, Option.map_some]
        cases sentence? rest <;> simp [Sentence.written, connectiveBefore]

end

/-- A condition that can be written compiles to its sentence, and to nothing if it
has none. -/
theorem compile_of_writable {condition : Condition} (writable : condition.Writable) :
    condition.compile = .ok (condition.sentence?.elim .empty Sentence.fragment) := by
  rw [compile, compileClauses_of_writable _ _ _ writable]
  cases condition.sentence? with
  | none => rfl
  | some sentence => simp [Except.map, joinWritten_written]

/-- A condition that compiles can be written. -/
theorem writable_of_compile {condition : Condition} {fragment : Fragment}
    (compiled : condition.compile = .ok fragment) : condition.Writable := by
  cases inner : compileClauses [] 0 none condition with
  | error error => simp [compile, inner, Except.map] at compiled
  | ok written => exact writable_of_compileClauses inner

/-- What a condition compiles to is the sentence it stands for. -/
theorem eq_of_compile {condition : Condition} {fragment : Fragment}
    (compiled : condition.compile = .ok fragment) :
    fragment = condition.sentence?.elim .empty Sentence.fragment := by
  have written := compile_of_writable (writable_of_compile compiled)
  rw [compiled] at written
  exact Except.ok.inj written

end Condition

end QueryKit
