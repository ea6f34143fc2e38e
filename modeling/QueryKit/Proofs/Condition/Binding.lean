import QueryKit.Proofs.Condition.Written

/-!
# Values meet their placeholders

A statement travels apart from its values. This module shows that the two can be
put together again: the values are those of the clauses in reading order, there
is one placeholder for each, and filling the placeholders from left to right puts
every value beside the field it was given with.

Filling replaces each question mark it meets, so it presumes that no field
contains one.
-/

namespace QueryKit

/-- The values of an operand. -/
def Operand.values : Operand → List Value
  | .none => []
  | .value bound => [bound]
  | .range low high => [low, high]

mutual

/-- The values that a clause binds, from left to right: those of its operands, but
none for a test for null. -/
def Clause.operands : Clause → List Value
  | .compare _ operator operand => if operator.isUnary then [] else operand.values
  | .member _ values _ => values
  | .custom _ => []
  | .connective _ => []
  | .group clauses => Condition.operands clauses

/-- The values that a condition binds, from left to right. -/
def Condition.operands : Condition → List Value
  | [] => []
  | clause :: rest => clause.operands ++ Condition.operands rest

end

mutual

/-- The fields that a clause tests, from left to right. -/
def Clause.fields : Clause → List String
  | .compare field _ _ => [field]
  | .member field _ _ => [field]
  | .custom _ => []
  | .connective _ => []
  | .group clauses => Condition.fields clauses

/-- The fields that a condition tests, from left to right. -/
def Condition.fields : Condition → List String
  | [] => []
  | clause :: rest => clause.fields ++ Condition.fields rest

end

/-- The text of a condition with each value printed beside its field. -/
def Condition.inlined (print : Value → String) (condition : Condition) : String :=
  condition.sentence?.elim "" (Sentence.text print)

/-- A text with its question marks replaced, the first by the first of the given
texts and so on. Question marks beyond the given texts stay. -/
def replaceMarks : List Char → List String → List Char
  | [], _ => []
  | '?' :: rest, text :: texts => text.toList ++ replaceMarks rest texts
  | character :: rest, texts => character :: replaceMarks rest texts

/-- A statement with its placeholders filled, from left to right. -/
def fillPlaceholders (sql : String) (texts : List String) : String :=
  String.ofList (replaceMarks sql.toList texts)

/-- Characters before the first question mark stay as they are. -/
theorem replaceMarks_append {plain : List Char} (unmarked : '?' ∉ plain) (rest : List Char)
    (texts : List String) :
    replaceMarks (plain ++ rest) texts = plain ++ replaceMarks rest texts := by
  induction plain with
  | nil => rfl
  | cons character plain ih =>
    rw [List.mem_cons, not_or] at unmarked
    rw [List.cons_append, replaceMarks, ih unmarked.2, List.cons_append]
    exact fun _ _ _ marked => unmarked.1 marked.symm

/-- The texts take the places of the question marks of the template, one each, and
give the filled text, whatever comes after it. -/
structure Fills (template : String) (texts : List String) (filled : String) : Prop where
  marks : template.toList.count '?' = texts.length
  replaces : ∀ rest more, replaceMarks (template.toList ++ rest) (texts ++ more) =
    filled.toList ++ replaceMarks rest more

namespace Fills

/-- A text without question marks takes no texts and stays. -/
theorem plain {text : String} (unmarked : '?' ∉ text.toList) : Fills text [] text where
  marks := List.count_eq_zero.2 unmarked
  replaces rest more := replaceMarks_append unmarked rest more

/-- A placeholder takes one text and becomes it. -/
theorem mark (text : String) : Fills "?" [text] text where
  marks := rfl
  replaces _ _ := rfl

/-- Of two templates, the first takes the first texts and leaves the others to the second. -/
theorem append {left right leftFilled rightFilled : String} {leftTexts rightTexts : List String}
    (first : Fills left leftTexts leftFilled) (second : Fills right rightTexts rightFilled) :
    Fills (left ++ right) (leftTexts ++ rightTexts) (leftFilled ++ rightFilled) where
  marks := by
    rw [String.toList_append, List.count_append, first.marks, second.marks, List.length_append]
  replaces rest more := by
    simp only [String.toList_append, List.append_assoc, first.replaces, second.replaces]

/-- A template that takes all its texts is filled with them. -/
theorem fillPlaceholders_eq {template filled : String} {texts : List String}
    (fills : Fills template texts filled) : fillPlaceholders template texts = filled := by
  have replaced := fills.replaces [] []
  simp only [List.append_nil, replaceMarks] at replaced
  rw [fillPlaceholders, replaced, String.ofList_toList]

end Fills

/-- A test has the values of the operand it is made with, unless it tests for null. -/
theorem Operator.values_of_test? {operator : Operator} {operand : Operand} {test : Test Value}
    (fits : operator.test? operand = some test) :
    test.values = if operator.isUnary then [] else operand.values := by
  cases operator <;> cases operand <;>
    simp [Operator.test?, Operator.takesOneValue] at fits <;>
    subst fits <;> rfl

namespace Condition

mutual

/-- A predicate has the values and the fields of the clause it stands for. -/
theorem values_and_fields_of_predicate? {clause : Clause} (writable : clause.Writable) :
    clause.predicate?.elim [] Predicate.values = clause.operands ∧
      clause.predicate?.elim [] Predicate.fields = clause.fields := by
  match clause with
  | .compare field operator operand =>
    obtain ⟨test, fits⟩ := Option.isSome_iff_exists.1 writable.2
    have operands := Operator.values_of_test? fits
    simp [Clause.predicate?, fits, Predicate.values, Predicate.fields, Clause.operands,
      Clause.fields, operands]
  | .member field [] negated => exact absurd rfl writable.2
  | .member field (first :: rest) negated => exact ⟨rfl, rfl⟩
  | .connective word => exact ⟨rfl, rfl⟩
  | .group clauses =>
    have inner := values_and_fields_of_sentence? (show Condition.Writable clauses from writable)
    rw [Clause.predicate?, Clause.operands, Clause.fields]
    cases sentence : sentence? clauses <;> simp_all [Predicate.values, Predicate.fields]

/-- A sentence has the values and the fields of the clauses it stands for. -/
theorem values_and_fields_of_sentence? {condition : Condition} (writable : condition.Writable) :
    condition.sentence?.elim [] Sentence.values = condition.operands ∧
      condition.sentence?.elim [] Sentence.fields = condition.fields := by
  match condition with
  | [] => exact ⟨rfl, rfl⟩
  | clause :: rest =>
    have head := values_and_fields_of_predicate? writable.1
    have tail := values_and_fields_of_sentence? writable.2
    rw [operands, fields, sentence?, ← head.1, ← head.2, ← tail.1, ← tail.2]
    cases clause.predicate? <;> cases sentence? rest <;>
      simp [Sentence.values, Sentence.fields]

end

end Condition

variable {α : Type} (print : α → String)

/-- The printed values fill the placeholders of their list. -/
theorem Test.fills_listText (first : α) (rest : List α) :
    Fills (listText placeholder first rest) ((first :: rest).map print)
      (listText print first rest) := by
  induction rest generalizing first with
  | nil => exact .mark (print first)
  | cons second rest ih =>
    have comma : Fills ", " [] ", " := .plain (by decide)
    exact ((Fills.mark (print first)).append comma).append (ih second)

/-- The printed values fill the placeholders of their test. -/
theorem Test.fills_text (test : Test α) :
    Fills (test.text placeholder) (test.values.map print) (test.text print) := by
  cases test with
  | compare comparison value =>
    have keyword : Fills comparison.operator.sql [] comparison.operator.sql :=
      .plain (by cases comparison.operator <;> decide)
    have blank : Fills " " [] " " := .plain (by decide)
    exact (keyword.append blank).append (.mark (print value))
  | null negated => exact .plain (by cases negated <;> simp [Test.text])
  | between low high =>
    have keyword : Fills "BETWEEN " [] "BETWEEN " := .plain (by decide)
    have conjunction : Fills " AND " [] " AND " := .plain (by decide)
    exact ((keyword.append (.mark (print low))).append conjunction).append (.mark (print high))
  | member negated first rest =>
    have keyword : Fills (memberKeyword negated) [] (memberKeyword negated) :=
      .plain (by cases negated <;> decide)
    have opening : Fills " (" [] " (" := .plain (by decide)
    have closing : Fills ")" [] ")" := .plain (by decide)
    simpa [Test.text, Test.values] using
      ((keyword.append opening).append (Test.fills_listText print first rest)).append closing

mutual

/-- The printed values fill the placeholders of their predicate. -/
theorem Predicate.fills_text (predicate : Predicate α)
    (unmarked : ∀ field ∈ predicate.fields, '?' ∉ field.toList) :
    Fills (predicate.text placeholder) (predicate.values.map print) (predicate.text print) := by
  match predicate with
  | .test field test =>
    have name : Fills field [] field := .plain (unmarked field (by simp [Predicate.fields]))
    have blank : Fills " " [] " " := .plain (by decide)
    exact (name.append blank).append (test.fills_text print)
  | .group sentence =>
    have opening : Fills "(" [] "(" := .plain (by decide)
    have closing : Fills ")" [] ")" := .plain (by decide)
    simpa [Predicate.text, Predicate.values] using
      (opening.append (sentence.fills_text unmarked)).append closing

/-- The printed values fill the placeholders of their sentence. -/
theorem Sentence.fills_text (sentence : Sentence α)
    (unmarked : ∀ field ∈ sentence.fields, '?' ∉ field.toList) :
    Fills (sentence.text placeholder) (sentence.values.map print) (sentence.text print) := by
  match sentence with
  | .single predicate => exact predicate.fills_text unmarked
  | .joined predicate connective rest =>
    have head := predicate.fills_text fun field member =>
      unmarked field (List.mem_append_left _ member)
    have between : Fills connective.sql [] connective.sql :=
      .plain (by cases connective <;> decide)
    have tail := rest.fills_text fun field member =>
      unmarked field (List.mem_append_right _ member)
    simpa [Sentence.text, Sentence.values] using (head.append between).append tail

end

namespace Condition

/-- The values of a condition that compiles are those of its clauses from left to
right, there is a placeholder for each, and filling the placeholders with them
prints every value beside its own field. -/
theorem compile_binds {condition : Condition} {fragment : Fragment}
    (compiled : condition.compile = .ok fragment) :
    fragment.arguments = condition.operands ∧
      fragment.placeholders = fragment.arguments.length ∧
      ((∀ field ∈ condition.fields, '?' ∉ field.toList) →
        fragment.sql.toList.count '?' = fragment.arguments.length ∧
        ∀ print : Value → String,
          fillPlaceholders fragment.sql (fragment.arguments.map print) =
            condition.inlined print) := by
  obtain ⟨values, fields⟩ := values_and_fields_of_sentence? (writable_of_compile compiled)
  rw [← values, ← fields, eq_of_compile compiled]
  cases meaning : condition.sentence? with
  | none => simp [Fragment.empty, inlined, meaning, fillPlaceholders, replaceMarks]
  | some sentence =>
    refine ⟨rfl, rfl, fun unmarked => ⟨?_, fun print => ?_⟩⟩
    · simpa [Sentence.fragment] using (sentence.fills_text (fun _ => "") unmarked).marks
    · rw [inlined, meaning]
      exact (sentence.fills_text print unmarked).fillPlaceholders_eq

/-- A range and a list in a group, with a connective that joins nothing and a group
that holds nothing. -/
theorem compile_binds_range_and_list :
    compile [.connective .and, .between "age" (.text "18") (.text "65"), .connective .or,
        .group [], .group [.member "id" [.text "7", .text "8"] false]] =
      .ok ⟨"age BETWEEN ? AND ? OR (id IN (?, ?))",
        [.text "18", .text "65", .text "7", .text "8"], 4⟩ ∧
      fillPlaceholders "age BETWEEN ? AND ? OR (id IN (?, ?))" ["18", "65", "7", "8"] =
        "age BETWEEN 18 AND 65 OR (id IN (7, 8))" := by
  have compiled : compile [.connective .and, .between "age" (.text "18") (.text "65"),
      .connective .or, .group [], .group [.member "id" [.text "7", .text "8"] false]] =
      .ok ⟨"age BETWEEN ? AND ? OR (id IN (?, ?))",
        [.text "18", .text "65", .text "7", .text "8"], 4⟩ := rfl
  have filled := ((compile_binds compiled).2.2 (by decide)).2 fun value => value.asText?.getD ""
  exact ⟨compiled, filled⟩

end Condition

end QueryKit
