import QueryKit.Proofs.Condition.Binding
import QueryKit.Proofs.Text.Delimited

/-!
# Reading a condition back

The grammar of the text that follows WHERE, as relations between a text and what
it says. They are the authority on what a text says; no reader is executed here.

The text of a predicate is a prefix code: it is determined by any text it begins,
so that a reader knows where it ends before looking at what comes next. This is
why the AND of a range cannot be mistaken for the AND between two predicates, and
why a text has at most one reading. A compiled condition has exactly one, which is
the sentence of the condition with its values forgotten.
-/

namespace QueryKit

/-- A name has a character, and none that is blank or that delimits. -/
structure IsName (name : String) : Prop where
  nonempty : name ≠ ""
  notBlank : ∀ character ∈ name.toList, Text.isBlank character = false
  notDelimiter : ∀ character ∈ name.toList, character ∉ ['(', ')', ',', '?']

instance : DecidablePred IsName := fun name =>
  decidable_of_iff
    (name ≠ "" ∧ name.toList.all (fun character => !Text.isBlank character) = true ∧
      name.toList.all (fun character => character ∉ ['(', ')', ',', '?']) = true)
    ⟨fun ⟨nonempty, notBlank, notDelimiter⟩ =>
        ⟨nonempty, by simpa using notBlank, by simpa using notDelimiter⟩,
      fun proper =>
        ⟨proper.nonempty, by simpa using proper.notBlank, by simpa using proper.notDelimiter⟩⟩

/-- One placeholder or several, separated by commas. The reading lists the
placeholders but the first. -/
inductive ReadsList : String → List Unit → Prop
  | last : ReadsList "?" []
  | more {text rest} (reads : ReadsList text rest) : ReadsList ("?, " ++ text) (() :: rest)

/-- What a predicate says about its field. -/
inductive ReadsTest : String → Test Unit → Prop
  | compare (comparison : Comparison) :
      ReadsTest (comparison.operator.sql ++ " ?") (.compare comparison ())
  | null : ReadsTest "IS NULL" (.null false)
  | notNull : ReadsTest "IS NOT NULL" (.null true)
  | between : ReadsTest "BETWEEN ? AND ?" (.between () ())
  | member {text rest} (reads : ReadsList text rest) :
      ReadsTest ("IN (" ++ text ++ ")") (.member false () rest)
  | notMember {text rest} (reads : ReadsList text rest) :
      ReadsTest ("NOT IN (" ++ text ++ ")") (.member true () rest)

mutual

/-- A name and a test, or a sentence in parentheses. -/
inductive ReadsPredicate : String → Predicate Unit → Prop
  | test {field text test} (name : IsName field) (reads : ReadsTest text test) :
      ReadsPredicate (field ++ " " ++ text) (.test field test)
  | group {text sentence} (reads : ReadsSentence text sentence) :
      ReadsPredicate ("(" ++ text ++ ")") (.group sentence)

/-- Predicates with " AND " or " OR " between neighbours. -/
inductive ReadsSentence : String → Sentence Unit → Prop
  | single {text predicate} (reads : ReadsPredicate text predicate) :
      ReadsSentence text (.single predicate)
  | and {text following predicate rest} (first : ReadsPredicate text predicate)
      (reads : ReadsSentence following rest) :
      ReadsSentence (text ++ " AND " ++ following) (.joined predicate .and rest)
  | or {text following predicate rest} (first : ReadsPredicate text predicate)
      (reads : ReadsSentence following rest) :
      ReadsSentence (text ++ " OR " ++ following) (.joined predicate .or rest)

end

/-- The readings of a text: sentences, and for the empty text no sentence. -/
inductive Reads : String → Option (Sentence Unit) → Prop
  | nothing : Reads "" none
  | sentence {text sentence} (reads : ReadsSentence text sentence) : Reads text (some sentence)

/-! ## The grammar is the printer -/

/-- The grammar of lists admits the printed list and nothing else. -/
theorem readsList_iff {text : String} {rest : List Unit} :
    ReadsList text rest ↔ text = Test.listText placeholder () rest := by
  constructor
  · intro reads
    induction reads with
    | last => rfl
    | more _ ih => rw [ih]; rfl
  · rintro rfl
    induction rest with
    | nil => exact .last
    | cons _ rest ih => exact .more ih

/-- A comparison is printed as its operator and a placeholder. -/
theorem Test.text_compare (comparison : Comparison) (value : Unit) :
    (Test.compare comparison value).text placeholder = comparison.operator.sql ++ " ?" := by
  rw [Test.text, String.append_assoc]
  rfl

/-- The grammar of tests admits the printed test and nothing else. -/
theorem readsTest_iff {text : String} {test : Test Unit} :
    ReadsTest text test ↔ text = test.text placeholder := by
  constructor
  · rintro (comparison | _ | _ | _ | reads | reads)
    · rw [Test.text_compare]
    · rfl
    · rfl
    · rfl
    · rw [readsList_iff.1 reads]; rfl
    · rw [readsList_iff.1 reads]; rfl
  · rintro rfl
    cases test with
    | compare comparison value =>
      rw [Test.text_compare]
      exact .compare comparison
    | null negated =>
      cases negated
      · exact .null
      · exact .notNull
    | between low high => exact .between
    | member negated first rest =>
      cases negated
      · exact .member (readsList_iff.2 rfl)
      · exact .notMember (readsList_iff.2 rfl)

mutual

/-- The texts that read as a predicate with proper names are its own. -/
theorem readsPredicate_iff {text : String} {predicate : Predicate Unit} :
    ReadsPredicate text predicate ↔
      (∀ field ∈ predicate.fields, IsName field) ∧ text = predicate.text placeholder := by
  match predicate with
  | .test field test =>
    constructor
    · rintro (⟨name, reads⟩ | _)
      simp [Predicate.fields, Predicate.text, name, readsTest_iff.1 reads]
    · rintro ⟨names, rfl⟩
      exact .test (names field (by simp [Predicate.fields])) (readsTest_iff.2 rfl)
  | .group sentence =>
    constructor
    · rintro (_ | reads)
      obtain ⟨names, rfl⟩ := readsSentence_iff.1 reads
      exact ⟨names, rfl⟩
    · rintro ⟨names, rfl⟩
      exact .group (readsSentence_iff.2 ⟨names, rfl⟩)

/-- The texts that read as a sentence with proper names are its own. -/
theorem readsSentence_iff {text : String} {sentence : Sentence Unit} :
    ReadsSentence text sentence ↔
      (∀ field ∈ sentence.fields, IsName field) ∧ text = sentence.text placeholder := by
  match sentence with
  | .single predicate =>
    constructor
    · rintro (reads | _ | _)
      exact readsPredicate_iff.1 reads
    · exact fun named => .single (readsPredicate_iff.2 named)
  | .joined predicate connective rest =>
    simp only [Sentence.fields, Sentence.text, List.mem_append, or_imp, forall_and]
    constructor
    · rintro (_ | ⟨first, reads⟩ | ⟨first, reads⟩) <;>
        obtain ⟨firstNames, rfl⟩ := readsPredicate_iff.1 first <;>
        obtain ⟨names, rfl⟩ := readsSentence_iff.1 reads <;>
        exact ⟨⟨firstNames, names⟩, rfl⟩
    · rintro ⟨⟨firstNames, names⟩, rfl⟩
      have first := readsPredicate_iff.2 ⟨firstNames, rfl⟩
      have reads := readsSentence_iff.2 ⟨names, rfl⟩
      cases connective
      · exact .and first reads
      · exact .or first reads

end

/-! ## Tests are a prefix code -/

namespace Test

/-- The text of a test up to its end or, for a list, up to its first placeholder. -/
def opening : Test Unit → String
  | .compare comparison _ => comparison.operator.sql ++ " ?"
  | .null negated => if negated then "IS NOT NULL" else "IS NULL"
  | .between _ _ => "BETWEEN ? AND ?"
  | .member negated _ _ => memberKeyword negated ++ " (?"

/-- The text of a list after its first placeholder. -/
def listClosing : List Unit → List Char
  | [] => [')']
  | _ :: rest => ',' :: ' ' :: '?' :: listClosing rest

/-- The text of a test after its opening. -/
def closing : Test Unit → List Char
  | .member _ _ rest => listClosing rest
  | _ => []

/-- The test with at most one placeholder in its list. -/
def shape : Test Unit → Test Unit
  | .member negated _ _ => .member negated () []
  | test => test

/-- Every shape of a test. -/
def shapes : List (Test Unit) :=
  [.compare ⟨.equal, rfl⟩ (), .compare ⟨.notEqual, rfl⟩ (), .compare ⟨.greater, rfl⟩ (),
    .compare ⟨.greaterOrEqual, rfl⟩ (), .compare ⟨.less, rfl⟩ (), .compare ⟨.lessOrEqual, rfl⟩ (),
    .compare ⟨.like, rfl⟩ (), .compare ⟨.notLike, rfl⟩ (), .null false, .null true,
    .between () (), .member false () [], .member true () []]

/-- The list of shapes is complete. -/
theorem shape_mem_shapes (test : Test Unit) : test.shape ∈ shapes := by
  cases test with
  | compare comparison value =>
    obtain ⟨operator, single⟩ := comparison
    cases operator <;> first | (simp [shape, shapes]; done) | cases single
  | null negated => cases negated <;> simp [shape, shapes]
  | between low high => simp [shape, shapes]
  | member negated first rest => cases negated <;> simp [shape, shapes]

/-- No opening begins another one. -/
theorem opening_prefixFree : ∀ left ∈ shapes, ∀ right ∈ shapes,
    left.opening.toList <+: right.opening.toList → left = right := by
  decide +kernel

/-- A list of placeholders is a question mark and what closes the list. -/
theorem toList_listText (first : Unit) (rest : List Unit) :
    (listText placeholder first rest ++ ")").toList = '?' :: listClosing rest := by
  induction rest generalizing first with
  | nil => simp [listText, listClosing, placeholder]
  | cons second rest ih =>
    have following := ih second
    simp_all [listText, listClosing, placeholder]

/-- A test is its opening and what closes it. -/
theorem toList_text (test : Test Unit) :
    (test.text placeholder).toList = test.shape.opening.toList ++ test.closing := by
  cases test with
  | compare comparison value => simp [text_compare, shape, opening, closing]
  | null negated => simp [text, shape, opening, closing]
  | between low high => simp [text, shape, opening, closing, placeholder]
  | member negated first rest =>
    rw [text, String.append_assoc, String.toList_append, toList_listText]
    simp [shape, opening, closing]

/-- A list ends where its closing parenthesis stands. -/
theorem listClosing_append_inj {left right : List Unit} {leftRest rightRest : List Char}
    (same : listClosing left ++ leftRest = listClosing right ++ rightRest) :
    left = right ∧ leftRest = rightRest := by
  induction left generalizing right with
  | nil =>
    cases right with
    | nil => simpa [listClosing] using same
    | cons second right => simp [listClosing] at same
  | cons first left ih =>
    cases right with
    | nil => simp [listClosing] at same
    | cons second right =>
      simp only [listClosing, List.cons_append, List.cons.injEq, true_and] at same
      obtain ⟨rfl, rfl⟩ := ih same
      exact ⟨rfl, rfl⟩

/-- A test is determined by a text that it begins. -/
theorem text_append_inj {left right : Test Unit} {leftRest rightRest : List Char}
    (same : (left.text placeholder).toList ++ leftRest =
      (right.text placeholder).toList ++ rightRest) :
    left = right ∧ leftRest = rightRest := by
  simp only [toList_text, List.append_assoc] at same
  have shape : left.shape = right.shape := by
    rcases List.prefix_or_prefix_of_prefix ⟨_, same⟩ ⟨_, rfl⟩ with before | before
    · exact opening_prefixFree _ (shape_mem_shapes _) _ (shape_mem_shapes _) before
    · exact (opening_prefixFree _ (shape_mem_shapes _) _ (shape_mem_shapes _) before).symm
  rw [shape, List.append_cancel_left_eq] at same
  cases left with
  | member negated first rest =>
    cases right with
    | member otherNegated second others =>
      cases shape
      obtain ⟨rfl, rfl⟩ := listClosing_append_inj same
      exact ⟨rfl, rfl⟩
    | compare | null | between => cases shape
  | compare | null | between => cases right <;> simp_all [Test.shape, closing]

end Test

/-! ## Predicates are a prefix code, and sentences up to where they stop -/

namespace IsName

variable {name : String}

/-- A name has no space in it. -/
theorem blank_notMem (proper : IsName name) : ' ' ∉ name.toList := fun member =>
  absurd (proper.notBlank ' ' member) (by decide)

/-- A name does not start with a parenthesis. -/
theorem append_ne_parenthesis (proper : IsName name) (following rest : List Char) :
    name.toList ++ following ≠ '(' :: rest := by
  intro same
  cases shape : name.toList with
  | nil => exact proper.nonempty (String.toList_eq_nil_iff.1 shape)
  | cons first others =>
    rw [shape, List.cons_append, List.cons.injEq] at same
    refine proper.notDelimiter first (by simp [shape]) ?_
    simp [same.1]

end IsName

/-- A connective is determined by a text that it begins. -/
theorem Connective.sql_append_inj {left right : Connective} {leftRest rightRest : List Char}
    (same : left.sql.toList ++ leftRest = right.sql.toList ++ rightRest) :
    left = right ∧ leftRest = rightRest := by
  cases left <;> cases right <;> simp_all [Connective.sql]

/-- Where a sentence stops: at the end of the text or at a closing parenthesis. -/
def Stops (rest : List Char) : Prop := ∀ character ∈ rest.head?, character = ')'

/-- A sentence does not stop before a connective. -/
theorem Connective.not_stops (connective : Connective) (rest : List Char) :
    ¬Stops (connective.sql.toList ++ rest) := by
  cases connective <;> simp [Stops, Connective.sql]

mutual

/-- A predicate is determined by a text that it begins. -/
theorem Predicate.text_append_inj {left right : Predicate Unit} {leftRest rightRest : List Char}
    (leftNames : ∀ field ∈ left.fields, IsName field)
    (rightNames : ∀ field ∈ right.fields, IsName field)
    (same : (left.text placeholder).toList ++ leftRest =
      (right.text placeholder).toList ++ rightRest) :
    left = right ∧ leftRest = rightRest := by
  match left, right with
  | .test field test, .test otherField otherTest =>
    -- Names hold no blank, so both end at the same one, and tests are a prefix code.
    have name := leftNames field (by simp [Predicate.fields])
    have otherName := rightNames otherField (by simp [Predicate.fields])
    simp only [Predicate.text, String.toList_append, List.append_assoc] at same
    obtain ⟨fields, tests⟩ := append_mark_inj name.blank_notMem otherName.blank_notMem same
    obtain ⟨rfl, rfl⟩ := Test.text_append_inj tests
    rw [String.toList_inj.1 fields]
    exact ⟨rfl, rfl⟩
  | .test field test, .group sentence =>
    have name := leftNames field (by simp [Predicate.fields])
    simp only [Predicate.text, String.toList_append, List.append_assoc] at same
    exact absurd same (name.append_ne_parenthesis _ _)
  | .group sentence, .test field test =>
    have name := rightNames field (by simp [Predicate.fields])
    simp only [Predicate.text, String.toList_append, List.append_assoc] at same
    exact absurd same.symm (name.append_ne_parenthesis _ _)
  | .group sentence, .group other =>
    -- What follows a sentence in parentheses is the closing one, so the sentence stops there.
    simp only [Predicate.text, String.toList_append, List.append_assoc,
      List.append_cancel_left_eq] at same
    have stops : ∀ rest, Stops (")".toList ++ rest) := by simp [Stops]
    obtain ⟨rfl, rests⟩ :=
      Sentence.text_append_inj leftNames rightNames (stops _) (stops _) same
    exact ⟨rfl, List.append_cancel_left rests⟩

/-- A sentence is determined by a text that it begins and in which it stops. -/
theorem Sentence.text_append_inj {left right : Sentence Unit} {leftRest rightRest : List Char}
    (leftNames : ∀ field ∈ left.fields, IsName field)
    (rightNames : ∀ field ∈ right.fields, IsName field)
    (leftStops : Stops leftRest) (rightStops : Stops rightRest)
    (same : (left.text placeholder).toList ++ leftRest =
      (right.text placeholder).toList ++ rightRest) :
    left = right ∧ leftRest = rightRest := by
  match left, right with
  | .single predicate, .single other =>
    obtain ⟨rfl, rfl⟩ := Predicate.text_append_inj leftNames rightNames same
    exact ⟨rfl, rfl⟩
  | .single predicate, .joined other connective rest =>
    simp only [Sentence.fields, List.mem_append, or_imp, forall_and] at rightNames
    simp only [Sentence.text, String.toList_append, List.append_assoc] at same
    -- One sentence would stop where the other goes on with a connective.
    obtain ⟨-, rfl⟩ := Predicate.text_append_inj leftNames rightNames.1 same
    exact absurd leftStops (connective.not_stops _)
  | .joined predicate connective rest, .single other =>
    simp only [Sentence.fields, List.mem_append, or_imp, forall_and] at leftNames
    simp only [Sentence.text, String.toList_append, List.append_assoc] at same
    obtain ⟨-, rfl⟩ := Predicate.text_append_inj leftNames.1 rightNames same
    exact absurd rightStops (connective.not_stops _)
  | .joined predicate connective rest, .joined other otherConnective others =>
    simp only [Sentence.fields, List.mem_append, or_imp, forall_and] at leftNames rightNames
    simp only [Sentence.text, String.toList_append, List.append_assoc] at same
    obtain ⟨rfl, afterPredicate⟩ := Predicate.text_append_inj leftNames.1 rightNames.1 same
    obtain ⟨rfl, afterConnective⟩ := Connective.sql_append_inj afterPredicate
    obtain ⟨rfl, rests⟩ :=
      Sentence.text_append_inj leftNames.2 rightNames.2 leftStops rightStops afterConnective
    exact ⟨rfl, rests⟩

end

/-- A text has at most one reading. -/
theorem Reads.unique {text : String} {left right : Option (Sentence Unit)}
    (leftReads : Reads text left) (rightReads : Reads text right) : left = right := by
  rcases leftReads with _ | ⟨leftReads⟩ <;> rcases rightReads with _ | ⟨rightReads⟩
  · rfl
  · exact absurd (readsSentence_iff.1 rightReads).2.symm (Sentence.text_ne_empty _ _)
  · exact absurd (readsSentence_iff.1 leftReads).2.symm (Sentence.text_ne_empty _ _)
  · obtain ⟨leftNames, rfl⟩ := readsSentence_iff.1 leftReads
    obtain ⟨rightNames, same⟩ := readsSentence_iff.1 rightReads
    have stops : Stops [] := by simp [Stops]
    rw [(Sentence.text_append_inj leftNames rightNames stops stops (by rw [same])).1]

namespace Condition

/-- The sentence that the condition stands for, with its values forgotten. -/
def normalForm (condition : Condition) : Option (Sentence Unit) :=
  condition.sentence?.map (Sentence.map fun _ => ())

/-- A condition that compiles reads back as its normal form. -/
theorem reads_normalForm {condition : Condition} {fragment : Fragment}
    (compiled : condition.compile = .ok fragment)
    (names : ∀ field ∈ condition.fields, IsName field) :
    Reads fragment.sql condition.normalForm := by
  have fields := (values_and_fields_of_sentence? (writable_of_compile compiled)).2
  rw [eq_of_compile compiled, normalForm]
  rw [← fields] at names
  cases meaning : condition.sentence? with
  | none => exact .nothing
  | some sentence =>
    rw [meaning] at names
    refine .sentence (readsSentence_iff.2 ⟨?_, ?_⟩)
    · rw [Sentence.fields_map]
      exact names
    · rw [Sentence.text_map]
      rfl

/-- A condition that compiles and whose fields are names has exactly one reading,
its normal form. So two such conditions have one text only if their normal forms
agree. -/
theorem reads_compiled_iff {condition : Condition} {fragment : Fragment}
    (compiled : condition.compile = .ok fragment)
    (names : ∀ field ∈ condition.fields, IsName field) :
    (∀ reading, Reads fragment.sql reading ↔ reading = condition.normalForm) ∧
      ∀ (other : Condition) (otherFragment : Fragment),
        other.compile = .ok otherFragment → (∀ field ∈ other.fields, IsName field) →
        otherFragment.sql = fragment.sql → other.normalForm = condition.normalForm := by
  have reads := reads_normalForm compiled names
  refine ⟨fun reading => ⟨fun other => other.unique reads, ?_⟩, ?_⟩
  · rintro rfl
    exact reads
  · intro other otherFragment otherCompiled otherNames same
    have otherReads := reads_normalForm otherCompiled otherNames
    rw [same] at otherReads
    exact otherReads.unique reads

/-- A range in a group, after a connective that joins nothing and a group that holds
nothing. -/
theorem reads_compiled_iff_of_range_in_group :
    (∀ field ∈ Condition.fields [.connective .and, .compare "id" .equal (.value (.text "7")),
      .connective .or, .group [], .group [.between "age" (.text "18") (.text "65")]],
      IsName field) ∧
    ∀ reading, Reads "id = ? OR (age BETWEEN ? AND ?)" reading ↔
      reading = some (.joined (.test "id" (.compare ⟨.equal, rfl⟩ ())) .or
        (.single (.group (.single (.test "age" (.between () ())))))) := by
  have compiled : compile [.connective .and, .compare "id" .equal (.value (.text "7")),
      .connective .or, .group [], .group [.between "age" (.text "18") (.text "65")]] =
      .ok ⟨"id = ? OR (age BETWEEN ? AND ?)", [.text "7", .text "18", .text "65"], 3⟩ := rfl
  have names : ∀ field ∈ Condition.fields [.connective .and,
      .compare "id" .equal (.value (.text "7")), .connective .or, .group [],
      .group [.between "age" (.text "18") (.text "65")]], IsName field := by decide
  exact ⟨names, (reads_compiled_iff compiled names).1⟩

end Condition

end QueryKit
