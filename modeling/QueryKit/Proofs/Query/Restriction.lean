import Mathlib.Algebra.BigOperators.Group.List.Basic
import Mathlib.Algebra.GroupWithZero.Nat
import QueryKit.Proofs.Condition.Binding
import QueryKit.Query.Sql

/-!
# The restriction of a statement

The four statements of a query are put together separately around one condition. What
each has beside the condition is its frame, which does not look at the condition; the
restriction stands in the same form in all of them. Whether there is one is decided by
the compiled text alone, and comes to the same as whether the condition holds a
predicate at some depth. So no tree of groups and connectives turns a restricted
statement into one for all rows.
-/

namespace QueryKit

/-! ### Counting placeholders -/

/-- The number of question marks in a text. -/
def marks (text : String) : Nat := text.toList.count '?'

/-- A text has no marks iff it has no question mark. -/
theorem marks_eq_zero_iff {text : String} : marks text = 0 ↔ '?' ∉ text.toList :=
  List.count_eq_zero

@[simp] theorem marks_append (left right : String) :
    marks (left ++ right) = marks left + marks right := by
  rw [marks, String.toList_append, List.count_append, marks, marks]

/-- Digits hold no question mark. -/
theorem marks_repr (number : Nat) : marks number.repr = 0 := by
  rw [marks_eq_zero_iff, Nat.toList_repr]
  intro member
  have digit := Nat.isDigit_of_mem_toDigits (by decide) (by decide) member
  exact absurd digit (by decide)

/-- The marks of joined texts add up. -/
theorem marks_join (texts : List String) : marks (String.join texts) = (texts.map marks).sum := by
  induction texts with
  | nil => rfl
  | cons text rest ih => rw [String.join_cons, marks_append, ih, List.map_cons, List.sum_cons]

/-- A separator without question marks adds none. -/
theorem marks_intercalate {separator : String} (plain : marks separator = 0)
    (texts : List String) : marks (separator.intercalate texts) = (texts.map marks).sum := by
  induction texts with
  | nil => rfl
  | cons text rest ih =>
    cases rest with
    | nil => simp
    | cons next rest =>
      rw [List.map_cons, List.sum_cons, ← ih]
      simp [plain]

/-- A compiled condition has a placeholder for each of its arguments and no other question
mark, unless a field has one. -/
theorem Condition.marks_of_compile {condition : Condition} {fragment : Fragment}
    (compiled : condition.compile = .ok fragment)
    (unmarked : ∀ field ∈ condition.fields, '?' ∉ field.toList) :
    marks fragment.sql = fragment.arguments.length := by
  have fields := (values_and_fields_of_sentence? (writable_of_compile compiled)).2
  rw [eq_of_compile compiled]
  cases meaning : condition.sentence? with
  | none => rfl
  | some sentence =>
    rw [meaning, Option.elim_some] at fields
    rw [← fields] at unmarked
    have filled := (sentence.fills_text (fun _ => "") unmarked).marks
    rwa [List.length_map] at filled

/-! ### Frames -/

/-- What a statement has beside its condition: the text before and after the
restriction, and the arguments before those of the condition. -/
structure Frame where
  before : String
  after : String
  arguments : List Value

namespace Frame

/-- The statement of a frame with a restriction and the arguments of the condition. -/
def statement (frame : Frame) (restriction : String) (arguments : List Value) : Statement :=
  ⟨frame.before ++ restriction ++ frame.after, frame.arguments ++ arguments⟩

/-- Whether a frame has a question mark for each of its own arguments and no other. -/
def Balanced (frame : Frame) : Prop :=
  marks frame.before + marks frame.after = frame.arguments.length

/-- A balanced frame and a restriction with a mark for each argument make a statement with a mark
for each. -/
theorem Balanced.statement {frame : Frame} (balanced : frame.Balanced) {restriction : String}
    {arguments : List Value} (matched : marks restriction = arguments.length) :
    marks (frame.statement restriction arguments).sql =
      (frame.statement restriction arguments).arguments.length := by
  simp only [Balanced] at balanced
  simp only [Frame.statement, marks_append, List.length_append]
  omega

end Frame

namespace Query

variable (query : Query) (values : List (String × Value))

/-- The frame of the statement that reads rows. -/
def selectFrame : Frame where
  before := "SELECT " ++ query.projectionSql ++ " FROM " ++ query.table ++ query.joinsSql
  after := query.sortSql ++ query.pagingSql
  arguments := []

/-- The frame of the statement that counts rows. -/
def countFrame : Frame where
  before := "SELECT COUNT(*) AS count FROM " ++ query.table ++ query.joinsSql
  after := ""
  arguments := []

/-- The frame of the statement that sets columns. -/
def updateFrame : Frame where
  before := "UPDATE " ++ query.table ++ " SET " ++
    ", ".intercalate (values.map fun entry => entry.1 ++ " = ?")
  after := ""
  arguments := values.map Prod.snd

/-- The frame of the statement that removes rows. -/
def deleteFrame : Frame where
  before := "DELETE FROM " ++ query.table
  after := ""
  arguments := []

/-- The frames of the four statements. -/
def frames : List Frame :=
  [query.selectFrame, query.countFrame, query.updateFrame values, query.deleteFrame]

/-- The four statements. -/
def statements : List (Except QueryError Statement) :=
  [query.toSelect, query.toCount, query.toUpdate values, query.toDelete]

/-- The texts that the statements take over as they are. -/
def rawTexts : List String :=
  query.table :: query.fields ++
    query.joins.flatMap (fun join => [join.table, join.left, join.operator, join.right]) ++
    query.sortKeys.map Prod.fst ++ values.map Prod.fst ++ query.condition.fields

variable {query values}

/-- Fields without question marks are projected without one. -/
theorem marks_projectionSql (plain : ∀ field ∈ query.fields, marks field = 0) :
    marks query.projectionSql = 0 := by
  unfold projectionSql
  split
  · rfl
  · rw [marks_intercalate rfl]
    apply List.sum_eq_zero
    simpa using plain

/-- Joins of texts without question marks are written without one. -/
theorem marks_joinsSql (plain : ∀ join ∈ query.joins,
    ∀ text ∈ [join.table, join.left, join.operator, join.right], marks text = 0) :
    marks query.joinsSql = 0 := by
  rw [joinsSql, marks_join]
  apply List.sum_eq_zero
  simp only [List.forall_mem_map]
  intro join member
  have keywords : marks join.kind.sql = 0 := by cases join.kind <;> rfl
  have blank : marks " " = 0 := rfl
  have on : marks " ON " = 0 := rfl
  simpa [keywords, blank, on, and_assoc] using plain join member

/-- Sort keys without question marks are written without one. -/
theorem marks_sortSql (plain : ∀ key ∈ query.sortKeys, marks key.1 = 0) :
    marks query.sortSql = 0 := by
  unfold sortSql
  split
  · rfl
  · rw [marks_append, marks_intercalate rfl, show marks " ORDER BY " = 0 from rfl, Nat.zero_add]
    apply List.sum_eq_zero
    simp only [List.forall_mem_map]
    intro key member
    have keyword : marks key.2.sql = 0 := by cases key.2 <;> rfl
    have blank : marks " " = 0 := rfl
    simp [keyword, blank, plain key member]

/-- Limit and offset are written in digits. -/
theorem marks_pagingSql : marks query.pagingSql = 0 := by
  have limit : marks " LIMIT " = 0 := rfl
  have noLimit : marks " LIMIT -1" = 0 := rfl
  have offset : marks " OFFSET " = 0 := rfl
  have nothing : marks "" = 0 := rfl
  rw [pagingSql, marks_append]
  cases query.limit <;> cases query.offset <;> simp [marks_repr, limit, noLimit, offset, nothing]

/-- Each column to set brings the placeholder of its value. -/
theorem marks_columns (plain : ∀ entry ∈ values, marks entry.1 = 0) :
    marks (", ".intercalate (values.map fun entry => entry.1 ++ " = ?")) = values.length := by
  rw [marks_intercalate rfl]
  induction values with
  | nil => rfl
  | cons entry rest ih =>
    rw [List.forall_mem_cons] at plain
    have placeholder : marks " = ?" = 1 := rfl
    rw [List.map_cons, List.map_cons, List.sum_cons, ih plain.2, marks_append, plain.1,
      placeholder, List.length_cons]
    omega

/-- If the texts that are taken over hold no question mark, each frame has one for each of
its arguments. -/
theorem balanced_frames (unmarked : ∀ text ∈ query.rawTexts values, '?' ∉ text.toList) :
    ∀ frame ∈ query.frames values, frame.Balanced := by
  simp only [← marks_eq_zero_iff, rawTexts, List.cons_append, List.forall_mem_cons,
    List.forall_mem_append, List.forall_mem_flatMap, List.forall_mem_map] at unmarked
  obtain ⟨table, ⟨⟨⟨fields, joins⟩, sortKeys⟩, columns⟩, -⟩ := unmarked
  have projection := marks_projectionSql fields
  have joined : marks query.joinsSql = 0 := marks_joinsSql (by simpa using joins)
  have sorted := marks_sortSql sortKeys
  have paged : marks query.pagingSql = 0 := marks_pagingSql
  have assigned := marks_columns columns
  simp only [frames, List.forall_mem_cons, Frame.Balanced]
  refine ⟨?_, ?_, ?_, ?_, by simp⟩
  · have keywords : marks "SELECT " = 0 ∧ marks " FROM " = 0 := by simp [marks]
    simp [selectFrame, keywords, table, projection, joined, sorted, paged]
  · have keywords : marks "SELECT COUNT(*) AS count FROM " = 0 ∧ marks "" = 0 := by simp [marks]
    show marks ("SELECT COUNT(*) AS count FROM " ++ query.table ++ query.joinsSql) + marks "" = 0
    rw [marks_append, marks_append, keywords.1, keywords.2, table, joined]
  · have keywords : marks "UPDATE " = 0 ∧ marks " SET " = 0 ∧ marks "" = 0 := by simp [marks]
    simp [updateFrame, keywords, table, assigned]
  · have keywords : marks "DELETE FROM " = 0 ∧ marks "" = 0 := by simp [marks]
    simp [deleteFrame, keywords, table]

/-- A compiled condition restricts exactly when it holds a predicate. -/
theorem whereSql_of_compile {condition : Condition} {fragment : Fragment}
    (compiled : condition.compile = .ok fragment) :
    whereSql fragment = if condition.holdsPredicate then " WHERE " ++ fragment.sql else "" := by
  rw [whereSql, ← Condition.isSome_sentence? (Condition.writable_of_compile compiled),
    Condition.eq_of_compile compiled]
  cases condition.sentence? with
  | none => rfl
  | some sentence =>
    have written : sentence.fragment.isEmpty = false := by
      simpa [Fragment.isEmpty, Sentence.fragment] using sentence.text_ne_empty placeholder
    simp [written]

/-- Each statement is its frame around the restriction, and fails as the condition does. -/
theorem statements_eq (sets : values ≠ [])
    (named : ∀ entry ∈ values, Text.isBlankText entry.1 = false) :
    query.statements values = (query.frames values).map fun frame =>
      query.condition.compile.map fun fragment =>
        frame.statement (whereSql fragment) fragment.arguments := by
  have settable : values.find? (fun entry => Text.isBlankText entry.1) = none := by
    simpa using named
  have some : values.isEmpty = false := by simpa using sets
  have select : query.toSelect = query.condition.compile.map fun fragment =>
      query.selectFrame.statement (whereSql fragment) fragment.arguments := by
    simp only [toSelect, Frame.statement, selectFrame, String.append_assoc, List.nil_append]
  have count : query.toCount = query.condition.compile.map fun fragment =>
      query.countFrame.statement (whereSql fragment) fragment.arguments := by
    unfold toCount countFrame
    simp only [Frame.statement, String.append_empty, List.nil_append]
  have update : query.toUpdate values = query.condition.compile.map fun fragment =>
      (query.updateFrame values).statement (whereSql fragment) fragment.arguments := by
    simp only [toUpdate, some, settable, Bool.false_eq_true, if_false, Frame.statement, updateFrame,
      String.append_empty]
  have delete : query.toDelete = query.condition.compile.map fun fragment =>
      query.deleteFrame.statement (whereSql fragment) fragment.arguments := by
    simp only [toDelete, Frame.statement, deleteFrame, String.append_empty, List.nil_append]
  rw [statements, select, count, update, delete]
  rfl

/-- The four statements of a query fail with one cause or are all written, whatever its
condition, if the columns to set have names. Each is then its frame, which is the same for
every condition, around one restriction: it is the text of the condition after WHERE if the
condition holds a predicate at some depth, and nothing if it holds none. The arguments of
the condition are the same in all four and follow the values to set. Texts without question
marks leave the placeholders to be counted: there is one for each argument. -/
theorem statements_share_condition (query : Query) {values : List (String × Value)}
    (sets : values ≠ []) (named : ∀ entry ∈ values, Text.isBlankText entry.1 = false) :
    (∀ cause, query.condition.compile = .error cause →
      ∀ outcome ∈ query.statements values, outcome = .error cause) ∧
    ∀ fragment, query.condition.compile = .ok fragment →
      (query.statements values = (query.frames values).map fun frame =>
        .ok (frame.statement
          (if query.condition.holdsPredicate then " WHERE " ++ fragment.sql else "")
          fragment.arguments)) ∧
      (∀ other, ({ query with condition := other } : Query).frames values =
        query.frames values) ∧
      ((∀ text ∈ query.rawTexts values, '?' ∉ text.toList) →
        ∀ statement, .ok statement ∈ query.statements values →
          statement.sql.toList.count '?' = statement.arguments.length) := by
  have written : query.statements values = _ := statements_eq sets named
  constructor
  · intro cause failed outcome member
    rw [written, List.mem_map] at member
    obtain ⟨frame, -, rfl⟩ := member
    rw [failed]
    rfl
  · intro fragment compiled
    have restriction := whereSql_of_compile compiled
    have framed : query.statements values = (query.frames values).map fun frame =>
        .ok (frame.statement (whereSql fragment) fragment.arguments) := by
      rw [written, compiled]
      rfl
    refine ⟨by rw [framed, restriction], fun other => rfl, ?_⟩
    intro unmarked statement member
    rw [framed, List.mem_map] at member
    obtain ⟨frame, inFrames, same⟩ := member
    obtain rfl := Except.ok.inj same
    apply (balanced_frames unmarked frame inFrames).statement
    have matched : marks fragment.sql = fragment.arguments.length := by
      apply Condition.marks_of_compile compiled
      exact fun field inFields => unmarked field (List.mem_append_right _ inFields)
    have keyword : marks " WHERE " = 0 := by simp [marks]
    unfold whereSql
    split
    · next empty =>
      have nothing : fragment.sql = "" := by simpa [Fragment.isEmpty] using empty
      rw [← matched, nothing]
    · rw [marks_append, keyword, matched, Nat.zero_add]

/-- A range in a group, after a group that holds a connective alone. -/
theorem statements_share_condition_of_range_in_group :
    let query := (ofTable "users").restrict
      [.group [.connective .or], .connective .and, .group [.between "age" .null (.bool true)]]
    let values : List (String × Value) := [("note", .bytes [0])]
    values ≠ [] ∧ (∀ entry ∈ values, Text.isBlankText entry.1 = false) ∧
    query.statements values =
      [.ok ⟨"SELECT * FROM users WHERE (age BETWEEN ? AND ?)", [.null, .bool true]⟩,
        .ok ⟨"SELECT COUNT(*) AS count FROM users WHERE (age BETWEEN ? AND ?)",
          [.null, .bool true]⟩,
        .ok ⟨"UPDATE users SET note = ? WHERE (age BETWEEN ? AND ?)",
          [.bytes [0], .null, .bool true]⟩,
        .ok ⟨"DELETE FROM users WHERE (age BETWEEN ? AND ?)", [.null, .bool true]⟩] := by
  intro query values
  have sets : values ≠ [] := by simp [values]
  have named : ∀ entry ∈ values, Text.isBlankText entry.1 = false := by decide
  have compiled : query.condition.compile =
      .ok ⟨"(age BETWEEN ? AND ?)", [.null, .bool true], 2⟩ := rfl
  exact ⟨sets, named, ((statements_share_condition query sets named).2 _ compiled).1⟩

end Query

end QueryKit
