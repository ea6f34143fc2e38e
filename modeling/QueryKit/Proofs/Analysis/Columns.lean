import QueryKit.Proofs.Analysis.Generated
import QueryKit.Proofs.Analysis.Target

/-!
# Columns of generated statements

What the analysis reports of a generated statement can be told from the query: the fields that
the query tests, joins by and sorts by, less those that an index lists. A column that is only
read or only set stands in no clause that counts. Nothing but names and comparisons is asked of
the query, so the text of a joined table is left open. It is printed as it is, and a clause that
begins in it counts like any other.
-/

namespace QueryKit

namespace Analysis

open Piece

/-- Whether a clause that begins in a text refers to a field. -/
def refersWithin (text field : String) : Bool :=
  [Pattern.word "WHERE", .phrase ["ORDER", "BY"], .word "ON"].any fun keyword =>
    (clauseTexts keyword (Text.uppercase text.toList)).any fun clause => refersTo clause field

end Analysis

/-- The fields of a table that no index lists, of those that are referred to. -/
def Table.unindexed (table : Table) (refers : String → Bool) : List String :=
  table.fields.filter fun field => !table.isIndexed field && refers field

namespace Query

open Analysis

/-- Whether the condition tests a field, at any depth. -/
def tests (query : Query) (field : String) : Bool := mentions query.condition.fields field

/-- Whether a join compares a field, or the text of its table has a clause that refers to it. -/
def joinsBy (query : Query) (field : String) : Bool :=
  query.joins.any fun join =>
    mentions [join.left, join.right] field || refersWithin join.table field

/-- Whether a sort key is made of a field. -/
def sortsBy (query : Query) (field : String) : Bool :=
  mentions (query.sortKeys.map Prod.fst) field

/-- A query whose table is a plain name, which reads, tests, compares and sorts by plain names,
and which compares them by signs. -/
structure HasPlainNames (query : Query) : Prop where
  table : IsPlain query.table
  projection : ∀ field ∈ query.fields, IsPlainPath field
  condition : ∀ field ∈ query.condition.fields, IsPlainPath field
  sides : ∀ join ∈ query.joins, IsPlainPath join.left ∧ IsPlainPath join.right
  operators : ∀ join ∈ query.joins, ∀ character ∈ join.operator.toList,
    character ∈ ['=', '<', '>', '!']
  sortKeys : ∀ key ∈ query.sortKeys, IsPlainPath key.1

/-- The analysis finds the table of the query in a statement, and reports of the fields of a
table those without index that are referred to. -/
structure Analyzed (query : Query) (table : Table) (refers : String → Bool) (sql : String) :
    Prop where
  target : targetTable? sql = some query.table
  missing : missingIndexes sql table = table.unindexed refers

end Query

namespace Analysis

/-! ### Words and the fields they tell -/

/-- Of the plain names, those that are referred to are the ones among some words. -/
def Tell (words : List (List Char)) (refers : String → Bool) : Prop :=
  ∀ field, IsPlain field → (Text.uppercase field.toList ∈ words ↔ refers field = true)

/-- The words of two parts tell the fields that either part refers to. -/
theorem Tell.append {left right : List (List Char)} {first second : String → Bool}
    (tell : Tell left first) (following : Tell right second) :
    Tell (left ++ right) fun field => first field || second field := by
  intro field plain
  rw [List.mem_append, Bool.or_eq_true, tell field plain, following field plain]

/-- The parts of some names tell the fields that the names mention. -/
theorem tell_upperParts (names : List String) :
    Tell (names.flatMap upperParts) (mentions names) := by
  intro field plain
  rw [plain.identifier.uppercase, mem_flatMap_upperParts]

/-- The parts of the fields of the condition tell what the query tests. -/
theorem tell_tests (query : Query) :
    Tell (query.condition.fields.flatMap upperParts) query.tests :=
  tell_upperParts query.condition.fields

/-- The words collected from a text tell the fields that clauses inside of it refer to. -/
theorem tell_collected (text : String) : Tell (collected true false text) (refersWithin text) := by
  intro field plain
  have upper : Text.uppercase field.toList = field.toList.map Char.toUpper :=
    plain.identifier.uppercase
  rw [collected, ← refers_iff (upper ▸ plain.identifier.upper) (upper ▸ plain.free),
    List.any_flatMap]
  rfl

/-- The words that the joins add tell what they compare or refer to. -/
theorem tell_joins (query : Query) : Tell (query.joins.flatMap joinWords) query.joinsBy := by
  intro field plain
  have each (join : Join) : Text.uppercase field.toList ∈ joinWords join ↔
      (mentions [join.left, join.right] field || refersWithin join.table field) = true := by
    have sides := tell_upperParts [join.left, join.right]
    simp only [List.flatMap_cons, List.flatMap_nil, List.append_nil] at sides
    rw [joinWords, (tell_collected join.table).append sides field plain, Bool.or_comm]
  simp only [List.mem_flatMap, each, Query.joinsBy, List.any_eq_true]

/-- The parts of the sort keys tell what the query sorts by. -/
theorem tell_sortKeys (query : Query) :
    Tell (query.sortKeys.flatMap fun key => upperParts key.1) query.sortsBy := by
  have keys := tell_upperParts (query.sortKeys.map Prod.fst)
  rwa [List.flatMap_map] at keys

/-! ### The four statements -/

/-- The projection names no table and begins no clause. -/
theorem neutral_projectionSql {query : Query} (plain : query.HasPlainNames) :
    ∃ free, Neutral query.projectionSql free := by
  rw [Query.projectionSql]
  split
  · exact ⟨[], by decide⟩
  · have names :
        Neutral (", ".intercalate (query.fields.map id)) (query.fields.flatMap upperParts) :=
      Neutral.list fun field listed => .name (plain.projection field listed)
    exact ⟨_, by simpa using names⟩

section Statements

variable {query : Query} {table : Table} {fragment : Fragment}
  (plain : query.HasPlainNames) (fields : ∀ field ∈ table.fields, IsPlain field)

include fields

/-- The words that a pass collects tell the fields that are reported. -/
theorem missingIndexes_of_collected {sql : String} {words : List (List Char)}
    (passed : collected (hasJoin (Text.uppercase sql.toList)) false sql = words)
    {refers : String → Bool} (tell : Tell words refers) :
    missingIndexes sql table = table.unindexed refers := by
  have names : ∀ field ∈ table.fields, Letters (Text.uppercase field.toList) ∧
      ¬IsReserved (Text.uppercase field.toList) := by
    intro field listed
    obtain ⟨identifier, free⟩ := fields field listed
    rw [identifier.uppercase]
    exact ⟨identifier.upper, free⟩
  rw [missingIndexes_eq names, Table.unindexed]
  refine List.filter_congr fun field listed => ?_
  congr 1
  rw [Bool.eq_iff_iff, decide_eq_true_iff, ← tell field (fields field listed), ← passed, collected]

include plain

/-- A statement that names the table of a query behind a neutral text. -/
theorem analyzed_from {head rest : String} {free words : List (List Char)} {joins : Bool}
    (neutral : Neutral head free) (detached : Detached rest)
    (seen : hasJoin (Text.uppercase (head ++ " FROM " ++ query.table ++ rest).toList) = joins)
    (following : Collects joins rest words) {refers : String → Bool} (tell : Tell words refers) :
    query.Analyzed table refers (head ++ " FROM " ++ query.table ++ rest) where
  target := targetTable?_from plain.table.identifier detached neutral
  missing := by
    refine missingIndexes_of_collected fields ?_ tell
    have known : (" FROM ", none) ∈ keywordStates := by decide
    rw [seen, String.append_assoc, String.append_assoc,
      collected_neutral neutral (detached_keyword (by decide) _), collected_keyword known,
      collected_neutral (.plain plain.table) detached, following]
    rfl

/-- Such a statement with the joins of the query. -/
theorem analyzed_joined {head rest : String} {free words : List (List Char)}
    (neutral : Neutral head free) (detached : Detached rest)
    (following : ∀ joins, Collects joins rest words) {refers : String → Bool}
    (tell : Tell words refers) :
    query.Analyzed table (fun field => query.joinsBy field || refers field)
      (head ++ " FROM " ++ query.table ++ (query.joinsSql ++ rest)) := by
  refine analyzed_from plain fields neutral ((detached_joins query.joins).append detached) rfl ?_
    ((tell_joins query).append tell)
  by_cases none : query.joins = []
  · rw [none, List.map_nil, String.join_nil, String.empty_append]
    exact following _
  · rw [hasJoin_of_joins none]
    exact collects_joins plain.sides plain.operators (following true) detached

/-- An update of the table of a query, whatever columns it sets. -/
theorem analyzed_update {columns rest : String} {free words : List (List Char)}
    (set : Neutral columns free) (detached : Detached rest)
    (following : ∀ joins, Collects joins rest words) {refers : String → Bool}
    (tell : Tell words refers) :
    query.Analyzed table refers ("UPDATE " ++ query.table ++ " SET " ++ columns ++ rest) where
  target := by
    have behind : Detached (" SET " ++ (columns ++ rest)) := detached_keyword (by decide) _
    simpa only [String.append_assoc] using targetTable?_update plain.table.identifier behind
  missing := by
    refine missingIndexes_of_collected fields ?_ tell
    have assigned := (Neutral.plain plain.table).join (by decide : Separator " SET ") set
    have split : "UPDATE " ++ query.table ++ " SET " ++ columns ++ rest =
        "UPDATE " ++ (query.table ++ " SET " ++ columns ++ rest) := by
      simp only [String.append_assoc]
    have known : ("UPDATE ", none) ∈ keywordStates := by decide
    rw [split, collected_keyword known, collected_neutral assigned detached, following]
    rfl

variable (compiled : query.condition.compile = .ok fragment)

include compiled

/-- A selection is reported to lack indexes on what it joins by, tests or sorts by. -/
theorem select_analyzed :
    ∃ statement, query.toSelect = .ok statement ∧
      query.Analyzed table (fun field => query.joinsBy field || query.tests field ||
        query.sortsBy field) statement.sql := by
  refine ⟨_, by rw [Query.toSelect, compiled]; rfl, ?_⟩
  obtain ⟨free, projection⟩ := neutral_projectionSql plain
  have head : Neutral ("SELECT " ++ query.projectionSql) _ :=
    Neutral.append (by decide : Neutral "SELECT " []) projection (.inl rfl)
  have sorted : Detached (query.sortSql ++ query.pagingSql) :=
    detached_sortSql.append detached_pagingSql
  have keys (joins : Bool) : Collects joins (query.sortSql ++ query.pagingSql) _ :=
    collects_sortSql plain.sortKeys
  have following (joins : Bool) :=
    collects_whereSql (.condition compiled plain.condition) (keys joins) sorted
  have analyzed := analyzed_joined plain fields head (detached_whereSql.append sorted) following
    ((tell_tests query).append (tell_sortKeys query))
  simpa only [String.append_assoc, Bool.or_assoc] using analyzed

/-- A count is reported to lack indexes on what it joins by or tests; it does not sort. -/
theorem count_analyzed :
    ∃ statement, query.toCount = .ok statement ∧
      query.Analyzed table (fun field => query.joinsBy field || query.tests field)
        statement.sql := by
  refine ⟨_, by rw [Query.toCount, compiled]; rfl, ?_⟩
  have head : Neutral "SELECT COUNT(*) AS count" [] := by decide
  have condition := Neutral.condition compiled plain.condition
  have analyzed := analyzed_joined plain fields head detached_whereSql
    (fun joins => collects_whereSql_end condition) (tell_tests query)
  have keyword : "SELECT COUNT(*) AS count FROM " = "SELECT COUNT(*) AS count" ++ " FROM " := rfl
  simpa only [keyword, String.append_assoc] using analyzed

/-- A deletion is reported to lack indexes on what it tests. -/
theorem delete_analyzed :
    ∃ statement, query.toDelete = .ok statement ∧
      query.Analyzed table query.tests statement.sql := by
  refine ⟨_, by rw [Query.toDelete, compiled]; rfl, ?_⟩
  have head : Neutral "DELETE" [] := by decide
  have condition := Neutral.condition compiled plain.condition
  exact analyzed_from plain fields head detached_whereSql rfl (collects_whereSql_end condition)
    (tell_tests query)

/-- An update is reported to lack indexes on what it tests, and not on the columns it sets. -/
theorem update_analyzed {values : List (String × Value)} (some : values ≠ [])
    (columns : ∀ entry ∈ values, IsPlainPath entry.1) :
    ∃ statement, query.toUpdate values = .ok statement ∧
      query.Analyzed table query.tests statement.sql := by
  have named : values.find? (fun entry => Text.isBlankText entry.1) = none := by
    rw [List.find?_eq_none]
    intro entry listed
    rw [Neutral.isBlankText_name (columns entry listed)]
    exact Bool.false_ne_true
  have filled : values.isEmpty = false := by
    simpa using some
  refine ⟨_, by rw [Query.toUpdate, filled, named, compiled]; rfl, ?_⟩
  have assigned : Neutral (", ".intercalate (values.map fun entry => entry.1 ++ " = ?"))
      (values.flatMap fun entry => upperParts entry.1) := by
    refine Neutral.list fun entry listed => ?_
    simpa using (Neutral.name (columns entry listed)).join (by decide : Separator " = ?") .empty
  exact analyzed_update plain fields assigned detached_whereSql
    (fun joins => collects_whereSql_end (.condition compiled plain.condition)) (tell_tests query)

end Statements

/-- The text of a table that is a name has no clause. -/
theorem joinsBy_of_names {query : Query} (tables : ∀ join ∈ query.joins, IsPlainPath join.table)
    {field : String} (plain : IsPlain field) :
    query.joinsBy field =
      query.joins.any fun join => mentions [join.left, join.right] field := by
  rw [Query.joinsBy, Bool.eq_iff_iff, List.any_eq_true, List.any_eq_true]
  refine exists_congr fun join => and_congr_right fun joined => ?_
  have nothing : collected true false join.table = [] :=
    collected_end (.name (tables join joined)) true false
  have closed : refersWithin join.table field = false := by
    simpa [nothing] using tell_collected join.table field plain
  rw [closed, Bool.or_false]

/-- A query that compiles has its four statements, and in each the analysis finds the table of
the query. Of the fields of a table it reports, in their order, exactly those without index that
the statement refers to: a SELECT by its joins, its condition and its sort keys, a COUNT by its
joins and its condition, and an UPDATE or DELETE by its condition alone. If the joined tables
are given by name, the joins refer to the fields that they compare and to no others. -/
theorem statements_analyzed {query : Query} (plain : query.HasPlainNames) {fragment : Fragment}
    (compiled : query.condition.compile = .ok fragment) {table : Table}
    (fields : ∀ field ∈ table.fields, IsPlain field) :
    (∃ statement, query.toSelect = .ok statement ∧
      query.Analyzed table
        (fun field => query.joinsBy field || query.tests field || query.sortsBy field)
        statement.sql) ∧
    (∃ statement, query.toCount = .ok statement ∧
      query.Analyzed table (fun field => query.joinsBy field || query.tests field)
        statement.sql) ∧
    (∀ values : List (String × Value), values ≠ [] →
      (∀ entry ∈ values, IsPlainPath entry.1) →
      ∃ statement, query.toUpdate values = .ok statement ∧
        query.Analyzed table query.tests statement.sql) ∧
    (∃ statement, query.toDelete = .ok statement ∧
      query.Analyzed table query.tests statement.sql) ∧
    ((∀ join ∈ query.joins, IsPlainPath join.table) → ∀ field ∈ table.fields,
      query.joinsBy field =
        query.joins.any fun join => mentions [join.left, join.right] field) :=
  ⟨select_analyzed plain fields compiled, count_analyzed plain fields compiled,
    fun _ some columns => update_analyzed plain fields compiled some columns,
    delete_analyzed plain fields compiled,
    fun tables field listed => joinsBy_of_names tables (fields field listed)⟩

/-- Members by age, with their teams, sorted by a column in other case. -/
theorem statements_analyzed_members :
    let query : Query := { Query.ofTable "users" with
      fields := ["users.name"]
      joins := [⟨.left, "teams", "users.team_id", "=", "teams.id"⟩]
      condition := [.group [.isNotNull "age"]]
      sortKeys := [("Email", .descending)] }
    let table : Table := ⟨"users", ["id", "name", "age", "email", "team_id"], [⟨"key", ["ID"]⟩]⟩
    query.HasPlainNames ∧ (∀ field ∈ table.fields, IsPlain field) ∧
    (∃ statement, query.toSelect = .ok statement ∧
      missingIndexes statement.sql table = ["age", "email", "team_id"]) ∧
    (∃ statement, query.toCount = .ok statement ∧
      missingIndexes statement.sql table = ["age", "team_id"]) ∧
    (∃ statement, query.toUpdate [("name", .null)] = .ok statement ∧
      missingIndexes statement.sql table = ["age"]) ∧
    ∃ statement, query.toDelete = .ok statement ∧
      missingIndexes statement.sql table = ["age"] := by
  intro query table
  have plain : query.HasPlainNames :=
    ⟨by decide, by decide, by decide, by decide, by decide, by decide⟩
  have fields : ∀ field ∈ table.fields, IsPlain field := by decide
  have compiled : query.condition.compile = .ok ⟨"(age IS NOT NULL)", [], 0⟩ := rfl
  obtain ⟨⟨select, selects, selected⟩, ⟨count, counts, counted⟩, updates,
    ⟨delete, deletes, deleted⟩, -⟩ := statements_analyzed plain compiled fields
  obtain ⟨update, sets, updated⟩ := updates [("name", .null)] (by simp) (by decide)
  refine ⟨plain, fields, ⟨select, selects, ?_⟩, ⟨count, counts, ?_⟩, ⟨update, sets, ?_⟩, delete,
    deletes, ?_⟩
  · rw [selected.missing]
    decide
  · rw [counted.missing]
    decide
  · rw [updated.missing]
    decide
  · rw [deleted.missing]
    decide

/-- A field that no join compares, nothing tests and nothing is sorted by is reported if the
text of a joined table puts it behind ON. -/
theorem reported_in_joined_table :
    let query : Query := { Query.ofTable "users" with
      joins := [⟨.inner, "teams ON email", "users.team_id", "=", "teams.id"⟩] }
    let table : Table := ⟨"users", ["id", "email", "team_id"], []⟩
    query.HasPlainNames ∧ (∀ field ∈ table.fields, IsPlain field) ∧
    ∃ statement, query.toSelect = .ok statement ∧
      missingIndexes statement.sql table = ["id", "email", "team_id"] ∧
      table.unindexed (fun field =>
        (query.joins.any fun join => mentions [join.left, join.right] field) ||
          query.tests field || query.sortsBy field) = ["id", "team_id"] := by
  intro query table
  have plain : query.HasPlainNames :=
    ⟨by decide, by decide, by decide, by decide, by decide, by decide⟩
  have fields : ∀ field ∈ table.fields, IsPlain field := by decide
  obtain ⟨select, selects, selected⟩ := select_analyzed plain fields rfl
  refine ⟨plain, fields, select, selects, ?_, by decide⟩
  rw [selected.missing]
  decide

end Analysis

end QueryKit
