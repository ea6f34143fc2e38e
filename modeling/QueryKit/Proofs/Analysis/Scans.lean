import QueryKit.Optimizer.Basic
import QueryKit.Proofs.Analysis.Generated
import QueryKit.Proofs.Query.Restriction

/-!
# Which generated statements are said to read a whole table

The analysis looks for the words WHERE and LIMIT in the text of a statement. The compiler
writes the one for a condition that holds a predicate and the other for a limit, but it also
writes a limit of minus one where there is an offset alone, and it takes names and the
operators of joins over as they are. `IsUnbounding` is the property of a text that decides. It
is the same for a text as for its parts, as long as no word reaches from one into the other;
so the verdict can be read off the parts of a query.
-/

namespace QueryKit

namespace Analysis

/-! ### Texts without a bound -/

/-- The words that bound what a statement reads. -/
def boundingWords : List String := ["WHERE", "LIMIT"]

/-- A text that has none of these words, in any case. -/
def IsUnbounding (text : String) : Prop :=
  ∀ keyword ∈ boundingWords, keyword.toList ∉ Text.wordsOf (Text.uppercase text.toList)

instance : DecidablePred IsUnbounding := fun text =>
  inferInstanceAs (Decidable (∀ keyword ∈ boundingWords,
    keyword.toList ∉ Text.wordsOf (Text.uppercase text.toList)))

/-- A word is found in a text exactly if it is one of its words. -/
theorem occurs_word_iff_mem_wordsOf {keyword : String} (letters : Letters keyword.toList)
    (text : List Char) :
    (Pattern.word keyword).occurs text = true ↔ keyword.toList ∈ Text.wordsOf text := by
  conv_lhs => rw [← Text.spell_pieces text]
  rw [Pattern.occurs_word_iff letters (Text.cut_pieces _), Text.wordsOf, List.mem_filterMap]
  constructor
  · exact fun member => ⟨_, member, rfl⟩
  · rintro ⟨piece, member, same⟩
    cases piece with
    | mark character => cases same
    | word letters => exact Option.some.inj same ▸ member

/-- A selection is said to read a whole table if it has no bounding word. -/
theorem detectFullTableScan_select (rest : String) :
    detectFullTableScan ("SELECT " ++ rest) = true ↔ IsUnbounding ("SELECT " ++ rest) := by
  have selects : "SELECT".toList.isPrefixOf
      (Text.trimStart (Text.uppercase ("SELECT " ++ rest).toList)) = true := by
    rw [String.toList_append, Text.uppercase_append]
    rfl
  have filters := occurs_word_iff_mem_wordsOf (by decide : Letters "WHERE".toList)
    (Text.uppercase ("SELECT " ++ rest).toList)
  have limits := occurs_word_iff_mem_wordsOf (by decide : Letters "LIMIT".toList)
    (Text.uppercase ("SELECT " ++ rest).toList)
  rw [detectFullTableScan, scansFullTable, selects, IsUnbounding, boundingWords]
  simp only [List.forall_mem_cons, ← filters, ← limits]
  simp

/-- Where no word reaches over the joint, a text is unbounding if its parts are. -/
theorem isUnbounding_append {left right : String}
    (apart : Text.Apart (Text.uppercase left.toList) (Text.uppercase right.toList)) :
    IsUnbounding (left ++ right) ↔ IsUnbounding left ∧ IsUnbounding right := by
  simp only [IsUnbounding, String.toList_append, Text.uppercase_append, Text.wordsOf_append apart,
    List.mem_append, not_or, forall_and]

/-- A text with a detached one behind it is bounded by a word of either. -/
theorem isUnbounding_append_detached {left right : String} (detached : Detached right) :
    IsUnbounding (left ++ right) ↔ IsUnbounding left ∧ IsUnbounding right :=
  isUnbounding_append (detached.apart _)

/-- A text behind a keyword that ends in a blank. -/
theorem isUnbounding_keyword {keyword : String}
    (ends : Text.isWord? (Text.uppercase keyword.toList).getLast? = false)
    (plain : IsUnbounding keyword) (rest : String) :
    IsUnbounding (keyword ++ rest) ↔ IsUnbounding rest := by
  rw [isUnbounding_append (.inl ends), and_iff_right plain]

/-- A text behind a keyword that bounds. -/
theorem not_isUnbounding_keyword {keyword : String}
    (ends : Text.isWord? (Text.uppercase keyword.toList).getLast? = false)
    (bounds : ¬IsUnbounding keyword) (rest : String) : ¬IsUnbounding (keyword ++ rest) := by
  rw [isUnbounding_append (.inl ends)]
  exact fun both => bounds both.1

/-- A list with commas is bounded by a word of one of its texts. -/
theorem isUnbounding_intercalate (texts : List String) :
    IsUnbounding (", ".intercalate texts) ↔ ∀ text ∈ texts, IsUnbounding text := by
  induction texts with
  | nil => exact iff_of_true (by decide) (List.forall_mem_nil _)
  | cons text rest ih =>
    cases rest with
    | nil => simp
    | cons second others =>
      have comma : Text.Apart (Text.uppercase text.toList)
          (Text.uppercase (", " ++ ", ".intercalate (second :: others)).toList) := by
        right
        rw [String.toList_append]
        rfl
      rw [String.intercalate_cons_cons, String.append_assoc, isUnbounding_append comma,
        isUnbounding_keyword (by decide) (by decide), ih]
      exact List.forall_mem_cons.symm

/-- A name of ASCII words none of which bounds. -/
def IsUnboundingName (name : String) : Prop :=
  ∀ part ∈ parts name, Letters part.toList ∧ (∀ character ∈ part.toList, character.toNat < 128) ∧
    ∀ keyword ∈ boundingWords, keyword.toList ≠ part.toList.map Char.toUpper

instance : DecidablePred IsUnboundingName := fun name =>
  inferInstanceAs (Decidable (∀ part ∈ parts name, Letters part.toList ∧
    (∀ character ∈ part.toList, character.toNat < 128) ∧
    ∀ keyword ∈ boundingWords, keyword.toList ≠ part.toList.map Char.toUpper))

/-- A name of words that do not bound has no bounding word. -/
theorem IsUnboundingName.isUnbounding {name : String} (plain : IsUnboundingName name) :
    IsUnbounding name := by
  intro keyword listed member
  rw [(words_of_name (fun part member => (plain part member).2.1)
    (fun part member => (plain part member).1)).2] at member
  obtain ⟨part, inName, same⟩ := List.mem_map.1 member
  exact (plain part inName).2.2 keyword listed same.symm

/-! ### The parts of a statement -/

section Parts

variable {query : Query}

/-- Only a selected field can bring a bounding word into the projection. -/
theorem isUnbounding_projectionSql :
    IsUnbounding query.projectionSql ↔ ∀ field ∈ query.fields, IsUnbounding field := by
  rw [Query.projectionSql]
  split
  · next none =>
    rw [List.isEmpty_iff.1 none]
    exact iff_of_true (by decide) (List.forall_mem_nil _)
  · exact isUnbounding_intercalate _

/-- The texts of a join that are printed as they are. -/
def joinTexts (join : Join) : List String := [join.table, join.left, join.operator, join.right]

/-- Only the texts of the joins themselves can bring a bounding word into them. -/
theorem isUnbounding_joins (joined : List Join) :
    IsUnbounding (String.join (joined.map joinText)) ↔
      ∀ join ∈ joined, ∀ text ∈ joinTexts join, IsUnbounding text := by
  induction joined with
  | nil => exact iff_of_true (by decide) (List.forall_mem_nil _)
  | cons join others ih =>
    have kind : Text.isWord? (Text.uppercase (" " ++ join.kind.sql ++ " ").toList).getLast? =
        false ∧ IsUnbounding (" " ++ join.kind.sql ++ " ") := by
      cases join.kind <;> decide
    have on (rest : String) : IsUnbounding (" ON " ++ rest) ↔ IsUnbounding rest :=
      isUnbounding_keyword (by decide) (by decide) rest
    have blank (rest : String) : IsUnbounding (" " ++ rest) ↔ IsUnbounding rest :=
      isUnbounding_keyword (by decide) (by decide) rest
    have opened : String.join ((join :: others).map joinText) = " " ++ join.kind.sql ++ " " ++
        (join.table ++ (" ON " ++ (join.left ++ (" " ++ (join.operator ++ (" " ++ (join.right ++
          String.join (others.map joinText)))))))) := by
      simp only [List.map_cons, String.join_cons, joinText, String.append_assoc]
    rw [opened, isUnbounding_keyword kind.1 kind.2,
      isUnbounding_append_detached (detached_keyword (by decide) _),
      on,
      isUnbounding_append_detached (detached_keyword (by decide) _), blank,
      isUnbounding_append_detached (detached_keyword (by decide) _), blank,
      isUnbounding_append_detached (detached_joins others), ih, List.forall_mem_cons]
    simp [joinTexts, and_assoc]

/-- Only a sort key can bring a bounding word into the order. -/
theorem isUnbounding_sortSql :
    IsUnbounding query.sortSql ↔ ∀ key ∈ query.sortKeys, IsUnbounding key.1 := by
  rw [Query.sortSql]
  split
  · next none =>
    rw [List.isEmpty_iff.1 none]
    exact iff_of_true (by decide) (List.forall_mem_nil _)
  · rw [isUnbounding_keyword (by decide) (by decide), isUnbounding_intercalate,
      List.forall_mem_map]
    refine forall₂_congr fun key listed => ?_
    have direction : IsUnbounding key.2.sql := by
      cases key.2 <;> decide
    rw [String.append_assoc, isUnbounding_append_detached (detached_keyword (by decide) _),
      isUnbounding_keyword (by decide) (by decide), and_iff_left direction]

/-- The paging bounds a statement wherever there is any, also if there is an offset alone. -/
theorem isUnbounding_pagingSql :
    IsUnbounding query.pagingSql ↔ query.limit = none ∧ query.offset = none := by
  have limited (text rest : String) : ¬IsUnbounding (" LIMIT " ++ text ++ rest) := by
    rw [String.append_assoc]
    exact not_isUnbounding_keyword (by decide) (by decide) _
  rw [Query.pagingSql]
  cases limit : query.limit with
  | none =>
    cases offset : query.offset with
    | none => exact iff_of_true (by decide) ⟨rfl, rfl⟩
    | some skipped => exact iff_of_false (limited "-1" _) (by simp)
  | some bound => exact iff_of_false (limited bound.repr _) (by simp)

/-- The restriction bounds a statement if the condition holds a predicate. -/
theorem isUnbounding_whereSql {condition : Condition} {fragment : Fragment}
    (compiled : condition.compile = .ok fragment) :
    IsUnbounding (Query.whereSql fragment) ↔ condition.holdsPredicate = false := by
  rw [Query.whereSql_of_compile compiled]
  cases condition.holdsPredicate with
  | false => exact iff_of_true (by decide : IsUnbounding "") rfl
  | true =>
    exact iff_of_false (not_isUnbounding_keyword (by decide : _ = false) (by decide) fragment.sql)
      nofun

end Parts

/-- The texts that the selection of a query takes over as they are, but for its condition. -/
def selectTexts (query : Query) : List String :=
  query.table :: query.fields ++ query.joins.flatMap joinTexts ++ query.sortKeys.map Prod.fst

/-- The names among these texts: all but the operators of the joins. -/
def selectNames (query : Query) : List String :=
  query.table :: query.fields ++
    query.joins.flatMap (fun join => [join.table, join.left, join.right]) ++
    query.sortKeys.map Prod.fst

/-- Which selections have no bounding word. -/
theorem isUnbounding_select {query : Query} {fragment : Fragment}
    (compiled : query.condition.compile = .ok fragment) :
    ∃ rest, query.toSelect = .ok ⟨"SELECT " ++ rest, fragment.arguments⟩ ∧
      (IsUnbounding ("SELECT " ++ rest) ↔
        (query.condition.holdsPredicate = false ∧ query.limit = none ∧ query.offset = none) ∧
          ∀ text ∈ selectTexts query, IsUnbounding text) := by
  refine ⟨query.projectionSql ++ (" FROM " ++ (query.table ++ (query.joinsSql ++
    (Query.whereSql fragment ++ (query.sortSql ++ query.pagingSql))))), ?_, ?_⟩
  · rw [Query.toSelect, compiled]
    simp only [Except.map, String.append_assoc]
  · have sorted : Detached (query.sortSql ++ query.pagingSql) :=
      detached_sortSql.append detached_pagingSql
    have filtered : Detached (Query.whereSql fragment ++ (query.sortSql ++ query.pagingSql)) :=
      detached_whereSql.append sorted
    have joined : Detached query.joinsSql := detached_joins query.joins
    rw [isUnbounding_keyword (by decide) (by decide),
      isUnbounding_append_detached (detached_keyword (by decide) _),
      isUnbounding_keyword (by decide) (by decide),
      isUnbounding_append_detached (joined.append filtered),
      isUnbounding_append_detached filtered, isUnbounding_append_detached sorted,
      isUnbounding_append_detached detached_pagingSql, isUnbounding_projectionSql,
      isUnbounding_whereSql compiled, isUnbounding_sortSql, isUnbounding_pagingSql]
    have joins : IsUnbounding query.joinsSql ↔ _ := isUnbounding_joins query.joins
    rw [joins]
    simp only [selectTexts, List.cons_append, List.forall_mem_cons, List.forall_mem_append,
      List.forall_mem_flatMap, List.forall_mem_map]
    tauto

/-! ### The finding -/

/-- The analysis reports the scan that the statement's text is read to be. -/
theorem hasFullTableScan_analyze (optimizer : Optimizer) (sql : String) :
    (optimizer.analyze sql).hasFullTableScan = detectFullTableScan sql := rfl

/-- A table scan is among the concerns about a statement if one is detected. -/
theorem fullTableScan_mem_concerns {sql : String} :
    .fullTableScan ∈ concerns sql ↔ detectFullTableScan sql = true := by
  simp [concerns, concernsOf, detectFullTableScan]

/-- No other concern makes the suggestion about a table scan. -/
theorem suggestion_eq_iff {concern : Concern} :
    concern.suggestion = Concern.fullTableScan.suggestion ↔ concern = .fullTableScan := by
  constructor
  · intro same
    cases concern with
    | fullTableScan => rfl
    | manyJoins joins =>
      have ends : (Concern.manyJoins joins).suggestion.toList.getLast? = some 'g' := by
        simp only [Concern.suggestion, String.toList_append, List.getLast?_append]
        rfl
      rw [same] at ends
      exact absurd ends (by decide)
    | selectStar | orPredicate | leadingWildcard | functionOnColumn | subquery =>
      exact absurd same (by decide)
  · rintro rfl
    rfl

/-- The suggestion about a table scan is made exactly where one is detected. -/
theorem scanSuggestion_mem_suggestions {optimizer : Optimizer} {sql : String} :
    Concern.fullTableScan.suggestion ∈ (optimizer.analyze sql).suggestions ↔
      detectFullTableScan sql = true := by
  have indexed (table field : String) :
      Optimizer.indexSuggestion table field ≠ Concern.fullTableScan.suggestion := by
    intro same
    have starts : (Optimizer.indexSuggestion table field).toList.head? = some 'C' := by
      unfold Optimizer.indexSuggestion
      rw [String.append_assoc, String.append_assoc, String.toList_append, List.head?_append]
      rfl
    rw [same] at starts
    exact absurd starts (by decide)
  have concerned : Concern.fullTableScan.suggestion ∈ (concerns sql).map Concern.suggestion ↔
      detectFullTableScan sql = true := by
    simp only [List.mem_map, suggestion_eq_iff, exists_eq_right, fullTableScan_mem_concerns]
  rw [Optimizer.analyze, ← concerned]
  cases targetTable? sql with
  | none => simp
  | some table => simp [indexed]

/-- The analysis of a selection reports a table scan, as a finding and as a suggestion, exactly
if the condition holds no predicate at any depth, the query has neither limit nor offset, and
nothing that is printed as it is has a bounding word. Where the names are words that do not
bound, in any case, only the operators of the joins are left to have one. -/
theorem scan_reported_iff (optimizer : Optimizer) {query : Query} {fragment : Fragment}
    (compiled : query.condition.compile = .ok fragment) :
    ∃ statement, query.toSelect = .ok statement ∧
      let analysis := optimizer.analyze statement.sql
      let unbounded := query.condition.holdsPredicate = false ∧ query.limit = none ∧
        query.offset = none
      (analysis.hasFullTableScan = true ↔
        unbounded ∧ ∀ text ∈ selectTexts query, IsUnbounding text) ∧
      ((∀ name ∈ selectNames query, IsUnboundingName name) →
        (analysis.hasFullTableScan = true ↔
          unbounded ∧ ∀ join ∈ query.joins, IsUnbounding join.operator)) ∧
      (.fullTableScan ∈ concerns statement.sql ↔ analysis.hasFullTableScan = true) ∧
      (Concern.fullTableScan.suggestion ∈ analysis.suggestions ↔
        analysis.hasFullTableScan = true) := by
  obtain ⟨rest, written, unbounding⟩ := isUnbounding_select compiled
  refine ⟨_, written, ?_⟩
  intro analysis unbounded
  have detected : analysis.hasFullTableScan = true ↔
      unbounded ∧ ∀ text ∈ selectTexts query, IsUnbounding text := by
    rw [hasFullTableScan_analyze, detectFullTableScan_select]
    exact unbounding
  have finding : .fullTableScan ∈ concerns ("SELECT " ++ rest) ↔
      analysis.hasFullTableScan = true := by
    rw [hasFullTableScan_analyze]
    exact fullTableScan_mem_concerns
  have suggested : Concern.fullTableScan.suggestion ∈ analysis.suggestions ↔
      analysis.hasFullTableScan = true := by
    rw [hasFullTableScan_analyze]
    exact scanSuggestion_mem_suggestions
  refine ⟨detected, fun names => detected.trans (and_congr_right fun _ => ?_), finding,
    suggested⟩
  have plain : ∀ name ∈ selectNames query, IsUnbounding name :=
    fun name listed => (names name listed).isUnbounding
  simp only [selectNames, List.cons_append, List.forall_mem_cons, List.forall_mem_append,
    List.forall_mem_flatMap, List.forall_mem_map] at plain
  obtain ⟨table, ⟨fields, joins⟩, sortKeys⟩ := plain
  simp only [selectTexts, List.cons_append, List.forall_mem_cons, List.forall_mem_append,
    List.forall_mem_flatMap, List.forall_mem_map]
  constructor
  · exact fun all join listed => all.2.1.2 join listed _ (by simp [joinTexts])
  · intro operators
    refine ⟨table, ⟨fields, fun join listed => ?_⟩, sortKeys⟩
    simpa [joinTexts, operators join listed] using joins join listed

/-- Groups that hold nothing, a join, a projection and a sort key make no difference. -/
theorem scan_reported_iff_joined :
    let query : Query := { Query.ofTable "users" with
      fields := ["users.date", "count"]
      joins := [⟨.left, "teams", "users.team_id", "=", "teams.id"⟩]
      condition := [.group [.connective .or], .connective .and, .group [.group []]]
      sortKeys := [("length", .descending)] }
    let optimizer : Optimizer := .new .empty .standard .warning
    query.condition.compile = .ok ⟨"", [], 0⟩ ∧
    (∀ name ∈ selectNames query, IsUnboundingName name) ∧
    ∃ statement, query.toSelect = .ok statement ∧
      (optimizer.analyze statement.sql).hasFullTableScan = true ∧
      Concern.fullTableScan.suggestion ∈ (optimizer.analyze statement.sql).suggestions := by
  intro query optimizer
  have compiled : query.condition.compile = .ok ⟨"", [], 0⟩ := rfl
  have names : ∀ name ∈ selectNames query, IsUnboundingName name := by decide
  obtain ⟨statement, written, -, named, -, suggested⟩ := scan_reported_iff optimizer compiled
  have reported := (named names).2 ⟨⟨rfl, rfl, rfl⟩, by decide⟩
  exact ⟨compiled, names, statement, written, reported, suggested.2 reported⟩

/-- An offset alone keeps a selection without predicate and limit from being reported, and so
does the operator of a join that brings a predicate of its own. -/
theorem scan_unreported :
    let optimizer : Optimizer := .new .empty .standard .warning
    let skipping : Query := (Query.ofTable "users").skip 5
    let joining : Query := (Query.ofTable "users").join
      ⟨.inner, "teams", "users.team_id", "= teams.id WHERE 1 =", "users.active"⟩
    ∀ query ∈ [skipping, joining],
      query.condition.holdsPredicate = false ∧ query.limit = none ∧
      (∀ name ∈ selectNames query, IsUnboundingName name) ∧
      ∃ statement, query.toSelect = .ok statement ∧
        (optimizer.analyze statement.sql).hasFullTableScan = false ∧
        Concern.fullTableScan.suggestion ∉ (optimizer.analyze statement.sql).suggestions := by
  intro optimizer skipping joining
  have unreported {query : Query} (compiled : query.condition.compile = .ok .empty)
      (bounded : ¬((query.condition.holdsPredicate = false ∧ query.limit = none ∧
        query.offset = none) ∧ ∀ text ∈ selectTexts query, IsUnbounding text)) :
      ∃ statement, query.toSelect = .ok statement ∧
        (optimizer.analyze statement.sql).hasFullTableScan = false ∧
        Concern.fullTableScan.suggestion ∉ (optimizer.analyze statement.sql).suggestions := by
    obtain ⟨rest, written, unbounding⟩ := isUnbounding_select compiled
    have undetected : detectFullTableScan ("SELECT " ++ rest) = false := by
      rw [← Bool.not_eq_true, detectFullTableScan_select, unbounding]
      exact bounded
    refine ⟨_, written, undetected, ?_⟩
    rw [scanSuggestion_mem_suggestions, undetected]
    exact Bool.false_ne_true
  refine List.forall_mem_cons.2 ⟨⟨rfl, rfl, by decide, unreported rfl ?_⟩,
    List.forall_mem_singleton.2 ⟨rfl, rfl, by decide, unreported rfl ?_⟩⟩
  · exact fun whole => Option.some_ne_none _ whole.1.2.2
  · exact fun whole => absurd (whole.2 "= teams.id WHERE 1 =" (by decide)) (by decide)

end Analysis

end QueryKit
