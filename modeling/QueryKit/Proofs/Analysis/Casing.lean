import QueryKit.Optimizer.Basic
import QueryKit.Proofs.Analysis.Names

/-!
# The case of letters

Two statements that differ in the case of ASCII letters only are analyzed alike. What reads a
statement in upper case sees the same characters in both. The search for the table reads the
statement as it stands, but it commutes with putting ASCII letters in upper case, so it stops at
the same position of both; the names found there differ in case only, and the registry gives the
same table for them.
-/

namespace QueryKit

namespace Text

/-- Blanks have no case. -/
theorem isBlank_toUpper (character : Char) : isBlank character.toUpper = isBlank character :=
  apply_toUpper isBlank (by decide) character

/-- A run of characters is as long in upper case, if what continues it does not regard case. -/
theorem takeWhile_map_toUpper {continues : Char → Bool}
    (folds : ∀ character : Char, continues character.toUpper = continues character)
    (text : List Char) :
    (text.map Char.toUpper).takeWhile continues =
      (text.takeWhile continues).map Char.toUpper := by
  rw [List.takeWhile_map, show continues ∘ Char.toUpper = continues from funext folds]

/-- A character and its ASCII capital have the same full upper case. -/
theorem upperChar_toUpper (character : Char) :
    upperChar character.toUpper = upperChar character :=
  apply_toUpper upperChar (by decide) character

/-- Texts that differ in the case of ASCII letters only are equal in upper case. -/
theorem uppercase_eq_of_map {left right : List Char}
    (same : left.map Char.toUpper = right.map Char.toUpper) : uppercase left = uppercase right := by
  have folded (text : List Char) : uppercase (text.map Char.toUpper) = uppercase text := by
    rw [uppercase, List.flatMap_map]
    exact List.flatMap_congr fun character _ => upperChar_toUpper character
  rw [← folded left, same, folded]

end Text

/-! ### The search for the table -/

/-- A position in a text with its ASCII letters in upper case. -/
def Cursor.upper (cursor : Cursor) : Cursor where
  before := cursor.before.map Char.toUpper
  after := cursor.after.map Char.toUpper

namespace Cursor

/-- Whether a word begins or ends at a position does not depend on case. -/
theorem atEdge_upper (cursor : Cursor) : cursor.upper.atEdge = cursor.atEdge := by
  rw [atEdge, atEdge, Text.wordBoundary, Text.wordBoundary, upper, List.head?_map,
    Text.isWord?_map_toUpper, Text.isWord?_map_toUpper]

/-- Moving past some characters commutes with putting the text in upper case. -/
theorem skip_upper (cursor : Cursor) (taken : List Char) :
    cursor.upper.skip (taken.map Char.toUpper) = (cursor.skip taken).upper := by
  rw [skip, skip, upper, upper]
  congr 1
  · rw [List.getLast?_map, Option.map_or]
  · rw [List.length_map, List.map_drop]

end Cursor

namespace Pattern

/-- A match that does not regard case is found at the same position of the text in upper case. -/
theorem matchWith?_upper (pattern : Pattern) (cursor : Cursor) :
    matchWith? Char.toUpper pattern cursor.upper =
      (matchWith? Char.toUpper pattern cursor).map Cursor.upper := by
  induction pattern generalizing cursor with
  | nil => rfl
  | cons step rest ih =>
    cases step with
    | edge =>
      rw [matchWith?, matchWith?, Cursor.atEdge_upper]
      split
      · exact ih cursor
      · rfl
    | literal character =>
      obtain ⟨before, after⟩ := cursor
      cases after with
      | nil => rfl
      | cons next after =>
        simp only [matchWith?, Cursor.upper, List.map_cons, Char.toUpper_toUpper_eq_toUpper]
        split
        · exact ih ⟨some next, after⟩
        · rfl
    | blanks =>
      have taken := Text.takeWhile_map_toUpper Text.isBlank_toUpper cursor.after
      rw [matchWith?, matchWith?, Cursor.upper, taken]
      cases cursor.after.takeWhile Text.isBlank with
      | nil => rfl
      | cons first others =>
        have following := ih (cursor.skip (first :: others))
        rwa [← Cursor.skip_upper] at following
    | optionalBlanks =>
      have taken := Text.takeWhile_map_toUpper Text.isBlank_toUpper cursor.after
      have following := ih (cursor.skip (cursor.after.takeWhile Text.isBlank))
      rw [← Cursor.skip_upper, ← taken] at following
      exact following

/-- The first match that does not regard case is the same in the text in upper case, if what may
follow it does not regard case either. -/
theorem firstAfter?_upper {patterns : List Pattern} {accept : List Char → Bool}
    (folds : ∀ text, accept (text.map Char.toUpper) = accept text) (before : Option Char)
    (text : List Char) :
    firstAfter? Char.toUpper patterns accept (before.map Char.toUpper) (text.map Char.toUpper) =
      (firstAfter? Char.toUpper patterns accept before text).map (List.map Char.toUpper) := by
  induction text generalizing before with
  | nil => rfl
  | cons next after ih =>
    have here : (patterns.findSome? fun pattern =>
        ((matchWith? Char.toUpper pattern
          ⟨before.map Char.toUpper, next.toUpper :: after.map Char.toUpper⟩).map
            Cursor.after).filter accept) =
        (patterns.findSome? fun pattern =>
          ((matchWith? Char.toUpper pattern ⟨before, next :: after⟩).map
            Cursor.after).filter accept).map (List.map Char.toUpper) := by
      rw [List.map_findSome?]
      refine congrArg (patterns.findSome? ·) (funext fun pattern => ?_)
      have found := matchWith?_upper pattern ⟨before, next :: after⟩
      have rest : Cursor.after ∘ Cursor.upper = List.map Char.toUpper ∘ Cursor.after := rfl
      rw [Cursor.upper, List.map_cons] at found
      rw [Function.comp_apply, found, Option.map_map, rest, ← Option.map_map, Option.filter_map,
        show accept ∘ List.map Char.toUpper = accept from funext folds]
    rw [List.map_cons, firstAfter?, firstAfter?, here]
    cases patterns.findSome? fun pattern =>
        ((matchWith? Char.toUpper pattern ⟨before, next :: after⟩).map
          Cursor.after).filter accept with
    | none => exact ih (some next)
    | some rest => rfl

/-- What follows a match is the end of the text. -/
theorem suffix_of_matchWith? {fold : Char → Char} {pattern : Pattern} {cursor found : Cursor}
    (matched : matchWith? fold pattern cursor = some found) : found.after <:+ cursor.after := by
  induction pattern generalizing cursor with
  | nil =>
    obtain rfl := Option.some.inj matched
    exact List.suffix_rfl
  | cons step rest ih =>
    cases step with
    | edge =>
      rw [matchWith?, Option.ite_none_right_eq_some] at matched
      exact ih matched.2
    | literal character =>
      obtain ⟨before, after⟩ := cursor
      cases after with
      | nil => simp [matchWith?] at matched
      | cons next after =>
        simp only [matchWith?, Option.ite_none_right_eq_some] at matched
        exact (ih matched.2).trans (List.suffix_cons next after)
    | blanks =>
      rw [matchWith?] at matched
      split at matched
      · cases matched
      · exact (ih matched).trans (List.drop_suffix _ _)
    | optionalBlanks =>
      rw [matchWith?] at matched
      exact (ih matched).trans (List.drop_suffix _ _)

/-- What a search finds is the rest of the text from some position on. -/
theorem suffix_of_firstAfter? {fold : Char → Char} {patterns : List Pattern}
    {accept : List Char → Bool} {before : Option Char} {text rest : List Char}
    (found : firstAfter? fold patterns accept before text = some rest) : rest <:+ text := by
  induction text generalizing before with
  | nil => cases found
  | cons next after ih =>
    rw [firstAfter?] at found
    split at found
    · next here =>
      obtain rfl := Option.some.inj found
      obtain ⟨pattern, -, accepted⟩ := List.exists_of_findSome?_eq_some here
      obtain ⟨matched, -⟩ := Option.filter_eq_some_iff.1 accepted
      obtain ⟨cursor, reached, rfl⟩ := Option.map_eq_some_iff.1 matched
      exact suffix_of_matchWith? reached
    · exact (ih found).trans (List.suffix_cons next after)

end Pattern

namespace Analysis

open Optimizer (indexSuggestion)

/-- Whether a character can begin an identifier does not depend on its case. -/
theorem startsIdentifier_toUpper (character : Char) :
    startsIdentifier character.toUpper = startsIdentifier character :=
  Text.apply_toUpper startsIdentifier (by decide) character

/-- Whether a character can continue an identifier does not depend on its case. -/
theorem continuesIdentifier_toUpper (character : Char) :
    continuesIdentifier character.toUpper = continuesIdentifier character :=
  Text.apply_toUpper continuesIdentifier (by decide) character

/-- The table of a statement in upper case is found where that of the statement is. -/
theorem fromTargetTable?_upper (statement : List Char) :
    fromTargetTable? (statement.map Char.toUpper) =
      (fromTargetTable? statement).map (List.map Char.toUpper) := by
  refine Pattern.firstAfter?_upper (fun text => ?_) none statement
  cases text with
  | nil => rfl
  | cons first others => exact startsIdentifier_toUpper first

/-- The number of characters before the first table that a statement names. -/
def targetPosition? (sql : String) : Option Nat :=
  (fromTargetTable? sql.toList).map fun rest => sql.length - rest.length

/-- The table is read at its position. -/
theorem targetTable?_eq (sql : String) :
    targetTable? sql = (targetPosition? sql).map fun position =>
      String.ofList ((sql.toList.drop position).takeWhile continuesIdentifier) := by
  rw [targetTable?, targetPosition?, Option.map_map]
  refine Option.map_congr fun rest found => ?_
  have suffix := Pattern.suffix_of_firstAfter? found
  rw [Function.comp_apply, ← String.length_toList, ← List.suffix_iff_eq_drop.1 suffix]

section SameText

variable {left right : String} (same : sameName left right = true)

include same

/-- Texts that differ in case only are equally long. -/
theorem length_eq_of_sameName : left.length = right.length := by
  have lengths := congrArg List.length ((Text.sameName_iff left right).1 same)
  rwa [List.length_map, List.length_map, String.length_toList, String.length_toList] at lengths

/-- Texts that differ in case only are equal in full upper case. -/
theorem uppercase_eq_of_sameName : Text.uppercase left.toList = Text.uppercase right.toList :=
  Text.uppercase_eq_of_map ((Text.sameName_iff left right).1 same)

/-- Either both statements name a table or none does, and what follows differs in case only. -/
theorem fromTargetTable?_rel :
    Option.Rel (fun rest other => rest.map Char.toUpper = other.map Char.toUpper)
      (fromTargetTable? left.toList) (fromTargetTable? right.toList) := by
  have upper := fromTargetTable?_upper left.toList
  rw [(Text.sameName_iff left right).1 same, fromTargetTable?_upper] at upper
  cases first : fromTargetTable? left.toList with
  | none =>
    cases second : fromTargetTable? right.toList with
    | none => exact .none
    | some other => simp [first, second] at upper
  | some rest =>
    cases second : fromTargetTable? right.toList with
    | none => simp [first, second] at upper
    | some other =>
      rw [first, second] at upper
      exact .some (Option.some.inj upper).symm

/-- The search for the table stops at the same position of both statements. -/
theorem targetPosition?_eq_of_sameName : targetPosition? left = targetPosition? right := by
  have found := fromTargetTable?_rel same
  rw [targetPosition?, targetPosition?, length_eq_of_sameName same]
  generalize fromTargetTable? left.toList = first at found ⊢
  generalize fromTargetTable? right.toList = second at found ⊢
  cases found with
  | none => rfl
  | some upper =>
    have lengths := congrArg List.length upper
    rw [List.length_map, List.length_map] at lengths
    rw [Option.map_some, Option.map_some, lengths]

/-- The tables that are found have names that differ in case only. -/
theorem targetTable?_rel :
    Option.Rel (fun table other => sameName table other = true)
      (targetTable? left) (targetTable? right) := by
  have found := fromTargetTable?_rel same
  rw [targetTable?, targetTable?]
  generalize fromTargetTable? left.toList = first at found ⊢
  generalize fromTargetTable? right.toList = second at found ⊢
  cases found with
  | none => exact .none
  | some upper =>
    refine .some ((Text.sameName_iff _ _).2 ?_)
    rw [String.toList_ofList, String.toList_ofList,
      ← Text.takeWhile_map_toUpper continuesIdentifier_toUpper, upper,
      Text.takeWhile_map_toUpper continuesIdentifier_toUpper]

end SameText

/-- Two suggestions about two statements: they are equal, or they name the tables of the
statements and the tables differ in case only. -/
inductive SameSuggestion (left right : String) : String → String → Prop
  | equal (text : String) : SameSuggestion left right text text
  | index {table other : String} (field : String) (here : targetTable? left = some table)
      (there : targetTable? right = some other) (names : sameName table other = true) :
      SameSuggestion left right (indexSuggestion table field) (indexSuggestion other field)

end Analysis

/-! ### Lookup and analysis -/

namespace Registry

variable {registry : Registry}

/-- No two tables have names that differ in case only. -/
def NamesApart (registry : Registry) : Prop :=
  registry.tables.Pairwise fun table other => sameName table.name other.name = false

instance : DecidablePred NamesApart := fun registry =>
  inferInstanceAs (Decidable (registry.tables.Pairwise _))

/-- Registered tables with names that differ in case only are one table. -/
theorem NamesApart.eq (apart : registry.NamesApart) {table other : Table}
    (known : table ∈ registry.tables) (listed : other ∈ registry.tables)
    (same : sameName table.name other.name = true) : table = other := by
  by_contra differs
  have : Std.Symm fun table other : Table => sameName table.name other.name = false :=
    ⟨fun table other distinct => (sameName_comm _ _).trans distinct⟩
  rw [List.Pairwise.forall apart known listed differs] at same
  cases same

/-- A table of exactly the wanted name is the only one that a search without regard to case can
find. -/
theorem NamesApart.find? (apart : registry.NamesApart) (name : String) :
    registry.find? name = registry.tables.find? fun table => sameName table.name name := by
  rw [Registry.find?]
  split
  · next table exact =>
    have known := List.mem_of_find?_eq_some exact
    have named : table.name = name := by simpa using List.find?_some exact
    cases found : registry.tables.find? fun table => sameName table.name name with
    | none =>
      have missed := List.find?_eq_none.1 found table known
      rw [named, sameName_refl] at missed
      exact absurd rfl missed
    | some other =>
      have same := List.find?_some found
      rw [← named, sameName_comm] at same
      rw [apart.eq known (List.mem_of_find?_eq_some found) same]
  · rfl

/-- Names that differ in case only are looked up alike. -/
theorem NamesApart.find?_eq_of_sameName (apart : registry.NamesApart) {name other : String}
    (same : sameName name other = true) : registry.find? name = registry.find? other := by
  rw [apart.find?, apart.find?]
  refine congrArg (registry.tables.find? ·) (funext fun table => ?_)
  rw [sameName, sameName, eq_of_beq same]

end Registry

namespace Optimizer

open Analysis

variable (optimizer : Optimizer)

/-- The fields that a statement should have indexes on, in the table that it names. -/
theorem analyze_missingIndexes (sql : String) :
    (optimizer.analyze sql).missingIndexes =
      ((targetTable? sql).map (optimizer.missingIndexes sql)).getD [] := by
  rw [analyze]
  cases targetTable? sql <;> rfl

/-- The suggestions are those about the concerns and, for each such field, one to index it. -/
theorem analyze_suggestions (sql : String) :
    (optimizer.analyze sql).suggestions =
      (concerns sql).map Concern.suggestion ++
        ((targetTable? sql).map fun table =>
          (optimizer.missingIndexes sql table).map (indexSuggestion table)).getD [] := by
  rw [analyze]
  cases targetTable? sql <;> rfl

/-- What the analyses of two statements have in common if the statements differ in case only. -/
structure AnalyzesAlike (left right : String) : Prop where
  complexityScore :
    (optimizer.analyze left).complexityScore = (optimizer.analyze right).complexityScore
  estimatedMillis :
    (optimizer.analyze left).estimatedMillis = (optimizer.analyze right).estimatedMillis
  hasFullTableScan :
    (optimizer.analyze left).hasFullTableScan = (optimizer.analyze right).hasFullTableScan
  missingIndexes :
    (optimizer.analyze left).missingIndexes = (optimizer.analyze right).missingIndexes
  suggestions : List.Forall₂ (SameSuggestion left right)
    (optimizer.analyze left).suggestions (optimizer.analyze right).suggestions
  targetTable : Option.Rel (fun table other => sameName table other = true)
    (targetTable? left) (targetTable? right)
  targetPosition : targetPosition? left = targetPosition? right
  /-- The position is the one at which the table is read. -/
  reads : ∀ sql ∈ [left, right], targetTable? sql = (targetPosition? sql).map fun position =>
    String.ofList ((sql.toList.drop position).takeWhile continuesIdentifier)

section SameText

variable {optimizer} {left right : String} (same : sameName left right = true)

include same

/-- The concerns about a statement are read off its upper case. -/
theorem concerns_eq_of_sameName : concerns left = concerns right := by
  rw [concerns, concerns, uppercase_eq_of_sameName same]

/-- Both spellings of a statement lack the same indexes, under both spellings of its table. -/
theorem missingIndexes_eq_of_sameName (apart : optimizer.registry.NamesApart) {table other : String}
    (names : sameName table other = true) :
    optimizer.missingIndexes left table = optimizer.missingIndexes right other := by
  have fields (schema : Table) :
      Analysis.missingIndexes left schema = Analysis.missingIndexes right schema := by
    rw [Analysis.missingIndexes, Analysis.missingIndexes, uppercase_eq_of_sameName same]
  rw [missingIndexes, missingIndexes, apart.find?_eq_of_sameName names]
  cases optimizer.registry.find? other with
  | none => rfl
  | some schema => exact fields schema

/-- Statements that differ in the case of ASCII letters only are analyzed alike. -/
theorem analyzesAlike (apart : optimizer.registry.NamesApart) : optimizer.AnalyzesAlike left right := by
  have tables := targetTable?_rel same
  refine ⟨?_, ?_, ?_, ?_, ?_, tables, targetPosition?_eq_of_sameName same,
    fun sql _ => targetTable?_eq sql⟩
  · rw [analyze, analyze, concerns_eq_of_sameName same]
  · rw [analyze, analyze, concerns_eq_of_sameName same]
  · simp only [analyze, detectFullTableScan, uppercase_eq_of_sameName same]
  · rw [analyze_missingIndexes, analyze_missingIndexes]
    generalize targetTable? left = first at tables ⊢
    generalize targetTable? right = second at tables ⊢
    cases tables with
    | none => rfl
    | some names => exact missingIndexes_eq_of_sameName same apart names
  · rw [analyze_suggestions, analyze_suggestions, concerns_eq_of_sameName same]
    refine List.rel_append (List.forall₂_same.2 fun text _ => .equal text) ?_
    cases here : targetTable? left with
    | none =>
      cases there : targetTable? right with
      | none => exact .nil
      | some other => simp [here, there] at tables
    | some table =>
      cases there : targetTable? right with
      | none => simp [here, there] at tables
      | some other =>
        rw [here, there, Option.rel_some_some] at tables
        rw [Option.map_some, Option.map_some, Option.getD_some, Option.getD_some,
          missingIndexes_eq_of_sameName same apart tables, List.forall₂_map_left_iff,
          List.forall₂_map_right_iff]
        exact List.forall₂_same.2 fun field _ => .index field here there tables

end SameText

/-- The keywords and the name of the table are in another case, and the upper-case form of the
statement is longer than the statement. -/
theorem analyzesAlike_mixed_case :
    let table : Table := ⟨"Streets", ["id", "straße"], [⟨"streets_id", ["id"]⟩]⟩
    let optimizer := Optimizer.new (.ofList [table]) .standard .warning
    let left := "SELECT * FROM streets WHERE straße = ?"
    let right := "select * from STREETS where STRAßE = ?"
    optimizer.registry.NamesApart ∧ sameName left right = true ∧
      optimizer.AnalyzesAlike left right ∧
      (optimizer.analyze left).suggestions =
        ["Avoid SELECT *; list only the columns you need",
          "Consider adding an index on streets.straße"] ∧
      (optimizer.analyze right).suggestions =
        ["Avoid SELECT *; list only the columns you need",
          "Consider adding an index on STREETS.straße"] ∧
      targetPosition? right = some 14 := by
  intro table optimizer left right
  have apart : optimizer.registry.NamesApart := by decide +kernel
  have same : sameName left right = true := by decide +kernel
  refine ⟨apart, same, analyzesAlike same apart, ?_, ?_, ?_⟩
  · decide +kernel
  · decide +kernel
  · decide +kernel

end Optimizer

end QueryKit
