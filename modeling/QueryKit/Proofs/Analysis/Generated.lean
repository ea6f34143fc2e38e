import QueryKit.Proofs.Analysis.Names
import QueryKit.Proofs.Condition.Binding
import QueryKit.Query.Sql

/-!
# Analysis of generated statements

The compiler and the analysis agree on the columns of a statement, though they meet in its text
alone. The text of a condition is neutral, whatever its groups and values, and adds the fields
of the condition; so a pass over a generated statement collects, from the clauses that it
should, the columns that were put there.
-/

namespace QueryKit

namespace Analysis

open Piece

/-! ### Conditions -/

namespace Neutral

variable {α : Type}

/-- A placeholder is neutral. -/
theorem mark : Neutral "?" [] := by
  decide

/-- A list of placeholders is neutral, however long it is. -/
theorem listText (first : α) (rest : List α) :
    Neutral (Test.listText placeholder first rest) [] := by
  induction rest generalizing first with
  | nil => exact mark
  | cons second rest ih => exact mark.join (by decide) (ih second)

/-- Every test is neutral when its operands are placeholders. -/
theorem test (test : Test α) : Neutral (test.text placeholder) [] := by
  cases test with
  | compare comparison value =>
    have operator : Neutral comparison.operator.sql [] := by
      cases comparison.operator <;> decide
    exact operator.join (by decide : Separator " ") mark
  | null negated =>
    cases negated with
    | false => exact (by decide : Neutral "IS NULL" [])
    | true => exact (by decide : Neutral "IS NOT NULL" [])
  | between low high =>
    exact (by decide : Neutral "BETWEEN ? AND ?" [])
  | member negated first rest =>
    have keyword : Neutral (memberKeyword negated) [] := by
      cases negated <;> decide
    have opened := keyword.join (by decide : Separator " (") (listText first rest)
    have closed := opened.join (by decide : Separator ")") empty
    simpa [Test.text] using closed

mutual

/-- A predicate adds its fields. -/
theorem predicate (predicate : Predicate α)
    (plain : ∀ field ∈ predicate.fields, IsPlainPath field) :
    Neutral (predicate.text placeholder) (predicate.fields.flatMap upperParts) := by
  match predicate with
  | .test field test =>
    have field := name (plain field (by simp [Predicate.fields]))
    simpa [Predicate.text, Predicate.fields] using
      field.join (by decide : Separator " ") (Neutral.test test)
  | .group inner =>
    have opened := empty.join (by decide : Separator "(") (sentence inner plain)
    simpa [Predicate.text, Predicate.fields] using
      opened.join (by decide : Separator ")") empty

/-- A sentence adds its fields. -/
theorem sentence (sentence : Sentence α)
    (plain : ∀ field ∈ sentence.fields, IsPlainPath field) :
    Neutral (sentence.text placeholder) (sentence.fields.flatMap upperParts) := by
  match sentence with
  | .single inner => exact predicate inner plain
  | .joined first connective rest =>
    have word : Separator connective.sql := by
      cases connective <;> decide
    have left := predicate first fun field member => plain field (by simp [Sentence.fields, member])
    have right := Neutral.sentence rest fun field member =>
      plain field (by simp [Sentence.fields, member])
    rw [Sentence.fields, List.flatMap_append]
    exact left.join word right

end

/-- The text of a condition adds its fields. -/
theorem condition {condition : Condition} {fragment : Fragment}
    (compiled : condition.compile = .ok fragment)
    (plain : ∀ field ∈ condition.fields, IsPlainPath field) :
    Neutral fragment.sql (condition.fields.flatMap upperParts) := by
  have fields := (Condition.values_and_fields_of_sentence?
    (Condition.writable_of_compile compiled)).2
  rw [Condition.eq_of_compile compiled, ← fields]
  rw [← fields] at plain
  cases meaning : condition.sentence? with
  | none => exact empty
  | some meant =>
    rw [meaning] at plain
    exact sentence meant plain

/-- Neutral texts with commas between them. -/
theorem list {items : List α} {text : α → String} {free : α → List (List Char)}
    (neutral : ∀ item ∈ items, Neutral (text item) (free item)) :
    Neutral (", ".intercalate (items.map text)) (items.flatMap free) := by
  induction items with
  | nil => exact empty
  | cons item rest ih =>
    have first := neutral item (by simp)
    cases rest with
    | nil => simpa using first
    | cons second others =>
      have following := ih fun item member => neutral item (by simp [member])
      rw [List.map_cons, List.map_cons, String.intercalate_cons_cons, List.flatMap_cons]
      exact first.join (by decide) following

end Neutral

/-! ### Passing over a statement -/

/-- What a pass over a text collects. -/
def collected (joins inside : Bool) (text : String) : List (List Char) :=
  indexedWords joins inside (Text.pieces (Text.uppercase text.toList))

/-- A text that is empty or starts with a space. -/
def Detached (text : String) : Prop := ∀ first ∈ text.toList.head?, first = ' '

/-- Two detached texts make a detached one. -/
theorem Detached.append {left right : String} (first : Detached left) (second : Detached right) :
    Detached (left ++ right) := by
  intro character head
  rw [String.toList_append, List.head?_append, Option.mem_def] at head
  cases start : left.toList.head? with
  | some found =>
    rw [start, Option.some_or] at head
    exact first character (start.trans head)
  | none =>
    rw [start, Option.none_or] at head
    exact second character head

/-- The empty text is detached. -/
theorem detached_empty : Detached "" := by
  simp [Detached]

/-- A text that begins with a keyword after a space is detached. -/
theorem detached_keyword {keyword : String} (blank : keyword.toList.head? = some ' ')
    (rest : String) : Detached (keyword ++ rest) := by
  intro character head
  rw [String.toList_append, List.head?_append, blank, Option.some_or] at head
  exact (Option.some.inj head).symm

/-- No word reaches from a text into a detached one behind it. -/
theorem Detached.apart {rest : String} (detached : Detached rest) (text : List Char) :
    Text.Apart text (Text.uppercase rest.toList) := by
  right
  cases characters : rest.toList with
  | nil => rfl
  | cons first others =>
    have blank : first = ' ' := detached first (by simp [characters])
    rw [blank]
    rfl

/-- A neutral text is passed in one state; what it adds is collected if that is inside of a
clause. -/
theorem collected_neutral {text : String} {free : List (List Char)} (neutral : Neutral text free)
    {rest : String} (detached : Detached rest) (joins inside : Bool) :
    collected joins inside (text ++ rest) =
      (if inside then free else []) ++ collected joins inside rest := by
  have quiet : ∀ letters ∈ (Text.pieces (Text.uppercase text.toList)).filterMap Piece.word?,
      ∀ word ∈ clauseWords, word.toList ≠ letters := fun letters member word listed =>
    neutral.quiet letters member word (List.mem_append_left _ listed)
  rw [collected, String.toList_append, Text.uppercase_append,
    Text.pieces_append (detached.apart _), indexedWords_append quiet]
  rw [← neutral.words]
  rfl

/-- The keywords of statements but for ON, each with the state that it leaves a pass in: inside
of a clause, outside of any, or as it was. -/
def keywordStates : List (String × Option Bool) :=
  [(" FROM ", none), ("UPDATE ", none), (" WHERE ", some true), (" ORDER BY ", some true),
    (" LIMIT ", some false), (" OFFSET ", some false), (" INNER JOIN ", some false),
    (" LEFT JOIN ", some false), (" RIGHT JOIN ", some false)]

/-- A keyword is passed over without collecting anything, and leaves the pass in its state. -/
theorem indexedWords_keyword (joins inside : Bool) (rest : List Piece) :
    ∀ entry ∈ keywordStates,
      indexedWords joins inside (Text.pieces (Text.uppercase entry.1.toList) ++ rest) =
        indexedWords joins (entry.2.getD inside) rest := by
  simp only [keywordStates, List.forall_mem_cons]
  cases joins <;> cases inside
  all_goals exact ⟨rfl, rfl, rfl, rfl, rfl, rfl, rfl, rfl, rfl, List.forall_mem_nil _⟩

/-- A keyword leaves the pass in a state of its own. -/
theorem collected_keyword {keyword : String} {state : Option Bool}
    (known : (keyword, state) ∈ keywordStates) (joins inside : Bool) (rest : String) :
    collected joins inside (keyword ++ rest) = collected joins (state.getD inside) rest := by
  have ends : ∀ entry ∈ keywordStates,
      Text.isWord? (Text.uppercase entry.1.toList).getLast? = false := by
    decide
  rw [collected, String.toList_append, Text.uppercase_append,
    Text.pieces_append (.inl (ends _ known)), indexedWords_keyword joins inside _ _ known]
  rfl

/-- No phrase of the analysis reaches over the keyword ON. -/
theorem afterPhrase?_on {phrase : List String}
    (known : ∃ first, phrase = [first] ∨ phrase = [first, "BY"]) (piece : Piece)
    (pieces rest : List Piece) :
    (afterPhrase? phrase (piece :: (pieces ++ .mark ' ' :: .word "ON".toList :: rest))).isSome =
      (afterPhrase? phrase (piece :: pieces)).isSome := by
  have single (word : String) (piece : Piece) (pieces : List Piece) :
      (afterPhrase? [word] (piece :: (pieces ++ .mark ' ' :: .word "ON".toList :: rest))).isSome =
        (afterPhrase? [word] (piece :: pieces)).isSome := by
    rw [Bool.eq_iff_iff]
    simp only [Option.isSome_iff_exists, afterPhrase?_single, List.cons.injEq, exists_and_left,
      exists_eq']
  obtain ⟨first, rfl | rfl⟩ := known
  · exact single first piece pieces
  · cases piece with
    | mark character => rfl
    | word letters =>
      cases pieces with
      | nil => simp [afterPhrase?, Piece.isBlank, show Text.isBlank ' ' = true from rfl]
      | cons next following =>
        have second : (afterPhrase? ["BY"] ((next :: following ++
              .mark ' ' :: .word "ON".toList :: rest).dropWhile Piece.isBlank)).isSome =
            (afterPhrase? ["BY"] ((next :: following).dropWhile Piece.isBlank)).isSome := by
          rw [List.dropWhile_append]
          cases (next :: following).dropWhile Piece.isBlank with
          | nil => rfl
          | cons second others => exact single "BY" second others
        have pair (tail : List Piece) (head : tail.head?.any Piece.isBlank = next.isBlank) :
            afterPhrase? [first, "BY"] (.word letters :: tail) =
              if letters = first.toList ∧ next.isBlank then
                afterPhrase? ["BY"] (tail.dropWhile Piece.isBlank)
              else none := by
          simp only [afterPhrase?, head]
        rw [pair _ rfl, pair _ rfl]
        split
        · exact second
        · rfl

/-- A following ON completes no phrase of one word, nor one of a word and BY. -/
theorem startWithPhrase_on {phrases : List (List String)}
    (known : ∀ phrase ∈ phrases, ∃ first, phrase = [first] ∨ phrase = [first, "BY"])
    (piece : Piece) (pieces rest : List Piece) :
    startWithPhrase phrases (piece :: (pieces ++ .mark ' ' :: .word "ON".toList :: rest)) =
      startWithPhrase phrases (piece :: pieces) := by
  rw [startWithPhrase, startWithPhrase, Bool.eq_iff_iff, List.any_eq_true, List.any_eq_true]
  refine exists_congr fun phrase => and_congr_right fun listed => ?_
  rw [afterPhrase?_on (known phrase listed)]

/-- Behind ON the pass is inside of a clause, wherever it was before. -/
theorem indexedWords_on (inside : Bool) (pieces rest : List Piece) :
    indexedWords true inside (pieces ++ .mark ' ' :: .word "ON".toList :: rest) =
      indexedWords true inside pieces ++ indexedWords true true rest := by
  have opening : ∀ phrase ∈ openingPhrases true,
      ∃ first, phrase = [first] ∨ phrase = [first, "BY"] := by
    simp [openingPhrases]
  have ending : ∀ phrase ∈ clauseEndPhrases,
      ∃ first, phrase = [first] ∨ phrase = [first, "BY"] := by
    simp [clauseEndPhrases]
  -- A clause may begin before ON, so the induction is for both states.
  induction pieces generalizing inside with
  | nil => cases inside <;> rfl
  | cons piece pieces ih =>
    rw [List.cons_append, indexedWords, indexedWords, startWithPhrase_on opening,
      startWithPhrase_on ending, ih, ih, ih]
    split
    · rfl
    · split
      · rfl
      · rw [List.append_assoc]

/-- The clauses that begin in a joined table's text end there. -/
theorem collected_on (table rest : String) :
    collected true false (table ++ (" ON " ++ rest)) =
      collected true false table ++ collected true true rest := by
  have left :
      Text.Apart (Text.uppercase table.toList) (Text.uppercase (" ON " ++ rest).toList) := by
    right
    rw [String.toList_append]
    rfl
  have blank : Text.Apart (Text.uppercase " ON ".toList) (Text.uppercase rest.toList) := .inl rfl
  rw [collected, String.toList_append, Text.uppercase_append, Text.pieces_append left,
    String.toList_append, Text.uppercase_append, Text.pieces_append blank]
  exact indexedWords_on false _ (.mark ' ' :: Text.pieces (Text.uppercase rest.toList))

/-! ### The parts of a statement -/

/-- A pass over the text collects these words, from inside of a clause and from outside. -/
def Collects (joins : Bool) (text : String) (words : List (List Char)) : Prop :=
  ∀ inside, collected joins inside text = words

/-- The empty text has nothing to collect. -/
theorem collects_empty (joins : Bool) : Collects joins "" [] :=
  fun _ => rfl

/-- A pass over a neutral text that nothing follows. -/
theorem collected_end {text : String} {free : List (List Char)} (neutral : Neutral text free)
    (joins inside : Bool) : collected joins inside text = if inside then free else [] := by
  have passed := collected_neutral neutral detached_empty joins inside
  rwa [String.append_empty, collects_empty, List.append_nil] at passed

section Parts

variable {query : Query} {joins : Bool} {rest : String} {tail : List (List Char)}

/-- The text of limit and offset is detached. -/
theorem detached_pagingSql : Detached query.pagingSql := by
  rw [Query.pagingSql]
  cases query.limit with
  | none =>
    cases query.offset with
    | none => exact detached_empty
    | some offset =>
      show Detached (" LIMIT -1" ++ (" OFFSET " ++ offset.repr))
      exact detached_keyword (by decide) _
  | some limit =>
    cases query.offset with
    | none => exact (detached_keyword (by decide) limit.repr).append detached_empty
    | some offset =>
      exact (detached_keyword (by decide) limit.repr).append
        (detached_keyword (by decide) offset.repr)

/-- Nothing is collected from the paging. -/
theorem collects_pagingSql : Collects joins query.pagingSql [] := by
  intro inside
  rw [Query.pagingSql]
  have offset (offset : Nat) : collected joins false (" OFFSET " ++ offset.repr) = [] := by
    obtain ⟨free, number⟩ := Neutral.number offset
    have known : (" OFFSET ", some false) ∈ keywordStates := by decide
    rw [collected_keyword known, collected_end number]
    rfl
  have limit (text : String) (free : List (List Char)) (number : Neutral text free)
      (rest : String) (detached : Detached rest) (nothing : collected joins false rest = []) :
      collected joins inside (" LIMIT " ++ text ++ rest) = [] := by
    have known : (" LIMIT ", some false) ∈ keywordStates := by decide
    rw [String.append_assoc, collected_keyword known, collected_neutral number detached,
      Option.getD_some, nothing]
    rfl
  cases query.limit with
  | none =>
    cases query.offset with
    | none => rfl
    | some skipped =>
      exact limit "-1" [['1']] (by decide) (" OFFSET " ++ skipped.repr)
        (detached_keyword (by decide) _) (offset skipped)
  | some bound =>
    obtain ⟨free, number⟩ := Neutral.number bound
    cases query.offset with
    | none => exact limit bound.repr free number "" detached_empty (collects_empty joins false)
    | some skipped =>
      exact limit bound.repr free number (" OFFSET " ++ skipped.repr)
        (detached_keyword (by decide) _) (offset skipped)

/-- The text of the sort keys is detached. -/
theorem detached_sortSql : Detached query.sortSql := by
  rw [Query.sortSql]
  split
  · exact detached_empty
  · exact detached_keyword (by decide) _

/-- The sort keys are collected. -/
theorem collects_sortSql (plain : ∀ key ∈ query.sortKeys, IsPlainPath key.1) :
    Collects joins (query.sortSql ++ query.pagingSql)
      (query.sortKeys.flatMap fun key => upperParts key.1) := by
  intro inside
  rw [Query.sortSql]
  split
  · next none =>
    rw [List.isEmpty_iff.1 none, String.empty_append]
    exact collects_pagingSql inside
  · have keys : Neutral (", ".intercalate (query.sortKeys.map fun key => key.1 ++ " " ++ key.2.sql))
        (query.sortKeys.flatMap fun key => upperParts key.1) := by
      refine Neutral.list fun key listed => ?_
      have direction : Neutral key.2.sql [] := by
        cases key.2 <;> decide
      simpa using (Neutral.name (plain key listed)).join (by decide : Separator " ") direction
    have known : (" ORDER BY ", some true) ∈ keywordStates := by decide
    rw [String.append_assoc, collected_keyword known, collected_neutral keys detached_pagingSql,
      collects_pagingSql]
    simp

/-- The text of the condition is detached. -/
theorem detached_whereSql {fragment : Fragment} : Detached (Query.whereSql fragment) := by
  rw [Query.whereSql]
  split
  · exact detached_empty
  · exact detached_keyword (by decide) _

/-- The fields of the condition are collected. -/
theorem collects_whereSql {fragment : Fragment} {free : List (List Char)}
    (condition : Neutral fragment.sql free) (following : Collects joins rest tail)
    (detached : Detached rest) :
    Collects joins (Query.whereSql fragment ++ rest) (free ++ tail) := by
  intro inside
  rw [Query.whereSql]
  split
  · next nothing =>
    have none : free = [] := by
      rw [← condition.words, String.isEmpty_iff.1 nothing]
      rfl
    rw [none, String.empty_append]
    exact following inside
  · have known : (" WHERE ", some true) ∈ keywordStates := by decide
    rw [String.append_assoc, collected_keyword known, collected_neutral condition detached,
      following]
    simp

/-- The fields of a condition that ends its statement are collected. -/
theorem collects_whereSql_end {fragment : Fragment} {free : List (List Char)}
    (condition : Neutral fragment.sql free) : Collects joins (Query.whereSql fragment) free := by
  simpa using collects_whereSql condition (collects_empty joins) detached_empty

/-- The text of a join. -/
def joinText (join : Join) : String :=
  " " ++ join.kind.sql ++ " " ++ join.table ++ " ON " ++ join.left ++ " " ++ join.operator ++
    " " ++ join.right

/-- The first of some joins in a statement, cut where the pass changes its state. -/
theorem joins_cons (join : Join) (others : List Join) (rest : String) :
    String.join ((join :: others).map joinText) ++ rest =
      " " ++ join.kind.sql ++ " " ++ (join.table ++ (" ON " ++
        ((join.left ++ " " ++ join.operator ++ " " ++ join.right) ++
          (String.join (others.map joinText) ++ rest)))) := by
  simp only [List.map_cons, String.join_cons, joinText, String.append_assoc]

/-- The text of the joins is detached. -/
theorem detached_joins (joined : List Join) : Detached (String.join (joined.map joinText)) := by
  cases joined with
  | nil => exact detached_empty
  | cons join others =>
    simp only [List.map_cons, String.join_cons, joinText, String.append_assoc]
    exact detached_keyword (by decide) _

/-- A join is seen by its keywords, whatever stands around them. -/
theorem hasJoin_keyword (kind : JoinKind) (head rest : String) :
    hasJoin (Text.uppercase (head ++ (" " ++ kind.sql ++ " " ++ rest)).toList) = true := by
  have known : (Text.uppercase (" " ++ kind.sql ++ " ").toList).head? = some ' ' ∧
      (Text.uppercase (" " ++ kind.sql ++ " ").toList).getLast? = some ' ' ∧
      .word "JOIN".toList ∈ Text.pieces (Text.uppercase (" " ++ kind.sql ++ " ").toList) := by
    cases kind <;> decide
  generalize " " ++ kind.sql ++ " " = keyword at known ⊢
  obtain ⟨first, last, member⟩ := known
  have behind : Text.Apart (Text.uppercase keyword.toList) (Text.uppercase rest.toList) :=
    .inl (by rw [last]; rfl)
  have before : Text.Apart (Text.uppercase head.toList)
      (Text.uppercase keyword.toList ++ Text.uppercase rest.toList) :=
    .inr (by rw [List.head?_append, first]; rfl)
  rw [hasJoin, ← Text.spell_pieces (Text.uppercase _),
    Pattern.occurs_word_iff (by decide) (Text.cut_pieces _), String.toList_append,
    Text.uppercase_append, String.toList_append, Text.uppercase_append,
    Text.pieces_append before, Text.pieces_append behind]
  exact List.mem_append_right _ (List.mem_append_left _ member)

/-- A statement with joins is seen to have one. -/
theorem hasJoin_of_joins {joined : List Join} (some : joined ≠ []) (head rest : String) :
    hasJoin (Text.uppercase
      (head ++ (String.join (joined.map joinText) ++ rest)).toList) = true := by
  obtain ⟨join, others, rfl⟩ := List.exists_cons_of_ne_nil some
  rw [joins_cons]
  exact hasJoin_keyword join.kind head _

/-- The comparison of a join adds its sides. -/
theorem Neutral.comparison {join : Join} (left : IsPlainPath join.left)
    (right : IsPlainPath join.right)
    (operator : ∀ character ∈ join.operator.toList, character ∈ ['=', '<', '>', '!']) :
    Neutral (join.left ++ " " ++ join.operator ++ " " ++ join.right)
      (upperParts join.left ++ upperParts join.right) := by
  have known : ∀ character ∈ ['=', '<', '>', '!'],
      character.toNat < 128 ∧ Text.isWord character = false := by
    decide
  have marks : Neutral join.operator [] :=
    .marks (fun character member => (known character (operator character member)).1)
      fun character member => (known character (operator character member)).2
  have compared := (Neutral.name left).join (by decide : Separator " ") marks
  simpa using compared.join (by decide : Separator " ") (Neutral.name right)

/-- What a join adds: the words in the clauses that begin in the text of its table, and the
parts of its sides. -/
def joinWords (join : Join) : List (List Char) :=
  collected true false join.table ++ (upperParts join.left ++ upperParts join.right)

/-- The sides of the joins are collected, and what clauses there are in their tables' texts. -/
theorem collects_joins {joined : List Join}
    (sides : ∀ join ∈ joined, IsPlainPath join.left ∧ IsPlainPath join.right)
    (operators : ∀ join ∈ joined, ∀ character ∈ join.operator.toList,
      character ∈ ['=', '<', '>', '!'])
    (following : Collects true rest tail) (detached : Detached rest) :
    Collects true (String.join (joined.map joinText) ++ rest)
      (joined.flatMap joinWords ++ tail) := by
  induction joined with
  | nil =>
    rw [List.map_nil, String.join_nil, String.empty_append]
    exact following
  | cons join others ih =>
    intro inside
    have later := ih (fun join member => sides join (by simp [member]))
      fun join member => operators join (by simp [member])
    obtain ⟨left, right⟩ := sides join (by simp)
    have compared := Neutral.comparison left right (operators join (by simp))
    have apart : Detached (String.join (others.map joinText) ++ rest) :=
      (detached_joins others).append detached
    have opened : (" " ++ join.kind.sql ++ " ", some false) ∈ keywordStates := by
      cases join.kind <;> decide
    rw [joins_cons, collected_keyword opened, Option.getD_some, collected_on,
      collected_neutral compared apart, later]
    simp [joinWords]

end Parts

end Analysis

end QueryKit
