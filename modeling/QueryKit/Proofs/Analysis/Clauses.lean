import QueryKit.Proofs.Analysis.Pieces

/-!
# Indexed clauses

The analysis reads each filter, sort key and join predicate of a statement as a text of its
own. Here these clauses are found in one pass over the pieces of the statement, which is inside
of such a clause from the keyword that begins it up to the next that ends one. A field is
referred to exactly if its name is among the words that the pass collects.
-/

namespace QueryKit.Analysis

open Piece

/-! ### One pass over a statement -/

/-- The phrases at which a clause ends. -/
def clauseEndPhrases : List (List String) :=
  [["WHERE"], ["GROUP", "BY"], ["ORDER", "BY"], ["HAVING"], ["LIMIT"], ["OFFSET"], ["UNION"],
    ["INNER"], ["LEFT"], ["RIGHT"], ["FULL"], ["CROSS"], ["JOIN"]]

/-- The patterns that end a clause are those of the phrases above. -/
theorem clauseEnds_eq : clauseEnds = clauseEndPhrases.map .phrase := rfl

/-- The phrases that begin an indexed clause; ON is one only if there are joins. -/
def openingPhrases (joins : Bool) : List (List String) :=
  [["WHERE"], ["ORDER", "BY"]] ++ if joins then [["ON"]] else []

/-- The words of generated statements and of the patterns of the analysis. -/
def reservedWords : List String :=
  ["SELECT", "DISTINCT", "COUNT", "AS", "FROM", "UPDATE", "SET", "DELETE", "INNER", "LEFT",
    "RIGHT", "FULL", "CROSS", "JOIN", "ON", "WHERE", "AND", "OR", "NOT", "LIKE", "IS", "NULL",
    "BETWEEN", "IN", "GROUP", "HAVING", "UNION", "ORDER", "BY", "ASC", "DESC", "LIMIT", "OFFSET",
    "UPPER", "LOWER", "SUBSTR", "LENGTH", "TRIM", "DATE", "DATETIME"]

/-- Whether the letters are a reserved word. -/
def IsReserved (letters : List Char) : Prop := ∃ word ∈ reservedWords, word.toList = letters

instance : DecidablePred IsReserved := fun letters =>
  inferInstanceAs (Decidable (∃ word ∈ reservedWords, word.toList = letters))

/-- The word that a piece is, unless it is reserved. -/
def freeWord? : Piece → Option (List Char)
  | .word letters => if IsReserved letters then none else some letters
  | .mark _ => none

/-- The words in the indexed clauses of a statement that are not reserved, in a pass that
starts inside or outside of such a clause. -/
def indexedWords (joins : Bool) : Bool → List Piece → List (List Char)
  | _, [] => []
  | inside, piece :: rest =>
    if startWithPhrase (openingPhrases joins) (piece :: rest) then indexedWords joins true rest
    else if startWithPhrase clauseEndPhrases (piece :: rest) then indexedWords joins false rest
    else (if inside then (freeWord? piece).toList else []) ++ indexedWords joins inside rest

/-! ### The pass finds the clauses -/

/-- What ends a clause is made of words. -/
theorem isPhrase_clauseEnd : ∀ phrase ∈ clauseEndPhrases, Pattern.IsPhrase phrase := by
  decide

/-- What begins an indexed clause is made of words. -/
theorem isPhrase_opening (joins : Bool) :
    ∀ phrase ∈ openingPhrases joins, Pattern.IsPhrase phrase := by
  revert joins
  decide

/-- One of some phrases stands at the start iff there is a rest after one of them. -/
theorem startWithPhrase_iff {phrases : List (List String)} {pieces : List Piece} :
    startWithPhrase phrases pieces = true ↔
      ∃ phrase ∈ phrases, ∃ tail, afterPhrase? phrase pieces = some tail := by
  simp only [startWithPhrase, List.any_eq_true, Option.isSome_iff_exists]

/-- No phrase begins with a mark. -/
theorem startWithPhrase_mark (character : Char) (rest : List Piece) :
    startWithPhrase clauseEndPhrases (.mark character :: rest) = false ∧
      ∀ joins, startWithPhrase (openingPhrases joins) (.mark character :: rest) = false := by
  have nowhere : ∀ phrases : List (List String), (∀ phrase ∈ phrases, Pattern.IsPhrase phrase) →
      startWithPhrase phrases (.mark character :: rest) = false := by
    intro phrases words
    rw [Bool.eq_false_iff, ne_eq, startWithPhrase_iff]
    rintro ⟨phrase, listed, tail, found⟩
    rw [afterPhrase?_eq_none (words phrase listed).nonempty rfl] at found
    simp at found
  exact ⟨nowhere _ isPhrase_clauseEnd, fun joins => nowhere _ (isPhrase_opening joins)⟩

/-- The words that phrases of clauses begin with. -/
def clauseWords : List String :=
  ["WHERE", "ON", "GROUP", "ORDER", "HAVING", "LIMIT", "OFFSET", "UNION", "INNER", "LEFT", "RIGHT",
    "FULL", "CROSS", "JOIN"]

/-- No phrase begins with another word. -/
theorem startWithPhrase_word {letters : List Char}
    (other : ∀ word ∈ clauseWords, word.toList ≠ letters) (rest : List Piece) :
    startWithPhrase clauseEndPhrases (.word letters :: rest) = false ∧
      ∀ joins, startWithPhrase (openingPhrases joins) (.word letters :: rest) = false := by
  have nowhere : ∀ phrases : List (List String),
      (∀ phrase ∈ phrases, ∃ first ∈ clauseWords, phrase.head? = some first) →
        startWithPhrase phrases (.word letters :: rest) = false := by
    intro phrases heads
    rw [Bool.eq_false_iff, ne_eq, startWithPhrase_iff]
    rintro ⟨phrase, listed, tail, found⟩
    obtain ⟨first, known, head⟩ := heads phrase listed
    have nonempty : phrase ≠ [] := by
      rintro rfl
      simp at head
    obtain ⟨word, begins, same⟩ := head_of_afterPhrase? nonempty found
    rw [head, Option.mem_some_iff] at begins
    exact other first known (begins ▸ same)
  exact ⟨nowhere _ (by decide), fun joins => nowhere _ (by revert joins; decide)⟩

/-- A piece stands before the phrases iff none is at the start, and it is the first piece or stands
before them in the rest. -/
theorem mem_untilPhrase_cons {phrases : List (List String)} {piece : Piece} {rest : List Piece}
    {wanted : Piece} :
    wanted ∈ untilPhrase phrases (piece :: rest) ↔
      startWithPhrase phrases (piece :: rest) = false ∧
        (wanted = piece ∨ wanted ∈ untilPhrase phrases rest) := by
  rw [untilPhrase]
  cases startWithPhrase phrases (piece :: rest) <;> simp

/-- Blanks at the start of a clause do not change its words. -/
theorem word_mem_dropWhile {letters : List Char} (pieces : List Piece) :
    .word letters ∈ untilPhrase clauseEndPhrases (pieces.dropWhile Piece.isBlank) ↔
      .word letters ∈ untilPhrase clauseEndPhrases pieces := by
  induction pieces with
  | nil => rfl
  | cons piece rest ih =>
    cases piece with
    | word found => rfl
    | mark character =>
      rw [List.dropWhile_cons]
      split
      · rw [ih, mem_untilPhrase_cons]
        simp [(startWithPhrase_mark character rest).1]
      · rfl

/-- An indexed clause begins with a reserved word, and no word is lost if the clause is read
from right behind that one. -/
theorem opening_cases {joins : Bool} {phrase : List String} {piece : Piece}
    {rest tail : List Piece} (listed : phrase ∈ openingPhrases joins)
    (found : afterPhrase? phrase (piece :: rest) = some tail) :
    (∃ letters, piece = .word letters ∧ IsReserved letters) ∧
      ∀ letters, ¬IsReserved letters →
        (.word letters ∈ untilPhrase clauseEndPhrases tail ↔
          .word letters ∈ untilPhrase clauseEndPhrases rest) := by
  have words : phrase = ["WHERE"] ∨ phrase = ["ON"] ∨ phrase = ["ORDER", "BY"] := by
    cases joins <;> simp [openingPhrases] at listed <;> tauto
  rcases words with rfl | rfl | rfl
  · obtain ⟨same, rfl⟩ := List.cons.inj (afterPhrase?_single.1 found)
    exact ⟨⟨_, same, by decide⟩, fun _ _ => .rfl⟩
  · obtain ⟨same, rfl⟩ := List.cons.inj (afterPhrase?_single.1 found)
    exact ⟨⟨_, same, by decide⟩, fun _ _ => .rfl⟩
  · cases piece with
    | mark character => simp [afterPhrase?] at found
    | word first =>
      rw [afterPhrase?, Option.ite_none_right_eq_some] at found
      obtain ⟨⟨rfl, -⟩, found⟩ := found
      refine ⟨⟨_, rfl, by decide⟩, fun letters free => ?_⟩
      have other : ∀ word ∈ clauseWords, word.toList ≠ "BY".toList := by decide
      have kept : letters ≠ "BY".toList := by
        rintro rfl
        exact free (by decide)
      rw [← word_mem_dropWhile rest, afterPhrase?_single.1 found, mem_untilPhrase_cons,
        (startWithPhrase_word other tail).1]
      simp only [true_and, Piece.word.injEq, kept, false_or]

/-- An unreserved word is the word of a piece iff the piece consists of its letters. -/
theorem mem_freeWord? {piece : Piece} {letters : List Char} (free : ¬IsReserved letters) :
    letters ∈ (freeWord? piece).toList ↔ .word letters = piece := by
  cases piece with
  | mark character => simp [freeWord?]
  | word found =>
    simp only [freeWord?, Option.mem_toList, Option.ite_none_left_eq_some, Option.some.injEq,
      Piece.word.injEq]
    exact ⟨fun same => same.2.symm, fun same => ⟨same ▸ free, same.symm⟩⟩

/-- Whether a word stands in an indexed clause that begins in some pieces. -/
def StandsInClause (joins : Bool) (letters : List Char) (pieces : List Piece) : Prop :=
  ∃ phrase ∈ openingPhrases joins, ∃ tail ∈ tailsAfter phrase pieces,
    .word letters ∈ untilPhrase clauseEndPhrases tail

/-- Where no clause begins, a word stands in those that begin later. -/
theorem standsInClause_cons {joins : Bool} {letters : List Char} {piece : Piece}
    {rest : List Piece} (closed : ¬startWithPhrase (openingPhrases joins) (piece :: rest) = true) :
    StandsInClause joins letters (piece :: rest) ↔ StandsInClause joins letters rest := by
  have nothing : ∀ phrase ∈ openingPhrases joins, ∀ tail,
      afterPhrase? phrase (piece :: rest) ≠ some tail := fun phrase listed tail found =>
    closed (startWithPhrase_iff.2 ⟨phrase, listed, tail, found⟩)
  refine exists_congr fun phrase => and_congr_right fun listed => ?_
  exact exists_congr fun tail => by simp [tailsAfter, nothing phrase listed tail]

/-- A word that is not reserved is collected exactly if it stands in an indexed clause. -/
theorem mem_indexedWords_iff {joins inside : Bool} {pieces : List Piece} {letters : List Char}
    (free : ¬IsReserved letters) :
    letters ∈ indexedWords joins inside pieces ↔
      (inside = true ∧ .word letters ∈ untilPhrase clauseEndPhrases pieces) ∨
        StandsInClause joins letters pieces := by
  induction pieces generalizing inside with
  | nil => simp [indexedWords, untilPhrase, tailsAfter, StandsInClause]
  | cons piece rest ih =>
    by_cases opens : startWithPhrase (openingPhrases joins) (piece :: rest) = true
    · obtain ⟨phrase, listed, tail, found⟩ := startWithPhrase_iff.1 opens
      obtain ⟨⟨word, rfl, reserved⟩, same⟩ := opening_cases listed found
      rw [indexedWords, if_pos opens, ih]
      simp only [StandsInClause, tailsAfter, List.mem_append, Option.mem_toList]
      constructor
      · rintro (⟨-, member⟩ | ⟨later, known, follows, standing, member⟩)
        · exact .inr ⟨phrase, listed, tail, .inl found, (same letters free).2 member⟩
        · exact .inr ⟨later, known, follows, .inr standing, member⟩
      · rintro (⟨-, member⟩ | ⟨other, known, follows, here | later, member⟩)
        · -- The clause before this one may reach over the keyword, if that ends none, as ON.
          rcases (mem_untilPhrase_cons.1 member).2 with itself | member
          · exact absurd ((Piece.word.inj itself) ▸ reserved) free
          · exact .inl ⟨trivial, member⟩
        · exact .inl ⟨trivial, ((opening_cases known here).2 letters free).1 member⟩
        · exact .inr ⟨other, known, follows, later, member⟩
    · rw [standsInClause_cons opens, mem_untilPhrase_cons, indexedWords, if_neg opens]
      split
      · next ends => simp [ih, ends]
      · next goes =>
        rw [List.mem_append, ih]
        cases inside with
        | false => simp
        | true => simp [mem_freeWord? free, goes, or_assoc]

/-- Pieces without a word that a phrase begins with are passed in one state, and all their free
words are collected if that is inside of a clause. -/
theorem indexedWords_append {quiet : List Piece}
    (other : ∀ letters ∈ quiet.filterMap Piece.word?, ∀ word ∈ clauseWords, word.toList ≠ letters)
    (joins inside : Bool) (rest : List Piece) :
    indexedWords joins inside (quiet ++ rest) =
      (if inside then (quiet.filterMap Piece.word?).filter (fun letters => ¬IsReserved letters)
        else []) ++ indexedWords joins inside rest := by
  induction quiet with
  | nil => simp
  | cons piece pieces ih =>
    cases piece with
    | mark character =>
      obtain ⟨ends, opens⟩ := startWithPhrase_mark character (pieces ++ rest)
      rw [List.cons_append, indexedWords, opens joins, ends, ih other,
        List.filterMap_cons_none (by rfl)]
      simp [freeWord?]
    | word letters =>
      obtain ⟨ends, opens⟩ :=
        startWithPhrase_word (other letters (by simp [Piece.word?])) (pieces ++ rest)
      rw [List.cons_append, indexedWords, opens joins, ends,
        ih fun found member => other found (by simp_all [Piece.word?])]
      cases inside <;> by_cases reserved : IsReserved letters <;>
        simp [freeWord?, Piece.word?, reserved]

/-! ### What the analysis reports -/

/-- The clauses that a phrase begins. -/
theorem clauseTexts_phrase {phrase : List String} (words : Pattern.IsPhrase phrase)
    (statement : List Char) :
    clauseTexts (.phrase phrase) statement =
      (tailsAfter phrase (Text.pieces statement)).map fun tail =>
        spell (untilPhrase clauseEndPhrases tail) := by
  have cut := Text.cut_pieces statement
  have tails : ((Pattern.phrase phrase).occurrencesAfter none
      (spell (Text.pieces statement))).map Cursor.after = _ :=
    Pattern.occurrencesAfter_phrase words cut (by simp [Text.isWord?])
  rw [Text.spell_pieces] at tails
  have composed : clauseTexts (.phrase phrase) statement =
      (((Pattern.phrase phrase).occurrencesAfter none statement).map Cursor.after).map
        (Pattern.beforeFirst clauseEnds none) := by
    rw [List.map_map]
    rfl
  rw [composed, tails, List.map_map]
  refine List.map_congr_left fun tail follows => ?_
  rw [Function.comp_apply, clauseEnds_eq]
  exact Pattern.beforeFirst_phrases isPhrase_clauseEnd (cut.tailsAfter follows)
    (by simp [Text.isWord?])

/-- A clause refers to a field exactly if the name of the field is one of its words. -/
theorem refersTo_spell {pieces : List Piece} (cut : Cut pieces) {field : String}
    (letters : Letters (Text.uppercase field.toList)) :
    refersTo (spell pieces) field = true ↔ .word (Text.uppercase field.toList) ∈ pieces := by
  have pattern : .edge :: (Text.uppercase field.toList).map PatternStep.literal ++ [.edge] =
      Pattern.word (String.ofList (Text.uppercase field.toList)) := by
    simp [Pattern.word, Pattern.phrase, Pattern.ofText, List.intercalate]
  rw [refersTo, pattern, Pattern.occurs_word_iff (by simpa using letters) cut,
    String.toList_ofList]

/-- Whether a statement has a join. -/
def hasJoin (statement : List Char) : Bool := (Pattern.word "JOIN").occurs statement

/-- The indexed clauses are the texts after each opening phrase; ON opens one if there is a join. -/
theorem indexedClauses_eq (statement : List Char) :
    indexedClauses statement =
      (openingPhrases (hasJoin statement)).flatMap fun phrase =>
        clauseTexts (.phrase phrase) statement := by
  rw [indexedClauses, hasJoin]
  cases (Pattern.word "JOIN").occurs statement <;> simp [openingPhrases, Pattern.word]

/-- Of the clauses that some phrases begin, one refers to a field exactly if the pass collects
the name of the field. -/
theorem refers_iff {joins : Bool} {text : List Char} {field : String}
    (letters : Letters (Text.uppercase field.toList))
    (free : ¬IsReserved (Text.uppercase field.toList)) :
    (((openingPhrases joins).flatMap fun phrase => clauseTexts (.phrase phrase) text).any
        fun clause => refersTo clause field) = true ↔
      Text.uppercase field.toList ∈ indexedWords joins false (Text.pieces text) := by
  rw [mem_indexedWords_iff free, StandsInClause]
  simp only [Bool.false_eq_true, false_and, false_or, List.any_eq_true, List.mem_flatMap]
  have clause : ∀ phrase ∈ openingPhrases joins,
      (∃ found ∈ clauseTexts (.phrase phrase) text, refersTo found field = true) ↔
      ∃ tail ∈ tailsAfter phrase (Text.pieces text),
        .word (Text.uppercase field.toList) ∈ untilPhrase clauseEndPhrases tail := by
    intro phrase opens
    rw [clauseTexts_phrase (isPhrase_opening _ phrase opens)]
    simp only [List.mem_map, exists_exists_and_eq_and]
    refine exists_congr fun tail => and_congr_right fun follows => ?_
    exact refersTo_spell (((Text.cut_pieces _).tailsAfter follows).untilPhrase _) letters
  constructor
  · rintro ⟨found, ⟨phrase, opens, begins⟩, refers⟩
    exact ⟨phrase, opens, (clause phrase opens).1 ⟨found, begins, refers⟩⟩
  · rintro ⟨phrase, opens, stands⟩
    obtain ⟨found, begins, refers⟩ := (clause phrase opens).2 stands
    exact ⟨found, ⟨phrase, opens, begins⟩, refers⟩

/-- The fields that are reported are those without index whose names the pass collects. -/
theorem missingIndexes_eq {sql : String} {table : Table}
    (names : ∀ field ∈ table.fields, Letters (Text.uppercase field.toList) ∧
      ¬IsReserved (Text.uppercase field.toList)) :
    missingIndexes sql table = table.fields.filter fun field =>
      !table.isIndexed field && decide (Text.uppercase field.toList ∈
        indexedWords (hasJoin (Text.uppercase sql.toList)) false
          (Text.pieces (Text.uppercase sql.toList))) := by
  rw [missingIndexes]
  refine List.filter_congr fun field listed => ?_
  obtain ⟨letters, free⟩ := names field listed
  congr 1
  rw [Bool.eq_iff_iff, decide_eq_true_iff, indexedClauses_eq]
  exact refers_iff letters free

end QueryKit.Analysis
