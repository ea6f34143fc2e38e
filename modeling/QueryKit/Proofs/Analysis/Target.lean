import QueryKit.Proofs.Analysis.Names

/-!
# The table of a statement

The analysis takes for the table of a statement what follows the first FROM or UPDATE, in any
case. A neutral text has neither, so the search passes over it, and the name after the keyword
is found and read to its end.
-/

namespace QueryKit.Analysis

open Piece Pattern

/-- The keywords that a table name follows. -/
def tableWords : List String := ["FROM", "UPDATE"]

/-- The pattern of a keyword. -/
def tablePattern (keyword : String) : Pattern :=
  .edge :: (keyword.toList.map .literal ++ [.blanks])

/-- The searched patterns are those of the two keywords. -/
theorem tableKeywords_eq : tableKeywords = tableWords.map tablePattern := rfl

/-- The keywords are words in upper case. -/
theorem upper_of_mem_tableWords : ∀ keyword ∈ tableWords,
    Letters keyword.toList ∧ keyword.toList.map Char.toUpper = keyword.toList := by
  decide

/-- A keyword is matched by a whole word that it is the upper-case form of, and not from inside
of a word. -/
theorem word_of_tablePattern {keyword : String} (known : keyword ∈ tableWords)
    {before : Option Char} {text : List Char} {cursor : Cursor}
    (found : matchWith? Char.toUpper (tablePattern keyword) ⟨before, text⟩ = some cursor) :
    Text.isWord? before = false ∧
      ∃ letters rest, text = letters ++ rest ∧ Letters letters ∧
        Text.isWord? rest.head? = false ∧ letters.map Char.toUpper = keyword.toList := by
  have letters := (upper_of_mem_tableWords keyword known).1
  rw [tablePattern, matchWith?, Option.ite_none_right_eq_some, matchWith?_literals,
    Option.ite_none_right_eq_some] at found
  obtain ⟨edge, same, blanks⟩ := found
  have word : Letters (text.take keyword.toList.length) := by
    refine ⟨fun empty => letters.1 ?_, fun character member => ?_⟩
    · rw [← same, empty, List.map_nil]
    · rw [← Text.isWord_toUpper]
      exact letters.2 _ (same ▸ List.mem_map_of_mem member)
  have ends : Text.isWord? (text.drop keyword.toList.length).head? = false := by
    cases following : text.drop keyword.toList.length with
    | nil => rfl
    | cons next after =>
      by_cases blank : Text.isBlank next = true
      · exact Text.isWord_of_isBlank blank
      · simp [following, matchWith?, blank] at blanks
  have start := word.isWord?_head? (text.drop keyword.toList.length)
  rw [List.take_append_drop] at start
  refine ⟨?_, _, _, (List.take_append_drop _ _).symm, word, ends, same⟩
  simpa [Cursor.atEdge, Text.wordBoundary, start] using edge

/-- The search for the table, from a position on. -/
def tableAfter? (before : Option Char) (text : List Char) : Option (List Char) :=
  firstAfter? Char.toUpper tableKeywords beginsWithIdentifier before text

/-- The search passes over a position where no keyword is matched. -/
theorem tableAfter?_cons {before : Option Char} {next : Char} {after : List Char}
    (nothing : ∀ keyword ∈ tableWords,
      matchWith? Char.toUpper (tablePattern keyword) ⟨before, next :: after⟩ = none) :
    tableAfter? before (next :: after) = tableAfter? (some next) after := by
  have nowhere : (tableKeywords.findSome? fun pattern =>
      ((matchWith? Char.toUpper pattern ⟨before, next :: after⟩).map Cursor.after).filter
        beginsWithIdentifier) = none := by
    rw [tableKeywords_eq, List.findSome?_eq_none_iff]
    intro pattern listed
    obtain ⟨keyword, known, rfl⟩ := List.mem_map.1 listed
    rw [nothing keyword known]
    rfl
  rw [tableAfter?, firstAfter?, nowhere]
  rfl

/-- The search passes over a character that is no letter of words. -/
theorem tableAfter?_mark (before : Option Char) {mark : Char}
    (outside : Text.isWord mark = false) (rest : List Char) :
    tableAfter? before (mark :: rest) = tableAfter? (some mark) rest := by
  refine tableAfter?_cons fun keyword known => ?_
  by_contra found
  obtain ⟨cursor, found⟩ := Option.ne_none_iff_exists'.1 found
  obtain ⟨-, letters, after, same, word, -, -⟩ := word_of_tablePattern known found
  have start := word.isWord?_head? after
  rw [← same] at start
  simp [Text.isWord?, outside] at start

/-- From inside of a word the search goes on at its end. -/
theorem tableAfter?_inside (before : Option Char) (inside : Text.isWord? before = true)
    {letters : List Char} (word : ∀ character ∈ letters, Text.isWord character = true)
    (rest : List Char) :
    ∃ last, tableAfter? before (letters ++ rest) = tableAfter? last rest := by
  induction letters generalizing before with
  | nil => exact ⟨before, rfl⟩
  | cons letter letters ih =>
    obtain ⟨last, passed⟩ := ih (some letter) (word letter (by simp))
      fun character member => word character (by simp [member])
    refine ⟨last, ?_⟩
    rw [List.cons_append, tableAfter?_cons, passed]
    intro keyword known
    by_contra found
    obtain ⟨cursor, found⟩ := Option.ne_none_iff_exists'.1 found
    simp [(word_of_tablePattern known found).1] at inside

/-- The search passes over pieces without a keyword. -/
theorem tableAfter?_skip {pieces : List Piece} (cut : Cut pieces)
    (quiet : ∀ letters ∈ pieces.filterMap Piece.word?, ∀ keyword ∈ tableWords,
      letters.map Char.toUpper ≠ keyword.toList)
    (rest : List Char) (apart : Text.isWord? rest.head? = false) (before : Option Char) :
    ∃ last, tableAfter? before (spell pieces ++ rest) = tableAfter? last rest := by
  induction cut generalizing before with
  | nil => exact ⟨before, rfl⟩
  | mark outside cut ih =>
    obtain ⟨last, passed⟩ := ih quiet (some _)
    exact ⟨last, (tableAfter?_mark before outside _).trans passed⟩
  | @word first letters following inside ends cut ih =>
    have word : Cut (.word (first :: letters) :: following) := .word inside ends cut
    have stops : Text.isWord? (spell following ++ rest).head? = false := by
      have behind := word.apart
      rw [List.head?_append]
      cases start : (spell following).head? with
      | none => exact apart
      | some next => rwa [start] at behind
    obtain ⟨middle, within⟩ := tableAfter?_inside (some first) (inside first (by simp))
      (fun character member => inside character (List.mem_cons_of_mem _ member))
      (spell following ++ rest)
    obtain ⟨last, passed⟩ :=
      ih (fun found member => quiet found (List.mem_cons_of_mem _ member)) middle
    refine ⟨last, ?_⟩
    rw [spell_word, List.append_assoc, List.cons_append, tableAfter?_cons, within, passed]
    -- A keyword matched here would be this whole word.
    intro keyword known
    by_contra found
    obtain ⟨cursor, found⟩ := Option.ne_none_iff_exists'.1 found
    obtain ⟨-, letters, after, same, other, beyond, upper⟩ := word_of_tablePattern known found
    rw [← List.cons_append] at same
    rw [← (word.letters.eq_of_append other stops beyond same).1] at upper
    exact quiet _ (by simp [Piece.word?]) keyword known upper

/-- A keyword with a name behind it is matched up to the name. -/
theorem matchWith?_tablePattern {keyword : String} (known : keyword ∈ tableWords)
    {before : Option Char} (outside : Text.isWord? before = false) {name : List Char}
    (word : Text.isWord? name.head? = true) :
    matchWith? Char.toUpper (tablePattern keyword) ⟨before, keyword.toList ++ ' ' :: name⟩ =
      some ⟨some ' ', name⟩ := by
  obtain ⟨letters, same⟩ := upper_of_mem_tableWords keyword known
  have edge : Cursor.atEdge ⟨before, keyword.toList ++ ' ' :: name⟩ = true := by
    have start := letters.isWord?_head? (' ' :: name)
    simp only [Cursor.atEdge, Text.wordBoundary, outside, start]
    rfl
  have blank : (' ' :: name).takeWhile Text.isBlank = [' '] := by
    cases name with
    | nil => rfl
    | cons first others =>
      have other : Text.isBlank first = false := by
        cases blank : Text.isBlank first with
        | false => rfl
        | true => simp [Text.isWord?, Text.isWord_of_isBlank blank] at word
      simp [show Text.isBlank ' ' = true from rfl, other]
  rw [tablePattern, matchWith?, if_pos edge, matchWith?_literals, List.take_left, List.drop_left,
    if_pos same, matchWith?]
  simp only [blank]
  rfl

/-- No other keyword is matched there. -/
theorem matchWith?_tablePattern_other {keyword other : String} (known : keyword ∈ tableWords)
    (listed : other ∈ tableWords) (differs : other ≠ keyword) (before : Option Char)
    (name : List Char) :
    matchWith? Char.toUpper (tablePattern other) ⟨before, keyword.toList ++ ' ' :: name⟩ =
      none := by
  by_contra found
  obtain ⟨cursor, found⟩ := Option.ne_none_iff_exists'.1 found
  obtain ⟨-, letters, after, split, following, beyond, same⟩ := word_of_tablePattern listed found
  obtain ⟨word, upper⟩ := upper_of_mem_tableWords keyword known
  rw [← (word.eq_of_append following rfl beyond split).1, upper, String.toList_inj] at same
  exact differs same.symm

/-- A keyword is found where it stands, and with it the name behind it. -/
theorem tableAfter?_found {keyword : String} (known : keyword ∈ tableWords) {before : Option Char}
    (outside : Text.isWord? before = false) {name : List Char}
    (begins : beginsWithIdentifier name = true) (word : Text.isWord? name.head? = true) :
    tableAfter? before (keyword.toList ++ ' ' :: name) = some name := by
  have found : ∀ other ∈ tableWords,
      ((matchWith? Char.toUpper (tablePattern other) ⟨before, keyword.toList ++ ' ' :: name⟩).map
        Cursor.after).filter beginsWithIdentifier =
          if other = keyword then some name else none := by
    intro other listed
    split
    · next same =>
      rw [same, matchWith?_tablePattern known outside word]
      simp [begins]
    · next differs =>
      rw [matchWith?_tablePattern_other known listed differs]
      rfl
  have here : (tableKeywords.findSome? fun pattern =>
      ((matchWith? Char.toUpper pattern ⟨before, keyword.toList ++ ' ' :: name⟩).map
        Cursor.after).filter beginsWithIdentifier) = some name := by
    have first := found "FROM" (by decide)
    have second := found "UPDATE" (by decide)
    rw [tableKeywords_eq]
    simp only [tableWords, List.map_cons, List.map_nil, List.findSome?_cons, first, second]
    simp only [tableWords, List.mem_cons, List.not_mem_nil, or_false] at known
    rcases known with rfl | rfl <;> rfl
  cases text : keyword.toList ++ ' ' :: name with
  | nil => simp at text
  | cons next after =>
    rw [text] at here
    rw [tableAfter?, firstAfter?, here]

/-- The name that a text starts with is read to its end. -/
theorem takeWhile_identifier {table : String} (identifier : IsIdentifier table)
    {rest : List Char} (detached : ∀ first ∈ rest.head?, first = ' ') :
    beginsWithIdentifier (table.toList ++ rest) = true ∧
      (table.toList ++ rest).takeWhile continuesIdentifier = table.toList := by
  obtain ⟨first, head, letter⟩ := (Option.any_eq_true _ _).1 identifier.start
  have inside : ∀ character ∈ table.toList, continuesIdentifier character = true := by
    intro character member
    have letter := identifier.letters character member
    simp only [Char.isAlphanum, Bool.or_eq_true] at letter
    simp only [continuesIdentifier, startsIdentifier, Bool.or_eq_true]
    tauto
  constructor
  · rw [beginsWithIdentifier, List.head?_append, head]
    simp only [Bool.or_eq_true] at letter
    simp only [Option.some_or, Option.any_some, startsIdentifier, Bool.or_eq_true]
    tauto
  · rw [List.takeWhile_append_of_pos inside]
    cases rest with
    | nil => simp
    | cons next after =>
      obtain rfl := detached next rfl
      rw [List.takeWhile_cons_of_neg (by decide), List.append_nil]

/-! ### Tables of statements -/

section Statements

variable {table rest : String} (identifier : IsIdentifier table)
  (detached : ∀ first ∈ rest.toList.head?, first = ' ')

include identifier detached

/-- The table is the name behind the keyword that the search stops at. -/
theorem targetTable?_of_keyword (keyword : String) (known : keyword ∈ tableWords)
    (before : Option Char) (outside : Text.isWord? before = false) {sql : String}
    (passed : tableAfter? none sql.toList =
      tableAfter? before (keyword.toList ++ ' ' :: (table.toList ++ rest.toList))) :
    targetTable? sql = some table := by
  obtain ⟨begins, name⟩ := takeWhile_identifier identifier detached
  rw [tableAfter?_found known outside begins (identifier.word.isWord?_head? _)] at passed
  rw [targetTable?, show fromTargetTable? sql.toList = tableAfter? none sql.toList from rfl, passed,
    Option.map_some, name, String.ofList_toList]

/-- The table behind the first FROM, after a neutral text. -/
theorem targetTable?_from {head : String} {free : List (List Char)} (neutral : Neutral head free) :
    targetTable? (head ++ " FROM " ++ table ++ rest) = some table := by
  have quiet : ∀ letters ∈ (Text.pieces head.toList).filterMap Piece.word?,
      ∀ keyword ∈ tableWords, letters.map Char.toUpper ≠ keyword.toList := by
    intro letters member keyword known same
    have upper : letters.map Char.toUpper ∈ Text.wordsOf (Text.uppercase head.toList) := by
      rw [Text.uppercase_of_ascii neutral.ascii, Text.wordsOf_map_toUpper]
      exact List.mem_map_of_mem member
    exact neutral.quiet _ upper keyword (List.mem_append_right _ known) same.symm
  obtain ⟨last, passed⟩ := tableAfter?_skip (Text.cut_pieces head.toList) quiet
    (' ' :: ("FROM".toList ++ ' ' :: (table.toList ++ rest.toList))) rfl none
  rw [Text.spell_pieces, tableAfter?_mark last (by decide)] at passed
  refine targetTable?_of_keyword identifier detached "FROM" (by decide) (some ' ') rfl ?_
  rw [← passed]
  simp

/-- The table behind an UPDATE at the start. -/
theorem targetTable?_update : targetTable? ("UPDATE " ++ table ++ rest) = some table := by
  refine targetTable?_of_keyword identifier detached "UPDATE" (by decide) none rfl ?_
  simp

end Statements

end QueryKit.Analysis
