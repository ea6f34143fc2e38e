import QueryKit.Analysis.Clause
import Mathlib.Data.List.Basic

/-!
# The pieces of a text

A text is a sequence of words and of single characters between them. Patterns that start and
end at the edge of a word cannot tell more of a text than its pieces, and this module says what
they find in terms of these: a phrase is found where its words stand with blanks between them,
and nowhere inside a word.
-/

namespace QueryKit

/-- Whether all characters of a text have a property is decided along the text, and not over
all characters that there are. -/
instance (priority := 2000) Text.decidableForallMem (property : Char → Prop)
    [DecidablePred property] (text : List Char) :
    Decidable (∀ character ∈ text, property character) :=
  List.decidableBAll property text

/-- A word, or a character that belongs to none. -/
inductive Piece where
  | word (letters : List Char)
  | mark (character : Char)
  deriving DecidableEq

namespace Piece

/-- The characters of a piece. -/
def chars : Piece → List Char
  | .word letters => letters
  | .mark character => [character]

/-- Whether the piece is a blank between words. -/
def isBlank : Piece → Bool
  | .word _ => false
  | .mark character => Text.isBlank character

/-- The word that the piece is. -/
def word? : Piece → Option (List Char)
  | .word letters => some letters
  | .mark _ => none

/-- Whether the first of some pieces is a word. -/
def startWithWord : List Piece → Bool
  | .word _ :: _ => true
  | _ => false

/-- The text that consists of some pieces. -/
def spell (pieces : List Piece) : List Char := pieces.flatMap chars

@[simp] theorem spell_nil : spell [] = [] := rfl

@[simp] theorem spell_word (letters : List Char) (rest : List Piece) :
    spell (.word letters :: rest) = letters ++ spell rest := rfl

@[simp] theorem spell_mark (character : Char) (rest : List Piece) :
    spell (.mark character :: rest) = character :: spell rest := rfl

/-- Pieces as they are cut from a text: no two words are neighbours. -/
inductive Cut : List Piece → Prop where
  | nil : Cut []
  | mark {character : Char} {rest : List Piece} (outside : Text.isWord character = false)
    (cut : Cut rest) : Cut (.mark character :: rest)
  | word {first : Char} {letters : List Char} {rest : List Piece}
    (inside : ∀ character ∈ first :: letters, Text.isWord character = true)
    (apart : startWithWord rest = false) (cut : Cut rest) :
    Cut (.word (first :: letters) :: rest)

/-- A text of pieces starts inside a word exactly if the first piece is one. -/
theorem Cut.isWord?_head? {pieces : List Piece} (cut : Cut pieces) :
    Text.isWord? (spell pieces).head? = startWithWord pieces := by
  cases cut with
  | nil => rfl
  | mark outside cut => exact outside
  | word inside apart cut => exact inside _ (by simp)

end Piece

namespace Text

open Piece

/-- The code points of the blanks. -/
def blankCodes : List Nat :=
  [9, 10, 11, 12, 13, 0x20, 0x85, 0xA0, 0x1680, 0x2000, 0x2001, 0x2002, 0x2003, 0x2004, 0x2005,
    0x2006, 0x2007, 0x2008, 0x2009, 0x200A, 0x2028, 0x2029, 0x202F, 0x205F, 0x3000]

/-- No blank is a letter of a word. -/
theorem isWord_blankCode : ∀ code ∈ blankCodes, isWord (Char.ofNat code) = false := by
  decide +kernel

/-- No blank is part of a word. -/
theorem isWord_of_isBlank {character : Char} (blank : isBlank character = true) :
    isWord character = false := by
  have listed : character.toNat ∈ blankCodes := by
    simp only [isBlank, Bool.or_eq_true, Bool.and_eq_true, decide_eq_true_eq, beq_iff_eq] at blank
    simp only [blankCodes, List.mem_cons, List.not_mem_nil, or_false]
    omega
  have outside := isWord_blankCode _ listed
  rwa [Char.ofNat_toNat] at outside

/-- Pieces with a letter in front. -/
def attach (letter : Char) : List Piece → List Piece
  | .word letters :: rest => .word (letter :: letters) :: rest
  | pieces => .word [letter] :: pieces

/-- The pieces of a text. -/
def pieces : List Char → List Piece
  | [] => []
  | character :: rest =>
    if isWord character then attach character (pieces rest) else .mark character :: pieces rest

/-- A letter in front of some pieces is one in front of their text. -/
theorem spell_attach (letter : Char) (pieces : List Piece) :
    spell (attach letter pieces) = letter :: spell pieces := by
  cases pieces with
  | nil => rfl
  | cons piece rest => cases piece <;> rfl

/-- A cut stays a cut when a letter is put in front. -/
theorem cut_attach {letter : Char} {pieces : List Piece} (inside : isWord letter = true)
    (cut : Cut pieces) : Cut (attach letter pieces) := by
  cases cut with
  | nil => exact .word (by simpa using inside) rfl .nil
  | mark outside cut => exact .word (by simpa using inside) rfl (.mark outside cut)
  | word others apart cut =>
    refine .word (fun character member => ?_) apart cut
    rcases List.mem_cons.1 member with rfl | member
    · exact inside
    · exact others character member

/-- The pieces of a text spell it. -/
@[simp] theorem spell_pieces (text : List Char) : spell (pieces text) = text := by
  induction text with
  | nil => rfl
  | cons character rest ih =>
    rw [pieces]
    split
    · rw [spell_attach, ih]
    · rw [spell_mark, ih]

/-- The pieces of a text are a cut: a word takes all letters that follow each other. -/
theorem cut_pieces (text : List Char) : Cut (pieces text) := by
  induction text with
  | nil => exact .nil
  | cons character rest ih =>
    rw [pieces]
    split
    · next inside => exact cut_attach inside ih
    · next outside => exact .mark (Bool.eq_false_iff.2 outside) ih

/-- A text begins with a word iff its first character is a letter of words. -/
theorem startWithWord_pieces (text : List Char) :
    startWithWord (pieces text) = isWord? text.head? := by
  rw [← (cut_pieces text).isWord?_head?, spell_pieces]

/-- No word reaches from one text into the other. -/
def Apart (left right : List Char) : Prop :=
  isWord? left.getLast? = false ∨ isWord? right.head? = false

/-- A letter in front of two lists of pieces goes to the first, unless it would join a word. -/
theorem attach_append {letter : Char} {left right : List Piece}
    (apart : left = [] → startWithWord right = false) :
    attach letter (left ++ right) = attach letter left ++ right := by
  cases left with
  | cons piece rest => cases piece <;> rfl
  | nil =>
    cases right with
    | nil => rfl
    | cons piece rest =>
      cases piece with
      | mark character => rfl
      | word letters => simp [startWithWord] at apart

/-- Only the empty text has no pieces. -/
theorem pieces_eq_nil {text : List Char} (none : pieces text = []) : text = [] := by
  rw [← spell_pieces text, none, spell_nil]

/-- Texts that no word joins have the pieces of both. -/
theorem pieces_append {left right : List Char} (apart : Apart left right) :
    pieces (left ++ right) = pieces left ++ pieces right := by
  induction left with
  | nil => rfl
  | cons character rest ih =>
    have tail : pieces (rest ++ right) = pieces rest ++ pieces right := by
      cases rest with
      | nil => rfl
      | cons second others => exact ih (by simpa [Apart, List.getLast?_cons_cons] using apart)
    rw [List.cons_append, pieces, pieces, tail]
    split
    · next inside =>
      refine attach_append fun nothing => ?_
      obtain rfl := pieces_eq_nil nothing
      rw [startWithWord_pieces]
      exact apart.resolve_left fun last => by simp [isWord?, inside] at last
    · rfl

end Text

/-! ### Where a phrase stands -/

namespace Piece

/-- What follows a phrase at the start of some pieces: its words, with blanks between them. -/
def afterPhrase? : List String → List Piece → Option (List Piece)
  | [], pieces => some pieces
  | [last], .word letters :: rest => if letters = last.toList then some rest else none
  | first :: second :: others, .word letters :: rest =>
    if letters = first.toList ∧ rest.head?.any isBlank then
      afterPhrase? (second :: others) (rest.dropWhile isBlank)
    else none
  | _, _ => none

/-- What follows each place where a phrase stands. -/
def tailsAfter (phrase : List String) : List Piece → List (List Piece)
  | [] => []
  | piece :: rest => (afterPhrase? phrase (piece :: rest)).toList ++ tailsAfter phrase rest

/-- Whether one of some phrases stands at the start. -/
def startWithPhrase (phrases : List (List String)) (pieces : List Piece) : Bool :=
  phrases.any fun phrase => (afterPhrase? phrase pieces).isSome

/-- The pieces up to the first place where one of some phrases stands. -/
def untilPhrase (phrases : List (List String)) : List Piece → List Piece
  | [] => []
  | piece :: rest =>
    if startWithPhrase phrases (piece :: rest) then [] else piece :: untilPhrase phrases rest

/-- Without a word at the start no phrase stands there. -/
theorem afterPhrase?_eq_none {phrase : List String} {pieces : List Piece} (nonempty : phrase ≠ [])
    (outside : startWithWord pieces = false) : afterPhrase? phrase pieces = none := by
  fun_cases afterPhrase? phrase pieces with
  | case1 => exact absurd rfl nonempty
  | case2 | case3 | case4 | case5 => simp [startWithWord] at outside
  | case6 => rfl

/-- A phrase of one word stands where that word stands. -/
theorem afterPhrase?_single {word : String} {pieces tail : List Piece} :
    afterPhrase? [word] pieces = some tail ↔ pieces = .word word.toList :: tail := by
  cases pieces with
  | nil => simp [afterPhrase?]
  | cons piece rest => cases piece <;> simp [afterPhrase?]

/-- A phrase can only stand where its first word stands. -/
theorem head_of_afterPhrase? {phrase : List String} {letters : List Char} {rest tail : List Piece}
    (nonempty : phrase ≠ []) (found : afterPhrase? phrase (.word letters :: rest) = some tail) :
    ∃ first ∈ phrase.head?, first.toList = letters := by
  match phrase, found with
  | [], _ => exact absurd rfl nonempty
  | [last], found =>
    rw [afterPhrase?, Option.ite_none_right_eq_some] at found
    exact ⟨last, rfl, found.1.symm⟩
  | first :: second :: others, found =>
    rw [afterPhrase?, Option.ite_none_right_eq_some] at found
    exact ⟨first, rfl, found.1.1.symm⟩

/-- The pieces after the first of a cut are a cut. -/
theorem Cut.tail {piece : Piece} {rest : List Piece} (cut : Cut (piece :: rest)) : Cut rest := by
  cases cut with
  | mark outside cut => exact cut
  | word inside apart cut => exact cut

/-- The blanks at the start of a text are the marks at the start of its pieces that are blank. -/
theorem Cut.blanks {pieces : List Piece} (cut : Cut pieces) :
    (spell pieces).takeWhile Text.isBlank = spell (pieces.takeWhile isBlank) ∧
      (spell pieces).dropWhile Text.isBlank = spell (pieces.dropWhile isBlank) := by
  induction cut with
  | nil => exact ⟨rfl, rfl⟩
  | @mark character rest outside cut ih =>
    by_cases blank : Text.isBlank character = true
    · simp [isBlank, blank, ih]
    · simp [isBlank, blank]
  | @word first letters rest inside apart cut ih =>
    have letter : Text.isBlank first = false := by
      cases blank : Text.isBlank first with
      | false => rfl
      | true => simpa [Text.isWord_of_isBlank blank] using inside first
    simp [isBlank, letter]

/-- What is left of a cut without some leading pieces is a cut. -/
theorem Cut.dropWhile {pieces : List Piece} (cut : Cut pieces) (test : Piece → Bool) :
    Cut (pieces.dropWhile test) := by
  induction pieces with
  | nil => exact cut
  | cons piece rest ih =>
    rw [List.dropWhile_cons]
    split
    · exact ih cut.tail
    · exact cut

/-- What follows a phrase in a cut is a cut. -/
theorem Cut.afterPhrase {pieces tail : List Piece} (cut : Cut pieces) {phrase : List String}
    (found : afterPhrase? phrase pieces = some tail) : Cut tail := by
  fun_induction afterPhrase? phrase pieces with
  | case1 pieces => exact Option.some.inj found ▸ cut
  | case2 last rest => exact Option.some.inj found ▸ cut.tail
  | case4 first second others letters rest matched ih => exact ih (cut.tail.dropWhile _) found
  | case3 | case5 | case6 => simp at found

/-- What follows any place of a phrase in a cut is a cut. -/
theorem Cut.tailsAfter {pieces tail : List Piece} (cut : Cut pieces) {phrase : List String}
    (follows : tail ∈ tailsAfter phrase pieces) : Cut tail := by
  induction pieces with
  | nil => simp [Piece.tailsAfter] at follows
  | cons piece rest ih =>
    rw [Piece.tailsAfter, List.mem_append, Option.mem_toList] at follows
    rcases follows with here | later
    · exact cut.afterPhrase here
    · exact ih cut.tail later

/-- Stopping before a phrase puts no word at the start. -/
theorem startWithWord_untilPhrase {phrases : List (List String)} {pieces : List Piece}
    (outside : startWithWord pieces = false) :
    startWithWord (untilPhrase phrases pieces) = false := by
  cases pieces with
  | nil => rfl
  | cons piece rest =>
    rw [untilPhrase]
    split
    · rfl
    · cases piece with
      | mark character => rfl
      | word letters => simp [startWithWord] at outside

/-- The part of a cut before some phrases is a cut. -/
theorem Cut.untilPhrase {pieces : List Piece} (cut : Cut pieces) (phrases : List (List String)) :
    Cut (untilPhrase phrases pieces) := by
  induction cut with
  | nil => exact .nil
  | mark outside cut ih =>
    rw [Piece.untilPhrase]
    split
    · exact .nil
    · exact .mark outside ih
  | word inside apart cut ih =>
    rw [Piece.untilPhrase]
    split
    · exact .nil
    · exact .word inside (startWithWord_untilPhrase apart) ih

end Piece

/-! ### What patterns find -/

/-- A text of letters, of which there is at least one. -/
def Letters (text : List Char) : Prop :=
  text ≠ [] ∧ ∀ character ∈ text, Text.isWord character = true

instance : DecidablePred Letters := fun text =>
  inferInstanceAs (Decidable (text ≠ [] ∧ ∀ character ∈ text, Text.isWord character = true))

/-- A text of letters ends in a letter. -/
theorem Letters.isWord?_getLast? {text : List Char} (letters : Letters text) :
    Text.isWord? text.getLast? = true := by
  obtain ⟨last, found⟩ := Option.isSome_iff_exists.1 (List.getLast?_isSome.2 letters.1)
  rw [found]
  exact letters.2 last (List.mem_of_getLast? found)

/-- A text that begins with letters begins with a letter. -/
theorem Letters.isWord?_head? {text : List Char} (letters : Letters text) (rest : List Char) :
    Text.isWord? (text ++ rest).head? = true := by
  obtain ⟨first, others, rfl⟩ := List.exists_cons_of_ne_nil letters.1
  exact letters.2 first (by simp)

/-- A word of a text is told by where it ends. -/
theorem Letters.eq_of_append {left right rest following : List Char} (letters : Letters left)
    (others : Letters right) (ends : Text.isWord? rest.head? = false)
    (stops : Text.isWord? following.head? = false) (same : left ++ rest = right ++ following) :
    left = right ∧ rest = following := by
  have run : ∀ {word tail : List Char}, Letters word → Text.isWord? tail.head? = false →
      (word ++ tail).takeWhile Text.isWord = word := by
    intro word tail inside outside
    rw [List.takeWhile_append_of_pos inside.2]
    cases tail with
    | nil => simp
    | cons first others => simp [show Text.isWord first = false from outside]
  have lefts : left = right := by rw [← run letters ends, same, run others stops]
  subst lefts
  exact ⟨rfl, List.append_cancel_left same⟩

/-- A word of a cut consists of letters. -/
theorem Piece.Cut.letters {letters : List Char} {rest : List Piece}
    (cut : Piece.Cut (.word letters :: rest)) : Letters letters := by
  cases cut with
  | word inside apart cut => exact ⟨by simp, inside⟩

/-- No letter follows a word of a cut. -/
theorem Piece.Cut.apart {letters : List Char} {rest : List Piece}
    (cut : Piece.Cut (.word letters :: rest)) : Text.isWord? (Piece.spell rest).head? = false := by
  cases cut with
  | word inside apart cut => rw [cut.isWord?_head?, apart]

/-- Pieces whose text starts with a word that ends there start with that word. -/
theorem Piece.Cut.eq_word {pieces : List Piece} (cut : Piece.Cut pieces)
    {letters following : List Char} (word : Letters letters)
    (ends : Text.isWord? following.head? = false)
    (same : Piece.spell pieces = letters ++ following) :
    ∃ rest, pieces = .word letters :: rest := by
  have start : Piece.startWithWord pieces = true := by
    rw [← cut.isWord?_head?, same]
    exact word.isWord?_head? following
  match pieces, cut, same, start with
  | .word found :: rest, cut, same, _ =>
    exact ⟨rest, by rw [(cut.letters.eq_of_append word cut.apart ends same).1]⟩

namespace Pattern

open Piece

/-- Literals match the characters that they stand for, and what follows these decides. -/
theorem matchWith?_literals (fold : Char → Char) (letters : List Char) (rest : Pattern)
    (before : Option Char) (text : List Char) :
    matchWith? fold (letters.map .literal ++ rest) ⟨before, text⟩ =
      if (text.take letters.length).map fold = letters then
        matchWith? fold rest
          ⟨(text.take letters.length).getLast?.or before, text.drop letters.length⟩
      else none := by
  induction letters generalizing before text with
  | nil => simp
  | cons letter letters ih =>
    cases text with
    | nil => simp [matchWith?]
    | cons next after =>
      simp only [List.map_cons, List.cons_append, matchWith?, ih, List.length_cons,
        List.take_succ_cons, List.drop_succ_cons, List.cons.injEq, List.getLast?_cons,
        Option.or_some, Option.some_or]
      by_cases same : fold next = letter
      · simp only [same, true_and, Option.getD, if_true]
      · simp [same]

/-- A pattern that matches, behind a letter, only where the word ends. -/
def Stops (pattern : Pattern) : Prop :=
  ∀ before following cursor, Text.isWord? before = true →
    matchWith? id pattern ⟨before, following⟩ = some cursor →
      Text.isWord? following.head? = false

/-- A word at the start of a pattern is matched by that word alone. -/
theorem matchWith?_word {letters : List Char} (word : Letters letters) {rest : Pattern}
    (stops : Stops rest) (before : Option Char) {pieces : List Piece} (cut : Cut pieces) :
    matchWith? id (letters.map .literal ++ rest) ⟨before, spell pieces⟩ =
      match pieces with
      | .word found :: following =>
        if found = letters then matchWith? id rest ⟨letters.getLast?, spell following⟩ else none
      | _ => none := by
  have last : letters.getLast?.or before = letters.getLast? :=
    Option.or_of_isSome (List.getLast?_isSome.2 word.1)
  rw [matchWith?_literals, List.map_id]
  by_cases stands : ∃ following, pieces = .word letters :: following
  · obtain ⟨following, rfl⟩ := stands
    simp [last]
  · have nothing : ∀ following, pieces ≠ .word letters :: following := fun following same =>
      stands ⟨following, same⟩
    trans none
    · split
      · next same =>
        have whole : spell pieces = letters ++ (spell pieces).drop letters.length := by
          conv_lhs => rw [← List.take_append_drop letters.length (spell pieces), same]
        rw [same, last, ← Option.not_isSome_iff_eq_none]
        intro found
        obtain ⟨cursor, found⟩ := Option.isSome_iff_exists.1 found
        exact stands (cut.eq_word word (stops _ _ _ word.isWord?_getLast? found) whole)
      · rfl
    · split
      · next found following _ =>
        rw [if_neg]
        rintro rfl
        exact nothing following rfl
      · rfl

/-- The steps of a phrase after its first edge. -/
def body (phrase : List String) : Pattern :=
  List.intercalate [.blanks] (phrase.map ofText) ++ [.edge]

/-- An edge behind a letter is the end of the word. -/
theorem stops_edge : Stops [.edge] := by
  intro before following cursor inside found
  by_contra outside
  simp [matchWith?, Cursor.atEdge, Text.wordBoundary, inside, outside] at found

/-- Blanks behind a letter are the end of the word. -/
theorem stops_blanks (rest : Pattern) : Stops (.blanks :: rest) := by
  intro before following cursor inside found
  cases following with
  | nil => rfl
  | cons next after =>
    by_cases blank : Text.isBlank next = true
    · exact Text.isWord_of_isBlank blank
    · simp [matchWith?, blank] at found

/-- Blanks in a pattern are matched by the marks that are blank, if there is one. -/
theorem matchWith?_blanks (rest : Pattern) (before : Option Char) {pieces : List Piece}
    (cut : Cut pieces) :
    ∃ last, matchWith? id (.blanks :: rest) ⟨before, spell pieces⟩ =
      if pieces.head?.any Piece.isBlank then
        matchWith? id rest ⟨last, spell (pieces.dropWhile Piece.isBlank)⟩
      else none := by
  obtain ⟨run, left⟩ := cut.blanks
  refine ⟨((spell pieces).takeWhile Text.isBlank).getLast?.or before, ?_⟩
  have some_iff : pieces.head?.any Piece.isBlank = true ↔
      (spell pieces).takeWhile Text.isBlank ≠ [] := by
    rw [run]
    match pieces with
    | [] => simp
    | .word letters :: rest => simp [Piece.isBlank]
    | .mark character :: rest =>
      by_cases blank : Text.isBlank character <;> simp [Piece.isBlank, blank]
  have dropped : (spell pieces).drop ((spell pieces).takeWhile Text.isBlank).length =
      spell (pieces.dropWhile Piece.isBlank) := by
    have rest : (((spell pieces).takeWhile Text.isBlank ++
        (spell pieces).dropWhile Text.isBlank).drop
          ((spell pieces).takeWhile Text.isBlank).length) =
            (spell pieces).dropWhile Text.isBlank := List.drop_left
    rwa [List.takeWhile_append_dropWhile, left] at rest
  rw [matchWith?]
  split
  · next nothing => rw [if_neg (fun stands => some_iff.1 stands nothing)]
  · next taken something => rw [if_pos (some_iff.2 something), Cursor.skip, dropped]

/-- Some words, at least one. -/
structure IsPhrase (phrase : List String) : Prop where
  nonempty : phrase ≠ []
  letters : ∀ word ∈ phrase, Letters word.toList

instance : DecidablePred IsPhrase := fun phrase =>
  decidable_of_iff (phrase ≠ [] ∧ ∀ word ∈ phrase, Letters word.toList)
    ⟨fun ⟨nonempty, letters⟩ => ⟨nonempty, letters⟩, fun words => ⟨words.nonempty, words.letters⟩⟩

/-- The last word of a phrase is followed by an edge. -/
theorem body_single (word : String) : body [word] = word.toList.map .literal ++ [.edge] := by
  simp [body, ofText, List.intercalate]

/-- A word of a phrase is followed by blanks and the words after it. -/
theorem body_cons (word second : String) (others : List String) :
    body (word :: second :: others) =
      word.toList.map .literal ++ .blanks :: body (second :: others) := by
  simp [body, ofText, List.intercalate]

/-- The words of a phrase are matched by pieces that are these words. -/
theorem matchWith?_body {phrase : List String} (words : IsPhrase phrase) (before : Option Char)
    {pieces : List Piece} (cut : Cut pieces) :
    (matchWith? id (body phrase) ⟨before, spell pieces⟩).map Cursor.after =
      (afterPhrase? phrase pieces).map spell := by
  -- By induction on the words: the last one ends at an edge, any other one at blanks.
  induction phrase generalizing before pieces with
  | nil => exact absurd rfl words.nonempty
  | cons word rest ih =>
    have letters := words.letters word (by simp)
    cases rest with
    | nil =>
      rw [body_single, matchWith?_word letters stops_edge before cut]
      match pieces, cut with
      | .word found :: following, cut =>
        simp only [afterPhrase?]
        split
        · simp [matchWith?, Cursor.atEdge, Text.wordBoundary, letters.isWord?_getLast?, cut.apart]
        · rfl
      | .mark _ :: _, _ => rfl
      | [], _ => rfl
    | cons second others =>
      rw [body_cons, matchWith?_word letters (stops_blanks _) before cut]
      match pieces, cut with
      | .word found :: following, cut =>
        obtain ⟨last, blanks⟩ :=
          matchWith?_blanks (body (second :: others)) word.toList.getLast? cut.tail
        have others : IsPhrase (second :: others) :=
          ⟨by simp, fun word member => words.letters word (by simp [member])⟩
        have inner := ih others last (cut.tail.dropWhile Piece.isBlank)
        simp only [afterPhrase?, blanks, ite_and]
        split
        · split
          · exact inner
          · rfl
        · rfl
      | .mark _ :: _, _ => rfl
      | [], _ => rfl

/-- A phrase is found at the start of a text exactly if it stands at the start of the pieces,
unless the text starts inside a word. -/
theorem match?_phrase {phrase : List String} (words : IsPhrase phrase) {before : Option Char}
    {pieces : List Piece} (cut : Cut pieces)
    (outside : Text.isWord? before = true → startWithWord pieces = false) :
    (match? (.phrase phrase) ⟨before, spell pieces⟩).map Cursor.after =
      (afterPhrase? phrase pieces).map spell := by
  have shape : Pattern.phrase phrase = .edge :: body phrase := rfl
  rw [shape, match?, matchWith?]
  cases starts : startWithWord pieces with
  | true =>
    have edge : Cursor.atEdge ⟨before, spell pieces⟩ = true := by
      cases inside : Text.isWord? before with
      | true => simp [outside inside] at starts
      | false => simp [Cursor.atEdge, Text.wordBoundary, inside, cut.isWord?_head?, starts]
    rw [if_pos edge, matchWith?_body words before cut]
  | false =>
    have nowhere := afterPhrase?_eq_none words.nonempty starts
    split
    · rw [matchWith?_body words before cut]
    · rw [nowhere]
      rfl

/-- Inside a word no pattern is found that starts at an edge. -/
theorem match?_inside (rest : Pattern) {before : Option Char} {letter : Char}
    (inside : Text.isWord? before = true) (follows : Text.isWord letter = true)
    (text : List Char) : match? (.edge :: rest) ⟨before, letter :: text⟩ = none := by
  have other : Text.isWord? (some letter) = true := follows
  simp [match?, matchWith?, Cursor.atEdge, Text.wordBoundary, inside, other]

/-! ### Going through a text -/

/-- A search that begins inside a word goes on at its end. -/
theorem occurrencesAfter_inside (rest : Pattern) {before : Option Char} {letters : List Char}
    (word : ∀ character ∈ letters, Text.isWord character = true)
    (inside : Text.isWord? before = true) (text : List Char) :
    occurrencesAfter (.edge :: rest) before (letters ++ text) =
      occurrencesAfter (.edge :: rest) (letters.getLast?.or before) text := by
  induction letters generalizing before with
  | nil => simp
  | cons letter letters ih =>
    have first : Text.isWord letter = true := word letter (by simp)
    rw [List.cons_append, occurrencesAfter, match?_inside rest inside first,
      ih (fun character member => word character (by simp [member])) (by exact first),
      List.getLast?_cons]
    cases letters.getLast? <;> rfl

/-- What follows the occurrences of a phrase. -/
theorem occurrencesAfter_phrase {phrase : List String} (words : IsPhrase phrase)
    {before : Option Char} {pieces : List Piece} (cut : Cut pieces)
    (outside : Text.isWord? before = true → startWithWord pieces = false) :
    (occurrencesAfter (.phrase phrase) before (spell pieces)).map Cursor.after =
      (tailsAfter phrase pieces).map spell := by
  induction cut generalizing before with
  | nil =>
    have here := match?_phrase words .nil outside
    rw [afterPhrase?_eq_none words.nonempty rfl, Option.map_none, Option.map_eq_none_iff,
      spell_nil] at here
    simp [occurrencesAfter, tailsAfter, here]
  | mark other cut ih =>
    have here := match?_phrase words (.mark other cut) outside
    rw [spell_mark] at here
    rw [spell_mark, occurrencesAfter, tailsAfter, List.map_append, List.map_append,
      ← Option.toList_map, here, Option.toList_map,
      ih fun inside => by simp [Text.isWord?, other] at inside]
  | @word first letters rest inside apart cut ih =>
    have here := match?_phrase words (.word inside apart cut) outside
    have others : ∀ character ∈ letters, Text.isWord character = true :=
      fun character member => inside character (by simp [member])
    rw [spell_word, List.cons_append] at here
    rw [spell_word, List.cons_append, occurrencesAfter, tailsAfter, List.map_append,
      List.map_append, ← Option.toList_map, here, Option.toList_map,
      show Pattern.phrase phrase = .edge :: body phrase from rfl,
      occurrencesAfter_inside _ others (by exact inside first (by simp))]
    exact congrArg _ (ih fun _ => apart)

/-- A phrase occurs exactly if some text follows it. -/
theorem occurs_iff (pattern : Pattern) (text : List Char) :
    pattern.occurs text = true ↔ pattern.occurrences text ≠ [] := by
  rw [occurs, anyOccurs, occurrences]
  generalize (none : Option Char) = before
  induction text generalizing before with
  | nil =>
    cases found : pattern.match? ⟨before, []⟩ <;>
      simp [anyOccursAfter, occurrencesAfter, found]
  | cons next after ih =>
    cases found : pattern.match? ⟨before, next :: after⟩ <;>
      simp [anyOccursAfter, occurrencesAfter, found, ih]

/-- A phrase occurs exactly if it stands among the pieces. -/
theorem occurs_phrase_iff {phrase : List String} (words : IsPhrase phrase) {pieces : List Piece}
    (cut : Cut pieces) :
    (Pattern.phrase phrase).occurs (spell pieces) = true ↔ tailsAfter phrase pieces ≠ [] := by
  have tails : ((Pattern.phrase phrase).occurrences (spell pieces)).map Cursor.after = _ :=
    occurrencesAfter_phrase words cut (by simp [Text.isWord?])
  rw [occurs_iff, ne_eq, ne_eq, ← List.map_eq_nil_iff, tails, List.map_eq_nil_iff]

/-- A phrase of one word stands somewhere iff the word is among the pieces. -/
theorem tailsAfter_word_ne_nil {word : String} {pieces : List Piece} :
    tailsAfter [word] pieces ≠ [] ↔ .word word.toList ∈ pieces := by
  induction pieces with
  | nil => simp [tailsAfter]
  | cons piece rest ih =>
    cases piece with
    | mark character => simpa [tailsAfter, afterPhrase?] using ih
    | word letters =>
      by_cases same : letters = word.toList
      · simp [tailsAfter, afterPhrase?, same]
      · simpa [tailsAfter, afterPhrase?, same, Ne.symm same] using ih

/-- A word occurs exactly if it is a piece. -/
theorem occurs_word_iff {word : String} (letters : Letters word.toList) {pieces : List Piece}
    (cut : Cut pieces) :
    (Pattern.word word).occurs (spell pieces) = true ↔ .word word.toList ∈ pieces := by
  rw [Pattern.word, occurs_phrase_iff ⟨by simp, by simpa using letters⟩ cut,
    tailsAfter_word_ne_nil]

/-- The text up to the first of some phrases, from inside a word on. -/
theorem beforeFirst_inside {patterns : List Pattern}
    (starts : ∀ pattern ∈ patterns, ∃ rest, pattern = .edge :: rest) {before : Option Char}
    {letters : List Char} (word : ∀ character ∈ letters, Text.isWord character = true)
    (inside : Text.isWord? before = true) (text : List Char) :
    beforeFirst patterns before (letters ++ text) =
      letters ++ beforeFirst patterns (letters.getLast?.or before) text := by
  induction letters generalizing before with
  | nil => simp
  | cons letter letters ih =>
    have first : Text.isWord letter = true := word letter (by simp)
    have nowhere : (patterns.any fun pattern =>
        (pattern.match? ⟨before, letter :: (letters ++ text)⟩).isSome) = false := by
      rw [List.any_eq_false]
      intro pattern member
      obtain ⟨rest, rfl⟩ := starts pattern member
      simp [match?_inside rest inside first]
    rw [List.cons_append, beforeFirst, nowhere, if_neg (by simp),
      ih (fun character member => word character (by simp [member])) (by exact first),
      List.getLast?_cons]
    cases letters.getLast? <;> rfl

/-- One of some phrases is matched at the start of a text exactly if it stands there. -/
theorem any_match?_phrases {phrases : List (List String)}
    (words : ∀ phrase ∈ phrases, IsPhrase phrase) {before : Option Char} {pieces : List Piece}
    (cut : Cut pieces) (outside : Text.isWord? before = true → startWithWord pieces = false) :
    ((phrases.map Pattern.phrase).any fun pattern =>
      (pattern.match? ⟨before, spell pieces⟩).isSome) = startWithPhrase phrases pieces := by
  have alike : ∀ phrase ∈ phrases,
      ((Pattern.phrase phrase).match? ⟨before, spell pieces⟩).isSome =
        (afterPhrase? phrase pieces).isSome := by
    intro phrase member
    have found := congrArg Option.isSome (match?_phrase (words phrase member) cut outside)
    rwa [Option.isSome_map, Option.isSome_map] at found
  rw [List.any_map, startWithPhrase, Bool.eq_iff_iff, List.any_eq_true, List.any_eq_true]
  refine exists_congr fun phrase => and_congr_right fun member => ?_
  rw [Function.comp_apply, alike phrase member]

/-- The text up to the first of some phrases has the pieces up to there. -/
theorem beforeFirst_phrases {phrases : List (List String)}
    (words : ∀ phrase ∈ phrases, IsPhrase phrase) {before : Option Char} {pieces : List Piece}
    (cut : Cut pieces) (outside : Text.isWord? before = true → startWithWord pieces = false) :
    beforeFirst (phrases.map .phrase) before (spell pieces) =
      spell (untilPhrase phrases pieces) := by
  induction cut generalizing before with
  | nil => rfl
  | @mark character rest other cut ih =>
    have first := any_match?_phrases words (.mark other cut) outside
    rw [spell_mark] at first
    rw [spell_mark, beforeFirst, first, untilPhrase]
    split
    · rfl
    · rw [ih fun inside => by simp [Text.isWord?, other] at inside, spell_mark]
  | @word first letters rest inside apart cut ih =>
    have starts := any_match?_phrases words (.word inside apart cut) outside
    have others : ∀ character ∈ letters, Text.isWord character = true :=
      fun character member => inside character (by simp [member])
    rw [spell_word, List.cons_append] at starts
    rw [spell_word, List.cons_append, beforeFirst, starts, untilPhrase]
    split
    · rfl
    · -- No phrase begins inside of the word, so the search goes on behind it.
      rw [beforeFirst_inside _ others (by exact inside first (by simp)), ih fun _ => apart,
        spell_word, List.cons_append]
      intro pattern member
      obtain ⟨phrase, -, rfl⟩ := List.mem_map.1 member
      exact ⟨body phrase, rfl⟩

end Pattern

end QueryKit
