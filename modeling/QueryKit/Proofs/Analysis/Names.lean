import Mathlib
import QueryKit.Proofs.Analysis.Clauses

/-!
# Names in a statement

A name that a statement takes over, `team` or `teams.id`, is a sequence of identifiers. If none
of these is a reserved word, the name adds its identifiers to the words of the clause that it
stands in and neither begins nor ends one. `Neutral` says so of whole texts, and says which
words they add.
-/

namespace QueryKit

namespace Text

/-- What holds of every ASCII code point holds of every ASCII character. -/
theorem forall_ascii (property : Char → Prop) (holds : ∀ code < 128, property (Char.ofNat code))
    {character : Char} (ascii : character.toNat < 128) : property character := by
  have found := holds character.toNat ascii
  rwa [Char.ofNat_toNat] at found

/-- Beyond ASCII, letters have one case. -/
theorem toUpper_of_not_ascii {character : Char} (other : ¬character.toNat < 128) :
    character.toUpper = character := by
  refine Char.toUpper_eq_of_not_isLower fun lower => other ?_
  simp only [Char.isLower, Bool.and_eq_true, decide_eq_true_eq, UInt32.le_iff_toNat_le,
    Char.toNat_val] at lower
  have last : 'z'.toNat = 122 := rfl
  omega

/-- What does not regard the case of ASCII letters does not regard case. -/
theorem apply_toUpper {α : Type} (read : Char → α)
    (folds : ∀ code < 128, read (Char.ofNat code).toUpper = read (Char.ofNat code))
    (character : Char) : read character.toUpper = read character := by
  by_cases ascii : character.toNat < 128
  · exact forall_ascii (fun character => read character.toUpper = read character) folds ascii
  · rw [toUpper_of_not_ascii ascii]

/-- The upper-case form of a word character is one, and that of no other character is. -/
theorem isWord_toUpper (character : Char) : isWord character.toUpper = isWord character :=
  apply_toUpper isWord (by decide) character

/-- Whether a neighbour is a letter of a word does not depend on its case. -/
theorem isWord?_map_toUpper (neighbour : Option Char) :
    isWord? (neighbour.map Char.toUpper) = isWord? neighbour := by
  cases neighbour with
  | none => rfl
  | some character => exact isWord_toUpper character

/-- Names are the same if their upper-case forms are. -/
theorem sameName_iff (left right : String) :
    sameName left right = true ↔
      left.toList.map Char.toUpper = right.toList.map Char.toUpper := by
  rw [sameName, beq_iff_eq]
  constructor
  · intro same
    have upper := congrArg (List.map Char.toUpper) same
    simpa [Function.comp_def] using upper
  · intro same
    have lower := congrArg (List.map Char.toLower) same
    simpa [Function.comp_def] using lower

/-- ASCII texts are upper-cased letter by letter. -/
theorem uppercase_of_ascii {text : List Char} (ascii : ∀ character ∈ text, character.toNat < 128) :
    uppercase text = text.map Char.toUpper := by
  induction text with
  | nil => rfl
  | cons character rest ih =>
    have first := ascii character (by simp)
    have others := ih fun character member => ascii character (by simp [member])
    rw [uppercase] at others ⊢
    rw [List.flatMap_cons, upperChar, if_pos first, others]
    rfl

/-- Upper case is formed character by character. -/
theorem uppercase_append (left right : List Char) :
    uppercase (left ++ right) = uppercase left ++ uppercase right := by
  simp [uppercase]

/-- The words of a text. -/
def wordsOf (text : List Char) : List (List Char) := (pieces text).filterMap Piece.word?

/-- Texts between which no word reaches have their words one after the other. -/
theorem wordsOf_append {left right : List Char} (apart : Apart left right) :
    wordsOf (left ++ right) = wordsOf left ++ wordsOf right := by
  rw [wordsOf, pieces_append apart, List.filterMap_append]
  rfl

/-- A text of letters is one word. -/
theorem pieces_letters {letters : List Char} (word : Letters letters) :
    pieces letters = [.word letters] := by
  obtain ⟨first, others, rfl⟩ := List.exists_cons_of_ne_nil word.1
  induction others generalizing first with
  | nil => simp [pieces, word.2 first, attach]
  | cons second others ih =>
    have tail := ih second ⟨by simp, fun character member => word.2 character (by simp [member])⟩
    rw [pieces, if_pos (word.2 first (by simp)), tail]
    rfl

/-- A text without word characters has no words. -/
theorem wordsOf_marks {text : List Char}
    (outside : ∀ character ∈ text, isWord character = false) : wordsOf text = [] := by
  induction text with
  | nil => rfl
  | cons character rest ih =>
    have following := ih fun other member => outside other (by simp [member])
    rw [wordsOf] at following ⊢
    rw [pieces, if_neg (by simp [outside character])]
    exact following

/-- The words of a text with marks between them. -/
theorem wordsOf_intercalate {mark : Char} (outside : isWord mark = false)
    {words : List (List Char)} (letters : ∀ word ∈ words, Letters word) :
    wordsOf (List.intercalate [mark] words) = words := by
  induction words with
  | nil => rfl
  | cons word rest ih =>
    have first : wordsOf word = [word] := by
      rw [wordsOf, pieces_letters (letters word (by simp))]
      rfl
    cases rest with
    | nil => simpa [List.intercalate] using first
    | cons second others =>
      have following := ih fun other member => letters other (by simp [member])
      have blank : wordsOf (mark :: List.intercalate [mark] (second :: others)) =
          wordsOf (List.intercalate [mark] (second :: others)) := by
        rw [wordsOf, pieces, if_neg (by simp [outside])]
        rfl
      rw [List.intercalate_cons_cons, List.append_assoc, List.singleton_append,
        wordsOf_append (.inr (by exact outside)), first, blank, following]
      rfl

/-- What holds of a mark and of all characters of some words holds of the words with marks
between them. -/
theorem forall_mem_intercalate {mark : Char} {words : List (List Char)} {property : Char → Prop}
    (between : property mark) (inside : ∀ word ∈ words, ∀ character ∈ word, property character) :
    ∀ character ∈ List.intercalate [mark] words, property character := by
  induction words with
  | nil => simp
  | cons word rest ih =>
    have following := ih fun other member => inside other (by simp [member])
    cases rest with
    | nil => simpa [List.intercalate] using inside word (by simp)
    | cons second others =>
      rw [List.intercalate_cons_cons, List.append_assoc]
      refine List.forall_mem_append.2 ⟨inside word (by simp), ?_⟩
      exact List.forall_mem_cons.2 ⟨between, following⟩

/-- A piece in upper case, letter by letter. -/
def upperPiece : Piece → Piece
  | .word letters => .word (letters.map Char.toUpper)
  | .mark character => .mark character.toUpper

/-- A text is cut at the same places in upper case. -/
theorem pieces_map_toUpper (text : List Char) :
    pieces (text.map Char.toUpper) = (pieces text).map upperPiece := by
  induction text with
  | nil => rfl
  | cons character rest ih =>
    rw [List.map_cons, pieces, pieces, isWord_toUpper, ih]
    split
    · cases pieces rest with
      | nil => rfl
      | cons piece others => cases piece <;> rfl
    · rfl

/-- Upper-casing a text letter by letter upper-cases its words. -/
theorem wordsOf_map_toUpper (text : List Char) :
    wordsOf (text.map Char.toUpper) = (wordsOf text).map (List.map Char.toUpper) := by
  rw [wordsOf, pieces_map_toUpper, List.filterMap_map, wordsOf, List.map_filterMap]
  refine List.filterMap_congr fun piece _ => ?_
  cases piece <;> rfl

end Text

namespace Analysis

/-! ### Names -/

/-- An identifier of ASCII letters, digits and underscores. -/
structure IsIdentifier (name : String) : Prop where
  start : name.toList.head?.any (fun first => first.isAlpha || first == '_') = true
  letters : ∀ character ∈ name.toList, (character.isAlphanum || character == '_') = true

instance : DecidablePred IsIdentifier := fun name =>
  decidable_of_iff
    (name.toList.head?.any (fun first => first.isAlpha || first == '_') = true ∧
      ∀ character ∈ name.toList, (character.isAlphanum || character == '_') = true)
    ⟨fun ⟨start, letters⟩ => ⟨start, letters⟩,
      fun identifier => ⟨identifier.start, identifier.letters⟩⟩

/-- An identifier that is no reserved word in any case. -/
structure IsPlain (name : String) : Prop where
  identifier : IsIdentifier name
  free : ¬IsReserved (name.toList.map Char.toUpper)

instance : DecidablePred IsPlain := fun name =>
  decidable_of_iff (IsIdentifier name ∧ ¬IsReserved (name.toList.map Char.toUpper))
    ⟨fun ⟨identifier, free⟩ => ⟨identifier, free⟩, fun plain => ⟨plain.identifier, plain.free⟩⟩

/-- The parts of a name between its dots. -/
def parts (name : String) : List String := (name.toList.splitOn '.').map String.ofList

/-- A name of which every part is plain. -/
def IsPlainPath (name : String) : Prop := ∀ part ∈ parts name, IsPlain part

instance : DecidablePred IsPlainPath := fun name =>
  inferInstanceAs (Decidable (∀ part ∈ parts name, IsPlain part))

/-- Whether a field is a part of one of some names, in any case. -/
def mentions (names : List String) (field : String) : Bool :=
  names.any fun name => (parts name).any fun part => sameName part field

/-- The parts of a name in upper case. -/
def upperParts (name : String) : List (List Char) :=
  (parts name).map fun part => part.toList.map Char.toUpper

/-- A field is mentioned iff its upper case is among the parts in upper case. -/
theorem mem_flatMap_upperParts {names : List String} {field : String} :
    field.toList.map Char.toUpper ∈ names.flatMap upperParts ↔ mentions names field = true := by
  simp only [mentions, List.any_eq_true, List.mem_flatMap, upperParts, List.mem_map,
    Text.sameName_iff]

/-- The letters, digits and underscores of identifiers are ASCII. -/
theorem ascii_of_letter {character : Char}
    (letter : (character.isAlphanum || character == '_') = true) : character.toNat < 128 := by
  have bounded : (decide (character.val ≥ 'A'.val ∧ character.val ≤ 'Z'.val) ||
      (decide (character.val ≥ 'a'.val) && decide (character.val ≤ 'z'.val)) ||
      (decide (character.val ≥ '0'.val) && decide (character.val ≤ '9'.val))) = true ∨
        character = '_' := by
    rw [Bool.or_eq_true, beq_iff_eq] at letter
    exact letter
  simp only [Bool.or_eq_true, Bool.and_eq_true, decide_eq_true_eq, ge_iff_le,
    UInt32.le_iff_toNat_le] at bounded
  have code : character.val.toNat = character.toNat := rfl
  have letters : 'Z'.val.toNat = 90 ∧ 'z'.val.toNat = 122 ∧ '9'.val.toNat = 57 := ⟨rfl, rfl, rfl⟩
  rcases bounded with ((⟨-, below⟩ | ⟨-, below⟩) | ⟨-, below⟩) | rfl
  · omega
  · omega
  · omega
  · decide

/-- An identifier has ASCII characters only. -/
theorem IsIdentifier.ascii {name : String} (identifier : IsIdentifier name) :
    ∀ character ∈ name.toList, character.toNat < 128 :=
  fun character member => ascii_of_letter (identifier.letters character member)

/-- An identifier is one word. -/
theorem IsIdentifier.word {name : String} (identifier : IsIdentifier name) :
    Letters name.toList := by
  constructor
  · intro empty
    simpa [empty] using identifier.start
  · intro character member
    rw [Text.isWord, if_pos (identifier.ascii character member)]
    exact identifier.letters character member

/-- Upper-casing keeps an identifier a word. -/
theorem IsIdentifier.upper {name : String} (identifier : IsIdentifier name) :
    Letters (name.toList.map Char.toUpper) := by
  refine ⟨by simpa using identifier.word.1, ?_⟩
  simpa [Text.isWord_toUpper] using identifier.word.2

/-- The full upper case of an identifier is that of its letters one by one. -/
theorem IsIdentifier.uppercase {name : String} (identifier : IsIdentifier name) :
    Text.uppercase name.toList = name.toList.map Char.toUpper :=
  Text.uppercase_of_ascii identifier.ascii

/-- A name of ASCII words is ASCII, and its words in upper case are its parts. -/
theorem words_of_name {name : String}
    (ascii : ∀ part ∈ parts name, ∀ character ∈ part.toList, character.toNat < 128)
    (letters : ∀ part ∈ parts name, Letters part.toList) :
    (∀ character ∈ name.toList, character.toNat < 128) ∧
    Text.wordsOf (Text.uppercase name.toList) = upperParts name := by
  have listed : ∀ part ∈ name.toList.splitOn '.', String.ofList part ∈ parts name :=
    fun part member => List.mem_map_of_mem member
  have whole : ['.'].intercalate (name.toList.splitOn '.') = name.toList :=
    List.intercalate_splitOn '.'
  have wholeAscii : ∀ character ∈ name.toList, character.toNat < 128 := by
    rw [← whole]
    refine Text.forall_mem_intercalate (by decide) fun part member => ?_
    simpa using ascii _ (listed part member)
  have raw : Text.wordsOf name.toList = name.toList.splitOn '.' := by
    conv_lhs => rw [← whole]
    refine Text.wordsOf_intercalate (by decide) fun part member => ?_
    simpa using letters _ (listed part member)
  refine ⟨wholeAscii, ?_⟩
  rw [Text.uppercase_of_ascii wholeAscii, Text.wordsOf_map_toUpper, raw]
  simp [upperParts, parts]

/-! ### Neutral texts -/

/-- The words that begin or end a clause and those that a table name follows. -/
def structureWords : List String := clauseWords ++ ["FROM", "UPDATE"]

/-- A text with no such word. Of its words, in upper case, some are not reserved. -/
structure Neutral (text : String) (free : List (List Char)) : Prop where
  ascii : ∀ character ∈ text.toList, character.toNat < 128
  quiet : ∀ word ∈ Text.wordsOf (Text.uppercase text.toList), ∀ keyword ∈ structureWords,
    keyword.toList ≠ word
  words : (Text.wordsOf (Text.uppercase text.toList)).filter (fun word => ¬IsReserved word) = free

instance (text : String) (free : List (List Char)) : Decidable (Neutral text free) :=
  decidable_of_iff
    ((∀ character ∈ text.toList, character.toNat < 128) ∧
      (∀ word ∈ Text.wordsOf (Text.uppercase text.toList), ∀ keyword ∈ structureWords,
        keyword.toList ≠ word) ∧
      (Text.wordsOf (Text.uppercase text.toList)).filter (fun word => ¬IsReserved word) = free)
    ⟨fun ⟨ascii, quiet, words⟩ => ⟨ascii, quiet, words⟩,
      fun neutral => ⟨neutral.ascii, neutral.quiet, neutral.words⟩⟩

/-- A neutral text without words of its own that no word can be joined to. -/
structure Separator (text : String) : Prop where
  neutral : Neutral text []
  first : text.toList.head?.any (fun first => !Text.isWord first) = true
  last : text.toList.getLast?.any (fun last => !Text.isWord last) = true

instance : DecidablePred Separator := fun text =>
  decidable_of_iff
    (Neutral text [] ∧ text.toList.head?.any (fun first => !Text.isWord first) = true ∧
      text.toList.getLast?.any (fun last => !Text.isWord last) = true)
    ⟨fun ⟨neutral, first, last⟩ => ⟨neutral, first, last⟩,
      fun separator => ⟨separator.neutral, separator.first, separator.last⟩⟩

namespace Neutral

variable {left right : String} {free others : List (List Char)}

/-- Neutral texts between which no word reaches make a neutral text. -/
theorem append (neutral : Neutral left free) (following : Neutral right others)
    (apart : Text.Apart left.toList right.toList) : Neutral (left ++ right) (free ++ others) := by
  have upper : Text.Apart (Text.uppercase left.toList) (Text.uppercase right.toList) := by
    rw [Text.uppercase_of_ascii neutral.ascii, Text.uppercase_of_ascii following.ascii]
    simpa [Text.Apart, Text.isWord?_map_toUpper] using apart
  refine ⟨?_, ?_, ?_⟩
  · rw [String.toList_append]
    exact List.forall_mem_append.2 ⟨neutral.ascii, following.ascii⟩
  · rw [String.toList_append, Text.uppercase_append, Text.wordsOf_append upper]
    exact List.forall_mem_append.2 ⟨neutral.quiet, following.quiet⟩
  · rw [String.toList_append, Text.uppercase_append, Text.wordsOf_append upper,
      List.filter_append, neutral.words, following.words]

/-- Neutral texts can be put together with a separator between them. -/
theorem join {separator : String} (neutral : Neutral left free) (between : Separator separator)
    (following : Neutral right others) : Neutral (left ++ separator ++ right) (free ++ others) := by
  obtain ⟨first, head, outside⟩ := (Option.any_eq_true _ _).1 between.first
  obtain ⟨last, final, beyond⟩ := (Option.any_eq_true _ _).1 between.last
  have start : Text.Apart left.toList separator.toList := by
    right
    rw [head]
    simpa [Text.isWord?] using outside
  have stop : Text.Apart (left ++ separator).toList right.toList := by
    left
    rw [String.toList_append, List.getLast?_append, final]
    simpa [Text.isWord?] using beyond
  simpa using (neutral.append between.neutral start).append following stop

/-- The empty text is neutral. -/
theorem empty : Neutral "" [] := by
  decide

/-- A text whose words are not reserved has none that matters to clauses. -/
theorem of_free (ascii : ∀ character ∈ left.toList, character.toNat < 128)
    (words : Text.wordsOf (Text.uppercase left.toList) = free)
    (unreserved : ∀ word ∈ free, ¬IsReserved word) : Neutral left free := by
  refine ⟨ascii, fun word member keyword listed same => ?_, ?_⟩
  · have reserved : ∀ keyword ∈ structureWords, keyword ∈ reservedWords := by decide
    exact unreserved word (words ▸ member) ⟨keyword, reserved keyword listed, same⟩
  · rw [words, List.filter_eq_self]
    simpa using unreserved

/-- A single word adds itself. -/
theorem word (ascii : ∀ character ∈ left.toList, character.toNat < 128)
    (letters : Letters left.toList) (unreserved : ¬IsReserved (left.toList.map Char.toUpper)) :
    Neutral left [left.toList.map Char.toUpper] := by
  refine of_free ascii ?_ (by simpa using unreserved)
  rw [Text.uppercase_of_ascii ascii, Text.wordsOf_map_toUpper, Text.wordsOf,
    Text.pieces_letters letters]
  rfl

/-- A plain name is neutral, and its one word is free. -/
theorem plain (plain : IsPlain left) : Neutral left [left.toList.map Char.toUpper] :=
  word plain.identifier.ascii plain.identifier.word plain.free

/-- A name adds its parts. -/
theorem name (plain : IsPlainPath left) : Neutral left (upperParts left) := by
  obtain ⟨ascii, words⟩ := words_of_name
    (fun part member => (plain part member).identifier.ascii)
    (fun part member => (plain part member).identifier.word)
  refine of_free ascii words fun word member => ?_
  obtain ⟨part, listed, rfl⟩ := List.mem_map.1 member
  exact (plain part listed).free

/-- A text without letters adds nothing. -/
theorem marks (ascii : ∀ character ∈ left.toList, character.toNat < 128)
    (outside : ∀ character ∈ left.toList, Text.isWord character = false) : Neutral left [] := by
  refine of_free ascii ?_ (by simp)
  rw [Text.uppercase_of_ascii ascii, Text.wordsOf_map_toUpper, Text.wordsOf_marks outside]
  rfl

/-- A name is not blank. -/
theorem isBlankText_name (plain : IsPlainPath left) : Text.isBlankText left = false := by
  by_contra blank
  rw [Bool.not_eq_false, Text.isBlankText, List.all_eq_true] at blank
  have outside : ∀ character ∈ left.toList, Text.isWord character = false :=
    fun character member => Text.isWord_of_isBlank (blank character member)
  have nothing : upperParts left = [] := by
    rw [← (name plain).words, (marks (name plain).ascii outside).words]
  simp [upperParts, parts, List.splitOn_ne_nil] at nothing

/-- Digits are a word. -/
theorem number (value : Nat) : ∃ free, Neutral value.repr free := by
  have digits : ∀ character ∈ value.repr.toList, character.isDigit = true := by
    rw [Nat.toList_repr]
    exact fun character member => Nat.isDigit_of_mem_toDigits (by decide) (by decide) member
  have ascii : ∀ character ∈ value.repr.toList, character.toNat < 128 :=
    fun character member => ascii_of_letter (by simp [Char.isAlphanum, digits character member])
  have nonempty : value.repr.toList ≠ [] := by
    rw [Nat.toList_repr]
    exact Nat.toDigits_ne_nil
  refine ⟨_, word ascii ⟨nonempty, fun character member => ?_⟩ ?_⟩
  · rw [Text.isWord, if_pos (ascii character member)]
    simp [Char.isAlphanum, digits character member]
  · -- A number begins with a digit, and no reserved word has one.
    rintro ⟨reserved, listed, same⟩
    obtain ⟨first, others, characters⟩ := List.exists_cons_of_ne_nil nonempty
    have letters : ∀ word ∈ reservedWords, ∀ letter ∈ word.toList, letter.isDigit = false := by
      decide
    have upper : first.toUpper.isDigit = first.isDigit :=
      Text.forall_ascii (fun letter => letter.toUpper.isDigit = letter.isDigit) (by decide)
        (ascii first (by simp [characters]))
    have inside : first.toUpper ∈ reserved.toList := by simp [same, characters]
    rw [letters reserved listed _ inside, digits first (by simp [characters])] at upper
    simp at upper

end Neutral

end Analysis

end QueryKit
