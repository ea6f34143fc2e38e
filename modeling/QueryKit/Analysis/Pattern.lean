import QueryKit.Text.Blank
import QueryKit.Text.Word

/-!
# Text patterns

Patterns over the characters of a statement: sequences of word edges, literal
characters and blanks. A position of a text is the character before it and the
characters after it. Runs of blanks are taken whole, which loses no match because
no pattern continues with a blank after them.
-/

namespace QueryKit

/-- One step of a pattern. -/
inductive PatternStep where
  /-- The edge of a word. -/
  | edge
  /-- This character. -/
  | literal (character : Char)
  /-- At least one blank. -/
  | blanks
  /-- Any number of blanks. -/
  | optionalBlanks
  deriving DecidableEq

/-- A sequence of steps. -/
abbrev Pattern := List PatternStep

/-- A position in a text. -/
structure Cursor where
  before : Option Char
  after : List Char
  deriving DecidableEq

namespace Cursor

/-- The position before a text on its own. -/
def start (text : List Char) : Cursor := ⟨none, text⟩

/-- Whether a word begins or ends at the position. -/
def atEdge (cursor : Cursor) : Bool := Text.wordBoundary cursor.before cursor.after.head?

/-- The position after some of the characters that follow. -/
def skip (cursor : Cursor) (taken : List Char) : Cursor where
  before := taken.getLast?.or cursor.before
  after := cursor.after.drop taken.length

end Cursor

namespace Pattern

/-- The literal steps of a text. -/
def ofText (text : String) : Pattern := text.toList.map .literal

/-- A word or several words separated by blanks, with edges at both ends. -/
def phrase (words : List String) : Pattern :=
  .edge :: List.intercalate [.blanks] (words.map ofText) ++ [.edge]

/-- A single word with edges at both ends. -/
def word (text : String) : Pattern := phrase [text]

/-- The position after a match that begins at a position. Literals are compared
with the characters of the text as `fold` maps them. -/
def matchWith? (fold : Char → Char) : Pattern → Cursor → Option Cursor
  | [], cursor => some cursor
  | .edge :: rest, cursor => if cursor.atEdge then matchWith? fold rest cursor else none
  | .literal character :: rest, cursor =>
    match cursor.after with
    | [] => none
    | next :: after =>
      if fold next = character then matchWith? fold rest ⟨some next, after⟩ else none
  | .blanks :: rest, cursor =>
    match cursor.after.takeWhile Text.isBlank with
    | [] => none
    | taken => matchWith? fold rest (cursor.skip taken)
  | .optionalBlanks :: rest, cursor =>
    matchWith? fold rest (cursor.skip (cursor.after.takeWhile Text.isBlank))

/-- The position after a match that begins at a position. -/
def match? (pattern : Pattern) (cursor : Cursor) : Option Cursor := matchWith? id pattern cursor

/-- The positions after all matches, in the order in which the matches begin,
given the text as a character before and the characters after. Phrases never
overlap, so their matches are the ones that a reader would count. -/
def occurrencesAfter (pattern : Pattern) (before : Option Char) : List Char → List Cursor
  | [] => (pattern.match? ⟨before, []⟩).toList
  | next :: after =>
    (pattern.match? ⟨before, next :: after⟩).toList ++
      occurrencesAfter pattern (some next) after

/-- The positions after all matches in a text. -/
def occurrences (pattern : Pattern) (text : List Char) : List Cursor :=
  pattern.occurrencesAfter none text

/-- Whether one of some patterns matches somewhere in a text. -/
def anyOccursAfter (patterns : List Pattern) (before : Option Char) : List Char → Bool
  | [] => patterns.any fun pattern => (pattern.match? ⟨before, []⟩).isSome
  | next :: after =>
    patterns.any (fun pattern => (pattern.match? ⟨before, next :: after⟩).isSome) ||
      anyOccursAfter patterns (some next) after

/-- Whether one of some patterns matches somewhere in a text on its own. -/
def anyOccurs (patterns : List Pattern) (text : List Char) : Bool :=
  anyOccursAfter patterns none text

/-- Whether a pattern matches somewhere in a text. -/
def occurs (pattern : Pattern) (text : List Char) : Bool := anyOccurs [pattern] text

/-- The text up to the first position at which one of some patterns matches. -/
def beforeFirst (patterns : List Pattern) (before : Option Char) : List Char → List Char
  | [] => []
  | next :: after =>
    if patterns.any fun pattern => (pattern.match? ⟨before, next :: after⟩).isSome then []
    else next :: beforeFirst patterns (some next) after

/-- The rest of a text after the first match of one of some patterns whose rest is
acceptable. Literals are compared as in `matchWith?`. -/
def firstAfter? (fold : Char → Char) (patterns : List Pattern) (accept : List Char → Bool)
    (before : Option Char) : List Char → Option (List Char)
  | [] => none
  | next :: after =>
    let here := patterns.findSome? fun pattern =>
      ((matchWith? fold pattern ⟨before, next :: after⟩).map Cursor.after).filter accept
    match here with
    | some rest => some rest
    | none => firstAfter? fold patterns accept (some next) after

end Pattern

end QueryKit
