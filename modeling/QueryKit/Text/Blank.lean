/-!
# Blank characters

The characters with the Unicode property White_Space, and the three things the
library does with them: trimming, testing for emptiness and splitting into
words.
-/

namespace QueryKit.Text

/-- Whether a character has the property White_Space. -/
def isBlank (character : Char) : Bool :=
  let code := character.toNat
  9 ≤ code && code ≤ 13 || code == 0x20 || code == 0x85 || code == 0xA0 || code == 0x1680 ||
    0x2000 ≤ code && code ≤ 0x200A || code == 0x2028 || code == 0x2029 || code == 0x202F ||
    code == 0x205F || code == 0x3000

/-- The text from its first character that is not blank. -/
def trimStart (text : List Char) : List Char := text.dropWhile isBlank

/-- Whether a text has no character but blanks. -/
def isBlankText (text : String) : Bool := text.toList.all isBlank

/-- The maximal runs of characters that are not blank. The first argument is the
run being read. -/
def splitBlanks (current : List Char) : List Char → List (List Char)
  | [] => if current.isEmpty then [] else [current]
  | character :: rest =>
    if isBlank character then
      if current.isEmpty then splitBlanks [] rest
      else current :: splitBlanks [] rest
    else splitBlanks (current ++ [character]) rest

/-- The words of a text: its maximal runs of characters that are not blank. -/
def words (text : List Char) : List (List Char) := splitBlanks [] text

/-- The text with its words separated by single spaces. -/
def squeezeBlanks (text : List Char) : List Char := List.intercalate [' '] (words text)

end QueryKit.Text
