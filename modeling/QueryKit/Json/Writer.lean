import QueryKit.Json.Basic

/-!
# Writing JSON

Two layouts: compact, without white space, and indented by two spaces. Strings
escape quotes, backslashes and controls and write everything else as it is.
-/

namespace QueryKit.Json

/-- The lower-case hexadecimal digit of a value below sixteen. -/
def hexDigit (value : Nat) : Char := Nat.digitChar value

/-- A character inside a string literal. -/
def escapeChar (character : Char) : List Char :=
  if character == '"' then ['\\', '"']
  else if character == '\\' then ['\\', '\\']
  else if character == '\x08' then ['\\', 'b']
  else if character == '\x0c' then ['\\', 'f']
  else if character == '\n' then ['\\', 'n']
  else if character == '\r' then ['\\', 'r']
  else if character == '\t' then ['\\', 't']
  else if character.toNat < 0x20 then
    ['\\', 'u', '0', '0', hexDigit (character.toNat / 16), hexDigit (character.toNat % 16)]
  else [character]

/-- A string literal. One without text is written as an unpaired surrogate. -/
def stringChars : Option String → List Char
  | some text => '"' :: text.toList.flatMap escapeChar ++ ['"']
  | none => ['"', '\\', 'u', 'd', '8', '0', '0', '"']

/-- A boolean. -/
def boolChars (value : Bool) : List Char :=
  if value then ['t', 'r', 'u', 'e'] else ['f', 'a', 'l', 's', 'e']

mutual

/-- The compact layout of a document. -/
def chars : Json → List Char
  | .null => ['n', 'u', 'l', 'l']
  | .bool value => boolChars value
  | .number numeral => numeral.chars
  | .string text => stringChars text
  | .array elements => '[' :: elementChars elements ++ [']']
  | .object members => '\x7b' :: memberChars members ++ ['\x7d']

/-- The elements of an array, separated by commas. -/
def elementChars : List Json → List Char
  | [] => []
  | [element] => element.chars
  | element :: rest => element.chars ++ ',' :: elementChars rest

/-- The members of an object, separated by commas. -/
def memberChars : List (Option String × Json) → List Char
  | [] => []
  | [(name, value)] => stringChars name ++ ':' :: value.chars
  | (name, value) :: rest => stringChars name ++ ':' :: value.chars ++ ',' :: memberChars rest

end

/-- A line break and the indentation of a level. -/
def newLine (level : Nat) : List Char := '\n' :: List.replicate (2 * level) ' '

mutual

/-- The indented layout of a document at a nesting level. -/
def indentedChars (level : Nat) : Json → List Char
  | .null => ['n', 'u', 'l', 'l']
  | .bool value => boolChars value
  | .number numeral => numeral.chars
  | .string text => stringChars text
  | .array [] => ['[', ']']
  | .array elements => '[' :: indentedElementChars (level + 1) elements ++ newLine level ++ [']']
  | .object [] => ['\x7b', '\x7d']
  | .object members =>
    '\x7b' :: indentedMemberChars (level + 1) members ++ newLine level ++ ['\x7d']

/-- The elements of an array, each on a line of its own. -/
def indentedElementChars (level : Nat) : List Json → List Char
  | [] => []
  | [element] => newLine level ++ element.indentedChars level
  | element :: rest =>
    newLine level ++ element.indentedChars level ++ ',' :: indentedElementChars level rest

/-- The members of an object, each on a line of its own. -/
def indentedMemberChars (level : Nat) : List (Option String × Json) → List Char
  | [] => []
  | [(name, value)] =>
    newLine level ++ stringChars name ++ ':' :: ' ' :: value.indentedChars level
  | (name, value) :: rest =>
    newLine level ++ stringChars name ++ ':' :: ' ' :: value.indentedChars level ++
      ',' :: indentedMemberChars level rest

end

/-- The compact text of a document. -/
def compact (document : Json) : String := String.ofList document.chars

/-- The indented text of a document. -/
def indented (document : Json) : String := String.ofList (document.indentedChars 0)

end QueryKit.Json
