import QueryKit.Analysis.Pattern
import QueryKit.Schema
import QueryKit.Text.Uppercase

/-!
# Clauses of a statement

What the analysis sees of a statement's structure: the table it works on and the
texts of its clauses. There is no parser; a clause reaches from its keyword to
the next keyword that begins or ends one, wherever these stand.
-/

namespace QueryKit.Analysis

/-- The keywords at which a clause ends. -/
def clauseEnds : List Pattern :=
  [.word "WHERE", .phrase ["GROUP", "BY"], .phrase ["ORDER", "BY"], .word "HAVING",
    .word "LIMIT", .word "OFFSET", .word "UNION", .word "INNER", .word "LEFT", .word "RIGHT",
    .word "FULL", .word "CROSS", .word "JOIN"]

/-- The texts of the clauses that a keyword begins, in an upper-case statement. A
clause is read as a text on its own. -/
def clauseTexts (keyword : Pattern) (statement : List Char) : List (List Char) :=
  (keyword.occurrences statement).map fun cursor =>
    Pattern.beforeFirst clauseEnds none cursor.after

/-- The characters that begin an identifier: ASCII letters, the underscore and
the two other characters that are letters of the alphabet up to case. -/
def startsIdentifier (character : Char) : Bool :=
  character.isAlpha || character == '_' || character.toNat == 0x17F || character.toNat == 0x212A

/-- The characters that continue an identifier. -/
def continuesIdentifier (character : Char) : Bool :=
  startsIdentifier character || character.isDigit

/-- Whether an identifier stands at the start of a text. -/
def beginsWithIdentifier (text : List Char) : Bool := text.head?.any startsIdentifier

/-- The keywords that a table name follows. -/
def tableKeywords : List Pattern :=
  [.edge :: Pattern.ofText "FROM" ++ [.blanks], .edge :: Pattern.ofText "UPDATE" ++ [.blanks]]

/-- The rest of a statement from the first table name on. -/
def fromTargetTable? (statement : List Char) : Option (List Char) :=
  Pattern.firstAfter? Char.toUpper tableKeywords beginsWithIdentifier none statement

/-- The first table that a statement names, as it is written there. -/
def targetTable? (sql : String) : Option String :=
  (fromTargetTable? sql.toList).map fun rest =>
    String.ofList (rest.takeWhile continuesIdentifier)

/-- Whether an upper-case text refers to a field. -/
def refersTo (clause : List Char) (field : String) : Bool :=
  Pattern.occurs (.edge :: (Text.uppercase field.toList).map .literal ++ [.edge]) clause

/-- The clauses of an upper-case statement whose fields should be indexed: filters,
sort keys and, if there are joins, what follows ON. -/
def indexedClauses (statement : List Char) : List (List Char) :=
  clauseTexts (.word "WHERE") statement ++ clauseTexts (.phrase ["ORDER", "BY"]) statement ++
    (if (Pattern.word "JOIN").occurs statement then clauseTexts (.word "ON") statement else [])

/-- The fields of a table that a statement filters, sorts or joins by and that no
index lists. -/
def missingIndexes (sql : String) (table : Table) : List String :=
  let clauses := indexedClauses (Text.uppercase sql.toList)
  table.fields.filter fun field =>
    !table.isIndexed field && clauses.any fun clause => refersTo clause field

end QueryKit.Analysis
