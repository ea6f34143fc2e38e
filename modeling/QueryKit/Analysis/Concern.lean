import QueryKit.Analysis.Clause

/-!
# Concerns

What the analysis may find wrong with a statement. Each concern has a weight and
a suggestion; the complexity of a statement is the sum of the weights, and its
estimated time grows by half a millisecond for each point.
-/

namespace QueryKit.Analysis

/-- Something wrong with a statement. -/
inductive Concern where
  | selectStar
  | fullTableScan
  | orPredicate
  | leadingWildcard
  | functionOnColumn
  | manyJoins (joins : Nat)
  | subquery
  deriving DecidableEq

namespace Concern

/-- The weight of a concern. -/
def score : Concern → Nat
  | .selectStar => 10
  | .fullTableScan => 30
  | .orPredicate => 15
  | .leadingWildcard => 20
  | .functionOnColumn => 15
  | .manyJoins joins => 10 * joins
  | .subquery => 20

/-- The suggestion about a concern. -/
def suggestion : Concern → String
  | .selectStar => "Avoid SELECT *; list only the columns you need"
  | .fullTableScan => "Query reads the whole table; add a WHERE clause or a LIMIT"
  | .orPredicate => "OR conditions can prevent index usage; consider IN or UNION"
  | .leadingWildcard => "LIKE with a leading wildcard cannot use an index"
  | .functionOnColumn => "Function calls on columns in WHERE prevent index usage"
  | .manyJoins joins =>
    toString joins ++ " JOINs; consider splitting the query or denormalizing"
  | .subquery => "Subquery detected; consider rewriting it as a JOIN"

end Concern

/-- A projection of all columns. -/
def selectStarPatterns : List Pattern :=
  [.edge :: Pattern.ofText "SELECT" ++ [.blanks, .literal '*'],
    .edge :: Pattern.ofText "SELECT" ++ .blanks :: Pattern.ofText "DISTINCT" ++
      [.blanks, .literal '*']]

/-- A comparison with a text that begins with a wildcard. -/
def leadingWildcardPattern : Pattern :=
  .edge :: Pattern.ofText "LIKE" ++ [.blanks, .literal '\x27', .literal '%']

/-- Calls of the functions that hide a column from its index. -/
def columnFunctionPatterns : List Pattern :=
  ["UPPER", "LOWER", "SUBSTR", "LENGTH", "TRIM", "DATE", "DATETIME"].map fun name =>
    .edge :: Pattern.ofText name ++ [.optionalBlanks, .literal '(']

/-- Whether an upper-case statement reads a whole table: it selects, and has
neither filter nor limit. -/
def scansFullTable (statement : List Char) : Bool :=
  "SELECT".toList.isPrefixOf (Text.trimStart statement) &&
    !(Pattern.word "WHERE").occurs statement && !(Pattern.word "LIMIT").occurs statement

/-- The concerns about an upper-case statement, in a fixed order. -/
def concernsOf (statement : List Char) : List Concern :=
  let joins := ((Pattern.word "JOIN").occurrences statement).length
  let selects := ((Pattern.word "SELECT").occurrences statement).length
  let filters := clauseTexts (.word "WHERE") statement
  (if Pattern.anyOccurs selectStarPatterns statement then [.selectStar] else []) ++
  (if scansFullTable statement then [.fullTableScan] else []) ++
  (if (Pattern.word "OR").occurs statement then [.orPredicate] else []) ++
  (if leadingWildcardPattern.occurs statement then [.leadingWildcard] else []) ++
  (if filters.any (Pattern.anyOccurs columnFunctionPatterns) then [.functionOnColumn] else []) ++
  (if 3 < joins then [.manyJoins joins] else []) ++
  (if 1 < selects then [.subquery] else [])

/-- The concerns about a statement. -/
def concerns (sql : String) : List Concern := concernsOf (Text.uppercase sql.toList)

/-- The complexity of a statement. -/
def complexityScore (sql : String) : Nat := ((concerns sql).map Concern.score).foldr (· + ·) 0

/-- The estimated time in milliseconds of a statement of some complexity, halves
rounded up. -/
def estimatedMillis (score : Nat) : Nat := 1 + (score + 1) / 2

/-- Whether a statement reads a whole table. -/
def detectFullTableScan (sql : String) : Bool := scansFullTable (Text.uppercase sql.toList)

end QueryKit.Analysis
