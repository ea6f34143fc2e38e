import QueryKit.Condition.Compile

/-!
# Queries

A query is bound to one table in one space. It collects a projection, joins, a
condition, sort keys and paging, and turns them into statements: SQL text with
its arguments. The order of clauses in a statement is fixed, and no value is
ever part of the text.
-/

namespace QueryKit

/-- The kinds of join. -/
inductive JoinKind where
  | inner
  | left
  | right
  deriving DecidableEq

namespace JoinKind

/-- The keywords of a join. -/
def sql : JoinKind → String
  | .inner => "INNER JOIN"
  | .left => "LEFT JOIN"
  | .right => "RIGHT JOIN"

end JoinKind

/-- A joined table with the comparison that joins it. -/
structure Join where
  kind : JoinKind
  table : String
  left : String
  operator : String
  right : String
  deriving DecidableEq

/-- The direction of a sort key. -/
inductive SortOrder where
  | ascending
  | descending
  deriving DecidableEq

namespace SortOrder

/-- The keyword of a direction. -/
def sql : SortOrder → String
  | .ascending => "ASC"
  | .descending => "DESC"

end SortOrder

/-- SQL text and the arguments of its placeholders. -/
structure Statement where
  sql : String
  arguments : List Value
  deriving DecidableEq

/-- The space of queries that do not choose one. -/
def defaultSpace : String := "default"

/-- A query on one table in one space. -/
structure Query where
  table : String
  space : String
  fields : List String
  joins : List Join
  condition : Condition
  sortKeys : List (String × SortOrder)
  limit : Option Nat
  offset : Option Nat

namespace Query

/-- The query for all rows of a table in the default space. -/
def ofTable (table : String) : Query where
  table := table
  space := defaultSpace
  fields := []
  joins := []
  condition := []
  sortKeys := []
  limit := none
  offset := none

/-- The query in another space. -/
def inSpace (query : Query) (space : String) : Query := { query with space := space }

/-- The query with further fields in its projection. -/
def select (query : Query) (fields : List String) : Query :=
  { query with fields := query.fields ++ fields }

/-- The query with a further join. -/
def join (query : Query) (join : Join) : Query := { query with joins := query.joins ++ [join] }

/-- The query with a further sort key. -/
def sortBy (query : Query) (field : String) (order : SortOrder) : Query :=
  { query with sortKeys := query.sortKeys ++ [(field, order)] }

/-- The query for at most `limit` rows. -/
def limitTo (query : Query) (limit : Nat) : Query := { query with limit := some limit }

/-- The query without its first `offset` rows. -/
def skip (query : Query) (offset : Nat) : Query := { query with offset := some offset }

/-- The query with further clauses in its condition. -/
def restrict (query : Query) (clauses : Condition) : Query :=
  { query with condition := query.condition ++ clauses }

end Query

end QueryKit
