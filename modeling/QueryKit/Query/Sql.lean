import QueryKit.Query.Basic

/-!
# Statements of a query

The four statements that a query stands for. They share the text of the joins
and of the condition; each fails exactly as the condition does, and an update
checks its columns before that.
-/

namespace QueryKit.Query

/-- The joins, each after a space. -/
def joinsSql (query : Query) : String :=
  String.join (query.joins.map fun join =>
    " " ++ join.kind.sql ++ " " ++ join.table ++ " ON " ++ join.left ++ " " ++ join.operator ++
      " " ++ join.right)

/-- The restriction to a compiled condition; nothing for an empty one. -/
def whereSql (condition : Fragment) : String :=
  if condition.isEmpty then "" else " WHERE " ++ condition.sql

/-- The sort keys; nothing if there is none. -/
def sortSql (query : Query) : String :=
  if query.sortKeys.isEmpty then ""
  else
    " ORDER BY " ++ ", ".intercalate (query.sortKeys.map fun key => key.1 ++ " " ++ key.2.sql)

/-- The paging. An offset needs a limit before it, and a limit of minus one is
none. -/
def pagingSql (query : Query) : String :=
  (match query.limit, query.offset with
    | some limit, _ => " LIMIT " ++ toString limit
    | none, some _ => " LIMIT -1"
    | none, none => "") ++
  (match query.offset with
    | some offset => " OFFSET " ++ toString offset
    | none => "")

/-- The projection; all columns if none is chosen. -/
def projectionSql (query : Query) : String :=
  if query.fields.isEmpty then "*" else ", ".intercalate query.fields

/-- The statement that reads the rows of the query. -/
def toSelect (query : Query) : Except QueryError Statement :=
  query.condition.compile.map fun condition =>
    ⟨"SELECT " ++ query.projectionSql ++ " FROM " ++ query.table ++ query.joinsSql ++
        whereSql condition ++ query.sortSql ++ query.pagingSql,
      condition.arguments⟩

/-- The statement that counts the rows of the query, whatever its paging. -/
def toCount (query : Query) : Except QueryError Statement :=
  query.condition.compile.map fun condition =>
    ⟨"SELECT COUNT(*) AS count FROM " ++ query.table ++ query.joinsSql ++ whereSql condition,
      condition.arguments⟩

/-- The statement that sets columns in the rows of the query. The values to set
come before those of the condition. -/
def toUpdate (query : Query) (values : List (String × Value)) : Except QueryError Statement :=
  if values.isEmpty then .error (.updateWithoutColumns query.table)
  else
    match values.find? fun entry => Text.isBlankText entry.1 with
    | some (column, _) => .error (.invalidUpdateColumn column)
    | none =>
      query.condition.compile.map fun condition =>
        ⟨"UPDATE " ++ query.table ++ " SET " ++
            ", ".intercalate (values.map fun entry => entry.1 ++ " = ?") ++ whereSql condition,
          values.map Prod.snd ++ condition.arguments⟩

/-- The statement that removes the rows of the query. -/
def toDelete (query : Query) : Except QueryError Statement :=
  query.condition.compile.map fun condition =>
    ⟨"DELETE FROM " ++ query.table ++ whereSql condition, condition.arguments⟩

end QueryKit.Query
