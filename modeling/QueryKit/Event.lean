import QueryKit.Text.Quoted
import QueryKit.Time

/-!
# Events

What a session reports while it works, as data. An event has a level, a message
and named fields; the fields are texts, with spans as whole milliseconds.
-/

namespace QueryKit

/-- The importance of an event. -/
inductive Level where
  | debug
  | warn
  deriving DecidableEq

/-- What a query was executed for. -/
inductive Activity where
  | query
  | count
  | update
  | delete
  deriving DecidableEq

/-- Something that happened in a session. -/
inductive Event where
  /-- A read met an entry past its expiry. -/
  | expiredEntryDropped (policy : String)
  /-- A sweep removed entries past their expiry. -/
  | expiredEntriesCleared (count : Nat)
  /-- An entry was removed to make room. -/
  | entryEvicted (policy : String) (accessCount : Nat) (age : Duration)
  /-- A stale statement was asked for. -/
  | staleStatementRecreated (sql : String)
  /-- A statement was removed to make room. -/
  | statementEvicted (sql : String)
  /-- A cleanup removed stale statements. -/
  | staleStatementsRemoved (count : Nat)
  /-- A query is about to be sent to the store. -/
  | executing (activity : Activity) (sql : String) (arguments : Nat) (space : String)
  /-- A statement is ready, for the given number of uses so far. -/
  | statementPrepared (sql : String) (uses : Nat)
  /-- A cached result was used. -/
  | resultCacheHit (sql : String)
  /-- A statement turned out to be persistently slow. -/
  | autoOptimizing (sql : String) (executions : Nat)
  /-- A warning about a persistently slow statement. -/
  | slowQuery (sql : String) (executions : Nat) (average : Duration) (score : Nat)
      (missingIndexes : List String)
  /-- A suggestion about a persistently slow statement. -/
  | suggestion (text : String) (sql : String)
  deriving DecidableEq

namespace Activity

/-- The message about an activity. -/
def message : Activity → String
  | .query => "executing query"
  | .count => "executing count"
  | .update => "executing update"
  | .delete => "executing delete"

end Activity

namespace Event

/-- The level of an event. -/
def level : Event → Level
  | .slowQuery _ _ _ _ _ => .warn
  | .suggestion _ _ => .warn
  | _ => .debug

/-- The message of an event. -/
def message : Event → String
  | .expiredEntryDropped _ => "dropped expired cache entry on read"
  | .expiredEntriesCleared _ => "cleared expired cache entries"
  | .entryEvicted _ _ _ => "evicted cache entry"
  | .staleStatementRecreated _ => "recreating stale prepared statement"
  | .statementEvicted _ => "evicted prepared statement"
  | .staleStatementsRemoved _ => "removed stale prepared statements"
  | .executing activity _ _ _ => activity.message
  | .statementPrepared _ _ => "statement prepared"
  | .resultCacheHit _ => "result cache hit"
  | .autoOptimizing _ _ => "auto-optimizing statement"
  | .slowQuery _ _ _ _ _ => "slow query"
  | .suggestion text _ => text

/-- The named fields of an event. -/
def fields : Event → List (String × String)
  | .expiredEntryDropped policy => [("policy", policy)]
  | .expiredEntriesCleared count => [("count", toString count)]
  | .entryEvicted policy accessCount age =>
    [("policy", policy), ("access_count", toString accessCount),
      ("age_ms", toString age.millisWord)]
  | .staleStatementRecreated sql => [("sql", sql)]
  | .statementEvicted sql => [("sql", sql)]
  | .staleStatementsRemoved count => [("count", toString count)]
  | .executing _ sql arguments space =>
    [("sql", sql), ("args", toString arguments), ("space", space)]
  | .statementPrepared sql uses => [("sql", sql), ("uses", toString uses)]
  | .resultCacheHit sql => [("sql", sql)]
  | .autoOptimizing sql executions => [("sql", sql), ("executions", toString executions)]
  | .slowQuery sql executions average score missingIndexes =>
    [("sql", sql), ("executions", toString executions), ("avg_ms", toString average.millisWord),
      ("score", toString score), ("missing_indexes", Text.quoteList missingIndexes)]
  | .suggestion _ sql => [("sql", sql)]

end Event

end QueryKit
