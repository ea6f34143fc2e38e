import QueryKit.Event
import QueryKit.Number.Binary64

/-!
# Prepared-statement cache

Statements in the order of their last use, least recent first. A statement is
valid while neither its age nor its idle time exceeds the configured bounds; a
stale one is made anew when it is asked for. A full cache gives up the statement
at the front, however often it was used.
-/

namespace QueryKit

/-- The configuration of a statement cache. -/
structure StatementConfig where
  /-- The greatest number of statements. -/
  maxSize : Nat
  /-- Older statements are stale. -/
  maxAge : Duration
  /-- Statements unused for longer are stale. -/
  maxIdleTime : Duration
  deriving DecidableEq

namespace StatementConfig

/-- The default configuration: a hundred statements, an hour of age, ten minutes
of idle time. -/
def standard : StatementConfig := ⟨100, Duration.ofSeconds 3600 0, Duration.ofSeconds 600 0⟩

end StatementConfig

/-- A prepared statement with its history. -/
structure CachedStatement where
  sql : String
  createdAt : Instant
  /-- The time of the last use after the first. -/
  lastUsedAt : Option Instant
  useCount : Nat
  deriving DecidableEq

namespace CachedStatement

/-- A statement made for its first use. -/
def fresh (sql : String) (now : Instant) : CachedStatement := ⟨sql, now, none, 1⟩

/-- The time since the statement was made. -/
def age (statement : CachedStatement) (now : Instant) : Duration := now.since statement.createdAt

/-- The time since the last use. -/
def idleTime (statement : CachedStatement) (now : Instant) : Duration :=
  now.since (statement.lastUsedAt.getD statement.createdAt)

/-- Whether neither bound is exceeded. -/
def isValid (statement : CachedStatement) (config : StatementConfig) (now : Instant) : Bool :=
  statement.age now ≤ config.maxAge && statement.idleTime now ≤ config.maxIdleTime

/-- The statement after one more use. -/
def use (statement : CachedStatement) (now : Instant) : CachedStatement :=
  { statement with useCount := statement.useCount + 1, lastUsedAt := some now }

end CachedStatement

/-- A summary of a statement cache. -/
structure StatementStats where
  size : Nat
  maxSize : Nat
  hits : Nat
  misses : Nat
  evictions : Nat
  /-- The uses of all cached statements. -/
  totalUses : Nat
  hitRate : Binary64
  /-- The age of the oldest statement in milliseconds. -/
  oldestAge : Option Nat
  deriving DecidableEq

/-- A cache of prepared statements. -/
structure StatementCache where
  /-- The statements, each text once, least recently used first. -/
  statements : List CachedStatement
  config : StatementConfig
  hits : Nat
  misses : Nat
  evictions : Nat

/-- How a statement was obtained. -/
inductive Acquisition where
  /-- It was cached and valid. -/
  | reused
  /-- It was cached and stale. -/
  | recreated
  /-- It was not cached. -/
  | created
  deriving DecidableEq

/-- A statement that was asked for, how it was obtained and what was given up for
it. -/
structure Acquired where
  statement : CachedStatement
  acquisition : Acquisition
  evicted : Option CachedStatement

namespace Acquired

/-- The events of obtaining a statement. -/
def events (acquired : Acquired) : List Event :=
  (match acquired.acquisition with
    | .recreated => [.staleStatementRecreated acquired.statement.sql]
    | _ => []) ++
  (match acquired.evicted with
    | some evicted => [.statementEvicted evicted.sql]
    | none => [])

end Acquired

namespace StatementCache

/-- The empty cache of a configuration. There is always room for one statement. -/
def new (config : StatementConfig) : StatementCache where
  statements := []
  config := { config with maxSize := max config.maxSize 1 }
  hits := 0
  misses := 0
  evictions := 0

/-- The statement of a text, stale or not. -/
def peek (cache : StatementCache) (sql : String) : Option CachedStatement :=
  cache.statements.find? fun statement => statement.sql = sql

/-- The statements other than that of a text. -/
def without (sql : String) (statements : List CachedStatement) : List CachedStatement :=
  statements.filter fun statement => statement.sql ≠ sql

/-- Gives up the statement at the front if the cache is full. -/
def makeRoom (cache : StatementCache) : Option CachedStatement × StatementCache :=
  if cache.config.maxSize ≤ cache.statements.length then
    match cache.statements with
    | [] => (none, cache)
    | front :: rest =>
      (some front, { cache with statements := rest, evictions := cache.evictions + 1 })
  else (none, cache)

/-- Makes a statement for a text that is not cached. -/
def create (cache : StatementCache) (sql : String) (acquisition : Acquisition) (now : Instant) :
    Acquired × StatementCache :=
  let (evicted, roomy) := { cache with misses := cache.misses + 1 }.makeRoom
  let statement := CachedStatement.fresh sql now
  (⟨statement, acquisition, evicted⟩,
    { roomy with statements := roomy.statements ++ [statement] })

/-- The statement of a text, as its most recent use: a valid one is used again,
and otherwise a new one is made. -/
def acquire (cache : StatementCache) (sql : String) (now : Instant) : Acquired × StatementCache :=
  match cache.peek sql with
  | none => cache.create sql .created now
  | some statement =>
    let others := { cache with statements := without sql cache.statements }
    if statement.isValid cache.config now then
      let used := statement.use now
      (⟨used, .reused, none⟩,
        { others with statements := others.statements ++ [used], hits := cache.hits + 1 })
    else others.create sql .recreated now

/-- Whether a text has a valid statement. -/
def contains (cache : StatementCache) (sql : String) (now : Instant) : Bool :=
  match cache.peek sql with
  | some statement => statement.isValid cache.config now
  | none => false

/-- Removes the statement of a text; the answer is whether there was one. -/
def remove (cache : StatementCache) (sql : String) : Bool × StatementCache :=
  ((cache.peek sql).isSome, { cache with statements := without sql cache.statements })

/-- Removes all statements and keeps the counters. -/
def clear (cache : StatementCache) : StatementCache := { cache with statements := [] }

/-- Removes all stale statements; the answer is their number. -/
def cleanup (cache : StatementCache) (now : Instant) : Nat × StatementCache :=
  let stale := cache.statements.filter fun statement => !statement.isValid cache.config now
  (stale.length,
    { cache with
      statements := cache.statements.filter fun statement => statement.isValid cache.config now })

/-- The events of a cleanup. -/
def cleanupEvents (count : Nat) : List Event :=
  if count = 0 then [] else [.staleStatementsRemoved count]

/-- The statements used most often, at most `limit` of them; among equals the
least recently used comes first. -/
def mostUsed (cache : StatementCache) (limit : Nat) : List CachedStatement :=
  (cache.statements.mergeSort fun left right => right.useCount ≤ left.useCount).take limit

/-- The number of statements, stale ones included. -/
def size (cache : StatementCache) : Nat := cache.statements.length

/-- A summary of the cache. -/
def stats (cache : StatementCache) (now : Instant) : StatementStats where
  size := cache.size
  maxSize := cache.config.maxSize
  hits := cache.hits
  misses := cache.misses
  evictions := cache.evictions
  totalUses := (cache.statements.map CachedStatement.useCount).foldr (· + ·) 0
  hitRate := Binary64.share cache.hits (cache.hits + cache.misses)
  oldestAge := (cache.statements.map fun statement => (statement.age now).millisWord).max?

end StatementCache

/-- A command to a statement cache. -/
inductive StatementCommand where
  | acquire (sql : String)
  | remove (sql : String)
  | clear
  | cleanup
  | advance (span : Duration)

/-- The answer to a command. -/
inductive StatementAnswer where
  | done
  | acquired (acquired : Acquired)
  | flag (value : Bool)
  | count (value : Nat)

/-- A statement cache and its clock. -/
structure StatementSession where
  clock : Clock
  cache : StatementCache

namespace StatementSession

/-- The present instant. -/
def now (session : StatementSession) : Instant := session.clock.monotonic

/-- Carries out a command. -/
def step (session : StatementSession) :
    StatementCommand → StatementAnswer × List Event × StatementSession
  | .acquire sql =>
    let (acquired, cache) := session.cache.acquire sql session.now
    (.acquired acquired, acquired.events, { session with cache := cache })
  | .remove sql =>
    let (removed, cache) := session.cache.remove sql
    (.flag removed, [], { session with cache := cache })
  | .clear => (.done, [], { session with cache := session.cache.clear })
  | .cleanup =>
    let (count, cache) := session.cache.cleanup session.now
    (.count count, StatementCache.cleanupEvents count, { session with cache := cache })
  | .advance span => (.done, [], { session with clock := session.clock.advance span })

/-- The session after a list of commands. -/
def run (session : StatementSession) : List StatementCommand → StatementSession
  | [] => session
  | command :: rest => (session.step command).2.2.run rest

end StatementSession

end QueryKit
