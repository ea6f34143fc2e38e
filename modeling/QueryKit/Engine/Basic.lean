import QueryKit.Cache.Session
import QueryKit.Engine.Config
import QueryKit.Engine.Observed
import QueryKit.Value.Key

/-!
# Engine

An observed session with a cache of results. A cached result is known by the
space, the statement and the arguments of the query that fetched it.
-/

namespace QueryKit

namespace Statement

/-- The key of the result of a statement in a space. -/
def resultKey (statement : Statement) (space : String) : String :=
  space ++ "|" ++ statement.sql ++ "|[" ++
    ", ".intercalate (statement.arguments.map Value.keyText) ++ "]"

end Statement

/-- An engine. -/
structure Engine where
  observed : ObservedSession
  results : Cache String (List Record)
  config : EngineConfig

namespace Engine

/-- A fresh engine on a session. -/
def new (session : Session) (optimizer : Optimizer) (config : EngineConfig) : Engine where
  observed := ObservedSession.new session config.statements optimizer
  results := Cache.new config.cache
  config := config

/-- The query for all rows of a table in a space. -/
def queryIn (space : String) (table : String) : Query := (Query.ofTable table).inSpace space

/-- The query for all rows of a table in the default space. -/
def query (engine : Engine) (table : String) : Query := queryIn engine.config.defaultSpace table

/-- The engine with further events. -/
def report (engine : Engine) (events : List Event) : Engine :=
  { engine with observed := engine.observed.report events }

/-- The cache of results with the clock of the engine. -/
def resultSession (engine : Engine) : CacheSession String (List Record) :=
  ⟨engine.observed.session.clock, engine.results⟩

/-- Calls from an engine. -/
def executor : Executor Engine where
  exchange := fun call engine =>
    let (answer, observed) := engine.observed.exchange call
    (answer, { engine with observed := observed })
  report := fun event engine => engine.report [event]

/-- Stores the rows of a result. -/
def storeResult (engine : Engine) (key : String) (rows : List Record) : Engine :=
  let (events, stored) := engine.resultSession.put key rows none
  let after : Engine := { engine with results := stored.cache }
  after.report events

/-- The rows of a query, from the cache of results or else from the store, whose
rows are then cached. A query that does not compile is not looked up, and a
refusal is not cached. -/
def getCached (engine : Engine) (query : Query) :
    Except ExecuteError (List Record) × Engine :=
  match query.toSelect with
  | .error cause => (.error (.compile cause), engine)
  | .ok statement =>
    let key := statement.resultKey query.space
    let (lookup, events, looked) := engine.resultSession.get key
    let lookedUp : Engine := { engine with results := looked.cache }
    let afterLookup := lookedUp.report events
    match lookup.item? with
    | some rows => (.ok rows, afterLookup.report [.resultCacheHit statement.sql])
    | none =>
      match query.get executor afterLookup with
      | (.error cause, failed) => (.error cause, failed)
      | (.ok rows, fetched) => (.ok rows, fetched.storeResult key rows)

/-- Forgets all cached results. -/
def invalidateResults (engine : Engine) : Engine :=
  { engine with results := engine.results.clear }

end Engine

end QueryKit
