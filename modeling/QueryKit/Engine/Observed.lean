import QueryKit.Optimizer.Basic
import QueryKit.Query.Execute
import QueryKit.Statement.Cache

/-!
# Observed sessions

A session whose every call goes through the statement cache and is timed for the
optimizer. Observation changes neither the calls that reach the store nor their
answers.
-/

namespace QueryKit

/-- A session with a statement cache and an optimizer. -/
structure ObservedSession where
  session : Session
  statements : StatementCache
  optimizer : Optimizer
  /-- The alerts handed over so far, oldest first. -/
  alerts : List Alert

namespace ObservedSession

/-- A fresh observed session. -/
def new (session : Session) (statements : StatementConfig) (optimizer : Optimizer) :
    ObservedSession :=
  ⟨session, StatementCache.new statements, optimizer, []⟩

/-- The session with further events. -/
def report (observed : ObservedSession) (events : List Event) : ObservedSession :=
  { observed with session := observed.session.report events }

/-- The session at a later time. -/
def advance (observed : ObservedSession) (span : Duration) : ObservedSession :=
  { observed with session := observed.session.advance span }

/-- The present instant. -/
def now (observed : ObservedSession) : Instant := observed.session.clock.monotonic

/-- Gets the statement of a call ready. -/
def prepare (observed : ObservedSession) (sql : String) : ObservedSession :=
  let (acquired, statements) := observed.statements.acquire sql observed.now
  let ready : ObservedSession := { observed with statements := statements }
  ready.report (acquired.events ++ [.statementPrepared sql acquired.statement.useCount])

/-- Records an execution for the optimizer and deals with the alert it raises. -/
def recordExecution (observed : ObservedSession) (sql : String) (elapsed : Duration) :
    ObservedSession :=
  let (alert, optimizer) := observed.optimizer.record sql elapsed observed.session.clock.wall
  let recorded : ObservedSession := { observed with optimizer := optimizer }
  match alert with
  | none => recorded
  | some alert =>
    let handed : ObservedSession :=
      { recorded with alerts := recorded.alerts ++ alert.handed optimizer.hook }
    handed.report (alert.events optimizer.hook)

/-- Makes a call: the statement is made ready, the store is called and the time
that the call took is recorded, whatever its answer. -/
def exchange (call : Call) (observed : ObservedSession) :
    Except String Reply × ObservedSession :=
  let prepared := observed.prepare call.sql
  let (answer, session) := prepared.session.exchange call
  let elapsed := session.clock.monotonic.since prepared.now
  let called : ObservedSession := { prepared with session := session }
  (answer, called.recordExecution call.sql elapsed)

/-- Calls from an observed session. -/
def executor : Executor ObservedSession where
  exchange := exchange
  report := fun event observed => observed.report [event]

/-- The rows that a plain statement reads. -/
def query (observed : ObservedSession) (sql : String) (arguments : List Value) (space : String) :
    Except ExecuteError (List Record) × ObservedSession :=
  let (answer, after) := observed.exchange ⟨.query, sql, arguments, space⟩
  ((answer.mapError .backend).map Reply.rows, after)

/-- The number of rows that a plain statement changes. -/
def update (observed : ObservedSession) (sql : String) (arguments : List Value) (space : String) :
    Except ExecuteError Nat × ObservedSession :=
  let (answer, after) := observed.exchange ⟨.update, sql, arguments, space⟩
  ((answer.mapError .backend).map Reply.affected, after)

/-- The number of rows that a plain statement removes. -/
def delete (observed : ObservedSession) (sql : String) (arguments : List Value) (space : String) :
    Except ExecuteError Nat × ObservedSession :=
  let (answer, after) := observed.exchange ⟨.delete, sql, arguments, space⟩
  ((answer.mapError .backend).map Reply.affected, after)

/-- Removes stale statements; the answer is their number. -/
def cleanupStatements (observed : ObservedSession) : Nat × ObservedSession :=
  let (count, statements) := observed.statements.cleanup observed.now
  let cleaned : ObservedSession := { observed with statements := statements }
  (count, cleaned.report (StatementCache.cleanupEvents count))

/-- Forgets the statistics of the optimizer. -/
def clearStats (observed : ObservedSession) : ObservedSession :=
  { observed with optimizer := observed.optimizer.clearStats }

end ObservedSession

end QueryKit
