import QueryKit.Event
import QueryKit.Query.Sql

/-!
# Stores

A store answers calls with rows, a count of changed rows or a refusal, each
after a delay. A session with a store keeps the calls made so far and the clock,
which moves only by those delays and by its owner. `Executor` is the one
operation that queries need of a session, so that the same query runs against a
plain session and against one that observes its statements.
-/

namespace QueryKit

/-- The operations of a store. -/
inductive CallKind where
  | query
  | update
  | delete
  deriving DecidableEq

/-- One call of a store. -/
structure Call where
  kind : CallKind
  sql : String
  arguments : List Value
  space : String
  deriving DecidableEq

/-- What a store answers to a call. -/
structure Reply where
  /-- The rows, for a query. -/
  rows : List Record
  /-- The number of changed rows, for an update or a deletion. -/
  affected : Nat
  /-- The text of a refusal. -/
  refusal : Option String
  /-- The time that passes before the answer. -/
  delay : Duration

/-- A store. Its answer depends on the earlier calls, oldest first, and on the
present one. -/
structure Backend where
  answer : List Call → Call → Reply

namespace Backend

/-- The reply that refuses nothing, has no rows and takes no time. -/
def emptyReply : Reply := ⟨[], 0, none, Duration.zero⟩

/-- The store that answers its calls from a list, one reply after the other, and
repeats the last one. -/
def ofScript (script : List Reply) : Backend where
  answer := fun earlier _ =>
    (script[earlier.length]?).getD (script.getLast?.getD emptyReply)

end Backend

/-- A session with a store. -/
structure Session where
  clock : Clock
  backend : Backend
  /-- The calls made so far, oldest first. -/
  calls : List Call
  /-- The events reported so far, oldest first. -/
  events : List Event

namespace Session

/-- The session with further events. -/
def report (session : Session) (events : List Event) : Session :=
  { session with events := session.events ++ events }

/-- The session at a later time. -/
def advance (session : Session) (span : Duration) : Session :=
  { session with clock := session.clock.advance span }

/-- Makes a call: it is recorded, its delay passes, and the answer is the reply or
the text of its refusal. -/
def exchange (call : Call) (session : Session) : Except String Reply × Session :=
  let reply := session.backend.answer session.calls call
  let after :=
    { session with
      calls := session.calls ++ [call]
      clock := session.clock.advance reply.delay }
  match reply.refusal with
  | some text => (.error text, after)
  | none => (.ok reply, after)

end Session

/-- A way to make calls from states of a type, and to report events. -/
structure Executor (State : Type) where
  exchange : Call → State → Except String Reply × State
  report : Event → State → State

/-- Calls from a plain session. -/
def Session.executor : Executor Session where
  exchange := Session.exchange
  report := fun event session => session.report [event]

end QueryKit
