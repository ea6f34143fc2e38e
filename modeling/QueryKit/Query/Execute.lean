import QueryKit.Backend

/-!
# Executing queries

The operations that end a query. Each compiles one statement, reports it and
makes one call with its text, its arguments and the space of the query; a query
that does not compile makes no call and reports nothing.
-/

namespace QueryKit

variable {State : Type}

namespace Executor

/-- Makes the call of a compiled statement in a space and reads the reply. -/
def perform {Answer : Type} (executor : Executor State) (activity : Activity) (kind : CallKind)
    (compiled : Except QueryError Statement) (space : String) (read : Reply → Answer)
    (state : State) : Except ExecuteError Answer × State :=
  match compiled with
  | .error cause => (.error (.compile cause), state)
  | .ok statement =>
    let reported :=
      executor.report
        (.executing activity statement.sql statement.arguments.length space) state
    match executor.exchange ⟨kind, statement.sql, statement.arguments, space⟩ reported with
    | (.error text, after) => (.error (.backend text), after)
    | (.ok reply, after) => (.ok (read reply), after)

end Executor

namespace Query

/-- The rows of the query. -/
def get (executor : Executor State) (query : Query) (state : State) :
    Except ExecuteError (List Record) × State :=
  executor.perform .query .query query.toSelect query.space Reply.rows state

/-- The first row of the query, asked for alone. -/
def first (executor : Executor State) (query : Query) (state : State) :
    Except ExecuteError (Option Record) × State :=
  executor.perform .query .query (query.limitTo 1).toSelect query.space
    (fun reply => reply.rows.head?) state

/-- The count in the first row of a reply: its column `count` as an integer that
is not negative, or zero. -/
def countOf (reply : Reply) : Nat :=
  match (reply.rows.head?.bind fun row => row.lookup "count").bind Value.asInteger? with
  | some count => count.toInt.toNat
  | none => 0

/-- The number of rows of the query. -/
def count (executor : Executor State) (query : Query) (state : State) :
    Except ExecuteError Nat × State :=
  executor.perform .count .query query.toCount query.space countOf state

/-- Sets columns in the rows of the query; the answer is their number. -/
def update (executor : Executor State) (query : Query) (values : List (String × Value))
    (state : State) : Except ExecuteError Nat × State :=
  executor.perform .update .update (query.toUpdate values) query.space Reply.affected state

/-- Removes the rows of the query; the answer is their number. -/
def delete (executor : Executor State) (query : Query) (state : State) :
    Except ExecuteError Nat × State :=
  executor.perform .delete .delete query.toDelete query.space Reply.affected state

/-- The rows of the query for reading one by one. They are fetched at once. -/
def stream (executor : Executor State) (query : Query) (state : State) :
    Except ExecuteError (List Record) × State :=
  query.get executor state

end Query

end QueryKit
