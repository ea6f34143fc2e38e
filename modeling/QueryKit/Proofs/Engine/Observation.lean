import QueryKit.Proofs.Engine.Run
import QueryKit.Proofs.Optimizer.Summary
import QueryKit.Proofs.Statement.Acquire

/-!
# What observation adds to a session

The operations that end a query, and calls of plain statements, are commands that a session
carries out with or without observation. In both cases a command makes at most one call, and
answers by its reply alone; so an observed run and the bare run of the same commands stay
together, step for step. What observation adds is told from the history: `Accounted` ties
the statistics to the calls that reached the store and to the time that each of them took,
and the counters of the statement cache to the number of calls.
-/

namespace QueryKit

/-! ### Commands -/

/-- An operation that ends a query. -/
inductive QueryOperation where
  | get (query : Query)
  | first (query : Query)
  | count (query : Query)
  | stream (query : Query)
  | update (query : Query) (values : List (String × Value))
  | delete (query : Query)

namespace QueryOperation

/-- The query that is ended. -/
def query : QueryOperation → Query
  | .get query | .first query | .count query | .stream query | .update query _ | .delete query =>
    query

/-- What the operation is reported as. -/
def activity : QueryOperation → Activity
  | .get _ | .first _ | .stream _ => .query
  | .count _ => .count
  | .update .. => .update
  | .delete _ => .delete

/-- The kind of the call. -/
def kind : QueryOperation → CallKind
  | .get _ | .first _ | .stream _ | .count _ => .query
  | .update .. => .update
  | .delete _ => .delete

/-- The statement of the call. -/
def compiled : QueryOperation → Except QueryError Statement
  | .get query | .stream query => query.toSelect
  | .first query => (query.limitTo 1).toSelect
  | .count query => query.toCount
  | .update query values => query.toUpdate values
  | .delete query => query.toDelete

/-- The call of the operation, if its statement compiles. -/
def call (operation : QueryOperation) : Except QueryError Call :=
  operation.compiled.map fun statement =>
    ⟨operation.kind, statement.sql, statement.arguments, operation.query.space⟩

variable {operation : QueryOperation}

/-- An operation makes no call iff its statement does not compile. -/
theorem call_eq_error_iff {cause : QueryError} :
    operation.call = .error cause ↔ operation.compiled = .error cause := by
  unfold call
  cases operation.compiled <;> simp [Except.map]

/-- The call carries the statement, its arguments and the space of the query. -/
theorem call_eq_ok_iff {call : Call} :
    operation.call = .ok call ↔ ∃ statement, operation.compiled = .ok statement ∧
      call = ⟨operation.kind, statement.sql, statement.arguments, operation.query.space⟩ := by
  unfold QueryOperation.call
  cases operation.compiled <;> simp [Except.map, eq_comm]

/-- What is answered to a reply. -/
def answer (reply : Except ExecuteError Reply) : QueryOperation → EngineAnswer
  | .get _ | .stream _ => .rows (reply.map Reply.rows)
  | .first _ => .row (reply.map fun reply => reply.rows.head?)
  | .count _ => .number (reply.map Query.countOf)
  | .update .. | .delete _ => .number (reply.map Reply.affected)

end QueryOperation

/-- A command to a session: an operation that ends a query, the call of a plain statement,
or time that passes. -/
inductive StoreCommand where
  | finish (operation : QueryOperation)
  | plain (call : Call)
  | advance (span : Duration)

namespace StoreCommand

/-- The call of a command. Time passes without one, and a statement may not compile. -/
def call? : StoreCommand → Option (Except QueryError Call)
  | .finish operation => some operation.call
  | .plain call => some (.ok call)
  | .advance _ => none

/-- What is answered to a reply. -/
def answer (reply : Except ExecuteError Reply) : StoreCommand → EngineAnswer
  | .finish operation => operation.answer reply
  | .plain ⟨.query, _, _, _⟩ => .rows (reply.map Reply.rows)
  | .plain ⟨.update, _, _, _⟩ | .plain ⟨.delete, _, _, _⟩ => .number (reply.map Reply.affected)
  | .advance _ => .done

end StoreCommand

/-- A command to an observed session. -/
inductive ObservedCommand where
  | store (command : StoreCommand)
  | clearStats
  | cleanupStatements

/-- The command without observation, where there is nothing to forget or to clean up. -/
def ObservedCommand.store? : ObservedCommand → Option StoreCommand
  | .store command => some command
  | _ => none

namespace Executor

variable {State : Type} (executor : Executor State)

/-- Carries out an operation that ends a query. -/
def carryOut (state : State) : QueryOperation → EngineAnswer × State
  | .get query => (query.get executor state).map .rows id
  | .first query => (query.first executor state).map .row id
  | .count query => (query.count executor state).map .number id
  | .stream query => (query.stream executor state).map .rows id
  | .update query values => (query.update executor values state).map .number id
  | .delete query => (query.delete executor state).map .number id

/-- A reply may be read after the operation. -/
theorem perform_read {Answer : Type} (activity : Activity) (kind : CallKind)
    (compiled : Except QueryError Statement) (space : String) (read : Reply → Answer)
    (state : State) :
    executor.perform activity kind compiled space read state =
      let performed := executor.perform activity kind compiled space id state
      (performed.1.map read, performed.2) := by
  cases compiled with
  | error cause => rfl
  | ok statement =>
    rw [perform_ok, perform_ok]
    dsimp only
    cases (executor.exchange _ _).1 <;> rfl

/-- Every operation is the performance of its statement. -/
theorem carryOut_eq (operation : QueryOperation) (state : State) :
    executor.carryOut state operation =
      let performed := executor.perform operation.activity operation.kind operation.compiled
        operation.query.space id state
      (operation.answer performed.1, performed.2) := by
  cases operation with
  | get query | stream query | first query | count query | update query values | delete query =>
    exact congrArg (Prod.map _ id) (executor.perform_read ..)

variable {operation : QueryOperation}

/-- A statement that does not compile leaves everything as it was. -/
theorem carryOut_of_error {cause : QueryError} (failed : operation.call = .error cause)
    (state : State) :
    executor.carryOut state operation = (operation.answer (.error (.compile cause)), state) := by
  rw [carryOut_eq, QueryOperation.call_eq_error_iff.1 failed]
  rfl

/-- A statement that compiles is reported and makes its call. -/
theorem carryOut_of_ok {call : Call} (compiled : operation.call = .ok call) (state : State) :
    executor.carryOut state operation =
      let reported := executor.report
        (.executing operation.activity call.sql call.arguments.length call.space) state
      let exchanged := executor.exchange call reported
      (operation.answer (exchanged.1.mapError .backend), exchanged.2) := by
  obtain ⟨statement, same, rfl⟩ := QueryOperation.call_eq_ok_iff.1 compiled
  rw [carryOut_eq, same, perform_ok]
  dsimp only
  cases (executor.exchange _ _).1 <;> rfl

end Executor

/-! ### Bare sessions -/

namespace Session

variable {session after : Session} {command : StoreCommand}

/-- Carries out a command. -/
def step (session : Session) : StoreCommand → EngineAnswer × Session
  | .finish operation => executor.carryOut session operation
  | .plain call =>
    let (answer, after) := session.exchange call
    ((StoreCommand.plain call).answer (answer.mapError .backend), after)
  | .advance span => (.done, session.advance span)

/-- The session after a list of commands. -/
def run (session : Session) : List StoreCommand → Session
  | [] => session
  | command :: rest => (session.step command).2.run rest

/-- The answers to a list of commands. -/
def answers (session : Session) : List StoreCommand → List EngineAnswer
  | [] => []
  | command :: rest => (session.step command).1 :: (session.step command).2.answers rest

/-- A command that does not compile is answered by the error and reaches no store. -/
theorem step_of_error {cause : QueryError} (failed : command.call? = some (.error cause))
    (session : Session) :
    session.step command = (command.answer (.error (.compile cause)), session) := by
  cases command with
  | finish operation => exact executor.carryOut_of_error (Option.some.inj failed) session
  | plain call => cases failed
  | advance span => cases failed

/-- A command with a call answers by the reply, and makes that call. -/
theorem step_of_call {call : Call} (compiled : command.call? = some (.ok call))
    (session : Session) :
    (session.step command).1 =
      command.answer ((session.reply call).outcome.mapError .backend) ∧
    session.Called call (session.step command).2 := by
  cases command with
  | finish operation =>
    let reported := session.report
      [.executing operation.activity call.sql call.arguments.length call.space]
    have prior : session.SameStore reported := sameStore_report session _
    obtain ⟨answer, called⟩ := reported.exchange_eq call
    rw [step, executor.carryOut_of_ok (Option.some.inj compiled), ← prior.reply, ← answer]
    exact ⟨rfl, called.between prior (.refl _)⟩
  | plain other =>
    obtain rfl := Except.ok.inj (Option.some.inj compiled)
    obtain ⟨answer, called⟩ := session.exchange_eq other
    rw [← answer]
    exact ⟨rfl, called⟩
  | advance span => cases compiled

/-- A call keeps two sessions together. -/
theorem SameStore.called {before other otherAfter : Session} {call : Call}
    (same : before.SameStore other) (called : before.Called call after)
    (otherCalled : other.Called call otherAfter) : after.SameStore otherAfter where
  clock := by rw [otherCalled.clock, called.clock, same.clock, same.reply]
  backend := by rw [otherCalled.backend, called.backend, same.backend]
  calls := by rw [otherCalled.calls, called.calls, same.calls]

end Session

/-! ### Observed sessions -/

/-- A command as an observed session carried it out. -/
structure ObservedStep where
  before : ObservedSession
  command : ObservedCommand
  answer : EngineAnswer
  after : ObservedSession

namespace ObservedStep

/-- The answer that is also given without observation. -/
def storeAnswer? (step : ObservedStep) : Option EngineAnswer :=
  step.command.store?.map fun _ => step.answer

/-- The texts of the calls that reached the store in a step, with the time that passed. -/
def timed (step : ObservedStep) : List (String × Duration) :=
  (step.after.session.calls.drop step.before.session.calls.length).map fun call =>
    (call.sql, step.after.now.since step.before.now)

/-- A step without a call takes no time of a call. -/
theorem timed_of_silent {step : ObservedStep}
    (silent : step.after.session.calls = step.before.session.calls) : step.timed = [] := by
  rw [timed, silent, List.drop_length, List.map_nil]

/-- The executions that count after a step: forgetting the statistics forgets them all. -/
def executionsAfter (earlier : List (String × Duration)) (step : ObservedStep) :
    List (String × Duration) :=
  match step.command with
  | .clearStats => []
  | _ => earlier ++ step.timed

end ObservedStep

/-- The executions since the statistics were last forgotten, each with the time it took. -/
def executions (history : List ObservedStep) : List (String × Duration) :=
  history.foldl ObservedStep.executionsAfter []

namespace ObservedSession

variable {observed after : ObservedSession} {call : Call} {command : StoreCommand}

/-- Carries out a command that a bare session knows as well. -/
def serve (observed : ObservedSession) : StoreCommand → EngineAnswer × ObservedSession
  | .finish operation => executor.carryOut observed operation
  | .plain ⟨.query, sql, arguments, space⟩ =>
    (observed.query sql arguments space).map .rows id
  | .plain ⟨.update, sql, arguments, space⟩ =>
    (observed.update sql arguments space).map .number id
  | .plain ⟨.delete, sql, arguments, space⟩ =>
    (observed.delete sql arguments space).map .number id
  | .advance span => (.done, observed.advance span)

/-- Carries out a command. -/
def step (observed : ObservedSession) : ObservedCommand → EngineAnswer × ObservedSession
  | .store command => observed.serve command
  | .clearStats => (.done, observed.clearStats)
  | .cleanupStatements => observed.cleanupStatements.map (fun count => .number (.ok count)) id

/-- A command and what came of it. -/
def carryOut (observed : ObservedSession) (command : ObservedCommand) : ObservedStep :=
  ⟨observed, command, (observed.step command).1, (observed.step command).2⟩

/-- The session after a list of commands. -/
def run (observed : ObservedSession) : List ObservedCommand → ObservedSession
  | [] => observed
  | command :: rest => (observed.step command).2.run rest

/-- The steps of a run, first to last. -/
def history (observed : ObservedSession) : List ObservedCommand → List ObservedStep
  | [] => []
  | command :: rest => observed.carryOut command :: (observed.step command).2.history rest

/-- An observed session after one call: the statement of the call was asked for, and the
time that the call took is recorded. -/
structure Called (before : ObservedSession) (call : Call) (after : ObservedSession) : Prop where
  session : before.session.Called call after.session
  statements : after.statements = (before.statements.acquire call.sql before.now).2
  optimizer : after.optimizer =
    (before.optimizer.record call.sql (after.now.since before.now) after.session.clock.wall).2

/-- Recording an execution touches the optimizer alone. -/
theorem recordExecution_frame (observed : ObservedSession) (sql : String) (elapsed : Duration) :
    (observed.recordExecution sql elapsed).statements = observed.statements ∧
    (observed.recordExecution sql elapsed).optimizer =
      (observed.optimizer.record sql elapsed observed.session.clock.wall).2 := by
  unfold recordExecution
  dsimp only
  split <;> exact ⟨rfl, rfl⟩

/-- An exchange asks for the statement, makes the call and records its time. -/
theorem called_exchange (observed : ObservedSession) (call : Call) :
    observed.Called call (observed.exchange call).2 := by
  let prepared := observed.prepare call.sql
  let called : ObservedSession :=
    { prepared with session := (prepared.session.exchange call).2 }
  let elapsed := called.now.since prepared.now
  have clock : (called.recordExecution call.sql elapsed).session.clock = called.session.clock :=
    (sameStore_recordExecution called call.sql elapsed).clock
  obtain ⟨statements, optimizer⟩ := recordExecution_frame called call.sql elapsed
  refine ⟨(observed.exchange_eq call).2, statements, ?_⟩
  show (called.recordExecution call.sql elapsed).optimizer = _
  rw [optimizer]
  show _ = (observed.optimizer.record call.sql
    ((called.recordExecution call.sql elapsed).session.clock.monotonic.since observed.now)
    (called.recordExecution call.sql elapsed).session.clock.wall).2
  rw [clock]
  rfl

/-- A command that does not compile is answered by the error and leaves no trace. -/
theorem serve_of_error {cause : QueryError} (failed : command.call? = some (.error cause))
    (observed : ObservedSession) :
    observed.serve command = (command.answer (.error (.compile cause)), observed) := by
  cases command with
  | finish operation => exact executor.carryOut_of_error (Option.some.inj failed) observed
  | plain call => cases failed
  | advance span => cases failed

/-- A plain statement is one call, whose reply is read by its kind. -/
theorem serve_plain (observed : ObservedSession) (call : Call) :
    observed.serve (.plain call) =
      let exchanged := observed.exchange call
      ((StoreCommand.plain call).answer (exchanged.1.mapError .backend), exchanged.2) := by
  obtain ⟨kind, sql, arguments, space⟩ := call
  cases kind <;> rfl

/-- A command with a call answers by the reply, and makes that call. -/
theorem serve_of_call {call : Call} (compiled : command.call? = some (.ok call))
    (observed : ObservedSession) :
    (observed.serve command).1 =
      command.answer ((observed.session.reply call).outcome.mapError .backend) ∧
    observed.Called call (observed.serve command).2 := by
  cases command with
  | finish operation =>
    let reported := observed.report
      [.executing operation.activity call.sql call.arguments.length call.space]
    have prior : observed.session.SameStore reported.session :=
      Session.sameStore_report observed.session _
    obtain ⟨answer, -⟩ := reported.exchange_eq call
    have called := called_exchange reported call
    rw [serve, executor.carryOut_of_ok (Option.some.inj compiled), ← prior.reply, ← answer]
    exact ⟨rfl, called.session.between prior (.refl _), called.statements, called.optimizer⟩
  | plain other =>
    obtain rfl := Except.ok.inj (Option.some.inj compiled)
    obtain ⟨answer, -⟩ := observed.exchange_eq other
    rw [serve_plain, ← answer]
    exact ⟨rfl, called_exchange observed other⟩
  | advance span => cases compiled

/-! ### The bare run beside it -/

/-- A command is answered alike with and without observation, and keeps both together. -/
theorem serve_together {session : Session} (same : session.SameStore observed.session)
    (command : StoreCommand) :
    (session.step command).1 = (observed.serve command).1 ∧
    (session.step command).2.SameStore (observed.serve command).2.session := by
  cases compiled : command.call? with
  | none =>
    cases command with
    | finish operation => cases compiled
    | plain call => cases compiled
    | advance span =>
      refine ⟨rfl, ?_, same.backend, same.calls⟩
      show observed.session.clock.advance span = session.clock.advance span
      rw [same.clock]
  | some result =>
    cases result with
    | error cause =>
      rw [session.step_of_error compiled, observed.serve_of_error compiled]
      exact ⟨rfl, same⟩
    | ok call =>
      obtain ⟨bareAnswer, bareCalled⟩ := session.step_of_call compiled
      obtain ⟨answer, called⟩ := observed.serve_of_call compiled
      rw [bareAnswer, answer, same.reply]
      exact ⟨rfl, same.called bareCalled called.session⟩

/-- A run and the bare run of its commands stay together and are answered alike. -/
theorem run_together {session : Session} (same : session.SameStore observed.session)
    (commands : List ObservedCommand) :
    let bare := commands.filterMap ObservedCommand.store?
    (session.run bare).SameStore (observed.run commands).session ∧
    (observed.history commands).filterMap ObservedStep.storeAnswer? = session.answers bare := by
  induction commands generalizing session observed with
  | nil => exact ⟨same, rfl⟩
  | cons command rest ih =>
    cases command with
    | store command =>
      obtain ⟨answer, together⟩ := serve_together same command
      obtain ⟨last, answers⟩ := ih together
      refine ⟨last, ?_⟩
      show (observed.serve command).1 :: _ = (session.step command).1 :: _
      rw [answer]
      exact congrArg _ answers
    | clearStats =>
      have together : session.SameStore observed.clearStats.session := same
      exact ih together
    | cleanupStatements =>
      have together : session.SameStore observed.cleanupStatements.2.session :=
        ⟨same.clock, same.backend, same.calls⟩
      exact ih together

/-! ### Accounts -/

/-- An observed session accounts for the executions since its statistics were last
forgotten, and its statement cache for all calls after the first `earlier` ones. -/
structure Accounted (observed : ObservedSession) (earlier : Nat)
    (executions : List (String × Duration)) : Prop where
  formed : observed.statements.WellFormed
  tracks : observed.optimizer.Tracks executions
  counted : earlier + observed.statements.hits + observed.statements.misses =
    observed.session.calls.length

variable {earlier : Nat} {executions : List (String × Duration)}

/-- A new session accounts for no execution, after the calls that were made before it. -/
theorem accounted_new (session : Session) (statements : StatementConfig) (registry : Registry)
    (config : OptimizerConfig) (hook : Hook) :
    (new session statements (.new registry config hook)).Accounted session.calls.length [] where
  formed := StatementCache.wellFormed_new statements
  tracks := Optimizer.tracks_nil rfl
  counted := rfl

/-- A call counts one hit or miss, and its time is on record. -/
theorem Accounted.afterCall (accounted : observed.Accounted earlier executions)
    (called : observed.Called call after) :
    after.Accounted earlier (executions ++ [(call.sql, after.now.since observed.now)]) := by
  have acquires := accounted.formed.acquire call.sql observed.now
  rw [← called.statements] at acquires
  refine ⟨acquires.wellFormed accounted.formed, ?_, ?_⟩
  · rw [called.optimizer]
    exact accounted.tracks.record ..
  · rw [called.session.calls, List.length_append, List.length_singleton, ← accounted.counted]
    rcases acquires.made_or_used with ⟨-, -, -, -, hits, misses⟩ | ⟨-, hits, misses⟩
    · omega
    · omega

/-- A command that a bare session knows as well is accounted for. -/
theorem Accounted.serve (accounted : observed.Accounted earlier executions)
    (command : StoreCommand) :
    (observed.serve command).2.Accounted earlier
      (executions ++ (observed.carryOut (.store command)).timed) := by
  cases compiled : command.call? with
  | none =>
    cases command with
    | finish operation => cases compiled
    | plain call => cases compiled
    | advance span =>
      rw [ObservedStep.timed_of_silent rfl, List.append_nil]
      exact ⟨accounted.formed, accounted.tracks, accounted.counted⟩
  | some result =>
    cases result with
    | error cause =>
      have unchanged : (observed.serve command).2 = observed :=
        congrArg Prod.snd (observed.serve_of_error compiled)
      have silent : (observed.serve command).2.session.calls = observed.session.calls := by
        rw [unchanged]
      rw [ObservedStep.timed_of_silent silent, List.append_nil, unchanged]
      exact accounted
    | ok call =>
      have called := (observed.serve_of_call compiled).2
      have timed : (observed.carryOut (.store command)).timed =
          [(call.sql, (observed.serve command).2.now.since observed.now)] := by
        show ((observed.serve command).2.session.calls.drop observed.session.calls.length).map _ = _
        rw [called.session.calls, List.drop_left]
        rfl
      rw [timed]
      exact accounted.afterCall called

/-- One command is accounted for. -/
theorem Accounted.step (accounted : observed.Accounted earlier executions)
    (command : ObservedCommand) :
    (observed.step command).2.Accounted earlier
      (ObservedStep.executionsAfter executions (observed.carryOut command)) := by
  cases command with
  | store command => exact accounted.serve command
  | clearStats => exact ⟨accounted.formed, Optimizer.tracks_nil rfl, accounted.counted⟩
  | cleanupStatements =>
    have unchanged : ObservedStep.executionsAfter executions
        (observed.carryOut .cleanupStatements) = executions := by
      show executions ++ (observed.carryOut .cleanupStatements).timed = executions
      rw [ObservedStep.timed_of_silent rfl, List.append_nil]
    rw [unchanged]
    exact ⟨accounted.formed.shrink List.filter_sublist rfl, accounted.tracks, accounted.counted⟩

/-- A run is accounted for. -/
theorem Accounted.run (accounted : observed.Accounted earlier executions)
    (commands : List ObservedCommand) :
    (observed.run commands).Accounted earlier
      ((observed.history commands).foldl ObservedStep.executionsAfter executions) := by
  induction commands generalizing observed executions with
  | nil => exact accounted
  | cons command rest ih => exact ih (accounted.step command)

/-- In every run the store receives exactly the calls of the bare run, at the same times, and
every command of the bare run is answered as there. A command whose statement does not compile
leaves the observed session as it was. The statistics are those of the calls since they were
last forgotten, refused ones included, by text and with the time that each call took; and the
hits and misses of the statement cache are together as many as the calls. -/
theorem observation_is_faithful (session : Session) (statements : StatementConfig)
    (registry : Registry) (config : OptimizerConfig) (hook : Hook)
    (commands : List ObservedCommand) :
    let start := new session statements (.new registry config hook)
    let history := start.history commands
    let observed := start.run commands
    let bare := commands.filterMap ObservedCommand.store?
    (session.run bare).SameStore observed.session ∧
    history.filterMap ObservedStep.storeAnswer? = session.answers bare ∧
    (∀ command cause, command.call? = some (.error cause) →
      observed.step (.store command) = (command.answer (.error (.compile cause)), observed)) ∧
    observed.optimizer.Tracks (QueryKit.executions history) ∧
    session.calls.length + observed.statements.hits + observed.statements.misses =
      observed.session.calls.length := by
  intro start history observed bare
  have accounted : observed.Accounted session.calls.length (QueryKit.executions history) :=
    (accounted_new session statements registry config hook).run commands
  have atStart : session.SameStore start.session := .refl session
  obtain ⟨together, answers⟩ := run_together atStart commands
  refine ⟨together, answers, fun command cause failed => ?_, accounted.tracks, accounted.counted⟩
  exact observed.serve_of_error failed

end ObservedSession

end QueryKit
