import QueryKit.Engine.Basic
import QueryKit.Proofs.Cache.Table

/-!
# Runs of an engine

Commands to an engine as data, and the history of a run: every command with its answer
and the engines around it. The store is reached by one operation only, and
`Session.Called` says all that it does; whatever is observed on the way is known to be
events alone (`Session.SameStore`). `CachedRead` lists the four ways in which a cached
read goes, and what is proved about cached reads is a case analysis of it.
-/

namespace QueryKit

/-! ### Calls -/

/-- Two sessions that differ in their events alone. -/
structure Session.SameStore (before after : Session) : Prop where
  clock : after.clock = before.clock
  backend : after.backend = before.backend
  calls : after.calls = before.calls

/-- What the store answers to a call made now. -/
def Session.reply (session : Session) (call : Call) : Reply :=
  session.backend.answer session.calls call

/-- A session after one call: the call is on record and its delay has passed. -/
structure Session.Called (before : Session) (call : Call) (after : Session) : Prop where
  clock : after.clock = before.clock.advance (before.reply call).delay
  backend : after.backend = before.backend
  calls : after.calls = before.calls ++ [call]

/-- What a caller gets of a reply. -/
def Reply.outcome (reply : Reply) : Except String Reply :=
  match reply.refusal with
  | some text => .error text
  | none => .ok reply

namespace Session

theorem SameStore.refl (session : Session) : session.SameStore session := ⟨rfl, rfl, rfl⟩

/-- What happens twice without reaching the store does not reach it. -/
theorem SameStore.trans {before middle after : Session} (first : before.SameStore middle)
    (second : middle.SameStore after) : before.SameStore after :=
  ⟨second.clock.trans first.clock, second.backend.trans first.backend,
    second.calls.trans first.calls⟩

/-- Reporting events does not reach the store. -/
theorem sameStore_report (session : Session) (events : List Event) :
    session.SameStore (session.report events) := ⟨rfl, rfl, rfl⟩

/-- The store answers a call as it would have before. -/
theorem SameStore.reply {before after : Session} (same : before.SameStore after) (call : Call) :
    after.reply call = before.reply call := by
  rw [Session.reply, same.backend, same.calls, Session.reply]

/-- One call gives the outcome of the reply, and that is all it does. -/
theorem exchange_eq (session : Session) (call : Call) :
    (session.exchange call).1 = (session.reply call).outcome ∧
    session.Called call (session.exchange call).2 := by
  unfold exchange Reply.outcome
  cases refusal : (session.backend.answer session.calls call).refusal with
  | some text =>
    simp only [Session.reply, refusal]
    exact ⟨trivial, rfl, rfl, rfl⟩
  | none =>
    simp only [Session.reply, refusal]
    exact ⟨trivial, rfl, rfl, rfl⟩

/-- Events around a call do not count. -/
theorem Called.between {start before after finish : Session} {call : Call}
    (called : before.Called call after) (prior : start.SameStore before)
    (later : after.SameStore finish) : start.Called call finish where
  clock := by rw [later.clock, called.clock, prior.clock, prior.reply]
  backend := by rw [later.backend, called.backend, prior.backend]
  calls := by rw [later.calls, called.calls, prior.calls]

/-- Time does not run backwards where the store is not reached. -/
theorem SameStore.now_le {before after : Session} (same : before.SameStore after) :
    before.clock.monotonic ≤ after.clock.monotonic := by
  rw [same.clock]
  exact Nat.le_refl _

/-- Time does not run backwards in a call. -/
theorem Called.now_le {before after : Session} {call : Call} (called : before.Called call after) :
    before.clock.monotonic ≤ after.clock.monotonic := by
  rw [called.clock]
  exact Nat.le_add_right _ _

end Session

namespace Executor

variable {State Answer : Type} (executor : Executor State) (activity : Activity)
  (kind : CallKind) (statement : Statement) (space : String) (read : Reply → Answer)
  (state : State)

/-- A statement is reported and makes one call, whose answer is read. -/
theorem perform_ok :
    executor.perform activity kind (.ok statement) space read state =
      let reported := executor.report
        (.executing activity statement.sql statement.arguments.length space) state
      let exchanged :=
        executor.exchange ⟨kind, statement.sql, statement.arguments, space⟩ reported
      ((exchanged.1.mapError .backend).map read, exchanged.2) := by
  simp only [perform]
  split <;> next answer => rw [answer]; rfl

end Executor

namespace ObservedSession

/-- Asking for a statement does not reach the store. -/
theorem sameStore_prepare (observed : ObservedSession) (sql : String) :
    observed.session.SameStore (observed.prepare sql).session := ⟨rfl, rfl, rfl⟩

/-- Recording an execution does not reach the store. -/
theorem sameStore_recordExecution (observed : ObservedSession) (sql : String)
    (elapsed : Duration) :
    observed.session.SameStore (observed.recordExecution sql elapsed).session := by
  unfold recordExecution
  dsimp only
  split <;> exact ⟨rfl, rfl, rfl⟩

/-- Observation leaves the answer of the store and adds only events to the call. -/
theorem exchange_eq (observed : ObservedSession) (call : Call) :
    (observed.exchange call).1 = (observed.session.reply call).outcome ∧
    observed.session.Called call (observed.exchange call).2.session := by
  have prior := sameStore_prepare observed call.sql
  obtain ⟨answer, called⟩ := (observed.prepare call.sql).session.exchange_eq call
  have later := sameStore_recordExecution
    { observed.prepare call.sql with
      session := ((observed.prepare call.sql).session.exchange call).2 } call.sql
  exact ⟨by rw [← prior.reply]; exact answer, called.between prior (later _)⟩

end ObservedSession

namespace Engine

/-- The present instant. -/
def now (engine : Engine) : Instant := engine.observed.now

/-- The calls that reached the store so far, oldest first. -/
def calls (engine : Engine) : List Call := engine.observed.session.calls

/-- What the store answers to a call made now. -/
def reply (engine : Engine) (call : Call) : Reply := engine.observed.session.reply call

/-- An engine after one call. The cache of results has no part in it. -/
structure Called (before : Engine) (call : Call) (after : Engine) : Prop where
  session : before.observed.session.Called call after.observed.session
  results : after.results = before.results
  config : after.config = before.config

/-- An exchange gives the outcome of the reply and leaves the cache of results alone. -/
theorem exchange_eq (engine : Engine) (call : Call) :
    (executor.exchange call engine).1 = (engine.reply call).outcome ∧
    engine.Called call (executor.exchange call engine).2 :=
  have ⟨answer, called⟩ := engine.observed.exchange_eq call
  ⟨answer, called, rfl, rfl⟩

/-- A statement makes one call, and the reply or its refusal is the answer. -/
theorem perform_ok {Answer : Type} (activity : Activity) (kind : CallKind)
    (statement : Statement) (space : String) (read : Reply → Answer) (engine : Engine) :
    let call : Call := ⟨kind, statement.sql, statement.arguments, space⟩
    let performed := executor.perform activity kind (.ok statement) space read engine
    performed.1 = ((engine.reply call).outcome.mapError .backend).map read ∧
    engine.Called call performed.2 := by
  intro call performed
  let reported :=
    executor.report (.executing activity statement.sql statement.arguments.length space) engine
  have prior : engine.observed.session.SameStore reported.observed.session :=
    engine.observed.session.sameStore_report _
  have replied : reported.reply call = engine.reply call := prior.reply call
  obtain ⟨answer, called⟩ := reported.exchange_eq call
  have unfolded := executor.perform_ok activity kind statement space read engine
  refine ⟨?_, ?_⟩
  · rw [← replied, ← answer]
    exact congrArg Prod.fst unfolded
  · rw [show performed = _ from unfolded]
    exact ⟨called.session.between prior (.refl _), called.results, called.config⟩

/-- What leaves the cache of results and the configuration alone, while time may pass. -/
structure Spares (before after : Engine) : Prop where
  results : after.results = before.results
  config : after.config = before.config
  now : before.now ≤ after.now

theorem Spares.refl (engine : Engine) : engine.Spares engine := ⟨rfl, rfl, Nat.le_refl _⟩

/-- No operation that ends a query touches the cache of results. -/
theorem perform_spares {Answer : Type} (activity : Activity) (kind : CallKind)
    (compiled : Except QueryError Statement) (space : String) (read : Reply → Answer)
    (engine : Engine) :
    engine.Spares (executor.perform activity kind compiled space read engine).2 := by
  cases compiled with
  | error cause => exact .refl engine
  | ok statement =>
    have called := (engine.perform_ok activity kind statement space read).2
    exact ⟨called.results, called.config, called.session.now_le⟩

end Engine

/-! ### Cached reads -/

/-- The key of the result that a call fetches. -/
def Call.resultKey (call : Call) : String :=
  Statement.resultKey ⟨call.sql, call.arguments⟩ call.space

/-- The call that fetches the rows of a query. -/
def Query.fetchCall (query : Query) : Except QueryError Call :=
  query.toSelect.map fun statement =>
    ⟨.query, statement.sql, statement.arguments, query.space⟩

namespace Query

/-- The call of a query carries its statement, its arguments and its space. -/
theorem fetchCall_eq_ok_iff {query : Query} {call : Call} :
    query.fetchCall = .ok call ↔ ∃ statement, query.toSelect = .ok statement ∧
      call = ⟨.query, statement.sql, statement.arguments, query.space⟩ := by
  unfold fetchCall
  cases query.toSelect with
  | error cause => simp [Except.map]
  | ok statement => simp [Except.map, eq_comm]

/-- A query has no call to fetch its rows iff it does not compile. -/
theorem fetchCall_eq_error_iff {query : Query} {cause : QueryError} :
    query.fetchCall = .error cause ↔ query.toSelect = .error cause := by
  unfold fetchCall
  cases query.toSelect <;> simp [Except.map]

end Query

namespace Engine

/-- The ways in which a cached read goes, with its answer and the engine after it. -/
inductive CachedRead (before : Engine) (query : Query) :
    Except ExecuteError (List Record) → Engine → Prop where
  | uncompiled {cause : QueryError} (failed : query.fetchCall = .error cause) :
      CachedRead before query (.error (.compile cause)) before
  | hit {call : Call} {entry : Entry String (List Record)} {after : Engine}
      (compiled : query.fetchCall = .ok call)
      (live : before.results.live? call.resultKey before.now = some entry)
      (session : before.observed.session.SameStore after.observed.session)
      (results : after.results = (before.results.get call.resultKey before.now).2)
      (config : after.config = before.config) :
      CachedRead before query (.ok entry.item) after
  | refused {call : Call} {text : String} {after : Engine}
      (compiled : query.fetchCall = .ok call)
      (missing : before.results.live? call.resultKey before.now = none)
      (session : before.observed.session.Called call after.observed.session)
      (refusal : (before.reply call).refusal = some text)
      (results : after.results = (before.results.get call.resultKey before.now).2)
      (config : after.config = before.config) :
      CachedRead before query (.error (.backend text)) after
  | fetched {call : Call} {after : Engine}
      (compiled : query.fetchCall = .ok call)
      (missing : before.results.live? call.resultKey before.now = none)
      (session : before.observed.session.Called call after.observed.session)
      (accepted : (before.reply call).refusal = none)
      (results : after.results = ((before.results.get call.resultKey before.now).2.put
        call.resultKey (before.reply call).rows none after.now).2)
      (config : after.config = before.config) :
      CachedRead before query (.ok (before.reply call).rows) after

/-- The engine after the lookup of a key. -/
def lookedUp (engine : Engine) (key : String) : Engine :=
  let (_, events, looked) := engine.resultSession.get key
  let after : Engine := { engine with results := looked.cache }
  after.report events

/-- Looking a key up does not reach the store. -/
theorem sameStore_lookedUp (engine : Engine) (key : String) :
    engine.observed.session.SameStore (engine.lookedUp key).observed.session := ⟨rfl, rfl, rfl⟩

/-- A live entry is the answer, and only the hit is reported. -/
theorem getCached_of_live {query : Query} {statement : Statement} {engine : Engine}
    {entry : Entry String (List Record)} (compiled : query.toSelect = .ok statement)
    (live : engine.results.live? (statement.resultKey query.space) engine.now = some entry) :
    engine.getCached query =
      (.ok entry.item, (engine.lookedUp (statement.resultKey query.space)).report
        [.resultCacheHit statement.sql]) := by
  have item := Cache.get_item? engine.results (statement.resultKey query.space) engine.now
  rw [live, Option.map_some] at item
  have found : (engine.resultSession.get (statement.resultKey query.space)).1.item? =
      some entry.item := item
  simp only [getCached, compiled, found]
  rfl

/-- Without a live entry the rows are asked for after the lookup, and stored if they come. -/
theorem getCached_of_missing {query : Query} {statement : Statement} {engine : Engine}
    (compiled : query.toSelect = .ok statement)
    (missing : engine.results.live? (statement.resultKey query.space) engine.now = none) :
    engine.getCached query =
      match query.get executor (engine.lookedUp (statement.resultKey query.space)) with
      | (.error cause, failed) => (.error cause, failed)
      | (.ok rows, fetched) =>
        (.ok rows, fetched.storeResult (statement.resultKey query.space) rows) := by
  have item := Cache.get_item? engine.results (statement.resultKey query.space) engine.now
  rw [missing, Option.map_none] at item
  have lost : (engine.resultSession.get (statement.resultKey query.space)).1.item? = none := item
  simp only [getCached, compiled, lost]
  rfl

/-- A query that compiles makes its call and answers with the rows or the refusal. -/
theorem exists_get {query : Query} {call : Call} (compiled : query.fetchCall = .ok call)
    (engine : Engine) :
    ∃ after, engine.Called call after ∧
      query.get executor engine =
        (((engine.reply call).outcome.mapError .backend).map Reply.rows, after) := by
  obtain ⟨statement, select, rfl⟩ := Query.fetchCall_eq_ok_iff.1 compiled
  obtain ⟨answer, called⟩ := engine.perform_ok .query .query statement query.space Reply.rows
  rw [Query.get, select]
  exact ⟨_, called, Prod.ext answer rfl⟩

/-- A cached read goes one of the ways of `CachedRead`. -/
theorem getCached_cases (engine : Engine) (query : Query) :
    engine.CachedRead query (engine.getCached query).1 (engine.getCached query).2 := by
  cases compiled : query.toSelect with
  | error cause =>
    rw [getCached, compiled]
    exact .uncompiled (Query.fetchCall_eq_error_iff.2 compiled)
  | ok statement =>
    have fetchCall : query.fetchCall =
        .ok ⟨.query, statement.sql, statement.arguments, query.space⟩ :=
      Query.fetchCall_eq_ok_iff.2 ⟨statement, compiled, rfl⟩
    have looked := engine.sameStore_lookedUp (statement.resultKey query.space)
    cases live : engine.results.live? (statement.resultKey query.space) engine.now with
    | some entry =>
      rw [getCached_of_live compiled live]
      exact .hit fetchCall live (looked.trans (Session.sameStore_report _ _)) rfl rfl
    | none =>
      obtain ⟨after, called, got⟩ :=
        exists_get fetchCall (engine.lookedUp (statement.resultKey query.space))
      rw [getCached_of_missing compiled live, got,
        show (engine.lookedUp _).reply _ = engine.reply _ from looked.reply _]
      have session := called.session.between looked (.refl _)
      cases refusal :
          (engine.reply ⟨.query, statement.sql, statement.arguments, query.space⟩).refusal with
      | some text =>
        rw [Reply.outcome, refusal]
        exact .refused fetchCall live session refusal called.results called.config
      | none =>
        rw [Reply.outcome, refusal]
        refine .fetched fetchCall live
          (session.between (.refl _) (Session.sameStore_report _ _)) refusal ?_ called.config
        show (after.results.put _ _ _ _).2 = _
        rw [called.results]
        rfl

end Engine

/-! ### Commands -/

/-- A command to an engine: a cached read, an operation that ends a query, or what
passes between them. -/
inductive EngineCommand where
  | getCached (query : Query)
  | get (query : Query)
  | first (query : Query)
  | count (query : Query)
  | stream (query : Query)
  | update (query : Query) (values : List (String × Value))
  | delete (query : Query)
  | invalidateResults
  | advance (span : Duration)

/-- The answer to a command. -/
inductive EngineAnswer where
  | done
  | rows (answer : Except ExecuteError (List Record))
  | row (answer : Except ExecuteError (Option Record))
  | number (answer : Except ExecuteError Nat)

/-- A command as it was carried out. -/
structure EngineStep where
  before : Engine
  command : EngineCommand
  answer : EngineAnswer
  after : Engine

/-- The calls that reached the store in a step. -/
def EngineStep.calls (step : EngineStep) : List Call :=
  step.after.calls.drop step.before.calls.length

namespace Engine

/-- Carries out a command. -/
def step (engine : Engine) : EngineCommand → EngineAnswer × Engine
  | .getCached query => (engine.getCached query).map .rows id
  | .get query => (query.get executor engine).map .rows id
  | .first query => (query.first executor engine).map .row id
  | .count query => (query.count executor engine).map .number id
  | .stream query => (query.stream executor engine).map .rows id
  | .update query values => (query.update executor values engine).map .number id
  | .delete query => (query.delete executor engine).map .number id
  | .invalidateResults => (.done, engine.invalidateResults)
  | .advance span => (.done, { engine with observed := engine.observed.advance span })

/-- A command and what came of it. -/
def carryOut (engine : Engine) (command : EngineCommand) : EngineStep :=
  ⟨engine, command, (engine.step command).1, (engine.step command).2⟩

/-- The engine after a list of commands. -/
def run (engine : Engine) : List EngineCommand → Engine
  | [] => engine
  | command :: rest => (engine.step command).2.run rest

/-- The steps of a run, first to last. -/
def history (engine : Engine) : List EngineCommand → List EngineStep
  | [] => []
  | command :: rest => engine.carryOut command :: (engine.step command).2.history rest

/-- A command does a cached read, forgets all results or leaves the cache of results
alone. -/
theorem step_cases (engine : Engine) (command : EngineCommand) :
    (∃ query, command = .getCached query) ∨ command = .invalidateResults ∨
      ((∀ query, command ≠ .getCached query) ∧ command ≠ .invalidateResults ∧
        engine.Spares (engine.step command).2) := by
  cases command with
  | getCached query => exact .inl ⟨query, rfl⟩
  | invalidateResults => exact .inr (.inl rfl)
  | advance span => exact .inr (.inr ⟨nofun, nofun, rfl, rfl, Nat.le_add_right _ _⟩)
  | get | first | count | stream | update | delete =>
    exact .inr (.inr ⟨nofun, nofun, perform_spares ..⟩)

end Engine

end QueryKit
