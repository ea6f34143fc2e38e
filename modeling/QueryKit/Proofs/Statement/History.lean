import Mathlib.Data.List.Dedup
import QueryKit.Proofs.Statement.Acquire

/-!
# What cached statements tell of the past

A run of requests to a statement cache is kept as its steps. Whether a step is a hit or a
miss on a text is read off the counters of the cache around it, and not off the statements.
`Told` ties the statements to the steps so far: their order is that of the last requests
for their texts, and each of them records the last miss on its text and the hits since.
Whether a statement is valid changes with the clock alone, so none of this mentions it.
-/

namespace QueryKit

/-! ### Requests -/

/-- A request to a statement cache: a command, or a question, which changes nothing. -/
inductive StatementRequest where
  | command (command : StatementCommand)
  | contains (sql : String)
  | peek (sql : String)
  | mostUsed (limit : Nat)

/-- The text whose statement is asked for. -/
def StatementRequest.asked? : StatementRequest → Option String
  | .command (.acquire sql) => some sql
  | _ => none

/-- The reply to a request. -/
inductive StatementReply where
  | answer (answer : StatementAnswer) (events : List Event)
  | contained (valid : Bool)
  | peeked (statement : Option CachedStatement)
  | listed (statements : List CachedStatement)

/-- A request with its reply and the sessions around it. -/
structure StatementStep where
  before : StatementSession
  request : StatementRequest
  reply : StatementReply
  after : StatementSession

namespace StatementStep

/-- The text whose statement is asked for. -/
def asked? (step : StatementStep) : Option String := step.request.asked?

/-- Whether the statement of a text is asked for and a hit is counted. -/
def isHit (sql : String) (step : StatementStep) : Bool :=
  step.asked? = some sql && step.after.cache.hits = step.before.cache.hits + 1

/-- Whether the statement of a text is asked for and a miss is counted. -/
def isMiss (sql : String) (step : StatementStep) : Bool :=
  step.asked? = some sql && step.after.cache.misses = step.before.cache.misses + 1

/-- The time of a step. -/
def time (step : StatementStep) : Instant := step.before.now

end StatementStep

/-- The texts that were asked for, each once, in the order of the last requests for them. -/
def lastAsked (history : List StatementStep) : List String :=
  (history.filterMap StatementStep.asked?).dedup

namespace StatementSession

/-- A session that begins with an empty cache. -/
def start (config : StatementConfig) (clock : Clock) : StatementSession := ⟨clock, .new config⟩

/-- Serves a request. -/
def serve (session : StatementSession) : StatementRequest → StatementReply × StatementSession
  | .command command =>
    let (answer, events, after) := session.step command
    (.answer answer events, after)
  | .contains sql => (.contained (session.cache.contains sql session.now), session)
  | .peek sql => (.peeked (session.cache.peek sql), session)
  | .mostUsed limit => (.listed (session.cache.mostUsed limit), session)

/-- A served request as a step. -/
def serveStep (session : StatementSession) (request : StatementRequest) : StatementStep :=
  ⟨session, request, (session.serve request).1, (session.serve request).2⟩

/-- The session after a list of requests. -/
def serveAll (session : StatementSession) : List StatementRequest → StatementSession
  | [] => session
  | request :: rest => (session.serve request).2.serveAll rest

/-- The steps of a run, first to last. -/
def history (session : StatementSession) : List StatementRequest → List StatementStep
  | [] => []
  | request :: rest => session.serveStep request :: (session.serve request).2.history rest

/-- A request obtains the statement of a text, or at most gives up statements. -/
theorem serve_cases (session : StatementSession) (formed : session.cache.WellFormed)
    (request : StatementRequest) :
    (∃ sql acquired, request = .command (.acquire sql) ∧
      (session.serve request).1 = .answer (.acquired acquired) acquired.events ∧
      session.cache.Acquires sql session.now acquired (session.serve request).2.cache) ∨
    (request.asked? = none ∧
      (session.serve request).2.cache.statements.Sublist session.cache.statements ∧
      (session.serve request).2.cache.config = session.cache.config) := by
  cases request with
  | command command =>
    cases command with
    | acquire sql => exact .inl ⟨sql, _, rfl, rfl, formed.acquire sql session.now⟩
    | remove sql => exact .inr ⟨rfl, List.filter_sublist, rfl⟩
    | clear => exact .inr ⟨rfl, List.nil_sublist _, rfl⟩
    | cleanup => exact .inr ⟨rfl, List.filter_sublist, rfl⟩
    | advance span => exact .inr ⟨rfl, .refl _, rfl⟩
  | contains sql => exact .inr ⟨rfl, .refl _, rfl⟩
  | peek sql => exact .inr ⟨rfl, .refl _, rfl⟩
  | mostUsed limit => exact .inr ⟨rfl, .refl _, rfl⟩

end StatementSession

/-! ### Records -/

namespace CachedStatement

/-- A statement records the last miss on its text and the hits since. -/
structure Records (statement : CachedStatement) (miss : StatementStep)
    (later : List StatementStep) : Prop where
  missed : miss.isMiss statement.sql = true
  last : ∀ step ∈ later, step.isMiss statement.sql = false
  createdAt : statement.createdAt = miss.time
  useCount : statement.useCount = 1 + (later.filter (StatementStep.isHit statement.sql)).length
  lastUsedAt : statement.lastUsedAt =
    (later.filter (StatementStep.isHit statement.sql)).getLast?.map StatementStep.time

/-- A statement records a history through one of its steps. -/
def RecordsIn (statement : CachedStatement) (history : List StatementStep) : Prop :=
  ∃ earlier miss later, history = earlier ++ miss :: later ∧ statement.Records miss later

variable {statement : CachedStatement} {past : List StatementStep} {step : StatementStep}

/-- A step that does not ask for the text of a statement leaves its record as it is. -/
theorem RecordsIn.spare (recorded : statement.RecordsIn past)
    (other : step.asked? ≠ some statement.sql) : statement.RecordsIn (past ++ [step]) := by
  obtain ⟨earlier, miss, later, rfl, records⟩ := recorded
  have noHit : step.isHit statement.sql = false := by simp [StatementStep.isHit, other]
  have noMiss : step.isMiss statement.sql = false := by simp [StatementStep.isMiss, other]
  have sameHits : (later ++ [step]).filter (StatementStep.isHit statement.sql) =
      later.filter (StatementStep.isHit statement.sql) := by
    rw [List.filter_append, List.filter_singleton, noHit]
    exact List.append_nil _
  refine ⟨earlier, miss, later ++ [step], by simp, records.missed, ?_, records.createdAt, ?_, ?_⟩
  · exact List.forall_mem_append.2 ⟨records.last, List.forall_mem_singleton.2 noMiss⟩
  · rw [sameHits]
    exact records.useCount
  · rw [sameHits]
    exact records.lastUsedAt

/-- A hit on the text of a statement is recorded as its last use. -/
theorem RecordsIn.use (recorded : statement.RecordsIn past)
    (hit : step.isHit statement.sql = true) (noMiss : step.isMiss statement.sql = false) :
    (statement.use step.time).RecordsIn (past ++ [step]) := by
  obtain ⟨earlier, miss, later, rfl, records⟩ := recorded
  have moreHits : (later ++ [step]).filter (StatementStep.isHit statement.sql) =
      later.filter (StatementStep.isHit statement.sql) ++ [step] := by
    rw [List.filter_append, List.filter_singleton, hit]
    rfl
  refine ⟨earlier, miss, later ++ [step], by simp, records.missed, ?_, records.createdAt, ?_, ?_⟩
  · exact List.forall_mem_append.2 ⟨records.last, List.forall_mem_singleton.2 noMiss⟩
  · show statement.useCount + 1 =
      1 + ((later ++ [step]).filter (StatementStep.isHit statement.sql)).length
    rw [moreHits, List.length_append, List.length_singleton, records.useCount, Nat.add_assoc]
  · show some step.time =
      ((later ++ [step]).filter (StatementStep.isHit statement.sql)).getLast?.map _
    rw [moreHits, List.getLast?_concat, Option.map_some]

/-- A miss on a text is recorded by the statement that it makes. -/
theorem recordsIn_fresh {sql : String} (missed : step.isMiss sql = true) :
    (fresh sql step.time).RecordsIn (past ++ [step]) :=
  ⟨past, step, [], rfl, missed, List.forall_mem_nil _, rfl, rfl, rfl⟩

end CachedStatement

/-! ### The history of a cache -/

/-- A text that is asked for once more comes last. -/
theorem dedup_concat (texts : List String) (sql : String) :
    (texts ++ [sql]).dedup = texts.dedup.filter (fun text => text ≠ sql) ++ [sql] := by
  induction texts with
  | nil => rfl
  | cons text rest ih =>
    rw [List.cons_append]
    by_cases again : text ∈ rest
    · rw [List.dedup_cons_of_mem again, List.dedup_cons_of_mem (List.mem_append_left _ again), ih]
    · rw [List.dedup_cons_of_notMem again, List.filter_cons]
      by_cases same : text = sql
      · rw [List.dedup_cons_of_mem (by simp [same]), ih, if_neg (by simpa using same)]
      · rw [List.dedup_cons_of_notMem (by simp [again, same]), ih, if_pos (by simpa using same)]
        rfl

/-- The statements of a cache tell of the steps so far: they are ordered by the last requests
for their texts, and record the misses and hits on them. -/
structure StatementCache.Told (cache : StatementCache) (past : List StatementStep) : Prop where
  formed : cache.WellFormed
  ordered : (cache.statements.map CachedStatement.sql).Sublist (lastAsked past)
  recorded : ∀ statement ∈ cache.statements, statement.RecordsIn past

namespace StatementSession

variable {session : StatementSession} {past : List StatementStep}

/-- Obtaining a statement is told. -/
theorem told_of_acquires (told : session.cache.Told past) (step : StatementStep)
    (before : step.before = session) {sql : String} (asks : step.asked? = some sql)
    {acquired : Acquired}
    (acquires : session.cache.Acquires sql session.now acquired step.after.cache) :
    step.after.cache.Told (past ++ [step]) := by
  obtain ⟨kept, others, listed⟩ := acquires.exists_kept
  have keptBefore : ∀ statement ∈ kept, statement ∈ session.cache.statements ∧
      statement.sql ≠ sql := fun statement member =>
    StatementCache.mem_without.1 (others.subset member)
  refine ⟨acquires.wellFormed told.formed, ?_, ?_⟩
  · -- The text moves behind all others last asked for, as its statement does in the cache.
    have askedNow : lastAsked (past ++ [step]) =
        (lastAsked past).filter (fun text => text ≠ sql) ++ [sql] := by
      rw [lastAsked, List.filterMap_append, List.filterMap_cons_some asks, List.filterMap_nil,
        dedup_concat, lastAsked]
    have unasked : (kept.map CachedStatement.sql).filter (fun text => text ≠ sql) =
        kept.map CachedStatement.sql := by
      refine List.filter_eq_self.2 fun text member => ?_
      obtain ⟨statement, inKept, rfl⟩ := List.mem_map.1 member
      simpa using (keptBefore statement inKept).2
    rw [askedNow, listed, List.map_append, List.map_singleton, acquires.statement_sql, ← unasked]
    have order := ((others.trans List.filter_sublist).map CachedStatement.sql).trans told.ordered
    exact (order.filter _).append (.refl _)
  · intro statement member
    rw [listed] at member
    rcases List.mem_append.1 member with inKept | atBack
    · obtain ⟨inCache, otherText⟩ := keptBefore statement inKept
      apply (told.recorded statement inCache).spare
      rw [asks]
      exact fun same => otherText (Option.some.inj same).symm
    · rw [List.mem_singleton.1 atBack]
      have time : step.time = session.now := by rw [StatementStep.time, before]
      rcases acquires.made_or_used with ⟨old, inCache, text, used, hits, misses⟩ |
        ⟨made, hits, misses⟩
      · rw [used, ← time]
        apply (told.recorded old inCache).use
        · simp [StatementStep.isHit, asks, text, before, hits]
        · simp [StatementStep.isMiss, asks, text, before, misses]
      · rw [made, ← time]
        apply CachedStatement.recordsIn_fresh
        simp [StatementStep.isMiss, asks, before, misses]

/-- One request is told. -/
theorem told_serve (told : session.cache.Told past) (request : StatementRequest) :
    (session.serve request).2.cache.Told (past ++ [session.serveStep request]) := by
  rcases session.serve_cases told.formed request with
    ⟨sql, acquired, rfl, -, acquires⟩ | ⟨unasked, fewer, config⟩
  · exact told_of_acquires told (session.serveStep (.command (.acquire sql))) rfl rfl acquires
  · have silent : (session.serveStep request).asked? = none := unasked
    refine ⟨told.formed.shrink fewer config, ?_, ?_⟩
    · rw [lastAsked, List.filterMap_append, List.filterMap_cons_none silent, List.filterMap_nil,
        List.append_nil]
      exact (fewer.map _).trans told.ordered
    · intro statement member
      apply (told.recorded statement (fewer.subset member)).spare
      rw [silent]
      exact nofun

/-- A run is told. -/
theorem told_serveAll (told : session.cache.Told past) (requests : List StatementRequest) :
    (session.serveAll requests).cache.Told (past ++ session.history requests) := by
  induction requests generalizing session past with
  | nil => simpa [history, serveAll] using told
  | cons request rest ih =>
    have whole := ih (told_serve told request)
    rwa [List.append_assoc, List.singleton_append] at whole

/-- An empty history tells of an empty cache. -/
theorem told_start (config : StatementConfig) (clock : Clock) :
    (start config clock).cache.Told [] where
  formed := StatementCache.wellFormed_new config
  ordered := List.nil_sublist _
  recorded := List.forall_mem_nil _

/-- No request changes the configuration. -/
theorem config_serveAll (formed : session.cache.WellFormed) (requests : List StatementRequest) :
    (session.serveAll requests).cache.config = session.cache.config := by
  induction requests generalizing session with
  | nil => rfl
  | cons request rest ih =>
    rcases session.serve_cases formed request with
      ⟨sql, acquired, -, -, acquires⟩ | ⟨-, fewer, config⟩
    · rw [serveAll, ih (acquires.wellFormed formed), acquires.config]
    · rw [serveAll, ih (formed.shrink fewer config), config]

/-- In every state that a run reaches, the statements have distinct texts, stand in the order
of the last requests for them, least recent first, and are within the size. Each one was made
at the last miss on its text, and has been used by that and by the hits since. Asking for a
text goes one of the four ways of `Acquires`, and counts a hit exactly if the text was said to
have a valid statement just before. A cleanup gives up exactly the statements whose text has
no valid one, and leaves everything else as it is. -/
theorem statements_follow_requests (config : StatementConfig) (clock : Clock)
    (requests : List StatementRequest) :
    let session := (start config clock).serveAll requests
    let history := (start config clock).history requests
    let cache := session.cache
    let texts := cache.statements.map CachedStatement.sql
    let valid := cache.statements.filter fun statement => cache.contains statement.sql session.now
    let stale := cache.statements.filter fun statement => !cache.contains statement.sql session.now
    texts.Nodup ∧ texts.Sublist (lastAsked history) ∧
    cache.size ≤ max 1 config.maxSize ∧
    cache.config = { config with maxSize := max 1 config.maxSize } ∧
    (∀ statement ∈ cache.statements, statement.RecordsIn history) ∧
    (∀ sql, ∃ acquired after,
      session.serve (.command (.acquire sql)) =
        (.answer (.acquired acquired) acquired.events, { session with cache := after }) ∧
      cache.Acquires sql session.now acquired after ∧
      (after.hits = cache.hits + 1 ↔ (session.serve (.contains sql)).1 = .contained true)) ∧
    session.serve (.command .cleanup) =
      (.answer (.count stale.length) (StatementCache.cleanupEvents stale.length),
        { session with cache := { cache with statements := valid } }) := by
  intro session history cache texts valid stale
  have told : cache.Told history := told_serveAll (told_start config clock) requests
  have settings : cache.config = { config with maxSize := max 1 config.maxSize } := by
    rw [Nat.max_comm]
    exact config_serveAll (told_start config clock).formed requests
  refine ⟨told.formed.distinct, told.ordered, ?_, settings, told.recorded, ?_, ?_⟩
  · have bounded := told.formed.bounded
    rwa [settings] at bounded
  · intro sql
    have acquires := told.formed.acquire sql session.now
    refine ⟨_, _, rfl, acquires, acquires.hits_iff.trans ?_⟩
    exact ⟨fun valid => congrArg StatementReply.contained valid, StatementReply.contained.inj⟩
  · have cleaned := told.formed.cleanup session.now
    show (StatementReply.answer (.count (cache.cleanup session.now).1)
        (StatementCache.cleanupEvents (cache.cleanup session.now).1),
      { session with cache := (cache.cleanup session.now).2 }) = _
    rw [cleaned]

end StatementSession

end QueryKit
