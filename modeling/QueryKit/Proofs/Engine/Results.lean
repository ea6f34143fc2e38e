import QueryKit.Proofs.Cache.Coherence
import QueryKit.Proofs.Engine.Run

/-!
# Where cached results come from

A cached read may answer without the store, so what it answers is told from the past of
the run: from the fetches, which are the cached reads that did call the store and got
rows. They are read off commands, answers, calls and the clock, and not off the cache.
`Traced` ties the table of the cache to them and is kept by every command. The counters
of the cache are tallied against the history in the same way.
-/

namespace QueryKit

/-! ### Fetches -/

/-- Rows that a cached read fetched from the store. -/
structure Fetch where
  call : Call
  rows : List Record
  /-- When the read ended, which is when the rows were stored. -/
  time : Instant

/-- The fetch of a step: a cached read that made one call and was answered with rows. -/
def EngineStep.fetch? (step : EngineStep) : Option Fetch :=
  match step.command, step.answer, step.calls with
  | .getCached _, .rows (.ok rows), [call] => some ⟨call, rows, step.after.now⟩
  | _, _, _ => none

/-- The fetches that count after a step, latest first: forgetting the results forgets
them all. -/
def EngineStep.fetchesAfter (earlier : List Fetch) (step : EngineStep) : List Fetch :=
  match step.command with
  | .invalidateResults => []
  | _ => step.fetch?.toList ++ earlier

/-- The fetches since the results were last forgotten, latest first. -/
def fetches (history : List EngineStep) : List Fetch :=
  history.foldl EngineStep.fetchesAfter []

/-- The latest of the fetches with a key. -/
def latestFetch? (fetches : List Fetch) (key : String) : Option Fetch :=
  fetches.find? fun fetch => fetch.call.resultKey = key

/-- Whether a step is a cached read of a query that compiles. -/
def EngineStep.isLookup (step : EngineStep) : Bool :=
  match step.command with
  | .getCached query => query.toSelect.isOk
  | _ => false

/-- The calls that cached reads made. -/
def EngineStep.cachedCalls (step : EngineStep) : List Call :=
  match step.command with
  | .getCached _ => step.calls
  | _ => []

namespace EngineStep

variable {before after : Engine} {command : EngineCommand} {answer : EngineAnswer}

/-- A step that leaves the store alone made no call. -/
theorem calls_of_sameStore
    (same : before.observed.session.SameStore after.observed.session) :
    (⟨before, command, answer, after⟩ : EngineStep).calls = [] := by
  show after.calls.drop before.calls.length = []
  rw [Engine.calls, Engine.calls, same.calls, List.drop_length]

/-- A step that called the store once made that call. -/
theorem calls_of_called {call : Call}
    (called : before.observed.session.Called call after.observed.session) :
    (⟨before, command, answer, after⟩ : EngineStep).calls = [call] := by
  show after.calls.drop before.calls.length = [call]
  rw [Engine.calls, Engine.calls, called.calls, List.drop_left]

/-- A cached read adds its own fetch. -/
theorem fetchesAfter_getCached (earlier : List Fetch) (query : Query) :
    fetchesAfter earlier ⟨before, .getCached query, answer, after⟩ =
      (⟨before, .getCached query, answer, after⟩ : EngineStep).fetch?.toList ++ earlier := rfl

/-- A read that makes no call fetches nothing. -/
theorem fetch?_of_sameStore {query : Query} {rows : List Record}
    (same : before.observed.session.SameStore after.observed.session) :
    (⟨before, .getCached query, .rows (.ok rows), after⟩ : EngineStep).fetch? = none := by
  simp only [fetch?, calls_of_sameStore same]

/-- A cached read that made a call fetched the rows it answers with. -/
theorem fetch?_of_called {query : Query} {rows : List Record}
    {call : Call} (called : before.observed.session.Called call after.observed.session) :
    (⟨before, .getCached query, .rows (.ok rows), after⟩ : EngineStep).fetch? =
      some ⟨call, rows, after.now⟩ := by
  simp only [fetch?, calls_of_called called]

end EngineStep

/-! ### Life spans -/

/-- The first number of nanoseconds that is too late for an instant of the clock. -/
def Instant.limit : Nat := 0x8000_0000_0000_0000 * 1_000_000_000

/-- A live entry is no older than its life span. -/
theorem Entry.age_le_of_live {Key Item : Type} {entry : Entry Key Item} {span : Duration}
    {now : Instant} (ttl : entry.ttl = some span) (live : entry.isExpired now = false)
    (inRange : now.nanoseconds < Instant.limit) : now.since entry.createdAt ≤ span := by
  have ends : now.nanoseconds ≤ entry.createdAt.nanoseconds + span.nanoseconds := by
    simp only [isExpired, expiresAt, ttl, Option.bind_some, Instant.plus?] at live
    split at live
    · next last sum =>
      split at sum
      · cases sum
        exact Nat.le_of_not_lt (of_decide_eq_false live)
      · cases sum
    · next sum =>
      split at sum
      · cases sum
      · simp only [Instant.limit] at inRange
        omega
  show min (now.nanoseconds - entry.createdAt.nanoseconds) _ ≤ span.nanoseconds
  omega

namespace Engine

/-! ### Tracing the table -/

/-- Every stored result is the latest fetch of its key, with the life span of the
configuration. -/
structure Traced (engine : Engine) (fetches : List Fetch) : Prop where
  formed : engine.results.WellFormed
  life : engine.results.config.defaultTtl = engine.config.cache.defaultTtl
  past : ∀ fetch ∈ fetches, fetch.time ≤ engine.now
  origin : ∀ key entry, engine.results.find? key = some entry →
    entry.ttl = engine.config.cache.defaultTtl ∧
    ∃ fetch, latestFetch? fetches key = some fetch ∧
      fetch.rows = entry.item ∧ fetch.time = entry.createdAt

variable {before after : Engine} {fetches : List Fetch}

/-- A new engine is traced by no fetch, since it has stored no result. -/
theorem traced_new (session : Session) (optimizer : Optimizer) (config : EngineConfig) :
    (Engine.new session optimizer config).Traced [] where
  formed := .new config.cache
  life := rfl
  past := nofun
  origin := fun _ _ found => by cases found

/-- What leaves the cache of results alone leaves its entries traced. -/
theorem Traced.spare (traced : before.Traced fetches) (spares : before.Spares after) :
    after.Traced fetches where
  formed := by
    rw [spares.results]
    exact traced.formed
  life := by
    rw [spares.results, spares.config]
    exact traced.life
  past := fun fetch member => Nat.le_trans (traced.past fetch member) spares.now
  origin := by
    rw [spares.results, spares.config]
    exact traced.origin

/-- Forgetting the results forgets the fetches. -/
theorem Traced.invalidate (traced : before.Traced fetches) :
    before.invalidateResults.Traced [] where
  formed := traced.formed.clear
  life := traced.life
  past := nofun
  origin := fun _ _ found => by cases found

/-- A lookup leaves its entries traced. -/
theorem Traced.lookUp (traced : before.Traced fetches) (key : String) {now : Instant}
    (results : after.results = (before.results.get key now).2)
    (config : after.config = before.config) (later : before.now ≤ after.now) :
    after.Traced fetches where
  formed := by
    rw [results]
    exact traced.formed.get key now
  life := by
    rw [results, config, Cache.get_config]
    exact traced.life
  past := fun fetch member => Nat.le_trans (traced.past fetch member) later
  origin := by
    intro other entry found
    rw [results] at found
    obtain ⟨prior, held, item, createdAt, ttl⟩ := Cache.exists_find?_of_get found
    rw [config, ← item, ← createdAt, ← ttl]
    exact traced.origin other prior held

/-- A stored result is traced to the fetch that it comes from. -/
theorem Traced.storeFetch (traced : before.Traced fetches) {call : Call} {rows : List Record}
    (results : after.results = (before.results.put call.resultKey rows none after.now).2)
    (config : after.config = before.config) (later : before.now ≤ after.now) :
    after.Traced (⟨call, rows, after.now⟩ :: fetches) where
  formed := by
    rw [results]
    exact traced.formed.put _ _ _ _
  life := by
    rw [results, config, Cache.put_config]
    exact traced.life
  past := by
    intro fetch member
    rcases List.mem_cons.1 member with rfl | earlier
    · exact Nat.le_refl _
    · exact Nat.le_trans (traced.past fetch earlier) later
  origin := by
    intro key entry found
    rw [results] at found
    by_cases same : key = call.resultKey
    · rw [same, Cache.find?_put, Option.some.injEq] at found
      subst found
      refine ⟨?_, ⟨call, rows, after.now⟩, by simp [latestFetch?, same], rfl, rfl⟩
      rw [config, ← traced.life, Option.none_or]
    · obtain ⟨ttl, fetch, latest, origin⟩ :=
        traced.origin key entry (Cache.find?_of_put same found)
      refine ⟨by rw [config, ttl], fetch, ?_, origin⟩
      rwa [latestFetch?, List.find?_cons_of_neg (by simpa using Ne.symm same)]

/-- A cached read moves the clock forward at most. -/
theorem CachedRead.now_le {query : Query} {answer : Except ExecuteError (List Record)}
    (read : before.CachedRead query answer after) : before.now ≤ after.now := by
  cases read with
  | uncompiled _ => exact Nat.le_refl _
  | hit _ _ session => exact session.now_le
  | refused _ _ session => exact session.now_le
  | fetched _ _ session => exact session.now_le

/-- A cached read keeps the table traced to the fetches, its own among them. -/
theorem Traced.read (traced : before.Traced fetches) {query : Query}
    {answer : Except ExecuteError (List Record)} (read : before.CachedRead query answer after) :
    after.Traced
      (EngineStep.fetchesAfter fetches ⟨before, .getCached query, .rows answer, after⟩) := by
  have later := read.now_le
  rw [EngineStep.fetchesAfter_getCached]
  cases read with
  | uncompiled failed => exact traced
  | hit compiled live session results config =>
    rw [EngineStep.fetch?_of_sameStore session]
    exact traced.lookUp _ results config later
  | refused compiled missing session refusal results config =>
    exact traced.lookUp _ results config later
  | @fetched call after compiled missing session accepted results config =>
    rw [EngineStep.fetch?_of_called session]
    have looked : ({ before with results := (before.results.get call.resultKey before.now).2 } :
        Engine).Traced fetches :=
      traced.lookUp _ rfl rfl (Nat.le_refl _)
    exact looked.storeFetch results config later

/-- One command keeps the table traced. -/
theorem Traced.step (traced : before.Traced fetches) (command : EngineCommand) :
    (before.step command).2.Traced
      (EngineStep.fetchesAfter fetches (before.carryOut command)) := by
  rcases before.step_cases command with ⟨query, rfl⟩ | rfl | ⟨notRead, notForgotten, spares⟩
  · exact traced.read (before.getCached_cases query)
  · exact traced.invalidate
  · have unchanged : EngineStep.fetchesAfter fetches (before.carryOut command) = fetches := by
      cases command with
      | getCached query => exact absurd rfl (notRead query)
      | invalidateResults => exact absurd rfl notForgotten
      | _ => rfl
    rw [unchanged]
    exact traced.spare spares

/-- A run keeps the table traced. -/
theorem Traced.run (traced : before.Traced fetches) (commands : List EngineCommand) :
    (before.run commands).Traced
      ((before.history commands).foldl EngineStep.fetchesAfter fetches) := by
  induction commands generalizing before fetches with
  | nil => exact traced
  | cons command rest ih => exact ih (traced.step command)

end Engine

/-! ### Counters -/

/-- Counters against a history: the lookups are the cached reads that compile, the misses
are the calls these reads made, and the stores are the fetches. -/
structure Tallied (start : CacheStats) (history : List EngineStep) (stats : CacheStats) :
    Prop where
  lookups : stats.totalRequests = start.totalRequests + history.countP EngineStep.isLookup
  misses : stats.misses = start.misses + (history.flatMap EngineStep.cachedCalls).length
  insertions : stats.insertions = start.insertions + (history.filterMap EngineStep.fetch?).length

/-- Without a step nothing is counted. -/
theorem tallied_nil (stats : CacheStats) : Tallied stats [] stats := ⟨rfl, rfl, rfl⟩

/-- Tallies of two parts of a history add up. -/
theorem Tallied.append {start middle stats : CacheStats} {first second : List EngineStep}
    (before : Tallied start first middle) (after : Tallied middle second stats) :
    Tallied start (first ++ second) stats where
  lookups := by rw [after.lookups, before.lookups, List.countP_append, Nat.add_assoc]
  misses := by
    rw [after.misses, before.misses, List.flatMap_append, List.length_append, Nat.add_assoc]
  insertions := by
    rw [after.insertions, before.insertions, List.filterMap_append, List.length_append,
      Nat.add_assoc]

/-- What one step counts, against what it shows. -/
theorem CacheStats.Counts.tallied {start stats : CacheStats} {hits misses insertions : Nat}
    (counts : start.Counts hits misses insertions stats) {step : EngineStep}
    (lookups : step.isLookup.toNat = hits + misses) (calls : step.cachedCalls.length = misses)
    (fetches : step.fetch?.toList.length = insertions) : Tallied start [step] stats where
  lookups := by
    have one : [step].countP EngineStep.isLookup = step.isLookup.toNat := by
      cases lookup : step.isLookup <;> simp [lookup]
    simp only [one, lookups, CacheStats.totalRequests, counts.hits, counts.misses]
    omega
  misses := by rw [counts.misses, ← calls, List.flatMap_singleton]
  insertions := by
    rw [counts.insertions, ← fetches]
    cases fetch : step.fetch? <;> simp [fetch]

/-- A query has a call to fetch its rows iff it compiles. -/
theorem Query.isOk_toSelect (query : Query) : query.toSelect.isOk = query.fetchCall.isOk := by
  unfold Query.fetchCall
  cases query.toSelect <;> rfl

namespace Engine

variable {before after : Engine}

/-- What a cached read counts: a hit, or a miss with one call, and a store when that call
succeeds. -/
theorem CachedRead.tallied {query : Query} {answer : Except ExecuteError (List Record)}
    (read : before.CachedRead query answer after) :
    Tallied before.results.stats [⟨before, .getCached query, .rows answer, after⟩]
      after.results.stats := by
  have lookup : (⟨before, .getCached query, .rows answer, after⟩ : EngineStep).isLookup =
      query.fetchCall.isOk := query.isOk_toSelect
  cases read with
  | uncompiled failed =>
    rw [failed] at lookup
    have none : before.results.stats.Counts 0 0 0 before.results.stats := ⟨rfl, rfl, rfl⟩
    exact none.tallied (by rw [lookup]; rfl)
      (congrArg List.length (EngineStep.calls_of_sameStore (.refl _))) rfl
  | hit compiled live session results config =>
    rw [compiled] at lookup
    rw [results]
    exact (Cache.counts_get_of_live live).tallied (by rw [lookup]; rfl)
      (congrArg List.length (EngineStep.calls_of_sameStore session))
      (by rw [EngineStep.fetch?_of_sameStore session]; rfl)
  | refused compiled missing session refusal results config =>
    rw [compiled] at lookup
    rw [results]
    exact (Cache.counts_get_of_missing missing).tallied (by rw [lookup]; rfl)
      (congrArg List.length (EngineStep.calls_of_called session)) rfl
  | fetched compiled missing session accepted results config =>
    rw [compiled] at lookup
    rw [results]
    exact (Cache.counts_get_put missing _ _ _ _).tallied (by rw [lookup]; rfl)
      (congrArg List.length (EngineStep.calls_of_called session))
      (by rw [EngineStep.fetch?_of_called session]; rfl)

/-- One command counts what it shows. -/
theorem tallied_step (engine : Engine) (command : EngineCommand) :
    Tallied engine.results.stats [engine.carryOut command]
      (engine.step command).2.results.stats := by
  rcases engine.step_cases command with ⟨query, rfl⟩ | rfl | ⟨notRead, -, spares⟩
  · exact (engine.getCached_cases query).tallied
  · exact ⟨rfl, rfl, rfl⟩
  · rw [spares.results]
    cases command with
    | getCached query => exact absurd rfl (notRead query)
    | _ => exact ⟨rfl, rfl, rfl⟩

/-- The counters of a run tally with its history. -/
theorem tallied_run (engine : Engine) (commands : List EngineCommand) :
    Tallied engine.results.stats (engine.history commands)
      (engine.run commands).results.stats := by
  induction commands generalizing engine with
  | nil => exact tallied_nil _
  | cons command rest ih => exact (engine.tallied_step command).append (ih _)

/-! ### What a cached read owes -/

/-- What a cached read owes its caller, given the fetches that count, latest first. -/
inductive ReadFrom (before : Engine) (fetches : List Fetch) (query : Query) :
    Except ExecuteError (List Record) → Engine → Prop where
  /-- A query that does not compile fails with its cause and changes nothing at all. -/
  | uncompiled {cause : QueryError} (failed : query.toSelect = .error cause) :
      ReadFrom before fetches query (.error (.compile cause)) before
  /-- A live key makes no call: one hit is counted, and the rows are those of the latest
  fetch of that key, which is no older than the default life span while the clock is in
  its range. No stored rows change. -/
  | hit {call : Call} {fetch : Fetch} {after : Engine}
      (compiled : query.fetchCall = .ok call)
      (live : before.results.contains call.resultKey before.now = true)
      (latest : latestFetch? fetches call.resultKey = some fetch)
      (past : fetch.time ≤ before.now)
      (fresh : ∀ span, before.config.cache.defaultTtl = some span →
        before.now.nanoseconds < Instant.limit → before.now.since fetch.time ≤ span)
      (calls : after.calls = before.calls)
      (counts : before.results.stats.Counts 1 0 0 after.results.stats)
      (kept : ∀ key, (after.results.find? key).map Entry.item =
        (before.results.find? key).map Entry.item) :
      ReadFrom before fetches query (.ok fetch.rows) after
  /-- A key that is not live makes the call of the query and counts one miss. When the
  store refuses it, the text of the refusal is the error and at most an expired entry of
  the key is dropped. -/
  | refused {call : Call} {text : String} {after : Engine}
      (compiled : query.fetchCall = .ok call)
      (missing : before.results.contains call.resultKey before.now = false)
      (calls : after.calls = before.calls ++ [call])
      (refusal : (before.reply call).refusal = some text)
      (counts : before.results.stats.Counts 0 1 0 after.results.stats)
      (kept : after.results.entries = before.results.entries.filter fun entry =>
        !(entry.key = call.resultKey && entry.isExpired before.now)) :
      ReadFrom before fetches query (.error (.backend text)) after
  /-- When the store accepts it, its rows are the answer and are stored under the key, beside
  results that were stored before. -/
  | fetched {call : Call} {after : Engine}
      (compiled : query.fetchCall = .ok call)
      (missing : before.results.contains call.resultKey before.now = false)
      (calls : after.calls = before.calls ++ [call])
      (accepted : (before.reply call).refusal = none)
      (counts : before.results.stats.Counts 0 1 1 after.results.stats)
      (stored : after.results.find? call.resultKey = some
        ⟨call.resultKey, (before.reply call).rows, after.now, before.config.cache.defaultTtl, 0,
          after.now⟩)
      (kept : ∀ key entry, key ≠ call.resultKey → after.results.find? key = some entry →
        before.results.find? key = some entry) :
      ReadFrom before fetches query (.ok (before.reply call).rows) after

variable {fetches : List Fetch}

/-- A missing key leaves only its expired entry to be dropped. -/
theorem Traced.without_of_missing (traced : before.Traced fetches) {key : String} {now : Instant}
    (missing : before.results.live? key now = none) :
    Cache.without key before.results.entries = before.results.entries.filter fun entry =>
      !(entry.key = key && entry.isExpired now) := by
  refine List.filter_congr fun entry member => ?_
  by_cases same : entry.key = key
  · have found := Cache.find?_of_mem traced.formed.coherent.distinct member
    rw [same] at found
    cases expired : entry.isExpired now with
    | true => simp [same]
    | false => simp [Cache.live?_eq_some_iff.2 ⟨found, expired⟩] at missing
  · simp [same]

/-- A cached read of a traced engine answers from its fetches or from the store. -/
theorem Traced.readFrom (traced : before.Traced fetches) {query : Query}
    {answer : Except ExecuteError (List Record)} (read : before.CachedRead query answer after) :
    before.ReadFrom fetches query answer after := by
  cases read with
  | uncompiled failed => exact .uncompiled (Query.fetchCall_eq_error_iff.1 failed)
  | @hit call entry _ compiled live session results config =>
    obtain ⟨found, valid⟩ := Cache.live?_eq_some_iff.1 live
    obtain ⟨ttl, fetch, latest, rows, time⟩ := traced.origin _ _ found
    rw [← rows]
    refine .hit compiled ?_ latest ?_ ?_ session.calls ?_ ?_
    · rw [Cache.contains_eq, live, Option.isSome_some]
    · exact traced.past fetch (List.mem_of_find?_eq_some latest)
    · intro span life inRange
      rw [time]
      exact Entry.age_le_of_live (ttl.trans life) valid inRange
    · rw [results]
      exact Cache.counts_get_of_live live
    · rw [results]
      exact fun key => Cache.item_find?_get_of_live live key
  | refused compiled missing session refusal results config =>
    refine .refused compiled ?_ session.calls refusal ?_ ?_
    · rw [Cache.contains_eq, missing, Option.isSome_none]
    · rw [results]
      exact Cache.counts_get_of_missing missing
    · rw [results, (Cache.get_of_missing missing).1, traced.without_of_missing missing]
  | fetched compiled missing session accepted results config =>
    refine .fetched compiled ?_ session.calls accepted ?_ ?_ ?_
    · rw [Cache.contains_eq, missing, Option.isSome_none]
    · rw [results]
      exact Cache.counts_get_put missing _ _ _ _
    · rw [results, Cache.find?_put, Cache.get_config, traced.life, Option.none_or]
    · intro key entry different found
      rw [results] at found
      have looked := Cache.find?_of_put different found
      rw [Cache.find?_without (Cache.get_of_missing missing).1, if_neg different] at looked
      exact looked

/-- In every run of an engine, whatever its configuration and its store, a cached read
either fails to compile and changes nothing, or looks its key up once: a live key is
answered without a call by the rows of the latest fetch of that key since the results
were last forgotten, and any other makes the call of the query and stores its rows when
the store accepts it. So the hits and misses together are the cached reads that
compiled, the misses are the calls they made, and the stores are their fetches. -/
theorem cached_reads_in_run (session : Session) (optimizer : Optimizer) (config : EngineConfig)
    (commands : List EngineCommand) :
    let engine := (Engine.new session optimizer config).run commands
    let history := (Engine.new session optimizer config).history commands
    (∀ query, engine.ReadFrom (QueryKit.fetches history) query (engine.getCached query).1
      (engine.getCached query).2) ∧
    engine.results.stats.hits + engine.results.stats.misses =
      history.countP EngineStep.isLookup ∧
    engine.results.stats.misses = (history.flatMap EngineStep.cachedCalls).length ∧
    engine.results.stats.insertions = (history.filterMap EngineStep.fetch?).length := by
  intro engine history
  have traced : engine.Traced (QueryKit.fetches history) :=
    (traced_new session optimizer config).run commands
  have tallied : Tallied CacheStats.zero history engine.results.stats :=
    tallied_run (Engine.new session optimizer config) commands
  refine ⟨fun query => traced.readFrom (engine.getCached_cases query), ?_, ?_, ?_⟩
  · exact tallied.lookups.trans (Nat.zero_add _)
  · exact tallied.misses.trans (Nat.zero_add _)
  · exact tallied.insertions.trans (Nat.zero_add _)

end Engine

end QueryKit
