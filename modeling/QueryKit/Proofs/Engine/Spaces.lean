import QueryKit.Proofs.Engine.Results

/-!
# Results of different spaces

A cached result is known by one text, which begins with the space of its query and goes
on with a bar and a statement. Nothing marks where the space ends, so two spaces are told
apart only if neither goes on after the other as a key would (`Continues`). This module
proves that this is the exact condition under which no two queries of the spaces have a
key in common, that a run whose spaces meet it keeps their rows apart, and that a run
whose spaces do not can answer a query by the rows of another space.
-/

namespace QueryKit

/-- Whether a text goes on after another by a bar and the opening of a statement, as the
key of a result goes on after its space. -/
def Continues (longer shorter : String) : Prop := ∃ rest, longer = shorter ++ "|SELECT " ++ rest

/-- No text continues itself. -/
theorem Continues.ne {longer shorter : String} (continues : Continues longer shorter) :
    longer ≠ shorter := by
  obtain ⟨rest, rfl⟩ := continues
  intro same
  have length := congrArg String.length same
  have opening : "|SELECT ".length = 8 := rfl
  rw [String.length_append, String.length_append] at length
  omega

/-- A mark that occurs once in an opening shows where the opening begins: an opening that
is met some way into the text after another one is met behind it. -/
theorem eq_nil_or_append_of_opening {mark : Char} {opening gap first second : List Char}
    (once : mark ∉ opening) (same : mark :: opening ++ first = gap ++ (mark :: opening ++ second)) :
    gap = [] ∨ ∃ rest, gap = mark :: opening ++ rest := by
  rcases List.append_eq_append_iff.1 same with ⟨rest, behind, -⟩ | ⟨left, split, later⟩
  · exact .inr ⟨rest, behind⟩
  · cases gap with
    | nil => exact .inl rfl
    | cons head tail =>
      cases left with
      | nil => exact .inr ⟨[], by rw [List.append_nil, split, List.append_nil]⟩
      | cons other others =>
        -- The second opening would begin inside the first one, at a second mark.
        rw [List.cons_append, List.cons_append, List.cons.injEq] at later
        rw [List.cons_append, List.cons.injEq] at split
        have member : mark ∈ tail ++ other :: others := by simp [later.1]
        exact absurd (split.2 ▸ member) once

/-- A text continues another iff its characters do. -/
theorem continues_iff {longer shorter : String} :
    Continues longer shorter ↔
      ∃ rest, longer.toList = shorter.toList ++ ("|SELECT ".toList ++ rest) := by
  constructor
  · rintro ⟨rest, rfl⟩
    exact ⟨rest.toList, by simp⟩
  · rintro ⟨rest, same⟩
    refine ⟨String.ofList rest, String.toList_inj.1 ?_⟩
    simpa using same

/-- Two texts that one text continues are equal, or one of them continues the other. -/
theorem eq_or_continues {text left right : String} (first : Continues text left)
    (second : Continues text right) :
    left = right ∨ Continues left right ∨ Continues right left := by
  have once : '|' ∉ "SELECT ".toList := by decide
  obtain ⟨leftRest, leftText⟩ := continues_iff.1 first
  obtain ⟨rightRest, rightText⟩ := continues_iff.1 second
  rw [leftText, List.append_eq_append_iff] at rightText
  rcases rightText with ⟨gap, longer, same⟩ | ⟨gap, longer, same⟩
  · rcases eq_nil_or_append_of_opening once same with rfl | ⟨rest, rfl⟩
    · rw [List.append_nil] at longer
      exact .inl (String.toList_inj.1 longer.symm)
    · exact .inr (.inr (continues_iff.2 ⟨rest, longer⟩))
  · rcases eq_nil_or_append_of_opening once same with rfl | ⟨rest, rfl⟩
    · rw [List.append_nil] at longer
      exact .inl (String.toList_inj.1 longer)
    · exact .inr (.inl (continues_iff.2 ⟨rest, longer⟩))

/-! ### Keys -/

/-- The statement of a selection begins with its keyword. -/
theorem exists_of_toSelect {query : Query} {statement : Statement}
    (compiled : query.toSelect = .ok statement) : ∃ rest, statement.sql = "SELECT " ++ rest := by
  unfold Query.toSelect at compiled
  cases condition : query.condition.compile with
  | error cause => simp [condition, Except.map] at compiled
  | ok fragment =>
    rw [condition] at compiled
    cases compiled
    simp only [String.append_assoc]
    exact ⟨_, rfl⟩

/-- The key of a result continues the space of its query. -/
theorem continues_resultKey {query : Query} {call : Call} (compiled : query.fetchCall = .ok call) :
    Continues call.resultKey query.space := by
  obtain ⟨statement, select, rfl⟩ := Query.fetchCall_eq_ok_iff.1 compiled
  obtain ⟨rest, sql⟩ := exists_of_toSelect select
  have opening : "|SELECT " = "|" ++ "SELECT " := rfl
  simp only [Call.resultKey, Statement.resultKey, Continues, sql, opening, String.append_assoc]
  exact ⟨_, rfl⟩

/-- The call that fetches the rows of a query is made in its space. -/
theorem space_of_fetchCall {query : Query} {call : Call} (compiled : query.fetchCall = .ok call) :
    call.space = query.space := by
  obtain ⟨statement, -, rfl⟩ := Query.fetchCall_eq_ok_iff.1 compiled
  rfl

/-- Queries of one key are in one space, or one space continues the other. -/
theorem spaces_of_resultKey_eq {left right : Query} {call other : Call}
    (compiled : left.fetchCall = .ok call) (compiledOther : right.fetchCall = .ok other)
    (same : call.resultKey = other.resultKey) :
    left.space = right.space ∨ Continues left.space right.space ∨
      Continues right.space left.space :=
  eq_or_continues (continues_resultKey compiled) (same ▸ continues_resultKey compiledOther)

/-- The call for one projected field of all rows of a table. -/
theorem fetchCall_select (space table field : String) :
    ((Engine.queryIn space table).select [field]).fetchCall =
      .ok ⟨.query, "SELECT " ++ field ++ " FROM " ++ table, [], space⟩ := by
  have text : "SELECT " ++ ", ".intercalate [field] ++ " FROM " ++ table ++ "" ++ "" ++ "" ++
      ("" ++ "") = "SELECT " ++ field ++ " FROM " ++ table := by
    simp
  rw [← text]
  rfl

/-- Where a space continues another, a projection that spells out the rest of the longer
space gives two queries one key. -/
theorem exists_resultKey_eq {longer shorter : String} (continues : Continues longer shorter) :
    ∃ left right : Query, left.space = shorter ∧ right.space = longer ∧
      ∃ call other, left.fetchCall = .ok call ∧ right.fetchCall = .ok other ∧
        call.resultKey = other.resultKey := by
  obtain ⟨rest, rfl⟩ := continues
  refine ⟨(Engine.queryIn shorter "t").select [rest ++ "|SELECT *"],
    (Engine.queryIn (shorter ++ "|SELECT " ++ rest) "t").select ["*"], rfl, rfl, _, _,
    fetchCall_select .., fetchCall_select .., String.toList_inj.1 ?_⟩
  simp [Call.resultKey, Statement.resultKey]

/-! ### Rows -/

/-- A step adds its own fetch at most. -/
theorem EngineStep.mem_fetchesAfter {earlier : List Fetch} {step : EngineStep} {fetch : Fetch}
    (member : fetch ∈ EngineStep.fetchesAfter earlier step) :
    fetch ∈ earlier ∨ step.fetch? = some fetch := by
  unfold fetchesAfter at member
  split at member
  · simp at member
  · rw [List.mem_append, Option.mem_toList] at member
    exact member.symm

namespace Engine

variable {before after : Engine} {earlier : List Fetch}

/-- A cached read fetches by the call of its own query. -/
theorem CachedRead.fetchCall_of_fetch? {query : Query} {answer : Except ExecuteError (List Record)}
    (read : before.CachedRead query answer after) {fetch : Fetch}
    (fetched : (⟨before, .getCached query, .rows answer, after⟩ : EngineStep).fetch? = some fetch) :
    query.fetchCall = .ok fetch.call := by
  cases read with
  | uncompiled failed => cases fetched
  | hit compiled live session results config =>
    rw [EngineStep.fetch?_of_sameStore session] at fetched
    cases fetched
  | refused compiled missing session refusal results config => cases fetched
  | fetched compiled missing session accepted results config =>
    rw [EngineStep.fetch?_of_called session] at fetched
    cases fetched
    exact compiled

/-- The fetches of a run are calls of the queries that it reads through the cache. -/
theorem exists_of_mem_fetches (engine : Engine) (commands : List EngineCommand) {fetch : Fetch}
    (member : fetch ∈ (engine.history commands).foldl EngineStep.fetchesAfter earlier) :
    fetch ∈ earlier ∨
      ∃ query, .getCached query ∈ commands ∧ query.fetchCall = .ok fetch.call := by
  induction commands generalizing engine earlier with
  | nil => exact .inl member
  | cons command rest ih =>
    rcases ih _ member with added | ⟨query, listed, compiled⟩
    · rcases EngineStep.mem_fetchesAfter added with old | fetched
      · exact .inl old
      · cases command with
        | getCached query =>
          have compiled := (engine.getCached_cases query).fetchCall_of_fetch? fetched
          exact .inr ⟨query, List.mem_cons_self, compiled⟩
        | _ => cases fetched
    · exact .inr ⟨query, List.mem_cons_of_mem _ listed, compiled⟩

/-- The history of two parts of a run is that of the first and then of the second. -/
theorem history_append (engine : Engine) (first second : List EngineCommand) :
    engine.history (first ++ second) =
      engine.history first ++ (engine.run first).history second := by
  induction first generalizing engine with
  | nil => rfl
  | cons command rest ih => rw [List.cons_append, history, ih]; rfl

/-- The rows that a cached read answers with are those of the latest fetch of its key, be
it an earlier one or its own. -/
theorem Traced.exists_latest (traced : before.Traced earlier) {query : Query}
    {rows : List Record} (read : before.CachedRead query (.ok rows) after) :
    ∃ call fetch, query.fetchCall = .ok call ∧
      latestFetch? (EngineStep.fetchesAfter earlier
        ⟨before, .getCached query, .rows (.ok rows), after⟩) call.resultKey = some fetch ∧
      fetch.rows = rows := by
  rw [EngineStep.fetchesAfter_getCached]
  cases read with
  | hit compiled live session results config =>
    obtain ⟨found, -⟩ := Cache.live?_eq_some_iff.1 live
    obtain ⟨-, fetch, latest, origin, -⟩ := traced.origin _ _ found
    rw [EngineStep.fetch?_of_sameStore session]
    exact ⟨_, fetch, compiled, latest, origin⟩
  | @fetched call after compiled missing session accepted results config =>
    rw [EngineStep.fetch?_of_called session]
    exact ⟨call, ⟨call, _, after.now⟩, compiled, by simp [latestFetch?], rfl⟩

/-- A missing key whose call is accepted is fetched and stored. -/
theorem CachedRead.of_accepted {query : Query} {answer : Except ExecuteError (List Record)}
    (read : before.CachedRead query answer after) {call : Call}
    (compiled : query.fetchCall = .ok call)
    (missing : before.results.live? call.resultKey before.now = none)
    (accepted : (before.reply call).refusal = none) :
    answer = .ok (before.reply call).rows ∧
    before.observed.session.Called call after.observed.session ∧
    after.results = ((before.results.get call.resultKey before.now).2.put
      call.resultKey (before.reply call).rows none after.now).2 := by
  cases read with
  | uncompiled failed => cases compiled.symm.trans failed
  | hit again live =>
    cases compiled.symm.trans again
    cases missing.symm.trans live
  | refused again _ _ refusal =>
    cases compiled.symm.trans again
    cases accepted.symm.trans refusal
  | fetched again _ session _ results =>
    cases compiled.symm.trans again
    exact ⟨rfl, session, results⟩

/-- A live key is answered without a call. -/
theorem CachedRead.of_live {query : Query} {answer : Except ExecuteError (List Record)}
    (read : before.CachedRead query answer after) {call : Call} {entry : Entry String (List Record)}
    (compiled : query.fetchCall = .ok call)
    (live : before.results.live? call.resultKey before.now = some entry) :
    answer = .ok entry.item ∧ before.observed.session.SameStore after.observed.session := by
  cases read with
  | uncompiled failed => cases compiled.symm.trans failed
  | hit again held session =>
    cases compiled.symm.trans again
    cases live.symm.trans held
    exact ⟨rfl, session⟩
  | refused again missing | fetched again missing =>
    cases compiled.symm.trans again
    cases live.symm.trans missing

/-- Two reads of one key in a row: where entries live forever and the store accepts the
first call, the second read is answered by its rows and fetches nothing. -/
theorem fetches_of_shared_key (engine : Engine) {first second : Query} {call other : Call}
    (compiled : first.fetchCall = .ok call) (compiledOther : second.fetchCall = .ok other)
    (same : call.resultKey = other.resultKey)
    (missing : engine.results.live? call.resultKey engine.now = none)
    (forever : engine.results.config.defaultTtl = none)
    (accepted : (engine.reply call).refusal = none) :
    ((engine.run [.getCached first]).getCached second).1 = .ok (engine.reply call).rows ∧
    ∃ time, fetches (engine.history [.getCached first, .getCached second]) =
      [⟨call, (engine.reply call).rows, time⟩] := by
  let middle := (engine.getCached first).2
  obtain ⟨answer, called, results⟩ :=
    (engine.getCached_cases first).of_accepted compiled missing accepted
  have live : middle.results.live? other.resultKey middle.now =
      some ⟨call.resultKey, (engine.reply call).rows, middle.now, none, 0, middle.now⟩ := by
    rw [Cache.live?_eq_some_iff, results, ← same, Cache.find?_put, Cache.get_config, forever]
    exact ⟨rfl, rfl⟩
  obtain ⟨again, quiet⟩ := (middle.getCached_cases second).of_live compiledOther live
  refine ⟨again, middle.now, ?_⟩
  show EngineStep.fetchesAfter
    (EngineStep.fetchesAfter [] ⟨engine, .getCached first, .rows (engine.getCached first).1, middle⟩)
    ⟨middle, .getCached second, .rows (middle.getCached second).1,
      (middle.getCached second).2⟩ = _
  rw [answer, again, EngineStep.fetchesAfter_getCached, EngineStep.fetchesAfter_getCached,
    EngineStep.fetch?_of_sameStore quiet, EngineStep.fetch?_of_called called]
  rfl

/-- In a run where the space of a query and the spaces that were read before it do not
continue each other, a cached read of the query answers with the rows of a fetch in its
own space, the latest one of its key. -/
theorem exists_latest_in_space (session : Session) (optimizer : Optimizer)
    (config : EngineConfig) {commands : List EngineCommand} {query : Query} {rows : List Record}
    (apart : ∀ other, .getCached other ∈ commands →
      ¬ Continues other.space query.space ∧ ¬ Continues query.space other.space)
    (answered :
      (((Engine.new session optimizer config).run commands).getCached query).1 = .ok rows) :
    ∃ call fetch, query.fetchCall = .ok call ∧
      latestFetch? (fetches ((Engine.new session optimizer config).history
        (commands ++ [.getCached query]))) call.resultKey = some fetch ∧
      fetch.rows = rows ∧ fetch.call.space = query.space := by
  let start := Engine.new session optimizer config
  have traced : (start.run commands).Traced (fetches (start.history commands)) :=
    (traced_new session optimizer config).run commands
  have read := (start.run commands).getCached_cases query
  rw [answered] at read
  obtain ⟨call, fetch, compiled, latest, sameRows⟩ := traced.exists_latest read
  have extended : fetches (start.history (commands ++ [.getCached query])) =
      EngineStep.fetchesAfter (fetches (start.history commands))
        ⟨start.run commands, .getCached query, .rows (.ok rows),
          ((start.run commands).getCached query).2⟩ := by
    rw [fetches, history_append, List.foldl_append, ← answered]
    rfl
  rw [← extended] at latest
  refine ⟨call, fetch, compiled, latest, sameRows, ?_⟩
  -- Another query may have made the fetch. With one key, two spaces that differ are such that
  -- one continues the other.
  have key : fetch.call.resultKey = call.resultKey := by
    simpa using List.find?_some latest
  rcases start.exists_of_mem_fetches _ (List.mem_of_find?_eq_some latest) with
    old | ⟨other, listed, compiledOther⟩
  · cases old
  · rw [space_of_fetchCall compiledOther]
    rcases spaces_of_resultKey_eq compiledOther compiled key with equal | continues
    · exact equal
    · rw [List.mem_append, List.mem_singleton] at listed
      rcases listed with earlier | last
      · obtain ⟨notAfter, notBefore⟩ := apart other earlier
        exact (continues.elim notAfter notBefore).elim
      · cases last
        rfl

end Engine

/-! ### Sets of spaces -/

/-- No space continues another. -/
def SpacesApart (spaces : Set String) : Prop :=
  ∀ left ∈ spaces, ∀ right ∈ spaces, ¬ Continues left right

/-- Queries of different spaces never have one key. -/
def KeysSeparate (spaces : Set String) : Prop :=
  ∀ first second : Query, first.space ∈ spaces → second.space ∈ spaces →
    first.space ≠ second.space →
    ∀ call other, first.fetchCall = .ok call → second.fetchCall = .ok other →
      call.resultKey ≠ other.resultKey

/-- In no run of cached reads in the spaces, among any other commands, is one of them
answered by rows that were fetched for another space: the latest fetch of its key, whose
rows it answers with, is a call in its own space. -/
def RowsSeparate (spaces : Set String) : Prop :=
  ∀ (session : Session) (optimizer : Optimizer) (config : EngineConfig)
    (commands : List EngineCommand) (query : Query) (rows : List Record),
    (∀ read, .getCached read ∈ commands ++ [.getCached query] → read.space ∈ spaces) →
    (((Engine.new session optimizer config).run commands).getCached query).1 = .ok rows →
    ∃ call fetch, query.fetchCall = .ok call ∧
      latestFetch? (fetches ((Engine.new session optimizer config).history
        (commands ++ [.getCached query]))) call.resultKey = some fetch ∧
      fetch.rows = rows ∧ fetch.call.space = query.space

namespace SpacesApart

variable {spaces : Set String}

/-- In spaces of which none continues another, keys differ. -/
theorem keysSeparate (apart : SpacesApart spaces) : KeysSeparate spaces := by
  intro first second firstSpace secondSpace different call other compiled compiledOther same
  rcases spaces_of_resultKey_eq compiled compiledOther same with equal | continues | continues
  · exact different equal
  · exact apart _ firstSpace _ secondSpace continues
  · exact apart _ secondSpace _ firstSpace continues

/-- Where one space continues another, some keys of the two are equal. -/
theorem of_keysSeparate (separate : KeysSeparate spaces) : SpacesApart spaces := by
  intro longer longerSpace shorter shorterSpace continues
  obtain ⟨first, second, rfl, rfl, call, other, compiled, compiledOther, same⟩ :=
    exists_resultKey_eq continues
  exact separate first second shorterSpace longerSpace continues.ne.symm call other compiled
    compiledOther same

/-- In spaces of which none continues another, no rows of one are the answer in another. -/
theorem rowsSeparate (apart : SpacesApart spaces) : RowsSeparate spaces := by
  intro session optimizer config commands query rows inSpaces answered
  refine Engine.exists_latest_in_space session optimizer config (fun other earlier => ?_) answered
  have space := inSpaces query (List.mem_append_right _ (List.mem_singleton.2 rfl))
  have otherSpace := inSpaces other (List.mem_append_left _ earlier)
  exact ⟨apart _ otherSpace _ space, apart _ space _ otherSpace⟩

/-- Where one space continues another, the rows of one can be the answer in the other. -/
theorem of_rowsSeparate (separate : RowsSeparate spaces) : SpacesApart spaces := by
  intro longer longerSpace shorter shorterSpace continues
  obtain ⟨first, second, rfl, rfl, call, other, compiled, compiledOther, same⟩ :=
    exists_resultKey_eq continues
  -- A store that accepts every call serves the first space, and the second gets its rows.
  let session : Session := ⟨⟨⟨0⟩, ⟨0, by decide⟩⟩, .ofScript [], [], []⟩
  let optimizer : Optimizer := .new .empty .standard .warning
  obtain ⟨answered, time, fetched⟩ :=
    (Engine.new session optimizer .standard).fetches_of_shared_key compiled compiledOther same
      rfl rfl rfl
  have inSpaces : ∀ read, .getCached read ∈
      [EngineCommand.getCached first] ++ [.getCached second] → read.space ∈ spaces := by
    intro read listed
    rcases List.mem_pair.1 listed with same | same
    · cases same
      exact shorterSpace
    · cases same
      exact longerSpace
  obtain ⟨_, fetch, _, latest, _, space⟩ :=
    separate session optimizer .standard [.getCached first] second _ inSpaces answered
  have member := List.mem_of_find?_eq_some latest
  rw [List.singleton_append, fetched, List.mem_singleton] at member
  rw [member, space_of_fetchCall compiled] at space
  exact continues.ne space.symm

end SpacesApart

/-- Spaces are kept apart by the cache of results exactly if none of them continues
another: exactly then do queries of different spaces never have one key, and exactly then
is no cached read answered by rows that were fetched for another space. -/
theorem separate_iff_spacesApart (spaces : Set String) :
    (KeysSeparate spaces ↔ SpacesApart spaces) ∧ (RowsSeparate spaces ↔ SpacesApart spaces) :=
  ⟨⟨.of_keysSeparate, SpacesApart.keysSeparate⟩, ⟨.of_rowsSeparate, SpacesApart.rowsSeparate⟩⟩

namespace Engine

/-- A space that continues another one is answered by its rows: the second query makes no
call, and gets what the store held for the first. -/
theorem continued_space_shares_rows :
    let reply := fun number : Int64 => (⟨[[("k", .integer number)]], 0, none, .zero⟩ : Reply)
    let session : Session := ⟨⟨⟨0⟩, ⟨0, by decide⟩⟩, .ofScript [reply 0, reply 1], [], []⟩
    let engine := Engine.new session (.new .empty .standard .warning) .standard
    let first := queryIn "a" "t|SELECT * FROM t"
    let second := queryIn "a|SELECT * FROM t" "t"
    let before := engine.run [.getCached first]
    first.space ≠ second.space ∧
    first.fetchCall.map Call.resultKey = second.fetchCall.map Call.resultKey ∧
    before.calls = [⟨.query, "SELECT * FROM t|SELECT * FROM t", [], "a"⟩] ∧
    (before.getCached second).1 = .ok [[("k", .integer 0)]] ∧
    (before.getCached second).2.calls = before.calls := by
  decide +kernel

end Engine

end QueryKit
