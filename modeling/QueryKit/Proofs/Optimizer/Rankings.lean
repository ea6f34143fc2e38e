import Mathlib.Data.List.Nodup
import QueryKit.Proofs.Optimizer.Alerts
import QueryKit.Proofs.Optimizer.Averages

/-!
# Rankings of statements

An optimizer lists the statistics of all statements by text, those of the slow ones by average
and those of the frequent ones by count. Each list is sorted from a table that has no order of
its own. No two of its records have the same text, so the text decides between equal measures:
no two records are ranked alike, and a table has one ranking in whatever order it is
enumerated. Since a run keeps of every text what its own executions tell, the rankings are told
by the executions of each text as well.
-/

namespace QueryKit

open OptimizerCommand

namespace QueryStats

/-- The statistics without the time of the last execution. -/
def untimed (stats : QueryStats) : QueryStats := { stats with lastExecuted := none }

/-- Higher measures come first, and of equal ones the lesser text. -/
def Outranks (measure : QueryStats → Nat) (left right : QueryStats) : Prop :=
  measure right < measure left ∨ measure left = measure right ∧ left.sql < right.sql

/-- But for the time of the last execution, statistics are told by the times that the
executions took. -/
theorem untimed_ofExecutions (sql : String) {executions others : List Execution}
    (same : executions.map Execution.elapsed = others.map Execution.elapsed) :
    (ofExecutions sql executions).untimed = (ofExecutions sql others).untimed := by
  have summary := summarises_ofExecutions sql others
  rw [← same] at summary
  have equal := (summarises_ofExecutions sql executions).eq summary
  rw [← equal]
  rfl

end QueryStats

open QueryStats

namespace Optimizer

/-! ### Rankings of a table -/

section Ranking

variable {measure : QueryStats → Nat}

/-- A greater measure ranks first, and of equal measures the lesser text. -/
theorem ranksBefore_iff {left right : QueryStats} :
    ranksBefore measure left right = true ↔
      measure right < measure left ∨ measure left = measure right ∧ left.sql ≤ right.sql := by
  simp [ranksBefore]

/-- Ranking is transitive. -/
theorem ranksBefore_trans (first second third : QueryStats)
    (before : ranksBefore measure first second = true)
    (after : ranksBefore measure second third = true) :
    ranksBefore measure first third = true := by
  rw [ranksBefore_iff] at before after ⊢
  rcases before with greater | ⟨equal, lesser⟩
  · left
    rcases after with after | after <;> omega
  · rcases after with greater | ⟨following, beyond⟩
    · left
      omega
    · exact .inr ⟨equal.trans following, String.le_trans lesser beyond⟩

/-- Of two statistics one ranks before the other, or both are alike. -/
theorem ranksBefore_total (left right : QueryStats) :
    (ranksBefore measure left right || ranksBefore measure right left) = true := by
  rw [Bool.or_eq_true, ranksBefore_iff, ranksBefore_iff]
  rcases Nat.lt_trichotomy (measure left) (measure right) with less | equal | greater
  · exact .inr (.inl less)
  · exact (String.le_total left.sql right.sql).imp (fun lesser => .inr ⟨equal, lesser⟩)
      fun lesser => .inr ⟨equal.symm, lesser⟩
  · exact .inl (.inl greater)

/-- Of two texts that differ, one is ranked strictly before the other. -/
theorem outranks_of_ranksBefore {left right : QueryStats} (differs : left.sql ≠ right.sql)
    (before : ranksBefore measure left right = true) : Outranks measure left right :=
  (ranksBefore_iff.1 before).imp_right fun ⟨equal, lesser⟩ =>
    ⟨equal, Std.lt_of_le_of_ne lesser differs⟩

/-- Of two statistics at most one outranks the other. -/
theorem not_outranks_of_outranks {left right : QueryStats} (before : Outranks measure left right) :
    ¬ Outranks measure right left := by
  rintro (less | ⟨equal, beyond⟩)
  · rcases before with greater | ⟨equal, -⟩ <;> omega
  · rcases before with greater | ⟨-, lesser⟩
    · omega
    · exact String.lt_asymm lesser beyond

/-- The statistics of a table by descending measure and then by text. -/
def ranking (measure : QueryStats → Nat) (table : List QueryStats) : List QueryStats :=
  table.mergeSort (ranksBefore measure)

variable {table : List QueryStats}

/-- A list of statistics shows those that satisfy a condition, each text once, and always one
that precedes another before it. -/
structure Shows (shown : List QueryStats) (condition : QueryStats → Prop)
    (precedes : QueryStats → QueryStats → Prop) : Prop where
  members : ∀ stats, stats ∈ shown ↔ condition stats
  once : (shown.map QueryStats.sql).Nodup
  ordered : shown.Pairwise precedes

/-- A ranking shows a table in strict order. -/
theorem shows_ranking (measure : QueryStats → Nat)
    (distinct : (table.map QueryStats.sql).Nodup) :
    Shows (ranking measure table) (· ∈ table) (Outranks measure) := by
  have same : (ranking measure table).Perm table := List.mergeSort_perm _ _
  have once : ((ranking measure table).map QueryStats.sql).Nodup :=
    (same.map QueryStats.sql).nodup_iff.2 distinct
  have sorted : (ranking measure table).Pairwise fun left right => ranksBefore measure left right :=
    List.pairwise_mergeSort ranksBefore_trans ranksBefore_total table
  refine ⟨fun stats => same.mem_iff, once, ?_⟩
  exact (sorted.and (List.pairwise_map.1 once)).imp fun ⟨before, differs⟩ =>
    outranks_of_ranksBefore differs before

/-- The order in which a table is enumerated does not show in its ranking. -/
theorem ranking_eq_of_perm {other : List QueryStats} (same : table.Perm other)
    (distinct : (table.map QueryStats.sql).Nodup) :
    ranking measure table = ranking measure other := by
  have distinctOther := (same.map QueryStats.sql).nodup_iff.1 distinct
  have reordered : (ranking measure table).Perm (ranking measure other) :=
    (List.mergeSort_perm _ _).trans (same.trans (List.mergeSort_perm _ _).symm)
  exact reordered.eq_of_pairwise
    (fun left right _ _ before after => absurd after (not_outranks_of_outranks before))
    (shows_ranking measure distinct).ordered (shows_ranking measure distinctOther).ordered

/-- A view of the statistics that keeps the measure and the text can be taken before or after
ranking. -/
theorem map_ranking {view : QueryStats → QueryStats} (text : ∀ stats, (view stats).sql = stats.sql)
    (keeps : ∀ stats, measure (view stats) = measure stats) :
    (ranking measure table).map view = ranking measure (table.map view) := by
  refine List.map_mergeSort fun left _ right _ => ?_
  rw [ranksBefore, ranksBefore, keeps, keeps, text, text]

end Ranking

/-! ### Answers -/

variable {optimizer other : Optimizer}

/-- All statistics are listed by their texts alone. -/
theorem allStats_eq_ranking : optimizer.allStats = ranking (fun _ => 0) optimizer.stats := rfl

/-- Whether an optimizer counts a statement as slow. -/
def isSlow (optimizer : Optimizer) (stats : QueryStats) : Bool :=
  optimizer.config.slowQueryThreshold < stats.averageTime

/-- The slow queries are those over the threshold, by their average time. -/
theorem slowQueries_eq_ranking : optimizer.slowQueries =
    ranking (fun stats => stats.averageTime.nanoseconds)
      (optimizer.stats.filter optimizer.isSlow) := rfl

/-- The frequent queries are the first ones by their number of executions. -/
theorem frequentQueries_eq_ranking (limit : Nat) : optimizer.frequentQueries limit =
    (ranking QueryStats.executionCount optimizer.stats).take limit := rfl

/-- Where texts are distinct, the statistics found for a text are those in the table. -/
theorem queryStats?_eq_some_iff (distinct : (optimizer.stats.map QueryStats.sql).Nodup)
    {sql : String} {stats : QueryStats} :
    optimizer.queryStats? sql = some stats ↔ stats ∈ optimizer.stats ∧ stats.sql = sql := by
  constructor
  · exact fun found => ⟨List.mem_of_find?_eq_some found, sql_of_queryStats? found⟩
  · rintro ⟨member, rfl⟩
    cases found : optimizer.queryStats? stats.sql with
    | none =>
      have missed := List.find?_eq_none.1 found stats member
      simp at missed
    | some first =>
      have text := sql_of_queryStats? found
      rw [List.inj_on_of_nodup_map distinct (List.mem_of_find?_eq_some found) member text]

/-- Two optimizers give the same answers, as far as a view of the statistics shows. -/
structure AnswersAlike (view : QueryStats → QueryStats) (optimizer other : Optimizer) : Prop where
  queryStats? : ∀ sql, (optimizer.queryStats? sql).map view = (other.queryStats? sql).map view
  allStats : optimizer.allStats.map view = other.allStats.map view
  slowQueries : optimizer.slowQueries.map view = other.slowQueries.map view
  frequentQueries : ∀ limit,
    (optimizer.frequentQueries limit).map view = (other.frequentQueries limit).map view

/-- A view of the statistics that keeps what the answers are chosen and ordered by. -/
structure KeepsRanks (view : QueryStats → QueryStats) : Prop where
  sql : ∀ stats, (view stats).sql = stats.sql
  executionCount : ∀ stats, (view stats).executionCount = stats.executionCount
  averageTime : ∀ stats, (view stats).averageTime = stats.averageTime

/-- Seeing the statistics themselves keeps the ranks. -/
theorem keepsRanks_id : KeepsRanks id := ⟨fun _ => rfl, fun _ => rfl, fun _ => rfl⟩

/-- The time of the last execution has no part in the ranks. -/
theorem keepsRanks_untimed : KeepsRanks untimed := ⟨fun _ => rfl, fun _ => rfl, fun _ => rfl⟩

section View

variable {view : QueryStats → QueryStats} (keeps : KeepsRanks view)

include keeps

/-- What is seen of a text is what the view shows of its statistics. -/
theorem map_queryStats?_eq_some_iff (distinct : (optimizer.stats.map QueryStats.sql).Nodup)
    {sql : String} {seen : QueryStats} :
    (optimizer.queryStats? sql).map view = some seen ↔
      seen ∈ optimizer.stats.map view ∧ seen.sql = sql := by
  rw [Option.map_eq_some_iff, List.mem_map]
  constructor
  · rintro ⟨stats, found, rfl⟩
    obtain ⟨member, text⟩ := (queryStats?_eq_some_iff distinct).1 found
    exact ⟨⟨stats, member, rfl⟩, (keeps.sql stats).trans text⟩
  · rintro ⟨⟨stats, member, rfl⟩, text⟩
    rw [keeps.sql] at text
    exact ⟨stats, (queryStats?_eq_some_iff distinct).2 ⟨member, text⟩, rfl⟩

/-- Which queries are slow can be told from the view. -/
theorem map_filter_isSlow (table : List QueryStats) :
    (table.filter optimizer.isSlow).map view = (table.map view).filter optimizer.isSlow := by
  rw [List.filter_map]
  congr 2
  funext stats
  rw [Function.comp_apply, isSlow, isSlow, keeps.averageTime]

/-- Optimizers with the same records in their tables, in any order, give the same answers. -/
theorem answersAlike_of_perm (distinct : (optimizer.stats.map QueryStats.sql).Nodup)
    (config : optimizer.config = other.config)
    (same : (optimizer.stats.map view).Perm (other.stats.map view)) :
    AnswersAlike view optimizer other := by
  have texts (table : List QueryStats) :
      (table.map view).map QueryStats.sql = table.map QueryStats.sql := by
    rw [List.map_map]
    exact List.map_congr_left fun stats _ => keeps.sql stats
  have seen : ((optimizer.stats.map view).map QueryStats.sql).Nodup := by rwa [texts]
  have distinctOther : (other.stats.map QueryStats.sql).Nodup := by
    rw [← texts]
    exact (same.map QueryStats.sql).nodup_iff.1 seen
  have slow : optimizer.isSlow = other.isSlow := by
    funext stats
    rw [isSlow, isSlow, config]
  constructor
  · intro sql
    refine Option.ext fun stats => ?_
    rw [map_queryStats?_eq_some_iff keeps distinct,
      map_queryStats?_eq_some_iff keeps distinctOther, same.mem_iff]
  · rw [allStats_eq_ranking, allStats_eq_ranking, map_ranking keeps.sql fun _ => rfl,
      map_ranking keeps.sql fun _ => rfl]
    exact ranking_eq_of_perm same seen
  · have average (stats : QueryStats) :
        (view stats).averageTime.nanoseconds = stats.averageTime.nanoseconds :=
      congrArg Duration.nanoseconds (keeps.averageTime stats)
    rw [slowQueries_eq_ranking, slowQueries_eq_ranking, map_ranking keeps.sql average,
      map_ranking keeps.sql average, map_filter_isSlow keeps, map_filter_isSlow keeps, ← slow]
    exact ranking_eq_of_perm (same.filter _) (seen.sublist (List.filter_sublist.map _))
  · intro limit
    rw [frequentQueries_eq_ranking, frequentQueries_eq_ranking, List.map_take, List.map_take,
      map_ranking keeps.sql keeps.executionCount, map_ranking keeps.sql keeps.executionCount,
      ranking_eq_of_perm same seen]

end View

/-! ### Runs -/

section Runs

/-- Replacing or adding the statistics of a text repeats no text. -/
theorem nodup_upsert {updated : QueryStats} {table : List QueryStats}
    (distinct : (table.map QueryStats.sql).Nodup) :
    ((upsert updated table).map QueryStats.sql).Nodup := by
  unfold upsert
  split
  · have texts : (table.map fun stats => if stats.sql = updated.sql then updated else stats).map
        QueryStats.sql = table.map QueryStats.sql := by
      rw [List.map_map]
      refine List.map_congr_left fun stats _ => ?_
      by_cases own : stats.sql = updated.sql <;> simp [own]
    rwa [texts]
  · next absent =>
    have fresh : updated.sql ∉ table.map QueryStats.sql := by
      rintro listed
      obtain ⟨stats, member, text⟩ := List.mem_map.1 listed
      exact absent (List.any_eq_true.2 ⟨stats, member, decide_eq_true text⟩)
    rw [List.map_append, List.map_singleton]
    exact List.nodup_append'.2 ⟨distinct, List.nodup_singleton _, by simpa using fresh⟩

/-- Every command leaves one entry for each text. -/
theorem nodup_step (distinct : (optimizer.stats.map QueryStats.sql).Nodup)
    (command : OptimizerCommand) :
    ((optimizer.step command).2.stats.map QueryStats.sql).Nodup := by
  cases command with
  | clearStats => exact List.nodup_nil
  | record execution =>
    rw [step, stats_record]
    exact nodup_upsert distinct

/-- A run keeps every text once. -/
theorem nodup_run (distinct : (optimizer.stats.map QueryStats.sql).Nodup)
    (history : List OptimizerCommand) :
    ((optimizer.run history).stats.map QueryStats.sql).Nodup := by
  induction history generalizing optimizer with
  | nil => exact distinct
  | cons command rest ih => exact ih (nodup_step distinct command)

variable (registry : Registry) (config : OptimizerConfig) (hook : Hook)
  (history : List OptimizerCommand)

/-- After a run, there are statistics of exactly the texts that were executed since the
statistics were last forgotten. -/
theorem isSome_queryStats?_run (sql : String) :
    (((new registry config hook).run history).queryStats? sql).isSome = true ↔
      countedOf sql history ≠ [] := by
  induction history using List.reverseRecOn with
  | nil => simp [run, new, queryStats?]
  | append_singleton history command ih =>
    rw [run_concat]
    cases command with
    | clearStats => simp [step, clearStats, queryStats?]
    | record execution =>
      rw [step, queryStats?_record, countedOf_record]
      by_cases own : execution.sql = sql
      · simp [own]
      · rw [if_neg (Ne.symm own), if_neg own, ih]

/-- After a run, the statistics of a text are those of its own executions since the statistics
were last forgotten, and there are none if there was no such execution. -/
theorem queryStats?_run (sql : String) :
    ((new registry config hook).run history).queryStats? sql =
      if countedOf sql history = [] then none
      else some (.ofExecutions sql (countedOf sql history)) := by
  have known := isSome_queryStats?_run registry config hook history sql
  have kept := queryStats_run registry config hook history sql
  cases found : ((new registry config hook).run history).queryStats? sql with
  | none =>
    rw [found] at known
    rw [if_pos (by simpa using known)]
  | some stats =>
    rw [found] at known kept
    rw [if_neg (known.1 rfl), ← kept]
    rfl

/-- Statistics of the executions of their text since the statistics were last forgotten. -/
def Tracked (history : List OptimizerCommand) (stats : QueryStats) : Prop :=
  countedOf stats.sql history ≠ [] ∧
    stats = .ofExecutions stats.sql (countedOf stats.sql history)

/-- A run has one entry for each text. -/
theorem nodup_stats_run :
    (((new registry config hook).run history).stats.map QueryStats.sql).Nodup := by
  have unused : ((new registry config hook).stats.map QueryStats.sql).Nodup := List.nodup_nil
  exact nodup_run unused history

/-- The table of a run holds the statistics of the texts that were executed, and no others. -/
theorem mem_stats_run (stats : QueryStats) :
    stats ∈ ((new registry config hook).run history).stats ↔ Tracked history stats := by
  have found : stats ∈ ((new registry config hook).run history).stats ↔
      ((new registry config hook).run history).queryStats? stats.sql = some stats := by
    rw [queryStats?_eq_some_iff (nodup_stats_run registry config hook history), and_iff_left rfl]
  rw [found, queryStats?_run, Option.ite_none_left_eq_some, Option.some_inj, Tracked, ne_eq,
    eq_comm (a := stats)]

/-! ### Histories of the same executions -/

/-- When a text became due does not depend on when its executions ended. -/
theorem dueWithin_of_elapsed {sql : String} {executions others : List Execution}
    (same : executions.map Execution.elapsed = others.map Execution.elapsed)
    (due : config.DueWithin sql executions) : config.DueWithin sql others := by
  obtain ⟨prior, start, isDue⟩ := due
  have priorTimes : prior.map Execution.elapsed =
      (others.take prior.length).map Execution.elapsed := by
    rw [List.map_take, ← same, ← List.map_take, ← List.prefix_iff_eq_take.1 start]
  refine ⟨others.take prior.length, List.take_prefix _ _, ?_⟩
  -- Alerts are told by the count and the average, which the time does not change.
  show config.Due (QueryStats.untimed _)
  rw [← untimed_ofExecutions sql priorTimes]
  exact isDue

/-- Two histories in which the executions of each text since the statistics were last forgotten
took the same times, one after the other. -/
def SameTimes (history others : List OptimizerCommand) : Prop :=
  ∀ sql, (countedOf sql history).map Execution.elapsed =
    (countedOf sql others).map Execution.elapsed

variable {history} {others : List OptimizerCommand}

/-- One more command in common leaves the times the same. -/
theorem SameTimes.concat (same : SameTimes history others) (command : OptimizerCommand) :
    SameTimes (history ++ [command]) (others ++ [command]) := by
  intro sql
  cases command with
  | clearStats => rw [countedOf_clearStats, countedOf_clearStats]
  | record execution =>
    rw [countedOf_record, countedOf_record]
    split
    · rw [List.map_append, List.map_append, same sql]
    · exact same sql

/-- Neighbouring executions of different texts can change places. -/
theorem sameTimes_swap {first second : Execution} (differs : first.sql ≠ second.sql)
    (earlier later : List OptimizerCommand) :
    SameTimes (earlier ++ [.record first, .record second] ++ later)
      (earlier ++ [.record second, .record first] ++ later) := by
  induction later using List.reverseRecOn with
  | nil =>
    intro sql
    have one (command next : OptimizerCommand) :
        earlier ++ [command, next] = earlier ++ [command] ++ [next] := List.append_cons ..
    rw [List.append_nil, List.append_nil, one, one]
    simp only [countedOf_record]
    by_cases own : first.sql = sql
    · simp only [if_pos own, if_neg fun other => differs (own.trans (Eq.symm other))]
    · simp only [if_neg own]
  | append_singleton later command ih =>
    rw [← List.append_assoc, ← List.append_assoc]
    exact ih.concat command

section SameTimes

variable (same : SameTimes history others)

include same

/-- After such histories, the statistics of a text differ in the time of the last execution. -/
theorem untimed_queryStats?_run (sql : String) :
    (((new registry config hook).run history).queryStats? sql).map untimed =
      (((new registry config hook).run others).queryStats? sql).map untimed := by
  have executed : countedOf sql history = [] ↔ countedOf sql others = [] := by
    rw [← List.map_eq_nil_iff, same sql, List.map_eq_nil_iff]
  rw [queryStats?_run, queryStats?_run]
  by_cases unused : countedOf sql history = []
  · rw [if_pos unused, if_pos (executed.1 unused)]
  · rw [if_neg unused, if_neg (unused ∘ executed.2), Option.map_some, Option.map_some,
      untimed_ofExecutions sql (same sql)]

/-- The tables differ in times of last executions and in their order. -/
theorem perm_untimed_run :
    (((new registry config hook).run history).stats.map untimed).Perm
      (((new registry config hook).run others).stats.map untimed) := by
  have distinct (past : List OptimizerCommand) :
      (((new registry config hook).run past).stats.map untimed).Nodup := by
    have texts := nodup_stats_run registry config hook past
    refine List.Nodup.of_map QueryStats.sql ?_
    rwa [List.map_map]
  refine (List.perm_ext_iff_of_nodup (distinct _) (distinct _)).2 fun seen => ?_
  have found (past : List OptimizerCommand) :
      seen ∈ ((new registry config hook).run past).stats.map untimed ↔
        (((new registry config hook).run past).queryStats? seen.sql).map untimed = some seen := by
    rw [map_queryStats?_eq_some_iff keepsRanks_untimed
      (nodup_stats_run registry config hook past), and_iff_left rfl]
  rw [found, found, untimed_queryStats?_run registry config hook same]

/-- Histories with the same times have alerted for the same texts. -/
theorem mem_alerted_run_congr (sql : String) :
    sql ∈ ((new registry config hook).run history).alerted ↔
      sql ∈ ((new registry config hook).run others).alerted := by
  rw [mem_alerted_run, mem_alerted_run]
  exact ⟨dueWithin_of_elapsed config (same sql), dueWithin_of_elapsed config (same sql).symm⟩

end SameTimes

end Runs

/-- After a run, the statistics of a text are those of its own executions since the statistics
were last forgotten, and a text without such executions has none. So two histories in which
the executions of each text took the same times leave the same statistics but for the times of
last executions, give the same answers from them and have raised alerts for the same texts;
histories that differ in how executions of different texts are interleaved are such. All
statistics are listed by text. The slow statements are those with an average above the
threshold, each once, by descending average and then by text. There is one ranking of all
statements by descending count and then by text, and the frequent ones are always a first part
of it. None of these answers depends on the order in which the table is enumerated. -/
theorem answers_of_run (registry : Registry) (config : OptimizerConfig) (hook : Hook)
    (history : List OptimizerCommand) :
    let optimizer := (new registry config hook).run history
    (∀ sql, optimizer.queryStats? sql =
      if countedOf sql history = [] then none
      else some (.ofExecutions sql (countedOf sql history))) ∧
    (∀ others, SameTimes history others →
      let other := (new registry config hook).run others
      AnswersAlike untimed optimizer other ∧
      (optimizer.stats.map untimed).Perm (other.stats.map untimed) ∧
      ∀ sql, sql ∈ optimizer.alerted ↔ sql ∈ other.alerted) ∧
    (∀ earlier first second later, first.sql ≠ second.sql →
      history = earlier ++ [.record first, .record second] ++ later →
      SameTimes history (earlier ++ [.record second, .record first] ++ later)) ∧
    Shows optimizer.allStats (Tracked history) (fun left right => left.sql < right.sql) ∧
    Shows optimizer.slowQueries
      (fun stats => Tracked history stats ∧ config.slowQueryThreshold < stats.averageTime)
      (Outranks fun stats => stats.averageTime.nanoseconds) ∧
    (∃ ranked, Shows ranked (Tracked history) (Outranks QueryStats.executionCount) ∧
      ∀ limit, optimizer.frequentQueries limit = ranked.take limit) ∧
    ∀ enumeration, enumeration.Perm optimizer.stats →
      AnswersAlike id { optimizer with stats := enumeration } optimizer := by
  intro optimizer
  have distinct : (optimizer.stats.map QueryStats.sql).Nodup :=
    nodup_stats_run registry config hook history
  have tracked := mem_stats_run registry config hook history
  obtain ⟨-, settings, -⟩ := (new registry config hook).run_frame history
  -- The lists are rankings of one table, which holds what is tracked and each text once.
  have shown (measure : QueryStats → Nat) :
      Shows (ranking measure optimizer.stats) (Tracked history) (Outranks measure) := by
    obtain ⟨members, once, ordered⟩ := shows_ranking measure distinct
    exact ⟨fun stats => (members stats).trans (tracked stats), once, ordered⟩
  refine ⟨queryStats?_run registry config hook history, ?_, ?_, ?_, ?_, ?_, ?_⟩
  · intro others same other
    have tables := perm_untimed_run registry config hook same
    obtain ⟨-, otherSettings, -⟩ := (new registry config hook).run_frame others
    exact ⟨answersAlike_of_perm keepsRanks_untimed distinct (settings.trans otherSettings.symm)
      tables, tables, mem_alerted_run_congr registry config hook same⟩
  · rintro earlier first second later differs rfl
    exact sameTimes_swap differs earlier later
  · obtain ⟨members, once, ordered⟩ := shown fun _ => 0
    rw [allStats_eq_ranking]
    exact ⟨members, once, ordered.imp fun before => (before.resolve_left (Nat.lt_irrefl 0)).2⟩
  · have some : ((optimizer.stats.filter optimizer.isSlow).map QueryStats.sql).Nodup :=
      distinct.sublist (List.filter_sublist.map _)
    obtain ⟨members, once, ordered⟩ :=
      shows_ranking (fun stats => stats.averageTime.nanoseconds) some
    rw [slowQueries_eq_ranking]
    refine ⟨fun stats => ?_, once, ordered⟩
    rw [members, List.mem_filter, tracked, isSlow, settings, decide_eq_true_iff]
    rfl
  · exact ⟨_, shown QueryStats.executionCount, frequentQueries_eq_ranking⟩
  · intro enumeration same
    have reordered : (enumeration.map QueryStats.sql).Nodup :=
      (same.map QueryStats.sql).nodup_iff.2 distinct
    exact answersAlike_of_perm keepsRanks_id reordered rfl (same.map id)

/-- Executions of three texts, interleaved in two ways and with clocks that differ. Two texts have
the same average, and that of the third one is the threshold itself, which is not slow. -/
theorem answers_of_run_interleaved :
    let early : Timestamp := ⟨0, by decide⟩
    let late : Timestamp := ⟨1, by decide⟩
    let history : List OptimizerCommand :=
      [.record ⟨"SELECT 3", .longest, early⟩, .clearStats,
        .record ⟨"SELECT 2", .ofMillis 200, early⟩, .record ⟨"SELECT 1", .ofMillis 300, early⟩,
        .record ⟨"SELECT 3", .ofMillis 100, early⟩, .record ⟨"SELECT 1", .ofMillis 100, early⟩]
    let others : List OptimizerCommand :=
      [.record ⟨"SELECT 1", .ofMillis 300, late⟩, .record ⟨"SELECT 3", .ofMillis 100, late⟩,
        .record ⟨"SELECT 1", .ofMillis 100, late⟩, .record ⟨"SELECT 2", .ofMillis 200, late⟩]
    let start := new .empty .standard .handing
    SameTimes history others ∧ AnswersAlike untimed (start.run history) (start.run others) ∧
    (["SELECT 1", "SELECT 2", "SELECT 3"].map fun sql =>
        ((start.run history).queryStats? sql).map QueryStats.averageTime) =
      [some (.ofMillis 200), some (.ofMillis 200), some start.config.slowQueryThreshold] ∧
    ∀ stats ∈ (start.run history).slowQueries, stats.sql ≠ "SELECT 3" := by
  intro early late history others start
  have same : SameTimes history others := by
    intro sql
    by_cases first : "SELECT 1" = sql
    · subst first
      rfl
    by_cases second : "SELECT 2" = sql
    · subst second
      rfl
    by_cases third : "SELECT 3" = sql
    · subst third
      rfl
    simp [history, others, countedOf, counted, countedAfter, first, second, third]
  obtain ⟨-, reordered, -, -, slow, -, -⟩ := answers_of_run .empty .standard .handing history
  refine ⟨same, (reordered others same).1, by decide +kernel, fun stats member third => ?_⟩
  obtain ⟨⟨-, told⟩, above⟩ := (slow.members stats).1 member
  rw [told, third] at above
  exact absurd above (by decide +kernel)

end Optimizer

end QueryKit
