import Mathlib.Algebra.GroupWithZero.Nat
import QueryKit.Optimizer.Basic

/-!
# What the statistics of an optimizer sum up

The statistics of a text are a summary of the times that its executions took: their number,
their sum, the least and the greatest of them. `Optimizer.Tracks` says that this holds for
all texts at once. A record of one more execution changes the statistics of its own text
alone, whether or not it raises an alert.
-/

namespace QueryKit

/-! ### Statistics of one text -/

/-- The statistics of a text whose executions took the given times. The count and the sum
stop at the ends of their ranges. -/
structure QueryStats.Summarises (stats : QueryStats) (sql : String) (times : List Duration) :
    Prop where
  sql : stats.sql = sql
  executionCount : stats.executionCount = min times.length (0x1_0000_0000_0000_0000 - 1)
  totalTime : stats.totalTime = .ofNanoseconds (times.map Duration.nanoseconds).sum
  minTime : stats.minTime.map Duration.nanoseconds = (times.map Duration.nanoseconds).min?
  maxTime : stats.maxTime.map Duration.nanoseconds = (times.map Duration.nanoseconds).max?

/-- The least of some numbers and one more. -/
theorem min?_concat (numbers : List Nat) (last : Nat) :
    (numbers ++ [last]).min? = some (numbers.min?.elim last fun least => min least last) := by
  cases numbers with
  | nil => rfl
  | cons first rest =>
    rw [List.cons_append, List.min?_cons', List.foldl_append, List.min?_cons']
    rfl

/-- The greatest of some numbers and one more. -/
theorem max?_concat (numbers : List Nat) (last : Nat) :
    (numbers ++ [last]).max? = some (numbers.max?.elim last fun greatest => max greatest last) := by
  cases numbers with
  | nil => rfl
  | cons first rest =>
    rw [List.cons_append, List.max?_cons', List.foldl_append, List.max?_cons']
    rfl

namespace Duration

/-- A sum that stops at the longest span may stop before its last summand. -/
theorem ofNanoseconds_add (nanoseconds : Nat) (span : Duration) :
    ofNanoseconds nanoseconds + span = ofNanoseconds (nanoseconds + span.nanoseconds) := by
  apply ext
  show min (min nanoseconds _ + span.nanoseconds) _ = min (nanoseconds + span.nanoseconds) _
  omega

/-- The shorter of two spans has the lesser number of nanoseconds. -/
theorem nanoseconds_shorter (left right : Duration) :
    (left.shorter right).nanoseconds = min left.nanoseconds right.nanoseconds := by
  rw [shorter, apply_ite nanoseconds, Nat.min_def]
  rfl

/-- The longer of two spans has the greater number of nanoseconds. -/
theorem nanoseconds_longer (left right : Duration) :
    (left.longer right).nanoseconds = max left.nanoseconds right.nanoseconds := by
  rw [longer, apply_ite nanoseconds, Nat.max_def]
  rfl

end Duration

namespace QueryStats

/-- New statistics sum up no execution. -/
theorem summarises_new (sql : String) : (new sql).Summarises sql [] := ⟨rfl, rfl, rfl, rfl, rfl⟩

/-- One more execution adds its time to the summary. -/
theorem Summarises.record {stats : QueryStats} {sql : String} {times : List Duration}
    (summary : stats.Summarises sql times) (elapsed : Duration) (now : Timestamp) :
    (stats.record elapsed now).Summarises sql (times ++ [elapsed]) where
  sql := summary.sql
  executionCount := by
    show min (stats.executionCount + 1) _ = _
    rw [summary.executionCount, List.length_append, List.length_singleton]
    omega
  totalTime := by
    show stats.totalTime + elapsed = _
    rw [summary.totalTime, Duration.ofNanoseconds_add, List.map_append, List.sum_append,
      List.map_singleton, List.sum_singleton]
  minTime := by
    rw [List.map_append, List.map_singleton, min?_concat, ← summary.minTime]
    cases least : stats.minTime with
    | none => simp [QueryStats.record, least]
    | some span => simp [QueryStats.record, least, Duration.nanoseconds_shorter]
  maxTime := by
    rw [List.map_append, List.map_singleton, max?_concat, ← summary.maxTime]
    cases greatest : stats.maxTime with
    | none => simp [QueryStats.record, greatest]
    | some span => simp [QueryStats.record, greatest, Duration.nanoseconds_longer]

end QueryStats

/-! ### Statistics of all texts -/

/-- The times that the executions of a text took. -/
def timesOf (sql : String) (executions : List (String × Duration)) : List Duration :=
  (executions.filter fun execution => execution.1 = sql).map Prod.snd

/-- An optimizer has statistics of exactly the texts that were executed, and those of each
text sum up its executions. -/
structure Optimizer.Tracks (optimizer : Optimizer) (executions : List (String × Duration)) :
    Prop where
  executed : ∀ sql, (optimizer.queryStats? sql).isSome ↔ timesOf sql executions ≠ []
  summarised : ∀ sql, ((optimizer.queryStats? sql).getD (.new sql)).Summarises sql
    (timesOf sql executions)

namespace Optimizer

/-- Replacing or adding the statistics of a text shows in that text alone. -/
theorem find?_upsert (updated : QueryStats) (all : List QueryStats) (sql : String) :
    (upsert updated all).find? (fun stats => stats.sql = sql) =
      if sql = updated.sql then some updated else all.find? fun stats => stats.sql = sql := by
  unfold upsert
  by_cases known : (all.any fun stats => stats.sql = updated.sql) = true
  · -- Replacing keeps every text, so the search stops at the same place.
    have sought : ((fun stats : QueryStats => decide (stats.sql = sql)) ∘
        fun stats => if stats.sql = updated.sql then updated else stats) =
        fun stats => decide (stats.sql = sql) := by
      funext stats
      by_cases here : stats.sql = updated.sql <;> simp [here]
    rw [if_pos known, List.find?_map, sought]
    cases found : all.find? fun stats => decide (stats.sql = sql) with
    | none =>
      have differs : sql ≠ updated.sql := by
        rintro rfl
        obtain ⟨stats, member, text⟩ := List.any_eq_true.1 known
        exact absurd text (List.find?_eq_none.1 found stats member)
      rw [if_neg differs, Option.map_none]
    | some stats =>
      have text : stats.sql = sql := by simpa using List.find?_some found
      rw [Option.map_some, text]
      split <;> rfl
  · rw [if_neg known, List.find?_append]
    by_cases same : sql = updated.sql
    · subst same
      have absent : all.find? (fun stats => stats.sql = updated.sql) = none := by
        simpa using known
      simp [absent]
    · simp [same, Ne.symm same]

/-- The statistics that are found for a text are kept under it. -/
theorem sql_of_queryStats? {optimizer : Optimizer} {sql : String} {stats : QueryStats}
    (found : optimizer.queryStats? sql = some stats) : stats.sql = sql := by
  simpa using List.find?_some found

/-- A record replaces or adds the statistics of its text, whether or not it raises an alert. -/
theorem stats_record (optimizer : Optimizer) (sql : String) (elapsed : Duration)
    (now : Timestamp) :
    (optimizer.record sql elapsed now).2.stats =
      upsert (((optimizer.queryStats? sql).getD (.new sql)).record elapsed now)
        optimizer.stats := by
  unfold record
  dsimp only
  split <;> rfl

/-- A record changes the statistics of its text alone. -/
theorem queryStats?_record (optimizer : Optimizer) (sql : String) (elapsed : Duration)
    (now : Timestamp) (other : String) :
    (optimizer.record sql elapsed now).2.queryStats? other =
      if other = sql then
        some (((optimizer.queryStats? sql).getD (.new sql)).record elapsed now)
      else optimizer.queryStats? other := by
  have text : (((optimizer.queryStats? sql).getD (.new sql)).record elapsed now).sql = sql := by
    cases found : optimizer.queryStats? sql with
    | none => rfl
    | some stats =>
      show stats.sql = sql
      exact sql_of_queryStats? found
  rw [queryStats?, stats_record, find?_upsert, text, ← queryStats?]

variable {optimizer : Optimizer} {executions : List (String × Duration)}

/-- A table without statistics tracks that nothing was executed. -/
theorem tracks_nil (unused : optimizer.stats = []) : optimizer.Tracks [] where
  executed := fun sql => by simp [queryStats?, unused, timesOf]
  summarised := fun sql => by
    rw [queryStats?, unused]
    exact QueryStats.summarises_new sql

/-- A record is one more execution. -/
theorem Tracks.record (tracks : optimizer.Tracks executions) (sql : String) (elapsed : Duration)
    (now : Timestamp) :
    (optimizer.record sql elapsed now).2.Tracks (executions ++ [(sql, elapsed)]) := by
  have own : timesOf sql (executions ++ [(sql, elapsed)]) =
      timesOf sql executions ++ [elapsed] := by simp [timesOf, List.filter_append]
  have others : ∀ other, other ≠ sql →
      timesOf other (executions ++ [(sql, elapsed)]) = timesOf other executions :=
    fun other different => by simp [timesOf, List.filter_append, Ne.symm different]
  constructor <;> intro other <;> rw [queryStats?_record]
  · by_cases same : other = sql
    · rw [if_pos same, same, own]
      simp
    · rw [if_neg same, others other same]
      exact tracks.executed other
  · by_cases same : other = sql
    · rw [if_pos same, same, own, Option.getD_some]
      exact (tracks.summarised sql).record elapsed now
    · rw [if_neg same, others other same]
      exact tracks.summarised other

end Optimizer

end QueryKit
