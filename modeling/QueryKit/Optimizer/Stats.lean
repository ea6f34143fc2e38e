import QueryKit.Time

/-!
# Execution statistics

What is kept about one statement: how often it ran, its total, shortest and
longest time, and when it ran last. The count and the total stop at the ends of
their ranges.
-/

namespace QueryKit

/-- The statistics of one statement. -/
structure QueryStats where
  sql : String
  executionCount : Nat
  totalTime : Duration
  minTime : Option Duration
  maxTime : Option Duration
  lastExecuted : Option Timestamp
  deriving DecidableEq

namespace QueryStats

/-- The statistics of a statement that has not run. -/
def new (sql : String) : QueryStats := ⟨sql, 0, Duration.zero, none, none, none⟩

/-- The statistics after one more execution. -/
def record (stats : QueryStats) (elapsed : Duration) (now : Timestamp) : QueryStats where
  sql := stats.sql
  executionCount := min (stats.executionCount + 1) (0x1_0000_0000_0000_0000 - 1)
  totalTime := stats.totalTime + elapsed
  minTime := some (match stats.minTime with
    | some least => least.shorter elapsed
    | none => elapsed)
  maxTime := some (match stats.maxTime with
    | some greatest => greatest.longer elapsed
    | none => elapsed)
  lastExecuted := some now

/-- The average time: whole nanoseconds, at most `2 ^ 64 - 1` of them. -/
def averageTime (stats : QueryStats) : Duration :=
  if stats.executionCount = 0 then Duration.zero
  else
    Duration.ofNanoseconds
      (min (stats.totalTime.nanoseconds / stats.executionCount) (0x1_0000_0000_0000_0000 - 1))

end QueryStats

end QueryKit
