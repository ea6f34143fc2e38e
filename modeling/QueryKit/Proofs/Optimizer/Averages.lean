import Mathlib.Algebra.Group.Action.Defs
import Mathlib.Algebra.Order.BigOperators.Group.List
import Mathlib.Algebra.Order.Group.Nat
import QueryKit.Proofs.Optimizer.Run

/-!
# Totals, extremes and averages of running times

The total time of a statement is added up one execution at a time, in seconds and
nanoseconds with a carry, and stops at the longest span; the average is divided from it in
whole nanoseconds and has a bound of its own. `Summarises` already says that all this amounts
to one sum that is cut off once. So the order of the executions does not matter, the average
is never above the greatest time, and it is below the least one only where a bound was hit.
-/

namespace QueryKit

namespace Duration

/-- The sum of two spans from their parts: the nanoseconds beyond a second carry into the
seconds, and where the seconds do not fit 64 bits the sum is the longest span. -/
def addCarrying (left right : Duration) : Duration :=
  let carry := (left.subsecond + right.subsecond) / 1_000_000_000
  let seconds := left.seconds + right.seconds + carry
  if seconds < 0x1_0000_0000_0000_0000 then
    ofSeconds seconds (left.subsecond + right.subsecond - carry * 1_000_000_000)
  else longest

/-- Spans are added as wholes as they are from their parts. -/
theorem addCarrying_eq (left right : Duration) : left.addCarrying right = left + right := by
  apply ext
  show (left.addCarrying right).nanoseconds = min (left.nanoseconds + right.nanoseconds) _
  rw [addCarrying]
  split
  next fits =>
    show min _ _ = _
    rw [seconds, subsecond, seconds, subsecond] at *
    omega
  next full =>
    show min _ _ = _
    rw [seconds, subsecond, seconds, subsecond] at *
    rw [limit]
    omega

/-- Spans that are added one by one give their exact sum, or the longest span. -/
theorem foldl_addCarrying (times : List Duration) (nanoseconds : Nat) :
    times.foldl addCarrying (ofNanoseconds nanoseconds) =
      ofNanoseconds (nanoseconds + (times.map Duration.nanoseconds).sum) := by
  induction times generalizing nanoseconds with
  | nil => rfl
  | cons time rest ih =>
    rw [List.foldl_cons, addCarrying_eq, ofNanoseconds_add, ih, List.map_cons, List.sum_cons,
      Nat.add_assoc]

end Duration

namespace QueryStats

variable {sql : String} {stats other : QueryStats} {times : List Duration}

/-- What statistics sum up does not depend on the order of the times. -/
theorem Summarises.perm {others : List Duration} (summary : stats.Summarises sql times)
    (same : times.Perm others) : stats.Summarises sql others := by
  have lengths := same.map Duration.nanoseconds
  refine ⟨summary.sql, ?_, ?_, ?_, ?_⟩
  · rw [summary.executionCount, same.length_eq]
  · rw [summary.totalTime, lengths.sum_nat]
  · rw [summary.minTime]
    refine Option.ext fun least => ?_
    simp only [List.min?_eq_some_iff, lengths.mem_iff]
  · rw [summary.maxTime]
    refine Option.ext fun greatest => ?_
    simp only [List.max?_eq_some_iff, lengths.mem_iff]

/-- Statistics that sum up the same differ at most in the time of the last execution. -/
theorem Summarises.eq (summary : stats.Summarises sql times)
    (otherSummary : other.Summarises sql times) :
    { other with lastExecuted := stats.lastExecuted } = stats := by
  have injective : Function.Injective Duration.nanoseconds := fun _ _ => Duration.ext
  have least := Option.map_injective injective (otherSummary.minTime.trans summary.minTime.symm)
  have greatest := Option.map_injective injective (otherSummary.maxTime.trans summary.maxTime.symm)
  have text := otherSummary.sql.trans summary.sql.symm
  have count := otherSummary.executionCount.trans summary.executionCount.symm
  have total := otherSummary.totalTime.trans summary.totalTime.symm
  cases stats
  cases other
  simp_all

/-- The shortest time of some executions is one of theirs, and no other is shorter. -/
theorem Summarises.minTime_eq (summary : stats.Summarises sql times) (executed : times ≠ []) :
    ∃ least ∈ times, stats.minTime = some least ∧ ∀ time ∈ times, least ≤ time := by
  have told := summary.minTime
  cases found : stats.minTime with
  | none =>
    rw [found, Option.map_none, eq_comm, List.min?_eq_none_iff, List.map_eq_nil_iff] at told
    exact absurd told executed
  | some least =>
    rw [found, Option.map_some, eq_comm, List.min?_eq_some_iff] at told
    obtain ⟨time, member, same⟩ := List.mem_map.1 told.1
    rw [Duration.ext same] at member
    exact ⟨least, member, rfl, fun time member => told.2 _ (List.mem_map_of_mem member)⟩

/-- The longest time of some executions is one of theirs, and no other is longer. -/
theorem Summarises.maxTime_eq (summary : stats.Summarises sql times) (executed : times ≠ []) :
    ∃ greatest ∈ times, stats.maxTime = some greatest ∧ ∀ time ∈ times, time ≤ greatest := by
  have told := summary.maxTime
  cases found : stats.maxTime with
  | none =>
    rw [found, Option.map_none, eq_comm, List.max?_eq_none_iff, List.map_eq_nil_iff] at told
    exact absurd told executed
  | some greatest =>
    rw [found, Option.map_some, eq_comm, List.max?_eq_some_iff] at told
    obtain ⟨time, member, same⟩ := List.mem_map.1 told.1
    rw [Duration.ext same] at member
    exact ⟨greatest, member, rfl, fun time member => told.2 _ (List.mem_map_of_mem member)⟩

/-- The average of some executions, in whole nanoseconds. -/
theorem nanoseconds_averageTime (executed : stats.executionCount ≠ 0) :
    stats.averageTime.nanoseconds =
      min (stats.totalTime.nanoseconds / stats.executionCount)
        (0x1_0000_0000_0000_0000 - 1) := by
  rw [averageTime, if_neg executed]
  exact Duration.nanoseconds_ofNanoseconds (by rw [Duration.limit]; omega)

/-- The average is not above a bound of all times: where the total is cut off, the average
only becomes less. -/
theorem Summarises.averageTime_le (summary : stats.Summarises sql times)
    (counted : stats.executionCount = times.length) {greatest : Duration}
    (bound : ∀ time ∈ times, time ≤ greatest) : stats.averageTime ≤ greatest := by
  show stats.averageTime.nanoseconds ≤ greatest.nanoseconds
  by_cases executed : stats.executionCount = 0
  · rw [averageTime, if_pos executed]
    exact Nat.zero_le _
  · have sum := List.sum_le_card_nsmul (times.map Duration.nanoseconds) greatest.nanoseconds
      (List.forall_mem_map.2 bound)
    rw [List.length_map, smul_eq_mul, ← counted, Nat.mul_comm] at sum
    have total : stats.totalTime.nanoseconds ≤ greatest.nanoseconds * stats.executionCount := by
      rw [summary.totalTime]
      exact Nat.le_trans (Nat.min_le_left _ _) sum
    rw [nanoseconds_averageTime executed]
    exact Nat.le_trans (Nat.min_le_left _ _) (Nat.div_le_of_le_mul (by rwa [Nat.mul_comm]))

/-- The average is not below a bound of all times that fits 64 bits, unless the total was cut
off. -/
theorem Summarises.le_averageTime (summary : stats.Summarises sql times)
    (counted : stats.executionCount = times.length) (executed : times ≠ []) {least : Duration}
    (bound : ∀ time ∈ times, least ≤ time)
    (exact : (times.map Duration.nanoseconds).sum ≤ Duration.longest.nanoseconds)
    (fits : least.nanoseconds ≤ 0x1_0000_0000_0000_0000 - 1) : least ≤ stats.averageTime := by
  show least.nanoseconds ≤ stats.averageTime.nanoseconds
  have some : 0 < stats.executionCount := by
    rw [counted]
    exact List.length_pos_iff.2 executed
  have sum := List.card_nsmul_le_sum (times.map Duration.nanoseconds) least.nanoseconds
    (List.forall_mem_map.2 bound)
  rw [List.length_map, smul_eq_mul, ← counted] at sum
  have total : stats.totalTime.nanoseconds = (times.map Duration.nanoseconds).sum := by
    rw [summary.totalTime]
    exact Nat.min_eq_left exact
  rw [nanoseconds_averageTime some.ne', total]
  exact Nat.le_min.2 ⟨(Nat.le_div_iff_mul_le some).2 (by rwa [Nat.mul_comm]), fits⟩

/-- The statistics of a statement that was executed, at most as often as its count can tell.
They hold the number of its executions, their exact sum or the longest span, which is what
adding them one by one with a carry gives, and the least and the greatest of their times. The
average is that sum by that number in whole nanoseconds, as far as they fit 64 bits. Any other
order of the executions gives the same statistics but for the time of the last one. The
average is at most the greatest time, and at least the least time where neither the sum nor
the least time is cut off. -/
theorem statistics_of_executions (sql : String) {executions : List Execution}
    (executed : executions ≠ []) (countable : executions.length < 0x1_0000_0000_0000_0000) :
    let times := executions.map Execution.elapsed
    let sum := (times.map Duration.nanoseconds).sum
    let stats := ofExecutions sql executions
    stats.executionCount = executions.length ∧
    stats.totalTime.nanoseconds = min sum Duration.longest.nanoseconds ∧
    stats.totalTime = times.foldl Duration.addCarrying .zero ∧
    stats.averageTime.nanoseconds =
      min (stats.totalTime.nanoseconds / executions.length) (0x1_0000_0000_0000_0000 - 1) ∧
    (∃ greatest ∈ times, stats.maxTime = some greatest ∧ (∀ time ∈ times, time ≤ greatest) ∧
      stats.averageTime ≤ greatest) ∧
    (∃ least ∈ times, stats.minTime = some least ∧ (∀ time ∈ times, least ≤ time) ∧
      (sum ≤ Duration.longest.nanoseconds →
        least.nanoseconds ≤ 0x1_0000_0000_0000_0000 - 1 → least ≤ stats.averageTime)) ∧
    ∀ reordered : List Execution, (reordered.map Execution.elapsed).Perm times →
      { ofExecutions sql reordered with lastExecuted := stats.lastExecuted } = stats ∧
      (ofExecutions sql reordered).averageTime = stats.averageTime := by
  intro times sum stats
  have summary : stats.Summarises sql times := summarises_ofExecutions sql executions
  have timed : times ≠ [] := by rwa [ne_eq, List.map_eq_nil_iff]
  have counted : stats.executionCount = executions.length := by
    rw [summary.executionCount, List.length_map]
    omega
  have countedTimes : stats.executionCount = times.length := by rw [counted, List.length_map]
  have some : stats.executionCount ≠ 0 := by
    rw [counted]
    exact (List.length_pos_iff.2 executed).ne'
  refine ⟨counted, ?_, ?_, ?_, ?_, ?_, ?_⟩
  · rw [summary.totalTime]
    rfl
  · rw [summary.totalTime, Duration.zero, Duration.foldl_addCarrying, Nat.zero_add]
  · rw [nanoseconds_averageTime some, counted]
  · obtain ⟨greatest, member, found, bound⟩ := summary.maxTime_eq timed
    exact ⟨greatest, member, found, bound, summary.averageTime_le countedTimes bound⟩
  · obtain ⟨least, member, found, bound⟩ := summary.minTime_eq timed
    exact ⟨least, member, found, bound, summary.le_averageTime countedTimes timed bound⟩
  · intro reordered same
    have others := (summarises_ofExecutions sql reordered).perm same
    have equal := summary.eq others
    exact ⟨equal, by rw [← equal]; rfl⟩

/-- Two executions carry into a second, and a third one makes the sum too long for a span. In
the other order the statistics are the same. -/
theorem statistics_of_executions_cut_off :
    let clock : Timestamp := ⟨0, by decide⟩
    let executions : List Execution :=
      [⟨"SELECT 1", .ofMillis 600, clock⟩, ⟨"SELECT 1", .ofMillis 700, clock⟩,
        ⟨"SELECT 1", .longest, clock⟩]
    let stats := ofExecutions "SELECT 1" executions
    executions ≠ [] ∧ executions.length < 0x1_0000_0000_0000_0000 ∧
    (ofExecutions "SELECT 1" (executions.take 2)).totalTime = .ofSeconds 1 300_000_000 ∧
    stats.totalTime = .longest ∧ stats.executionCount = 3 ∧
    stats.averageTime.nanoseconds = 0x1_0000_0000_0000_0000 - 1 ∧
    { ofExecutions "SELECT 1" executions.reverse with lastExecuted := stats.lastExecuted } =
      stats := by
  intro clock executions stats
  have executed : executions ≠ [] := List.cons_ne_nil _ _
  have countable : executions.length < 0x1_0000_0000_0000_0000 := by decide
  obtain ⟨count, -, -, average, -, -, reordered⟩ :=
    statistics_of_executions "SELECT 1" executed countable
  refine ⟨executed, countable, by decide +kernel, by decide +kernel, count, ?_, ?_⟩
  · rw [average]
    decide +kernel
  · exact (reordered _ ((List.reverse_perm executions).map Execution.elapsed)).1

end QueryStats

end QueryKit
