import QueryKit.Proofs.Optimizer.Run

/-!
# When an optimizer raises an alert

A text is due once its statistics are those of a statement that has run often enough and is
slow on average. The average may rise above the threshold and fall below it many times; an
optimizer raises one alert, at the first recording at which the text is due, and remembers
it until everything is forgotten. So the texts remembered are those that were due at some
time since then, which is what a run keeps.
-/

namespace QueryKit

open OptimizerCommand

/-- Whether statistics call for an alert: alerts are enabled, the statement has run often
enough, and its average is above the threshold. -/
def OptimizerConfig.Due (config : OptimizerConfig) (stats : QueryStats) : Prop :=
  config.enableAutoOptimize = true ∧ config.autoOptimizeThreshold ≤ stats.executionCount ∧
    config.slowQueryThreshold < stats.averageTime

/-- Whether a text was due at some time during its executions. -/
def OptimizerConfig.DueWithin (config : OptimizerConfig) (sql : String)
    (executions : List Execution) : Prop :=
  ∃ prior, prior <+: executions ∧ config.Due (.ofExecutions sql prior)

namespace OptimizerConfig

variable {config : OptimizerConfig} {sql : String}

/-- A text that was not executed is not due, since its average is no time at all. -/
theorem not_dueWithin_nil : ¬ config.DueWithin sql [] := by
  rintro ⟨prior, start, -, -, slow⟩
  obtain rfl := List.prefix_nil.1 start
  exact Nat.not_lt_zero _ slow

/-- One more execution makes a text due at some time if it is due then. -/
theorem dueWithin_concat {earlier : List Execution} {execution : Execution} :
    config.DueWithin sql (earlier ++ [execution]) ↔
      config.Due (.ofExecutions sql (earlier ++ [execution])) ∨ config.DueWithin sql earlier := by
  simp only [DueWithin, List.prefix_concat_iff, or_and_right, exists_or, exists_eq_left]

/-- A text that was due stays one that was due. -/
theorem DueWithin.mono {earlier later : List Execution} (due : config.DueWithin sql earlier)
    (start : earlier <+: later) : config.DueWithin sql later := by
  obtain ⟨prior, shorter, isDue⟩ := due
  exact ⟨prior, shorter.trans start, isDue⟩

end OptimizerConfig

namespace Optimizer

variable {optimizer : Optimizer}

/-- A record raises an alert if its text is due and none was raised for it. -/
theorem shouldAlert_eq_true_iff {stats : QueryStats} :
    optimizer.shouldAlert stats = true ↔
      optimizer.config.Due stats ∧ stats.sql ∉ optimizer.alerted := by
  simp [shouldAlert, OptimizerConfig.Due, and_assoc]

/-- The alert of a record carries the statistics with that record and the analysis of the
text. -/
theorem record_fst_eq_some_iff {sql : String} {elapsed : Duration} {now : Timestamp}
    {alert : Alert} :
    (optimizer.record sql elapsed now).1 = some alert ↔
      let stats := ((optimizer.queryStats? sql).getD (.new sql)).record elapsed now
      optimizer.shouldAlert stats = true ∧ alert = ⟨stats, optimizer.analyze sql⟩ := by
  unfold record
  dsimp only
  split
  · next raised => simp [raised, eq_comm]
  · next silent => simp [silent]

/-- A record remembers its text if it raises an alert, and no other text. -/
theorem mem_alerted_record {sql other : String} {elapsed : Duration} {now : Timestamp} :
    other ∈ (optimizer.record sql elapsed now).2.alerted ↔
      other ∈ optimizer.alerted ∨ other = sql ∧ (optimizer.record sql elapsed now).1.isSome := by
  unfold record
  dsimp only
  split <;> simp

/-- An analysis depends on the tables alone. -/
theorem analyze_congr {other : Optimizer} (registry : other.registry = optimizer.registry)
    (sql : String) : other.analyze sql = optimizer.analyze sql := by
  unfold analyze missingIndexes
  rw [registry]

variable (registry : Registry) (config : OptimizerConfig) (hook : Hook)
  (history : List OptimizerCommand)

/-- The record of an execution after a run raises an alert if its text is due then and none
was raised for it. -/
theorem step_record_run (execution : Execution) (alert : Alert) :
    (((new registry config hook).run history).step (.record execution)).1 = some alert ↔
      let stats := QueryStats.ofExecutions execution.sql
        (countedOf execution.sql history ++ [execution])
      (config.Due stats ∧
        execution.sql ∉ ((new registry config hook).run history).alerted) ∧
      alert = ⟨stats, (new registry config hook).analyze execution.sql⟩ := by
  obtain ⟨tables, settings, -⟩ := (new registry config hook).run_frame history
  rw [step, record_fst_eq_some_iff]
  dsimp only
  rw [shouldAlert_eq_true_iff, queryStats_run, ← QueryStats.ofExecutions_concat, settings,
    analyze_congr tables, (QueryStats.summarises_ofExecutions _ _).sql]
  rfl

/-- After a run, an alert is remembered for exactly the texts that were due at some time
since the statistics were last forgotten. -/
theorem mem_alerted_run (sql : String) :
    sql ∈ ((new registry config hook).run history).alerted ↔
      config.DueWithin sql (countedOf sql history) := by
  induction history using List.reverseRecOn with
  | nil =>
    rw [countedOf_nil]
    exact iff_of_false List.not_mem_nil OptimizerConfig.not_dueWithin_nil
  | append_singleton history command ih =>
    rw [run_concat]
    cases command with
    | clearStats =>
      rw [countedOf_clearStats]
      exact iff_of_false List.not_mem_nil OptimizerConfig.not_dueWithin_nil
    | record execution =>
      have raised := step_record_run registry config hook history execution
      rw [step, mem_alerted_record, ih, countedOf_record, Option.isSome_iff_exists]
      -- Only a record of the text itself changes either side.
      by_cases own : execution.sql = sql
      · subst own
        simp only [step] at raised
        rw [if_pos rfl, OptimizerConfig.dueWithin_concat]
        simp only [raised, ih, exists_and_left, exists_eq, and_true, true_and]
        tauto
      · rw [if_neg own]
        simp [Ne.symm own]

/-- A run raises an alert for a text exactly at the first recording, since the statistics
were last forgotten, at which the text is due: alerts are enabled, its executions since
then, this one included, are enough, and their average is above the threshold. The alert
carries the statistics of just these executions and the analysis of the text. Forgetting
raises none. Only the executions of the text itself decide, so those of other texts neither
cause nor delay nor suppress the alert, and until everything is forgotten there is no second
one, whatever the average does. -/
theorem alert_at_first_due (execution : Execution) :
    let start := new registry config hook
    let optimizer := start.run history
    let earlier := countedOf execution.sql history
    let stats := QueryStats.ofExecutions execution.sql (earlier ++ [execution])
    let recorded := optimizer.step (.record execution)
    stats.Summarises execution.sql ((earlier ++ [execution]).map Execution.elapsed) ∧
    (∀ alert, recorded.1 = some alert ↔
      (config.Due stats ∧
        ∀ prior, prior <+: earlier → ¬ config.Due (.ofExecutions execution.sql prior)) ∧
      alert = ⟨stats, start.analyze execution.sql⟩) ∧
    (optimizer.step .clearStats).1 = none ∧
    (∀ other, countedOf execution.sql other = earlier →
      ((start.run other).step (.record execution)).1 = recorded.1) ∧
    (recorded.1.isSome → ∀ later, OptimizerCommand.clearStats ∉ later →
      ∀ again, again.sql = execution.sql →
        ((recorded.2.run later).step (.record again)).1 = none) := by
  intro start optimizer earlier stats recorded
  have undue : ∀ executions, ¬ config.DueWithin execution.sql executions ↔
      ∀ prior, prior <+: executions → ¬ config.Due (.ofExecutions execution.sql prior) := by
    simp [OptimizerConfig.DueWithin]
  -- The texts alerted for are those that were due at some earlier recording.
  have raised : ∀ past alert, ((start.run past).step (.record execution)).1 = some alert ↔
      (config.Due (.ofExecutions execution.sql (countedOf execution.sql past ++ [execution])) ∧
        ¬ config.DueWithin execution.sql (countedOf execution.sql past)) ∧
      alert = ⟨.ofExecutions execution.sql (countedOf execution.sql past ++ [execution]),
        start.analyze execution.sql⟩ := by
    intro past alert
    rw [← mem_alerted_run registry config hook past]
    exact step_record_run registry config hook past execution alert
  refine ⟨QueryStats.summarises_ofExecutions _ _, ?_, rfl, ?_, ?_⟩
  · intro alert
    rw [← undue]
    exact raised history alert
  · intro other same
    refine Option.ext fun alert => ?_
    rw [raised other alert, same]
    exact (raised history alert).symm
  · intro isRaised later unforgotten again own
    obtain ⟨alert, found⟩ := Option.isSome_iff_exists.1 isRaised
    have due : config.Due stats := ((raised history alert).1 found).1.1
    let past := history ++ [.record execution]
    -- Executions become only more until they are forgotten, so the text was due ever since.
    have remembered : again.sql ∈ (start.run (past ++ later)).alerted := by
      rw [own, mem_alerted_run registry config hook]
      have now : config.DueWithin execution.sql (countedOf execution.sql past) := by
        rw [countedOf_record, if_pos rfl, OptimizerConfig.dueWithin_concat]
        exact .inl due
      exact now.mono (countedOf_prefix_append _ unforgotten)
    have whole : recorded.2.run later = start.run (past ++ later) := by
      rw [run_append, run_concat]
    rw [whole, Option.eq_none_iff_forall_ne_some]
    intro second raisedAgain
    exact ((step_record_run registry config hook _ again second).1 raisedAgain).1.2 remembered

end Optimizer

end QueryKit
