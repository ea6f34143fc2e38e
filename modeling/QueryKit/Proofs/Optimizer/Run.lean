import Mathlib.Data.List.Infix
import QueryKit.Proofs.Optimizer.Summary

/-!
# Runs of an optimizer

A run records executions of any texts and now and then forgets everything. What an
optimizer keeps of a text after a run is told by the executions of that text alone, taken
from the moment at which the statistics were last forgotten.
-/

namespace QueryKit

/-- One execution of a statement: its text, the time it took and when it ended. -/
structure Execution where
  sql : String
  elapsed : Duration
  endedAt : Timestamp

/-- A command that changes what an optimizer keeps. -/
inductive OptimizerCommand where
  | record (execution : Execution)
  | clearStats

/-- The statistics of a text that was executed as listed. -/
def QueryStats.ofExecutions (sql : String) (executions : List Execution) : QueryStats :=
  executions.foldl (fun stats execution => stats.record execution.elapsed execution.endedAt)
    (.new sql)

namespace OptimizerCommand

/-- The executions that count after a command. -/
def countedAfter (earlier : List Execution) : OptimizerCommand → List Execution
  | .record execution => earlier ++ [execution]
  | .clearStats => []

/-- The executions since the statistics were last forgotten. -/
def counted (history : List OptimizerCommand) : List Execution := history.foldl countedAfter []

/-- The executions of one text since the statistics were last forgotten. -/
def countedOf (sql : String) (history : List OptimizerCommand) : List Execution :=
  (counted history).filter fun execution => execution.sql = sql

variable {history : List OptimizerCommand}

@[simp] theorem countedOf_nil (sql : String) : countedOf sql [] = [] := rfl

@[simp] theorem countedOf_clearStats (sql : String) :
    countedOf sql (history ++ [.clearStats]) = [] := by
  simp [countedOf, counted, countedAfter]

@[simp] theorem countedOf_record (sql : String) (execution : Execution) :
    countedOf sql (history ++ [.record execution]) =
      if execution.sql = sql then countedOf sql history ++ [execution]
      else countedOf sql history := by
  by_cases own : execution.sql = sql <;>
    simp [countedOf, counted, countedAfter, List.filter_append, own]

/-- As long as nothing is forgotten, the executions of a text become only more. -/
theorem countedOf_prefix_append (sql : String) {later : List OptimizerCommand}
    (unforgotten : OptimizerCommand.clearStats ∉ later) :
    countedOf sql history <+: countedOf sql (history ++ later) := by
  induction later using List.reverseRecOn with
  | nil => rw [List.append_nil]
  | append_singleton later command ih =>
    rw [List.mem_append, not_or] at unforgotten
    rw [← List.append_assoc]
    cases command with
    | clearStats => exact absurd (List.mem_singleton_self _) unforgotten.2
    | record execution =>
      rw [countedOf_record]
      split
      · exact (ih unforgotten.1).trans (List.prefix_append _ _)
      · exact ih unforgotten.1

end OptimizerCommand

open OptimizerCommand

namespace QueryStats

@[simp] theorem ofExecutions_concat (sql : String) (earlier : List Execution)
    (execution : Execution) :
    ofExecutions sql (earlier ++ [execution]) =
      (ofExecutions sql earlier).record execution.elapsed execution.endedAt := by
  rw [ofExecutions, List.foldl_append]
  rfl

/-- The statistics sum up the times of the executions. -/
theorem summarises_ofExecutions (sql : String) (executions : List Execution) :
    (ofExecutions sql executions).Summarises sql (executions.map Execution.elapsed) := by
  induction executions using List.reverseRecOn with
  | nil => exact summarises_new sql
  | append_singleton earlier execution ih =>
    rw [ofExecutions_concat, List.map_append]
    exact ih.record execution.elapsed execution.endedAt

end QueryStats

namespace Optimizer

/-- Carries out a command; the answer is the alert that it raises, if any. -/
def step (optimizer : Optimizer) : OptimizerCommand → Option Alert × Optimizer
  | .record execution => optimizer.record execution.sql execution.elapsed execution.endedAt
  | .clearStats => (none, optimizer.clearStats)

/-- The optimizer after a list of commands. -/
def run (optimizer : Optimizer) : List OptimizerCommand → Optimizer
  | [] => optimizer
  | command :: rest => (optimizer.step command).2.run rest

/-- A run of two parts is a run of the second after the first. -/
theorem run_append (optimizer : Optimizer) (first second : List OptimizerCommand) :
    optimizer.run (first ++ second) = (optimizer.run first).run second := by
  induction first generalizing optimizer with
  | nil => rfl
  | cons command rest ih => exact ih _

@[simp] theorem run_concat (optimizer : Optimizer) (history : List OptimizerCommand)
    (command : OptimizerCommand) :
    optimizer.run (history ++ [command]) = ((optimizer.run history).step command).2 := by
  rw [run_append]
  rfl

/-- No command changes the tables, the configuration or the hook. -/
theorem step_frame (optimizer : Optimizer) (command : OptimizerCommand) :
    (optimizer.step command).2.registry = optimizer.registry ∧
    (optimizer.step command).2.config = optimizer.config ∧
    (optimizer.step command).2.hook = optimizer.hook := by
  cases command with
  | clearStats => exact ⟨rfl, rfl, rfl⟩
  | record execution =>
    unfold step record
    dsimp only
    split <;> exact ⟨rfl, rfl, rfl⟩

/-- No run changes the tables, the configuration or the hook. -/
theorem run_frame (optimizer : Optimizer) (history : List OptimizerCommand) :
    (optimizer.run history).registry = optimizer.registry ∧
    (optimizer.run history).config = optimizer.config ∧
    (optimizer.run history).hook = optimizer.hook := by
  induction history generalizing optimizer with
  | nil => exact ⟨rfl, rfl, rfl⟩
  | cons command rest ih =>
    obtain ⟨registry, config, hook⟩ := optimizer.step_frame command
    rw [run, ← registry, ← config, ← hook]
    exact ih _

variable (registry : Registry) (config : OptimizerConfig) (hook : Hook)

/-- After a run, the statistics of a text are those of its own executions since the
statistics were last forgotten. -/
theorem queryStats_run (history : List OptimizerCommand) (sql : String) :
    (((new registry config hook).run history).queryStats? sql).getD (.new sql) =
      .ofExecutions sql (countedOf sql history) := by
  induction history using List.reverseRecOn with
  | nil => rfl
  | append_singleton history command ih =>
    rw [run_concat]
    cases command with
    | clearStats =>
      rw [countedOf_clearStats]
      rfl
    | record execution =>
      rw [step, queryStats?_record, countedOf_record]
      by_cases own : execution.sql = sql
      · subst own
        rw [if_pos rfl, if_pos rfl, Option.getD_some, ih, QueryStats.ofExecutions_concat]
      · rw [if_neg (Ne.symm own), if_neg own, ih]

end Optimizer

end QueryKit
