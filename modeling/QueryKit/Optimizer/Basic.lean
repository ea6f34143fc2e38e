import QueryKit.Analysis.Concern
import QueryKit.Event
import QueryKit.Optimizer.Stats

/-!
# Optimizer

The optimizer analyses statements against the registered tables and keeps the
statistics of the statements that ran. A statement that has run often enough and
is slow on average raises one alert, and no second one until the statistics are
cleared.
-/

namespace QueryKit

/-- The analysis of a statement. -/
structure QueryAnalysis where
  sql : String
  estimatedMillis : Nat
  hasFullTableScan : Bool
  missingIndexes : List String
  suggestions : List String
  complexityScore : Nat
  deriving DecidableEq

/-- The configuration of an optimizer. -/
structure OptimizerConfig where
  /-- Averages strictly above are slow. -/
  slowQueryThreshold : Duration
  /-- The executions before a statement can raise an alert. -/
  autoOptimizeThreshold : Nat
  enableAutoOptimize : Bool
  deriving DecidableEq

namespace OptimizerConfig

/-- The default configuration: a tenth of a second and ten executions. -/
def standard : OptimizerConfig := ⟨Duration.ofMillis 100, 10, true⟩

end OptimizerConfig

/-- A persistently slow statement: its statistics and its analysis. -/
structure Alert where
  stats : QueryStats
  analysis : QueryAnalysis
  deriving DecidableEq

/-- What happens to alerts. -/
inductive Hook where
  /-- They are reported as warnings. -/
  | warning
  /-- They are handed to the owner of the session. -/
  | handing
  deriving DecidableEq

namespace Alert

/-- The warnings about a persistently slow statement. -/
def warnings (alert : Alert) : List Event :=
  .slowQuery alert.stats.sql alert.stats.executionCount alert.stats.averageTime
      alert.analysis.complexityScore alert.analysis.missingIndexes ::
    alert.analysis.suggestions.map fun text => .suggestion text alert.stats.sql

/-- The events of an alert: the decision, and the warnings if the hook gives
them. -/
def events (alert : Alert) (hook : Hook) : List Event :=
  .autoOptimizing alert.stats.sql alert.stats.executionCount ::
    (match hook with
      | .warning => alert.warnings
      | .handing => [])

/-- The alerts handed to the owner of the session. -/
def handed (alert : Alert) (hook : Hook) : List Alert :=
  match hook with
  | .warning => []
  | .handing => [alert]

end Alert

/-- An optimizer. -/
structure Optimizer where
  registry : Registry
  config : OptimizerConfig
  hook : Hook
  /-- The statistics, each statement once. -/
  stats : List QueryStats
  /-- The statements that have raised an alert. -/
  alerted : List String

namespace Optimizer

/-- The optimizer without statistics. -/
def new (registry : Registry) (config : OptimizerConfig) (hook : Hook) : Optimizer :=
  ⟨registry, config, hook, [], []⟩

/-- The fields of a table that a statement should have indexes on. -/
def missingIndexes (optimizer : Optimizer) (sql : String) (table : String) : List String :=
  match optimizer.registry.find? table with
  | some schema => Analysis.missingIndexes sql schema
  | none => []

/-- The suggestion to index a field. -/
def indexSuggestion (table : String) (field : String) : String :=
  "Consider adding an index on " ++ table ++ "." ++ field

/-- The analysis of a statement. -/
def analyze (optimizer : Optimizer) (sql : String) : QueryAnalysis :=
  let concerns := Analysis.concerns sql
  let score := (concerns.map Analysis.Concern.score).foldr (· + ·) 0
  let suggestions := concerns.map Analysis.Concern.suggestion
  let (missing, indexSuggestions) :=
    match Analysis.targetTable? sql with
    | some table =>
      let missing := optimizer.missingIndexes sql table
      (missing, missing.map (indexSuggestion table))
    | none => ([], [])
  { sql := sql
    estimatedMillis := Analysis.estimatedMillis score
    hasFullTableScan := Analysis.detectFullTableScan sql
    missingIndexes := missing
    suggestions := suggestions ++ indexSuggestions
    complexityScore := score }

/-- The statistics of a statement. -/
def queryStats? (optimizer : Optimizer) (sql : String) : Option QueryStats :=
  optimizer.stats.find? fun stats => stats.sql = sql

/-- Statistics with those of one statement replaced or added. -/
def upsert (updated : QueryStats) (all : List QueryStats) : List QueryStats :=
  if all.any fun stats => stats.sql = updated.sql then
    all.map fun stats => if stats.sql = updated.sql then updated else stats
  else all ++ [updated]

/-- Whether a statement with these statistics raises an alert. -/
def shouldAlert (optimizer : Optimizer) (stats : QueryStats) : Bool :=
  optimizer.config.enableAutoOptimize &&
    optimizer.config.autoOptimizeThreshold ≤ stats.executionCount &&
    optimizer.config.slowQueryThreshold < stats.averageTime &&
    !optimizer.alerted.contains stats.sql

/-- Records an execution; the answer is the alert that it raises, if any. -/
def record (optimizer : Optimizer) (sql : String) (elapsed : Duration) (now : Timestamp) :
    Option Alert × Optimizer :=
  let stats := ((optimizer.queryStats? sql).getD (QueryStats.new sql)).record elapsed now
  let recorded := { optimizer with stats := upsert stats optimizer.stats }
  if optimizer.shouldAlert stats then
    (some ⟨stats, optimizer.analyze sql⟩,
      { recorded with alerted := recorded.alerted ++ [sql] })
  else (none, recorded)

/-- All statistics, by statement. -/
def allStats (optimizer : Optimizer) : List QueryStats :=
  optimizer.stats.mergeSort fun left right => left.sql ≤ right.sql

/-- Whether a statement comes before another by descending measure and then by
text. -/
def ranksBefore (measure : QueryStats → Nat) (left right : QueryStats) : Bool :=
  measure right < measure left || (measure left == measure right && left.sql ≤ right.sql)

/-- The statements that are slow on average, slowest first. -/
def slowQueries (optimizer : Optimizer) : List QueryStats :=
  (optimizer.stats.filter fun stats =>
      optimizer.config.slowQueryThreshold < stats.averageTime).mergeSort
    (ranksBefore fun stats => stats.averageTime.nanoseconds)

/-- The statements that ran most often, at most `limit` of them. -/
def frequentQueries (optimizer : Optimizer) (limit : Nat) : List QueryStats :=
  (optimizer.stats.mergeSort (ranksBefore QueryStats.executionCount)).take limit

/-- Forgets all statistics and all alerts. -/
def clearStats (optimizer : Optimizer) : Optimizer :=
  { optimizer with stats := [], alerted := [] }

end Optimizer

end QueryKit
