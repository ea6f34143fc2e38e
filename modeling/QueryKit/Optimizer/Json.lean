import QueryKit.Optimizer.Basic
import QueryKit.Time.Json

/-!
# Analyses, statistics and optimizer configuration in JSON
-/

namespace QueryKit

namespace OptimizerConfig

/-- The names of the fields of an optimizer configuration. -/
def fieldNames : List String :=
  ["slow_query_threshold", "auto_optimize_threshold", "enable_auto_optimize"]

/-- The document of an optimizer configuration. -/
def toJson (config : OptimizerConfig) : Json :=
  Json.record
    [("slow_query_threshold", config.slowQueryThreshold.toJson),
      ("auto_optimize_threshold", Json.nat config.autoOptimizeThreshold),
      ("enable_auto_optimize", .bool config.enableAutoOptimize)]

/-- The optimizer configuration of a document; missing fields have their
defaults. -/
def ofJson? (document : Json) : Option OptimizerConfig := do
  let fields ← Json.Fields.of? fieldNames document
  let slowQueryThreshold ←
    fields.withDefault "slow_query_threshold" Duration.ofJson? standard.slowQueryThreshold
  let autoOptimizeThreshold ←
    fields.withDefault "auto_optimize_threshold" Json.word? standard.autoOptimizeThreshold
  let enableAutoOptimize ←
    fields.withDefault "enable_auto_optimize" Json.bool? standard.enableAutoOptimize
  some ⟨slowQueryThreshold, autoOptimizeThreshold, enableAutoOptimize⟩

end OptimizerConfig

namespace QueryAnalysis

/-- The names of the fields of an analysis. -/
def fieldNames : List String :=
  ["sql", "estimated_time_ms", "has_full_table_scan", "missing_indexes", "suggestions",
    "complexity_score"]

/-- The document of an analysis. -/
def toJson (analysis : QueryAnalysis) : Json :=
  Json.record
    [("sql", Json.text analysis.sql), ("estimated_time_ms", Json.nat analysis.estimatedMillis),
      ("has_full_table_scan", .bool analysis.hasFullTableScan),
      ("missing_indexes", .array (analysis.missingIndexes.map Json.text)),
      ("suggestions", .array (analysis.suggestions.map Json.text)),
      ("complexity_score", Json.nat analysis.complexityScore)]

/-- The analysis of a document. -/
def ofJson? (document : Json) : Option QueryAnalysis := do
  let fields ← Json.Fields.of? fieldNames document
  let sql ← fields.required "sql" Json.text?
  let estimatedMillis ← fields.required "estimated_time_ms" Json.word?
  let hasFullTableScan ← fields.required "has_full_table_scan" Json.bool?
  let missingIndexes ← fields.required "missing_indexes" (Json.list? Json.text?)
  let suggestions ← fields.required "suggestions" (Json.list? Json.text?)
  let complexityScore ← fields.required "complexity_score" (Json.natural? 0x1_0000_0000)
  some ⟨sql, estimatedMillis, hasFullTableScan, missingIndexes, suggestions, complexityScore⟩

end QueryAnalysis

namespace QueryStats

/-- The names of the fields of statistics. -/
def fieldNames : List String :=
  ["sql", "execution_count", "total_time", "min_time", "max_time", "last_executed"]

/-- The document of statistics. -/
def toJson (stats : QueryStats) : Json :=
  Json.record
    [("sql", Json.text stats.sql), ("execution_count", Json.nat stats.executionCount),
      ("total_time", stats.totalTime.toJson),
      ("min_time", Json.ofOption (stats.minTime.map Duration.toJson)),
      ("max_time", Json.ofOption (stats.maxTime.map Duration.toJson)),
      ("last_executed", Json.ofOption (stats.lastExecuted.map Timestamp.toJson))]

/-- The statistics of a document. Only the time of the last execution may be left
out, and only from an object. -/
def ofJson? (document : Json) : Option QueryStats := do
  let fields ← Json.Fields.of? fieldNames document
  let sql ← fields.required "sql" Json.text?
  let executionCount ← fields.required "execution_count" Json.word?
  let totalTime ← fields.required "total_time" Duration.ofJson?
  let minTime ← fields.required "min_time" (Json.nullable? Duration.ofJson?)
  let maxTime ← fields.required "max_time" (Json.nullable? Duration.ofJson?)
  let lastExecuted ← fields.nullableByName "last_executed" Timestamp.ofJson?
  some ⟨sql, executionCount, totalTime, minTime, maxTime, lastExecuted⟩

end QueryStats

end QueryKit
