import QueryKit.Engine.File
import QueryKit.Proofs.Json.Record
import QueryKit.Proofs.Json.Spelling

/-!
# Saved configurations

A configuration that was saved is loaded as it was, but for its spans, which a file gives in
whole milliseconds. Nothing that validation looks at is lost, so what validation refuses is
refused again, for the same reason, when the file is loaded.
-/

namespace QueryKit

/-! ### Records -/

/-- A policy is read back from its name. -/
theorem EvictionPolicy.ofJson?_toJson (policy : EvictionPolicy) :
    ofJson? policy.toJson = some policy := by
  cases policy <;> rfl

namespace CacheConfig

/-- The configuration with another span, if it has one. -/
def mapSpans (change : Duration → Duration) (config : CacheConfig) : CacheConfig :=
  { config with defaultTtl := config.defaultTtl.map change }

/-- A cache configuration is read back with its spans in whole milliseconds. -/
theorem ofJson?_toJson {config : CacheConfig}
    (inRange : config.maxSize < 0x1_0000_0000_0000_0000) :
    ofJson? config.toJson = some (config.mapSpans Duration.rounded) := by
  have fields : Json.Fields.of? fieldNames config.toJson = some ⟨false, _⟩ :=
    Json.Fields.of?_record rfl (by decide)
  have ttl := Json.nullable?_ofOption Duration.toJson_ne_null Duration.ofJson?_toJson
    config.defaultTtl
  simp only [ofJson?, fields, Json.Fields.withDefault, Option.bind_eq_bind, Option.bind_some,
    List.lookup_cons, Json.word?_nat inRange, String.reduceBEq, EvictionPolicy.ofJson?_toJson, ttl,
    mapSpans]

/-- The configuration of a cache is a document that can be written. -/
theorem writable_toJson (config : CacheConfig) : config.toJson.Writable :=
  .fields ⟨.nat _, .text _, .ofOption (fun _ => .nat _) _⟩

end CacheConfig

namespace StatementConfig

/-- The configuration with other spans. -/
def mapSpans (change : Duration → Duration) (config : StatementConfig) : StatementConfig :=
  { config with maxAge := change config.maxAge, maxIdleTime := change config.maxIdleTime }

/-- A statement configuration is read back with its spans in whole milliseconds. -/
theorem ofJson?_toJson {config : StatementConfig}
    (inRange : config.maxSize < 0x1_0000_0000_0000_0000) :
    ofJson? config.toJson = some (config.mapSpans Duration.rounded) := by
  have fields : Json.Fields.of? fieldNames config.toJson = some ⟨false, _⟩ :=
    Json.Fields.of?_record rfl (by decide)
  simp only [ofJson?, fields, Json.Fields.withDefault, Option.bind_eq_bind, Option.bind_some,
    List.lookup_cons, Json.word?_nat inRange, String.reduceBEq, Duration.ofJson?_toJson, mapSpans]

/-- The configuration of a statement cache is a document that can be written. -/
theorem writable_toJson (config : StatementConfig) : config.toJson.Writable :=
  .fields ⟨.nat _, .nat _, .nat _⟩

end StatementConfig

namespace OptimizerConfig

/-- The configuration with another span. -/
def mapSpans (change : Duration → Duration) (config : OptimizerConfig) : OptimizerConfig :=
  { config with slowQueryThreshold := change config.slowQueryThreshold }

/-- An optimizer configuration is read back with its span in whole milliseconds. -/
theorem ofJson?_toJson {config : OptimizerConfig}
    (inRange : config.autoOptimizeThreshold < 0x1_0000_0000_0000_0000) :
    ofJson? config.toJson = some (config.mapSpans Duration.rounded) := by
  have fields : Json.Fields.of? fieldNames config.toJson = some ⟨false, _⟩ :=
    Json.Fields.of?_record rfl (by decide)
  simp only [ofJson?, fields, Json.Fields.withDefault, Option.bind_eq_bind, Option.bind_some,
    List.lookup_cons, Json.word?_nat inRange, String.reduceBEq, Duration.ofJson?_toJson, Json.bool?,
    mapSpans]

/-- The configuration of an optimizer is a document that can be written. -/
theorem writable_toJson (config : OptimizerConfig) : config.toJson.Writable :=
  .fields ⟨.nat _, .nat _, .bool _⟩

end OptimizerConfig

namespace EngineConfig

/-- The counts of a configuration are 64-bit words. -/
structure InRange (config : EngineConfig) : Prop where
  cacheSize : config.cache.maxSize < 0x1_0000_0000_0000_0000
  statementSize : config.statements.maxSize < 0x1_0000_0000_0000_0000
  autoOptimizeThreshold :
    config.optimizer.autoOptimizeThreshold < 0x1_0000_0000_0000_0000

/-- The spans of a configuration. -/
def spans (config : EngineConfig) : List Duration :=
  config.cache.defaultTtl.toList ++
    [config.statements.maxAge, config.statements.maxIdleTime, config.optimizer.slowQueryThreshold]

/-- The configuration with other spans. -/
def mapSpans (change : Duration → Duration) (config : EngineConfig) : EngineConfig where
  cache := config.cache.mapSpans change
  statements := config.statements.mapSpans change
  optimizer := config.optimizer.mapSpans change
  defaultSpace := config.defaultSpace

/-- The configuration with every span in whole milliseconds, as a 64-bit word. -/
def rounded (config : EngineConfig) : EngineConfig := config.mapSpans Duration.rounded

/-- The configuration of an engine is read back with all its spans in whole milliseconds. -/
theorem ofJson?_toJson {config : EngineConfig} (inRange : config.InRange) :
    ofJson? config.toJson = some config.rounded := by
  have fields : Json.Fields.of? fieldNames config.toJson = some ⟨false, _⟩ :=
    Json.Fields.of?_record rfl (by decide)
  simp only [ofJson?, fields, Json.Fields.withDefault, Option.bind_eq_bind, Option.bind_some,
    List.lookup_cons, String.reduceBEq, CacheConfig.ofJson?_toJson inRange.cacheSize,
    StatementConfig.ofJson?_toJson inRange.statementSize,
    OptimizerConfig.ofJson?_toJson inRange.autoOptimizeThreshold, Json.text?, Json.text, rounded,
    mapSpans]

/-- The configuration of an engine is a document that can be written. -/
theorem writable_toJson (config : EngineConfig) : config.toJson.Writable :=
  .fields ⟨config.cache.writable_toJson, config.statements.writable_toJson,
    config.optimizer.writable_toJson, .text _⟩

/-- Validation looks at no span. -/
theorem validate_mapSpans (change : Duration → Duration) (config : EngineConfig) :
    (config.mapSpans change).validate = config.validate :=
  rfl

/-- A configuration is saved exactly if its spans are whole milliseconds below `2 ^ 64`. -/
theorem rounded_eq_iff (config : EngineConfig) :
    config.rounded = config ↔
      ∀ span ∈ config.spans, span.nanoseconds % 1_000_000 = 0 ∧
        span.nanoseconds < 0x1_0000_0000_0000_0000 * 1_000_000 := by
  simp only [← Duration.rounded_eq_iff]
  obtain ⟨⟨size, policy, ttl⟩, ⟨statementSize, age, idle⟩, ⟨slow, threshold, enabled⟩, space⟩ :=
    config
  cases ttl <;>
    simp [rounded, mapSpans, CacheConfig.mapSpans, StatementConfig.mapSpans,
      OptimizerConfig.mapSpans, spans, and_assoc]

end EngineConfig

/-! ### Files -/

/-- A file can be written over a file, and where there is none in a directory that exists. -/
def FileTarget.TakesFile : FileTarget → Prop
  | .missing | .directory => False
  | .vacant | .file _ => True

namespace EngineConfig

/-- A text is read from the file that it was written to. -/
theorem readText_saved (text : String) : readText (.file text.toUTF8) = .ok text := by
  have valid : String.fromUTF8? text.toUTF8 = some text := dif_pos text.isValidUTF8
  rw [readText, valid]

/-- Loading a saved text gives the rounded configuration, or the refusal that the original meets. -/
theorem load_savedText {config : EngineConfig} (inRange : config.InRange) :
    load (.file config.savedText.toUTF8) =
      match config.validate with
      | .error cause => .error (.config cause)
      | .ok _ => .ok config.rounded := by
  have read : (Json.read? config.savedText).bind ofJson? = some config.rounded := by
    rw [savedText, config.writable_toJson.read?_indented, Option.bind_some, ofJson?_toJson inRange]
  have same : config.rounded.validate = config.validate := validate_mapSpans _ config
  cases validated : config.validate with
  | error cause => simp only [load, readText_saved, parse, read, same, validated]
  | ok _ => simp only [load, readText_saved, parse, read, same, validated]

/-- A configuration is saved over a file or as a new file, and nowhere else. -/
theorem save_eq_ok_iff {config : EngineConfig} {before saved : FileTarget} :
    config.save before = .ok saved ↔
      before.TakesFile ∧ saved = .file config.savedText.toUTF8 := by
  cases before <;> simp [save, FileTarget.TakesFile, eq_comm]

/-- Saving succeeds exactly over a file and in a directory that exists. What is loaded from the
saved file afterwards is the configuration with its spans in whole milliseconds, so nothing
changed exactly if they were; a configuration that validation refuses is refused again, for the
same cause. -/
theorem load_save (config : EngineConfig) (inRange : config.InRange) (before : FileTarget) :
    ((∃ saved, config.save before = .ok saved) ↔ before.TakesFile) ∧
    ∀ saved, config.save before = .ok saved →
      (config.validate = .ok () →
        load saved = .ok config.rounded ∧
        (load saved = .ok config ↔
          ∀ span ∈ config.spans, span.nanoseconds % 1_000_000 = 0 ∧
            span.nanoseconds < 0x1_0000_0000_0000_0000 * 1_000_000)) ∧
      ∀ cause, config.validate = .error cause → load saved = .error (.config cause) := by
  have loaded := load_savedText inRange
  refine ⟨by simp [save_eq_ok_iff], fun saved written => ?_⟩
  obtain ⟨-, rfl⟩ := save_eq_ok_iff.1 written
  refine ⟨fun accepted => ?_, fun cause refused => ?_⟩
  · rw [accepted] at loaded
    rw [loaded, ← rounded_eq_iff]
    exact ⟨rfl, by simp⟩
  · rw [refused] at loaded
    exact loaded

/-- A life span of one and a half milliseconds is loaded as one millisecond, from a new file as
from one that was there. -/
theorem load_save_half_millisecond :
    ∃ saved,
      save ⟨⟨2, .lfu, some (.ofNanoseconds 1_500_000)⟩, .standard, .standard, "Räume \"☃\""⟩
        .vacant = .ok saved ∧
      save ⟨⟨2, .lfu, some (.ofNanoseconds 1_500_000)⟩, .standard, .standard, "Räume \"☃\""⟩
        (.file .empty) = .ok saved ∧
      load saved = .ok ⟨⟨2, .lfu, some (.ofMillis 1)⟩, .standard, .standard, "Räume \"☃\""⟩ := by
  obtain ⟨writes, reads⟩ :=
    load_save ⟨⟨2, .lfu, some (.ofNanoseconds 1_500_000)⟩, .standard, .standard, "Räume \"☃\""⟩
      ⟨by decide, by decide, by decide⟩ .vacant
  obtain ⟨saved, written⟩ := writes.2 trivial
  refine ⟨saved, written, written, ?_⟩
  rw [((reads saved written).1 (by decide)).1]
  rfl

end EngineConfig

end QueryKit
