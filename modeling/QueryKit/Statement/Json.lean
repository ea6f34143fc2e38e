import QueryKit.Statement.Cache
import QueryKit.Time.Json

/-!
# Statement cache configuration in JSON
-/

namespace QueryKit.StatementConfig

/-- The names of the fields of a statement cache configuration. -/
def fieldNames : List String := ["max_size", "max_age", "max_idle_time"]

/-- The document of a statement cache configuration. -/
def toJson (config : StatementConfig) : Json :=
  Json.record
    [("max_size", Json.nat config.maxSize), ("max_age", config.maxAge.toJson),
      ("max_idle_time", config.maxIdleTime.toJson)]

/-- The statement cache configuration of a document; missing fields have their
defaults. -/
def ofJson? (document : Json) : Option StatementConfig := do
  let fields ← Json.Fields.of? fieldNames document
  let maxSize ← fields.withDefault "max_size" Json.word? standard.maxSize
  let maxAge ← fields.withDefault "max_age" Duration.ofJson? standard.maxAge
  let maxIdleTime ← fields.withDefault "max_idle_time" Duration.ofJson? standard.maxIdleTime
  some ⟨maxSize, maxAge, maxIdleTime⟩

end QueryKit.StatementConfig
