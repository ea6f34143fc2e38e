import QueryKit.Cache.Config
import QueryKit.Time.Json

/-!
# Cache configuration in JSON
-/

namespace QueryKit

namespace EvictionPolicy

/-- The word for a policy in a configuration. -/
def word : EvictionPolicy → String
  | .lru => "lru"
  | .lfu => "lfu"
  | .fifo => "fifo"

/-- The policy of a word. -/
def ofWord? (text : String) : Option EvictionPolicy :=
  [EvictionPolicy.lru, .lfu, .fifo].find? fun policy => policy.word = text

/-- The document of a policy. -/
def toJson (policy : EvictionPolicy) : Json := Json.text policy.word

/-- The policy of a document: its word, or an object with the word as the name of
its only member and null as the value. -/
def ofJson? : Json → Option EvictionPolicy
  | .string (some text) => ofWord? text
  | .object [(some text, .null)] => ofWord? text
  | _ => none

end EvictionPolicy

namespace CacheConfig

/-- The names of the fields of a cache configuration. -/
def fieldNames : List String := ["max_size", "policy", "default_ttl"]

/-- The document of a cache configuration. -/
def toJson (config : CacheConfig) : Json :=
  Json.record
    [("max_size", Json.nat config.maxSize), ("policy", config.policy.toJson),
      ("default_ttl", Json.ofOption (config.defaultTtl.map Duration.toJson))]

/-- The cache configuration of a document; missing fields have their defaults. -/
def ofJson? (document : Json) : Option CacheConfig := do
  let fields ← Json.Fields.of? fieldNames document
  let maxSize ← fields.withDefault "max_size" Json.word? standard.maxSize
  let policy ← fields.withDefault "policy" EvictionPolicy.ofJson? standard.policy
  let defaultTtl ←
    fields.withDefault "default_ttl" (Json.nullable? Duration.ofJson?) standard.defaultTtl
  some ⟨maxSize, policy, defaultTtl⟩

end CacheConfig

end QueryKit
