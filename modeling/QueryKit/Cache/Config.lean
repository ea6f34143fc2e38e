import QueryKit.Time

/-!
# Cache configuration

The policy that picks what a full cache gives up, its size and the life span of
entries that are stored without one.
-/

namespace QueryKit

/-- Which entry a full cache gives up. -/
inductive EvictionPolicy where
  /-- The one used longest ago. -/
  | lru
  /-- The one used least often. -/
  | lfu
  /-- The one stored longest ago. -/
  | fifo
  deriving DecidableEq

namespace EvictionPolicy

/-- The name shown to people. -/
def name : EvictionPolicy → String
  | .lru => "LRU"
  | .lfu => "LFU"
  | .fifo => "FIFO"

end EvictionPolicy

/-- The configuration of an eviction cache. -/
structure CacheConfig where
  /-- The greatest number of entries. -/
  maxSize : Nat
  policy : EvictionPolicy
  /-- The life span of entries stored without one; `none` lets them live forever. -/
  defaultTtl : Option Duration
  deriving DecidableEq

namespace CacheConfig

/-- The configuration of a size and a policy, without life span. -/
def ofPolicy (maxSize : Nat) (policy : EvictionPolicy) : CacheConfig := ⟨maxSize, policy, none⟩

/-- The default configuration: a hundred entries, least recently used first. -/
def standard : CacheConfig := ofPolicy 100 .lru

end CacheConfig

end QueryKit
