import QueryKit.Number.Binary64

/-!
# Cache counters
-/

namespace QueryKit

/-- What an eviction cache has counted. -/
structure CacheStats where
  /-- Lookups that found a live entry. -/
  hits : Nat
  /-- Lookups that found none, or one past its expiry. -/
  misses : Nat
  /-- Entries stored. -/
  insertions : Nat
  /-- Entries given up to make room. -/
  evictions : Nat
  /-- Entries dropped because they were past their expiry. -/
  expirations : Nat
  deriving DecidableEq

namespace CacheStats

/-- All counters at zero. -/
def zero : CacheStats := ⟨0, 0, 0, 0, 0⟩

/-- The number of lookups. -/
def totalRequests (stats : CacheStats) : Nat := stats.hits + stats.misses

/-- The share of lookups that found a live entry. -/
def hitRate (stats : CacheStats) : Binary64 := Binary64.share stats.hits stats.totalRequests

/-- One more lookup that found a live entry. -/
def hit (stats : CacheStats) : CacheStats := { stats with hits := stats.hits + 1 }

/-- One more lookup that found none. -/
def miss (stats : CacheStats) : CacheStats := { stats with misses := stats.misses + 1 }

/-- One more stored entry. -/
def insertion (stats : CacheStats) : CacheStats :=
  { stats with insertions := stats.insertions + 1 }

/-- One more entry given up. -/
def eviction (stats : CacheStats) : CacheStats := { stats with evictions := stats.evictions + 1 }

/-- One more entry dropped past its expiry. -/
def expiration (stats : CacheStats) : CacheStats :=
  { stats with expirations := stats.expirations + 1 }

end CacheStats

end QueryKit
