import QueryKit.Proofs.Cache.Coherence

/-!
# Runs of cache commands

A property of caches that every operation keeps holds after every run. The clock
belongs to the session and not to the cache, so a command that moves it keeps every
such property. The run from an empty cache reaches every state a cache can be in.
-/

namespace QueryKit

variable {Key Item : Type} [DecidableEq Key]

namespace Cache

/-- A property that no operation destroys, at whatever instant it is carried out. -/
structure Kept (property : Cache Key Item → Prop) : Prop where
  get : ∀ cache key now, property cache → property (cache.get key now).2
  put : ∀ cache key item ttl now, property cache → property (cache.put key item ttl now).2
  remove : ∀ cache key, property cache → property (cache.remove key).2
  clear : ∀ cache, property cache → property cache.clear
  clearExpired : ∀ cache now, property cache → property (cache.clearExpired now).2
  resetStats : ∀ cache, property cache → property cache.resetStats

/-- Every operation keeps a cache well-formed. -/
theorem kept_wellFormed : Kept fun cache : Cache Key Item => cache.WellFormed where
  get := fun _ key now formed => formed.get key now
  put := fun _ key item ttl now formed => formed.put key item ttl now
  remove := fun _ key formed => formed.remove key
  clear := fun _ formed => formed.clear
  clearExpired := fun _ _ formed => formed.dropExpired _
  resetStats := fun _ formed => formed.restat _

/-- No operation changes the configuration. -/
theorem kept_config (config : CacheConfig) :
    Kept fun cache : Cache Key Item => cache.config = config where
  get := fun cache key now same => by rw [get_config, same]
  put := fun cache key item ttl now same => by rw [put_config, same]
  remove := fun cache key same => by
    rw [← same]
    exact take_config cache key
  clear := fun _ same => same
  clearExpired := fun cache now same => by
    rw [← same]
    exact dropExpired_config cache _
  resetStats := fun _ same => same

end Cache

/-- A command as it was carried out. -/
structure CacheStep (Key Item : Type) where
  before : CacheSession Key Item
  command : CacheCommand Key Item
  answer : CacheAnswer Item
  after : CacheSession Key Item

namespace CacheSession

/-- A session that begins with an empty cache. -/
def start (config : CacheConfig) (clock : Clock) : CacheSession Key Item := ⟨clock, .new config⟩

/-- One command keeps what every operation keeps. -/
theorem step_kept {property : Cache Key Item → Prop} (kept : Cache.Kept property)
    (session : CacheSession Key Item) (command : CacheCommand Key Item)
    (holds : property session.cache) : property (session.step command).2.2.cache := by
  cases command with
  | get key => exact kept.get _ key _ holds
  | put key item ttl => exact kept.put _ key item ttl _ holds
  | remove key => exact kept.remove _ key holds
  | clear => exact kept.clear _ holds
  | clearExpired => exact kept.clearExpired _ _ holds
  | resetStats => exact kept.resetStats _ holds
  | peek key => exact holds
  | contains key => exact holds
  | advance span => exact holds

/-- A command and what came of it. -/
def carryOut (session : CacheSession Key Item) (command : CacheCommand Key Item) :
    CacheStep Key Item :=
  ⟨session, command, (session.step command).1, (session.step command).2.2⟩

/-- The steps of a run, first to last. -/
def history (session : CacheSession Key Item) :
    List (CacheCommand Key Item) → List (CacheStep Key Item)
  | [] => []
  | command :: rest => session.carryOut command :: (session.step command).2.2.history rest

/-- A run keeps what every operation keeps. -/
theorem run_kept {property : Cache Key Item → Prop} (kept : Cache.Kept property)
    (session : CacheSession Key Item) (commands : List (CacheCommand Key Item))
    (holds : property session.cache) : property (session.run commands).cache := by
  induction commands generalizing session with
  | nil => exact holds
  | cons command rest ih => exact ih _ (step_kept kept session command holds)

/-- A cache is well-formed at every point of a run from an empty one. -/
theorem wellFormed_run (config : CacheConfig) (clock : Clock)
    (commands : List (CacheCommand Key Item)) :
    ((start config clock).run commands).cache.WellFormed :=
  run_kept Cache.kept_wellFormed _ commands (.new config)

/-- The configuration of a run is the one it began with, with room for an entry. -/
theorem config_run (config : CacheConfig) (clock : Clock)
    (commands : List (CacheCommand Key Item)) :
    ((start config clock).run commands).cache.config =
      { config with maxSize := max config.maxSize 1 } :=
  run_kept (Cache.kept_config _) _ commands rfl

/-- In every state a run reaches, the cache is within its size and its order holds each
key of the table exactly once and no other. Under LFU every key lies in the bucket of
its access count, no bucket is empty, and the remembered frequency, which may name a
bucket that is gone, is at most that of every bucket. So a cache with entries always
finds one to give up, giving up takes exactly that entry, and leaves table and order
equally long. -/
theorem order_tracks_table (config : CacheConfig) (clock : Clock)
    (commands : List (CacheCommand Key Item)) :
    let cache := ((start config clock).run commands).cache
    cache.size ≤ max 1 config.maxSize ∧
    cache.order.keys.Nodup ∧
    cache.order.keys.Perm (cache.entries.map Entry.key) ∧
    (config.policy = .lfu → ∃ buckets leastFrequency,
      cache.order = .frequency buckets leastFrequency ∧
      (∀ entry ∈ cache.entries, ∃ queue, (entry.accessCount, queue) ∈ buckets ∧
        entry.key ∈ queue) ∧
      (∀ bucket ∈ buckets, bucket.2 ≠ []) ∧
      ∀ bucket ∈ buckets, leastFrequency ≤ bucket.1) ∧
    (cache.entries ≠ [] → ∃ entry ∈ cache.entries,
      cache.order.victim.1 = some entry.key ∧
      cache.evict.1 = some entry ∧
      cache.evict.2.entries = (cache.entries.filter fun other => other.key ≠ entry.key) ∧
      cache.evict.2.size + 1 = cache.size) ∧
    cache.evict.2.order.size = cache.evict.2.size := by
  intro cache
  have formed : cache.WellFormed := wellFormed_run config clock commands
  have settings : cache.config = { config with maxSize := max config.maxSize 1 } :=
    config_run config clock commands
  have coherent := formed.coherent
  refine ⟨?_, coherent.sound.distinct, coherent.tracked, ?_, coherent.exists_evict,
    coherent.evict.size_order⟩
  · have bounded := formed.bounded
    rw [settings] at bounded
    rwa [Nat.max_comm]
  · intro lfu
    have policy : cache.order.policy = .lfu := by rw [coherent.policy, settings, lfu]
    have filed := coherent.filed
    have layered := coherent.sound.layered
    -- Only the order that LFU keeps has buckets.
    cases order : cache.order with
    | recency queue => simp [order, EvictionOrder.policy] at policy
    | insertion queue => simp [order, EvictionOrder.policy] at policy
    | frequency buckets leastFrequency =>
      rw [order] at filed layered
      exact ⟨buckets, leastFrequency, rfl, filed, layered.1.inhabited, layered.2⟩

end CacheSession

end QueryKit
