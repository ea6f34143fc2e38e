import QueryKit.Cache.Order
import QueryKit.Cache.Stats

/-!
# Eviction cache

A table of entries with unique keys beside the order in which it gives them up.
Entries may expire; an expired entry keeps its place until a lookup meets it, a
sweep removes it or its turn to be given up comes. Every operation that depends
on time takes the present instant.
-/

namespace QueryKit

/-- A stored item with its history. -/
structure Entry (Key Item : Type) where
  key : Key
  item : Item
  createdAt : Instant
  /-- The life span; `none` lives forever. -/
  ttl : Option Duration
  /-- The number of lookups that found the entry. -/
  accessCount : Nat
  lastAccessedAt : Instant
  deriving DecidableEq

namespace Entry

variable {Key Item : Type}

/-- The last instant of the entry's life, if it has one. -/
def expiresAt (entry : Entry Key Item) : Option Instant := entry.ttl.bind entry.createdAt.plus?

/-- Whether the entry's life is over. -/
def isExpired (entry : Entry Key Item) (now : Instant) : Bool :=
  match entry.expiresAt with
  | some last => last < now
  | none => false

/-- The time since the entry was stored. -/
def age (entry : Entry Key Item) (now : Instant) : Duration := now.since entry.createdAt

/-- The entry after one more lookup. -/
def touch (entry : Entry Key Item) (now : Instant) : Entry Key Item :=
  { entry with accessCount := entry.accessCount + 1, lastAccessedAt := now }

end Entry

/-- A cache of limited size. -/
structure Cache (Key Item : Type) where
  /-- The entries, each key once, in no particular order. -/
  entries : List (Entry Key Item)
  order : EvictionOrder Key
  config : CacheConfig
  stats : CacheStats

/-- What a lookup met. -/
inductive Lookup (Item : Type) where
  /-- No entry. -/
  | absent
  /-- An entry past its expiry, which is gone now. -/
  | expired
  /-- A live entry with this item. -/
  | found (item : Item)
  deriving DecidableEq

namespace Lookup

variable {Item : Type}

/-- The item that was found, if any. -/
def item? : Lookup Item → Option Item
  | .found item => some item
  | _ => none

end Lookup

namespace Cache

variable {Key Item : Type} [DecidableEq Key]

/-- The empty cache of a configuration. There is always room for one entry. -/
def new (config : CacheConfig) : Cache Key Item where
  entries := []
  order := EvictionOrder.empty config.policy
  config := { config with maxSize := max config.maxSize 1 }
  stats := CacheStats.zero

/-- The entry of a key, expired or not. -/
def find? (cache : Cache Key Item) (key : Key) : Option (Entry Key Item) :=
  cache.entries.find? fun entry => entry.key = key

/-- The table without a key. -/
def without (key : Key) (entries : List (Entry Key Item)) : List (Entry Key Item) :=
  entries.filter fun entry => entry.key ≠ key

/-- Takes the entry of a key out of the table and out of the order. -/
def take (cache : Cache Key Item) (key : Key) : Option (Entry Key Item) × Cache Key Item :=
  match cache.find? key with
  | none => (none, cache)
  | some entry =>
    (some entry,
      { cache with
        entries := without key cache.entries
        order := cache.order.remove key entry.accessCount })

/-- Looks a key up, as a use of its entry. An entry past its expiry is removed. -/
def get (cache : Cache Key Item) (key : Key) (now : Instant) : Lookup Item × Cache Key Item :=
  match cache.find? key with
  | none => (.absent, { cache with stats := cache.stats.miss })
  | some entry =>
    if entry.isExpired now then
      let remaining := (cache.take key).2
      (.expired, { remaining with stats := remaining.stats.expiration.miss })
    else
      (.found entry.item,
        { cache with
          entries := cache.entries.map fun other =>
            if other.key = key then other.touch now else other
          order := cache.order.access key entry.accessCount
          stats := cache.stats.hit })

/-- Gives up one entry. -/
def evict (cache : Cache Key Item) : Option (Entry Key Item) × Cache Key Item :=
  match cache.order.victim with
  | (none, _) => (none, cache)
  | (some key, order) =>
    match cache.find? key with
    | some entry =>
      (some entry,
        { cache with
          entries := without key cache.entries
          order := order
          stats := cache.stats.eviction })
    | none => (none, { cache with order := order })

/-- Stores a fresh entry under a key that has none. -/
def store (cache : Cache Key Item) (key : Key) (item : Item) (ttl : Option Duration)
    (now : Instant) : Cache Key Item :=
  { cache with
    entries := cache.entries ++ [⟨key, item, now, ttl, 0, now⟩]
    order := cache.order.insert key
    stats := cache.stats.insertion }

/-- Whether the table has no room for another key. -/
def isFull (cache : Cache Key Item) : Bool := cache.config.maxSize ≤ cache.entries.length

/-- Stores an item under a key, in place of any entry of that key; a new key in a
full cache makes it give up one entry, which is the answer. -/
def put (cache : Cache Key Item) (key : Key) (item : Item) (ttl : Option Duration)
    (now : Instant) : Option (Entry Key Item) × Cache Key Item :=
  let life := ttl.or cache.config.defaultTtl
  match cache.take key with
  | (some _, remaining) => (none, remaining.store key item life now)
  | (none, cache) =>
    if cache.isFull then
      let (evicted, remaining) := cache.evict
      (evicted, remaining.store key item life now)
    else (none, cache.store key item life now)

/-- Removes a key; the answer is whether it had an entry, expired or not. -/
def remove (cache : Cache Key Item) (key : Key) : Bool × Cache Key Item :=
  let (entry, remaining) := cache.take key
  (entry.isSome, remaining)

/-- Removes all entries and keeps the counters. -/
def clear (cache : Cache Key Item) : Cache Key Item :=
  { cache with entries := [], order := cache.order.clear }

/-- Whether a key has a live entry. -/
def contains (cache : Cache Key Item) (key : Key) (now : Instant) : Bool :=
  match cache.find? key with
  | some entry => !entry.isExpired now
  | none => false

/-- The item of a live entry, without using it. -/
def peek (cache : Cache Key Item) (key : Key) (now : Instant) : Option Item :=
  match cache.find? key with
  | some entry => if entry.isExpired now then none else some entry.item
  | none => none

/-- Drops the entries of the given keys as expired, one after the other. -/
def dropExpired (cache : Cache Key Item) : List Key → Cache Key Item
  | [] => cache
  | key :: rest =>
    let remaining := (cache.take key).2
    dropExpired { remaining with stats := remaining.stats.expiration } rest

/-- The keys of the entries past their expiry, in the order of the table. -/
def expiredKeys (cache : Cache Key Item) (now : Instant) : List Key :=
  (cache.entries.filter fun entry => entry.isExpired now).map Entry.key

/-- Removes all entries past their expiry; the answer is their number. -/
def clearExpired (cache : Cache Key Item) (now : Instant) : Nat × Cache Key Item :=
  let expired := cache.expiredKeys now
  (expired.length, cache.dropExpired expired)

/-- The keys of the live entries, first to be given up first. -/
def keys (cache : Cache Key Item) (now : Instant) : List Key :=
  cache.order.keys.filter fun key => cache.contains key now

/-- The live entries, first to be given up first. -/
def liveEntries (cache : Cache Key Item) (now : Instant) : List (Entry Key Item) :=
  (cache.order.keys.filterMap cache.find?).filter fun entry => !entry.isExpired now

/-- The number of entries, expired ones included. -/
def size (cache : Cache Key Item) : Nat := cache.entries.length

/-- Whether there is no entry, expired or not. -/
def isEmpty (cache : Cache Key Item) : Bool := cache.entries.isEmpty

/-- Sets all counters to zero. -/
def resetStats (cache : Cache Key Item) : Cache Key Item := { cache with stats := CacheStats.zero }

end Cache

end QueryKit
