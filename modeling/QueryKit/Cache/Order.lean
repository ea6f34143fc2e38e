import QueryKit.Cache.Config

/-!
# Eviction order

The order in which a cache gives up its keys. A recency or insertion order is
one queue. A frequency order is one queue for each number of uses, in ascending
order of that number, with a remembered least frequency; the memory may name a
queue that no longer exists, and is then renewed when a victim is wanted.
-/

namespace QueryKit

variable {Key : Type} [DecidableEq Key]

/-- Queues of keys by frequency, in ascending order of frequency. -/
abbrev Buckets (Key : Type) := List (Nat × List Key)

namespace Buckets

/-- Appends a key to a queue; a key already in it moves to the back. -/
def pushBack (key : Key) (queue : List Key) : List Key := queue.erase key ++ [key]

/-- Moves a key of a queue to the back. -/
def moveToBack (key : Key) (queue : List Key) : List Key :=
  if key ∈ queue then queue.erase key ++ [key] else queue

/-- The buckets with a key at the back of the queue of a frequency. -/
def enter (frequency : Nat) (key : Key) : Buckets Key → Buckets Key
  | [] => [(frequency, [key])]
  | (least, queue) :: rest =>
    if frequency < least then (frequency, [key]) :: (least, queue) :: rest
    else if frequency = least then (least, pushBack key queue) :: rest
    else (least, queue) :: enter frequency key rest

/-- The buckets with the queue of a frequency replaced; an empty queue is not
kept. -/
def replace (frequency : Nat) (remaining : List Key) : Buckets Key → Buckets Key
  | [] => []
  | (least, queue) :: rest =>
    if frequency = least then
      if remaining.isEmpty then rest else (least, remaining) :: rest
    else (least, queue) :: replace frequency remaining rest

/-- The buckets without a key in the queue of a frequency, and whether that queue
is gone. -/
def leave (frequency : Nat) (key : Key) (buckets : Buckets Key) : Bool × Buckets Key :=
  match buckets.lookup frequency with
  | none => (false, buckets)
  | some queue =>
    let remaining := queue.erase key
    (remaining.isEmpty, buckets.replace frequency remaining)

end Buckets

/-- The order in which keys are given up, by policy. -/
inductive EvictionOrder (Key : Type) where
  | recency (queue : List Key)
  | insertion (queue : List Key)
  | frequency (buckets : Buckets Key) (leastFrequency : Nat)
  deriving DecidableEq

namespace EvictionOrder

/-- The empty order of a policy. -/
def empty : EvictionPolicy → EvictionOrder Key
  | .lru => .recency []
  | .fifo => .insertion []
  | .lfu => .frequency [] 0

/-- The order with a new key. -/
def insert (key : Key) : EvictionOrder Key → EvictionOrder Key
  | .recency queue => .recency (Buckets.pushBack key queue)
  | .insertion queue => .insertion (Buckets.pushBack key queue)
  | .frequency buckets _ => .frequency (buckets.enter 0 key) 0

/-- The order after a use of a key that had been used `uses` times before. -/
def access (key : Key) (uses : Nat) : EvictionOrder Key → EvictionOrder Key
  | .recency queue => .recency (Buckets.moveToBack key queue)
  | .insertion queue => .insertion queue
  | .frequency buckets leastFrequency =>
    let (emptied, remaining) := buckets.leave uses key
    .frequency (remaining.enter (uses + 1) key)
      (if emptied ∧ leastFrequency = uses then uses + 1 else leastFrequency)

/-- The order without a key that has been used `uses` times. -/
def remove (key : Key) (uses : Nat) : EvictionOrder Key → EvictionOrder Key
  | .recency queue => .recency (queue.erase key)
  | .insertion queue => .insertion (queue.erase key)
  | .frequency buckets leastFrequency => .frequency (buckets.leave uses key).2 leastFrequency

/-- Takes the first key out of the queue of a frequency. -/
def popBucket (buckets : Buckets Key) (frequency : Nat) : Option Key × EvictionOrder Key :=
  match buckets.lookup frequency with
  | some (key :: rest) => (some key, .frequency (buckets.replace frequency rest) frequency)
  | some [] => (none, .frequency (buckets.replace frequency []) frequency)
  | none => (none, .frequency buckets frequency)

/-- Picks the next key to give up, and the order without it. -/
def victim : EvictionOrder Key → Option Key × EvictionOrder Key
  | .recency [] => (none, .recency [])
  | .recency (key :: rest) => (some key, .recency rest)
  | .insertion [] => (none, .insertion [])
  | .insertion (key :: rest) => (some key, .insertion rest)
  | .frequency buckets leastFrequency =>
    if (buckets.lookup leastFrequency).isSome then popBucket buckets leastFrequency
    else
      match buckets with
      | [] => (none, .frequency [] leastFrequency)
      | (least, queue) :: rest => popBucket ((least, queue) :: rest) least

/-- The keys in the order in which they would be given up. -/
def keys : EvictionOrder Key → List Key
  | .recency queue => queue
  | .insertion queue => queue
  | .frequency buckets _ => buckets.flatMap Prod.snd

/-- The number of keys. -/
def size (order : EvictionOrder Key) : Nat := order.keys.length

/-- The empty order of the same policy. -/
def clear : EvictionOrder Key → EvictionOrder Key
  | .recency _ => .recency []
  | .insertion _ => .insertion []
  | .frequency _ _ => .frequency [] 0

end EvictionOrder

end QueryKit
