import QueryKit.Cache.Basic
import QueryKit.Event

/-!
# Cache sessions

Commands to a cache as data, and the run of a list of them. A session is a cache
with its clock; a command gives an answer, the events it caused and the session
after it. Handles of a shared cache all speak to one session, so a command of a
shared cache may contain the commands of a computation that runs in the middle
of it.
-/

namespace QueryKit

/-- A cache and its clock. -/
structure CacheSession (Key Item : Type) where
  clock : Clock
  cache : Cache Key Item

/-- A command to a cache. -/
inductive CacheCommand (Key Item : Type) where
  | get (key : Key)
  | peek (key : Key)
  | put (key : Key) (item : Item) (ttl : Option Duration)
  | remove (key : Key)
  | contains (key : Key)
  | clear
  | clearExpired
  | resetStats
  | advance (span : Duration)

/-- The answer to a command. -/
inductive CacheAnswer (Item : Type) where
  | done
  | item (found : Option Item)
  | flag (value : Bool)
  | count (value : Nat)

namespace CacheSession

variable {Key Item : Type} [DecidableEq Key]

/-- The present instant. -/
def now (session : CacheSession Key Item) : Instant := session.clock.monotonic

/-- The event of a lookup. -/
def lookupEvents (policy : EvictionPolicy) : Lookup Item → List Event
  | .expired => [.expiredEntryDropped policy.name]
  | _ => []

/-- The event of an entry that was given up. -/
def evictionEvents (policy : EvictionPolicy) (now : Instant) :
    Option (Entry Key Item) → List Event
  | some entry => [.entryEvicted policy.name entry.accessCount (entry.age now)]
  | none => []

/-- The event of a sweep. -/
def sweepEvents (count : Nat) : List Event :=
  if count = 0 then [] else [.expiredEntriesCleared count]

/-- A lookup in a session. -/
def get (session : CacheSession Key Item) (key : Key) :
    Lookup Item × List Event × CacheSession Key Item :=
  let (lookup, cache) := session.cache.get key session.now
  (lookup, lookupEvents cache.config.policy lookup, { session with cache := cache })

/-- A store in a session. -/
def put (session : CacheSession Key Item) (key : Key) (item : Item) (ttl : Option Duration) :
    List Event × CacheSession Key Item :=
  let (evicted, cache) := session.cache.put key item ttl session.now
  (evictionEvents cache.config.policy session.now evicted, { session with cache := cache })

/-- Carries out a command. -/
def step (session : CacheSession Key Item) :
    CacheCommand Key Item → CacheAnswer Item × List Event × CacheSession Key Item
  | .get key =>
    let (lookup, events, after) := session.get key
    (.item lookup.item?, events, after)
  | .peek key => (.item (session.cache.peek key session.now), [], session)
  | .put key item ttl =>
    let (events, after) := session.put key item ttl
    (.done, events, after)
  | .remove key =>
    let (removed, cache) := session.cache.remove key
    (.flag removed, [], { session with cache := cache })
  | .contains key => (.flag (session.cache.contains key session.now), [], session)
  | .clear => (.done, [], { session with cache := session.cache.clear })
  | .clearExpired =>
    let (count, cache) := session.cache.clearExpired session.now
    (.count count, sweepEvents count, { session with cache := cache })
  | .resetStats => (.done, [], { session with cache := session.cache.resetStats })
  | .advance span => (.done, [], { session with clock := session.clock.advance span })

/-- The session after a list of commands. -/
def run (session : CacheSession Key Item) : List (CacheCommand Key Item) → CacheSession Key Item
  | [] => session
  | command :: rest => (session.step command).2.2.run rest

end CacheSession

/-- A command to a shared cache. -/
inductive SharedCommand (Key Item : Type) where
  /-- A command to the cache itself. -/
  | plain (command : CacheCommand Key Item)
  /-- Looks at the cache and changes nothing. -/
  | inspect
  /-- Looks a key up and, if it is not live, runs a computation that carries out
  commands of its own and ends with an item to store. -/
  | getOrInsert (key : Key) (ttl : Option Duration) (computation : List (SharedCommand Key Item))
      (item : Item)

/-- The answer to a command to a shared cache. -/
inductive SharedAnswer (Key Item : Type) where
  | plain (answer : CacheAnswer Item)
  /-- The cache as it is, with its clock. -/
  | inspected (session : CacheSession Key Item)
  /-- The item that counts, and the answers of the computation if it ran. -/
  | inserted (item : Item) (computation : Option (List (SharedAnswer Key Item)))

namespace SharedCache

variable {Key Item : Type} [DecidableEq Key]

/-- Ends a computation: an item stored under the key in the meantime counts, and
otherwise the computed one is stored. -/
def settle (session : CacheSession Key Item) (key : Key) (ttl : Option Duration) (item : Item) :
    Item × List Event × CacheSession Key Item :=
  match session.cache.peek key session.now with
  | some stored => (stored, [], session)
  | none =>
    let (events, after) := session.put key item ttl
    (item, events, after)

mutual

/-- Carries out a command to a shared cache. -/
def step (session : CacheSession Key Item) :
    SharedCommand Key Item → SharedAnswer Key Item × List Event × CacheSession Key Item
  | .plain command =>
    let (answer, events, after) := session.step command
    (.plain answer, events, after)
  | .inspect => (.inspected session, [], session)
  | .getOrInsert key ttl computation item =>
    let (lookup, lookupEvents, looked) := session.get key
    match lookup.item? with
    | some stored => (.inserted stored none, lookupEvents, looked)
    | none =>
      let (answers, computationEvents, computed) := steps looked computation
      let (counted, settleEvents, after) := settle computed key ttl item
      (.inserted counted (some answers), lookupEvents ++ computationEvents ++ settleEvents, after)

/-- Carries out commands to a shared cache one after the other. -/
def steps (session : CacheSession Key Item) :
    List (SharedCommand Key Item) →
      List (SharedAnswer Key Item) × List Event × CacheSession Key Item
  | [] => ([], [], session)
  | command :: rest =>
    let (answer, events, after) := step session command
    let (answers, laterEvents, last) := steps after rest
    (answer :: answers, events ++ laterEvents, last)

end

end SharedCache

end QueryKit
