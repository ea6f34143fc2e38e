import QueryKit.Proofs.Cache.Run

/-!
# A cache as a plain ledger

The ledger is a cache without any order structure: one list of records, each an entry
with the number of the command that last placed it. What a full ledger gives up is
said outright, as the record that no other precedes. A session with its table and its
order gives the same replies as the ledger, command for command, and holds the same
entries all the time.
-/

namespace QueryKit

variable {Key Item : Type}

/-- An entry with the number of the command that last placed it. -/
structure Placed (Key Item : Type) where
  entry : Entry Key Item
  tick : Nat

namespace Placed

/-- One record is to be given up before another. -/
def Precedes (policy : EvictionPolicy) (first second : Placed Key Item) : Prop :=
  match policy with
  | .lru => first.tick < second.tick
  | .fifo => first.tick < second.tick
  | .lfu => first.entry.accessCount < second.entry.accessCount ∨
      first.entry.accessCount = second.entry.accessCount ∧ first.tick < second.tick

instance (policy : EvictionPolicy) (first second : Placed Key Item) :
    Decidable (first.Precedes policy second) := by
  cases policy <;> unfold Precedes <;> infer_instance

/-- Of two records at most one precedes the other. -/
theorem Precedes.asymm {policy : EvictionPolicy} {first second : Placed Key Item}
    (precedes : first.Precedes policy second) : ¬ second.Precedes policy first := by
  cases policy <;> simp only [Precedes] at precedes ⊢ <;> omega

/-- A record after a hit. It counts for the entry and, but for FIFO, places it anew. -/
def use (policy : EvictionPolicy) (now : Instant) (tick : Nat) (record : Placed Key Item) :
    Placed Key Item :=
  ⟨record.entry.touch now, if policy = .fifo then record.tick else tick⟩

end Placed

/-- A cache that keeps no order: its records, with the number of commands so far. -/
structure Ledger (Key Item : Type) where
  clock : Clock
  config : CacheConfig
  tick : Nat
  records : List (Placed Key Item)

namespace Ledger

/-- The empty ledger. -/
def start (config : CacheConfig) (clock : Clock) : Ledger Key Item := ⟨clock, config, 0, []⟩

/-- The number of records that fit; there is always room for one. -/
def capacity (ledger : Ledger Key Item) : Nat := max ledger.config.maxSize 1

/-- A record that precedes all others. -/
def Least (ledger : Ledger Key Item) (record : Placed Key Item) : Prop :=
  record ∈ ledger.records ∧
    ∀ other ∈ ledger.records, other ≠ record → record.Precedes ledger.config.policy other

/-- The record to give up: the one that no other precedes. -/
def next? (ledger : Ledger Key Item) : Option (Placed Key Item) :=
  ledger.records.find? fun record =>
    ledger.records.all fun other => ¬ other.Precedes ledger.config.policy record

variable [DecidableEq Key]

/-- The record of a key. -/
def find? (ledger : Ledger Key Item) (key : Key) : Option (Placed Key Item) :=
  ledger.records.find? fun record => record.entry.key = key

/-- The records of all other keys. -/
def others (ledger : Ledger Key Item) (key : Key) : List (Placed Key Item) :=
  ledger.records.filter fun record => record.entry.key ≠ key

/-- A lookup. An expired entry is removed, and a live one is used. -/
def get (ledger : Ledger Key Item) (key : Key) : Lookup Item × Ledger Key Item :=
  let now := ledger.clock.monotonic
  match ledger.find? key with
  | none => (.absent, ledger)
  | some record =>
    if record.entry.isExpired now then (.expired, { ledger with records := ledger.others key })
    else
      (.found record.entry.item,
        { ledger with
          records := ledger.records.map fun other =>
            if other.entry.key = key then other.use ledger.config.policy now ledger.tick
            else other })

/-- A store. Only a new key in a full ledger costs a record. -/
def put (ledger : Ledger Key Item) (key : Key) (item : Item) (ttl : Option Duration) :
    Option (Entry Key Item) × Ledger Key Item :=
  let now := ledger.clock.monotonic
  let placed : Placed Key Item :=
    ⟨⟨key, item, now, ttl.or ledger.config.defaultTtl, 0, now⟩, ledger.tick⟩
  if (ledger.find? key).isSome then
    (none, { ledger with records := ledger.others key ++ [placed] })
  else if ledger.records.length < ledger.capacity then
    (none, { ledger with records := ledger.records ++ [placed] })
  else
    match ledger.next? with
    | some victim =>
      (some victim.entry, { ledger with records := ledger.others victim.entry.key ++ [placed] })
    | none => (none, { ledger with records := ledger.records ++ [placed] })

/-- The live entry of a key. -/
def live? (ledger : Ledger Key Item) (key : Key) : Option (Entry Key Item) :=
  ((ledger.find? key).map Placed.entry).filter fun entry =>
    !entry.isExpired ledger.clock.monotonic

/-- A lookup changes records only. -/
theorem get_frame (ledger : Ledger Key Item) (key : Key) :
    (ledger.get key).2.clock = ledger.clock ∧ (ledger.get key).2.config = ledger.config := by
  unfold get
  cases ledger.find? key with
  | none => exact ⟨rfl, rfl⟩
  | some record => cases expired : record.entry.isExpired ledger.clock.monotonic <;> simp [expired]

/-- A store changes records only. -/
theorem put_frame (ledger : Ledger Key Item) (key : Key) (item : Item) (ttl : Option Duration) :
    (ledger.put key item ttl).2.clock = ledger.clock ∧
      (ledger.put key item ttl).2.config = ledger.config := by
  unfold put
  cases ledger.find? key with
  | some record => exact ⟨rfl, rfl⟩
  | none =>
    by_cases room : ledger.records.length < ledger.capacity
    · simp [room]
    · cases ledger.next? <;> simp [room]

/-- A store adds a record to some of the records of other keys. -/
theorem exists_put (ledger : Ledger Key Item) (key : Key) (item : Item) (ttl : Option Duration) :
    ∃ kept : List (Placed Key Item),
      (ledger.put key item ttl).2.records =
        kept ++ [⟨⟨key, item, ledger.clock.monotonic, ttl.or ledger.config.defaultTtl, 0,
          ledger.clock.monotonic⟩, ledger.tick⟩] ∧
      ∀ record ∈ kept, record ∈ ledger.records ∧ record.entry.key ≠ key := by
  cases found : ledger.find? key with
  | some record =>
    refine ⟨ledger.others key, by simp [put, found], fun other member => ?_⟩
    simpa [others] using member
  | none =>
    have elsewhere : ∀ record ∈ ledger.records, record.entry.key ≠ key := by
      simpa [find?] using found
    by_cases room : ledger.records.length < ledger.capacity
    · exact ⟨ledger.records, by simp [put, found, room],
        fun record member => ⟨member, elsewhere record member⟩⟩
    · cases next : ledger.next? with
      | none =>
        exact ⟨ledger.records, by simp [put, found, room, next],
          fun record member => ⟨member, elsewhere record member⟩⟩
      | some victim =>
        refine ⟨ledger.others victim.entry.key, by simp [put, found, room, next], ?_⟩
        intro record member
        have inRecords := List.mem_of_mem_filter member
        exact ⟨inRecords, elsewhere record inRecords⟩

/-- What a command answers and reports, and what it leaves. -/
def act (ledger : Ledger Key Item) :
    CacheCommand Key Item → CacheAnswer Item × List Event × Ledger Key Item
  | .get key =>
    let (lookup, after) := ledger.get key
    (.item lookup.item?, CacheSession.lookupEvents ledger.config.policy lookup, after)
  | .peek key => (.item ((ledger.live? key).map Entry.item), [], ledger)
  | .put key item ttl =>
    let (evicted, after) := ledger.put key item ttl
    (.done, CacheSession.evictionEvents ledger.config.policy ledger.clock.monotonic evicted, after)
  | .remove key =>
    (.flag (ledger.find? key).isSome, [], { ledger with records := ledger.others key })
  | .contains key => (.flag (ledger.live? key).isSome, [], ledger)
  | .clear => (.done, [], { ledger with records := [] })
  | .clearExpired =>
    let (expired, kept) := ledger.records.partition fun record =>
      record.entry.isExpired ledger.clock.monotonic
    (.count expired.length, CacheSession.sweepEvents expired.length,
      { ledger with records := kept })
  | .resetStats => (.done, [], ledger)
  | .advance span => (.done, [], { ledger with clock := ledger.clock.advance span })

/-- Carries out a command and counts it. -/
def step (ledger : Ledger Key Item) (command : CacheCommand Key Item) :
    CacheAnswer Item × List Event × Ledger Key Item :=
  let (answer, events, after) := ledger.act command
  (answer, events, { after with tick := ledger.tick + 1 })

/-- The ledger after a list of commands. -/
def run (ledger : Ledger Key Item) : List (CacheCommand Key Item) → Ledger Key Item
  | [] => ledger
  | command :: rest => (ledger.step command).2.2.run rest

/-- The answers to a list of commands, each with the events it caused. -/
def replies (ledger : Ledger Key Item) :
    List (CacheCommand Key Item) → List (CacheAnswer Item × List Event)
  | [] => []
  | command :: rest =>
    let (answer, events, after) := ledger.step command
    (answer, events) :: after.replies rest

end Ledger

end QueryKit
