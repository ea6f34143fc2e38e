import QueryKit.Proofs.Cache.Ledger

/-!
# The cache replies like the ledger

A cache represents a list of records when it is coherent, holds their entries, and has
within each of its queues the older tick ahead. Dropping, gaining and using a key keep
this relation, and from it follows that the key the order gives up belongs to the record
that no other precedes.
-/

namespace QueryKit

variable {Key Item : Type}

/-- Every record of the first key was placed before every record of the second. -/
def Earlier (records : List (Placed Key Item)) (first second : Key) : Prop :=
  ∀ before ∈ records, ∀ after ∈ records, before.entry.key = first → after.entry.key = second →
    before.tick < after.tick

variable [DecidableEq Key]

/-- A cache holds the entries of these records, all placed before a tick, and lines
them up by it. -/
structure Represents (cache : Cache Key Item) (records : List (Placed Key Item)) (tick : Nat) :
    Prop where
  coherent : cache.Coherent
  entries : cache.entries = records.map Placed.entry
  queued : cache.order.Queued (Earlier records)
  recent : ∀ record ∈ records, record.tick < tick

namespace Represents

variable {cache after : Cache Key Item} {records : List (Placed Key Item)} {tick : Nat}

omit [DecidableEq Key] in
/-- Time alone changes nothing. -/
theorem later (represents : Represents cache records tick) :
    Represents cache records (tick + 1) :=
  { represents with
    recent := fun record member => Nat.lt_succ_of_lt (represents.recent record member) }

omit [DecidableEq Key] in
/-- The counters do not matter. -/
theorem restat (represents : Represents cache records tick) (stats : CacheStats) :
    Represents { cache with stats := stats } records tick :=
  { represents with coherent := represents.coherent.restat stats }

omit [DecidableEq Key] in
/-- The table holds the entry of every record. -/
theorem entry_mem (represents : Represents cache records tick) {record : Placed Key Item}
    (member : record ∈ records) : record.entry ∈ cache.entries := by
  rw [represents.entries]
  exact List.mem_map_of_mem member

omit [DecidableEq Key] in
/-- There is a record for every entry. -/
theorem length (represents : Represents cache records tick) :
    cache.entries.length = records.length := by
  rw [represents.entries, List.length_map]

omit [DecidableEq Key] in
/-- The keys of the records are distinct. -/
theorem distinct (represents : Represents cache records tick) :
    (records.map fun record => record.entry.key).Nodup := by
  have distinct := represents.coherent.distinct
  rw [represents.entries, List.map_map] at distinct
  exact distinct

/-- A lookup in the table is a lookup among the records. -/
theorem find? (represents : Represents cache records tick) (key : Key) :
    cache.find? key = (records.find? fun record => record.entry.key = key).map Placed.entry := by
  rw [Cache.find?, represents.entries, List.find?_map]
  rfl

omit [DecidableEq Key] in
/-- A key of the order is the key of a record. -/
theorem exists_record (represents : Represents cache records tick) {key : Key}
    (member : key ∈ cache.order.keys) : ∃ record ∈ records, record.entry.key = key := by
  obtain ⟨entry, inTable, same⟩ := represents.coherent.mem_keys_iff.1 member
  rw [represents.entries] at inTable
  obtain ⟨record, inRecords, rfl⟩ := List.mem_map.1 inTable
  exact ⟨record, inRecords, same⟩

/-- The table without a key holds the entries of the other records. -/
theorem without_eq (represents : Represents cache records tick) (key : Key) :
    Cache.without key cache.entries =
      (records.filter fun record => record.entry.key ≠ key).map Placed.entry := by
  rw [Cache.without, represents.entries, List.filter_map]
  rfl

/-- A key dropped on both sides. -/
theorem drop (represents : Represents cache records tick) {key : Key}
    (table : after.entries = Cache.without key cache.entries)
    (order : EvictionOrder.Drops key cache.order after.order)
    (config : after.config = cache.config) :
    Represents after (records.filter fun record => record.entry.key ≠ key) tick where
  coherent := represents.coherent.drop table order config
  entries := by rw [table, represents.without_eq]
  queued := by
    refine (order.queued _ represents.queued).imp_of_mem fun first _ second _ before => ?_
    intro left leftMember right rightMember
    exact before left (List.mem_of_mem_filter leftMember) right (List.mem_of_mem_filter rightMember)
  recent := fun record member => represents.recent record (List.mem_of_mem_filter member)

omit [DecidableEq Key] in
/-- A key gained behind the others is lined up by tick when only its own record is
placed at the present tick. -/
theorem queued_of_gains {order middle : EvictionOrder Key} {placed : List (Placed Key Item)}
    {key : Key} {uses : Nat} (gains : EvictionOrder.Gains key uses middle order)
    (queued : middle.Queued (Earlier records)) (recent : ∀ record ∈ records, record.tick < tick)
    (old : ∀ other ∈ middle.keys, ∀ record ∈ placed, record.entry.key = other → record ∈ records)
    (new : ∀ record ∈ placed, record.entry.key = key → record.tick = tick) :
    order.Queued (Earlier placed) := by
  refine gains.queued _ (queued.imp_of_mem ?_) ?_
  · intro first inFirst second inSecond before left leftMember right rightMember leftKey rightKey
    exact before left (old first inFirst left leftMember leftKey) right
      (old second inSecond right rightMember rightKey) leftKey rightKey
  · intro other inKeys left leftMember right rightMember leftKey rightKey
    rw [new right rightMember rightKey]
    exact recent left (old other inKeys left leftMember leftKey)

/-- A new key gained on both sides, at the present tick. -/
theorem gain (represents : Represents cache records tick) {entry : Entry Key Item}
    (absent : cache.find? entry.key = none) (table : after.entries = cache.entries ++ [entry])
    (order : EvictionOrder.Gains entry.key entry.accessCount cache.order after.order)
    (config : after.config = cache.config) :
    Represents after (records ++ [⟨entry, tick⟩]) (tick + 1) where
  coherent := represents.coherent.gain table order config
  entries := by rw [table, represents.entries, List.map_append, List.map_singleton]
  queued := by
    have fresh : entry.key ∉ cache.order.keys := represents.coherent.not_mem_keys absent
    refine queued_of_gains order represents.queued represents.recent ?_ ?_
    · intro key inKeys record member same
      rcases List.mem_append.1 member with member | member
      · exact member
      · rw [List.mem_singleton.1 member] at same
        exact absurd (same ▸ inKeys) fresh
    · intro record member same
      rcases List.mem_append.1 member with member | member
      · exact absurd same (Cache.find?_eq_none_iff.1 absent _ (represents.entry_mem member))
      · rw [List.mem_singleton.1 member]
  recent := by
    intro record member
    rcases List.mem_append.1 member with member | member
    · exact Nat.lt_succ_of_lt (represents.recent record member)
    · rw [List.mem_singleton.1 member]
      exact Nat.lt_succ_self tick

/-- A stored entry is a record placed at the present tick. -/
theorem store (represents : Represents cache records tick) {key : Key}
    (absent : cache.find? key = none) (item : Item) (ttl : Option Duration) (now : Instant) :
    Represents (cache.store key item ttl now) (records ++ [⟨⟨key, item, now, ttl, 0, now⟩, tick⟩])
      (tick + 1) :=
  represents.gain absent rfl (EvictionOrder.gains_insert represents.coherent.sound
    (represents.coherent.not_mem_keys absent)) rfl

/-- Taking a key drops its record, if it has one. -/
theorem take (represents : Represents cache records tick) (key : Key) :
    Represents (cache.take key).2 (records.filter fun record => record.entry.key ≠ key) tick := by
  cases found : cache.find? key with
  | some entry =>
    exact represents.drop (Cache.take_entries cache key) (represents.coherent.drops_take found)
      (Cache.take_config cache key)
  | none =>
    have elsewhere : ∀ record ∈ records, record.entry.key ≠ key := fun record member =>
      Cache.find?_eq_none_iff.1 found record.entry (represents.entry_mem member)
    rwa [Cache.take_of_absent found, List.filter_eq_self.2 (by simpa using elsewhere)]

/-- Dropping keys one after the other drops the records of all of them. -/
theorem dropExpired (represents : Represents cache records tick) (keys : List Key) :
    Represents (cache.dropExpired keys)
      (records.filter fun record => record.entry.key ∉ keys) tick := by
  induction keys generalizing cache records with
  | nil => simpa [Cache.dropExpired] using represents
  | cons key rest ih =>
    have rested := ih ((represents.take key).restat ((cache.take key).2.stats.expiration))
    rw [List.filter_filter] at rested
    have both : (fun record : Placed Key Item => decide (record.entry.key ∉ key :: rest)) =
        fun record => decide (record.entry.key ∉ rest) && decide (record.entry.key ≠ key) := by
      funext record
      by_cases here : record.entry.key = key <;> simp [here]
    rwa [both]

/-- A key used on both sides, at the present tick. -/
theorem touch (represents : Represents cache records tick) {key : Key} {entry : Entry Key Item}
    (found : cache.find? key = some entry) {now : Instant}
    (table : after.entries = Cache.touched key now cache.entries)
    (order : after.order = cache.order.access key entry.accessCount)
    (config : after.config = cache.config) :
    Represents after
      (records.map fun record =>
        if record.entry.key = key then record.use cache.config.policy now tick else record)
      (tick + 1) where
  coherent := represents.coherent.touch found table order config
  entries := by
    rw [table, represents.entries, Cache.touched, List.map_map, List.map_map]
    refine List.map_congr_left fun record _ => ?_
    simp only [Function.comp_apply]
    split <;> rfl
  queued := by
    obtain ⟨member, rfl⟩ := Cache.mem_of_find? found
    have filed := represents.coherent.filed entry member
    have policy := represents.coherent.policy
    by_cases fifo : cache.config.policy = .fifo
    · rw [order, EvictionOrder.access_of_fifo (policy.trans fifo)]
      refine represents.queued.imp_of_mem fun first _ second _ before => ?_
      intro left leftMember right rightMember leftKey rightKey
      obtain ⟨oldLeft, oldLeftMember, rfl⟩ := List.mem_map.1 leftMember
      obtain ⟨oldRight, oldRightMember, rfl⟩ := List.mem_map.1 rightMember
      -- Under FIFO a use changes neither the key nor the tick of a record.
      have kept : ∀ record : Placed Key Item,
          (if record.entry.key = entry.key then record.use cache.config.policy now tick
            else record).entry.key = record.entry.key ∧
          (if record.entry.key = entry.key then record.use cache.config.policy now tick
            else record).tick = record.tick := by
        intro record
        split
        · exact ⟨rfl, if_pos fifo⟩
        · exact ⟨rfl, rfl⟩
      rw [(kept oldLeft).1] at leftKey
      rw [(kept oldRight).1] at rightKey
      rw [(kept oldLeft).2, (kept oldRight).2]
      exact before oldLeft oldLeftMember oldRight oldRightMember leftKey rightKey
    · obtain ⟨middle, drops, gains⟩ := EvictionOrder.exists_access represents.coherent.sound
        (fun same => fifo (policy ▸ same)) filed
      rw [← order] at gains
      refine queued_of_gains gains (drops.queued _ represents.queued) represents.recent ?_ ?_
      · intro other inKeys record recordMember same
        obtain ⟨before, beforeMember, rfl⟩ := List.mem_map.1 recordMember
        by_cases here : before.entry.key = entry.key
        · rw [if_pos here] at same
          rw [drops.keys, represents.coherent.sound.distinct.mem_erase_iff] at inKeys
          exact absurd (same.symm.trans here) inKeys.1
        · rwa [if_neg here]
      · intro record recordMember same
        obtain ⟨before, beforeMember, rfl⟩ := List.mem_map.1 recordMember
        by_cases here : before.entry.key = entry.key
        · rw [if_pos here, Placed.use, if_neg fifo]
        · rw [if_neg here] at same
          exact absurd same here
  recent := by
    intro record member
    obtain ⟨before, beforeMember, rfl⟩ := List.mem_map.1 member
    have beforeTick := represents.recent before beforeMember
    split
    · simp only [Placed.use]
      split <;> omega
    · omega

omit [DecidableEq Key] in
/-- What the order gives up before something else precedes it. -/
theorem precedes_of_ahead (represents : Represents cache records tick)
    {first second : Placed Key Item} (inFirst : first ∈ records) (inSecond : second ∈ records)
    (ahead : cache.order.Ahead (Earlier records) first.entry.key second.entry.key) :
    first.Precedes cache.config.policy second := by
  have filed : ∀ record ∈ records,
      cache.order.Files record.entry.accessCount record.entry.key :=
    fun record member => represents.coherent.filed _ (represents.entry_mem member)
  have sound := represents.coherent.sound
  rw [← represents.coherent.policy]
  cases order : cache.order with
  | recency queue =>
    rw [order] at ahead
    exact ahead first inFirst second inSecond rfl rfl
  | insertion queue =>
    rw [order] at ahead
    exact ahead first inFirst second inSecond rfl rfl
  | frequency buckets leastFrequency =>
    rw [order] at ahead filed sound
    obtain ⟨lower, higher, holdsLower, holdsHigher, before⟩ := ahead
    have sameLower := sound.files_unique rfl (filed first inFirst) holdsLower
    have sameHigher := sound.files_unique rfl (filed second inSecond) holdsHigher
    rw [sameLower, sameHigher] at before
    rcases before with less | ⟨equal, earlier⟩
    · exact .inl less
    · exact .inr ⟨equal, earlier first inFirst second inSecond rfl rfl⟩

omit [DecidableEq Key] in
/-- The record of the first key precedes all others. -/
theorem exists_least (represents : Represents cache records tick) {key : Key} {rest : List Key}
    (ahead : cache.order.keys = key :: rest) :
    ∃ record ∈ records, record.entry.key = key ∧
      ∀ other ∈ records, other ≠ record → record.Precedes cache.config.policy other := by
  obtain ⟨record, member, same⟩ := represents.exists_record (ahead ▸ List.mem_cons_self)
  refine ⟨record, member, same, fun other otherMember different => ?_⟩
  have sorted := EvictionOrder.keys_pairwise represents.coherent.sound represents.queued
  have listed : other.entry.key ∈ cache.order.keys :=
    represents.coherent.mem_keys_iff.2 ⟨other.entry, represents.entry_mem otherMember, rfl⟩
  rw [ahead] at sorted listed
  rcases List.mem_cons.1 listed with here | later
  · exact absurd (List.inj_on_of_nodup_map represents.distinct otherMember member
      (here.trans same.symm)) different
  · refine represents.precedes_of_ahead member otherMember ?_
    rw [same]
    exact List.rel_of_pairwise_cons sorted later

/-- A cache with records gives up the entry of the one that precedes all others. -/
theorem evict (represents : Represents cache records tick) (nonempty : records ≠ []) :
    ∃ victim ∈ records,
      (∀ other ∈ records, other ≠ victim → victim.Precedes cache.config.policy other) ∧
      cache.evict.1 = some victim.entry ∧ cache.evict.2.stats = cache.stats.eviction ∧
      Represents cache.evict.2
        (records.filter fun record => record.entry.key ≠ victim.entry.key) tick := by
  have coherent := represents.coherent
  have size := coherent.tracked.length_eq
  rw [List.length_map, represents.length] at size
  have positive := List.length_pos_of_ne_nil nonempty
  obtain ⟨first, rest, ahead⟩ := List.exists_cons_of_length_pos (size ▸ positive)
  obtain ⟨victim, member, rfl, least⟩ := represents.exists_least ahead
  obtain ⟨entry, found, evicted, drops⟩ := coherent.evict_of_ahead ahead
  have same : some victim.entry = some entry :=
    (Cache.find?_of_mem coherent.distinct (represents.entry_mem member)).symm.trans found
  refine ⟨victim, member, least, ?_, ?_, ?_⟩
  · rw [evicted, same]
  · rw [evicted]
  · rw [evicted]
    exact represents.drop rfl drops rfl

omit [DecidableEq Key] in
/-- A cleared cache holds no record. -/
theorem clear (represents : Represents cache records tick) : Represents cache.clear [] tick where
  coherent := represents.coherent.clear
  entries := rfl
  queued := by
    simp only [Cache.clear, EvictionOrder.clear_eq_empty]
    cases cache.order.policy <;> simp [EvictionOrder.empty, EvictionOrder.Queued]
  recent := by simp

/-- A sweep drops the expired records and counts them. -/
theorem clearExpired (represents : Represents cache records tick) (now : Instant) :
    (cache.clearExpired now).1 =
        (records.filter fun record => record.entry.isExpired now).length ∧
      Represents (cache.clearExpired now).2
        (records.filter fun record => !record.entry.isExpired now) tick := by
  have expired : cache.expiredKeys now =
      (records.filter fun record => record.entry.isExpired now).map
        fun record => record.entry.key := by
    rw [Cache.expiredKeys, represents.entries, List.filter_map, List.map_map]
    rfl
  constructor
  · simp only [Cache.clearExpired, expired, List.length_map]
  · have dropped := represents.dropExpired (cache.expiredKeys now)
    have kept : (records.filter fun record => record.entry.key ∉ cache.expiredKeys now) =
        records.filter fun record => !record.entry.isExpired now := by
      refine List.filter_congr fun record member => ?_
      simp [represents.coherent.mem_expiredKeys_iff (represents.entry_mem member) now]
    rwa [kept] at dropped

end Represents

omit [DecidableEq Key] in
/-- The ledger gives up a record that precedes all others. -/
theorem Ledger.next?_of_least {ledger : Ledger Key Item} {record : Placed Key Item}
    (least : ledger.Least record) : ledger.next? = some record := by
  obtain ⟨member, first⟩ := least
  have unpreceded : ∀ other ∈ ledger.records,
      ¬ other.Precedes ledger.config.policy record := by
    intro other otherMember precedes
    by_cases equal : other = record
    · exact (equal ▸ precedes).asymm (equal ▸ precedes)
    · exact (first other otherMember equal).asymm precedes
  cases found : ledger.next? with
  | none =>
    have refused := List.find?_eq_none.1 found record member
    simp only [List.all_eq_true, decide_eq_true_eq] at refused
    exact absurd unpreceded refused
  | some chosen =>
    have chosenMember := List.mem_of_find?_eq_some found
    have chosenFirst := List.find?_some found
    simp only [List.all_eq_true, decide_eq_true_eq] at chosenFirst
    by_cases equal : chosen = record
    · rw [equal]
    · exact absurd (first chosen chosenMember equal) (chosenFirst record member)

/-- A cache agrees with a ledger in configuration and records. -/
structure Mirrors (cache : Cache Key Item) (ledger : Ledger Key Item) : Prop where
  config : cache.config = { ledger.config with maxSize := ledger.capacity }
  represents : Represents cache ledger.records ledger.tick

namespace Mirrors

variable {cache : Cache Key Item} {ledger : Ledger Key Item}

/-- The table has the entry of a key iff the ledger has its record. -/
theorem find? (mirrors : Mirrors cache ledger) (key : Key) :
    cache.find? key = (ledger.find? key).map Placed.entry :=
  mirrors.represents.find? key

omit [DecidableEq Key] in
/-- Cache and ledger follow one policy. -/
theorem policy (mirrors : Mirrors cache ledger) :
    cache.config.policy = ledger.config.policy := by
  rw [mirrors.config]

omit [DecidableEq Key] in
/-- There are as many entries as records. -/
theorem length (mirrors : Mirrors cache ledger) :
    cache.entries.length = ledger.records.length :=
  mirrors.represents.length

/-- A lookup meets the same on both sides. -/
theorem get (mirrors : Mirrors cache ledger) (key : Key) :
    (cache.get key ledger.clock.monotonic).1 = (ledger.get key).1 ∧
      Represents (cache.get key ledger.clock.monotonic).2 (ledger.get key).2.records
        (ledger.tick + 1) := by
  have found := mirrors.find? key
  cases held : ledger.find? key with
  | none =>
    rw [held, Option.map_none] at found
    simp only [Cache.get_of_absent found, Ledger.get, held]
    exact ⟨trivial, (mirrors.represents.restat _).later⟩
  | some record =>
    rw [held, Option.map_some] at found
    cases expired : record.entry.isExpired ledger.clock.monotonic with
    | true =>
      simp only [Cache.get_of_expired found expired, Ledger.get, held, expired, if_true]
      refine ⟨trivial, Represents.restat ?_ _⟩
      exact (mirrors.represents.take key).later
    | false =>
      simp only [Cache.get_of_live found expired, Ledger.get, held, expired, Bool.false_eq_true,
        if_false, ← mirrors.policy]
      exact ⟨trivial, mirrors.represents.touch found rfl rfl rfl⟩

/-- A full cache gives up the entry of the least record. -/
theorem evict (mirrors : Mirrors cache ledger)
    (full : ledger.capacity ≤ ledger.records.length) :
    ∃ victim, ledger.Least victim ∧ ledger.next? = some victim ∧
      cache.evict.1 = some victim.entry ∧
      Represents cache.evict.2 (ledger.others victim.entry.key) ledger.tick := by
  have roomy : 1 ≤ ledger.capacity := Nat.le_max_right _ _
  have nonempty : ledger.records ≠ [] := List.ne_nil_of_length_pos (by omega)
  obtain ⟨victim, member, first, given, -, remaining⟩ := mirrors.represents.evict nonempty
  rw [mirrors.policy] at first
  exact ⟨victim, ⟨member, first⟩, Ledger.next?_of_least ⟨member, first⟩, given, remaining⟩

/-- A store of an absent key in a full cache costs the entry of the least record. -/
theorem find?_put_of_full (mirrors : Mirrors cache ledger) {key : Key}
    (absent : cache.find? key = none) (full : ledger.capacity ≤ ledger.records.length)
    (item : Item) (ttl : Option Duration) (now : Instant) :
    ∃ victim, ledger.Least victim ∧ (cache.put key item ttl now).1 = some victim.entry ∧
      ∀ other, other ≠ key → (cache.put key item ttl now).2.find? other =
        if other = victim.entry.key then none else cache.find? other := by
  have coherent := mirrors.represents.coherent
  have cacheFull : cache.config.maxSize ≤ cache.entries.length := by
    rw [mirrors.config, mirrors.length]
    exact full
  obtain ⟨victim, least, -, given, -⟩ := mirrors.evict full
  have nonempty : cache.entries ≠ [] :=
    List.ne_nil_of_mem (mirrors.represents.entry_mem least.1)
  obtain ⟨entry, -, -, sameEntry, table, -⟩ := coherent.exists_evict nonempty
  obtain rfl : entry = victim.entry := Option.some.inj (sameEntry.symm.trans given)
  rw [Cache.put_of_full absent cacheFull]
  refine ⟨victim, least, given, fun other different => ?_⟩
  rw [Cache.find?_store (Cache.find?_evict_of_absent absent), if_neg different,
    Cache.find?_without table]

/-- A store costs the same on both sides. -/
theorem put (mirrors : Mirrors cache ledger) (key : Key) (item : Item) (ttl : Option Duration) :
    (cache.put key item ttl ledger.clock.monotonic).1 = (ledger.put key item ttl).1 ∧
      Represents (cache.put key item ttl ledger.clock.monotonic).2
        (ledger.put key item ttl).2.records (ledger.tick + 1) := by
  have represents := mirrors.represents
  have found := mirrors.find? key
  have length := mirrors.length
  have size : cache.config.maxSize = ledger.capacity := by rw [mirrors.config]
  have life : cache.config.defaultTtl = ledger.config.defaultTtl := by rw [mirrors.config]
  cases held : ledger.find? key with
  | some record =>
    rw [held, Option.map_some] at found
    have hidden : (cache.take key).2.find? key = none := by
      rw [Cache.find?_without (Cache.take_entries cache key), if_pos rfl]
    simp only [Cache.put_of_found found, Ledger.put, held, Option.isSome_some, if_true, life]
    exact ⟨trivial, (represents.take key).store hidden _ _ _⟩
  | none =>
    rw [held, Option.map_none] at found
    by_cases room : ledger.records.length < ledger.capacity
    · have fits : cache.entries.length < cache.config.maxSize := by omega
      simp only [Cache.put_of_room found fits, Ledger.put, held, Option.isSome_none,
        Bool.false_eq_true, if_false, if_pos room, life]
      exact ⟨trivial, represents.store found _ _ _⟩
    · have full : cache.config.maxSize ≤ cache.entries.length := by omega
      obtain ⟨victim, -, next, evicted, remaining⟩ := mirrors.evict (by omega)
      have hidden := Cache.find?_evict_of_absent found
      simp only [Cache.put_of_full found full, Ledger.put, held, Option.isSome_none,
        Bool.false_eq_true, if_false, if_neg room, next, life]
      exact ⟨evicted, remaining.store hidden _ _ _⟩

/-- A live entry is the same on both sides. -/
theorem live? (mirrors : Mirrors cache ledger) (key : Key) :
    cache.live? key ledger.clock.monotonic = ledger.live? key := by
  rw [Cache.live?, mirrors.find? key, Ledger.live?]

end Mirrors

end QueryKit
