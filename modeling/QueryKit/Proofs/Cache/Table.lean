import Mathlib.Data.List.Nodup
import QueryKit.Cache.Session

/-!
# What a cache operation does to the table

The table is looked at through `Cache.find?`. Lookups and stores are split by what
they meet, so that later arguments name the case they are in: an absent key, an
expired or a live entry, and for a store also whether there is room.
-/

namespace QueryKit

/-- Counters after some more hits, misses and stores. -/
structure CacheStats.Counts (before : CacheStats) (hits misses insertions : Nat)
    (after : CacheStats) : Prop where
  hits : after.hits = before.hits + hits
  misses : after.misses = before.misses + misses
  insertions : after.insertions = before.insertions + insertions

/-- Counts add up. -/
theorem CacheStats.Counts.trans {before middle after : CacheStats}
    {hits misses insertions moreHits moreMisses moreInsertions : Nat}
    (first : before.Counts hits misses insertions middle)
    (second : middle.Counts moreHits moreMisses moreInsertions after) :
    before.Counts (hits + moreHits) (misses + moreMisses) (insertions + moreInsertions) after where
  hits := by rw [second.hits, first.hits, Nat.add_assoc]
  misses := by rw [second.misses, first.misses, Nat.add_assoc]
  insertions := by rw [second.insertions, first.insertions, Nat.add_assoc]

namespace Cache

variable {Key Item : Type} [DecidableEq Key]

@[simp] theorem mem_without {key : Key} {entries : List (Entry Key Item)}
    {entry : Entry Key Item} :
    entry ∈ without key entries ↔ entry ∈ entries ∧ entry.key ≠ key := by
  simp [without]

/-- Where keys are distinct, a table without a key lists the keys without it. -/
theorem map_key_without {entries : List (Entry Key Item)}
    (distinct : (entries.map Entry.key).Nodup) (key : Key) :
    (without key entries).map Entry.key = (entries.map Entry.key).erase key := by
  rw [distinct.erase_eq_filter, List.filter_map]
  congr 1
  refine List.filter_congr fun entry _ => ?_
  simp [bne, beq_eq_decide]

/-- An absent key is the key of no entry. -/
theorem find?_eq_none_iff {cache : Cache Key Item} {key : Key} :
    cache.find? key = none ↔ ∀ entry ∈ cache.entries, entry.key ≠ key := by
  simp [find?]

/-- An entry that is found is in the table under its key. -/
theorem mem_of_find? {cache : Cache Key Item} {key : Key} {entry : Entry Key Item}
    (found : cache.find? key = some entry) : entry ∈ cache.entries ∧ entry.key = key := by
  have held := List.find?_some found
  exact ⟨List.mem_of_find?_eq_some found, by simpa using held⟩

/-- Where keys are distinct, an entry is found under its key. -/
theorem find?_of_mem {cache : Cache Key Item} (distinct : (cache.entries.map Entry.key).Nodup)
    {entry : Entry Key Item} (member : entry ∈ cache.entries) :
    cache.find? entry.key = some entry := by
  cases found : cache.find? entry.key with
  | none => exact absurd rfl (find?_eq_none_iff.1 found entry member)
  | some other =>
    obtain ⟨otherMember, same⟩ := mem_of_find? found
    rw [List.inj_on_of_nodup_map distinct otherMember member same]

/-- Removing a key from the table hides that key alone. -/
theorem find?_without {cache after : Cache Key Item} {key : Key}
    (table : after.entries = without key cache.entries) (other : Key) :
    after.find? other = if other = key then none else cache.find? other := by
  rw [find?, table, without, List.find?_filter]
  split
  · next same =>
    subst same
    simp
  · next different =>
    rw [find?]
    congr 1
    funext entry
    by_cases here : entry.key = other <;> simp_all

/-- Adding an entry of an absent key shows it under that key alone. -/
theorem find?_append {cache after : Cache Key Item} {entry : Entry Key Item}
    (table : after.entries = cache.entries ++ [entry]) (absent : cache.find? entry.key = none)
    (other : Key) :
    after.find? other = if other = entry.key then some entry else cache.find? other := by
  rw [find?, table, List.find?_append]
  split
  · next same =>
    subst same
    rw [find?] at absent
    simp [absent]
  · next different =>
    have elsewhere : entry.key ≠ other := fun same => different same.symm
    simp [elsewhere, find?]

/-- The table after a lookup that found a key. -/
def touched (key : Key) (now : Instant) (entries : List (Entry Key Item)) :
    List (Entry Key Item) :=
  entries.map fun entry => if entry.key = key then entry.touch now else entry

@[simp] theorem length_touched (key : Key) (now : Instant) (entries : List (Entry Key Item)) :
    (touched key now entries).length = entries.length :=
  List.length_map _

/-- A lookup changes no key. -/
theorem map_key_touched (key : Key) (now : Instant) (entries : List (Entry Key Item)) :
    (touched key now entries).map Entry.key = entries.map Entry.key := by
  rw [touched, List.map_map]
  refine List.map_congr_left fun entry _ => ?_
  simp only [Function.comp_apply]
  split <;> rfl

/-- A lookup that found a key changes the entry of that key alone. -/
theorem find?_touched {cache after : Cache Key Item} {key : Key} {now : Instant}
    (table : after.entries = touched key now cache.entries) (other : Key) :
    after.find? other =
      if other = key then (cache.find? key).map fun entry => entry.touch now
      else cache.find? other := by
  have sameKey : (fun entry : Entry Key Item => decide (entry.key = other)) ∘
      (fun entry => if entry.key = key then entry.touch now else entry) =
        fun entry => decide (entry.key = other) := by
    funext entry
    simp only [Function.comp_apply]
    split <;> rfl
  have shifted : after.find? other = (cache.find? other).map
      fun entry => if entry.key = key then entry.touch now else entry := by
    rw [find?, table, touched, List.find?_map, sameKey, find?]
  rw [shifted]
  cases found : cache.find? other with
  | none =>
    split
    · next same => rw [← same, found, Option.map_none, Option.map_none]
    · rfl
  | some entry =>
    have held : entry.key = other := (mem_of_find? found).2
    split
    · next same => simp [← same, found, held]
    · next different => simp [held, different]

/-! ### Taking an entry -/

/-- Removing a key that has no entry changes nothing. -/
theorem take_of_absent {cache : Cache Key Item} {key : Key} (absent : cache.find? key = none) :
    cache.take key = (none, cache) := by
  simp only [take, absent]

/-- Removing a key that has an entry takes it out of table and order. -/
theorem take_of_found {cache : Cache Key Item} {key : Key} {entry : Entry Key Item}
    (found : cache.find? key = some entry) :
    cache.take key = (some entry,
      { cache with
        entries := without key cache.entries
        order := cache.order.remove key entry.accessCount }) := by
  simp only [take, found]

@[simp] theorem take_fst (cache : Cache Key Item) (key : Key) :
    (cache.take key).1 = cache.find? key := by
  cases found : cache.find? key <;> simp only [take, found]

@[simp] theorem take_config (cache : Cache Key Item) (key : Key) :
    (cache.take key).2.config = cache.config := by
  cases found : cache.find? key <;> simp only [take, found]

@[simp] theorem take_stats (cache : Cache Key Item) (key : Key) :
    (cache.take key).2.stats = cache.stats := by
  cases found : cache.find? key <;> simp only [take, found]

/-- Taking a key leaves the table without it, whether it was there or not. -/
theorem take_entries (cache : Cache Key Item) (key : Key) :
    (cache.take key).2.entries = without key cache.entries := by
  cases found : cache.find? key with
  | some entry => rw [take_of_found found]
  | none =>
    rw [take_of_absent found, without, List.filter_eq_self.2]
    simpa using find?_eq_none_iff.1 found

/-! ### Looking a key up -/

/-- A lookup that meets no entry counts a miss. -/
theorem get_of_absent {cache : Cache Key Item} {key : Key} (absent : cache.find? key = none)
    (now : Instant) :
    cache.get key now = (.absent, { cache with stats := cache.stats.miss }) := by
  simp only [get, absent]

/-- A lookup that meets an expired entry drops it, and counts the expiration and a miss. -/
theorem get_of_expired {cache : Cache Key Item} {key : Key} {entry : Entry Key Item}
    (found : cache.find? key = some entry) {now : Instant} (expired : entry.isExpired now = true) :
    cache.get key now = (.expired,
      { (cache.take key).2 with stats := cache.stats.expiration.miss }) := by
  simp only [get, found, expired, if_true, take_stats]

/-- A lookup that meets a live entry counts a hit and marks the entry and its key as used. -/
theorem get_of_live {cache : Cache Key Item} {key : Key} {entry : Entry Key Item}
    (found : cache.find? key = some entry) {now : Instant}
    (live : entry.isExpired now = false) :
    cache.get key now = (.found entry.item,
      { cache with
        entries := touched key now cache.entries
        order := cache.order.access key entry.accessCount
        stats := cache.stats.hit }) := by
  simp only [get, found, live, Bool.false_eq_true, if_false, touched]

@[simp] theorem get_config (cache : Cache Key Item) (key : Key) (now : Instant) :
    (cache.get key now).2.config = cache.config := by
  cases found : cache.find? key with
  | none => rw [get_of_absent found]
  | some entry =>
    cases expired : entry.isExpired now with
    | true => rw [get_of_expired found expired, take_config]
    | false => rw [get_of_live found expired]

/-- The live entry of a key. -/
def live? (cache : Cache Key Item) (key : Key) (now : Instant) : Option (Entry Key Item) :=
  (cache.find? key).filter fun entry => !entry.isExpired now

/-- Peeking shows the item of the live entry. -/
theorem peek_eq (cache : Cache Key Item) (key : Key) (now : Instant) :
    cache.peek key now = (cache.live? key now).map Entry.item := by
  unfold peek live?
  cases cache.find? key with
  | none => rfl
  | some entry => cases expired : entry.isExpired now <;> simp [Option.filter, expired]

/-- A lookup finds the item of the live entry. -/
theorem get_item? (cache : Cache Key Item) (key : Key) (now : Instant) :
    (cache.get key now).1.item? = (cache.live? key now).map Entry.item := by
  unfold get live?
  cases cache.find? key with
  | none => rfl
  | some entry => cases expired : entry.isExpired now <;> simp [Option.filter, expired, Lookup.item?]

/-- A key is contained when it has a live entry. -/
theorem contains_eq (cache : Cache Key Item) (key : Key) (now : Instant) :
    cache.contains key now = (cache.live? key now).isSome := by
  unfold contains live?
  cases cache.find? key with
  | none => rfl
  | some entry => cases expired : entry.isExpired now <;> simp [Option.filter, expired]

/-- The live entry of a key is the one in the table, if it is not expired. -/
theorem live?_eq_some_iff {cache : Cache Key Item} {key : Key} {now : Instant}
    {entry : Entry Key Item} :
    cache.live? key now = some entry ↔
      cache.find? key = some entry ∧ entry.isExpired now = false := by
  simp [live?, Option.filter_eq_some_iff]

/-- What a lookup does that finds no live entry: an expired one is gone. -/
theorem get_of_missing {cache : Cache Key Item} {key : Key} {now : Instant}
    (missing : cache.live? key now = none) :
    (cache.get key now).2.entries = without key cache.entries ∧
    ((cache.get key now).2.stats = cache.stats.miss ∨
      (cache.get key now).2.stats = cache.stats.expiration.miss) := by
  cases found : cache.find? key with
  | none =>
    rw [get_of_absent found, ← take_entries cache key, take_of_absent found]
    exact ⟨rfl, .inl rfl⟩
  | some entry =>
    cases expired : entry.isExpired now with
    | true =>
      rw [get_of_expired found expired]
      exact ⟨take_entries cache key, .inr rfl⟩
    | false => simp [live?_eq_some_iff.2 ⟨found, expired⟩] at missing

/-- A lookup that finds its key changes no item. -/
theorem item_find?_get_of_live {cache : Cache Key Item} {key : Key} {now : Instant}
    {entry : Entry Key Item} (live : cache.live? key now = some entry) (other : Key) :
    ((cache.get key now).2.find? other).map Entry.item =
      (cache.find? other).map Entry.item := by
  obtain ⟨found, valid⟩ := live?_eq_some_iff.1 live
  rw [get_of_live found valid, find?_touched rfl]
  split
  · next same =>
    rw [same, found]
    rfl
  · rfl

/-- An entry that a lookup leaves was there before it, with all that a use does not
change. -/
theorem exists_find?_of_get {cache : Cache Key Item} {key other : Key} {now : Instant}
    {entry : Entry Key Item} (found : (cache.get key now).2.find? other = some entry) :
    ∃ prior, cache.find? other = some prior ∧ prior.item = entry.item ∧
      prior.createdAt = entry.createdAt ∧ prior.ttl = entry.ttl := by
  cases live : cache.live? key now with
  | none =>
    rw [find?_without (get_of_missing live).1] at found
    split at found
    · simp at found
    · exact ⟨entry, found, rfl, rfl, rfl⟩
  | some used =>
    obtain ⟨held, valid⟩ := live?_eq_some_iff.1 live
    rw [get_of_live held valid, find?_touched rfl] at found
    split at found
    · next same =>
      rw [held, Option.map_some, Option.some.injEq] at found
      subst found
      exact ⟨used, same ▸ held, rfl, rfl, rfl⟩
    · exact ⟨entry, found, rfl, rfl, rfl⟩

/-! ### Storing an entry -/

/-- A fresh entry is found under its key, and changes what is found under no other. -/
theorem find?_store {cache : Cache Key Item} {key : Key} (absent : cache.find? key = none)
    (item : Item) (ttl : Option Duration) (now : Instant) (other : Key) :
    (cache.store key item ttl now).find? other =
      if other = key then some ⟨key, item, now, ttl, 0, now⟩ else cache.find? other := by
  have table : (cache.store key item ttl now).entries =
      cache.entries ++ [⟨key, item, now, ttl, 0, now⟩] := rfl
  exact find?_append table absent other

/-- A store under a key that has an entry replaces it, expired or not. -/
theorem put_of_found {cache : Cache Key Item} {key : Key} {entry : Entry Key Item}
    (found : cache.find? key = some entry) (item : Item) (ttl : Option Duration) (now : Instant) :
    cache.put key item ttl now =
      (none, (cache.take key).2.store key item (ttl.or cache.config.defaultTtl) now) := by
  simp only [put, take_of_found found]

/-- A store under a new key while there is room gives up nothing. -/
theorem put_of_room {cache : Cache Key Item} {key : Key} (absent : cache.find? key = none)
    (room : cache.entries.length < cache.config.maxSize) (item : Item) (ttl : Option Duration)
    (now : Instant) :
    cache.put key item ttl now =
      (none, cache.store key item (ttl.or cache.config.defaultTtl) now) := by
  have notFull : cache.isFull = false := decide_eq_false (Nat.not_le_of_lt room)
  simp only [put, take_of_absent absent, notFull, Bool.false_eq_true, if_false]

/-- A store under a new key in a full cache gives up an entry first. -/
theorem put_of_full {cache : Cache Key Item} {key : Key} (absent : cache.find? key = none)
    (full : cache.config.maxSize ≤ cache.entries.length) (item : Item) (ttl : Option Duration)
    (now : Instant) :
    cache.put key item ttl now =
      (cache.evict.1, cache.evict.2.store key item (ttl.or cache.config.defaultTtl) now) := by
  have isFull : cache.isFull = true := decide_eq_true full
  simp only [put, take_of_absent absent, isFull, if_true]

@[simp] theorem evict_config (cache : Cache Key Item) :
    cache.evict.2.config = cache.config := by
  unfold evict
  split
  · rfl
  · split <;> rfl

@[simp] theorem put_config (cache : Cache Key Item) (key : Key) (item : Item)
    (ttl : Option Duration) (now : Instant) :
    (cache.put key item ttl now).2.config = cache.config := by
  cases found : cache.find? key with
  | some entry =>
    rw [put_of_found found]
    exact take_config cache key
  | none =>
    rcases Nat.lt_or_ge cache.entries.length cache.config.maxSize with room | full
    · rw [put_of_room found room]
      rfl
    · rw [put_of_full found full]
      exact evict_config cache

/-- Giving up an entry shows none that was not there. -/
theorem find?_of_evict {cache : Cache Key Item} {other : Key} {entry : Entry Key Item}
    (found : cache.evict.2.find? other = some entry) : cache.find? other = some entry := by
  unfold evict at found
  split at found
  · exact found
  · split at found
    · rw [find?_without rfl] at found
      split at found
      · simp at found
      · exact found
    · exact found

/-- Giving up an entry makes no key appear. -/
theorem find?_evict_of_absent {cache : Cache Key Item} {key : Key}
    (absent : cache.find? key = none) : cache.evict.2.find? key = none := by
  cases kept : cache.evict.2.find? key with
  | none => rfl
  | some entry => simp [find?_of_evict kept] at absent

/-- A cache made ready for a new entry of a key: it has none of that key, no other
entries than before, and has counted neither lookups nor stores. -/
structure Cleared (before : Cache Key Item) (key : Key) (cleared : Cache Key Item) : Prop where
  hidden : cleared.find? key = none
  shown : ∀ other entry, cleared.find? other = some entry → before.find? other = some entry
  hits : cleared.stats.hits = before.stats.hits
  misses : cleared.stats.misses = before.stats.misses
  insertions : cleared.stats.insertions = before.stats.insertions

/-- A cache without the key is ready as it is. -/
theorem cleared_self {cache : Cache Key Item} {key : Key} (absent : cache.find? key = none) :
    cache.Cleared key cache :=
  ⟨absent, fun _ _ found => found, rfl, rfl, rfl⟩

/-- Removing the key makes a cache ready. -/
theorem cleared_take (cache : Cache Key Item) (key : Key) :
    cache.Cleared key (cache.take key).2 where
  hidden := by rw [find?_without (take_entries cache key), if_pos rfl]
  shown := fun other entry found => by
    rw [find?_without (take_entries cache key)] at found
    split at found
    · simp at found
    · exact found
  hits := by rw [take_stats]
  misses := by rw [take_stats]
  insertions := by rw [take_stats]

/-- Giving up an entry leaves a cache without the key ready. -/
theorem cleared_evict {cache : Cache Key Item} {key : Key} (absent : cache.find? key = none) :
    cache.Cleared key cache.evict.2 := by
  have counted : cache.evict.2.stats = cache.stats ∨
      cache.evict.2.stats = cache.stats.eviction := by
    unfold evict
    split
    · exact .inl rfl
    · split
      · exact .inr rfl
      · exact .inl rfl
  have hidden := find?_evict_of_absent absent
  rcases counted with same | given
  · exact ⟨hidden, fun _ _ => find?_of_evict, by rw [same], by rw [same], by rw [same]⟩
  · exact ⟨hidden, fun _ _ => find?_of_evict, by rw [given]; rfl, by rw [given]; rfl,
      by rw [given]; rfl⟩

/-- A store adds its entry to the cache made ready for it. Where the key was there or
there is room, that costs no other entry. -/
theorem exists_put (cache : Cache Key Item) (key : Key) (item : Item) (ttl : Option Duration)
    (now : Instant) :
    ∃ base, cache.Cleared key base ∧
      (cache.put key item ttl now).2 =
        base.store key item (ttl.or cache.config.defaultTtl) now ∧
      ((cache.find? key).isSome ∨ cache.entries.length < cache.config.maxSize →
        (cache.put key item ttl now).1 = none ∧
          ∀ other, other ≠ key → base.find? other = cache.find? other) := by
  cases found : cache.find? key with
  | some entry =>
    refine ⟨_, cache.cleared_take key, ?_, fun _ => ⟨?_, fun other different => ?_⟩⟩
    · rw [put_of_found found]
    · rw [put_of_found found]
    · rw [find?_without (take_entries cache key), if_neg different]
  | none =>
    rcases Nat.lt_or_ge cache.entries.length cache.config.maxSize with room | full
    · refine ⟨_, cleared_self found, ?_, fun _ => ⟨?_, fun _ _ => rfl⟩⟩
      · rw [put_of_room found room]
      · rw [put_of_room found room]
    · refine ⟨_, cleared_evict found, by rw [put_of_full found full], ?_⟩
      rintro (present | room)
      · cases present
      · omega

/-- A stored entry is found under its key. -/
theorem find?_put (cache : Cache Key Item) (key : Key) (item : Item) (ttl : Option Duration)
    (now : Instant) :
    (cache.put key item ttl now).2.find? key =
      some ⟨key, item, now, ttl.or cache.config.defaultTtl, 0, now⟩ := by
  obtain ⟨base, cleared, stored, -⟩ := cache.exists_put key item ttl now
  rw [stored, find?_store cleared.hidden, if_pos rfl]

/-- An entry of another key that a store leaves was there before it. -/
theorem find?_of_put {cache : Cache Key Item} {key other : Key} {item : Item}
    {ttl : Option Duration} {now : Instant} {entry : Entry Key Item} (different : other ≠ key)
    (found : (cache.put key item ttl now).2.find? other = some entry) :
    cache.find? other = some entry := by
  obtain ⟨base, cleared, stored, -⟩ := cache.exists_put key item ttl now
  rw [stored, find?_store cleared.hidden, if_neg different] at found
  exact cleared.shown other entry found

/-- Giving up an entry hides its key alone. -/
theorem find?_evict (cache : Cache Key Item) (key : Key) :
    cache.evict.2.find? key =
      if cache.evict.1.map Entry.key = some key then none else cache.find? key := by
  obtain ⟨victim, order, chosen⟩ : ∃ victim order, cache.order.victim = (victim, order) :=
    ⟨_, _, rfl⟩
  unfold evict
  rw [chosen]
  cases victim with
  | none => rfl
  | some victim =>
    cases found : cache.find? victim with
    | none => simp only [found]; rfl
    | some entry =>
      simp only [found]
      rw [find?_without rfl, Option.map_some, (mem_of_find? found).2]
      simp only [Option.some.injEq, eq_comm]

/-- A store hides the key of the entry that it gives up, and no other key but its own. -/
theorem find?_put_of_ne (cache : Cache Key Item) {key other : Key} (different : other ≠ key)
    (item : Item) (ttl : Option Duration) (now : Instant) :
    (cache.put key item ttl now).2.find? other =
      if (cache.put key item ttl now).1.map Entry.key = some other then none
      else cache.find? other := by
  cases found : cache.find? key with
  | some entry =>
    have hidden := (cache.cleared_take key).hidden
    rw [put_of_found found, find?_store hidden, if_neg different,
      find?_without (take_entries cache key), if_neg different]
    rfl
  | none =>
    rcases Nat.lt_or_ge cache.entries.length cache.config.maxSize with room | full
    · rw [put_of_room found room, find?_store found, if_neg different]
      rfl
    · rw [put_of_full found full, find?_store (find?_evict_of_absent found), if_neg different,
        find?_evict]

/-! ### Sweeping -/

@[simp] theorem dropExpired_config (cache : Cache Key Item) (keys : List Key) :
    (cache.dropExpired keys).config = cache.config := by
  induction keys generalizing cache with
  | nil => rfl
  | cons key rest ih => rw [dropExpired, ih, take_config]

/-- A sweep drops the entries of its keys. -/
theorem dropExpired_entries (cache : Cache Key Item) (keys : List Key) :
    (cache.dropExpired keys).entries = cache.entries.filter fun entry => entry.key ∉ keys := by
  induction keys generalizing cache with
  | nil => simp [dropExpired]
  | cons key rest ih =>
    rw [dropExpired, ih, take_entries, without, List.filter_filter]
    refine List.filter_congr fun entry _ => ?_
    by_cases here : entry.key = key <;> simp [here]

/-- A sweep counts one expiration for each key and nothing else. -/
@[simp] theorem dropExpired_stats (cache : Cache Key Item) (keys : List Key) :
    (cache.dropExpired keys).stats =
      { cache.stats with expirations := cache.stats.expirations + keys.length } := by
  induction keys generalizing cache with
  | nil => rfl
  | cons key rest ih =>
    rw [dropExpired, ih]
    simp only [take_stats, CacheStats.expiration, List.length_cons, Nat.add_right_comm,
      Nat.add_assoc]

/-! ### Counting -/

variable {cache : Cache Key Item} {key : Key} {now : Instant}

/-- A lookup of a live entry counts one hit. -/
theorem counts_get_of_live {entry : Entry Key Item} (live : cache.live? key now = some entry) :
    cache.stats.Counts 1 0 0 (cache.get key now).2.stats := by
  obtain ⟨found, valid⟩ := live?_eq_some_iff.1 live
  rw [get_of_live found valid]
  exact ⟨rfl, rfl, rfl⟩

/-- A lookup of a missing or expired entry counts one miss. -/
theorem counts_get_of_missing (missing : cache.live? key now = none) :
    cache.stats.Counts 0 1 0 (cache.get key now).2.stats := by
  rcases (get_of_missing missing).2 with absent | expired
  · rw [absent]
    exact ⟨rfl, rfl, rfl⟩
  · rw [expired]
    exact ⟨rfl, rfl, rfl⟩

/-- A store counts itself, and neither a hit nor a miss. -/
theorem counts_put (cache : Cache Key Item) (key : Key) (item : Item) (ttl : Option Duration)
    (now : Instant) : cache.stats.Counts 0 0 1 (cache.put key item ttl now).2.stats := by
  obtain ⟨base, cleared, stored, -⟩ := cache.exists_put key item ttl now
  rw [stored]
  exact ⟨cleared.hits, cleared.misses, congrArg (· + 1) cleared.insertions⟩

/-- A lookup that misses and the store after it count one miss and one store. -/
theorem counts_get_put (missing : cache.live? key now = none) (stored : Key) (item : Item)
    (ttl : Option Duration) (later : Instant) :
    cache.stats.Counts 0 1 1 ((cache.get key now).2.put stored item ttl later).2.stats :=
  (counts_get_of_missing missing).trans (counts_put _ stored item ttl later)

end Cache

end QueryKit
