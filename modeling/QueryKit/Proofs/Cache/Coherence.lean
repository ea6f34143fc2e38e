import QueryKit.Proofs.Cache.Order
import QueryKit.Proofs.Cache.Table

/-!
# Table and order stay in step

The table and the order of a cache are updated in separate steps. `Coherent` is what
every one of these steps keeps: the order is sound, it holds exactly the keys of the
table, and it files each key by the number of lookups its entry has seen. A step
either drops a key from both sides or gains a key on both sides, and a lookup under
LRU or LFU does one after the other.
-/

namespace QueryKit

namespace Cache

variable {Key Item : Type} [DecidableEq Key]

/-- Table and order speak of the same keys. -/
structure Coherent (cache : Cache Key Item) : Prop where
  sound : cache.order.Sound
  policy : cache.order.policy = cache.config.policy
  tracked : cache.order.keys.Perm (cache.entries.map Entry.key)
  filed : ∀ entry ∈ cache.entries, cache.order.Files entry.accessCount entry.key

namespace Coherent

omit [DecidableEq Key] in
/-- Keys are distinct in the table as they are in the order. -/
theorem distinct {cache : Cache Key Item} (coherent : cache.Coherent) :
    (cache.entries.map Entry.key).Nodup :=
  coherent.tracked.nodup_iff.1 coherent.sound.distinct

omit [DecidableEq Key] in
/-- The order holds the keys that have an entry. -/
theorem mem_keys_iff {cache : Cache Key Item} (coherent : cache.Coherent) {key : Key} :
    key ∈ cache.order.keys ↔ ∃ entry ∈ cache.entries, entry.key = key := by
  rw [coherent.tracked.mem_iff, List.mem_map]

omit [DecidableEq Key] in
/-- The order is empty exactly when the table is. -/
theorem keys_eq_nil_iff {cache : Cache Key Item} (coherent : cache.Coherent) :
    cache.order.keys = [] ↔ cache.entries = [] := by
  rw [← List.length_eq_zero_iff, coherent.tracked.length_eq, List.length_map,
    List.length_eq_zero_iff]

/-- An absent key is not in the order. -/
theorem not_mem_keys {cache : Cache Key Item} (coherent : cache.Coherent) {key : Key}
    (absent : cache.find? key = none) : key ∉ cache.order.keys := by
  rw [coherent.mem_keys_iff]
  rintro ⟨entry, member, same⟩
  exact find?_eq_none_iff.1 absent entry member same

/-- A key dropped from both sides leaves a coherent cache. -/
theorem drop {cache after : Cache Key Item} (coherent : cache.Coherent) {key : Key}
    (table : after.entries = without key cache.entries)
    (order : EvictionOrder.Drops key cache.order after.order)
    (config : after.config = cache.config) : after.Coherent where
  sound := order.sound
  policy := by rw [order.policy, config, coherent.policy]
  tracked := by
    rw [order.keys, table, map_key_without coherent.distinct]
    exact coherent.tracked.erase key
  filed := by
    intro entry member
    rw [table, mem_without] at member
    exact (order.files _ _).2 ⟨coherent.filed entry member.1, member.2⟩

omit [DecidableEq Key] in
/-- An entry of a new key, gained on both sides, leaves a coherent cache. -/
theorem gain {cache after : Cache Key Item} (coherent : cache.Coherent)
    {entry : Entry Key Item} (table : after.entries = cache.entries ++ [entry])
    (order : EvictionOrder.Gains entry.key entry.accessCount cache.order after.order)
    (config : after.config = cache.config) : after.Coherent where
  sound := order.sound
  policy := by rw [order.policy, config, coherent.policy]
  tracked := by
    rw [table, List.map_append, List.map_singleton]
    exact order.keys.trans ((coherent.tracked.cons _).trans (List.perm_append_singleton _ _).symm)
  filed := by
    intro other member
    rw [table, List.mem_append, List.mem_singleton] at member
    rcases member with member | rfl
    · exact (order.files _ _).2 (.inl (coherent.filed other member))
    · exact (order.files _ _).2 (.inr ⟨rfl, fun _ => rfl⟩)

omit [DecidableEq Key] in
/-- Coherence does not look at the counters. -/
theorem restat {cache : Cache Key Item} (coherent : cache.Coherent) (stats : CacheStats) :
    ({ cache with stats := stats } : Cache Key Item).Coherent :=
  ⟨coherent.sound, coherent.policy, coherent.tracked, coherent.filed⟩

/-- Taking a key that has an entry drops it from the order. -/
theorem drops_take {cache : Cache Key Item} (coherent : cache.Coherent) {key : Key}
    {entry : Entry Key Item} (found : cache.find? key = some entry) :
    EvictionOrder.Drops key cache.order (cache.take key).2.order := by
  obtain ⟨member, rfl⟩ := mem_of_find? found
  rw [take_of_found found]
  exact EvictionOrder.drops_remove coherent.sound (coherent.filed entry member)

/-- Removing a key takes it out of table and order together. -/
theorem take {cache : Cache Key Item} (coherent : cache.Coherent) (key : Key) :
    (cache.take key).2.Coherent := by
  cases found : cache.find? key with
  | none => rwa [take_of_absent found]
  | some entry =>
    exact coherent.drop (take_entries cache key) (coherent.drops_take found)
      (take_config cache key)

/-- A new key is put into table and order together. -/
theorem store {cache : Cache Key Item} (coherent : cache.Coherent) {key : Key}
    (absent : cache.find? key = none) (item : Item) (ttl : Option Duration) (now : Instant) :
    (cache.store key item ttl now).Coherent :=
  coherent.gain rfl (EvictionOrder.gains_insert coherent.sound (coherent.not_mem_keys absent)) rfl

/-- The entry of the first key is given up, on both sides. -/
theorem evict_of_ahead {cache : Cache Key Item} (coherent : cache.Coherent) {key : Key}
    {rest : List Key} (ahead : cache.order.keys = key :: rest) :
    ∃ entry, cache.find? key = some entry ∧
      cache.evict = (some entry,
        { cache with
          entries := without key cache.entries
          order := cache.order.victim.2
          stats := cache.stats.eviction }) ∧
      EvictionOrder.Drops key cache.order cache.order.victim.2 := by
  obtain ⟨first, drops⟩ := EvictionOrder.drops_victim coherent.sound ahead
  obtain ⟨entry, member, same⟩ := coherent.mem_keys_iff.1 (ahead ▸ List.mem_cons_self)
  have found : cache.find? key = some entry := same ▸ find?_of_mem coherent.distinct member
  refine ⟨entry, found, ?_, drops⟩
  have split : cache.order.victim = (some key, cache.order.victim.2) := Prod.ext first rfl
  rw [Cache.evict, split]
  simp only [found]

/-- A cache without entries has nothing to give up. -/
theorem evict_of_empty {cache : Cache Key Item} (coherent : cache.Coherent)
    (empty : cache.entries = []) : cache.evict = (none, cache) := by
  rw [Cache.evict, EvictionOrder.victim_of_empty coherent.sound (coherent.keys_eq_nil_iff.2 empty)]

/-- The key that is given up leaves table and order together. -/
theorem evict {cache : Cache Key Item} (coherent : cache.Coherent) :
    cache.evict.2.Coherent := by
  cases ahead : cache.order.keys with
  | nil => rwa [coherent.evict_of_empty (coherent.keys_eq_nil_iff.1 ahead)]
  | cons key rest =>
    obtain ⟨entry, -, evicted, drops⟩ := coherent.evict_of_ahead ahead
    rw [evicted]
    exact coherent.drop rfl drops rfl

omit [DecidableEq Key] in
/-- An entry is the only one of its key. -/
theorem entry_inj {cache : Cache Key Item} (coherent : cache.Coherent)
    {entry other : Entry Key Item} (member : entry ∈ cache.entries)
    (otherMember : other ∈ cache.entries) (same : other.key = entry.key) : other = entry :=
  List.inj_on_of_nodup_map coherent.distinct otherMember member same

omit [DecidableEq Key] in
/-- The keys of a sweep are those of the entries past their expiry, and of no other entries. -/
theorem mem_expiredKeys_iff {cache : Cache Key Item} (coherent : cache.Coherent)
    {entry : Entry Key Item} (member : entry ∈ cache.entries) (now : Instant) :
    entry.key ∈ cache.expiredKeys now ↔ entry.isExpired now = true := by
  rw [expiredKeys, List.mem_map]
  constructor
  · rintro ⟨other, otherMember, same⟩
    obtain ⟨inTable, expired⟩ := List.mem_filter.1 otherMember
    rwa [coherent.entry_inj member inTable same] at expired
  · intro expired
    exact ⟨entry, List.mem_filter.2 ⟨member, expired⟩, rfl⟩

/-- A sweep leaves the entries that are not past their expiry. -/
theorem clearExpired_entries {cache : Cache Key Item} (coherent : cache.Coherent)
    (now : Instant) :
    (cache.clearExpired now).2.entries =
      cache.entries.filter fun entry => !entry.isExpired now := by
  rw [clearExpired, dropExpired_entries]
  refine List.filter_congr fun entry member => ?_
  simp [coherent.mem_expiredKeys_iff member now]

/-- A lookup that finds a live entry uses its key on both sides. -/
theorem touch {cache after : Cache Key Item} (coherent : cache.Coherent) {key : Key}
    {entry : Entry Key Item} (found : cache.find? key = some entry) {now : Instant}
    (table : after.entries = touched key now cache.entries)
    (order : after.order = cache.order.access key entry.accessCount)
    (config : after.config = cache.config) : after.Coherent := by
  obtain ⟨member, rfl⟩ := mem_of_find? found
  have filed := coherent.filed entry member
  by_cases fifo : cache.order.policy = .fifo
  · rw [EvictionOrder.access_of_fifo fifo] at order
    refine ⟨order ▸ coherent.sound, by rw [order, config, coherent.policy], ?_, ?_⟩
    · rw [order, table, map_key_touched]
      exact coherent.tracked
    · intro other inTable
      have listed : other.key ∈ after.entries.map Entry.key := List.mem_map_of_mem inTable
      rw [table, map_key_touched] at listed
      rw [order]
      exact EvictionOrder.files_of_mem (by simp [fifo]) (coherent.tracked.mem_iff.2 listed) _
  · obtain ⟨middle, drops, gains⟩ := EvictionOrder.exists_access coherent.sound fifo filed
    rw [← order] at gains
    refine ⟨gains.sound, by rw [gains.policy, drops.policy, config, coherent.policy], ?_, ?_⟩
    · rw [table, map_key_touched]
      have restored : (entry.key :: middle.keys).Perm cache.order.keys := by
        rw [drops.keys]
        exact (List.perm_cons_erase filed.mem_keys).symm
      exact (gains.keys.trans restored).trans coherent.tracked
    · intro other inTable
      rw [table, touched, List.mem_map] at inTable
      obtain ⟨before, beforeMember, rfl⟩ := inTable
      by_cases same : before.key = entry.key
      · have equal := List.inj_on_of_nodup_map coherent.distinct beforeMember member same
        rw [if_pos same, equal]
        exact (gains.files _ _).2 (.inr ⟨rfl, fun _ => rfl⟩)
      · rw [if_neg same]
        exact (gains.files _ _).2
          (.inl ((drops.files _ _).2 ⟨coherent.filed before beforeMember, same⟩))

/-- A store keeps table and order together, whatever it meets. -/
theorem put {cache : Cache Key Item} (coherent : cache.Coherent) (key : Key) (item : Item)
    (ttl : Option Duration) (now : Instant) : (cache.put key item ttl now).2.Coherent := by
  cases found : cache.find? key with
  | some entry =>
    rw [put_of_found found]
    refine (coherent.take key).store ?_ _ _ _
    rw [find?_without (take_entries cache key), if_pos rfl]
  | none =>
    rcases Nat.lt_or_ge cache.entries.length cache.config.maxSize with room | full
    · rw [put_of_room found room]
      exact coherent.store found _ _ _
    · rw [put_of_full found full]
      exact coherent.evict.store (find?_evict_of_absent found) _ _ _

omit [DecidableEq Key] in
/-- Clearing empties table and order. -/
theorem clear {cache : Cache Key Item} (coherent : cache.Coherent) : cache.clear.Coherent where
  sound := by
    rw [Cache.clear, EvictionOrder.clear_eq_empty]
    exact EvictionOrder.sound_empty _
  policy := by
    rw [Cache.clear, EvictionOrder.clear_eq_empty, ← coherent.policy]
    cases cache.order.policy <;> rfl
  tracked := by
    rw [Cache.clear, EvictionOrder.clear_eq_empty]
    cases cache.order.policy <;> exact .refl _
  filed := by simp [Cache.clear]

omit [DecidableEq Key] in
/-- A new cache is coherent: its table and its order are empty. -/
theorem new (config : CacheConfig) : (Cache.new config : Cache Key Item).Coherent where
  sound := EvictionOrder.sound_empty _
  policy := by
    simp only [Cache.new]
    cases config.policy <;> rfl
  tracked := by
    simp only [Cache.new]
    cases config.policy <;> exact .refl _
  filed := by simp [Cache.new]

end Coherent

/-! ### The bound on the number of entries -/

/-- A coherent cache within its size, which leaves room for an entry. -/
structure WellFormed (cache : Cache Key Item) : Prop where
  coherent : cache.Coherent
  roomy : 0 < cache.config.maxSize
  bounded : cache.entries.length ≤ cache.config.maxSize

/-- Removing a key adds no entry. -/
theorem length_take_le (cache : Cache Key Item) (key : Key) :
    (cache.take key).2.entries.length ≤ cache.entries.length := by
  rw [take_entries]
  exact List.length_filter_le _ _

/-- Taking a key that has an entry takes one entry. -/
theorem Coherent.length_without {cache : Cache Key Item} (coherent : cache.Coherent) {key : Key}
    {entry : Entry Key Item} (found : cache.find? key = some entry) :
    (without key cache.entries).length + 1 = cache.entries.length := by
  obtain ⟨member, rfl⟩ := mem_of_find? found
  have listed : entry.key ∈ cache.entries.map Entry.key := List.mem_map_of_mem member
  have shorter := List.length_erase_of_mem listed
  have positive := List.length_pos_of_mem listed
  rw [← map_key_without coherent.distinct, List.length_map, List.length_map] at shorter
  rw [List.length_map] at positive
  omega

/-- A cache with entries gives up exactly one of them. -/
theorem Coherent.exists_evict {cache : Cache Key Item} (coherent : cache.Coherent)
    (nonempty : cache.entries ≠ []) :
    ∃ entry ∈ cache.entries, cache.order.victim.1 = some entry.key ∧
      cache.evict.1 = some entry ∧
      cache.evict.2.entries = without entry.key cache.entries ∧
      cache.evict.2.entries.length + 1 = cache.entries.length := by
  cases ahead : cache.order.keys with
  | nil => exact absurd (coherent.keys_eq_nil_iff.1 ahead) nonempty
  | cons key rest =>
    obtain ⟨entry, found, evicted, -⟩ := coherent.evict_of_ahead ahead
    obtain ⟨member, rfl⟩ := mem_of_find? found
    have first := (EvictionOrder.drops_victim coherent.sound ahead).1
    refine ⟨entry, member, first, ?_, ?_, ?_⟩
    · rw [evicted]
    · rw [evicted]
    · rw [evicted]
      exact coherent.length_without found

omit [DecidableEq Key] in
/-- The order is as long as the table. -/
theorem Coherent.size_order {cache : Cache Key Item} (coherent : cache.Coherent) :
    cache.order.size = cache.size := by
  rw [EvictionOrder.size, coherent.tracked.length_eq, List.length_map, size]

namespace WellFormed

omit [DecidableEq Key] in
/-- Being well-formed does not depend on the counters. -/
theorem restat {cache : Cache Key Item} (formed : cache.WellFormed) (stats : CacheStats) :
    ({ cache with stats := stats } : Cache Key Item).WellFormed :=
  ⟨formed.coherent.restat stats, formed.roomy, formed.bounded⟩

/-- Taking a key out leaves a cache within its size. -/
theorem take {cache : Cache Key Item} (formed : cache.WellFormed) (key : Key) :
    (cache.take key).2.WellFormed where
  coherent := formed.coherent.take key
  roomy := by
    rw [take_config]
    exact formed.roomy
  bounded := by
    rw [take_config]
    exact Nat.le_trans (length_take_le cache key) formed.bounded

/-- A lookup leaves a cache within its size, whether or not it drops an expired entry. -/
theorem get {cache : Cache Key Item} (formed : cache.WellFormed) (key : Key) (now : Instant) :
    (cache.get key now).2.WellFormed := by
  cases found : cache.find? key with
  | none =>
    rw [get_of_absent found]
    exact formed.restat _
  | some entry =>
    cases expired : entry.isExpired now with
    | true =>
      rw [get_of_expired found expired]
      exact (formed.take key).restat _
    | false =>
      rw [get_of_live found expired]
      refine ⟨formed.coherent.touch found rfl rfl rfl, formed.roomy, ?_⟩
      rw [length_touched]
      exact formed.bounded

/-- Room for the new entry is there, or is made by giving one up. -/
theorem put {cache : Cache Key Item} (formed : cache.WellFormed) (key : Key) (item : Item)
    (ttl : Option Duration) (now : Instant) : (cache.put key item ttl now).2.WellFormed where
  coherent := formed.coherent.put key item ttl now
  roomy := by
    rw [put_config]
    exact formed.roomy
  bounded := by
    have roomy := formed.roomy
    have bounded := formed.bounded
    rw [put_config]
    cases found : cache.find? key with
    | some entry =>
      have taken := formed.coherent.length_without found
      simp only [put_of_found found, store, take_entries, List.length_append, List.length_singleton]
      omega
    | none =>
      rcases Nat.lt_or_ge cache.entries.length cache.config.maxSize with room | full
      · simp only [put_of_room found room, store, List.length_append, List.length_singleton]
        omega
      · have nonempty : cache.entries ≠ [] := List.ne_nil_of_length_pos (by omega)
        obtain ⟨victim, -, -, -, -, shorter⟩ := formed.coherent.exists_evict nonempty
        simp only [put_of_full found full, store, List.length_append, List.length_singleton]
        omega

/-- Removing an entry leaves a cache within its size. -/
theorem remove {cache : Cache Key Item} (formed : cache.WellFormed) (key : Key) :
    (cache.remove key).2.WellFormed :=
  formed.take key

omit [DecidableEq Key] in
/-- Clearing keeps the size that the cache may have. -/
theorem clear {cache : Cache Key Item} (formed : cache.WellFormed) : cache.clear.WellFormed :=
  ⟨formed.coherent.clear, formed.roomy, Nat.zero_le _⟩

/-- A sweep leaves a cache within its size. -/
theorem dropExpired {cache : Cache Key Item} (formed : cache.WellFormed) (keys : List Key) :
    (cache.dropExpired keys).WellFormed := by
  induction keys generalizing cache with
  | nil => exact formed
  | cons key rest ih => exact ih ((formed.take key).restat _)

omit [DecidableEq Key] in
/-- A new cache has room for an entry, even if it was configured for none. -/
theorem new (config : CacheConfig) : (Cache.new config : Cache Key Item).WellFormed :=
  ⟨.new config, Nat.le_max_right _ _, Nat.zero_le _⟩

end WellFormed

end Cache

end QueryKit
