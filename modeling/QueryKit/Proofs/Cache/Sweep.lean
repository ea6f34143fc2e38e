import QueryKit.Proofs.Cache.Visibility

/-!
# What a sweep leaves

A sweep takes the entries past their expiry out of the table one by one, in whatever order it
meets them, and each of them out of the eviction order as well. What becomes of the eviction
order can be said without an order of removals: every queue keeps those of its keys that stay
(`EvictionOrder.restrict`), and the remembered frequency is not touched, even if the bucket that
it names is gone. So a removal is a restriction, removals one after another are one restriction
to what all of them leave, and this does not depend on which of them came first.
-/

namespace QueryKit

variable {Key Item : Type}

/-! ### Orders with some of their keys -/

namespace Buckets

/-- The buckets with some of their keys. -/
def restrict (kept : Key → Bool) (buckets : Buckets Key) : Buckets Key :=
  buckets.flatMap fun bucket => slot bucket.1 (bucket.2.filter kept)

variable {buckets : Buckets Key} {kept : Key → Bool}

/-- A queue that loses keys is stored as what is left of it. -/
theorem restrict_slot (frequency : Nat) (queue : List Key) :
    restrict kept (slot frequency queue) = slot frequency (queue.filter kept) := by
  cases queue <;> simp [restrict, slot]

/-- Buckets are restricted below, at and above a frequency. -/
theorem restrict_around (lower : Buckets Key) (frequency : Nat) (queue : List Key)
    (higher : Buckets Key) :
    restrict kept (around lower frequency queue higher) =
      around (restrict kept lower) frequency (queue.filter kept) (restrict kept higher) := by
  rw [around, around, ← restrict_slot]
  simp only [restrict, List.flatMap_append]

/-- The buckets with some of their keys list those keys. -/
theorem flatMap_restrict :
    (restrict kept buckets).flatMap Prod.snd = (buckets.flatMap Prod.snd).filter kept := by
  simp only [restrict, List.flatMap_assoc, flatMap_slot, List.filter_flatMap]

/-- Where every key is kept, nothing changes. -/
theorem WellFormed.restrict_eq_self (formed : buckets.WellFormed)
    (all : ∀ key ∈ buckets.flatMap Prod.snd, kept key = true) : restrict kept buckets = buckets := by
  have whole : ∀ bucket ∈ buckets, slot bucket.1 (bucket.2.filter kept) = [bucket] := by
    intro bucket stored
    have nonempty : bucket.2 ≠ [] := formed.inhabited bucket stored
    obtain ⟨first, others, same⟩ := List.exists_cons_of_ne_nil nonempty
    rw [List.filter_eq_self.2 fun key member => all key (List.mem_flatMap.2 ⟨_, stored, member⟩)]
    obtain ⟨frequency, queue⟩ := bucket
    obtain rfl : queue = first :: others := same
    rfl
  rw [restrict, List.flatMap_congr whole]
  exact List.flatMap_singleton' buckets

/-- Keeping some keys and then some of these is keeping the keys that pass both. -/
theorem restrict_restrict (also : Key → Bool) :
    restrict also (restrict kept buckets) =
      restrict (fun key => also key && kept key) buckets := by
  rw [restrict, restrict, List.flatMap_assoc, restrict]
  refine List.flatMap_congr fun bucket _ => ?_
  rw [← List.filter_filter]
  exact restrict_slot bucket.1 _

/-- Only the keys in the buckets matter to what is kept. -/
theorem restrict_congr {other : Key → Bool}
    (same : ∀ key ∈ buckets.flatMap Prod.snd, kept key = other key) :
    restrict kept buckets = restrict other buckets := by
  refine List.flatMap_congr fun bucket stored => ?_
  rw [List.filter_congr fun key member => same key (List.mem_flatMap.2 ⟨bucket, stored, member⟩)]

variable [DecidableEq Key]

/-- A key that leaves its bucket leaves all other keys where they are. -/
theorem WellFormed.leave_eq_restrict (formed : buckets.WellFormed)
    (distinct : (buckets.flatMap Prod.snd).Nodup) {frequency : Nat} {key : Key}
    (held : buckets.Holds frequency key) :
    (buckets.leave frequency key).2 = restrict (· ≠ key) buckets := by
  obtain ⟨lower, queue, higher, surround, rfl⟩ := formed.exists_around frequency
  have member : key ∈ queue := surround.holds_iff.1 held
  rw [flatMap_around] at distinct
  have fromLower : ∀ other ∈ lower.flatMap Prod.snd, decide (other ≠ key) = true := by
    intro other inLower
    refine decide_eq_true fun same => ?_
    exact List.disjoint_of_nodup_append distinct.of_append_left (same ▸ inLower) member
  have fromHigher : ∀ other ∈ higher.flatMap Prod.snd, decide (other ≠ key) = true := by
    intro other inHigher
    refine decide_eq_true fun same => ?_
    exact List.disjoint_of_nodup_append distinct (List.mem_append_right _ member)
      (same ▸ inHigher)
  have middle : queue.Nodup := distinct.of_append_left.of_append_right
  have erased : queue.erase key = queue.filter (· ≠ key) := by
    rw [middle.erase_eq_filter]
    exact List.filter_congr fun other _ => by simp [bne, beq_eq_decide]
  rw [surround.leave member, restrict_around, erased,
    surround.lowerFormed.restrict_eq_self fromLower,
    surround.higherFormed.restrict_eq_self fromHigher]

end Buckets

namespace EvictionOrder

/-- The order with some of its keys, which stand as they stood. The remembered frequency stays,
even if its bucket does not. -/
def restrict (kept : Key → Bool) : EvictionOrder Key → EvictionOrder Key
  | .recency queue => .recency (queue.filter kept)
  | .insertion queue => .insertion (queue.filter kept)
  | .frequency buckets leastFrequency => .frequency (buckets.restrict kept) leastFrequency

variable {order : EvictionOrder Key} {kept : Key → Bool}

@[simp] theorem keys_restrict : (order.restrict kept).keys = order.keys.filter kept := by
  cases order with
  | recency queue => rfl
  | insertion queue => rfl
  | frequency buckets leastFrequency => exact Buckets.flatMap_restrict

/-- Two restrictions of an order are one to the keys that pass both. -/
theorem restrict_restrict (also : Key → Bool) :
    (order.restrict kept).restrict also = order.restrict fun key => also key && kept key := by
  cases order with
  | recency queue => exact congrArg recency (List.filter_filter ..)
  | insertion queue => exact congrArg insertion (List.filter_filter ..)
  | frequency buckets leastFrequency =>
    exact congrArg (frequency · leastFrequency) (Buckets.restrict_restrict also)

/-- A restriction goes by the keys that are there. -/
theorem restrict_congr {other : Key → Bool} (same : ∀ key ∈ order.keys, kept key = other key) :
    order.restrict kept = order.restrict other := by
  cases order with
  | recency queue => exact congrArg recency (List.filter_congr same)
  | insertion queue => exact congrArg insertion (List.filter_congr same)
  | frequency buckets leastFrequency =>
    exact congrArg (frequency · leastFrequency) (Buckets.restrict_congr same)

/-- Where every key is kept, nothing changes. -/
theorem Sound.restrict_eq_self (sound : order.Sound) (all : ∀ key ∈ order.keys, kept key = true) :
    order.restrict kept = order := by
  cases order with
  | recency queue => exact congrArg recency (List.filter_eq_self.2 all)
  | insertion queue => exact congrArg insertion (List.filter_eq_self.2 all)
  | frequency buckets leastFrequency =>
    exact congrArg (frequency · leastFrequency) (sound.layered.1.restrict_eq_self all)

/-- Removing a key leaves all other keys where they are. -/
theorem Sound.remove_eq_restrict [DecidableEq Key] (sound : order.Sound) {key : Key} {uses : Nat}
    (filed : order.Files uses key) : order.remove key uses = order.restrict (· ≠ key) := by
  have distinct := sound.distinct
  cases order with
  | recency queue =>
    exact congrArg recency ((distinct.erase_eq_filter key).trans
      (List.filter_congr fun other _ => by simp [bne, beq_eq_decide]))
  | insertion queue =>
    exact congrArg insertion ((distinct.erase_eq_filter key).trans
      (List.filter_congr fun other _ => by simp [bne, beq_eq_decide]))
  | frequency buckets leastFrequency =>
    exact congrArg (frequency · leastFrequency)
      (sound.layered.1.leave_eq_restrict distinct filed)

end EvictionOrder

variable [DecidableEq Key]

/-! ### Sweeps -/

namespace Cache

/-- Removes the entries past their expiry in the order in which a walk through the table meets
them; the answer is their number. -/
def sweep (cache : Cache Key Item) (walk : List (Entry Key Item)) (now : Instant) :
    Nat × Cache Key Item :=
  let expired := (walk.filter fun entry => entry.isExpired now).map Entry.key
  (expired.length, cache.dropExpired expired)

namespace Coherent

variable {cache : Cache Key Item}

/-- Taking a key leaves all other keys where they are. -/
theorem take_order (coherent : cache.Coherent) (key : Key) :
    (cache.take key).2.order = cache.order.restrict (· ≠ key) := by
  cases found : cache.find? key with
  | none =>
    have absent := coherent.not_mem_keys found
    rw [take_of_absent found, coherent.sound.restrict_eq_self]
    exact fun other member => decide_eq_true fun same => absent (same ▸ member)
  | some entry =>
    obtain ⟨member, rfl⟩ := mem_of_find? found
    rw [take_of_found found]
    exact coherent.sound.remove_eq_restrict (coherent.filed entry member)

/-- A sweep leaves the keys that it does not drop where they are. -/
theorem dropExpired_order (coherent : cache.Coherent) (keys : List Key) :
    (cache.dropExpired keys).order = cache.order.restrict (· ∉ keys) := by
  induction keys generalizing cache with
  | nil => exact (coherent.sound.restrict_eq_self fun _ _ => by simp).symm
  | cons key rest ih =>
    rw [dropExpired, ih ((coherent.take key).restat _), coherent.take_order,
      EvictionOrder.restrict_restrict]
    refine EvictionOrder.restrict_congr fun other _ => ?_
    rw [← Bool.decide_and, decide_eq_decide, List.mem_cons, not_or, and_comm]

/-- All that a sweep leaves, told by which keys it drops and how many. -/
theorem dropExpired_eq (coherent : cache.Coherent) (keys : List Key) :
    cache.dropExpired keys =
      { entries := cache.entries.filter fun entry => entry.key ∉ keys
        order := cache.order.restrict (· ∉ keys)
        config := cache.config
        stats := { cache.stats with expirations := cache.stats.expirations + keys.length } } := by
  rw [← dropExpired_entries, ← coherent.dropExpired_order, ← dropExpired_stats,
    ← dropExpired_config cache keys]

/-- It does not matter in which order a sweep meets the entries. -/
theorem sweep_eq_clearExpired (coherent : cache.Coherent) {walk : List (Entry Key Item)}
    (complete : walk.Perm cache.entries) (now : Instant) :
    cache.sweep walk now = cache.clearExpired now := by
  have keys : ((walk.filter fun entry => entry.isExpired now).map Entry.key).Perm
      (cache.expiredKeys now) := (complete.filter _).map _
  rw [sweep, clearExpired]
  simp only [coherent.dropExpired_eq, keys.length_eq, keys.mem_iff]

/-- A key of the order is dropped by a sweep exactly if its entry is not live. -/
theorem notMem_expiredKeys (coherent : cache.Coherent) (now : Instant) {key : Key}
    (tracked : key ∈ cache.order.keys) :
    decide (key ∉ cache.expiredKeys now) = cache.contains key now := by
  obtain ⟨entry, member, rfl⟩ := coherent.mem_keys_iff.1 tracked
  have found := find?_of_mem coherent.distinct member
  rw [contains, found]
  simp [coherent.mem_expiredKeys_iff member now]

/-- A sweep leaves the live entries, and their keys where they are. -/
theorem clearExpired_eq (coherent : cache.Coherent) (now : Instant) :
    cache.clearExpired now =
      ((cache.entries.filter fun entry => entry.isExpired now).length,
        { entries := cache.entries.filter fun entry => !entry.isExpired now
          order := cache.order.restrict fun key => cache.contains key now
          config := cache.config
          stats := { cache.stats with
            expirations := cache.stats.expirations +
              (cache.entries.filter fun entry => entry.isExpired now).length } }) := by
  have count : (cache.expiredKeys now).length =
      (cache.entries.filter fun entry => entry.isExpired now).length := List.length_map _
  have order : cache.order.restrict (· ∉ cache.expiredKeys now) =
      cache.order.restrict fun key => cache.contains key now :=
    EvictionOrder.restrict_congr fun _ tracked => coherent.notMem_expiredKeys now tracked
  rw [← coherent.clearExpired_entries, ← order, ← count, clearExpired, dropExpired_entries,
    ← coherent.dropExpired_eq]

end Coherent

namespace WellFormed

variable {cache : Cache Key Item}

/-- After a sweep the entry of a key is its entry that was live. -/
theorem find?_clearExpired (formed : cache.WellFormed) (now : Instant) (key : Key) :
    (cache.clearExpired now).2.find? key = cache.live? key now := by
  have after : (cache.clearExpired now).2.Coherent := (formed.dropExpired _).coherent
  have left := formed.coherent.clearExpired_entries now
  refine Option.ext fun entry => ?_
  rw [live?_eq_some_iff]
  constructor
  · intro found
    obtain ⟨member, rfl⟩ := mem_of_find? found
    rw [left, List.mem_filter] at member
    exact ⟨find?_of_mem formed.coherent.distinct member.1, by simpa using member.2⟩
  · rintro ⟨found, live⟩
    obtain ⟨member, rfl⟩ := mem_of_find? found
    refine find?_of_mem after.distinct ?_
    rw [left, List.mem_filter, live]
    exact ⟨member, rfl⟩

/-- What is live at a later time does not depend on a sweep in the meantime. -/
theorem live?_clearExpired (formed : cache.WellFormed) {now later : Instant} (le : now ≤ later)
    (key : Key) : (cache.clearExpired now).2.live? key later = cache.live? key later := by
  rw [live?, formed.find?_clearExpired, live?, live?, Option.filter_filter]
  congr 1
  funext entry
  cases expired : entry.isExpired now with
  | true => simp [Entry.isExpired_mono le expired]
  | false => simp

/-- A sweep does not show in the live entries, nor in their order. -/
theorem liveEntries_clearExpired (formed : cache.WellFormed) {now later : Instant}
    (le : now ≤ later) : (cache.clearExpired now).2.liveEntries later = cache.liveEntries later := by
  have order : (cache.clearExpired now).2.order =
      cache.order.restrict fun key => cache.contains key now := by
    rw [formed.coherent.clearExpired_eq]
  rw [liveEntries_eq, liveEntries_eq, order, EvictionOrder.keys_restrict, List.filterMap_filter]
  refine List.filterMap_congr fun key _ => ?_
  rw [formed.live?_clearExpired le]
  split
  · rfl
  · next gone =>
    -- What is not live at the sweep is not live later.
    rw [contains_eq, Option.not_isSome_iff_eq_none] at gone
    rw [← formed.live?_clearExpired le, live?, formed.find?_clearExpired, gone]
    rfl

/-- After a sweep all entries are live. -/
theorem size_clearExpired (formed : cache.WellFormed) (now : Instant) :
    (cache.clearExpired now).2.size = ((cache.clearExpired now).2.keys now).length := by
  have after : (cache.clearExpired now).2.Coherent := (formed.dropExpired _).coherent
  have all : ∀ key ∈ (cache.clearExpired now).2.order.keys,
      (cache.clearExpired now).2.contains key now = true := by
    intro key tracked
    obtain ⟨entry, member, rfl⟩ := after.mem_keys_iff.1 tracked
    rw [contains, find?_of_mem after.distinct member]
    rw [formed.coherent.clearExpired_entries, List.mem_filter] at member
    exact member.2
  rw [← after.size_order, EvictionOrder.size, keys, List.filter_eq_self.2 all]

/-- A second sweep at the same instant finds nothing. -/
theorem clearExpired_clearExpired (formed : cache.WellFormed) (now : Instant) :
    (cache.clearExpired now).2.clearExpired now = (0, (cache.clearExpired now).2) := by
  have none : (cache.clearExpired now).2.expiredKeys now = [] := by
    rw [expiredKeys, formed.coherent.clearExpired_entries, List.filter_filter]
    simp
  rw [clearExpired, none]
  rfl

end WellFormed

end Cache

namespace CacheSession

/-- A sweep in any state that a run reaches, at any instant. In whatever order it meets the
entries of the table, it comes to the same: its answer is the number of entries past their
expiry, it adds that number to the expirations counted, and it leaves the other entries as they
were, with their keys where they stood in the eviction order, the configuration and the other
counters. Nothing of it shows in the live keys and entries, neither then nor later. After it
every entry is live, and a second sweep at the same instant finds nothing to do. -/
theorem sweep_law (config : CacheConfig) (clock : Clock) (commands : List (CacheCommand Key Item))
    (now : Instant) :
    let cache := ((start config clock).run commands).cache
    let expired := cache.entries.filter fun entry => entry.isExpired now
    let after := (cache.clearExpired now).2
    (∀ walk : List (Entry Key Item), walk.Perm cache.entries →
      cache.sweep walk now = cache.clearExpired now) ∧
    (cache.clearExpired now).1 = expired.length ∧
    after.entries = (cache.entries.filter fun entry => !entry.isExpired now) ∧
    after.order = (cache.order.restrict fun key => cache.contains key now) ∧
    after.config = cache.config ∧
    after.stats = { cache.stats with
      expirations := cache.stats.expirations + expired.length } ∧
    (∀ later, now ≤ later →
      after.keys later = cache.keys later ∧ after.liveEntries later = cache.liveEntries later) ∧
    after.size = (after.keys now).length ∧
    after.clearExpired now = (0, after) := by
  intro cache expired after
  have formed : cache.WellFormed := wellFormed_run config clock commands
  have all := formed.coherent.clearExpired_eq now
  refine ⟨fun walk complete => formed.coherent.sweep_eq_clearExpired complete now, ?_, ?_, ?_, ?_,
    ?_, fun later le => ⟨?_, formed.liveEntries_clearExpired le⟩, formed.size_clearExpired now,
    formed.clearExpired_clearExpired now⟩
  · rw [all]
  · exact congrArg (fun result => result.2.entries) all
  · exact congrArg (fun result => result.2.order) all
  · exact congrArg (fun result => result.2.config) all
  · exact congrArg (fun result => result.2.stats) all
  · rw [Cache.keys_eq_map_liveEntries, Cache.keys_eq_map_liveEntries,
      formed.liveEntries_clearExpired le]

/-- Under LFU two of three entries are past their expiry, and with them goes the bucket that the
remembered frequency names. Met from the other end of the table, they leave the same. -/
theorem sweep_law_from_the_end :
    let commands : List (CacheCommand Nat Nat) :=
      [.put 1 10 none, .put 2 20 (some (.ofMillis 1)), .put 3 30 (some (.ofMillis 1)), .get 2,
        .get 1, .advance (.ofMillis 2)]
    let session := (start ⟨3, .lfu, none⟩ ⟨⟨0⟩, ⟨0, by decide⟩⟩).run commands
    let walk := session.cache.entries.reverse
    let after := (session.cache.clearExpired session.now).2
    walk.Perm session.cache.entries ∧ session.now ≤ session.now ∧
    session.cache.sweep walk session.now = session.cache.clearExpired session.now ∧
    (session.cache.clearExpired session.now).1 = 2 ∧
    after.order = .frequency [(1, [1])] 0 ∧
    after.keys session.now = session.cache.keys session.now ∧ after.keys session.now = [1] := by
  intro commands session walk after
  obtain ⟨any, -, -, -, -, -, unseen, -⟩ :=
    sweep_law ⟨3, .lfu, none⟩ ⟨⟨0⟩, ⟨0, by decide⟩⟩ commands session.now
  have complete : walk.Perm session.cache.entries := List.reverse_perm _
  have le : session.now ≤ session.now := Nat.le_refl _
  exact ⟨complete, le, any walk complete, by decide +kernel, by decide +kernel,
    (unseen _ le).1, by decide +kernel⟩

end CacheSession

end QueryKit
