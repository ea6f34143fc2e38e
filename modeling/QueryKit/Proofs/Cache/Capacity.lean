import Mathlib.Data.List.Sort
import QueryKit.Proofs.Cache.Replies

/-!
# A larger cache keeps what a smaller one holds

Two caches that differ in size alone carry out the same commands. They do not change
alike: the larger one is also hit on keys that only it holds, and the two give up
entries at different moments. What every command keeps is `Nested`: the records of the
smaller cache are records of the larger, tick and all, and the larger has at least as
many free places.

Ticks carry the argument. A record stands at the tick of one command on both sides, so
a record that precedes another precedes it in both caches. When both give up a record
and that of the larger is also in the smaller, it is therefore the one the smaller gives
up, and no record is left in the smaller cache alone.
-/

namespace QueryKit

variable {Key Item : Type}

/-- A configuration differs from another in its size alone, which is not smaller. -/
def CacheConfig.Enlarges (small large : CacheConfig) : Prop :=
  small.maxSize ≤ large.maxSize ∧ large = { small with maxSize := large.maxSize }

/-- At least as many hits were counted, and at most as many entries given up. -/
def CacheStats.Improves (worse better : CacheStats) : Prop :=
  worse.hits ≤ better.hits ∧ better.evictions ≤ worse.evictions

/-- A record of the first key precedes a record of the second. -/
def Before (policy : EvictionPolicy) (records : List (Placed Key Item)) (first second : Key) :
    Prop :=
  ∃ left ∈ records, ∃ right ∈ records, left.entry.key = first ∧ right.entry.key = second ∧
    left.Precedes policy right

/-- More records leave the order of the old ones. -/
theorem Before.mono {policy : EvictionPolicy} {fewer more : List (Placed Key Item)}
    (subset : fewer ⊆ more) {first second : Key} (before : Before policy fewer first second) :
    Before policy more first second := by
  obtain ⟨left, inLeft, right, inRight, rest⟩ := before
  exact ⟨left, subset inLeft, right, subset inRight, rest⟩

variable [DecidableEq Key]

namespace Represents

variable {cache : Cache Key Item} {records : List (Placed Key Item)} {tick : Nat}

omit [DecidableEq Key] in
/-- No record is there twice. -/
theorem nodup (represents : Represents cache records tick) : records.Nodup :=
  represents.distinct.of_map _

/-- Without the key of a record, one record less is there. -/
theorem length_filter_key (represents : Represents cache records tick)
    {record : Placed Key Item} (member : record ∈ records) :
    (records.filter fun other => other.entry.key ≠ record.entry.key).length + 1 =
      records.length := by
  have found := Cache.find?_of_mem represents.coherent.distinct (represents.entry_mem member)
  have shorter := represents.coherent.length_without found
  rwa [represents.without_eq, List.length_map, represents.length] at shorter

omit [DecidableEq Key] in
/-- The order lists keys as their records precede each other. -/
theorem keys_before (represents : Represents cache records tick) :
    cache.order.keys.Pairwise (Before cache.config.policy records) := by
  have sorted := EvictionOrder.keys_pairwise represents.coherent.sound represents.queued
  refine sorted.imp_of_mem fun inFirst inSecond ahead => ?_
  obtain ⟨left, inLeft, rfl⟩ := represents.exists_record inFirst
  obtain ⟨right, inRight, rfl⟩ := represents.exists_record inSecond
  exact ⟨left, inLeft, right, inRight, rfl, rfl, represents.precedes_of_ahead inLeft inRight ahead⟩

omit [DecidableEq Key] in
/-- Keys do not precede each other both ways. -/
theorem before_asymm (represents : Represents cache records tick) {policy : EvictionPolicy}
    {first second : Key} (before : Before policy records first second) :
    ¬ Before policy records second first := by
  rintro ⟨left, inLeft, right, inRight, leftKey, rightKey, precedes⟩
  obtain ⟨other, inOther, another, inAnother, otherKey, anotherKey, preceded⟩ := before
  have same := List.inj_on_of_nodup_map represents.distinct
  rw [same inLeft inAnother (leftKey.trans anotherKey.symm),
    same inRight inOther (rightKey.trans otherKey.symm)] at precedes
  exact precedes.asymm preceded

end Represents

/-- A cache and a larger one after the same commands, with the records they hold. -/
structure Nested (small large : Cache Key Item) (fewer more : List (Placed Key Item))
    (tick : Nat) : Prop where
  smaller : Represents small fewer tick
  larger : Represents large more tick
  subset : fewer ⊆ more
  config : small.config.Enlarges large.config
  /-- The larger cache has at least as many free places. -/
  room : more.length + small.config.maxSize ≤ fewer.length + large.config.maxSize
  stats : small.stats.Improves large.stats

/-- A cache lies within a larger one. -/
def Cache.Within (small large : Cache Key Item) : Prop :=
  ∃ fewer more tick, Nested small large fewer more tick

namespace Nested

variable {small large : Cache Key Item} {fewer more : List (Placed Key Item)} {tick : Nat}

omit [DecidableEq Key] in
/-- Other counters in the same relation do no harm. -/
theorem restat (nested : Nested small large fewer more tick) {worse better : CacheStats}
    (improves : worse.Improves better) :
    Nested { small with stats := worse } { large with stats := better } fewer more tick :=
  { nested with
    smaller := nested.smaller.restat worse
    larger := nested.larger.restat better
    stats := improves }

omit [DecidableEq Key] in
/-- Both caches follow one policy. -/
theorem policy (nested : Nested small large fewer more tick) :
    large.config.policy = small.config.policy := by
  rw [nested.config.2]

/-- What the smaller cache finds, the larger finds too. -/
theorem find? (nested : Nested small large fewer more tick) {key : Key} {entry : Entry Key Item}
    (found : small.find? key = some entry) : large.find? key = some entry := by
  obtain ⟨member, rfl⟩ := Cache.mem_of_find? found
  rw [nested.smaller.entries] at member
  obtain ⟨record, inFewer, rfl⟩ := List.mem_map.1 member
  exact Cache.find?_of_mem nested.larger.coherent.distinct
    (nested.larger.entry_mem (nested.subset inFewer))

/-- What the larger cache lacks, the smaller lacks too. -/
theorem find?_eq_none (nested : Nested small large fewer more tick) {key : Key}
    (absent : large.find? key = none) : small.find? key = none := by
  cases found : small.find? key with
  | none => rfl
  | some entry =>
    rw [nested.find? found] at absent
    cases absent

omit [DecidableEq Key] in
/-- The smaller order is part of the larger one. -/
theorem keys_sublist (nested : Nested small large fewer more tick) :
    small.order.keys.Sublist large.order.keys := by
  have antisymm : Std.Antisymm (Before large.config.policy more) :=
    ⟨fun _ _ before after => absurd after (nested.larger.before_asymm before)⟩
  have listed : small.order.keys ⊆ large.order.keys := by
    intro key member
    obtain ⟨record, inFewer, rfl⟩ := nested.smaller.exists_record member
    exact nested.larger.coherent.mem_keys_iff.2
      ⟨record.entry, nested.larger.entry_mem (nested.subset inFewer), rfl⟩
  have sorted : small.order.keys.Pairwise (Before large.config.policy more) := by
    rw [nested.policy]
    exact nested.smaller.keys_before.imp (Before.mono nested.subset)
  exact List.sublist_of_subperm_of_pairwise
    (List.subperm_of_subset nested.smaller.coherent.sound.distinct listed) sorted
    nested.larger.keys_before

/-! ### Records that leave -/

omit [DecidableEq Key] in
/-- Dropping records by one test costs the smaller cache no more than the larger. -/
theorem room_filter (nested : Nested small large fewer more tick)
    (keep : Placed Key Item → Bool) :
    (more.filter keep).length + small.config.maxSize ≤
      (fewer.filter keep).length + large.config.maxSize := by
  have room := nested.room
  have fewerSplit := List.length_eq_length_filter_add (l := fewer) keep
  have moreSplit := List.length_eq_length_filter_add (l := more) keep
  have dropped : (fewer.filter fun record => !keep record) ⊆
      more.filter fun record => !keep record := List.filter_subset _ nested.subset
  have shorter := (List.subperm_of_subset (nested.smaller.nodup.filter _) dropped).length_le
  omega

/-- A key taken out of both. -/
theorem take (nested : Nested small large fewer more tick) (key : Key) :
    Nested (small.take key).2 (large.take key).2
      (fewer.filter fun record => record.entry.key ≠ key)
      (more.filter fun record => record.entry.key ≠ key) tick where
  smaller := nested.smaller.take key
  larger := nested.larger.take key
  subset := List.filter_subset _ nested.subset
  config := by simpa using nested.config
  room := by simpa using nested.room_filter _
  stats := by simpa using nested.stats

/-- A sweep of both. -/
theorem clearExpired (nested : Nested small large fewer more tick) (now : Instant) :
    Nested (small.clearExpired now).2 (large.clearExpired now).2
      (fewer.filter fun record => !record.entry.isExpired now)
      (more.filter fun record => !record.entry.isExpired now) tick where
  smaller := (nested.smaller.clearExpired now).2
  larger := (nested.larger.clearExpired now).2
  subset := List.filter_subset _ nested.subset
  config := by simpa [Cache.clearExpired] using nested.config
  room := by simpa [Cache.clearExpired] using nested.room_filter _
  stats := by simpa [Cache.clearExpired, CacheStats.Improves] using nested.stats

omit [DecidableEq Key] in
/-- Both emptied. -/
theorem clear (nested : Nested small large fewer more tick) :
    Nested small.clear large.clear [] [] tick where
  smaller := nested.smaller.clear
  larger := nested.larger.clear
  subset := List.Subset.refl []
  config := nested.config
  room := Nat.add_le_add_left nested.config.1 0
  stats := nested.stats

/-- A full cache gives up one of its records, and a larger one with a free place none. -/
theorem evict_smaller (nested : Nested small large fewer more tick)
    (full : small.config.maxSize ≤ fewer.length) (nonempty : fewer ≠ [])
    (free : more.length < large.config.maxSize) :
    ∃ rest, Nested small.evict.2 large rest more tick := by
  obtain ⟨victim, member, -, -, counted, remaining⟩ := nested.smaller.evict nonempty
  refine ⟨_, remaining, nested.larger, ?_, ?_, ?_, ?_⟩
  · exact List.Subset.trans (List.filter_subset_self fewer) nested.subset
  · rw [Cache.evict_config]
    exact nested.config
  · have shorter := nested.smaller.length_filter_key member
    rw [Cache.evict_config]
    omega
  · rw [counted]
    exact ⟨nested.stats.1, Nat.le_succ_of_le nested.stats.2⟩

/-- Where both are full, both give up a record, and that of the larger is gone from the
smaller. -/
theorem evict_both (nested : Nested small large fewer more tick) (nonempty : fewer ≠ []) :
    ∃ rest others, Nested small.evict.2 large.evict.2 rest others tick := by
  have moreNonempty : more ≠ [] := by
    obtain ⟨record, rest, rfl⟩ := List.exists_cons_of_ne_nil nonempty
    exact List.ne_nil_of_mem (nested.subset List.mem_cons_self)
  obtain ⟨first, inFewer, least, -, counted, remaining⟩ := nested.smaller.evict nonempty
  obtain ⟨second, inMore, leastMore, -, countedMore, remainingMore⟩ :=
    nested.larger.evict moreNonempty
  -- The record that the larger gives up precedes all of the smaller, so it is the least there.
  have same : ∀ record ∈ fewer, record.entry.key = second.entry.key → record = first := by
    intro record member key
    obtain rfl := List.inj_on_of_nodup_map nested.larger.distinct (nested.subset member) inMore key
    by_contra different
    have precedes := least record member different
    have preceded := leastMore first (nested.subset inFewer) (Ne.symm different)
    rw [nested.policy] at preceded
    exact precedes.asymm preceded
  refine ⟨_, _, remaining, remainingMore, ?_, ?_, ?_, ?_⟩
  · intro record member
    simp only [List.mem_filter, decide_eq_true_eq] at member ⊢
    refine ⟨nested.subset member.1, fun key => member.2 ?_⟩
    rw [same record member.1 key]
  · rw [Cache.evict_config, Cache.evict_config]
    exact nested.config
  · have shorter := nested.smaller.length_filter_key inFewer
    have shorterMore := nested.larger.length_filter_key inMore
    have room := nested.room
    rw [Cache.evict_config, Cache.evict_config]
    omega
  · rw [counted, countedMore]
    exact ⟨nested.stats.1, Nat.succ_le_succ nested.stats.2⟩

/-! ### Records that come -/

/-- A new key stored in both. -/
theorem store (nested : Nested small large fewer more tick) {key : Key}
    (absent : large.find? key = none) (item : Item) (ttl : Option Duration) (now : Instant) :
    (small.store key item ttl now).Within (large.store key item ttl now) := by
  refine ⟨_, _, _, nested.smaller.store (nested.find?_eq_none absent) item ttl now,
    nested.larger.store absent item ttl now, ?_, nested.config, ?_, nested.stats⟩
  · exact List.append_subset.2 ⟨List.subset_append_of_subset_left _ nested.subset,
      List.subset_append_right _ _⟩
  · have room := nested.room
    simp only [List.length_append, List.length_singleton, Cache.store]
    omega

/-- A store under a key, in both. -/
theorem put (nested : Nested small large fewer more tick) (smallFormed : small.WellFormed)
    (largeFormed : large.WellFormed) (key : Key) (item : Item) (ttl : Option Duration)
    (now : Instant) :
    (small.put key item ttl now).2.Within (large.put key item ttl now).2 := by
  have room := nested.room
  have smallLength := nested.smaller.length
  have largeLength := nested.larger.length
  have roomy := smallFormed.roomy
  have bounded := largeFormed.bounded
  have life : large.config.defaultTtl = small.config.defaultTtl := by rw [nested.config.2]
  cases found : large.find? key with
  | some entry =>
    have hidden : (large.take key).2.find? key = none := by
      rw [Cache.find?_without (Cache.take_entries large key), if_pos rfl]
    rw [Cache.put_of_found found, life]
    have taken := nested.take key
    cases held : small.find? key with
    | some other =>
      rw [Cache.put_of_found held]
      exact taken.store hidden _ _ _
    | none =>
      have untouched : (small.take key).2 = small := by rw [Cache.take_of_absent held]
      rw [untouched] at taken
      rcases Nat.lt_or_ge small.entries.length small.config.maxSize with fits | full
      · rw [Cache.put_of_room held fits]
        exact taken.store hidden _ _ _
      · -- The key that leaves the larger cache gives it the free place.
        have shorter := nested.larger.coherent.length_without found
        have fewerKept := taken.smaller.length
        have moreKept := taken.larger.length
        rw [Cache.take_entries] at moreKept
        obtain ⟨rest, evicted⟩ := taken.evict_smaller (by omega)
          (List.ne_nil_of_length_pos (by omega)) (by rw [Cache.take_config]; omega)
        rw [Cache.put_of_full held full]
        exact evicted.store hidden _ _ _
  | none =>
    have held := nested.find?_eq_none found
    rcases Nat.lt_or_ge small.entries.length small.config.maxSize with fits | full
    · rw [Cache.put_of_room held fits, Cache.put_of_room found (by omega), life]
      exact nested.store found _ _ _
    · have nonempty : fewer ≠ [] := List.ne_nil_of_length_pos (by omega)
      rw [Cache.put_of_full held full]
      -- Where the smaller cache gives up an entry the larger may still have room.
      rcases Nat.lt_or_ge large.entries.length large.config.maxSize with free | largeFull
      · obtain ⟨rest, evicted⟩ := nested.evict_smaller (by omega) nonempty (by omega)
        rw [Cache.put_of_room found free, life]
        exact evicted.store found _ _ _
      · obtain ⟨rest, others, evicted⟩ := nested.evict_both nonempty
        rw [Cache.put_of_full found largeFull, life]
        exact evicted.store (Cache.find?_evict_of_absent found) _ _ _

/-! ### Lookups -/

/-- A key found live in the larger cache is used there, and in the smaller one if it is
there. -/
theorem touch (nested : Nested small large fewer more tick) {key : Key} {entry : Entry Key Item}
    (found : large.find? key = some entry) {now : Instant}
    (live : entry.isExpired now = false) :
    (small.get key now).2.Within (large.get key now).2 := by
  obtain ⟨hits, evictions⟩ := nested.stats
  rw [Cache.get_of_live found live]
  cases held : small.find? key with
  | some other =>
    obtain rfl : other = entry := Option.some.inj ((nested.find? held).symm.trans found)
    rw [Cache.get_of_live held live]
    refine ⟨_, _, _, nested.smaller.touch held rfl rfl rfl, nested.larger.touch found rfl rfl rfl,
      ?_, nested.config, ?_, Nat.succ_le_succ hits, evictions⟩
    · rw [nested.policy]
      exact List.map_subset _ nested.subset
    · simpa using nested.room
  | none =>
    have elsewhere : ∀ record ∈ fewer, record.entry.key ≠ key := fun record member =>
      Cache.find?_eq_none_iff.1 held record.entry (nested.smaller.entry_mem member)
    rw [Cache.get_of_absent held]
    refine ⟨_, _, _, nested.smaller.later.restat _, nested.larger.touch found rfl rfl rfl, ?_,
      nested.config, ?_, Nat.le_succ_of_le hits, evictions⟩
    · intro record member
      exact List.mem_map.2 ⟨record, nested.subset member, if_neg (elsewhere record member)⟩
    · simpa using nested.room

/-- A lookup in both. -/
theorem get (nested : Nested small large fewer more tick) (key : Key) (now : Instant) :
    (small.get key now).2.Within (large.get key now).2 := by
  cases found : large.find? key with
  | none =>
    rw [Cache.get_of_absent (nested.find?_eq_none found), Cache.get_of_absent found]
    exact ⟨_, _, _, nested.restat nested.stats⟩
  | some entry =>
    cases expired : entry.isExpired now with
    | false => exact nested.touch found expired
    | true =>
      have taken := nested.take key
      rw [Cache.get_of_expired found expired]
      cases held : small.find? key with
      | some other =>
        obtain rfl : other = entry := Option.some.inj ((nested.find? held).symm.trans found)
        rw [Cache.get_of_expired held expired]
        exact ⟨_, _, _, taken.restat nested.stats⟩
      | none =>
        have untouched : (small.take key).2 = small := by rw [Cache.take_of_absent held]
        rw [untouched] at taken
        rw [Cache.get_of_absent held]
        exact ⟨_, _, _, taken.restat nested.stats⟩

/-- A live entry of the smaller cache is live in the larger. -/
theorem live? (nested : Nested small large fewer more tick) {key : Key} {now : Instant}
    {entry : Entry Key Item} (live : small.live? key now = some entry) :
    large.live? key now = some entry := by
  rw [Cache.live?, Option.filter_eq_some_iff] at live ⊢
  exact ⟨nested.find? live.1, live.2⟩

/-- The live keys of the smaller cache are some of those of the larger, in their order. -/
theorem keys_now_sublist (nested : Nested small large fewer more tick) (now : Instant) :
    (small.keys now).Sublist (large.keys now) := by
  have contained : ∀ key ∈ small.order.keys, small.contains key now = large.contains key now := by
    intro key member
    obtain ⟨entry, inTable, rfl⟩ := nested.smaller.coherent.mem_keys_iff.1 member
    have found := Cache.find?_of_mem nested.smaller.coherent.distinct inTable
    simp only [Cache.contains, found, nested.find? found]
  rw [Cache.keys, List.filter_congr contained]
  exact nested.keys_sublist.filter _

end Nested

namespace CacheSession

variable {small large : CacheSession Key Item}

/-- A session and one with a larger cache after the same commands. -/
structure Enclosed (small large : CacheSession Key Item) : Prop where
  clock : small.clock = large.clock
  smallFormed : small.cache.WellFormed
  largeFormed : large.cache.WellFormed
  within : small.cache.Within large.cache

/-- A command keeps the smaller cache within the larger. -/
theorem Enclosed.step (enclosed : small.Enclosed large) (command : CacheCommand Key Item) :
    (small.step command).2.2.Enclosed (large.step command).2.2 := by
  obtain ⟨clock, smallFormed, largeFormed, fewer, more, tick, nested⟩ := enclosed
  have now : small.now = large.now := congrArg Clock.monotonic clock
  have kept : (small.step command).2.2.cache.Within (large.step command).2.2.cache := by
    cases command with
    | get key =>
      simp only [CacheSession.step, CacheSession.get, now]
      exact nested.get key large.now
    | put key item ttl =>
      simp only [CacheSession.step, CacheSession.put, now]
      exact nested.put smallFormed largeFormed key item ttl large.now
    | remove key => exact ⟨_, _, _, nested.take key⟩
    | clear => exact ⟨_, _, _, nested.clear⟩
    | clearExpired =>
      simp only [CacheSession.step, now]
      exact ⟨_, _, _, nested.clearExpired large.now⟩
    | resetStats => exact ⟨_, _, _, nested.restat ⟨Nat.le_refl 0, Nat.le_refl 0⟩⟩
    | peek key => exact ⟨_, _, _, nested⟩
    | contains key => exact ⟨_, _, _, nested⟩
    | advance span => exact ⟨_, _, _, nested⟩
  refine ⟨?_, step_kept Cache.kept_wellFormed small command smallFormed,
    step_kept Cache.kept_wellFormed large command largeFormed, kept⟩
  cases command <;> simp [CacheSession.step, CacheSession.get, CacheSession.put, clock]

/-- A run keeps the smaller cache within the larger. -/
theorem Enclosed.run (enclosed : small.Enclosed large) (commands : List (CacheCommand Key Item)) :
    (small.run commands).Enclosed (large.run commands) := by
  induction commands generalizing small large with
  | nil => exact enclosed
  | cons command rest ih => exact ih (enclosed.step command)

/-- What the smaller cache answers with an item, the larger answers alike. -/
theorem Enclosed.answer (enclosed : small.Enclosed large) {command : CacheCommand Key Item}
    {item : Item} (found : (small.step command).1 = .item (some item)) :
    (large.step command).1 = .item (some item) := by
  obtain ⟨clock, -, -, fewer, more, tick, nested⟩ := enclosed
  have now : small.now = large.now := congrArg Clock.monotonic clock
  have live : ∀ key, (small.cache.live? key large.now).map Entry.item = some item →
      (large.cache.live? key large.now).map Entry.item = some item := by
    intro key held
    obtain ⟨entry, live, rfl⟩ := Option.map_eq_some_iff.1 held
    rw [nested.live? live, Option.map_some]
  cases command with
  | get key =>
    simp only [CacheSession.step, CacheSession.get, Cache.get_item?, now,
      CacheAnswer.item.injEq] at found ⊢
    exact live key found
  | peek key =>
    simp only [CacheSession.step, Cache.peek_eq, now, CacheAnswer.item.injEq] at found ⊢
    exact live key found
  | put | remove | contains | clear | clearExpired | resetStats | advance => cases found

/-- Every answer with an item in a run of the smaller cache is given by the larger too. -/
theorem Enclosed.replies (enclosed : small.Enclosed large)
    (commands : List (CacheCommand Key Item)) {index : Nat} {item : Item}
    (found : (small.replies commands)[index]?.map Prod.fst = some (.item (some item))) :
    (large.replies commands)[index]?.map Prod.fst = some (.item (some item)) := by
  induction commands generalizing small large index with
  | nil => simp [CacheSession.replies] at found
  | cons command rest ih =>
    cases index with
    | zero =>
      simp only [CacheSession.replies, List.getElem?_cons_zero, Option.map_some,
        Option.some.injEq] at found ⊢
      exact enclosed.answer found
    | succ index => exact ih (enclosed.step command) found

omit [DecidableEq Key] in
/-- Empty caches begin so. -/
theorem enclosed_start {config : CacheConfig} {size : Nat} (larger : config.maxSize ≤ size)
    (clock : Clock) :
    (start config clock : CacheSession Key Item).Enclosed
      (start { config with maxSize := size } clock) := by
  have represents := fun (config : CacheConfig) =>
    (follows_start config clock : (start config clock : CacheSession Key Item).Follows _)
  have sizes : max config.maxSize 1 ≤ max size 1 := by omega
  exact ⟨rfl, .new _, .new _, [], [], 0, (represents _).mirrors.represents,
    (represents _).mirrors.represents, List.Subset.refl [], ⟨sizes, rfl⟩,
    Nat.add_le_add_left sizes 0, Nat.le_refl 0, Nat.le_refl 0⟩

/-- Enlarging a cache loses no hit. Under every policy, after the same commands to two
caches that differ in size alone: the live keys of the smaller are some of those of the
larger, in the same order; every entry of the smaller is an entry of the larger, with its
history; every command that the smaller answered with an item, the larger answered with
the same item; and the larger has counted at least as many hits and at most as many
entries given up. -/
theorem enlarging_loses_no_hit (config : CacheConfig) {size : Nat}
    (larger : config.maxSize ≤ size) (clock : Clock) (commands : List (CacheCommand Key Item)) :
    let small := (start config clock : CacheSession Key Item).run commands
    let large := (start { config with maxSize := size } clock : CacheSession Key Item).run commands
    (small.cache.keys small.now).Sublist (large.cache.keys large.now) ∧
    (∀ key entry, small.cache.find? key = some entry → large.cache.find? key = some entry) ∧
    (∀ (index : Nat) (item : Item),
      ((start config clock).replies commands)[index]?.map Prod.fst = some (.item (some item)) →
      ((start { config with maxSize := size } clock).replies commands)[index]?.map Prod.fst =
        some (.item (some item))) ∧
    small.cache.stats.hits ≤ large.cache.stats.hits ∧
    large.cache.stats.evictions ≤ small.cache.stats.evictions := by
  intro small large
  have enclosed : (start config clock : CacheSession Key Item).Enclosed _ :=
    enclosed_start larger clock
  obtain ⟨later, -, -, fewer, more, tick, nested⟩ := enclosed.run commands
  have now : small.now = large.now := congrArg Clock.monotonic later
  refine ⟨?_, fun key entry => nested.find?, fun index item => enclosed.replies commands,
    nested.stats⟩
  rw [now]
  exact nested.keys_now_sublist large.now

/-- Room for a second key saves the first one, and the second is found in both caches. -/
theorem enlarging_loses_no_hit_from_one_to_two :
    let commands : List (CacheCommand Nat Nat) := [.put 1 10 none, .put 2 20 none, .get 2]
    let clock : Clock := ⟨⟨0⟩, ⟨0, by decide⟩⟩
    1 ≤ 2 ∧
    ((start ⟨1, .lfu, none⟩ clock).replies commands)[2]?.map Prod.fst = some (.item (some 20)) ∧
    ((start ⟨2, .lfu, none⟩ clock).replies commands)[2]?.map Prod.fst = some (.item (some 20)) := by
  intro commands clock
  have hit : ((start ⟨1, .lfu, none⟩ clock).replies commands)[2]?.map Prod.fst =
      some (.item (some 20)) := rfl
  exact ⟨by decide, hit,
    (enlarging_loses_no_hit ⟨1, .lfu, none⟩ (by decide) clock commands).2.2.1 2 20 hit⟩

end CacheSession

end QueryKit
