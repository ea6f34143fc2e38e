import Mathlib.Algebra.GroupWithZero.Nat
import QueryKit.Proofs.Cache.Shared

/-!
# Entries are conserved

An entry leaves a cache by one of five ways: it is given up to make room, it is found past
its expiry by a lookup or a sweep, it is removed, it is replaced by a store under its key,
or the cache is cleared. The counters of a cache tell the first two only. `Accounts` is what
every operation keeps: what was there and what was stored is still there or left by one of
the ways, and the two counters move by what left by theirs. So every store of a run is
accounted for.
-/

namespace QueryKit

variable {Key Item : Type} [DecidableEq Key]

namespace Cache

/-- A cache after some more stores, with the entries that left it since: given up, dropped
past their expiry, or gone by a way that is not counted. -/
structure Accounts (before : Cache Key Item) (stored evicted expired uncounted : Nat)
    (after : Cache Key Item) : Prop where
  entries : before.size + stored = after.size + evicted + expired + uncounted
  evictions : after.stats.evictions = before.stats.evictions + evicted
  expirations : after.stats.expirations = before.stats.expirations + expired

omit [DecidableEq Key] in
/-- Accounts add up. -/
theorem Accounts.trans {before middle after : Cache Key Item}
    {stored evicted expired uncounted moreStored moreEvicted moreExpired moreUncounted : Nat}
    (first : before.Accounts stored evicted expired uncounted middle)
    (second : middle.Accounts moreStored moreEvicted moreExpired moreUncounted after) :
    before.Accounts (stored + moreStored) (evicted + moreEvicted) (expired + moreExpired)
      (uncounted + moreUncounted) after where
  entries := by
    have earlier := first.entries
    have later := second.entries
    omega
  evictions := by rw [second.evictions, first.evictions, Nat.add_assoc]
  expirations := by rw [second.expirations, first.expirations, Nat.add_assoc]

/-- A store under a new key adds one entry and counts no departure. -/
theorem accounts_store (cache : Cache Key Item) (key : Key) (item : Item)
    (ttl : Option Duration) (now : Instant) :
    cache.Accounts 1 0 0 0 (cache.store key item ttl now) := by
  refine ⟨?_, rfl, rfl⟩
  rw [size, size, store, List.length_append]
  rfl

/-- The entries past their expiry that a later table is without. -/
def lapsed (cache after : Cache Key Item) (now : Instant) : List (Entry Key Item) :=
  cache.entries.filter fun entry => entry.isExpired now && (after.find? entry.key).isNone

/-- Where the keys of a table stay, none of its entries is gone. -/
theorem lapsed_eq_nil {cache after : Cache Key Item}
    (keys : after.entries.map Entry.key = cache.entries.map Entry.key) (now : Instant) :
    cache.lapsed after now = [] := by
  refine List.filter_eq_nil_iff.2 fun entry member gone => ?_
  rw [Bool.and_eq_true, Option.isNone_iff_eq_none, find?_eq_none_iff] at gone
  obtain ⟨other, left, same⟩ := List.mem_map.1 (keys ▸ List.mem_map_of_mem member)
  exact gone.2 other left same

namespace Coherent

variable {cache after : Cache Key Item}

/-- Where one entry past its expiry was taken out, it is the only one that is gone. -/
theorem lapsed_without (coherent : cache.Coherent) {entry : Entry Key Item} {now : Instant}
    (member : entry ∈ cache.entries) (expired : entry.isExpired now = true)
    (table : after.entries = without entry.key cache.entries) :
    (cache.lapsed after now).length = 1 := by
  have chosen : ∀ other ∈ cache.entries,
      (other.isExpired now && (after.find? other.key).isNone) = decide (other.key = entry.key) := by
    intro other otherMember
    rw [find?_without table]
    by_cases same : other.key = entry.key
    · simp [coherent.entry_inj member otherMember same, expired]
    · simp [same, find?_of_mem coherent.distinct otherMember]
  have one := coherent.length_without (find?_of_mem coherent.distinct member)
  have split := List.length_eq_length_filter_add (l := cache.entries)
    fun other => decide (other.key = entry.key)
  have others : (cache.entries.filter fun other => !decide (other.key = entry.key)) =
      without entry.key cache.entries := by simp [without]
  rw [others] at split
  rw [lapsed, List.filter_congr chosen]
  omega

/-- After a sweep all entries past their expiry are gone. -/
theorem lapsed_clearExpired (coherent : cache.Coherent) (now : Instant) :
    cache.lapsed (cache.clearExpired now).2 now =
      cache.entries.filter fun entry => entry.isExpired now := by
  refine List.filter_congr fun entry member => ?_
  cases expired : entry.isExpired now with
  | false => rfl
  | true =>
    rw [Bool.true_and, Option.isNone_iff_eq_none, find?_eq_none_iff, coherent.clearExpired_entries]
    intro other left same
    obtain ⟨otherMember, live⟩ := List.mem_filter.1 left
    rw [coherent.entry_inj member otherMember same, expired] at live
    cases live

/-- A lookup drops the entry that it finds past its expiry, and no other. -/
theorem accounts_get (coherent : cache.Coherent) (key : Key) (now : Instant) :
    cache.Accounts 0 0 (cache.lapsed (cache.get key now).2 now).length 0
      (cache.get key now).2 := by
  cases found : cache.find? key with
  | none =>
    have table : (cache.get key now).2.entries = cache.entries := by rw [get_of_absent found]
    rw [lapsed_eq_nil (congrArg _ table), get_of_absent found]
    exact ⟨rfl, rfl, rfl⟩
  | some entry =>
    obtain ⟨member, rfl⟩ := mem_of_find? found
    cases expired : entry.isExpired now with
    | false =>
      have table : (cache.get entry.key now).2.entries = touched entry.key now cache.entries := by
        rw [get_of_live found expired]
      rw [lapsed_eq_nil (by rw [table, map_key_touched]), get_of_live found expired]
      exact ⟨(length_touched _ _ _).symm, rfl, rfl⟩
    | true =>
      have table : (cache.get entry.key now).2.entries = without entry.key cache.entries := by
        rw [get_of_expired found expired]
        exact take_entries cache entry.key
      have one := coherent.length_without found
      rw [coherent.lapsed_without member expired table]
      refine ⟨?_, ?_, ?_⟩
      · rw [size, size, table]
        omega
      · rw [get_of_expired found expired]
        rfl
      · rw [get_of_expired found expired]
        rfl

/-- A sweep drops the entries past their expiry. -/
theorem accounts_clearExpired (coherent : cache.Coherent) (now : Instant) :
    cache.Accounts 0 0 (cache.lapsed (cache.clearExpired now).2 now).length 0
      (cache.clearExpired now).2 := by
  have counted : (cache.clearExpired now).2.stats = { cache.stats with
      expirations := cache.stats.expirations +
        (cache.entries.filter fun entry => entry.isExpired now).length } := by
    rw [clearExpired, dropExpired_stats, expiredKeys, List.length_map]
  have split := List.length_eq_length_filter_add (l := cache.entries)
    fun entry => entry.isExpired now
  rw [coherent.lapsed_clearExpired]
  refine ⟨?_, by rw [counted]; rfl, by rw [counted]⟩
  rw [size, size, coherent.clearExpired_entries]
  omega

/-- Taking a key takes its entry, if it has one, and counts nothing. -/
theorem accounts_take (coherent : cache.Coherent) (key : Key) :
    cache.Accounts 0 0 0 (cache.find? key).isSome.toNat (cache.take key).2 := by
  refine ⟨?_, by rw [take_stats]; rfl, by rw [take_stats]; rfl⟩
  cases found : cache.find? key with
  | none => rw [take_of_absent found]; rfl
  | some entry =>
    have one := coherent.length_without found
    rw [size, size, take_entries, Option.isSome_some, Bool.toNat_true]
    omega

/-- A cache with entries gives up one of them and counts it. -/
theorem accounts_evict (coherent : cache.Coherent) (nonempty : cache.entries ≠ []) :
    cache.Accounts 0 1 0 0 cache.evict.2 := by
  cases ahead : cache.order.keys with
  | nil => exact absurd (coherent.keys_eq_nil_iff.1 ahead) nonempty
  | cons key rest =>
    obtain ⟨entry, found, evicted, -⟩ := coherent.evict_of_ahead ahead
    rw [evicted]
    exact ⟨(coherent.length_without found).symm, rfl, rfl⟩

end Coherent

/-- A store replaces the entry of its key, or gives one up where there is no room for a new
key. -/
theorem WellFormed.accounts_put {cache : Cache Key Item} (formed : cache.WellFormed) (key : Key)
    (item : Item) (ttl : Option Duration) (now : Instant) :
    cache.Accounts 1 ((cache.find? key).isNone && cache.isFull).toNat 0
      (cache.find? key).isSome.toNat (cache.put key item ttl now).2 := by
  cases found : cache.find? key with
  | some entry =>
    have taken := formed.coherent.accounts_take key
    rw [found] at taken
    rw [put_of_found found]
    exact taken.trans (accounts_store _ ..)
  | none =>
    rcases Nat.lt_or_ge cache.entries.length cache.config.maxSize with room | full
    · have notFull : cache.isFull = false := decide_eq_false (Nat.not_le_of_lt room)
      rw [put_of_room found room, notFull]
      exact accounts_store _ ..
    · have isFull : cache.isFull = true := decide_eq_true full
      have nonempty : cache.entries ≠ [] :=
        List.ne_nil_of_length_pos (Nat.lt_of_lt_of_le formed.roomy full)
      rw [put_of_full found full, isFull]
      exact (formed.coherent.accounts_evict nonempty).trans (accounts_store _ ..)

end Cache

/-! ### Steps and runs -/

namespace CacheStep

/-- Whether the step is a removal that found its key. -/
def removes (step : CacheStep Key Item) : Bool :=
  match step.command, step.answer with
  | .remove _, .flag true => true
  | _, _ => false

/-- Whether the step stores under a key that has an entry, expired or not. -/
def replaces (step : CacheStep Key Item) : Bool :=
  match step.command with
  | .put key _ _ => (step.before.cache.find? key).isSome
  | _ => false

/-- Whether the step stores under a key without entry while the cache is full. -/
def evicts (step : CacheStep Key Item) : Bool :=
  match step.command with
  | .put key _ _ => (step.before.cache.find? key).isNone && step.before.cache.isFull
  | _ => false

/-- The number of entries that the step forgets by clearing the cache. -/
def cleared (step : CacheStep Key Item) : Nat :=
  match step.command with
  | .clear => step.before.cache.size
  | _ => 0

/-- The entries that a lookup or a sweep found past their expiry and dropped. -/
def expired (step : CacheStep Key Item) : List (Entry Key Item) :=
  match step.command with
  | .get _ | .clearExpired => step.before.cache.lapsed step.after.cache step.before.now
  | _ => []

end CacheStep

namespace CacheSession

variable {session : CacheSession Key Item}

/-- A step accounts for the entries that it finds and stores. -/
theorem accounts_carryOut (formed : session.cache.WellFormed) {command : CacheCommand Key Item}
    (unreset : command ≠ .resetStats) :
    let step := session.carryOut command
    session.cache.Accounts command.storedKey?.toList.length step.evicts.toNat step.expired.length
      (step.removes.toNat + step.replaces.toNat + step.cleared)
      (session.step command).2.2.cache := by
  have coherent := formed.coherent
  cases command with
  | get key => exact coherent.accounts_get key session.now
  | put key item ttl =>
    have accounts := formed.accounts_put key item ttl session.now
    rwa [← Nat.zero_add (session.cache.find? key).isSome.toNat] at accounts
  | remove key =>
    have accounts := coherent.accounts_take key
    have answered :
        (session.carryOut (.remove key)).removes = (session.cache.find? key).isSome := by
      simp only [CacheStep.removes, carryOut, step, Cache.remove, Cache.take_fst]
      cases (session.cache.find? key).isSome <;> rfl
    rw [← answered] at accounts
    exact accounts
  | clear =>
    refine ⟨?_, rfl, rfl⟩
    show session.cache.size + 0 = 0 + 0 + 0 + (0 + 0 + session.cache.size)
    omega
  | clearExpired => exact coherent.accounts_clearExpired session.now
  | resetStats => exact absurd rfl unreset
  | peek _ | contains _ | advance _ => exact ⟨rfl, rfl, rfl⟩

/-- A run accounts for the entries that it finds and stores. -/
theorem accounts_run (formed : session.cache.WellFormed)
    {commands : List (CacheCommand Key Item)} (unreset : CacheCommand.resetStats ∉ commands) :
    let steps := session.history commands
    session.cache.Accounts (CacheCommand.storedKeys commands).length
      (steps.countP CacheStep.evicts) (steps.map fun step => step.expired.length).sum
      (steps.countP CacheStep.removes + steps.countP CacheStep.replaces +
        (steps.map CacheStep.cleared).sum)
      (session.run commands).cache := by
  induction commands generalizing session with
  | nil => exact ⟨rfl, rfl, rfl⟩
  | cons command rest ih =>
    rw [List.mem_cons, not_or] at unreset
    have first := accounts_carryOut formed (Ne.symm unreset.1)
    have formedAfter := step_kept Cache.kept_wellFormed session command formed
    have later := first.trans (ih formedAfter unreset.2)
    have countP_cons : ∀ (chosen : CacheStep Key Item → Bool) step steps,
        (step :: steps).countP chosen = (chosen step).toNat + steps.countP chosen := by
      intro chosen step steps
      rw [List.countP_cons, Nat.add_comm]
      cases chosen step <;> rfl
    have stored : (CacheCommand.storedKeys (command :: rest)).length =
        command.storedKey?.toList.length + (CacheCommand.storedKeys rest).length := by
      rw [CacheCommand.storedKeys, List.filterMap_cons]
      cases command.storedKey? <;> simp [CacheCommand.storedKeys, Nat.add_comm]
    simp only [history, countP_cons, List.map_cons, List.sum_cons, stored, run]
    exact ⟨by have := later.entries; omega, later.evictions, later.expirations⟩

/-- Every store of a run is accounted for. In a run from an empty cache that resets no
counter, the stores counted are the entries that are still there, those that were given up
and those that were dropped past their expiry, both as counted, with the removals that
found their key, the stores under a key that had an entry and the entries that were there
when the cache was cleared. The lookups counted are those of the run. A store gives an entry
up exactly where it finds no entry of its key and no room, and what counts as expired are
the entries that a lookup or a sweep found past their expiry and that were gone after it. -/
theorem insertions_conserved (config : CacheConfig) (clock : Clock)
    {commands : List (CacheCommand Key Item)} (unreset : CacheCommand.resetStats ∉ commands) :
    let cache := ((start config clock).run commands).cache
    let steps := (start config clock).history commands
    cache.stats.insertions = cache.size + cache.stats.evictions + cache.stats.expirations +
      steps.countP CacheStep.removes + steps.countP CacheStep.replaces +
      (steps.map CacheStep.cleared).sum ∧
    cache.stats.hits + cache.stats.misses = cache.stats.totalRequests ∧
    cache.stats.totalRequests = commands.countP CacheCommand.isLookup ∧
    cache.stats.evictions = steps.countP CacheStep.evicts ∧
    cache.stats.expirations = (steps.map fun step => step.expired.length).sum := by
  intro cache steps
  let origin : CacheSession Key Item := start config clock
  have formed : origin.cache.WellFormed := .new config
  have accounts := accounts_run formed unreset
  obtain ⟨lookups, stores⟩ := origin.counts_run unreset
  have entries : 0 + (CacheCommand.storedKeys commands).length =
      cache.size + steps.countP CacheStep.evicts + (steps.map fun step => step.expired.length).sum +
        (steps.countP CacheStep.removes + steps.countP CacheStep.replaces +
          (steps.map CacheStep.cleared).sum) := accounts.entries
  have evictions : cache.stats.evictions = 0 + steps.countP CacheStep.evicts :=
    accounts.evictions
  have expirations :
      cache.stats.expirations = 0 + (steps.map fun step => step.expired.length).sum :=
    accounts.expirations
  have insertions : cache.stats.insertions = 0 + (CacheCommand.storedKeys commands).length := stores
  have requests : cache.stats.totalRequests = 0 + commands.countP CacheCommand.isLookup := lookups
  exact ⟨by omega, rfl, by omega, by omega, by omega⟩

/-- One entry leaves by each way, and two past their expiry: two stores are left over, of
which one entry is given up and one is still there. -/
theorem insertions_conserved_by_every_way :
    let commands : List (CacheCommand Nat Nat) :=
      [.put 1 10 none, .put 1 11 (some (.ofMillis 1)), .put 2 20 (some (.ofMillis 1)),
        .put 3 30 (some (.ofMillis 1)), .advance (.ofMillis 2), .get 2, .clearExpired,
        .put 4 40 none, .remove 4, .put 5 50 none, .clear, .put 6 60 none, .get 6, .remove 7]
    let clock : Clock := ⟨⟨0⟩, ⟨0, by decide⟩⟩
    let cache := ((start ⟨2, .lfu, none⟩ clock).run commands).cache
    let steps := (start ⟨2, .lfu, none⟩ clock).history commands
    CacheCommand.resetStats ∉ commands ∧
    cache.stats = ⟨1, 1, 7, 1, 2⟩ ∧ cache.size = 1 ∧
    cache.stats.insertions = cache.size + cache.stats.evictions + cache.stats.expirations +
      steps.countP CacheStep.removes + steps.countP CacheStep.replaces +
      (steps.map CacheStep.cleared).sum := by
  intro commands clock
  have unreset : CacheCommand.resetStats ∉ commands := by simp [commands]
  have conserved := (insertions_conserved ⟨2, .lfu, none⟩ clock unreset).1
  exact ⟨unreset, by decide +kernel, by decide +kernel, conserved⟩

end CacheSession

end QueryKit
