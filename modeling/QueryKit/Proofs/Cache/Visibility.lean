import Mathlib.Data.List.Induction
import QueryKit.Proofs.Cache.Shared

/-!
# What is seen of a cache

A cache is looked at in five ways, through its table alone or through its order and then its
table, and each way leaves out the entries past their expiry by itself. All of them go by
the live entry of a key. Which entry that is, the history of the cache tells: it was made by
the last store under its key, and since then nothing has ended it (`CacheStep.Ends`). So
what is seen of a key is the item of the last store that is not ended and not past its
expiry, and a key that is not seen is not seen again before the next store under it.
-/

namespace QueryKit

variable {Key Item : Type} [DecidableEq Key]

/-! ### Five ways of looking -/

namespace Cache

variable {cache : Cache Key Item}

/-- The live entries stand in the order of their keys. -/
theorem liveEntries_eq (cache : Cache Key Item) (now : Instant) :
    cache.liveEntries now = cache.order.keys.filterMap fun key => cache.live? key now := by
  rw [liveEntries, List.filter_filterMap]
  rfl

/-- The live keys are the keys of the live entries. -/
theorem keys_eq_map_liveEntries (cache : Cache Key Item) (now : Instant) :
    cache.keys now = (cache.liveEntries now).map Entry.key := by
  rw [keys, liveEntries_eq, List.map_filterMap, ← List.filterMap_eq_filter]
  congr 1
  funext key
  rw [Option.guard, contains_eq]
  cases live : cache.live? key now with
  | none => rfl
  | some entry =>
    have same := (mem_of_find? (live?_eq_some_iff.1 live).1).2
    rw [Option.isSome_some, if_pos rfl, Option.map_some, same]

/-- A key is among the live keys exactly if it has a live entry. -/
theorem Coherent.mem_keys_now_iff (coherent : cache.Coherent) {key : Key} {now : Instant} :
    key ∈ cache.keys now ↔ cache.contains key now = true := by
  rw [keys, List.mem_filter, and_iff_right_iff_imp, contains_eq, Option.isSome_iff_exists]
  rintro ⟨entry, live⟩
  obtain ⟨member, same⟩ := mem_of_find? (live?_eq_some_iff.1 live).1
  exact coherent.mem_keys_iff.2 ⟨entry, member, same⟩

/-- A lookup finds an item exactly if peeking shows it. -/
theorem peek_eq_some_iff {key : Key} {now : Instant} {item : Item} :
    cache.peek key now = some item ↔ (cache.get key now).1 = .found item := by
  rw [peek_eq, ← get_item?]
  cases (cache.get key now).1 <;> simp [Lookup.item?]

end Cache

omit [DecidableEq Key] in
/-- An entry is live up to the end of its life, if its life has an end. -/
theorem Entry.isExpired_eq_false_iff {entry : Entry Key Item} {now : Instant} :
    entry.isExpired now = false ↔
      ∀ span last, entry.ttl = some span → entry.createdAt.plus? span = some last → now ≤ last := by
  have ends : entry.isExpired now = false ↔ ∀ last, entry.expiresAt = some last → now ≤ last := by
    rw [isExpired]
    cases entry.expiresAt with
    | none => simp
    | some last =>
      rw [decide_eq_false_iff_not]
      exact Nat.not_lt.trans
        ⟨fun live _ same => Option.some.inj same ▸ live, fun live => live _ rfl⟩
  rw [ends, expiresAt]
  constructor
  · intro live span last life ending
    exact live last (by rw [life, Option.bind_some, ending])
  · intro live last ending
    obtain ⟨span, life, ending⟩ := Option.bind_eq_some_iff.1 ending
    exact live span last life ending

/-! ### The store that made an entry -/

/-- Whether a step puts an end to the entry of a key: it stores under the key, gives up or
removes its entry, or clears the cache. -/
def CacheStep.Ends (key : Key) (step : CacheStep Key Item) : Prop :=
  match step.command with
  | .put other item ttl =>
    other = key ∨
      (step.before.cache.put other item ttl step.before.now).1.map Entry.key = some key
  | .remove other => other = key
  | .clear => True
  | _ => False

namespace CacheSession

variable {session origin : CacheSession Key Item} {key : Key}
  {commands : List (CacheCommand Key Item)}

/-- A store ends the entry of its own key and of the key it gives up. -/
theorem ends_put {stored : Key} {item : Item} {ttl : Option Duration} :
    (session.carryOut (.put stored item ttl)).Ends key ↔
      stored = key ∨
        (session.cache.put stored item ttl session.now).1.map Entry.key = some key :=
  Iff.rfl

/-- A command that leaves the entry of a key, and did not store it, has not ended it. -/
theorem not_ends_of_step {command : CacheCommand Key Item} {entry : Entry Key Item}
    (other : command.storedKey? ≠ some key)
    (found : (session.step command).2.2.cache.find? key = some entry) :
    ¬ (session.carryOut command).Ends key := by
  cases command with
  | put stored item ttl =>
    have different : key ≠ stored := fun same => other (congrArg some same.symm)
    rw [ends_put]
    rintro (same | given)
    · exact different same.symm
    · have left : (session.cache.put stored item ttl session.now).2.find? key = some entry := found
      rw [Cache.find?_put_of_ne _ different, if_pos given] at left
      cases left
  | remove removed =>
    rintro rfl
    have left : (session.cache.take removed).2.find? removed = some entry := found
    rw [Cache.find?_without (Cache.take_entries _ _), if_pos rfl] at left
    cases left
  | clear => exact absurd found (by simp [step, Cache.clear, Cache.find?])
  | get _ | peek _ | contains _ | clearExpired | resetStats | advance _ => exact id

/-- A command that does not end a live entry leaves it, with all that a use does not
change. -/
theorem exists_find?_step (formed : session.cache.WellFormed) {command : CacheCommand Key Item}
    {entry : Entry Key Item} (found : session.cache.find? key = some entry)
    (live : entry.isExpired session.now = false) (spared : ¬ (session.carryOut command).Ends key) :
    ∃ left, (session.step command).2.2.cache.find? key = some left ∧ left.item = entry.item ∧
      left.createdAt = entry.createdAt ∧ left.ttl = entry.ttl := by
  cases command with
  | get looked =>
    show ∃ left, (session.cache.get looked session.now).2.find? key = some left ∧ _
    cases seen : session.cache.live? looked session.now with
    | none =>
      have different : key ≠ looked := by
        rintro rfl
        rw [Cache.live?_eq_some_iff.2 ⟨found, live⟩] at seen
        cases seen
      rw [Cache.find?_without (Cache.get_of_missing seen).1, if_neg different]
      exact ⟨entry, found, rfl, rfl, rfl⟩
    | some used =>
      obtain ⟨held, valid⟩ := Cache.live?_eq_some_iff.1 seen
      rw [Cache.get_of_live held valid, Cache.find?_touched rfl]
      split
      · next same =>
        obtain rfl : used = entry := Option.some.inj ((same ▸ held).symm.trans found)
        exact ⟨used.touch session.now, by rw [held, Option.map_some], rfl, rfl, rfl⟩
      · exact ⟨entry, found, rfl, rfl, rfl⟩
  | put stored item ttl =>
    rw [ends_put, not_or] at spared
    obtain ⟨different, kept⟩ := spared
    refine ⟨entry, ?_, rfl, rfl, rfl⟩
    show (session.cache.put stored item ttl session.now).2.find? key = some entry
    rw [Cache.find?_put_of_ne _ (Ne.symm different), if_neg kept, found]
  | remove removed =>
    refine ⟨entry, ?_, rfl, rfl, rfl⟩
    show (session.cache.take removed).2.find? key = some entry
    rw [Cache.find?_without (Cache.take_entries _ _), if_neg (Ne.symm spared), found]
  | clear => exact absurd trivial spared
  | clearExpired =>
    refine ⟨entry, ?_, rfl, rfl, rfl⟩
    obtain ⟨member, rfl⟩ := Cache.mem_of_find? found
    have left : entry ∈ (session.cache.clearExpired session.now).2.entries := by
      rw [formed.coherent.clearExpired_entries, List.mem_filter, live]
      exact ⟨member, rfl⟩
    exact Cache.find?_of_mem (formed.dropExpired _).coherent.distinct left
  | peek _ | contains _ | resetStats | advance _ => exact ⟨entry, found, rfl, rfl, rfl⟩

/-- A key was last stored under, with an item and a life span, at a time of a run, and
nothing has ended its entry since. -/
def LastStored (origin : CacheSession Key Item) (commands : List (CacheCommand Key Item))
    (key : Key) (item : Item) (ttl : Option Duration) (time : Instant) : Prop :=
  ∃ prior later, commands = prior ++ .put key item ttl :: later ∧ time = (origin.run prior).now ∧
    ∀ step ∈ (origin.run (prior ++ [.put key item ttl])).history later, ¬ step.Ends key

/-- The history of two parts of a run is that of the first and then of the second. -/
theorem history_append (session : CacheSession Key Item)
    (first second : List (CacheCommand Key Item)) :
    session.history (first ++ second) =
      session.history first ++ (session.run first).history second := by
  induction first generalizing session with
  | nil => rfl
  | cons command rest ih => exact congrArg _ (ih _)

/-- Time does not run back in a run. -/
theorem now_le_run (session : CacheSession Key Item) (commands : List (CacheCommand Key Item)) :
    session.now ≤ (session.run commands).now := by
  induction commands generalizing session with
  | nil => exact Nat.le_refl _
  | cons command rest ih => exact Nat.le_trans (session.now_le_step command) (ih _)

/-- A store is the last one of its key until something ends its entry. -/
theorem LastStored.append {item : Item} {ttl : Option Duration} {time : Instant}
    (stored : origin.LastStored commands key item ttl time) {command : CacheCommand Key Item}
    (spared : ¬ ((origin.run commands).carryOut command).Ends key) :
    origin.LastStored (commands ++ [command]) key item ttl time := by
  obtain ⟨prior, later, rfl, rfl, unended⟩ := stored
  refine ⟨prior, later ++ [command], by simp, rfl, fun step member => ?_⟩
  rw [history_append, ← run_append, List.mem_append, List.append_assoc, List.singleton_append]
    at member
  rcases member with earlier | last
  · exact unended step earlier
  · rw [List.mem_singleton.1 last]
    exact spared

/-- An entry in the table was made by the last store under its key. -/
theorem exists_lastStored (config : CacheConfig) (clock : Clock)
    (commands : List (CacheCommand Key Item)) {entry : Entry Key Item}
    (found : ((start config clock).run commands).cache.find? key = some entry) :
    ∃ ttl, (start config clock).LastStored commands key entry.item ttl entry.createdAt ∧
      entry.ttl = ttl.or config.defaultTtl := by
  induction commands using List.reverseRecOn generalizing entry with
  | nil => cases found
  | append_singleton prior command ih =>
    rw [run_append] at found
    by_cases other : command.storedKey? = some key
    · cases command with
      | put stored item ttl =>
        obtain rfl : stored = key := Option.some.inj other
        have made := Cache.find?_put ((start config clock).run prior).cache stored item ttl
          ((start config clock).run prior).now
        obtain rfl := Option.some.inj (made.symm.trans found)
        refine ⟨ttl, ⟨prior, [], rfl, rfl, by simp [history]⟩, ?_⟩
        rw [config_run]
      | _ => cases other
    · obtain ⟨before, held, item, createdAt, life⟩ := exists_find?_of_step other found
      obtain ⟨ttl, stored, lifeStored⟩ := ih held
      rw [item, createdAt] at stored
      exact ⟨ttl, stored.append (not_ends_of_step other found), life ▸ lifeStored⟩

/-- An entry that nothing ends is there as long as it is live. -/
theorem exists_find?_run (formed : session.cache.WellFormed) {entry : Entry Key Item}
    (found : session.cache.find? key = some entry)
    (spared : ∀ step ∈ session.history commands, ¬ step.Ends key)
    (live : entry.isExpired (session.run commands).now = false) :
    ∃ left, (session.run commands).cache.find? key = some left ∧ left.item = entry.item ∧
      left.createdAt = entry.createdAt ∧ left.ttl = entry.ttl := by
  induction commands generalizing session entry with
  | nil => exact ⟨entry, found, rfl, rfl, rfl⟩
  | cons command rest ih =>
    rw [history, List.forall_mem_cons] at spared
    have alive : entry.isExpired session.now = false := by
      refine Bool.eq_false_iff.2 fun expired => ?_
      exact Bool.eq_false_iff.1 live
        (Entry.isExpired_mono (session.now_le_run (command :: rest)) expired)
    obtain ⟨left, held, item, createdAt, ttl⟩ := exists_find?_step formed found alive spared.1
    have formedAfter := step_kept Cache.kept_wellFormed session command formed
    have liveLeft : left.isExpired ((session.step command).2.2.run rest).now = false := by
      rw [Entry.isExpired_congr createdAt ttl]
      exact live
    obtain ⟨last, there, lastItem, lastCreatedAt, lastTtl⟩ := ih formedAfter held spared.2 liveLeft
    exact ⟨last, there, lastItem.trans item, lastCreatedAt.trans createdAt, lastTtl.trans ttl⟩

/-- What is seen of a key is the item of the last store under it that nothing has ended and
whose life goes on. -/
theorem shown_iff_lastStored (config : CacheConfig) (clock : Clock)
    (commands : List (CacheCommand Key Item)) (key : Key) (item : Item) :
    let session := (start config clock).run commands
    session.shown key = some item ↔
      ∃ ttl time, (start config clock).LastStored commands key item ttl time ∧
        ∀ span last, ttl.or config.defaultTtl = some span → time.plus? span = some last →
          session.now ≤ last := by
  intro session
  have shown : session.shown key = some item ↔
      ∃ entry, session.cache.find? key = some entry ∧ entry.isExpired session.now = false ∧
        entry.item = item := by
    simp only [CacheSession.shown, Cache.peek_eq, Option.map_eq_some_iff,
      Cache.live?_eq_some_iff, and_assoc]
  rw [shown]
  constructor
  · rintro ⟨entry, found, live, rfl⟩
    obtain ⟨ttl, stored, life⟩ := exists_lastStored config clock commands found
    rw [Entry.isExpired_eq_false_iff, life] at live
    exact ⟨ttl, _, stored, live⟩
  · rintro ⟨ttl, time, ⟨prior, later, rfl, rfl, unended⟩, live⟩
    let before := (start config clock : CacheSession Key Item).run prior
    let stored := (start config clock).run (prior ++ [.put key item ttl])
    let entry : Entry Key Item :=
      ⟨key, item, before.now, ttl.or config.defaultTtl, 0, before.now⟩
    -- The store makes an entry that no later step ends and that outlives the run.
    have made : stored.cache.find? key = some entry := by
      have put := before.cache.find?_put key item ttl before.now
      rw [config_run] at put
      rw [← put]
      exact congrArg (fun session => session.cache.find? key) (run_append _ prior _)
    have split : session = stored.run later := by
      rw [← run_append, List.append_assoc, List.singleton_append]
    have alive : entry.isExpired (stored.run later).now = false := by
      rw [Entry.isExpired_eq_false_iff, ← split]
      exact live
    obtain ⟨left, held, sameItem, createdAt, life⟩ :=
      exists_find?_run (wellFormed_run config clock _) made unended alive
    rw [split]
    exact ⟨left, held, (Entry.isExpired_congr createdAt life _).trans alive, sameItem⟩

/-- What is not seen is not seen before the next store under its key. -/
theorem unseen_run (unseen : session.shown key = none)
    (unstored : key ∉ CacheCommand.storedKeys commands) :
    (session.run commands).shown key = none := by
  induction commands generalizing session with
  | nil => exact unseen
  | cons command rest ih =>
    rw [CacheCommand.storedKeys, List.filterMap_cons] at unstored
    have other : command.storedKey? ≠ some key := by
      intro same
      simp [same] at unstored
    refine ih ?_ fun later => unstored ?_
    · refine Option.eq_none_iff_forall_ne_some.2 fun item seen => ?_
      rw [shown_of_step other seen] at unseen
      cases unseen
    · cases command.storedKey? with
      | none => exact later
      | some stored => exact List.mem_cons_of_mem _ later

/-- The ways of looking at a cache agree, in every state that a run reaches. A key is among
the live keys exactly if it is contained, exactly if peeking shows an item, and a lookup
would find that item; the live entries have the live keys, in the same order, each once, and
the items that are seen. What is seen of a key is the item of the last store under it, if
nothing has ended its entry since and its life, given or by default, goes on; a life without
span, or one that ends beyond the range of instants, goes on forever. What is not seen, be
it past its expiry or gone, is not seen at any later time before the next store under its
key. -/
theorem views_agree (config : CacheConfig) (clock : Clock)
    (commands : List (CacheCommand Key Item)) :
    let session := (start config clock : CacheSession Key Item).run commands
    let cache := session.cache
    (∀ key, key ∈ cache.keys session.now ↔ cache.contains key session.now = true) ∧
    (∀ key, cache.contains key session.now = true ↔
      ∃ item, cache.peek key session.now = some item) ∧
    (∀ key item, cache.peek key session.now = some item ↔
      (cache.get key session.now).1 = .found item) ∧
    cache.keys session.now = (cache.liveEntries session.now).map Entry.key ∧
    (cache.keys session.now).Nodup ∧
    (∀ entry ∈ cache.liveEntries session.now,
      cache.peek entry.key session.now = some entry.item) ∧
    (∀ key item, cache.peek key session.now = some item ↔
      ∃ ttl time, (start config clock).LastStored commands key item ttl time ∧
        ∀ span last, ttl.or config.defaultTtl = some span → time.plus? span = some last →
          session.now ≤ last) ∧
    ∀ key, cache.peek key session.now = none → ∀ further, key ∉ CacheCommand.storedKeys further →
      (session.run further).cache.peek key (session.run further).now = none := by
  intro session cache
  have formed : cache.WellFormed := wellFormed_run config clock commands
  refine ⟨fun key => formed.coherent.mem_keys_now_iff, fun key => ?_,
    fun key item => Cache.peek_eq_some_iff, cache.keys_eq_map_liveEntries session.now, ?_, ?_,
    shown_iff_lastStored config clock commands, fun key unseen further => unseen_run unseen⟩
  · rw [contains_eq_isSome_shown, Option.isSome_iff_exists]
    rfl
  · exact formed.coherent.sound.distinct.filter _
  · intro entry member
    rw [Cache.liveEntries_eq, List.mem_filterMap] at member
    obtain ⟨key, -, live⟩ := member
    have same : entry.key = key := (Cache.mem_of_find? (Cache.live?_eq_some_iff.1 live).1).2
    rw [Cache.peek_eq, same, live, Option.map_some]

end CacheSession

end QueryKit
