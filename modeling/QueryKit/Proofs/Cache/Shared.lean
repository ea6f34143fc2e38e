import QueryKit.Proofs.Cache.Run

/-!
# Computations in the middle of a shared cache

A call with a computation looks its key up and, where it shows nothing, lets the computation
run before it stores anything. The computation carries out commands of its own, such calls
among them, so a call may find at its end whatever they left. Flattened, all of it is one
run of plain commands, which `performed` lists; what holds of runs holds of calls. The only
command that makes a key show an item is a store under that key. Hence calls on one key,
nested in each other, agree on the item of the first of them that stores.
-/

namespace QueryKit

variable {Key Item : Type}

namespace Entry

/-- An entry past its expiry stays so. -/
theorem isExpired_mono {entry : Entry Key Item} {now later : Instant} (le : now ≤ later)
    (expired : entry.isExpired now = true) : entry.isExpired later = true := by
  unfold isExpired at *
  split at expired
  · exact decide_eq_true (Nat.lt_of_lt_of_le (of_decide_eq_true expired) le)
  · exact expired

/-- When an entry expires is decided by when it was stored and by its life span. -/
theorem isExpired_congr {entry other : Entry Key Item}
    (createdAt : other.createdAt = entry.createdAt) (ttl : other.ttl = entry.ttl)
    (now : Instant) : other.isExpired now = entry.isExpired now := by
  rw [isExpired, isExpired, expiresAt, expiresAt, createdAt, ttl]

end Entry

variable [DecidableEq Key]

namespace CacheCommand

/-- Whether a command looks a key up as a use of its entry. -/
def isLookup : CacheCommand Key Item → Bool
  | .get _ => true
  | _ => false

/-- The key that a command stores an item under. -/
def storedKey? : CacheCommand Key Item → Option Key
  | .put key _ _ => some key
  | _ => none

/-- The keys that commands store items under, in order. -/
def storedKeys (commands : List (CacheCommand Key Item)) : List Key :=
  commands.filterMap storedKey?

end CacheCommand

open CacheCommand

/-! ### What is seen of a key -/

/-- An entry that a sweep leaves was there before it. -/
theorem Cache.find?_of_dropExpired {cache : Cache Key Item} {keys : List Key} {key : Key}
    {entry : Entry Key Item} (found : (cache.dropExpired keys).find? key = some entry) :
    cache.find? key = some entry := by
  induction keys generalizing cache with
  | nil => exact found
  | cons first rest ih =>
    rw [Cache.dropExpired] at found
    have left := ih found
    change (cache.take first).2.find? key = some entry at left
    rw [Cache.find?_without (Cache.take_entries cache first)] at left
    split at left
    · simp at left
    · exact left

namespace CacheSession

variable {session : CacheSession Key Item} {key : Key} {command : CacheCommand Key Item}

/-- The item that is seen under a key: that of its live entry. -/
def shown (session : CacheSession Key Item) (key : Key) : Option Item :=
  session.cache.peek key session.now

/-- A key is contained iff it shows an item. -/
theorem contains_eq_isSome_shown (session : CacheSession Key Item) (key : Key) :
    session.cache.contains key session.now = (session.shown key).isSome := by
  rw [shown, Cache.peek_eq, Cache.contains_eq, Option.isSome_map]

/-- A lookup finds what is seen. -/
theorem item?_get (session : CacheSession Key Item) (key : Key) :
    (session.get key).1.item? = session.shown key := by
  rw [shown, Cache.peek_eq]
  exact session.cache.get_item? key session.now

/-- What is seen of a key is seen after a lookup of it. -/
theorem shown_get {item : Item} (seen : session.shown key = some item) :
    (session.get key).2.2.shown key = some item := by
  rw [shown, Cache.peek_eq] at seen
  obtain ⟨entry, live, rfl⟩ := Option.map_eq_some_iff.1 seen
  obtain ⟨found, valid⟩ := Cache.live?_eq_some_iff.1 live
  have table : (session.cache.get key session.now).2.entries =
      Cache.touched key session.now session.cache.entries := by
    rw [Cache.get_of_live found valid]
  have held : (session.cache.get key session.now).2.find? key = some (entry.touch session.now) := by
    rw [Cache.find?_touched table, if_pos rfl, found, Option.map_some]
  have alive : (entry.touch session.now).isExpired session.now = false := valid
  show (session.cache.get key session.now).2.peek key session.now = some entry.item
  rw [Cache.peek_eq, Cache.live?_eq_some_iff.2 ⟨held, alive⟩, Option.map_some, Entry.touch]

/-- A stored item is seen at once: even the shortest life lasts for its first instant. -/
theorem shown_put (session : CacheSession Key Item) (key : Key) (item : Item)
    (ttl : Option Duration) : (session.put key item ttl).2.shown key = some item := by
  have fresh : ∀ life : Option Duration,
      (⟨key, item, session.now, life, 0, session.now⟩ : Entry Key Item).isExpired session.now =
        false := by
    intro life
    cases life with
    | none => rfl
    | some span =>
      simp only [Entry.isExpired, Entry.expiresAt, Option.bind_some, Instant.plus?]
      split
      · next last ends =>
        split at ends
        · obtain rfl := Option.some.inj ends
          exact decide_eq_false (Nat.not_lt_of_le (Nat.le_add_right _ _))
        · cases ends
      · rfl
  show (session.cache.put key item ttl session.now).2.peek key session.now = some item
  rw [Cache.peek_eq, Cache.live?_eq_some_iff.2 ⟨Cache.find?_put .., fresh _⟩, Option.map_some]

/-- An entry that a command leaves was there before it, with all that a use does not change,
unless the command stored it. -/
theorem exists_find?_of_step {entry : Entry Key Item} (other : command.storedKey? ≠ some key)
    (found : (session.step command).2.2.cache.find? key = some entry) :
    ∃ prior, session.cache.find? key = some prior ∧ prior.item = entry.item ∧
      prior.createdAt = entry.createdAt ∧ prior.ttl = entry.ttl := by
  cases command with
  | get looked => exact Cache.exists_find?_of_get found
  | put stored item ttl =>
    have different : key ≠ stored := fun same => other (congrArg some same.symm)
    exact ⟨entry, Cache.find?_of_put different found, rfl, rfl, rfl⟩
  | remove removed =>
    have left : (session.cache.take removed).2.find? key = some entry := found
    rw [Cache.find?_without (Cache.take_entries session.cache removed)] at left
    split at left
    · simp at left
    · exact ⟨entry, left, rfl, rfl, rfl⟩
  | clear => exact absurd found (by simp [step, Cache.clear, Cache.find?])
  | clearExpired => exact ⟨entry, Cache.find?_of_dropExpired found, rfl, rfl, rfl⟩
  | peek _ | contains _ | resetStats | advance _ => exact ⟨entry, found, rfl, rfl, rfl⟩

/-- Time does not run backwards. -/
theorem now_le_step (session : CacheSession Key Item) (command : CacheCommand Key Item) :
    session.now ≤ (session.step command).2.2.now := by
  cases command with
  | advance span => exact Nat.le_add_right _ _
  | get _ | put _ _ _ | remove _ | clear | clearExpired | peek _ | contains _ | resetStats =>
    exact Nat.le_refl _

/-- What is seen after a command was seen before it, unless the command stored it. -/
theorem shown_of_step {item : Item} (other : command.storedKey? ≠ some key)
    (seen : (session.step command).2.2.shown key = some item) :
    session.shown key = some item := by
  rw [shown, Cache.peek_eq] at *
  obtain ⟨entry, live, rfl⟩ := Option.map_eq_some_iff.1 seen
  obtain ⟨found, valid⟩ := Cache.live?_eq_some_iff.1 live
  obtain ⟨prior, held, same, createdAt, ttl⟩ := exists_find?_of_step other found
  have alive : prior.isExpired session.now = false := by
    rw [Entry.isExpired_congr createdAt.symm ttl.symm] at valid
    refine Bool.eq_false_iff.2 fun expired => ?_
    exact Bool.eq_false_iff.1 valid
      (Entry.isExpired_mono (session.now_le_step command) expired)
  rw [Cache.live?_eq_some_iff.2 ⟨held, alive⟩, Option.map_some, same]

/-! ### Runs -/

/-- A run of two parts is a run of the second after the first. -/
theorem run_append (session : CacheSession Key Item) (first second : List (CacheCommand Key Item)) :
    session.run (first ++ second) = (session.run first).run second := by
  induction first generalizing session with
  | nil => rfl
  | cons command rest ih => exact ih _

/-- Whether a key that shows an item goes on to show one after every command of a run: it
is not removed, not given up and does not expire. -/
def StaysShown (key : Key) (session : CacheSession Key Item) : List (CacheCommand Key Item) → Prop
  | [] => True
  | command :: rest =>
    ((session.shown key).isSome → ((session.step command).2.2.shown key).isSome) ∧
      StaysShown key (session.step command).2.2 rest

/-- A key stays shown over two parts of a run iff it does over each. -/
theorem staysShown_append {first second : List (CacheCommand Key Item)} :
    StaysShown key session (first ++ second) ↔
      StaysShown key session first ∧ StaysShown key (session.run first) second := by
  induction first generalizing session with
  | nil => exact (and_iff_right trivial).symm
  | cons command rest ih => simp only [List.cons_append, StaysShown, run, ih, and_assoc]

/-- A command counts one lookup if it is one, and one store if it is one. -/
theorem counts_step (unreset : command ≠ .resetStats) :
    (session.step command).2.2.cache.stats.totalRequests =
        session.cache.stats.totalRequests + command.isLookup.toNat ∧
      (session.step command).2.2.cache.stats.insertions =
        session.cache.stats.insertions + command.storedKey?.toList.length := by
  cases command with
  | get key =>
    have counted : ∃ hits misses, hits + misses = 1 ∧
        session.cache.stats.Counts hits misses 0 (session.cache.get key session.now).2.stats := by
      cases live : session.cache.live? key session.now with
      | none => exact ⟨0, 1, rfl, Cache.counts_get_of_missing live⟩
      | some entry => exact ⟨1, 0, rfl, Cache.counts_get_of_live live⟩
    obtain ⟨hits, misses, one, counts⟩ := counted
    refine ⟨?_, counts.insertions⟩
    show (session.cache.get key session.now).2.stats.totalRequests = _ + 1
    simp only [CacheStats.totalRequests, counts.hits, counts.misses]
    omega
  | put key item ttl =>
    have counts := Cache.counts_put session.cache key item ttl session.now
    refine ⟨?_, counts.insertions⟩
    show (session.cache.put key item ttl session.now).2.stats.totalRequests = _ + 0
    simp only [CacheStats.totalRequests, counts.hits, counts.misses]
    omega
  | remove key =>
    have same : (session.step (.remove key)).2.2.cache.stats = session.cache.stats :=
      Cache.take_stats session.cache key
    rw [same]
    exact ⟨rfl, rfl⟩
  | clearExpired =>
    have swept : (session.step .clearExpired).2.2.cache.stats = _ :=
      Cache.dropExpired_stats session.cache (session.cache.expiredKeys session.now)
    rw [swept]
    exact ⟨rfl, rfl⟩
  | resetStats => exact absurd rfl unreset
  | clear | peek _ | contains _ | advance _ => exact ⟨rfl, rfl⟩

/-- A run counts its lookups and its stores. -/
theorem counts_run {commands : List (CacheCommand Key Item)}
    (unreset : CacheCommand.resetStats ∉ commands) :
    (session.run commands).cache.stats.totalRequests =
        session.cache.stats.totalRequests + commands.countP isLookup ∧
      (session.run commands).cache.stats.insertions =
        session.cache.stats.insertions + (storedKeys commands).length := by
  induction commands generalizing session with
  | nil => exact ⟨rfl, rfl⟩
  | cons command rest ih =>
    rw [List.mem_cons, not_or] at unreset
    obtain ⟨lookups, stores⟩ := session.counts_step (Ne.symm unreset.1)
    obtain ⟨laterLookups, laterStores⟩ := ih unreset.2
    rw [run, laterLookups, laterStores, lookups, stores, storedKeys, storedKeys,
      List.countP_cons, List.filterMap_cons]
    constructor
    · cases command.isLookup with
      | true => rw [if_pos rfl, Bool.toNat_true]; omega
      | false => rw [if_neg Bool.false_ne_true, Bool.toNat_false]; omega
    · cases command.storedKey? with
      | none => rfl
      | some key => simp only [Option.toList_some, List.length_cons, List.length_nil]; omega

end CacheSession

/-! ### Calls with a computation -/

namespace SharedCache

variable {session : CacheSession Key Item} {key : Key}

/-- A call on a key that shows an item gives that item back and computes nothing. -/
theorem step_of_shown {stored : Item} (seen : session.shown key = some stored)
    (ttl : Option Duration) (computation : List (SharedCommand Key Item)) (item : Item) :
    (step session (.getOrInsert key ttl computation item)).1 = .inserted stored none ∧
    (step session (.getOrInsert key ttl computation item)).2.2 = (session.get key).2.2 := by
  rw [← session.item?_get] at seen
  unfold step
  dsimp only
  rw [seen]
  exact ⟨rfl, rfl⟩

/-- A call on a key that shows nothing carries out the computation and settles after it. -/
theorem step_of_unseen (unseen : session.shown key = none) (ttl : Option Duration)
    (computation : List (SharedCommand Key Item)) (item : Item) :
    let computed := steps (session.get key).2.2 computation
    let settled := settle computed.2.2 key ttl item
    (step session (.getOrInsert key ttl computation item)).1 =
      .inserted settled.1 (some computed.1) ∧
    (step session (.getOrInsert key ttl computation item)).2.2 = settled.2.2 := by
  rw [← session.item?_get] at unseen
  unfold step
  dsimp only
  rw [unseen]
  exact ⟨rfl, rfl⟩

/-- The plain commands that the end of a call comes to. -/
def ending (computed : CacheSession Key Item) (key : Key) (ttl : Option Duration) (item : Item) :
    List (CacheCommand Key Item) :=
  if (computed.shown key).isSome then [] else [.put key item ttl]

/-- Where a key shows an item at the end of a call, nothing is done. -/
theorem settle_of_shown {stored : Item} (seen : session.shown key = some stored)
    (ttl : Option Duration) (item : Item) :
    settle session key ttl item = (stored, [], session) ∧ ending session key ttl item = [] := by
  rw [settle, ending, ← CacheSession.shown, seen]
  exact ⟨rfl, rfl⟩

/-- Where it shows nothing, the computed item is stored. -/
theorem settle_of_unseen (unseen : session.shown key = none) (ttl : Option Duration)
    (item : Item) :
    settle session key ttl item = (item, session.put key item ttl) ∧
      ending session key ttl item = [.put key item ttl] := by
  rw [settle, ending, ← CacheSession.shown, unseen]
  exact ⟨rfl, rfl⟩

/-- The end of a call does to the cache what its plain commands do. -/
theorem settle_eq_run (session : CacheSession Key Item) (key : Key) (ttl : Option Duration)
    (item : Item) :
    (settle session key ttl item).2.2 = session.run (ending session key ttl item) := by
  cases seen : session.shown key with
  | some stored => rw [(settle_of_shown seen ttl item).1, (settle_of_shown seen ttl item).2]; rfl
  | none => rw [(settle_of_unseen seen ttl item).1, (settle_of_unseen seen ttl item).2]; rfl

/-- A call gives back what its key shows at its end. -/
theorem shown_settle (session : CacheSession Key Item) (key : Key) (ttl : Option Duration)
    (item : Item) :
    (settle session key ttl item).2.2.shown key = some (settle session key ttl item).1 := by
  cases seen : session.shown key with
  | some stored =>
    rw [(settle_of_shown seen ttl item).1]
    exact seen
  | none =>
    rw [(settle_of_unseen seen ttl item).1]
    exact session.shown_put key item ttl

mutual

/-- The plain commands that a command to a shared cache comes to. -/
def performed (session : CacheSession Key Item) :
    SharedCommand Key Item → List (CacheCommand Key Item)
  | .plain command => [command]
  | .inspect => []
  | .getOrInsert key ttl computation item =>
    let looked := (session.get key).2.2
    match session.shown key with
    | some _ => [.get key]
    | none =>
      .get key :: (performedAll looked computation ++
        ending (steps looked computation).2.2 key ttl item)

/-- The plain commands that commands to a shared cache come to. -/
def performedAll (session : CacheSession Key Item) :
    List (SharedCommand Key Item) → List (CacheCommand Key Item)
  | [] => []
  | command :: rest => performed session command ++ performedAll (step session command).2.2 rest

end

/-- A call on a key that shows an item comes to a lookup. -/
theorem performed_of_shown {stored : Item} (seen : session.shown key = some stored)
    (ttl : Option Duration) (computation : List (SharedCommand Key Item)) (item : Item) :
    performed session (.getOrInsert key ttl computation item) = [.get key] := by
  rw [performed, seen]

/-- A call on a key that shows nothing comes to a lookup, the computation and its end. -/
theorem performed_of_unseen (unseen : session.shown key = none) (ttl : Option Duration)
    (computation : List (SharedCommand Key Item)) (item : Item) :
    performed session (.getOrInsert key ttl computation item) =
      .get key :: (performedAll (session.get key).2.2 computation ++
        ending (steps (session.get key).2.2 computation).2.2 key ttl item) := by
  rw [performed, unseen]

mutual

/-- A command to a shared cache is a run of plain commands. -/
theorem step_eq_run (session : CacheSession Key Item) :
    (command : SharedCommand Key Item) →
      (step session command).2.2 = session.run (performed session command)
  | .plain command => rfl
  | .inspect => rfl
  | .getOrInsert key ttl computation item => by
    cases seen : session.shown key with
    | some stored =>
      rw [(step_of_shown seen ttl computation item).2, performed_of_shown seen]
      rfl
    | none =>
      have computed := steps_eq_run (session.get key).2.2 computation
      rw [(step_of_unseen seen ttl computation item).2, settle_eq_run,
        performed_of_unseen seen, CacheSession.run, CacheSession.run_append]
      exact congrArg (CacheSession.run · _) computed

/-- Commands to a shared cache are a run of plain commands. -/
theorem steps_eq_run (session : CacheSession Key Item) :
    (commands : List (SharedCommand Key Item)) →
      (steps session commands).2.2 = session.run (performedAll session commands)
  | [] => rfl
  | command :: rest => by
    rw [performedAll, CacheSession.run_append, ← step_eq_run session command,
      ← steps_eq_run _ rest]
    rfl

end

mutual

/-- The items that calls on a key gave back, wherever in a command they stand. -/
def returned (key : Key) : SharedCommand Key Item → SharedAnswer Key Item → List Item
  | .getOrInsert own _ computation _, .inserted item answers =>
    returnedAll key computation (answers.getD []) ++ (if own = key then [item] else [])
  | _, _ => []

/-- The items that calls on a key gave back, wherever in some commands they stand. -/
def returnedAll (key : Key) :
    List (SharedCommand Key Item) → List (SharedAnswer Key Item) → List Item
  | command :: commands, answer :: answers =>
    returned key command answer ++ returnedAll key commands answers
  | _, _ => []

end

/-- Without answers nothing was given back. -/
theorem returnedAll_nil (key : Key) (commands : List (SharedCommand Key Item)) :
    returnedAll key commands [] = [] := by
  cases commands <;> rfl

mutual

/-- Whether a command stores under a key by calls with a computation alone. -/
def StoresByCalls (key : Key) : SharedCommand Key Item → Prop
  | .plain command => command.storedKey? ≠ some key
  | .inspect => True
  | .getOrInsert _ _ computation _ => AllStoreByCalls key computation

/-- Whether commands store under a key by calls with a computation alone. -/
def AllStoreByCalls (key : Key) : List (SharedCommand Key Item) → Prop
  | [] => True
  | command :: rest => StoresByCalls key command ∧ AllStoreByCalls key rest

end

/-- Between two sessions a key has come to show an item, unless it showed one before: one
store under it if there was a change, and none otherwise. All items that were given back
are the one it shows. -/
structure Agreed (key : Key) (before : CacheSession Key Item) (stores : List Key)
    (given : List Item) (after : CacheSession Key Item) : Prop where
  kept : ∀ item, before.shown key = some item → after.shown key = some item
  stores : stores.count key + (before.shown key).isSome.toNat = (after.shown key).isSome.toNat
  given : ∀ item ∈ given, after.shown key = some item

namespace Agreed

variable {before middle after : CacheSession Key Item} {stores moreStores : List Key}
  {given moreGiven : List Item}

/-- A session agrees with itself when nothing was stored or given back. -/
theorem refl (key : Key) (session : CacheSession Key Item) : Agreed key session [] [] session :=
  ⟨fun _ seen => seen, Nat.zero_add _, nofun⟩

/-- Agreement over two parts is agreement over both: what is shown in between stays. -/
theorem trans (first : Agreed key before stores given middle)
    (second : Agreed key middle moreStores moreGiven after) :
    Agreed key before (stores ++ moreStores) (given ++ moreGiven) after where
  kept := fun item seen => second.kept item (first.kept item seen)
  stores := by
    rw [← second.stores, ← first.stores, List.count_append]
    omega
  given := fun item member =>
    (List.mem_append.1 member).elim (fun earlier => second.kept item (first.given item earlier))
      (second.given item)

/-- One more item given back by a call, on whatever key. -/
theorem give (agreed : Agreed key before stores given after) {own : Key} {item : Item}
    (seen : own = key → after.shown key = some item) :
    Agreed key before stores (given ++ if own = key then [item] else []) after where
  kept := agreed.kept
  stores := agreed.stores
  given := by
    intro other member
    rcases List.mem_append.1 member with earlier | last
    · exact agreed.given other earlier
    · split at last
      · next same =>
        rw [List.mem_singleton.1 last]
        exact seen same
      · cases last

/-- A command that does not store under a key, and after which it shows something if it did
before, changes nothing about it. -/
theorem of_step {command : CacheCommand Key Item} (other : command.storedKey? ≠ some key)
    (stays : (session.shown key).isSome → ((session.step command).2.2.shown key).isSome) :
    Agreed key session (storedKeys [command]) [] (session.step command).2.2 where
  kept := by
    intro item seen
    obtain ⟨later, shown⟩ := Option.isSome_iff_exists.1 (stays (by rw [seen]; rfl))
    rw [← seen, shown]
    exact (CacheSession.shown_of_step other shown).symm
  stores := by
    have unstored : (storedKeys [command]).count key = 0 := by
      rw [List.count_eq_zero, storedKeys, List.mem_filterMap]
      rintro ⟨stored, member, own⟩
      rw [List.mem_singleton.1 member] at own
      exact other own
    have same : ((session.step command).2.2.shown key).isSome = (session.shown key).isSome := by
      refine Bool.eq_iff_iff.2 ⟨fun seen => ?_, stays⟩
      obtain ⟨item, shown⟩ := Option.isSome_iff_exists.1 seen
      rw [CacheSession.shown_of_step other shown]
      rfl
    rw [unstored, same, Nat.zero_add]
  given := nofun

/-- The store of a key that showed nothing. -/
theorem of_put (unseen : session.shown key = none) (item : Item) (ttl : Option Duration) :
    Agreed key session [key] [] (session.put key item ttl).2 where
  kept := by simp [unseen]
  stores := by rw [unseen, CacheSession.shown_put, List.count_singleton_self]; rfl
  given := nofun

end Agreed

/-- The lookup of a call, on whatever key. -/
theorem agreed_get {own : Key} (stays : (session.shown key).isSome →
    ((session.step (.get own)).2.2.shown key).isSome) :
    Agreed key session [] [] (session.get own).2.2 := by
  have unstored : (CacheCommand.get own : CacheCommand Key Item).storedKey? ≠ some key := nofun
  exact Agreed.of_step unstored stays

/-- The end of a call, on whatever key. -/
theorem agreed_settle {own : Key} {ttl : Option Duration} {item : Item}
    (stays : session.StaysShown key (ending session own ttl item)) :
    Agreed key session (storedKeys (ending session own ttl item))
      (if own = key then [(settle session own ttl item).1] else [])
      (settle session own ttl item).2.2 := by
  cases seen : session.shown own with
  | some stored =>
    obtain ⟨settled, nothing⟩ := settle_of_shown seen ttl item
    rw [settled, nothing]
    exact (Agreed.refl key session).give fun same => same ▸ seen
  | none =>
    obtain ⟨settled, store⟩ := settle_of_unseen seen ttl item
    rw [store] at stays
    rw [settled, store]
    by_cases same : own = key
    · subst same
      exact (Agreed.of_put seen item ttl).give fun _ => session.shown_put own item ttl
    · have other : (CacheCommand.put own item ttl).storedKey? ≠ some key :=
        fun stored => same (Option.some.inj stored)
      exact (Agreed.of_step other stays.1).give fun own => absurd own same

mutual

/-- A command that stores under a key by calls alone, and keeps it once it is shown. -/
theorem agreed_step (session : CacheSession Key Item) :
    (command : SharedCommand Key Item) → StoresByCalls key command →
      session.StaysShown key (performed session command) →
      Agreed key session (storedKeys (performed session command))
        (returned key command (step session command).1) (step session command).2.2
  | .plain command, other, stays => Agreed.of_step other stays.1
  | .inspect, _, _ => Agreed.refl key session
  | .getOrInsert own ttl computation item, byCalls, stays => by
    cases seen : session.shown own with
    | some stored =>
      obtain ⟨answer, after⟩ := step_of_shown seen ttl computation item
      rw [performed_of_shown seen] at stays ⊢
      rw [answer, after, returned, Option.getD_none, returnedAll_nil]
      have looked := agreed_get stays.1
      exact looked.give fun same => looked.kept stored (same ▸ seen)
    | none =>
      obtain ⟨answer, after⟩ := step_of_unseen seen ttl computation item
      rw [performed_of_unseen seen] at stays ⊢
      rw [CacheSession.StaysShown, CacheSession.staysShown_append] at stays
      obtain ⟨looking, computing, settling⟩ := stays
      have computed := agreed_steps (session.get own).2.2 computation byCalls computing
      have whole := steps_eq_run (session.get own).2.2 computation
      have settled := agreed_settle
        ((congrArg (CacheSession.StaysShown key · _) whole).mpr settling)
      rw [answer, after, returned, Option.getD_some, storedKeys, List.filterMap_cons,
        List.filterMap_append]
      exact (agreed_get looking).trans (computed.trans settled)

/-- Commands that store under a key by calls alone, and keep it once it is shown. -/
theorem agreed_steps (session : CacheSession Key Item) :
    (commands : List (SharedCommand Key Item)) → AllStoreByCalls key commands →
      session.StaysShown key (performedAll session commands) →
      Agreed key session (storedKeys (performedAll session commands))
        (returnedAll key commands (steps session commands).1) (steps session commands).2.2
  | [], _, _ => Agreed.refl key session
  | command :: rest, ⟨byCalls, restByCalls⟩, stays => by
    rw [performedAll, CacheSession.staysShown_append, ← step_eq_run] at stays
    have first := agreed_step session command byCalls stays.1
    have second := agreed_steps (step session command).2.2 rest restByCalls stays.2
    rw [performedAll, storedKeys, List.filterMap_append]
    exact first.trans second

end

/-- The lookup of a call counts one hit if its key shows an item, and one miss if not. -/
theorem counts_get (session : CacheSession Key Item) (key : Key) :
    session.cache.stats.Counts (session.shown key).isSome.toNat (session.shown key).isNone.toNat 0
      (session.get key).2.2.cache.stats := by
  rw [CacheSession.shown, Cache.peek_eq]
  cases live : session.cache.live? key session.now with
  | none => exact Cache.counts_get_of_missing live
  | some entry => exact Cache.counts_get_of_live live

/-- If the calls on a key agree on the item that it shows at the end, they gave back that
item alone, and stored it unless it was there before. -/
theorem Agreed.nested {before after : CacheSession Key Item} {stores : List Key}
    {given : List Item} {item : Item} (agreed : Agreed key before stores given after)
    (seen : after.shown key = some item) :
    (∀ other ∈ given, other = item) ∧
    stores.count key = if (before.shown key).isSome then 0 else 1 := by
  constructor
  · intro other member
    exact Option.some.inj ((agreed.given other member).symm.trans seen)
  · have counted := agreed.stores
    rw [seen, Option.isSome_some, Bool.toNat_true] at counted
    cases earlier : before.shown key with
    | none => simpa [earlier] using counted
    | some first => simpa [earlier] using counted

/-- A command is a run of plain commands, whose lookups and stores are what it counts. -/
theorem counts_performed {command : SharedCommand Key Item}
    (unreset : CacheCommand.resetStats ∉ performed session command) :
    (step session command).2.2.cache.stats.totalRequests =
      session.cache.stats.totalRequests + (performed session command).countP isLookup ∧
    (step session command).2.2.cache.stats.insertions =
      session.cache.stats.insertions + (storedKeys (performed session command)).length := by
  rw [step_eq_run]
  exact CacheSession.counts_run unreset

/-- Calls on a key, nested in a command that keeps it once it is shown, give back the item that
it shows at the end, and one store is counted for them at most. -/
theorem agreed_calls {command : SharedCommand Key Item} {given : Item}
    (last : (step session command).2.2.shown key = some given)
    (byCalls : StoresByCalls key command)
    (stays : session.StaysShown key (performed session command)) :
    (∀ other ∈ returned key command (step session command).1, other = given) ∧
    (storedKeys (performed session command)).count key =
      (if (session.shown key).isSome then 0 else 1) ∧
    (CacheCommand.resetStats ∉ performed session command →
      (∀ stored ∈ storedKeys (performed session command), stored = key) →
        (step session command).2.2.cache.stats.insertions =
          session.cache.stats.insertions + if (session.shown key).isSome then 0 else 1) := by
  obtain ⟨alike, once⟩ := (agreed_step session command byCalls stays).nested last
  refine ⟨alike, once, fun unreset alone => ?_⟩
  rw [(counts_performed unreset).2, ← once,
    List.count_eq_length.2 fun stored member => (alone stored member).symm]

/-- What a call with a computation does, in whatever state it begins. It runs the computation
exactly if its key has no live entry, after a lookup that counts one hit or one miss. If the
key has a live entry at the end of the computation, that item is given back and everything
stays as the computation left it; otherwise the computed item is given back and the call
stores it like any other. Either way the key shows the item given back, and the end counts
no lookup. All in all the call is a run of plain commands, whose lookups and stores are what
it counts. And if the computation stores under the key by such calls alone, nested in any
way, and the key once shown is neither removed nor given up nor expires, then all these
calls give back one item, and one store under the key is all that is counted for them. -/
theorem getOrInsert_law (session : CacheSession Key Item) (key : Key) (ttl : Option Duration)
    (computation : List (SharedCommand Key Item)) (item : Item) :
    let command := SharedCommand.getOrInsert key ttl computation item
    let after := (step session command).2.2
    let looked := (session.get key).2.2
    let computed := steps looked computation
    let live := session.cache.contains key session.now
    let commands := performed session command
    ∃ given answers, (step session command).1 = .inserted given answers ∧
    (answers.isSome ↔ live = false) ∧
    session.cache.stats.Counts live.toNat (!live).toNat 0 looked.cache.stats ∧
    (live = true → session.shown key = some given ∧ after = looked) ∧
    (live = false → answers = some computed.1 ∧
      (∀ stored, computed.2.2.shown key = some stored → given = stored ∧ after = computed.2.2) ∧
      (computed.2.2.shown key = none → given = item ∧
        after = (computed.2.2.step (.put key item ttl)).2.2 ∧
        computed.2.2.cache.stats.Counts 0 0 1 after.cache.stats)) ∧
    after.shown key = some given ∧
    after = session.run commands ∧
    (CacheCommand.resetStats ∉ commands →
      after.cache.stats.totalRequests =
        session.cache.stats.totalRequests + commands.countP isLookup ∧
      after.cache.stats.insertions =
        session.cache.stats.insertions + (storedKeys commands).length) ∧
    (AllStoreByCalls key computation → session.StaysShown key commands →
      (∀ other ∈ returned key command (step session command).1, other = given) ∧
      ((storedKeys commands).count key = if live then 0 else 1) ∧
      (CacheCommand.resetStats ∉ commands → (∀ stored ∈ storedKeys commands, stored = key) →
        after.cache.stats.insertions =
          session.cache.stats.insertions + if live then 0 else 1)) := by
  intro command after looked computed live commands
  have whole : after = session.run commands := step_eq_run session command
  have liveness : live = (session.shown key).isSome := session.contains_eq_isSome_shown key
  have looking := counts_get session key
  rw [liveness]
  -- What the first lookup shows decides the way; the counters are read off the call as a run.
  cases seen : session.shown key with
  | some stored =>
    obtain ⟨answer, same⟩ := step_of_shown seen ttl computation item
    have last : after.shown key = some stored :=
      (congrArg (CacheSession.shown · key) same).trans (session.shown_get seen)
    rw [seen] at looking
    refine ⟨stored, none, answer, by simp, looking, fun _ => ⟨rfl, same⟩, nofun, last, whole,
      counts_performed, ?_⟩
    rw [← seen]
    exact agreed_calls last
  | none =>
    obtain ⟨answer, same⟩ := step_of_unseen seen ttl computation item
    have last : after.shown key = some (settle computed.2.2 key ttl item).1 :=
      (congrArg (CacheSession.shown · key) same).trans (shown_settle ..)
    rw [seen] at looking
    refine ⟨_, _, answer, by simp, looking, nofun, fun _ => ⟨rfl, ?_, ?_⟩, last, whole,
      counts_performed, ?_⟩
    · intro stored shown
      obtain ⟨settled, -⟩ := settle_of_shown shown ttl item
      rw [settled]
      exact ⟨rfl, same.trans (congrArg (·.2.2) settled)⟩
    · intro unseen
      obtain ⟨settled, -⟩ := settle_of_unseen unseen ttl item
      have stored : after = (computed.2.2.put key item ttl).2 :=
        same.trans (congrArg (·.2.2) settled)
      rw [settled, stored]
      exact ⟨rfl, rfl, Cache.counts_put ..⟩
    · rw [← seen]
      exact agreed_calls last

/-- Of three calls on one key, nested in each other, the innermost stores its item. -/
example :
    let call (item : Nat) (computation : List (SharedCommand Nat Nat)) :=
      SharedCommand.getOrInsert 1 none computation item
    let clock : Clock := ⟨⟨0⟩, ⟨0, by decide⟩⟩
    (step (CacheSession.start CacheConfig.standard clock) (call 10 [call 20 [call 30 []]])).1 =
      .inserted 30 (some [.inserted 30 (some [.inserted 30 (some [])])]) := by
  rfl

end SharedCache

end QueryKit
