import Mathlib.Data.List.Induction
import QueryKit.Proofs.Cache.Refinement

/-!
# Replies of a run

Command for command a session gives the replies of a ledger and keeps the same entries.
The ticks of the ledger are read off the commands alone: a record carries the number of
the last command that placed its key, a store under every policy and a lookup under LRU
and LFU. So the entry that a store in a full cache costs is described by the history.
-/

namespace QueryKit

variable {Key Item : Type} [DecidableEq Key]

namespace CacheSession

/-- A session and a ledger agree in clock and cache. -/
structure Follows (session : CacheSession Key Item) (ledger : Ledger Key Item) : Prop where
  clock : session.clock = ledger.clock
  mirrors : Mirrors session.cache ledger

/-- The answers to a list of commands, each with the events it caused. -/
def replies (session : CacheSession Key Item) :
    List (CacheCommand Key Item) → List (CacheAnswer Item × List Event)
  | [] => []
  | command :: rest =>
    let (answer, events, after) := session.step command
    (answer, events) :: after.replies rest

end CacheSession

/-- No command changes the configuration of a ledger. -/
theorem Ledger.act_config (ledger : Ledger Key Item) (command : CacheCommand Key Item) :
    (ledger.act command).2.2.config = ledger.config := by
  cases command with
  | get key => exact (ledger.get_frame key).2
  | put key item ttl => exact (ledger.put_frame key item ttl).2
  | peek key => rfl
  | remove key => rfl
  | contains key => rfl
  | clear => rfl
  | clearExpired => rfl
  | resetStats => rfl
  | advance span => rfl

namespace CacheSession

variable {session : CacheSession Key Item} {ledger : Ledger Key Item}

/-- A command is answered alike, and leaves clocks and records alike. -/
theorem Follows.act (follows : session.Follows ledger) (command : CacheCommand Key Item) :
    (session.step command).1 = (ledger.act command).1 ∧
      (session.step command).2.1 = (ledger.act command).2.1 ∧
      (session.step command).2.2.clock = (ledger.act command).2.2.clock ∧
      Represents (session.step command).2.2.cache (ledger.act command).2.2.records
        (ledger.tick + 1) := by
  obtain ⟨clock, mirrors⟩ := follows
  have now : session.now = ledger.clock.monotonic := congrArg Clock.monotonic clock
  have policy := mirrors.policy
  have represents := mirrors.represents
  cases command with
  | get key =>
    obtain ⟨lookup, after⟩ := mirrors.get key
    simp only [step, get, now, Ledger.act, lookup, Cache.get_config, policy]
    exact ⟨trivial, trivial, clock.trans (ledger.get_frame key).1.symm, after⟩
  | peek key =>
    have live := mirrors.live? key
    simp only [step, now, Cache.peek_eq, live, Ledger.act]
    exact ⟨trivial, trivial, clock, represents.later⟩
  | put key item ttl =>
    obtain ⟨evicted, after⟩ := mirrors.put key item ttl
    simp only [step, put, now, Ledger.act, evicted, Cache.put_config, policy]
    exact ⟨trivial, trivial, clock.trans (ledger.put_frame key item ttl).1.symm, after⟩
  | remove key =>
    have found := mirrors.find? key
    refine ⟨?_, rfl, clock, (represents.take key).later⟩
    simp only [step, Cache.remove, Cache.take_fst, found, Option.isSome_map, Ledger.act]
  | contains key =>
    have live := mirrors.live? key
    simp only [step, now, Cache.contains_eq, live, Ledger.act]
    exact ⟨trivial, trivial, clock, represents.later⟩
  | clear =>
    exact ⟨rfl, rfl, clock, represents.clear.later⟩
  | clearExpired =>
    obtain ⟨count, after⟩ := represents.clearExpired ledger.clock.monotonic
    simp only [step, now, Ledger.act, count, List.partition_eq_filter_filter]
    exact ⟨trivial, trivial, clock, after.later⟩
  | resetStats => exact ⟨rfl, rfl, clock, (represents.restat _).later⟩
  | advance span => exact ⟨rfl, rfl, by simp only [step, Ledger.act, clock], represents.later⟩

/-- A command keeps session and ledger together. -/
theorem Follows.step (follows : session.Follows ledger) (command : CacheCommand Key Item) :
    (session.step command).1 = (ledger.step command).1 ∧
      (session.step command).2.1 = (ledger.step command).2.1 ∧
      (session.step command).2.2.Follows (ledger.step command).2.2 := by
  obtain ⟨answer, events, clock, represents⟩ := follows.act command
  refine ⟨answer, events, clock, ?_, represents⟩
  have kept := step_kept (Cache.kept_config session.cache.config) session command rfl
  have settings : (ledger.step command).2.2.config = ledger.config := ledger.act_config command
  rw [kept, follows.mirrors.config, Ledger.capacity, Ledger.capacity, settings]

/-- A run keeps session and ledger together, reply for reply. -/
theorem Follows.run (follows : session.Follows ledger)
    (commands : List (CacheCommand Key Item)) :
    session.replies commands = ledger.replies commands ∧
      (session.run commands).Follows (ledger.run commands) := by
  induction commands generalizing session ledger with
  | nil => exact ⟨rfl, follows⟩
  | cons command rest ih =>
    obtain ⟨answer, events, after⟩ := follows.step command
    obtain ⟨replies, last⟩ := ih after
    refine ⟨?_, last⟩
    simp only [CacheSession.replies, Ledger.replies, answer, events, replies]

omit [DecidableEq Key] in
/-- A cache begins empty, and so does its ledger. -/
theorem follows_start (config : CacheConfig) (clock : Clock) :
    (start config clock : CacheSession Key Item).Follows (Ledger.start config clock) where
  clock := rfl
  mirrors := by
    refine ⟨rfl, .new config, rfl, ?_, by simp [Ledger.start]⟩
    simp only [start, Cache.new]
    cases config.policy <;> simp [EvictionOrder.empty, EvictionOrder.Queued]

end CacheSession

/-- A command that puts a key behind all others of as many uses, provided that the
key has a live entry after it. -/
def CacheCommand.Places (policy : EvictionPolicy) (key : Key) : CacheCommand Key Item → Prop
  | .put other _ _ => other = key
  | .get other => other = key ∧ policy ≠ .fifo
  | _ => False

/-- The number of the last command that places a key. -/
def LastPlaced (policy : EvictionPolicy) (commands : List (CacheCommand Key Item)) (key : Key)
    (tick : Nat) : Prop :=
  (∃ command, commands[tick]? = some command ∧ command.Places policy key) ∧
    ∀ later command, tick < later → commands[later]? = some command →
      ¬ command.Places policy key

omit [DecidableEq Key] in
/-- A command that places a key is the last one to do so. -/
theorem lastPlaced_append {policy : EvictionPolicy} {command : CacheCommand Key Item} {key : Key}
    (places : command.Places policy key) (prior : List (CacheCommand Key Item)) :
    LastPlaced policy (prior ++ [command]) key prior.length := by
  refine ⟨⟨command, by simp, places⟩, fun later other after stored => ?_⟩
  have bound := (List.getElem?_eq_some_iff.1 stored).1
  simp only [List.length_append, List.length_singleton] at bound
  omega

omit [DecidableEq Key] in
/-- A command that does not place a key leaves the last one that did. -/
theorem LastPlaced.append {policy : EvictionPolicy} {prior : List (CacheCommand Key Item)}
    {key : Key} {tick : Nat} (last : LastPlaced policy prior key tick)
    {command : CacheCommand Key Item} (spares : ¬ command.Places policy key) :
    LastPlaced policy (prior ++ [command]) key tick := by
  obtain ⟨⟨placing, stored, places⟩, unplaced⟩ := last
  have bound := (List.getElem?_eq_some_iff.1 stored).1
  refine ⟨⟨placing, by rw [List.getElem?_append_left bound, stored], places⟩, ?_⟩
  intro later other after found
  rcases Nat.lt_or_ge later prior.length with before | beyond
  · rw [List.getElem?_append_left before] at found
    exact unplaced later other after found
  · rw [List.getElem?_append_right beyond, List.getElem?_singleton] at found
    split at found
    · rw [← Option.some.inj found]
      exact spares
    · cases found

namespace Ledger

/-- A record after a command is placed by it, or it was there before and is not. -/
theorem record_act (ledger : Ledger Key Item) (command : CacheCommand Key Item)
    {record : Placed Key Item} (member : record ∈ (ledger.act command).2.2.records) :
    command.Places ledger.config.policy record.entry.key ∧ record.tick = ledger.tick ∨
      ¬ command.Places ledger.config.policy record.entry.key ∧
        ∃ before ∈ ledger.records, before.entry.key = record.entry.key ∧
          before.tick = record.tick := by
  cases command with
  | get key =>
    simp only [act, get] at member
    cases found : ledger.find? key with
    | none =>
      rw [found] at member
      have different := List.find?_eq_none.1 found record member
      exact .inr ⟨fun places => different (by simpa using places.1.symm), record, member, rfl, rfl⟩
    | some hit =>
      cases expired : hit.entry.isExpired ledger.clock.monotonic with
      | true =>
        simp only [found, expired, if_true, others, List.mem_filter, decide_eq_true_eq] at member
        exact .inr ⟨fun places => member.2 places.1.symm, record, member.1, rfl, rfl⟩
      | false =>
        simp only [found, expired, Bool.false_eq_true, if_false, List.mem_map] at member
        obtain ⟨before, beforeMember, rfl⟩ := member
        by_cases same : before.entry.key = key
        · rw [if_pos same]
          -- A hit places its key anew, but for FIFO.
          by_cases fifo : ledger.config.policy = .fifo
          · exact .inr ⟨fun places => places.2 fifo, before, beforeMember, rfl, (if_pos fifo).symm⟩
          · exact .inl ⟨⟨same.symm, fifo⟩, if_neg fifo⟩
        · rw [if_neg same]
          exact .inr ⟨fun places => same places.1.symm, before, beforeMember, rfl, rfl⟩
  | put key item ttl =>
    obtain ⟨kept, records, old⟩ := ledger.exists_put key item ttl
    have listed : record ∈ (ledger.put key item ttl).2.records := member
    rw [records, List.mem_append, List.mem_singleton] at listed
    rcases listed with inKept | rfl
    · obtain ⟨inRecords, different⟩ := old record inKept
      exact .inr ⟨fun places => different places.symm, record, inRecords, rfl, rfl⟩
    · exact .inl ⟨rfl, rfl⟩
  | remove key => exact .inr ⟨id, record, List.mem_of_mem_filter member, rfl, rfl⟩
  | clear => cases member
  | clearExpired =>
    simp only [act, List.partition_eq_filter_filter] at member
    exact .inr ⟨id, record, List.mem_of_mem_filter member, rfl, rfl⟩
  | peek key => exact .inr ⟨id, record, member, rfl, rfl⟩
  | contains key => exact .inr ⟨id, record, member, rfl, rfl⟩
  | resetStats => exact .inr ⟨id, record, member, rfl, rfl⟩
  | advance span => exact .inr ⟨id, record, member, rfl, rfl⟩

/-- The ledger of a run is that of its second part after its first. -/
theorem run_append (ledger : Ledger Key Item) (first second : List (CacheCommand Key Item)) :
    ledger.run (first ++ second) = (ledger.run first).run second := by
  induction first generalizing ledger with
  | nil => rfl
  | cons command rest ih => exact ih _

/-- Ticks count commands, and a record carries that of the last one that placed it. -/
theorem lastPlaced_run (config : CacheConfig) (clock : Clock)
    (commands : List (CacheCommand Key Item)) :
    let ledger := (start config clock).run commands
    ledger.config = config ∧ ledger.tick = commands.length ∧
      ∀ record ∈ ledger.records,
        LastPlaced config.policy commands record.entry.key record.tick := by
  induction commands using List.reverseRecOn with
  | nil => exact ⟨rfl, rfl, by simp [run, start]⟩
  | append_singleton prior command ih =>
    obtain ⟨settings, count, placed⟩ := ih
    rw [run_append]
    refine ⟨(act_config _ command).trans settings, ?_, ?_⟩
    · simp [run, step, count]
    · intro record member
      have origin := record_act _ command member
      rw [settings, count] at origin
      rcases origin with ⟨places, now⟩ | ⟨spares, before, beforeMember, same, tick⟩
      · rw [now]
        exact lastPlaced_append places prior
      · have last := placed before beforeMember
        rw [same, tick] at last
        exact last.append spares

end Ledger

namespace CacheSession

/-- A session replies to any commands as the plain ledger does, answer for answer and
event for event, and holds the entries of its records. Each record carries the number of
the last command that placed its key. Reading an expired entry removes it. A store under
a present key, or with room to spare, costs no other entry; a store of an absent key in
a full cache costs exactly the entry of the record that precedes all others, expired or
not: by tick under LRU and FIFO, by access count and then tick under LFU. -/
theorem replies_eq_ledger (config : CacheConfig) (clock : Clock)
    (commands : List (CacheCommand Key Item)) :
    let session := (start config clock : CacheSession Key Item).run commands
    let ledger := (Ledger.start config clock).run commands
    (start config clock).replies commands = (Ledger.start config clock).replies commands ∧
    session.cache.entries = ledger.records.map Placed.entry ∧
    (∀ record ∈ ledger.records,
      LastPlaced config.policy commands record.entry.key record.tick) ∧
    (∀ key entry, session.cache.find? key = some entry → entry.isExpired session.now = true →
      (session.step (.get key)).1 = .item none ∧
      ∀ other, (session.step (.get key)).2.2.cache.find? other =
        if other = key then none else session.cache.find? other) ∧
    ∀ key item ttl,
      let evicted := (session.cache.put key item ttl session.now).1
      let after := (session.cache.put key item ttl session.now).2
      after.find? key = some ⟨key, item, session.now, ttl.or config.defaultTtl, 0, session.now⟩ ∧
      ((session.cache.find? key).isSome ∨ session.cache.size < max config.maxSize 1 →
        evicted = none ∧ ∀ other, other ≠ key → after.find? other = session.cache.find? other) ∧
      (session.cache.find? key = none → max config.maxSize 1 ≤ session.cache.size →
        ∃ victim ∈ ledger.records,
          (∀ other ∈ ledger.records, other ≠ victim → victim.Precedes config.policy other) ∧
          evicted = some victim.entry ∧
          ∀ other, other ≠ key → after.find? other =
            if other = victim.entry.key then none else session.cache.find? other) := by
  obtain ⟨replies, -, mirrors⟩ := (follows_start config clock).run commands
  obtain ⟨settings, -, placed⟩ := Ledger.lastPlaced_run config clock commands
  have limits := config_run config clock commands
  intro session ledger
  have represents : Represents session.cache ledger.records ledger.tick := mirrors.represents
  refine ⟨replies, represents.entries, placed, ?_, ?_⟩
  · intro key entry found expired
    simp only [step, get, Cache.get_of_expired found expired]
    exact ⟨rfl, Cache.find?_without (Cache.take_entries session.cache key)⟩
  · intro key item ttl evicted after
    obtain ⟨base, ⟨hidden, -⟩, stored, spared⟩ := session.cache.exists_put key item ttl session.now
    have added := Cache.find?_store hidden item (ttl.or session.cache.config.defaultTtl) session.now
    rw [← stored] at added
    have size : session.cache.config.maxSize = max config.maxSize 1 := by rw [limits]
    refine ⟨?_, fun cheap => ?_, fun absent full => ?_⟩
    · rw [added, if_pos rfl, limits]
    · obtain ⟨nothing, same⟩ := spared (size ▸ cheap)
      refine ⟨nothing, fun other different => ?_⟩
      rw [added, if_neg different, same other different]
    · -- There are as many records as entries, so both sides are full at once.
      have ledgerFull : ledger.capacity ≤ ledger.records.length := by
        rw [Ledger.capacity, settings, ← mirrors.length]
        exact full
      obtain ⟨victim, ⟨member, least⟩, given, remaining⟩ :=
        mirrors.find?_put_of_full absent ledgerFull item ttl session.now
      rw [settings] at least
      exact ⟨victim, member, least, given, remaining⟩

end CacheSession

end QueryKit
