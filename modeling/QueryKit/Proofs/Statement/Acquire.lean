import Mathlib.Data.List.Nodup
import QueryKit.Statement.Cache

/-!
# What asking for a statement does

In a statement cache that is within its size there are four ways to obtain the statement
of a text. `Acquires` lists them, each with the whole cache that it leaves. That making a
stale statement anew costs no other statement rests on the size: the stale one is given up
first, and its place is free.
-/

namespace QueryKit

namespace StatementCache

/-- The invariant of a statement cache: each text has one statement, and there is room for
at least one statement and for all that are cached. -/
structure WellFormed (cache : StatementCache) : Prop where
  distinct : (cache.statements.map CachedStatement.sql).Nodup
  bounded : cache.size ≤ cache.config.maxSize
  roomy : 0 < cache.config.maxSize

/-- The ways to obtain the statement of a text from a cache, with the cache after it. -/
inductive Acquires (cache : StatementCache) (sql : String) (now : Instant) :
    Acquired → StatementCache → Prop where
  /-- A valid statement is used once more and moves to the back. -/
  | hit {statement : CachedStatement} (found : cache.peek sql = some statement)
      (valid : cache.contains sql now = true) :
      Acquires cache sql now ⟨statement.use now, .reused, none⟩
        { cache with
          statements := without sql cache.statements ++ [statement.use now]
          hits := cache.hits + 1 }
  /-- A stale statement is replaced, and no other one is given up. -/
  | stale {statement : CachedStatement} (found : cache.peek sql = some statement)
      (invalid : cache.contains sql now = false) :
      Acquires cache sql now ⟨.fresh sql now, .recreated, none⟩
        { cache with
          statements := without sql cache.statements ++ [.fresh sql now]
          misses := cache.misses + 1 }
  /-- A text without a statement gets one, as there is room. -/
  | room (absent : cache.peek sql = none) (room : cache.size < cache.config.maxSize) :
      Acquires cache sql now ⟨.fresh sql now, .created, none⟩
        { cache with
          statements := cache.statements ++ [.fresh sql now]
          misses := cache.misses + 1 }
  /-- A text without a statement gets one in a full cache, which gives up its front. -/
  | full {front : CachedStatement} {rest : List CachedStatement}
      (absent : cache.peek sql = none) (full : cache.size = cache.config.maxSize)
      (listed : cache.statements = front :: rest) :
      Acquires cache sql now ⟨.fresh sql now, .created, some front⟩
        { cache with
          statements := rest ++ [.fresh sql now]
          misses := cache.misses + 1
          evictions := cache.evictions + 1 }

variable {cache after : StatementCache} {sql : String} {now : Instant} {acquired : Acquired}

/-! ### Lookups -/

@[simp] theorem mem_without {statements : List CachedStatement} {statement : CachedStatement} :
    statement ∈ without sql statements ↔ statement ∈ statements ∧ statement.sql ≠ sql := by
  simp [without]

/-- A statement that is found is cached under its text. -/
theorem mem_of_peek {statement : CachedStatement} (found : cache.peek sql = some statement) :
    statement ∈ cache.statements ∧ statement.sql = sql :=
  ⟨List.mem_of_find?_eq_some found, by simpa using List.find?_some found⟩

/-- A text that is not found is that of no statement. -/
theorem peek_eq_none_iff :
    cache.peek sql = none ↔ ∀ statement ∈ cache.statements, statement.sql ≠ sql := by
  simp [peek]

/-- Where texts are distinct, a statement is found under its text. -/
theorem peek_of_mem (distinct : (cache.statements.map CachedStatement.sql).Nodup)
    {statement : CachedStatement} (member : statement ∈ cache.statements) :
    cache.peek statement.sql = some statement := by
  cases found : cache.peek statement.sql with
  | none => exact absurd rfl (peek_eq_none_iff.1 found statement member)
  | some other =>
    obtain ⟨otherMember, same⟩ := mem_of_peek found
    rw [List.inj_on_of_nodup_map distinct otherMember member same]

/-- Whether a text that is found has a valid statement. -/
theorem contains_of_peek {statement : CachedStatement} (found : cache.peek sql = some statement) :
    cache.contains sql now = statement.isValid cache.config now := by
  rw [contains, found]

/-- Whether a cached statement is valid is told by its text. -/
theorem contains_of_mem (distinct : (cache.statements.map CachedStatement.sql).Nodup)
    {statement : CachedStatement} (member : statement ∈ cache.statements) :
    cache.contains statement.sql now = statement.isValid cache.config now :=
  contains_of_peek (peek_of_mem distinct member)

/-- Leaving out a text that is found makes a place free. -/
theorem length_without_lt {statement : CachedStatement}
    (found : cache.peek sql = some statement) :
    (without sql cache.statements).length < cache.size := by
  obtain ⟨member, same⟩ := mem_of_peek found
  exact List.length_filter_lt_length_iff_exists.2 ⟨statement, member, by simpa using same⟩

/-! ### Making a statement -/

/-- While there is room, a new statement goes to the back and nothing is given up. -/
theorem create_of_room (room : cache.size < cache.config.maxSize) (acquisition : Acquisition) :
    cache.create sql acquisition now =
      (⟨.fresh sql now, acquisition, none⟩,
        { cache with
          statements := cache.statements ++ [.fresh sql now]
          misses := cache.misses + 1 }) := by
  rw [size, ← Nat.not_le] at room
  simp only [create, makeRoom, if_neg room]

/-- In a full cache the front is given up for the new statement. -/
theorem create_of_full (full : cache.config.maxSize ≤ cache.size)
    {front : CachedStatement} {rest : List CachedStatement}
    (listed : cache.statements = front :: rest) (acquisition : Acquisition) :
    cache.create sql acquisition now =
      (⟨.fresh sql now, acquisition, some front⟩,
        { cache with
          statements := rest ++ [.fresh sql now]
          misses := cache.misses + 1
          evictions := cache.evictions + 1 }) := by
  rw [size, listed] at full
  simp only [create, makeRoom, listed, if_pos full]

/-- A cache within its size goes one of the four ways. -/
theorem WellFormed.acquire (formed : cache.WellFormed) (sql : String) (now : Instant) :
    cache.Acquires sql now (cache.acquire sql now).1 (cache.acquire sql now).2 := by
  cases found : cache.peek sql with
  | none =>
    simp only [StatementCache.acquire, found]
    rcases Nat.lt_or_eq_of_le formed.bounded with room | full
    · rw [create_of_room room]
      exact .room found room
    · have inhabited : 0 < cache.statements.length := by
        rw [← size, full]
        exact formed.roomy
      obtain ⟨front, rest, listed⟩ := List.exists_cons_of_length_pos inhabited
      rw [create_of_full (Nat.le_of_eq full.symm) listed]
      exact .full found full listed
  | some statement =>
    have answer : cache.contains sql now = statement.isValid cache.config now :=
      contains_of_peek found
    simp only [StatementCache.acquire, found]
    by_cases valid : statement.isValid cache.config now = true
    · rw [if_pos valid]
      exact .hit found (answer.trans valid)
    · have room : ({ cache with statements := without sql cache.statements } :
          StatementCache).size < cache.config.maxSize :=
        Nat.lt_of_lt_of_le (length_without_lt found) formed.bounded
      rw [if_neg valid, create_of_room room]
      exact .stale found (answer.trans (eq_false_of_ne_true valid))

/-! ### What the ways have in common -/

namespace Acquires

/-- The obtained statement is the one at the back, and the others are some of those of
other texts, in their order. -/
theorem exists_kept (acquires : cache.Acquires sql now acquired after) :
    ∃ kept, kept.Sublist (without sql cache.statements) ∧
      after.statements = kept ++ [acquired.statement] := by
  cases acquires with
  | hit found valid => exact ⟨_, .refl _, rfl⟩
  | stale found invalid => exact ⟨_, .refl _, rfl⟩
  | room absent room =>
    have others : without sql cache.statements = cache.statements :=
      List.filter_eq_self.2 fun statement member => by
        simpa using peek_eq_none_iff.1 absent statement member
    exact ⟨cache.statements, by rw [others], rfl⟩
  | @full front rest absent full listed =>
    have others : without sql cache.statements = front :: rest := by
      rw [← listed]
      exact List.filter_eq_self.2 fun statement member => by
        simpa using peek_eq_none_iff.1 absent statement member
    exact ⟨rest, by rw [others]; exact List.sublist_cons_self front rest, rfl⟩

/-- Either the statement was cached and a hit is counted, or it is made and a miss is. -/
theorem made_or_used (acquires : cache.Acquires sql now acquired after) :
    (∃ statement ∈ cache.statements, statement.sql = sql ∧
      acquired.statement = statement.use now ∧
      after.hits = cache.hits + 1 ∧ after.misses = cache.misses) ∨
    (acquired.statement = .fresh sql now ∧
      after.hits = cache.hits ∧ after.misses = cache.misses + 1) := by
  cases acquires with
  | hit found valid =>
    obtain ⟨member, same⟩ := mem_of_peek found
    exact .inl ⟨_, member, same, rfl, rfl, rfl⟩
  | stale found invalid => exact .inr ⟨rfl, rfl, rfl⟩
  | room absent room => exact .inr ⟨rfl, rfl, rfl⟩
  | full absent full listed => exact .inr ⟨rfl, rfl, rfl⟩

/-- A hit is counted exactly if the text has a valid statement. -/
theorem hits_iff (acquires : cache.Acquires sql now acquired after) :
    after.hits = cache.hits + 1 ↔ cache.contains sql now = true := by
  cases acquires with
  | hit found valid => exact iff_of_true rfl valid
  | stale found invalid => simp [invalid]
  | room absent room => simp [contains, absent]
  | full absent full listed => simp [contains, absent]

/-- The statement that is handed out has the text that was asked for. -/
theorem statement_sql (acquires : cache.Acquires sql now acquired after) :
    acquired.statement.sql = sql := by
  rcases acquires.made_or_used with ⟨statement, -, same, used, -⟩ | ⟨made, -⟩
  · rw [used]
    exact same
  · rw [made]
    rfl

/-- Acquiring leaves the configuration. -/
theorem config (acquires : cache.Acquires sql now acquired after) :
    after.config = cache.config := by
  cases acquires <;> rfl

/-- Acquiring keeps a cache within its size. -/
theorem size_le (acquires : cache.Acquires sql now acquired after) (formed : cache.WellFormed) :
    after.size ≤ cache.config.maxSize := by
  have bounded := formed.bounded
  cases acquires with
  | hit found valid | stale found invalid =>
    have freed := length_without_lt found
    rw [size, List.length_append, List.length_singleton]
    omega
  | room absent room =>
    rw [size, List.length_append, List.length_singleton]
    exact room
  | full absent full listed =>
    rw [size, List.length_append, List.length_singleton, ← full, size, listed]
    exact Nat.le_refl _

/-- Acquiring keeps a cache well-formed. -/
theorem wellFormed (acquires : cache.Acquires sql now acquired after)
    (formed : cache.WellFormed) : after.WellFormed where
  distinct := by
    obtain ⟨kept, others, listed⟩ := acquires.exists_kept
    rw [listed, List.map_append, List.map_singleton, acquires.statement_sql,
      ← List.concat_eq_append, List.nodup_concat]
    refine ⟨fun member => ?_, ?_⟩
    · obtain ⟨statement, inKept, same⟩ := List.mem_map.1 member
      exact (mem_without.1 (others.subset inKept)).2 same
    · exact formed.distinct.sublist ((others.trans List.filter_sublist).map _)
  bounded := by
    rw [acquires.config]
    exact acquires.size_le formed
  roomy := by
    rw [acquires.config]
    exact formed.roomy

end Acquires

/-! ### Giving up statements -/

/-- A new cache has room for a statement, even if it was configured for none. -/
theorem wellFormed_new (config : StatementConfig) : (new config).WellFormed where
  distinct := .nil
  bounded := Nat.zero_le _
  roomy := Nat.lt_of_lt_of_le Nat.one_pos (Nat.le_max_right _ _)

/-- A cache that lost statements and nothing else but its counters. -/
theorem WellFormed.shrink (formed : cache.WellFormed)
    (fewer : after.statements.Sublist cache.statements) (config : after.config = cache.config) :
    after.WellFormed where
  distinct := formed.distinct.sublist (fewer.map _)
  bounded := by
    rw [config]
    exact Nat.le_trans fewer.length_le formed.bounded
  roomy := by
    rw [config]
    exact formed.roomy

/-- A cleanup keeps the statements whose text has a valid statement, and counts the others. -/
theorem WellFormed.cleanup (formed : cache.WellFormed) (now : Instant) :
    cache.cleanup now =
      ((cache.statements.filter fun statement => !cache.contains statement.sql now).length,
        { cache with
          statements := cache.statements.filter fun statement =>
            cache.contains statement.sql now }) := by
  have answer : ∀ statement ∈ cache.statements,
      cache.contains statement.sql now = statement.isValid cache.config now :=
    fun statement member => contains_of_mem formed.distinct member
  have gone : (cache.statements.filter fun statement => !cache.contains statement.sql now) =
      cache.statements.filter fun statement => !statement.isValid cache.config now :=
    List.filter_congr fun statement member => by rw [answer statement member]
  have kept : (cache.statements.filter fun statement => cache.contains statement.sql now) =
      cache.statements.filter fun statement => statement.isValid cache.config now :=
    List.filter_congr fun statement member => answer statement member
  rw [gone, kept, StatementCache.cleanup]

end StatementCache

end QueryKit
