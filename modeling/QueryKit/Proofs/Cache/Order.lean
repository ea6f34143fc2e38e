import Mathlib.Data.List.Perm.Basic
import Mathlib.Data.List.Nodup
import QueryKit.Cache.Order

/-!
# What an eviction order does to its keys

Well-formed buckets are looked at from one frequency: the buckets below it, the
queue at it (empty when no bucket is stored) and the buckets above it. Every
operation on buckets changes the middle queue alone, so `around` carries all of
the frequency policy. On top of it, every operation of an order is described by
its effect on three views: the list of keys, where each key is filed, and how the
keys of one queue follow each other.
-/

namespace QueryKit

variable {Key : Type} [DecidableEq Key]

namespace Buckets

/-- Frequencies ascend strictly, and no stored queue is empty. -/
structure WellFormed (buckets : Buckets Key) : Prop where
  ascending : buckets.Pairwise fun lower higher => lower.1 < higher.1
  inhabited : ∀ bucket ∈ buckets, bucket.2 ≠ []

/-- A key lies in the queue of a frequency. -/
def Holds (buckets : Buckets Key) (frequency : Nat) (key : Key) : Prop :=
  ∃ queue, (frequency, queue) ∈ buckets ∧ key ∈ queue

/-- The stored form of a queue: nothing when it is empty. -/
def slot (frequency : Nat) : List Key → Buckets Key
  | [] => []
  | key :: rest => [(frequency, key :: rest)]

/-- Buckets seen from a frequency. -/
def around (lower : Buckets Key) (frequency : Nat) (queue : List Key) (higher : Buckets Key) :
    Buckets Key :=
  lower ++ slot frequency queue ++ higher

/-- Well-formed buckets on both sides of a frequency. -/
structure Surround (lower : Buckets Key) (frequency : Nat) (higher : Buckets Key) : Prop where
  lowerFormed : lower.WellFormed
  higherFormed : higher.WellFormed
  below : ∀ bucket ∈ lower, bucket.1 < frequency
  above : ∀ bucket ∈ higher, frequency < bucket.1

section Views

omit [DecidableEq Key]

@[simp] theorem mem_slot {frequency : Nat} {queue : List Key} {bucket : Nat × List Key} :
    bucket ∈ slot frequency queue ↔ bucket = (frequency, queue) ∧ queue ≠ [] := by
  cases queue <;> simp [slot]

@[simp] theorem flatMap_slot (frequency : Nat) (queue : List Key) :
    (slot frequency queue).flatMap Prod.snd = queue := by
  cases queue <;> simp [slot]

/-- The keys of buckets, seen from a frequency. -/
theorem flatMap_around (lower : Buckets Key) (frequency : Nat) (queue : List Key)
    (higher : Buckets Key) :
    (around lower frequency queue higher).flatMap Prod.snd =
      lower.flatMap Prod.snd ++ queue ++ higher.flatMap Prod.snd := by
  simp [around]

/-- A key lies below a frequency, at it or above it. -/
theorem holds_around {lower higher : Buckets Key} {frequency place : Nat} {queue : List Key}
    {key : Key} :
    (around lower frequency queue higher).Holds place key ↔
      lower.Holds place key ∨ (place = frequency ∧ key ∈ queue) ∨ higher.Holds place key := by
  constructor
  · rintro ⟨other, stored, member⟩
    simp only [around, List.mem_append, mem_slot, Prod.mk.injEq] at stored
    rcases stored with (inLower | ⟨⟨rfl, rfl⟩, -⟩) | inHigher
    · exact .inl ⟨other, inLower, member⟩
    · exact .inr (.inl ⟨rfl, member⟩)
    · exact .inr (.inr ⟨other, inHigher, member⟩)
  · rintro (⟨other, stored, member⟩ | ⟨rfl, member⟩ | ⟨other, stored, member⟩)
    · exact ⟨other, by simp [around, stored], member⟩
    · exact ⟨queue, by simp [around, List.ne_nil_of_mem member], member⟩
    · exact ⟨other, by simp [around, stored], member⟩

/-- Only the middle queue holds keys at the frequency itself. -/
theorem Surround.holds_iff {lower higher : Buckets Key} {frequency : Nat}
    (surround : Surround lower frequency higher) {queue : List Key} {key : Key} :
    (around lower frequency queue higher).Holds frequency key ↔ key ∈ queue := by
  rw [holds_around]
  constructor
  · rintro (⟨_, stored, _⟩ | ⟨-, member⟩ | ⟨_, stored, _⟩)
    · exact absurd (surround.below _ stored) (Nat.lt_irrefl _)
    · exact member
    · exact absurd (surround.above _ stored) (Nat.lt_irrefl _)
  · intro member
    exact .inr (.inl ⟨rfl, member⟩)

/-- A relation runs along every queue if it does below, at and above a frequency. -/
theorem pairwise_around {lower higher : Buckets Key} {frequency : Nat} {queue : List Key}
    {earlier : Key → Key → Prop} :
    (∀ bucket ∈ around lower frequency queue higher, bucket.2.Pairwise earlier) ↔
      (∀ bucket ∈ lower, bucket.2.Pairwise earlier) ∧ queue.Pairwise earlier ∧
        ∀ bucket ∈ higher, bucket.2.Pairwise earlier := by
  cases queue <;> simp [around, slot, or_imp, forall_and]

/-- A key that is held is one of the keys. -/
theorem Holds.mem_flatMap {buckets : Buckets Key} {frequency : Nat} {key : Key}
    (held : buckets.Holds frequency key) : key ∈ buckets.flatMap Prod.snd := by
  obtain ⟨queue, stored, member⟩ := held
  exact List.mem_flatMap.2 ⟨_, stored, member⟩

/-- Whatever queue is put between them, the buckets stay well formed. -/
theorem Surround.wellFormed {lower higher : Buckets Key} {frequency : Nat}
    (surround : Surround lower frequency higher) (queue : List Key) :
    (around lower frequency queue higher).WellFormed where
  ascending := by
    simp only [around, List.pairwise_append, List.mem_append, mem_slot]
    refine ⟨⟨surround.lowerFormed.ascending, ?_, ?_⟩, surround.higherFormed.ascending, ?_⟩
    · cases queue <;> simp [slot]
    · rintro left inLower right ⟨rfl, -⟩
      exact surround.below left inLower
    · rintro left (inLower | ⟨rfl, -⟩) right inHigher
      · exact Nat.lt_trans (surround.below left inLower) (surround.above right inHigher)
      · exact surround.above right inHigher
  inhabited := by
    intro bucket stored
    simp only [around, List.mem_append, mem_slot] at stored
    rcases stored with (inLower | ⟨rfl, nonempty⟩) | inHigher
    · exact surround.lowerFormed.inhabited bucket inLower
    · exact nonempty
    · exact surround.higherFormed.inhabited bucket inHigher

/-- The tail of well-formed buckets is well formed. -/
theorem WellFormed.tail {bucket : Nat × List Key} {rest : Buckets Key}
    (formed : WellFormed (bucket :: rest)) : rest.WellFormed where
  ascending := formed.ascending.of_cons
  inhabited := fun other member => formed.inhabited other (List.mem_cons_of_mem _ member)

/-- No buckets at all are well-formed. -/
theorem wellFormed_nil : WellFormed ([] : Buckets Key) := ⟨.nil, by simp⟩

/-- Well-formed buckets can be seen from any frequency. -/
theorem WellFormed.exists_around {buckets : Buckets Key} (formed : buckets.WellFormed)
    (frequency : Nat) :
    ∃ lower queue higher, Surround lower frequency higher ∧
      buckets = around lower frequency queue higher := by
  induction buckets with
  | nil => exact ⟨[], [], [], ⟨wellFormed_nil, wellFormed_nil, by simp, by simp⟩, rfl⟩
  | cons bucket rest ih =>
    obtain ⟨least, queue⟩ := bucket
    have later : ∀ other ∈ rest, least < other.1 := fun other member =>
      List.rel_of_pairwise_cons formed.ascending member
    rcases Nat.lt_trichotomy frequency least with smaller | rfl | larger
    · refine ⟨[], [], (least, queue) :: rest, ⟨wellFormed_nil, formed, by simp, ?_⟩, rfl⟩
      intro other member
      rcases List.mem_cons.1 member with rfl | member
      · exact smaller
      · exact Nat.lt_trans smaller (later other member)
    · have nonempty : queue ≠ [] := formed.inhabited _ List.mem_cons_self
      obtain ⟨first, others, rfl⟩ := List.exists_cons_of_ne_nil nonempty
      exact ⟨[], first :: others, rest, ⟨wellFormed_nil, formed.tail, by simp, later⟩, rfl⟩
    · obtain ⟨lower, middle, higher, surround, rfl⟩ := ih formed.tail
      refine ⟨(least, queue) :: lower, middle, higher, ⟨?_, surround.higherFormed, ?_,
        surround.above⟩, rfl⟩
      · refine ⟨List.pairwise_cons.2 ⟨fun other member => ?_, surround.lowerFormed.ascending⟩, ?_⟩
        · exact later other (by simp [around, member])
        · intro other member
          rcases List.mem_cons.1 member with rfl | member
          · exact formed.inhabited _ List.mem_cons_self
          · exact surround.lowerFormed.inhabited other member
      · intro other member
        rcases List.mem_cons.1 member with rfl | member
        · exact larger
        · exact surround.below other member

/-- A lookup at the frequency finds the queue there. -/
theorem Surround.lookup {lower higher : Buckets Key} {frequency : Nat}
    (surround : Surround lower frequency higher) (queue : List Key) :
    (around lower frequency queue higher).lookup frequency =
      if queue = [] then none else some queue := by
  have missesLower : lower.lookup frequency = none := by
    rw [List.lookup_eq_none_iff]
    intro bucket member
    have less := surround.below bucket member
    exact bne_iff_ne.2 (by omega)
  have missesHigher : higher.lookup frequency = none := by
    rw [List.lookup_eq_none_iff]
    intro bucket member
    have greater := surround.above bucket member
    exact bne_iff_ne.2 (by omega)
  cases queue <;> simp [around, slot, List.lookup_append, missesLower, missesHigher]

/-- Replacing the queue of a frequency passes over the buckets below it. -/
theorem replace_append {lower : Buckets Key} {frequency : Nat}
    (below : ∀ bucket ∈ lower, bucket.1 < frequency) (remaining : List Key)
    (rest : Buckets Key) :
    replace frequency remaining (lower ++ rest) = lower ++ replace frequency remaining rest := by
  induction lower with
  | nil => rfl
  | cons bucket lower ih =>
    have different : frequency ≠ bucket.1 := Nat.ne_of_gt (below bucket List.mem_cons_self)
    have later : ∀ other ∈ lower, other.1 < frequency := fun other member =>
      below other (List.mem_cons_of_mem _ member)
    rw [List.cons_append, replace, if_neg different, ih later, List.cons_append]

/-- Replacing the queue of a stored frequency changes that queue alone. -/
theorem Surround.replace {lower higher : Buckets Key} {frequency : Nat}
    (surround : Surround lower frequency higher) {queue : List Key} (stored : queue ≠ [])
    (remaining : List Key) :
    Buckets.replace frequency remaining (around lower frequency queue higher) =
      around lower frequency remaining higher := by
  obtain ⟨first, others, rfl⟩ := List.exists_cons_of_ne_nil stored
  rw [around, around, List.append_assoc, List.append_assoc, replace_append surround.below]
  cases remaining <;> simp [slot, Buckets.replace]

end Views

section Operations

variable {lower higher : Buckets Key} {frequency : Nat}

/-- Entering a key at a frequency passes over the buckets below it. -/
theorem enter_append (below : ∀ bucket ∈ lower, bucket.1 < frequency) (key : Key)
    (rest : Buckets Key) :
    enter frequency key (lower ++ rest) = lower ++ enter frequency key rest := by
  induction lower with
  | nil => rfl
  | cons bucket lower ih =>
    have less : bucket.1 < frequency := below bucket List.mem_cons_self
    have later : ∀ other ∈ lower, other.1 < frequency := fun other member =>
      below other (List.mem_cons_of_mem _ member)
    rw [List.cons_append, enter, if_neg (by omega), if_neg (by omega), ih later,
      List.cons_append]

/-- A key entered at the frequency goes to the back of the queue there. -/
theorem Surround.enter (surround : Surround lower frequency higher) (queue : List Key)
    (key : Key) :
    (around lower frequency queue higher).enter frequency key =
      around lower frequency (pushBack key queue) higher := by
  have pushed : slot frequency (pushBack key queue) = [(frequency, pushBack key queue)] := by
    cases same : pushBack key queue with
    | nil => simp [pushBack] at same
    | cons first rest => rfl
  rw [around, around, List.append_assoc, List.append_assoc, enter_append surround.below, pushed]
  congr 1
  cases queue with
  | cons first rest => simp [slot, Buckets.enter]
  | nil =>
    cases higher with
    | nil => rfl
    | cons bucket rest =>
      have above := surround.above bucket List.mem_cons_self
      simp [slot, Buckets.enter, above, pushBack]

/-- A key that leaves the frequency is taken out of the queue there; the queue is
gone when it held nothing else. -/
theorem Surround.leave (surround : Surround lower frequency higher) {queue : List Key}
    {key : Key} (queued : key ∈ queue) :
    (around lower frequency queue higher).leave frequency key =
      ((queue.erase key).isEmpty, around lower frequency (queue.erase key) higher) := by
  have stored : queue ≠ [] := List.ne_nil_of_mem queued
  simp only [Buckets.leave, surround.lookup, if_neg stored, surround.replace stored]

/-- The buckets that remain when a key leaves were there before, and the one it left
is not among them if it is said to be gone. -/
theorem WellFormed.fst_of_mem_leave {buckets : Buckets Key} (formed : buckets.WellFormed)
    {key : Key} (held : buckets.Holds frequency key) {bucket : Nat × List Key}
    (stored : bucket ∈ (buckets.leave frequency key).2) :
    (∃ other ∈ buckets, other.1 = bucket.1) ∧
      ((buckets.leave frequency key).1 = true → bucket.1 ≠ frequency) := by
  obtain ⟨lower, queue, higher, surround, rfl⟩ := formed.exists_around frequency
  have member : key ∈ queue := surround.holds_iff.1 held
  rw [surround.leave member] at stored ⊢
  simp only [around, List.mem_append, mem_slot] at stored ⊢
  rcases stored with (inLower | ⟨rfl, remains⟩) | inHigher
  · exact ⟨⟨bucket, .inl (.inl inLower), rfl⟩, fun _ => Nat.ne_of_lt (surround.below _ inLower)⟩
  · refine ⟨⟨_, .inl (.inr ⟨rfl, List.ne_nil_of_mem member⟩), rfl⟩, fun gone => ?_⟩
    exact absurd (List.isEmpty_iff.1 gone) remains
  · exact ⟨⟨bucket, .inr inHigher, rfl⟩, fun _ => Nat.ne_of_gt (surround.above _ inHigher)⟩

end Operations

end Buckets

namespace EvictionOrder

section Views

omit [DecidableEq Key]

/-- The policy that an order follows. -/
def policy : EvictionOrder Key → EvictionPolicy
  | .recency _ => .lru
  | .insertion _ => .fifo
  | .frequency _ _ => .lfu

/-- A key stands where keys of that many uses belong. -/
def Files (order : EvictionOrder Key) (uses : Nat) (key : Key) : Prop :=
  match order with
  | .recency queue => key ∈ queue
  | .insertion queue => key ∈ queue
  | .frequency buckets _ => buckets.Holds uses key

/-- Within one queue, every key stands behind those that are earlier. -/
def Queued (order : EvictionOrder Key) (earlier : Key → Key → Prop) : Prop :=
  match order with
  | .recency queue => queue.Pairwise earlier
  | .insertion queue => queue.Pairwise earlier
  | .frequency buckets _ => ∀ bucket ∈ buckets, bucket.2.Pairwise earlier

/-- One key is to be given up before another. -/
def Ahead (order : EvictionOrder Key) (earlier : Key → Key → Prop) (first second : Key) : Prop :=
  match order with
  | .recency _ => earlier first second
  | .insertion _ => earlier first second
  | .frequency buckets _ => ∃ lower higher, buckets.Holds lower first ∧
      buckets.Holds higher second ∧ (lower < higher ∨ lower = higher ∧ earlier first second)

/-- The buckets of a frequency order are well formed, and the remembered frequency
is at most that of every bucket. It may name a bucket that is gone. -/
def Layered : EvictionOrder Key → Prop
  | .recency _ => True
  | .insertion _ => True
  | .frequency buckets leastFrequency =>
    buckets.WellFormed ∧ ∀ bucket ∈ buckets, leastFrequency ≤ bucket.1

/-- What every operation keeps: each key stands once, and frequencies are layered. -/
structure Sound (order : EvictionOrder Key) : Prop where
  distinct : order.keys.Nodup
  layered : order.Layered

/-- A filed key is one of the keys. -/
theorem Files.mem_keys {order : EvictionOrder Key} {uses : Nat} {key : Key}
    (filed : order.Files uses key) : key ∈ order.keys := by
  cases order with
  | recency queue => exact filed
  | insertion queue => exact filed
  | frequency buckets leastFrequency => exact Buckets.Holds.mem_flatMap filed

/-- What is known of the keys of an order may be used to change the relation. -/
theorem Queued.imp_of_mem {order : EvictionOrder Key} {earlier before : Key → Key → Prop}
    (queued : order.Queued earlier)
    (imp : ∀ first ∈ order.keys, ∀ second ∈ order.keys, earlier first second →
      before first second) : order.Queued before := by
  cases order with
  | recency queue =>
    exact List.Pairwise.imp_of_mem (fun inFirst inSecond => imp _ inFirst _ inSecond) queued
  | insertion queue =>
    exact List.Pairwise.imp_of_mem (fun inFirst inSecond => imp _ inFirst _ inSecond) queued
  | frequency buckets leastFrequency =>
    intro bucket stored
    have inKeys : ∀ key ∈ bucket.2, key ∈ buckets.flatMap Prod.snd := fun key member =>
      List.mem_flatMap.2 ⟨bucket, stored, member⟩
    refine List.Pairwise.imp_of_mem (fun inFirst inSecond => ?_) (queued bucket stored)
    exact imp _ (inKeys _ inFirst) _ (inKeys _ inSecond)

/-- Under LFU a key is filed under one frequency only. -/
theorem Sound.files_unique {order : EvictionOrder Key} (sound : order.Sound)
    (lfu : order.policy = .lfu) {key : Key} {uses others : Nat} (filed : order.Files uses key)
    (again : order.Files others key) : others = uses := by
  cases order with
  | recency queue => cases lfu
  | insertion queue => cases lfu
  | frequency buckets leastFrequency =>
    obtain ⟨formed, -⟩ := sound.layered
    obtain ⟨lower, queue, higher, surround, rfl⟩ := formed.exists_around uses
    have member : key ∈ queue := surround.holds_iff.1 filed
    have distinct := sound.distinct
    simp only [keys, Buckets.flatMap_around] at distinct
    rcases Buckets.holds_around.1 again with inLower | ⟨same, -⟩ | inHigher
    · exact absurd member
        (List.disjoint_of_nodup_append distinct.of_append_left inLower.mem_flatMap)
    · exact same
    · exact absurd inHigher.mem_flatMap
        (List.disjoint_of_nodup_append distinct (List.mem_append_right _ member))

end Views

/-- `after` is `before` without a key. -/
structure Drops (key : Key) (before after : EvictionOrder Key) : Prop where
  sound : after.Sound
  policy : after.policy = before.policy
  keys : after.keys = before.keys.erase key
  files : ∀ uses other, after.Files uses other ↔ before.Files uses other ∧ other ≠ key
  queued : ∀ earlier, before.Queued earlier → after.Queued earlier

/-- `after` is `before` with a new key behind all keys of as many uses. -/
structure Gains (key : Key) (uses : Nat) (before after : EvictionOrder Key) : Prop where
  sound : after.Sound
  policy : after.policy = before.policy
  keys : after.keys.Perm (key :: before.keys)
  files : ∀ place other, after.Files place other ↔
    before.Files place other ∨ other = key ∧ (before.policy = .lfu → place = uses)
  queued : ∀ earlier, before.Queued earlier → (∀ other ∈ before.keys, earlier other key) →
    after.Queued earlier

/-- A key leaves the bucket that holds it. -/
theorem drops_leave {buckets : Buckets Key} {leastFrequency remembered uses : Nat} {key : Key}
    (sound : (frequency buckets leastFrequency).Sound) (held : buckets.Holds uses key)
    (bound : ∀ bucket ∈ (buckets.leave uses key).2, remembered ≤ bucket.1) :
    Drops key (frequency buckets leastFrequency)
      (frequency (buckets.leave uses key).2 remembered) := by
  obtain ⟨formed, -⟩ := sound.layered
  obtain ⟨lower, queue, higher, surround, rfl⟩ := formed.exists_around uses
  have member : key ∈ queue := surround.holds_iff.1 held
  rw [surround.leave member] at bound ⊢
  have distinct := sound.distinct
  simp only [keys, Buckets.flatMap_around] at distinct
  have notHigher : key ∉ higher.flatMap Prod.snd := fun inHigher =>
    List.disjoint_of_nodup_append distinct (List.mem_append_right _ member) inHigher
  have notLower : key ∉ lower.flatMap Prod.snd := fun inLower =>
    List.disjoint_of_nodup_append distinct.of_append_left inLower member
  have middle : queue.Nodup := distinct.of_append_left.of_append_right
  have erased : (Buckets.around lower uses (queue.erase key) higher).flatMap Prod.snd =
      ((Buckets.around lower uses queue higher).flatMap Prod.snd).erase key := by
    rw [Buckets.flatMap_around, Buckets.flatMap_around,
      List.erase_append_left _ (List.mem_append_right _ member),
      List.erase_append_right _ notLower]
  refine ⟨⟨?_, surround.wellFormed _, bound⟩, rfl, erased, ?_, ?_⟩
  · simp only [keys, erased]
    exact sound.distinct.erase key
  · intro place other
    simp only [Files, Buckets.holds_around, middle.mem_erase_iff]
    constructor
    · rintro (inLower | ⟨rfl, different, inQueue⟩ | inHigher)
      · exact ⟨.inl inLower, fun same => notLower (same ▸ inLower.mem_flatMap)⟩
      · exact ⟨.inr (.inl ⟨rfl, inQueue⟩), different⟩
      · exact ⟨.inr (.inr inHigher), fun same => notHigher (same ▸ inHigher.mem_flatMap)⟩
    · rintro ⟨inLower | ⟨rfl, inQueue⟩ | inHigher, different⟩
      · exact .inl inLower
      · exact .inr (.inl ⟨rfl, different, inQueue⟩)
      · exact .inr (.inr inHigher)
  · intro earlier ordered
    obtain ⟨orderedLower, orderedQueue, orderedHigher⟩ := Buckets.pairwise_around.1 ordered
    exact Buckets.pairwise_around.2
      ⟨orderedLower, orderedQueue.sublist List.erase_sublist, orderedHigher⟩

/-- A new key enters the bucket of a frequency, which is stored if it was not. -/
theorem gains_enter {buckets : Buckets Key} {leastFrequency remembered uses : Nat} {key : Key}
    (sound : (frequency buckets leastFrequency).Sound)
    (fresh : key ∉ buckets.flatMap Prod.snd) (reached : remembered ≤ uses)
    (kept : remembered ≤ leastFrequency) :
    Gains key uses (frequency buckets leastFrequency)
      (frequency (buckets.enter uses key) remembered) := by
  obtain ⟨formed, least⟩ := sound.layered
  obtain ⟨lower, queue, higher, surround, rfl⟩ := formed.exists_around uses
  have absent : key ∉ queue := fun member => fresh (by simp [Buckets.flatMap_around, member])
  have pushed : Buckets.pushBack key queue = queue ++ [key] := by
    rw [Buckets.pushBack, List.erase_of_not_mem absent]
  rw [surround.enter, pushed]
  have gained : ((Buckets.around lower uses (queue ++ [key]) higher).flatMap Prod.snd).Perm
      (key :: (Buckets.around lower uses queue higher).flatMap Prod.snd) := by
    simp only [Buckets.flatMap_around, ← List.append_assoc]
    simp only [List.append_assoc _ [key], List.singleton_append]
    exact List.perm_middle
  refine ⟨⟨?_, surround.wellFormed _, ?_⟩, rfl, gained, ?_, ?_⟩
  · exact gained.nodup_iff.2 (List.nodup_cons.2 ⟨fresh, sound.distinct⟩)
  · intro bucket stored
    simp only [Buckets.around, List.mem_append, Buckets.mem_slot] at stored least
    rcases stored with (inLower | ⟨rfl, -⟩) | inHigher
    · exact Nat.le_trans kept (least bucket (.inl (.inl inLower)))
    · exact reached
    · exact Nat.le_trans kept (least bucket (.inr inHigher))
  · intro place other
    simp only [Files, Buckets.holds_around, List.mem_append, List.mem_singleton, policy,
      forall_const]
    tauto
  · intro earlier ordered behind
    obtain ⟨orderedLower, orderedQueue, orderedHigher⟩ := Buckets.pairwise_around.1 ordered
    refine Buckets.pairwise_around.2 ⟨orderedLower, ?_, orderedHigher⟩
    refine List.pairwise_append.2 ⟨orderedQueue, List.pairwise_singleton _ _, ?_⟩
    intro other member last isLast
    rw [List.mem_singleton.1 isLast]
    exact behind other (by simp [keys, Buckets.flatMap_around, member])

/-- A key leaves an order of one queue. -/
theorem drops_queue {make : List Key → EvictionOrder Key}
    (single : make = recency ∨ make = insertion) {queue : List Key} (distinct : queue.Nodup)
    (key : Key) : Drops key (make queue) (make (queue.erase key)) := by
  rcases single with rfl | rfl
  all_goals
    refine ⟨⟨distinct.erase key, trivial⟩, rfl, rfl, ?_, ?_⟩
    · intro uses other
      simp [Files, distinct.mem_erase_iff, and_comm]
    · intro earlier ordered
      exact ordered.sublist List.erase_sublist

omit [DecidableEq Key] in
/-- A new key enters an order of one queue. -/
theorem gains_queue {make : List Key → EvictionOrder Key}
    (single : make = recency ∨ make = insertion) {queue : List Key} (distinct : queue.Nodup)
    {key : Key} (fresh : key ∉ queue) (uses : Nat) :
    Gains key uses (make queue) (make (queue ++ [key])) := by
  have longer : (queue ++ [key]).Nodup :=
    distinct.append (List.nodup_singleton key) (by simpa using fresh)
  rcases single with rfl | rfl
  all_goals
    refine ⟨⟨longer, trivial⟩, rfl, List.perm_append_singleton key queue, ?_, ?_⟩
    · intro place other
      simp [Files, policy]
    · intro earlier ordered behind
      refine List.pairwise_append.2 ⟨ordered, List.pairwise_singleton _ _, ?_⟩
      simpa [EvictionOrder.keys] using behind

omit [DecidableEq Key] in
/-- The empty order is sound. -/
theorem sound_empty (policy : EvictionPolicy) : (empty policy : EvictionOrder Key).Sound := by
  cases policy with
  | lru => exact ⟨List.nodup_nil, trivial⟩
  | fifo => exact ⟨List.nodup_nil, trivial⟩
  | lfu => exact ⟨List.nodup_nil, Buckets.wellFormed_nil, by simp⟩

omit [DecidableEq Key] in
/-- Clearing an order leaves the empty order of its policy. -/
theorem clear_eq_empty (order : EvictionOrder Key) : order.clear = empty order.policy := by
  cases order <;> rfl

/-- A key that is inserted stands behind all unused keys. -/
theorem gains_insert {order : EvictionOrder Key} (sound : order.Sound) {key : Key}
    (fresh : key ∉ order.keys) : Gains key 0 order (order.insert key) := by
  cases order with
  | recency queue =>
    have absent : key ∉ queue := fresh
    rw [insert, Buckets.pushBack, List.erase_of_not_mem absent]
    exact gains_queue (.inl rfl) sound.distinct absent 0
  | insertion queue =>
    have absent : key ∉ queue := fresh
    rw [insert, Buckets.pushBack, List.erase_of_not_mem absent]
    exact gains_queue (.inr rfl) sound.distinct absent 0
  | frequency buckets leastFrequency =>
    exact gains_enter sound fresh (Nat.le_refl 0) (Nat.zero_le _)

/-- Removing a key drops it and changes nothing else. -/
theorem drops_remove {order : EvictionOrder Key} (sound : order.Sound) {key : Key} {uses : Nat}
    (filed : order.Files uses key) : Drops key order (order.remove key uses) := by
  cases order with
  | recency queue => exact drops_queue (.inl rfl) sound.distinct key
  | insertion queue => exact drops_queue (.inr rfl) sound.distinct key
  | frequency buckets leastFrequency =>
    obtain ⟨formed, least⟩ := sound.layered
    refine drops_leave sound filed fun bucket stored => ?_
    obtain ⟨⟨other, member, same⟩, -⟩ := formed.fst_of_mem_leave filed stored
    exact same ▸ least other member

/-- A use of a key leaves an insertion order as it is. -/
theorem access_of_fifo {order : EvictionOrder Key} (fifo : order.policy = .fifo) (key : Key)
    (uses : Nat) : order.access key uses = order := by
  cases order with
  | insertion queue => rfl
  | recency queue => cases fifo
  | frequency buckets leastFrequency => cases fifo

/-- Under the other policies a use takes the key out and puts it behind all keys of
as many uses. -/
theorem exists_access {order : EvictionOrder Key} (sound : order.Sound)
    (counted : order.policy ≠ .fifo) {key : Key} {uses : Nat} (filed : order.Files uses key) :
    ∃ middle, Drops key order middle ∧ Gains key (uses + 1) middle (order.access key uses) := by
  cases order with
  | insertion queue => exact absurd rfl counted
  | recency queue =>
    have member : key ∈ queue := filed
    refine ⟨recency (queue.erase key), drops_queue (.inl rfl) sound.distinct key, ?_⟩
    rw [access, Buckets.moveToBack, if_pos member]
    exact gains_queue (.inl rfl) (sound.distinct.erase key) sound.distinct.not_mem_erase _
  | frequency buckets leastFrequency =>
    obtain ⟨formed, least⟩ := sound.layered
    have reached : leastFrequency ≤ uses := by
      obtain ⟨queue, stored, -⟩ := filed
      exact least _ stored
    let remembered :=
      if (buckets.leave uses key).1 ∧ leastFrequency = uses then uses + 1 else leastFrequency
    -- The memory moves on only when the bucket it names was the last key's.
    have bound : ∀ bucket ∈ (buckets.leave uses key).2, remembered ≤ bucket.1 := by
      intro bucket stored
      obtain ⟨⟨other, member, same⟩, gone⟩ := formed.fst_of_mem_leave filed stored
      have atLeast : leastFrequency ≤ bucket.1 := same ▸ least other member
      by_cases moved : (buckets.leave uses key).1 ∧ leastFrequency = uses
      · have different := gone moved.1
        simp only [remembered, if_pos moved]
        omega
      · simpa only [remembered, if_neg moved] using atLeast
    have drops := drops_leave sound filed bound
    have fresh : key ∉ (frequency (buckets.leave uses key).2 remembered).keys := by
      rw [drops.keys]
      exact sound.distinct.not_mem_erase
    have reachedNext : remembered ≤ uses + 1 := by
      by_cases moved : (buckets.leave uses key).1 ∧ leastFrequency = uses
      · simp only [remembered, if_pos moved, Nat.le_refl]
      · simp only [remembered, if_neg moved]
        omega
    exact ⟨_, drops, gains_enter drops.sound fresh reachedNext (Nat.le_refl _)⟩

omit [DecidableEq Key] in
/-- An order without keys has nothing to give up and stays as it is. -/
theorem victim_of_empty {order : EvictionOrder Key} (sound : order.Sound)
    (empty : order.keys = []) : order.victim = (none, order) := by
  cases order with
  | recency queue =>
    have same : queue = [] := empty
    rw [same]
    rfl
  | insertion queue =>
    have same : queue = [] := empty
    rw [same]
    rfl
  | frequency buckets leastFrequency =>
    obtain ⟨formed, -⟩ := sound.layered
    cases buckets with
    | nil => rfl
    | cons bucket others =>
      have nonempty := formed.inhabited bucket List.mem_cons_self
      exact absurd (List.flatMap_eq_nil_iff.1 empty bucket List.mem_cons_self) nonempty

omit [DecidableEq Key] in
/-- Without frequencies a key is filed as soon as it is there. -/
theorem files_of_mem {order : EvictionOrder Key} (unfiled : order.policy ≠ .lfu) {key : Key}
    (member : key ∈ order.keys) (uses : Nat) : order.Files uses key := by
  cases order with
  | recency queue => exact member
  | insertion queue => exact member
  | frequency buckets leastFrequency => exact absurd rfl unfiled

/-- Popping the queue of the first bucket lets its first key leave. -/
theorem popBucket_first (lowest : Nat) (key : Key) (behind : List Key) (others : Buckets Key) :
    popBucket ((lowest, key :: behind) :: others) lowest =
      (some key,
        frequency (Buckets.leave lowest key ((lowest, key :: behind) :: others)).2 lowest) := by
  simp [popBucket, Buckets.leave]

omit [DecidableEq Key] in
/-- Whether or not the memory is stale, a victim is taken from the first bucket. -/
theorem victim_frequency {lowest leastFrequency : Nat} {queue : List Key} {others : Buckets Key}
    (sound : (frequency ((lowest, queue) :: others) leastFrequency).Sound) :
    (frequency ((lowest, queue) :: others) leastFrequency).victim =
      popBucket ((lowest, queue) :: others) lowest := by
  obtain ⟨formed, least⟩ := sound.layered
  by_cases stored : (List.lookup leastFrequency ((lowest, queue) :: others)).isSome
  · have notAbove : leastFrequency ≤ lowest := least _ List.mem_cons_self
    have notBelow : lowest ≤ leastFrequency := by
      obtain ⟨bucket, member, same⟩ := List.lookup_isSome_iff.1 stored
      rw [eq_of_beq same]
      rcases List.mem_cons.1 member with rfl | later
      · exact Nat.le_refl _
      · exact Nat.le_of_lt (List.rel_of_pairwise_cons formed.ascending later)
    rw [victim, if_pos stored, Nat.le_antisymm notAbove notBelow]
  · rw [victim, if_neg stored]

/-- The key given up is the first one, and giving it up drops it. -/
theorem drops_victim {order : EvictionOrder Key} (sound : order.Sound) {key : Key}
    {rest : List Key} (ahead : order.keys = key :: rest) :
    order.victim.1 = some key ∧ Drops key order order.victim.2 := by
  have distinct : (key :: rest).Nodup := ahead ▸ sound.distinct
  cases order with
  | recency queue =>
    have same : queue = key :: rest := ahead
    subst same
    have drops := drops_queue (.inl rfl) distinct key
    rw [List.erase_cons_head] at drops
    exact ⟨rfl, drops⟩
  | insertion queue =>
    have same : queue = key :: rest := ahead
    subst same
    have drops := drops_queue (.inr rfl) distinct key
    rw [List.erase_cons_head] at drops
    exact ⟨rfl, drops⟩
  | frequency buckets leastFrequency =>
    obtain ⟨formed, least⟩ := sound.layered
    cases buckets with
    | nil => simp [keys] at ahead
    | cons bucket others =>
      obtain ⟨lowest, queue⟩ := bucket
      have nonempty : queue ≠ [] := formed.inhabited _ List.mem_cons_self
      obtain ⟨first, behind, rfl⟩ := List.exists_cons_of_ne_nil nonempty
      have same : first = key := by
        simp only [keys, List.flatMap_cons, List.cons_append, List.cons.injEq] at ahead
        exact ahead.1
      subst same
      have held : Buckets.Holds ((lowest, first :: behind) :: others) lowest first :=
        ⟨_, List.mem_cons_self, List.mem_cons_self⟩
      rw [victim_frequency sound, popBucket_first]
      refine ⟨rfl, drops_leave sound held fun bucket stored => ?_⟩
      obtain ⟨⟨other, member, equal⟩, -⟩ := formed.fst_of_mem_leave held stored
      rcases List.mem_cons.1 member with rfl | later
      · exact Nat.le_of_eq equal
      · exact equal ▸ Nat.le_of_lt (List.rel_of_pairwise_cons formed.ascending later)

omit [DecidableEq Key] in
/-- The keys stand in the order in which they are given up. -/
theorem keys_pairwise {order : EvictionOrder Key} (sound : order.Sound)
    {earlier : Key → Key → Prop} (queued : order.Queued earlier) :
    order.keys.Pairwise (order.Ahead earlier) := by
  cases order with
  | recency queue => exact queued
  | insertion queue => exact queued
  | frequency buckets leastFrequency =>
    obtain ⟨formed, -⟩ := sound.layered
    refine List.pairwise_flatMap.2 ⟨fun bucket stored => ?_, ?_⟩
    · refine (queued bucket stored).imp_of_mem fun inFirst inSecond before => ?_
      exact ⟨bucket.1, bucket.1, ⟨_, stored, inFirst⟩, ⟨_, stored, inSecond⟩, .inr ⟨rfl, before⟩⟩
    · refine formed.ascending.imp_of_mem fun storedFirst storedSecond less => ?_
      intro first inFirst second inSecond
      exact ⟨_, _, ⟨_, storedFirst, inFirst⟩, ⟨_, storedSecond, inSecond⟩, .inl less⟩

end EvictionOrder

end QueryKit
