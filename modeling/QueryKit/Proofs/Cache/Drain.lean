import Mathlib.Algebra.GroupWithZero.Nat
import Mathlib.Data.List.Sort
import Mathlib.Logic.Function.Iterate
import Mathlib.Logic.Relation
import QueryKit.Proofs.Cache.Order

/-!
# Emptying an eviction order

An order lists its keys and gives them up by two separate computations. The list takes
the buckets by ascending frequency. A victim comes from the bucket that the memory names,
and the least frequency is searched for only when that bucket is gone. `victim_law` joins
the two for sound orders: a victim is the first key of the list, and what remains is
sound and lists the other keys. What is said about draining follows by induction on the
list. Soundness is kept by every operation that is told how often its key was used;
`TrackedOrder.Step` has these operations, and `Faithful` carries soundness through a run.
-/

namespace QueryKit

variable {Key : Type}

namespace Buckets

/-! ### Buckets in a table without order -/

/-- The keys of buckets that are listed in any order: the frequencies are sorted, and the
queue of each is looked up. -/
def sortedKeys (listed : Buckets Key) : List Key :=
  ((listed.map Prod.fst).mergeSort.filterMap fun frequency => listed.lookup frequency).flatten

/-- The next key to give up among buckets that are listed in any order: the first one of
the remembered frequency or, where nothing is stored for it, of the least frequency. -/
def nextKey? (remembered : Nat) (listed : Buckets Key) : Option Key :=
  let frequency :=
    if (listed.lookup remembered).isSome then some remembered else (listed.map Prod.fst).min?
  (frequency.bind fun stored => listed.lookup stored).bind List.head?

variable {listed buckets : Buckets Key}

/-- No two well-formed buckets are of one frequency. -/
theorem WellFormed.nodup_frequencies (formed : buckets.WellFormed) :
    (buckets.map Prod.fst).Nodup :=
  List.pairwise_map.2 (formed.ascending.imp Nat.ne_of_lt)

/-- Where no two buckets are of one frequency, a lookup finds whatever is stored. -/
theorem lookup_eq_some_iff_mem (distinct : (buckets.map Prod.fst).Nodup) {frequency : Nat}
    {queue : List Key} :
    buckets.lookup frequency = some queue ↔ (frequency, queue) ∈ buckets := by
  rw [List.lookup_eq_some_iff]
  constructor
  · rintro ⟨before, behind, rfl, -⟩
    simp
  · intro stored
    obtain ⟨before, behind, rfl⟩ := List.append_of_mem stored
    refine ⟨before, behind, rfl, fun bucket member => bne_iff_ne.2 fun same => ?_⟩
    rw [List.map_append, List.map_cons] at distinct
    refine List.disjoint_of_nodup_append distinct (List.mem_map_of_mem member) ?_
    exact same ▸ List.mem_cons_self

/-- What a lookup finds does not depend on how the buckets are listed. -/
theorem lookup_eq_of_perm (same : listed.Perm buckets)
    (distinct : (buckets.map Prod.fst).Nodup) (frequency : Nat) :
    listed.lookup frequency = buckets.lookup frequency := by
  have distinctListed := (same.map Prod.fst).nodup_iff.2 distinct
  refine Option.ext fun queue => ?_
  rw [lookup_eq_some_iff_mem distinctListed, lookup_eq_some_iff_mem distinct, same.mem_iff]

/-- Sorting finds the ascending order of well-formed buckets again. -/
theorem WellFormed.mergeSort_frequencies (formed : buckets.WellFormed)
    (same : listed.Perm buckets) :
    (listed.map Prod.fst).mergeSort = buckets.map Prod.fst := by
  have ascending : (buckets.map Prod.fst).Pairwise (· ≤ ·) :=
    List.pairwise_map.2 (formed.ascending.imp Nat.le_of_lt)
  have reordered : (listed.map Prod.fst).mergeSort.Perm (buckets.map Prod.fst) :=
    (List.mergeSort_perm _ _).trans (same.map Prod.fst)
  exact reordered.eq_of_pairwise' (List.pairwise_mergeSort' (· ≤ ·) _) ascending

/-- However well-formed buckets are listed, sorting finds the same keys. -/
theorem WellFormed.sortedKeys_eq (formed : buckets.WellFormed) (same : listed.Perm buckets) :
    listed.sortedKeys = buckets.flatMap Prod.snd := by
  have found : ∀ bucket ∈ buckets, listed.lookup bucket.1 = some bucket.2 := by
    intro bucket stored
    rw [lookup_eq_of_perm same formed.nodup_frequencies]
    exact (lookup_eq_some_iff_mem formed.nodup_frequencies).2 stored
  have queues : (buckets.map Prod.fst).filterMap (fun frequency => listed.lookup frequency) =
      buckets.map Prod.snd := by
    rw [List.filterMap_map, ← List.filterMap_eq_map]
    exact List.filterMap_congr found
  rw [sortedKeys, formed.mergeSort_frequencies same, queues, List.flatMap_def]

/-- The least frequency of well-formed buckets, however these are listed, is the first one. -/
theorem WellFormed.min?_frequencies (formed : buckets.WellFormed) (same : listed.Perm buckets) :
    (listed.map Prod.fst).min? = buckets.head?.map Prod.fst := by
  cases buckets with
  | nil =>
    rw [List.perm_nil.1 same]
    rfl
  | cons bucket others =>
    refine List.min?_eq_some_iff.2 ⟨?_, fun frequency listedThere => ?_⟩
    · exact (same.map Prod.fst).mem_iff.2 List.mem_cons_self
    · obtain ⟨other, stored, rfl⟩ := List.mem_map.1 ((same.map Prod.fst).mem_iff.1 listedThere)
      rcases List.mem_cons.1 stored with rfl | later
      · exact Nat.le_refl _
      · exact Nat.le_of_lt (List.rel_of_pairwise_cons formed.ascending later)

/-- Replacing a queue that is stored puts the keys of the new one in place of its own. -/
theorem length_replace {frequency : Nat} {queue : List Key}
    (stored : buckets.lookup frequency = some queue) (remaining : List Key) :
    ((buckets.replace frequency remaining).flatMap Prod.snd).length + queue.length =
      (buckets.flatMap Prod.snd).length + remaining.length := by
  induction buckets with
  | nil => cases stored
  | cons bucket others ih =>
    obtain ⟨least, first⟩ := bucket
    by_cases here : frequency = least
    · rw [List.lookup_cons, here, beq_self_eq_true, Option.some.injEq] at stored
      subst stored
      rw [replace, if_pos here]
      cases remaining <;> simp <;> omega
    · rw [List.lookup_cons, beq_false_of_ne here] at stored
      have rest := ih stored
      rw [replace, if_neg here, List.flatMap_cons, List.flatMap_cons, List.length_append,
        List.length_append]
      omega

end Buckets

namespace EvictionOrder

/-! ### Giving up keys one after the other -/

/-- The key popped from a queue is its first one, if it is stored. -/
theorem popBucket_fst (buckets : Buckets Key) (frequency : Nat) :
    (popBucket buckets frequency).1 = (buckets.lookup frequency).bind List.head? := by
  rw [popBucket]
  split
  · next stored => rw [stored]; rfl
  · next stored => rw [stored]; rfl
  · next absent => rw [absent]; rfl

/-- However well-formed buckets are listed, searching them finds the victim. -/
theorem victim_eq_nextKey? {listed buckets : Buckets Key} (formed : buckets.WellFormed)
    (same : listed.Perm buckets) (remembered : Nat) :
    (frequency buckets remembered).victim.1 = listed.nextKey? remembered := by
  have lookups := Buckets.lookup_eq_of_perm same formed.nodup_frequencies
  simp only [Buckets.nextKey?, lookups, formed.min?_frequencies same]
  cases buckets with
  | nil => rfl
  | cons bucket others =>
    by_cases stored : (List.lookup remembered (bucket :: others)).isSome
    · rw [victim, if_pos stored, if_pos stored, popBucket_fst, Option.bind_some]
    · rw [victim, if_neg stored, if_neg stored, popBucket_fst]
      rfl

/-- Every order, sound or not, is shorter when it has given up a key. -/
theorem size_lt_of_victim {order remaining : EvictionOrder Key} {key : Key}
    (chosen : order.victim = (some key, remaining)) : remaining.size < order.size := by
  cases order with
  | recency queue | insertion queue =>
    cases queue with
    | nil => cases chosen
    | cons first rest =>
      cases chosen
      exact Nat.lt_succ_self _
  | frequency buckets remembered =>
    obtain ⟨place, popped⟩ : ∃ place, popBucket buckets place = (some key, remaining) := by
      cases buckets with
      | nil => cases chosen
      | cons bucket others =>
        rw [victim] at chosen
        split at chosen
        · exact ⟨_, chosen⟩
        · exact ⟨_, chosen⟩
    rw [popBucket] at popped
    split at popped
    · next first rest stored =>
      cases popped
      have lengths := Buckets.length_replace stored rest
      simp only [size, keys, List.length_cons] at lengths ⊢
      omega
    · cases popped
    · cases popped

/-- The keys that are given up, one after the other, until there is none to give up. -/
def drain (order : EvictionOrder Key) : List Key :=
  match _ : order.victim with
  | (none, _) => []
  | (some key, remaining) => key :: remaining.drain
termination_by order.size
decreasing_by exact size_lt_of_victim ‹_›

/-- The order after a number of calls for a victim, whatever these answer. -/
def afterVictims (order : EvictionOrder Key) (calls : Nat) : EvictionOrder Key :=
  (fun later => later.victim.2)^[calls] order

/-- An order that has no key to give up is drained. -/
theorem drain_of_none {order : EvictionOrder Key} (nothing : order.victim.1 = none) :
    order.drain = [] := by
  rw [drain]
  split
  · rfl
  · next chosen => rw [chosen] at nothing; cases nothing

/-- The drain gives up the victim first, and then what the order without it gives up. -/
theorem drain_of_some {order : EvictionOrder Key} {key : Key} (first : order.victim.1 = some key) :
    order.drain = key :: order.victim.2.drain := by
  rw [drain]
  split
  · next chosen => rw [chosen] at first; cases first
  · next chosen =>
    rw [chosen] at first ⊢
    cases first
    rfl

variable [DecidableEq Key]

/-- What a sound order gives up is the first of its keys, and the others remain. -/
theorem victim_law {order : EvictionOrder Key} (sound : order.Sound) :
    order.victim.1 = order.keys.head? ∧ order.victim.2.Sound ∧
      order.victim.2.keys = order.keys.tail := by
  cases listed : order.keys with
  | nil =>
    rw [victim_of_empty sound listed]
    exact ⟨rfl, sound, listed⟩
  | cons key rest =>
    obtain ⟨first, drops⟩ := drops_victim sound listed
    refine ⟨first, drops.sound, ?_⟩
    rw [drops.keys, listed, List.erase_cons_head, List.tail_cons]

/-- A key that is given up is dropped. -/
theorem drops_of_victim {order remaining : EvictionOrder Key} (sound : order.Sound) {key : Key}
    (chosen : order.victim = (some key, remaining)) : Drops key order remaining := by
  have first := (victim_law sound).1
  rw [chosen, eq_comm, List.head?_eq_some_iff] at first
  obtain ⟨rest, listed⟩ := first
  have drops := (drops_victim sound listed).2
  rwa [chosen] at drops

/-- An order that gives up nothing stays as it is. -/
theorem eq_of_victim_none {order remaining : EvictionOrder Key} (sound : order.Sound)
    (nothing : order.victim = (none, remaining)) : remaining = order := by
  have first := (victim_law sound).1
  rw [nothing, eq_comm, List.head?_eq_none_iff] at first
  rw [victim_of_empty sound first, Prod.mk.injEq] at nothing
  exact nothing.2.symm

/-- A sound order is drained in the order in which it lists its keys. -/
theorem drain_eq_keys {order : EvictionOrder Key} (sound : order.Sound) :
    order.drain = order.keys := by
  obtain ⟨keys, listed⟩ : ∃ keys, order.keys = keys := ⟨_, rfl⟩
  induction keys generalizing order with
  | nil =>
    rw [listed]
    exact drain_of_none (by rw [victim_of_empty sound listed])
  | cons key rest ih =>
    obtain ⟨first, soundRest, keysRest⟩ := victim_law sound
    rw [listed, List.head?_cons] at first
    rw [listed, List.tail_cons] at keysRest
    rw [drain_of_some first, ih soundRest keysRest, keysRest, listed]

/-- Each call for a victim is answered by the key that stands in its place in the list. -/
theorem victim_afterVictims {order : EvictionOrder Key} (sound : order.Sound) (calls : Nat) :
    (order.afterVictims calls).victim.1 = order.keys[calls]? := by
  induction calls generalizing order with
  | zero =>
    have first := (victim_law sound).1
    rwa [List.head?_eq_getElem?] at first
  | succ calls ih =>
    obtain ⟨-, soundRest, keysRest⟩ := victim_law sound
    have later : order.afterVictims (calls + 1) = order.victim.2.afterVictims calls :=
      Function.iterate_succ_apply _ calls order
    rw [later, ih soundRest, keysRest, List.getElem?_tail]

end EvictionOrder

/-- An order, and for each key that it tracks how often that was used since it came in. -/
structure TrackedOrder (Key : Type) where
  order : EvictionOrder Key
  uses : Key → Option Nat

namespace TrackedOrder

variable [DecidableEq Key]

/-- One operation on an order. A key that comes in is not tracked yet; a key that is used
or removed is tracked, and the order is told how often it was used before. -/
inductive Step : TrackedOrder Key → TrackedOrder Key → Prop where
  | insert {before} (key : Key) (untracked : before.uses key = none) :
      Step before ⟨before.order.insert key, Function.update before.uses key (some 0)⟩
  | access {before} (key : Key) (count : Nat) (tracked : before.uses key = some count) :
      Step before
        ⟨before.order.access key count, Function.update before.uses key (some (count + 1))⟩
  | remove {before} (key : Key) (count : Nat) (tracked : before.uses key = some count) :
      Step before ⟨before.order.remove key count, Function.update before.uses key none⟩
  | giveUp {before key remaining} (chosen : before.order.victim = (some key, remaining)) :
      Step before ⟨remaining, Function.update before.uses key none⟩
  | spent {before remaining} (nothing : before.order.victim = (none, remaining)) :
      Step before ⟨remaining, before.uses⟩
  | clear {before} : Step before ⟨before.order.clear, fun _ => none⟩

/-- The empty order of a policy. -/
def start (policy : EvictionPolicy) : TrackedOrder Key := ⟨.empty policy, fun _ => none⟩

/-- A sequence of operations leads from the empty order of a policy to this one. -/
def Reached (policy : EvictionPolicy) : TrackedOrder Key → Prop :=
  Relation.ReflTransGen Step (start policy)

/-- The order is sound and tracks each key where its number of uses belongs. -/
structure Faithful (tracked : TrackedOrder Key) : Prop where
  sound : tracked.order.Sound
  filed : ∀ key count, tracked.uses key = some count → tracked.order.Files count key
  known : ∀ key ∈ tracked.order.keys, (tracked.uses key).isSome

omit [DecidableEq Key] in
/-- An empty order is faithful: no key is in use. -/
theorem faithful_start (policy : EvictionPolicy) :
    (start policy : TrackedOrder Key).Faithful where
  sound := EvictionOrder.sound_empty policy
  filed := fun key count used => by cases used
  known := fun key member => by cases policy <;> cases member

namespace Faithful

variable {tracked : TrackedOrder Key} {key : Key} {after : EvictionOrder Key}

omit [DecidableEq Key] in
/-- The tracked keys are those with a number of uses. -/
theorem mem_keys_iff (faithful : tracked.Faithful) :
    key ∈ tracked.order.keys ↔ (tracked.uses key).isSome := by
  refine ⟨faithful.known key, fun known => ?_⟩
  obtain ⟨count, used⟩ := Option.isSome_iff_exists.1 known
  exact (faithful.filed key count used).mem_keys

/-- A key that is dropped is not tracked any more. -/
theorem drop (faithful : tracked.Faithful)
    (drops : EvictionOrder.Drops key tracked.order after) :
    Faithful ⟨after, Function.update tracked.uses key none⟩ where
  sound := drops.sound
  filed := by
    intro other count used
    by_cases same : other = key
    · simp [same] at used
    · simp only [Function.update_of_ne same] at used
      exact (drops.files _ _).2 ⟨faithful.filed _ _ used, same⟩
  known := by
    intro other member
    rw [drops.keys, faithful.sound.distinct.mem_erase_iff] at member
    simp only [Function.update_of_ne member.1]
    exact faithful.known other member.2

/-- A count may be set where its key is filed under it and no other key moved. -/
theorem refile (faithful : tracked.Faithful) {count : Nat} (sound : after.Sound)
    (own : after.Files count key)
    (others : ∀ uses other, tracked.order.Files uses other → after.Files uses other)
    (listed : ∀ other ∈ after.keys, other = key ∨ other ∈ tracked.order.keys) :
    Faithful ⟨after, Function.update tracked.uses key (some count)⟩ where
  sound := sound
  filed := by
    intro other uses used
    by_cases same : other = key
    · subst same
      simp only [Function.update_self, Option.some.injEq] at used
      exact used ▸ own
    · simp only [Function.update_of_ne same] at used
      exact others _ _ (faithful.filed _ _ used)
  known := by
    intro other member
    by_cases same : other = key
    · simp [same]
    · simp only [Function.update_of_ne same]
      exact faithful.known other ((listed other member).resolve_left same)

/-- A key that is gained is tracked with the uses that it is filed under. -/
theorem gain (faithful : tracked.Faithful) {count : Nat}
    (gains : EvictionOrder.Gains key count tracked.order after) :
    Faithful ⟨after, Function.update tracked.uses key (some count)⟩ := by
  refine faithful.refile gains.sound ?_ (fun uses other filed => ?_) fun other member => ?_
  · exact (gains.files _ _).2 (.inr ⟨rfl, fun _ => rfl⟩)
  · exact (gains.files _ _).2 (.inl filed)
  · exact List.mem_cons.1 (gains.keys.mem_iff.1 member)

/-- Every operation leaves a faithful order. -/
theorem step {before after : TrackedOrder Key} (faithful : before.Faithful)
    (step : Step before after) : after.Faithful := by
  cases step with
  | insert key untracked =>
    refine faithful.gain (EvictionOrder.gains_insert faithful.sound fun member => ?_)
    simpa [untracked] using faithful.known _ member
  | access key count tracked =>
    have filed := faithful.filed _ _ tracked
    by_cases fifo : before.order.policy = .fifo
    · -- The order is as before and only the count goes on.
      rw [EvictionOrder.access_of_fifo fifo]
      have unmoved := EvictionOrder.files_of_mem (by simp [fifo]) filed.mem_keys (count + 1)
      exact faithful.refile faithful.sound unmoved (fun _ _ => id) fun _ => .inr
    · obtain ⟨middle, drops, gains⟩ := EvictionOrder.exists_access faithful.sound fifo filed
      have restored := (faithful.drop drops).gain gains
      rwa [Function.update_idem] at restored
  | remove key count tracked =>
    exact faithful.drop (EvictionOrder.drops_remove faithful.sound (faithful.filed _ _ tracked))
  | giveUp chosen => exact faithful.drop (EvictionOrder.drops_of_victim faithful.sound chosen)
  | spent nothing => rwa [EvictionOrder.eq_of_victim_none faithful.sound nothing]
  | clear =>
    rw [EvictionOrder.clear_eq_empty]
    exact faithful_start _

/-- Every order that operations lead to is faithful. -/
theorem of_reached {policy : EvictionPolicy} (reached : Reached policy tracked) :
    tracked.Faithful := by
  induction reached with
  | refl => exact faithful_start policy
  | tail _ transition ih => exact ih.step transition

end Faithful

/-- Whatever operations led to an order, draining it gives up its keys as it lists them,
each tracked key once, and a call for a victim fails exactly after as many calls as there
are keys. A frequency order shows the same list, the same next victim and the same size
however its buckets are enumerated. -/
theorem drain_lists_tracked_once {policy : EvictionPolicy} {tracked : TrackedOrder Key}
    (reached : Reached policy tracked) :
    tracked.order.drain = tracked.order.keys ∧
    tracked.order.drain.Nodup ∧
    (∀ key, key ∈ tracked.order.drain ↔ (tracked.uses key).isSome) ∧
    (∀ calls, (tracked.order.afterVictims calls).victim.1 = none ↔
      tracked.order.size ≤ calls) ∧
    ∀ buckets remembered, tracked.order = .frequency buckets remembered →
      ∀ listed : Buckets Key, listed.Perm buckets →
        listed.sortedKeys = tracked.order.keys ∧
        listed.nextKey? remembered = tracked.order.victim.1 ∧
        (listed.map fun bucket => bucket.2.length).sum = tracked.order.size := by
  have faithful := Faithful.of_reached reached
  have drained := EvictionOrder.drain_eq_keys faithful.sound
  rw [drained]
  refine ⟨rfl, faithful.sound.distinct, fun key => faithful.mem_keys_iff, fun calls => ?_, ?_⟩
  · rw [EvictionOrder.victim_afterVictims faithful.sound, List.getElem?_eq_none_iff]
    rfl
  · intro buckets remembered shape listed same
    have sound := faithful.sound
    rw [shape] at sound ⊢
    have formed := sound.layered.1
    refine ⟨formed.sortedKeys_eq same,
      (EvictionOrder.victim_eq_nextKey? formed same remembered).symm, ?_⟩
    rw [(same.map _).sum_nat, EvictionOrder.size, EvictionOrder.keys, List.length_flatMap]

/-- Removing the only unused key leaves the memory at a bucket that is gone. -/
theorem drain_lists_tracked_once_of_stale_memory :
    ∃ uses : Nat → Option Nat,
      Reached .lfu ⟨.frequency [(1, [2]), (2, [3])] 0, uses⟩ ∧
      (EvictionOrder.frequency [(1, [2]), (2, [3])] 0).drain = [2, 3] := by
  have inserted : Reached .lfu (⟨.frequency [(0, [1, 2, 3])] 0, _⟩ : TrackedOrder Nat) :=
    ((Relation.ReflTransGen.refl.tail (.insert 1 rfl)).tail (.insert 2 rfl)).tail (.insert 3 rfl)
  have used : Reached .lfu (⟨.frequency [(0, [1]), (1, [2]), (2, [3])] 0, _⟩ : TrackedOrder Nat) :=
    ((inserted.tail (.access 2 0 rfl)).tail (.access 3 0 rfl)).tail (.access 3 1 rfl)
  have stale : Reached .lfu (⟨.frequency [(1, [2]), (2, [3])] 0, _⟩ : TrackedOrder Nat) :=
    used.tail (.remove 1 0 rfl)
  exact ⟨_, stale, (drain_lists_tracked_once stale).1⟩

end TrackedOrder

end QueryKit
