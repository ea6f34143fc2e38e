import Mathlib.Algebra.GroupWithZero.Nat
import QueryKit.Proofs.Statement.History

/-!
# Requests and statements are accounted for

A statement leaves a cache when it is given up to make room, when it is found stale and
replaced, when it is removed or cleaned up, or when the cache is cleared, and only the first
of these is counted. Which statements left in a step is read off the cache around it, by
`StatementStep.departed`, and not off the operation that the step carries out. `Accounts` is
what every step keeps: a request adds one use, a departure takes all uses of a statement with
it, and a miss adds one statement. Which requests miss depends on the clock, but the balance
does not.
-/

namespace QueryKit

/-! ### What a step takes out of a cache -/

namespace StatementStep

/-- Whether a statement that was there before the step left in it: its text has no statement
any more, or was asked for in vain, so that it has a new one. -/
def departs (step : StatementStep) (statement : CachedStatement) : Bool :=
  (step.after.cache.peek statement.sql).isNone || step.isMiss statement.sql

/-- The statements that left in a step, as they were just before. -/
def departed (step : StatementStep) : List CachedStatement :=
  step.before.cache.statements.filter step.departs

/-- Whether the step gives up a statement to make room. -/
def evicts (step : StatementStep) : Bool :=
  match step.reply with
  | .answer (.acquired acquired) _ => acquired.evicted.isSome
  | _ => false

/-- Whether the step asks for a text that has a statement, but no valid one. -/
def replaces (step : StatementStep) : Bool :=
  match step.asked? with
  | some sql =>
    (step.before.cache.peek sql).isSome && !step.before.cache.contains sql step.time
  | none => false

/-- Whether the step is a removal that found its text. -/
def removes (step : StatementStep) : Bool :=
  match step.request, step.reply with
  | .command (.remove _), .answer (.flag true) _ => true
  | _, _ => false

/-- The number of statements that a cleanup reports. -/
def cleaned (step : StatementStep) : Nat :=
  match step.request, step.reply with
  | .command .cleanup, .answer (.count count) _ => count
  | _, _ => 0

/-- The number of statements that the step drops by clearing the cache. -/
def cleared (step : StatementStep) : Nat :=
  match step.request with
  | .command .clear => step.before.cache.size
  | _ => 0

variable {step : StatementStep}

/-- Statements that are told apart into those gone and those kept. -/
theorem departed_perm {gone kept : List CachedStatement}
    (split : step.before.cache.statements.Perm (gone ++ kept))
    (left : ∀ statement ∈ gone, step.departs statement = true)
    (stayed : ∀ statement ∈ kept, step.departs statement = false) :
    step.departed.Perm gone := by
  have chosen := split.filter step.departs
  have keptNone : kept.filter step.departs = [] :=
    List.filter_eq_nil_iff.2 fun statement member => by simp [stayed statement member]
  rwa [List.filter_append, List.filter_eq_self.2 left, keptNone, List.append_nil] at chosen

/-- A statement stays where its text has a statement afterwards and no miss is counted on it. -/
theorem departs_eq_false {statement : CachedStatement}
    (found : ∃ other ∈ step.after.cache.statements, other.sql = statement.sql)
    (spared : step.asked? ≠ some statement.sql ∨
      step.after.cache.misses = step.before.cache.misses) :
    step.departs statement = false := by
  obtain ⟨other, member, same⟩ := found
  have present : step.after.cache.peek statement.sql ≠ none := fun absent =>
    StatementCache.peek_eq_none_iff.1 absent other member same
  have noMiss : step.isMiss statement.sql = false := by
    rcases spared with unasked | uncounted
    · simp [isMiss, unasked]
    · simp [isMiss, uncounted]
  rw [departs, noMiss, Bool.or_false]
  exact Option.isNone_eq_false_iff.2 (Option.isSome_iff_ne_none.2 present)

end StatementStep

/-! ### The balance of a cache -/

namespace StatementCache

/-- The uses of all cached statements. -/
def uses (cache : StatementCache) : Nat := (cache.statements.map CachedStatement.useCount).sum

/-- A cache after some more requests, with the statements that left it since and the number
of those that were given up to make room. -/
structure Accounts (before : StatementCache) (requested evicted : Nat)
    (departed : List CachedStatement) (after : StatementCache) : Prop where
  requests : after.hits + after.misses = before.hits + before.misses + requested
  uses : before.uses + requested = after.uses + (departed.map CachedStatement.useCount).sum
  statements : before.size + after.misses = after.size + before.misses + departed.length
  evictions : after.evictions = before.evictions + evicted

variable {cache middle after : StatementCache} {sql : String} {now : Instant}

/-- Accounts add up. -/
theorem Accounts.trans {requested evicted moreRequested moreEvicted : Nat}
    {departed moreDeparted : List CachedStatement}
    (first : cache.Accounts requested evicted departed middle)
    (second : middle.Accounts moreRequested moreEvicted moreDeparted after) :
    cache.Accounts (requested + moreRequested) (evicted + moreEvicted) (departed ++ moreDeparted)
      after where
  requests := by rw [second.requests, first.requests, Nat.add_assoc]
  uses := by
    have earlier := first.uses
    have later := second.uses
    rw [List.map_append, List.sum_append]
    omega
  statements := by
    have earlier := first.statements
    have later := second.statements
    rw [List.length_append]
    omega
  evictions := by rw [second.evictions, first.evictions, Nat.add_assoc]

/-- Only the departed statements matter, not their order. -/
theorem Accounts.perm {requested evicted : Nat} {departed others : List CachedStatement}
    (accounts : cache.Accounts requested evicted others after) (same : departed.Perm others) :
    cache.Accounts requested evicted departed after where
  requests := accounts.requests
  uses := by rw [(same.map _).sum_nat]; exact accounts.uses
  statements := by rw [same.length_eq]; exact accounts.statements
  evictions := accounts.evictions

/-- Where texts are distinct, a statement that is found is the only one of its text. -/
theorem WellFormed.perm_without (formed : cache.WellFormed) {statement : CachedStatement}
    (found : cache.peek sql = some statement) :
    cache.statements.Perm (statement :: without sql cache.statements) := by
  obtain ⟨member, rfl⟩ := mem_of_peek found
  have distinct : cache.statements.Nodup := .of_map _ formed.distinct
  refine (List.perm_ext_iff_of_nodup distinct ?_).2 fun other => ?_
  · exact List.nodup_cons.2 ⟨by simp, distinct.filter _⟩
  · rw [List.mem_cons, mem_without]
    constructor
    · intro otherMember
      by_cases same : other.sql = statement.sql
      · exact .inl (List.inj_on_of_nodup_map formed.distinct otherMember member same)
      · exact .inr ⟨otherMember, same⟩
    · rintro (rfl | ⟨otherMember, -⟩)
      · exact member
      · exact otherMember

/-- Where texts are distinct, at most one statement has a text. -/
theorem WellFormed.length_of_text (formed : cache.WellFormed) (sql : String) :
    (cache.statements.filter fun statement => !decide (statement.sql ≠ sql)).length =
      (cache.peek sql).isSome.toNat := by
  cases found : cache.peek sql with
  | none =>
    have otherText := peek_eq_none_iff.1 found
    rw [List.filter_eq_nil_iff.2 fun statement member => by simp [otherText statement member]]
    rfl
  | some statement =>
    have one := (formed.perm_without found).length_eq
    have split := List.length_eq_length_filter_add (l := cache.statements)
      fun statement => statement.sql ≠ sql
    rw [← without] at split
    rw [List.length_cons] at one
    rw [Option.isSome_some, Bool.toNat_true]
    omega

/-- One more use of a statement is the use of a request that hits. -/
theorem WellFormed.accounts_hit (formed : cache.WellFormed) {statement : CachedStatement}
    (found : cache.peek sql = some statement) :
    cache.Accounts 1 0 []
      { cache with
        statements := without sql cache.statements ++ [statement.use now]
        hits := cache.hits + 1 } where
  requests := by
    show cache.hits + 1 + cache.misses = _
    omega
  uses := by
    have split := ((formed.perm_without found).map CachedStatement.useCount).sum_nat
    rw [List.map_cons, List.sum_cons] at split
    rw [uses, uses, split, List.map_append, List.sum_append]
    show statement.useCount + _ + 1 = _ + (statement.useCount + 1 + 0) + 0
    omega
  statements := by
    have split := (formed.perm_without found).length_eq
    rw [List.length_cons] at split
    rw [size, size, split, List.length_append]
    show _ + 1 + cache.misses = _ + 1 + cache.misses + 0
    omega
  evictions := rfl

/-- Uses and statements of a table in two parts add up. -/
theorem uses_and_size_of_split {gone kept : List CachedStatement}
    (split : cache.statements.Perm (gone ++ kept)) :
    cache.uses = (gone.map CachedStatement.useCount).sum + (kept.map CachedStatement.useCount).sum ∧
      cache.size = gone.length + kept.length := by
  have uses := (split.map CachedStatement.useCount).sum_nat
  rw [List.map_append, List.sum_append] at uses
  have length := split.length_eq
  rw [List.length_append] at length
  exact ⟨uses, length⟩

/-- A statement that is made is a miss of a request, with its first use. -/
theorem accounts_made {gone kept : List CachedStatement}
    (split : cache.statements.Perm (gone ++ kept)) (evicted : Nat) :
    cache.Accounts 1 evicted gone
      { cache with
        statements := kept ++ [.fresh sql now]
        misses := cache.misses + 1
        evictions := cache.evictions + evicted } where
  requests := rfl
  uses := by
    rw [(uses_and_size_of_split split).1, uses, List.map_append, List.sum_append]
    show _ + _ + 1 = _ + 1 + _
    omega
  statements := by
    rw [(uses_and_size_of_split split).2, size, List.length_append]
    show _ + _ + (cache.misses + 1) = _ + 1 + cache.misses + _
    omega
  evictions := rfl

/-- Statements that are only dropped are accounted for. -/
theorem accounts_dropped {gone kept : List CachedStatement}
    (split : cache.statements.Perm (gone ++ kept)) :
    cache.Accounts 0 0 gone { cache with statements := kept } where
  requests := rfl
  uses := by
    rw [(uses_and_size_of_split split).1, uses, Nat.add_zero]
    exact Nat.add_comm _ _
  statements := by
    rw [(uses_and_size_of_split split).2, size]
    show gone.length + kept.length + cache.misses = kept.length + cache.misses + gone.length
    omega
  evictions := rfl

end StatementCache

namespace StatementStep

variable {step : StatementStep} {sql : String} {acquired : Acquired} {after : StatementCache}

/-- A request takes the statement with it that it finds stale, or that is given up. -/
theorem accounts_acquires (step : StatementStep) (formed : step.before.cache.WellFormed)
    (asks : step.asked? = some sql)
    (acquires : step.before.cache.Acquires sql step.time acquired step.after.cache) :
    step.before.cache.Accounts 1 acquired.evicted.isSome.toNat step.departed step.after.cache ∧
    step.departed.length = acquired.evicted.isSome.toNat + step.replaces.toNat := by
  have replaces : step.replaces = ((step.before.cache.peek sql).isSome &&
      !step.before.cache.contains sql step.time) := by
    rw [StatementStep.replaces, asks]
  have unasked : ∀ statement : CachedStatement, statement.sql ≠ sql →
      step.asked? ≠ some statement.sql := by
    intro statement other same
    rw [asks] at same
    exact other (Option.some.inj same).symm
  generalize step.time = now at acquires replaces
  generalize reached : step.after.cache = after at acquires
  cases acquires with
  | @hit statement found valid =>
    obtain ⟨-, text⟩ := StatementCache.mem_of_peek found
    have gone : step.departed.Perm [] := by
      refine departed_perm (.refl _) (List.forall_mem_nil _) fun other member => ?_
      refine departs_eq_false ?_ (.inr (by rw [reached]))
      rw [reached]
      by_cases same : other.sql = sql
      · exact ⟨statement.use now, by simp, text.trans same.symm⟩
      · exact ⟨other, List.mem_append_left _ (StatementCache.mem_without.2 ⟨member, same⟩), rfl⟩
    refine ⟨(formed.accounts_hit found).perm gone, ?_⟩
    rw [gone.length_eq, replaces, found, valid]
    rfl
  | @stale statement found invalid =>
    obtain ⟨-, text⟩ := StatementCache.mem_of_peek found
    have split := formed.perm_without found
    have missed : step.isMiss statement.sql = true := by simp [isMiss, asks, reached, text]
    have gone : step.departed.Perm [statement] := by
      refine departed_perm split (List.forall_mem_singleton.2 (by simp [departs, missed])) ?_
      intro other member
      refine departs_eq_false ?_ (.inl (unasked other (StatementCache.mem_without.1 member).2))
      rw [reached]
      exact ⟨other, List.mem_append_left _ member, rfl⟩
    refine ⟨(StatementCache.accounts_made split 0).perm gone, ?_⟩
    rw [gone.length_eq, replaces, found, invalid]
    rfl
  | room absent room =>
    have otherText := StatementCache.peek_eq_none_iff.1 absent
    have gone : step.departed.Perm [] := by
      refine departed_perm (.refl _) (List.forall_mem_nil _) fun other member => ?_
      refine departs_eq_false ?_ (.inl (unasked other (otherText other member)))
      rw [reached]
      exact ⟨other, List.mem_append_left _ member, rfl⟩
    refine ⟨(StatementCache.accounts_made (.refl _) 0).perm gone, ?_⟩
    rw [gone.length_eq, replaces, absent]
    rfl
  | @full front rest absent full listed =>
    have otherText := StatementCache.peek_eq_none_iff.1 absent
    have split : step.before.cache.statements.Perm ([front] ++ rest) := .of_eq listed
    have distinct := formed.distinct
    rw [listed] at otherText distinct
    have gone : step.departed.Perm [front] := by
      refine departed_perm split (List.forall_mem_singleton.2 ?_) fun other member => ?_
      · -- No other statement has the text of the front, and the text asked for was absent.
        have dropped : step.after.cache.peek front.sql = none := by
          rw [reached, StatementCache.peek_eq_none_iff]
          intro other member same
          rcases List.mem_append.1 member with inRest | atBack
          · rw [List.map_cons, List.nodup_cons] at distinct
            exact distinct.1 (same ▸ List.mem_map_of_mem inRest)
          · rw [List.mem_singleton.1 atBack] at same
            exact otherText front List.mem_cons_self same.symm
        simp [departs, dropped]
      · refine departs_eq_false ?_
          (.inl (unasked other (otherText other (List.mem_cons_of_mem front member))))
        rw [reached]
        exact ⟨other, List.mem_append_left _ member, rfl⟩
    refine ⟨(StatementCache.accounts_made split 1).perm gone, ?_⟩
    rw [gone.length_eq, replaces, absent]
    rfl

end StatementStep

namespace StatementSession

variable {session : StatementSession}

/-- A step that keeps some statements and changes no other is balanced by the rest. -/
theorem departed_of_filter (formed : session.cache.WellFormed) {request : StatementRequest}
    (unasked : request.asked? = none) (keep : CachedStatement → Bool)
    (table : (session.serve request).2.cache.statements = session.cache.statements.filter keep) :
    (session.serveStep request).departed =
      session.cache.statements.filter fun statement => !keep statement := by
  have silent : (session.serveStep request).asked? = none := unasked
  refine List.filter_congr fun statement member => ?_
  cases kept : keep statement with
  | true =>
    refine StatementStep.departs_eq_false ⟨statement, ?_, rfl⟩ (.inl (by simp [silent]))
    show statement ∈ (session.serve request).2.cache.statements
    rw [table]
    exact List.mem_filter.2 ⟨member, kept⟩
  | false =>
    have absent : (session.serve request).2.cache.peek statement.sql = none := by
      refine StatementCache.peek_eq_none_iff.2 fun other otherMember same => ?_
      rw [table] at otherMember
      obtain ⟨otherBefore, otherKept⟩ := List.mem_filter.1 otherMember
      rw [List.inj_on_of_nodup_map formed.distinct otherBefore member same, kept] at otherKept
      cases otherKept
    show (((session.serve request).2.cache.peek statement.sql).isNone || _) = true
    rw [absent]
    rfl

/-- The statements left over by a choice are those that depart. -/
theorem accounts_of_filter (formed : session.cache.WellFormed) {request : StatementRequest}
    (unasked : request.asked? = none) (keep : CachedStatement → Bool)
    (dropped : (session.serve request).2.cache =
      { session.cache with statements := session.cache.statements.filter keep }) :
    session.cache.Accounts 0 0 (session.serveStep request).departed
      (session.serve request).2.cache := by
  rw [departed_of_filter formed unasked keep (congrArg StatementCache.statements dropped), dropped]
  exact StatementCache.accounts_dropped
    (List.perm_append_comm.trans (List.filter_append_perm keep _)).symm

/-- Where the cache stays as it is, no statement departs. -/
theorem accounts_idle (formed : session.cache.WellFormed) {request : StatementRequest}
    (unasked : request.asked? = none) (same : (session.serve request).2.cache = session.cache) :
    session.cache.Accounts 0 0 (session.serveStep request).departed
      (session.serve request).2.cache ∧
    (session.serveStep request).departed.length = 0 := by
  have all : (session.serve request).2.cache =
      { session.cache with statements := session.cache.statements.filter fun _ => true } := by
    rw [same, List.filter_true]
  refine ⟨accounts_of_filter formed unasked _ all, ?_⟩
  rw [departed_of_filter formed unasked _ (congrArg StatementCache.statements all)]
  simp

/-- A step accounts for its request and for the statements that leave, each by one way. -/
theorem accounts_serve (formed : session.cache.WellFormed) (request : StatementRequest) :
    let step := session.serveStep request
    session.cache.Accounts request.asked?.isSome.toNat step.evicts.toNat step.departed
      step.after.cache ∧
    step.departed.length = step.evicts.toNat +
      (step.replaces.toNat + step.removes.toNat + step.cleaned + step.cleared) := by
  cases request with
  | command command =>
    cases command with
    | acquire sql =>
      exact StatementStep.accounts_acquires (session.serveStep (.command (.acquire sql))) formed
        rfl (formed.acquire sql session.now)
    | remove sql =>
      have removed : (session.serveStep (.command (.remove sql))).removes =
          (session.cache.peek sql).isSome := by
        simp only [StatementStep.removes, serveStep, serve, step, StatementCache.remove]
        cases (session.cache.peek sql).isSome <;> rfl
      refine ⟨accounts_of_filter formed rfl _ rfl, ?_⟩
      rw [departed_of_filter formed rfl _ rfl, removed]
      show _ = 0 + (0 + (session.cache.peek sql).isSome.toNat + 0 + 0)
      rw [formed.length_of_text, Nat.zero_add, Nat.zero_add, Nat.add_zero]
    | clear =>
      have none : (session.serve (.command .clear)).2.cache =
          { session.cache with statements := session.cache.statements.filter fun _ => false } := by
        rw [List.filter_false]
        rfl
      refine ⟨accounts_of_filter formed rfl _ none, ?_⟩
      rw [departed_of_filter formed rfl _ (congrArg StatementCache.statements none)]
      show _ = 0 + (0 + 0 + 0 + session.cache.size)
      simp [StatementCache.size]
    | cleanup =>
      refine ⟨accounts_of_filter formed rfl _ rfl, ?_⟩
      rw [departed_of_filter formed rfl _ rfl]
      show _ = 0 + (0 + 0 + (session.cache.cleanup session.now).1 + 0)
      rw [Nat.zero_add, Nat.zero_add, Nat.add_zero]
      rfl
    | advance span => exact accounts_idle formed rfl rfl
  | contains sql => exact accounts_idle formed rfl rfl
  | peek sql => exact accounts_idle formed rfl rfl
  | mostUsed limit => exact accounts_idle formed rfl rfl

/-- No request makes a cache ill-formed. -/
theorem wellFormed_serve (formed : session.cache.WellFormed) (request : StatementRequest) :
    (session.serve request).2.cache.WellFormed := by
  rcases session.serve_cases formed request with
    ⟨sql, acquired, -, -, acquires⟩ | ⟨-, fewer, config⟩
  · exact acquires.wellFormed formed
  · exact formed.shrink fewer config

/-- A run accounts for its requests and for the statements that left. -/
theorem accounts_serveAll (formed : session.cache.WellFormed)
    (requests : List StatementRequest) :
    let steps := session.history requests
    session.cache.Accounts (requests.countP fun request => request.asked?.isSome)
      (steps.countP StatementStep.evicts) (steps.flatMap StatementStep.departed)
      (session.serveAll requests).cache ∧
    (steps.flatMap StatementStep.departed).length =
      steps.countP StatementStep.evicts +
        (steps.countP StatementStep.replaces + steps.countP StatementStep.removes +
          (steps.map StatementStep.cleaned).sum + (steps.map StatementStep.cleared).sum) := by
  induction requests generalizing session with
  | nil => exact ⟨⟨rfl, rfl, rfl, rfl⟩, rfl⟩
  | cons request rest ih =>
    obtain ⟨first, firstLength⟩ := accounts_serve formed request
    obtain ⟨later, laterLength⟩ := ih (wellFormed_serve formed request)
    have countP_cons : ∀ {Item : Type} (chosen : Item → Bool) item items,
        (item :: items).countP chosen = (chosen item).toNat + items.countP chosen := by
      intro Item chosen item items
      rw [List.countP_cons, Nat.add_comm]
      cases chosen item <;> rfl
    simp only [history, countP_cons, List.flatMap_cons, List.map_cons, List.sum_cons, serveAll]
    refine ⟨first.trans later, ?_⟩
    rw [List.length_append, firstLength, laterLength]
    omega

/-- In every state that a run from an empty cache reaches, the hits and misses counted are
the requests for statements, and these are the uses of the cached statements with the uses of
those that left, each as it was just before. The misses counted are the cached statements
with those that were given up to make room, as counted, the stale ones that were replaced,
the removals that found their text, those that cleanups reported and those that were there
when the cache was cleared. All that left, left by one of these ways. -/
theorem requests_accounted (config : StatementConfig) (clock : Clock)
    (requests : List StatementRequest) :
    let session := (start config clock).serveAll requests
    let steps := (start config clock).history requests
    let stats := session.cache.stats session.now
    let departed := steps.flatMap StatementStep.departed
    let asked := requests.countP fun request => request.asked?.isSome
    let uncounted := steps.countP StatementStep.replaces + steps.countP StatementStep.removes +
      (steps.map StatementStep.cleaned).sum + (steps.map StatementStep.cleared).sum
    stats.hits + stats.misses = asked ∧
    asked = stats.totalUses + (departed.map CachedStatement.useCount).sum ∧
    stats.misses = stats.size + stats.evictions + uncounted ∧
    stats.evictions = steps.countP StatementStep.evicts ∧
    departed.length = stats.evictions + uncounted := by
  intro session steps stats departed asked uncounted
  let origin : StatementSession := start config clock
  have formed : origin.cache.WellFormed := StatementCache.wellFormed_new config
  obtain ⟨accounts, left⟩ := accounts_serveAll formed requests
  have total : session.cache.hits + session.cache.misses = 0 + 0 + asked := accounts.requests
  have uses : 0 + asked = session.cache.uses + (departed.map CachedStatement.useCount).sum :=
    accounts.uses
  have statements : 0 + session.cache.misses = session.cache.size + 0 + departed.length :=
    accounts.statements
  have evictions : session.cache.evictions = 0 + steps.countP StatementStep.evicts :=
    accounts.evictions
  have ways : departed.length = steps.countP StatementStep.evicts + uncounted := left
  show session.cache.hits + session.cache.misses = asked ∧ asked = session.cache.uses + _ ∧
    session.cache.misses = session.cache.size + session.cache.evictions + uncounted ∧
    session.cache.evictions = _ ∧ departed.length = session.cache.evictions + uncounted
  exact ⟨by omega, by omega, by omega, by omega, by omega⟩

/-- One statement leaves by each way: two uses of the stale one and of the one that is given up
are counted among those that left. -/
example :
    let requests : List StatementRequest :=
      [.command (.acquire "a"), .command (.acquire "a"), .command (.advance (.ofSeconds 9 0)),
        .command (.acquire "a"), .command (.acquire "a"), .command (.acquire "b"),
        .command (.acquire "c"), .command (.remove "b"), .command (.remove "b"),
        .command (.advance (.ofSeconds 9 0)), .command .cleanup, .command (.acquire "d"),
        .command .clear, .command (.acquire "e")]
    let config : StatementConfig := ⟨2, .ofSeconds 5 0, .ofSeconds 5 0⟩
    let steps := (start config ⟨⟨0⟩, ⟨0, by decide⟩⟩).history requests
    (steps.flatMap StatementStep.departed).map (fun statement => (statement.sql, statement.useCount))
      = [("a", 2), ("a", 2), ("b", 1), ("c", 1), ("d", 1)] := by
  decide +kernel

end StatementSession

end QueryKit
