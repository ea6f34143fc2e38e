import Mathlib.Data.List.Lex
import QueryKit.Proofs.Condition.Written

/-!
# The first fault decides

A clause is at fault by itself: it has no SQL form, its field has no name, or its operand
does not fit (`Clause.Fault`). Groups are never at fault, their clauses may be. Positions in
a condition are paths, and paths in lexicographic order are the clauses in depth-first
order, left to right. Compiling fails exactly if some clause is at fault, at whatever depth
and whether or not anything would be written, and then with the fault of the least path.
Clauses behind that path are never looked at.

The clauses that are no groups, listed with their paths (`Clause.leaves`), stand between the
recursion of the compiler and the order of the paths: the compiler takes the first fault of
this list, and the list is in order.
-/

namespace QueryKit

namespace Clause

/-- Whether the clause is a group. -/
def isGroup : Clause → Bool
  | .group _ => true
  | _ => false

/-- What is wrong with the clause at a path by itself. -/
inductive Fault : Clause → List Nat → QueryError → Prop where
  /-- A test without SQL form. -/
  | custom (predicate : RowPredicate) (path : List Nat) :
      Fault (.custom predicate) path (.customPredicate predicate.label path)
  /-- A comparison of a field without name. -/
  | unnamed {field : String} (blank : Text.isBlankText field = true) (operator : Operator)
      (operand : Operand) (path : List Nat) :
      Fault (.compare field operator operand) path .emptyField
  /-- A range where no operand is taken. -/
  | takesNoValue {field : String} (named : Text.isBlankText field = false) {operator : Operator}
      (unary : operator.isUnary = true) (low high : Value) (path : List Nat) :
      Fault (.compare field operator (.range low high)) path (.takesNoValue operator field)
  /-- No range where one is needed. -/
  | needsPair {field : String} (named : Text.isBlankText field = false) {operand : Operand}
      (unranged : ∀ low high, operand ≠ .range low high) (path : List Nat) :
      Fault (.compare field .between operand) path (.needsPair field)
  /-- No single value where one is needed. -/
  | needsOneValue {field : String} (named : Text.isBlankText field = false) {operator : Operator}
      (comparing : operator.takesOneValue = true) {operand : Operand}
      (valueless : ∀ value, operand ≠ .value value) (path : List Nat) :
      Fault (.compare field operator operand) path (.needsOneValue operator field)
  /-- A membership test of a field without name. -/
  | unnamedMember {field : String} (blank : Text.isBlankText field = true) (values : List Value)
      (negated : Bool) (path : List Nat) : Fault (.member field values negated) path .emptyField
  /-- A membership test in no values at all. -/
  | needsValues {field : String} (named : Text.isBlankText field = false) (negated : Bool)
      (path : List Nat) : Fault (.member field [] negated) path (.needsValues negated field)

/-- The clause that a path leads to from a clause, through the groups it names. -/
def at? : Clause → List Nat → Option Clause
  | clause, [] => some clause
  | .group clauses, position :: rest =>
    match clauses[position]? with
    | some clause => clause.at? rest
    | none => none
  | _, _ :: _ => none

end Clause

namespace Condition

/-- The clause that a path leads to from the root of a condition. -/
def at? (condition : Condition) (path : List Nat) : Option Clause :=
  (Clause.group condition).at? path

/-- The clause at a path is at fault, and no clause before it is. -/
structure FirstFault (condition : Condition) (path : List Nat) (clause : Clause)
    (error : QueryError) : Prop where
  found : condition.at? path = some clause
  fault : clause.Fault path error
  first : ∀ other otherClause otherError, condition.at? other = some otherClause →
    otherClause.Fault other otherError → path ≤ other

end Condition

/-! ### Faults and the compiler -/

namespace Clause

variable {field : String} {operator : Operator} {operand : Operand} {path : List Nat}
  {error : QueryError}

/-- A comparison fails exactly by its name or by an operand that does not fit. -/
theorem fault_compare_iff :
    (compare field operator operand).Fault path error ↔
      Condition.compareFragment field operator operand = .error error := by
  constructor
  · intro fault
    cases fault with
    | unnamed blank => simp [Condition.compareFragment, blank]
    | takesNoValue named unary =>
      cases operator <;> simp_all [Condition.compareFragment, Operator.isUnary]
    | needsPair named unranged => cases operand <;> simp_all [Condition.compareFragment]
    | needsOneValue named comparing valueless =>
      cases operator <;> cases operand <;>
        simp_all [Condition.compareFragment, Operator.takesOneValue]
  · intro failed
    cases named : Text.isBlankText field with
    | true =>
      obtain rfl : .emptyField = error := by simpa [Condition.compareFragment, named] using failed
      exact .unnamed named operator operand path
    | false =>
      cases operator <;> cases operand <;>
        simp only [Condition.compareFragment, named, Bool.false_eq_true, if_false,
          Except.error.injEq, reduceCtorEq] at failed <;>
        subst failed <;>
        first
        | exact .takesNoValue named rfl _ _ path
        | exact .needsPair named (by simp) path
        | exact .needsOneValue named rfl (by simp) path

/-- A membership test fails exactly by its name or for want of a value. -/
theorem fault_member_iff {values : List Value} {negated : Bool} :
    (member field values negated).Fault path error ↔
      Condition.memberFragment field values negated = .error error := by
  constructor
  · intro fault
    cases fault with
    | unnamedMember blank => simp [Condition.memberFragment, blank]
    | needsValues named => simp [Condition.memberFragment, named]
  · intro failed
    cases named : Text.isBlankText field with
    | true =>
      obtain rfl : .emptyField = error := by simpa [Condition.memberFragment, named] using failed
      exact .unnamedMember named values negated path
    | false =>
      cases values with
      | nil =>
        obtain rfl : .needsValues negated field = error := by
          simpa [Condition.memberFragment, named] using failed
        exact .needsValues named negated path
      | cons first rest => simp [Condition.memberFragment, named] at failed

end Clause

/-- The error of a computation that failed. -/
def failure? {ε α : Type} : Except ε α → Option ε
  | .error error => some error
  | .ok _ => none

@[simp] theorem failure?_eq_some {ε α : Type} {result : Except ε α} {error : ε} :
    failure? result = some error ↔ result = .error error := by
  cases result <;> simp [failure?]

@[simp] theorem failure?_map {ε α β : Type} (convert : α → β) (result : Except ε α) :
    failure? (result.map convert) = failure? result := by
  cases result <;> rfl

/-- A clause other than a group fails to compile exactly by its own fault. -/
theorem Clause.fault_iff {clause : Clause} (single : clause.isGroup = false) {path : List Nat}
    {error : QueryError} :
    clause.Fault path error ↔ failure? (Condition.compileClause path clause) = some error := by
  cases clause with
  | compare field operator operand =>
    rw [Condition.compileClause, failure?_map, failure?_eq_some, fault_compare_iff]
  | member field values negated =>
    rw [Condition.compileClause, failure?_map, failure?_eq_some, fault_member_iff]
  | custom predicate =>
    rw [Condition.compileClause, failure?_eq_some, Except.error.injEq]
    exact ⟨by rintro ⟨⟩; rfl, by rintro rfl; exact .custom predicate path⟩
  | connective word => exact ⟨by rintro ⟨⟩, by rintro ⟨⟩⟩
  | group clauses => cases single

/-- Groups are never at fault themselves. -/
theorem Clause.Fault.isGroup {clause : Clause} {path : List Nat} {error : QueryError}
    (fault : clause.Fault path error) : clause.isGroup = false := by
  cases fault <;> rfl

/-! ### The clauses that are no groups, in order -/

mutual

/-- The clauses at any depth that are no groups, with their paths. -/
def Clause.leaves : Clause → List (List Nat × Clause)
  | .group clauses => Condition.leavesFrom 0 clauses
  | clause => [([], clause)]

/-- The leaves of clauses that stand from a position on. -/
def Condition.leavesFrom (position : Nat) : List Clause → List (List Nat × Clause)
  | [] => []
  | clause :: rest =>
    clause.leaves.map (fun leaf => (position :: leaf.1, leaf.2)) ++
      Condition.leavesFrom (position + 1) rest

end

@[simp] theorem Clause.leaves_group (clauses : List Clause) :
    (Clause.group clauses).leaves = Condition.leavesFrom 0 clauses := by
  rw [Clause.leaves]

/-- A clause that is no group is its own only leaf. -/
theorem Clause.leaves_of_not_isGroup {clause : Clause} (single : clause.isGroup = false) :
    clause.leaves = [([], clause)] := by
  cases clause with
  | group clauses => cases single
  | compare | member | custom | connective => rw [Clause.leaves]; simp

/-- A path through a group names one of its clauses and goes on from there. -/
theorem Clause.at?_group_cons {clauses : List Clause} {position : Nat} {rest : List Nat}
    {leaf : Clause} :
    (Clause.group clauses).at? (position :: rest) = some leaf ↔
      ∃ clause, clauses[position]? = some clause ∧ clause.at? rest = some leaf := by
  rw [Clause.at?]
  cases clauses[position]? <;> simp

mutual

/-- The leaves are what the paths lead to, apart from the groups. -/
theorem Clause.mem_leaves {clause leaf : Clause} {path : List Nat} :
    (path, leaf) ∈ clause.leaves ↔ clause.at? path = some leaf ∧ leaf.isGroup = false := by
  cases clause with
  | group clauses =>
    rw [Clause.leaves_group, Condition.mem_leavesFrom]
    cases path with
    | nil =>
      rw [Clause.at?]
      simp only [List.nil_eq, reduceCtorEq, false_and, exists_false, Option.some.injEq, false_iff]
      rintro ⟨rfl, single⟩
      cases single
    | cons position rest =>
      rw [Clause.at?_group_cons]
      simp [← exists_and_right, and_assoc]
  | compare | member | custom | connective =>
    rw [Clause.leaves_of_not_isGroup rfl]
    cases path with
    | nil =>
      simp only [Clause.at?, List.mem_singleton, Prod.mk.injEq, true_and, Option.some.injEq]
      exact ⟨by rintro rfl; exact ⟨rfl, rfl⟩, fun ⟨same, _⟩ => same.symm⟩
    | cons position rest => simp [Clause.at?]

/-- The leaves of clauses from a position on are the leaves of the clause at some place,
behind the position of that place. -/
theorem Condition.mem_leavesFrom {position : Nat} {clauses : List Clause} {leaf : Clause}
    {path : List Nat} :
    (path, leaf) ∈ Condition.leavesFrom position clauses ↔
      ∃ index rest clause, path = (position + index) :: rest ∧ clauses[index]? = some clause ∧
        clause.at? rest = some leaf ∧ leaf.isGroup = false := by
  cases clauses with
  | nil => simp [Condition.leavesFrom]
  | cons head rest =>
    have here : (path, leaf) ∈ head.leaves.map (fun leaf => (position :: leaf.1, leaf.2)) ↔
        ∃ inner, path = position :: inner ∧ head.at? inner = some leaf ∧ leaf.isGroup = false := by
      simp only [List.mem_map, Prod.mk.injEq, Prod.exists, ← Clause.mem_leaves]
      grind
    rw [Condition.leavesFrom, List.mem_append, here, Condition.mem_leavesFrom]
    constructor
    · rintro (⟨inner, rfl, found⟩ | ⟨index, inner, clause, rfl, found⟩)
      · exact ⟨0, inner, head, rfl, rfl, found⟩
      · exact ⟨index + 1, inner, clause, by rw [Nat.add_right_comm, Nat.add_assoc], found⟩
    · rintro ⟨index, inner, clause, rfl, listed, found⟩
      cases index with
      | zero =>
        obtain rfl : head = clause := by simpa using listed
        exact .inl ⟨inner, rfl, found⟩
      | succ index =>
        exact .inr ⟨index, inner, clause, by rw [Nat.add_right_comm, Nat.add_assoc], listed, found⟩

end

mutual

/-- Leaves are listed in the order of their paths. -/
theorem Clause.leaves_ordered (clause : Clause) :
    clause.leaves.Pairwise fun first second => first.1 < second.1 := by
  cases clause with
  | group clauses =>
    rw [Clause.leaves_group]
    exact Condition.leavesFrom_ordered 0 clauses
  | compare | member | custom | connective =>
    rw [Clause.leaves_of_not_isGroup rfl]
    exact List.pairwise_singleton _ _

/-- Leaves from a position on are listed in the order of their paths. -/
theorem Condition.leavesFrom_ordered (position : Nat) (clauses : List Clause) :
    (Condition.leavesFrom position clauses).Pairwise fun first second => first.1 < second.1 := by
  cases clauses with
  | nil => exact .nil
  | cons head rest =>
    rw [Condition.leavesFrom, List.pairwise_append, List.pairwise_map]
    refine ⟨?_, Condition.leavesFrom_ordered (position + 1) rest, ?_⟩
    · exact (Clause.leaves_ordered head).imp fun before => List.cons_lt_cons_self.2 before
    · -- A leaf of the head starts with the position, a later one with a greater one.
      rintro first isFirst ⟨path, leaf⟩ isSecond
      obtain ⟨inner, _, rfl⟩ := List.mem_map.1 isFirst
      obtain ⟨index, behind, clause, rfl, _⟩ := Condition.mem_leavesFrom.1 isSecond
      exact List.cons_lt_cons_iff.2 (.inl (by omega))

end

mutual

/-- A clause fails to compile with the first error among its leaves. -/
theorem Condition.failure?_compileClause (path : List Nat) (clause : Clause) :
    failure? (compileClause path clause) =
      clause.leaves.findSome? fun leaf => failure? (compileClause (path ++ leaf.1) leaf.2) := by
  cases clause with
  | group clauses =>
    rw [Clause.leaves_group, ← Condition.failure?_compileClauses path 0 none, compileClause]
    cases compileClauses path 0 none clauses with
    | error error => rfl
    | ok written => cases written <;> rfl
  | compare | member | custom | connective =>
    rw [Clause.leaves_of_not_isGroup rfl]
    simp

/-- Clauses fail to compile with the first error among their leaves, whatever was pending. -/
theorem Condition.failure?_compileClauses (path : List Nat) (position : Nat)
    (pending : Option Connective) (clauses : List Clause) :
    failure? (compileClauses path position pending clauses) =
      (leavesFrom position clauses).findSome? fun leaf =>
        failure? (compileClause (path ++ leaf.1) leaf.2) := by
  cases clauses with
  | nil => rfl
  | cons clause rest =>
    have head : (clause.leaves.map fun leaf => (position :: leaf.1, leaf.2)).findSome?
          (fun leaf => failure? (compileClause (path ++ leaf.1) leaf.2)) =
        failure? (compileClause (path ++ [position]) clause) := by
      rw [Condition.failure?_compileClause, List.findSome?_map]
      simp [Function.comp_def]
    rw [leavesFrom, List.findSome?_append, head]
    cases kind : clause.connective? with
    | some word =>
      obtain rfl := Clause.connective?_eq_some kind
      rw [compileClauses, Condition.failure?_compileClauses]
      rfl
    | none =>
      rw [compileClauses_cons kind]
      cases compileClause (path ++ [position]) clause with
      | error error => rfl
      | ok output =>
        cases output with
        | none => exact Condition.failure?_compileClauses path (position + 1) pending rest
        | some fragment =>
          rw [← Condition.failure?_compileClauses path (position + 1) none rest]
          cases compileClauses path (position + 1) none rest <;> rfl

end

/-! ### The first fault -/

namespace Condition

variable {condition : Condition} {path : List Nat} {clause : Clause} {error : QueryError}

/-- A condition fails to compile with the first error among its leaves. -/
theorem failure?_compile (condition : Condition) :
    failure? condition.compile =
      (leavesFrom 0 condition).findSome? fun leaf => failure? (compileClause leaf.1 leaf.2) := by
  rw [compile, failure?_map, failure?_compileClauses]
  rfl

/-- What a clause at a path is at fault for is the error of the leaf listed there. -/
theorem listed_and_fails_iff :
    (condition.at? path = some clause ∧ clause.Fault path error) ↔
      (path, clause) ∈ leavesFrom 0 condition ∧
        failure? (compileClause path clause) = some error := by
  rw [← Clause.leaves_group, Clause.mem_leaves]
  constructor
  · exact fun ⟨found, fault⟩ => ⟨⟨found, fault.isGroup⟩, (Clause.fault_iff fault.isGroup).1 fault⟩
  · exact fun ⟨⟨found, single⟩, fails⟩ => ⟨found, (Clause.fault_iff single).2 fails⟩

/-- There is one first fault at most. -/
theorem FirstFault.unique (one : condition.FirstFault path clause error) {otherPath : List Nat}
    {otherClause : Clause} {otherError : QueryError}
    (other : condition.FirstFault otherPath otherClause otherError) :
    path = otherPath ∧ clause = otherClause ∧ error = otherError := by
  obtain rfl : path = otherPath :=
    le_antisymm (one.first _ _ _ other.found other.fault) (other.first _ _ _ one.found one.fault)
  obtain rfl : clause = otherClause := Option.some.inj (one.found.symm.trans other.found)
  have fails := (Clause.fault_iff one.fault.isGroup).1 one.fault
  have otherFails := (Clause.fault_iff one.fault.isGroup).1 other.fault
  exact ⟨rfl, rfl, Option.some.inj (fails.symm.trans otherFails)⟩

/-- A condition that fails to compile fails with its first fault. -/
theorem exists_firstFault (failed : condition.compile = .error error) :
    ∃ path clause, condition.FirstFault path clause error := by
  have found := failure?_compile condition
  rw [failed, failure?, eq_comm, List.findSome?_eq_some_iff] at found
  obtain ⟨before, ⟨path, clause⟩, after, split, fails, passed⟩ := found
  obtain ⟨found, fault⟩ :=
    listed_and_fails_iff.2 ⟨by rw [split]; exact List.mem_append_right _ List.mem_cons_self, fails⟩
  refine ⟨path, clause, found, fault, fun other otherClause otherError otherFound otherFault => ?_⟩
  obtain ⟨listed, otherFails⟩ := listed_and_fails_iff.1 ⟨otherFound, otherFault⟩
  have ordered := Clause.leaves_ordered (.group condition)
  rw [Clause.leaves_group, split, List.pairwise_append, List.pairwise_cons] at ordered
  rw [split, List.mem_append, List.mem_cons] at listed
  rcases listed with isBefore | same | isAfter
  · -- What stands before compiles, so nothing is wrong with it.
    simp [passed _ isBefore] at otherFails
  · exact (Prod.mk.inj same).1.ge
  · exact (ordered.2.1.1 _ isAfter).le

/-- A condition with a fault anywhere fails to compile. -/
theorem fails_of_fault (found : condition.at? path = some clause)
    (fault : clause.Fault path error) : ∃ error, condition.compile = .error error := by
  obtain ⟨listed, fails⟩ := listed_and_fails_iff.1 ⟨found, fault⟩
  cases compiled : condition.compile with
  | error error => exact ⟨error, rfl⟩
  | ok fragment =>
    have passed := failure?_compile condition
    rw [compiled, failure?, eq_comm, List.findSome?_eq_none_iff] at passed
    simp [passed _ listed] at fails

/-- Compiling fails with the error of the first fault, and only so. -/
theorem compile_eq_error_iff :
    condition.compile = .error error ↔ ∃ path clause, condition.FirstFault path clause error := by
  refine ⟨exists_firstFault, ?_⟩
  rintro ⟨path, clause, first⟩
  obtain ⟨other, failed⟩ := fails_of_fault first.found first.fault
  obtain ⟨_, _, decides⟩ := exists_firstFault failed
  rw [failed, (first.unique decides).2.2]

/-- Clauses behind the first fault do not matter. -/
theorem FirstFault.of_agree (first : condition.FirstFault path clause error) {other : Condition}
    (agree : ∀ place leaf, place ≤ path → leaf.isGroup = false →
      (condition.at? place = some leaf ↔ other.at? place = some leaf)) :
    other.FirstFault path clause error where
  found := (agree path clause le_rfl first.fault.isGroup).1 first.found
  fault := first.fault
  first place leaf otherError found fault := by
    by_contra before
    exact before (first.first place leaf otherError
      ((agree place leaf (not_le.1 before).le fault.isGroup).2 found) fault)

/-! ### Tests without SQL form -/

end Condition

/-- What is wrong with a test without SQL form is told by its label and its path, all other
faults are of the caller's making. -/
theorem Clause.Fault.custom_or_malformed {clause : Clause} {path : List Nat} {error : QueryError}
    (fault : clause.Fault path error) :
    (∃ predicate, clause = .custom predicate ∧ error = .customPredicate predicate.label path) ∨
      ((∀ predicate, clause ≠ .custom predicate) ∧ error.kind = .invalidArgument) := by
  cases fault with
  | custom predicate => exact .inl ⟨predicate, rfl, rfl⟩
  | unnamed | takesNoValue | needsPair | needsOneValue | unnamedMember | needsValues =>
    exact .inr ⟨by simp, rfl⟩

/-- The test without SQL form that a clause is. -/
def Clause.custom? : Clause → Option RowPredicate
  | .custom predicate => some predicate
  | _ => none

mutual

/-- The tests without SQL form in a clause are those among its leaves. -/
theorem Condition.customOfClause_eq (clause : Clause) :
    customOfClause clause = clause.leaves.filterMap fun leaf => leaf.2.custom? := by
  cases clause with
  | group clauses =>
    rw [customOfClause, Clause.leaves_group, Condition.customPredicates_eq 0]
  | compare | member | custom | connective =>
    rw [Clause.leaves_of_not_isGroup rfl]
    simp [customOfClause, Clause.custom?]

/-- The tests without SQL form are those among the leaves, in the same order. -/
theorem Condition.customPredicates_eq (position : Nat) (condition : Condition) :
    condition.customPredicates =
      (leavesFrom position condition).filterMap fun leaf => leaf.2.custom? := by
  cases condition with
  | nil => simp [customPredicates, leavesFrom]
  | cons clause rest =>
    rw [customPredicates, leavesFrom, List.filterMap_append, List.filterMap_map,
      Condition.customOfClause_eq, Condition.customPredicates_eq (position + 1) rest]
    rfl

end

/-- The tests listed are those that some path leads to. -/
theorem Condition.mem_customPredicates {condition : Condition} {predicate : RowPredicate} :
    predicate ∈ condition.customPredicates ↔
      ∃ path, condition.at? path = some (.custom predicate) := by
  rw [customPredicates_eq 0, List.mem_filterMap, ← Clause.leaves_group]
  constructor
  · rintro ⟨⟨path, leaf⟩, listed, isCustom⟩
    cases leaf with
    | custom predicate =>
      cases isCustom
      exact ⟨path, (Clause.mem_leaves.1 listed).1⟩
    | compare | member | connective | group => cases isCustom
  · rintro ⟨path, found⟩
    exact ⟨(path, .custom predicate), Clause.mem_leaves.2 ⟨found, rfl⟩, rfl⟩

/-- The text of a path is its positions in digits, separated by points. -/
theorem toList_pathText (path : List Nat) :
    (pathText path).toList = ['.'].intercalate (path.map (Nat.toDigits 10)) := by
  rw [pathText, String.toList_intercalate, List.map_map]
  refine congrArg (List.intercalate ['.']) (List.map_congr_left fun index _ => ?_)
  rw [Function.comp_apply, Nat.toString_eq_repr, Nat.repr_eq_ofList_toDigits, String.toList_ofList]

/-- The text of a path spells that path only: split at its points it is the positions. -/
theorem pathText_injective : Function.Injective pathText := by
  intro one other same
  have same : ['.'].intercalate (one.map (Nat.toDigits 10)) =
      ['.'].intercalate (other.map (Nat.toDigits 10)) := by
    rw [← toList_pathText, same, toList_pathText]
  have pointless : ∀ path : List Nat, ∀ digits ∈ path.map (Nat.toDigits 10), '.' ∉ digits := by
    intro path digits member isPoint
    obtain ⟨index, _, rfl⟩ := List.mem_map.1 member
    exact absurd (Nat.isDigit_of_mem_toDigits (by decide) (by decide) isPoint) (by decide)
  have blank : ∀ path : List Nat,
      ['.'].intercalate (path.map (Nat.toDigits 10)) = [] → path = [] := by
    intro path nothing
    match path with
    | [] => rfl
    | [index] => simp at nothing
    | index :: next :: rest => simp at nothing
  -- The empty path is apart: its text is empty, and splitting that gives one part.
  by_cases unwritten : one = []
  · subst unwritten
    exact (blank other same.symm).symm
  · have written : other ≠ [] := by
      rintro rfl
      exact unwritten (blank one same)
    have split := congrArg (List.splitOn '.') same
    rw [List.splitOn_intercalate _ (pointless one) (by simpa using unwritten),
      List.splitOn_intercalate _ (pointless other) (by simpa using written)] at split
    exact List.map_injective_iff.2 (fun _ _ => Decimal.toDigits_inj.1) split

/-- Compiling a condition fails exactly if something is at fault at some depth, and with the
first fault in the order of the paths. The error of a malformed clause is an invalid argument.
A test without SQL form is unsupported, and the error tells its label and a path text that
belongs to the path of this test alone. What stands behind the first fault can be anything. So
conditions with such a test never compile, and the test is what is complained about unless a
clause before it is malformed. -/
theorem Condition.first_fault_decides (condition : Condition) :
    ((∃ error, condition.compile = .error error) ↔
        ∃ path clause error, condition.at? path = some clause ∧ clause.Fault path error) ∧
      (∀ error, condition.compile = .error error ↔
        ∃ path clause, condition.FirstFault path clause error) ∧
      (∀ path clause error, condition.FirstFault path clause error →
        ((∃ predicate, clause = .custom predicate ∧ error.kind = .unsupported ∧
            error = .customPredicate predicate.label path ∧
            error.message = "Unsupported operation: " ++ ("custom predicate '" ++
              predicate.label ++ "' at clause " ++ pathText path ++
              " has no SQL form; filter the fetched rows instead") ∧
            ∀ place, pathText place = pathText path → condition.at? place = some clause) ∨
          (∀ predicate, clause ≠ .custom predicate) ∧ error.kind = .invalidArgument) ∧
        ∀ other : Condition,
          (∀ place leaf, place ≤ path → leaf.isGroup = false →
            (condition.at? place = some leaf ↔ other.at? place = some leaf)) →
          other.compile = .error error) ∧
      ((∃ fragment, condition.compile = .ok fragment) → condition.customPredicates = []) ∧
      ∀ path predicate, condition.at? path = some (.custom predicate) →
        (∀ place clause error, place < path → condition.at? place = some clause →
          clause.Fault place error → error.kind ≠ .invalidArgument) →
        ∃ error, condition.compile = .error error ∧ error.kind = .unsupported := by
  refine ⟨⟨?_, ?_⟩, fun error => compile_eq_error_iff, ?_, ?_, ?_⟩
  · rintro ⟨error, failed⟩
    obtain ⟨path, clause, first⟩ := exists_firstFault failed
    exact ⟨path, clause, error, first.found, first.fault⟩
  · rintro ⟨path, clause, error, found, fault⟩
    exact fails_of_fault found fault
  · intro path clause error first
    refine ⟨?_, fun other agree => compile_eq_error_iff.2 ⟨path, clause, first.of_agree agree⟩⟩
    rcases first.fault.custom_or_malformed with ⟨predicate, isCustom, rfl⟩ | malformed
    · refine .inl ⟨predicate, isCustom, rfl, rfl, rfl, fun place same => ?_⟩
      rw [pathText_injective same]
      exact first.found
    · exact .inr malformed
  · rintro ⟨fragment, compiled⟩
    rw [List.eq_nil_iff_forall_not_mem]
    intro predicate listed
    obtain ⟨path, found⟩ := mem_customPredicates.1 listed
    obtain ⟨error, failed⟩ := fails_of_fault found (.custom predicate path)
    simp [compiled] at failed
  · intro path predicate found clean
    obtain ⟨error, failed⟩ := fails_of_fault found (.custom predicate path)
    refine ⟨error, failed, ?_⟩
    obtain ⟨place, clause, first⟩ := exists_firstFault failed
    rcases first.fault.custom_or_malformed with ⟨other, _, rfl⟩ | ⟨plain, malformed⟩
    · rfl
    · rcases (first.first path _ _ found (.custom predicate path)).lt_or_eq with before | rfl
      · exact absurd malformed (clean place clause error before first.found first.fault)
      · -- The path of the test leads to the test.
        exact absurd (Option.some.inj (first.found.symm.trans found)) (plain predicate)

end QueryKit
