import Mathlib.Data.List.Forall2
import Mathlib.Data.Option.Basic
import QueryKit.Proofs.Condition.Written
import QueryKit.Query.Sql

/-!
# Values stay out of the text

Two conditions agree when they are alike but for the values they bind. Compiling looks
at the kind of an operand and at the length of a list, and never at a value: what agrees
fails alike, or is written with the same text, and the arguments of one stand where
those of the other stand.

Agreement takes a relation between values and carries it from the values of the clauses
to the arguments of the statements. As the relation is arbitrary, it also says where
each argument comes from: a relation that holds of two values in one place alone finds
them in one place among the arguments.
-/

namespace QueryKit

/-- Two operands of one kind, with related values. -/
inductive Operand.Agree (related : Value → Value → Prop) : Operand → Operand → Prop where
  | none : Agree related .none .none
  | value {left right : Value} (values : related left right) :
      Agree related (.value left) (.value right)
  | range {low high otherLow otherHigh : Value} (lows : related low otherLow)
      (highs : related high otherHigh) :
      Agree related (.range low high) (.range otherLow otherHigh)

mutual

/-- Two clauses alike but for their values, which are related place by place. -/
inductive Clause.Agree (related : Value → Value → Prop) : Clause → Clause → Prop where
  | compare (field : String) (operator : Operator) {left right : Operand}
      (operands : left.Agree related right) :
      Clause.Agree related (.compare field operator left) (.compare field operator right)
  | member (field : String) (negated : Bool) {left right : List Value}
      (values : List.Forall₂ related left right) :
      Clause.Agree related (.member field left negated) (.member field right negated)
  | custom (predicate : RowPredicate) :
      Clause.Agree related (.custom predicate) (.custom predicate)
  | connective (connective : Connective) :
      Clause.Agree related (.connective connective) (.connective connective)
  | group {left right : Condition} (clauses : Condition.Agree related left right) :
      Clause.Agree related (.group left) (.group right)

/-- Two conditions that agree clause by clause. -/
inductive Condition.Agree (related : Value → Value → Prop) : Condition → Condition → Prop where
  | nil : Condition.Agree related [] []
  | cons {left right : Clause} {rest others : Condition} (first : Clause.Agree related left right)
      (later : Condition.Agree related rest others) :
      Condition.Agree related (left :: rest) (right :: others)

end

/-- Both fail for one cause, or both succeed with related results. -/
inductive SameOutcome {Result : Type} (related : Result → Result → Prop) :
    Except QueryError Result → Except QueryError Result → Prop where
  | error (cause : QueryError) : SameOutcome related (.error cause) (.error cause)
  | ok {left right : Result} (results : related left right) :
      SameOutcome related (.ok left) (.ok right)

/-- What is made of related results is related when the makers see to it. -/
theorem SameOutcome.map {Result Other : Type} {related : Result → Result → Prop}
    {made : Other → Other → Prop} {left right : Except QueryError Result}
    (same : SameOutcome related left right) {make remake : Result → Other}
    (keeps : ∀ first second, related first second → made (make first) (remake second)) :
    SameOutcome made (left.map make) (right.map remake) := by
  cases same with
  | error cause => exact .error cause
  | ok results => exact .ok (keeps _ _ results)

variable {related : Value → Value → Prop}

/-! ### Fragments -/

/-- Fragments with one text and related values. -/
structure Fragment.Agree (related : Value → Value → Prop) (left right : Fragment) : Prop where
  sql : left.sql = right.sql
  arguments : List.Forall₂ related left.arguments right.arguments

namespace Fragment

/-- A fixed text agrees with itself. -/
theorem agree_text (sql : String) : (text sql).Agree related (text sql) := ⟨rfl, .nil⟩

/-- Related values are bound by fragments that agree. -/
theorem agree_bound {left right : Value} (values : related left right) :
    (bound left).Agree related (bound right) := ⟨rfl, .cons values .nil⟩

/-- Fragments that agree can be joined. -/
theorem Agree.append {first second left right : Fragment} (before : first.Agree related second)
    (after : left.Agree related right) : (first ++ left).Agree related (second ++ right) where
  sql := by rw [append_sql, append_sql, before.sql, after.sql]
  arguments := List.rel_append before.arguments after.arguments

/-- Related lists of values are bound by fragments that agree. -/
theorem agree_boundList {left right : List Value} (values : List.Forall₂ related left right) :
    (boundList left).Agree related (boundList right) := by
  induction values with
  | nil => exact ⟨rfl, .nil⟩
  | cons first later ih =>
    cases later with
    | nil => exact agree_bound first
    | cons => exact ((agree_bound first).append (agree_text ", ")).append ih

end Fragment

/-! ### Clauses -/

/-- A clause that agrees with a connective is that connective. -/
theorem Clause.Agree.connective? {left right : Clause} (agree : left.Agree related right) :
    left.connective? = right.connective? := by
  cases agree <;> rfl

namespace Condition

/-- A comparison fails for its field and the kind of its operand, whatever the values. -/
theorem compareFragment_agree (field : String) (operator : Operator) {left right : Operand}
    (operands : left.Agree related right) :
    SameOutcome (Fragment.Agree related) (compareFragment field operator left)
      (compareFragment field operator right) := by
  unfold compareFragment
  cases Text.isBlankText field with
  | true => exact .error _
  | false =>
    simp only [Bool.false_eq_true, if_false]
    cases operands with
    | none =>
      cases operator with
      | isNull | isNotNull => exact .ok (Fragment.agree_text _)
      | equal | notEqual | greater | greaterOrEqual | less | lessOrEqual | like | notLike
      | between => exact .error _
    | value values =>
      cases operator with
      | isNull | isNotNull => exact .ok (Fragment.agree_text _)
      | between => exact .error _
      | equal | notEqual | greater | greaterOrEqual | less | lessOrEqual | like | notLike =>
        exact .ok ((Fragment.agree_text _).append (Fragment.agree_bound values))
    | range lows highs =>
      cases operator with
      | between =>
        exact .ok ((((Fragment.agree_text _).append (Fragment.agree_bound lows)).append
          (Fragment.agree_text _)).append (Fragment.agree_bound highs))
      | equal | notEqual | greater | greaterOrEqual | less | lessOrEqual | like | notLike | isNull
      | isNotNull => exact .error _

/-- A membership test fails for its field and for having no values. -/
theorem memberFragment_agree (field : String) (negated : Bool) {left right : List Value}
    (values : List.Forall₂ related left right) :
    SameOutcome (Fragment.Agree related) (memberFragment field left negated)
      (memberFragment field right negated) := by
  unfold memberFragment
  cases Text.isBlankText field with
  | true => exact .error _
  | false =>
    cases values with
    | nil => exact .error _
    | cons first later =>
      exact .ok (((Fragment.agree_text _).append
        (Fragment.agree_boundList (.cons first later))).append (Fragment.agree_text _))

/-- Written predicates with the same connectives and related fragments. -/
abbrev WrittenAgree (related : Value → Value → Prop) :
    List (Connective × Fragment) → List (Connective × Fragment) → Prop :=
  List.Forall₂ fun first second => first.1 = second.1 ∧ first.2.Agree related second.2

/-- Predicates that agree are joined to fragments that agree. -/
theorem joinWritten_agree {left right : List (Connective × Fragment)}
    (written : WrittenAgree related left right) :
    (joinWritten left).Agree related (joinWritten right) := by
  induction written with
  | nil => exact ⟨rfl, .nil⟩
  | @cons first second rest others here later ih =>
    obtain ⟨connective, fragment⟩ := first
    obtain ⟨same, following⟩ := second
    obtain ⟨rfl, agree⟩ : connective = same ∧ fragment.Agree related following := here
    cases later with
    | nil => exact agree
    | @cons next nextOther _ _ joined _ =>
      obtain ⟨word, _⟩ := next
      obtain ⟨otherWord, _⟩ := nextOther
      obtain rfl : word = otherWord := joined.1
      exact (agree.append (Fragment.agree_text _)).append ih

mutual

/-- A clause and one that agrees with it compile alike. -/
theorem compileClause_agree (path : List Nat) {left right : Clause}
    (agree : left.Agree related right) :
    SameOutcome (Option.Rel (Fragment.Agree related)) (compileClause path left)
      (compileClause path right) := by
  cases agree with
  | compare field operator operands =>
    exact (compareFragment_agree field operator operands).map fun _ _ => .some
  | member field negated values =>
    exact (memberFragment_agree field negated values).map fun _ _ => .some
  | custom predicate => exact .error _
  | connective word => exact .ok .none
  | @group left right clauses =>
    have inner := compileClauses_agree path 0 none clauses
    rw [compileClause, compileClause]
    generalize compileClauses path 0 none left = first at inner ⊢
    generalize compileClauses path 0 none right = second at inner ⊢
    cases inner with
    | error cause => exact .error cause
    | ok written =>
      have joined := joinWritten_agree written
      cases written with
      | nil => exact .ok .none
      | cons =>
        exact .ok (.some (((Fragment.agree_text _).append joined).append (Fragment.agree_text _)))

/-- Conditions that agree write the same predicates, or fail at the same clause. -/
theorem compileClauses_agree (path : List Nat) (position : Nat) (pending : Option Connective)
    {left right : Condition} (agree : Condition.Agree related left right) :
    SameOutcome (WrittenAgree related) (compileClauses path position pending left)
      (compileClauses path position pending right) := by
  cases agree with
  | nil => exact .ok .nil
  | @cons left right rest others first later =>
    cases kind : left.connective? with
    | some word =>
      obtain rfl := Clause.connective?_eq_some (first.connective? ▸ kind)
      obtain rfl := Clause.connective?_eq_some kind
      rw [compileClauses, compileClauses]
      exact compileClauses_agree path (position + 1) (some word) later
    | none =>
      have head := compileClause_agree (path ++ [position]) first
      have following := compileClauses_agree path (position + 1) pending later
      have tail := compileClauses_agree path (position + 1) none later
      rw [compileClauses_cons kind, compileClauses_cons (first.connective? ▸ kind)]
      generalize compileClause (path ++ [position]) left = one at head ⊢
      generalize compileClause (path ++ [position]) right = other at head ⊢
      cases head with
      | error cause => exact .error cause
      | ok outputs =>
        cases outputs with
        | none => exact following
        | some fragments =>
          generalize compileClauses path (position + 1) none rest = behind at tail ⊢
          generalize compileClauses path (position + 1) none others = further at tail ⊢
          cases tail with
          | error cause => exact .error cause
          | ok written => exact .ok (.cons ⟨rfl, fragments⟩ written)

end

/-- Conditions that agree compile alike. -/
theorem compile_agree {left right : Condition} (agree : Agree related left right) :
    SameOutcome (Fragment.Agree related) left.compile right.compile :=
  (compileClauses_agree [] 0 none agree).map fun _ _ => joinWritten_agree

end Condition

/-! ### Statements -/

/-- Statements with one text and related arguments. -/
structure Statement.Agree (related : Value → Value → Prop) (left right : Statement) : Prop where
  sql : left.sql = right.sql
  arguments : List.Forall₂ related left.arguments right.arguments

/-- The restriction to a fragment is one of its text. -/
theorem Fragment.Agree.whereSql {left right : Fragment} (agree : left.Agree related right) :
    Query.whereSql left = Query.whereSql right := by
  rw [Query.whereSql, Query.whereSql, isEmpty, isEmpty, agree.sql]

namespace Query

/-- An update looks at the columns that it sets, and carries their values. -/
theorem toUpdate_eq (query : Query) (values : List (String × Value)) :
    query.toUpdate values =
      if (values.map Prod.fst).isEmpty then .error (.updateWithoutColumns query.table)
      else
        match (values.map Prod.fst).find? Text.isBlankText with
        | some column => .error (.invalidUpdateColumn column)
        | none =>
          query.condition.compile.map fun condition =>
            ⟨"UPDATE " ++ query.table ++ " SET " ++
                ", ".intercalate ((values.map Prod.fst).map fun column => column ++ " = ?") ++
                whereSql condition,
              values.map Prod.snd ++ condition.arguments⟩ := by
  rw [toUpdate, List.isEmpty_map, List.find?_map, List.map_map]
  congr 1
  have sameTest : Text.isBlankText ∘ Prod.fst =
    fun entry : String × Value => Text.isBlankText entry.1 := rfl
  rw [sameTest]
  cases values.find? fun entry => Text.isBlankText entry.1 <;> rfl

/-- Values to set in the same columns. -/
abbrev SameColumns (related : Value → Value → Prop) :
    List (String × Value) → List (String × Value) → Prop :=
  List.Forall₂ fun first second => first.1 = second.1 ∧ related first.2 second.2

/-- The names of the columns are the same. -/
theorem SameColumns.columns {left right : List (String × Value)}
    (same : SameColumns related left right) : left.map Prod.fst = right.map Prod.fst := by
  rw [← List.forall₂_eq_eq_eq, List.forall₂_map_left_iff, List.forall₂_map_right_iff]
  exact same.imp fun _ _ => And.left

/-- The values are related in turn. -/
theorem SameColumns.values {left right : List (String × Value)}
    (same : SameColumns related left right) :
    List.Forall₂ related (left.map Prod.snd) (right.map Prod.snd) := by
  rw [List.forall₂_map_left_iff, List.forall₂_map_right_iff]
  exact same.imp fun _ _ => And.right

/-- No value reaches the text of a statement, nor the cause of a failure. Take two
queries alike but for the values bound in their conditions, at any depth, and two lists
of values to set in the same columns. Each of the four statements fails in both for one
cause, or is written in both with one text. Whatever relation holds between the values,
place by place, then holds between the arguments, place by place. -/
theorem statements_agree (related : Value → Value → Prop) (query : Query) {other : Condition}
    (condition : Condition.Agree related query.condition other)
    {values others : List (String × Value)} (sets : SameColumns related values others) :
    let changed : Query := { query with condition := other }
    SameOutcome (Statement.Agree related) query.toSelect changed.toSelect ∧
    SameOutcome (Statement.Agree related) query.toCount changed.toCount ∧
    SameOutcome (Statement.Agree related) query.toDelete changed.toDelete ∧
    SameOutcome (Statement.Agree related) (query.toUpdate values) (changed.toUpdate others) := by
  intro changed
  have compiled := Condition.compile_agree condition
  refine ⟨?_, ?_, ?_, ?_⟩
  · refine compiled.map fun first second agree => ⟨?_, agree.arguments⟩
    rw [agree.whereSql]
    rfl
  · refine compiled.map fun first second agree => ⟨?_, agree.arguments⟩
    rw [agree.whereSql]
    rfl
  · refine compiled.map fun first second agree => ⟨?_, agree.arguments⟩
    rw [agree.whereSql]
  · rw [toUpdate_eq, toUpdate_eq, sets.columns]
    split
    · exact .error _
    · split
      · exact .error _
      · refine compiled.map fun first second agree => ⟨?_, ?_⟩
        · rw [agree.whereSql]
        · exact List.rel_append sets.values agree.arguments

/-- A text that would end the statement, a range and a list in a group, and a value to
set: the statements are the same for other values. -/
theorem statements_agree_of_hostile_text :
    let hostile : Condition :=
      [.compare "name" .equal (.value (.text "x'; DROP TABLE users --")), .connective .or,
        .group [.between "age" (.integer 18) .null, .member "id" [.text "?", .null] true]]
    let harmless : Condition :=
      [.compare "name" .equal (.value .null), .connective .or,
        .group [.between "age" .null .null, .member "id" [.null, .null] true]]
    let query : Query := (ofTable "users").restrict hostile
    Condition.Agree (fun _ _ => True) query.condition harmless ∧
    SameColumns (fun _ _ => True) [("note", .text "?")] [("note", .bytes [0])] ∧
    SameOutcome (Statement.Agree fun _ _ => True) (query.toUpdate [("note", .text "?")])
      ({ query with condition := harmless }.toUpdate [("note", .bytes [0])]) := by
  intro hostile harmless query
  have condition : Condition.Agree (fun _ _ => True) query.condition harmless :=
    .cons (.compare _ _ (.value trivial)) <| .cons (.connective _) <|
      .cons (.group (.cons (.compare _ _ (.range trivial trivial))
        (.cons (.member _ _ (.cons trivial (.cons trivial .nil))) .nil))) .nil
  have sets : SameColumns (fun _ _ => True) [("note", .text "?")] [("note", .bytes [0])] :=
    .cons ⟨rfl, trivial⟩ .nil
  exact ⟨condition, sets, (statements_agree (fun _ _ => True) query condition sets).2.2.2⟩

end Query

end QueryKit
