import QueryKit.Proofs.Condition.Grammar

/-!
# Two ways to read a condition

The clauses of a condition are to be read from left to right: each connective joins all
that was read before it to the predicate after it, and a group is read as a unit. The
text that a condition compiles to is read by SQL, in which AND binds tighter than OR.
This module gives both readings a truth value and says for which conditions they always
have the same one: those in which no AND follows an OR in the same group.

A predicate is known by its number, counted from left to right. Its text would not do,
as two predicates of one text may be bound to different values.
-/

namespace QueryKit

/-! ### Joined truth values -/

namespace Connective

/-- The truth value of two predicates joined by the connective. -/
def apply : Connective → Bool → Bool → Bool
  | .and, left, right => left && right
  | .or, left, right => left || right

/-- The truth value that changes nothing when the connective joins it to another. -/
def neutral : Connective → Bool
  | .and => true
  | .or => false

end Connective

/-- A way to evaluate a first truth value and those joined to it. -/
abbrev Evaluation := Bool → List (Connective × Bool) → Bool

namespace Evaluation

/-- Each connective joins all that stands before it to what comes next. -/
def leftToRight : Evaluation := fun first rest =>
  rest.foldl (fun before next => next.1.apply before next.2) first

/-- AND binds tighter than OR. -/
def bySql : Evaluation
  | first, [] => first
  | first, (.and, next) :: rest => bySql (first && next) rest
  | first, (.or, next) :: rest => first || bySql next rest

/-- What the two evaluations have in common: they agree on truth values that are all the
same, and a truth value that is neutral for its connective may be left out. -/
structure Lawful (evaluation : Evaluation) : Prop where
  uniform : ∀ value rest, (∀ next ∈ rest, next.2 = value) → evaluation value rest = value
  neutral_before : ∀ connective first rest,
    evaluation connective.neutral ((connective, first) :: rest) = evaluation first rest
  neutral_after : ∀ first rest, (∀ next ∈ rest, next.2 = next.1.neutral) →
    evaluation first rest = first

/-- Joining from left to right is lawful. -/
theorem lawful_leftToRight : Lawful leftToRight where
  uniform value rest same := by
    induction rest with
    | nil => rfl
    | cons next rest ih =>
      rw [List.forall_mem_cons] at same
      have kept : next.1.apply value next.2 = value := by
        rw [same.1]
        cases next.1 <;> simp [Connective.apply]
      rw [leftToRight, List.foldl_cons, kept]
      exact ih same.2
  neutral_before connective first rest := by
    cases connective <;> rfl
  neutral_after first rest neutral := by
    induction rest with
    | nil => rfl
    | cons next rest ih =>
      rw [List.forall_mem_cons] at neutral
      have kept : next.1.apply first next.2 = first := by
        rw [neutral.1]
        cases next.1 <;> simp [Connective.apply, Connective.neutral]
      rw [leftToRight, List.foldl_cons, kept]
      exact ih neutral.2

/-- Letting AND bind tighter is lawful. -/
theorem lawful_bySql : Lawful bySql where
  uniform value rest same := by
    induction rest with
    | nil => rfl
    | cons next rest ih =>
      rw [List.forall_mem_cons] at same
      obtain ⟨connective, truth⟩ := next
      obtain ⟨rfl, others⟩ := same
      cases connective <;> simp [bySql, ih others]
  neutral_before connective first rest := by
    cases connective <;> simp [bySql, Connective.neutral]
  neutral_after first rest neutral := by
    induction rest generalizing first with
    | nil => rfl
    | cons next rest ih =>
      rw [List.forall_mem_cons] at neutral
      obtain ⟨connective, truth⟩ := next
      obtain ⟨same, others⟩ := neutral
      cases connective with
      | and => rw [bySql, show truth = true from same, Bool.and_true, ih first others]
      | or => rw [bySql, show truth = false from same, ih false others, Bool.or_false]

/-- What stands before a row of ORs can be taken out of it. -/
theorem leftToRight_or {rest : List (Connective × Bool)} (ors : ∀ next ∈ rest, next.1 = .or)
    (before first : Bool) :
    leftToRight (before || first) rest = (before || leftToRight first rest) := by
  induction rest generalizing first with
  | nil => rfl
  | cons next rest ih =>
    rw [List.forall_mem_cons] at ors
    obtain ⟨connective, truth⟩ := next
    obtain ⟨rfl, others⟩ := ors
    have shifted := ih others (first || truth)
    rwa [← Bool.or_assoc] at shifted

/-- The evaluations agree where only ORs follow an OR. -/
theorem bySql_eq_leftToRight {rest : List (Connective × Bool)}
    (unmixed : (rest.map Prod.fst).Pairwise fun earlier later => earlier = .or → later = .or)
    (first : Bool) : bySql first rest = leftToRight first rest := by
  induction rest generalizing first with
  | nil => rfl
  | cons next rest ih =>
    obtain ⟨connective, truth⟩ := next
    rw [List.map_cons, List.pairwise_cons] at unmixed
    cases connective with
    | and => exact ih unmixed.2 (first && truth)
    | or =>
      have ors : ∀ next ∈ rest, next.1 = .or := fun next member =>
        unmixed.1 next.1 (List.mem_map_of_mem member) rfl
      rw [bySql, ih unmixed.2, ← leftToRight_or ors]
      rfl

/-- From left to right, an AND before truth values that are all false decides. -/
theorem leftToRight_eq_false {rest : List (Connective × Bool)}
    (falses : ∀ next ∈ rest, next.2 = false) (joined : .and ∈ rest.map Prod.fst)
    (first : Bool) : leftToRight first rest = false := by
  induction rest generalizing first with
  | nil => simp at joined
  | cons next rest ih =>
    obtain ⟨connective, truth⟩ := next
    rw [List.forall_mem_cons] at falses
    obtain ⟨rfl, others⟩ := falses
    cases connective with
    | and =>
      have decided : (first && false) = false := Bool.and_false first
      rw [leftToRight, List.foldl_cons, Connective.apply, decided]
      exact lawful_leftToRight.uniform false rest others
    | or =>
      have later : .and ∈ rest.map Prod.fst := by simpa using joined
      exact ih others later _

end Evaluation

/-! ### The value of a sentence -/

variable {α β : Type}

mutual

/-- The number of tests in a predicate. -/
def Predicate.size : Predicate α → Nat
  | .test _ _ => 1
  | .group sentence => sentence.size

/-- The number of tests in a sentence. -/
def Sentence.size : Sentence α → Nat
  | .single predicate => predicate.size
  | .joined predicate _ rest => predicate.size + rest.size

end

mutual

/-- The truth value of a predicate whose tests are numbered from `number` on. -/
def Predicate.truth (evaluation : Evaluation) (truth : Nat → Bool) (number : Nat) :
    Predicate α → Bool
  | .test _ _ => truth number
  | .group sentence =>
    let truths := sentence.truths evaluation truth number
    evaluation truths.1 truths.2

/-- The truth values of the predicates of a sentence, each but the first with the
connective that joins it. -/
def Sentence.truths (evaluation : Evaluation) (truth : Nat → Bool) (number : Nat) :
    Sentence α → Bool × List (Connective × Bool)
  | .single predicate => (predicate.truth evaluation truth number, [])
  | .joined predicate connective rest =>
    let following := rest.truths evaluation truth (number + predicate.size)
    (predicate.truth evaluation truth number, (connective, following.1) :: following.2)

end

/-- The truth value of a sentence whose tests are numbered from `number` on. -/
def Sentence.truth (evaluation : Evaluation) (truth : Nat → Bool) (number : Nat)
    (sentence : Sentence α) : Bool :=
  evaluation (sentence.truths evaluation truth number).1
    (sentence.truths evaluation truth number).2

section Map

variable (convert : α → β) (evaluation : Evaluation) (truth : Nat → Bool)

mutual

/-- Converting its values leaves a predicate its size. -/
theorem Predicate.size_map (predicate : Predicate α) :
    (predicate.map convert).size = predicate.size := by
  match predicate with
  | .test field test => rfl
  | .group sentence => exact Sentence.size_map sentence

/-- Converting its values leaves a sentence its size. -/
theorem Sentence.size_map (sentence : Sentence α) :
    (sentence.map convert).size = sentence.size := by
  match sentence with
  | .single predicate => exact Predicate.size_map predicate
  | .joined predicate connective rest =>
    rw [Sentence.map, Sentence.size, Sentence.size, Predicate.size_map, Sentence.size_map]

end

mutual

/-- Truth does not depend on what the values of a predicate are converted to. -/
theorem Predicate.truth_map (number : Nat) (predicate : Predicate α) :
    (predicate.map convert).truth evaluation truth number =
      predicate.truth evaluation truth number := by
  match predicate with
  | .test field test => rfl
  | .group sentence => rw [Predicate.map, Predicate.truth, Predicate.truth, Sentence.truths_map]

/-- Truth does not depend on what stands for a value. -/
theorem Sentence.truths_map (number : Nat) (sentence : Sentence α) :
    (sentence.map convert).truths evaluation truth number =
      sentence.truths evaluation truth number := by
  match sentence with
  | .single predicate =>
    rw [Sentence.map, Sentence.truths, Sentence.truths, Predicate.truth_map]
  | .joined predicate connective rest =>
    rw [Sentence.map, Sentence.truths, Sentence.truths, Predicate.truth_map, Predicate.size_map,
      Sentence.truths_map]

end

end Map

/-! ### The reading from left to right -/

mutual

/-- The number of predicates in a clause. -/
def Clause.size : Clause → Nat
  | .compare _ _ _ => 1
  | .member _ _ _ => 1
  | .custom _ => 0
  | .connective _ => 0
  | .group clauses => Condition.size clauses

/-- The number of predicates in a list of clauses. -/
def Condition.size : Condition → Nat
  | [] => 0
  | clause :: rest => clause.size + Condition.size rest

end

mutual

/-- The truth value of a clause whose predicates are numbered from `number` on, if it holds
any. A group is a unit. -/
def Clause.truth? (truth : Nat → Bool) (number : Nat) : Clause → Option Bool
  | .compare _ _ _ => some (truth number)
  | .member _ _ _ => some (truth number)
  | .custom _ => none
  | .connective _ => none
  | .group clauses => Condition.truthAfter truth number none none clauses

/-- The truth value of clauses after what was read `before` them. The connective of a
predicate is the last one since the predicate before it, or AND. -/
def Condition.truthAfter (truth : Nat → Bool) (number : Nat) (before : Option Bool)
    (pending : Option Connective) : Condition → Option Bool
  | [] => before
  | .connective connective :: rest => Condition.truthAfter truth number before (some connective) rest
  | clause :: rest =>
    match clause.truth? truth number with
    | none => Condition.truthAfter truth number before pending rest
    | some value =>
      let joined := before.elim value fun earlier => (pending.getD .and).apply earlier value
      Condition.truthAfter truth (number + clause.size) (some joined) none rest

end

namespace Condition

/-- The truth value of a condition read from left to right, if it holds any predicate. -/
def leftToRight? (condition : Condition) (truth : Nat → Bool) : Option Bool :=
  condition.truthAfter truth 0 none none

/-- A clause that is no connective is read, and then the clauses after it. -/
theorem truthAfter_cons {clause : Clause} (predicate : clause.connective? = none)
    (rest : Condition) (truth : Nat → Bool) (number : Nat) (before : Option Bool)
    (pending : Option Connective) :
    truthAfter truth number before pending (clause :: rest) =
      match clause.truth? truth number with
      | none => truthAfter truth number before pending rest
      | some value =>
        truthAfter truth (number + clause.size)
          (some (before.elim value fun earlier => (pending.getD .and).apply earlier value))
          none rest := by
  cases clause with
  | connective word => simp [Clause.connective?] at predicate
  | compare | member | custom | group => exact truthAfter.eq_def _ _ _ _ _

mutual

/-- A clause has as many tests as the predicate it stands for. -/
theorem size_of_predicate? {clause : Clause} (writable : clause.Writable) :
    clause.size = clause.predicate?.elim 0 Predicate.size := by
  match clause with
  | .compare field operator operand =>
    obtain ⟨test, fits⟩ := Option.isSome_iff_exists.1 writable.2
    simp [Clause.predicate?, fits, Clause.size, Predicate.size]
  | .member field [] negated => exact absurd rfl writable.2
  | .member field (first :: rest) negated => rfl
  | .connective word => rfl
  | .group clauses =>
    rw [Clause.predicate?, Clause.size,
      size_of_sentence? (show Condition.Writable clauses from writable)]
    cases sentence? clauses <;> rfl

/-- A condition has as many tests as the sentence it stands for. -/
theorem size_of_sentence? {condition : Condition} (writable : condition.Writable) :
    condition.size = condition.sentence?.elim 0 Sentence.size := by
  match condition with
  | [] => rfl
  | clause :: rest =>
    rw [size, size_of_predicate? writable.1, size_of_sentence? writable.2, sentence?]
    cases clause.predicate? <;> cases sentence? rest <;> simp [Sentence.size]

end

mutual

/-- A clause that can be written is read as the predicate it stands for. -/
theorem truth?_of_writable {clause : Clause} (writable : clause.Writable) (truth : Nat → Bool)
    (number : Nat) :
    clause.truth? truth number =
      clause.predicate?.map (Predicate.truth .leftToRight truth number) := by
  match clause with
  | .compare field operator operand =>
    obtain ⟨test, fits⟩ := Option.isSome_iff_exists.1 writable.2
    simp [Clause.predicate?, fits, Clause.truth?, Predicate.truth]
  | .member field [] negated => exact absurd rfl writable.2
  | .member field (first :: rest) negated => rfl
  | .connective word => rfl
  | .group clauses =>
    rw [Clause.predicate?, Clause.truth?,
      truthAfter_of_writable (show Condition.Writable clauses from writable)]
    cases sentence? clauses <;> rfl

/-- Clauses that can be written are read as the sentence they stand for, joined to what was
read before by the last connective that leads them. -/
theorem truthAfter_of_writable {condition : Condition} (writable : condition.Writable)
    (truth : Nat → Bool) (number : Nat) (before : Option Bool) (pending : Option Connective) :
    condition.truthAfter truth number before pending =
      condition.sentence?.elim before fun sentence =>
        let truths := sentence.truths .leftToRight truth number
        let connective := (condition.leadingConnective?.or pending).getD .and
        some (Evaluation.leftToRight
          (before.elim truths.1 fun earlier => connective.apply earlier truths.1) truths.2) := by
  match condition with
  | [] => rfl
  | clause :: rest =>
    rw [leadingConnective?_cons, ← isSome_predicate? writable.1]
    cases kind : clause.connective? with
    | some word =>
      obtain rfl := Clause.connective?_eq_some kind
      rw [truthAfter, truthAfter_of_writable writable.2, sentence?]
      simp [Clause.predicate?]
    | none =>
      rw [truthAfter_cons kind, truth?_of_writable writable.1, sentence?]
      have following := fun number before pending =>
        truthAfter_of_writable writable.2 truth number before pending
      have size := size_of_predicate? writable.1
      cases meaning : clause.predicate? with
      | none => simp [following]
      | some predicate =>
        rw [meaning] at size
        simp only [following, Option.map_some, size, Option.elim_some]
        cases sentence? rest with
        | none => simp [Sentence.truths, Evaluation.leftToRight]
        | some sentence => simp [Sentence.truths, Evaluation.leftToRight, connectiveBefore]

end

/-- A condition that can be written is read from left to right as its sentence is. -/
theorem leftToRight?_of_writable {condition : Condition} (writable : condition.Writable)
    (truth : Nat → Bool) :
    condition.leftToRight? truth =
      condition.sentence?.map (Sentence.truth .leftToRight truth 0) := by
  rw [leftToRight?, truthAfter_of_writable writable]
  cases condition.sentence? <;> rfl

end Condition

/-! ### Sentences without an AND after an OR -/

/-- The connectives of a sentence, those inside its groups apart. -/
def Sentence.connectives : Sentence α → List Connective
  | .single _ => []
  | .joined _ connective rest => connective :: rest.connectives

mutual

/-- Whether no group in the predicate has an AND after an OR. -/
def Predicate.Unmixed : Predicate α → Prop
  | .test _ _ => True
  | .group sentence => sentence.Unmixed

/-- Whether no AND follows an OR, neither in the sentence nor in a group at any depth. -/
def Sentence.Unmixed : Sentence α → Prop
  | .single predicate => predicate.Unmixed
  | .joined predicate connective rest =>
    predicate.Unmixed ∧ rest.Unmixed ∧ (connective = .or → .and ∉ rest.connectives)

end

/-- The truth values of a sentence are joined by its connectives. -/
theorem Sentence.connectives_eq (evaluation : Evaluation) (truth : Nat → Bool) (number : Nat)
    (sentence : Sentence α) :
    (sentence.truths evaluation truth number).2.map Prod.fst = sentence.connectives := by
  match sentence with
  | .single predicate => rfl
  | .joined predicate connective rest =>
    rw [truths, List.map_cons, connectives_eq, connectives]

/-- In an unmixed sentence all that follows an OR is OR. -/
theorem Sentence.Unmixed.pairwise {sentence : Sentence α} (unmixed : sentence.Unmixed) :
    sentence.connectives.Pairwise fun earlier later => earlier = .or → later = .or := by
  match sentence with
  | .single predicate => exact .nil
  | .joined predicate connective rest =>
    obtain ⟨-, restUnmixed, ors⟩ := unmixed
    refine .cons (fun later member or => ?_) restUnmixed.pairwise
    cases later with
    | and => exact absurd member (ors or)
    | or => rfl

mutual

/-- Both readings of an unmixed predicate have one value. -/
theorem Predicate.Unmixed.truth_eq {predicate : Predicate α} (unmixed : predicate.Unmixed)
    (truth : Nat → Bool) (number : Nat) :
    predicate.truth .bySql truth number = predicate.truth .leftToRight truth number := by
  match predicate with
  | .test field test => rfl
  | .group sentence => exact Sentence.Unmixed.truth_eq unmixed truth number

/-- Both readings of an unmixed sentence join the same truth values. -/
theorem Sentence.Unmixed.truths_eq {sentence : Sentence α} (unmixed : sentence.Unmixed)
    (truth : Nat → Bool) (number : Nat) :
    sentence.truths .bySql truth number = sentence.truths .leftToRight truth number := by
  match sentence with
  | .single predicate =>
    rw [Sentence.truths, Sentence.truths, Predicate.Unmixed.truth_eq unmixed]
  | .joined predicate connective rest =>
    rw [Sentence.truths, Sentence.truths, Predicate.Unmixed.truth_eq unmixed.1,
      Sentence.Unmixed.truths_eq unmixed.2.1]

/-- Where no AND follows an OR, both readings have one value. -/
theorem Sentence.Unmixed.truth_eq {sentence : Sentence α} (unmixed : sentence.Unmixed)
    (truth : Nat → Bool) (number : Nat) :
    sentence.truth .bySql truth number = sentence.truth .leftToRight truth number := by
  rw [Sentence.truth, Sentence.truth, Sentence.Unmixed.truths_eq unmixed]
  apply Evaluation.bySql_eq_leftToRight
  rw [Sentence.connectives_eq]
  exact unmixed.pairwise

end

/-! ### Sentences with an AND after an OR -/

/-- One assignment of truth values below a number and another one from it on. -/
def splice (limit : Nat) (before after : Nat → Bool) : Nat → Bool :=
  fun number => if number < limit then before number else after number

mutual

/-- A predicate looks at the numbers of its own tests only. -/
theorem Predicate.truth_congr (evaluation : Evaluation) {left right : Nat → Bool}
    (predicate : Predicate α) {number : Nat}
    (same : ∀ index, number ≤ index → index < number + predicate.size → left index = right index) :
    predicate.truth evaluation left number = predicate.truth evaluation right number := by
  match predicate with
  | .test field test => exact same number (Nat.le_refl _) (Nat.lt_succ_self _)
  | .group sentence =>
    rw [Predicate.truth, Predicate.truth, Sentence.truths_congr evaluation sentence same]

/-- A sentence looks at the numbers of its own tests only. -/
theorem Sentence.truths_congr (evaluation : Evaluation) {left right : Nat → Bool}
    (sentence : Sentence α) {number : Nat}
    (same : ∀ index, number ≤ index → index < number + sentence.size → left index = right index) :
    sentence.truths evaluation left number = sentence.truths evaluation right number := by
  match sentence with
  | .single predicate =>
    rw [Sentence.truths, Sentence.truths, Predicate.truth_congr evaluation predicate same]
  | .joined predicate connective rest =>
    have head : ∀ index, number ≤ index → index < number + predicate.size →
        left index = right index := by
      intro index lower upper
      apply same index lower
      simp only [Sentence.size]
      omega
    have tail : ∀ index, number + predicate.size ≤ index →
        index < number + predicate.size + rest.size → left index = right index := by
      intro index lower upper
      apply same index
      · omega
      · simp only [Sentence.size]
        omega
    rw [Sentence.truths, Sentence.truths, Predicate.truth_congr evaluation predicate head,
      Sentence.truths_congr evaluation rest tail]

end

/-- The truth values of a joined sentence can be chosen apart for its first predicate and
for the rest. -/
theorem Sentence.truths_splice (evaluation : Evaluation) (predicate : Predicate α)
    (connective : Connective) (rest : Sentence α) (number : Nat) (before after : Nat → Bool) :
    (joined predicate connective rest).truths evaluation
        (splice (number + predicate.size) before after) number =
      let following := rest.truths evaluation after (number + predicate.size)
      (predicate.truth evaluation before number, (connective, following.1) :: following.2) := by
  have head : predicate.truth evaluation (splice (number + predicate.size) before after) number =
      predicate.truth evaluation before number := by
    apply Predicate.truth_congr
    intro index _ upper
    rw [splice, if_pos upper]
  have tail : rest.truths evaluation (splice (number + predicate.size) before after)
      (number + predicate.size) = rest.truths evaluation after (number + predicate.size) := by
    apply Sentence.truths_congr
    intro index lower _
    rw [splice, if_neg (by omega)]
  rw [truths, head, tail]

mutual

/-- A predicate whose tests are all true is true, and one whose tests are all false is
false. -/
theorem Predicate.truth_const {evaluation : Evaluation} (lawful : evaluation.Lawful)
    (value : Bool) (number : Nat) (predicate : Predicate α) :
    predicate.truth evaluation (fun _ => value) number = value := by
  match predicate with
  | .test field test => rfl
  | .group sentence =>
    obtain ⟨first, others⟩ := Sentence.truths_const lawful value number sentence
    rw [Predicate.truth, first]
    exact lawful.uniform value _ others

/-- If all tests have one truth value, so have the predicates of a sentence. -/
theorem Sentence.truths_const {evaluation : Evaluation} (lawful : evaluation.Lawful)
    (value : Bool) (number : Nat) (sentence : Sentence α) :
    (sentence.truths evaluation (fun _ => value) number).1 = value ∧
      ∀ next ∈ (sentence.truths evaluation (fun _ => value) number).2, next.2 = value := by
  match sentence with
  | .single predicate => exact ⟨Predicate.truth_const lawful value number predicate, nofun⟩
  | .joined predicate connective rest =>
    obtain ⟨first, others⟩ :=
      Sentence.truths_const lawful value (number + predicate.size) rest
    refine ⟨Predicate.truth_const lawful value number predicate, ?_⟩
    rw [Sentence.truths, List.forall_mem_cons]
    exact ⟨first, others⟩

end

/-- What follows a predicate can be given truth values that change nothing. -/
theorem Sentence.exists_neutral (connective : Connective) (number : Nat) (sentence : Sentence α) :
    ∃ truth, ∀ evaluation : Evaluation, evaluation.Lawful →
      (sentence.truths evaluation truth number).1 = connective.neutral ∧
      ∀ next ∈ (sentence.truths evaluation truth number).2, next.2 = next.1.neutral := by
  match sentence with
  | .single predicate =>
    exact ⟨fun _ => connective.neutral, fun evaluation lawful =>
      ⟨predicate.truth_const lawful connective.neutral number, nofun⟩⟩
  | .joined predicate following rest =>
    obtain ⟨after, neutral⟩ := exists_neutral following (number + predicate.size) rest
    refine ⟨splice (number + predicate.size) (fun _ => connective.neutral) after, ?_⟩
    intro evaluation lawful
    obtain ⟨first, others⟩ := neutral evaluation lawful
    rw [truths_splice, List.forall_mem_cons]
    exact ⟨predicate.truth_const lawful connective.neutral number, first, others⟩

namespace Sentence

open Evaluation

variable {predicate : Predicate α} {rest : Sentence α} (connective : Connective) {number : Nat}

/-- A first predicate with two values shows when nothing after it matters. -/
theorem exists_truth_ne_of_first {before : Nat → Bool}
    (differs : predicate.truth bySql before number ≠ predicate.truth leftToRight before number) :
    ∃ truth, (joined predicate connective rest).truth bySql truth number ≠
      (joined predicate connective rest).truth leftToRight truth number := by
  obtain ⟨after, neutral⟩ := rest.exists_neutral connective (number + predicate.size)
  have first : ∀ evaluation : Evaluation, evaluation.Lawful →
      (joined predicate connective rest).truth evaluation
        (splice (number + predicate.size) before after) number =
      predicate.truth evaluation before number := by
    intro evaluation lawful
    obtain ⟨next, others⟩ := neutral evaluation lawful
    rw [truth, truths_splice]
    apply lawful.neutral_after
    rw [List.forall_mem_cons]
    exact ⟨next, others⟩
  refine ⟨splice (number + predicate.size) before after, ?_⟩
  rwa [first bySql lawful_bySql, first leftToRight lawful_leftToRight]

/-- A rest with two values shows when the first predicate does not matter. -/
theorem exists_truth_ne_of_rest {after : Nat → Bool}
    (differs : rest.truth bySql after (number + predicate.size) ≠
      rest.truth leftToRight after (number + predicate.size)) :
    ∃ truth, (joined predicate connective rest).truth bySql truth number ≠
      (joined predicate connective rest).truth leftToRight truth number := by
  have following : ∀ evaluation : Evaluation, evaluation.Lawful →
      (joined predicate connective rest).truth evaluation
        (splice (number + predicate.size) (fun _ => connective.neutral) after) number =
      rest.truth evaluation after (number + predicate.size) := by
    intro evaluation lawful
    rw [truth, truths_splice, predicate.truth_const lawful]
    exact lawful.neutral_before _ _ _
  refine ⟨splice (number + predicate.size) (fun _ => connective.neutral) after, ?_⟩
  rwa [following bySql lawful_bySql, following leftToRight lawful_leftToRight]

/-- An OR and a later AND show when the first predicate is true and all others are false. -/
theorem exists_truth_ne_of_or_and (later : .and ∈ rest.connectives) :
    ∃ truth, (joined predicate .or rest).truth bySql truth number ≠
      (joined predicate .or rest).truth leftToRight truth number := by
  have sql : (joined predicate .or rest).truth bySql
      (splice (number + predicate.size) (fun _ => true) fun _ => false) number = true := by
    rw [truth, truths_splice, predicate.truth_const lawful_bySql]
    rfl
  have read : (joined predicate .or rest).truth leftToRight
      (splice (number + predicate.size) (fun _ => true) fun _ => false) number = false := by
    obtain ⟨first, falses⟩ :=
      rest.truths_const lawful_leftToRight false (number + predicate.size)
    rw [truth, truths_splice]
    apply leftToRight_eq_false
    · rw [List.forall_mem_cons]
      exact ⟨first, falses⟩
    · rw [List.map_cons, connectives_eq]
      exact List.mem_cons_of_mem _ later
  refine ⟨splice (number + predicate.size) (fun _ => true) fun _ => false, ?_⟩
  rw [sql, read]
  decide

end Sentence

open Evaluation in
mutual

/-- A predicate with an AND after an OR has two values for some truth values of its tests. -/
theorem Predicate.exists_truth_ne {predicate : Predicate α} (mixed : ¬predicate.Unmixed)
    (number : Nat) :
    ∃ truth, predicate.truth bySql truth number ≠ predicate.truth leftToRight truth number := by
  match predicate with
  | .test field test => exact absurd trivial mixed
  | .group sentence => exact Sentence.exists_truth_ne mixed number

/-- A sentence with an AND after an OR, at whatever depth, has two values for some truth
values of its tests. -/
theorem Sentence.exists_truth_ne {sentence : Sentence α} (mixed : ¬sentence.Unmixed)
    (number : Nat) :
    ∃ truth, sentence.truth bySql truth number ≠ sentence.truth leftToRight truth number := by
  match sentence with
  | .single predicate => exact Predicate.exists_truth_ne mixed number
  | .joined predicate connective rest =>
    by_cases restUnmixed : rest.Unmixed
    · by_cases firstUnmixed : predicate.Unmixed
      · by_cases later : .and ∈ rest.connectives
        · cases connective with
          | and => exact absurd ⟨firstUnmixed, restUnmixed, nofun⟩ mixed
          | or => exact Sentence.exists_truth_ne_of_or_and later
        · exact absurd ⟨firstUnmixed, restUnmixed, fun _ => later⟩ mixed
      · obtain ⟨before, differs⟩ := Predicate.exists_truth_ne firstUnmixed number
        exact Sentence.exists_truth_ne_of_first connective differs
    · obtain ⟨after, differs⟩ :=
        Sentence.exists_truth_ne restUnmixed (number + predicate.size)
      exact Sentence.exists_truth_ne_of_rest connective differs

end

/-! ### The text of a condition -/

namespace Condition

/-- Whether no AND is written after an OR, neither in the condition nor in a group at any
depth. -/
def Unmixed (condition : Condition) : Prop :=
  ∀ sentence, condition.normalForm = some sentence → sentence.Unmixed

/-- Giving up the values of a condition does not change its truth. -/
theorem truth_normalForm (condition : Condition) (evaluation : Evaluation) (truth : Nat → Bool) :
    condition.normalForm.map (Sentence.truth evaluation truth 0) =
      condition.sentence?.map (Sentence.truth evaluation truth 0) := by
  rw [normalForm, Option.map_map]
  congr 1
  funext sentence
  rw [Function.comp_apply, Sentence.truth, Sentence.truths_map, Sentence.truth]

/-- The text of a condition that compiles is read as its normal form, and as nothing else if
its fields are names. The value that SQL gives to the text is that of the clauses read from
left to right, whatever the truth values of the predicates, exactly if no AND is written
after an OR in the same group. -/
theorem sql_truth_eq_iff_unmixed {condition : Condition} {fragment : Fragment}
    (compiled : condition.compile = .ok fragment) :
    fragment.sql = condition.normalForm.elim "" (Sentence.text placeholder) ∧
    ((∀ field ∈ condition.fields, IsName field) →
      ∀ reading, Reads fragment.sql reading ↔ reading = condition.normalForm) ∧
    ((∀ truth, condition.normalForm.map (Sentence.truth .bySql truth 0) =
        condition.leftToRight? truth) ↔ condition.Unmixed) := by
  have writable := writable_of_compile compiled
  refine ⟨?_, fun names reading => ?_, ?_⟩
  · rw [eq_of_compile compiled, normalForm]
    cases condition.sentence? with
    | none => rfl
    | some sentence => exact (sentence.text_map (fun _ => ()) placeholder).symm
  · have reads := reads_normalForm compiled names
    constructor
    · exact fun other => other.unique reads
    · rintro rfl
      exact reads
  · have readLeft : ∀ truth, condition.leftToRight? truth =
        condition.normalForm.map (Sentence.truth .leftToRight truth 0) := fun truth => by
      rw [leftToRight?_of_writable writable, truth_normalForm]
    constructor
    · intro agree sentence meaning
      by_cases unmixed : sentence.Unmixed
      · exact unmixed
      · obtain ⟨truth, differs⟩ := sentence.exists_truth_ne unmixed 0
        have same := (agree truth).trans (readLeft truth)
        rw [meaning] at same
        exact absurd (Option.some.inj same) differs
    · intro unmixed truth
      rw [readLeft]
      cases meaning : condition.normalForm with
      | none => rfl
      | some sentence => exact congrArg some ((unmixed sentence meaning).truth_eq truth 0)

/-- ORs after an AND, with an AND after an OR only across the bounds of a group. -/
theorem sql_truth_eq_iff_unmixed_of_group :
    let condition : Condition :=
      [.isNull "a", .connective .and, .group [.isNull "b", .connective .or, .isNull "c"],
        .connective .or, .isNull "d"]
    condition.compile = .ok ⟨"a IS NULL AND (b IS NULL OR c IS NULL) OR d IS NULL", [], 0⟩ ∧
    ∀ truth, condition.normalForm.map (Sentence.truth .bySql truth 0) =
      condition.leftToRight? truth := by
  intro condition
  have compiled : condition.compile =
      .ok ⟨"a IS NULL AND (b IS NULL OR c IS NULL) OR d IS NULL", [], 0⟩ := rfl
  have unmixed : condition.Unmixed := by
    rintro sentence meaning
    obtain rfl := Option.some.inj meaning
    exact ⟨trivial, ⟨⟨trivial, trivial, by decide⟩, trivial, by decide⟩, by decide⟩
  exact ⟨compiled, (sql_truth_eq_iff_unmixed compiled).2.2.2 unmixed⟩

/-- A true predicate, an OR, a false one, an AND and a false one: the text has one reading,
which is true by the rules of SQL, and the clauses read from left to right are false. -/
theorem or_before_and_has_two_values :
    let condition : Condition :=
      [.compare "a" .equal (.value (.integer 1)), .connective .or,
        .compare "b" .equal (.value (.integer 2)), .connective .and,
        .compare "c" .equal (.value (.integer 3))]
    let truth : Nat → Bool := fun number => number = 0
    condition.compile =
      .ok ⟨"a = ? OR b = ? AND c = ?", [.integer 1, .integer 2, .integer 3], 3⟩ ∧
    Reads "a = ? OR b = ? AND c = ?" condition.normalForm ∧
    (∀ reading, Reads "a = ? OR b = ? AND c = ?" reading →
      reading.map (Sentence.truth .bySql truth 0) = some true) ∧
    condition.leftToRight? truth = some false := by
  intro condition truth
  have compiled : condition.compile =
      .ok ⟨"a = ? OR b = ? AND c = ?", [.integer 1, .integer 2, .integer 3], 3⟩ := rfl
  have names : ∀ field ∈ condition.fields, IsName field := by decide
  have reads : Reads "a = ? OR b = ? AND c = ?" condition.normalForm :=
    reads_normalForm compiled names
  refine ⟨compiled, reads, fun reading other => ?_, rfl⟩
  rw [other.unique reads]
  rfl

end Condition

end QueryKit
