import Mathlib.Data.List.Forall2

/-!
# Delimited text

Two ways in which a part of a text can be told from what follows it: it ends at a mark that it
does not contain, or it carries its own end. Lists in brackets carry their own end if their
items can be told from the comma or the bracket behind them.
-/

namespace QueryKit

/-- What stands before the first mark is determined. -/
theorem append_mark_inj {α : Type} {mark : α} {left right leftRest rightRest : List α}
    (leftClear : mark ∉ left) (rightClear : mark ∉ right)
    (same : left ++ mark :: leftRest = right ++ mark :: rightRest) :
    left = right ∧ leftRest = rightRest := by
  rcases List.append_eq_append_iff.1 same with ⟨middle, rfl, shared⟩ | ⟨middle, rfl, shared⟩
  · cases middle with
    | nil => simpa using shared
    | cons first others =>
      obtain ⟨rfl, -⟩ := List.cons.inj shared
      simp at rightClear
  · cases middle with
    | nil => simpa [eq_comm] using shared
    | cons first others =>
      obtain ⟨rfl, -⟩ := List.cons.inj shared
      simp at leftClear

/-- Written forms that carry their own end: what is written first can be told, up to a relation,
and so can what follows it. -/
def SelfDelimiting {α : Type} (write : α → List Char) (same : α → α → Prop) : Prop :=
  ∀ left right rest restToo, write left ++ rest = write right ++ restToo →
    same left right ∧ rest = restToo

section Lists

variable {α : Type} {write : α → List Char} {same : α → α → Prop}

/-- The items behind an item of a written list, each after a comma, and the closing bracket. -/
def listedBehind (write : α → List Char) : List α → List Char
  | [] => [']']
  | item :: rest => ',' :: ' ' :: write item ++ listedBehind write rest

/-- Written items separated by commas, and the closing bracket. -/
def listed (write : α → List Char) : List α → List Char
  | [] => [']']
  | item :: rest => write item ++ listedBehind write rest

/-- Texts separated by commas, with a closing bracket, are a written list. -/
theorem toList_intercalate_append (text : α → String) (items : List α) :
    (", ".intercalate (items.map text)).toList ++ [']'] =
      listed (fun item => (text item).toList) items := by
  rw [String.toList_intercalate, List.map_map]
  induction items with
  | nil => rfl
  | cons item rest ih =>
    cases rest with
    | nil => simp [listed, listedBehind]
    | cons next others =>
      simp only [listed, Function.comp_apply, List.map_cons] at ih
      simp [listed, listedBehind, ← ih]

/-- What may follow an item of a list. -/
def FollowsItem (rest : List Char) : Prop := ∃ behind, rest = ',' :: behind ∨ rest = ']' :: behind

/-- Written items that can be told from what follows them in a list. -/
structure Separable (write : α → List Char) (same : α → α → Prop) : Prop where
  /-- No item is taken for the end of the list. -/
  opens : ∀ item rest behind, write item ++ rest ≠ ']' :: behind
  /-- Item and rest can be told. -/
  told : ∀ left right rest restToo, FollowsItem rest → FollowsItem restToo →
    write left ++ rest = write right ++ restToo → same left right ∧ rest = restToo

/-- The end of a list follows an item. -/
theorem followsItem_listedBehind (items : List α) (rest : List Char) :
    FollowsItem (listedBehind write items ++ rest) := by
  cases items with
  | nil => exact ⟨rest, .inr rfl⟩
  | cons item others => exact ⟨_, .inl rfl⟩

/-- The items behind an item can be told. -/
theorem selfDelimiting_listedBehind (separable : Separable write same) :
    SelfDelimiting (listedBehind write) (List.Forall₂ same) := by
  intro left
  induction left with
  | nil =>
    intro right rest restToo equal
    cases right with
    | nil => exact ⟨.nil, (List.cons.inj equal).2⟩
    | cons item others => exact absurd (List.cons.inj equal).1 (by decide)
  | cons first others ih =>
    intro right rest restToo equal
    cases right with
    | nil => exact absurd (List.cons.inj equal).1 (by decide)
    | cons item behind =>
      simp only [listedBehind, List.cons_append, List.append_assoc, List.cons.injEq, true_and]
        at equal
      obtain ⟨items, later⟩ := separable.told first item _ _ (followsItem_listedBehind others rest)
        (followsItem_listedBehind behind restToo) equal
      obtain ⟨all, rests⟩ := ih behind rest restToo later
      exact ⟨.cons items all, rests⟩

/-- A list carries its own end. -/
theorem selfDelimiting_listed (separable : Separable write same) :
    SelfDelimiting (listed write) (List.Forall₂ same) := by
  intro left right rest restToo equal
  match left, right with
  | [], [] => exact ⟨.nil, (List.cons.inj equal).2⟩
  | [], item :: others =>
    rw [listed, listed, List.append_assoc] at equal
    exact absurd equal.symm (separable.opens item _ _)
  | item :: others, [] =>
    rw [listed, listed, List.append_assoc] at equal
    exact absurd equal (separable.opens item _ _)
  | first :: others, item :: behind =>
    rw [listed, listed, List.append_assoc, List.append_assoc] at equal
    obtain ⟨items, later⟩ := separable.told first item _ _ (followsItem_listedBehind others rest)
      (followsItem_listedBehind behind restToo) equal
    obtain ⟨all, rests⟩ := selfDelimiting_listedBehind separable others behind rest restToo later
    exact ⟨.cons items all, rests⟩

end Lists

end QueryKit
