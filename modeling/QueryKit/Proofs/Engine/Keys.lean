import Mathlib
import QueryKit.Engine.Basic
import QueryKit.Proofs.Number.Notation
import QueryKit.Proofs.Text.Quoted

/-!
# Keys tell the statements of one space apart

A key ends with the list of the arguments, which carries its own end, so the arguments can be
told as soon as it is known where their list starts. A bar stands before it, but bars also stand
in statements and in text arguments. A bar inside a text stands between quotes, and a list that
started behind it would have its quotes the wrong way round: read from outside quotes it ends
outside, as every list of arguments does, read from inside it would end inside.
-/

namespace QueryKit

/-! ### Values -/

/-- One number for a key: one pattern, or two that are not a number. -/
def Binary64.SameInKey (left right : Binary64) : Prop :=
  left = right ∨ left.isNaN = true ∧ right.isNaN = true

/-- One value for a key: one kind with one content, all NaNs being one number. -/
def Value.SameInKey : Value → Value → Prop
  | .float left, .float right => left.SameInKey right
  | left, right => left = right

/-- The characters of texts of numbers, apart from digits. -/
def numberLetters : List Char := ['-', '+', '.', 'e', 'N', 'a', 'i', 'n', 'f']

/-- Texts without marks: made of the characters of numbers. -/
def Unmarked (text : List Char) : Prop :=
  ∀ character ∈ text, character.isDigit = true ∨ character ∈ numberLetters

/-- No mark of a key is found in an unmarked text. -/
theorem Unmarked.not_mem {text : List Char} (unmarked : Unmarked text) {mark : Char}
    (marks : mark ∈ ['"', '\\', '|', ')', ']', ',']) : mark ∉ text := by
  intro member
  simp only [List.mem_cons, List.not_mem_nil, or_false] at marks
  rcases marks with rfl | rfl | rfl | rfl | rfl | rfl
  all_goals exact absurd (unmarked _ member) (by decide)

/-- A text of number letters is unmarked. -/
theorem unmarked_of_subset {text : List Char} (letters : text ⊆ numberLetters) : Unmarked text :=
  fun _ member => .inr (letters member)

/-- Decimal digits are unmarked. -/
theorem unmarked_toDigits (number : Nat) : Unmarked (Nat.toDigits 10 number) :=
  fun _ member => .inl (Nat.isDigit_of_mem_toDigits (by decide) (by decide) member)

/-- Two unmarked texts make an unmarked one. -/
theorem Unmarked.append {front back : List Char} (unmarked : Unmarked front)
    (unmarkedToo : Unmarked back) : Unmarked (front ++ back) :=
  fun character member =>
    (List.mem_append.1 member).elim (unmarked character) (unmarkedToo character)

/-- The text of an integer is its sign and its digits. -/
theorem toList_toString (value : Int) :
    (toString value).toList =
      (if value < 0 then ['-'] else []) ++ Nat.toDigits 10 value.natAbs := by
  rw [Int.toString_eq_repr, Int.repr_eq_if]
  split
  · next positive =>
    rw [if_neg (by omega), Nat.repr_eq_ofList_toDigits, String.toList_ofList, List.nil_append,
      show value.toNat = value.natAbs by omega]
  · next negative =>
    rw [if_pos (by omega), Nat.repr_eq_ofList_toDigits, String.toList_append, String.toList_ofList,
      String.toList_ofList, show (-value).toNat = value.natAbs by omega]

/-- The text of an integer is unmarked. -/
theorem unmarked_toString (value : Int) : Unmarked (toString value).toList := by
  rw [toList_toString]
  refine Unmarked.append (unmarked_of_subset ?_) (unmarked_toDigits _)
  split <;> decide

namespace Binary64

variable {number left right : Binary64}

/-- The text of a number in a key tells NaNs and infinities by a letter. -/
theorem toList_keyText (number : Binary64) :
    number.keyText.toList =
      if number.isNaN then ['N', 'a', 'N']
      else if number.isInfinite then
        if number.isNegative then ['-', 'i', 'n', 'f'] else ['i', 'n', 'f']
      else (Json.Numeral.ofFinite ⟨.up, -4, false⟩ number).chars := by
  unfold keyText
  split
  · rfl
  · split
    · split <;> rfl
    · rw [String.toList_ofList]

/-- The text of a float is unmarked, also that of an infinity or a NaN. -/
theorem unmarked_keyText (number : Binary64) : Unmarked number.keyText.toList := by
  rw [toList_keyText]
  split
  · exact unmarked_of_subset (by decide)
  · split
    · refine unmarked_of_subset ?_
      split <;> decide
    · intro character member
      have marks : ['-', '+', '.', 'e'] ⊆ numberLetters := by decide
      have lawful := Json.Numeral.lawful_ofFinite ⟨.up, -4, false⟩ number
      exact (Json.Numeral.mem_chars lawful member).imp_right (@marks character)

/-- Only the text of a NaN has this letter. -/
theorem mem_keyText_iff_isNaN (number : Binary64) :
    'N' ∈ number.keyText.toList ↔ number.isNaN = true := by
  have lawful := Json.Numeral.lawful_ofFinite ⟨.up, -4, false⟩ number
  rw [toList_keyText]
  split_ifs with isNaN
  · simp [isNaN]
  · simp [isNaN]
  · simp [isNaN]
  · refine iff_of_false (fun member => ?_) (by simp [isNaN])
    exact absurd (Json.Numeral.mem_chars lawful member) (by decide)

/-- Only the text of an infinity has this letter. -/
theorem mem_keyText_iff_isInfinite (number : Binary64) :
    'i' ∈ number.keyText.toList ↔ number.isInfinite = true := by
  have lawful := Json.Numeral.lawful_ofFinite ⟨.up, -4, false⟩ number
  rw [toList_keyText]
  split_ifs with isNaN isInfinite
  · have finite : number.isInfinite = false := by
      simp only [Binary64.isNaN, Bool.and_eq_true, bne_iff_ne] at isNaN
      simp [Binary64.isInfinite, isNaN.2]
    simp [finite]
  · simp [isInfinite]
  · simp [isInfinite]
  · refine iff_of_false (fun member => ?_) (by simp [isInfinite])
    exact absurd (Json.Numeral.mem_chars lawful member) (by decide)

/-- Two numbers are written alike in a key only if they are one number for keys. -/
theorem sameInKey_of_keyText (same : left.keyText.toList = right.keyText.toList) :
    left.SameInKey right := by
  have nans : left.isNaN = right.isNaN := by
    rw [Bool.eq_iff_iff, ← mem_keyText_iff_isNaN, same, mem_keyText_iff_isNaN]
  have infinities : left.isInfinite = right.isInfinite := by
    rw [Bool.eq_iff_iff, ← mem_keyText_iff_isInfinite, same, mem_keyText_iff_isInfinite]
  rw [toList_keyText, toList_keyText, ← nans, ← infinities] at same
  split_ifs at same with isNaN isInfinite negative negativeToo negativeToo
  · exact .inr ⟨isNaN, nans ▸ isNaN⟩
  · exact .inl (eq_of_isInfinite (negative.trans negativeToo.symm) isInfinite
      (infinities ▸ isInfinite))
  · cases same
  · cases same
  · exact .inl (eq_of_isInfinite (by simp_all) isInfinite (infinities ▸ isInfinite))
  · have lawful := Json.Numeral.lawful_ofFinite ⟨.up, -4, false⟩
    exact .inl (Json.Numeral.ofFinite_injective _
      (Json.Numeral.chars_injective (lawful left) (lawful right) same))

end Binary64

/-- Bytes in decimal can be told from what follows them in a list. -/
theorem separable_bytes : Separable (fun byte : UInt8 => (toString byte.toNat).toList) Eq where
  opens := by
    intro byte rest behind same
    have digits := Json.Numeral.digits_toDigits byte.toNat
    rw [Nat.toString_eq_repr, Nat.repr_eq_ofList_toDigits, String.toList_ofList] at same
    obtain ⟨first, others, split⟩ := List.exists_cons_of_ne_nil digits.1
    rw [split] at same
    have isDigit := digits.2 first (by simp [split])
    rw [(List.cons.inj same).1] at isDigit
    exact absurd isDigit (by decide)
  told := by
    intro left right rest restToo follows followsToo same
    have ends : ∀ rest, FollowsItem rest → ∀ character ∈ rest.head?, character.isDigit = false := by
      rintro _ ⟨behind, rfl | rfl⟩ character head <;> cases head <;> rfl
    simp only [Nat.toString_eq_repr, Nat.repr_eq_ofList_toDigits, String.toList_ofList] at same
    have read :=
      Json.readDigits_append (Json.Numeral.digits_toDigits left.toNat) (ends rest follows)
    rw [same, Json.readDigits_append (Json.Numeral.digits_toDigits right.toNat)
      (ends restToo followsToo), Option.some.injEq, Prod.mk.injEq] at read
    exact ⟨UInt8.toNat_inj.1 (Decimal.toDigits_inj.1 read.1).symm, read.2.symm⟩

namespace Value

/-- The word that a value starts with in a key, up to the bracket. -/
def opening : Value → List Char
  | null => ['N', 'u', 'l', 'l']
  | bool _ => ['B', 'o', 'o', 'l', '(']
  | integer _ => ['I', 'n', 't', 'e', 'g', 'e', 'r', '(']
  | float _ => ['F', 'l', 'o', 'a', 't', '(']
  | text _ => ['T', 'e', 'x', 't', '(']
  | bytes _ => ['B', 'y', 't', 'e', 's', '(', '[']

/-- What stands between the brackets of a value, with the closing one. -/
def content : Value → List Char
  | null => []
  | bool value => if value then ['t', 'r', 'u', 'e', ')'] else ['f', 'a', 'l', 's', 'e', ')']
  | integer value => (toString value.toInt).toList ++ [')']
  | float value => value.keyText.toList ++ [')']
  | text value => (Text.quote value).toList ++ [')']
  | bytes value => listed (fun byte : UInt8 => (toString byte.toNat).toList) value ++ [')']

/-- A value is written as its opening and its content. -/
theorem toList_keyText (value : Value) : value.keyText.toList = value.opening ++ value.content := by
  cases value with
  | null => rfl
  | bool value => cases value <;> rfl
  | integer value => simp [keyText, opening, content]
  | float value => simp [keyText, opening, content]
  | text value => simp [keyText, opening, content]
  | bytes value =>
    rw [content, ← toList_intercalate_append]
    simp [keyText, opening]

/-- The text of a value in a key carries its own end, and two values have the same text only if
they are one value for keys. -/
theorem selfDelimiting_keyText : SelfDelimiting (fun value : Value => value.keyText.toList)
    Value.SameInKey := by
  intro left right rest restToo same
  simp only [toList_keyText, List.append_assoc] at same
  -- The openings tell the kinds apart; within one kind the content carries its end.
  cases left with
  | null =>
    cases right with
    | null => exact ⟨rfl, List.append_cancel_left same⟩
    | _ => simp [opening] at same
  | bool value =>
    cases right with
    | bool other =>
      have contents := List.append_cancel_left same
      cases value <;> cases other <;> simp_all [content, SameInKey]
    | _ => simp [opening] at same
  | integer value =>
    cases right with
    | integer other =>
      have contents := List.append_cancel_left same
      simp only [content, List.append_assoc, List.singleton_append] at contents
      obtain ⟨digits, rests⟩ := append_mark_inj ((unmarked_toString _).not_mem (by decide))
        ((unmarked_toString _).not_mem (by decide)) contents
      have numbers := Int.repr_injective (String.toList_injective digits)
      exact ⟨congrArg integer (Int64.toInt_inj.1 numbers), rests⟩
    | _ => simp [opening] at same
  | float value =>
    cases right with
    | float other =>
      have contents := List.append_cancel_left same
      simp only [content, List.append_assoc, List.singleton_append] at contents
      obtain ⟨texts, rests⟩ := append_mark_inj ((Binary64.unmarked_keyText _).not_mem (by decide))
        ((Binary64.unmarked_keyText _).not_mem (by decide)) contents
      exact ⟨Binary64.sameInKey_of_keyText texts, rests⟩
    | _ => simp [opening] at same
  | text value =>
    cases right with
    | text other =>
      have contents := List.append_cancel_left same
      simp only [content, List.append_assoc, List.singleton_append] at contents
      obtain ⟨texts, rests⟩ := Text.selfDelimiting_quote value other _ _ contents
      exact ⟨congrArg text texts, (List.cons.inj rests).2⟩
    | _ => simp [opening] at same
  | bytes value =>
    cases right with
    | bytes other =>
      have contents := List.append_cancel_left same
      simp only [content, List.append_assoc, List.singleton_append] at contents
      obtain ⟨items, rests⟩ := selfDelimiting_listed separable_bytes value other _ _ contents
      exact ⟨congrArg bytes (List.forall₂_eq_eq_eq ▸ items), (List.cons.inj rests).2⟩
    | _ => simp [opening] at same

/-- Values can be told from what follows them in a list. -/
theorem separable_keyText : Separable (fun value : Value => value.keyText.toList)
    Value.SameInKey where
  opens := by
    intro value rest behind same
    simp only [toList_keyText] at same
    cases value <;> simp [opening] at same
  told := fun left right rest restToo _ _ same =>
    selfDelimiting_keyText left right rest restToo same

end Value

/-! ### Between quotes and outside -/

/-- Where a reader of arguments stands. -/
inductive Place where
  | outside
  | quoted
  | escaped
  deriving DecidableEq

namespace Place

/-- The place after a character. Outside quotes there are neither bars nor backslashes. -/
def step : Place → Char → Option Place
  | outside, character =>
    if character = '"' then some quoted
    else if character = '\\' ∨ character = '|' then none
    else some outside
  | quoted, character =>
    if character = '"' then some outside
    else if character = '\\' then some escaped
    else some quoted
  | escaped, _ => some quoted

/-- The place after a text. -/
def read (place : Place) (text : List Char) : Option Place := text.foldlM step place

/-- A reader goes through two texts one after the other. -/
theorem read_append (place : Place) (front back : List Char) :
    place.read (front ++ back) = (place.read front).bind fun middle => middle.read back :=
  List.foldlM_append

/-- One place is outside quotes where the other is between them. -/
def Opposite (one other : Place) : Prop :=
  one = outside ∧ other = quoted ∨ one = quoted ∧ other = outside

/-- Opposite places stay opposite: where a quote ends for the one, a quote starts for the other,
and a backslash stops the one that is outside. -/
theorem Opposite.step {one other next nextToo : Place} (opposite : Opposite one other)
    {character : Char} (stepped : one.step character = some next)
    (steppedToo : other.step character = some nextToo) : Opposite next nextToo := by
  have turned : ∀ {inner outer : Place}, outside.step character = some outer →
      quoted.step character = some inner → outer = outside ∧ inner = quoted ∨
        outer = quoted ∧ inner = outside := by
    intro inner outer outerStep innerStep
    simp only [Place.step] at outerStep innerStep
    split_ifs at outerStep innerStep <;> simp_all
  rcases opposite with ⟨rfl, rfl⟩ | ⟨rfl, rfl⟩
  · exact turned stepped steppedToo
  · exact (turned steppedToo stepped).symm.imp And.symm And.symm

/-- Readers in opposite places that both pass a text end in opposite places. -/
theorem Opposite.read {one other last lastToo : Place} (opposite : Opposite one other)
    {text : List Char} (ended : one.read text = some last)
    (endedToo : other.read text = some lastToo) : Opposite last lastToo := by
  induction text generalizing one other with
  | nil =>
    obtain rfl : one = last := Option.some.inj ended
    obtain rfl : other = lastToo := Option.some.inj endedToo
    exact opposite
  | cons character rest ih =>
    obtain ⟨next, stepped, later⟩ := Option.bind_eq_some_iff.1 ended
    obtain ⟨nextToo, steppedToo, laterToo⟩ := Option.bind_eq_some_iff.1 endedToo
    exact ih (opposite.step stepped steppedToo) later laterToo

/-- Behind a bar that a reader passes it is between quotes. -/
theorem step_bar {place next : Place} (stepped : place.step '|' = some next) : next = quoted := by
  cases place with
  | outside => simp [step] at stepped
  | quoted => simpa [step] using stepped.symm
  | escaped => simpa [step] using stepped.symm

/-- A text that starts and ends outside quotes. -/
def Closed (text : List Char) : Prop := outside.read text = some outside

/-- No closed text stands behind a bar at the end of a closed text. -/
theorem Closed.not_behind_bar {text front back : List Char} (closed : Closed text)
    (closedToo : Closed back) : text ≠ front ++ '|' :: back := by
  rintro rfl
  rw [Closed, read_append] at closed
  obtain ⟨middle, _, behind⟩ := Option.bind_eq_some_iff.1 closed
  rw [read, List.foldlM_cons] at behind
  obtain ⟨next, stepped, rest⟩ := Option.bind_eq_some_iff.1 behind
  obtain rfl := step_bar stepped
  have opposite := Opposite.read (.inl ⟨rfl, rfl⟩) closedToo rest
  simp [Opposite] at opposite

/-- Two closed texts make a closed one. -/
theorem Closed.append {front back : List Char} (closed : Closed front) (closedToo : Closed back) :
    Closed (front ++ back) := by
  rw [Closed, read_append, closed]
  exact closedToo

/-- A reader that each character leaves where it is stays there. -/
theorem read_of_stays {place : Place} {text : List Char}
    (stays : ∀ character ∈ text, place.step character = some place) :
    place.read text = some place := by
  induction text with
  | nil => rfl
  | cons character rest ih =>
    rw [read, List.foldlM_cons, stays character List.mem_cons_self]
    exact ih fun later member => stays later (List.mem_cons_of_mem _ member)

/-- Text without quotes, bars and backslashes is closed. -/
theorem closed_of_plain {text : List Char}
    (plain : ∀ mark ∈ ['"', '\\', '|'], mark ∉ text) : Closed text := by
  refine read_of_stays fun character member => ?_
  have ne : ∀ mark ∈ ['"', '\\', '|'], character ≠ mark := by
    rintro mark marks rfl
    exact plain character marks member
  simp [step, ne]

/-- A written character leaves a reader between quotes. -/
theorem read_quoteChar (character : Char) :
    quoted.read (Text.quoteChar character) = some quoted := by
  unfold Text.quoteChar
  split_ifs with isQuote isBackslash isNewline isReturn isTab isNull shown
  · rfl
  · rfl
  · rfl
  · rfl
  · rfl
  · rfl
  · simp_all [read, step]
  · -- The digits and the braces around them are read between quotes.
    have digits : quoted.read (Nat.toDigits 16 character.toNat ++ ['\x7d']) = some quoted := by
      refine read_of_stays fun digit member => ?_
      rcases List.mem_append.1 member with inDigits | isBrace
      · obtain ⟨notQuote, notBackslash, _⟩ := Text.hexDigit_ne inDigits
        simp [step, notQuote, notBackslash]
      · obtain rfl : digit = '\x7d' := by simpa using isBrace
        rfl
    rw [List.append_assoc, read_append]
    exact digits

/-- Quoted text is closed. -/
theorem closed_quote (text : String) : Closed (Text.quote text).toList := by
  have inside : ∀ characters : List Char,
      quoted.read (characters.flatMap Text.quoteChar) = some quoted := by
    intro characters
    induction characters with
    | nil => rfl
    | cons character rest ih =>
      rw [List.flatMap_cons, read_append, read_quoteChar]
      exact ih
  rw [Text.quote, String.toList_ofList, Closed, read_append,
    show outside.read ('"' :: text.toList.flatMap Text.quoteChar) = some quoted from inside _]
  rfl

end Place

/-- An unmarked text is closed. -/
theorem Unmarked.closed {text : List Char} (unmarked : Unmarked text) : Place.Closed text :=
  Place.closed_of_plain fun mark among =>
    unmarked.not_mem ((by decide : ['"', '\\', '|'] ⊆ ['"', '\\', '|', ')', ']', ',']) among)

/-- A list of closed texts is closed. -/
theorem closed_listed {α : Type} {write : α → List Char}
    (closed : ∀ item, Place.Closed (write item)) (items : List α) :
    Place.Closed (listed write items) := by
  have behind : ∀ items, Place.Closed (listedBehind write items) := by
    intro items
    induction items with
    | nil => rfl
    | cons item rest ih =>
      have comma : Place.Closed [',', ' '] := rfl
      exact comma.append ((closed item).append ih)
  cases items with
  | nil => rfl
  | cons item rest => exact (closed item).append (behind rest)

/-- The text of a value in a key starts and ends outside quotes. -/
theorem Value.closed_keyText (value : Value) : Place.Closed value.keyText.toList := by
  have bracket : Place.Closed [')'] := rfl
  have opening : Place.Closed value.opening := by cases value <;> rfl
  rw [toList_keyText]
  refine opening.append ?_
  cases value with
  | null => rfl
  | bool value => cases value <;> rfl
  | integer value => exact (unmarked_toString _).closed.append bracket
  | float value => exact (Binary64.unmarked_keyText value).closed.append bracket
  | text value => exact (Place.closed_quote value).append bracket
  | bytes value =>
    refine Place.Closed.append (closed_listed (fun byte => ?_) value) bracket
    rw [Nat.toString_eq_repr, Nat.repr_eq_ofList_toDigits, String.toList_ofList]
    exact (unmarked_toDigits _).closed

/-! ### Keys -/

namespace Statement

/-- The characters of a key. -/
theorem toList_resultKey (statement : Statement) (space : String) :
    (statement.resultKey space).toList = space.toList ++ '|' :: (statement.sql.toList ++
      '|' :: '[' :: listed (fun value : Value => value.keyText.toList) statement.arguments) := by
  rw [← toList_intercalate_append]
  simp [resultKey]

/-- The list of arguments in a key is closed. -/
theorem closed_arguments (arguments : List Value) :
    Place.Closed ('[' :: listed (fun value : Value => value.keyText.toList) arguments) := by
  have bracket : Place.Closed ['['] := rfl
  exact bracket.append (closed_listed Value.closed_keyText arguments)

end Statement

/-- A statement and its arguments can be told from one another in a text: the arguments start
behind the last bar that is not between quotes. -/
theorem eq_of_barred {front frontToo back backToo : List Char} (closed : Place.Closed back)
    (closedToo : Place.Closed backToo)
    (same : front ++ '|' :: back = frontToo ++ '|' :: backToo) :
    front = frontToo ∧ back = backToo := by
  rcases List.append_eq_append_iff.1 same with ⟨between, rfl, rest⟩ | ⟨between, rfl, rest⟩
  · cases between with
    | nil => exact ⟨by simp, (List.cons.inj rest).2⟩
    | cons first others => exact absurd (List.cons.inj rest).2 (closed.not_behind_bar closedToo)
  · cases between with
    | nil => exact ⟨by simp, (List.cons.inj rest).2.symm⟩
    | cons first others => exact absurd (List.cons.inj rest).2 (closedToo.not_behind_bar closed)

/-- Values that are one value for keys are written alike. -/
theorem Value.SameInKey.keyText {left right : Value} (same : left.SameInKey right) :
    left.keyText = right.keyText := by
  have kinds : left = right ∨ ∃ number other, left = float number ∧ right = float other ∧
      number.isNaN = true ∧ other.isNaN = true := by
    cases left <;> cases right <;> simp_all [SameInKey, Binary64.SameInKey]
  rcases kinds with rfl | ⟨number, other, rfl, rfl, isNaN, isNaNToo⟩
  · rfl
  · simp [Value.keyText, Binary64.keyText, isNaN, isNaNToo]

/-- Within one space a key tells statement and arguments. -/
theorem Statement.resultKey_eq_iff (space : String) (left right : Statement) :
    left.resultKey space = right.resultKey space ↔
      left.sql = right.sql ∧ List.Forall₂ Value.SameInKey left.arguments right.arguments := by
  constructor
  · intro same
    have characters := congrArg String.toList same
    rw [toList_resultKey, toList_resultKey, List.append_cancel_left_eq, List.cons.injEq]
      at characters
    obtain ⟨sql, lists⟩ := eq_of_barred (closed_arguments _) (closed_arguments _) characters.2
    obtain ⟨arguments, _⟩ := selfDelimiting_listed Value.separable_keyText left.arguments
      right.arguments [] [] (by simpa using (List.cons.inj lists).2)
    exact ⟨String.toList_inj.1 sql, arguments⟩
  · rintro ⟨sql, arguments⟩
    have alike : List.Forall₂ (fun one other : Value => one.keyText = other.keyText)
        left.arguments right.arguments := arguments.imp fun _ _ same => same.keyText
    have texts : left.arguments.map Value.keyText = right.arguments.map Value.keyText :=
      List.forall₂_eq_eq_eq ▸ List.forall₂_map_left_iff.2 (List.forall₂_map_right_iff.2 alike)
    rw [resultKey, resultKey, sql, texts]

/-- Bars and quotes stand in keys as they are, quotes inside a text behind a backslash. -/
example :
    Statement.resultKey ⟨"a|[", [.text "b\"|[", .float (.ofRatio false 3 2), .bytes [1, 2]]⟩ "s" =
      "s|a|[|[Text(\"b\\\"|[\"), Float(1.5), Bytes([1, 2])]" := by
  decide +kernel

end QueryKit
