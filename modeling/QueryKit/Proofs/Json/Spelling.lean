import QueryKit.Proofs.Json.Literal
import Mathlib.Data.List.DropRight

/-!
# Reading back what was written

`Spells` relates a document to the texts that write it, with any white space between tokens.
The reader accepts every such text and gives back its document, whatever follows that does not
continue a number. Both layouts of the writer are such texts, the compact one without any
white space.
-/

namespace QueryKit.Json

/-! ### White space -/

/-- White space, possibly none. -/
def Space (text : List Char) : Prop := ∀ character ∈ text, isSpace character = true

/-- A text that starts with a token. -/
def StartsToken (text : List Char) : Prop :=
  ∃ first others, text = first :: others ∧ isSpace first = false

/-- A gap is skipped with the space behind it. -/
theorem skipSpace_append {gap : List Char} (space : Space gap) (rest : List Char) :
    skipSpace (gap ++ rest) = skipSpace rest :=
  List.dropWhile_append_of_pos space

/-- Before a token there is nothing to skip. -/
theorem skipSpace_of_startsToken {text : List Char} (starts : StartsToken text) :
    skipSpace text = text := by
  obtain ⟨first, others, rfl, token⟩ := starts
  simp [skipSpace, token]

/-- Nothing is left to skip after space was skipped. -/
theorem skipSpace_skipSpace (text : List Char) : skipSpace (skipSpace text) = skipSpace text :=
  List.dropWhile_idempotent isSpace text

/-- A name is read alike with and without the space before it. -/
theorem readName_skipSpace (text : List Char) : readName (skipSpace text) = readName text := by
  rw [readName, skipSpace_skipSpace, readName]

/-- A value is read alike with and without the space before it. -/
theorem readValue_skipSpace (fuel : Nat) (text : List Char) :
    readValue fuel (skipSpace text) = readValue fuel text := by
  cases fuel with
  | zero => rfl
  | succ fuel => rw [readValue, skipSpace_skipSpace, readValue]

/-- Elements are read alike with and without the space before them. -/
theorem readElements_skipSpace (fuel : Nat) (text : List Char) :
    readElements fuel (skipSpace text) = readElements fuel text := by
  cases fuel with
  | zero => rfl
  | succ fuel => rw [readElements, readValue_skipSpace, readElements]

/-- Members are read alike with and without the space before them. -/
theorem readMembers_skipSpace (fuel : Nat) (text : List Char) :
    readMembers fuel (skipSpace text) = readMembers fuel text := by
  cases fuel with
  | zero => rfl
  | succ fuel => rw [readMembers, readName_skipSpace, readMembers]

/-! ### The texts of a document -/

mutual

/-- A document and a text that writes it, from its first token to its last. -/
inductive Spells : Json → List Char → Prop where
  | null : Spells .null ['n', 'u', 'l', 'l']
  | bool (value : Bool) : Spells (.bool value) (boolChars value)
  | number {numeral : Numeral} (lawful : numeral.Lawful) : Spells (.number numeral) numeral.chars
  | text (content : String) : Spells (Json.text content) (stringChars (some content))
  | emptyArray {gap : List Char} (space : Space gap) : Spells (.array []) ('[' :: gap ++ [']'])
  | array {elements : List Json} {text : List Char} (inner : SpellsElements elements text) :
    Spells (.array elements) ('[' :: text ++ [']'])
  | emptyObject {gap : List Char} (space : Space gap) :
    Spells (.object []) ('\x7b' :: gap ++ ['\x7d'])
  | object {members : List (Option String × Json)} {text : List Char}
    (inner : SpellsMembers members text) : Spells (.object members) ('\x7b' :: text ++ ['\x7d'])

/-- The elements of an array and a text between its brackets; there is at least one. -/
inductive SpellsElements : List Json → List Char → Prop where
  | last {element : Json} {before text after : List Char} (leading : Space before)
    (spells : Spells element text) (trailing : Space after) :
    SpellsElements [element] (before ++ (text ++ after))
  | more {element : Json} {elements : List Json} {before text after others : List Char}
    (leading : Space before) (spells : Spells element text) (trailing : Space after)
    (inner : SpellsElements elements others) :
    SpellsElements (element :: elements) (before ++ (text ++ (after ++ ',' :: others)))

/-- The members of an object and a text between its braces; there is at least one. -/
inductive SpellsMembers : List (Option String × Json) → List Char → Prop where
  | last {name : String} {value : Json} {before beforeColon gap text after : List Char}
    (leading : Space before) (colon : Space beforeColon) (space : Space gap)
    (spells : Spells value text) (trailing : Space after) :
    SpellsMembers [(some name, value)]
      (before ++ (stringChars (some name) ++ (beforeColon ++ ':' :: (gap ++ (text ++ after)))))
  | more {name : String} {value : Json} {members : List (Option String × Json)}
    {before beforeColon gap text after others : List Char}
    (leading : Space before) (colon : Space beforeColon) (space : Space gap)
    (spells : Spells value text) (trailing : Space after) (inner : SpellsMembers members others) :
    SpellsMembers ((some name, value) :: members)
      (before ++ (stringChars (some name) ++
        (beforeColon ++ ':' :: (gap ++ (text ++ (after ++ ',' :: others))))))

end

/-- What is left when a document ends does not continue a number if it starts, after white
space, with one of the marks that may stand there. -/
theorem endsNumber_of_space {gap : List Char} (space : Space gap) (mark : Char)
    (ends : mark ∈ [',', ']', '\x7d']) (rest : List Char) : EndsNumber (gap ++ mark :: rest) := by
  intro character head
  have either : isSpace character = true ∨ character ∈ [',', ']', '\x7d'] := by
    cases gap with
    | nil =>
      obtain rfl : mark = character := by simpa using head
      exact .inr ends
    | cons first others =>
      obtain rfl : first = character := by simpa using head
      exact .inl (space first (by simp))
  rcases either with blank | mark
  · simp only [isSpace, Bool.or_eq_true, beq_iff_eq] at blank
    rcases blank with ((rfl | rfl) | rfl) | rfl <;> decide
  · simp only [List.mem_cons, List.not_mem_nil, or_false] at mark
    rcases mark with rfl | rfl | rfl <;> decide

/-- What a number starts with: its sign or a digit. -/
def Numeric (character : Char) : Prop := character = '-' ∨ character.isDigit = true

/-- What a number starts with is no other mark. -/
theorem Numeric.ne {character mark : Char} (numeric : Numeric character)
    (other : ¬(mark = '-' ∨ mark.isDigit = true)) : character ≠ mark := by
  rintro rfl
  exact other numeric

/-- What a number starts with is no space. -/
theorem Numeric.not_isSpace {character : Char} (numeric : Numeric character) :
    isSpace character = false := by
  simp only [isSpace, Bool.or_eq_false_iff, beq_eq_false_iff_ne]
  exact ⟨⟨⟨numeric.ne (by decide), numeric.ne (by decide)⟩, numeric.ne (by decide)⟩,
    numeric.ne (by decide)⟩

/-- A lawful numeral starts with its sign or a digit. -/
theorem Numeral.Lawful.head {numeral : Numeral} (lawful : numeral.Lawful) :
    ∃ first others, numeral.chars = first :: others ∧ Numeric first := by
  obtain ⟨first, others, whole⟩ := List.exists_cons_of_ne_nil lawful.whole.1
  rw [Numeral.chars_eq]
  cases numeral.negative with
  | true => exact ⟨'-', _, rfl, .inl rfl⟩
  | false => exact ⟨first, _, by rw [whole]; rfl, .inr (lawful.whole.2 first (by simp [whole]))⟩

/-- A document starts with its first token, which is never a closing bracket. -/
theorem Spells.starts {document : Json} {text : List Char} (spells : Spells document text) :
    ∃ first others, text = first :: others ∧ isSpace first = false ∧ first ≠ ']' := by
  cases spells with
  | null => exact ⟨_, _, rfl, rfl, by decide⟩
  | bool value => cases value <;> exact ⟨_, _, rfl, rfl, by decide⟩
  | number lawful =>
    obtain ⟨first, others, chars, numeric⟩ := lawful.head
    exact ⟨first, others, chars, numeric.not_isSpace, numeric.ne (by decide)⟩
  | text content => exact ⟨_, _, rfl, rfl, by decide⟩
  | emptyArray space => exact ⟨_, _, rfl, rfl, by decide⟩
  | array inner => exact ⟨_, _, rfl, rfl, by decide⟩
  | emptyObject space => exact ⟨_, _, rfl, rfl, by decide⟩
  | object inner => exact ⟨_, _, rfl, rfl, by decide⟩

/-- After white space, elements start with a token other than the closing bracket. -/
theorem SpellsElements.starts {elements : List Json} {text : List Char}
    (spells : SpellsElements elements text) (rest : List Char) :
    ∃ first others, skipSpace (text ++ rest) = first :: others ∧ first ≠ ']' := by
  cases spells with
  | last leading spells trailing | more leading spells trailing inner =>
    obtain ⟨first, others, rfl, token, open'⟩ := spells.starts
    simp only [List.append_assoc, skipSpace_append leading]
    rw [skipSpace_of_startsToken ⟨first, _, List.cons_append, token⟩]
    exact ⟨first, _, List.cons_append, open'⟩

/-- After white space, members start with the quote of a name. -/
theorem SpellsMembers.starts {members : List (Option String × Json)} {text : List Char}
    (spells : SpellsMembers members text) (rest : List Char) :
    ∃ others, skipSpace (text ++ rest) = '"' :: others := by
  cases spells with
  | last leading | more leading =>
    simp only [List.append_assoc, skipSpace_append leading, stringChars, List.cons_append]
    exact ⟨_, skipSpace_of_startsToken ⟨_, _, rfl, rfl⟩⟩

/-! ### The reader on them -/

/-- A truth value is read by its word. -/
theorem readScalar_boolChars (value : Bool) (rest : List Char) :
    readScalar (boolChars value ++ rest) = some (.bool value, rest) := by
  cases value <;> rfl

/-- A text is read between its quotes. -/
theorem readScalar_stringChars (content : String) (rest : List Char) :
    readScalar (stringChars (some content) ++ rest) = some (Json.text content, rest) := by
  simp only [stringChars, List.cons_append, List.append_assoc, List.nil_append, readScalar,
    readString_stringChars, Option.map_some]
  rfl

/-- A numeral is read where nothing follows that would go on with it. -/
theorem readScalar_chars {numeral : Numeral} {rest : List Char} (lawful : numeral.Lawful)
    (ends : EndsNumber rest) :
    readScalar (numeral.chars ++ rest) = some (.number numeral, rest) := by
  have read := Numeral.readNumeral_chars lawful ends
  obtain ⟨first, others, chars, numeric⟩ := lawful.head
  rw [chars, List.cons_append] at read ⊢
  rw [readScalar, read]
  · rfl
  all_goals
    intro _ same
    exact numeric.ne (by decide) (List.cons.inj same).1

/-- A text that starts with a token that opens nothing is read as a scalar. -/
theorem readValue_scalar (fuel : Nat) {first : Char} {others : List Char}
    (token : isSpace first = false) (notArray : first ≠ '[') (notObject : first ≠ '\x7b') :
    readValue (fuel + 1) (first :: others) = readScalar (first :: others) := by
  rw [readValue, skipSpace_of_startsToken ⟨first, others, rfl, token⟩]
  split
  · next same => exact absurd (List.cons.inj same).1 notArray
  · next same => exact absurd (List.cons.inj same).1 notObject
  · rfl

/-- Behind an opening bracket that does not close at once elements are read. -/
theorem readValue_array (fuel : Nat) {text : List Char}
    (element : ∃ first others, skipSpace text = first :: others ∧ first ≠ ']') :
    readValue (fuel + 1) ('[' :: text) =
      (readElements fuel text).map fun read => (.array read.1, read.2) := by
  obtain ⟨first, others, skipped, notClosing⟩ := element
  rw [readValue, skipSpace_of_startsToken ⟨'[', text, rfl, rfl⟩, ← readElements_skipSpace fuel text]
  simp only
  split
  · next same => exact absurd (List.cons.inj (skipped.symm.trans same)).1 notClosing
  · rfl

/-- Behind an opening brace that a name follows members are read. -/
theorem readValue_object (fuel : Nat) {text : List Char}
    (member : ∃ others, skipSpace text = '"' :: others) :
    readValue (fuel + 1) ('\x7b' :: text) =
      (readMembers fuel text).map fun read => (.object read.1, read.2) := by
  obtain ⟨others, skipped⟩ := member
  rw [readValue, skipSpace_of_startsToken ⟨'\x7b', text, rfl, rfl⟩,
    ← readMembers_skipSpace fuel text]
  simp only
  split
  · next same => exact absurd (List.cons.inj (skipped.symm.trans same)).1 (by decide)
  · rfl

/-- Only white space may stand before the mark that comes next. -/
theorem skipSpace_mark {gap : List Char} (space : Space gap) (mark : Char)
    (token : isSpace mark = false) (rest : List Char) :
    skipSpace (gap ++ mark :: rest) = mark :: rest := by
  rw [skipSpace_append space]
  exact skipSpace_of_startsToken ⟨mark, rest, rfl, token⟩

/-- A name is read up to its colon, whatever space stands around it. -/
theorem readName_stringChars {before colon : List Char} (leading : Space before)
    (space : Space colon) (name : String) (rest : List Char) :
    readName (before ++ (stringChars (some name) ++ (colon ++ ':' :: rest))) =
      some (some name, rest) := by
  have opening : skipSpace (stringChars (some name) ++ (colon ++ ':' :: rest)) =
      '"' :: (name.toList.flatMap escapeChar ++ '"' :: (colon ++ ':' :: rest)) := by
    simp only [stringChars, List.cons_append, List.append_assoc, List.nil_append]
    exact skipSpace_of_startsToken ⟨_, _, rfl, rfl⟩
  simp only [readName, skipSpace_append leading, opening, readString_stringChars,
    skipSpace_mark space ':' rfl, Option.bind_eq_bind, Option.bind_some]

/-- White space before a document does not matter to the reader. -/
theorem readValue_append {gap : List Char} (space : Space gap) (fuel : Nat) (text : List Char) :
    readValue fuel (gap ++ text) = readValue fuel text := by
  rw [← readValue_skipSpace, skipSpace_append space, readValue_skipSpace]

mutual

/-- A document is read from any text that writes it, with fuel for twice its length. -/
theorem Spells.readValue {document : Json} {text : List Char} (spells : Spells document text)
    (fuel : Nat) (rest : List Char) (enough : 2 * text.length ≤ fuel) (ends : EndsNumber rest) :
    readValue fuel (text ++ rest) = some (document, rest) := by
  -- A document has at least one character, so there is fuel for this step.
  have someFuel : fuel ≠ 0 := by
    obtain ⟨first, others, rfl, -⟩ := spells.starts
    simp only [List.length_cons] at enough
    omega
  obtain ⟨fuel, rfl⟩ := Nat.exists_eq_succ_of_ne_zero someFuel
  cases spells with
  | null => exact readValue_scalar fuel rfl (by decide) (by decide)
  | bool value =>
    rw [← readScalar_boolChars value rest]
    cases value <;> exact readValue_scalar fuel rfl (by decide) (by decide)
  | number lawful =>
    have read := readScalar_chars lawful ends
    obtain ⟨first, others, chars, numeric⟩ := lawful.head
    rw [chars] at read ⊢
    rw [← read]
    exact readValue_scalar fuel numeric.not_isSpace (numeric.ne (by decide))
      (numeric.ne (by decide))
  | text content =>
    rw [← readScalar_stringChars content rest]
    exact readValue_scalar fuel rfl (by decide) (by decide)
  | emptyArray space =>
    simp only [List.cons_append, List.append_assoc, List.nil_append]
    rw [Json.readValue, skipSpace_of_startsToken ⟨'[', _, rfl, rfl⟩]
    simp only [skipSpace_mark space ']' rfl]
  | array inner =>
    simp only [List.length_cons, List.length_append, List.length_nil] at enough
    simp only [List.cons_append, List.append_assoc, List.nil_append]
    rw [readValue_array fuel (inner.starts _), inner.readElements fuel rest (by omega)]
    rfl
  | emptyObject space =>
    simp only [List.cons_append, List.append_assoc, List.nil_append]
    rw [Json.readValue, skipSpace_of_startsToken ⟨'\x7b', _, rfl, rfl⟩]
    simp only [skipSpace_mark space '\x7d' rfl]
  | object inner =>
    simp only [List.length_cons, List.length_append, List.length_nil] at enough
    simp only [List.cons_append, List.append_assoc, List.nil_append]
    rw [readValue_object fuel (inner.starts _), inner.readMembers fuel rest (by omega)]
    rfl

/-- Elements are read back from every spelling of them. -/
theorem SpellsElements.readElements {elements : List Json} {text : List Char}
    (spells : SpellsElements elements text) (fuel : Nat) (rest : List Char)
    (enough : 2 * text.length + 1 ≤ fuel) :
    readElements fuel (text ++ ']' :: rest) = some (elements, rest) := by
  obtain ⟨fuel, rfl⟩ := Nat.exists_eq_succ_of_ne_zero (show fuel ≠ 0 by omega)
  cases spells with
  | last leading spells trailing =>
    simp only [List.length_append] at enough
    have value := spells.readValue fuel _ (by omega)
      (endsNumber_of_space trailing ']' (by decide) rest)
    simp only [Json.readElements, List.append_assoc, readValue_append leading, value,
      skipSpace_mark trailing ']' rfl, Option.bind_eq_bind, Option.bind_some]
  | @more _ _ _ _ _ text leading spells trailing inner =>
    simp only [List.length_append, List.length_cons] at enough
    have value := spells.readValue fuel _ (by omega)
      (endsNumber_of_space trailing ',' (by decide) (text ++ ']' :: rest))
    have others := inner.readElements fuel rest (by omega)
    simp only [Json.readElements, List.append_assoc, List.cons_append, readValue_append leading,
      value, skipSpace_mark trailing ',' rfl, others, Option.bind_eq_bind,
      Option.bind_some]

/-- Members are read back from every spelling of them. -/
theorem SpellsMembers.readMembers {members : List (Option String × Json)} {text : List Char}
    (spells : SpellsMembers members text) (fuel : Nat) (rest : List Char)
    (enough : 2 * text.length + 1 ≤ fuel) :
    readMembers fuel (text ++ '\x7d' :: rest) = some (members, rest) := by
  obtain ⟨fuel, rfl⟩ := Nat.exists_eq_succ_of_ne_zero (show fuel ≠ 0 by omega)
  cases spells with
  | last leading colon space spells trailing =>
    simp only [List.length_append, List.length_cons] at enough
    have value := spells.readValue fuel _ (by omega)
      (endsNumber_of_space trailing '\x7d' (by decide) rest)
    simp only [Json.readMembers, List.append_assoc, List.cons_append,
      readName_stringChars leading colon, readValue_append space, value,
      skipSpace_mark trailing '\x7d' rfl, Option.bind_eq_bind, Option.bind_some]
  | @more _ _ _ _ _ _ _ _ text leading colon space spells trailing inner =>
    simp only [List.length_append, List.length_cons] at enough
    have value := spells.readValue fuel _ (by omega)
      (endsNumber_of_space trailing ',' (by decide) (text ++ '\x7d' :: rest))
    have others := inner.readMembers fuel rest (by omega)
    simp only [Json.readMembers, List.append_assoc, List.cons_append,
      readName_stringChars leading colon, readValue_append space, value,
      skipSpace_mark trailing ',' rfl, others, Option.bind_eq_bind, Option.bind_some]

end

/-- A text that writes a document, with white space around it, is read as that document. -/
theorem read?_spelled {document : Json} {before text after : List Char}
    (leading : Space before) (spells : Spells document text) (trailing : Space after) :
    read? (String.ofList (before ++ (text ++ after))) = some document := by
  have ends : EndsNumber after := by
    have spaced := endsNumber_of_space trailing ',' (by decide) []
    intro character head
    cases after with
    | nil => simp at head
    | cons first others => exact spaced character head
  have value := spells.readValue (2 * (before ++ (text ++ after)).length + 2) after
    (by simp only [List.length_append]; omega) ends
  have rest : skipSpace after = [] := by
    rw [← List.append_nil after, skipSpace_append trailing]
    rfl
  simp only [read?, String.toList_ofList, readValue_append leading, value, rest,
    List.isEmpty_nil, if_true]

/-! ### The layouts of the writer -/

/-- Every number has the shape of one, and every string and name has a text. -/
inductive Writable : Json → Prop where
  | null : Writable .null
  | bool (value : Bool) : Writable (.bool value)
  | number {numeral : Numeral} (lawful : numeral.Lawful) : Writable (.number numeral)
  | text (content : String) : Writable (Json.text content)
  | array {elements : List Json} (writable : ∀ element ∈ elements, Writable element) :
    Writable (.array elements)
  | object {members : List (Option String × Json)}
    (named : ∀ member ∈ members, member.1.isSome = true)
    (writable : ∀ member ∈ members, Writable member.2) : Writable (.object members)

/-- A natural number can be written. -/
theorem Writable.nat (value : Nat) : Writable (Json.nat value) :=
  .number (Numeral.lawful_ofNat value)

/-- A record of what can be written can be written. -/
theorem Writable.record {members : List (String × Json)}
    (writable : ∀ member ∈ members, Writable member.2) : Writable (Json.record members) := by
  refine .object ?_ ?_
  all_goals
    intro member given
    obtain ⟨field, listed, rfl⟩ := List.mem_map.1 given
  · rfl
  · exact writable field listed

/-- A record whose fields are given one by one can be written if each of them can. -/
theorem Writable.fields {members : List (String × Json)}
    (writable : members.Forall fun member => Writable member.2) : Writable (Json.record members) :=
  .record (List.forall_iff_forall_mem.1 writable)

/-- A list of what can be written can be written. -/
theorem Writable.list {α : Type} {encode : α → Json} (writable : ∀ value, Writable (encode value))
    (values : List α) : Writable (.array (values.map encode)) := by
  refine .array fun element member => ?_
  obtain ⟨value, -, rfl⟩ := List.mem_map.1 member
  exact writable value

/-- What can be written, or null, can be written. -/
theorem Writable.ofOption {α : Type} {encode : α → Json}
    (writable : ∀ value, Writable (encode value)) (value : Option α) :
    Writable (Json.ofOption (value.map encode)) := by
  cases value with
  | none => exact .null
  | some value => exact writable value

/-- A new line and its indentation are space. -/
theorem space_newLine (level : Nat) : Space (newLine level) := by
  intro character member
  rcases List.mem_cons.1 member with rfl | member
  · rfl
  · rw [List.eq_of_mem_replicate member]
    rfl

/-- The empty text is space. -/
theorem space_nil : Space [] := by
  simp [Space]

/-- Elements on lines of their own are spelled if each element is. -/
theorem spellsElements_indented {level : Nat} {elements : List Json} {after : List Char}
    (nonempty : elements ≠ []) (trailing : Space after)
    (spells : ∀ element ∈ elements, Spells element (element.indentedChars level)) :
    SpellsElements elements (indentedElementChars level elements ++ after) := by
  induction elements with
  | nil => exact absurd rfl nonempty
  | cons element rest ih =>
    have first := spells element (by simp)
    cases rest with
    | nil =>
      simp only [indentedElementChars, List.append_assoc]
      exact .last (space_newLine level) first trailing
    | cons second others =>
      have inner := ih (by simp) fun element member => spells element (by simp [member])
      simp only [indentedElementChars, List.append_assoc, List.cons_append]
      exact .more (space_newLine level) first space_nil inner

/-- Members on lines of their own are spelled if each value is. -/
theorem spellsMembers_indented {level : Nat} {members : List (Option String × Json)}
    {after : List Char} (nonempty : members ≠ []) (trailing : Space after)
    (named : ∀ member ∈ members, member.1.isSome = true)
    (spells : ∀ member ∈ members, Spells member.2 (member.2.indentedChars level)) :
    SpellsMembers members (indentedMemberChars level members ++ after) := by
  induction members with
  | nil => exact absurd rfl nonempty
  | cons member rest ih =>
    obtain ⟨name, value⟩ := member
    obtain ⟨name, rfl⟩ := Option.isSome_iff_exists.1 (named (name, value) (by simp))
    have first := spells (some name, value) (by simp)
    have blank : Space [' '] := by simp [Space, isSpace]
    cases rest with
    | nil =>
      simp only [indentedMemberChars, List.append_assoc, List.cons_append]
      exact .last (space_newLine level) space_nil blank first trailing
    | cons second others =>
      have inner := ih (by simp) (fun member given => named member (by simp [given]))
        fun member given => spells member (by simp [given])
      simp only [indentedMemberChars, List.append_assoc, List.cons_append]
      exact .more (space_newLine level) space_nil blank first space_nil inner

/-- The indented layout writes its document, at every level. -/
theorem Writable.spells_indentedChars {document : Json} (writable : Writable document) :
    ∀ level, Spells document (document.indentedChars level) := by
  induction writable with
  | null => exact fun _ => .null
  | bool value => exact fun _ => .bool value
  | number lawful => exact fun _ => .number lawful
  | text content => exact fun _ => .text content
  | @array elements _ ih =>
    intro level
    cases elements with
    | nil => exact .emptyArray space_nil
    | cons first others =>
      simp only [indentedChars]
      exact .array (spellsElements_indented (by simp) (space_newLine level)
        fun element member => ih element member (level + 1))
  | @object members named _ ih =>
    intro level
    cases members with
    | nil => exact .emptyObject space_nil
    | cons first others =>
      simp only [indentedChars]
      exact .object (spellsMembers_indented (by simp) (space_newLine level) named
        fun member given => ih member given (level + 1))

/-- A document is read back from its indented text. -/
theorem Writable.read?_indented {document : Json} (writable : Writable document) :
    read? document.indented = some document := by
  have read := read?_spelled space_nil (writable.spells_indentedChars 0) space_nil
  rw [List.append_nil, List.nil_append] at read
  exact read

/-- Elements between commas are spelled if each element is. -/
theorem spellsElements_compact {elements : List Json} (nonempty : elements ≠ [])
    (spells : ∀ element ∈ elements, Spells element element.chars) :
    SpellsElements elements (elementChars elements) := by
  induction elements with
  | nil => exact absurd rfl nonempty
  | cons element rest ih =>
    have first := spells element (by simp)
    cases rest with
    | nil => simpa [elementChars] using SpellsElements.last space_nil first space_nil
    | cons second others =>
      have inner := ih (by simp) fun element member => spells element (by simp [member])
      rw [elementChars]
      · exact .more space_nil first space_nil inner
      · simp

/-- Members between commas are spelled if each value is. -/
theorem spellsMembers_compact {members : List (Option String × Json)} (nonempty : members ≠ [])
    (named : ∀ member ∈ members, member.1.isSome = true)
    (spells : ∀ member ∈ members, Spells member.2 member.2.chars) :
    SpellsMembers members (memberChars members) := by
  induction members with
  | nil => exact absurd rfl nonempty
  | cons member rest ih =>
    obtain ⟨name, value⟩ := member
    obtain ⟨name, rfl⟩ := Option.isSome_iff_exists.1 (named (name, value) (by simp))
    have first := spells (some name, value) (by simp)
    cases rest with
    | nil =>
      simpa [memberChars] using
        SpellsMembers.last space_nil space_nil space_nil first space_nil
    | cons second others =>
      have inner := ih (by simp) (fun member given => named member (by simp [given]))
        fun member given => spells member (by simp [given])
      rw [memberChars]
      · simp only [List.append_assoc, List.cons_append]
        exact .more space_nil space_nil space_nil first space_nil inner
      · simp

/-- The compact layout writes its document. -/
theorem Writable.spells_chars {document : Json} (writable : Writable document) :
    Spells document document.chars := by
  induction writable with
  | null => exact .null
  | bool value => exact .bool value
  | number lawful => exact .number lawful
  | text content => exact .text content
  | @array elements _ ih =>
    cases elements with
    | nil => exact .emptyArray space_nil
    | cons first others => exact .array (spellsElements_compact (by simp) ih)
  | @object members named _ ih =>
    cases members with
    | nil => exact .emptyObject space_nil
    | cons first others => exact .object (spellsMembers_compact (by simp) named ih)

/-- A document is read back from its compact text. -/
theorem Writable.read?_compact {document : Json} (writable : Writable document) :
    read? document.compact = some document := by
  have read := read?_spelled space_nil writable.spells_chars space_nil
  rw [List.append_nil, List.nil_append] at read
  exact read

end QueryKit.Json
