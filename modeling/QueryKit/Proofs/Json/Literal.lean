import QueryKit.Json.Reader
import QueryKit.Json.Writer
import Mathlib.Data.List.Basic

/-!
# Strings and numbers in JSON

A string literal is read back whatever follows it, since it carries its own end. A number
does not: what follows it must not continue it. Of a numeral only its shape matters here,
which is what `Numeral.Lawful` says; the digits of a natural number have that shape and the
value of the number.
-/

namespace QueryKit.Json

/-! ### Strings -/

/-- What a reader sees where a character was written: a control without a letter of its own is
escaped by number. -/
def writtenUnit (character : Char) : StringUnit :=
  if character.toNat < 0x20 ∧ character ∉ ['\x08', '\x0c', '\n', '\r', '\t'] then
    .codeUnit character.toNat
  else .character character

/-- A letter behind a backslash is read as the character that it stands for. -/
theorem readUnits_shortEscape {letter character : Char} (rest : List Char) (other : letter ≠ 'u')
    (escape : shortEscape? letter = some character) :
    readUnits ('\\' :: letter :: rest) =
      (readUnits rest).map fun read => (.character character :: read.1, read.2) := by
  rw [readUnits.eq_4 _ _ (by intros; simp_all)]
  simp only [escape]
  cases readUnits rest <;> rfl

/-- Four hexadecimal digits are read as a code unit. -/
theorem readUnits_numericEscape {first second third fourth : Char} {a b c d : Nat}
    (rest : List Char) (firstValue : hexValue? first = some a)
    (secondValue : hexValue? second = some b) (thirdValue : hexValue? third = some c)
    (fourthValue : hexValue? fourth = some d) :
    readUnits ('\\' :: 'u' :: first :: second :: third :: fourth :: rest) =
      (readUnits rest).map fun read =>
        (.codeUnit (((a * 16 + b) * 16 + c) * 16 + d) :: read.1, read.2) := by
  rw [readUnits.eq_3, firstValue, secondValue, thirdValue, fourthValue]
  cases readUnits rest <;> rfl

/-- A character that needs no escape is read as itself. -/
theorem readUnits_plain {character : Char} (rest : List Char) (shown : 0x20 ≤ character.toNat)
    (notQuote : character ≠ '"') (notBackslash : character ≠ '\\') :
    readUnits (character :: rest) =
      (readUnits rest).map fun read => (.character character :: read.1, read.2) := by
  rw [readUnits.eq_5 _ _ (by intros; simp_all) (by intros; simp_all) (by intros; simp_all),
    if_neg (by simp [notBackslash]; omega)]
  cases readUnits rest <;> rfl

/-- The value of a hexadecimal digit is read from it. -/
theorem hexValue?_hexDigit : ∀ value < 16, hexValue? (hexDigit value) = some value := by
  decide

/-- A written character is read as one unit. -/
theorem readUnits_escapeChar (character : Char) (rest : List Char) :
    readUnits (escapeChar character ++ rest) =
      (readUnits rest).map fun read => (writtenUnit character :: read.1, read.2) := by
  by_cases special : character ∈ ['"', '\\', '\x08', '\x0c', '\n', '\r', '\t']
  · simp only [List.mem_cons, List.not_mem_nil, or_false] at special
    rcases special with rfl | rfl | rfl | rfl | rfl | rfl | rfl
    all_goals exact readUnits_shortEscape rest (by decide) rfl
  simp only [List.mem_cons, List.not_mem_nil, or_false, not_or] at special
  obtain ⟨notQuote, notBackslash, others⟩ := special
  by_cases control : character.toNat < 0x20
  · have escaped : escapeChar character = ['\\', 'u', '0', '0',
        hexDigit (character.toNat / 16), hexDigit (character.toNat % 16)] := by
      simp [escapeChar, notQuote, notBackslash, others, control]
    have unit : writtenUnit character = .codeUnit character.toNat := by
      simp [writtenUnit, control, others]
    have value : ((0 * 16 + 0) * 16 + character.toNat / 16) * 16 + character.toNat % 16 =
        character.toNat := by omega
    have read := readUnits_numericEscape rest (show hexValue? '0' = some 0 from rfl)
      (show hexValue? '0' = some 0 from rfl)
      (hexValue?_hexDigit (character.toNat / 16) (by omega))
      (hexValue?_hexDigit (character.toNat % 16) (by omega))
    rw [value] at read
    rw [escaped, unit]
    exact read
  · have itself : escapeChar character = [character] := by
      simp [escapeChar, notQuote, notBackslash, others, control]
    have unit : writtenUnit character = .character character := by
      simp [writtenUnit, control]
    rw [itself, unit]
    exact readUnits_plain rest (by omega) notQuote notBackslash

/-- Written characters are read up to the closing quote. -/
theorem readUnits_escaped (characters rest : List Char) :
    readUnits (characters.flatMap escapeChar ++ '"' :: rest) =
      some (characters.map writtenUnit, rest) := by
  induction characters with
  | nil => rfl
  | cons character others ih =>
    rw [List.flatMap_cons, List.append_assoc, readUnits_escapeChar, ih]
    rfl

/-- A control is no surrogate, so units of written characters never join. -/
theorem joinUnits_written (characters : List Char) :
    joinUnits (characters.map writtenUnit) = some characters := by
  induction characters with
  | nil => rfl
  | cons character others ih =>
    rw [List.map_cons]
    by_cases control : character.toNat < 0x20 ∧ character ∉ ['\x08', '\x0c', '\n', '\r', '\t']
    · rw [show writtenUnit character = .codeUnit character.toNat from if_pos control]
      have small := control.1
      cases tail : others.map writtenUnit with
      | nil =>
        rw [tail] at ih
        simp only [joinUnits, Option.some.injEq] at ih ⊢
        rw [if_neg (by omega), ← ih]
        simp
      | cons unit units =>
        rw [tail] at ih
        cases unit with
        | character value =>
          rw [joinUnits, if_neg (by omega), ih]
          · simp
          · simp
        | codeUnit value =>
          rw [joinUnits, if_neg (by omega), if_neg (by omega), ih]
          simp
    · rw [show writtenUnit character = .character character from if_neg control, joinUnits, ih]
      rfl

/-- A string literal is read back, whatever follows it. -/
theorem readString_stringChars (text : String) (rest : List Char) :
    readString (text.toList.flatMap escapeChar ++ '"' :: rest) = some (some text, rest) := by
  rw [readString, readUnits_escaped]
  simp [joinUnits_written]

/-! ### Numbers -/

/-- The rest of a text does not continue a number that ends before it. -/
def EndsNumber (rest : List Char) : Prop :=
  ∀ character ∈ rest.head?, character.isDigit = false ∧ character ∉ ['.', 'e', 'E']

/-- At least one character, and only decimal digits. -/
def Digits (text : List Char) : Prop := text ≠ [] ∧ ∀ character ∈ text, character.isDigit = true

namespace Numeral

/-- The shape of a JSON number: there are digits before the point, and they start with zero
only if that is all of them; a point is followed by digits, and so is an exponent letter. -/
structure Lawful (numeral : Numeral) : Prop where
  whole : Digits numeral.whole
  noLeadingZero : numeral.whole.head? = some '0' → numeral.whole = ['0']
  fraction : ∀ digits ∈ numeral.fraction, Digits digits
  exponent : ∀ exponent ∈ numeral.exponent, Digits exponent.digits

end Numeral

/-- A run of digits is read up to the first character that is none. -/
theorem readDigits_append {digits rest : List Char} (run : Digits digits)
    (ends : ∀ character ∈ rest.head?, character.isDigit = false) :
    readDigits (digits ++ rest) = some (digits, rest) := by
  have stops : rest.takeWhile Char.isDigit = [] ∧ rest.dropWhile Char.isDigit = rest := by
    cases rest with
    | nil => simp
    | cons character others => simp [ends character rfl]
  have taken : (digits ++ rest).takeWhile Char.isDigit = digits := by
    rw [List.takeWhile_append_of_pos run.2, stops.1, List.append_nil]
  have left : (digits ++ rest).dropWhile Char.isDigit = rest := by
    rw [List.dropWhile_append_of_pos run.2, stops.2]
  obtain ⟨first, others, rfl⟩ := List.exists_cons_of_ne_nil run.1
  simp only [readDigits, taken, left]

/-- The digits before the point are read up to the first character that is none. -/
theorem readWhole_append {digits rest : List Char} (run : Digits digits)
    (noLeadingZero : digits.head? = some '0' → digits = ['0'])
    (ends : ∀ character ∈ rest.head?, character.isDigit = false) :
    readWhole (digits ++ rest) = some (digits, rest) := by
  obtain ⟨first, others, rfl⟩ := List.exists_cons_of_ne_nil run.1
  by_cases zero : first = '0'
  · subst zero
    obtain rfl : others = [] := by simpa using noLeadingZero rfl
    rfl
  · rw [readWhole, readDigits_append run ends]
    simpa using zero

/-- The point and the digits after it. -/
def fractionChars : Option (List Char) → List Char
  | some digits => '.' :: digits
  | none => []

/-- The digits behind the point are read, if there are any. -/
theorem readFraction_append {fraction : Option (List Char)} {rest : List Char}
    (run : ∀ digits ∈ fraction, Digits digits)
    (ends : ∀ character ∈ rest.head?, character.isDigit = false ∧ character ≠ '.') :
    readFraction (fractionChars fraction ++ rest) = some (fraction, rest) := by
  cases fraction with
  | some digits =>
    simp only [fractionChars, List.cons_append, readFraction,
      readDigits_append (run digits rfl) fun character head => (ends character head).1,
      Option.map_some]
  | none =>
    rw [fractionChars, List.nil_append, readFraction]
    rintro others rfl
    exact (ends '.' rfl).2 rfl

/-- The digits of an exponent after its sign. -/
def signedDigits : ExponentSign → List Char → List Char
  | .absent, digits => digits
  | .plus, digits => '+' :: digits
  | .minus, digits => '-' :: digits

/-- The sign of an exponent is read, if there is one. -/
theorem readExponentSign_append (sign : ExponentSign) {digits : List Char} (run : Digits digits)
    (rest : List Char) :
    readExponentSign (signedDigits sign digits ++ rest) = (sign, digits ++ rest) := by
  cases sign with
  | plus => rfl
  | minus => rfl
  | absent =>
    obtain ⟨first, others, rfl⟩ := List.exists_cons_of_ne_nil run.1
    have digit : first.isDigit = true := run.2 first (by simp)
    simp only [signedDigits, List.cons_append]
    rw [readExponentSign]
    · rintro _ ⟨rfl, -⟩
      simp at digit
    · rintro _ ⟨rfl, -⟩
      simp at digit

/-- The letter, the sign and the digits of an exponent. -/
def exponentText : Option Exponent → List Char
  | some exponent => 'e' :: signedDigits exponent.sign exponent.digits
  | none => []

/-- The exponent is read, if there is one. -/
theorem readExponent_append {exponent : Option Exponent} {rest : List Char}
    (run : ∀ given ∈ exponent, Digits given.digits) (ends : EndsNumber rest) :
    readExponent (exponentText exponent ++ rest) = some (exponent, rest) := by
  cases exponent with
  | some given =>
    simp only [exponentText, List.cons_append, readExponent, true_or, if_true,
      readExponentSign_append given.sign (run given rfl),
      readDigits_append (run given rfl) fun character head => (ends character head).1,
      Option.map_some]
  | none =>
    cases rest with
    | nil => rfl
    | cons character others =>
      have letter := (ends character rfl).2
      simp only [List.mem_cons, List.not_mem_nil, or_false, not_or] at letter
      simp only [exponentText, List.nil_append, readExponent]
      rw [if_neg (by simp [letter])]

namespace Numeral

/-- A numeral is written sign, digits, fraction, exponent. -/
theorem chars_eq (numeral : Numeral) :
    numeral.chars = (if numeral.negative then ['-'] else []) ++
      (numeral.whole ++ (fractionChars numeral.fraction ++ exponentText numeral.exponent)) := by
  obtain ⟨negative, whole, fraction, exponent⟩ := numeral
  simp only [chars, List.append_assoc]
  rcases fraction with _ | digits <;> rcases exponent with _ | ⟨⟨⟩, digits⟩ <;> rfl

/-- After its sign, a number is read in three parts, each of which ends where the next begins. -/
theorem readUnsigned_append {numeral : Numeral} {rest : List Char} (lawful : numeral.Lawful)
    (ends : EndsNumber rest) :
    readUnsigned numeral.negative (numeral.whole ++
      (fractionChars numeral.fraction ++ (exponentText numeral.exponent ++ rest))) =
        some (numeral, rest) := by
  have afterExponent : ∀ character ∈ (exponentText numeral.exponent ++ rest).head?,
      character.isDigit = false ∧ character ≠ '.' := by
    cases exponent : numeral.exponent with
    | some given => simp [exponentText]
    | none =>
      intro character head
      have := ends character head
      simp_all
  have afterFraction : ∀ character ∈
      (fractionChars numeral.fraction ++ (exponentText numeral.exponent ++ rest)).head?,
        character.isDigit = false := by
    cases fraction : numeral.fraction with
    | some digits => simp [fractionChars]
    | none => exact fun character head => (afterExponent character head).1
  simp only [readUnsigned, readWhole_append lawful.whole lawful.noLeadingZero afterFraction,
    readFraction_append lawful.fraction afterExponent, readExponent_append lawful.exponent ends,
    Option.bind_eq_bind, Option.bind_some]

/-- A number is read back when what follows does not continue it. -/
theorem readNumeral_chars {numeral : Numeral} {rest : List Char} (lawful : numeral.Lawful)
    (ends : EndsNumber rest) : readNumeral (numeral.chars ++ rest) = some (numeral, rest) := by
  have read := readUnsigned_append lawful ends
  rw [chars_eq]
  simp only [List.append_assoc]
  cases negative : numeral.negative with
  | true =>
    rw [negative] at read
    exact read
  | false =>
    rw [negative] at read
    obtain ⟨first, others, whole⟩ := List.exists_cons_of_ne_nil lawful.whole.1
    have digit : first.isDigit = true := lawful.whole.2 first (by simp [whole])
    rw [if_neg (by simp), List.nil_append, readNumeral, read]
    rintro _ same
    rw [whole, List.cons_append, List.cons.injEq] at same
    simp [same.1] at digit

/-! ### Integers -/

/-- Decimal digits are digits, and at least one. -/
theorem digits_toDigits (value : Nat) : Digits (Nat.toDigits 10 value) :=
  ⟨Nat.toDigits_ne_nil, fun _ member =>
    Nat.isDigit_of_mem_toDigits (by decide) (by decide) member⟩

/-- The digits of a number start with zero only for zero itself. -/
theorem head?_toDigits {value : Nat} (zero : (Nat.toDigits 10 value).head? = some '0') :
    value = 0 := by
  induction value using Nat.strongRecOn with
  | ind value ih =>
    by_cases small : value < 10
    · rw [Nat.toDigits_of_lt_base small] at zero
      simpa using zero
    · rw [Nat.toDigits_eq_if (by decide), if_neg small, List.head?_append_of_ne_nil _
        Nat.toDigits_ne_nil] at zero
      have := ih (value / 10) (by omega) zero
      omega

/-- Digits of a number have the shape of one behind any sign. -/
theorem lawful_toDigits (negative : Bool) (value : Nat) :
    Lawful ⟨negative, Nat.toDigits 10 value, none, none⟩ where
  whole := digits_toDigits value
  noLeadingZero := by
    intro zero
    simp only at zero ⊢
    rw [head?_toDigits zero]
    rfl
  fraction := by simp
  exponent := by simp

/-- A natural number is written as a lawful numeral. -/
theorem lawful_ofNat (value : Nat) : (ofNat value).Lawful := lawful_toDigits false value

/-- An integer is written as a lawful numeral. -/
theorem lawful_ofInt (value : Int) : (ofInt value).Lawful := lawful_toDigits _ value.natAbs

/-- A number is the value of its decimal digits. -/
theorem digitsValue_toDigits (value : Nat) : digitsValue (Nat.toDigits 10 value) = value := by
  have read := Nat.ofDigitChars_ten_toDigits (n := value)
  rw [Nat.ofDigitChars_eq_foldl] at read
  simpa only [digitsValue, digitValue, Nat.mul_comm] using read

/-- A signed machine word is read back. -/
theorem integer?_ofInt (value : Int64) : (ofInt value.toInt).integer? = some value := by
  have least := Int64.le_toInt value
  have greatest := Int64.toInt_lt value
  have back := Int64.ofInt_toInt value
  generalize value.toInt = whole at least greatest back
  rw [integer?, ofInt]
  simp only [isInteger, Option.isNone_none, Bool.and_self, Bool.not_true, Bool.false_eq_true,
    if_false, digitsValue_toDigits, decide_eq_true_eq]
  by_cases negative : whole < 0
  · rw [if_pos negative, if_pos (by omega), show (-(whole.natAbs : Int)) = whole by omega, back]
  · rw [if_neg negative, if_pos (by omega), show (whole.natAbs : Int) = whole by omega, back]

end Numeral

/-- A machine word is read back. -/
theorem natural?_nat {value bound : Nat} (inRange : value < bound) :
    (nat value).natural? bound = some value := by
  simp [nat, natural?, Numeral.natural?, Numeral.ofNat, Numeral.isInteger,
    Numeral.digitsValue_toDigits, inRange]

end QueryKit.Json
