import QueryKit.Proofs.Text.Delimited
import QueryKit.Text.Quoted

/-!
# Quoted text carries its own end

What is written between quotes can be told from the characters that follow the opening quote,
whatever comes behind the closing one: an escape shows by its backslash, the letter after it
says which one it is, and the digits of a numbered character end at the brace.
-/

namespace QueryKit

namespace Text

/-! ### Hexadecimal numbers -/

/-- The value of a hexadecimal digit. -/
def hexValue (digit : Char) : Nat :=
  if digit.isDigit then digit.toNat - '0'.toNat else digit.toNat - 'a'.toNat + 10

/-- The number that hexadecimal digits write. -/
def hexNumber (digits : List Char) : Nat :=
  digits.foldl (fun number digit => number * 16 + hexValue digit) 0

/-- The value of a hexadecimal digit is read from it. -/
theorem hexValue_digitChar : ∀ value < 16, hexValue (Nat.digitChar value) = value := by
  decide

/-- A number is read from its hexadecimal digits. -/
theorem hexNumber_toDigits (number : Nat) : hexNumber (Nat.toDigits 16 number) = number := by
  induction number using Nat.strongRecOn with
  | ind number ih =>
    rw [Nat.toDigits_eq_if (by decide)]
    split
    · next small => simpa [hexNumber] using hexValue_digitChar number small
    · next large =>
      have front := ih (number / 16) (by omega)
      rw [hexNumber] at front
      rw [hexNumber, List.foldl_append, front]
      simp only [List.foldl_cons, List.foldl_nil, hexValue_digitChar (number % 16) (by omega)]
      omega

/-- Hexadecimal digits are those of the numbers below sixteen. -/
theorem mem_hexDigits {number : Nat} {digit : Char} (member : digit ∈ Nat.toDigits 16 number) :
    ∃ value < 16, digit = Nat.digitChar value := by
  induction number using Nat.strongRecOn with
  | ind number ih =>
    rw [Nat.toDigits_eq_if (by decide)] at member
    split at member
    · next small => exact ⟨number, small, by simpa using member⟩
    · next large =>
      rcases List.mem_append.1 member with inFront | isLast
      · exact ih (number / 16) (by omega) inFront
      · exact ⟨number % 16, by omega, by simpa using isLast⟩

/-- No hexadecimal digit is a quote, a backslash or a brace. -/
theorem hexDigit_ne {number : Nat} {digit : Char} (member : digit ∈ Nat.toDigits 16 number) :
    digit ≠ '"' ∧ digit ≠ '\\' ∧ digit ≠ '\x7d' := by
  obtain ⟨value, small, rfl⟩ := mem_hexDigits member
  have apart : ∀ value < 16, Nat.digitChar value ≠ '"' ∧ Nat.digitChar value ≠ '\\' ∧
      Nat.digitChar value ≠ '\x7d' := by decide
  exact apart value small

/-! ### Reading a character -/

/-- The character that a letter behind a backslash stands for. -/
def escaped? : Char → Option Char
  | '"' => some '"'
  | '\\' => some '\\'
  | 'n' => some '\n'
  | 'r' => some '\r'
  | 't' => some '\t'
  | '0' => some '\x00'
  | _ => none

/-- The character that quoted text shows first, and what follows it. -/
def readChar : List Char → Option (Char × List Char)
  | '\\' :: 'u' :: '\x7b' :: rest =>
    some (Char.ofNat (hexNumber (rest.takeWhile (· != '\x7d'))),
      (rest.dropWhile (· != '\x7d')).tail)
  | '\\' :: letter :: rest => (escaped? letter).map (·, rest)
  | character :: rest => some (character, rest)
  | [] => none

/-- A character written by its number is read from it. -/
theorem readChar_numbered (character : Char) (rest : List Char) :
    readChar ('\\' :: 'u' :: '\x7b' :: (Nat.toDigits 16 character.toNat ++ '\x7d' :: rest)) =
      some (character, rest) := by
  have inside : ∀ digit ∈ Nat.toDigits 16 character.toNat, (digit != '\x7d') = true :=
    fun digit member => bne_iff_ne.2 (hexDigit_ne member).2.2
  rw [readChar, List.takeWhile_append_of_pos inside, List.dropWhile_append_of_pos inside,
    List.takeWhile_cons_of_neg (by simp), List.dropWhile_cons_of_neg (by simp), List.append_nil,
    hexNumber_toDigits, Char.ofNat_toNat, List.tail_cons]

/-- A character without a backslash stands for itself. -/
theorem readChar_plain {character : Char} (other : character ≠ '\\') (rest : List Char) :
    readChar (character :: rest) = some (character, rest) := by
  rw [readChar.eq_def]
  split <;> simp_all

/-- A character that is written in quoted text is read from it. -/
theorem readChar_quoteChar (character : Char) (rest : List Char) :
    readChar (quoteChar character ++ rest) = some (character, rest) := by
  unfold quoteChar
  split_ifs with isQuote isBackslash isNewline isReturn isTab isNull shown
  · simp_all [readChar, escaped?]
  · simp_all [readChar, escaped?]
  · simp_all [readChar, escaped?]
  · simp_all [readChar, escaped?]
  · simp_all [readChar, escaped?]
  · obtain rfl : character = '\x00' := Char.ext (UInt32.toNat_inj.1 (by simpa using isNull))
    rfl
  · exact readChar_plain (by simpa using isBackslash) rest
  · simpa using readChar_numbered character rest

/-- No written character starts with a quote. -/
theorem head?_quoteChar (character : Char) (rest : List Char) :
    (quoteChar character ++ rest).head? ≠ some '"' := by
  unfold quoteChar
  split_ifs <;> simp_all

/-- A text carries its own end when a quote follows it. -/
theorem selfDelimiting_quoted :
    SelfDelimiting (fun text : List Char => text.flatMap quoteChar ++ ['"']) Eq := by
  intro left
  induction left with
  | nil =>
    intro right rest restToo same
    cases right with
    | nil => exact ⟨rfl, by simpa using same⟩
    | cons first others =>
      have head := congrArg List.head? same
      simp only [List.flatMap_nil, List.flatMap_cons, List.append_assoc] at head
      exact absurd head.symm (head?_quoteChar first _)
  | cons character others ih =>
    intro right rest restToo same
    cases right with
    | nil =>
      have head := congrArg List.head? same
      simp only [List.flatMap_nil, List.flatMap_cons, List.append_assoc] at head
      exact absurd head (head?_quoteChar character _)
    | cons first behind =>
      simp only [List.flatMap_cons, List.append_assoc] at same
      have read := congrArg readChar same
      rw [readChar_quoteChar, readChar_quoteChar, Option.some.injEq, Prod.mk.injEq] at read
      obtain ⟨rfl, later⟩ := read
      obtain ⟨rfl, ends⟩ := ih behind rest restToo (by simpa using later)
      exact ⟨rfl, ends⟩

/-- Quoted text carries its own end. -/
theorem selfDelimiting_quote : SelfDelimiting (fun text => (quote text).toList) Eq := by
  intro left right rest restToo same
  simp only [quote, String.toList_ofList, List.cons_append, List.cons.injEq, true_and] at same
  obtain ⟨texts, ends⟩ := selfDelimiting_quoted left.toList right.toList rest restToo same
  exact ⟨String.toList_inj.1 texts, ends⟩

end Text
end QueryKit
