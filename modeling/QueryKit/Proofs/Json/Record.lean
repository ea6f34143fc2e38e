import QueryKit.Proofs.Json.Literal
import QueryKit.Time.Json

/-!
# Records read back from their documents

An object that gives every field of a record once, in the declared order, has these fields. Of
a span, what is read back are the whole milliseconds that were written.
-/

namespace QueryKit

namespace Json

/-- Members with known names, none of them given before, are taken one by one. -/
theorem Fields.ofMembers?_append {known : List String} (members given : List (String × Json))
    (listed : ∀ member ∈ members, member.1 ∈ known)
    (once : ((given ++ members).map Prod.fst).Nodup) :
    ofMembers? known given (members.map fun member => (some member.1, member.2)) =
      some (given ++ members) := by
  induction members generalizing given with
  | nil => simp [ofMembers?]
  | cons member rest ih =>
    obtain ⟨name, value⟩ := member
    have unseen : given.lookup name = none := by
      rw [List.lookup_eq_none_iff]
      intro other member
      have apart : other.1 ≠ name := by
        rw [List.map_append, List.nodup_append] at once
        exact once.2.2 _ (List.mem_map_of_mem member) _ (by simp)
      simpa using apart.symm
    rw [List.map_cons, ofMembers?, if_pos (by simpa using listed (name, value) (by simp)), unseen,
      if_neg (by simp), ih (given ++ [(name, value)]), List.append_assoc]
    · rfl
    · exact fun member later => listed member (by simp [later])
    · simpa using once

/-- The fields of a record that is written with each of them once. -/
theorem Fields.of?_record {known : List String} {members : List (String × Json)}
    (names : members.map Prod.fst = known) (once : known.Nodup) :
    Fields.of? known (record members) = some ⟨false, members⟩ := by
  subst names
  have read := ofMembers?_append members []
    (fun member listed => List.mem_map_of_mem listed) (by simpa using once)
  simp only [Fields.of?, record, read, Option.map_some, List.nil_append]

/-- An optional value that is never written as `null` is read back. -/
theorem nullable?_ofOption {α : Type} {encode : α → Json} {decode : Json → Option α}
    {change : α → α} (shown : ∀ value, encode value ≠ .null)
    (back : ∀ value, decode (encode value) = some (change value)) (value : Option α) :
    nullable? decode (ofOption (value.map encode)) = some (value.map change) := by
  cases value with
  | none => rfl
  | some value =>
    rw [Option.map_some, ofOption, Option.getD_some, nullable?, back]
    · rfl
    · exact shown value

/-- A 64-bit word is read back. -/
theorem word?_nat {value : Nat} (inRange : value < 0x1_0000_0000_0000_0000) :
    (nat value).word? = some value :=
  natural?_nat inRange

end Json

namespace Duration

/-- The whole milliseconds of a span, as a 64-bit word. -/
def rounded (span : Duration) : Duration := ofMillis span.millisWord

/-- Rounding cuts a span off to milliseconds, whose number wraps around at 64 bits. -/
theorem nanoseconds_rounded (span : Duration) :
    span.rounded.nanoseconds =
      span.nanoseconds / 1_000_000 % 0x1_0000_0000_0000_0000 * 1_000_000 := by
  simp only [rounded, ofMillis, ofNanoseconds, millisWord, millis]
  omega

/-- Rounding keeps the spans of whole milliseconds whose number is a 64-bit word. -/
theorem rounded_eq_iff (span : Duration) :
    span.rounded = span ↔
      span.nanoseconds % 1_000_000 = 0 ∧
        span.nanoseconds < 0x1_0000_0000_0000_0000 * 1_000_000 := by
  have same : span.rounded = span ↔ span.rounded.nanoseconds = span.nanoseconds :=
    ⟨fun same => by rw [same], ext⟩
  rw [same, nanoseconds_rounded]
  omega

/-- A span is read back as its whole milliseconds. -/
theorem ofJson?_toJson (span : Duration) : ofJson? span.toJson = some span.rounded := by
  have word : span.millisWord < 0x1_0000_0000_0000_0000 := Nat.mod_lt _ (by decide)
  rw [ofJson?, toJson, Json.word?_nat word]
  rfl

/-- A span is never written as null. -/
theorem toJson_ne_null (span : Duration) : span.toJson ≠ .null := by
  simp [toJson, Json.nat]

end Duration

end QueryKit
