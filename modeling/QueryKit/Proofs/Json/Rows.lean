import QueryKit.Proofs.Json.Spelling
import QueryKit.Proofs.Number.Reading
import QueryKit.Value.Json

/-!
# Rows read back from JSON

Values have no tags in a document, so the form that a value is written in decides what it is
read as. Every kind of value but one keeps its form: a number that is not finite is written as
null. A finite number is always written with a point or an exponent, which no integer has.
-/

namespace QueryKit

namespace Value

/-- What a value is read back as: itself, unless it is a number. A number that is not finite
becomes null, and of a finite one nothing is said but that it stays a number. -/
def ReadsBack : Value → Value → Prop
  | .float number, again =>
    if number.isFinite then ∃ other, again = .float other else again = .null
  | value, again => again = value

/-- A byte is read back from its number. -/
theorem byte?_nat (byte : UInt8) : byte? (Json.nat byte.toNat) = some byte := by
  rw [byte?, Json.natural?_nat byte.toNat_lt, Option.map_some, UInt8.ofNat_toNat]

/-- A byte string is read back byte by byte, and an empty one is no null. -/
theorem mapM_byte? (bytes : List UInt8) :
    (bytes.map fun byte => Json.nat byte.toNat).mapM byte? = some bytes := by
  induction bytes with
  | nil => rfl
  | cons byte rest ih => simp [List.mapM_cons, byte?_nat, ih]

/-- A value is read back from its document. -/
theorem readsBack_toJson (value : Value) :
    ∃ again, ofJson? value.toJson = some again ∧ value.ReadsBack again := by
  cases value with
  | null => exact ⟨.null, rfl, rfl⟩
  | bool value => exact ⟨.bool value, rfl, rfl⟩
  | integer value =>
    refine ⟨.integer value, ?_, rfl⟩
    simp only [toJson, ofJson?, Json.Numeral.integer?_ofInt]
  | text content => exact ⟨.text content, rfl, rfl⟩
  | bytes value =>
    refine ⟨.bytes value, ?_, rfl⟩
    simp only [toJson, ofJson?, mapM_byte?, Option.map_some]
  | float number =>
    cases finite : number.isFinite with
    | false => exact ⟨.null, by simp [toJson, finite, ofJson?], by simp [ReadsBack, finite]⟩
    | true =>
      obtain ⟨other, read⟩ :=
        Option.isSome_iff_exists.1 (Json.Numeral.isSome_binary64?_ofBinary64 finite)
      have noInteger : (Json.Numeral.ofBinary64 number).integer? = none := by
        rw [Json.Numeral.integer?, Json.Numeral.ofBinary64, Json.Numeral.not_isInteger_ofFinite]
        rfl
      refine ⟨.float other, ?_, by simp [ReadsBack, finite]⟩
      simp [toJson, finite, ofJson?, noInteger, read]

/-- Every value is a document that can be written, also a float that is not finite. -/
theorem writable_toJson (value : Value) : value.toJson.Writable := by
  cases value with
  | null => exact .null
  | bool value => exact .bool value
  | integer value => exact .number (Json.Numeral.lawful_ofInt value.toInt)
  | text content => exact .text content
  | bytes value =>
    refine .array fun element member => ?_
    obtain ⟨byte, -, rfl⟩ := List.mem_map.1 member
    exact .nat byte.toNat
  | float number =>
    rw [toJson]
    split
    · exact .number (Json.Numeral.lawful_ofFinite _ number)
    · exact .null

end Value

namespace Record

/-- A row is read back as another: both have the same columns in the same order, and so are
their values. -/
def ReadsBack : Record → Record → Prop :=
  List.Forall₂ fun entry again => entry.1 = again.1 ∧ entry.2.ReadsBack again.2

/-- A row is read back with its columns in order. -/
theorem ReadsBack.columns {record again : Record} (back : record.ReadsBack again) :
    record.map Prod.fst = again.map Prod.fst := by
  rw [← List.forall₂_eq_eq_eq, List.forall₂_map_left_iff, List.forall₂_map_right_iff]
  exact back.imp fun _ _ entries => entries.1

/-- Each value of a row is read back under its column. -/
theorem ReadsBack.exists_of_mem {record again : Record} (back : record.ReadsBack again)
    {column : String} {value : Value} (member : (column, value) ∈ record) :
    ∃ other, (column, other) ∈ again ∧ value.ReadsBack other := by
  induction back with
  | nil => simp at member
  | @cons first second _ _ entries _ ih =>
    rcases List.mem_cons.1 member with rfl | later
    · obtain ⟨_, other⟩ := second
      obtain ⟨rfl, reads⟩ := entries
      exact ⟨other, by simp, reads⟩
    · obtain ⟨other, given, reads⟩ := ih later
      exact ⟨other, List.mem_cons_of_mem second given, reads⟩

/-- A column that a row does not have is set behind the others. -/
theorem set_of_notMem {record : Record} {column : String} (value : Value)
    (missing : column ∉ record.map Prod.fst) :
    record.set column value = record ++ [(column, value)] := by
  rw [set, if_neg]
  simpa using missing

/-- Columns that occur once are read one by one, behind those that were read before. -/
theorem ofMembers?_append (entries before : Record)
    (once : ((before ++ entries).map Prod.fst).Nodup) :
    ∃ after : Record,
      ofMembers? before (entries.map fun entry => (some entry.1, entry.2.toJson)) =
          some (before ++ after) ∧
        entries.ReadsBack after := by
  induction entries generalizing before with
  | nil => exact ⟨[], by simp [ofMembers?], .nil⟩
  | cons entry rest ih =>
    obtain ⟨column, value⟩ := entry
    obtain ⟨again, read, back⟩ := value.readsBack_toJson
    have missing : column ∉ before.map Prod.fst := by
      rw [List.map_append, List.nodup_append] at once
      exact fun member => once.2.2 _ member _ (by simp) rfl
    obtain ⟨after, readRest, backRest⟩ := ih (before ++ [(column, again)]) (by simpa using once)
    refine ⟨(column, again) :: after, ?_, .cons ⟨rfl, back⟩ backRest⟩
    rw [List.map_cons, ofMembers?, read]
    simp only [set_of_notMem again missing, readRest, List.append_assoc, List.cons_append,
      List.nil_append]

/-- Sorting a row by its columns loses none of them. -/
theorem sorted_perm (record : Record) : record.sorted.Perm record :=
  List.mergeSort_perm record _

/-- A row is a document that can be written. -/
theorem writable_toJson (record : Record) : record.toJson.Writable := by
  refine .record fun member given => ?_
  obtain ⟨entry, -, rfl⟩ := List.mem_map.1 given
  exact entry.2.writable_toJson

/-- A row is read back from its document, in ascending order of the columns. -/
theorem readsBack_toJson {record : Record} (once : (record.map Prod.fst).Nodup) :
    ∃ again, ofJson? record.toJson = some again ∧ record.sorted.ReadsBack again := by
  have once : (record.sorted.map Prod.fst).Nodup :=
    ((sorted_perm record).map Prod.fst).nodup_iff.2 once
  obtain ⟨again, read, back⟩ := ofMembers?_append record.sorted [] (by simpa using once)
  refine ⟨again, ?_, back⟩
  rw [List.nil_append] at read
  rw [← read]
  simp only [toJson, Json.record, ofJson?, List.map_map]
  rfl

/-- The texts of a row in the two layouts are read back as one row with the same columns. Of its
values only numbers can change: those that are not finite become null, and those that are finite
become no value of another kind. -/
theorem read_json (record : Record) (once : (record.map Prod.fst).Nodup) :
    ∃ again : Record,
      (∀ text ∈ [record.toJson.compact, record.toJson.indented],
        (Json.read? text).bind ofJson? = some again) ∧
      (again.map Prod.fst).Perm (record.map Prod.fst) ∧
      ∀ column value, (column, value) ∈ record →
        ∃ other, (column, other) ∈ again ∧ value.ReadsBack other := by
  obtain ⟨again, read, back⟩ := readsBack_toJson once
  have sorted := sorted_perm record
  refine ⟨again, ?_, ?_, fun column value member => ?_⟩
  · intro text isText
    have document : Json.read? text = some record.toJson := by
      simp only [List.mem_cons, List.not_mem_nil, or_false] at isText
      rcases isText with rfl | rfl
      · exact record.writable_toJson.read?_compact
      · exact record.writable_toJson.read?_indented
    rw [document, Option.bind_some, read]
  · rw [← back.columns]
    exact sorted.map Prod.fst
  · exact back.exists_of_mem (sorted.mem_iff.2 member)

/-- Values that look like values of other kinds, under names that are escaped. -/
def lookalikes : Record :=
  [("no bytes", .bytes []), ("\"digits\"", .text "1"), ("truth\n", .text "true"),
    ("whole", .float ⟨0x3FF0_0000_0000_0000⟩), ("least", .integer Int64.minValue),
    ("infinite", .float (Binary64.infinity true))]

/-- None of the lookalikes is read back as what it looks like. -/
theorem read_json_lookalikes :
    (lookalikes.map Prod.fst).Nodup ∧
      ∃ again, (Json.read? lookalikes.toJson.compact).bind ofJson? = some again ∧
        ("no bytes", .bytes []) ∈ again ∧ ("\"digits\"", .text "1") ∈ again ∧
        ("truth\n", .text "true") ∈ again ∧ (∃ other, ("whole", .float other) ∈ again) ∧
        ("least", .integer Int64.minValue) ∈ again ∧ ("infinite", .null) ∈ again := by
  have once : (lookalikes.map Prod.fst).Nodup := by decide
  obtain ⟨again, read, -, values⟩ := read_json lookalikes once
  refine ⟨once, again, read _ (by simp), ?_, ?_, ?_, ?_, ?_, ?_⟩
  · obtain ⟨_, member, rfl⟩ := values "no bytes" (.bytes []) (by decide)
    exact member
  · obtain ⟨_, member, rfl⟩ := values "\"digits\"" (.text "1") (by decide)
    exact member
  · obtain ⟨_, member, rfl⟩ := values "truth\n" (.text "true") (by decide)
    exact member
  · obtain ⟨_, member, other, rfl⟩ := values "whole" (.float ⟨0x3FF0_0000_0000_0000⟩) (by decide)
    exact ⟨other, member⟩
  · obtain ⟨_, member, rfl⟩ := values "least" (.integer Int64.minValue) (by decide)
    exact member
  · obtain ⟨_, member, rfl⟩ := values "infinite" (.float (Binary64.infinity true)) (by decide)
    exact member

end Record

end QueryKit
