import QueryKit.Json.Basic

/-!
# Records in JSON

A record with named fields is read from an object or from an array. In an object
unknown members are ignored and a known member may appear once; in an array the
elements are the fields in their declared order and the last ones may be left
out. What a missing field means is decided field by field.
-/

namespace QueryKit.Json

/-- The fields that a document gives for a record. -/
structure Fields where
  /-- Whether the fields were given by position. -/
  positional : Bool
  /-- The given fields, each name at most once. -/
  given : List (String × Json)

namespace Fields

/-- Reads the members of an object one by one; fails on a name without text and
on a known name given twice. -/
def ofMembers? (known : List String) (given : List (String × Json)) :
    List (Option String × Json) → Option (List (String × Json))
  | [] => some given
  | (none, _) :: _ => none
  | (some name, value) :: rest =>
    if known.contains name then
      if (given.lookup name).isSome then none
      else ofMembers? known (given ++ [(name, value)]) rest
    else ofMembers? known given rest

/-- The fields of a record with the given names in their declared order. -/
def of? (known : List String) : Json → Option Fields
  | .object members => (ofMembers? known [] members).map (Fields.mk false)
  | .array elements =>
    if elements.length ≤ known.length then some ⟨true, known.zip elements⟩ else none
  | _ => none

/-- Whether every member of an object names one of the fields. -/
def onlyKnown (known : List String) : Json → Bool
  | .object members => members.all fun member =>
      match member.1 with
      | some name => known.contains name
      | none => false
  | _ => true

/-- A field that must be given. -/
def required {α : Type} (fields : Fields) (name : String) (decode : Json → Option α) : Option α :=
  (fields.given.lookup name).bind decode

/-- A field with a value for when it is missing. -/
def withDefault {α : Type} (fields : Fields) (name : String) (decode : Json → Option α)
    (missing : α) : Option α :=
  match fields.given.lookup name with
  | some value => decode value
  | none => some missing

/-- A nullable field that an object may leave out and an array may not. -/
def nullableByName {α : Type} (fields : Fields) (name : String) (decode : Json → Option α) :
    Option (Option α) :=
  match fields.given.lookup name with
  | some value => value.nullable? decode
  | none => if fields.positional then none else some none

end Fields

end QueryKit.Json
