/-!
# Schemas

Tables with their fields and indexes, and the registry in which they are looked
up by name. Names are compared without regard to the case of ASCII letters,
except that a table of exactly the wanted name comes first.
-/

namespace QueryKit

/-- Whether two names differ at most in the case of ASCII letters. -/
def sameName (left right : String) : Bool :=
  left.toList.map Char.toLower == right.toList.map Char.toLower

@[simp] theorem sameName_refl (name : String) : sameName name name = true := by
  simp [sameName]

/-- The order of the names does not matter. -/
theorem sameName_comm (left right : String) : sameName left right = sameName right left := by
  simp only [sameName]
  exact Bool.beq_comm

/-- An index on some fields of a table. -/
structure Index where
  name : String
  fields : List String
  deriving DecidableEq

namespace Index

/-- Whether the index lists a field, at any position. -/
def covers (index : Index) (field : String) : Bool :=
  index.fields.any fun indexed => sameName indexed field

end Index

/-- A table with its fields in declared order. -/
structure Table where
  name : String
  fields : List String
  indexes : List Index
  deriving DecidableEq

namespace Table

/-- Whether an index lists the field. -/
def isIndexed (table : Table) (field : String) : Bool :=
  table.indexes.any fun index => index.covers field

end Table

/-- The known tables, each name once. -/
structure Registry where
  tables : List Table
  deriving DecidableEq

namespace Registry

/-- The registry without tables. -/
def empty : Registry := ⟨[]⟩

/-- The registry with a table, in place of any table of the same name. -/
def register (registry : Registry) (table : Table) : Registry :=
  ⟨(registry.tables.filter fun known => known.name ≠ table.name) ++ [table]⟩

/-- The registry of some tables; the last of several with one name counts. -/
def ofList (tables : List Table) : Registry := tables.foldl register empty

/-- The number of tables. -/
def size (registry : Registry) : Nat := registry.tables.length

/-- Whether there is no table. -/
def isEmpty (registry : Registry) : Bool := registry.tables.isEmpty

/-- The table of a name. -/
def find? (registry : Registry) (name : String) : Option Table :=
  match registry.tables.find? fun table => table.name = name with
  | some table => some table
  | none => registry.tables.find? fun table => sameName table.name name

end Registry

end QueryKit
