import QueryKit.Json.Fields
import QueryKit.Schema

/-!
# Tables in JSON
-/

namespace QueryKit

namespace Index

/-- The names of the fields of an index. -/
def fieldNames : List String := ["name", "fields"]

/-- The document of an index. -/
def toJson (index : Index) : Json :=
  Json.record
    [("name", Json.text index.name), ("fields", .array (index.fields.map Json.text))]

/-- The index of a document. -/
def ofJson? (document : Json) : Option Index := do
  let fields ← Json.Fields.of? fieldNames document
  let name ← fields.required "name" Json.text?
  let indexed ← fields.required "fields" (Json.list? Json.text?)
  some ⟨name, indexed⟩

end Index

namespace Table

/-- The names of the fields of a table. -/
def fieldNames : List String := ["name", "fields", "indexes"]

/-- The document of a table. -/
def toJson (table : Table) : Json :=
  Json.record
    [("name", Json.text table.name), ("fields", .array (table.fields.map Json.text)),
      ("indexes", .array (table.indexes.map Index.toJson))]

/-- The table of a document; a missing list of indexes is empty. -/
def ofJson? (document : Json) : Option Table := do
  let fields ← Json.Fields.of? fieldNames document
  let name ← fields.required "name" Json.text?
  let columns ← fields.required "fields" (Json.list? Json.text?)
  let indexes ← fields.withDefault "indexes" (Json.list? Index.ofJson?) []
  some ⟨name, columns, indexes⟩

end Table

end QueryKit
