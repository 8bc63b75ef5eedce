import QueryFilters.Json.Basic
import QueryFilters.Schema.Basic

/-!
# Schemas in JSON

Schemas and their fields are objects, or arrays that give the members in order. Members that no
schema has are passed over; a member given twice is refused.
-/

namespace QueryFilters

namespace FieldType

/-- The type that a name gives, or an object with the name as its only member and null for it. -/
def ofJson? : Json → Option FieldType
  | .string s => ofName? s
  | .object [(name, .null)] => ofName? name
  | _ => none

end FieldType

namespace Schema

/-- The value of a member that may be missing, with an answer for a missing one. A member given
twice has no value. -/
def member? (members : List (String × Json)) (name : String) (missing : Option α)
    (read? : Json → Option α) : Option α :=
  match members.filter fun member => member.1 == name with
  | [] => missing
  | [(_, json)] => read? json
  | _ => none

/-- Reads a string. -/
def string? : Json → Option String
  | .string s => some s
  | _ => none

/-- Reads an array, item by item. -/
def array? (read? : Json → Option α) : Json → Option (List α)
  | .array items => items.mapM read?
  | _ => none

/-- Reads a field type, or null for none. -/
def element? : Json → Option (Option FieldType)
  | .null => some none
  | json => (FieldType.ofJson? json).map some

/-- The member names that an array gives the values of, in order, or the members of an object. -/
def membersOf? (names : List String) : Json → Option (List (String × Json))
  | .object members => some members
  | .array items => if items.length ≤ names.length then some (names.zip items) else none
  | _ => none

/-- Reads a field. -/
def field? (json : Json) : Option SchemaField := do
  let members ← membersOf? ["name", "type", "element"] json
  some
    { name := ← member? members "name" none string?
      type := ← member? members "type" none FieldType.ofJson?
      element := ← member? members "element" (some none) element? }

/-- Reads a schema. -/
def ofJson? (json : Json) : Option Schema := do
  let members ← membersOf? ["name", "ancestors", "id_field", "fields"] json
  some
    { name := ← member? members "name" none string?
      ancestors := ← member? members "ancestors" (some []) (array? string?)
      idField := ← member? members "id_field" (some defaultIdField) string?
      fields := ← member? members "fields" (some []) (array? field?) }

/-- A field as an object. An element type is given only where there is one. -/
def fieldToJson (field : SchemaField) : Json :=
  .object ([("name", .string field.name), ("type", .string field.type.name)] ++
    (field.element.map fun type => ("element", .string type.name)).toList)

/-- A schema as an object. -/
def toJson (schema : Schema) : Json :=
  .object [("name", .string schema.name), ("ancestors", .array (schema.ancestors.map .string)),
    ("id_field", .string schema.idField), ("fields", .array (schema.fields.map fieldToJson))]

end Schema

end QueryFilters
