import QueryFilters.Schema.FieldType

/-!
# Document schemas

A document type: its name, the types it inherits from, and its fields.
-/

namespace QueryFilters

/-- A declared field. -/
structure SchemaField where
  name : String
  type : FieldType
  /-- The type of the elements of a collection. -/
  element : Option FieldType
deriving DecidableEq

/-- A document type. -/
structure Schema where
  name : String
  /-- The document types that this one inherits from, nearest first. -/
  ancestors : List String
  idField : String
  /-- The declared fields; the identifier need not be among them. -/
  fields : List SchemaField
deriving DecidableEq

namespace Schema

/-- The name of the identifier where a schema gives none. -/
def defaultIdField : String := "id"

/-- The field with the given name: a declared one, or the identifier. -/
def get? (schema : Schema) (name : String) : Option SchemaField :=
  match schema.fields.find? fun field => field.name == name with
  | some field => some field
  | none => if name = schema.idField then some ⟨name, .objectId, none⟩ else none

/-- The names of the fields in the order of their declaration, the identifier first. -/
def fieldNames (schema : Schema) : List String :=
  schema.idField :: (schema.fields.map SchemaField.name).filter fun name => name != schema.idField

/-- Whether documents of this type are also documents of the named type. -/
def isA (schema : Schema) (name : String) : Bool :=
  schema.name == name || schema.ancestors.contains name

end Schema

end QueryFilters
