import QueryFilters.Filter.Builder
import QueryFilters.Schema.Basic

/-!
# Filters for field types

Which filter stands for a field of a type. A type without a filter of its own takes that of the
nearest more general type, and a collection takes that of its elements, so that it is matched by any
of them.
-/

namespace QueryFilters

/-- The filters of the field types that have one. -/
structure FilterMapping where
  builder? : FieldType → Option FilterBuilder

namespace FilterMapping

/-- No type has a filter. -/
def empty : FilterMapping := ⟨fun _ => none⟩

/-- Gives a type a filter. -/
def insert (m : FilterMapping) (type : FieldType) (builder : FilterBuilder) : FilterMapping :=
  ⟨fun t => if t = type then some builder else m.builder? t⟩

/-- Takes over the filters of another mapping. -/
def extend (m other : FilterMapping) : FilterMapping :=
  ⟨fun t => (other.builder? t).or (m.builder? t)⟩

/-- The filters that types have unless said otherwise. -/
def standard : FilterMapping where
  builder?
    | .string => some Filter.text
    | .int => some Filter.integer
    | .long => some Filter.integer
    | .sequence => some Filter.integer
    | .float => some Filter.float
    | .decimal => some Filter.float
    | .boolean => some Filter.boolean
    | .dateTime => some Filter.dateTime
    | .objectId => some Filter.objectId
    | .reference => some Filter.reference
    | .uuid => some Filter.uuid
    | .point => some Filter.geoNear
    | _ => none

/-- The filter of a type or of the nearest more general type that has one. -/
def resolveType? (m : FilterMapping) (type : FieldType) : Option FilterBuilder :=
  (type :: type.fallbacks).findSome? m.builder?

/-- The type whose filter a field takes. -/
def effectiveType (field : SchemaField) : Except ConfigurationError FieldType :=
  if field.type.isCollection then
    match field.element with
    | some type => .ok type
    | none => .error (.missingElementType field.name)
  else .ok field.type

/-- The filter of a field, which looks at the attribute of the field's name. -/
def resolve (m : FilterMapping) (field : SchemaField) : Except ConfigurationError FilterBuilder :=
  match effectiveType field with
  | .error e => .error e
  | .ok type =>
    match m.resolveType? type with
    | some builder =>
      if type.isCollection then .error (.unmappedField field.name type)
      else .ok (builder.withSource field.name)
    | none => .error (.unmappedField field.name type)

end FilterMapping

end QueryFilters
