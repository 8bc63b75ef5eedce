import QueryFilters.Registry
import QueryFilters.Schema.Mapping

/-!
# Registries derived from schemas

The scope of a derived registry is a list of included fields, or every field but the excluded ones.
A field in scope takes the filter declared under its name, or else one made for its type. Declared
filters that are not in scope come after those that are.
-/

namespace QueryFilters

/-- The choices for a derived registry. -/
structure Introspection where
  schema : Schema
  /-- Only these fields, in this order. -/
  included : Option (List String)
  /-- Every field but these. -/
  excluded : Option (List String)
  parents : List Registry
  declared : List (String × Filter)
  /-- Choices for the filters made for fields. -/
  options : Dict FilterOptions
  mapping : FilterMapping

namespace Introspection

/-- Every field of a schema, with the standard filters. -/
def ofSchema (schema : Schema) : Introspection where
  schema
  included := none
  excluded := none
  parents := []
  declared := []
  options := .empty
  mapping := .standard

/-- The names of the fields in scope. -/
def scope (i : Introspection) : Except ConfigurationError (List String) :=
  match i.included, i.excluded with
  | some _, some _ => .error .conflictingFieldPolicy
  | some names, none => .ok names
  | none, excluded =>
    .ok (i.schema.fieldNames.filter fun name => !(excluded.getD []).contains name)

/-- The declared filters with those of the parents. -/
def declarations (i : Introspection) : Registry :=
  .inherit i.parents i.declared

/-- The filter made for a field. -/
def synthesize (i : Introspection) (name : String) (serial : UInt64) :
    Except ConfigurationError Filter := do
  let field ←
    match i.schema.get? name with
    | some field => .ok field
    | none => .error (.unknownField i.schema.name name)
  let builder ← i.mapping.resolve field
  let builder :=
    match i.options.get? name with
    | some options => builder.withOptions options
    | none => builder
  builder.build serial

/-- The filters of the fields in scope; the first that cannot be made is reported. Those made take
their places in the order of building from `serial` on. -/
def scopeEntries (i : Introspection) (declarations : Registry) (serial : UInt64) :
    List String → Except ConfigurationError (List (String × Filter))
  | [] => .ok []
  | name :: names =>
    match declarations.filters.get? name with
    | some filter => do
      let entries ← i.scopeEntries declarations serial names
      .ok ((name, filter) :: entries)
    | none => do
      let filter ← i.synthesize name serial
      let entries ← i.scopeEntries declarations (serial + 1) names
      .ok ((name, filter) :: entries)

/-- The derived registry. Filters made for fields take their places in the order of building from
`serial` on. -/
def build (i : Introspection) (serial : UInt64) : Except ConfigurationError Registry := do
  let scope ← i.scope
  let declarations := i.declarations
  let entries ← i.scopeEntries declarations serial scope
  let others := declarations.filters.entries.filter fun (name, _) => !scope.contains name
  .ok { filters := .ofList (entries ++ others), document := some i.schema }

end Introspection

end QueryFilters
