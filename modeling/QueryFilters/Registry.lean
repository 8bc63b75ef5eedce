import QueryFilters.Filter.Bound
import QueryFilters.Roster
import QueryFilters.Schema.Basic

/-!
# Registries

The named filters that apply to one kind of document, in the order in which they are parsed and
applied.
-/

namespace QueryFilters

/-- Named filters in order. -/
structure Registry where
  filters : Roster Filter
  /-- The document type that the filters were derived for. -/
  document : Option Schema

namespace Registry

/-- Declarations in the order in which their filters were built. -/
def byConstruction (declared : List (String × Filter)) : List (String × Filter) :=
  declared.mergeSort fun a b => a.2.serial ≤ b.2.serial

/-- The filters of the parents in their order, followed by the declarations in the order in which
they were built. A name keeps its first place and takes its last filter, and the document type is
that of the last parent that has one. -/
def inherit (parents : List Registry) (declared : List (String × Filter)) : Registry where
  filters := .ofList (parents.flatMap (·.filters.entries) ++ byConstruction declared)
  document := parents.reverse.findSome? (·.document)

/-- The given filters in the order in which they were built. -/
def declare (declared : List (String × Filter)) : Registry :=
  inherit [] declared

/-- The same filters for a document type. -/
def withDocument (r : Registry) (schema : Schema) : Registry :=
  { r with document := some schema }

/-- The filters, each bound to its name. -/
def bind (r : Registry) : List BoundFilter :=
  r.filters.entries.map fun (name, filter) => filter.bind name

end Registry

end QueryFilters
