import QueryFilters.Json.Basic
import QueryFilters.Lookup

/-!
# Lookups in JSON

A lookup is exchanged as its suffix.
-/

namespace QueryFilters.Lookup

/-- The suffix of a lookup as a string. -/
def toJson (l : Lookup) : Json :=
  .string l.suffix

/-- The lookup whose suffix a string gives. -/
def ofJson? : Json → Option Lookup
  | .string s => ofSuffix? s
  | _ => none

/-- A lookup is read back from its own JSON. -/
theorem ofJson?_toJson (l : Lookup) : ofJson? l.toJson = some l :=
  ofSuffix?_suffix l

end QueryFilters.Lookup
