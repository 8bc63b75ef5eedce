import QueryFilters.Queryset
import QueryFilters.Registry

/-!
# Filter sets

A registry together with the data of one query: the values that the query gives the filters, the
fragments they compile to, and the querysets narrowed by them.
-/

namespace QueryFilters

/-- The filters of a registry for the data of one query. -/
structure FilterSet where
  registry : Registry
  query : QuerySource

/-- The values of filters by their names, in the order of the registry. -/
abbrev QueryValues := Roster Value

namespace FilterSet

/-- The filters, each bound to its name, in the order of the registry. -/
def filters (s : FilterSet) : List BoundFilter :=
  s.registry.bind

/-- The filter with the given name. -/
def get? (s : FilterSet) (name : String) : Option BoundFilter :=
  s.filters.find? fun b => b.name == name

/-- The values that a query gives filters, after those already known. The first filter whose input
cannot be decoded is reported. -/
def parseFrom (query : QuerySource) (values : QueryValues) :
    List BoundFilter → Except ValidationError QueryValues
  | [] => .ok values
  | b :: filters =>
    match b.parse query with
    | .ok (some value) => parseFrom query (values.put b.name value) filters
    | .ok none => parseFrom query values filters
    | .error e => .error e

/-- The values that the query gives the filters. -/
def parse (s : FilterSet) : Except ValidationError QueryValues :=
  parseFrom s.query .empty s.filters

/-- The fragments that values compile to, without the empty ones. -/
def compile (s : FilterSet) (values : QueryValues) : List (String × Fragment) :=
  (s.filters.map fun b => (b.name, b.compile (values.get? b.name))).filter fun entry =>
    !entry.2.isEmpty

/-- The fragments of the filters that the query gives values to, in the order of the registry. -/
def fragments (s : FilterSet) : Except ValidationError (List (String × Fragment)) :=
  s.parse.map s.compile

/-- Refuses a queryset that is known to select documents of another type. -/
def checkDocument (s : FilterSet) (q : Queryset) : Except FilterError Unit :=
  match s.registry.document, q.document with
  | some expected, some actual =>
    if actual.isA expected.name then .ok ()
    else .error (.backendMismatch expected.name actual.name)
  | _, _ => .ok ()

/-- The queryset narrowed by the fragments that values compile to. -/
def fold (s : FilterSet) (q : Queryset) (values : QueryValues) : Queryset :=
  (s.compile values).foldl (fun q entry => q.narrow entry.2) q

/-- The queryset narrowed by every filter that the query gives a value to. -/
def apply (s : FilterSet) (q : Queryset) : Except FilterError Queryset := do
  s.checkDocument q
  match s.parse with
  | .ok values => .ok (s.fold q values)
  | .error e => .error (.validation e)

/-- The queryset narrowed by the given values in place of those of the query. -/
def applyValues (s : FilterSet) (q : Queryset) (values : QueryValues) :
    Except FilterError Queryset := do
  s.checkDocument q
  .ok (s.fold q values)

end FilterSet

end QueryFilters
