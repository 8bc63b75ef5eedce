import QueryFilters.FilterSet

/-!
# Sessions

A filter set in use by several calls. The query is parsed at the first call that needs its values,
and the outcome is kept for the later ones.
-/

namespace QueryFilters

/-- A filter set with the outcome of parsing its query, once that is known. -/
structure Session where
  set : FilterSet
  parsed : Option (Except ValidationError QueryValues)

namespace Session

/-- What a filter set may be asked for. -/
inductive Call
  | parse
  | fragments
  | apply (q : Queryset)
  | applyValues (q : Queryset) (values : QueryValues)

/-- What a call answers. -/
inductive Answer
  | values (outcome : Except ValidationError QueryValues)
  | fragments (outcome : Except ValidationError (List (String × Fragment)))
  | queryset (outcome : Except FilterError Queryset)

/-- A filter set of which nothing has been asked. -/
def ofSet (set : FilterSet) : Session :=
  ⟨set, none⟩

/-- The values that the query gives the filters, and the session that keeps them. -/
def parse (s : Session) : Except ValidationError QueryValues × Session :=
  match s.parsed with
  | some outcome => (outcome, s)
  | none =>
    let outcome := s.set.parse
    (outcome, { s with parsed := some outcome })

/-- The fragments of the filters that the query gives values to. -/
def fragments (s : Session) : Except ValidationError (List (String × Fragment)) × Session :=
  let (outcome, s) := s.parse
  (outcome.map s.set.compile, s)

/-- The queryset narrowed by every filter that the query gives a value to. A queryset of another
document type is refused before anything is parsed. -/
def apply (s : Session) (q : Queryset) : Except FilterError Queryset × Session :=
  match s.set.checkDocument q with
  | .error e => (.error e, s)
  | .ok () =>
    match s.parse with
    | (.ok values, s) => (.ok (s.set.fold q values), s)
    | (.error e, s) => (.error (.validation e), s)

/-- The answer to one call. -/
def answer (s : Session) : Call → Answer × Session
  | .parse =>
    let (outcome, s) := s.parse
    (.values outcome, s)
  | .fragments =>
    let (outcome, s) := s.fragments
    (.fragments outcome, s)
  | .apply q =>
    let (outcome, s) := s.apply q
    (.queryset outcome, s)
  | .applyValues q values => (.queryset (s.set.applyValues q values), s)

/-- The answers to calls that are made one after the other. -/
def run (s : Session) : List Call → List Answer
  | [] => []
  | call :: calls =>
    let (first, s) := s.answer call
    first :: s.run calls

end Session

end QueryFilters
