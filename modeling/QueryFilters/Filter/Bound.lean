import QueryFilters.Filter.Builder
import QueryFilters.Fragment.Basic
import QueryFilters.Query.Source
import QueryFilters.Value.Order

/-!
# Bound filters

A filter bound to a name reads its input from a query, decodes it, and compiles the value to a
fragment.
-/

namespace QueryFilters

/-- A filter under the name it is registered by. -/
structure BoundFilter where
  name : String
  filter : Filter

/-- Binds a filter to a name. -/
def Filter.bind (filter : Filter) (name : String) : BoundFilter :=
  ⟨name, filter⟩

namespace BoundFilter

/-- The key that the filter reads from a query. -/
def key (b : BoundFilter) : String :=
  b.filter.key.getD b.name

/-- The path of the attribute that the filter compares. -/
def path (b : BoundFilter) : Path :=
  .ofDotted (b.filter.source.getD b.key)

/-- The path in the form in which keys begin with it. -/
def target (b : BoundFilter) : String :=
  b.path.toTarget

/-- The input of the filter in a query. Empty texts are dropped; what is left empty is absent. -/
def extract? (b : BoundFilter) (query : QuerySource) : Option Raw :=
  match b.filter.codec.shape with
  | .single => ((query.one? b.key).filter fun text => !text.isEmpty).map .one
  | .sequence =>
    let texts := (query.all b.key).filter fun text => !text.isEmpty
    if texts.isEmpty then none else some (.many texts)
  | .group =>
    let texts := (query.group b.key).filter fun entry => !entry.2.isEmpty
    if texts.isEmpty then none else some (.group texts)

/-- The value that a query gives the filter. Input that is missing or decodes to null gives none. -/
def parse (b : BoundFilter) (query : QuerySource) : Except ValidationError (Option Value) :=
  match b.extract? query with
  | none => .ok none
  | some raw =>
    match b.filter.codec.decode raw with
    | .ok .null => .ok none
    | .ok value => .ok (some value)
    | .error cause => .error ⟨b.key, raw.toText, cause⟩

end BoundFilter

namespace Compile

/-- A bound of a range, if it is given and not null. -/
def bound? (value : Value) (key : String) : Option Value :=
  (value.getPath? [key]).filter fun bound => !bound.isNull

/-- From the start of a day to the start of the next. On the last day of the calendar there is no
upper bound, and a value that is no day requires nothing. -/
def date (target : String) (value : Value) : Fragment :=
  let day? :=
    match value with
    | .date d => some d
    | .dateTime dt => some dt.date
    | _ => none
  match day? with
  | none => .empty
  | some d =>
    let start := Params.single target (some .gte) (.dateTime (.startOf d))
    match d.succ? with
    | none => .params start
    | some next => .params (start.put target (some .lt) (.dateTime (.startOf next)))

/-- The bounds of a range that are given. -/
def range (target : String) (lower upper : Lookup) (min max : Option Value) : Params :=
  let params := min.elim .empty fun min => Params.single target (some lower) min
  max.elim params fun max => params.put target (some upper) max

/-- A stored value lies between the bounds of a range. Equal bounds collapse to an equality if
`collapse`. -/
def rangeFragment (target : String) (lower upper : Lookup) (collapse : Bool) (value : Value) :
    Fragment :=
  match bound? value "min", bound? value "max" with
  | some min, some max =>
    if collapse && min == max then .params (.single target none min)
    else .params (range target lower upper (some min) (some max))
  | min, max => .params (range target lower upper min max)

/-- The attribute is missing, or the lookup holds for it. -/
def missingOr (target : String) (lookup : Lookup) (value : Value) : Condition :=
  .any [.params (.single target (some .present) (.bool false)),
    .params (.single target (some lookup) value)]

/-- A stored interval overlaps the one between the bounds. A bound that is missing on either side
does not count. -/
def intersection (low high : String) (value : Value) : Fragment :=
  let below := (bound? value "max").map (missingOr low .lte)
  let above := (bound? value "min").map (missingOr high .gte)
  let conditions := below.toList ++ above.toList
  if conditions.isEmpty then .empty else .condition (.all conditions)

/-- A reference whose identifier is the value. -/
def reference (path : Path) (value : Value) : Fragment :=
  .params (.single Key.raw none (.map [(path.toDotted ++ ".$id", value)]))

end Compile

namespace BoundFilter

/-- The fragment that a value compiles to, for a value that is not null. -/
def compileValue (b : BoundFilter) (value : Value) : Fragment :=
  match b.filter.kind with
  | .dateTime =>
    match value with
    | .dateTime dt => .params (.single b.target b.filter.lookup (.dateTime dt.truncateMillis))
    | value => .params (.single b.target b.filter.lookup value)
  | .date => Compile.date b.target value
  | .reference => Compile.reference b.path value
  | .range lower upper collapse => Compile.rangeFragment b.target lower upper collapse value
  | .rangeIntersection low high =>
    Compile.intersection (Path.ofDotted low).toTarget (Path.ofDotted high).toTarget value
  | _ => .params (.single b.target b.filter.lookup value)

/-- The fragment that a value compiles to; no value and null require nothing. -/
def compile (b : BoundFilter) : Option Value → Fragment
  | none => .empty
  | some .null => .empty
  | some value => b.compileValue value

end BoundFilter

end QueryFilters
