import QueryFilters.Document
import QueryFilters.Fragment.Basic
import QueryFilters.Sorting
import QueryFilters.Value.Text

/-!
# Proximity

Places to be near to, and bounds on the distance from them. A filter may give the place and another
one the bounds, so they are collected from all fragments before any is evaluated.
-/

namespace QueryFilters

/-- Why a fragment cannot be evaluated. -/
inductive EvalError
  | unsupportedLookup (lookup : Lookup)
  /-- A distance is bounded on a path without a place to measure it from. -/
  | missingNear (path : Path) (lookup : Lookup)
  | invalidOperand (key : String) (operand : Value)

/-- The wording of the error. -/
def EvalError.message : EvalError → String
  | unsupportedLookup lookup => "lookup " ++ lookup.suffix ++ " is not supported in memory"
  | missingNear path lookup =>
    lookup.suffix ++ " on " ++ path.toDotted ++ " requires a near lookup on the same path"
  | invalidOperand key operand => "invalid operand for " ++ key ++ ": " ++ operand.toText

/-- A way to measure the distance between two places. -/
abbrev Metric := Point → Point → Float

namespace Metric

/-- The radius of the globe in metres. -/
def earthRadius : Float := 6378100.0

/-- Degrees in radians. -/
def radians (degrees : Float) : Float :=
  degrees * (3.14159265358979323846264338327950288 / 180.0)

/-- The length in metres of the shortest way on the globe. -/
def greatCircle : Metric := fun p q =>
  let lat₁ := radians p.lat
  let lat₂ := radians q.lat
  let sinLat := Float.sin (radians (q.lat - p.lat) / 2.0)
  let sinLng := Float.sin (radians (q.lng - p.lng) / 2.0)
  let a := sinLat * sinLat + Float.cos lat₁ * Float.cos lat₂ * (sinLng * sinLng)
  2.0 * earthRadius * Float.asin (Float.sqrt a)

end Metric

/-- What is asked about the distance on one path. -/
structure Near where
  origin : Option Point := none
  max : Option Float := none
  min : Option Float := none

/-- What is asked about distances, by the target of the path, in the order of first mention. -/
structure Proximity where
  paths : List (String × Near)

namespace Proximity

/-- Nothing is asked about distances. -/
def empty : Proximity := ⟨[]⟩

/-- Whether nothing is asked about distances. -/
def isEmpty (p : Proximity) : Bool :=
  p.paths.isEmpty

/-- What is asked about the distance on a path. -/
def get? (p : Proximity) (target : String) : Option Near :=
  Entries.get? target p.paths

/-- Changes what is asked on a path. -/
def update (p : Proximity) (target : String) (change : Near → Near) : Proximity :=
  ⟨Entries.put target (change ((p.get? target).getD {})) p.paths⟩

/-- Records what one key with its operand asks. -/
def record (p : Proximity) (key : String) (operand : Value) : Except EvalError Proximity :=
  let (path, lookup) := Key.split key
  match lookup with
  | some .near | some .nearSphere =>
    match operand.asPoint? with
    | some origin => .ok (p.update path.toTarget fun near => { near with origin := some origin })
    | none => .error (.invalidOperand key operand)
  | some .maxDistance =>
    match operand.asFloat? with
    | some max => .ok (p.update path.toTarget fun near => { near with max := some max })
    | none => .error (.invalidOperand key operand)
  | some .minDistance =>
    match operand.asFloat? with
    | some min => .ok (p.update path.toTarget fun near => { near with min := some min })
    | none => .error (.invalidOperand key operand)
  | _ => .ok p

/-- Records what several keys ask, one after the other. -/
def recordAll (p : Proximity) : List (String × Value) → Except EvalError Proximity
  | [] => .ok p
  | (key, operand) :: entries =>
    match p.record key operand with
    | .ok p => p.recordAll entries
    | .error e => .error e

/-- The first path on which a distance is bounded but no place is given. -/
def unanchored? (p : Proximity) : Option EvalError :=
  p.paths.findSome? fun (target, near) =>
    if near.origin.isSome then none
    else
      let lookup := if near.max.isSome then Lookup.maxDistance else .minDistance
      some (.missingNear (Path.ofTarget target) lookup)

/-- What fragments ask about distances. On one path the last entry of each kind counts. -/
def collect (fragments : List Fragment) : Except EvalError Proximity :=
  let entries := (fragments.flatMap Fragment.leaves).flatMap Dict.entries
  match empty.recordAll entries with
  | .error e => .error e
  | .ok p =>
    match p.unanchored? with
    | some e => .error e
    | none => .ok p

/-- The distance of a document from the first place that is given. -/
def distance? (metric : Metric) (p : Proximity) (d : Document) : Option Float :=
  match p.paths with
  | [] => none
  | (target, near) :: _ =>
    match near.origin, (d.get? (Path.ofTarget target)).bind Value.asPoint? with
    | some origin, some point => some (metric origin point)
    | _, _ => none

/-- Whether a stored value is a place within the bounds asked on a path. -/
def within (metric : Metric) (p : Proximity) (target : String) (actual : Option Value) : Bool :=
  match actual.bind Value.asPoint? with
  | none => false
  | some point =>
    match p.get? target with
    | none => true
    | some near =>
      match near.origin with
      | none => false
      | some origin =>
        let distance := metric origin point
        near.max.all (Binary64.atMost distance ·) && near.min.all (Binary64.atMost · distance)

/-- How two distances compare: a known one comes before an unknown one, and a shorter one before a
longer one. A distance that is no number is taken for equal to every known one. -/
def order : Option Float → Option Float → Ordering
  | some a, some b => (Binary64.compare? a b).getD .eq
  | some _, none => .lt
  | none, some _ => .gt
  | none, none => .eq

/-- How two documents compare by their distances. -/
def byDistance (metric : Metric) (p : Proximity) (d e : Document) : Ordering :=
  order (p.distance? metric d) (p.distance? metric e)

/-- Documents in the order of their distance, if anything is asked about distances. The sort may
give up on distances that are no numbers. -/
def sort (sorting : Sorting) (metric : Metric) (p : Proximity) (documents : List Document) :
    Option (List Document) :=
  if p.isEmpty then some documents else sorting.sort (p.byDistance metric) documents

end Proximity

end QueryFilters
