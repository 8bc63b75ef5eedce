import QueryFilters.Calendar.DateTime
import QueryFilters.Dict
import QueryFilters.Identifier.ObjectId
import QueryFilters.Identifier.Uuid
import QueryFilters.Key
import QueryFilters.Number.Binary64

/-!
# Values

What documents store and queries ask for: scalars, lists and maps.
-/

namespace QueryFilters

/-- A stored value, or one that a stored value is compared with. -/
inductive Value
  | null
  | bool (b : Bool)
  | int (n : Int64)
  | float (x : Float)
  | string (s : String)
  | dateTime (dt : DateTime)
  | date (d : Date)
  | objectId (id : ObjectId)
  | uuid (id : Uuid)
  | list (items : List Value)
  /-- Named values in ascending order of their names. -/
  | map (entries : List (String × Value))

instance : Inhabited Value := ⟨.null⟩

/-- The types of values. -/
inductive ValueType
  | null
  | bool
  | int
  | float
  | string
  | dateTime
  | date
  | objectId
  | uuid
  | list
  | map
deriving DecidableEq

namespace ValueType

/-- The place of a type among all types. -/
def rank : ValueType → Nat
  | null => 0
  | bool => 1
  | int => 2
  | float => 3
  | string => 4
  | dateTime => 5
  | date => 6
  | objectId => 7
  | uuid => 8
  | list => 9
  | map => 10

/-- Whether the values of a type are numbers. -/
def isNumeric : ValueType → Bool
  | int | float => true
  | _ => false

end ValueType

/-- A place on the globe in degrees. -/
structure Point where
  lng : Float
  lat : Float

namespace Value

/-- The type of a value. -/
def type : Value → ValueType
  | null => .null
  | bool _ => .bool
  | int _ => .int
  | float _ => .float
  | string _ => .string
  | dateTime _ => .dateTime
  | date _ => .date
  | objectId _ => .objectId
  | uuid _ => .uuid
  | list _ => .list
  | map _ => .map

/-- Whether a value is null. -/
def isNull : Value → Bool
  | null => true
  | _ => false

/-- Whether a value is a list. -/
def isList : Value → Bool
  | list _ => true
  | _ => false

/-- A number as a double. -/
def asFloat? : Value → Option Float
  | int n => some (Binary64.ofInt n.toInt)
  | float x => some x
  | _ => none

/-- The text of a string. -/
def asString? : Value → Option String
  | string s => some s
  | _ => none

/-- The items of a list. -/
def asList? : Value → Option (List Value)
  | list items => some items
  | _ => none

/-- The entries of a map. -/
def asMap? : Value → Option (Entries Value)
  | map entries => some entries
  | _ => none

/-- The map of the given pairs; of equal names the last one wins. -/
def ofPairs (pairs : List (String × Value)) : Value :=
  map (Entries.ofList pairs)

/-- What a path of names leads to through nested maps. -/
def getPath? (value : Value) : Path → Option Value
  | [] => some value
  | name :: path =>
    match value with
    | map entries =>
      match Entries.get? name entries with
      | some inner => getPath? inner path
      | none => none
    | _ => none

/-- A place in the form that stores give to points. -/
def point (p : Point) : Value :=
  ofPairs [("type", string "Point"), ("coordinates", list [float p.lng, float p.lat])]

/-- The coordinates of a pair of numbers. -/
def asPair? : Value → Option Point
  | list [lng, lat] =>
    match lng.asFloat?, lat.asFloat? with
    | some lng, some lat => some ⟨lng, lat⟩
    | _, _ => none
  | _ => none

/-- The place that a stored point or a bare pair of coordinates gives. -/
def asPoint? : Value → Option Point
  | map entries =>
    match Entries.get? "type" entries with
    | some (string s) =>
      if s = "Point" then (Entries.get? "coordinates" entries).bind asPair? else none
    | _ => none
  | list items => asPair? (list items)
  | _ => none

end Value

end QueryFilters
