import QueryFilters.Text.Quoted

/-!
# Lookups

The comparisons a document store applies between a stored attribute and the value of a query. Each
is named by a suffix; plain equality has none, so wherever it is possible a lookup is optional.
-/

namespace QueryFilters

/-- A comparison other than plain equality. -/
inductive Lookup
  | ne
  | gt
  | gte
  | lt
  | lte
  /-- The attribute is present. -/
  | present
  /-- The attribute is one of the candidates. -/
  | oneOf
  /-- The attribute is none of the candidates. -/
  | noneOf
  /-- The attribute holds all of the candidates. -/
  | allOf
  | exact
  | iexact
  | contains
  | icontains
  | startsWith
  | istartsWith
  | endsWith
  | iendsWith
  | near
  | nearSphere
  | maxDistance
  | minDistance
  | withinDistance
  | withinSphericalDistance
  | withinBox
  | withinPolygon
  | geoWithin
  | geoWithinBox
  | geoWithinPolygon
  | geoWithinCenter
  | geoWithinSphere
  | geoIntersects
deriving DecidableEq

/-- Why a text names no lookup. -/
inductive LookupError
  | empty
  | unknown (text : String)
deriving DecidableEq

/-- The wording of the error. -/
def LookupError.message : LookupError → String
  | empty => "empty lookup operator"
  | unknown text => "unknown lookup operator: " ++ Text.quoted text

namespace Lookup

/-- The lookups that compare by order, and inequality. -/
def comparison : List Lookup := [ne, gt, gte, lt, lte]

/-- The lookups that compare with a list of candidates. -/
def membership : List Lookup := [oneOf, noneOf, allOf]

/-- The lookups that match text. -/
def string : List Lookup :=
  [exact, iexact, contains, icontains, startsWith, istartsWith, endsWith, iendsWith]

/-- The lookups that compare places. -/
def geo : List Lookup :=
  [near, nearSphere, maxDistance, minDistance, withinDistance, withinSphericalDistance, withinBox,
   withinPolygon, geoWithin, geoWithinBox, geoWithinPolygon, geoWithinCenter, geoWithinSphere,
   geoIntersects]

/-- Every lookup. -/
def list : List Lookup :=
  comparison ++ membership ++ string ++ geo ++ [present]

/-- Whether the lookup compares by order, or is inequality. -/
def isComparison (l : Lookup) : Bool := comparison.contains l

/-- Whether the lookup compares with a list of candidates. -/
def isMembership (l : Lookup) : Bool := membership.contains l

/-- Whether the lookup matches text. -/
def isString (l : Lookup) : Bool := string.contains l

/-- Whether the lookup compares places. -/
def isGeo (l : Lookup) : Bool := geo.contains l

/-- The suffix that names the lookup. -/
def suffix : Lookup → String
  | ne => "ne"
  | gt => "gt"
  | gte => "gte"
  | lt => "lt"
  | lte => "lte"
  | present => "exists"
  | oneOf => "in"
  | noneOf => "nin"
  | allOf => "all"
  | exact => "exact"
  | iexact => "iexact"
  | contains => "contains"
  | icontains => "icontains"
  | startsWith => "startswith"
  | istartsWith => "istartswith"
  | endsWith => "endswith"
  | iendsWith => "iendswith"
  | near => "near"
  | nearSphere => "near_sphere"
  | maxDistance => "max_distance"
  | minDistance => "min_distance"
  | withinDistance => "within_distance"
  | withinSphericalDistance => "within_spherical_distance"
  | withinBox => "within_box"
  | withinPolygon => "within_polygon"
  | geoWithin => "geo_within"
  | geoWithinBox => "geo_within_box"
  | geoWithinPolygon => "geo_within_polygon"
  | geoWithinCenter => "geo_within_center"
  | geoWithinSphere => "geo_within_sphere"
  | geoIntersects => "geo_intersects"

/-- The lookup with the given suffix, if there is one. -/
def ofSuffix? (text : String) : Option Lookup :=
  list.find? fun l => l.suffix == text

/-- The lookup with the given suffix, or the reason why there is none. -/
def ofSuffix (text : String) : Except LookupError Lookup :=
  if text = "" then .error .empty
  else
    match ofSuffix? text with
    | some l => .ok l
    | none => .error (.unknown text)

/-- Every lookup is in the list of all. -/
theorem mem_list (l : Lookup) : l ∈ list := by
  cases l <;> decide

/-- Different lookups have different suffixes. -/
theorem ofSuffix?_suffix (l : Lookup) : ofSuffix? l.suffix = some l := by
  cases l <;> decide

/-- A text that names a lookup is its suffix. -/
theorem suffix_of_ofSuffix? {text : String} {l : Lookup} (h : ofSuffix? text = some l) :
    l.suffix = text := by
  simpa using List.find?_some h

end Lookup

end QueryFilters
