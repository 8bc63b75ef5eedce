import QueryFilters.Codec.Basic
import QueryFilters.Lookup

/-!
# Kinds of filters

What a filter compares, which lookups it takes, and how its input is decoded unless it says
otherwise.
-/

namespace QueryFilters

/-- What a filter compares. -/
inductive FilterKind
  | boolean
  | text
  | uuid
  | integer
  | float
  | dateTime
  /-- The whole of a calendar day. -/
  | date
  | objectId
  /-- A reference, by the identifier of the document it refers to. -/
  | reference
  /-- Membership in the list of every text given for the key. -/
  | list
  /-- The texts under `min` and `max`, compared by the two lookups. If `collapse`, equal bounds
  become one equality. -/
  | range (lower upper : Lookup) (collapse : Bool)
  | geoNear
  | geoDistance
  /-- An interval stored under two paths that overlaps the one given by `min` and `max`. -/
  | rangeIntersection (low high : String)
deriving DecidableEq

namespace FilterKind

/-- The name of a kind in messages. -/
def name : FilterKind → String
  | boolean => "boolean"
  | text => "char"
  | uuid => "uuid"
  | integer => "integer"
  | float => "float"
  | dateTime => "datetime"
  | date => "date"
  | objectId => "object id"
  | reference => "reference"
  | list => "list"
  | range .. => "range"
  | geoNear => "geo near"
  | geoDistance => "geo distance"
  | rangeIntersection .. => "range intersection"

/-- The lookup of a kind where none is chosen. -/
def defaultLookup : FilterKind → Option Lookup
  | geoNear => some .near
  | geoDistance => some .maxDistance
  | _ => none

/-- Whether a kind takes a lookup, or plain equality where there is none. -/
def accepts (kind : FilterKind) (lookup : Option Lookup) : Bool :=
  match kind, lookup with
  | boolean, none => true
  | boolean, some l => l == .ne || l == .present
  | text, none => true
  | text, some l => l.isComparison || l.isString
  | uuid, none | integer, none | float, none | dateTime, none | objectId, none => true
  | uuid, some l | integer, some l | float, some l | dateTime, some l | objectId, some l =>
    l.isComparison
  | list, some l => l.isMembership
  | geoNear, some l | geoDistance, some l => l.isGeo
  | date, none | reference, none | range .., none | rangeIntersection .., none => true
  | _, _ => false

/-- Whether a kind decodes its input element by element. -/
def isCollection : FilterKind → Bool
  | list | range .. | rangeIntersection .. => true
  | _ => false

/-- The codec of a kind, given the codec of its elements. -/
def codec (kind : FilterKind) (child : Codec) : Codec :=
  match kind with
  | boolean => .boolean
  | text => .string true
  | uuid => .uuid
  | integer => .integer
  | float => .float
  | geoDistance => .float
  | dateTime => .dateTime true
  | date => .date
  | objectId => .objectId
  | reference => .objectId
  | list => .list child
  | range .. => .range child
  | rangeIntersection .. => .range child
  | geoNear => .geoPoint

end FilterKind

end QueryFilters
