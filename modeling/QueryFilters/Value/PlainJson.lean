import QueryFilters.Json.Basic
import QueryFilters.Value.Basic

/-!
# Values from plain JSON

A JSON document stands for the value of the same shape, but for an object with the single member
`$oid`, which stands for a document identifier.
-/

namespace QueryFilters.Value

/-- The value of a JSON number. -/
def ofNumber : JsonNumber → Value
  | .integer n => int n
  | n => float n.toFloat

/-- The identifier that an object of one member may give. -/
def extendedId? : List (String × Json) → Option ObjectId
  | [(name, .string hex)] => if name = "$oid" then ObjectId.ofHex? hex.toList else none
  | _ => none

mutual

/-- The value of a document that gives each name once. -/
def ofMerged : Json → Value
  | .null => null
  | .bool b => bool b
  | .number n => ofNumber n
  | .string s => string s
  | .array items => list (ofItems items)
  | .object members =>
    match extendedId? members with
    | some id => objectId id
    | none => ofPairs (ofMembers members)
  | .octets _ => null
  | .unreadable => null

/-- The values of the items of an array. -/
def ofItems : List Json → List Value
  | [] => []
  | item :: items => ofMerged item :: ofItems items

/-- The values of the members of an object. -/
def ofMembers : List (String × Json) → List (String × Value)
  | [] => []
  | (name, json) :: members => (name, ofMerged json) :: ofMembers members

end

/-- The value of a document. -/
def ofJson (json : Json) : Value :=
  ofMerged json.merged

end QueryFilters.Value
