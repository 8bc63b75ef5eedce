import QueryFilters.Calendar.Pattern
import QueryFilters.Json.Extended
import QueryFilters.Value.Basic

/-!
# Values in tagged JSON

The form in which values are exchanged without loss: an object with one member, whose name tells the
type. Null is the bare name of its type.
-/

namespace QueryFilters

namespace Value

/-- An object with one member. -/
def tagged (tag : String) (body : Json) : Json :=
  .object [(tag, body)]

mutual

/-- The tagged form of a value. Doubles that are not finite have no number in JSON. -/
def toJson : Value → Json
  | null => .string "Null"
  | bool b => tagged "Bool" (.bool b)
  | int n => tagged "I64" (.number (.integer n))
  | float x => tagged "F64" (if Binary64.isFinite x then .number (.double x) else .null)
  | string s => tagged "String" (.string s)
  | dateTime dt => tagged "DateTime" (.string dt.toText)
  | date d => tagged "Date" (.string d.toText)
  | objectId id => tagged "ObjectId" (tagged "$oid" (.string id.toHex))
  | uuid id => tagged "Uuid" (.string id.toText)
  | list items => tagged "List" (.array (itemsToJson items))
  | map entries => tagged "Map" (.object (entriesToJson entries))

/-- The tagged forms of the items of a list. -/
def itemsToJson : List Value → List Json
  | [] => []
  | item :: items => toJson item :: itemsToJson items

/-- The tagged forms of the entries of a map. -/
def entriesToJson : List (String × Value) → List (String × Json)
  | [] => []
  | (name, value) :: entries => (name, toJson value) :: entriesToJson entries

end

/-- The value of a scalar type that a tag and its body give. -/
def ofScalar? (tag : String) (body : Json) : Option Value :=
  match body with
  | .null => if tag = "Null" then some null else none
  | .bool b => if tag = "Bool" then some (bool b) else none
  | .number n =>
    if tag = "F64" then some (float n.toFloat)
    else
      match n with
      | .integer n => if tag = "I64" then some (int n) else none
      | _ => none
  | .string s =>
    if tag = "String" then some (string s)
    else if tag = "DateTime" then (DateTime.ofText? s.toList).map dateTime
    else if tag = "Date" then (Date.ofText? s.toList).map date
    else if tag = "ObjectId" then (ObjectId.ofJson? body).map objectId
    else if tag = "Uuid" then (Uuid.ofText? s.toList).map uuid
    else none
  | .object _ => if tag = "ObjectId" then (ObjectId.ofJson? body).map objectId else none
  | _ => none

mutual

/-- The value that a tagged form gives. -/
def ofJson? : Json → Option Value
  | .string s => if s = "Null" then some null else none
  | .object [(tag, .array items)] =>
    if tag = "List" then (itemsOfJson? items).map list else none
  | .object [(tag, .object members)] =>
    if tag = "Map" then (entriesOfJson? members).map ofPairs else ofScalar? tag (.object members)
  | .object [(tag, body)] => ofScalar? tag body
  | _ => none

/-- The values that the items of an array give. -/
def itemsOfJson? : List Json → Option (List Value)
  | [] => some []
  | item :: items =>
    match ofJson? item, itemsOfJson? items with
    | some value, some values => some (value :: values)
    | _, _ => none

/-- The values that the members of an object give. -/
def entriesOfJson? : List (String × Json) → Option (List (String × Value))
  | [] => some []
  | (name, json) :: members =>
    match ofJson? json, entriesOfJson? members with
    | some value, some entries => some ((name, value) :: entries)
    | _, _ => none

end

end Value

end QueryFilters
