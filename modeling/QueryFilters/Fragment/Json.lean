import QueryFilters.Fragment.Basic
import QueryFilters.Value.Order
import QueryFilters.Value.TaggedJson

/-!
# Fragments in JSON

The form in which fragments are exchanged, and when two fragments are equal.
-/

namespace QueryFilters

namespace Params

/-- A mapping as an object. -/
def toJson (params : Params) : Json :=
  .object (Value.entriesToJson params.entries)

/-- The mapping that an object gives. -/
def ofJson? : Json → Option Params
  | .object members => (Value.entriesOfJson? members).map Dict.ofList
  | _ => none

/-- Whether two mappings require equal values under the same keys. -/
def same (a b : Params) : Bool :=
  Value.map a.entries == Value.map b.entries

end Params

namespace Condition

mutual

/-- A condition as an object with one member. -/
def toJson : Condition → Json
  | params p => .object [("Match", p.toJson)]
  | all conditions => .object [("And", .array (listToJson conditions))]
  | any conditions => .object [("Or", .array (listToJson conditions))]

/-- The objects of several conditions. -/
def listToJson : List Condition → List Json
  | [] => []
  | condition :: conditions => toJson condition :: listToJson conditions

end

mutual

/-- The condition that an object with one member gives. -/
def ofJson? : Json → Option Condition
  | .object [(tag, .array items)] =>
    if tag = "And" then (listOfJson? items).map all
    else if tag = "Or" then (listOfJson? items).map any
    else none
  | .object [(tag, body)] => if tag = "Match" then (Params.ofJson? body).map params else none
  | _ => none

/-- The conditions that the items of an array give. -/
def listOfJson? : List Json → Option (List Condition)
  | [] => some []
  | item :: items =>
    match ofJson? item, listOfJson? items with
    | some condition, some conditions => some (condition :: conditions)
    | _, _ => none

end

mutual

/-- Whether two conditions are built alike from equal mappings. -/
def same : Condition → Condition → Bool
  | params a, params b => Params.same a b
  | all a, all b => sameList a b
  | any a, any b => sameList a b
  | _, _ => false

/-- Whether two lists of conditions are the same, one by one. -/
def sameList : List Condition → List Condition → Bool
  | [], [] => true
  | a :: as, b :: bs => same a b && sameList as bs
  | _, _ => false

end

end Condition

namespace Fragment

/-- A fragment as an object with one member. -/
def toJson : Fragment → Json
  | params p => .object [("Params", p.toJson)]
  | condition c => .object [("Condition", c.toJson)]

/-- The fragment that an object with one member gives. -/
def ofJson? : Json → Option Fragment
  | .object [(tag, body)] =>
    if tag = "Params" then (Params.ofJson? body).map params
    else if tag = "Condition" then (Condition.ofJson? body).map condition
    else none
  | _ => none

/-- Whether two fragments are built alike from equal mappings. -/
def same : Fragment → Fragment → Bool
  | params a, params b => Params.same a b
  | condition a, condition b => Condition.same a b
  | _, _ => false

end Fragment

end QueryFilters
