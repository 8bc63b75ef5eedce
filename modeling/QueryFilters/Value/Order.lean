import QueryFilters.Value.Basic

/-!
# Comparing values

Values of one type are ordered by their contents; lists and maps lexicographically. A store compares
an integer with a float as numbers and leaves any other two types unordered.
-/

namespace QueryFilters.Value

mutual

/-- The order of all values: by contents within a type, and by type otherwise. -/
def order? : Value → Value → Option Ordering
  | null, null => some .eq
  | bool a, bool b => some (compare a b)
  | int a, int b => some (compare a b)
  | float a, float b => Binary64.compare? a b
  | string a, string b => some (compare a b)
  | dateTime a, dateTime b => some (compare a b)
  | date a, date b => some (compare a b)
  | objectId a, objectId b => some (compare a b)
  | uuid a, uuid b => some (compare a b)
  | list xs, list ys => orderItems? xs ys
  | map xs, map ys => orderEntries? xs ys
  | a, b => some (compare a.type.rank b.type.rank)

/-- Lists are ordered by their first items that differ; a list comes before those it begins. -/
def orderItems? : List Value → List Value → Option Ordering
  | [], [] => some .eq
  | [], _ :: _ => some .lt
  | _ :: _, [] => some .gt
  | x :: xs, y :: ys =>
    match order? x y with
    | some .eq => orderItems? xs ys
    | other => other

/-- Maps are ordered like the lists of their entries, each by its name and then by its value. -/
def orderEntries? : List (String × Value) → List (String × Value) → Option Ordering
  | [], [] => some .eq
  | [], _ :: _ => some .lt
  | _ :: _, [] => some .gt
  | (name, x) :: xs, (name', y) :: ys =>
    match compare name name' with
    | .eq =>
      match order? x y with
      | some .eq => orderEntries? xs ys
      | other => other
    | other => some other

end

/-- Two values are equal when neither comes before the other. A value that holds something that is
not a number equals none. -/
instance : BEq Value where
  beq a b := order? a b == some .eq

/-- The rank of a number among the doubles; an integer has that of the nearest double. -/
def numberRank? : Value → Option Int
  | int n => some (Binary64.rankOfInt n.toInt)
  | float x => Binary64.rank? x
  | _ => none

/-- How a store compares two values. -/
def compare? (a b : Value) : Option Ordering :=
  if a.type = b.type then order? a b
  else
    match a.numberRank?, b.numberRank? with
    | some x, some y => some (compare x y)
    | _, _ => none

/-- Whether a store takes two values for the same. -/
def looselyEq (a b : Value) : Bool :=
  compare? a b == some .eq

end QueryFilters.Value
