import QueryFilters.Value.Basic

/-!
# Fragments

The predicates that filters compile to. A fragment relates keys to values; a condition combines such
mappings by conjunction and disjunction.
-/

namespace QueryFilters

/-- The values required under keys, a key being a path with an optional lookup. -/
abbrev Params := Dict Value

namespace Params

/-- Requires a value under the key of a target and a lookup. -/
def put (params : Params) (target : String) (lookup : Option Lookup) (value : Value) : Params :=
  params.insert (Key.ofTarget target lookup) value

/-- Requires one value. -/
def single (target : String) (lookup : Option Lookup) (value : Value) : Params :=
  put .empty target lookup value

end Params

/-- Mappings combined by conjunction and disjunction. -/
inductive Condition
  | params (params : Params)
  | all (conditions : List Condition)
  | any (conditions : List Condition)

/-- A predicate on documents, as one filter contributes it. -/
inductive Fragment
  | params (params : Params)
  | condition (condition : Condition)

namespace Condition

mutual

/-- Whether no mapping in the condition requires anything. -/
def isEmpty : Condition → Bool
  | params p => p.isEmpty
  | all conditions => allEmpty conditions
  | any conditions => allEmpty conditions

/-- Whether all of the conditions are empty. -/
def allEmpty : List Condition → Bool
  | [] => true
  | condition :: conditions => isEmpty condition && allEmpty conditions

end

mutual

/-- The mappings of a condition in the order they are written. -/
def leaves : Condition → List Params
  | params p => [p]
  | all conditions => allLeaves conditions
  | any conditions => allLeaves conditions

/-- The mappings of several conditions. -/
def allLeaves : List Condition → List Params
  | [] => []
  | condition :: conditions => leaves condition ++ allLeaves conditions

end

end Condition

namespace Fragment

/-- The fragment that requires nothing. -/
def empty : Fragment := params .empty

/-- Whether the fragment requires nothing. -/
def isEmpty : Fragment → Bool
  | params p => p.isEmpty
  | condition c => c.isEmpty

/-- The mapping of a fragment that is no condition. -/
def asParams? : Fragment → Option Params
  | params p => some p
  | condition _ => none

/-- The mappings of a fragment in the order they are written. -/
def leaves : Fragment → List Params
  | params p => [p]
  | condition c => c.leaves

end Fragment

end QueryFilters
