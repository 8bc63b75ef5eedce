import QueryFilters.Dict

/-!
# Raw input

What a query gives for one filter, before it is decoded.
-/

namespace QueryFilters

/-- How a filter takes its input from a query. -/
inductive Shape
  /-- The last text given for the key. -/
  | single
  /-- Every text given for the key, in order. -/
  | sequence
  /-- Every text given for the key, a dot and a suffix, by suffix. -/
  | group
deriving DecidableEq

/-- The texts that a query gives for one filter. -/
inductive Raw
  | one (text : String)
  | many (texts : List String)
  | group (texts : Dict String)

namespace Raw

/-- The text of a group: suffixes and texts in braces. -/
def groupText (group : Dict String) : String :=
  "\x7b" ++ ", ".intercalate (group.entries.map fun (key, text) => key ++ ": " ++ text) ++ "\x7d"

/-- How messages show raw input. -/
def toText : Raw → String
  | one text => text
  | many texts => "[" ++ ", ".intercalate texts ++ "]"
  | group texts => groupText texts

end Raw

end QueryFilters
