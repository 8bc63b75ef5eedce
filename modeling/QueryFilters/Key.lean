import QueryFilters.Lookup
import QueryFilters.Text.Split

/-!
# Keys

A key names a stored attribute by its path and, optionally, a lookup: the segments of the path and
the suffix of the lookup are joined by two underscores. Reading a key back is ambiguous where the
last segment of a path is spelled like a lookup; it is then read as the lookup.
-/

namespace QueryFilters

/-- The names that lead from a document to one of its attributes. -/
abbrev Path := List String

namespace Path

/-- The path written with dots between its segments. -/
def ofDotted (text : String) : Path :=
  (Text.splitOn '.' text.toList).map String.ofList

/-- The path with dots between its segments. -/
def toDotted (path : Path) : String :=
  ".".intercalate path

/-- The segments of a text between double underscores. -/
def ofTarget (text : String) : Path :=
  (Text.splitOnPair '_' text.toList).map String.ofList

/-- The path with double underscores between its segments. -/
def toTarget (path : Path) : String :=
  "__".intercalate path

/-- Joining the segments of a text gives the text again. -/
theorem toTarget_ofTarget (text : String) : (ofTarget text).toTarget = text := by
  apply String.toList_injective
  have h : ∀ pieces : List (List Char), (pieces.map String.ofList).map String.toList = pieces := by
    intro pieces
    simp [Function.comp_def]
  rw [toTarget, ofTarget, String.toList_intercalate, h]
  exact Text.intercalate_splitOnPair '_' text.toList

end Path

namespace Key

/-- The key under which a fragment carries a query that the store takes as it is. -/
def raw : String := "__raw__"

/-- The key of a target with an optional lookup. -/
def ofTarget (target : String) (lookup : Option Lookup) : String :=
  match lookup with
  | some l => target ++ "__" ++ l.suffix
  | none => target

/-- The path and the lookup of a key. The last of several segments is the lookup if it is spelled
like one. -/
def split (key : String) : Path × Option Lookup :=
  let segments := Path.ofTarget key
  match segments.dropLast, segments.getLast?.bind Lookup.ofSuffix? with
  | first :: more, some l => (first :: more, some l)
  | _, _ => (segments, none)

end Key

end QueryFilters
