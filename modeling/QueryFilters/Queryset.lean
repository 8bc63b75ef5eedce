import QueryFilters.Evaluation
import QueryFilters.Schema.Basic

/-!
# Querysets

Documents with the fragments that narrow them. Nothing is evaluated until it is asked for.
-/

namespace QueryFilters

/-- Documents of which those that satisfy every fragment are selected. -/
structure Queryset where
  /-- The document type that is selected, if it is known. -/
  document : Option Schema
  documents : List Document
  fragments : List Fragment

namespace Queryset

/-- All of the given documents. -/
def ofDocuments (documents : List Document) : Queryset :=
  ⟨none, documents, []⟩

/-- Selects documents of a type. -/
def withDocument (q : Queryset) (schema : Schema) : Queryset :=
  { q with document := some schema }

/-- Narrows the documents by a fragment. -/
def narrow (q : Queryset) (fragment : Fragment) : Queryset :=
  { q with fragments := q.fragments ++ [fragment] }

/-- The documents that satisfy every fragment, in their order. The first document on which that
cannot be decided is an error. -/
def select (metric : Metric) (proximity : Proximity) (fragments : List Fragment) :
    List Document → Except EvalError (List Document)
  | [] => .ok []
  | d :: documents => do
    let holds ← Evaluation.fragments metric proximity d fragments
    let rest ← select metric proximity fragments documents
    .ok (if holds then d :: rest else rest)

/-- The selected documents, nearest first if the fragments ask about distances, and otherwise in the
order in which they are stored. There are none to give if the sort gives up on their distances. -/
def evaluate (sorting : Sorting) (metric : Metric) (q : Queryset) :
    Except EvalError (Option (List Document)) := do
  let proximity ← Proximity.collect q.fragments
  let selected ← select metric proximity q.fragments q.documents
  .ok (proximity.sort sorting metric selected)

end Queryset

end QueryFilters
