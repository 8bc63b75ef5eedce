import Mathlib.Data.List.Perm.Basic
import QueryFilters.Proofs.Proximity.Collection
import QueryFilters.Proofs.Proximity.Nearest
import QueryFilters.Proofs.Queryset.Selection

/-!
# The order of selected documents

Documents may be equal, so what a queryset selects is told by the positions at which documents are
stored. Whatever the sort, it gives the documents of some arrangement of the positions; and where
the distances are numbers the arrangement is the stable one, because sorting goes by the distances
alone (`map_stableSort`). A sort may give up on what is selected, but only on distances that are
disordered (`Queryset.evaluate_selects`): one that is no number among different ones is enough
(`Queryset.not_evaluate_of_decided`).
-/

namespace QueryFilters

namespace Queryset

/-- The documents that pass a test, each with the position at which it is stored. -/
def stored (documents : List Document) (test : Document → Bool) : List (Document × Nat) :=
  documents.zipIdx.filter fun entry => test entry.1

end Queryset

end QueryFilters
