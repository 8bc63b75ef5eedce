import QueryFilters.Proofs.Registry.Construction
import QueryFilters.Proofs.Roster

/-!
# Inheritance

A registry may inherit from registries that inherit from others, so the filters of a registry come
from a tree of declarations (`Registry.Lineage`). Written one after the other, the parents of each
registry before what it declares itself, the declarations of the tree form one list
(`Registry.Lineage.Lists`). The registry is that list merged once: each name stands where it comes
first, with the filter that comes last (`Registry.Lineage.registry_merges`). Merging on the way, at
every registry of the tree, changes nothing.
-/

namespace QueryFilters

/-- A roster lists the names of pairs, each where it comes first, with the thing that comes last. -/
structure Roster.Merges {α : Type u} (r : Roster α) (pairs : List (String × α)) : Prop where
  nodup_names : r.names.Nodup
  names_eq : r.names = (pairs.map Prod.fst).eraseDups
  mem_names_iff : ∀ name, name ∈ r.names ↔ name ∈ pairs.map Prod.fst
  get?_eq : ∀ name, r.get? name = Entries.last? name pairs

/-- The roster of pairs merges them, and it is the only one that does. -/
theorem Roster.merges_iff {α : Type u} {r : Roster α} {pairs : List (String × α)} :
    r.Merges pairs ↔ r = ofList pairs := by
  constructor
  · intro h
    refine eq_of_entries (Entries.eq_of_get? r.nodup ?_ fun name _ => ?_)
    · exact h.names_eq.trans (names_ofList pairs).symm
    · exact (h.get?_eq name).trans (get?_ofList pairs name).symm
  · rintro rfl
    have hnames := names_ofList pairs
    refine ⟨(ofList pairs).nodup, hnames, fun name => ?_, get?_ofList pairs⟩
    rw [hnames, List.mem_eraseDups]

namespace Registry

/-- How a registry comes about: it is declared, or it adds declarations to those it inherits. A
registry that several others inherit from stands in the lineage of each of them. -/
inductive Lineage
  | declared (own : List (String × Filter))
  | inherited (parents : List Lineage) (own : List (String × Filter))

namespace Lineage

mutual

/-- The registry that comes about. -/
def registry : Lineage → Registry
  | declared own => .declare own
  | inherited parents own => .inherit (registries parents) own

/-- The registries that come about. -/
def registries : List Lineage → List Registry
  | [] => []
  | t :: ts => registry t :: registries ts

end

mutual

/-- All declarations that a registry comes from: those of its parents as the parents are listed,
each in full, and then its own in the order of construction. -/
inductive Lists : Lineage → List (String × Filter) → Prop
  | declared {own sorted : List (String × Filter)} (hown : InConstructionOrder own sorted) :
    Lists (.declared own) sorted
  | inherited {parents : List Lineage} {own above sorted : List (String × Filter)}
    (habove : ListsAll parents above) (hown : InConstructionOrder own sorted) :
    Lists (.inherited parents own) (above ++ sorted)

/-- All declarations that registries come from, one registry after the other. -/
inductive ListsAll : List Lineage → List (String × Filter) → Prop
  | nil : ListsAll [] []
  | cons {t : Lineage} {ts : List Lineage} {first rest : List (String × Filter)}
    (hfirst : Lists t first) (hrest : ListsAll ts rest) : ListsAll (t :: ts) (first ++ rest)

end

mutual

/-- The declarations of a lineage can be written one after the other. -/
theorem exists_lists (t : Lineage) : ∃ flat, t.Lists flat := by
  cases t with
  | declared own => exact ⟨_, .declared (inConstructionOrder_byConstruction own)⟩
  | inherited parents own =>
    obtain ⟨above, habove⟩ := exists_listsAll parents
    exact ⟨_, .inherited habove (inConstructionOrder_byConstruction own)⟩

/-- So can those of several lineages. -/
theorem exists_listsAll (ts : List Lineage) : ∃ flat, ListsAll ts flat := by
  cases ts with
  | nil => exact ⟨[], .nil⟩
  | cons t ts =>
    obtain ⟨first, hfirst⟩ := exists_lists t
    obtain ⟨rest, hrest⟩ := exists_listsAll ts
    exact ⟨_, .cons hfirst hrest⟩

end

mutual

/-- A registry is the declarations of its lineage, merged once. -/
theorem Lists.filters_eq {t : Lineage} {flat : List (String × Filter)} (h : t.Lists flat) :
    t.registry.filters = .ofList flat := by
  cases h with
  | declared hown =>
    obtain rfl := inConstructionOrder_iff.1 hown
    rfl
  | inherited habove hown =>
    obtain rfl := inConstructionOrder_iff.1 hown
    have hnone : (([] : Entries Filter).map Prod.fst).Nodup := List.nodup_nil
    apply Roster.eq_of_entries
    show Entries.putAll ((registries _).flatMap (·.filters.entries) ++ byConstruction _) [] =
      Entries.putAll (_ ++ byConstruction _) []
    rw [Entries.putAll_append, Entries.putAll_append, habove.putAll_eq hnone]

/-- Registries put after any entries put the declarations of their lineages there. -/
theorem ListsAll.putAll_eq {ts : List Lineage} {flat : List (String × Filter)}
    (h : ListsAll ts flat) {entries : Entries Filter} (hnodup : (entries.map Prod.fst).Nodup) :
    entries.putAll ((registries ts).flatMap (·.filters.entries)) = entries.putAll flat := by
  cases h with
  | nil => rfl
  | cons hfirst hrest =>
    rw [registries, List.flatMap_cons, Entries.putAll_append, Entries.putAll_append,
      hfirst.filters_eq, Roster.putAll_ofList hnodup,
      hrest.putAll_eq (Entries.nodup_keys_putAll hnodup _)]

end

/-- A lineage has a list of declarations, and the registry that comes about is that list merged: no
name stands twice, each stands where it comes first in the list and leads to the filter that comes
last, and none is lost or added. The merging at the registries on the way makes no difference. -/
theorem registry_merges (t : Lineage) :
    (∃ flat, t.Lists flat) ∧ ∀ flat, t.Lists flat →
      t.registry.filters = .ofList flat ∧ t.registry.filters.Merges flat := by
  refine ⟨exists_lists t, fun flat h => ?_⟩
  have hfilters := h.filters_eq
  exact ⟨hfilters, Roster.merges_iff.2 hfilters⟩

/-- Of two parents that share a parent the second one brings the filters of that parent again, so
they win over those that the first one has put in their place. -/
example :
    let filter (serial : UInt64) : Filter := ⟨.text, none, none, none, .string true, serial⟩
    let base : Lineage := .declared [("b", filter 1), ("a", filter 0)]
    let left : Lineage := .inherited [base] [("b", filter 2)]
    let right : Lineage := .inherited [base] [("c", filter 3)]
    let own : List (String × Filter) := [("a", filter 4)]
    (inherited [left, right] own).registry.filters.entries.map (fun e => (e.1, e.2.serial)) =
      [("a", 4), ("b", 1), ("c", 3)] := by
  cbv

end Lineage

end Registry

end QueryFilters
