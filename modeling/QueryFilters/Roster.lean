import QueryFilters.Dict

/-!
# Rosters

Named things in an order of their own, each name once. Naming a thing again replaces it where it
stands.
-/

namespace QueryFilters

/-- Pairs of names and things with different names. -/
structure Roster (α : Type u) where
  entries : Entries α
  nodup : (entries.map Prod.fst).Nodup

namespace Roster

variable {α : Type u}

/-- The roster of nothing. -/
def empty : Roster α := ⟨[], List.nodup_nil⟩

instance : Inhabited (Roster α) := ⟨empty⟩

/-- The roster of a list of pairs: each name stands where it comes first, with the thing that comes
last. -/
def ofList (pairs : List (String × α)) : Roster α :=
  ⟨Entries.putAll pairs [], Entries.nodup_keys_putAll (by simp) pairs⟩

/-- Puts a thing under a name. -/
def put (r : Roster α) (name : String) (value : α) : Roster α :=
  ⟨r.entries.put name value, Entries.nodup_keys_put r.nodup name value⟩

/-- The thing under a name. -/
def get? (r : Roster α) (name : String) : Option α :=
  r.entries.get? name

/-- Whether there is a thing under a name. -/
def contains (r : Roster α) (name : String) : Bool :=
  (r.get? name).isSome

/-- The names in order. -/
def names (r : Roster α) : List String :=
  r.entries.map Prod.fst

/-- The number of names. -/
def size (r : Roster α) : Nat :=
  r.entries.length

/-- Whether there are no names. -/
def isEmpty (r : Roster α) : Bool :=
  r.entries.isEmpty

theorem get?_put (r : Roster α) (name : String) (value : α) (n : String) :
    (r.put name value).get? n = if name = n then some value else r.get? n :=
  Entries.get?_put name value r.entries n

end Roster

end QueryFilters
