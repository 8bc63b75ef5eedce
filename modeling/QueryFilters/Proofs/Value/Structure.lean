import QueryFilters.Value.Basic

/-!
# The parts of a value

Lists and maps are made of values, at any depth. What holds of a value whenever it holds of its
items and entries holds of every value (`Value.induction`).
-/

namespace QueryFilters.Value

/-- Values are built from their items and entries. -/
theorem induction {motive : Value → Prop} (null : motive null)
    (bool : ∀ b, motive (bool b)) (int : ∀ n, motive (int n)) (float : ∀ x, motive (float x))
    (string : ∀ s, motive (string s)) (dateTime : ∀ dt, motive (dateTime dt))
    (date : ∀ d, motive (date d)) (objectId : ∀ id, motive (objectId id))
    (uuid : ∀ id, motive (uuid id))
    (list : ∀ items, (∀ item ∈ items, motive item) → motive (list items))
    (map : ∀ entries, (∀ entry ∈ entries, motive entry.2) → motive (map entries))
    (value : Value) : motive value := by
  refine @Value.rec motive (fun items => ∀ item ∈ items, motive item)
    (fun entries => ∀ entry ∈ entries, motive entry.2) (fun entry => motive entry.2)
    null bool int float string dateTime date objectId uuid list map ?_ ?_ ?_ ?_ ?_ value
  · exact List.forall_mem_nil _
  · exact fun item items hitem hitems => List.forall_mem_cons.2 ⟨hitem, hitems⟩
  · exact List.forall_mem_nil _
  · exact fun entry entries hentry hentries => List.forall_mem_cons.2 ⟨hentry, hentries⟩
  · exact fun name value hvalue => hvalue

/-- Only null is null. -/
theorem isNull_iff {value : Value} : value.isNull = true ↔ value = .null := by
  cases value <;> simp [isNull]

/-- One value is the other or one of the values of which it is made, at any depth. -/
inductive IsPartOf (part : Value) : Value → Prop
  | self : IsPartOf part part
  | item {items : List Value} {item : Value} (hmem : item ∈ items) (h : IsPartOf part item) :
      IsPartOf part (list items)
  | entry {entries : List (String × Value)} {entry : String × Value} (hmem : entry ∈ entries)
      (h : IsPartOf part entry.2) : IsPartOf part (map entries)

/-- The parts of a list are the list and the parts of its items. -/
theorem isPartOf_list_iff {part : Value} {items : List Value} :
    part.IsPartOf (list items) ↔ part = list items ∨ ∃ item ∈ items, part.IsPartOf item := by
  constructor
  · rintro (_ | ⟨hmem, h⟩)
    · exact .inl rfl
    · exact .inr ⟨_, hmem, h⟩
  · rintro (rfl | ⟨item, hmem, h⟩)
    · exact .self
    · exact .item hmem h

/-- The parts of a map are the map and the parts of the values of its entries. -/
theorem isPartOf_map_iff {part : Value} {entries : List (String × Value)} :
    part.IsPartOf (map entries) ↔
      part = map entries ∨ ∃ entry ∈ entries, part.IsPartOf entry.2 := by
  constructor
  · rintro (_ | _ | ⟨hmem, h⟩)
    · exact .inl rfl
    · exact .inr ⟨_, hmem, h⟩
  · rintro (rfl | ⟨entry, hmem, h⟩)
    · exact .self
    · exact .entry hmem h

/-- A double has no part but itself. -/
theorem isPartOf_float_iff {part : Value} {x : Float} :
    part.IsPartOf (float x) ↔ part = float x := by
  constructor
  · rintro ⟨⟩
    rfl
  · rintro rfl
    exact .self

end QueryFilters.Value
