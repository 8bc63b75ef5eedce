/-!
# Sorting

A stable sort goes by a comparison that its caller writes, and how much it promises depends on that
comparison. Where it is a total order on the items (`TotalOn`), they are put in that order and equal
ones keep theirs. Where it is not, the order is left open, and the sort may give up when it finds
the comparison to contradict itself; but it never gives back other items than it was given.
-/

namespace QueryFilters

variable {α : Type u} {β : Type v} {order : α → α → Ordering} {items : List α}

/-- The comparison is a total order on the items. -/
structure TotalOn (order : α → α → Ordering) (items : List α) : Prop where
  swap : ∀ x ∈ items, ∀ y ∈ items, order y x = (order x y).swap
  isLE_trans : ∀ x ∈ items, ∀ y ∈ items, ∀ z ∈ items,
    (order x y).isLE = true → (order y z).isLE = true → (order x z).isLE = true

instance : Decidable (TotalOn order items) :=
  decidable_of_iff
    ((∀ x ∈ items, ∀ y ∈ items, order y x = (order x y).swap) ∧
      ∀ x ∈ items, ∀ y ∈ items, ∀ z ∈ items,
        (order x y).isLE = true → (order y z).isLE = true → (order x z).isLE = true)
    ⟨fun h => ⟨h.1, h.2⟩, fun h => ⟨h.swap, h.isLE_trans⟩⟩

/-- A total order on items is one on any of them. -/
theorem TotalOn.mono (h : TotalOn order items) {part : List α} (hsub : ∀ x ∈ part, x ∈ items) :
    TotalOn order part where
  swap x hx y hy := h.swap x (hsub x hx) y (hsub y hy)
  isLE_trans x hx y hy z hz := h.isLE_trans x (hsub x hx) y (hsub y hy) z (hsub z hz)

/-- Things are ordered as the items that stand for them. -/
theorem TotalOn.of_map {order : β → β → Ordering} {g : α → β} (h : TotalOn order (items.map g)) :
    TotalOn (fun x y => order (g x) (g y)) items where
  swap x hx y hy := h.swap (g x) (List.mem_map_of_mem hx) (g y) (List.mem_map_of_mem hy)
  isLE_trans x hx y hy z hz := h.isLE_trans (g x) (List.mem_map_of_mem hx) (g y)
    (List.mem_map_of_mem hy) (g z) (List.mem_map_of_mem hz)

/-! ### Inserting one item after the other -/

/-- Puts an item into items that stand last to first, in front of all those that do not come after
it. -/
def insertLast (order : α → α → Ordering) (item : α) : List α → List α
  | [] => [item]
  | other :: items =>
    if order item other = .lt then other :: insertLast order item items else item :: other :: items

/-- The items in order, equal ones as they stand. -/
def stableSort (order : α → α → Ordering) (items : List α) : List α :=
  (items.foldl (fun sorted item => insertLast order item sorted) []).reverse

/-- One item comes before another: it is smaller, or it is equal and stood before the other. -/
def Comes (order : α → α → Ordering) (before : α → α → Prop) (x y : α) : Prop :=
  order x y = .lt ∨ order x y = .eq ∧ before x y

/-- What comes before is not greater. -/
theorem Comes.isLE {before : α → α → Prop} {x y : α} (h : Comes order before x y) :
    (order x y).isLE = true := by
  rcases h with h | ⟨h, -⟩
  · rw [h]
    rfl
  · rw [h]
    rfl

/-- What is not greater and stood before, comes before. -/
theorem comes_of_isLE {before : α → α → Prop} {x y : α} (h : (order x y).isLE = true)
    (hbefore : before x y) : Comes order before x y := by
  cases horder : order x y with
  | lt => exact .inl horder
  | eq => exact .inr ⟨horder, hbefore⟩
  | gt =>
    rw [horder] at h
    cases h

/-- Inserting adds the item and keeps the others. -/
theorem insertLast_perm (order : α → α → Ordering) (item : α) (items : List α) :
    (insertLast order item items).Perm (item :: items) := by
  induction items with
  | nil => exact .refl _
  | cons other items ih =>
    rw [insertLast]
    split
    · exact (ih.cons other).trans (.swap item other items)
    · exact .refl _

/-- An item that stood after all others is inserted where it belongs. -/
theorem pairwise_insertLast {before : α → α → Prop} {item : α}
    (htotal : TotalOn order (item :: items)) (hbefore : ∀ x ∈ items, before x item)
    (h : items.Pairwise fun x y => Comes order before y x) :
    (insertLast order item items).Pairwise fun x y => Comes order before y x := by
  induction items with
  | nil => exact List.pairwise_singleton _ _
  | cons other items ih =>
    obtain ⟨hother, hrest⟩ := List.pairwise_cons.1 h
    obtain ⟨hotherBefore, hrestBefore⟩ := List.forall_mem_cons.1 hbefore
    have hitem : item ∈ item :: other :: items := List.mem_cons_self
    have hmem : other ∈ item :: other :: items := .tail _ (.head _)
    rw [insertLast]
    split
    · next hlt =>
      have hsub : ∀ x ∈ item :: items, x ∈ item :: other :: items := by
        simp only [List.mem_cons]
        exact fun x hx => hx.imp_right .inr
      refine List.pairwise_cons.2 ⟨fun x hx => ?_, ih (htotal.mono hsub) hrestBefore hrest⟩
      rcases List.mem_cons.1 ((insertLast_perm order item items).mem_iff.1 hx) with rfl | hx
      · exact .inl hlt
      · exact hother x hx
    · next hlt =>
      -- The item stops at the first one that it does not come before; no other one is greater.
      have hle : (order other item).isLE = true := by
        rw [htotal.swap item hitem other hmem]
        cases horder : order item other with
        | lt => exact absurd horder hlt
        | eq => rfl
        | gt => rfl
      refine List.pairwise_cons.2 ⟨fun x hx => ?_, h⟩
      refine comes_of_isLE ?_ (hbefore x hx)
      rcases List.mem_cons.1 hx with rfl | hx'
      · exact hle
      · exact htotal.isLE_trans x (.tail _ hx) other hmem item hitem (hother x hx').isLE hle

/-- The items inserted into others are these and the others. -/
theorem foldl_insertLast_perm (order : α → α → Ordering) (items sorted : List α) :
    (items.foldl (fun sorted item => insertLast order item sorted) sorted).Perm
      (items ++ sorted) := by
  induction items generalizing sorted with
  | nil => exact .refl _
  | cons item items ih =>
    rw [List.foldl_cons]
    refine (ih (insertLast order item sorted)).trans ?_
    exact ((insertLast_perm order item sorted).append_left items).trans List.perm_middle

/-- Items that stood after all those that are already in order, are put in order. -/
theorem pairwise_foldl_insertLast {before : α → α → Prop} {sorted : List α}
    (htotal : TotalOn order (items ++ sorted)) (hitems : items.Pairwise before)
    (hbefore : ∀ x ∈ sorted, ∀ y ∈ items, before x y)
    (h : sorted.Pairwise fun x y => Comes order before y x) :
    (items.foldl (fun sorted item => insertLast order item sorted) sorted).Pairwise
      fun x y => Comes order before y x := by
  induction items generalizing sorted with
  | nil => exact h
  | cons item items ih =>
    obtain ⟨hitem, hrest⟩ := List.pairwise_cons.1 hitems
    have hmem : ∀ x ∈ insertLast order item sorted, x = item ∨ x ∈ sorted := fun x hx =>
      List.mem_cons.1 ((insertLast_perm order item sorted).mem_iff.1 hx)
    have hrestTotal : TotalOn order (items ++ insertLast order item sorted) := by
      refine htotal.mono fun x hx => ?_
      rcases List.mem_append.1 hx with hx | hx
      · exact List.mem_append_left _ (.tail _ hx)
      · rcases hmem x hx with rfl | hx
        · exact List.mem_append_left _ (.head _)
        · exact List.mem_append_right _ hx
    have hitemTotal : TotalOn order (item :: sorted) := by
      refine htotal.mono fun x hx => ?_
      rcases List.mem_cons.1 hx with rfl | hx
      · exact List.mem_append_left _ (.head _)
      · exact List.mem_append_right _ hx
    rw [List.foldl_cons]
    refine ih hrestTotal hrest (fun x hx y hy => ?_) ?_
    · rcases hmem x hx with rfl | hx
      · exact hitem y hy
      · exact hbefore x hx y (.tail _ hy)
    · exact pairwise_insertLast hitemTotal (fun x hx => hbefore x hx item (.head _)) h

/-- Sorting neither loses an item nor brings in another one. -/
theorem stableSort_perm (order : α → α → Ordering) (items : List α) :
    (stableSort order items).Perm items := by
  have hperm := foldl_insertLast_perm order items []
  rw [List.append_nil] at hperm
  exact (List.reverse_perm _).trans hperm

/-- Sorting by a total order puts the items in order and leaves equal ones as they stand. -/
theorem pairwise_stableSort {before : α → α → Prop} (htotal : TotalOn order items)
    (hitems : items.Pairwise before) :
    (stableSort order items).Pairwise (Comes order before) := by
  rw [stableSort, List.pairwise_reverse]
  refine pairwise_foldl_insertLast ?_ hitems (fun x hx => ?_) .nil
  · rwa [List.append_nil]
  · cases hx

/-- In a sorted list no item is greater than a later one. -/
theorem pairwise_isLE_stableSort (htotal : TotalOn order items) :
    (stableSort order items).Pairwise fun x y => (order x y).isLE = true := by
  have hany : items.Pairwise fun _ _ => True := List.pairwise_of_forall fun _ _ => trivial
  exact (pairwise_stableSort htotal hany).imp Comes.isLE

/-! ### Sorts -/

/-- A stable sort, which trusts a comparison as far as it is a total order. -/
structure Sorting where
  /-- The items in order, or nothing if the sort gives up. -/
  sort : {α : Type} → (α → α → Ordering) → List α → Option (List α)
  /-- What is given back are the items. -/
  perm : ∀ {α : Type} {order : α → α → Ordering} {items sorted : List α},
    sort order items = some sorted → sorted.Perm items
  /-- By a total order the items are sorted. -/
  sort_of_total : ∀ {α : Type} {order : α → α → Ordering} {items : List α},
    TotalOn order items → sort order items = some (stableSort order items)

namespace Sorting

/-- Inserts up to twenty items one after the other, whatever the comparison. On more items it gives
up if one of them comes to stand before a smaller one. -/
def standard : Sorting where
  sort order items :=
    let sorted := stableSort order items
    if items.length ≤ 20 ∨ sorted.Pairwise fun x y => (order x y).isLE = true then some sorted
    else none
  perm {α order items sorted} h := by
    dsimp only at h
    split at h
    · exact Option.some.inj h ▸ stableSort_perm order items
    · cases h
  sort_of_total h := if_pos (.inr (pairwise_isLE_stableSort h))

end Sorting

end QueryFilters
