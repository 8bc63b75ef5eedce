import QueryFilters.Proofs.Value.Equality
import QueryFilters.Proofs.Value.Structure

/-!
# Values without null

A list or a map holds null if one of its parts is null, at any depth. Equal values hold null alike
(`Value.nullFree_congr`).
-/

namespace QueryFilters.Value

/-- The value is not null and holds no null. -/
def NullFree (value : Value) : Prop :=
  ¬null.IsPartOf value

/-- A list is without null if its items are. -/
theorem nullFree_list_iff {items : List Value} :
    (list items).NullFree ↔ ∀ item ∈ items, item.NullFree := by
  simp [NullFree, isPartOf_list_iff]

/-- A map is without null if the values of its entries are. -/
theorem nullFree_map_iff {entries : List (String × Value)} :
    (map entries).NullFree ↔ ∀ entry ∈ entries, entry.2.NullFree := by
  simp [NullFree, isPartOf_map_iff]

/-- A truth value is without null. -/
theorem nullFree_bool (b : Bool) : (bool b).NullFree := by
  rintro ⟨⟩

/-- Equal lists are without null together if equal items are. -/
theorem nullFree_orderItems? {xs : List Value}
    (h : ∀ x ∈ xs, ∀ y, order? x y = some .eq → (x.NullFree ↔ y.NullFree)) {ys : List Value}
    (heq : orderItems? xs ys = some .eq) :
    (∀ x ∈ xs, x.NullFree) ↔ ∀ y ∈ ys, y.NullFree := by
  induction xs generalizing ys with
  | nil =>
    cases ys with
    | nil => exact Iff.rfl
    | cons y ys => cases heq
  | cons x xs ih =>
    obtain ⟨hx, hxs⟩ := List.forall_mem_cons.1 h
    cases ys with
    | nil => cases heq
    | cons y ys =>
      rw [orderItems?_cons, followed_eq_some_eq_iff] at heq
      rw [List.forall_mem_cons, List.forall_mem_cons, hx y heq.1, ih hxs heq.2]

/-- Equal entries have values without null together if equal values are. -/
theorem nullFree_orderEntries? {xs : List (String × Value)}
    (h : ∀ x ∈ xs, ∀ y, order? x.2 y = some .eq → (x.2.NullFree ↔ y.NullFree))
    {ys : List (String × Value)} (heq : orderEntries? xs ys = some .eq) :
    (∀ x ∈ xs, x.2.NullFree) ↔ ∀ y ∈ ys, y.2.NullFree := by
  induction xs generalizing ys with
  | nil =>
    cases ys with
    | nil => exact Iff.rfl
    | cons y ys => cases heq
  | cons x xs ih =>
    obtain ⟨hx, hxs⟩ := List.forall_mem_cons.1 h
    cases ys with
    | nil => cases heq
    | cons y ys =>
      rw [orderEntries?_cons, followed_eq_some_eq_iff, followed_eq_some_eq_iff] at heq
      rw [List.forall_mem_cons, List.forall_mem_cons, hx y.2 heq.2.1, ih hxs heq.2.2]

/-- Equal values are without null together. -/
theorem nullFree_congr {a b : Value} (h : (a == b) = true) : a.NullFree ↔ b.NullFree := by
  induction a using Value.induction generalizing b with
  | list items ih =>
    have htype := type_eq_of_beq h
    cases b <;> cases htype
    rw [nullFree_list_iff, nullFree_list_iff]
    rw [beq_iff, order?] at h
    exact nullFree_orderItems? (fun x hx y hxy => ih x hx (beq_iff.2 hxy)) h
  | map entries ih =>
    have htype := type_eq_of_beq h
    cases b <;> cases htype
    rw [nullFree_map_iff, nullFree_map_iff]
    rw [beq_iff, order?] at h
    exact nullFree_orderEntries? (fun x hx y hxy => ih x hx (beq_iff.2 hxy)) h
  | null =>
    have htype := type_eq_of_beq h
    cases b <;> cases htype
    exact Iff.rfl
  | _ =>
    have htype := type_eq_of_beq h
    cases b <;> cases htype
    exact iff_of_true (by rintro ⟨⟩) (by rintro ⟨⟩)

end QueryFilters.Value
