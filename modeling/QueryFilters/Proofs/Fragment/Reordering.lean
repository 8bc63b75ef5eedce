import Mathlib.Data.List.Perm.Basic
import QueryFilters.Proofs.Fragment.Structure

/-!
# Reordered fragments

Two lists of fragments differ by their order when the fragments are permuted and, inside them and at
any depth, the parts of conjunctions and disjunctions are (`Fragment.Reordered`). What holds of all
reordered conditions is shown by one principle, `Condition.Reordered.induction`. The first use is
that a reordered condition has the same mappings in another order
(`Condition.Reordered.leaves_perm`).
-/

namespace QueryFilters

variable {α β : Type}

/-- The second list has the items of the first in another order, each replaced by a related one. -/
def Rearranged (related : α → β → Prop) (xs : List α) (ys : List β) : Prop :=
  ∃ zs, List.Forall₂ related xs zs ∧ zs.Perm ys

namespace Rearranged

/-- Every item is related to one of the second list. -/
theorem exists_right {related : α → β → Prop} {xs : List α} {ys : List β}
    (h : Rearranged related xs ys) {x : α} (hx : x ∈ xs) : ∃ y ∈ ys, related x y := by
  obtain ⟨zs, hrelated, hperm⟩ := h
  have hz : ∃ z ∈ zs, related x z := by
    clear hperm
    induction hrelated with
    | nil => cases hx
    | cons hhead _ ih =>
      rw [List.exists_mem_cons_iff]
      rcases List.mem_cons.1 hx with rfl | hx
      · exact .inl hhead
      · exact .inr (ih hx)
  obtain ⟨z, hz, hxz⟩ := hz
  exact ⟨z, hperm.mem_iff.1 hz, hxz⟩

/-- Every item of the second list is related to one of the first. -/
theorem exists_left {related : α → β → Prop} {xs : List α} {ys : List β}
    (h : Rearranged related xs ys) {y : β} (hy : y ∈ ys) : ∃ x ∈ xs, related x y := by
  obtain ⟨zs, hrelated, hperm⟩ := h
  have hz : y ∈ zs := hperm.mem_iff.2 hy
  clear hperm
  induction hrelated with
  | nil => cases hz
  | cons hhead _ ih =>
    rw [List.exists_mem_cons_iff]
    rcases List.mem_cons.1 hz with rfl | hz
    · exact .inl hhead
    · exact .inr (ih hz)

/-- What is collected from related items is the same in another order. -/
theorem flatMap_perm {γ : Type} {f : α → List γ} {g : β → List γ} {xs : List α} {ys : List β}
    (h : Rearranged (fun x y => (f x).Perm (g y)) xs ys) : (xs.flatMap f).Perm (ys.flatMap g) := by
  obtain ⟨zs, hrelated, hperm⟩ := h
  refine List.Perm.trans ?_ (hperm.flatMap_right g)
  clear hperm
  induction hrelated with
  | nil => exact .refl _
  | cons hhead _ ih =>
    rw [List.flatMap_cons, List.flatMap_cons]
    exact hhead.append ih

end Rearranged

/-! ### Conditions and fragments -/

/-- The second condition is the first one with the parts of its conjunctions and disjunctions in
another order, at any depth. -/
inductive Condition.Reordered : Condition → Condition → Prop
  | params (params : Params) : Reordered (.params params) (.params params)
  | all {conditions related reordered : List Condition}
    (h : List.Forall₂ Reordered conditions related) (hperm : related.Perm reordered) :
    Reordered (.all conditions) (.all reordered)
  | any {conditions related reordered : List Condition}
    (h : List.Forall₂ Reordered conditions related) (hperm : related.Perm reordered) :
    Reordered (.any conditions) (.any reordered)

/-- The second fragment is the first one with the parts of its condition in another order. -/
inductive Fragment.Reordered : Fragment → Fragment → Prop
  | params (params : Params) : Reordered (.params params) (.params params)
  | condition {c c' : Condition} (h : c.Reordered c') : Reordered (.condition c) (.condition c')

namespace Condition

/-- What holds of every mapping with itself, and of conjunctions and disjunctions whose parts are
rearranged by it, holds of reordered conditions. -/
theorem Reordered.induction {R : Condition → Condition → Prop}
    (params : ∀ p, R (.params p) (.params p))
    (all : ∀ conditions reordered, Rearranged R conditions reordered →
      R (.all conditions) (.all reordered))
    (any : ∀ conditions reordered, Rearranged R conditions reordered →
      R (.any conditions) (.any reordered))
    {c c' : Condition} (h : c.Reordered c') : R c c' :=
  -- Along the parts of a conjunction or disjunction the induction carries what holds of each pair.
  @Reordered.rec (fun c c' _ => R c c')
    (fun conditions related _ => List.Forall₂ R conditions related)
    params
    (fun {conditions related reordered} _ hperm hparts =>
      all conditions reordered ⟨related, hparts, hperm⟩)
    (fun {conditions related reordered} _ hperm hparts =>
      any conditions reordered ⟨related, hparts, hperm⟩)
    .nil (fun _ _ hhead hrest => .cons hhead hrest) c c' h

/-- A reordered condition has the same mappings in another order. -/
theorem Reordered.leaves_perm {c c' : Condition} (h : c.Reordered c') :
    c.leaves.Perm c'.leaves := by
  refine Reordered.induction (R := fun c c' => c.leaves.Perm c'.leaves) ?_ ?_ ?_ h
  · exact fun p => .refl _
  · intro conditions reordered hparts
    rw [leaves, leaves, allLeaves_eq_flatMap, allLeaves_eq_flatMap]
    exact hparts.flatMap_perm
  · intro conditions reordered hparts
    rw [leaves, leaves, allLeaves_eq_flatMap, allLeaves_eq_flatMap]
    exact hparts.flatMap_perm

end Condition

/-- A reordered fragment has the same mappings in another order. -/
theorem Fragment.Reordered.leaves_perm {f f' : Fragment} (h : f.Reordered f') :
    f.leaves.Perm f'.leaves := by
  cases h with
  | params params => exact .refl _
  | condition h => exact h.leaves_perm

end QueryFilters
