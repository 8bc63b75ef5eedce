import QueryFilters.Fragment.Basic

/-!
# The parts of a fragment

Conjunctions and disjunctions are made of conditions, at any depth. What holds of a condition
whenever it holds of its parts holds of every condition (`Condition.induction`). A fragment requires
the values in its mappings, and it is empty if no mapping has any.
-/

namespace QueryFilters

/-- The values that a mapping requires. -/
def Params.values (params : Params) : List Value :=
  params.entries.map Prod.snd

namespace Condition

/-- Conditions are built from their parts. -/
theorem induction {motive : Condition → Prop} (params : ∀ p, motive (params p))
    (all : ∀ conditions, (∀ c ∈ conditions, motive c) → motive (all conditions))
    (any : ∀ conditions, (∀ c ∈ conditions, motive c) → motive (any conditions))
    (condition : Condition) : motive condition := by
  refine @Condition.rec motive (fun conditions => ∀ c ∈ conditions, motive c) params all any ?_ ?_
    condition
  · exact List.forall_mem_nil _
  · exact fun c conditions hc hconditions => List.forall_mem_cons.2 ⟨hc, hconditions⟩

/-- The mappings of several conditions are those of each, one after the other. -/
theorem allLeaves_eq_flatMap (conditions : List Condition) :
    allLeaves conditions = conditions.flatMap leaves := by
  induction conditions with
  | nil => rfl
  | cons c conditions ih => rw [allLeaves, ih, List.flatMap_cons]

/-- The values that a condition requires somewhere. -/
def values (condition : Condition) : List Value :=
  condition.leaves.flatMap Params.values

/-- A conjunction and a disjunction require what their parts require. -/
theorem mem_values_of_mem {conditions : List Condition} {c : Condition} (hc : c ∈ conditions)
    {value : Value} (h : value ∈ c.values) :
    value ∈ (all conditions).values ∧ value ∈ (any conditions).values := by
  have hmem : value ∈ (allLeaves conditions).flatMap Params.values := by
    rw [allLeaves_eq_flatMap, List.flatMap_assoc]
    exact List.mem_flatMap.2 ⟨c, hc, h⟩
  exact ⟨hmem, hmem⟩

/-- Several conditions are empty when each of them is. -/
theorem allEmpty_iff {conditions : List Condition} :
    allEmpty conditions = true ↔ ∀ c ∈ conditions, c.isEmpty = true := by
  induction conditions with
  | nil => simp [allEmpty]
  | cons c conditions ih => rw [allEmpty, Bool.and_eq_true, ih, List.forall_mem_cons]

/-- A condition is empty when its mappings are. -/
theorem isEmpty_iff {condition : Condition} :
    condition.isEmpty = true ↔ ∀ params ∈ condition.leaves, params.isEmpty = true := by
  have hparts : ∀ conditions : List Condition,
      (∀ c ∈ conditions, (c.isEmpty = true ↔ ∀ params ∈ c.leaves, params.isEmpty = true)) →
        (allEmpty conditions = true ↔
          ∀ params ∈ allLeaves conditions, params.isEmpty = true) := by
    intro conditions ih
    rw [allEmpty_iff, allLeaves_eq_flatMap, List.forall_mem_flatMap]
    exact forall₂_congr ih
  induction condition using Condition.induction with
  | params p => rw [isEmpty, leaves, List.forall_mem_singleton]
  | all conditions ih => exact hparts conditions ih
  | any conditions ih => exact hparts conditions ih

end Condition

namespace Fragment

/-- The values that a fragment requires somewhere. -/
def values (f : Fragment) : List Value :=
  f.leaves.flatMap Params.values

/-- A fragment is empty when its mappings are. -/
theorem isEmpty_iff {f : Fragment} :
    f.isEmpty = true ↔ ∀ params ∈ f.leaves, params.isEmpty = true := by
  cases f with
  | params p => rw [isEmpty, leaves, List.forall_mem_singleton]
  | condition c => exact Condition.isEmpty_iff

end Fragment

end QueryFilters
