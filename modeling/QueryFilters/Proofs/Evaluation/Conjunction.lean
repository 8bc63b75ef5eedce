import QueryFilters.Evaluation

/-!
# Conjunctions

Entries, conditions and fragments are all conjoined in one way: the first verdict that is not true
decides (`Evaluation.conjunction`). A disjunction is a conjunction of the opposite verdicts, so what
is said of conjunctions holds of it as well. The rule that a fragment is decided where its entries
are (`Evaluation.decided_fragment`) needs nothing else about the evaluator.
-/

namespace QueryFilters.Evaluation

variable {α : Type u}

/-- The verdict on all items; the first that fails or errs decides. -/
def conjunction (verdict : α → Except EvalError Bool) : List α → Except EvalError Bool
  | [] => .ok true
  | x :: xs =>
    match verdict x with
    | .ok true => conjunction verdict xs
    | other => other

/-- The opposite verdict. -/
def opposite (outcome : Except EvalError Bool) : Except EvalError Bool :=
  outcome.map not

/-- Only a verdict of the other truth value has the given opposite. -/
theorem opposite_eq_ok_iff {outcome : Except EvalError Bool} {holds : Bool} :
    opposite outcome = .ok holds ↔ outcome = .ok (!holds) := by
  rcases outcome with e | (_ | _) <;> cases holds <;> simp [opposite, Except.map]

/-- A conjunction holds where each item does. -/
theorem conjunction_eq_true_iff {verdict : α → Except EvalError Bool} {xs : List α} :
    conjunction verdict xs = .ok true ↔ ∀ x ∈ xs, verdict x = .ok true := by
  induction xs with
  | nil => simp [conjunction]
  | cons x xs ih =>
    rw [List.forall_mem_cons, ← ih, conjunction]
    rcases verdict x with e | (_ | _) <;> simp

/-- A conjunction that fails does so at some item. -/
theorem exists_of_conjunction_eq_false {verdict : α → Except EvalError Bool} {xs : List α}
    (h : conjunction verdict xs = .ok false) : ∃ x ∈ xs, verdict x = .ok false := by
  induction xs with
  | nil => simp [conjunction] at h
  | cons x xs ih =>
    rw [conjunction] at h
    split at h
    · obtain ⟨y, hy, hfalse⟩ := ih h
      exact ⟨y, List.mem_cons_of_mem x hy, hfalse⟩
    · exact ⟨x, List.mem_cons_self, h⟩

/-- The verdict is true or false. -/
def IsDecided (outcome : Except EvalError Bool) : Prop :=
  ∃ holds, outcome = .ok holds

/-- The opposite of what is decided is decided. -/
theorem IsDecided.opposite {outcome : Except EvalError Bool} (h : IsDecided outcome) :
    IsDecided (opposite outcome) := by
  obtain ⟨holds, rfl⟩ := h
  exact ⟨!holds, rfl⟩

/-- A conjunction is decided where each item is. -/
theorem decided_conjunction {verdict : α → Except EvalError Bool} {xs : List α}
    (h : ∀ x ∈ xs, IsDecided (verdict x)) : IsDecided (conjunction verdict xs) := by
  induction xs with
  | nil => exact ⟨true, rfl⟩
  | cons x xs ih =>
    obtain ⟨⟨holds, hx⟩, hxs⟩ := List.forall_mem_cons.1 h
    rw [conjunction, hx]
    cases holds with
    | true => exact ih hxs
    | false => exact ⟨false, rfl⟩

/-! ### The evaluator -/

variable (metric : Metric) (proximity : Proximity) (d : Document)

/-- The entries of a mapping are conjoined. -/
theorem entries_eq_conjunction (list : List (String × Value)) :
    entries metric proximity d list =
      conjunction (fun pair => entry metric proximity d pair.1 pair.2) list := by
  induction list with
  | nil => rfl
  | cons pair list ih =>
    rcases hpair : entry metric proximity d pair.1 pair.2 with e | (_ | _) <;>
      simp only [entries, conjunction, hpair, ih]

/-- The conditions of a conjunction are conjoined. -/
theorem all_eq_conjunction (conditions : List Condition) :
    all metric proximity d conditions =
      conjunction (condition metric proximity d) conditions := by
  induction conditions with
  | nil => rfl
  | cons c conditions ih =>
    rcases hc : condition metric proximity d c with e | (_ | _) <;>
      simp only [all, conjunction, hc, ih]

/-- A disjunction fails where the opposites of its conditions hold. -/
theorem any_eq_opposite_conjunction (conditions : List Condition) :
    any metric proximity d conditions =
      opposite (conjunction (fun c => opposite (condition metric proximity d c)) conditions) := by
  induction conditions with
  | nil => rfl
  | cons c conditions ih =>
    rw [any, conjunction, ih]
    rcases condition metric proximity d c with e | (_ | _) <;> rfl

/-- Fragments are conjoined. -/
theorem fragments_eq_conjunction (list : List Fragment) :
    fragments metric proximity d list = conjunction (fragment metric proximity d) list := by
  induction list with
  | nil => rfl
  | cons f list ih =>
    rcases hf : fragment metric proximity d f with e | (_ | _) <;>
      simp only [fragments, conjunction, hf, ih]

/-! ### Decided entries -/

/-- A mapping is decided where its entries are. -/
theorem decided_entries {list : List (String × Value)}
    (h : ∀ pair ∈ list, IsDecided (entry metric proximity d pair.1 pair.2)) :
    IsDecided (entries metric proximity d list) := by
  rw [entries_eq_conjunction]
  exact decided_conjunction h

mutual

/-- A condition is decided where the entries of its mappings are. -/
theorem decided_condition :
    ∀ c : Condition, (∀ params ∈ c.leaves, ∀ pair ∈ params.entries,
      IsDecided (entry metric proximity d pair.1 pair.2)) →
        IsDecided (condition metric proximity d c)
  | .params params, h => by
    rw [condition]
    exact decided_entries metric proximity d (h params (by simp [Condition.leaves]))
  | .all conditions, h => by
    rw [condition, all_eq_conjunction]
    exact decided_conjunction (decided_conditions conditions h)
  | .any conditions, h => by
    rw [condition, any_eq_opposite_conjunction]
    exact (decided_conjunction fun c hc => (decided_conditions conditions h c hc).opposite).opposite

/-- Each of several conditions is decided where the entries of their mappings are. -/
theorem decided_conditions :
    ∀ conditions : List Condition, (∀ params ∈ Condition.allLeaves conditions,
      ∀ pair ∈ params.entries, IsDecided (entry metric proximity d pair.1 pair.2)) →
        ∀ c ∈ conditions, IsDecided (condition metric proximity d c)
  | [], _ => fun c hc => by cases hc
  | first :: rest, h => by
    rw [Condition.allLeaves] at h
    refine List.forall_mem_cons.2 ⟨?_, ?_⟩
    · exact decided_condition first fun params hp => h params (List.mem_append_left _ hp)
    · exact decided_conditions rest fun params hp => h params (List.mem_append_right _ hp)

end

/-- A fragment is decided where the entries of its mappings are. -/
theorem decided_fragment {f : Fragment} (h : ∀ params ∈ f.leaves, ∀ pair ∈ params.entries,
    IsDecided (entry metric proximity d pair.1 pair.2)) :
    IsDecided (fragment metric proximity d f) := by
  cases f with
  | params params =>
    exact decided_entries metric proximity d (h params (by simp [Fragment.leaves]))
  | condition c => exact decided_condition metric proximity d c h

end QueryFilters.Evaluation
