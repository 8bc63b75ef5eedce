import QueryFilters.Evaluation

/-!
# Verdicts on fragments

When a conjunction or a disjunction is decided, and how. Both are read from left to right, and the
first part that settles the verdict, or that errs, is the last to be read. The matchers have a rule
for lists; what is no list they match by itself.
-/

namespace QueryFilters.Evaluation

/-! ### Attributes that are no lists -/

/-- What is no list equals an operand by itself. -/
theorem matchesEq_of_not_isList {value : Value} (h : value.isList = false) (operand : Value) :
    matchesEq (some value) operand = value.looselyEq operand := by
  cases value <;> first | rfl | cases h

/-- What is no list passes a test by itself. -/
theorem anyElement_of_not_isList {value : Value} (h : value.isList = false)
    (test : Value → Bool) : anyElement test (some value) = test value := by
  cases value <;> first | rfl | cases h

variable (metric : Metric) (proximity : Proximity) (d : Document)

/-! ### Mappings -/

/-- A mapping holds where each of its entries does. -/
theorem entries_cons_eq_true {key : String} {expected : Value} {rest : List (String × Value)} :
    entries metric proximity d ((key, expected) :: rest) = .ok true ↔
      entry metric proximity d key expected = .ok true ∧
        entries metric proximity d rest = .ok true := by
  rw [entries]
  rcases entry metric proximity d key expected with e | (_ | _) <;> simp

/-- A mapping fails at the first entry that does not hold. -/
theorem entries_cons_eq_false {key : String} {expected : Value} {rest : List (String × Value)} :
    entries metric proximity d ((key, expected) :: rest) = .ok false ↔
      entry metric proximity d key expected = .ok false ∨
        entry metric proximity d key expected = .ok true ∧
          entries metric proximity d rest = .ok false := by
  rw [entries]
  rcases entry metric proximity d key expected with e | (_ | _) <;> simp

/-! ### Conditions -/

/-- A conjunction holds where each of its conditions does. -/
theorem all_cons_eq_true {c : Condition} {conditions : List Condition} :
    all metric proximity d (c :: conditions) = .ok true ↔
      condition metric proximity d c = .ok true ∧
        all metric proximity d conditions = .ok true := by
  rw [all]
  rcases condition metric proximity d c with e | (_ | _) <;> simp

/-- A conjunction fails at the first condition that does not hold. -/
theorem all_cons_eq_false {c : Condition} {conditions : List Condition} :
    all metric proximity d (c :: conditions) = .ok false ↔
      condition metric proximity d c = .ok false ∨
        condition metric proximity d c = .ok true ∧
          all metric proximity d conditions = .ok false := by
  rw [all]
  rcases condition metric proximity d c with e | (_ | _) <;> simp

/-- A disjunction holds at the first condition that does. -/
theorem any_cons_eq_true {c : Condition} {conditions : List Condition} :
    any metric proximity d (c :: conditions) = .ok true ↔
      condition metric proximity d c = .ok true ∨
        condition metric proximity d c = .ok false ∧
          any metric proximity d conditions = .ok true := by
  rw [any]
  rcases condition metric proximity d c with e | (_ | _) <;> simp

/-- A disjunction fails where none of its conditions holds. -/
theorem any_cons_eq_false {c : Condition} {conditions : List Condition} :
    any metric proximity d (c :: conditions) = .ok false ↔
      condition metric proximity d c = .ok false ∧
        any metric proximity d conditions = .ok false := by
  rw [any]
  rcases condition metric proximity d c with e | (_ | _) <;> simp

/-! ### Fragments -/

/-- Fragments hold where each of them does. -/
theorem fragments_cons_eq_true {f : Fragment} {rest : List Fragment} :
    fragments metric proximity d (f :: rest) = .ok true ↔
      fragment metric proximity d f = .ok true ∧
        fragments metric proximity d rest = .ok true := by
  rw [fragments]
  rcases fragment metric proximity d f with e | (_ | _) <;> simp

/-- Fragments fail at the first one that does not hold. -/
theorem fragments_cons_eq_false {f : Fragment} {rest : List Fragment} :
    fragments metric proximity d (f :: rest) = .ok false ↔
      fragment metric proximity d f = .ok false ∨
        fragment metric proximity d f = .ok true ∧
          fragments metric proximity d rest = .ok false := by
  rw [fragments]
  rcases fragment metric proximity d f with e | (_ | _) <;> simp

/-- Fragments that hold with further ones hold without them. -/
theorem fragments_eq_true_of_append {first second : List Fragment}
    (h : fragments metric proximity d (first ++ second) = .ok true) :
    fragments metric proximity d first = .ok true := by
  induction first with
  | nil => rfl
  | cons f first ih =>
    rw [List.cons_append, fragments_cons_eq_true] at h
    exact (fragments_cons_eq_true metric proximity d).2 ⟨h.1, ih h.2⟩

end QueryFilters.Evaluation
