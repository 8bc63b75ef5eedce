import QueryFilters.Proofs.FirstError
import QueryFilters.Queryset

/-!
# Selecting documents

Evaluating a queryset reads one document after the other, so it answers either the first document on
which a fragment cannot be decided or all the documents that satisfy every fragment. What it selects
is then put in order, which neither loses a document nor brings in another one.
-/

namespace QueryFilters

namespace Evaluation

/-- The document satisfies every fragment. -/
def Holds (metric : Metric) (proximity : Proximity) (list : List Fragment) (d : Document) : Prop :=
  fragments metric proximity d list = .ok true

/-- Whether the document satisfies every fragment can be decided. -/
def Decided (metric : Metric) (proximity : Proximity) (list : List Fragment) (d : Document) :
    Prop :=
  ∃ holds, fragments metric proximity d list = .ok holds

instance (metric : Metric) (proximity : Proximity) (list : List Fragment) (d : Document) :
    Decidable (Holds metric proximity list d) :=
  match h : fragments metric proximity d list with
  | .ok true => .isTrue h
  | .ok false => .isFalse fun hholds => by rw [Holds, h] at hholds; cases hholds
  | .error _ => .isFalse fun hholds => by rw [Holds, h] at hholds; cases hholds

end Evaluation

namespace Queryset

open Evaluation (Holds Decided)

variable {sorting : Sorting} (metric : Metric)

/-- Selecting keeps the documents on which every fragment holds. -/
theorem select_eq_ok {proximity : Proximity} {list : List Fragment} {documents : List Document}
    (h : ∀ d ∈ documents, Decided metric proximity list d) :
    select metric proximity list documents =
      .ok (documents.filter fun d => Holds metric proximity list d) := by
  induction documents with
  | nil => rfl
  | cons d documents ih =>
    obtain ⟨holds, hd⟩ := h d List.mem_cons_self
    have hrest := ih fun d' hd' => h d' (List.mem_cons_of_mem d hd')
    have hfilter : (Holds metric proximity list d) ↔ holds = true := by
      rw [Holds, hd]
      simp
    rw [select, hd, hrest, List.filter_cons]
    cases holds <;> simp [hfilter] <;> rfl

/-- Selecting fails as the first document does on which a fragment cannot be decided. -/
theorem select_eq_error_iff {proximity : Proximity} {list : List Fragment}
    {documents : List Document} {e : EvalError} :
    select metric proximity list documents = .error e ↔
      FirstError (fun d => Evaluation.fragments metric proximity d list) documents e := by
  induction documents with
  | nil =>
    constructor
    · intro h
      cases h
    · intro h
      cases h
  | cons d documents ih =>
    cases hd : Evaluation.fragments metric proximity d list with
    | error cause =>
      have hfirst : FirstError (fun d => Evaluation.fragments metric proximity d list)
          (d :: documents) e ↔ cause = e := FirstError.cons_error_iff hd
      rw [hfirst, select, hd]
      simp [bind, Except.bind]
    | ok holds =>
      have hfirst : FirstError (fun d => Evaluation.fragments metric proximity d list)
          (d :: documents) e ↔
          FirstError (fun d => Evaluation.fragments metric proximity d list) documents e :=
        FirstError.cons_ok_iff hd
      rw [hfirst, ← ih, select, hd]
      cases select metric proximity list documents with
      | error cause => simp [bind, Except.bind]
      | ok rest => simp [bind, Except.bind]

/-- Where selecting succeeds, every document was decided. -/
theorem decided_of_select {proximity : Proximity} {list : List Fragment}
    {documents selected : List Document}
    (h : select metric proximity list documents = .ok selected) :
    ∀ d ∈ documents, Decided metric proximity list d := by
  induction documents generalizing selected with
  | nil =>
    intro d hd
    cases hd
  | cons d documents ih =>
    rw [select] at h
    cases hd : Evaluation.fragments metric proximity d list with
    | error e =>
      rw [hd] at h
      cases h
    | ok holds =>
      cases hrest : select metric proximity list documents with
      | error e =>
        rw [hd, hrest] at h
        cases h
      | ok rest => exact List.forall_mem_cons.2 ⟨⟨holds, hd⟩, ih hrest⟩

/-- Once the fragments are collected, the selected documents are put in order. -/
theorem evaluate_of_collect {q : Queryset} {proximity : Proximity}
    (h : Proximity.collect q.fragments = .ok proximity) :
    q.evaluate sorting metric =
      (select metric proximity q.fragments q.documents).map (proximity.sort sorting metric) := by
  have hbind : q.evaluate sorting metric =
      (select metric proximity q.fragments q.documents).bind
        fun selected => .ok (proximity.sort sorting metric selected) := by
    rw [evaluate, h]
    rfl
  rw [hbind]
  cases select metric proximity q.fragments q.documents with
  | error e => rfl
  | ok selected => rfl

/-- Fragments that cannot be collected are not evaluated. -/
theorem evaluate_of_collect_error {q : Queryset} {e : EvalError}
    (h : Proximity.collect q.fragments = .error e) : q.evaluate sorting metric = .error e := by
  rw [evaluate, h]
  rfl

/-- A queryset is evaluated where its fragments can be collected and every document can be decided.
What it gives are the documents on which every fragment holds, as they are sorted. -/
theorem evaluate_eq_ok_iff {q : Queryset} {found : Option (List Document)} :
    q.evaluate sorting metric = .ok found ↔
      ∃ proximity, Proximity.collect q.fragments = .ok proximity ∧
        (∀ d ∈ q.documents, Decided metric proximity q.fragments d) ∧
        found = proximity.sort sorting metric
          (q.documents.filter fun d => Holds metric proximity q.fragments d) := by
  cases hcollect : Proximity.collect q.fragments with
  | error e =>
    rw [evaluate_of_collect_error metric hcollect]
    simp
  | ok proximity =>
    rw [evaluate_of_collect metric hcollect]
    constructor
    · intro h
      cases hselect : select metric proximity q.fragments q.documents with
      | error e =>
        rw [hselect] at h
        cases h
      | ok found =>
        have hdecided := decided_of_select metric hselect
        rw [select_eq_ok metric hdecided] at h
        exact ⟨proximity, rfl, hdecided, (Except.ok.inj h).symm⟩
    · rintro ⟨_, hproximity, hdecided, rfl⟩
      obtain rfl := Except.ok.inj hproximity
      rw [select_eq_ok metric hdecided]
      rfl

/-- A queryset fails where its fragments cannot be collected, and else as the first document does on
which a fragment cannot be decided. -/
theorem evaluate_eq_error_iff {q : Queryset} {e : EvalError} :
    q.evaluate sorting metric = .error e ↔
      Proximity.collect q.fragments = .error e ∨
        ∃ proximity, Proximity.collect q.fragments = .ok proximity ∧
          FirstError (fun d => Evaluation.fragments metric proximity d q.fragments) q.documents
            e := by
  cases hcollect : Proximity.collect q.fragments with
  | error cause =>
    rw [evaluate_of_collect_error metric hcollect]
    simp
  | ok proximity =>
    rw [evaluate_of_collect metric hcollect]
    simp only [Except.ok.injEq, exists_eq_left', reduceCtorEq, false_or]
    rw [← select_eq_error_iff]
    cases select metric proximity q.fragments q.documents with
    | error cause => simp [Except.map]
    | ok found => simp [Except.map]

/-- A queryset that gives some number of documents gives documents. -/
theorem exists_found_of_length {answer : Except EvalError (Option (List Document))} {n : Nat}
    (h : answer.toOption.join.map List.length = some n) :
    ∃ found, answer = .ok (some found) ∧ found.length = n := by
  cases answer with
  | error e => cases h
  | ok found? =>
    cases found? with
    | none => cases h
    | some found => exact ⟨found, rfl, Option.some.inj h⟩

end Queryset

end QueryFilters
