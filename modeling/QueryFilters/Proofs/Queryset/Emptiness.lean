import QueryFilters.Proofs.Evaluation.Conjunction
import QueryFilters.Proofs.Evaluation.Meaning
import QueryFilters.Proofs.Dict
import QueryFilters.Proofs.FilterSet.Run
import QueryFilters.Proofs.Fragment.Structure
import QueryFilters.Proofs.Proximity.Collection
import QueryFilters.Proofs.Proximity.Nearest
import QueryFilters.Proofs.Queryset.Selection

/-!
# Leaving out what is empty

A fragment is empty when no mapping in it requires anything. What it says of a document then depends
on its shape alone: it holds of every document if it is neutral (`Fragment.IsNeutral`) and of none
otherwise, for a disjunction without alternatives is empty and fails. So an empty fragment can be
left out of a queryset exactly if it is neutral (`Queryset.evaluate_leave_out_iff`). The empty
fragments that filters compile to are, and a filter set that leaves them out selects what it would
select with them (`FilterSet.evaluate_fold`).
-/

namespace QueryFilters

/-! ### Neutral fragments -/

/-- The condition is met without a requirement: every part of a conjunction is, some part of a
disjunction is, and a mapping is empty. -/
inductive Condition.IsNeutral : Condition → Prop
  | params {p : Params} (h : p.isEmpty = true) : IsNeutral (.params p)
  | all {conditions : List Condition} (h : ∀ c ∈ conditions, IsNeutral c) :
    IsNeutral (.all conditions)
  | any {conditions : List Condition} {c : Condition} (hmem : c ∈ conditions) (h : IsNeutral c) :
    IsNeutral (.any conditions)

/-- The fragment is met without a requirement. -/
inductive Fragment.IsNeutral : Fragment → Prop
  | params {p : Params} (h : p.isEmpty = true) : IsNeutral (.params p)
  | condition {c : Condition} (h : c.IsNeutral) : IsNeutral (.condition c)

namespace Condition

/-- A conjunction is neutral when each part is. -/
theorem isNeutral_all_iff {conditions : List Condition} :
    (all conditions).IsNeutral ↔ ∀ c ∈ conditions, c.IsNeutral := by
  constructor
  · rintro (_ | h)
    exact h
  · exact .all

/-- A disjunction is neutral when some part is. -/
theorem isNeutral_any_iff {conditions : List Condition} :
    (any conditions).IsNeutral ↔ ∃ c ∈ conditions, c.IsNeutral := by
  constructor
  · rintro (_ | _ | ⟨hmem, h⟩)
    exact ⟨_, hmem, h⟩
  · rintro ⟨c, hmem, h⟩
    exact .any hmem h

end Condition

namespace Evaluation

variable (metric : Metric) (proximity : Proximity) (d : Document)

/-- A mapping without entries holds. -/
theorem entries_of_isEmpty {params : Params} (h : params.isEmpty = true) :
    entries metric proximity d params.entries = .ok true := by
  have hentries : params.entries = [] := List.isEmpty_iff.1 h
  rw [hentries, entries]

/-- An empty condition says of every document whether it is neutral. -/
theorem says_condition_of_isEmpty {c : Condition} (h : c.isEmpty = true) :
    Says (condition metric proximity d c) c.IsNeutral := by
  induction c using Condition.induction with
  | params p =>
    rw [condition]
    exact ⟨true, entries_of_isEmpty metric proximity d h, iff_of_true rfl (.params h)⟩
  | all conditions ih =>
    rw [Condition.isEmpty, Condition.allEmpty_iff] at h
    rw [condition, Condition.isNeutral_all_iff]
    exact says_all metric proximity d fun c hc => ih c hc (h c hc)
  | any conditions ih =>
    rw [Condition.isEmpty, Condition.allEmpty_iff] at h
    rw [condition, Condition.isNeutral_any_iff]
    exact says_any metric proximity d fun c hc => ih c hc (h c hc)

/-- An empty fragment says of every document whether it is neutral. -/
theorem says_fragment_of_isEmpty {f : Fragment} (h : f.isEmpty = true) :
    Says (fragment metric proximity d f) f.IsNeutral := by
  cases f with
  | params p => exact ⟨true, entries_of_isEmpty metric proximity d h, iff_of_true rfl (.params h)⟩
  | condition c =>
    refine (says_condition_of_isEmpty metric proximity d h).congr ⟨.condition, ?_⟩
    rintro (_ | hc)
    exact hc

/-- What holds can be left out of a conjunction. -/
theorem conjunction_leave_out {α : Type u} {verdict : α → Except EvalError Bool} {x : α}
    (hx : verdict x = .ok true) (before after : List α) :
    conjunction verdict (before ++ x :: after) = conjunction verdict (before ++ after) := by
  induction before with
  | nil =>
    rw [List.nil_append, List.nil_append, conjunction, hx]
  | cons y before ih => rw [List.cons_append, List.cons_append, conjunction, conjunction, ih]

end Evaluation

/-! ### Querysets without a fragment -/

/-- An empty fragment asks nothing about distances, wherever it stands. -/
theorem Fragment.asked_leave_out {f : Fragment} (h : f.isEmpty = true)
    (before after : List Fragment) : asked (before ++ f :: after) = asked (before ++ after) := by
  have hnone : asked [f] = [] := by
    simp only [asked, List.flatMap_singleton, List.flatMap_eq_nil_iff]
    exact fun params hparams => List.isEmpty_iff.1 (isEmpty_iff.1 h params hparams)
  have hcons : f :: after = [f] ++ after := rfl
  rw [asked_append, asked_append, hcons, asked_append, hnone, List.nil_append]

namespace Queryset

variable {sorting : Sorting} (metric : Metric)

/-- What is selected depends on the verdicts on the fragments together. -/
theorem select_congr {proximity : Proximity} {list list' : List Fragment}
    (h : ∀ d, Evaluation.fragments metric proximity d list =
      Evaluation.fragments metric proximity d list') (documents : List Document) :
    select metric proximity list documents = select metric proximity list' documents := by
  induction documents with
  | nil => rfl
  | cons d documents ih => rw [select, select, h d, ih]

/-- Querysets of the same documents select alike when their fragments ask the same about distances
and agree together on every document. -/
theorem evaluate_congr {document : Option Schema} {documents : List Document}
    {list list' : List Fragment} (hasked : Fragment.asked list = Fragment.asked list')
    (hverdict : ∀ proximity d, Evaluation.fragments metric proximity d list =
      Evaluation.fragments metric proximity d list') :
    evaluate sorting metric ⟨document, documents, list⟩ =
      evaluate sorting metric ⟨document, documents, list'⟩ := by
  have hcollect : Proximity.collect list = Proximity.collect list' := by
    rw [Fragment.asked, Fragment.asked] at hasked
    rw [Proximity.collect, Proximity.collect, hasked]
  simp only [evaluate, hcollect, select_congr metric (hverdict _)]

/-- A neutral fragment that is empty can be left out. -/
theorem evaluate_leave_out {f : Fragment} (h : f.isEmpty = true) (hneutral : f.IsNeutral)
    (document : Option Schema) (documents : List Document) (before after : List Fragment) :
    evaluate sorting metric ⟨document, documents, before ++ f :: after⟩ =
      evaluate sorting metric ⟨document, documents, before ++ after⟩ := by
  refine evaluate_congr metric (Fragment.asked_leave_out h before after) fun proximity d => ?_
  have hholds : Evaluation.fragment metric proximity d f = .ok true :=
    (Evaluation.says_fragment_of_isEmpty metric proximity d h).eq_true_iff.2 hneutral
  rw [Evaluation.fragments_eq_conjunction, Evaluation.fragments_eq_conjunction,
    Evaluation.conjunction_leave_out hholds]

/-- All empty fragments that are neutral can be left out at once. -/
theorem evaluate_filter (document : Option Schema) (documents : List Document)
    {list : List Fragment} (h : ∀ f ∈ list, f.isEmpty = true → f.IsNeutral)
    (before : List Fragment) :
    evaluate sorting metric ⟨document, documents, before ++ list.filter fun f => !f.isEmpty⟩ =
      evaluate sorting metric ⟨document, documents, before ++ list⟩ := by
  induction list generalizing before with
  | nil => rfl
  | cons f list ih =>
    obtain ⟨hf, hlist⟩ := List.forall_mem_cons.1 h
    cases hempty : f.isEmpty with
    | true =>
      rw [List.filter_cons_of_neg (by simp [hempty]),
        evaluate_leave_out metric hempty (hf hempty), ih hlist]
    | false =>
      rw [List.filter_cons_of_pos (by simp [hempty]), List.append_cons, ih hlist,
        List.append_assoc, List.singleton_append]

/-- A fragment that is not neutral but empty leaves nothing of a document. -/
theorem isNeutral_of_evaluate {f : Fragment} (h : f.isEmpty = true) {d : Document}
    (hsame : evaluate sorting metric ⟨none, [d], [f]⟩ = evaluate sorting metric ⟨none, [d], []⟩) :
    f.IsNeutral := by
  have hall : evaluate sorting metric ⟨none, [d], []⟩ = .ok (some [d]) := rfl
  obtain ⟨proximity, -, -, hsort⟩ := (evaluate_eq_ok_iff metric).1 (hsame.trans hall)
  have hmem : d ∈ [d].filter fun d => Evaluation.Holds metric proximity [f] d := by
    by_contra hnone
    -- Sorting by distance, if it is asked for, makes no document out of none.
    have hnil : ([d].filter fun d => Evaluation.Holds metric proximity [f] d) = [] := by
      simpa using hnone
    have hlength := (Proximity.sort_perm hsort.symm).length_eq
    rw [hnil] at hlength
    cases hlength
  have hholds : Evaluation.Holds metric proximity [f] d :=
    of_decide_eq_true (List.mem_filter.1 hmem).2
  rw [Evaluation.Holds, Evaluation.fragments_eq_conjunction,
    Evaluation.conjunction_eq_true_iff] at hholds
  exact (Evaluation.says_fragment_of_isEmpty metric proximity d h).eq_true_iff.1
    (hholds f List.mem_cons_self)

end Queryset

/-! ### What filters compile to -/

namespace Compile

/-- A day compiles to one mapping. -/
theorem exists_date_eq_params (target : String) (v : Value) : ∃ p, date target v = .params p := by
  unfold date
  dsimp only
  split
  · exact ⟨_, rfl⟩
  · split <;> exact ⟨_, rfl⟩

/-- A range compiles to one mapping. -/
theorem exists_rangeFragment_eq_params (target : String) (lower upper : Lookup) (collapse : Bool)
    (v : Value) : ∃ p, rangeFragment target lower upper collapse v = .params p := by
  unfold rangeFragment
  split
  · split <;> exact ⟨_, rfl⟩
  · exact ⟨_, rfl⟩

/-- A bound that may be missing requires something. -/
theorem isEmpty_missingOr (target : String) (l : Lookup) (v : Value) :
    (missingOr target l v).isEmpty = false := by
  simp [missingOr, Condition.isEmpty, Condition.allEmpty, Params.single, Params.put]

/-- An intersection of intervals without conditions is neutral, and any other requires something. -/
theorem isNeutral_intersection {low high : String} {v : Value}
    (h : (intersection low high v).isEmpty = true) : (intersection low high v).IsNeutral := by
  unfold intersection at h ⊢
  dsimp only at h ⊢
  split
  · exact .params rfl
  · next hsome =>
    rw [if_neg hsome, Fragment.isEmpty, Condition.isEmpty, Condition.allEmpty_iff] at h
    refine absurd (List.isEmpty_iff.2 (List.eq_nil_iff_forall_not_mem.2 fun c hc => ?_)) hsome
    have hempty := h c hc
    rw [List.mem_append, Option.mem_toList, Option.mem_toList, Option.map_eq_some_iff,
      Option.map_eq_some_iff] at hc
    rcases hc with ⟨bound, -, rfl⟩ | ⟨bound, -, rfl⟩
    all_goals
      rw [isEmpty_missingOr] at hempty
      cases hempty

end Compile

namespace BoundFilter

/-- A filter compiles to one mapping or to an intersection of intervals. -/
theorem compile_eq_params_or_intersection (b : BoundFilter) (v? : Option Value) :
    (∃ p, b.compile v? = .params p) ∨
      ∃ low high v, b.compile v? = Compile.intersection low high v := by
  cases v? with
  | none => exact .inl ⟨_, rfl⟩
  | some v =>
    by_cases hnull : v = .null
    · exact .inl ⟨_, by rw [hnull]; rfl⟩
    · rw [b.compile_some hnull]
      unfold compileValue
      split
      · split <;> exact .inl ⟨_, rfl⟩
      · exact .inl (Compile.exists_date_eq_params _ _)
      · exact .inl ⟨_, rfl⟩
      · exact .inl (Compile.exists_rangeFragment_eq_params _ _ _ _ _)
      · exact .inr ⟨_, _, _, rfl⟩
      · exact .inl ⟨_, rfl⟩

/-- What a filter compiles to is neutral if it is empty. -/
theorem isNeutral_compile (b : BoundFilter) (v? : Option Value)
    (h : (b.compile v?).isEmpty = true) : (b.compile v?).IsNeutral := by
  rcases b.compile_eq_params_or_intersection v? with ⟨p, hp⟩ | ⟨low, high, v, hv⟩
  · rw [hp] at h ⊢
    exact .params h
  · rw [hv] at h ⊢
    exact Compile.isNeutral_intersection h

end BoundFilter

/-- A filter set selects what it would select with the fragments of all its filters, the empty ones
among them. -/
theorem FilterSet.evaluate_fold (sorting : Sorting) (metric : Metric) (s : FilterSet) (q : Queryset)
    (values : QueryValues) :
    (s.fold q values).evaluate sorting metric =
      Queryset.evaluate sorting metric ⟨q.document, q.documents,
        q.fragments ++ s.filters.map fun b => b.compile (values.get? b.name)⟩ := by
  have hfold : s.fold q values = ⟨q.document, q.documents, q.fragments ++
      (s.filters.map fun b => b.compile (values.get? b.name)).filter fun f => !f.isEmpty⟩ := by
    rw [fold_eq_narrowed, ← compile_eq_pieces, narrowed, compile, List.filter_map, List.map_map,
      List.filter_map]
    rfl
  have hneutral : ∀ f ∈ s.filters.map fun b => b.compile (values.get? b.name),
      f.isEmpty = true → f.IsNeutral := by
    intro f hf
    obtain ⟨b, -, rfl⟩ := List.mem_map.1 hf
    exact b.isNeutral_compile _
  rw [hfold]
  exact Queryset.evaluate_filter metric _ _ hneutral _

/-- An empty fragment can be decided on every document, and holds of all of them if it is neutral
and of none otherwise. It can be left out of every queryset exactly if it is neutral, which those
that filters compile to are. -/
theorem Queryset.evaluate_leave_out_iff {f : Fragment} (h : f.isEmpty = true) :
    (∀ metric proximity d,
      Evaluation.Says (Evaluation.fragment metric proximity d f) f.IsNeutral) ∧
    (∀ sorting, (∀ metric document documents before after,
      evaluate sorting metric ⟨document, documents, before ++ f :: after⟩ =
        evaluate sorting metric ⟨document, documents, before ++ after⟩) ↔ f.IsNeutral) ∧
    ∀ (b : BoundFilter) (v? : Option Value), b.compile v? = f → f.IsNeutral := by
  refine ⟨fun metric proximity d => Evaluation.says_fragment_of_isEmpty metric proximity d h,
    fun sorting => ⟨fun hsame => ?_, fun hneutral metric => evaluate_leave_out metric h hneutral⟩,
    ?_⟩
  · exact isNeutral_of_evaluate Metric.greatCircle h
      (hsame Metric.greatCircle none [⟨"", .empty⟩] [] [])
  · rintro b v? rfl
    exact b.isNeutral_compile v? h

/-- A conjunction of a disjunction with an empty mapping among its parts can be left out. -/
theorem Queryset.evaluate_leave_out_nested :
    let f : Fragment := .condition (.all [.any [.any [], .params .empty]])
    f.isEmpty = true ∧ (∀ metric proximity d, Evaluation.fragment metric proximity d f = .ok true) ∧
      ∀ sorting metric document documents before after,
        evaluate sorting metric ⟨document, documents, before ++ f :: after⟩ =
          evaluate sorting metric ⟨document, documents, before ++ after⟩ := by
  intro f
  have hempty : f.isEmpty = true := rfl
  have hany : Condition.IsNeutral (.any [.any [], .params .empty]) :=
    .any (List.mem_cons_of_mem _ List.mem_cons_self) (.params rfl)
  have hneutral : f.IsNeutral := .condition (.all (List.forall_mem_singleton.2 hany))
  obtain ⟨hverdict, hiff, -⟩ := evaluate_leave_out_iff hempty
  exact ⟨hempty, fun metric proximity d => (hverdict metric proximity d).eq_true_iff.2 hneutral,
    fun sorting => (hiff sorting).2 hneutral⟩

/-- Not every empty fragment holds: one whose only part is a disjunction without alternatives fails
on the document without attributes. -/
theorem Evaluation.not_fragment_of_isEmpty :
    ¬∀ (f : Fragment) (metric : Metric) (proximity : Proximity) (d : Document),
      f.isEmpty = true → fragment metric proximity d f = .ok true := by
  intro h
  have hholds := h (.condition (.all [.any []])) Metric.greatCircle .empty ⟨"", .empty⟩ rfl
  simp [fragment, condition, all, any] at hholds

end QueryFilters
