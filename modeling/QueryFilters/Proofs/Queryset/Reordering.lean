import QueryFilters.Proofs.Evaluation.Conjunction
import QueryFilters.Proofs.Fragment.Reordering
import QueryFilters.Proofs.Proximity.Demands
import QueryFilters.Proofs.Queryset.Selection

/-!
# The order of fragments

Conjunctions and disjunctions stop at the first part that decides, so their order decides which
error is met, if any. It does not decide between true and false: where reordered conditions are both
decided, they are decided alike (`Evaluation.agree_condition`). If in addition the fragments make no
demands on distances that meet, they ask for one table in any order, and then a queryset selects the
same documents in the same order (`Queryset.evaluate_reordered`).
-/

namespace QueryFilters

namespace Evaluation

variable {α β : Type}

/-- Where both are decided, they are decided alike. -/
def Agree (outcome outcome' : Except EvalError Bool) : Prop :=
  ∀ holds holds', outcome = .ok holds → outcome' = .ok holds' → holds = holds'

/-- A verdict agrees with itself. -/
theorem Agree.refl (outcome : Except EvalError Bool) : Agree outcome outcome :=
  fun _ _ h h' => Except.ok.inj (h.symm.trans h')

/-- The opposites of verdicts that agree do so as well. -/
theorem Agree.opposite {outcome outcome' : Except EvalError Bool} (h : Agree outcome outcome') :
    Agree (opposite outcome) (opposite outcome') := by
  intro holds holds' hholds hholds'
  rw [opposite_eq_ok_iff] at hholds hholds'
  exact Bool.not_inj (h _ _ hholds hholds')

/-- Conjunctions agree when each item of one agrees with an item of the other, in any order. -/
theorem agree_conjunction {verdict : α → Except EvalError Bool}
    {verdict' : β → Except EvalError Bool} {xs : List α} {ys : List β}
    (h : Rearranged (fun x y => Agree (verdict x) (verdict' y)) xs ys) :
    Agree (conjunction verdict xs) (conjunction verdict' ys) := by
  intro holds holds' hholds hholds'
  cases holds with
  | true =>
    cases holds' with
    | true => rfl
    | false =>
      obtain ⟨y, hy, hfalse⟩ := exists_of_conjunction_eq_false hholds'
      obtain ⟨x, hx, hagree⟩ := h.exists_left hy
      exact hagree true false (conjunction_eq_true_iff.1 hholds x hx) hfalse
  | false =>
    cases holds' with
    | false => rfl
    | true =>
      obtain ⟨x, hx, hfalse⟩ := exists_of_conjunction_eq_false hholds
      obtain ⟨y, hy, hagree⟩ := h.exists_right hx
      exact hagree false true hfalse (conjunction_eq_true_iff.1 hholds' y hy)

variable (metric : Metric) (p : Proximity) (d : Document)

/-- Reordered conditions agree on every document. -/
theorem agree_condition {c c' : Condition} (h : c.Reordered c') :
    Agree (condition metric p d c) (condition metric p d c') := by
  refine Condition.Reordered.induction
    (R := fun c c' => Agree (condition metric p d c) (condition metric p d c')) ?_ ?_ ?_ h
  · exact fun params => .refl _
  · intro conditions reordered hparts
    rw [condition, condition, all_eq_conjunction, all_eq_conjunction]
    exact agree_conjunction hparts
  · intro conditions reordered hparts
    rw [condition, condition, any_eq_opposite_conjunction, any_eq_opposite_conjunction]
    obtain ⟨related, hrelated, hperm⟩ := hparts
    exact (agree_conjunction ⟨related, hrelated.imp fun _ _ hagree => hagree.opposite,
      hperm⟩).opposite

/-- Reordered fragments agree on every document. -/
theorem agree_fragments {list list' : List Fragment}
    (h : Rearranged Fragment.Reordered list list') :
    Agree (fragments metric p d list) (fragments metric p d list') := by
  obtain ⟨related, hrelated, hperm⟩ := h
  rw [fragments_eq_conjunction, fragments_eq_conjunction]
  refine agree_conjunction ⟨related, hrelated.imp fun f f' hreordered => ?_, hperm⟩
  cases hreordered with
  | params params => exact .refl _
  | condition h => exact agree_condition metric p d h

end Evaluation

namespace Fragment

/-- Reordered fragments ask the same in another order. -/
theorem asked_perm {list list' : List Fragment} (h : Rearranged Reordered list list') :
    (asked list).Perm (asked list') := by
  obtain ⟨related, hrelated, hperm⟩ := h
  have hleaves : (list.flatMap leaves).Perm (list'.flatMap leaves) :=
    Rearranged.flatMap_perm ⟨related, hrelated.imp fun _ _ hreordered => hreordered.leaves_perm,
      hperm⟩
  exact hleaves.flatMap_right Dict.entries

end Fragment

/-- Reordered fragments that make no demands that meet ask for the same table, if for any. -/
theorem Proximity.toOption_collect_reordered {list list' : List Fragment}
    (h : Rearranged Fragment.Reordered list list')
    (hapart : (Fragment.asked list).Pairwise fun a b => Key.Apart a.1 b.1) :
    (collect list).toOption = (collect list').toOption := by
  have hrecord : (empty.recordAll (Fragment.asked list)).toOption =
      (empty.recordAll (Fragment.asked list')).toOption :=
    recordAll_perm (Fragment.asked_perm h) hapart empty
  have hcollect : ∀ list, (collect list).toOption =
      (empty.recordAll (Fragment.asked list)).toOption.filter fun p => p.unanchored?.isNone := by
    intro list
    rw [collect, ← Fragment.asked]
    cases empty.recordAll (Fragment.asked list) with
    | error e => rfl
    | ok p => cases hanchored : p.unanchored? <;> simp [Except.toOption, Option.filter, hanchored]
  rw [hcollect, hcollect, hrecord]

namespace Queryset

open Evaluation (Agree Holds)

/-- Fragments may be reordered, and so may the parts of their conditions at any depth, if all that
they ask about distances concerns one path, with at most one place, one greatest and one least
distance. On no document is the one order true and the other one false, and where a queryset is
evaluated in both orders it gives the same documents in the same order, unless the sort gives up in
both. -/
theorem evaluate_reordered (sorting : Sorting) (metric : Metric) {list list' : List Fragment}
    (h : Rearranged Fragment.Reordered list list')
    (hapart : (Fragment.asked list).Pairwise fun a b => Key.Apart a.1 b.1) :
    (∀ d, Agree ((Proximity.collect list).bind fun p => Evaluation.fragments metric p d list)
      ((Proximity.collect list').bind fun p => Evaluation.fragments metric p d list')) ∧
    ∀ (document : Option Schema) (documents : List Document)
        (found found' : Option (List Document)),
      evaluate sorting metric ⟨document, documents, list⟩ = .ok found →
      evaluate sorting metric ⟨document, documents, list'⟩ = .ok found' → found = found' := by
  have htable : ∀ p p', Proximity.collect list = .ok p → Proximity.collect list' = .ok p' →
      p = p' := by
    intro p p' hp hp'
    have hcollect := Proximity.toOption_collect_reordered h hapart
    rw [hp, hp'] at hcollect
    exact Option.some.inj hcollect
  constructor
  · intro d holds holds' hholds hholds'
    cases hp : Proximity.collect list with
    | error e =>
      rw [hp] at hholds
      cases hholds
    | ok p =>
      cases hp' : Proximity.collect list' with
      | error e =>
        rw [hp'] at hholds'
        cases hholds'
      | ok p' =>
        obtain rfl := htable p p' hp hp'
        rw [hp] at hholds
        rw [hp'] at hholds'
        exact Evaluation.agree_fragments metric p d h holds holds' hholds hholds'
  · intro document documents found found' hfound hfound'
    obtain ⟨p, hp, hdecided, rfl⟩ := (evaluate_eq_ok_iff metric).1 hfound
    obtain ⟨p', hp', hdecided', rfl⟩ := (evaluate_eq_ok_iff metric).1 hfound'
    obtain rfl := htable p p' hp hp'
    congr 1
    refine List.filter_congr fun d hd => ?_
    obtain ⟨holds, hholds⟩ := hdecided d hd
    obtain ⟨holds', hholds'⟩ := hdecided' d hd
    obtain rfl := Evaluation.agree_fragments metric p d h holds holds' hholds hholds'
    have hsame : Holds metric p list d ↔ Holds metric p list' d := by
      rw [Holds, Holds, hholds, hholds']
    exact decide_eq_decide.2 hsame

/-- A place, a bound on the distance from it and a title are asked for in two orders. Two of three
documents are selected, the nearer one first. -/
theorem evaluate_reordered_title_or_place :
    let metric : Metric := fun _ place =>
      if place.lng = Binary64.ofInt 1 then Binary64.ofInt 100 else Binary64.ofInt 200
    let stored (lng : Int64) (size : Int64) : Document :=
      ⟨"Doc", .ofList [("place", .list [.int lng, .int 0]), ("size", .int size)]⟩
    let title : Condition := .params (.single "title" none (.string "a"))
    let near : Condition := .params (.single "place" (some .near) (.list [.int 0, .int 0]))
    let large : Condition := .params (.single "size" (some .gte) (.int 3))
    let bound : Fragment := .params (.single "place" (some .maxDistance) (.int 300))
    let documents := [stored 2 3, stored 4 1, stored 1 5]
    let list : List Fragment := [.condition (.any [title, .all [near, large]]), bound]
    let list' : List Fragment := [bound, .condition (.any [.all [large, near], title])]
    Rearranged Fragment.Reordered list list' ∧
      ((Fragment.asked list).Pairwise fun a b => Key.Apart a.1 b.1) ∧
      ∃ found, evaluate .standard metric ⟨none, documents, list⟩ = .ok (some found) ∧
        evaluate .standard metric ⟨none, documents, list'⟩ = .ok (some found) ∧
        found.length = 2 := by
  intro metric stored title near large bound documents list list'
  have hreordered : Rearranged Fragment.Reordered list list' := by
    have hall : Condition.Reordered (.all [near, large]) (.all [large, near]) :=
      .all (.cons (.params _) (.cons (.params _) .nil)) (.swap large near [])
    have hany : Condition.Reordered (.any [title, .all [near, large]])
        (.any [.all [large, near], title]) :=
      .any (.cons (.params _) (.cons hall .nil)) (.swap _ title [])
    exact ⟨[.condition (.any [.all [large, near], title]), bound],
      .cons (.condition hany) (.cons (.params _) .nil), .swap bound _ []⟩
  have hapart : (Fragment.asked list).Pairwise fun a b => Key.Apart a.1 b.1 := by
    decide +kernel
  have hlength : ∀ list₀ ∈ [list, list'],
      (evaluate .standard metric ⟨none, documents, list₀⟩).toOption.join.map List.length =
        some 2 := by
    decide +kernel
  obtain ⟨found, hlist, htwo⟩ := exists_found_of_length (hlength list (.head _))
  obtain ⟨found', hlist', -⟩ := exists_found_of_length (hlength list' (.tail _ (.head _)))
  obtain rfl := Option.some.inj ((evaluate_reordered .standard metric hreordered hapart).2 none
    documents (some found) (some found') hlist hlist')
  exact ⟨hreordered, hapart, found, hlist, hlist', htwo⟩

end Queryset

end QueryFilters
