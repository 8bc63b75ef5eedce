import Mathlib.Data.List.Perm.Subperm
import QueryFilters.Proofs.Proximity.Collection
import QueryFilters.Proofs.Proximity.Nearest
import QueryFilters.Proofs.Proximity.Tightening
import QueryFilters.Proofs.Queryset.Selection

/-!
# Narrowing

A further fragment is one more condition on the documents, but it also has a say in what is asked
about distances, and there its entries take the place of earlier ones. Whether a queryset can select
more when it is narrowed depends on nothing but this: `Proximity.Tightens` compares the two tables,
and `Queryset.narrow_subperm_iff` shows that it decides. A later bound may well be looser than the
one that it replaces, and then a narrowed queryset selects more (`Queryset.not_narrow_subset`).
-/

namespace QueryFilters

/-! ### Documents and fragments that expose a table -/

namespace Value

/-- A value at the end of a path of names. -/
def nest (value : Value) : Path → Value
  | [] => value
  | name :: path => .map [(name, value.nest path)]

/-- The path leads to the value. -/
theorem getPath?_nest (value : Value) (path : Path) :
    (value.nest path).getPath? path = some value := by
  induction path with
  | nil => rfl
  | cons name path ih =>
    rw [nest, getPath?, Entries.get?, if_pos rfl]
    exact ih

end Value

namespace Document

/-- A document with nothing but a value at a path. -/
def holding (value : Value) : Path → Document
  | [] => ⟨"", .empty⟩
  | name :: path => ⟨"", .ofList [(name, value.nest path)]⟩

/-- The path leads to the value. -/
theorem get?_holding (value : Value) {path : Path} (h : path ≠ []) :
    (holding value path).get? path = some value := by
  cases path with
  | nil => exact absurd rfl h
  | cons name path =>
    have hfield : (holding value (name :: path)).fields.get? name = some (value.nest path) :=
      if_pos rfl
    rw [get?, hfield, Option.bind_some, Value.getPath?_nest]

end Document

namespace Fragment

/-- A fragment that holds for every document and asks what other fragments do. -/
def recording (list : List Fragment) : Fragment :=
  .condition (.any (.all [] :: (list.flatMap leaves).map .params))

/-- What is recorded is what the fragments ask. -/
theorem asked_recording (list : List Fragment) : asked [recording list] = asked list := by
  have hleaves : ∀ mappings : List Params,
      Condition.allLeaves (mappings.map .params) = mappings := by
    intro mappings
    induction mappings with
    | nil => rfl
    | cons params mappings ih =>
      rw [List.map_cons, Condition.allLeaves, Condition.leaves, ih]
      rfl
  rw [asked, asked, List.flatMap_cons, List.flatMap_nil, List.append_nil, recording, leaves,
    Condition.leaves, Condition.allLeaves, Condition.leaves, Condition.allLeaves, List.nil_append,
    hleaves]

/-- The fragment that a single entry makes. -/
def ofEntry (key : String) (operand : Value) : Fragment :=
  .params (.ofList [(key, operand)])

/-- It asks for its entry. -/
theorem asked_ofEntry (key : String) (operand : Value) :
    asked [ofEntry key operand] = [(key, operand)] :=
  rfl

end Fragment

namespace Evaluation

variable (metric : Metric) (p : Proximity) (d : Document)

/-- What only records holds for every document. -/
theorem fragment_recording (list : List Fragment) :
    fragment metric p d (.recording list) = .ok true := by
  rw [Fragment.recording, fragment, condition, any_cons_eq_true]
  exact .inl rfl

/-- An entry that locates a place asks whether the document is within the bounds of its path. -/
theorem fragment_ofEntry {key : String} {operand : Value} {target : String} {origin : Point}
    (h : Proximity.Locates key operand target origin) :
    fragment metric p d (.ofEntry key operand) =
      .ok (p.within metric target (d.get? (Key.split key).1)) := by
  obtain ⟨rfl, hlookup, -⟩ := h
  have hraw : key ≠ Key.raw := by
    rintro rfl
    have hnone : (Key.split Key.raw).2 = none := by decide +kernel
    rw [hnone] at hlookup
    rcases hlookup with hlookup | hlookup <;> cases hlookup
  have hentry : entry metric p d key operand =
      .ok (p.within metric (Key.split key).1.toTarget (d.get? (Key.split key).1)) := by
    rw [entry, if_neg hraw]
    rcases hsplit : Key.split key with ⟨path, lookup⟩
    rw [hsplit] at hlookup
    rcases hlookup with rfl | rfl <;> rfl
  show entries metric p d [(key, operand)] = _
  rw [entries, hentry]
  cases p.within metric (Key.split key).1.toTarget (d.get? (Key.split key).1) <;> rfl

end Evaluation

/-- Recording what fragments ask, and asking once more for a place that they locate, gives the same
table, whatever else is asked. -/
theorem Proximity.collect_recording {list more : List Fragment} {p r : Proximity} {key : String}
    {operand : Value} {target : String} {origin : Point} (hp : collect list = .ok p)
    (hlocates : Locates key operand target origin) (horigin : p.origin? target = some origin) :
    collect ([.recording list, .ofEntry key operand] ++ more) = .ok r ↔
      collect (list ++ more) = .ok r := by
  have hlist : empty.recordAll (Fragment.asked list) = .ok p := (collect_eq_ok_iff.1 hp).1
  have hagain : p.recordAll [(key, operand)] = .ok p := by
    rw [recordAll, record_of_locates hlocates horigin]
    rfl
  have hasked : Fragment.asked [.recording list, .ofEntry key operand] =
      Fragment.asked list ++ [(key, operand)] := by
    rw [← Fragment.asked_recording list, ← Fragment.asked_ofEntry key operand]
    exact Fragment.asked_append [.recording list] [.ofEntry key operand]
  have hfirst : empty.recordAll (Fragment.asked [.recording list, .ofEntry key operand]) =
      .ok p := by
    rw [hasked, recordAll_append, hlist]
    exact hagain
  rw [collect_eq_ok_iff, collect_eq_ok_iff, Fragment.asked_append, Fragment.asked_append,
    recordAll_append, recordAll_append, hfirst, hlist]

/-! ### Narrowing and tables -/

namespace Queryset

open Evaluation (Holds Decided)

variable {sorting : Sorting}

/-- Under a tighter table a narrowed queryset selects no more. -/
theorem subperm_of_tightens {metric : Metric} {p' p : Proximity} (htight : p'.Tightens metric p)
    {q : Queryset} {f : Fragment} {before after : List Document}
    (hp : Proximity.collect q.fragments = .ok p)
    (hp' : Proximity.collect (q.narrow f).fragments = .ok p')
    (hbefore : q.evaluate sorting metric = .ok (some before))
    (hafter : (q.narrow f).evaluate sorting metric = .ok (some after)) :
    after.Subperm before := by
  obtain ⟨p₀, hcollect, hdecided, hsort⟩ := (evaluate_eq_ok_iff metric).1 hbefore
  obtain rfl : p = p₀ := Except.ok.inj (hp.symm.trans hcollect)
  obtain ⟨p₁, hcollect', -, hsort'⟩ := (evaluate_eq_ok_iff metric).1 hafter
  obtain rfl : p' = p₁ := Except.ok.inj (hp'.symm.trans hcollect')
  have himp : ∀ d ∈ q.documents, Holds metric p' (q.narrow f).fragments d →
      Holds metric p q.fragments d := by
    intro d hd hholds
    have hmore := Evaluation.fragments_eq_true_of_append metric p' d hholds
    obtain ⟨holds, hverdict⟩ := hdecided d hd
    cases holds with
    | true => exact hverdict
    | false => exact absurd hverdict (Evaluation.fragments_ne_false htight d hmore)
  have hfilter : (q.documents.filter fun d => Holds metric p' (q.narrow f).fragments d) =
      (q.documents.filter fun d => Holds metric p q.fragments d).filter
        fun d => Holds metric p' (q.narrow f).fragments d := by
    rw [List.filter_filter]
    refine List.filter_congr fun d hd => ?_
    by_cases h : Holds metric p' (q.narrow f).fragments d
    · simp [h, himp d hd h]
    · simp [h]
  have hsublist := List.filter_sublist
    (p := fun d => decide (Holds metric p' (q.narrow f).fragments d))
    (l := q.documents.filter fun d => Holds metric p q.fragments d)
  rw [← hfilter] at hsublist
  have hperm := Proximity.sort_perm hsort.symm
  have hperm' := Proximity.sort_perm hsort'.symm
  exact hperm'.subperm.trans (hsublist.subperm.trans hperm.symm.subperm)

/-- Where a table is not tighter, some queryset with the earlier table selects more when it is
narrowed to the later one. -/
theorem exists_widening {metric : Metric} {list : List Fragment} {f : Fragment} {p' p : Proximity}
    (hp : Proximity.collect list = .ok p) (hp' : Proximity.collect (list ++ [f]) = .ok p')
    {target : String} {actual : Option Value} (hwithin : p'.within metric target actual = true)
    (hout : p.within metric target actual = false) :
    ∃ (q : Queryset) (g : Fragment) (before after : List Document),
      Proximity.collect q.fragments = .ok p ∧ Proximity.collect (q.narrow g).fragments = .ok p' ∧
        q.evaluate sorting metric = .ok (some before) ∧
        (q.narrow g).evaluate sorting metric = .ok (some after) ∧ ¬after.Subperm before := by
  obtain ⟨value, point, rfl, hpoint⟩ := Proximity.exists_point_of_within hwithin
  have hplace : (some value).bind Value.asPoint? = some point := hpoint
  obtain ⟨near, hget⟩ := Proximity.exists_get?_of_not_within hplace hout
  obtain ⟨origin, horigin⟩ := Proximity.exists_origin_of_collect hp hget
  obtain ⟨⟨key, operand⟩, -, hlocates⟩ := Proximity.grounded_of_collect hp target origin horigin
  -- The document holds the place in question where the entry that gave the origin looks for it, and
  -- everything else that the tables need is recorded without being evaluated.
  let d := Document.holding value (Key.split key).1
  let q : Queryset := ⟨none, [d], [.recording list, .ofEntry key operand]⟩
  let g := Fragment.recording [f]
  have hd : d.get? (Key.split key).1 = some value :=
    Document.get?_holding value (Key.split_path_ne_nil key)
  have hcollect : Proximity.collect q.fragments = .ok p := by
    have h : Proximity.collect (q.fragments ++ []) = .ok p ↔
        Proximity.collect (list ++ []) = .ok p :=
      Proximity.collect_recording hp hlocates horigin
    rw [List.append_nil, List.append_nil] at h
    exact h.2 hp
  have hcollect' : Proximity.collect (q.narrow g).fragments = .ok p' := by
    refine (Proximity.collect_recording hp hlocates horigin).2 ?_
    rw [Proximity.collect_eq_ok_iff] at hp' ⊢
    rw [Fragment.asked_append] at hp' ⊢
    rw [Fragment.asked_recording]
    exact hp'
  have hverdict : Evaluation.fragments metric p d q.fragments = .ok false := by
    rw [Evaluation.fragments_cons_eq_false, Evaluation.fragments_cons_eq_false,
      Evaluation.fragment_ofEntry metric p d hlocates, hd, hout]
    exact .inr ⟨Evaluation.fragment_recording metric p d list, .inl rfl⟩
  have hverdict' : Evaluation.fragments metric p' d (q.narrow g).fragments = .ok true := by
    show Evaluation.fragments metric p' d [.recording list, .ofEntry key operand, g] = .ok true
    rw [Evaluation.fragments_cons_eq_true, Evaluation.fragments_cons_eq_true,
      Evaluation.fragments_cons_eq_true, Evaluation.fragment_ofEntry metric p' d hlocates, hd,
      hwithin]
    exact ⟨Evaluation.fragment_recording metric p' d list, rfl,
      Evaluation.fragment_recording metric p' d [f], rfl⟩
  have hnone : (q.documents.filter fun d => Holds metric p q.fragments d) = [] := by
    simp [q, Holds, hverdict]
  have hone : ((q.narrow g).documents.filter
      fun d => Holds metric p' (q.narrow g).fragments d) = [d] := by
    have hholds : Holds metric p' (q.narrow g).fragments d := hverdict'
    exact List.filter_cons_of_pos (decide_eq_true hholds)
  -- A single document is sorted whatever its distance.
  have hsorts : ∀ (p : Proximity) (documents : List Document), (∀ x ∈ documents, x = d) →
      ∃ sorted, p.sort sorting metric documents = some sorted := fun p _ hsame =>
    Proximity.exists_sort_eq_some sorting
      (Proximity.not_disordered_of_eq (p.distance? metric) hsame)
  obtain ⟨before, hbefore⟩ := hsorts p [] (by simp)
  obtain ⟨after, hafter⟩ := hsorts p' [d] (by simp)
  refine ⟨q, g, before, after, hcollect, hcollect', ?_, ?_, ?_⟩
  · refine (evaluate_eq_ok_iff metric).2 ⟨p, hcollect, ?_, by rw [hnone, hbefore]⟩
    exact List.forall_mem_singleton.2 ⟨false, hverdict⟩
  · refine (evaluate_eq_ok_iff metric).2 ⟨p', hcollect', ?_, by rw [hone, hafter]⟩
    exact List.forall_mem_singleton.2 ⟨true, hverdict'⟩
  · intro hsubperm
    have hlength := hsubperm.length_le
    rw [(Proximity.sort_perm hbefore).length_eq, (Proximity.sort_perm hafter).length_eq] at hlength
    exact absurd hlength (by simp)

/-- Of two tables that fragments and one more fragment can ask for, the later one is tighter just
when no queryset that asks for them selects more after the further fragment than before. -/
theorem narrow_subperm_iff (sorting : Sorting) (metric : Metric) {list : List Fragment}
    {f : Fragment} {p p' : Proximity} (hp : Proximity.collect list = .ok p)
    (hp' : Proximity.collect (list ++ [f]) = .ok p') :
    (∀ (q : Queryset) (g : Fragment) (before after : List Document),
      Proximity.collect q.fragments = .ok p → Proximity.collect (q.narrow g).fragments = .ok p' →
      q.evaluate sorting metric = .ok (some before) →
      (q.narrow g).evaluate sorting metric = .ok (some after) → after.Subperm before) ↔
      p'.Tightens metric p := by
  constructor
  · intro h target actual hwithin
    by_contra hout
    rw [Bool.not_eq_true] at hout
    obtain ⟨q, g, before, after, hcollect, hcollect', hbefore, hafter, hmore⟩ :=
      exists_widening hp hp' hwithin hout
    exact hmore (h q g before after hcollect hcollect' hbefore hafter)
  · intro htight q g before after hcollect hcollect' hbefore hafter
    exact subperm_of_tightens htight hcollect hcollect' hbefore hafter

/-- With a closer bound on the same path a narrowed queryset selects no more. -/
theorem subperm_of_closer_bound :
    let here : Point := ⟨Binary64.ofInt 0, Binary64.ofInt 0⟩
    let place : Value := .list [.int 0, .int 0]
    let list : List Fragment :=
      [.ofEntry "place__near" place, .ofEntry "place__max_distance" (.int 100)]
    let f : Fragment := .ofEntry "place__max_distance" (.int 50)
    let p : Proximity := ⟨[("place", ⟨some here, some (Binary64.ofInt 100), none⟩)]⟩
    let p' : Proximity := ⟨[("place", ⟨some here, some (Binary64.ofInt 50), none⟩)]⟩
    Proximity.collect list = .ok p ∧ Proximity.collect (list ++ [f]) = .ok p' ∧
      ∀ (sorting : Sorting) (q : Queryset) (g : Fragment) (before after : List Document),
        Proximity.collect q.fragments = .ok p → Proximity.collect (q.narrow g).fragments = .ok p' →
        q.evaluate sorting Metric.greatCircle = .ok (some before) →
        (q.narrow g).evaluate sorting Metric.greatCircle = .ok (some after) →
          after.Subperm before := by
  intro here place list f p p'
  have hnear : Key.split "place__near" = (["place"], some .near) := by decide +kernel
  have hmax : Key.split "place__max_distance" = (["place"], some .maxDistance) := by decide +kernel
  have hplace : Proximity.empty.record "place__near" place =
      .ok ⟨[("place", ⟨some here, none, none⟩)]⟩ := by
    rw [Proximity.record, hnear]
    rfl
  have hbound : Proximity.record ⟨[("place", ⟨some here, none, none⟩)]⟩ "place__max_distance"
      (.int 100) = .ok p := by
    rw [Proximity.record, hmax]
    rfl
  have hcloser : p.record "place__max_distance" (.int 50) = .ok p' := by
    rw [Proximity.record, hmax]
    rfl
  have hrecord : Proximity.empty.recordAll (Fragment.asked list) = .ok p := by
    show Proximity.empty.recordAll
      [("place__near", place), ("place__max_distance", .int 100)] = .ok p
    rw [Proximity.recordAll, hplace]
    dsimp only
    rw [Proximity.recordAll, hbound]
    rfl
  have hrecord' : Proximity.empty.recordAll (Fragment.asked (list ++ [f])) = .ok p' := by
    rw [Fragment.asked_append, Proximity.recordAll_append, hrecord]
    show p.recordAll [("place__max_distance", .int 50)] = .ok p'
    rw [Proximity.recordAll, hcloser]
    rfl
  have hp : Proximity.collect list = .ok p := Proximity.collect_eq_ok_iff.2 ⟨hrecord, rfl⟩
  have hp' : Proximity.collect (list ++ [f]) = .ok p' :=
    Proximity.collect_eq_ok_iff.2 ⟨hrecord', rfl⟩
  have htight : p'.Tightens Metric.greatCircle p := by
    refine Proximity.tightens_of_bounds Metric.greatCircle fun target near hget => ?_
    obtain rfl : "place" = target := by
      by_contra hne
      have hnone : p.get? target = none := if_neg hne
      rw [hnone] at hget
      cases hget
    obtain rfl : ⟨some here, some (Binary64.ofInt 100), none⟩ = near := Option.some.inj hget
    refine ⟨⟨some here, some (Binary64.ofInt 50), none⟩, rfl, rfl, fun max hmax => ?_,
      fun min hmin => by cases hmin⟩
    obtain rfl : Binary64.ofInt 100 = max := Option.some.inj hmax
    exact ⟨Binary64.ofInt 50, rfl, by decide +kernel⟩
  exact ⟨hp, hp', fun sorting => (narrow_subperm_iff sorting Metric.greatCircle hp hp').2 htight⟩

/-- Narrowing can select more: a document 500 metres away is beyond the first bound, which the
second one replaces. -/
theorem not_narrow_subset :
    ¬∀ (sorting : Sorting) (metric : Metric) (q : Queryset) (f : Fragment)
        (before after : List Document),
      (∀ x y, ∃ rank, Binary64.rank? (metric x y) = some rank) →
      q.evaluate sorting metric = .ok (some before) →
      (q.narrow f).evaluate sorting metric = .ok (some after) → ∀ d ∈ after, d ∈ before := by
  intro h
  let metric : Metric := fun _ _ => Binary64.ofInt 500
  let here : Value := .point ⟨Binary64.ofInt 0, Binary64.ofInt 0⟩
  let d : Document := ⟨"Doc", .ofList [("place", here)]⟩
  let q : Queryset := ⟨none, [d], [.params (.ofList [("place__near", here),
    ("place__max_distance", .int 100)])]⟩
  let f : Fragment := .params (.ofList [("place__max_distance", .int 1000)])
  have hmetric : ∀ x y, ∃ rank, Binary64.rank? (metric x y) = some rank := fun _ _ => ⟨_, rfl⟩
  have hlength : (q.evaluate .standard metric).toOption.join.map List.length = some 0 := by
    decide +kernel
  have hlength' : ((q.narrow f).evaluate .standard metric).toOption.join.map List.length =
      some 1 := by
    decide +kernel
  obtain ⟨before, hbefore, hnone⟩ := exists_found_of_length hlength
  obtain ⟨after, hafter, hone⟩ := exists_found_of_length hlength'
  obtain rfl : before = [] := List.eq_nil_of_length_eq_zero hnone
  obtain ⟨found, rfl⟩ := List.length_eq_one_iff.1 hone
  have hmem := h .standard metric q f [] [found] hmetric hbefore hafter found List.mem_cons_self
  cases hmem

end Queryset

end QueryFilters
