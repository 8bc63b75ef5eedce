import QueryFilters.Proofs.Evaluation.Meaning
import QueryFilters.Proofs.Filter.Building
import QueryFilters.Proofs.Filter.Typing
import QueryFilters.Proofs.Value.Equality

/-!
# Ranges

A range asks an attribute for each of the two bounds that a value gives (`Compile.says_range`), or,
where equal bounds collapse, for an equality. An attribute lies between two equal bounds, both of
them included, exactly if it is loosely equal to them (`Evaluation.meets_and_meets_iff`), so such a
range answers the same whether its bounds collapse or not. `BoundFilter.says_compile_range` states
all of this about a compiled filter.
-/

namespace QueryFilters

/-- The lookups of a range compare by order, and they are two. -/
theorem FilterBuilder.isOrder_of_isRangeBounds {lower upper : Lookup}
    (h : isRangeBounds lower upper = true) :
    lower.isOrder = true ∧ upper.isOrder = true ∧ lower ≠ upper := by
  obtain ⟨rfl | rfl, rfl | rfl⟩ := isRangeBounds_iff.1 h <;> decide

/-- A value gives a bound under a name if something other than null is there. -/
def Value.Gives (v : Value) (name : String) (bound : Value) : Prop :=
  v.getPath? [name] = some bound ∧ bound ≠ .null

/-- A value gives one bound under a name. -/
theorem Value.Gives.forall_iff {v bound : Value} {name : String} (h : v.Gives name bound)
    (P : Value → Prop) : (∀ other, v.Gives name other → P other) ↔ P bound := by
  constructor
  · intro hall
    exact hall bound h
  · intro hbound other hother
    rwa [← Option.some.inj (h.1.symm.trans hother.1)]

namespace Evaluation

variable {actual : Option Value}

/-- An attribute meets the bounds that a value gives. -/
def Within (actual : Option Value) (lower upper : Lookup) (v : Value) : Prop :=
  (∀ min, v.Gives "min" min → Meets actual lower min) ∧
    ∀ max, v.Gives "max" max → Meets actual upper max

/-- One of two equal bounds is as good as the other. -/
theorem meets_congr {l : Lookup} {bound bound' : Value} (h : (bound == bound') = true) :
    Meets actual l bound ↔ Meets actual l bound' := by
  simp only [Meets, Value.compare?_congr_right h]

/-- An attribute lies between equal bounds, both of them included, if it is loosely equal to them.
-/
theorem meets_and_meets_iff {min max : Value} (h : (min == max) = true) :
    Meets actual .gte min ∧ Meets actual .lte max ↔
      ∃ value ∈ actual, value.looselyEq min = true := by
  rw [← meets_congr h]
  cases actual with
  | none => simp [Meets]
  | some value =>
    simp only [Meets, Option.mem_some_iff, exists_eq_left', Value.looselyEq_iff]
    rcases value.compare? min with _ | _ | _ | _ <;> simp [Lookup.Admits]

end Evaluation

namespace Compile

/-- The bounds that count are those that the value gives. -/
theorem mem_bound?_iff {v : Value} {name : String} {bound : Value} :
    bound ∈ bound? v name ↔ v.Gives name bound := by
  rw [Option.mem_def, bound?, Option.filter_eq_some_iff, Bool.not_eq_true', ← Bool.not_eq_true,
    Value.isNull_iff]
  rfl

/-- Bounds collapse where that is chosen and both are given and equal. -/
def Collapses (collapse : Bool) (v min : Value) : Prop :=
  collapse = true ∧ v.Gives "min" min ∧ ∃ max, v.Gives "max" max ∧ (min == max) = true

variable {target : String} {lower upper : Lookup} {collapse : Bool} {v : Value}

/-- Bounds that collapse are compiled to an equality with the lower one. -/
theorem rangeFragment_of_collapses {min : Value} (h : Collapses collapse v min) :
    rangeFragment target lower upper collapse v = .params (.single target none min) := by
  obtain ⟨hcollapse, hmin, max, hmax, heq⟩ := h
  rw [rangeFragment, mem_bound?_iff.2 hmin, mem_bound?_iff.2 hmax]
  simp only [hcollapse, heq, Bool.and_self, if_true]

/-- Bounds that do not collapse are compiled one by one. -/
theorem rangeFragment_of_not_collapses (h : ∀ min, ¬Collapses collapse v min) :
    rangeFragment target lower upper collapse v =
      .params (range target lower upper (bound? v "min") (bound? v "max")) := by
  unfold rangeFragment
  split
  · next min max hmin hmax =>
    rw [hmin, hmax, if_neg]
    rw [Bool.and_eq_true]
    rintro ⟨hcollapse, heq⟩
    exact h min ⟨hcollapse, mem_bound?_iff.1 hmin, max, mem_bound?_iff.1 hmax, heq⟩
  · rfl

/-- A range has a key of its own for each of its lookups. -/
theorem not_mem_keys_single (hbounds : lower ≠ upper) (min : Value) :
    Key.ofTarget target (some upper) ∉ (Params.single target (some lower) min).keys := by
  intro hmem
  exact hbounds (Key.ofTarget_injective _ (List.mem_singleton.1 hmem)).symm

/-- A range with both bounds has two entries. -/
theorem entries_range_perm (hbounds : lower ≠ upper) (min max : Value) :
    (range target lower upper (some min) (some max)).entries.Perm
      [(Key.ofTarget target (some lower), min), (Key.ofTarget target (some upper), max)] := by
  have hentries : (range target lower upper (some min) (some max)).entries =
      Entries.insert (Key.ofTarget target (some upper)) max
        [(Key.ofTarget target (some lower), min)] := rfl
  rw [hentries]
  exact (Entries.insert_perm (not_mem_keys_single hbounds min) max).trans (.swap _ _ [])

variable (metric : Metric) (proximity : Proximity) (d : Document) {path : Path}

/-- The bounds of a range say that the attribute meets those that are given. -/
theorem says_range (hne : path ≠ []) (htidy : path.Tidy) (hlower : lower.isOrder = true)
    (hupper : upper.isOrder = true) (hbounds : lower ≠ upper)
    (hlist : ∀ value ∈ d.get? path, value.isList = false) (min? max? : Option Value) :
    Evaluation.Says (Evaluation.fragment metric proximity d
        (.params (range path.toTarget lower upper min? max?)))
      ((∀ min ∈ min?, Evaluation.Meets (d.get? path) lower min) ∧
        ∀ max ∈ max?, Evaluation.Meets (d.get? path) upper max) := by
  have hempty : Key.ofTarget path.toTarget (some lower) ∉ (Dict.empty : Params).keys :=
    List.not_mem_nil
  have hmin := Evaluation.says_put_optional metric proximity d hempty
    (Evaluation.says_empty metric proximity d)
    (Evaluation.says_entry_order metric proximity d hne htidy hlower hlist) min?
  have hkey : Key.ofTarget path.toTarget (some upper) ∉
      (min?.elim Dict.empty fun min => Params.put .empty path.toTarget (some lower) min).keys := by
    cases min? with
    | none => exact List.not_mem_nil
    | some min => exact not_mem_keys_single hbounds min
  have hmax := Evaluation.says_put_optional metric proximity d hkey hmin
    (Evaluation.says_entry_order metric proximity d hne htidy hupper hlist) max?
  exact hmax.congr (by rw [true_and])

end Compile

namespace BoundFilter

variable (metric : Metric) (proximity : Proximity) (d : Document) {b : BoundFilter}
  {lower upper : Lookup} {collapse : Bool}

/-- A range filter compiles every value by its bounds; null has none. -/
theorem compile_of_range (hkind : b.filter.kind = .range lower upper collapse) (v : Value) :
    b.compile (some v) = Compile.rangeFragment b.target lower upper collapse v := by
  by_cases hnull : v = .null
  · rw [hnull]
    rfl
  · rw [b.compile_some hnull]
    simp only [compileValue, hkind]

variable (hkind : b.filter.kind = .range lower upper collapse)
  (hbounds : FilterBuilder.isRangeBounds lower upper = true) (hpath : b.path.Legible)
  (hlist : ∀ value ∈ d.get? b.path, value.isList = false)

include hkind hpath hlist

/-- Bounds that collapse ask for an equality. -/
theorem says_compile_of_collapses {v min : Value} (h : Compile.Collapses collapse v min) :
    Evaluation.Says (Evaluation.fragment metric proximity d (b.compile (some v)))
      (∃ value ∈ d.get? b.path, value.looselyEq min = true) := by
  rw [compile_of_range hkind, Compile.rangeFragment_of_collapses h, Evaluation.fragment_single]
  exact Evaluation.says_entry_equal metric proximity d b.path_ne_nil hpath.tidy hpath.unambiguous
    hlist h.2.1.2

include hbounds

/-- Bounds that do not collapse are asked for one by one. -/
theorem says_compile_of_not_collapses {v : Value} (h : ∀ min, ¬Compile.Collapses collapse v min) :
    Evaluation.Says (Evaluation.fragment metric proximity d (b.compile (some v)))
      (Evaluation.Within (d.get? b.path) lower upper v) := by
  obtain ⟨hlower, hupper, hne⟩ := FilterBuilder.isOrder_of_isRangeBounds hbounds
  rw [compile_of_range hkind, Compile.rangeFragment_of_not_collapses h]
  have hrange := Compile.says_range metric proximity d b.path_ne_nil hpath.tidy hlower hupper hne
    hlist (Compile.bound? v "min") (Compile.bound? v "max")
  simp only [Compile.mem_bound?_iff] at hrange
  exact hrange

omit hkind hbounds in
/-- Inclusive bounds are asked for one by one, whether they collapse or not. -/
theorem says_compile_of_inclusive (hkind : b.filter.kind = .range .gte .lte collapse) (v : Value) :
    Evaluation.Says (Evaluation.fragment metric proximity d (b.compile (some v)))
      (Evaluation.Within (d.get? b.path) .gte .lte v) := by
  by_cases hcollapses : ∃ min, Compile.Collapses collapse v min
  · obtain ⟨min, hmin⟩ := hcollapses
    refine (says_compile_of_collapses metric proximity d hkind hpath hlist hmin).congr ?_
    obtain ⟨-, hgives, max, hgives', heq⟩ := hmin
    rw [Evaluation.Within, hgives.forall_iff, hgives'.forall_iff,
      Evaluation.meets_and_meets_iff heq]
  · exact says_compile_of_not_collapses metric proximity d hkind rfl hpath hlist
      (not_exists.1 hcollapses)

/-- A range filter asks an attribute that is no list for each bound that a value gives, or for being
loosely equal to the lower one where bounds collapse. Between inclusive bounds every filter on the
path answers the same, whether its bounds collapse or not. -/
theorem says_compile_range (v : Value) :
    (∀ min, Compile.Collapses collapse v min →
      Evaluation.Says (Evaluation.fragment metric proximity d (b.compile (some v)))
        (∃ value ∈ d.get? b.path, value.looselyEq min = true)) ∧
    ((∀ min, ¬Compile.Collapses collapse v min) →
      Evaluation.Says (Evaluation.fragment metric proximity d (b.compile (some v)))
        (Evaluation.Within (d.get? b.path) lower upper v)) ∧
    (lower = .gte → upper = .lte → ∀ (b' : BoundFilter) (collapse' : Bool), b'.path = b.path →
      b'.filter.kind = .range .gte .lte collapse' →
        Evaluation.fragment metric proximity d (b'.compile (some v)) =
          Evaluation.fragment metric proximity d (b.compile (some v))) := by
  refine ⟨?_, ?_, ?_⟩
  · intro min hmin
    exact says_compile_of_collapses metric proximity d hkind hpath hlist hmin
  · intro hnone
    exact says_compile_of_not_collapses metric proximity d hkind hbounds hpath hlist hnone
  · rintro rfl rfl b' collapse' hpath' hkind'
    have hother := says_compile_of_inclusive metric proximity d (hpath'.symm ▸ hpath)
      (hpath'.symm ▸ hlist) hkind' v
    rw [hpath'] at hother
    exact hother.eq (says_compile_of_inclusive metric proximity d hpath hlist hkind v)

omit hkind hbounds hpath hlist in
/-- Two zeros collapse to an equality, which the integer zero satisfies as it lies between them. -/
theorem says_compile_range_zeros :
    let b : BoundFilter := ⟨"price", .range .gte .lte true, none, none, none, .integer, 0⟩
    let b' : BoundFilter := ⟨"price", .range .gte .lte false, none, none, none, .integer, 1⟩
    let d : Document := ⟨"Doc", .ofList [("price", .int 0)]⟩
    let v : Value := .map [("max", .float 0.0), ("min", .float (-0.0))]
    FilterBuilder.isRangeBounds .gte .lte = true ∧ b.path.Legible ∧
      (∀ value ∈ d.get? b.path, value.isList = false) ∧
      Compile.Collapses true v (.float (-0.0)) ∧
      Evaluation.fragment Metric.greatCircle .empty d (b.compile (some v)) = .ok true ∧
      Evaluation.fragment Metric.greatCircle .empty d (b'.compile (some v)) = .ok true := by
  intro b b' d v
  have hdotted : Path.ofDotted "price" = ["price"] :=
    Path.ofDotted_eq_singleton (by decide +kernel)
  have hpath : b.path = ["price"] := hdotted
  have hlegible : b.path.Legible := by
    rw [hpath]
    refine ⟨?_, fun _ hlength => absurd hlength (by decide)⟩
    rw [Path.Tidy]
    decide +kernel
  have hprice : d.get? b.path = some (.int 0) := by rw [hpath]; rfl
  have hlist : ∀ value ∈ d.get? b.path, value.isList = false := by
    rw [hprice]
    rintro value ⟨rfl⟩
    rfl
  have hcollapses : Compile.Collapses true v (.float (-0.0)) :=
    ⟨rfl, ⟨rfl, Value.noConfusion⟩, .float 0.0, ⟨rfl, Value.noConfusion⟩, by decide⟩
  obtain ⟨hequal, -, hsame⟩ :=
    says_compile_range Metric.greatCircle .empty d (b := b) rfl rfl hlegible hlist v
  have htrue : Evaluation.fragment Metric.greatCircle .empty d (b.compile (some v)) = .ok true :=
    (hequal _ hcollapses).eq_true_iff.2 ⟨.int 0, hprice, by decide⟩
  exact ⟨rfl, hlegible, hlist, hcollapses, htrue, (hsame rfl rfl b' false rfl rfl).trans htrue⟩

end BoundFilter

end QueryFilters
