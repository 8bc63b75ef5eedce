import Mathlib.Data.Finset.Dedup
import Mathlib.Data.Finset.Order
import QueryFilters.Proofs.Filter.Range

/-!
# Overlapping intervals

A filter of intersections compares the lower bound of a stored interval with the upper bound of the
given one and the other way round, and leaves out what is missing. Two intervals of integers whose
bounds are in order overlap exactly if each begins before the other ends
(`Interval.exists_mem_inter_iff`), so the filter says that some integer lies in both
(`BoundFilter.says_compile_intersection`).
-/

namespace QueryFilters

/-! ### Intervals -/

/-- The integers from one bound to another, both included. A bound that is missing does not count.
-/
structure Interval where
  low : Option Int64
  high : Option Int64

namespace Interval

instance : Membership Int Interval where
  mem i x := (∀ low ∈ i.low, low.toInt ≤ x) ∧ ∀ high ∈ i.high, x ≤ high.toInt

/-- If both bounds are there, the lower one is not above the upper one. -/
def IsOrdered (i : Interval) : Prop :=
  ∀ low ∈ i.low, ∀ high ∈ i.high, low.toInt ≤ high.toInt

/-- One interval begins before the other ends. -/
def BeginsBefore (i j : Interval) : Prop :=
  ∀ low ∈ i.low, ∀ high ∈ j.high, low.toInt ≤ high.toInt

/-- An integer lies between finitely many lower and upper bounds if every lower bound is at most
every upper one. -/
theorem exists_between_iff (lows highs : List Int) :
    (∃ x, (∀ low ∈ lows, low ≤ x) ∧ ∀ high ∈ highs, x ≤ high) ↔
      ∀ low ∈ lows, ∀ high ∈ highs, low ≤ high := by
  constructor
  · rintro ⟨x, hlow, hhigh⟩ low hmem high hmem'
    exact (hlow low hmem).trans (hhigh high hmem')
  · intro hle
    -- By induction on the upper bounds: each of them lowers an integer above all lower bounds.
    induction highs with
    | nil =>
      obtain ⟨x, hx⟩ := lows.toFinset.exists_le
      exact ⟨x, fun low hmem => hx low (List.mem_toFinset.2 hmem), List.forall_mem_nil _⟩
    | cons high highs ih =>
      obtain ⟨x, hlow, hhigh⟩ :=
        ih fun low hmem high' hmem' => hle low hmem high' (List.mem_cons_of_mem high hmem')
      refine ⟨min high x, fun low hmem => ?_, List.forall_mem_cons.2 ⟨min_le_left _ _, ?_⟩⟩
      · exact le_min (hle low hmem high List.mem_cons_self) (hlow low hmem)
      · intro high' hmem'
        exact (min_le_right _ _).trans (hhigh high' hmem')

/-- Two intervals have an integer in common exactly if each begins before the other ends. -/
theorem exists_mem_inter_iff {i j : Interval} (hi : i.IsOrdered) (hj : j.IsOrdered) :
    (∃ x : Int, x ∈ i ∧ x ∈ j) ↔ i.BeginsBefore j ∧ j.BeginsBefore i := by
  constructor
  · rintro ⟨x, ⟨hlow, hhigh⟩, hlow', hhigh'⟩
    exact ⟨fun low hmem high hmem' => (hlow low hmem).trans (hhigh' high hmem'),
      fun low hmem high hmem' => (hlow' low hmem).trans (hhigh high hmem')⟩
  · rintro ⟨hbefore, hbefore'⟩
    obtain ⟨x, hlow, hhigh⟩ := (exists_between_iff
      ((i.low.toList ++ j.low.toList).map Int64.toInt)
      ((i.high.toList ++ j.high.toList).map Int64.toInt)).2 (by
        simp only [List.forall_mem_map, List.forall_mem_append, Option.mem_toList]
        exact ⟨fun low hmem => ⟨hi low hmem, hbefore low hmem⟩,
          fun low hmem => ⟨hbefore' low hmem, hj low hmem⟩⟩)
    simp only [List.forall_mem_map, List.forall_mem_append, Option.mem_toList] at hlow hhigh
    exact ⟨x, ⟨hlow.1, hhigh.1⟩, hlow.2, hhigh.2⟩

end Interval

namespace Evaluation

/-- Integers compare as they are. -/
theorem meets_int_iff {n m : Int64} {l : Lookup} :
    Meets (some (.int n)) l (.int m) ↔ l.Admits (compare n m) := by
  have horder : Value.compare? (.int n) (.int m) = some (compare n m) :=
    Value.compare?_of_type_eq rfl
  simp [Meets, horder]

/-- A missing integer is at most every other. -/
theorem missing_or_meets_lte_iff {n? : Option Int64} {m : Int64} :
    n?.map Value.int = none ∨ Meets (n?.map Value.int) .lte (.int m) ↔
      ∀ n ∈ n?, n.toInt ≤ m.toInt := by
  cases n? with
  | none => simp
  | some n => simp [meets_int_iff, Lookup.Admits, Std.isLE_compare, Int64.le_iff_toInt_le]

/-- A missing integer is at least every other. -/
theorem missing_or_meets_gte_iff {n? : Option Int64} {m : Int64} :
    n?.map Value.int = none ∨ Meets (n?.map Value.int) .gte (.int m) ↔
      ∀ n ∈ n?, m.toInt ≤ n.toInt := by
  cases n? with
  | none => simp
  | some n => simp [meets_int_iff, Lookup.Admits, Std.isGE_compare, Int64.le_iff_toInt_le]

end Evaluation

namespace Compile

/-- The bound that counts, told by what the value gives. -/
theorem bound?_eq_iff {v : Value} {name : String} {given? : Option Value} :
    bound? v name = given? ↔ ∀ bound, v.Gives name bound ↔ bound ∈ given? := by
  simp only [← mem_bound?_iff]
  constructor
  · rintro rfl bound
    exact Iff.rfl
  · intro h
    exact Option.ext fun bound => h bound

variable (metric : Metric) (proximity : Proximity) (d : Document)

/-- A bound that may be missing. -/
theorem says_missingOr {path : Path} (hne : path ≠ []) (htidy : path.Tidy) {l : Lookup}
    (hl : l.isOrder = true) (hlist : ∀ value ∈ d.get? path, value.isList = false) (bound : Value) :
    Evaluation.Says (Evaluation.condition metric proximity d (missingOr path.toTarget l bound))
      (d.get? path = none ∨ Evaluation.Meets (d.get? path) l bound) := by
  have hmissing := Evaluation.says_entry_missing metric proximity d hne htidy
  have hmeets := Evaluation.says_entry_order metric proximity d hne htidy hl hlist bound
  rw [← Evaluation.fragment_single] at hmissing hmeets
  exact Evaluation.says_any_pair metric proximity d hmissing hmeets

/-- An intersection is the conjunction of its conditions, of which there may be none. -/
theorem fragment_intersection (low high : String) (v : Value) :
    Evaluation.fragment metric proximity d (intersection low high v) =
      Evaluation.all metric proximity d (((bound? v "max").map (missingOr low .lte)).toList ++
        (((bound? v "min").map (missingOr high .gte)).toList ++ [])) := by
  rw [List.append_nil]
  unfold intersection
  dsimp only
  split
  · next hempty =>
    rw [List.isEmpty_iff.1 hempty]
    rfl
  · rfl

end Compile

namespace BoundFilter

variable {b : BoundFilter} {low high : String}
  (hkind : b.filter.kind = .rangeIntersection low high)

include hkind

/-- A filter of intersections compiles every value by its bounds; null has none. -/
theorem compile_of_rangeIntersection (v : Value) : b.compile (some v) =
    Compile.intersection (Path.ofDotted low).toTarget (Path.ofDotted high).toTarget v := by
  by_cases hnull : v = .null
  · rw [hnull]
    rfl
  · rw [b.compile_some hnull]
    simp only [compileValue, hkind]

/-- A filter of intersections asks about both attributes: each of them may be missing, or it meets
the bound that the value gives for the other end. -/
theorem says_compile_of_rangeIntersection (metric : Metric) (proximity : Proximity) (d : Document)
    (hlow : (Path.ofDotted low).Tidy) (hhigh : (Path.ofDotted high).Tidy)
    (hlist : ∀ value ∈ d.get? (.ofDotted low), value.isList = false)
    (hlist' : ∀ value ∈ d.get? (.ofDotted high), value.isList = false) (v : Value) :
    Evaluation.Says (Evaluation.fragment metric proximity d (b.compile (some v)))
      ((∀ max ∈ Compile.bound? v "max", d.get? (.ofDotted low) = none ∨
          Evaluation.Meets (d.get? (.ofDotted low)) .lte max) ∧
        ∀ min ∈ Compile.bound? v "min", d.get? (.ofDotted high) = none ∨
          Evaluation.Meets (d.get? (.ofDotted high)) .gte min) := by
  rw [compile_of_rangeIntersection hkind, Compile.fragment_intersection]
  have habove := Evaluation.says_all_optional metric proximity d
    (Compile.says_missingOr metric proximity d (Path.ofDotted_ne_nil high) hhigh (l := .gte) rfl
      hlist')
    (Compile.bound? v "min") (Evaluation.says_all_nil metric proximity d)
  have hbelow := Evaluation.says_all_optional metric proximity d
    (Compile.says_missingOr metric proximity d (Path.ofDotted_ne_nil low) hlow (l := .lte) rfl
      hlist)
    (Compile.bound? v "max") habove
  exact hbelow.congr (by rw [and_true])

/-- Where both attributes are integers or missing, a filter of intersections gives a verdict for
every value whose bounds are integers or missing: that some integer lies in the interval of the
value and in that of the attributes. A value without bounds requires nothing. -/
theorem says_compile_intersection (metric : Metric) (proximity : Proximity) (d : Document)
    (hlow : (Path.ofDotted low).Tidy) (hhigh : (Path.ofDotted high).Tidy) {asked stored : Interval}
    (hasked : asked.IsOrdered) (hstored : stored.IsOrdered) {v : Value}
    (hmin : ∀ bound, v.Gives "min" bound ↔ bound ∈ asked.low.map Value.int)
    (hmax : ∀ bound, v.Gives "max" bound ↔ bound ∈ asked.high.map Value.int)
    (hstart : d.get? (.ofDotted low) = stored.low.map Value.int)
    (hend : d.get? (.ofDotted high) = stored.high.map Value.int) :
    Evaluation.Says (Evaluation.fragment metric proximity d (b.compile (some v)))
        (∃ x : Int, x ∈ asked ∧ x ∈ stored) ∧
      (asked.low = none → asked.high = none → b.compile (some v) = .empty) := by
  rw [← Compile.bound?_eq_iff] at hmin hmax
  have hint : ∀ (n? : Option Int64), ∀ value ∈ n?.map Value.int, value.isList = false := by
    intro n? value hvalue
    obtain ⟨n, -, rfl⟩ := Option.mem_map.1 hvalue
    rfl
  constructor
  · have hverdict := says_compile_of_rangeIntersection hkind metric proximity d hlow hhigh
      (hstart ▸ hint stored.low) (hend ▸ hint stored.high) v
    rw [hmin, hmax, hstart, hend] at hverdict
    refine hverdict.congr ?_
    rw [Interval.exists_mem_inter_iff hasked hstored]
    simp only [Option.forall_mem_map, Evaluation.missing_or_meets_lte_iff,
      Evaluation.missing_or_meets_gte_iff]
    exact ⟨fun h => ⟨h.2, fun low hmem high hmem' => h.1 high hmem' low hmem⟩,
      fun h => ⟨fun high hmem low hmem' => h.2 low hmem' high hmem, h.1⟩⟩
  · intro hnone hnone'
    rw [compile_of_rangeIntersection hkind, Compile.intersection, hmin, hmax, hnone, hnone']
    rfl

omit hkind in
/-- A stored interval without an end overlaps one that ends where it begins. -/
theorem says_compile_intersection_at_the_end :
    let b : BoundFilter :=
      ⟨"hours", .rangeIntersection "opens" "closes", none, none, none, .integer, 0⟩
    let d : Document := ⟨"Doc", .ofList [("opens", .int 7)]⟩
    let v : Value := .map [("max", .int 7), ("min", .int 3)]
    let asked : Interval := ⟨some 3, some 7⟩
    let stored : Interval := ⟨some 7, none⟩
    (Path.ofDotted "opens").Tidy ∧ (Path.ofDotted "closes").Tidy ∧ asked.IsOrdered ∧
      stored.IsOrdered ∧ (∀ bound, v.Gives "min" bound ↔ bound ∈ asked.low.map Value.int) ∧
      (∀ bound, v.Gives "max" bound ↔ bound ∈ asked.high.map Value.int) ∧
      d.get? (.ofDotted "opens") = stored.low.map Value.int ∧
      d.get? (.ofDotted "closes") = stored.high.map Value.int ∧
      Evaluation.fragment Metric.greatCircle .empty d (b.compile (some v)) = .ok true ∧
      b.compile (some (.map [])) = .empty := by
  intro b d v asked stored
  have hopens : Path.ofDotted "opens" = ["opens"] := Path.ofDotted_eq_singleton (by decide +kernel)
  have hcloses : Path.ofDotted "closes" = ["closes"] :=
    Path.ofDotted_eq_singleton (by decide +kernel)
  have htidy : (Path.ofDotted "opens").Tidy ∧ (Path.ofDotted "closes").Tidy := by
    rw [hopens, hcloses, Path.Tidy, Path.Tidy]
    decide +kernel
  have hasked : asked.IsOrdered := by
    rintro low ⟨rfl⟩ high ⟨rfl⟩
    decide
  have hstored : stored.IsOrdered := fun low _ high hhigh => by cases hhigh
  have hmin := Compile.bound?_eq_iff.1 (rfl : Compile.bound? v "min" = asked.low.map Value.int)
  have hmax := Compile.bound?_eq_iff.1 (rfl : Compile.bound? v "max" = asked.high.map Value.int)
  have hstart : d.get? (.ofDotted "opens") = stored.low.map Value.int := by rw [hopens]; rfl
  have hend : d.get? (.ofDotted "closes") = stored.high.map Value.int := by rw [hcloses]; rfl
  have hverdict :=
    says_compile_intersection (b := b) rfl Metric.greatCircle .empty d htidy.1 htidy.2
    hasked hstored hmin hmax hstart hend
  refine ⟨htidy.1, htidy.2, hasked, hstored, hmin, hmax, hstart, hend, ?_, rfl⟩
  refine hverdict.1.eq_true_iff.2 ⟨7, ⟨?_, ?_⟩, ?_, ?_⟩
  · rintro low ⟨rfl⟩
    decide
  · rintro high ⟨rfl⟩
    decide
  · rintro low ⟨rfl⟩
    decide
  · intro high hhigh
    cases hhigh

end BoundFilter

end QueryFilters
