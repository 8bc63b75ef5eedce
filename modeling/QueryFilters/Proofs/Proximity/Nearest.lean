import QueryFilters.Proofs.Value.Order
import QueryFilters.Proximity

/-!
# Nearest first

Apart from distances that are no numbers, the distances and the missing distance lie on a line
(`Proximity.place`), and comparing distances is a total order. A distance that is no number is taken
for equal to every known one, which spoils the order as soon as two of these differ
(`Proximity.totalOn_order_iff`). So the documents can be put in order by every sort, unless their
distances are disordered in this way, and then a sort may give up
(`Proximity.exists_sort_eq_none_iff`).
-/

namespace QueryFilters.Proximity

/-! ### The line of distances -/

/-- No double lies beyond the infinity. -/
theorem rank_le_infinityRank {x : Float} {rank : Int} (h : Binary64.rank? x = some rank) :
    rank ≤ Binary64.infinityRank := by
  unfold Binary64.rank? at h
  dsimp only at h
  split at h
  · next hmagnitude =>
    obtain rfl := Option.some.inj h
    split <;> omega
  · cases h

/-- The place of a distance among all distances. A missing distance comes after the infinity. -/
def place (distance : Option Float) : Int :=
  match distance.bind Binary64.rank? with
  | some rank => rank
  | none => Binary64.infinityRank + 1

/-- The distance is missing or a number. -/
def Numeric (distance : Option Float) : Prop :=
  ∀ x, distance = some x → ∃ rank, Binary64.rank? x = some rank

/-- The place of a number is its rank. -/
theorem place_some {x : Float} {rank : Int} (h : Binary64.rank? x = some rank) :
    place (some x) = rank := by
  unfold place
  rw [Option.bind_some, h]

/-- A number comes before the missing distance. -/
theorem place_some_lt_place_none {x : Float} (h : Numeric (some x)) :
    place (some x) < place none := by
  obtain ⟨rank, hrank⟩ := h x rfl
  have hle : rank ≤ Binary64.infinityRank := rank_le_infinityRank hrank
  have hnone : place none = Binary64.infinityRank + 1 := rfl
  rw [place_some hrank, hnone]
  omega

/-- Two numbers compare as their places do. -/
theorem compare?_eq_compare_place {x y : Float} (hx : Numeric (some x)) (hy : Numeric (some y)) :
    Binary64.compare? x y = some (compare (place (some x)) (place (some y))) := by
  obtain ⟨rank, hrank⟩ := hx x rfl
  obtain ⟨rank', hrank'⟩ := hy y rfl
  rw [place_some hrank, place_some hrank', Binary64.compare?, hrank, hrank']

/-- Numbers and missing distances compare as their places do. -/
theorem order_eq_compare_place {a b : Option Float} (ha : Numeric a) (hb : Numeric b) :
    order a b = compare (place a) (place b) := by
  cases a with
  | none =>
    cases b with
    | none => exact (Int.compare_eq_eq.2 rfl).symm
    | some y => exact (Int.compare_eq_gt.2 (place_some_lt_place_none hb)).symm
  | some x =>
    cases b with
    | none => exact (Int.compare_eq_lt.2 (place_some_lt_place_none ha)).symm
    | some y => rw [order, compare?_eq_compare_place ha hb, Option.getD_some]

/-! ### Distances that can be put in order -/

variable {α : Type u} {distance? : α → Option Float} {items : List α}

/-- Items that compare as places on a line are in total order. -/
theorem totalOn_of_compare {compares : α → α → Ordering} (place : α → Int)
    (h : ∀ x ∈ items, ∀ y ∈ items, compares x y = compare (place x) (place y)) :
    TotalOn compares items where
  swap x hx y hy := by
    rw [h x hx y hy, h y hy x hx]
    exact Std.OrientedOrd.eq_swap
  isLE_trans x hx y hy z hz := by
    rw [h x hx y hy, h y hy z hz, h x hx z hz]
    exact Std.TransCmp.isLE_trans

/-- One distance is no number, and two others are different numbers. -/
def Disordered (distance? : α → Option Float) (items : List α) : Prop :=
  ∃ x ∈ items, ∃ y ∈ items, ∃ z ∈ items, ∃ a b c, distance? x = some a ∧ distance? y = some b ∧
    distance? z = some c ∧ Binary64.compare? a b = some .lt ∧ Binary64.rank? c = none

/-- At one distance nothing is disordered. -/
theorem not_disordered_of_eq (distance? : α → Option Float) {d : α} (h : ∀ x ∈ items, x = d) :
    ¬Disordered distance? items := by
  rintro ⟨x, hx, y, hy, -, -, a, b, -, ha, hb, -, hlt, -⟩
  rw [h x hx] at ha
  rw [h y hy, ha] at hb
  obtain rfl : a = b := Option.some.inj hb
  rw [Binary64.compare?] at hlt
  cases hrank : Binary64.rank? a with
  | none => simp [hrank] at hlt
  | some rank => simp [hrank] at hlt

/-- What is no number is taken for equal to any number. -/
theorem order_of_rank?_eq_none {c : Float} (h : Binary64.rank? c = none) (a : Float) :
    order (some a) (some c) = .eq ∧ order (some c) (some a) = .eq := by
  constructor
  · rw [order, Binary64.compare?, h]
    cases Binary64.rank? a <;> rfl
  · rw [order, Binary64.compare?, h]
    rfl

/-- Distances of which neither is less are taken for equal. -/
theorem order_eq_eq_of_not_lt {a b : Float} (hlt : Binary64.compare? a b ≠ some .lt)
    (hgt : Binary64.compare? b a ≠ some .lt) : order (some a) (some b) = .eq := by
  rw [Binary64.compare?_swap] at hgt
  rw [order]
  cases hcompare : Binary64.compare? a b with
  | none => rfl
  | some o =>
    cases o with
    | lt => exact absurd hcompare hlt
    | eq => rfl
    | gt => exact absurd (by rw [hcompare]; rfl) hgt

/-- Comparing distances is a total order unless they are disordered. -/
theorem totalOn_order_iff :
    TotalOn (fun x y => order (distance? x) (distance? y)) items ↔
      ¬Disordered distance? items := by
  constructor
  · rintro htotal ⟨x, hx, y, hy, z, hz, a, b, c, ha, hb, hc, hlt, hnone⟩
    -- By way of what is no number, the larger one would come before the smaller one.
    have hle := htotal.isLE_trans y hy z hz x hx
    have hswap := htotal.swap x hx y hy
    have hbefore : order (some a) (some b) = .lt := by
      rw [order, hlt]
      rfl
    rw [ha, hb, hc, (order_of_rank?_eq_none hnone b).1, (order_of_rank?_eq_none hnone a).2] at hle
    rw [ha, hb, hbefore] at hswap
    rw [hswap] at hle
    exact absurd (hle rfl rfl) (by decide)
  · intro h
    by_cases hnan : ∃ z ∈ items, ∃ c, distance? z = some c ∧ Binary64.rank? c = none
    · -- Then no known distance differs from another one, so that only the missing ones stand apart.
      obtain ⟨z, hz, c, hc, hnone⟩ := hnan
      have hnotLess : ∀ x ∈ items, ∀ y ∈ items, ∀ a b, distance? x = some a →
          distance? y = some b → Binary64.compare? a b ≠ some .lt :=
        fun x hx y hy a b ha hb hlt => h ⟨x, hx, y, hy, z, hz, a, b, c, ha, hb, hc, hlt, hnone⟩
      refine totalOn_of_compare (fun x => if (distance? x).isSome then 0 else 1)
        fun x hx y hy => ?_
      cases ha : distance? x with
      | none => cases distance? y <;> rfl
      | some a =>
        cases hb : distance? y with
        | none => rfl
        | some b =>
          rw [order_eq_eq_of_not_lt (hnotLess x hx y hy a b ha hb) (hnotLess y hy x hx b a hb ha)]
          rfl
    · have hnumeric : ∀ x ∈ items, Numeric (distance? x) := by
        intro x hx a ha
        rw [← Option.isSome_iff_exists, ← Option.ne_none_iff_isSome]
        exact fun hnone => hnan ⟨x, hx, a, ha, hnone⟩
      exact totalOn_of_compare (fun x => place (distance? x)) fun x hx y hy =>
        order_eq_compare_place (hnumeric x hx) (hnumeric y hy)

/-! ### Sorting documents -/

variable {sorting : Sorting} {metric : Metric} {p : Proximity} {documents sorted : List Document}

/-- Comparing documents by their distances is a total order unless these are disordered. -/
theorem totalOn_byDistance_iff :
    TotalOn (p.byDistance metric) documents ↔ ¬Disordered (p.distance? metric) documents :=
  totalOn_order_iff

/-- Sorting documents neither loses one nor brings in another. -/
theorem sort_perm (h : p.sort sorting metric documents = some sorted) : sorted.Perm documents := by
  unfold sort at h
  split at h
  · exact Option.some.inj h ▸ .refl _
  · exact sorting.perm h

/-- Documents whose distances are not disordered are sorted. -/
theorem exists_sort_eq_some (sorting : Sorting) (h : ¬Disordered (p.distance? metric) documents) :
    ∃ sorted, p.sort sorting metric documents = some sorted := by
  unfold sort
  split
  · exact ⟨_, rfl⟩
  · exact ⟨_, sorting.sort_of_total (totalOn_byDistance_iff.2 h)⟩

end QueryFilters.Proximity
