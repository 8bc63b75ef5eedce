import QueryFilters.Registry

/-!
# The order of construction

Declarations are taken in the order in which their filters were built. Filters that are copies of
one another were built at once, and their declarations stay in the order in which they are listed
(`Registry.InConstructionOrder`). There is one such order of any declarations, and a registry takes
them in it (`Registry.inConstructionOrder_iff`).
-/

namespace QueryFilters

namespace Registry

/-- The declarations in the order in which their filters were built. Those of filters built at once
stay as they are listed, so that none is lost and none is added. -/
structure InConstructionOrder (declared sorted : List (String × Filter)) : Prop where
  ascending : sorted.Pairwise fun a b => a.2.serial ≤ b.2.serial
  stable : ∀ serial, sorted.filter (·.2.serial == serial) = declared.filter (·.2.serial == serial)

section Ranks

variable {α : Type u} {rank : α → UInt64} {xs ys : List α}

/-- Lists with the same elements of each rank have the same elements. -/
theorem mem_iff_of_same_ranks (h : ∀ r, xs.filter (rank · == r) = ys.filter (rank · == r)) (z : α) :
    z ∈ xs ↔ z ∈ ys := by
  have hz : z ∈ xs.filter (rank · == rank z) ↔ z ∈ ys.filter (rank · == rank z) := by rw [h]
  simpa using hz

/-- The first of a list in ascending order has the least rank. -/
theorem rank_le_of_mem {x z : α} (hxs : (x :: xs).Pairwise fun a b => rank a ≤ rank b)
    (hz : z ∈ x :: xs) : rank x ≤ rank z := by
  rcases List.mem_cons.1 hz with rfl | hz
  · exact UInt64.le_refl _
  · exact (List.pairwise_cons.1 hxs).1 z hz

/-- Lists in ascending order are the same if they have the same elements of each rank in the same
order. -/
theorem eq_of_same_ranks (hxs : xs.Pairwise fun a b => rank a ≤ rank b)
    (hys : ys.Pairwise fun a b => rank a ≤ rank b)
    (h : ∀ r, xs.filter (rank · == r) = ys.filter (rank · == r)) : xs = ys := by
  induction xs generalizing ys with
  | nil =>
    refine (List.eq_nil_iff_forall_not_mem.2 fun z hz => ?_).symm
    cases (mem_iff_of_same_ranks h z).2 hz
  | cons x xs ih =>
    cases ys with
    | nil => cases (mem_iff_of_same_ranks h x).1 List.mem_cons_self
    | cons y ys =>
      have hle : rank x ≤ rank y :=
        rank_le_of_mem hxs ((mem_iff_of_same_ranks h y).2 List.mem_cons_self)
      have hge : rank y ≤ rank x :=
        rank_le_of_mem hys ((mem_iff_of_same_ranks h x).1 List.mem_cons_self)
      have hrank : rank y = rank x := UInt64.le_antisymm hge hle
      have hfirst := h (rank x)
      rw [List.filter_cons_of_pos (by simp), List.filter_cons_of_pos (by simp [hrank])] at hfirst
      obtain ⟨rfl, hrest⟩ := List.cons.inj hfirst
      have hranks : ∀ r, xs.filter (rank · == r) = ys.filter (rank · == r) := by
        intro r
        by_cases hr : rank x = r
        · rw [← hr]
          exact hrest
        · have hall := h r
          rwa [List.filter_cons_of_neg (by simpa using hr),
            List.filter_cons_of_neg (by simpa using hr)] at hall
      rw [ih (List.pairwise_cons.1 hxs).2 (List.pairwise_cons.1 hys).2 hranks]

end Ranks

/-- Whether the filter of one declaration was built no later than that of another. -/
def builtNoLater (a b : String × Filter) : Bool :=
  a.2.serial ≤ b.2.serial

theorem builtNoLater_iff {a b : String × Filter} :
    builtNoLater a b = true ↔ a.2.serial ≤ b.2.serial :=
  decide_eq_true_iff

theorem builtNoLater_trans (a b c : String × Filter) (hab : builtNoLater a b = true)
    (hbc : builtNoLater b c = true) : builtNoLater a c = true :=
  builtNoLater_iff.2 (UInt64.le_trans (builtNoLater_iff.1 hab) (builtNoLater_iff.1 hbc))

theorem builtNoLater_total (a b : String × Filter) :
    (builtNoLater a b || builtNoLater b a) = true := by
  rw [Bool.or_eq_true, builtNoLater_iff, builtNoLater_iff]
  exact UInt64.le_total a.2.serial b.2.serial

/-- A registry takes declarations in the order of construction. -/
theorem inConstructionOrder_byConstruction (declared : List (String × Filter)) :
    InConstructionOrder declared (byConstruction declared) where
  ascending :=
    (List.pairwise_mergeSort builtNoLater_trans builtNoLater_total declared).imp builtNoLater_iff.1
  stable serial := by
    -- Declarations of one serial ascend as they are listed, so sorting keeps them as they are.
    have hascending : (declared.filter (·.2.serial == serial)).Pairwise
        fun a b => builtNoLater a b = true := by
      refine List.pairwise_of_forall_mem_list fun a ha b hb => builtNoLater_iff.2 ?_
      have ha' : a.2.serial = serial := by simpa using (List.mem_filter.1 ha).2
      have hb' : b.2.serial = serial := by simpa using (List.mem_filter.1 hb).2
      exact UInt64.le_of_eq (ha'.trans hb'.symm)
    have hkept := (List.sublist_mergeSort builtNoLater_trans builtNoLater_total hascending
      List.filter_sublist).filter (·.2.serial == serial)
    rw [List.filter_filter] at hkept
    simp only [Bool.and_self] at hkept
    have hlength := ((List.mergeSort_perm declared builtNoLater).filter
      (·.2.serial == serial)).length_eq
    exact (hkept.eq_of_length hlength.symm).symm

/-- The declarations in the order of construction are those that a registry takes. -/
theorem inConstructionOrder_iff {declared sorted : List (String × Filter)} :
    InConstructionOrder declared sorted ↔ sorted = byConstruction declared := by
  have hown := inConstructionOrder_byConstruction declared
  constructor
  · intro h
    refine eq_of_same_ranks h.ascending hown.ascending fun serial => ?_
    rw [h.stable, hown.stable]
  · rintro rfl
    exact hown

end Registry

end QueryFilters
