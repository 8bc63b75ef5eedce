import QueryFilters.Proofs.Number.Rounding
import QueryFilters.Proofs.Value.Order

/-!
# Comparing values as a store does

A store compares an integer with a float by the double nearest to the integer. Different integers
may be nearest to one double, so that a comparison by ranks does not tell them apart, but rounding
never turns their order round (`Binary64.rankOfInt_mono`). What comes before is therefore passed on
among integers and floats in any mix (`Value.compare?_lt_trans`), and a store's comparison is a
coherent order (`Value.compare?_coherent`).
-/

namespace QueryFilters.Value

/-- Values of one type are compared by their contents. -/
theorem compare?_of_type_eq {a b : Value} (h : a.type = b.type) : a.compare? b = a.order? b :=
  if_pos h

/-- The comparison of two values is turned round with them. -/
theorem compare?_swap (a b : Value) : b.compare? a = (a.compare? b).map Ordering.swap := by
  unfold compare?
  by_cases h : a.type = b.type
  · rw [if_pos h, if_pos h.symm, order?_swap]
  · rw [if_neg h, if_neg (Ne.symm h)]
    cases a.numberRank? with
    | none => cases b.numberRank? <;> rfl
    | some x =>
      cases b.numberRank? with
      | none => rfl
      | some y => exact congrArg some Std.OrientedOrd.eq_swap

/-! ### Numbers -/

/-- Only numbers have a rank among the doubles. -/
theorem isNumeric_of_numberRank? {a : Value} {x : Int} (h : a.numberRank? = some x) :
    a.type.isNumeric = true := by
  cases a with
  | int n => rfl
  | float y => rfl
  | _ => cases h

/-- Values of different types compare as their ranks, where both are numbers. -/
theorem compare?_eq_some_iff_of_type_ne {a b : Value} (h : a.type ≠ b.type) {o : Ordering} :
    a.compare? b = some o ↔
      ∃ x y, a.numberRank? = some x ∧ b.numberRank? = some y ∧ compare x y = o := by
  unfold compare?
  rw [if_neg h]
  cases a.numberRank? with
  | none => simp
  | some x => cases b.numberRank? <;> simp

/-- Floats compare as their ranks. -/
theorem compare?_float_eq_lt_iff {x y : Float} :
    compare? (float x) (float y) = some .lt ↔
      ∃ r s, Binary64.rank? x = some r ∧ Binary64.rank? y = some s ∧ r < s := by
  have horder : compare? (float x) (float y) = order? (float x) (float y) :=
    compare?_of_type_eq rfl
  rw [horder, order?, Binary64.compare?]
  cases Binary64.rank? x with
  | none => simp
  | some r => cases Binary64.rank? y <;> simp [Int.compare_eq_lt]

/-- Integers compare as they are, not by the doubles nearest to them. -/
theorem compare?_int_eq_lt_iff {n m : Int64} :
    compare? (int n) (int m) = some .lt ↔ n.toInt < m.toInt := by
  have horder : compare? (int n) (int m) = order? (int n) (int m) := compare?_of_type_eq rfl
  rw [horder, order?, Option.some.injEq, Std.compare_eq_lt, Int64.lt_iff_toInt_lt]

/-- A number that comes before another has no greater rank, and the same only among integers. -/
theorem ranks_of_compare?_eq_lt {a b : Value} (ha : a.type.isNumeric = true)
    (h : a.compare? b = some .lt) :
    ∃ x y, a.numberRank? = some x ∧ b.numberRank? = some y ∧
      (x < y ∨ x = y ∧ a.type = .int ∧ b.type = .int) := by
  by_cases htype : a.type = b.type
  · cases a with
    | int n =>
      cases b <;> cases htype
      have hlt := compare?_int_eq_lt_iff.1 h
      have hle := Binary64.rankOfInt_mono (Int.le_of_lt hlt)
      exact ⟨_, _, rfl, rfl, (Int.lt_or_eq_of_le hle).imp id fun heq => ⟨heq, rfl, rfl⟩⟩
    | float x =>
      cases b <;> cases htype
      obtain ⟨r, s, hr, hs, hlt⟩ := compare?_float_eq_lt_iff.1 h
      exact ⟨r, s, hr, hs, .inl hlt⟩
    | _ => cases ha
  · obtain ⟨x, y, hx, hy, hlt⟩ := (compare?_eq_some_iff_of_type_ne htype).1 h
    exact ⟨x, y, hx, hy, .inl (Int.compare_eq_lt.1 hlt)⟩

/-- A number of smaller rank comes before one of greater rank. -/
theorem compare?_eq_lt_of_ranks {a b : Value} {x y : Int} (hx : a.numberRank? = some x)
    (hy : b.numberRank? = some y) (h : x < y) : a.compare? b = some .lt := by
  by_cases htype : a.type = b.type
  · cases a with
    | int n =>
      cases b <;> cases htype
      next m =>
      obtain rfl := Option.some.inj hx
      obtain rfl := Option.some.inj hy
      refine compare?_int_eq_lt_iff.2 (Int.not_le.1 fun hle => ?_)
      exact Int.not_le.2 h (Binary64.rankOfInt_mono hle)
    | float r =>
      cases b <;> cases htype
      exact compare?_float_eq_lt_iff.2 ⟨x, y, hx, hy, h⟩
    | _ => cases hx
  · exact (compare?_eq_some_iff_of_type_ne htype).2 ⟨x, y, hx, hy, Int.compare_eq_lt.2 h⟩

/-! ### Passing on -/

/-- What comes before a value that comes before another comes before the other. -/
theorem compare?_lt_trans {a b c : Value} (hab : a.compare? b = some .lt)
    (hbc : b.compare? c = some .lt) : a.compare? c = some .lt := by
  by_cases hsame : a.type = b.type ∧ b.type = c.type
  · obtain ⟨htype, htype'⟩ := hsame
    rw [compare?_of_type_eq htype] at hab
    rw [compare?_of_type_eq htype'] at hbc
    rw [compare?_of_type_eq (htype.trans htype')]
    exact (chains_order? a b c).lt_trans hab hbc
  · -- Where two types differ all three are numbers, and one of the two steps ascends in rank.
    have hnumeric : a.type.isNumeric = true := by
      by_cases htype : a.type = b.type
      · have htype' : b.type ≠ c.type := fun heq => hsame ⟨htype, heq⟩
        obtain ⟨x, -, hx, -⟩ := (compare?_eq_some_iff_of_type_ne htype').1 hbc
        exact htype ▸ isNumeric_of_numberRank? hx
      · obtain ⟨x, -, hx, -⟩ := (compare?_eq_some_iff_of_type_ne htype).1 hab
        exact isNumeric_of_numberRank? hx
    obtain ⟨x, y, hx, hy, hxy⟩ := ranks_of_compare?_eq_lt hnumeric hab
    obtain ⟨y', z, hy', hz, hyz⟩ :=
      ranks_of_compare?_eq_lt (isNumeric_of_numberRank? hy) hbc
    obtain rfl : y = y' := Option.some.inj (hy.symm.trans hy')
    refine compare?_eq_lt_of_ranks hx hz ?_
    rcases hxy with hxy | ⟨rfl, ha, hb⟩
    · rcases hyz with hyz | ⟨rfl, -, -⟩
      · exact Int.lt_trans hxy hyz
      · exact hxy
    · rcases hyz with hyz | ⟨rfl, hb', hc⟩
      · exact hyz
      · exact absurd ⟨ha.trans hb.symm, hb'.trans hc.symm⟩ hsame

/-- The comparison of values is a coherent order: it is turned round with the values, and values
that do not compare do not do so either way; a value equals itself exactly if it holds no double
that is not a number; and what comes before a value that comes before another comes before the
other, integers and floats in any mix. -/
theorem compare?_coherent (a b c : Value) :
    b.compare? a = (a.compare? b).map Ordering.swap ∧
      (b.compare? a = none ↔ a.compare? b = none) ∧
      (a.compare? a = some .eq ↔ a.IsNumeric) ∧
      (a.compare? b = some .lt → b.compare? c = some .lt → a.compare? c = some .lt) := by
  refine ⟨compare?_swap a b, ?_, ?_, compare?_lt_trans⟩
  · rw [compare?_swap a b, Option.map_eq_none_iff]
  · rw [compare?_of_type_eq rfl, order?_self_iff]

/-- Two integers that one double is nearest to still come one after the other, and a float before
the first comes before the second. -/
theorem compare?_coherent_near_two_pow :
    let a : Value := .float 9007199254740990.0
    let b : Value := .int 9007199254740992
    let c : Value := .int 9007199254740993
    a.compare? b = some .lt ∧ b.compare? c = some .lt ∧ a.compare? c = some .lt ∧
      b.numberRank? = c.numberRank? := by
  intro a b c
  have hab : a.compare? b = some .lt := by decide
  have hbc : b.compare? c = some .lt := by decide
  exact ⟨hab, hbc, (compare?_coherent a b c).2.2.2 hab hbc, by decide⟩

end QueryFilters.Value
