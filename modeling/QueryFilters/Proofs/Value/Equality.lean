import QueryFilters.Proofs.Value.Comparison

/-!
# Loose equality

A store takes an integer and a float for the same when the float is the double nearest to the
integer. Loose equality is therefore passed on from value to value with one exception: two different
integers may be nearest to one double, and are then both the same as it but not as each other
(`Value.looselyEq_trans_iff`). That takes integers of at least `2 ^ 53`.

Values that are equal in the stricter sense of `==`, which leaves integers and floats apart, cannot
be told apart by comparing other values with them (`Value.compare?_congr_right`).
-/

namespace QueryFilters

/-- Doubles that compare as equal are numbers of one rank. -/
theorem Binary64.compare?_eq_eq_iff {x y : Float} :
    compare? x y = some .eq ↔ ∃ r, rank? x = some r ∧ rank? y = some r := by
  unfold compare?
  cases rank? x with
  | none => simp
  | some r =>
    cases rank? y with
    | none => simp
    | some s => simp [eq_comm (a := s)]

namespace Value

/-! ### Equal values -/

/-- Values are equal when the order puts neither before the other. -/
theorem beq_iff {a b : Value} : (a == b) = true ↔ a.order? b = some .eq :=
  beq_iff_eq (α := Option Ordering)

/-- Equal values are of one type. -/
theorem type_eq_of_beq {a b : Value} (h : (a == b) = true) : a.type = b.type := by
  have horder := beq_iff.1 h
  rw [order?_eq_followed, followed_eq_some_eq_iff] at horder
  exact eq_of_compare_rank (Option.some.inj horder.1)

/-- Equal numbers have one rank. -/
theorem numberRank?_congr {a b : Value} (h : (a == b) = true) :
    a.numberRank? = b.numberRank? := by
  have htype := type_eq_of_beq h
  have horder := beq_iff.1 h
  cases a with
  | int n =>
    cases b <;> cases htype
    rw [order?, Option.some.injEq, Std.LawfulEqCmp.compare_eq_iff_eq] at horder
    rw [horder]
  | float x =>
    cases b <;> cases htype
    rw [order?, Binary64.compare?_eq_eq_iff] at horder
    obtain ⟨r, hx, hy⟩ := horder
    exact hx.trans hy.symm
  | _ => cases b <;> first | rfl | cases htype

/-- Comparing with one of two equal values is comparing with the other. -/
theorem compare?_congr_right {b c : Value} (h : (b == c) = true) (a : Value) :
    a.compare? b = a.compare? c := by
  unfold compare?
  rw [← type_eq_of_beq h, ← numberRank?_congr h]
  split
  · exact ((chains_order? a b c).eq_right (beq_iff.1 h)).symm
  · rfl

/-! ### Loosely equal values -/

/-- Values are loosely equal when they compare as equal. -/
theorem looselyEq_iff {a b : Value} : a.looselyEq b = true ↔ a.compare? b = some .eq :=
  beq_iff_eq

theorem eq_int_of_type {a : Value} (h : a.type = .int) : ∃ n, a = int n := by
  cases a with
  | int n => exact ⟨n, rfl⟩
  | _ => cases h

/-- Integers are told apart from each other, however large they are. -/
theorem looselyEq_int_iff {n m : Int64} : looselyEq (int n) (int m) = true ↔ n = m := by
  have horder : compare? (int n) (int m) = order? (int n) (int m) := compare?_of_type_eq rfl
  rw [looselyEq_iff, horder, order?, Option.some.injEq, Std.LawfulEqCmp.compare_eq_iff_eq]

/-- Floats are loosely equal when they are numbers of one rank. -/
theorem looselyEq_float_iff {x y : Float} : looselyEq (float x) (float y) = true ↔
    ∃ r, Binary64.rank? x = some r ∧ Binary64.rank? y = some r := by
  have horder : compare? (float x) (float y) = order? (float x) (float y) :=
    compare?_of_type_eq rfl
  rw [looselyEq_iff, horder, order?, Binary64.compare?_eq_eq_iff]

/-- What is loosely equal to a number is a number of the same rank. -/
theorem ranks_of_looselyEq {a b : Value} (ha : a.type.isNumeric = true)
    (h : a.looselyEq b = true) :
    ∃ r, a.numberRank? = some r ∧ b.numberRank? = some r := by
  by_cases htype : a.type = b.type
  · cases a with
    | int n =>
      cases b <;> cases htype
      obtain rfl := looselyEq_int_iff.1 h
      exact ⟨_, rfl, rfl⟩
    | float x =>
      cases b <;> cases htype
      exact looselyEq_float_iff.1 h
    | _ => cases ha
  · obtain ⟨r, s, hr, hs, hcompare⟩ :=
      (compare?_eq_some_iff_of_type_ne htype).1 (looselyEq_iff.1 h)
    obtain rfl := Std.LawfulEqCmp.eq_of_compare hcompare
    exact ⟨r, hr, hs⟩

/-- Numbers of one rank are loosely equal unless both are integers. -/
theorem looselyEq_of_ranks {a b : Value} {r : Int} (ha : a.numberRank? = some r)
    (hb : b.numberRank? = some r) (hint : ¬(a.type = .int ∧ b.type = .int)) :
    a.looselyEq b = true := by
  by_cases htype : a.type = b.type
  · cases a with
    | int n => exact absurd ⟨rfl, htype.symm⟩ hint
    | float x =>
      cases b <;> cases htype
      exact looselyEq_float_iff.2 ⟨r, ha, hb⟩
    | _ => cases ha
  · refine looselyEq_iff.2 ((compare?_eq_some_iff_of_type_ne htype).2 ⟨r, r, ha, hb, ?_⟩)
    exact Std.ReflCmp.compare_self

/-- Values of different types are loosely equal only as numbers. -/
theorem isNumeric_of_looselyEq {a b : Value} (htype : a.type ≠ b.type)
    (h : a.looselyEq b = true) : a.type.isNumeric = true ∧ b.type.isNumeric = true := by
  obtain ⟨r, s, hr, hs, -⟩ := (compare?_eq_some_iff_of_type_ne htype).1 (looselyEq_iff.1 h)
  exact ⟨isNumeric_of_numberRank? hr, isNumeric_of_numberRank? hs⟩

/-- Loose equality is passed on within a type. -/
theorem looselyEq_trans_of_type {a b c : Value} (hab : a.looselyEq b = true)
    (hbc : b.looselyEq c = true) (htype : a.type = b.type) (htype' : b.type = c.type) :
    a.looselyEq c = true := by
  rw [looselyEq_iff, compare?_of_type_eq htype] at hab
  rw [looselyEq_iff, compare?_of_type_eq htype'] at hbc
  rw [looselyEq_iff, compare?_of_type_eq (htype.trans htype')]
  exact ((chains_order? a b c).eq_left hab).trans hbc

/-- Two different integers of one rank are at least `2 ^ 53` away from zero. -/
theorem two_pow_le_of_ranks {n m : Int64} {r : Int} (hn : (int n).numberRank? = some r)
    (hm : (int m).numberRank? = some r) (hne : n ≠ m) :
    2 ^ 53 ≤ n.toInt.natAbs ∧ 2 ^ 53 ≤ m.toInt.natAbs := by
  have hrank : Binary64.rankOfInt n.toInt = Binary64.rankOfInt m.toInt :=
    Option.some.inj (hn.trans hm.symm)
  have hint : n.toInt ≠ m.toInt := fun h => hne (Int64.toInt_inj.1 h)
  exact ⟨Binary64.two_pow_le_of_rankOfInt_eq hrank hint,
    Binary64.two_pow_le_of_rankOfInt_eq hrank.symm (Ne.symm hint)⟩

/-- Two values that are loosely equal to a third are so to each other, unless they are two different
integers and the third is a float. Such integers are at least `2 ^ 53` away from zero. -/
theorem looselyEq_trans_iff {a b c : Value} (hab : a.looselyEq b = true)
    (hbc : b.looselyEq c = true) :
    a.looselyEq c = true ↔ ¬∃ n x m, a = int n ∧ b = float x ∧ c = int m ∧ n ≠ m ∧
      2 ^ 53 ≤ n.toInt.natAbs ∧ 2 ^ 53 ≤ m.toInt.natAbs := by
  constructor
  · rintro hac ⟨n, x, m, rfl, -, rfl, hne, -⟩
    exact hne (looselyEq_int_iff.1 hac)
  · intro hexception
    by_cases hsame : a.type = b.type ∧ b.type = c.type
    · exact looselyEq_trans_of_type hab hbc hsame.1 hsame.2
    -- Where two types differ all three are numbers, and they have one rank.
    have hnumeric : a.type.isNumeric = true := by
      by_cases htype : a.type = b.type
      · exact htype ▸ (isNumeric_of_looselyEq (fun h => hsame ⟨htype, h⟩) hbc).1
      · exact (isNumeric_of_looselyEq htype hab).1
    obtain ⟨r, ha, hb⟩ := ranks_of_looselyEq hnumeric hab
    obtain ⟨s, hb', hc⟩ := ranks_of_looselyEq (isNumeric_of_numberRank? hb) hbc
    obtain rfl : r = s := Option.some.inj (hb.symm.trans hb')
    by_cases hint : a.type = .int ∧ c.type = .int
    · obtain ⟨n, rfl⟩ := eq_int_of_type hint.1
      obtain ⟨m, rfl⟩ := eq_int_of_type hint.2
      by_cases hne : n = m
      · exact looselyEq_int_iff.2 hne
      · obtain ⟨x, rfl⟩ : ∃ x, b = float x := by
          cases b with
          | int k => exact absurd ⟨rfl, rfl⟩ hsame
          | float x => exact ⟨x, rfl⟩
          | _ => cases hb
        exact absurd ⟨n, x, m, rfl, rfl, rfl, hne, two_pow_le_of_ranks ha hc hne⟩ hexception
    · exact looselyEq_of_ranks ha hc hint

/-- Zero is passed on between both zeros of the doubles by way of the integer. -/
theorem looselyEq_trans_zeros :
    let a : Value := .float (-0.0)
    let b : Value := .int 0
    let c : Value := .float 0.0
    a.looselyEq b = true ∧ b.looselyEq c = true ∧ a.looselyEq c = true := by
  intro a b c
  have hab : a.looselyEq b = true := by decide
  have hbc : b.looselyEq c = true := by decide
  have hint : ∀ n, a ≠ int n := fun n => Value.noConfusion
  refine ⟨hab, hbc, (looselyEq_trans_iff hab hbc).2 ?_⟩
  rintro ⟨n, x, m, hn, -⟩
  exact hint n hn

/-- The double `2 ^ 53` is the same as two integers that are not the same as each other. -/
theorem not_looselyEq_trans_two_pow :
    let a : Value := .int 9007199254740992
    let b : Value := .float 9007199254740992.0
    let c : Value := .int 9007199254740993
    a.looselyEq b = true ∧ b.looselyEq c = true ∧ a.looselyEq c = false := by
  decide

end Value

end QueryFilters
