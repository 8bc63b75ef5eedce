import Mathlib.Algebra.Order.Ring.Nat
import QueryFilters.Number.Binary64

/-!
# Rounding integers to doubles

The double nearest to an integer keeps the order of integers: a greater integer does not have a
smaller rank (`Binary64.rankOfInt_mono`). Between two powers of two the significands ascend, and the
significand that is rounded up to the next power of two has the rank of that power.

Integers of at most 53 bits are doubles themselves, so two integers that one double is nearest to
are both at least `2 ^ 53` away from zero (`Binary64.two_pow_le_of_rankOfInt_eq`).
-/

namespace QueryFilters.Binary64

/-- What is rounded lies at most one below the result. -/
theorem div_le_nearestEven (num den : Nat) : num / den ≤ nearestEven num den := by
  unfold nearestEven
  dsimp only
  split <;> omega

theorem nearestEven_le_div_add_one (num den : Nat) : nearestEven num den ≤ num / den + 1 := by
  unfold nearestEven
  dsimp only
  split <;> omega

/-- Rounding quotients by one divisor keeps their order. -/
theorem nearestEven_mono {num num' : Nat} (den : Nat) (h : num ≤ num') :
    nearestEven num den ≤ nearestEven num' den := by
  have hdiv : num / den ≤ num' / den := Nat.div_le_div_right h
  rcases Nat.lt_or_eq_of_le hdiv with hlt | heq
  · have hle := nearestEven_le_div_add_one num den
    have hge := div_le_nearestEven num' den
    omega
  · have hnum := Nat.div_add_mod num den
    have hnum' := Nat.div_add_mod num' den
    rw [heq] at hnum
    unfold nearestEven
    dsimp only
    rw [heq]
    split <;> split <;> omega

/-- The significand of a number is at least the smallest one of 53 bits. -/
theorem le_nearestEven_log2 {n : Nat} (hn : n ≠ 0) :
    2 ^ 52 ≤ nearestEven (n * 2 ^ 52) (2 ^ n.log2) := by
  refine Nat.le_trans ?_ (div_le_nearestEven _ _)
  rw [Nat.le_div_iff_mul_le (Nat.two_pow_pos _), Nat.mul_comm]
  exact Nat.mul_le_mul_right _ (Nat.log2_self_le hn)

/-- The significand of a number is at most twice the smallest one. -/
theorem nearestEven_log2_le (n : Nat) :
    nearestEven (n * 2 ^ 52) (2 ^ n.log2) ≤ 2 ^ 53 := by
  refine Nat.le_trans (nearestEven_le_div_add_one _ _) ?_
  rw [Nat.add_one_le_iff, Nat.div_lt_iff_lt_mul (Nat.two_pow_pos _)]
  calc
    n * 2 ^ 52 < 2 ^ (n.log2 + 1) * 2 ^ 52 :=
      Nat.mul_lt_mul_of_pos_right Nat.lt_log2_self (Nat.two_pow_pos 52)
    _ = 2 ^ 53 * 2 ^ n.log2 := by rw [← Nat.pow_add, ← Nat.pow_add, Nat.add_assoc, Nat.add_comm]

/-- A greater natural number does not round to a smaller double. -/
theorem rankOfNat_mono {n m : Nat} (h : n ≤ m) : rankOfNat n ≤ rankOfNat m := by
  unfold rankOfNat
  by_cases hn : n = 0
  · rw [if_pos hn]
    exact Nat.zero_le _
  have hm : m ≠ 0 := by omega
  rw [if_neg hn, if_neg hm]
  have hlog : n.log2 ≤ m.log2 := (Nat.le_log2 hm).2 (Nat.le_trans (Nat.log2_self_le hn) h)
  have hlow := le_nearestEven_log2 hm
  have hhigh := nearestEven_log2_le n
  simp only [Nat.pow_eq]
  rcases Nat.lt_or_eq_of_le hlog with hlt | heq
  · omega
  · rw [heq]
    exact Nat.add_le_add_left (nearestEven_mono _ (Nat.mul_le_mul_right _ h)) _

/-- A greater integer does not round to a smaller double. -/
theorem rankOfInt_mono {n m : Int} (h : n ≤ m) : rankOfInt n ≤ rankOfInt m := by
  unfold rankOfInt
  split
  · split
    · have hmono := rankOfNat_mono (show m.natAbs ≤ n.natAbs by omega)
      omega
    · omega
  · have hm : ¬m < 0 := by omega
    have hmono := rankOfNat_mono (show n.natAbs ≤ m.natAbs by omega)
    rw [if_neg hm]
    omega

/-! ### Integers that are doubles -/

/-- What is divided without a rest is not rounded. -/
theorem nearestEven_mul {den : Nat} (hden : 0 < den) (quotient : Nat) :
    nearestEven (quotient * den) den = quotient := by
  have hrest : quotient * den % den = 0 := Nat.mul_mod_left quotient den
  rw [nearestEven, hrest, Nat.mul_div_cancel _ hden]
  exact if_neg (by omega)

/-- A number of at most 53 bits is a double: its significand is the number itself, moved to the left
end of the 53 bits. -/
theorem rankOfNat_of_log2_le {n : Nat} (hn : n ≠ 0) (hlog : n.log2 ≤ 52) :
    rankOfNat n = (1022 + n.log2) * 2 ^ 52 + n * 2 ^ (52 - n.log2) := by
  have hnum : n * 2 ^ 52 = n * 2 ^ (52 - n.log2) * 2 ^ n.log2 := by
    rw [Nat.mul_assoc, ← Nat.pow_add, Nat.sub_add_cancel hlog]
  rw [rankOfNat, if_neg hn]
  simp only [Nat.pow_eq]
  rw [hnum, nearestEven_mul (Nat.two_pow_pos _)]

/-- The successor of a number of at most 53 bits has a greater rank. -/
theorem rankOfNat_lt_succ {n : Nat} (h : n < 2 ^ 53) : rankOfNat n < rankOfNat (n + 1) := by
  by_cases hn : n = 0
  · subst hn
    decide
  have hlog : n.log2 ≤ 52 := Nat.le_of_lt_succ ((Nat.log2_lt hn).2 h)
  have hle : n.log2 ≤ (n + 1).log2 :=
    (Nat.le_log2 (Nat.succ_ne_zero n)).2 (Nat.le_succ_of_le (Nat.log2_self_le hn))
  rw [rankOfNat_of_log2_le hn hlog]
  rcases Nat.lt_or_eq_of_le hle with hlt | heq
  · -- The significand stays below that of the next power of two.
    have hsignificand : n * 2 ^ (52 - n.log2) < 2 ^ 53 := by
      calc
        n * 2 ^ (52 - n.log2) < 2 ^ (n.log2 + 1) * 2 ^ (52 - n.log2) :=
          Nat.mul_lt_mul_of_pos_right Nat.lt_log2_self (Nat.two_pow_pos _)
        _ = 2 ^ 53 := by rw [← Nat.pow_add]; congr 1; omega
    have hrank : rankOfNat (n + 1) = (1022 + (n + 1).log2) * 2 ^ 52 +
        nearestEven ((n + 1) * 2 ^ 52) (2 ^ (n + 1).log2) := if_neg (Nat.succ_ne_zero n)
    have hlow := le_nearestEven_log2 (n := n + 1) (Nat.succ_ne_zero n)
    omega
  · rw [rankOfNat_of_log2_le (Nat.succ_ne_zero n) (heq ▸ hlog), ← heq]
    refine Nat.add_lt_add_left ?_ _
    exact Nat.mul_lt_mul_of_pos_right (Nat.lt_succ_self n) (Nat.two_pow_pos _)

/-- Below `2 ^ 53` a number has its rank for itself. -/
theorem rankOfNat_lt {n m : Nat} (h : n < 2 ^ 53) (hlt : n < m) : rankOfNat n < rankOfNat m :=
  Nat.lt_of_lt_of_le (rankOfNat_lt_succ h) (rankOfNat_mono hlt)

/-- Two integers that one double is nearest to are at least `2 ^ 53` away from zero. -/
theorem two_pow_le_of_rankOfInt_eq {n m : Int} (h : rankOfInt n = rankOfInt m) (hne : n ≠ m) :
    2 ^ 53 ≤ n.natAbs := by
  refine Nat.not_lt.1 fun hlt => ?_
  have hzero : ∀ k : Nat, rankOfNat k = 0 → k = 0 := by
    intro k hk
    by_contra hne
    have hpos := rankOfNat_lt (n := 0) (by decide) (Nat.pos_of_ne_zero hne)
    omega
  have hn := hzero n.natAbs
  have hm := hzero m.natAbs
  unfold rankOfInt at h
  rcases Nat.lt_trichotomy n.natAbs m.natAbs with hcmp | hcmp | hcmp
  · have hrank := rankOfNat_lt hlt hcmp
    split at h <;> split at h <;> omega
  · rw [hcmp] at h hn
    split at h <;> split at h <;> omega
  · have hrank := rankOfNat_lt (Nat.lt_trans hcmp hlt) hcmp
    split at h <;> split at h <;> omega

end QueryFilters.Binary64
