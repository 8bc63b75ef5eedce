import Mathlib.Algebra.Order.Ring.Nat
import Mathlib.Data.List.TakeWhile
import Mathlib.Tactic.IntervalCases
import Mathlib.Tactic.Ring
import QueryFilters.Number.Digits

/-!
# Digits that read back

The digits of a number are one digit, or the digits of a smaller number and one more
(`toDigits_induction`). Both readers follow the digits one by one, so the decimal and the
hexadecimal digits of a number read back as that number, whatever zeros lead them.
-/

namespace QueryFilters.Digits

/-- The digits of a number are built from the left. -/
theorem toDigits_induction {b : Nat} (hb : 1 < b) {motive : Nat → List Char → Prop}
    (digit : ∀ d < b, motive d [d.digitChar])
    (extend : ∀ n d, 0 < n → d < b → motive n (Nat.toDigits b n) →
      motive (b * n + d) (Nat.toDigits b n ++ [d.digitChar]))
    (n : Nat) : motive n (Nat.toDigits b n) := by
  induction n using Nat.strong_induction_on with
  | _ n ih =>
    by_cases hn : n < b
    · rw [Nat.toDigits_of_lt_base hn]
      exact digit n hn
    · have hpos : 0 < n / b := Nat.div_pos (Nat.not_lt.1 hn) (by omega)
      have hlt : n / b < n := Nat.div_lt_self (by omega) hb
      have h := extend (n / b) (n % b) hpos (Nat.mod_lt n (by omega)) (ih _ hlt)
      rwa [Nat.div_add_mod, ← Nat.toDigits_of_base_le hb (Nat.not_lt.1 hn)] at h

/-- A number that fits a width is led by zeros to exactly that width. -/
theorem length_replicate_append_toDigits {b width n : Nat} (hb : 1 < b) (hwidth : 0 < width)
    (h : n < b ^ width) :
    (List.replicate (width - (Nat.toDigits b n).length) '0' ++ Nat.toDigits b n).length =
      width := by
  have hle : (Nat.toDigits b n).length ≤ width := (Nat.length_toDigits_le_iff hb hwidth).2 h
  rw [List.length_append, List.length_replicate, Nat.sub_add_cancel hle]

theorem value?_digitChar {d : Nat} (h : d < 10) : value? d.digitChar = some d := by
  interval_cases d <;> rfl

theorem hexValue?_digitChar {d : Nat} (h : d < 16) : hexValue? d.digitChar = some d := by
  interval_cases d <;> rfl

/-! ### Decimal digits -/

theorem toNat_concat (digits : List Char) (c : Char) :
    toNat (digits ++ [c]) = 10 * toNat digits + (value? c).getD 0 := by
  simp [toNat, List.foldl_append]

/-- The decimal digits of a number denote it. -/
theorem toNat_ofNat (n : Nat) : toNat (ofNat n) = n := by
  refine toDigits_induction (by decide) (motive := fun n digits => toNat digits = n)
    (fun d hd => ?_) (fun n d _ hd ih => ?_) n
  · simp [toNat, value?_digitChar hd]
  · rw [toNat_concat, ih, value?_digitChar hd, Option.getD_some]

theorem isDigit_of_mem_ofNat (n : Nat) : ∀ c ∈ ofNat n, isDigit c = true := by
  have hdigit : ∀ d < 10, isDigit d.digitChar = true := fun d hd => by
    rw [isDigit, value?_digitChar hd, Option.isSome_some]
  refine toDigits_induction (by decide)
    (motive := fun _ digits => ∀ c ∈ digits, isDigit c = true) (fun d hd => ?_)
    (fun n d _ hd ih => ?_) n
  · exact List.forall_mem_singleton.2 (hdigit d hd)
  · exact List.forall_mem_append.2 ⟨ih, List.forall_mem_singleton.2 (hdigit d hd)⟩

theorem ofNat_ne_nil (n : Nat) : ofNat n ≠ [] :=
  List.length_pos_iff.1 Nat.length_toDigits_pos

/-- Only the digits of zero start with a zero. -/
theorem head?_ofNat_eq_zero_iff (n : Nat) : (ofNat n).head? = some '0' ↔ n = 0 := by
  refine toDigits_induction (by decide)
    (motive := fun n digits => digits.head? = some '0' ↔ n = 0) (fun d hd => ?_)
    (fun n d hn _ ih => ?_) n
  · simp
  · have hpos : 10 * n + d ≠ 0 := by omega
    obtain ⟨c, digits, hdigits⟩ := List.exists_cons_of_ne_nil (ofNat_ne_nil n)
    have hhead : (Nat.toDigits 10 n ++ [d.digitChar]).head? = (Nat.toDigits 10 n).head? := by
      rw [ofNat] at hdigits
      rw [hdigits]
      rfl
    rw [hhead, ih]
    exact iff_of_false (Nat.ne_of_gt hn) hpos

/-- Zeros before digits do not count. -/
theorem toNat_replicate_append (count : Nat) (digits : List Char) :
    toNat (List.replicate count '0' ++ digits) = toNat digits := by
  induction count with
  | zero => rfl
  | succ count ih => exact ih

/-- Each zero after digits multiplies by ten. -/
theorem toNat_append_replicate (digits : List Char) (count : Nat) :
    toNat (digits ++ List.replicate count '0') = toNat digits * 10 ^ count := by
  induction count with
  | zero => simp
  | succ count ih =>
    rw [List.replicate_succ', ← List.append_assoc, toNat_concat, ih, pow_succ]
    have hzero : (value? '0').getD 0 = 0 := rfl
    rw [hzero]
    ring

theorem toNat_padded (width n : Nat) : toNat (padded width n) = n := by
  rw [padded, toNat_replicate_append, toNat_ofNat]

theorem isDigit_of_mem_padded (width n : Nat) : ∀ c ∈ padded width n, isDigit c = true := by
  intro c hc
  rcases List.mem_append.1 hc with hc | hc
  · rw [List.eq_of_mem_replicate hc]
    rfl
  · exact isDigit_of_mem_ofNat n c hc

theorem length_padded {width n : Nat} (hwidth : 0 < width) (h : n < 10 ^ width) :
    (padded width n).length = width :=
  length_replicate_append_toDigits (by decide) hwidth h

theorem padded_ne_nil (width n : Nat) : padded width n ≠ [] := by
  simp [padded, ofNat_ne_nil]

theorem span_eq_self {digits : List Char} (h : ∀ c ∈ digits, isDigit c = true) :
    span digits = (digits, []) := by
  rw [span, List.takeWhile_eq_self_iff.2 h, List.dropWhile_eq_nil_iff.2 h]

/-- A text that does not start with a digit adds nothing to the digits before it. -/
theorem span_append (text : List Char) {rest : List Char}
    (hrest : ∀ c ∈ rest.head?, isDigit c = false) :
    span (text ++ rest) = ((span text).1, (span text).2 ++ rest) := by
  induction text with
  | nil =>
    cases rest with
    | nil => rfl
    | cons c rest => simp [span, hrest c rfl]
  | cons c text ih =>
    obtain ⟨htake, hdrop⟩ := Prod.mk.inj ih
    by_cases hc : isDigit c = true
    · simp [span, hc, htake, hdrop]
    · simp [span, hc]

/-! ### Hexadecimal digits -/

theorem hexToNat?_concat (text : List Char) (c : Char) :
    hexToNat? (text ++ [c]) =
      (hexToNat? text).bind fun n => (hexValue? c).map (16 * n + ·) := by
  simp [hexToNat?, List.foldlM_append]

/-- The hexadecimal digits of a number denote it. -/
theorem hexToNat?_hexOfNat (n : Nat) : hexToNat? (hexOfNat n) = some n := by
  refine toDigits_induction (by decide) (motive := fun n digits => hexToNat? digits = some n)
    (fun d hd => ?_) (fun n d _ hd ih => ?_) n
  · simp [hexToNat?, hexValue?_digitChar hd]
  · rw [hexToNat?_concat, ih, hexValue?_digitChar hd, Option.bind_some, Option.map_some]

/-- Hexadecimal digits are written in lower case. -/
theorem mem_of_mem_hexOfNat (n : Nat) : ∀ c ∈ hexOfNat n, c ∈ "0123456789abcdef".toList := by
  have hdigit : ∀ d < 16, d.digitChar ∈ "0123456789abcdef".toList := by decide
  refine toDigits_induction (by decide)
    (motive := fun _ digits => ∀ c ∈ digits, c ∈ "0123456789abcdef".toList) (fun d hd => ?_)
    (fun n d _ hd ih => ?_) n
  · exact List.forall_mem_singleton.2 (hdigit d hd)
  · exact List.forall_mem_append.2 ⟨ih, List.forall_mem_singleton.2 (hdigit d hd)⟩

theorem hexToNat?_replicate_append (count : Nat) (text : List Char) :
    hexToNat? (List.replicate count '0' ++ text) = hexToNat? text := by
  induction count with
  | zero => rfl
  | succ count ih => exact ih

theorem hexToNat?_hexPadded (width n : Nat) : hexToNat? (hexPadded width n) = some n := by
  rw [hexPadded, hexToNat?_replicate_append, hexToNat?_hexOfNat]

theorem mem_of_mem_hexPadded (width n : Nat) :
    ∀ c ∈ hexPadded width n, c ∈ "0123456789abcdef".toList := by
  intro c hc
  rcases List.mem_append.1 hc with hc | hc
  · rw [List.eq_of_mem_replicate hc]
    decide
  · exact mem_of_mem_hexOfNat n c hc

theorem length_hexPadded {width n : Nat} (hwidth : 0 < width) (h : n < 16 ^ width) :
    (hexPadded width n).length = width :=
  length_replicate_append_toDigits (by decide) hwidth h

end QueryFilters.Digits
