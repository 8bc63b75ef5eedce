import QueryFilters.Codec.Basic
import QueryFilters.Proofs.Number.Digits
import QueryFilters.Proofs.Text.Blank

/-!
# Integers in input

The texts that stand for an integer are digits with at most one sign before them, and a point with
nothing but zeros after it, if any (`IntegerText`). The codec of integers decodes exactly these,
with any blanks around them, as long as the integer fits 64 bits (`Codec.decode_integer_iff`).
-/

namespace QueryFilters

/-! ### The texts of integers -/

/-- At least one digit, and nothing but digits. -/
def IsDigits (text : List Char) : Prop :=
  text ≠ [] ∧ ∀ c ∈ text, Digits.isDigit c = true

/-- Digits with at most one sign before them, and the integer that they denote. -/
inductive WholeText : List Char → Int → Prop
  | plain {digits : List Char} (h : IsDigits digits) : WholeText digits (Digits.toNat digits)
  | plus {digits : List Char} (h : IsDigits digits) :
    WholeText ('+' :: digits) (Digits.toNat digits)
  | minus {digits : List Char} (h : IsDigits digits) :
    WholeText ('-' :: digits) (-(Digits.toNat digits : Int))

/-- Nothing, or a point and nothing but zeros after it. -/
inductive ZeroFraction : List Char → Prop
  | none : ZeroFraction []
  | zeros {digits : List Char} (h : ∀ c ∈ digits, c = '0') : ZeroFraction ('.' :: digits)

/-- The texts that stand for integers, and what they stand for. -/
inductive IntegerText : List Char → Int → Prop
  | mk {whole fraction : List Char} {n : Int} (hwhole : WholeText whole n)
    (hfraction : ZeroFraction fraction) : IntegerText (whole ++ fraction) n

/-- There is no point among digits and a sign. -/
theorem WholeText.not_mem {text : List Char} {n : Int} (h : WholeText text n) : '.' ∉ text := by
  have hdigits : ∀ {digits}, IsDigits digits → '.' ∉ digits := fun h hmem =>
    absurd (h.2 '.' hmem) (by decide)
  cases h with
  | plain h => exact hdigits h
  | plus h => simpa using hdigits h
  | minus h => simpa using hdigits h

/-- There is no blank in the text of an integer. -/
theorem IntegerText.not_isBlank {text : List Char} {n : Int} (h : IntegerText text n) :
    ∀ c ∈ text, Text.isBlank c = false := by
  have hdigits : ∀ {digits}, IsDigits digits → ∀ c ∈ digits, Text.isBlank c = false :=
    fun h c hc => Text.isBlank_of_isDigit (h.2 c hc)
  obtain ⟨hwhole, hfraction⟩ := h
  refine List.forall_mem_append.2 ⟨?_, ?_⟩
  · cases hwhole with
    | plain h => exact hdigits h
    | plus h => exact List.forall_mem_cons.2 ⟨by decide, hdigits h⟩
    | minus h => exact List.forall_mem_cons.2 ⟨by decide, hdigits h⟩
  · cases hfraction with
    | none => exact List.forall_mem_nil _
    | zeros h =>
      refine List.forall_mem_cons.2 ⟨by decide, fun c hc => ?_⟩
      rw [h c hc]
      decide

/-- The decimal text of an integer is one that stands for it. -/
theorem wholeText_intText (n : Int) : WholeText (Digits.intText n).toList n := by
  have hdigits : IsDigits (Digits.ofNat n.natAbs) :=
    ⟨Digits.ofNat_ne_nil _, Digits.isDigit_of_mem_ofNat _⟩
  have hvalue := Digits.toNat_ofNat n.natAbs
  rw [Digits.intText, String.toList_ofList]
  split
  · next hn =>
    have htext := WholeText.minus hdigits
    rwa [hvalue, show -(n.natAbs : Int) = n by omega] at htext
  · next hn =>
    have htext := WholeText.plain hdigits
    rwa [hvalue, show (n.natAbs : Int) = n by omega] at htext

/-! ### Reading them -/

namespace Scientific

/-- Digits have no sign. -/
theorem sign_of_isDigits {text : List Char} (h : IsDigits text) : sign text = (false, text) := by
  fun_cases sign text with
  | case1 rest => exact absurd (h.2 '-' List.mem_cons_self) (by decide)
  | case2 rest => exact absurd (h.2 '+' List.mem_cons_self) (by decide)
  | case3 => rfl

/-- A sign is a minus or a plus at the start of a text, if there is one. -/
theorem sign_cases {text digits : List Char} {negative : Bool}
    (h : sign text = (negative, digits)) :
    (negative = true ∧ text = '-' :: digits) ∨
      negative = false ∧ (text = '+' :: digits ∨ text = digits) := by
  unfold sign at h
  split at h <;> obtain ⟨rfl, rfl⟩ := Prod.mk.inj h
  · exact .inl ⟨rfl, rfl⟩
  · exact .inr ⟨rfl, .inl rfl⟩
  · exact .inr ⟨rfl, .inr rfl⟩

/-- An integer is read from the digits after the sign. -/
theorem integer?_of_sign {text digits : List Char} {negative : Bool}
    (h : sign text = (negative, digits)) (n : Int) :
    integer? text = some n ↔ IsDigits digits ∧
      n = if negative then -(Digits.toNat digits : Int) else (Digits.toNat digits : Int) := by
  have hrefused : (digits.isEmpty || !digits.all Digits.isDigit) = true ↔ ¬IsDigits digits := by
    simp only [Bool.or_eq_true, List.isEmpty_iff, Bool.not_eq_true', Bool.eq_false_iff, ne_eq,
      List.all_eq_true, IsDigits, not_and_or, not_not]
  simp only [integer?, h]
  by_cases hdigits : IsDigits digits
  · rw [if_neg (mt hrefused.1 (not_not.2 hdigits)), Option.some.injEq, eq_comm,
      and_iff_right hdigits]
  · rw [if_pos (hrefused.2 hdigits)]
    exact iff_of_false nofun fun hn => hdigits hn.1

/-- Reading takes exactly digits with at most one sign before them. -/
theorem integer?_eq_some_iff {text : List Char} {n : Int} :
    integer? text = some n ↔ WholeText text n := by
  constructor
  · intro h
    obtain ⟨⟨negative, digits⟩, hsign⟩ : ∃ s, sign text = s := ⟨_, rfl⟩
    obtain ⟨hdigits, rfl⟩ := (integer?_of_sign hsign n).1 h
    rcases sign_cases hsign with ⟨rfl, rfl⟩ | ⟨rfl, rfl | rfl⟩
    · exact .minus hdigits
    · exact .plus hdigits
    · exact .plain hdigits
  · rintro (hdigits | hdigits | hdigits)
    · exact (integer?_of_sign (sign_of_isDigits hdigits) _).2 ⟨hdigits, rfl⟩
    · exact (integer?_of_sign rfl _).2 ⟨hdigits, rfl⟩
    · exact (integer?_of_sign rfl _).2 ⟨hdigits, rfl⟩

/-- A word of 64 bits with a sign holds the integers from `-2 ^ 63` to `2 ^ 63 - 1`. -/
theorem fits_iff {n : Int} : fits 64 n = true ↔ -2 ^ 63 ≤ n ∧ n ≤ 2 ^ 63 - 1 := by
  have hpow : (Nat.pow 2 (64 - 1) : Int) = 2 ^ 63 := by norm_num
  rw [fits, Bool.and_eq_true, decide_eq_true_eq, decide_eq_true_eq, hpow]
  omega

end Scientific

namespace Scalar

/-- Leaving out a fraction of zeros leaves digits and a sign exactly of the texts of integers. -/
theorem wholeText_withoutZeroFraction_iff {text : List Char} {n : Int} :
    WholeText (withoutZeroFraction text) n ↔ IntegerText text n := by
  constructor
  · intro h
    have hplain : ∀ {whole}, WholeText whole n → IntegerText whole n := fun h => by
      simpa using IntegerText.mk h .none
    unfold withoutZeroFraction at h
    split at h
    · next whole fraction hcut =>
      split at h
      · next hzeros =>
        rw [Text.eq_of_cutAt hcut]
        exact .mk h (.zeros (by simpa using hzeros))
      · exact hplain h
    · exact hplain h
  · rintro ⟨hwhole, hfraction⟩
    cases hfraction with
    | none =>
      rw [List.append_nil, withoutZeroFraction, Text.cutAt_of_not_mem hwhole.not_mem]
      exact hwhole
    | @zeros digits hzeros =>
      have hall : digits.all (· == '0') = true := by simpa using hzeros
      rw [withoutZeroFraction, Text.cutAt_append hwhole.not_mem]
      simpa only [hall, if_true] using hwhole

/-- Exactly the texts of integers that fit 64 bits are read. -/
theorem integer?_eq_some_iff {text : List Char} {n : Int64} :
    integer? text = some n ↔ IntegerText text n.toInt := by
  rw [integer?, int64?, Option.map_eq_some_iff, ← wholeText_withoutZeroFraction_iff,
    ← Scientific.integer?_eq_some_iff]
  constructor
  · rintro ⟨m, hm, rfl⟩
    obtain ⟨hread, hfits⟩ := Option.filter_eq_some_iff.1 hm
    obtain ⟨hlow, hhigh⟩ := Scientific.fits_iff.1 hfits
    rw [hread, Int64.toInt_ofInt_of_le hlow (by omega)]
  · intro hread
    have hfits : Scientific.fits 64 n.toInt = true :=
      Scientific.fits_iff.2 ⟨n.le_toInt, Int.le_sub_one_of_lt n.toInt_lt⟩
    exact ⟨n.toInt, Option.filter_eq_some_iff.2 ⟨hread, hfits⟩, Int64.ofInt_toInt n⟩

/-- A text is not read exactly if each integer that it stands for does not fit 64 bits. -/
theorem integer?_eq_none_iff {text : List Char} :
    integer? text = none ↔
      ∀ n, IntegerText text n → ¬(-2 ^ 63 ≤ n ∧ n ≤ 2 ^ 63 - 1) := by
  rw [integer?, int64?, Option.map_eq_none_iff, Option.filter_eq_none_iff]
  refine forall_congr' fun n => ?_
  rw [Scientific.integer?_eq_some_iff, wholeText_withoutZeroFraction_iff, Scientific.fits_iff]

end Scalar

namespace Codec

/-- An integer is read from what is left of a text without its surrounding blanks. -/
theorem decode_integer_one (text : String) :
    decode .integer (.one text) =
      match Scalar.integer? (Text.trim text).toList with
      | some n => .ok (.int n)
      | none => .error (.invalid (Text.trim text) .integer) := by
  rw [decode, Scalar.decode, Raw.single]
  cases hread : Scalar.integer? (Text.trim text).toList with
  | none => simp only [bind, Except.bind, hread, Option.map_none]
  | some n => simp only [bind, Except.bind, hread, Option.map_some]

/-- The text of an integer that fits 64 bits is decoded as that integer, whatever blanks surround
it. -/
theorem decode_integer_of_trims {text core : String} (h : Text.Trims text core) {n : Int64} :
    decode .integer (.one text) = .ok (.int n) ↔ IntegerText core.toList n.toInt := by
  rw [decode_integer_one, ← Text.trims_iff.1 h, ← Scalar.integer?_eq_some_iff]
  cases Scalar.integer? core.toList <;> simp

/-- Any other text is refused, and shown without the blanks. -/
theorem decode_integer_eq_error_iff {text core : String} (h : Text.Trims text core) :
    decode .integer (.one text) = .error (.invalid core .integer) ↔
      ∀ n, IntegerText core.toList n → ¬(-2 ^ 63 ≤ n ∧ n ≤ 2 ^ 63 - 1) := by
  rw [decode_integer_one, ← Text.trims_iff.1 h, ← Scalar.integer?_eq_none_iff]
  cases Scalar.integer? core.toList <;> simp

/-- The text of an integer is all that is left of it without the blanks around it. -/
theorem trims_of_integerText {before core after : List Char} {n : Int} (h : IntegerText core n)
    (hbefore : ∀ c ∈ before, Text.isBlank c = true) (hafter : ∀ c ∈ after, Text.isBlank c = true) :
    Text.Trims (String.ofList (before ++ core ++ after)) (String.ofList core) where
  exists_blanks := ⟨before, after, by simp only [String.toList_ofList], hbefore, hafter⟩
  start c hc := by
    rw [String.toList_ofList] at hc
    exact h.not_isBlank c (List.mem_of_mem_head? hc)
  stop c hc := by
    rw [String.toList_ofList] at hc
    exact h.not_isBlank c (List.mem_of_mem_getLast? hc)

/-- Of every text just one piece is left without the blanks at its ends. The codec of integers
decodes it exactly if it stands for an integer that fits 64 bits, as that integer, and refuses it
otherwise. In particular the decimal text of each such integer is decoded as that integer, with any
zeros after a point and with any blanks around it. -/
theorem decode_integer_iff :
    (∀ text : String, ∃ core : String, (∀ piece, Text.Trims text piece ↔ piece = core) ∧
      (∀ n : Int64, decode .integer (.one text) = .ok (.int n) ↔
        IntegerText core.toList n.toInt) ∧
      (decode .integer (.one text) = .error (.invalid core .integer) ↔
        ∀ n, IntegerText core.toList n → ¬(-2 ^ 63 ≤ n ∧ n ≤ 2 ^ 63 - 1))) ∧
    ∀ (n : Int64) (before fraction after : List Char), (∀ c ∈ before, Text.isBlank c = true) →
      ZeroFraction fraction → (∀ c ∈ after, Text.isBlank c = true) →
      decode .integer (.one (String.ofList
        (before ++ ((Digits.intText n.toInt).toList ++ fraction) ++ after))) = .ok (.int n) := by
  refine ⟨fun text => ?_, fun n before fraction after hbefore hfraction hafter => ?_⟩
  · have htrims := Text.trims_trim text
    exact ⟨_, fun _ => Text.trims_iff, fun _ => decode_integer_of_trims htrims,
      decode_integer_eq_error_iff htrims⟩
  · have hcore : IntegerText ((Digits.intText n.toInt).toList ++ fraction) n.toInt :=
      .mk (wholeText_intText n.toInt) hfraction
    rw [decode_integer_of_trims (trims_of_integerText hcore hbefore hafter), String.toList_ofList]
    exact hcore

/-- The least integer of 64 bits with a fraction of zeros, between blanks. -/
theorem decode_integer_min :
    decode .integer (.one "\t-9223372036854775808.00 ") = .ok (.int (-9223372036854775808)) := by
  let n : Int64 := -9223372036854775808
  have hbefore : ∀ c ∈ ['\t'], Text.isBlank c = true := List.forall_mem_singleton.2 (by decide)
  have hafter : ∀ c ∈ [' '], Text.isBlank c = true := List.forall_mem_singleton.2 (by decide)
  have hfraction : ZeroFraction ['.', '0', '0'] := .zeros (by simp)
  have htext : String.ofList (['\t'] ++ ((Digits.intText n.toInt).toList ++ ['.', '0', '0']) ++
      [' ']) = "\t-9223372036854775808.00 " := by decide +kernel
  rw [← htext]
  exact decode_integer_iff.2 n ['\t'] ['.', '0', '0'] [' '] hbefore hfraction hafter

end Codec

end QueryFilters
