import QueryFilters.Json.Reader
import QueryFilters.Proofs.Number.Digits

/-!
# Numbers that read back

A number ends where nothing follows that could continue it, so what is read from the text of a
number is read in front of any such text (`read?_append`). Integers of 64 bits read back, and so do
the greater ones without a sign (`readsBack_integer`, `readsBack_natural`). A double reads back if
the reader, who scales in the arithmetic of doubles, meets it again; this is a property of each
double.
-/

namespace QueryFilters

namespace JsonNumberText

/-! ### Where a number ends -/

/-- A text does not continue a number before it. -/
def Ends (rest : List Char) : Prop :=
  ∀ c ∈ rest.head?, Digits.isDigit c = false ∧ c ≠ '.' ∧ c ≠ 'e' ∧ c ≠ 'E'

theorem Ends.nil : Ends [] :=
  nofun

theorem digits?_append {text digits left : List Char} (h : digits? text = some (digits, left))
    {rest : List Char} (hrest : Ends rest) :
    digits? (text ++ rest) = some (digits, left ++ rest) := by
  have hspan := Digits.span_append text fun c hc => (hrest c hc).1
  unfold digits? at h ⊢
  rw [hspan]
  dsimp only at h ⊢
  split at h
  · cases h
  · next hne =>
    cases h
    rw [if_neg hne]

theorem whole?_append {text digits left : List Char} (h : whole? text = some (digits, left))
    {rest : List Char} (hrest : Ends rest) :
    whole? (text ++ rest) = some (digits, left ++ rest) := by
  simp only [whole?, Option.bind_eq_bind, Option.bind_eq_some_iff] at h ⊢
  obtain ⟨⟨digits', left'⟩, hdigits, h⟩ := h
  refine ⟨_, digits?_append hdigits hrest, ?_⟩
  split at h
  · cases h
  · next hzero =>
    cases h
    rw [if_neg hzero]

theorem fraction?_of_head?_ne {text : List Char} (h : text.head? ≠ some '.') :
    fraction? text = some (none, text) := by
  unfold fraction?
  split
  · exact absurd rfl h
  · rfl

theorem fraction?_append {text left : List Char} {digits : Option (List Char)}
    (h : fraction? text = some (digits, left)) {rest : List Char} (hrest : Ends rest) :
    fraction? (text ++ rest) = some (digits, left ++ rest) := by
  by_cases hpoint : text.head? = some '.'
  · obtain ⟨text, rfl⟩ := List.head?_eq_some_iff.1 hpoint
    simp only [fraction?, Option.map_eq_some_iff] at h
    obtain ⟨⟨digits', left'⟩, hdigits, h⟩ := h
    cases h
    simp only [List.cons_append, fraction?, digits?_append hdigits hrest, Option.map_some]
  · rw [fraction?_of_head?_ne hpoint] at h
    cases h
    refine fraction?_of_head?_ne fun heq => ?_
    cases text with
    | nil => exact (hrest '.' heq).2.1 rfl
    | cons c text => exact hpoint heq

theorem sign_append {text : List Char} (h : text ≠ []) (rest : List Char) :
    sign (text ++ rest) = ((sign text).1, (sign text).2 ++ rest) := by
  obtain ⟨c, text, rfl⟩ := List.exists_cons_of_ne_nil h
  by_cases hminus : c = '-'
  · subst hminus
    rfl
  by_cases hplus : c = '+'
  · subst hplus
    rfl
  · simp [sign, hminus, hplus]

theorem exponent?_append {text left : List Char} {digits : Option (Bool × List Char)}
    (h : exponent? text = some (digits, left)) {rest : List Char} (hrest : Ends rest) :
    exponent? (text ++ rest) = some (digits, left ++ rest) := by
  cases text with
  | nil =>
    cases h
    cases rest with
    | nil => rfl
    | cons c rest =>
      obtain ⟨-, -, he, hE⟩ := hrest c rfl
      exact if_neg (not_or.2 ⟨he, hE⟩)
  | cons c text =>
    rw [List.cons_append]
    unfold exponent? at h ⊢
    dsimp only at h ⊢
    split at h
    · next hc =>
      obtain ⟨⟨digits', left'⟩, hdigits, h⟩ := Option.map_eq_some_iff.1 h
      cases h
      have hne : text ≠ [] := by
        rintro rfl
        cases hdigits
      rw [if_pos hc, sign_append hne, digits?_append hdigits hrest]
      rfl
    · next hc =>
      cases h
      rw [if_neg hc]
      rfl

/-- What is read from a text is read in front of what does not continue it. -/
theorem read?_append {text left : List Char} {written : JsonNumberText}
    (h : read? text = some (written, left)) {rest : List Char} (hrest : Ends rest) :
    read? (text ++ rest) = some (written, left ++ rest) := by
  simp only [read?, Option.bind_eq_bind, Option.bind_eq_some_iff] at h ⊢
  obtain ⟨⟨whole, afterWhole⟩, hwhole, ⟨fraction, afterFraction⟩, hfraction,
    ⟨exponent, afterExponent⟩, hexponent, h⟩ := h
  cases h
  have hne : text ≠ [] := by
    rintro rfl
    cases hwhole
  have hstart : (if (text ++ rest).head? = some '-' then (true, (text ++ rest).drop 1)
      else (false, text ++ rest)) =
      ((if text.head? = some '-' then (true, text.drop 1) else (false, text)).1,
        (if text.head? = some '-' then (true, text.drop 1) else (false, text)).2 ++ rest) := by
    obtain ⟨c, text, rfl⟩ := List.exists_cons_of_ne_nil hne
    by_cases hc : c = '-' <;> simp [hc]
  rw [hstart]
  exact ⟨_, whole?_append hwhole hrest, _, fraction?_append hfraction hrest, _,
    exponent?_append hexponent hrest, rfl⟩

/-- A number starts with a minus sign or a digit. -/
theorem exists_lead_of_read? {text left : List Char} {written : JsonNumberText}
    (h : read? text = some (written, left)) :
    ∃ c tail, text = c :: tail ∧ (c = '-' ∨ Digits.isDigit c = true) := by
  simp only [read?, Option.bind_eq_bind, Option.bind_eq_some_iff] at h
  obtain ⟨⟨whole, _⟩, hwhole, -⟩ := h
  cases text with
  | nil => cases hwhole
  | cons c tail =>
    refine ⟨c, tail, rfl, ?_⟩
    by_contra hlead
    obtain ⟨hminus, hdigit⟩ := not_or.1 hlead
    simp [hminus, whole?, digits?, Digits.span, hdigit] at hwhole

/-! ### Integers -/

/-- The number that digits denote which go on after a number. -/
def extended (n : Nat) (digits : List Char) : Nat :=
  digits.foldl (fun n c => 10 * n + (Digits.value? c).getD 0) n

theorem le_extended (n : Nat) (digits : List Char) : n ≤ extended n digits := by
  induction digits generalizing n with
  | nil => exact Nat.le_refl n
  | cons c digits ih =>
    have hstep := ih (10 * n + (Digits.value? c).getD 0)
    have hle : n ≤ 10 * n + (Digits.value? c).getD 0 := by omega
    exact hle.trans hstep

/-- Digits are taken whole if the number that they extend fits 64 bits in the end. -/
theorem absorb_eq {n : Nat} {digits : List Char} (h : extended n digits ≤ wordLimit) :
    absorb n digits = (extended n digits, []) := by
  induction digits generalizing n with
  | nil => rfl
  | cons c digits ih =>
    have hle : 10 * n + (Digits.value? c).getD 0 ≤ wordLimit := (le_extended _ digits).trans h
    rw [absorb, if_pos hle, ih h]
    rfl

theorem absorb_ofNat {n : Nat} (h : n ≤ wordLimit) : absorb 0 (Digits.ofNat n) = (n, []) := by
  have hvalue : extended 0 (Digits.ofNat n) = n := Digits.toNat_ofNat n
  have hle : extended 0 (Digits.ofNat n) ≤ wordLimit := by rwa [hvalue]
  rw [absorb_eq hle, hvalue]

/-- The digits of a number make its whole part: no zero leads them, unless it is alone. -/
theorem whole?_ofNat (n : Nat) : whole? (Digits.ofNat n) = some (Digits.ofNat n, []) := by
  have hspan := Digits.span_eq_self (Digits.isDigit_of_mem_ofNat n)
  have hdigits : digits? (Digits.ofNat n) = some (Digits.ofNat n, []) := by
    simp only [digits?, hspan, List.isEmpty_iff, Digits.ofNat_ne_nil, if_false]
  have hzero : ¬((Digits.ofNat n).head? = some '0' ∧ Digits.ofNat n ≠ ['0']) := by
    rintro ⟨hhead, hne⟩
    rw [Digits.head?_ofNat_eq_zero_iff] at hhead
    exact hne (hhead ▸ rfl)
  simp only [whole?, hdigits, Option.bind_eq_bind, Option.bind_some, if_neg hzero]

/-- The text of an integer is its sign and its digits. -/
theorem read?_intText (n : Int) :
    read? (Digits.intText n).toList =
      some (⟨decide (n < 0), Digits.ofNat n.natAbs, none, none⟩, []) := by
  rw [Digits.intText, String.toList_ofList]
  split
  · next hneg =>
    simp [read?, whole?_ofNat, fraction?, exponent?, hneg]
  · next hnonneg =>
    have hminus : (Digits.ofNat n.natAbs).head? ≠ some '-' := fun hhead =>
      absurd (Digits.isDigit_of_mem_ofNat _ '-' (List.mem_of_head? hhead)) (by decide)
    simp [read?, whole?_ofNat, fraction?, exponent?, hnonneg, hminus]

end JsonNumberText

/-- A number is read back from its text. -/
def JsonNumber.ReadsBack (n : JsonNumber) : Prop :=
  ∃ written, JsonNumberText.read? n.toText.toList = some (written, []) ∧
    written.number? = some n

namespace JsonNumber

/-- An integer that fits 64 bits with a sign is read as such. -/
theorem readsBack_integer (n : Int64) : (integer n).ReadsBack := by
  refine ⟨_, JsonNumberText.read?_intText n.toInt, ?_⟩
  have hlow : -2 ^ 63 ≤ n.toInt := n.le_toInt
  have hhigh : n.toInt < 2 ^ 63 := n.toInt_lt
  have habsorb : JsonNumberText.absorb 0 (Digits.ofNat n.toInt.natAbs) = (n.toInt.natAbs, []) :=
    JsonNumberText.absorb_ofNat (by simp only [JsonNumberText.wordLimit, Nat.pow_eq]; omega)
  simp only [JsonNumberText.number?, habsorb, Nat.pow_eq]
  by_cases hneg : n.toInt < 0
  · have hzero : ¬(n.toInt.natAbs = 0 ∨ 2 ^ 63 < n.toInt.natAbs) := by omega
    have hvalue : -(n.toInt.natAbs : Int) = n.toInt := by omega
    simp only [hneg, decide_true, Bool.not_true, Bool.false_eq_true, if_false, if_neg hzero, hvalue,
      Int64.ofInt_toInt]
  · have hlt : n.toInt.natAbs < 2 ^ 63 := by omega
    have hvalue : (n.toInt.natAbs : Int) = n.toInt := by omega
    simp only [hneg, decide_false, Bool.not_false, if_true, if_pos hlt, ← Int64.ofInt_eq_ofNat,
      hvalue, Int64.ofInt_toInt]

/-- A greater integer that fits 64 bits is read as one without a sign. -/
theorem readsBack_natural {n : UInt64} (h : 2 ^ 63 ≤ n.toNat) : (natural n).ReadsBack := by
  have hread : JsonNumberText.read? (natural n).toText.toList =
      some (⟨false, Digits.ofNat n.toNat, none, none⟩, []) := by
    have hint := JsonNumberText.read?_intText n.toNat
    have hneg : ¬((n.toNat : Int) < 0) := by omega
    rwa [Digits.intText, if_neg hneg, decide_eq_false hneg, Int.natAbs_natCast] at hint
  have hlt : n.toNat < 2 ^ 64 := n.toNat_lt
  have habsorb : JsonNumberText.absorb 0 (Digits.ofNat n.toNat) = (n.toNat, []) :=
    JsonNumberText.absorb_ofNat (by simp only [JsonNumberText.wordLimit, Nat.pow_eq]; omega)
  refine ⟨_, hread, ?_⟩
  simp only [JsonNumberText.number?, habsorb, Nat.pow_eq, Bool.not_false, if_true,
    if_neg (Nat.not_lt.2 h), UInt64.ofNat_toNat]

end JsonNumber

end QueryFilters
