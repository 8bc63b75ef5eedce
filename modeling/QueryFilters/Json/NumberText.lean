import QueryFilters.Json.Basic

/-!
# Numbers in JSON text

A number is read as its digits. An integer that fits 64 bits is kept as such. Any other number is a
double: the digits that fit 64 bits are scaled by a power of ten in the arithmetic of doubles.
-/

namespace QueryFilters

/-- A JSON number as it is written. -/
structure JsonNumberText where
  negative : Bool
  whole : List Char
  /-- The digits after the point, if there is one. -/
  fraction : Option (List Char)
  /-- The exponent's sign, set when it is negative, and its digits, if there is one. -/
  exponent : Option (Bool × List Char)

namespace JsonNumberText

/-- The greatest number of 64 bits. -/
def wordLimit : Nat := Nat.pow 2 64 - 1

/-- Takes digits from the front of a run for as long as the number they extend fits 64 bits. The
answer holds the number and the digits left over. -/
def absorb (n : Nat) : List Char → Nat × List Char
  | [] => (n, [])
  | c :: rest =>
    let next := 10 * n + (Digits.value? c).getD 0
    if next ≤ wordLimit then absorb next rest else (n, c :: rest)

/-- Multiplies or divides by a power of ten in the arithmetic of doubles; there is no answer beyond
the finite doubles. Powers beyond `10 ^ 308` are applied in steps. -/
def scale? : Nat → Float → Int → Option Float
  | 0, x, _ => some x
  | fuel + 1, x, exponent =>
    if exponent.natAbs ≤ 308 then
      let power := Float.ofScientific 1 false exponent.natAbs
      let y := if 0 ≤ exponent then x * power else x / power
      if Binary64.isFinite y then some y else none
    else if Binary64.rank? x = some 0 then some x
    else if 0 ≤ exponent then none
    else scale? fuel (x / Float.ofScientific 1 false 308) (exponent + 308)

/-- The greatest exponent that is told apart from greater ones. -/
def exponentLimit : Nat := Nat.pow 2 31 - 1

/-- The double that `significand * 10 ^ shift`, with the written exponent applied, stands for. Four
steps reach below the least double. -/
def toDouble? (t : JsonNumberText) (significand : Nat) (shift : Int) : Option Float :=
  let x := Binary64.ofInt significand
  let y :=
    match t.exponent with
    | none => scale? 4 x shift
    | some (negative, digits) =>
      let size := Digits.toNat digits
      if exponentLimit < size then
        if significand ≠ 0 ∧ !negative then none else some (Binary64.ofRank 0)
      else scale? 4 x (if negative then shift - size else shift + size)
  y.map fun y => if t.negative then -y else y

/-- The number that is written, if the doubles reach that far. -/
def number? (t : JsonNumberText) : Option JsonNumber :=
  let (n, left) := absorb 0 t.whole
  match t.fraction, t.exponent, left with
  | none, none, [] =>
    if !t.negative then
      some (if n < Nat.pow 2 63 then .integer (Int64.ofNat n) else .natural (UInt64.ofNat n))
    else if n = 0 ∨ Nat.pow 2 63 < n then some (.double (-Binary64.ofInt n))
    else some (.integer (Int64.ofInt (-n)))
  | fraction, _, _ =>
    let (significand, spare) := absorb n (fraction.getD [])
    let used := (fraction.getD []).length - spare.length
    (t.toDouble? significand (left.length - used)).map .double

/-- Reads digits of which there must be at least one. -/
def digits? (text : List Char) : Option (List Char × List Char) :=
  let (digits, rest) := Digits.span text
  if digits.isEmpty then none else some (digits, rest)

/-- Reads the whole part: a lone zero, or digits that do not start with zero. -/
def whole? (text : List Char) : Option (List Char × List Char) := do
  let (digits, rest) ← digits? text
  if digits.head? = some '0' ∧ digits ≠ ['0'] then none else some (digits, rest)

/-- Reads a point and digits, if the text goes on with a point. -/
def fraction? : List Char → Option (Option (List Char) × List Char)
  | '.' :: rest => (digits? rest).map fun (digits, rest) => (some digits, rest)
  | text => some (none, text)

/-- A sign, set when it is a minus, and what follows it. -/
def sign : List Char → Bool × List Char
  | '-' :: rest => (true, rest)
  | '+' :: rest => (false, rest)
  | text => (false, text)

/-- Reads an exponent, if the text goes on with one. -/
def exponent? : List Char → Option (Option (Bool × List Char) × List Char)
  | [] => some (none, [])
  | c :: rest =>
    if c = 'e' ∨ c = 'E' then
      let (negative, rest) := sign rest
      (digits? rest).map fun (digits, rest) => (some (negative, digits), rest)
    else some (none, c :: rest)

/-- Reads the number at the start of a text. -/
def read? (text : List Char) : Option (JsonNumberText × List Char) := do
  let (negative, text) := if text.head? = some '-' then (true, text.drop 1) else (false, text)
  let (whole, text) ← whole? text
  let (fraction, text) ← fraction? text
  let (exponent, text) ← exponent? text
  some ({ negative, whole, fraction, exponent }, text)

/-! ### Reading a number uses up its digits -/

theorem length_lt_of_digits? {text digits rest : List Char}
    (h : digits? text = some (digits, rest)) : rest.length < text.length := by
  unfold digits? at h
  dsimp only at h
  split at h
  · cases h
  · next hdigits =>
    cases h
    exact Digits.length_span_lt fun hnil => hdigits (List.isEmpty_iff.2 hnil)

theorem length_lt_of_whole? {text digits rest : List Char}
    (h : whole? text = some (digits, rest)) : rest.length < text.length := by
  simp only [whole?, Option.bind_eq_bind, Option.bind_eq_some_iff] at h
  obtain ⟨⟨_, _⟩, hdigits, h⟩ := h
  split at h
  · simp at h
  · obtain ⟨-, rfl⟩ := by simpa using h
    exact length_lt_of_digits? hdigits

theorem length_le_of_fraction? {text rest : List Char} {digits : Option (List Char)}
    (h : fraction? text = some (digits, rest)) : rest.length ≤ text.length := by
  unfold fraction? at h
  split at h
  · simp only [Option.map_eq_some_iff] at h
    obtain ⟨⟨_, _⟩, hdigits, h⟩ := h
    obtain ⟨-, rfl⟩ := by simpa using h
    have := length_lt_of_digits? hdigits
    simp only [List.length_cons]
    omega
  · obtain ⟨-, rfl⟩ := by simpa using h
    exact Nat.le_refl _

theorem length_sign_le (text : List Char) : (sign text).2.length ≤ text.length := by
  unfold sign
  split <;> simp

theorem length_le_of_exponent? {text rest : List Char} {digits : Option (Bool × List Char)}
    (h : exponent? text = some (digits, rest)) : rest.length ≤ text.length := by
  unfold exponent? at h
  split at h
  · obtain ⟨-, rfl⟩ := by simpa using h
    exact Nat.le_refl _
  · next c tail =>
    split at h
    · simp only [Option.map_eq_some_iff] at h
      obtain ⟨⟨_, _⟩, hdigits, h⟩ := h
      obtain ⟨-, rfl⟩ := by simpa using h
      have h₁ := length_lt_of_digits? hdigits
      have h₂ := length_sign_le tail
      simp only [List.length_cons]
      omega
    · obtain ⟨-, rfl⟩ := by simpa using h
      exact Nat.le_refl _

theorem length_lt_of_read? {text rest : List Char} {number : JsonNumberText}
    (h : read? text = some (number, rest)) : rest.length < text.length := by
  simp only [read?, Option.bind_eq_bind, Option.bind_eq_some_iff] at h
  obtain ⟨⟨_, _⟩, hwhole, ⟨_, _⟩, hfraction, ⟨_, _⟩, hexponent, h⟩ := h
  obtain ⟨-, rfl⟩ := by simpa using h
  have h₁ := length_lt_of_whole? hwhole
  have h₂ := length_le_of_fraction? hfraction
  have h₃ := length_le_of_exponent? hexponent
  have h₄ : (if text.head? = some '-' then (true, text.drop 1) else (false, text)).2.length ≤
      text.length := by
    split <;> simp
  dsimp only at h₁ h₂ h₃
  omega

end JsonNumberText

end QueryFilters
