import QueryFilters.Json.Reader
import QueryFilters.Proofs.Number.Digits

/-!
# Strings that read back

A string is written character by character, and each piece is read as one code unit, the number of
its character (`units?_quotedChar`). Numbers of characters lie outside of the surrogates, so no two
of them are united and each gives its character back (`chars?_map_toNat`).
-/

namespace QueryFilters

namespace JsonStringText

/-- Puts a code unit before what is read. -/
def consUnit (unit : Nat) (read : Option (List Nat × List Char)) : Option (List Nat × List Char) :=
  read.map fun (units, rest) => (unit :: units, rest)

/-- A letter after a backslash is one code unit. -/
theorem units?_escaped (bare : Bool) {letter c : Char} (h : escaped? letter = some c)
    (hletter : letter ≠ 'u') (rest : List Char) :
    units? bare ('\\' :: letter :: rest) = consUnit c.toNat (units? bare rest) := by
  rw [units?, h]
  · cases units? bare rest <;> rfl
  · intro _ _ _ _ _ heq
    exact absurd heq hletter

/-- Four hexadecimal digits after a backslash and a letter are one code unit. -/
theorem units?_hex (bare : Bool) {digits : List Char} (hlength : digits.length = 4) {unit : Nat}
    (h : Digits.hexToNat? digits = some unit) (rest : List Char) :
    units? bare ('\\' :: 'u' :: (digits ++ rest)) = consUnit unit (units? bare rest) := by
  match digits, hlength with
  | [a, b, c, d], _ =>
    simp only [List.cons_append, List.nil_append, units?, h]
    cases units? bare rest <;> rfl

/-- A character that needs no escape is one code unit. -/
theorem units?_plain (bare : Bool) {c : Char} (hquote : c ≠ '\x22') (hslash : c ≠ '\\')
    (hcontrol : ¬c.toNat < 0x20) (rest : List Char) :
    units? bare (c :: rest) = consUnit c.toNat (units? bare rest) := by
  rw [units?]
  · simp only [hslash, hcontrol, decide_false, Bool.and_false, Bool.or_self, Bool.false_eq_true,
      if_false]
    cases units? bare rest <;> rfl
  · exact hquote
  · exact fun _ _ _ _ _ heq => absurd heq hslash
  · exact fun _ _ heq => absurd heq hslash

/-- A character is read from the piece in which it is written. -/
theorem units?_quotedChar (bare : Bool) (c : Char) (rest : List Char) :
    units? bare (Json.quotedChar c ++ rest) = consUnit c.toNat (units? bare rest) := by
  unfold Json.quotedChar
  -- Seven characters have a letter of their own after the backslash.
  iterate 7
    split
    · next h =>
      subst h
      exact units?_escaped bare rfl (by decide) rest
  split
  · next h =>
    have hlength : (Digits.hexPadded 4 c.toNat).length = 4 :=
      Digits.length_hexPadded (by decide) (by omega)
    exact units?_hex bare hlength (Digits.hexToNat?_hexPadded 4 c.toNat) rest
  · next hquote hslash _ _ _ _ _ hcontrol => exact units?_plain bare hquote hslash hcontrol rest

/-- The characters of a string are read up to its closing quote. -/
theorem units?_quoted (bare : Bool) (chars rest : List Char) :
    units? bare (chars.flatMap Json.quotedChar ++ '\x22' :: rest) =
      some (chars.map Char.toNat, rest) := by
  induction chars with
  | nil => rfl
  | cons c chars ih =>
    rw [List.flatMap_cons, List.append_assoc, units?_quotedChar, ih]
    rfl

theorem not_surrogate (c : Char) : isHigh c.toNat = false ∧ isLow c.toNat = false := by
  have hvalid : c.toNat < 0xD800 ∨ 0xDFFF < c.toNat ∧ c.toNat < 0x110000 := c.valid
  simp only [isHigh, isLow, Bool.and_eq_false_iff, decide_eq_false_iff_not]
  omega

/-- The numbers of characters stand for the characters. -/
theorem chars?_map_toNat (chars : List Char) : chars? (chars.map Char.toNat) = some chars := by
  induction chars with
  | nil => rfl
  | cons c chars ih =>
    obtain ⟨hhigh, hlow⟩ := not_surrogate c
    cases chars with
    | nil => simp [chars?, hhigh, hlow]
    | cons next chars =>
      rw [List.map_cons] at ih
      rw [List.map_cons, List.map_cons, chars?, ih]
      simp [hhigh, hlow]

end JsonStringText

namespace Json

/-- The code units of a string are read up to its closing quote. -/
theorem units?_quoted (bare : Bool) (s : String) (rest : List Char) :
    ∃ h, units? bare (s.toList.flatMap quotedChar ++ '\x22' :: rest) =
      some (s.toList.map Char.toNat, ⟨rest, h⟩) := by
  have hread := JsonStringText.units?_quoted bare s.toList rest
  refine ⟨JsonStringText.length_lt_of_units? hread, ?_⟩
  unfold units?
  split
  · next heq =>
    rw [hread] at heq
    cases heq
    rfl
  · next heq =>
    rw [hread] at heq
    cases heq

theorem unitsText?_map_toNat (s : String) : unitsText? (s.toList.map Char.toNat) = some s := by
  rw [unitsText?, JsonStringText.chars?_map_toNat, Option.map_some, String.ofList_toList]

/-- A string reads back from its text. -/
theorem string?_quoted (bare : Bool) (s : String) (rest : List Char) :
    ∃ h, string? bare (s.toList.flatMap quotedChar ++ '\x22' :: rest) =
      some (string s, ⟨rest, h⟩) := by
  obtain ⟨h, hread⟩ := units?_quoted false s rest
  refine ⟨h, ?_⟩
  rw [string?, hread]
  simp only [unitsText?_map_toNat, Option.elim_some]

theorem toList_quoted (s : String) :
    (quoted s).toList = '\x22' :: (s.toList.flatMap quotedChar ++ ['\x22']) := by
  simp [quoted]

/-- A name reads back with the colon after it. -/
theorem name?_quoted (s : String) (rest : List Char) :
    ∃ h, name? ((quoted s).toList ++ ':' :: rest) = some (some s, ⟨rest, h⟩) := by
  rw [toList_quoted, List.cons_append, List.append_assoc, List.singleton_append]
  obtain ⟨h, hread⟩ := units?_quoted false s (':' :: rest)
  refine ⟨by simp; omega, ?_⟩
  simp only [name?, hread, Option.bind_eq_bind, Option.bind_some]
  split
  · next heq =>
    cases heq
    rw [unitsText?_map_toNat]
  · next hcolon => exact absurd rfl (hcolon rest)

end Json

end QueryFilters
