import QueryFilters.Json.Basic

/-!
# Strings in JSON text

Escapes may give a character outside the basic plane as the two halves of a surrogate pair, so a
string is first read as code units and the halves are united afterwards. A half without its partner
has no character, but it has bytes.
-/

namespace QueryFilters.JsonStringText

/-- The character that a letter stands for after a backslash. -/
def escaped? (c : Char) : Option Char :=
  if c = '\x22' ∨ c = '\\' ∨ c = '/' then some c
  else if c = 'b' then some '\x08'
  else if c = 'f' then some '\x0c'
  else if c = 'n' then some '\n'
  else if c = 'r' then some '\r'
  else if c = 't' then some '\t'
  else none

/-- Reads the rest of a string after its opening quote: its code units, and what follows the
closing quote. Controls must be escaped unless `bare` is set. -/
def units? (bare : Bool) : List Char → Option (List Nat × List Char)
  | [] => none
  | '\x22' :: rest => some ([], rest)
  | '\\' :: 'u' :: a :: b :: c :: d :: rest => do
    let unit ← Digits.hexToNat? [a, b, c, d]
    let (units, rest) ← units? bare rest
    some (unit :: units, rest)
  | '\\' :: c :: rest => do
    let unit ← escaped? c
    let (units, rest) ← units? bare rest
    some (unit.toNat :: units, rest)
  | c :: rest => do
    if (!bare && c.toNat < 0x20) || c = '\\' then none
    else
      let (units, rest) ← units? bare rest
      some (c.toNat :: units, rest)

/-- Reading a string uses up its closing quote. -/
theorem length_lt_of_units? {bare : Bool} {text rest : List Char} {units : List Nat}
    (h : units? bare text = some (units, rest)) : rest.length < text.length := by
  fun_induction units? bare text generalizing units rest with
  | case1 => simp at h
  | case2 tail =>
    obtain ⟨-, rfl⟩ := by simpa using h
    simp
  | case3 a b c d tail ih =>
    simp only [Option.bind_eq_bind, Option.bind_eq_some_iff] at h
    obtain ⟨_, _, ⟨_, _⟩, hrest, h⟩ := h
    obtain ⟨-, rfl⟩ := by simpa using h
    have := ih hrest
    simp only [List.length_cons]
    omega
  | case4 c tail _ ih =>
    simp only [Option.bind_eq_bind, Option.bind_eq_some_iff] at h
    obtain ⟨_, _, ⟨_, _⟩, hrest, h⟩ := h
    obtain ⟨-, rfl⟩ := by simpa using h
    have := ih hrest
    simp only [List.length_cons]
    omega
  | case5 => simp at h
  | case6 c tail _ _ _ _ ih =>
    simp only [Option.bind_eq_bind, Option.bind_eq_some_iff] at h
    obtain ⟨⟨_, _⟩, hrest, h⟩ := h
    obtain ⟨-, rfl⟩ := by simpa using h
    have := ih hrest
    simp only [List.length_cons]
    omega

/-- Whether a code unit is the first half of a pair. -/
def isHigh (unit : Nat) : Bool :=
  0xD800 ≤ unit && unit ≤ 0xDBFF

/-- Whether a code unit is the second half of a pair. -/
def isLow (unit : Nat) : Bool :=
  0xDC00 ≤ unit && unit ≤ 0xDFFF

/-- The characters that code units stand for, when every half has its partner. -/
def chars? : List Nat → Option (List Char)
  | [] => some []
  | [unit] => if isHigh unit || isLow unit then none else some [Char.ofNat unit]
  | unit :: next :: rest =>
    if isHigh unit then
      if isLow next then
        (chars? rest).map
          (Char.ofNat (0x10000 + (unit - 0xD800) * 0x400 + (next - 0xDC00)) :: ·)
      else none
    else if isLow unit then none
    else (chars? (next :: rest)).map (Char.ofNat unit :: ·)

/-- The number of bytes of a code unit by itself. -/
def width (unit : Nat) : Nat :=
  if unit < 0x80 then 1 else if unit < 0x800 then 2 else if unit < 0x10000 then 3 else 4

/-- The number of bytes of code units, four for the two halves of a pair. -/
def size : List Nat → Nat
  | [] => 0
  | [unit] => width unit
  | unit :: next :: rest =>
    if isHigh unit && isLow next then 4 + size rest else width unit + size (next :: rest)

end QueryFilters.JsonStringText
