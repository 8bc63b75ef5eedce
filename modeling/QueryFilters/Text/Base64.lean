/-!
# Base64

Bytes in text, six bits a digit. The digits come in groups of four; the last group may lack one or
two digits, in whose place equals signs stand, and then the bits beyond the last byte are zero.
-/

namespace QueryFilters.Base64

/-- The six bits that a digit stands for. -/
def value? (c : Char) : Option Nat :=
  if 'A' ≤ c ∧ c ≤ 'Z' then some (c.toNat - 'A'.toNat)
  else if 'a' ≤ c ∧ c ≤ 'z' then some (c.toNat - 'a'.toNat + 26)
  else if '0' ≤ c ∧ c ≤ '9' then some (c.toNat - '0'.toNat + 52)
  else if c = '+' then some 62
  else if c = '/' then some 63
  else none

/-- Whether a character is a digit. -/
def isDigit (c : Char) : Bool :=
  (value? c).isSome

/-- Whether a character is a digit whose last `count` bits are zero. -/
def endsInZeros (count : Nat) (c : Char) : Bool :=
  (value? c).any fun bits => bits % Nat.pow 2 count == 0

/-- Whether a text stands for bytes. -/
def isEncoded : List Char → Bool
  | [] => true
  | [a, b, '=', '='] => isDigit a && endsInZeros 4 b
  | [a, b, c, '='] => isDigit a && isDigit b && endsInZeros 2 c
  | a :: b :: c :: d :: rest => [a, b, c, d].all isDigit && isEncoded rest
  | _ => false

end QueryFilters.Base64
