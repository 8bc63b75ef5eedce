import QueryFilters.Number.Binary64
import QueryFilters.Number.Digits

/-!
# Decimal numbers in text

A number with an optional sign, a whole part, a fraction and an exponent, and the double it denotes.
-/

namespace QueryFilters

/-- A decimal number as it is written: its digits in the order of the text. -/
structure Scientific where
  negative : Bool
  whole : List Char
  fraction : List Char
  /-- The exponent's sign, set when it is negative, and its digits. -/
  exponent : Bool × List Char

namespace Scientific

/-- A sign at the start of a text, set when it is a minus, and what follows it. -/
def sign : List Char → Bool × List Char
  | '-' :: rest => (true, rest)
  | '+' :: rest => (false, rest)
  | text => (false, text)

/-- The integer written with an optional sign and at least one digit. -/
def integer? (text : List Char) : Option Int :=
  let (negative, digits) := sign text
  if digits.isEmpty || !digits.all Digits.isDigit then none
  else some (if negative then -(Digits.toNat digits : Int) else (Digits.toNat digits : Int))

/-- Whether an integer fits a word of `bits` bits with a sign. -/
def fits (bits : Nat) (n : Int) : Bool :=
  -(Nat.pow 2 (bits - 1) : Int) ≤ n && n < (Nat.pow 2 (bits - 1) : Int)

/-- Whether a text is one of the words in any case, after an optional sign. -/
def isWord (words : List String) (text : List Char) : Bool :=
  words.contains (String.ofList ((sign text).2.map Char.toLower))

/-- The digits after a point, if the text goes on with one, and the rest. -/
def point : List Char → List Char × List Char
  | '.' :: rest => Digits.span rest
  | text => ([], text)

/-- An exponent: nothing, or a letter, a sign and at least one digit up to the end of the text. -/
def exponent? : List Char → Option (Bool × List Char)
  | [] => some (false, [])
  | mark :: rest =>
    let (negative, digits) := sign rest
    if (mark = 'e' ∨ mark = 'E') ∧ !digits.isEmpty ∧ digits.all Digits.isDigit then
      some (negative, digits)
    else none

/-- Reads a number that fills the text and has a digit before or after the point. -/
def read? (text : List Char) : Option Scientific := do
  let (negative, text) := sign text
  let (whole, text) := Digits.span text
  let (fraction, text) := point text
  if whole.isEmpty && fraction.isEmpty then none
  else
    let exponent ← exponent? text
    some { negative, whole, fraction, exponent }

/-- The exponent as an integer. -/
def exponentValue (s : Scientific) : Int :=
  if s.exponent.1 then -(Digits.toNat s.exponent.2 : Int) else (Digits.toNat s.exponent.2 : Int)

/-- The double nearest to `digits * 10 ^ exponent`. Beyond a thousand places on either side the
answer no longer depends on the exponent. -/
def nearest (digits : Nat) (exponent : Int) : Float :=
  let lead := exponent + (Digits.ofNat digits).length
  if digits = 0 ∨ lead < -400 then Binary64.ofRank 0
  else if 400 < lead then Binary64.ofRank Binary64.infinityRank
  else Float.ofScientific digits (exponent < 0) exponent.natAbs

/-- The double nearest to the number, infinite when there is no finite one near. -/
def toFloat (s : Scientific) : Float :=
  let x := nearest (Digits.toNat (s.whole ++ s.fraction)) (s.exponentValue - s.fraction.length)
  if s.negative then -x else x

end Scientific

end QueryFilters
