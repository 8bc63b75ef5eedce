import QueryFilters.Number.Scientific

/-!
# Decimal numbers of 128 bits

The numbers `coefficient * 10 ^ exponent` with at most 34 digits and an exponent within bounds. A
text is read only if the number that it denotes is one of them.
-/

namespace QueryFilters.Decimal128

/-- The greatest number of digits. -/
def precision : Nat := 34

/-- The least exponent. -/
def leastExponent : Int := -6176

/-- The greatest exponent. -/
def greatestExponent : Int := 6111

/-- Whether a text is a coefficient: digits, which a plus sign may precede. -/
def isCoefficient (text : List Char) : Bool :=
  let digits := if text.head? = some '+' then text.tail else text
  !digits.isEmpty && digits.all Digits.isDigit

/-- Takes places off the end of a coefficient. Only zeros can be taken off. -/
def dropPlaces? (count : Nat) (coefficient : List Char) : Option (List Char) :=
  let kept := coefficient.length - count
  if count ≤ coefficient.length ∧ (coefficient.drop kept).all (· == '0') then
    some (coefficient.take kept)
  else none

/-- Whether a coefficient without leading zeros fits the format at an exponent. Places beyond the
precision and places below the least exponent are taken off, and zeros at the end make up for an
exponent beyond the greatest. Exponents are counted in 16 bits. -/
def representsAt (coefficient : List Char) (exponent : Int) : Bool :=
  let excess := coefficient.length - precision
  let exponent := exponent + excess
  let lacking := (leastExponent - exponent).toNat
  let padding := (exponent + lacking - greatestExponent).toNat
  Scientific.fits 16 excess && Scientific.fits 16 exponent &&
    (dropPlaces? (excess + lacking) coefficient).any fun kept =>
      kept.length + padding ≤ precision && isCoefficient (kept ++ List.replicate padding '0')

/-- Whether a character leads an exponent. -/
def isExponentMark (c : Char) : Bool :=
  c == 'e' || c == 'E'

/-- The exponent that follows the coefficient, zero if there is none. -/
def exponent? : List Char → Option Int
  | [] => some 0
  | _ :: text => Scientific.integer? text

/-- Whether a text without a sign denotes a number of this format. Leading zeros are passed over,
and a coefficient of nothing else is zero, which has every exponent. -/
def isNumber (text : List Char) : Bool :=
  let mantissa := text.takeWhile (!isExponentMark ·)
  let whole := mantissa.takeWhile (· != '.')
  let fraction := (mantissa.dropWhile (· != '.')).drop 1
  let coefficient := (whole ++ fraction).dropWhile (· == '0')
  match exponent? (text.dropWhile (!isExponentMark ·)) with
  | none => false
  | some exponent =>
    let shifted := exponent - (fraction.length : Int)
    Scientific.fits 16 exponent && Scientific.fits 16 fraction.length &&
      Scientific.fits 16 shifted && (coefficient.isEmpty || representsAt coefficient shifted)

/-- The words for what is no finite number. -/
def words : List String := ["nan", "snan", "inf", "infinity"]

/-- Whether a text denotes a number of this format or what is no finite number. -/
def canRead (text : List Char) : Bool :=
  Scientific.isWord words text || isNumber (Scientific.sign text).2

end QueryFilters.Decimal128
