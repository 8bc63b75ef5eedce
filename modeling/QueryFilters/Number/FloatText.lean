import QueryFilters.Number.Shortest
import QueryFilters.Number.Binary64

/-!
# The text of a floating-point number

The shortest decimal that reads back, written positionally where its leading digit lies within
bounds and with an exponent elsewhere. Two styles are in use: one for messages, one for JSON.
-/

namespace QueryFilters

/-- The choices a text of doubles leaves open. -/
structure FloatStyle where
  /-- The least exponent of the leading digit that is written positionally. -/
  least : Int
  /-- The greatest exponent of the leading digit that is written positionally. -/
  greatest : Int
  /-- Whether a positive exponent shows its sign. -/
  plus : Bool
  /-- Whether the greater of two equally near decimals is taken, and not the even one. -/
  tieUp : Bool

namespace FloatStyle

/-- Messages write `1e16` and `1e-5` with an exponent. -/
def message : FloatStyle where
  least := -4
  greatest := 15
  plus := false
  tieUp := true

/-- JSON writes `1e+16` and `1e-6` with an exponent. -/
def json : FloatStyle where
  least := -5
  greatest := 15
  plus := true
  tieUp := false

/-- A decimal written out, with at least one digit on each side of the point. -/
def positional (digits : List Char) (lead : Int) : List Char :=
  if lead < 0 then '0' :: '.' :: List.replicate (-lead - 1).toNat '0' ++ digits
  else
    let whole := lead.toNat + 1
    let fraction := digits.drop whole
    digits.take whole ++ List.replicate (whole - digits.length) '0' ++
      '.' :: (if fraction.isEmpty then ['0'] else fraction)

/-- A decimal with one digit before the point and an exponent. -/
def scientific (style : FloatStyle) (digits : List Char) (lead : Int) : List Char :=
  let fraction := digits.drop 1
  digits.take 1 ++ (if fraction.isEmpty then [] else '.' :: fraction) ++
    'e' :: (if lead < 0 then ['-'] else if style.plus then ['+'] else []) ++
    Digits.ofNat lead.natAbs

/-- The text of a nonnegative finite double given by its bits. -/
def magnitudeText (style : FloatStyle) (magnitude : Nat) : List Char :=
  let d := Shortest.decimal style.tieUp magnitude
  let digits := Digits.ofNat d.digits
  let lead := d.exponent + digits.length - 1
  if style.least ≤ lead ∧ lead ≤ style.greatest then positional digits lead
  else scientific style digits lead

/-- The text of a double; the values without a decimal are named. -/
def text (style : FloatStyle) (x : Float) : String :=
  let bits := x.toBits.toNat
  let magnitude := bits % Nat.pow 2 63
  if Binary64.infinityRank < magnitude then "NaN"
  else
    let body :=
      if magnitude = Binary64.infinityRank then "inf".toList else magnitudeText style magnitude
    String.ofList (if bits < Nat.pow 2 63 then body else '-' :: body)

end FloatStyle

end QueryFilters
