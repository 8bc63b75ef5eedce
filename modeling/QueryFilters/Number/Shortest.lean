import QueryFilters.Number.Digits

/-!
# The shortest decimal that reads back

Every finite double is the nearest one to a whole interval of real numbers. Its shortest decimal is
the decimal in that interval with the fewest digits, and among those the one nearest to the double.
All arithmetic here is exact: lengths are counted in units of `2 ^ -1076`, a quarter of the least
positive double, in which every double and every end of its interval is whole.
-/

namespace QueryFilters

/-- The number `digits * 10 ^ exponent`. -/
structure Decimal where
  digits : Nat
  exponent : Int
deriving DecidableEq

namespace Shortest

/-- A positive double with the interval of numbers that round to it, in units of `2 ^ -1076`. -/
structure Interval where
  value : Nat
  low : Nat
  high : Nat
  /-- Whether the two ends belong to the interval. -/
  closed : Bool

/-- The interval of the double whose bits, without the sign, are `magnitude`. -/
def interval (magnitude : Nat) : Interval :=
  let field := magnitude / Nat.pow 2 52
  let fraction := magnitude % Nat.pow 2 52
  let significand := if field = 0 then fraction else Nat.pow 2 52 + fraction
  let unit := Nat.pow 2 (field - 1)
  let below := if fraction = 0 ∧ 1 < field then unit else 2 * unit
  { value := 4 * significand * unit
    low := 4 * significand * unit - below
    high := 4 * significand * unit + 2 * unit
    closed := significand % 2 == 0 }

/-- Whether `num / den` lies in the interval. -/
def Interval.holds (i : Interval) (num den : Nat) : Bool :=
  if i.closed then i.low * den ≤ num && num ≤ i.high * den
  else i.low * den < num && num < i.high * den

/-- The numerator of `10 ^ exponent` in units of `2 ^ -1076`. -/
def stepNum (exponent : Int) : Nat :=
  Nat.pow 10 exponent.toNat * Nat.pow 2 1076

/-- The denominator that goes with `stepNum`. -/
def stepDen (exponent : Int) : Nat :=
  Nat.pow 10 (-exponent).toNat

/-- The multiple of `10 ^ exponent` in the interval nearest to the double, if there is one. Where
two are equally near, `up` chooses the greater and otherwise the even one is taken. -/
def onGrid? (up : Bool) (i : Interval) (exponent : Int) : Option Decimal :=
  let num := stepNum exponent
  let den := stepDen exponent
  let low := i.value * den / num
  let rest := i.value * den % num
  let lowHit := i.holds (low * num) den
  let highHit := i.holds ((low + 1) * num) den
  let preferHigh := num < 2 * rest || (2 * rest == num && (up || low % 2 == 1))
  if lowHit && !(highHit && preferHigh) then some ⟨low, exponent⟩
  else if highHit then some ⟨low + 1, exponent⟩
  else none

/-- The exponent of the leading decimal digit of the double. -/
def leading (i : Interval) : Int :=
  let scaled := i.value * Nat.pow 10 330 / Nat.pow 2 1076
  ((Digits.ofNat scaled).length : Int) - 331

/-- The decimal without the zeros at the end of its digits. -/
def stripZeros : Nat → Decimal → Decimal
  | 0, d => d
  | fuel + 1, d =>
    if d.digits ≠ 0 ∧ d.digits % 10 = 0 then stripZeros fuel ⟨d.digits / 10, d.exponent + 1⟩ else d

/-- The first grid of `count` digits or more on which the interval has a point. Seventeen digits
always suffice. -/
def search (up : Bool) (i : Interval) (top : Int) : Nat → Nat → Decimal
  | 0, count => ⟨i.value * stepDen (top - count) / stepNum (top - count), top - count⟩
  | fuel + 1, count =>
    match onGrid? up i (top - count) with
    | some d => d
    | none => search up i top fuel (count + 1)

/-- The shortest decimal of the double whose bits, without the sign, are `magnitude`. -/
def decimal (up : Bool) (magnitude : Nat) : Decimal :=
  if magnitude = 0 then ⟨0, 0⟩
  else
    let i := interval magnitude
    stripZeros 18 (search up i (leading i) 17 0)

end Shortest

end QueryFilters
