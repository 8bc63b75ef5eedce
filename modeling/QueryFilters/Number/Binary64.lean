/-!
# The order of the 64-bit floating-point numbers

Apart from the values that are not numbers, the doubles lie on a line, and the bits of a double tell
its place: the rank of zero is 0, the next double above a rank has the next rank, and a negative
double has the rank of its opposite, negated. Both zeros have rank 0. Comparing doubles is comparing
their ranks, and an integer is compared with a double through the rank of the double nearest to it.
-/

namespace QueryFilters.Binary64

/-- The rank of the infinity: one above that of the greatest finite double. -/
def infinityRank : Nat := 0x7FF0000000000000

/-- The place of a double on the line, if it is a number. -/
def rank? (x : Float) : Option Int :=
  let bits := x.toBits.toNat
  let magnitude := bits % Nat.pow 2 63
  if magnitude ≤ infinityRank then
    some (if bits < Nat.pow 2 63 then (magnitude : Int) else -(magnitude : Int))
  else none

/-- The double at a place on the line. -/
def ofRank (rank : Int) : Float :=
  Float.ofBits (UInt64.ofNat (if rank < 0 then Nat.pow 2 63 + rank.natAbs else rank.natAbs))

/-- How two doubles compare; a value that is not a number compares with none. -/
def compare? (x y : Float) : Option Ordering :=
  match rank? x, rank? y with
  | some a, some b => some (compare a b)
  | _, _ => none

/-- Whether `x` is at most `y`. -/
def atMost (x y : Float) : Bool :=
  (compare? x y).any Ordering.isLE

/-- Whether a double is a number other than the infinities. -/
def isFinite (x : Float) : Bool :=
  (rank? x).any fun rank => rank.natAbs < infinityRank

/-- The integer nearest to `num / den`, the even one where two are equally near. -/
def nearestEven (num den : Nat) : Nat :=
  let low := num / den
  let rest := num % den
  if den < 2 * rest ∨ (2 * rest = den ∧ low % 2 = 1) then low + 1 else low

/-- The rank of the double nearest to a natural number, of two equally near ones the one with the
even significand. -/
def rankOfNat (n : Nat) : Nat :=
  if n = 0 then 0
  else
    let exponent := n.log2
    (1022 + exponent) * Nat.pow 2 52 + nearestEven (n * Nat.pow 2 52) (Nat.pow 2 exponent)

/-- The rank of the double nearest to an integer. -/
def rankOfInt (n : Int) : Int :=
  if n < 0 then -(rankOfNat n.natAbs : Int) else (rankOfNat n.natAbs : Int)

/-- The double nearest to an integer. -/
def ofInt (n : Int) : Float :=
  ofRank (rankOfInt n)

end QueryFilters.Binary64
