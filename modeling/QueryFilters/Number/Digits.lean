/-!
# Whole numbers in digits

Decimal and hexadecimal digits, read and written.
-/

namespace QueryFilters.Digits

/-- The decimal digits of a number, the leading one not zero unless it is the only one. -/
def ofNat (n : Nat) : List Char :=
  Nat.toDigits 10 n

/-- The decimal digits of a number, led by zeros up to the given width. -/
def padded (width n : Nat) : List Char :=
  let digits := ofNat n
  List.replicate (width - digits.length) '0' ++ digits

/-- The decimal text of a number. -/
def natText (n : Nat) : String :=
  String.ofList (ofNat n)

/-- The decimal text of an integer, a minus sign leading when it is negative. -/
def intText (n : Int) : String :=
  String.ofList (if n < 0 then '-' :: ofNat n.natAbs else ofNat n.natAbs)

/-- The value of a decimal digit. -/
def value? (c : Char) : Option Nat :=
  if '0' ≤ c ∧ c ≤ '9' then some (c.toNat - '0'.toNat) else none

/-- Whether `c` is one of the ten ASCII digits. -/
def isDigit (c : Char) : Bool :=
  (value? c).isSome

/-- The digits at the start of a text, and what follows them. -/
def span (text : List Char) : List Char × List Char :=
  (text.takeWhile isDigit, text.dropWhile isDigit)

theorem append_span (text : List Char) : (span text).1 ++ (span text).2 = text :=
  List.takeWhile_append_dropWhile

theorem length_span_lt {text : List Char} (h : (span text).1 ≠ []) :
    (span text).2.length < text.length := by
  have hlength := congrArg List.length (append_span text)
  rw [List.length_append] at hlength
  have hpos := List.length_pos_iff.2 h
  omega

/-- The number that a run of digits denotes. -/
def toNat (digits : List Char) : Nat :=
  digits.foldl (fun n c => 10 * n + (value? c).getD 0) 0

/-- The value of a hexadecimal digit of either case. -/
def hexValue? (c : Char) : Option Nat :=
  if '0' ≤ c ∧ c ≤ '9' then some (c.toNat - '0'.toNat)
  else if 'a' ≤ c ∧ c ≤ 'f' then some (c.toNat - 'a'.toNat + 10)
  else if 'A' ≤ c ∧ c ≤ 'F' then some (c.toNat - 'A'.toNat + 10)
  else none

/-- The number that a text of hexadecimal digits denotes, when it holds nothing else. -/
def hexToNat? (text : List Char) : Option Nat :=
  text.foldlM (fun n c => (hexValue? c).map (16 * n + ·)) 0

/-- The hexadecimal digits of a number in lower case, without leading zeros. -/
def hexOfNat (n : Nat) : List Char :=
  Nat.toDigits 16 n

/-- The hexadecimal digits of a number in lower case, led by zeros up to the given width. -/
def hexPadded (width n : Nat) : List Char :=
  let digits := hexOfNat n
  List.replicate (width - digits.length) '0' ++ digits

end QueryFilters.Digits
