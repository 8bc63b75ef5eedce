import QueryFilters.Number.Digits

/-!
# Times of day

Hour, minute, second and nanosecond. A leap second is added to the second before it, whose
nanoseconds then go on beyond a thousand million. Times that are put together from their parts have
leap seconds at the end of a minute only, but the nanosecond of a time can be set to one of a leap
second at any second.
-/

namespace QueryFilters

/-- A time of day to the nanosecond. -/
structure TimeOfDay where
  hour : Nat
  minute : Nat
  second : Nat
  nanosecond : Nat
  hour_lt : hour < 24
  minute_lt : minute < 60
  second_lt : second < 60
  nanosecond_lt : nanosecond < 2000000000
deriving DecidableEq

namespace TimeOfDay

/-- The time with the given parts, if there is one without a leap second inside a minute. -/
def of? (hour minute second nanosecond : Nat) : Option TimeOfDay :=
  if h : hour < 24 ∧ minute < 60 ∧ second < 60 ∧ nanosecond < 2000000000 ∧
      (1000000000 ≤ nanosecond → second = 59) then
    some ⟨hour, minute, second, nanosecond, h.1, h.2.1, h.2.2.1, h.2.2.2.1⟩
  else none

/-- The same second with another nanosecond, if there is one. -/
def withNanosecond? (t : TimeOfDay) (nanosecond : Nat) : Option TimeOfDay :=
  if h : nanosecond < 2000000000 then some { t with nanosecond, nanosecond_lt := h } else none

/-- The same second in a minute that is counted from midnight, round the clock. -/
def inMinute (t : TimeOfDay) (minute : Nat) : TimeOfDay :=
  { t with
    hour := minute / 60 % 24
    minute := minute % 60
    hour_lt := Nat.mod_lt _ (by decide)
    minute_lt := Nat.mod_lt _ (by decide) }

/-- The start of the day. -/
def midnight : TimeOfDay :=
  ⟨0, 0, 0, 0, by decide, by decide, by decide, by decide⟩

/-- Times are ordered by hour, minute, second and nanosecond. -/
instance : Ord TimeOfDay where
  compare := compareLex (compareOn hour) (compareLex (compareOn minute)
    (compareLex (compareOn second) (compareOn nanosecond)))

/-- Whether a time lies in a leap second. -/
def isLeap (t : TimeOfDay) : Bool :=
  1000000000 ≤ t.nanosecond

/-- The fraction of a second in three, six or nine digits, as few as are exact. -/
def fractionText (nanosecond : Nat) : List Char :=
  if nanosecond = 0 then []
  else if nanosecond % 1000000 = 0 then '.' :: Digits.padded 3 (nanosecond / 1000000)
  else if nanosecond % 1000 = 0 then '.' :: Digits.padded 6 (nanosecond / 1000)
  else '.' :: Digits.padded 9 nanosecond

/-- The text of a time; a leap second is written as the one that follows, 60 at the end of a
minute. -/
def toText (t : TimeOfDay) : String :=
  let second := if t.isLeap then t.second + 1 else t.second
  let nanosecond := if t.isLeap then t.nanosecond - 1000000000 else t.nanosecond
  String.ofList (Digits.padded 2 t.hour ++ ':' :: Digits.padded 2 t.minute ++
    ':' :: Digits.padded 2 second ++ fractionText nanosecond)

end TimeOfDay

end QueryFilters
