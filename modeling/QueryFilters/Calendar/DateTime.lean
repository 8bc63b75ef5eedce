import QueryFilters.Calendar.Date
import QueryFilters.Calendar.TimeOfDay

/-!
# Points in time

A day and a time of day, without a zone. Times of other zones are moved to this one by their offset
in minutes.
-/

namespace QueryFilters

/-- A day and a time of day. -/
structure DateTime where
  date : Date
  time : TimeOfDay
deriving DecidableEq

namespace DateTime

/-- Points in time are ordered by day, and within a day by time. -/
instance : Ord DateTime where
  compare := compareLex (compareOn date) (compareOn time)

/-- The first moment of a day. -/
def startOf (d : Date) : DateTime :=
  ⟨d, .midnight⟩

/-- The same second with another nanosecond, if there is one. -/
def withNanosecond? (dt : DateTime) (nanosecond : Nat) : Option DateTime :=
  (dt.time.withNanosecond? nanosecond).map fun time => { dt with time }

/-- The point in time without what lies below the millisecond. -/
def truncateMillis (dt : DateTime) : DateTime :=
  (dt.withNanosecond? (dt.time.nanosecond / 1000000 * 1000000)).getD dt

/-- The point in time `minutes` earlier, for a shift of less than a day. -/
def minusMinutes? (dt : DateTime) (minutes : Int) : Option DateTime := do
  let total := (dt.time.hour * 60 + dt.time.minute : Nat) - minutes
  let date ←
    if total < 0 then dt.date.pred? else if 1440 ≤ total then dt.date.succ? else some dt.date
  some ⟨date, dt.time.inMinute (total % 1440).toNat⟩

/-- Whether a point in time lies in the last minute of a month. -/
def isEndOfMonth (dt : DateTime) : Bool :=
  dt.time.hour == 23 && dt.time.minute == 59 &&
    dt.date.day == Calendar.daysInMonth dt.date.year dt.date.month

/-- The text of a point in time: the day, the letter T and the time. -/
def toText (dt : DateTime) : String :=
  dt.date.toText ++ "T" ++ dt.time.toText

end DateTime

end QueryFilters
