import QueryFilters.Proofs.Value.Order

/-!
# One day after another

Days come in the order of their years, months and days of the month. One day *follows* another if it
is later and no day lies between them, so the days before it are those up to the other
(`Date.Follows.lt_iff`). The day that `Date.succ?` gives follows the given one
(`Date.follows_of_succ?`), and where it gives none no day comes after at all (`Date.isLE_of_succ?`).

A point in time is therefore on a day exactly if it is not before the start of that day, and before
the start of the day that follows (`DateTime.date_eq_iff_of_follows`), if one does
(`DateTime.date_eq_iff_of_last`). Leap seconds belong to the day in which they are counted.
-/

namespace QueryFilters

open Calendar

namespace Date

/-! ### The order of days -/

theorem compare_eq_then (d e : Date) : compare d e =
    (compare d.year e.year).then ((compare d.month e.month).then (compare d.day e.day)) :=
  rfl

/-- An earlier day is in an earlier year, or in an earlier month of the year, or earlier in the
month. -/
theorem compare_eq_lt_iff {d e : Date} : compare d e = .lt ↔
    d.year < e.year ∨ d.year = e.year ∧
      (d.month < e.month ∨ d.month = e.month ∧ d.day < e.day) := by
  rw [compare_eq_then, Ordering.then_eq_lt, Ordering.then_eq_lt, Int.compare_eq_lt,
    Int.compare_eq_eq, Nat.compare_eq_lt, Nat.compare_eq_eq, Nat.compare_eq_lt]

/-- Days that compare as equal are the same. -/
instance : Std.LawfulEqOrd Date where
  eq_of_compare {d e} h := by
    rw [compare_eq_then, Ordering.then_eq_eq, Ordering.then_eq_eq, Int.compare_eq_eq,
      Nat.compare_eq_eq, Nat.compare_eq_eq] at h
    cases d
    cases e
    obtain ⟨rfl, rfl, rfl⟩ := h
    rfl

/-- A day is not later than another if it is not the other way round. -/
theorem isLE_compare_iff {d e : Date} : (compare d e).isLE = true ↔ compare e d ≠ .lt := by
  rw [Std.OrientedOrd.eq_swap (a := e) (b := d)]
  cases compare d e <;> simp

/-- A day of the same month is at most the last one of the month. -/
theorem day_le_daysInMonth {d e : Date} (hyear : e.year = d.year) (hmonth : e.month = d.month) :
    e.day ≤ daysInMonth d.year d.month :=
  hyear ▸ hmonth ▸ e.day_mem.2

/-! ### The next day -/

/-- Every month has a first day. -/
theorem one_le_daysInMonth (year : Int) (month : Nat) : 1 ≤ daysInMonth year month := by
  unfold daysInMonth
  split
  · split <;> decide
  · split <;> decide

/-- A day with the given parts. -/
theorem of?_eq_some_iff {year : Int} {month day : Nat} {d : Date} :
    of? year month day = some d ↔ d.year = year ∧ d.month = month ∧ d.day = day := by
  unfold of?
  constructor
  · intro h
    split at h
    · obtain rfl := Option.some.inj h
      exact ⟨rfl, rfl, rfl⟩
    · cases h
  · rintro ⟨rfl, rfl, rfl⟩
    exact dif_pos ⟨d.year_mem, d.month_mem, d.day_mem⟩

/-- There is no day whose parts are out of their ranges. -/
theorem of?_eq_none_iff {year : Int} {month day : Nat} : of? year month day = none ↔
    ¬((firstYear ≤ year ∧ year ≤ lastYear) ∧ (1 ≤ month ∧ month ≤ 12) ∧
      (1 ≤ day ∧ day ≤ daysInMonth year month)) := by
  unfold of?
  split
  · next h => exact iff_of_false nofun fun hnot => hnot h
  · next h => exact iff_of_true rfl h

/-- One day comes right after another: it is later, and no day lies between them. -/
structure Follows (next d : Date) : Prop where
  lt : compare d next = .lt
  le_of_lt : ∀ other, compare d other = .lt → (compare next other).isLE = true

/-- The days before the next one are those up to the day itself. -/
theorem Follows.lt_iff {d next : Date} (h : next.Follows d) (other : Date) :
    compare other next = .lt ↔ (compare other d).isLE = true := by
  rw [isLE_compare_iff]
  constructor
  · intro hlt hafter
    exact isLE_compare_iff.1 (h.le_of_lt other hafter) hlt
  · intro hle
    exact Std.TransCmp.lt_of_isLE_of_lt (isLE_compare_iff.2 hle) h.lt

/-- The next day is in the same month, unless the day is the last of its month. It is then in the
next month of the year, or in the first of the next year. -/
theorem succ?_eq_some_iff {d next : Date} : d.succ? = some next ↔
    d.day < daysInMonth d.year d.month ∧
        next.year = d.year ∧ next.month = d.month ∧ next.day = d.day + 1 ∨
      daysInMonth d.year d.month ≤ d.day ∧ d.month < 12 ∧
        next.year = d.year ∧ next.month = d.month + 1 ∧ next.day = 1 ∨
      daysInMonth d.year d.month ≤ d.day ∧ 12 ≤ d.month ∧
        next.year = d.year + 1 ∧ next.month = 1 ∧ next.day = 1 := by
  unfold succ?
  split
  · rw [of?_eq_some_iff]
    omega
  · split
    · rw [of?_eq_some_iff]
      omega
    · rw [of?_eq_some_iff]
      omega

/-- The day after a day comes right after it. -/
theorem follows_of_succ? {d next : Date} (h : d.succ? = some next) : next.Follows d := by
  have hparts := succ?_eq_some_iff.1 h
  refine ⟨compare_eq_lt_iff.2 (by omega), fun other hlt => isLE_compare_iff.2 fun hbetween => ?_⟩
  rw [compare_eq_lt_iff] at hlt hbetween
  have hmonth := other.month_mem
  have hday := other.day_mem
  by_cases hsame : other.year = d.year ∧ other.month = d.month
  · have hlast := day_le_daysInMonth hsame.1 hsame.2
    omega
  · omega

/-- No day comes after one that has no next day. -/
theorem isLE_of_succ? {d : Date} (h : d.succ? = none) (other : Date) :
    (compare other d).isLE = true := by
  refine isLE_compare_iff.2 fun hlt => ?_
  rw [compare_eq_lt_iff] at hlt
  have hyear := d.year_mem
  have hmonth := d.month_mem
  have hotherYear := other.year_mem
  have hotherMonth := other.month_mem
  unfold succ? at h
  split at h
  · rw [of?_eq_none_iff] at h
    omega
  · next hday =>
    split at h
    · have hfirst := one_le_daysInMonth d.year (d.month + 1)
      rw [of?_eq_none_iff] at h
      omega
    · -- It is the last day of December, so another year is there if a later day is.
      have hfirst := one_le_daysInMonth (d.year + 1) 1
      rw [of?_eq_none_iff] at h
      by_cases hsame : other.year = d.year ∧ other.month = d.month
      · have hlast := day_le_daysInMonth hsame.1 hsame.2
        omega
      · omega

end Date

namespace DateTime

/-- Points in time compare by their days first. -/
theorem compare_eq_then (dt dt' : DateTime) :
    compare dt dt' = (compare dt.date dt'.date).then (compare dt.time dt'.time) :=
  rfl

/-- No time of day is before midnight. -/
theorem compare_midnight_ne_lt (t : TimeOfDay) : compare t .midnight ≠ .lt := by
  have hcompare : compare t .midnight = (compare t.hour 0).then ((compare t.minute 0).then
      ((compare t.second 0).then (compare t.nanosecond 0))) := rfl
  rw [hcompare, Ne, Ordering.then_eq_lt, Ordering.then_eq_lt, Ordering.then_eq_lt,
    Nat.compare_eq_lt, Nat.compare_eq_lt, Nat.compare_eq_lt, Nat.compare_eq_lt]
  omega

/-- A point in time is before the start of a day exactly if its day is before that day. -/
theorem lt_startOf_iff {dt : DateTime} {d : Date} :
    compare dt (startOf d) = .lt ↔ compare dt.date d = .lt := by
  rw [compare_eq_then, Ordering.then_eq_lt]
  exact or_iff_left fun h => compare_midnight_ne_lt dt.time h.2

/-- A point in time is on a day exactly if it is not before the start of the day and its day is not
a later one. -/
theorem date_eq_iff {dt : DateTime} {d : Date} : dt.date = d ↔
    (compare dt (startOf d)).isGE = true ∧ (compare dt.date d).isLE = true := by
  rw [Ordering.isGE_iff_ne_lt, lt_startOf_iff, ← Std.LawfulEqOrd.compare_eq_iff_eq]
  cases compare dt.date d <;> simp

/-- A point in time is on a day exactly if it is not before the start of the day, and before the
start of the next one. -/
theorem date_eq_iff_of_follows {d next : Date} (h : next.Follows d) (dt : DateTime) :
    dt.date = d ↔ (compare dt (startOf d)).isGE = true ∧ compare dt (startOf next) = .lt := by
  rw [date_eq_iff, lt_startOf_iff (d := next), h.lt_iff]

/-- A point in time is on the last day of the calendar exactly if it is not before the start of it.
-/
theorem date_eq_iff_of_last {d : Date} (h : d.succ? = none) (dt : DateTime) :
    dt.date = d ↔ (compare dt (startOf d)).isGE = true := by
  rw [date_eq_iff]
  exact and_iff_left (Date.isLE_of_succ? h dt.date)

end DateTime

end QueryFilters
