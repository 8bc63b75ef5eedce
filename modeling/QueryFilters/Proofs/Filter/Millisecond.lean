import QueryFilters.Proofs.Calendar.Succession
import QueryFilters.Proofs.Compilation
import QueryFilters.Proofs.Filter.Decoding

/-!
# Down to the millisecond

Dropping what lies below the millisecond is rounding down (`DateTime.IsMillisFloor`): it leaves the
day and the second as they are and takes away less than a millisecond. It does nothing a second time
and keeps points in time in order, and the nanosecond that is left can always be set. Leap seconds,
in which nanoseconds go on to twice their number, are no exception, at whatever second they are
inserted.

A filter of points in time drops what its codec has dropped already, so it compares with the very
value that was decoded (`BoundFilter.compile_decoded_dateTime`).
-/

namespace QueryFilters

/-- Rounding down to multiples of a unit keeps numbers in order. -/
theorem isLE_floor (unit : Nat) {m n : Nat} (h : (compare m n).isLE = true) :
    (compare (m / unit * unit) (n / unit * unit)).isLE = true := by
  -- The unit is left open here, as a numeral of its size would be counted up to in the proof.
  rw [Nat.isLE_compare] at h ⊢
  exact Nat.mul_le_mul_right unit (Nat.div_le_div_right h)

/-- If one comparison implies another, so it does after the same first comparison. -/
theorem isLE_then_of_imp {first second second' : Ordering}
    (himp : second.isLE = true → second'.isLE = true) (h : (first.then second).isLE = true) :
    (first.then second').isLE = true := by
  cases first with
  | lt => rfl
  | eq => exact himp h
  | gt => cases h

/-! ### Points in time -/

namespace DateTime

/-- Points in time compare by day, hour, minute, second and nanosecond. -/
theorem compare_eq_parts (dt dt' : DateTime) : compare dt dt' =
    (compare dt.date dt'.date).then ((compare dt.time.hour dt'.time.hour).then
      ((compare dt.time.minute dt'.time.minute).then
        ((compare dt.time.second dt'.time.second).then
          (compare dt.time.nanosecond dt'.time.nanosecond)))) :=
  rfl

/-- Any nanosecond of a second or of a leap second can be set, and nothing else changes. -/
theorem withNanosecond?_of_lt (dt : DateTime) {nanosecond : Nat} (h : nanosecond < 2000000000) :
    dt.withNanosecond? nanosecond =
      some { dt with time := { dt.time with nanosecond, nanosecond_lt := h } } := by
  rw [withNanosecond?, TimeOfDay.withNanosecond?, dif_pos h, Option.map_some]

/-- The nanosecond that is left is one that can be set. -/
theorem millis_lt (dt : DateTime) : dt.time.nanosecond / 1000000 * 1000000 < 2000000000 :=
  (Nat.div_mul_le_self dt.time.nanosecond 1000000).trans_lt dt.time.nanosecond_lt

/-- Only the nanosecond changes. -/
theorem truncateMillis_eq (dt : DateTime) : dt.truncateMillis =
    { dt with
      time :=
        { dt.time with
          nanosecond := dt.time.nanosecond / 1000000 * 1000000
          nanosecond_lt := dt.millis_lt } } := by
  rw [truncateMillis, withNanosecond?_of_lt dt dt.millis_lt, Option.getD_some]

/-- The nanosecond that is left is set. -/
theorem withNanosecond?_millis (dt : DateTime) :
    dt.withNanosecond? (dt.time.nanosecond / 1000000 * 1000000) = some dt.truncateMillis := by
  rw [withNanosecond?_of_lt dt dt.millis_lt, truncateMillis_eq]

@[simp]
theorem truncateMillis_date (dt : DateTime) : dt.truncateMillis.date = dt.date := by
  rw [truncateMillis_eq]

@[simp]
theorem truncateMillis_hour (dt : DateTime) : dt.truncateMillis.time.hour = dt.time.hour := by
  rw [truncateMillis_eq]

@[simp]
theorem truncateMillis_minute (dt : DateTime) :
    dt.truncateMillis.time.minute = dt.time.minute := by
  rw [truncateMillis_eq]

@[simp]
theorem truncateMillis_second (dt : DateTime) :
    dt.truncateMillis.time.second = dt.time.second := by
  rw [truncateMillis_eq]

@[simp]
theorem truncateMillis_nanosecond (dt : DateTime) :
    dt.truncateMillis.time.nanosecond = dt.time.nanosecond / 1000000 * 1000000 := by
  rw [truncateMillis_eq]

/-- One point in time is another rounded down to the millisecond. -/
structure IsMillisFloor (floor dt : DateTime) : Prop where
  date_eq : floor.date = dt.date
  hour_eq : floor.time.hour = dt.time.hour
  minute_eq : floor.time.minute = dt.time.minute
  second_eq : floor.time.second = dt.time.second
  dvd : 1000000 ∣ floor.time.nanosecond
  le : floor.time.nanosecond ≤ dt.time.nanosecond
  lt_add : dt.time.nanosecond < floor.time.nanosecond + 1000000

/-- Dropping what lies below the millisecond rounds down. -/
theorem isMillisFloor_truncateMillis (dt : DateTime) : dt.truncateMillis.IsMillisFloor dt where
  date_eq := dt.truncateMillis_date
  hour_eq := dt.truncateMillis_hour
  minute_eq := dt.truncateMillis_minute
  second_eq := dt.truncateMillis_second
  dvd := by
    rw [truncateMillis_nanosecond]
    exact Nat.dvd_mul_left 1000000 (dt.time.nanosecond / 1000000)
  le := by
    rw [truncateMillis_nanosecond]
    exact Nat.div_mul_le_self dt.time.nanosecond 1000000
  lt_add := by
    rw [truncateMillis_nanosecond]
    omega

/-- A point in time at a millisecond stays as it is. -/
theorem truncateMillis_of_dvd {dt : DateTime} (h : 1000000 ∣ dt.time.nanosecond) :
    dt.truncateMillis = dt := by
  rw [truncateMillis, Nat.div_mul_cancel h, withNanosecond?_of_lt dt dt.time.nanosecond_lt,
    Option.getD_some]

/-- Nothing is left to drop. -/
theorem truncateMillis_truncateMillis (dt : DateTime) :
    dt.truncateMillis.truncateMillis = dt.truncateMillis :=
  truncateMillis_of_dvd dt.isMillisFloor_truncateMillis.dvd

/-- Points in time stay in order. -/
theorem isLE_truncateMillis {dt dt' : DateTime} (h : (compare dt dt').isLE = true) :
    (compare dt.truncateMillis dt'.truncateMillis).isLE = true := by
  rw [compare_eq_parts] at h ⊢
  simp only [truncateMillis_date, truncateMillis_hour, truncateMillis_minute,
    truncateMillis_second, truncateMillis_nanosecond]
  -- All but the last comparison stay the same.
  exact isLE_then_of_imp (isLE_then_of_imp (isLE_then_of_imp (isLE_then_of_imp (isLE_floor _)))) h

end DateTime

/-! ### Decoded points in time -/

/-- What the codec of points in time decodes to has nothing below the millisecond. -/
theorem Codec.truncateMillis_of_decode_dateTime {raw : Raw} {v : Value}
    (h : (dateTime true).decode raw = .ok v) :
    ∃ dt : DateTime, v = .dateTime dt ∧ dt.truncateMillis = dt := by
  rw [decode, decodeDateTime] at h
  obtain ⟨text, hread⟩ := Scalar.exists_read_of_decode h
  obtain ⟨dt, -, rfl⟩ := Option.map_eq_some_iff.1 hread
  exact ⟨_, rfl, dt.truncateMillis_truncateMillis⟩

/-- A filter of points in time compares with the very value that its codec has decoded. -/
theorem BoundFilter.compile_decoded_dateTime {b : BoundFilter} (hkind : b.filter.kind = .dateTime)
    {child : Codec} {raw : Raw} {v : Value} (h : (b.filter.kind.codec child).decode raw = .ok v) :
    b.compile (some v) = .params (.single b.target b.filter.lookup v) := by
  rw [hkind, FilterKind.codec] at h
  obtain ⟨dt, rfl, hsame⟩ := Codec.truncateMillis_of_decode_dateTime h
  have hplain : b.filter.kind.isPlain = true := by
    rw [hkind]
    rfl
  rw [compile_of_isPlain hplain Value.noConfusion, hkind, FilterKind.operand, hsame]

/-- Dropping what lies below the millisecond rounds every point in time down, does nothing a second
time, always finds a nanosecond to set, and keeps points in time in order. So a filter of points in
time compares with the very value that its codec has decoded. -/
theorem DateTime.truncateMillis_floor :
    (∀ dt : DateTime, dt.truncateMillis.IsMillisFloor dt ∧
      dt.truncateMillis.truncateMillis = dt.truncateMillis ∧
      dt.withNanosecond? (dt.time.nanosecond / 1000000 * 1000000) = some dt.truncateMillis) ∧
    (∀ dt dt' : DateTime, (compare dt dt').isLE = true →
      (compare dt.truncateMillis dt'.truncateMillis).isLE = true) ∧
    ∀ (b : BoundFilter) (child : Codec) (raw : Raw) (v : Value), b.filter.kind = .dateTime →
      (b.filter.kind.codec child).decode raw = .ok v →
      b.compile (some v) = .params (.single b.target b.filter.lookup v) :=
  ⟨fun dt => ⟨dt.isMillisFloor_truncateMillis, dt.truncateMillis_truncateMillis,
      dt.withNanosecond?_millis⟩,
    fun _ _ => isLE_truncateMillis,
    fun _ _ _ _ hkind h => BoundFilter.compile_decoded_dateTime hkind h⟩

/-- The last nanosecond of a leap second keeps its millisecond, before the next day. So does one
that is inserted inside a minute. -/
theorem DateTime.truncateMillis_floor_leap :
    let b : BoundFilter := (Filter.mk .dateTime (some .lt) none none (.dateTime true) 0).bind "at"
    let day : Date := ⟨2015, 12, 31, by decide, by decide, by decide⟩
    let leap : DateTime :=
      ⟨day, 23, 59, 59, 1999999999, by decide, by decide, by decide, by decide⟩
    let inside : DateTime :=
      ⟨day, 23, 59, 30, 1000000001, by decide, by decide, by decide, by decide⟩
    let next : DateTime := .startOf ⟨2016, 1, 1, by decide, by decide, by decide⟩
    let v : Value := .dateTime leap.truncateMillis
    leap.truncateMillis.time.nanosecond = 1999000000 ∧
      (compare leap.truncateMillis next.truncateMillis).isLE = true ∧
      inside.truncateMillis.time.nanosecond = 1000000000 ∧
      (compare inside.truncateMillis leap.truncateMillis).isLE = true ∧
      b.filter.codec.decode (.one "2015-12-31T23:59:60.999999999") = .ok v ∧
      b.compile (some v) = .params (.single "at" (some .lt) v) := by
  intro b day leap inside next v
  have htrim : Text.trim "2015-12-31T23:59:60.999999999" = "2015-12-31T23:59:60.999999999" := by
    decide +kernel
  have hread : DateTime.ofQuery? "2015-12-31T23:59:60.999999999".toList = some leap := by
    decide +kernel
  have hdecode : (Codec.dateTime true).decode (.one "2015-12-31T23:59:60.999999999") = .ok v := by
    rw [Codec.decode, Codec.decodeDateTime, Scalar.decode, Raw.single]
    simp only [bind, Except.bind, htrim, hread, Option.map_some, if_true, v]
  have htarget : b.target = "at" := by decide +kernel
  obtain ⟨-, hmonotone, hfilter⟩ := truncateMillis_floor
  have hcompile := hfilter b (.string true) _ v rfl hdecode
  rw [htarget] at hcompile
  exact ⟨by decide +kernel, hmonotone leap next (by decide +kernel), by decide +kernel,
    hmonotone inside leap (by decide +kernel), hdecode, hcompile⟩

end QueryFilters
