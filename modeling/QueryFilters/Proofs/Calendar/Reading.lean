import QueryFilters.Calendar.Pattern
import QueryFilters.Proofs.Number.Digits
import QueryFilters.Proofs.Text.Blank

/-!
# Dates and times that read back

Each item of a pattern takes one piece from the front of a text and leaves the rest, so a text put
together from the pieces that the items of a pattern take is read piece by piece. The text of every
day is of that form, and reads back as the day (`Date.ofText?_toText`). So does the text of a point
in time, unless the point lies in a leap second inside a minute: that has the text of the second
after it (`DateTime.ofText?_toText_iff`).
-/

namespace QueryFilters

namespace Pattern

/-! ### What single items take -/

/-- Digits are not passed over as blanks. -/
theorem trimStart_padded (width n : Nat) (rest : List Char) :
    Text.trimStart (Digits.padded width n ++ rest) = Digits.padded width n ++ rest := by
  have hdigits := Digits.isDigit_of_mem_padded width n
  cases hpadded : Digits.padded width n with
  | nil => exact absurd hpadded (Digits.padded_ne_nil width n)
  | cons c digits =>
    rw [hpadded] at hdigits
    exact List.dropWhile_cons_of_neg (by simp [Text.isBlank_of_isDigit (hdigits c (.head _))])

/-- A number is read from exactly the width to which it is padded. -/
theorem number?_padded {least width n : Nat} (hleast : least ≤ width) (hwidth : 0 < width)
    (h : n < 10 ^ width) (rest : List Char) :
    number? least width (Digits.padded width n ++ rest) = some (n, rest) := by
  have hlength := Digits.length_padded hwidth h
  have hdigits : (Digits.padded width n).takeWhile Digits.isDigit = Digits.padded width n :=
    List.takeWhile_eq_self_iff.2 (Digits.isDigit_of_mem_padded width n)
  simp only [number?, List.take_left' hlength, hdigits, hlength, Nat.not_lt.2 hleast, if_false,
    Digits.toNat_padded, List.drop_left' hlength]

/-- Nor is anything passed over before a year. -/
theorem trimStart_yearText (year : Int) (rest : List Char) :
    Text.trimStart (Calendar.yearText year ++ rest) = Calendar.yearText year ++ rest := by
  unfold Calendar.yearText
  split
  · exact trimStart_padded 4 _ rest
  · split <;> rfl

theorem signedYear?_yearText (year : Int) (rest : List Char) :
    signedYear? (Calendar.yearText year ++ '-' :: rest) = some (year, '-' :: rest) := by
  have hspan : ∀ n, Digits.span (Digits.padded 4 n ++ '-' :: rest) =
      (Digits.padded 4 n, '-' :: rest) := fun n => by
    rw [Digits.span_append _ (by rintro c ⟨⟩; rfl),
      Digits.span_eq_self (Digits.isDigit_of_mem_padded 4 n)]
    rfl
  unfold Calendar.yearText
  split
  · next hyear =>
    have hread : number? 1 4 (Digits.padded 4 year.toNat ++ '-' :: rest) =
        some (year.toNat, '-' :: rest) :=
      number?_padded (by decide) (by decide) (by omega) _
    have hdigits := Digits.isDigit_of_mem_padded 4 year.toNat
    -- A digit leads this text, so neither of the two signs does.
    cases hpadded : Digits.padded 4 year.toNat with
    | nil => exact absurd hpadded (Digits.padded_ne_nil 4 _)
    | cons c digits =>
      rw [hpadded] at hread hdigits
      have hc := hdigits c (.head _)
      rw [List.cons_append] at hread ⊢
      unfold signedYear?
      split
      · next heq => cases heq; cases hc
      · next heq => cases heq; cases hc
      · simp only [hread, Option.map_some, Int.toNat_of_nonneg hyear.1]
  · split <;>
      · simp only [List.cons_append, signedYear?, hspan, Digits.toNat_padded, List.isEmpty_iff,
          Digits.padded_ne_nil, if_false]
        congr 2
        omega

/-- A fraction of a second is read at the place of its digits. -/
theorem fraction?_padded {width n : Nat} (hwidth : 0 < width) (hle : width ≤ 9)
    (h : n < 10 ^ width) :
    fraction? ('.' :: Digits.padded width n) = some (n * 10 ^ (9 - width), []) := by
  have hspan := Digits.span_eq_self (Digits.isDigit_of_mem_padded width n)
  have htake : (Digits.padded width n ++ List.replicate 9 '0').take 9 =
      Digits.padded width n ++ List.replicate (9 - width) '0' := by
    rw [List.take_append, Digits.length_padded hwidth h, List.take_replicate,
      List.take_of_length_le (by rw [Digits.length_padded hwidth h]; exact hle)]
    congr 2
    omega
  simp only [fraction?, hspan, List.isEmpty_iff, Digits.padded_ne_nil, if_false, htake,
    Digits.toNat_append_replicate, Digits.toNat_padded]

theorem fraction?_fractionText {nanosecond : Nat} (h : nanosecond < 1000000000) :
    fraction? (TimeOfDay.fractionText nanosecond) = some (nanosecond, []) := by
  unfold TimeOfDay.fractionText
  split
  · next hzero =>
    rw [hzero]
    rfl
  split
  · next hmillis =>
    rw [fraction?_padded (by decide) (by decide) (by omega)]
    congr 2
    omega
  split
  · next hmicros =>
    rw [fraction?_padded (by decide) (by decide) (by omega)]
    congr 2
    omega
  · rw [fraction?_padded (by decide) (by decide) h, Nat.sub_self, Nat.pow_zero, Nat.mul_one]

/-! ### What patterns take -/

/-- A pattern goes on where the pattern before it has left off. -/
theorem readStart?_append (p q : Pattern) (text : List Char) (fields : DateFields) :
    readStart? (p ++ q) text fields =
      (readStart? p text fields).bind fun read => readStart? q read.2 read.1 := by
  induction p generalizing text fields with
  | nil => rfl
  | cons item p ih =>
    cases item with
    | number part least most =>
      simp only [List.cons_append, readStart?, ih, Option.bind_eq_bind, Option.bind_assoc]
    | signedYear =>
      simp only [List.cons_append, readStart?, ih, Option.bind_eq_bind, Option.bind_assoc]
    | fraction =>
      simp only [List.cons_append, readStart?, ih, Option.bind_eq_bind, Option.bind_assoc]
    | oneOf chars =>
      cases text with
      | nil => rfl
      | cons c text =>
        simp only [List.cons_append, readStart?, ih]
        split <;> rfl
    | blanks => exact ih _ _

/-- A mark is taken where it is awaited after any blanks. -/
theorem readStart?_mark {c : Char} (hblank : Text.isBlank c = false) (rest : List Char)
    (fields : DateFields) :
    readStart? [.blanks, .oneOf [c]] (c :: rest) fields = some (fields, rest) := by
  have htrim : Text.trimStart (c :: rest) = c :: rest :=
    Text.trimStart_of_head (by rintro d ⟨⟩; exact hblank)
  simp [readStart?, htrim]

/-- Two digits are read as a short number. -/
theorem readStart?_short {part : DatePart} {n : Nat} (h : n < 100) (rest : List Char)
    (fields : DateFields) :
    readStart? (short part) (Digits.padded 2 n ++ rest) fields =
      some (fields.set part n, rest) := by
  simp only [short, readStart?, trimStart_padded, Option.bind_eq_bind,
    number?_padded (show 1 ≤ 2 by decide) (by decide) (show n < 10 ^ 2 by omega), Option.bind_some]

end Pattern

/-! ### Days -/

namespace Date

/-- The parts of a day make the day. -/
theorem of?_self (d : Date) : of? d.year d.month d.day = some d :=
  dif_pos ⟨d.year_mem, d.month_mem, d.day_mem⟩

theorem day_le (d : Date) : d.day ≤ 31 := by
  refine d.day_mem.2.trans ?_
  unfold Calendar.daysInMonth
  split
  · split <;> decide
  · split <;> decide

/-- The text of a day is read in front of anything that does not start with a blank. -/
theorem readStart?_looseDay (d : Date) (rest : List Char) (hrest : Text.trimStart rest = rest)
    (fields : DateFields) :
    Pattern.looseDay.readStart? (d.toText.toList ++ rest) fields =
      some ({ fields with year := d.year, month := d.month, day := d.day }, rest) := by
  have hmonth : d.month < 100 := by have := d.month_mem; omega
  have hday : d.day < 100 := by have := d.day_le; omega
  have htext : d.toText.toList ++ rest = Calendar.yearText d.year ++ '-' ::
      (Digits.padded 2 d.month ++ '-' :: (Digits.padded 2 d.day ++ rest)) := by
    simp [toText]
  have hyear : Pattern.readStart? [.blanks, .signedYear, .blanks, .oneOf ['-']]
      (d.toText.toList ++ rest) fields = some ({ fields with year := d.year },
        Digits.padded 2 d.month ++ '-' :: (Digits.padded 2 d.day ++ rest)) := by
    simp only [htext, Pattern.readStart?, Pattern.trimStart_yearText, Pattern.signedYear?_yearText,
      Option.bind_eq_bind, Option.bind_some]
    rfl
  rw [Pattern.looseDay, Pattern.readStart?_append, Pattern.readStart?_append,
    Pattern.readStart?_append, Pattern.readStart?_append, hyear, Option.bind_some,
    Pattern.readStart?_short hmonth, Option.bind_some, Pattern.readStart?_mark rfl,
    Option.bind_some, Pattern.readStart?_short hday, Option.bind_some, Pattern.readStart?, hrest]
  rfl

/-- The text of a day reads back as the day. -/
theorem ofText?_toText (d : Date) : ofText? d.toText.toList = some d := by
  have hread := d.readStart?_looseDay [] rfl {}
  rw [List.append_nil] at hread
  simp only [ofText?, Pattern.read?, hread, Option.bind_eq_bind, Option.bind_some, List.isEmpty_nil,
    if_true, DateFields.date?, of?_self]

end Date

/-! ### Points in time -/

namespace TimeOfDay

/-- A time is regular if it lies in no leap second but one at the end of a minute. -/
def IsRegular (t : TimeOfDay) : Prop :=
  t.isLeap = true → t.second = 59

theorem isLeap_iff (t : TimeOfDay) : t.isLeap = true ↔ 1000000000 ≤ t.nanosecond := by
  rw [isLeap, decide_eq_true_eq]

/-- The parts of a regular time make the time. -/
theorem of?_self {t : TimeOfDay} (h : t.IsRegular) :
    of? t.hour t.minute t.second t.nanosecond = some t :=
  dif_pos ⟨t.hour_lt, t.minute_lt, t.second_lt, t.nanosecond_lt, fun hle => h (t.isLeap_iff.2 hle)⟩

/-- A time has the second from which it is made. -/
theorem second_eq_of_of? {hour minute second nanosecond : Nat} {t : TimeOfDay}
    (h : of? hour minute second nanosecond = some t) : t.second = second := by
  obtain ⟨hvalid, ht⟩ := Option.dite_none_right_eq_some.1 h
  rw [← Option.some.inj ht]

/-- The second that is written for a time. -/
def shownSecond (t : TimeOfDay) : Nat :=
  if t.isLeap then t.second + 1 else t.second

/-- The nanosecond that is written for a time. -/
def shownNanosecond (t : TimeOfDay) : Nat :=
  if t.isLeap then t.nanosecond - 1000000000 else t.nanosecond

theorem toText_eq (t : TimeOfDay) :
    t.toText.toList = Digits.padded 2 t.hour ++ ':' :: (Digits.padded 2 t.minute ++
      ':' :: (Digits.padded 2 t.shownSecond ++ fractionText t.shownNanosecond)) := by
  simp [toText, shownSecond, shownNanosecond]

theorem shownNanosecond_lt (t : TimeOfDay) : t.shownNanosecond < 1000000000 := by
  have := t.nanosecond_lt
  unfold shownNanosecond
  split
  · omega
  · next hleap =>
    rw [isLeap_iff] at hleap
    omega

/-- What is written for a time makes the time exactly if the time is regular. A leap second at the
end of a minute is written as second 60, which no other time has; any other is written as the second
that follows, and this is what is read. -/
theorem time?_shown_iff {t : TimeOfDay} {fields : DateFields} (hhour : fields.hour = t.hour)
    (hminute : fields.minute = t.minute) (hsecond : fields.second = t.shownSecond)
    (hnanosecond : fields.nanosecond = t.shownNanosecond) :
    fields.time? = some t ↔ t.IsRegular := by
  rw [DateFields.time?, hhour, hminute, hsecond, hnanosecond, shownSecond, shownNanosecond]
  cases hleap : t.isLeap with
  | false =>
    have hregular : t.IsRegular := fun h => absurd h (Bool.eq_false_iff.1 hleap)
    have hne : t.second ≠ 60 := by have := t.second_lt; omega
    simp only [Bool.false_eq_true, if_false, if_neg hne, of?_self hregular, hregular]
  | true =>
    have hle := t.isLeap_iff.1 hleap
    rw [if_pos rfl, if_pos rfl]
    by_cases hlast : t.second = 59
    · have hregular : t.IsRegular := fun _ => hlast
      have hself := of?_self hregular
      rw [hlast] at hself
      rw [hlast, if_pos rfl, Nat.sub_add_cancel hle]
      exact iff_of_true hself hregular
    · rw [if_neg (by omega)]
      refine iff_of_false (fun hread => ?_) fun hregular => hlast (hregular hleap)
      have := second_eq_of_of? hread
      omega

end TimeOfDay

namespace DateTime

/-- From the text of a point in time its parts are read, with a leap second as it is written. -/
theorem ofText?_toText_eq (dt : DateTime) : ofText? dt.toText.toList =
    (DateFields.time? ⟨dt.date.year, dt.date.month, dt.date.day, dt.time.hour, dt.time.minute,
      dt.time.shownSecond, dt.time.shownNanosecond⟩).map (DateTime.mk dt.date) := by
  obtain ⟨d, t⟩ := dt
  have hhour : t.hour < 100 := by have := t.hour_lt; omega
  have hminute : t.minute < 100 := by have := t.minute_lt; omega
  have hsecond : t.shownSecond < 100 := by
    have := t.second_lt
    unfold TimeOfDay.shownSecond
    split <;> omega
  have htext : (toText ⟨d, t⟩).toList = d.toText.toList ++ 'T' :: t.toText.toList := by
    simp [toText]
  have hread : Pattern.looseDateTime.readStart? (toText ⟨d, t⟩).toList {} =
      some (⟨d.year, d.month, d.day, t.hour, t.minute, t.shownSecond, t.shownNanosecond⟩, []) := by
    have hdate (rest : List Char) := d.readStart?_looseDay ('T' :: rest) rfl {}
    have hletter (rest : List Char) (fields : DateFields) :
        Pattern.readStart? [.oneOf ['T']] ('T' :: rest) fields = some (fields, rest) := rfl
    have hend (fields : DateFields) :
        Pattern.readStart? [.fraction, .blanks] (TimeOfDay.fractionText t.shownNanosecond) fields =
          some ({ fields with nanosecond := t.shownNanosecond }, []) := by
      rw [Pattern.readStart?, Pattern.fraction?_fractionText t.shownNanosecond_lt]
      rfl
    simp only [htext, t.toText_eq, Pattern.looseDateTime, Pattern.readStart?_append,
      hdate, hletter, Pattern.readStart?_short hhour,
      Pattern.readStart?_mark (c := ':') rfl, Pattern.readStart?_short hminute,
      Pattern.readStart?_short hsecond, hend, Option.bind_some, DateFields.set]
  simp only [ofText?, Pattern.read?, hread, Option.bind_eq_bind, Option.bind_some, List.isEmpty_nil,
    if_true, DateFields.dateTime?, DateFields.date?, Date.of?_self, Option.map_eq_bind,
    Function.comp_def]

/-- The text of a point in time reads back as the point in time exactly if its time is regular. -/
theorem ofText?_toText_iff {dt : DateTime} :
    ofText? dt.toText.toList = some dt ↔ dt.time.IsRegular := by
  have hshown : DateFields.time? ⟨dt.date.year, dt.date.month, dt.date.day, dt.time.hour,
      dt.time.minute, dt.time.shownSecond, dt.time.shownNanosecond⟩ = some dt.time ↔
        dt.time.IsRegular := TimeOfDay.time?_shown_iff rfl rfl rfl rfl
  rw [ofText?_toText_eq, Option.map_eq_some_iff, ← hshown]
  constructor
  · rintro ⟨time, htime, heq⟩
    rw [htime, ← heq]
  · exact fun htime => ⟨dt.time, htime, rfl⟩

end DateTime

end QueryFilters
