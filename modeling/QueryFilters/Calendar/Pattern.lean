import QueryFilters.Calendar.DateTime
import QueryFilters.Text.Blank

/-!
# Reading dates and times

A pattern lists, in order, what a text of a date or a time is made of. Reading a text by a pattern
fills in the parts of a date and a time and uses up the whole text.
-/

namespace QueryFilters

/-- The numbers that a text of a date or a time gives. -/
inductive DatePart
  | year
  | month
  | day
  | hour
  | minute
  | second

/-- One piece of a pattern. -/
inductive PatternItem
  /-- A number of at least `least` and at most `most` digits. -/
  | number (part : DatePart) (least most : Nat)
  /-- A year of up to four digits, or of any number of digits after a sign. -/
  | signedYear
  /-- A point with the digits of a fraction of a second, or nothing. -/
  | fraction
  /-- One of the given characters. -/
  | oneOf (chars : List Char)
  /-- Any number of blanks. -/
  | blanks

/-- A way to write a date, a time or both. -/
abbrev Pattern := List PatternItem

/-- The numbers read so far. A part that the text does not give keeps its first value. -/
structure DateFields where
  year : Int := 0
  month : Nat := 1
  day : Nat := 1
  hour : Nat := 0
  minute : Nat := 0
  second : Nat := 0
  nanosecond : Nat := 0

namespace DateFields

/-- Records a number as the given part. -/
def set (f : DateFields) (part : DatePart) (n : Nat) : DateFields :=
  match part with
  | .year => { f with year := n }
  | .month => { f with month := n }
  | .day => { f with day := n }
  | .hour => { f with hour := n }
  | .minute => { f with minute := n }
  | .second => { f with second := n }

/-- The day that the numbers give. -/
def date? (f : DateFields) : Option Date :=
  Date.of? f.year f.month f.day

/-- The time that the numbers give; second 60 is a leap second. -/
def time? (f : DateFields) : Option TimeOfDay :=
  if f.second = 60 then TimeOfDay.of? f.hour f.minute 59 (f.nanosecond + 1000000000)
  else TimeOfDay.of? f.hour f.minute f.second f.nanosecond

/-- The point in time that the numbers give. -/
def dateTime? (f : DateFields) : Option DateTime := do
  some ⟨← f.date?, ← f.time?⟩

end DateFields

namespace Pattern

/-- A number of at most `most` digits at the start of a text, and the rest, if there are at least
`least` digits. -/
def number? (least most : Nat) (text : List Char) : Option (Nat × List Char) :=
  let digits := (text.take most).takeWhile Digits.isDigit
  if digits.length < least then none else some (Digits.toNat digits, text.drop digits.length)

/-- A year at the start of a text, and the rest. -/
def signedYear? : List Char → Option (Int × List Char)
  | '-' :: rest =>
    let (digits, rest) := Digits.span rest
    if digits.isEmpty then none else some (-(Digits.toNat digits : Int), rest)
  | '+' :: rest =>
    let (digits, rest) := Digits.span rest
    if digits.isEmpty then none else some ((Digits.toNat digits : Int), rest)
  | text => (number? 1 4 text).map fun (n, rest) => ((n : Int), rest)

/-- A fraction of a second in nanoseconds at the start of a text, and the rest. Digits after the
ninth are passed over. -/
def fraction? : List Char → Option (Nat × List Char)
  | '.' :: rest =>
    let (digits, rest) := Digits.span rest
    if digits.isEmpty then none
    else some (Digits.toNat ((digits ++ List.replicate 9 '0').take 9), rest)
  | text => some (0, text)

/-- Reads the start of a text by a pattern: the numbers it gives, and what is left. -/
def readStart? : Pattern → List Char → DateFields → Option (DateFields × List Char)
  | [], text, fields => some (fields, text)
  | .number part least most :: items, text, fields => do
    let (n, rest) ← number? least most text
    readStart? items rest (fields.set part n)
  | .signedYear :: items, text, fields => do
    let (year, rest) ← signedYear? text
    readStart? items rest { fields with year }
  | .fraction :: items, text, fields => do
    let (nanosecond, rest) ← fraction? text
    readStart? items rest { fields with nanosecond }
  | .oneOf chars :: items, text, fields =>
    match text with
    | c :: rest => if chars.contains c then readStart? items rest fields else none
    | [] => none
  | .blanks :: items, text, fields => readStart? items (Text.trimStart text) fields

/-- Reads a whole text by a pattern. -/
def read? (pattern : Pattern) (text : List Char) : Option DateFields := do
  let (fields, rest) ← readStart? pattern text {}
  if rest.isEmpty then some fields else none

/-- A number of one or two digits, after any blanks. -/
def short (part : DatePart) : Pattern :=
  [.blanks, .number part 1 2]

/-- Year, month and day of the month with dashes between them. -/
def day : Pattern :=
  [.blanks, .signedYear, .oneOf ['-']] ++ short .month ++ [.oneOf ['-']] ++ short .day

/-- Hour and minute with a colon between them. -/
def hourMinute : Pattern :=
  short .hour ++ [.oneOf [':']] ++ short .minute

/-- Hour, minute and second with colons between them, and a fraction of a second if there is one. -/
def hourSecond : Pattern :=
  hourMinute ++ [.oneOf [':']] ++ short .second ++ [.fraction]

/-- A day where blanks may also stand before each dash and at the end. -/
def looseDay : Pattern :=
  [.blanks, .signedYear, .blanks, .oneOf ['-']] ++ short .month ++ [.blanks, .oneOf ['-']] ++
    short .day ++ [.blanks]

/-- A point in time where blanks may also stand before each mark and at the end. -/
def looseDateTime : Pattern :=
  looseDay ++ [.oneOf ['T']] ++ short .hour ++ [.blanks, .oneOf [':']] ++ short .minute ++
    [.blanks, .oneOf [':']] ++ short .second ++ [.fraction, .blanks]

/-- The point in time before its offset in an internet timestamp: every number has all its digits
and no blank is passed over. One of the separators stands between the day and the time. -/
def timestamp (separators : List Char) : Pattern :=
  [.number .year 4 4, .oneOf ['-'], .number .month 2 2, .oneOf ['-'], .number .day 2 2,
   .oneOf separators, .number .hour 2 2, .oneOf [':'], .number .minute 2 2, .oneOf [':'],
   .number .second 2 2, .fraction]

end Pattern

/-- The choices that internet timestamps leave open. -/
structure TimestampStyle where
  /-- The characters of which one stands between the day and the time. -/
  separators : List Char
  /-- The characters that make an offset negative. -/
  minus : List Char
  /-- Whether any minute may have a leap second, and not only the last one of a month. -/
  anyLeap : Bool

namespace TimestampStyle

/-- Queries write the letter T or a space before the time, and may use a true minus sign. -/
def query : TimestampStyle where
  separators := ['T', 't', ' ']
  minus := ['-', '\u2212']
  anyLeap := true

/-- Stored data may have any character of ASCII before the time. -/
def stored : TimestampStyle where
  separators := (List.range 128).map Char.ofNat
  minus := ['-']
  anyLeap := false

end TimestampStyle

namespace DateTime

/-- The offset at the end of an internet timestamp in minutes: the letter Z, or a sign with hours
and minutes. -/
def offset? (minus : List Char) : List Char → Option Int
  | ['Z'] => some 0
  | ['z'] => some 0
  | [sign, h, h', ':', m, m'] =>
    if [h, h', m, m'].all Digits.isDigit then
      let hours := Digits.toNat [h, h']
      let minutes := Digits.toNat [m, m']
      if hours < 24 ∧ minutes < 60 then
        let offset : Int := (hours * 60 + minutes : Nat)
        if sign = '+' then some offset
        else if minus.contains sign then some (-offset)
        else none
      else none
    else none
  | _ => none

/-- Reads an internet timestamp and moves it to the zone of offset zero. -/
def ofTimestamp? (style : TimestampStyle) (text : List Char) : Option DateTime := do
  let (fields, rest) ← (Pattern.timestamp style.separators).readStart? text {}
  let offset ← offset? style.minus rest
  let dt ← fields.dateTime?
  let dt ← dt.minusMinutes? offset
  if style.anyLeap || !dt.time.isLeap || dt.isEndOfMonth then some dt else none

/-- The ways to write a point in time without an offset that queries may use. -/
def patterns : List Pattern :=
  [Pattern.day ++ [.oneOf ['T']] ++ Pattern.hourSecond,
   Pattern.day ++ [.oneOf ['T']] ++ Pattern.hourMinute,
   Pattern.day ++ [.blanks] ++ Pattern.hourSecond,
   Pattern.day ++ [.blanks] ++ Pattern.hourMinute]

/-- Reads a point in time as a query gives it. -/
def ofQuery? (text : List Char) : Option DateTime :=
  (ofTimestamp? .query text).or
    (patterns.findSome? fun pattern => (pattern.read? text).bind DateFields.dateTime?)

/-- Reads a point in time as stored data gives it. -/
def ofText? (text : List Char) : Option DateTime :=
  (Pattern.looseDateTime.read? text).bind DateFields.dateTime?

end DateTime

namespace Date

/-- Reads a day as a query gives it. -/
def ofQuery? (text : List Char) : Option Date :=
  (Pattern.day.read? text).bind DateFields.date?

/-- Reads a day as stored data gives it. -/
def ofText? (text : List Char) : Option Date :=
  (Pattern.looseDay.read? text).bind DateFields.date?

end Date

end QueryFilters
