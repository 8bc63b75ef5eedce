import QueryFilters.Calendar.Pattern
import QueryFilters.Codec.Error
import QueryFilters.Codec.Raw
import QueryFilters.Number.Scientific
import QueryFilters.Text.Blank
import QueryFilters.Value.Basic

/-!
# Scalar input

The texts that stand for one value each. Blanks around a text do not count.
-/

namespace QueryFilters

/-- The only text of raw input. -/
def Raw.single : Raw → Except CodecError String
  | .one text => .ok text
  | .many [text] => .ok text
  | _ => .error .expectedSingle

namespace Scalar

/-- The integer written with an optional sign and at least one digit, if it fits 64 bits. -/
def int64? (text : List Char) : Option Int64 :=
  ((Scientific.integer? text).filter (Scientific.fits 64)).map Int64.ofInt

/-- The text without a point and the zeros after it, if it ends in these. -/
def withoutZeroFraction (text : List Char) : List Char :=
  match Text.cutAt '.' text with
  | (whole, some fraction) => if fraction.all (· == '0') then whole else text
  | (_, none) => text

/-- The integer that a text stands for; a fraction of nothing but zeros does not count. -/
def integer? (text : List Char) : Option Int64 :=
  int64? (withoutZeroFraction text)

/-- The finite double nearest to the number that a text stands for. -/
def float? (text : List Char) : Option Float :=
  ((Scientific.read? text).map Scientific.toFloat).filter Binary64.isFinite

/-- The words for true. -/
def trueWords : List String := ["t", "y", "yes", "true", "on", "1"]

/-- The words for false. -/
def falseWords : List String := ["f", "n", "no", "false", "off", "0"]

/-- The words for neither. -/
def nullWords : List String := ["null", "none"]

/-- What a word in any case stands for: true, false or null. -/
def boolean? (text : String) : Option Value :=
  let word := String.ofList (text.toList.map Char.toLower)
  if trueWords.contains word then some (.bool true)
  else if falseWords.contains word then some (.bool false)
  else if nullWords.contains word then some .null
  else none

/-- The day that a text stands for. The last day of the calendar is refused, because a whole day
ends where the next one starts. -/
def date? (text : List Char) : Option Date :=
  (Date.ofQuery? text).filter fun d => d.succ?.isSome

/-- Decodes a text without its surrounding blanks. -/
def decode (expected : Expectation) (read? : String → Option Value) (raw : Raw) :
    Except CodecError Value := do
  let text := Text.trim (← raw.single)
  match read? text with
  | some value => .ok value
  | none => .error (.invalid text expected)

/-- Decodes a text that may not be blank. -/
def decodeText (trimmed : Bool) (raw : Raw) : Except CodecError Value := do
  let text ← raw.single
  let text := if trimmed then Text.trim text else text
  if text.isEmpty then .error .blank else .ok (.string text)

end Scalar

end QueryFilters
