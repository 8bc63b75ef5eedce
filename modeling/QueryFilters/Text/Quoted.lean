import QueryFilters.Number.Digits
import QueryFilters.Text.Escaped

/-!
# Quoted text

How messages show a text: between double quotes, with a backslash before what would be misread,
and with the code point in place of a character that has no glyph of its own.
-/

namespace QueryFilters.Text

/-- The form of one character inside quotes. -/
def quotedChar (c : Char) : List Char :=
  if c = '\x00' then ['\\', '0']
  else if c = '\t' then ['\\', 't']
  else if c = '\n' then ['\\', 'n']
  else if c = '\r' then ['\\', 'r']
  else if c = '\\' then ['\\', '\\']
  else if c = '\x22' then ['\\', '\x22']
  else if isEscaped c then ['\\', 'u', '\x7b'] ++ Digits.hexOfNat c.toNat ++ ['\x7d']
  else [c]

/-- The text between double quotes. -/
def quoted (text : String) : String :=
  String.ofList ('\x22' :: text.toList.flatMap quotedChar ++ ['\x22'])

/-- The texts quoted, between square brackets. -/
def quotedList (texts : List String) : String :=
  "[" ++ ", ".intercalate (texts.map quoted) ++ "]"

end QueryFilters.Text
