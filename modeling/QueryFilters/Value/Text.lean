import QueryFilters.Number.FloatText
import QueryFilters.Text.Quoted
import QueryFilters.Value.Basic

/-!
# The text of a value

How messages show values.
-/

namespace QueryFilters.Value

mutual

/-- The text of a value. -/
def toText : Value → String
  | null => "null"
  | bool true => "true"
  | bool false => "false"
  | int n => Digits.intText n.toInt
  | float x => FloatStyle.message.text x
  | string s => Text.quoted s
  | dateTime dt => dt.toText
  | date d => d.toText
  | objectId id => "ObjectId(" ++ id.toHex ++ ")"
  | uuid id => id.toText
  | list items => "[" ++ itemsText items ++ "]"
  | map entries => "\x7b" ++ entriesText entries ++ "\x7d"

/-- The texts of the items of a list with commas between them. -/
def itemsText : List Value → String
  | [] => ""
  | item :: items =>
    toText item ++ if items.isEmpty then "" else ", " ++ itemsText items

/-- The texts of the entries of a map with commas between them. Names are not quoted. -/
def entriesText : List (String × Value) → String
  | [] => ""
  | (name, value) :: entries =>
    name ++ ": " ++ toText value ++ if entries.isEmpty then "" else ", " ++ entriesText entries

end

end QueryFilters.Value
