import QueryFilters.Text.CaseProperty
import QueryFilters.Text.LowercaseRun

/-!
# The lower case of a text

The full lower case mapping: one character at a time, but for the capital I with a dot, which
becomes two characters, and the capital sigma, which depends on its neighbours.
-/

namespace QueryFilters.Text

/-- Whether the first character of the text that is not case ignorable has case. -/
def meetsCased (text : List Char) : Bool :=
  (text.dropWhile isCaseIgnorable).head?.any isCased

/-- The lower case of a capital sigma: the final form after a letter with case and before none. -/
def lowercaseSigma (before after : List Char) : Char :=
  if meetsCased before && !meetsCased after then 'ς' else 'σ'

/-- The lower case of a text, where `before` holds the characters in front of it, nearest first. -/
def lowercaseFrom (before : List Char) : List Char → List Char
  | [] => []
  | c :: rest =>
    if c = 'Σ' then lowercaseSigma before rest :: lowercaseFrom (c :: before) rest
    else if c = 'İ' then 'i' :: '\u0307' :: lowercaseFrom (c :: before) rest
    else simpleLowercase c :: lowercaseFrom (c :: before) rest

/-- The lower case of a text. -/
def lowercase (text : String) : String :=
  String.ofList (lowercaseFrom [] text.toList)

end QueryFilters.Text
