import QueryFilters.Dict
import QueryFilters.Number.FloatText
import QueryFilters.Text.Split

/-!
# JSON

JSON documents as they are written: the members of an object keep their order, and a name may be
given more than once. `Json.merged` is the document with each name given once.
-/

namespace QueryFilters

/-- The numbers of JSON: integers of 64 bits with a sign, greater ones without, and doubles. -/
inductive JsonNumber
  | integer (n : Int64)
  | natural (n : UInt64)
  | double (x : Float)

namespace JsonNumber

/-- The double nearest to a number. -/
def toFloat : JsonNumber → Float
  | integer n => Binary64.ofInt n.toInt
  | natural n => Binary64.ofInt n.toNat
  | double x => x

/-- The text of a number. -/
def toText : JsonNumber → String
  | integer n => Digits.intText n.toInt
  | natural n => Digits.natText n.toNat
  | double x => FloatStyle.json.text x

end JsonNumber

/-- A JSON document. -/
inductive Json
  | null
  | bool (b : Bool)
  | number (n : JsonNumber)
  | string (s : String)
  | array (items : List Json)
  | object (members : List (String × Json))
  /-- A string that is no text, by the number of its bytes: one with half of a surrogate pair or
  with a bare control. -/
  | octets (size : Nat)
  /-- Text that follows the grammar but has no value: a number beyond the doubles, or an object that
  names a member with half of a surrogate pair. -/
  | unreadable

namespace Json

/-- The text of a string: between double quotes, with controls, quotes and backslashes escaped. -/
def quotedChar (c : Char) : List Char :=
  if c = '\x22' then ['\\', '\x22']
  else if c = '\\' then ['\\', '\\']
  else if c = '\x08' then ['\\', 'b']
  else if c = '\t' then ['\\', 't']
  else if c = '\n' then ['\\', 'n']
  else if c = '\x0c' then ['\\', 'f']
  else if c = '\r' then ['\\', 'r']
  else if c.toNat < 0x20 then ['\\', 'u'] ++ Digits.hexPadded 4 c.toNat
  else [c]

/-- The text of a string. -/
def quoted (s : String) : String :=
  String.ofList ('\x22' :: s.toList.flatMap quotedChar ++ ['\x22'])

mutual

/-- The compact text of a document. -/
def toText : Json → String
  | null => "null"
  | bool true => "true"
  | bool false => "false"
  | number n => n.toText
  | string s => quoted s
  | array items => "[" ++ itemsText items ++ "]"
  | object members => "\x7b" ++ membersText members ++ "\x7d"
  | octets _ => "null"
  | unreadable => "null"

/-- The texts of the items of an array with commas between them. -/
def itemsText : List Json → String
  | [] => ""
  | item :: items =>
    toText item ++ if items.isEmpty then "" else "," ++ itemsText items

/-- The texts of the members of an object with commas between them. -/
def membersText : List (String × Json) → String
  | [] => ""
  | (name, value) :: members =>
    quoted name ++ ":" ++ toText value ++
      if members.isEmpty then "" else "," ++ membersText members

end

mutual

/-- How deep arrays and objects are nested. -/
def depth : Json → Nat
  | array items => itemsDepth items + 1
  | object members => membersDepth members + 1
  | _ => 0

/-- The depth of the deepest item. -/
def itemsDepth : List Json → Nat
  | [] => 0
  | item :: items => max (depth item) (itemsDepth items)

/-- The depth of the deepest member. -/
def membersDepth : List (String × Json) → Nat
  | [] => 0
  | (_, value) :: members => max (depth value) (membersDepth members)

end

mutual

/-- Whether every part of a document has a value. -/
def isReadable : Json → Bool
  | array items => itemsReadable items
  | object members => membersReadable members
  | octets _ => false
  | unreadable => false
  | _ => true

/-- Whether every item has a value. -/
def itemsReadable : List Json → Bool
  | [] => true
  | item :: items => isReadable item && itemsReadable items

/-- Whether every member has a value. -/
def membersReadable : List (String × Json) → Bool
  | [] => true
  | (_, value) :: members => isReadable value && membersReadable members

end

/-- How deep a document may be nested. -/
def depthLimit : Nat := 127

/-- Whether every part of a document has a value of its own and none lies too deep. -/
def isSound (json : Json) : Bool :=
  json.isReadable && json.depth ≤ depthLimit

mutual

/-- The document in which each name stands where it is first given, with the value given last. -/
def merged : Json → Json
  | array items => array (itemsMerged items)
  | object members => object (membersMerged [] members)
  | json => json

/-- The items of an array, merged. -/
def itemsMerged : List Json → List Json
  | [] => []
  | item :: items => merged item :: itemsMerged items

/-- The members of an object, merged after those in `before`. -/
def membersMerged (before : List (String × Json)) : List (String × Json) → List (String × Json)
  | [] => before
  | (name, value) :: members => membersMerged (Entries.put name (merged value) before) members

end

end Json

end QueryFilters
