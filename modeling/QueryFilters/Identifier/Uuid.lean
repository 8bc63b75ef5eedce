import QueryFilters.Number.Digits
import QueryFilters.Text.Split

/-!
# Universally unique identifiers

Identifiers of 128 bits. They are written in groups of 8, 4, 4, 4 and 12 hexadecimal digits with
dashes between them, and read in that form, in braces, after `urn:uuid:`, or without dashes. The
case of letters has no meaning, neither in the digits nor in `urn:uuid:`.
-/

namespace QueryFilters

/-- A universally unique identifier. -/
structure Uuid where
  bits : BitVec 128
deriving DecidableEq

namespace Uuid

/-- Identifiers are ordered by their bits, the first ones counting most. -/
instance : Ord Uuid where
  compare := compareOn fun id => id.bits.toNat

/-- The identifier with the given 32 hexadecimal digits. -/
def ofDigits? (digits : List Char) : Option Uuid :=
  (Digits.hexToNat? digits).map fun n => ⟨BitVec.ofNat 128 n⟩

/-- Reads digits in groups with dashes between them. -/
def ofGroups? (text : List Char) : Option Uuid :=
  let groups := Text.splitOn '-' text
  if groups.map List.length = [8, 4, 4, 4, 12] then ofDigits? groups.flatten else none

/-- What stands between braces. -/
def braced? : List Char → Option (List Char)
  | '\x7b' :: rest => if rest.getLast? = some '\x7d' then some rest.dropLast else none
  | _ => none

/-- What follows `urn:uuid:` in lower case, whatever the case in which all is written. -/
def afterUrn? (text : List Char) : Option (List Char) :=
  Text.after? "urn:uuid:".toList (text.map Char.toLower)

/-- Reads an identifier in any of its forms. -/
def ofText? (text : List Char) : Option Uuid :=
  if text.length = 32 then ofDigits? text
  else
    match braced? text with
    | some inner => ofGroups? inner
    | none => ofGroups? ((afterUrn? text).getD text)

/-- The text of an identifier: its digits in lower case, in groups. -/
def toText (id : Uuid) : String :=
  let digits := Digits.hexPadded 32 id.bits.toNat
  let group (start length : Nat) : List Char := (digits.drop start).take length
  String.ofList (['-'].intercalate
    [group 0 8, group 8 4, group 12 4, group 16 4, group 20 12])

end Uuid

end QueryFilters
