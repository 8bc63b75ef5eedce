import QueryFilters.Number.Digits

/-!
# Document identifiers

Identifiers of 96 bits, written as 24 hexadecimal digits.
-/

namespace QueryFilters

/-- The identifier of a stored document. -/
structure ObjectId where
  bits : BitVec 96
deriving DecidableEq

namespace ObjectId

/-- Identifiers are ordered by their bits, the first ones counting most. -/
instance : Ord ObjectId where
  compare := compareOn fun id => id.bits.toNat

/-- The identifier written as 24 hexadecimal digits of either case. -/
def ofHex? (text : List Char) : Option ObjectId :=
  if text.length = 24 then (Digits.hexToNat? text).map fun n => ⟨BitVec.ofNat 96 n⟩ else none

/-- The 24 hexadecimal digits of an identifier, in lower case. -/
def toHex (id : ObjectId) : String :=
  String.ofList (Digits.hexPadded 24 id.bits.toNat)

end ObjectId

end QueryFilters
