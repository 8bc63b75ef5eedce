import QueryFilters.Calendar.Pattern
import QueryFilters.Identifier.ObjectId
import QueryFilters.Identifier.Uuid
import QueryFilters.Json.Basic
import QueryFilters.Number.Decimal128
import QueryFilters.Text.Base64

/-!
# Extended JSON

JSON with objects for the values that JSON itself lacks. The name of such an object's last member
tells the type, and what the member holds tells the value; members before it are read and passed
over. An object without a member that names a type is a document. Only document identifiers matter
here, but a text is refused if any part of it is malformed.
-/

namespace QueryFilters

/-- What a part of extended JSON stands for. -/
inductive ExtendedJson
  /-- A scalar of JSON or a list. -/
  | plain
  | document
  | objectId (id : ObjectId)
  /-- A value of another type that JSON lacks. -/
  | foreign

namespace ExtendedJson

/-! ### Types with a name -/

/-- The types that the name of one member tells. -/
inductive Tag
  | objectId
  | symbol
  | int32
  | int64
  | double
  | decimal
  /-- A decimal by its 16 bytes. -/
  | decimalBytes
  | binary
  | uuid
  | timestamp
  | regularExpression
  | pointer
  | dateTime
  | minKey
  | maxKey
  | undefined

/-- The type that a name tells. -/
def Tag.ofName? (name : String) : Option Tag :=
  [("$oid", objectId), ("$symbol", symbol), ("$numberInt", int32), ("$numberLong", int64),
   ("$numberDouble", double), ("$numberDecimal", decimal), ("$numberDecimalBytes", decimalBytes),
   ("$binary", binary), ("$uuid", uuid), ("$timestamp", timestamp),
   ("$regularExpression", regularExpression), ("$dbPointer", pointer), ("$date", dateTime),
   ("$minKey", minKey), ("$maxKey", maxKey), ("$undefined", undefined)].lookup name

/-- The values under the given names, in the order of the names: of an object with these members
and no others, or of an array with that many items. -/
def record? (names : List String) : Json → Option (List Json)
  | .object members =>
    if members.length = names.length then names.mapM (List.lookup · members) else none
  | .array items => if items.length = names.length then some items else none
  | _ => none

/-- Whether a value is a string that passes a test. -/
def isText (test : List Char → Bool) : Json → Bool
  | .string s => test s.toList
  | _ => false

/-- Whether a value is an integer from 0 up to, but not including, `limit`. -/
def isBelow (limit : Nat) : Json → Bool
  | .number (.integer n) => 0 ≤ n.toInt && n.toInt < limit
  | _ => false

/-- Whether a text is an integer that fits `bits` bits. -/
def isInteger (bits : Nat) (text : List Char) : Bool :=
  (Scientific.integer? text).any (Scientific.fits bits)

/-- Whether a text is a number or the name of what is no finite number. -/
def isDouble (text : List Char) : Bool :=
  (Scientific.read? text).isSome || Scientific.isWord ["inf", "infinity", "nan"] text

/-- Whether a value gives sixteen bytes. -/
def isSixteenBytes : Json → Bool
  | .string s => s.utf8ByteSize == 16
  | .octets size => size == 16
  | .array items => items.length == 16 && items.all (isBelow 256)
  | _ => false

/-- Whether a value gives bytes and the two hexadecimal digits of their kind. -/
def isBinary (body : Json) : Bool :=
  match record? ["base64", "subType"] body with
  | some [bytes, kind] =>
    isText Base64.isEncoded bytes &&
      isText (fun text => text.length == 2 && (Digits.hexToNat? text).isSome) kind
  | _ => false

/-- Whether a value gives the two numbers of a timestamp. -/
def isTimestamp (body : Json) : Bool :=
  (record? ["t", "i"] body).any (·.all (isBelow (Nat.pow 2 32)))

/-- Whether a value gives a pattern and its options. -/
def isRegularExpression (body : Json) : Bool :=
  (record? ["pattern", "options"] body).any (·.all (isText fun _ => true))

/-- Whether a value gives a collection and a document identifier. -/
def isPointer (body : Json) : Bool :=
  match record? ["$ref", "$id"] body with
  | some [collection, id] =>
    isText (fun _ => true) collection &&
      (record? ["$oid"] id).any (·.all (isText fun hex => (ObjectId.ofHex? hex).isSome))
  | _ => false

/-- Whether a value gives a point in time: an internet timestamp, or milliseconds as an integer of
JSON or of extended JSON. -/
def isDateTime : Json → Bool
  | .string s => (DateTime.ofTimestamp? .stored s.toList).isSome
  | .number (.integer _) => true
  | body => (record? ["$numberLong"] body).any (·.all (isText (isInteger 64)))

/-- Whether a value is the number one. -/
def isOne : Json → Bool
  | .number (.integer n) => n == 1
  | _ => false

/-- Whether a type accepts what the member with its name holds. -/
def Tag.accepts (tag : Tag) (body : Json) : Bool :=
  match tag with
  | objectId => isText (fun hex => (ObjectId.ofHex? hex).isSome) body
  | symbol => isText (fun _ => true) body
  | int32 => isText (isInteger 32) body
  | int64 => isText (isInteger 64) body
  | double => isText isDouble body
  | decimal => isText Decimal128.canRead body
  | decimalBytes => isSixteenBytes body
  | binary => isBinary body
  | uuid => isText (fun text => (Uuid.ofText? text).isSome) body
  | timestamp => isTimestamp body
  | regularExpression => isRegularExpression body
  | pointer => isPointer body
  | dateTime => isDateTime body
  | minKey => isOne body
  | maxKey => isOne body
  | undefined =>
    match body with
    | .bool b => b
    | _ => false

/-- What the member with the name of a type stands for. -/
def Tag.read? (tag : Tag) (body : Json) : Option ExtendedJson :=
  match tag, body with
  | objectId, .string hex => (ObjectId.ofHex? hex.toList).map .objectId
  | tag, body => if tag.accepts body then some .foreign else none

/-! ### Reading -/

/-- Whether this is a document. -/
def isDocument : ExtendedJson → Bool
  | document => true
  | _ => false

mutual

/-- What a part of extended JSON stands for. Integers beyond 64 bits with a sign are refused. -/
def ofJson? : Json → Option ExtendedJson
  | .number (.natural _) => none
  | .array items => if itemsRead items then some plain else none
  | .object members => ofMembers? members
  | .octets _ => none
  | .unreadable => none
  | _ => some plain

/-- Whether every item of an array can be read. -/
def itemsRead : List Json → Bool
  | [] => true
  | item :: items => (ofJson? item).isSome && itemsRead items

/-- What an object with the given members stands for. Program code may come with a document, its
scope, before or after it. -/
def ofMembers? : List (String × Json) → Option ExtendedJson
  | [] => some document
  | (name, body) :: members =>
    if name = "$code" then
      if isText (fun _ => true) body && endsInScope members then some foreign else none
    else if name = "$scope" then
      match ofJson? body, members with
      | some document, [(name, .string _)] => if name = "$code" then some foreign else none
      | _, _ => none
    else
      match Tag.ofName? name with
      | some tag => if members.isEmpty then tag.read? body else none
      | none => if (ofJson? body).isSome then ofMembers? members else none

/-- Whether nothing follows program code but its scope. -/
def endsInScope : List (String × Json) → Bool
  | [] => true
  | [(name, body)] => name == "$scope" && (ofJson? body).any isDocument
  | _ => false

end

end ExtendedJson

/-- The identifier that extended JSON gives, as its hexadecimal digits or as an object. -/
def ObjectId.ofJson? : Json → Option ObjectId
  | .string hex => ofHex? hex.toList
  | .object members =>
    match ExtendedJson.ofMembers? members with
    | some (.objectId id) => some id
    | _ => none
  | _ => none

end QueryFilters
