import QueryFilters.Codec.Scalar

/-!
# Codecs

A codec decodes the raw input of a filter into a value. Its shape tells how the input is taken from
a query. A codec may answer null for input that explicitly means no value.
-/

namespace QueryFilters

/-- The ways to decode raw input. -/
inductive Codec
  /-- Text, without its surrounding blanks if `trimmed`. -/
  | string (trimmed : Bool)
  | integer
  | float
  | boolean
  | uuid
  | objectId
  /-- A point in time, truncated to the millisecond if `millis`. -/
  | dateTime (millis : Bool)
  | date
  /-- Every text of a sequence, decoded by `child`. -/
  | list (child : Codec)
  /-- Every text of a group, decoded by `child`. Keys outside `valid` are refused, and so is a group
  without one of `required`. -/
  | group (child : Codec) (valid required : Option KeySet)
  /-- A longitude and a latitude. -/
  | geoPoint
  /-- Input of the given shape, decoded by any other rule. -/
  | custom (shape : Shape) (rule : Raw → Except CodecError Value)

namespace Codec

/-- The group with the keys `min` and `max` that range filters read. -/
def range (child : Codec) : Codec :=
  group child (some (KeySet.ofKeys ["min", "max"])) none

/-- The keys of a longitude and a latitude. -/
def coordinateKeys : KeySet := KeySet.ofKeys ["lng", "lat"]

/-- The shape of the input that a codec decodes. -/
def shape : Codec → Shape
  | list _ => .sequence
  | group .. => .group
  | geoPoint => .group
  | custom shape _ => shape
  | _ => .single

/-- Decodes the texts of a sequence from position `index` on; the first that fails is reported. -/
def decodeItems (decode : String → Except CodecError Value) (index : Nat) :
    List String → Except CodecError (List Value)
  | [] => .ok []
  | text :: texts =>
    match decode text with
    | .error cause => .error (.item (Digits.natText index) cause)
    | .ok value =>
      match decodeItems decode (index + 1) texts with
      | .error e => .error e
      | .ok values => .ok (value :: values)

/-- Decodes the texts of a group; the first that fails is reported. -/
def decodeEntries (decode : String → Except CodecError Value) :
    List (String × String) → Except CodecError (List (String × Value))
  | [] => .ok []
  | (key, text) :: texts =>
    match decode text with
    | .error cause => .error (.item key cause)
    | .ok value =>
      match decodeEntries decode texts with
      | .error e => .error e
      | .ok entries => .ok ((key, value) :: entries)

/-- Refuses a group with keys that are not valid, or without keys that are required. -/
def checkKeys (valid required : Option KeySet) (group : Dict String) : Except CodecError Unit :=
  let invalid := group.keys.filter fun key => !valid.all (·.contains key)
  let missing := (required.elim [] Dict.keys).filter fun key => !group.contains key
  if !invalid.isEmpty then .error (.invalidKeys invalid)
  else if !missing.isEmpty then .error (.missingKeys missing)
  else .ok ()

/-- Decodes a group of texts. -/
def decodeGroup (decode : String → Except CodecError Value) (valid required : Option KeySet) :
    Raw → Except CodecError Value
  | .group texts => do
    checkKeys valid required texts
    let entries ← decodeEntries decode texts.entries
    .ok (.map entries)
  | _ => .error .expectedMap

/-- The number under a key of a decoded group. -/
def coordinate (decoded : Value) (key : String) : Except CodecError Float :=
  match (decoded.getPath? [key]).bind Value.asFloat? with
  | some x => .ok x
  | none => .error (.missingKeys [key])

/-- Decodes a double. -/
def decodeFloat (raw : Raw) : Except CodecError Value :=
  Scalar.decode .number (fun text => (Scalar.float? text.toList).map .float) raw

/-- Decodes a longitude and a latitude, both of which are required. -/
def decodeGeoPoint (raw : Raw) : Except CodecError Value := do
  let decoded ← decodeGroup (fun text => decodeFloat (.one text)) (some coordinateKeys)
    (some coordinateKeys) raw
  let lng ← coordinate decoded "lng"
  let lat ← coordinate decoded "lat"
  .ok (Value.point ⟨lng, lat⟩)

/-- Decodes a point in time. -/
def decodeDateTime (millis : Bool) (raw : Raw) : Except CodecError Value :=
  Scalar.decode .dateTime
    (fun text => (DateTime.ofQuery? text.toList).map fun dt =>
      .dateTime (if millis then dt.truncateMillis else dt))
    raw

/-- Decodes raw input. -/
def decode : Codec → Raw → Except CodecError Value
  | string trimmed, raw => Scalar.decodeText trimmed raw
  | integer, raw =>
    Scalar.decode .integer (fun text => (Scalar.integer? text.toList).map .int) raw
  | float, raw => decodeFloat raw
  | boolean, raw => Scalar.decode .boolean Scalar.boolean? raw
  | uuid, raw => Scalar.decode .uuid (fun text => (Uuid.ofText? text.toList).map .uuid) raw
  | objectId, raw =>
    Scalar.decode .objectId (fun text => (ObjectId.ofHex? text.toList).map .objectId) raw
  | dateTime millis, raw => decodeDateTime millis raw
  | date, raw => Scalar.decode .date (fun text => (Scalar.date? text.toList).map .date) raw
  | list child, raw =>
    match raw with
    | .one text => (decodeItems (fun text => decode child (.one text)) 0 [text]).map .list
    | .many texts => (decodeItems (fun text => decode child (.one text)) 0 texts).map .list
    | .group _ => .error .expectedList
  | group child valid required, raw =>
    decodeGroup (fun text => decode child (.one text)) valid required raw
  | geoPoint, raw => decodeGeoPoint raw
  | custom _ rule, raw => rule raw

end Codec

end QueryFilters
