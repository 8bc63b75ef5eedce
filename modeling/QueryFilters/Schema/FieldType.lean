import QueryFilters.Text.Split

/-!
# Field types

The types that a document schema declares for its fields, and the more general types that stand in
for them.
-/

namespace QueryFilters

/-- The declared type of a document field. -/
inductive FieldType
  | string
  | url
  | email
  | int
  | long
  | float
  | decimal
  | boolean
  | dateTime
  | complexDateTime
  | date
  | objectId
  | uuid
  /-- A counter that increments itself. -/
  | sequence
  | reference
  | lazyReference
  | genericReference
  | point
  | list
  | sortedList
  | embeddedDocumentList
  | dict
  | map
  | embeddedDocument
  | binary
  | file
  | image
  | dynamic
deriving DecidableEq

namespace FieldType

/-- Every field type. -/
def all : List FieldType :=
  [string, url, email, int, long, float, decimal, boolean, dateTime, complexDateTime, date,
   objectId, uuid, sequence, reference, lazyReference, genericReference, point, list, sortedList,
   embeddedDocumentList, dict, map, embeddedDocument, binary, file, image, dynamic]

/-- The name of a type in schemas. -/
def name : FieldType → String
  | string => "string"
  | url => "url"
  | email => "email"
  | int => "int"
  | long => "long"
  | float => "float"
  | decimal => "decimal"
  | boolean => "boolean"
  | dateTime => "date_time"
  | complexDateTime => "complex_date_time"
  | date => "date"
  | objectId => "object_id"
  | uuid => "uuid"
  | sequence => "sequence"
  | reference => "reference"
  | lazyReference => "lazy_reference"
  | genericReference => "generic_reference"
  | point => "point"
  | list => "list"
  | sortedList => "sorted_list"
  | embeddedDocumentList => "embedded_document_list"
  | dict => "dict"
  | map => "map"
  | embeddedDocument => "embedded_document"
  | binary => "binary"
  | file => "file"
  | image => "image"
  | dynamic => "dynamic"

/-- The type with the given name in schemas. -/
def ofName? (text : String) : Option FieldType :=
  all.find? fun t => t.name == text

/-- The name of a type in messages: the words of its name in schemas, each with a capital. -/
def label (t : FieldType) : String :=
  String.ofList ((Text.splitOn '_' t.name.toList).flatMap fun word =>
    match word with
    | [] => []
    | c :: rest => c.toUpper :: rest)

/-- The more general types that a type specializes, nearest first. -/
def fallbacks : FieldType → List FieldType
  | url => [string]
  | email => [string]
  | complexDateTime => [string]
  | date => [dateTime]
  | sortedList => [list]
  | embeddedDocumentList => [list]
  | map => [dict]
  | image => [file]
  | _ => []

/-- Whether fields of the type hold elements of another type. -/
def isCollection (t : FieldType) : Bool :=
  t == list || t.fallbacks.contains list

theorem mem_all (t : FieldType) : t ∈ all := by
  cases t <;> decide

theorem ofName?_name (t : FieldType) : ofName? t.name = some t := by
  cases t <;> decide

end FieldType

end QueryFilters
