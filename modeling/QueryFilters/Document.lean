import QueryFilters.Value.PlainJson

/-!
# Documents

A stored document: the collection it belongs to and its attributes.
-/

namespace QueryFilters

/-- A stored document. -/
structure Document where
  collection : String
  fields : Dict Value

namespace Document

/-- A document with nothing but an identifier. -/
def ofId (collection : String) (id : ObjectId) : Document :=
  ⟨collection, Dict.ofList [("id", .objectId id)]⟩

/-- Stores a value under an attribute. -/
def set (d : Document) (name : String) (value : Value) : Document :=
  { d with fields := d.fields.insert name value }

/-- A document with an identifier and the attributes of a JSON object, which may replace the
identifier. Anything but an object gives no attributes. -/
def ofJson (collection : String) (id : ObjectId) (json : Json) : Document :=
  let d := ofId collection id
  match Value.ofJson json with
  | .map entries => { d with fields := d.fields.insertAll entries }
  | _ => d

/-- The value at a path, if every step of the path is there. -/
def get? (d : Document) : Path → Option Value
  | [] => none
  | name :: path => (d.fields.get? name).bind fun value => value.getPath? path

/-- A path that begins with a stored attribute continues in its value. -/
theorem get?_set (d : Document) (name : String) (value : Value) (path : Path) :
    (d.set name value).get? (name :: path) = value.getPath? path := by
  have hfield : (d.set name value).fields.get? name = some value := by
    rw [set, Dict.get?_insert, if_pos rfl]
  rw [get?, hfield, Option.bind_some]

/-- The identifier, if the document has one that is a document identifier. -/
def id? (d : Document) : Option ObjectId :=
  match d.fields.get? "id" with
  | some (.objectId id) => some id
  | _ => none

/-- How another document refers to this one. -/
def reference (d : Document) : Value :=
  .ofPairs [("$ref", .string d.collection), ("$id", (d.fields.get? "id").getD .null)]

end Document

end QueryFilters
