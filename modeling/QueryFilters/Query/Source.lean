import QueryFilters.Dict
import QueryFilters.Json.Basic
import QueryFilters.Query.FormData
import QueryFilters.Roster

/-!
# Sources of query data

A source answers three questions about the data of one query: the single text of a key, every text
of a key, and the texts of all keys that extend a key by a dot and a suffix. Query strings answer
with several texts for a key, plain dictionaries with one, and JSON objects by their structure.
-/

namespace QueryFilters

/-- What filters ask about the data of a query. -/
structure QuerySource where
  /-- The last text given for a key. -/
  one? : String → Option String
  /-- Every text given for a key, in order. -/
  all : String → List String
  /-- The texts of the names that extend a key by a dot and a suffix, by suffix. -/
  group : String → Dict String

/-- The suffix of a name that extends a key by a dot. -/
def groupSuffix? (name key : String) : Option String :=
  (Text.after? (key.toList ++ ['.']) name.toList).map String.ofList

namespace FormData

/-- The last text given for a key. -/
def one? (data : FormData) (key : String) : Option String :=
  (data.entries.reverse.find? fun entry => entry.1 == key).map Prod.snd

/-- Every text given for a key, in order. -/
def all (data : FormData) (key : String) : List String :=
  (data.entries.filter fun entry => entry.1 == key).map Prod.snd

/-- Puts the last text of a name into a group, under the suffix by which the name extends the key. A
suffix that is there keeps its text. -/
def collect (data : FormData) (key : String) (group : Dict String) (name : String) : Dict String :=
  match groupSuffix? name key with
  | none => group
  | some suffix =>
    if group.contains suffix then group
    else
      match data.one? name with
      | none => group
      | some text => group.insert suffix text

/-- The texts of the names that extend a key by a dot and a suffix. Of a name given more than once
the last text counts. -/
def group (data : FormData) (key : String) : Dict String :=
  data.entries.foldl (fun group entry => data.collect key group entry.1) .empty

/-- A query string as a source. -/
def source (data : FormData) : QuerySource where
  one? := data.one?
  all := data.all
  group := data.group

end FormData

namespace QuerySource

/-- A dictionary as a source. -/
def ofDict (dict : Dict String) : QuerySource where
  one? key := dict.get? key
  all key := (dict.get? key).toList
  group key :=
    Dict.ofList (dict.entries.filterMap fun (name, text) => (groupSuffix? name key).map (·, text))

/-- A table with an order of its own as a source. -/
def ofRoster (table : Roster String) : QuerySource where
  one? key := table.get? key
  all key := (table.get? key).toList
  group key :=
    Dict.ofList (table.entries.filterMap fun (name, text) => (groupSuffix? name key).map (·, text))

/-- The text of a JSON value: none for null, the characters of a string, and the JSON text of
anything else. -/
def jsonText? : Json → Option String
  | .null => none
  | .string s => some s
  | json => some json.toText

/-- The value of a member of an object. -/
def member? (members : List (String × Json)) (name : String) : Option Json :=
  (members.find? fun member => member.1 == name).map Prod.snd

/-- The members of a JSON object, each named once, as a source. Arrays are sequences, nested objects
are groups, and every other value stands for its text. -/
def ofMembers (members : List (String × Json)) : QuerySource where
  one? key := (member? members key).bind jsonText?
  all key :=
    match member? members key with
    | some (.array items) => items.filterMap jsonText?
    | some json => (jsonText? json).toList
    | none => []
  group key :=
    match member? members key with
    | some (.object inner) =>
      Dict.ofList (inner.filterMap fun (name, json) => (jsonText? json).map (name, ·))
    | _ =>
      Dict.ofList (members.filterMap fun (name, json) =>
        match groupSuffix? name key, jsonText? json with
        | some suffix, some text => some (suffix, text)
        | _, _ => none)

/-- A JSON object as a source. -/
def ofJson? (json : Json) : Option QuerySource :=
  match json.merged with
  | .object members => some (ofMembers members)
  | _ => none

end QuerySource

end QueryFilters
