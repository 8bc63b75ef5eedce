import QueryFilters.Text.Quoted

/-!
# Undecodable input

Why raw input cannot be decoded.
-/

namespace QueryFilters

/-- What a scalar codec takes its input for. -/
inductive Expectation
  | integer
  | number
  | boolean
  | uuid
  | objectId
  | dateTime
  | date
deriving DecidableEq

/-- The word for what was expected. -/
def Expectation.name : Expectation → String
  | integer => "integer"
  | number => "number"
  | boolean => "boolean"
  | uuid => "uuid"
  | objectId => "object id"
  | dateTime => "datetime"
  | date => "date"

/-- Why raw input cannot be decoded. -/
inductive CodecError
  | invalid (text : String) (expected : Expectation)
  | blank
  | expectedSingle
  | expectedList
  | expectedMap
  | invalidKeys (keys : List String)
  | missingKeys (keys : List String)
  /-- The input under a key, or at a position of a sequence, cannot be decoded. -/
  | item (key : String) (cause : CodecError)
deriving DecidableEq

/-- The wording of the error. -/
def CodecError.message : CodecError → String
  | invalid text expected => Text.quoted text ++ " is not a valid " ++ expected.name
  | blank => "value may not be blank"
  | expectedSingle => "expected a single value"
  | expectedList => "expected a list of values"
  | expectedMap => "expected a mapping of values"
  | invalidKeys keys => "unexpected keys " ++ Text.quotedList keys
  | missingKeys keys => "missing required keys " ++ Text.quotedList keys
  | item key cause => key ++ ": " ++ cause.message

end QueryFilters
