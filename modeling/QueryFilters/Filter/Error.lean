import QueryFilters.Codec.Error
import QueryFilters.Filter.Kind
import QueryFilters.Schema.FieldType

/-!
# Errors of filters

Errors while filters are set up, while a query is parsed, and while filters are applied.
-/

namespace QueryFilters

/-- An option of a filter that only some kinds take. -/
inductive FilterOption
  | child
  | bounds
  | collapse
deriving DecidableEq

/-- The name of an option in messages. -/
def FilterOption.name : FilterOption → String
  | child => "child"
  | bounds => "bounds"
  | collapse => "collapse"

/-- Why filters cannot be set up. -/
inductive ConfigurationError
  | invalidLookup (kind : FilterKind) (lookup : Option Lookup)
  | invalidRangeBounds (lower upper : Lookup)
  | unknownLookup (cause : LookupError)
  | unsupportedOption (kind : FilterKind) (option : FilterOption)
  | conflictingFieldPolicy
  | unknownField (document field : String)
  | unmappedField (field : String) (type : FieldType)
  | missingElementType (field : String)
deriving DecidableEq

/-- The wording of the error. -/
def ConfigurationError.message : ConfigurationError → String
  | invalidLookup kind lookup =>
    "invalid lookup " ++ lookup.elim "(equality)" Lookup.suffix ++ " for " ++ kind.name ++ " filter"
  | invalidRangeBounds lower upper =>
    "invalid range bounds (" ++ lower.suffix ++ ", " ++ upper.suffix ++
      "): lower must be gt/gte and upper lt/lte"
  | unknownLookup cause => cause.message
  | unsupportedOption kind option =>
    kind.name ++ " filter does not take the " ++ option.name ++ " option"
  | conflictingFieldPolicy =>
    "field policy may name included fields or excluded fields, not both"
  | unknownField document field =>
    "field " ++ Text.quoted field ++ " is not defined on document " ++ document
  | unmappedField field type =>
    "no filter mapping for field " ++ Text.quoted field ++ " of type " ++ type.label ++
      "; exclude the field, declare a filter for it, or extend the mapping"
  | missingElementType field =>
    "collection field " ++ Text.quoted field ++ " does not declare an element type"

/-- A text of a query that its filter cannot decode. -/
structure ValidationError where
  field : String
  value : String
  cause : CodecError
deriving DecidableEq

/-- The wording of the error. -/
def ValidationError.message (e : ValidationError) : String :=
  "invalid value " ++ Text.quoted e.value ++ " for filter " ++ Text.quoted e.field ++ ": " ++
    e.cause.message

/-- Why filters cannot be applied to a queryset. -/
inductive FilterError
  | validation (cause : ValidationError)
  /-- The queryset selects documents of another type. -/
  | backendMismatch (expected actual : String)
deriving DecidableEq

/-- The wording of the error. -/
def FilterError.message : FilterError → String
  | validation cause => cause.message
  | backendMismatch expected actual =>
    "filter set for document " ++ expected ++ " applied to a queryset of " ++ actual

end QueryFilters
