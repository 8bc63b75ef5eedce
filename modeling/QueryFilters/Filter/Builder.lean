import QueryFilters.Filter.Error

/-!
# Filters and how they are built

A filter is a template: what it compares, by which lookup, where it reads the query and where it
looks in a document. Builders collect these choices, and `FilterBuilder.build` checks them.
-/

namespace QueryFilters

/-- A checked filter that is not yet bound to a name. -/
structure Filter where
  kind : FilterKind
  lookup : Option Lookup
  /-- The query key to read in place of the name. -/
  key : Option String
  /-- The path of the stored attribute, with dots, in place of the key. -/
  source : Option String
  codec : Codec
  /-- The place of the filter in the order in which all filters were built. -/
  serial : UInt64

/-- Choices for a filter that can be made apart from its kind. -/
structure FilterOptions where
  lookup : Option Lookup
  key : Option String
  source : Option String
  child : Option Codec

/-- The choices for a filter, not yet checked. -/
structure FilterBuilder where
  kind : FilterKind
  lookup : Option Lookup
  key : Option String
  source : Option String
  child : Option Codec
  codec : Option Codec
  bounds : Option (Lookup × Lookup)
  collapse : Bool

namespace FilterBuilder

/-- A filter of the given kind without further choices. -/
def ofKind (kind : FilterKind) : FilterBuilder where
  kind
  lookup := kind.defaultLookup
  key := none
  source := none
  child := none
  codec := none
  bounds := none
  collapse := false

/-- Chooses the lookup. -/
def withLookup (b : FilterBuilder) (lookup : Lookup) : FilterBuilder :=
  { b with lookup := some lookup }

/-- Chooses the lookup with the given suffix. -/
def withSuffix (b : FilterBuilder) (suffix : String) : Except ConfigurationError FilterBuilder :=
  match Lookup.ofSuffix suffix with
  | .ok lookup => .ok (b.withLookup lookup)
  | .error e => .error (.unknownLookup e)

/-- Chooses the query key to read in place of the name. -/
def withKey (b : FilterBuilder) (key : String) : FilterBuilder :=
  { b with key := some key }

/-- Chooses the path of the stored attribute, with dots. -/
def withSource (b : FilterBuilder) (source : String) : FilterBuilder :=
  { b with source := some source }

/-- Chooses the codec of the elements. -/
def withChild (b : FilterBuilder) (child : Codec) : FilterBuilder :=
  { b with child := some child }

/-- Replaces the codec of the kind. -/
def withCodec (b : FilterBuilder) (codec : Codec) : FilterBuilder :=
  { b with codec := some codec }

/-- Chooses the lookups of a range. -/
def withBounds (b : FilterBuilder) (lower upper : Lookup) : FilterBuilder :=
  { b with bounds := some (lower, upper) }

/-- Makes equal bounds of a range one equality. -/
def withCollapse (b : FilterBuilder) : FilterBuilder :=
  { b with collapse := true }

/-- Takes the choices made in the options and keeps the others. -/
def withOptions (b : FilterBuilder) (options : FilterOptions) : FilterBuilder :=
  { b with
    lookup := options.lookup.or b.lookup
    key := options.key.or b.key
    source := options.source.or b.source
    child := options.child.or b.child }

/-- Whether two lookups bound a range from below and from above. -/
def isRangeBounds (lower upper : Lookup) : Bool :=
  (lower == .gt || lower == .gte) && (upper == .lt || upper == .lte)

/-- The kind with the bounds and the collapse chosen for it, which only a range takes. -/
def settledKind (b : FilterBuilder) : Except ConfigurationError FilterKind :=
  match b.kind with
  | .range lower upper _ =>
    match b.bounds with
    | none => .ok (.range lower upper b.collapse)
    | some (low, high) =>
      if isRangeBounds low high then .ok (.range low high b.collapse)
      else .error (.invalidRangeBounds low high)
  | kind =>
    if b.bounds.isSome then .error (.unsupportedOption kind .bounds)
    else if b.collapse then .error (.unsupportedOption kind .collapse)
    else .ok kind

/-- Checks the choices and builds the filter, whose place in the order of building is `serial`. -/
def build (b : FilterBuilder) (serial : UInt64) : Except ConfigurationError Filter :=
  if !b.kind.accepts b.lookup then .error (.invalidLookup b.kind b.lookup)
  else if b.child.isSome && !b.kind.isCollection then .error (.unsupportedOption b.kind .child)
  else
    match b.settledKind with
    | .error e => .error e
    | .ok kind =>
      .ok
        { kind
          lookup := b.lookup
          key := b.key
          source := b.source
          codec := b.codec.getD (kind.codec (b.child.getD (.string true)))
          serial }

/-- Builds filters one after the other. Only those that are built take a place in the order, and
after the last place comes the first. -/
def buildAll (serial : UInt64) : List FilterBuilder → List (Except ConfigurationError Filter)
  | [] => []
  | b :: builders =>
    match b.build serial with
    | .ok filter => .ok filter :: buildAll (serial + 1) builders
    | .error e => .error e :: buildAll serial builders

end FilterBuilder

/-! ### Ready-made builders -/

namespace Filter

/-- Compares a truth value. -/
def boolean : FilterBuilder := .ofKind .boolean

/-- Tests whether an attribute is present. -/
def present : FilterBuilder := boolean.withLookup .present

/-- Compares text. -/
def text : FilterBuilder := .ofKind .text

/-- Compares a universally unique identifier. -/
def uuid : FilterBuilder := .ofKind .uuid

/-- Compares an integer. -/
def integer : FilterBuilder := .ofKind .integer

/-- Compares a number. -/
def float : FilterBuilder := .ofKind .float

/-- Compares a point in time. -/
def dateTime : FilterBuilder := .ofKind .dateTime

/-- Matches a whole calendar day. -/
def date : FilterBuilder := .ofKind .date

/-- Compares a document identifier. -/
def objectId : FilterBuilder := .ofKind .objectId

/-- Matches a reference by the identifier of its document. -/
def reference : FilterBuilder := .ofKind .reference

/-- Membership; the lookup is still to be chosen. -/
def list : FilterBuilder := .ofKind .list

/-- The attribute is one of the given values. -/
def oneOf : FilterBuilder := list.withLookup .oneOf

/-- The attribute is none of the given values. -/
def noneOf : FilterBuilder := list.withLookup .noneOf

/-- The attribute holds all of the given values. -/
def allOf : FilterBuilder := list.withLookup .allOf

/-- The attribute lies between two values, both included unless the bounds say otherwise. -/
def range : FilterBuilder := .ofKind (.range .gte .lte false)

/-- Documents near a place, nearest first. -/
def geoNear : FilterBuilder := .ofKind .geoNear

/-- Bounds the distance from a place that another filter gives. -/
def geoDistance : FilterBuilder := .ofKind .geoDistance

/-- Documents whose interval between two attributes overlaps the given one. -/
def rangeIntersection (low high : String) : FilterBuilder := .ofKind (.rangeIntersection low high)

end Filter

end QueryFilters
