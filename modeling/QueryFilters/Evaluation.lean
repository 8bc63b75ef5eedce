import QueryFilters.Proximity
import QueryFilters.Text.Lowercase
import QueryFilters.Value.Order

/-!
# Evaluating fragments

Whether a document satisfies a fragment, the way a store decides it. A stored list matches by any of
its elements. A missing attribute satisfies `ne` and `nin` and equals null.
-/

namespace QueryFilters.Evaluation

/-- Whether an attribute equals a value, or, being a list, holds an element that does. -/
def matchesEq (actual : Option Value) (expected : Value) : Bool :=
  match actual with
  | none => expected.isNull
  | some (.list items) =>
    if expected.isList then Value.looselyEq (.list items) expected
    else items.any fun item => item.looselyEq expected
  | some value => value.looselyEq expected

/-- Whether a lookup accepts the way in which a stored value compares with a query's. -/
def acceptsOrder (lookup : Lookup) : Option Ordering → Bool
  | none => false
  | some ordering =>
    match lookup with
    | .gt => ordering == .gt
    | .gte => ordering != .lt
    | .lt => ordering == .lt
    | .lte => ordering != .gt
    | _ => false

/-- Whether an attribute, or an element of a list, passes a test. -/
def anyElement (test : Value → Bool) : Option Value → Bool
  | none => false
  | some (.list items) => items.any test
  | some value => test value

/-- Whether an attribute compares with a value as an ordering lookup asks. -/
def matchesOrder (actual : Option Value) (expected : Value) (lookup : Lookup) : Bool :=
  anyElement (fun value => acceptsOrder lookup (value.compare? expected)) actual

/-- Whether an attribute equals one of the candidates. -/
def matchesIn (actual : Option Value) (candidates : List Value) : Bool :=
  candidates.any (matchesEq actual)

/-- Whether a text matches a pattern as a lookup asks. -/
def textMatches (lookup : Lookup) (text pattern : String) : Bool :=
  let lower (s : String) : List Char := (Text.lowercase s).toList
  match lookup with
  | .exact => text == pattern
  | .iexact => lower text == lower pattern
  | .contains => Text.hasPart pattern.toList text.toList
  | .icontains => Text.hasPart (lower pattern) (lower text)
  | .startsWith => pattern.toList.isPrefixOf text.toList
  | .istartsWith => (lower pattern).isPrefixOf (lower text)
  | .endsWith => pattern.toList.isSuffixOf text.toList
  | .iendsWith => (lower pattern).isSuffixOf (lower text)
  | _ => false

/-- Whether an attribute is text that matches. A pattern that is no text can only be equal. -/
def matchesText (actual : Option Value) (expected : Value) (lookup : Lookup) : Bool :=
  match expected with
  | .string pattern =>
    anyElement (fun value => value.asString?.any fun text => textMatches lookup text pattern) actual
  | _ => lookup == .exact && matchesEq actual expected

/-- Whether a document has the values that a raw query gives for dotted paths. -/
def raw (d : Document) (expected : Value) : Except EvalError Bool :=
  match expected with
  | .map entries =>
    .ok (entries.all fun (dotted, value) => matchesEq (d.get? (Path.ofDotted dotted)) value)
  | _ => .error (.invalidOperand Key.raw expected)

/-- Whether an attribute satisfies a lookup. -/
def lookup (metric : Metric) (proximity : Proximity) (key : String) (path : Path)
    (actual : Option Value) (lookup : Option Lookup) (expected : Value) : Except EvalError Bool :=
  match lookup with
  | none => .ok (matchesEq actual expected)
  | some .ne => .ok (!matchesEq actual expected)
  | some .present =>
    match expected with
    | .bool present => .ok (actual.isSome == present)
    | _ => .error (.invalidOperand key expected)
  | some .oneOf =>
    match expected with
    | .list candidates => .ok (matchesIn actual candidates)
    | _ => .error (.invalidOperand key expected)
  | some .noneOf =>
    match expected with
    | .list candidates => .ok (!matchesIn actual candidates)
    | _ => .error (.invalidOperand key expected)
  | some .allOf =>
    match expected with
    | .list candidates => .ok (!candidates.isEmpty && candidates.all (matchesEq actual))
    | _ => .error (.invalidOperand key expected)
  | some .near | some .nearSphere => .ok (proximity.within metric path.toTarget actual)
  | some .maxDistance | some .minDistance => .ok true
  | some l =>
    if l.isComparison then .ok (matchesOrder actual expected l)
    else if l.isString then .ok (matchesText actual expected l)
    else .error (.unsupportedLookup l)

/-- Whether a document satisfies what a key asks. -/
def entry (metric : Metric) (proximity : Proximity) (d : Document) (key : String)
    (expected : Value) : Except EvalError Bool :=
  if key = Key.raw then raw d expected
  else
    let (path, l) := Key.split key
    lookup metric proximity key path (d.get? path) l expected

/-- Whether a document satisfies every entry; the first that fails or errs decides. -/
def entries (metric : Metric) (proximity : Proximity) (d : Document) :
    List (String × Value) → Except EvalError Bool
  | [] => .ok true
  | (key, expected) :: rest =>
    match entry metric proximity d key expected with
    | .ok true => entries metric proximity d rest
    | other => other

mutual

/-- Whether a document satisfies a condition. -/
def condition (metric : Metric) (proximity : Proximity) (d : Document) :
    Condition → Except EvalError Bool
  | .params params => entries metric proximity d params.entries
  | .all conditions => all metric proximity d conditions
  | .any conditions => any metric proximity d conditions

/-- Whether a document satisfies all conditions; the first that fails or errs decides. -/
def all (metric : Metric) (proximity : Proximity) (d : Document) :
    List Condition → Except EvalError Bool
  | [] => .ok true
  | c :: conditions =>
    match condition metric proximity d c with
    | .ok true => all metric proximity d conditions
    | other => other

/-- Whether a document satisfies one of the conditions; the first that holds or errs decides. -/
def any (metric : Metric) (proximity : Proximity) (d : Document) :
    List Condition → Except EvalError Bool
  | [] => .ok false
  | c :: conditions =>
    match condition metric proximity d c with
    | .ok false => any metric proximity d conditions
    | other => other

end

/-- Whether a document satisfies a fragment. -/
def fragment (metric : Metric) (proximity : Proximity) (d : Document) :
    Fragment → Except EvalError Bool
  | .params params => entries metric proximity d params.entries
  | .condition c => condition metric proximity d c

/-- Whether a document satisfies every fragment; the first that fails or errs decides. -/
def fragments (metric : Metric) (proximity : Proximity) (d : Document) :
    List Fragment → Except EvalError Bool
  | [] => .ok true
  | f :: rest =>
    match fragment metric proximity d f with
    | .ok true => fragments metric proximity d rest
    | other => other

end QueryFilters.Evaluation
