import QueryFilters.Evaluation
import QueryFilters.Filter.Bound
import QueryFilters.Proofs.Filter.Building
import QueryFilters.Proofs.Key

/-!
# Compiled filters mean their lookups

A filter and the evaluator of fragments share nothing but one text: the filter writes its path and
its lookup into a key, and the evaluator cuts that key again. `Evaluation.verdict` says what a
lookup asks of an attribute without any key, and `evaluate_compile` states that a compiled filter
answers exactly that on every document, a reference filter by way of a raw query.
-/

namespace QueryFilters

namespace FilterKind

/-- The kinds whose filters compare one attribute with the value itself. -/
def isPlain : FilterKind → Bool
  | boolean | text | uuid | integer | float | dateTime | objectId | list => true
  | _ => false

/-- The value that a plain filter compares with: points in time lose what lies below the
millisecond. -/
def operand : FilterKind → Value → Value
  | dateTime, .dateTime dt => .dateTime dt.truncateMillis
  | _, value => value

/-- Plain filters take no lookup that compares places. -/
theorem not_isGeo_of_accepts {kind : FilterKind} {l : Lookup} (hplain : kind.isPlain = true)
    (haccepts : kind.accepts (some l) = true) : l.isGeo = false := by
  cases kind with
  | boolean | text | uuid | integer | float | dateTime | objectId | list =>
    cases l <;> first | rfl | cases haccepts
  | date | reference | range | geoNear | geoDistance | rangeIntersection => cases hplain

end FilterKind

namespace Evaluation

/-- What a lookup, or equality where there is none, says about an attribute and an operand. The key
is named where the operand has the wrong type. -/
def verdict (key : String) (actual : Option Value) : Option Lookup → Value → Except EvalError Bool
  | none, operand => .ok (matchesEq actual operand)
  | some .ne, operand => .ok (!matchesEq actual operand)
  | some .present, .bool present => .ok (actual.isSome == present)
  | some .oneOf, .list candidates => .ok (matchesIn actual candidates)
  | some .noneOf, .list candidates => .ok (!matchesIn actual candidates)
  | some .allOf, .list candidates =>
    .ok (!candidates.isEmpty && candidates.all (matchesEq actual))
  | some .present, operand | some .oneOf, operand | some .noneOf, operand | some .allOf, operand =>
    .error (.invalidOperand key operand)
  | some l, operand =>
    .ok (if l.isString then matchesText actual operand l else matchesOrder actual operand l)

variable (metric : Metric) (proximity : Proximity) (d : Document)

/-- Where no places are compared, the evaluator follows the verdict, whatever is asked about
distances. -/
theorem lookup_eq_verdict {l : Option Lookup}
    (hgeo : ∀ lookup, l = some lookup → lookup.isGeo = false) (key : String) (path : Path)
    (actual : Option Value) (operand : Value) :
    lookup metric proximity key path actual l operand = verdict key actual l operand := by
  cases l with
  | none => rfl
  | some l =>
    have hl := hgeo l rfl
    cases l <;> first | rfl | (cases operand <;> rfl) | cases hl

/-- A fragment with one key asks what its key asks. -/
theorem fragment_single (target : String) (l : Option Lookup) (operand : Value) :
    fragment metric proximity d (.params (.single target l operand)) =
      entry metric proximity d (Key.ofTarget target l) operand := by
  have hentries : (Params.single target l operand).entries =
      [(Key.ofTarget target l, operand)] := rfl
  rw [fragment, hentries, entries]
  split
  · next h => rw [h, entries]
  · rfl

/-- A key that was made of a tidy path and a lookup asks for that lookup on that path. -/
theorem entry_ofTarget {path : Path} {l : Option Lookup} (hne : path ≠ []) (htidy : path.Tidy)
    (hlast : path.Unambiguous l) (operand : Value) :
    entry metric proximity d (Key.ofTarget path.toTarget l) operand =
      lookup metric proximity (Key.ofTarget path.toTarget l) path (d.get? path) l operand := by
  rw [entry, if_neg (Key.ofTarget_ne_raw hne htidy hlast), Key.split_ofTarget hne htidy hlast]

end Evaluation

namespace BoundFilter

/-- Every filter has a path to compare. -/
theorem path_ne_nil (b : BoundFilter) : b.path ≠ [] := by
  unfold path Path.ofDotted
  simpa using Text.splitOn_ne_nil '.' _

/-- A value that is not null is compiled as the kind of the filter has it. -/
theorem compile_some (b : BoundFilter) {v : Value} (hv : v ≠ .null) :
    b.compile (some v) = b.compileValue v := by
  cases v <;> first | rfl | exact absurd rfl hv

/-- A filter of a plain kind compiles to its one key with the value it compares with. -/
theorem compile_of_isPlain {b : BoundFilter} (hplain : b.filter.kind.isPlain = true) {v : Value}
    (hv : v ≠ .null) : b.compile (some v) =
      .params (.single b.target b.filter.lookup (b.filter.kind.operand v)) := by
  rw [b.compile_some hv]
  cases hkind : b.filter.kind with
  | boolean | text | uuid | integer | float | objectId | list =>
    simp [compileValue, hkind, FilterKind.operand]
  | dateTime => cases v <;> simp [compileValue, hkind, FilterKind.operand]
  | date | reference | range | geoNear | geoDistance | rangeIntersection =>
    rw [hkind] at hplain
    cases hplain

/-- A reference filter compiles to a raw query. -/
theorem compile_of_reference {b : BoundFilter} (hkind : b.filter.kind = .reference) {v : Value}
    (hv : v ≠ .null) : b.compile (some v) = Compile.reference b.path v := by
  rw [b.compile_some hv]
  simp only [compileValue, hkind]

/-- The raw query of a reference filter asks for the identifier under its path. -/
theorem fragment_compile_reference {b : BoundFilter} (hkind : b.filter.kind = .reference)
    {v : Value} (hv : v ≠ .null) (metric : Metric) (proximity : Proximity) (d : Document) :
    Evaluation.fragment metric proximity d (b.compile (some v)) =
      .ok (Evaluation.matchesEq (d.get? (b.path ++ ["$id"])) v) := by
  have hid : ".$id" = "." ++ "$id" := by decide
  have hsegment : Path.ofDotted "$id" = ["$id"] := by decide
  have hdotted : Path.ofDotted (b.path.toDotted ++ ".$id") = b.path ++ ["$id"] := by
    rw [path, Path.toDotted_ofDotted, hid, ← String.append_assoc, Path.ofDotted_append, hsegment]
  have hkey : Key.ofTarget Key.raw none = Key.raw := rfl
  rw [compile_of_reference hkind hv, Compile.reference, Evaluation.fragment_single, hkey,
    Evaluation.entry, if_pos rfl, Evaluation.raw]
  simp [hdotted]

end BoundFilter

/-- A filter that was built, whatever name it is bound to, compiles every value but null to a
fragment that answers what its lookup says about the attribute at its path. For a plain filter the
path has to be one that keys carry; a reference filter looks for the identifier under any path. -/
theorem evaluate_compile (metric : Metric) (proximity : Proximity) (d : Document)
    {builder : FilterBuilder} {serial : UInt64} {f : Filter} (hf : builder.build serial = .ok f)
    (name : String) {v : Value} (hv : v ≠ .null) :
    (f.kind.isPlain = true → (f.bind name).path.Tidy → (f.bind name).path.Unambiguous f.lookup →
      Evaluation.fragment metric proximity d ((f.bind name).compile (some v)) =
        Evaluation.verdict (Key.ofTarget (f.bind name).target f.lookup)
          (d.get? (f.bind name).path) f.lookup (f.kind.operand v)) ∧
    (f.kind = .reference →
      Evaluation.fragment metric proximity d ((f.bind name).compile (some v)) =
        .ok (Evaluation.matchesEq (d.get? ((f.bind name).path ++ ["$id"])) v)) := by
  constructor
  · intro hplain htidy hlast
    have haccepts := FilterBuilder.accepts_of_build hf
    have hgeo : ∀ l, f.lookup = some l → l.isGeo = false := by
      intro l hl
      rw [hl] at haccepts
      exact FilterKind.not_isGeo_of_accepts hplain haccepts
    have hcompile := BoundFilter.compile_of_isPlain (b := f.bind name) hplain hv
    have hentry := Evaluation.entry_ofTarget metric proximity d (f.bind name).path_ne_nil htidy
      hlast (f.kind.operand v)
    rw [hcompile, Evaluation.fragment_single]
    exact hentry.trans (Evaluation.lookup_eq_verdict metric proximity hgeo _ _ _ _)
  · intro hkind
    exact BoundFilter.fragment_compile_reference hkind hv metric proximity d

/-- A path may begin its segments with underscores and end in the name of a lookup when a lookup
follows; under a reference it may even hold double underscores. -/
theorem evaluate_compile_at_paths :
    let f : Filter := ⟨.integer, some .gte, none, some "size._in.gt", .integer, 0⟩
    let g : Filter := ⟨.reference, none, none, some "own__er.in", .objectId, 1⟩
    let d : Document := ⟨"Doc", .ofList [("size", .map [("_in", .map [("gt", .int 3)])]),
      ("own__er", .map [("in", .map [("$id", .string "a")])])]⟩
    ((Filter.integer.withLookup .gte).withSource "size._in.gt").build 0 = .ok f ∧
      (Filter.reference.withSource "own__er.in").build 1 = .ok g ∧
      Value.int 2 ≠ .null ∧ Value.string "a" ≠ .null ∧
      f.kind.isPlain = true ∧ (f.bind "count").path.Tidy ∧
      (f.bind "count").path.Unambiguous f.lookup ∧ g.kind = .reference ∧
      Evaluation.fragment Metric.greatCircle .empty d ((f.bind "count").compile (some (.int 2))) =
        .ok true ∧
      Evaluation.fragment Metric.greatCircle .empty d
        ((g.bind "owner").compile (some (.string "a"))) = .ok true := by
  intro f g d
  have hf : ((Filter.integer.withLookup .gte).withSource "size._in.gt").build 0 = .ok f := rfl
  have hg : (Filter.reference.withSource "own__er.in").build 1 = .ok g := rfl
  have hint : Value.int 2 ≠ .null := Value.noConfusion
  have hstring : Value.string "a" ≠ .null := Value.noConfusion
  have hpath : (f.bind "count").path = ["size", "_in", "gt"] := by decide +kernel
  have hpath' : (g.bind "owner").path = ["own__er", "in"] := by decide +kernel
  have htidy : (f.bind "count").path.Tidy := by
    rw [hpath, Path.Tidy]
    decide +kernel
  have hlast : (f.bind "count").path.Unambiguous f.lookup := fun h => by cases h
  refine ⟨hf, hg, hint, hstring, rfl, htidy, hlast, rfl, ?_, ?_⟩
  · rw [(evaluate_compile Metric.greatCircle .empty d hf "count" hint).1 rfl htidy hlast, hpath]
    rfl
  · rw [(evaluate_compile Metric.greatCircle .empty d hg "owner" hstring).2 rfl, hpath']
    rfl

end QueryFilters
