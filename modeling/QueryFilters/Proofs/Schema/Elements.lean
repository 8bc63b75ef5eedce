import QueryFilters.Proofs.Evaluation.Elements
import QueryFilters.Proofs.FilterSet.Typing
import QueryFilters.Proofs.Schema.Introspection
import QueryFilters.Proofs.Value.Order

/-!
# Filters of collections

A collection takes the filter of its elements, so that it is matched by any of them.
`BoundFilter.MatchesAny` states this law for one filter and one value, and
`Introspection.matchesAny_iff` decides when it holds: for every filter that compares the attribute
itself, but neither for references, whose identifiers are looked for under a path that no list
continues, nor for points, for which a list is itself a place.
-/

namespace QueryFilters

namespace BoundFilter

/-- A document satisfies what a value compiles to, with the places and bounds that it asks for. -/
def Passes (metric : Metric) (b : BoundFilter) (v : Value) (d : Document) : Prop :=
  ∃ p, Proximity.collect [b.compile (some v)] = .ok p ∧
    Evaluation.fragment metric p d (b.compile (some v)) = .ok true

/-- A stored list passes just when one of its elements, stored in its place, does. -/
def MatchesAny (metric : Metric) (b : BoundFilter) (v : Value) (d : Document) (name : String) :
    Prop :=
  ∀ items : List Value, (∀ item ∈ items, item.isList = false) →
    (b.Passes metric v (d.set name (.list items)) ↔
      ∃ item ∈ items, b.Passes metric v (d.set name item))

end BoundFilter

/-! ### Stored values -/

/-- An identifier is the same as itself. -/
theorem Value.looselyEq_objectId (id : ObjectId) :
    (Value.objectId id).looselyEq (.objectId id) = true := by
  simp [looselyEq, compare?, order?]

/-- The operand of a plain filter of one value is no list. -/
theorem FilterKind.isList_operand {kind : FilterKind} {child : Codec} {v : Value}
    (hplain : kind.isPlain = true) (hlist : kind ≠ .list)
    (hanswers : (kind.codec child).answers v = true) : (kind.operand v).isList = false := by
  cases kind with
  | list => exact absurd rfl hlist
  | boolean | text | uuid | integer | float | dateTime | objectId =>
    cases v <;> first | rfl | cases hanswers
  | _ => cases hplain

/-! ### What passes -/

/-- One entry that asks nothing about distances leaves their table empty. -/
theorem Proximity.collect_single {target : String} {l : Option Lookup} (operand : Value)
    (hslot : Key.slot? (Key.ofTarget target l) = none) :
    collect [.params (.single target l operand)] = .ok .empty := by
  refine collect_eq_ok_iff.2 ⟨?_, rfl⟩
  show empty.recordAll [(Key.ofTarget target l, operand)] = .ok .empty
  rw [recordAll, record_eq, demand?, hslot]
  rfl

namespace BoundFilter

variable {b : BoundFilter} (metric : Metric) {v : Value} (d : Document)

/-- Passing is being evaluated to true with the collected places and bounds. -/
theorem passes_iff_of_collect {p : Proximity}
    (hcollect : Proximity.collect [b.compile (some v)] = .ok p) :
    b.Passes metric v d ↔ Evaluation.fragment metric p d (b.compile (some v)) = .ok true := by
  rw [Passes, hcollect]
  constructor
  · rintro ⟨p', hp, h⟩
    obtain rfl := Except.ok.inj hp
    exact h
  · intro h
    exact ⟨p, rfl, h⟩

/-- A plain filter without a lookup passes what equals its operand. -/
theorem passes_iff_of_isPlain (hplain : b.filter.kind.isPlain = true)
    (hlookup : b.filter.lookup = none) (hpath : b.path.Legible) (hnull : v ≠ .null) :
    b.Passes metric v d ↔
      Evaluation.matchesEq (d.get? b.path) (b.filter.kind.operand v) = true := by
  have hcompile := compile_of_isPlain hplain hnull
  rw [hlookup] at hcompile
  have hsplit : Key.split (Key.ofTarget b.target none) = (b.path, none) :=
    hpath.split_ofTarget b.path_ne_nil none
  have hcollect : Proximity.collect [b.compile (some v)] = .ok .empty := by
    rw [hcompile]
    exact Proximity.collect_single _ (by rw [Key.slot?, hsplit]; rfl)
  have hentry := Evaluation.entry_ofTarget metric .empty d b.path_ne_nil hpath.tidy
    hpath.unambiguous (b.filter.kind.operand v)
  rw [passes_iff_of_collect metric d hcollect, hcompile, Evaluation.fragment_single, target, hentry,
    Evaluation.lookup]
  simp

/-- A reference filter passes what has the value for its identifier. -/
theorem passes_iff_of_reference (hkind : b.filter.kind = .reference) (hnull : v ≠ .null) :
    b.Passes metric v d ↔ Evaluation.matchesEq (d.get? (b.path ++ ["$id"])) v = true := by
  have hcollect : Proximity.collect [b.compile (some v)] = .ok .empty := by
    rw [compile_of_reference hkind hnull]
    exact Proximity.collect_single _ Key.slot?_raw
  rw [passes_iff_of_collect metric d hcollect, fragment_compile_reference hkind hnull]
  simp

/-- A filter of places without bounds passes every place. -/
theorem passes_iff_of_geoNear (hkind : b.filter.kind = .geoNear)
    (hlookup : b.filter.lookup = some .near) (hpath : b.path.Legible) {place : Point}
    (hplace : v.asPoint? = some place) :
    b.Passes metric v d ↔ ((d.get? b.path).bind Value.asPoint?).isSome = true := by
  have hcompile : b.compile (some v) = .params (.single b.target (some .near) v) := by
    have hnull : v ≠ .null := by
      rintro rfl
      cases hplace
    rw [b.compile_some hnull]
    simp only [compileValue, hkind, hlookup]
  have hsplit : Key.split (Key.ofTarget b.target (some .near)) = (b.path, some .near) :=
    hpath.split_ofTarget b.path_ne_nil (some .near)
  have hcollect : Proximity.collect [b.compile (some v)] =
      .ok ⟨[(b.path.toTarget, { origin := some place })]⟩ := by
    rw [hcompile]
    refine Proximity.collect_eq_ok_iff.2 ⟨?_, rfl⟩
    show Proximity.empty.recordAll [(Key.ofTarget b.target (some .near), v)] = _
    rw [Proximity.recordAll, Proximity.record, hsplit]
    simp only [hplace]
    rfl
  have hentry := Evaluation.entry_ofTarget metric ⟨[(b.path.toTarget, { origin := some place })]⟩ d
    b.path_ne_nil hpath.tidy (l := some .near) (fun h => by cases h) v
  have hget : Proximity.get? ⟨[(b.path.toTarget, { origin := some place })]⟩ b.path.toTarget =
      some { origin := some place } := if_pos rfl
  rw [passes_iff_of_collect metric d hcollect, hcompile, Evaluation.fragment_single, target, hentry,
    Evaluation.lookup, Proximity.within, hget]
  cases (d.get? b.path).bind Value.asPoint? <;> simp

/-! ### The law, kind by kind -/

variable {name : String} (hpath : b.path = [name])

include hpath

/-- A plain filter without a lookup matches any element. -/
theorem matchesAny_of_isPlain (hplain : b.filter.kind.isPlain = true)
    (hlookup : b.filter.lookup = none) (hlegible : b.path.Legible) (hnull : v ≠ .null)
    (hlist : (b.filter.kind.operand v).isList = false) : b.MatchesAny metric v d name := by
  intro items hitems
  have hpasses : ∀ value, b.Passes metric v (d.set name value) ↔
      Evaluation.matchesEq (some value) (b.filter.kind.operand v) = true := by
    intro value
    rw [passes_iff_of_isPlain metric (d.set name value) hplain hlookup hlegible hnull, hpath,
      Document.get?_set]
    rfl
  simp only [hpasses]
  exact Evaluation.passesByItem_matchesEq hlist items hitems

/-- A reference filter matches no element of a list: the path to the identifier of a reference does
not lead through a list. -/
theorem not_matchesAny_of_reference (hkind : b.filter.kind = .reference) (hnull : v ≠ .null)
    (hself : v.looselyEq v = true) (hlist : v.isList = false) : ¬b.MatchesAny metric v d name := by
  intro h
  have hpasses : ∀ value, b.Passes metric v (d.set name value) ↔
      Evaluation.matchesEq (value.getPath? ["$id"]) v = true := by
    intro value
    rw [passes_iff_of_reference metric (d.set name value) hkind hnull, hpath, List.singleton_append,
      Document.get?_set]
  have hitem : b.Passes metric v (d.set name (.map [("$id", v)])) := by
    rw [hpasses]
    have hid : (Value.map [("$id", v)]).getPath? ["$id"] = some v := rfl
    rw [hid, Evaluation.matchesEq_of_not_isList hlist, hself]
  have hitems : b.Passes metric v (d.set name (.list [.map [("$id", v)]])) :=
    (h [.map [("$id", v)]] (by simp [Value.isList])).2 ⟨_, List.mem_singleton.2 rfl, hitem⟩
  rw [hpasses] at hitems
  have hmissing : (Value.list [.map [("$id", v)]]).getPath? ["$id"] = none := rfl
  rw [hmissing] at hitems
  cases v <;> first | exact hnull rfl | cases hitems

/-- A filter of places matches no element of a list: a list is read as a place itself. -/
theorem not_matchesAny_of_geoNear (hkind : b.filter.kind = .geoNear)
    (hlookup : b.filter.lookup = some .near) (hlegible : b.path.Legible) {place : Point}
    (hplace : v.asPoint? = some place) : ¬b.MatchesAny metric v d name := by
  intro h
  have hpasses : ∀ value, b.Passes metric v (d.set name value) ↔
      value.asPoint?.isSome = true := by
    intro value
    rw [passes_iff_of_geoNear metric (d.set name value) hkind hlookup hlegible hplace, hpath,
      Document.get?_set]
    rfl
  have hitem : b.Passes metric v (d.set name (.point place)) := by
    rw [hpasses, Value.asPoint?_point]
    rfl
  have hitems : b.Passes metric v (d.set name (.list [.point place])) :=
    (h [.point place] (by simp [Value.point, Value.ofPairs, Value.isList])).2
      ⟨_, List.mem_singleton.2 rfl, hitem⟩
  rw [hpasses] at hitems
  cases hitems

omit hpath in
/-- Null requires nothing, so it matches a list without elements. -/
theorem not_matchesAny_null : ¬b.MatchesAny metric .null d name := by
  intro h
  have hnone : b.Passes metric .null (d.set name (.list [])) :=
    ⟨.empty, rfl, rfl⟩
  obtain ⟨item, hitem, -⟩ := (h [] (fun item hitem => by cases hitem)).1 hnone
  cases hitem

end BoundFilter

/-! ### The standard filters -/

/-- The standard filter of a type is one of references, one of places, or a plain one. -/
theorem FilterMapping.standard_cases {type : FieldType} {builder : FilterBuilder}
    (h : standard.resolveType? type = some builder) :
    type = .reference ∧ builder = Filter.reference ∨ type = .point ∧ builder = Filter.geoNear ∨
      (type ≠ .reference ∧ type ≠ .point) ∧
        ∃ kind : FilterKind, kind.isPlain = true ∧ kind ≠ .list ∧ builder = .ofKind kind := by
  cases type with
  | reference => exact .inl ⟨rfl, (Option.some.inj h).symm⟩
  | point => exact .inr (.inl ⟨rfl, (Option.some.inj h).symm⟩)
  | string | url | email | int | long | float | decimal | boolean | dateTime | complexDateTime
  | date | objectId | uuid | sequence =>
    obtain rfl := Option.some.inj h
    exact .inr (.inr ⟨⟨by decide, by decide⟩, _, rfl, by decide, rfl⟩)
  | _ => cases h

/-- A filter of a kind that is settled, built for a field without other choices. -/
theorem FilterBuilder.eq_of_build {kind : FilterKind} {name : String} {serial : UInt64} {f : Filter}
    (hsettled : ((ofKind kind).withSource name).settledKind = .ok kind)
    (h : ((ofKind kind).withSource name).build serial = .ok f) :
    f = ⟨kind, kind.defaultLookup, none, some name, kind.codec (.string true), serial⟩ := by
  obtain ⟨-, hkind, hlookup, hkey, hsource, hcodec, hserial⟩ := build_eq_ok h
  obtain rfl := Except.ok.inj (hsettled.symm.trans hkind)
  cases f
  simp only at hlookup hkey hsource hcodec hserial
  rw [hlookup, hkey, hsource, hcodec, hserial]
  rfl

namespace Introspection

variable {i : Introspection}

/-- The filter made for a collection of elements of a type, with the standard filters and without
choices of its own. -/
theorem exists_builder_of_makes {name : String} {serial : UInt64} {f : Filter} {field : SchemaField}
    {type : FieldType} (h : i.Makes name serial f) (hmapping : i.mapping = .standard)
    (hoptions : i.options.get? name = none) (hfield : i.schema.get? name = some field)
    (hcollection : field.type.isCollection = true) (helement : field.element = some type) :
    ∃ builder, FilterMapping.standard.resolveType? type = some builder ∧
      (builder.withSource name).build serial = .ok f := by
  obtain ⟨field', type', builder, hfield', hshows, -, hbuilder, hbuild⟩ := h
  obtain rfl := Option.some.inj (hfield.symm.trans hfield')
  have htype : type' = type := by
    cases hshows with
    | own hown =>
      rw [hcollection] at hown
      cases hown
    | element _ helement' => exact Option.some.inj (helement'.symm.trans helement)
  rw [hmapping, htype] at hbuilder
  rw [configured, hoptions] at hbuild
  exact ⟨builder, hbuilder, hbuild⟩

/-- The filter that a derived registry has for a collection, where none is given for it and no
choices are made, matches any element just where its elements are neither references nor points and
its value is not null. -/
theorem matchesAny_iff (metric : Metric) {serial : UInt64} {r : Registry} {name : String}
    {f : Filter} {field : SchemaField} {type : FieldType} {raw : Raw} {v : Value}
    (hbuild : i.build serial = .ok r) (hfilter : r.filters.get? name = some f)
    (hgiven : i.given? name = none) (hoptions : i.options.get? name = none)
    (hmapping : i.mapping = .standard) (hfield : i.schema.get? name = some field)
    (hcollection : field.type.isCollection = true) (helement : field.element = some type)
    (hdot : '.' ∉ name.toList) (htidy : Path.Tidy [name]) (hv : f.codec.decode raw = .ok v)
    (d : Document) :
    (f.bind name).MatchesAny metric v d name ↔
      type ≠ .reference ∧ type ≠ .point ∧ v ≠ .null := by
  have hbuilds : i.Builds serial (.ok r) := hbuild ▸ i.builds_build serial
  have hname : name ∈ r.filters.names :=
    List.mem_map.2 ⟨(name, f), Entries.mem_of_get? hfilter, rfl⟩
  obtain ⟨before, after, f', -, -, hmakes, hfilter'⟩ := hbuilds.exists_makes hname hgiven
  obtain rfl := Option.some.inj (hfilter.symm.trans hfilter')
  obtain ⟨builder, hbuilder, hbuilt⟩ :=
    exists_builder_of_makes hmakes hmapping hoptions hfield hcollection helement
  have hanswers := Codec.answers_of_decode hv
  have hpath : (f.bind name).path = [name] := by
    obtain ⟨-, -, -, -, hsource, -, -⟩ := FilterBuilder.build_eq_ok hbuilt
    have hdotted : (f.bind name).path = Path.ofDotted (f.source.getD (f.bind name).key) := rfl
    rw [hdotted, hsource, ← Path.ofDotted_eq_singleton hdot]
    rfl
  have hlegible : (f.bind name).path.Legible := by
    rw [hpath]
    exact ⟨htidy, fun _ hlength => absurd hlength (by simp)⟩
  rcases FilterMapping.standard_cases hbuilder with
    ⟨rfl, rfl⟩ | ⟨rfl, rfl⟩ | ⟨⟨hreference, hpoint⟩, kind, hplain, hlist, rfl⟩
  · obtain rfl := FilterBuilder.eq_of_build rfl hbuilt
    refine iff_of_false ?_ fun h => h.1 rfl
    cases v with
    | objectId id =>
      exact BoundFilter.not_matchesAny_of_reference metric d hpath rfl Value.noConfusion
        (Value.looselyEq_objectId id) rfl
    | _ => cases hanswers
  · obtain rfl := FilterBuilder.eq_of_build rfl hbuilt
    refine iff_of_false ?_ fun h => h.2.1 rfl
    obtain ⟨place, hplace⟩ := Option.isSome_iff_exists.1 hanswers
    exact BoundFilter.not_matchesAny_of_geoNear metric d hpath rfl rfl hlegible hplace
  · by_cases hnull : v = .null
    · subst hnull
      exact iff_of_false (BoundFilter.not_matchesAny_null metric d) fun h => h.2.2 rfl
    · refine iff_of_true ?_ ⟨hreference, hpoint, hnull⟩
      have hsettled : ((FilterBuilder.ofKind kind).withSource name).settledKind = .ok kind := by
        cases kind <;> first | rfl | cases hplain
      obtain rfl := FilterBuilder.eq_of_build hsettled hbuilt
      refine BoundFilter.matchesAny_of_isPlain metric d hpath hplain ?_ hlegible hnull
        (FilterKind.isList_operand hplain hlist hanswers)
      cases kind <;> first | rfl | cases hplain

/-- Deriving a registry from a schema alone gives no filters beforehand. -/
theorem merged_ofSchema (schema : Schema) : (ofSchema schema).merged = [] := by
  simp [merged, ofSchema, Registry.byConstruction]

/-- Deriving a registry from a schema alone fills its scope. -/
theorem build_ofSchema (schema : Schema) (serial : UInt64) :
    (ofSchema schema).build serial =
      ((ofSchema schema).scopeEntries ⟨.empty, none⟩ serial (ofSchema schema).fieldsInScope).map
        fun entries => { filters := .ofList entries, document := some schema } := by
  have hdeclarations : (ofSchema schema).declarations = ⟨.empty, none⟩ := by
    have hinherit : (ofSchema schema).declarations = ⟨.ofList (ofSchema schema).merged, none⟩ := rfl
    rw [hinherit, merged_ofSchema]
    rfl
  have hconflict : ¬(ofSchema schema).Conflicting := by
    rintro ⟨h, -⟩
    cases h
  rw [build_of_not_conflicting hconflict, others, hdeclarations]
  have hothers : ∀ scope : List String, (Roster.empty : Roster Filter).entries.filter
      (fun entry => !scope.contains entry.1) = [] := fun _ => rfl
  simp only [hothers, List.append_nil]
  rfl

/-- A list of texts is matched by any of them. -/
theorem matchesAny_tags :
    let i : Introspection := .ofSchema ⟨"Doc", [], "id", [⟨"tags", .sortedList, some .email⟩]⟩
    let id : Filter := ⟨.objectId, none, none, some "id", .objectId, 0⟩
    let tags : Filter := ⟨.text, none, none, some "tags", .string true, 1⟩
    let r : Registry := ⟨.ofList [("id", id), ("tags", tags)], some i.schema⟩
    let d : Document := ⟨"Doc", .empty⟩
    i.build 0 = .ok r ∧ r.filters.get? "tags" = some tags ∧ i.given? "tags" = none ∧
      i.options.get? "tags" = none ∧
      i.schema.get? "tags" = some ⟨"tags", .sortedList, some .email⟩ ∧ '.' ∉ "tags".toList ∧
      Path.Tidy ["tags"] ∧ tags.codec.decode (.one "a") = .ok (.string "a") ∧
      (tags.bind "tags").MatchesAny Metric.greatCircle (.string "a") d "tags" := by
  intro i id tags r d
  have hbuild : i.build 0 = .ok r := by
    dsimp only [i, r, id, tags]
    rw [build_ofSchema]
    rfl
  have hget : r.filters.get? "tags" = some tags := by
    dsimp only [r, id, tags]
    rfl
  have hgiven : i.given? "tags" = none := by
    rw [given?, merged_ofSchema]
    rfl
  have hfield : i.schema.get? "tags" = some ⟨"tags", .sortedList, some .email⟩ := by
    dsimp only [i]
    rfl
  have htidy : Path.Tidy ["tags"] := by
    rw [Path.Tidy]
    decide +kernel
  have hdot : '.' ∉ "tags".toList := by decide +kernel
  have hdecode : tags.codec.decode (.one "a") = .ok (.string "a") := by
    dsimp only [tags]
    rfl
  refine ⟨hbuild, hget, hgiven, rfl, hfield, hdot, htidy, hdecode, ?_⟩
  exact (matchesAny_iff Metric.greatCircle hbuild hget hgiven rfl rfl hfield rfl rfl hdot htidy
    hdecode d).2 ⟨by decide, by decide, Value.noConfusion⟩

/-- A list of references is not matched by its only element: the document that refers to the owner
passes, and the one that lists this reference does not. -/
theorem not_matchesAny_owners :
    let i : Introspection := .ofSchema ⟨"Doc", [], "id", [⟨"owners", .list, some .reference⟩]⟩
    let id : Filter := ⟨.objectId, none, none, some "id", .objectId, 0⟩
    let owners : Filter := ⟨.reference, none, none, some "owners", .objectId, 1⟩
    let r : Registry := ⟨.ofList [("id", id), ("owners", owners)], some i.schema⟩
    let owner : Value := .objectId ⟨0x0123456789abcdef01234567⟩
    let reference : Value := .ofPairs [("$ref", .string "User"), ("$id", owner)]
    let d : Document := ⟨"Doc", .empty⟩
    i.build 0 = .ok r ∧ r.filters.get? "owners" = some owners ∧
      owners.codec.decode (.one "0123456789abcdef01234567") = .ok owner ∧
      (owners.bind "owners").Passes Metric.greatCircle owner (d.set "owners" reference) ∧
      ¬(owners.bind "owners").Passes Metric.greatCircle owner
        (d.set "owners" (.list [reference])) := by
  intro i id owners r owner reference d
  have hbuild : i.build 0 = .ok r := by
    dsimp only [i, r, id, owners]
    rw [build_ofSchema]
    rfl
  have hget : r.filters.get? "owners" = some owners := by
    dsimp only [r, id, owners]
    rfl
  have hdecode : owners.codec.decode (.one "0123456789abcdef01234567") = .ok owner := by
    dsimp only [owners, owner]
    rfl
  have hpath : (owners.bind "owners").path = ["owners"] := by decide +kernel
  have hpasses : ∀ value, (owners.bind "owners").Passes Metric.greatCircle owner
      (d.set "owners" value) ↔ Evaluation.matchesEq (value.getPath? ["$id"]) owner = true := by
    intro value
    rw [BoundFilter.passes_iff_of_reference Metric.greatCircle (d.set "owners" value) rfl
      Value.noConfusion, hpath, List.singleton_append, Document.get?_set]
  refine ⟨hbuild, hget, hdecode, ?_, ?_⟩
  · rw [hpasses]
    have hid : reference.getPath? ["$id"] = some owner := by
      dsimp only [reference, owner]
      rfl
    rw [hid]
    exact Value.looselyEq_objectId _
  · rw [hpasses]
    exact Bool.false_ne_true

end Introspection

end QueryFilters
