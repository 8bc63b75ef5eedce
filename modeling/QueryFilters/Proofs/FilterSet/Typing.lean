import QueryFilters.Proofs.Filter.Typing
import QueryFilters.Proofs.FilterSet.Run

/-!
# Sound filter sets

A filter set of sound filters never narrows a queryset so that it cannot be evaluated, except in the
one way that its user can bring about: a query that bounds a distance on a path without giving a
place on it (`FilterSet.Evaluates`). Every entry that is asked was written by a filter that the
query gave a value to (`FilterSet.exists_filter_of_asked`), and each such filter of places or of
distances has its entry among them (`FilterSet.exists_asked_of_given`).

That takes ranges whose lookups compare with every bound. Builders do not see to it where a kind
brings its own lookups along, and each other lookup makes a range that refuses what a query gives it
(`FilterSet.evaluates_iff_comparesAny`).
-/

namespace QueryFilters

/-- The target of a legible path tells the path. -/
theorem Path.Legible.eq_of_toTarget {path path' : Path} (h : path.Legible) (hne : path ≠ [])
    (h' : path'.Legible) (hne' : path' ≠ []) (htarget : path.toTarget = path'.toTarget) :
    path = path' := by
  have hsplit := h.split_ofTarget hne none
  rw [htarget, h'.split_ofTarget hne' none] at hsplit
  exact (congrArg Prod.fst hsplit).symm

namespace BoundFilter

variable {b : BoundFilter} {query : QuerySource} {v : Value}

/-- The query gives the filter a value. -/
def IsGiven (b : BoundFilter) (query : QuerySource) : Prop :=
  ∃ v, b.parse query = .ok (some v)

/-- The value of a filter is the one that it parses. -/
theorem given?_eq_some_iff : b.given? query = some v ↔ b.parse query = .ok (some v) := by
  rw [given?]
  cases b.parse query <;> simp

/-- A value that a query gives a filter is not null, and its codec may answer it. -/
theorem answers_of_parse (h : b.parse query = .ok (some v)) :
    b.filter.codec.answers v = true ∧ v ≠ .null := by
  unfold parse at h
  split at h
  · cases h
  · split at h
    · cases h
    · next value hnull hdecode =>
      obtain rfl := Option.some.inj (Except.ok.inj h)
      exact ⟨Codec.answers_of_decode hdecode, hnull⟩
    · cases h

end BoundFilter

namespace FilterSet

variable {s : FilterSet}

/-- A queryset that is narrowed by a filter set is evaluated, but for a missing place. It is missing
just when a filter of distances has a value and no filter of places on its path does. -/
def Evaluates (s : FilterSet) (sorting : Sorting) (metric : Metric) (q : Queryset) : Prop :=
  ∃ narrower, s.apply q = .ok narrower ∧
    (∀ e, narrower.evaluate sorting metric = .error e →
      ∃ path lookup, e = .missingNear path lookup) ∧
    ((∃ path lookup, narrower.evaluate sorting metric = .error (.missingNear path lookup)) ↔
      ∃ b ∈ s.filters, b.filter.kind = .geoDistance ∧ b.IsGiven s.query ∧
        ∀ c ∈ s.filters, c.filter.kind = .geoNear → c.IsGiven s.query → c.path ≠ b.path)

/-- The fragments are what the filters with values compile to, unless that requires nothing. -/
theorem mem_pieces_iff {f : Fragment} :
    f ∈ (s.pieces (·.given? s.query)).map Prod.snd ↔
      ∃ b ∈ s.filters, ∃ v, b.parse s.query = .ok (some v) ∧ f = b.compile (some v) ∧
        f.isEmpty = false := by
  simp only [pieces, List.mem_map, List.mem_filterMap, Option.bind_eq_some_iff,
    BoundFilter.given?_eq_some_iff]
  constructor
  · rintro ⟨piece, ⟨b, hb, v, hv, hpiece⟩, rfl⟩
    split at hpiece
    · cases hpiece
    · next hempty =>
      obtain rfl := Option.some.inj hpiece
      exact ⟨b, hb, v, hv, rfl, by simpa using hempty⟩
  · rintro ⟨b, hb, v, hv, rfl, hempty⟩
    exact ⟨(b.name, b.compile (some v)), ⟨b, hb, v, hv, by simp [hempty]⟩, rfl⟩

/-- Filters of no type of documents narrow querysets of any. -/
theorem not_mismatch_of_document_eq_none {q : Queryset} {expected actual : String}
    (h : s.registry.document = none) : ¬s.Mismatch q expected actual := by
  rintro ⟨own, other, hown, -⟩
  rw [h] at hown
  cases hown

/-- A queryset is narrowed by what the filters with values compile to. -/
theorem apply_eq_narrowed {q : Queryset} {values : QueryValues} (hparse : s.parse = .ok values)
    (hmatch : ∀ expected actual, ¬s.Mismatch q expected actual) :
    s.apply q = .ok (narrowed q (s.pieces (·.given? s.query))) := by
  have hread : s.Readable := ((s.parse_eq_iff (.ok values)).1 hparse).1
  have hnarrows : s.Narrows q (.ok (narrowed q (s.pieces (·.given? s.query)))) :=
    ⟨hmatch, hread, rfl⟩
  exact apply_eq hnarrows

variable (hsound : ∀ b ∈ s.filters, b.Sound)
  (hany : ∀ b ∈ s.filters, b.filter.kind.ComparesAny)

include hsound hany

/-- The fragments of sound filters hold only entries that a filter with a value may write. -/
theorem exists_writes_of_mem {f : Fragment}
    (h : f ∈ (s.pieces (·.given? s.query)).map Prod.snd) :
    ∃ b ∈ s.filters, b.IsGiven s.query ∧ f.Each b.Writes := by
  obtain ⟨b, hb, v, hv, rfl, -⟩ := mem_pieces_iff.1 h
  obtain ⟨hanswers, hnull⟩ := BoundFilter.answers_of_parse hv
  exact ⟨b, hb, ⟨v, hv⟩, (hsound b hb).each_writes (hany b hb) hanswers hnull⟩

/-- The fragments of sound filters are well-typed. -/
theorem wellTyped_of_mem {f : Fragment} (h : f ∈ (s.pieces (·.given? s.query)).map Prod.snd) :
    f.WellTyped := by
  obtain ⟨b, -, -, hwrites⟩ := exists_writes_of_mem hsound hany h
  exact fun params hparams entry hentry => (hwrites params hparams entry hentry).types

/-- What is asked about distances is asked by a filter with a value, on its path. -/
theorem exists_filter_of_asked {entry : String × Value}
    (h : entry ∈ Fragment.asked ((s.pieces (·.given? s.query)).map Prod.snd))
    (hslot : Key.slot? entry.1 ≠ none) :
    ∃ b ∈ s.filters, b.IsGiven s.query ∧ Key.slot? entry.1 = b.asks? ∧
      (Key.split entry.1).1 = b.path := by
  obtain ⟨f, hf, params, hparams, hentry⟩ := Fragment.mem_asked_iff.1 h
  obtain ⟨b, hb, hgiven, hwrites⟩ := exists_writes_of_mem hsound hany hf
  exact ⟨b, hb, hgiven, (hwrites params hparams entry hentry).slot hslot⟩

omit hany in
/-- A filter that has a value and asks about distances has an entry that does, on its path. -/
theorem exists_asked_of_given {b : BoundFilter} (hb : b ∈ s.filters) (hgiven : b.IsGiven s.query)
    (hasks : b.asks? ≠ none) :
    ∃ entry ∈ Fragment.asked ((s.pieces (·.given? s.query)).map Prod.snd),
      Key.slot? entry.1 = b.asks? ∧ (Key.split entry.1).1 = b.path := by
  obtain ⟨v, hv⟩ := hgiven
  have hb' := hsound b hb
  have hcompile := hb'.compile_of_asks hasks (BoundFilter.answers_of_parse hv).2
  have hsplit : Key.split (Key.ofTarget b.target b.filter.lookup) = (b.path, b.filter.lookup) :=
    hb'.path.split_ofTarget b.path_ne_nil b.filter.lookup
  refine ⟨(Key.ofTarget b.target b.filter.lookup, v), ?_, ?_, ?_⟩
  · refine Fragment.mem_asked_iff.2 ⟨_, mem_pieces_iff.2 ⟨b, hb, v, hv, rfl, ?_⟩,
      .single b.target b.filter.lookup v, ?_, List.mem_singleton.2 rfl⟩
    · rw [hcompile]
      rfl
    · rw [hcompile]
      exact List.mem_singleton.2 rfl
  · rw [Key.slot?, hsplit]
    rfl
  · rw [hsplit]

/-- Some path is left without a place just when a filter of distances has a value and no filter of
places on its path does. -/
theorem exists_unplaced_iff :
    (∃ entry ∈ Fragment.asked ((s.pieces (·.given? s.query)).map Prod.snd),
      Key.slot? entry.1 ≠ none ∧
        ∀ other ∈ Fragment.asked ((s.pieces (·.given? s.query)).map Prod.snd),
          Key.slot? other.1 = some .origin →
            (Key.split other.1).1.toTarget ≠ (Key.split entry.1).1.toTarget) ↔
      ∃ b ∈ s.filters, b.filter.kind = .geoDistance ∧ b.IsGiven s.query ∧
        ∀ c ∈ s.filters, c.filter.kind = .geoNear → c.IsGiven s.query → c.path ≠ b.path := by
  constructor
  · rintro ⟨entry, hentry, hslot, hplaces⟩
    obtain ⟨b, hb, hgiven, hasks, hpath⟩ := exists_filter_of_asked hsound hany hentry hslot
    have hplace : ∀ c ∈ s.filters, c.filter.kind = .geoNear → c.IsGiven s.query →
        c.path ≠ b.path := by
      intro c hc hkind hgiven' heq
      have horigin := (hsound c hc).asks?_of_geoNear hkind
      obtain ⟨other, hother, hslot', hpath'⟩ :=
        exists_asked_of_given hsound hc hgiven' (by simp [horigin])
      refine hplaces other hother (hslot'.trans horigin) ?_
      rw [hpath', hpath, heq]
    refine ⟨b, hb, ?_, hgiven, hplace⟩
    -- A filter of places would give its own path a place, and no other kind asks for anything.
    by_contra hdistance
    by_cases hnear : b.filter.kind = .geoNear
    · exact hplace b hb hnear hgiven rfl
    · exact hslot (hasks.trans ((hsound b hb).asks?_eq_none hnear hdistance))
  · rintro ⟨b, hb, hkind, hgiven, hplaces⟩
    have hasks : b.asks? ≠ none := by
      rcases (hsound b hb).asks?_of_geoDistance hkind with h | h <;> simp [h]
    obtain ⟨entry, hentry, hslot, hpath⟩ := exists_asked_of_given hsound hb hgiven hasks
    refine ⟨entry, hentry, hslot ▸ hasks, fun other hother horigin htarget => ?_⟩
    obtain ⟨c, hc, hgiven', hasks', hpath'⟩ :=
      exists_filter_of_asked hsound hany hother (by simp [horigin])
    rw [hpath, hpath'] at htarget
    have heq : c.path = b.path := (hsound c hc).path.eq_of_toTarget c.path_ne_nil
      (hsound b hb).path b.path_ne_nil htarget
    refine hplaces c hc ?_ hgiven' heq
    by_contra hnear
    rw [horigin] at hasks'
    by_cases hdistance : c.filter.kind = .geoDistance
    · rcases (hsound c hc).asks?_of_geoDistance hdistance with h | h <;> simp [h] at hasks'
    · simp [(hsound c hc).asks?_eq_none hnear hdistance] at hasks'

/-- Querysets that are narrowed by a filter set of sound filters are evaluated, if the lookups of
ranges compare with every bound. They fail for nothing but a missing place, and that just when a
filter of distances has a value and no filter of places on its path does. -/
theorem evaluates_of_comparesAny (sorting : Sorting) (metric : Metric) {q : Queryset}
    {values : QueryValues} (hparse : s.parse = .ok values) (hq : q.fragments = [])
    (hmatch : ∀ expected actual, ¬s.Mismatch q expected actual) :
    s.Evaluates sorting metric q := by
  have hfragments : (narrowed q (s.pieces (·.given? s.query))).fragments =
      (s.pieces (·.given? s.query)).map Prod.snd := by
    rw [narrowed, hq, List.nil_append]
  have htyped : ∀ f ∈ (narrowed q (s.pieces (·.given? s.query))).fragments, f.WellTyped := by
    rw [hfragments]
    exact fun f hf => wellTyped_of_mem hsound hany hf
  have hmissing : ∀ e,
      (narrowed q (s.pieces (·.given? s.query))).evaluate sorting metric = .error e →
      ∃ path lookup, e = .missingNear path lookup :=
    fun e he => Queryset.missingNear_of_wellTyped metric htyped he
  refine ⟨_, apply_eq_narrowed hparse hmatch, hmissing, ?_⟩
  rw [← exists_unplaced_iff hsound hany, ← hfragments,
    ← Queryset.exists_error_iff_of_wellTyped metric htyped]
  constructor
  · rintro ⟨path, lookup, h⟩
    exact ⟨_, h⟩
  · rintro ⟨e, he⟩
    obtain ⟨path, lookup, rfl⟩ := hmissing e he
    exact ⟨path, lookup, he⟩

omit hsound hany

/-! ### Ranges that refuse their bounds -/

/-- A range of texts under the name `x`. -/
def textRange (lower upper : Lookup) (collapse : Bool) : BoundFilter :=
  ⟨"x", .range lower upper collapse, none, none, none, .range (.string true), 0⟩

/-- A query that gives one of its bounds, under the key of that bound. -/
def boundQuery (key : String) : QuerySource :=
  FormData.source ⟨[(key, "a")]⟩

/-- A range of texts alone, for a query. -/
def ofTextRange (lower upper : Lookup) (collapse : Bool) (query : QuerySource) : FilterSet :=
  ⟨⟨.ofList [("x", (textRange lower upper collapse).filter)], none⟩, query⟩

section

variable (lower upper : Lookup) (collapse : Bool)

/-- The path of the range can be read from its keys. -/
theorem legible_path_textRange : (textRange lower upper collapse).path.Legible := by
  have hpath : (textRange lower upper collapse).path = ["x"] := by
    show Path.ofDotted "x" = ["x"]
    decide +kernel
  rw [hpath]
  refine ⟨?_, fun _ hlength => absurd hlength (by decide)⟩
  rw [Path.Tidy]
  decide +kernel

/-- Whatever its lookups, the range is built without a codec of its own. -/
theorem sound_textRange : (textRange lower upper collapse).Sound where
  built := ⟨{ FilterBuilder.ofKind (.range lower upper collapse) with collapse }, 0, rfl, rfl⟩
  near hkind := by cases hkind
  distance hkind := by cases hkind
  path := legible_path_textRange lower upper collapse
  interval low high hkind := by cases hkind

/-- It decodes what it reads. -/
theorem parse_textRange {bound : String} (hbound : bound = "min" ∨ bound = "max") :
    (textRange lower upper collapse).parse (boundQuery ("x." ++ bound)) =
      .ok (some (.map [(bound, .string "a")])) := by
  have hextract : (textRange lower upper collapse).extract? (boundQuery ("x." ++ bound)) =
      some (.group (.ofList [(bound, "a")])) := by
    have hshape : (textRange lower upper collapse).filter.codec.shape = .group := rfl
    have hkey : (textRange lower upper collapse).key = "x" := rfl
    have htexts : ((boundQuery ("x." ++ bound)).group "x").filter (fun entry => !entry.2.isEmpty) =
        .ofList [(bound, "a")] := by
      rcases hbound with rfl | rfl <;> rfl
    rw [BoundFilter.extract?, hshape, hkey]
    dsimp only
    rw [htexts]
    rfl
  have hcodec : (textRange lower upper collapse).filter.codec = .range (.string true) := rfl
  rw [BoundFilter.parse, hextract, hcodec]
  rcases hbound with rfl | rfl <;> rfl

variable {lower upper}

/-- A lookup of the range that does not compare with every operand refuses its bound. -/
theorem not_evaluates_ofTextRange {bound : String} {l : Lookup}
    (hbound : bound = "min" ∧ l = lower ∨ bound = "max" ∧ l = upper) (hl : l.comparesAny = false)
    (sorting : Sorting) (metric : Metric) :
    let s := ofTextRange lower upper collapse (boundQuery ("x." ++ bound))
    (∃ values, s.parse = .ok values) ∧
      ¬s.Evaluates sorting metric (.ofDocuments [⟨"Doc", .empty⟩]) := by
  intro s
  let b := textRange lower upper collapse
  let q : Queryset := .ofDocuments [⟨"Doc", .empty⟩]
  have hparse : b.parse s.query = .ok (some (.map [(bound, .string "a")])) :=
    parse_textRange lower upper collapse (hbound.imp And.left And.left)
  have hfilters : s.filters = [b] := rfl
  have hvalues : ∃ values, s.parse = .ok values := by
    rw [parse, hfilters, parseFrom, hparse]
    exact ⟨_, rfl⟩
  refine ⟨hvalues, ?_⟩
  rintro ⟨narrower, happly, hmissing, -⟩
  obtain ⟨values, hvalues⟩ := hvalues
  rw [apply_eq_narrowed hvalues fun _ _ => not_mismatch_of_document_eq_none rfl] at happly
  obtain rfl := Except.ok.inj happly
  obtain ⟨params, hcompile, hentries⟩ : ∃ params,
      b.compile (some (.map [(bound, .string "a")])) = .params params ∧
        params.entries = [(Key.ofTarget b.target (some l), .string "a")] := by
    rcases hbound with ⟨rfl, rfl⟩ | ⟨rfl, rfl⟩
    · exact ⟨_, rfl, rfl⟩
    · exact ⟨_, rfl, rfl⟩
  have hfragments : (narrowed q (s.pieces (·.given? s.query))).fragments = [.params params] := by
    have hgiven := BoundFilter.given?_eq_some_iff.2 hparse
    have hempty : (Fragment.params params).isEmpty = false := by
      rw [Fragment.isEmpty, Dict.isEmpty, hentries]
      rfl
    simp [narrowed, pieces, hfilters, hgiven, hcompile, hempty, q, Queryset.ofDocuments]
  have hlegible : b.path.Legible := legible_path_textRange lower upper collapse
  have htypes : Key.types (Key.ofTarget b.target (some l), .string "a") = false :=
    (hlegible.types_ofTarget b.path_ne_nil _ _).trans ((Lookup.takes_string l "a").trans hl)
  obtain ⟨e, he, hmistyped⟩ := Queryset.exists_mistyped metric hfragments hentries htypes
    (List.cons_ne_nil _ _)
  obtain ⟨path, lookup, rfl⟩ := hmissing e he
  cases hmistyped

end

/-- Some range refuses a bound where its lookups do not both compare with every operand. -/
theorem exists_not_evaluates {kind : FilterKind} (h : ¬kind.ComparesAny) (sorting : Sorting)
    (metric : Metric) :
    ∃ (s : FilterSet) (q : Queryset) (values : QueryValues),
      (∀ b ∈ s.filters, b.Sound ∧ b.filter.kind = kind) ∧ s.parse = .ok values ∧
      q.fragments = [] ∧ (∀ expected actual, ¬s.Mismatch q expected actual) ∧
      ¬s.Evaluates sorting metric q := by
  obtain ⟨lower, upper, collapse, rfl⟩ : ∃ lower upper collapse,
      kind = .range lower upper collapse := by
    cases kind with
    | range lower upper collapse => exact ⟨lower, upper, collapse, rfl⟩
    | _ => exact absurd trivial h
  obtain ⟨bound, l, hbound, hl⟩ : ∃ (bound : String) (l : Lookup),
      (bound = "min" ∧ l = lower ∨ bound = "max" ∧ l = upper) ∧ l.comparesAny = false := by
    rw [FilterKind.ComparesAny, not_and_or, Bool.not_eq_true, Bool.not_eq_true] at h
    rcases h with h | h
    · exact ⟨"min", lower, .inl ⟨rfl, rfl⟩, h⟩
    · exact ⟨"max", upper, .inr ⟨rfl, rfl⟩, h⟩
  obtain ⟨⟨values, hvalues⟩, hnot⟩ :=
    not_evaluates_ofTextRange collapse hbound hl sorting metric
  have hsound := sound_textRange lower upper collapse
  exact ⟨_, _, values, List.forall_mem_singleton.2 ⟨hsound, rfl⟩, hvalues, rfl,
    fun _ _ => not_mismatch_of_document_eq_none rfl, hnot⟩

/-! ### Sound filter sets -/

/-- Whatever kinds of filters are allowed, querysets that are narrowed by sound filters of these
kinds are evaluated, but for a missing place, exactly if the lookups of the ranges among them
compare with every operand. -/
theorem evaluates_iff_comparesAny (sorting : Sorting) (metric : Metric)
    (kinds : FilterKind → Prop) :
    (∀ (s : FilterSet) (q : Queryset) (values : QueryValues),
      (∀ b ∈ s.filters, b.Sound ∧ kinds b.filter.kind) → s.parse = .ok values →
      q.fragments = [] → (∀ expected actual, ¬s.Mismatch q expected actual) →
        s.Evaluates sorting metric q) ↔
      ∀ kind, kinds kind → kind.ComparesAny := by
  constructor
  · intro h kind hkind
    by_contra hnot
    obtain ⟨s, q, values, hfilters, hparse, hq, hmatch, hfails⟩ :=
      exists_not_evaluates hnot sorting metric
    refine hfails (h s q values (fun b hb => ?_) hparse hq hmatch)
    exact ⟨(hfilters b hb).1, (hfilters b hb).2 ▸ hkind⟩
  · intro h s q values hfilters hparse hq hmatch
    exact evaluates_of_comparesAny (fun b hb => (hfilters b hb).1)
      (fun b hb => h _ (hfilters b hb).2) sorting metric hparse hq hmatch

/-- A distance from a place that the query does not give leaves the place missing. -/
theorem evaluates_distance_alone :
    let place : Filter := ⟨.geoNear, some .near, none, none, .geoPoint, 0⟩
    let radius : Filter := ⟨.geoDistance, some .maxDistance, none, some "place", .float, 1⟩
    let set : FilterSet := ⟨⟨.ofList [("place", place), ("radius", radius)], none⟩,
      .ofDict (.ofList [("radius", "5")])⟩
    let values : QueryValues := .ofList [("radius", .float (Binary64.ofInt 5))]
    (∀ b ∈ set.filters, b.Sound ∧ b.filter.kind.ComparesAny) ∧ set.parse = .ok values ∧
      (∀ expected actual, ¬set.Mismatch (.ofDocuments []) expected actual) ∧
      ∃ narrower path lookup, set.apply (.ofDocuments []) = .ok narrower ∧
        narrower.evaluate .standard Metric.greatCircle = .error (.missingNear path lookup) := by
  intro place radius set values
  have hplace : (place.bind "place").path = ["place"] := by decide +kernel
  have hradius : (radius.bind "radius").path = ["place"] := by decide +kernel
  have hlegible : Path.Legible ["place"] := by
    refine ⟨?_, fun _ hlength => absurd hlength (by decide)⟩
    rw [Path.Tidy]
    decide +kernel
  have hfilters : set.filters = [place.bind "place", radius.bind "radius"] := rfl
  have hsound : ∀ b ∈ set.filters, b.Sound ∧ b.filter.kind.ComparesAny := by
    rw [hfilters, List.forall_mem_cons, List.forall_mem_singleton]
    refine ⟨⟨?_, trivial⟩, ?_, trivial⟩
    · exact
        { built := ⟨Filter.geoNear, 0, rfl, rfl⟩
          near := fun _ => .inl rfl
          distance := fun hkind => by cases hkind
          path := hplace ▸ hlegible
          interval := fun low high hkind => by cases hkind }
    · exact
        { built := ⟨Filter.geoDistance.withSource "place", 1, rfl, rfl⟩
          near := fun hkind => by cases hkind
          distance := fun _ => .inl rfl
          path := hradius ▸ hlegible
          interval := fun low high hkind => by cases hkind }
  have hmissing : (place.bind "place").parse set.query = .ok none := by
    dsimp only [place, set]
    rfl
  have hgiven : (radius.bind "radius").parse set.query =
      .ok (some (.float (Binary64.ofInt 5))) := by
    dsimp only [radius, set]
    rfl
  have hparse : set.parse = .ok values := by
    rw [parse, hfilters, parseFrom, hmissing, parseFrom, hgiven]
    rfl
  have hmatch : ∀ expected actual, ¬set.Mismatch (.ofDocuments []) expected actual :=
    fun _ _ => not_mismatch_of_document_eq_none rfl
  have hnone : ∀ c ∈ set.filters, c.filter.kind = .geoNear → c.IsGiven set.query →
      c.path ≠ (radius.bind "radius").path := by
    rintro c hc hkind ⟨v, hv⟩ -
    rw [hfilters] at hc
    rcases List.mem_cons.1 hc with rfl | hc
    · rw [hmissing] at hv
      cases hv
    · obtain rfl := List.mem_singleton.1 hc
      cases hkind
  obtain ⟨narrower, happly, -, hevaluate⟩ :=
    (evaluates_iff_comparesAny .standard Metric.greatCircle FilterKind.ComparesAny).2
      (fun _ hkind => hkind) set (.ofDocuments []) values hsound hparse rfl hmatch
  obtain ⟨path, lookup, h⟩ := hevaluate.2
    ⟨radius.bind "radius", .tail _ (.head _), rfl, ⟨_, hgiven⟩, hnone⟩
  exact ⟨hsound, hparse, hmatch, narrower, path, lookup, happly, h⟩

/-- Sound filters do not suffice: a range that was built with `exists` below refuses every text that
a query gives for this bound. -/
theorem not_evaluates_of_sound :
    ¬∀ (sorting : Sorting) (metric : Metric) (s : FilterSet) (q : Queryset) (values : QueryValues),
      (∀ b ∈ s.filters, b.Sound) → s.parse = .ok values → q.fragments = [] →
      (∀ expected actual, ¬s.Mismatch q expected actual) → s.Evaluates sorting metric q := by
  intro h
  have hbound : "min" = "min" ∧ Lookup.present = .present ∨ "min" = "max" ∧ Lookup.present = .lte :=
    .inl ⟨rfl, rfl⟩
  obtain ⟨⟨values, hvalues⟩, hnot⟩ :=
    not_evaluates_ofTextRange false hbound rfl .standard Metric.greatCircle
  have hsound := sound_textRange .present .lte false
  exact hnot (h .standard Metric.greatCircle _ _ values (List.forall_mem_singleton.2 hsound)
    hvalues rfl fun _ _ => not_mismatch_of_document_eq_none rfl)

end FilterSet

end QueryFilters
