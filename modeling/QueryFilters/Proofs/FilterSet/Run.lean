import Mathlib.Data.List.Forall2
import QueryFilters.FilterSet.Session
import QueryFilters.Proofs.FirstError
import QueryFilters.Proofs.Roster

/-!
# Running a filter set

What the calls on a filter set answer, said filter by filter: `FilterSet.Parses`,
`FilterSet.Compiles`, `FilterSet.Narrows` and `FilterSet.NarrowsBy` list the values, the fragments
and the narrowed querysets in the order of the registry and name the error that wins. No table of
values occurs in them: each filter goes by its own value.

A session keeps what it has parsed, so the same calls are first answered without it
(`FilterSet.answer_eq_iff`). That a session only ever keeps the outcome of parsing its own query
(`Session.Kept`) then carries the answers over to any sequence of calls (`Session.run_eq_iff`).
-/

namespace QueryFilters

/-! ### What calls answer, filter by filter -/

/-- The value that a query gives a filter, if there is one and it can be decoded. -/
def BoundFilter.given? (b : BoundFilter) (query : QuerySource) : Option Value :=
  match b.parse query with
  | .ok value => value
  | .error _ => none

namespace FilterSet

/-- Every filter can read its input. -/
def Readable (s : FilterSet) : Prop :=
  ∀ b ∈ s.filters, ∃ value, b.parse s.query = .ok value

/-- The first filter that cannot read its input, fails with the given error. -/
def Fails (s : FilterSet) (e : ValidationError) : Prop :=
  FirstError (fun b => b.parse s.query) s.filters e

/-- The fragments of the filters that have a value, without the empty ones. -/
def pieces (s : FilterSet) (value? : BoundFilter → Option Value) : List (String × Fragment) :=
  s.filters.filterMap fun b =>
    (value? b).bind fun value =>
      let fragment := b.compile (some value)
      if fragment.isEmpty then none else some (b.name, fragment)

/-- The queryset is known to select documents of a type that is neither the one of the registry nor
derived from it. -/
def Mismatch (s : FilterSet) (q : Queryset) (expected actual : String) : Prop :=
  ∃ own other : Schema, s.registry.document = some own ∧ q.document = some other ∧
    other.name ≠ own.name ∧ own.name ∉ other.ancestors ∧
    expected = own.name ∧ actual = other.name

/-- The queryset narrowed by further fragments, in their order. -/
def narrowed (q : Queryset) (pieces : List (String × Fragment)) : Queryset :=
  { q with fragments := q.fragments ++ pieces.map Prod.snd }

/-- Parsing lists, each name once, the filters that are given a value with that value, or reports
the first filter that cannot read its input. -/
def Parses (s : FilterSet) : Except ValidationError QueryValues → Prop
  | .ok values => s.Readable ∧ values.names.Nodup ∧
      values.entries = s.filters.filterMap fun b => (b.given? s.query).map (b.name, ·)
  | .error e => s.Fails e

/-- The fragments are those of the filters with their own values. -/
def Compiles (s : FilterSet) : Except ValidationError (List (String × Fragment)) → Prop
  | .ok fragments => s.Readable ∧ fragments = s.pieces (·.given? s.query)
  | .error e => s.Fails e

/-- A queryset of another document type is refused in any case, a query that cannot be read next,
and else the queryset is narrowed by the fragments of the filters with their own values. -/
def Narrows (s : FilterSet) (q : Queryset) : Except FilterError Queryset → Prop
  | .ok narrower =>
    (∀ expected actual, ¬s.Mismatch q expected actual) ∧ s.Readable ∧
      narrower = narrowed q (s.pieces (·.given? s.query))
  | .error (.validation e) => (∀ expected actual, ¬s.Mismatch q expected actual) ∧ s.Fails e
  | .error (.backendMismatch expected actual) => s.Mismatch q expected actual

/-- The same with given values in place of those of the query. -/
def NarrowsBy (s : FilterSet) (q : Queryset) (values : QueryValues) :
    Except FilterError Queryset → Prop
  | .ok narrower =>
    (∀ expected actual, ¬s.Mismatch q expected actual) ∧
      narrower = narrowed q (s.pieces fun b => values.get? b.name)
  | .error (.validation _) => False
  | .error (.backendMismatch expected actual) => s.Mismatch q expected actual

/-- What a call on the filter set may answer. -/
def Answers (s : FilterSet) : Session.Call → Session.Answer → Prop
  | .parse, .values outcome => s.Parses outcome
  | .fragments, .fragments outcome => s.Compiles outcome
  | .apply q, .queryset outcome => s.Narrows q outcome
  | .applyValues q values, .queryset outcome => s.NarrowsBy q values outcome
  | _, _ => False

/-! ### Parsing -/

/-- The filters of a filter set have different names. -/
theorem nodup_names (s : FilterSet) : (s.filters.map BoundFilter.name).Nodup := by
  have hnames : s.filters.map BoundFilter.name = s.registry.filters.names := by
    rw [filters, Registry.bind, List.map_map]
    rfl
  rw [hnames]
  exact s.registry.filters.nodup

/-- Reading stops at the first filter that cannot read its input. -/
theorem parseFrom_eq_error_iff {query : QuerySource} {filters : List BoundFilter}
    (values : QueryValues) (e : ValidationError) :
    parseFrom query values filters = .error e ↔ FirstError (fun b => b.parse query) filters e := by
  induction filters generalizing values with
  | nil =>
    constructor
    · intro h
      cases h
    · intro h
      cases h
  | cons b filters ih =>
    cases hb : b.parse query with
    | error cause =>
      have hfirst : FirstError (fun b => b.parse query) (b :: filters) e ↔ cause = e :=
        FirstError.cons_error_iff hb
      rw [hfirst, parseFrom, hb]
      simp
    | ok value =>
      have hfirst : FirstError (fun b => b.parse query) (b :: filters) e ↔
          FirstError (fun b => b.parse query) filters e := FirstError.cons_ok_iff hb
      rw [hfirst, parseFrom, hb]
      cases value with
      | none => exact ih values
      | some value => exact ih (values.put b.name value)

/-- The values of filters with new names come after those already known, in the order of the
filters. -/
theorem parseFrom_eq_ok {query : QuerySource} {filters : List BoundFilter}
    {values parsed : QueryValues} (hnodup : (filters.map BoundFilter.name).Nodup)
    (hnew : ∀ b ∈ filters, b.name ∉ values.names)
    (h : parseFrom query values filters = .ok parsed) :
    (∀ b ∈ filters, ∃ value, b.parse query = .ok value) ∧
      parsed.entries =
        values.entries ++ filters.filterMap fun b => (b.given? query).map (b.name, ·) := by
  induction filters generalizing values with
  | nil =>
    obtain rfl := Except.ok.inj h
    simp
  | cons b filters ih =>
    obtain ⟨hb, hrest⟩ := List.nodup_cons.1 hnodup
    have hnewRest : ∀ c ∈ filters, c.name ∉ values.names :=
      fun c hc => hnew c (List.mem_cons_of_mem b hc)
    cases hparse : b.parse query with
    | error cause =>
      rw [parseFrom, hparse] at h
      cases h
    | ok value =>
      rw [parseFrom, hparse] at h
      rw [List.forall_mem_cons, List.filterMap_cons, BoundFilter.given?, hparse]
      cases value with
      | none =>
        obtain ⟨hread, hentries⟩ := ih hrest hnewRest h
        exact ⟨⟨⟨none, rfl⟩, hread⟩, hentries⟩
      | some value =>
        have hput : (values.put b.name value).entries = values.entries ++ [(b.name, value)] :=
          Entries.put_of_not_mem (hnew b List.mem_cons_self) value
        have hnewPut : ∀ c ∈ filters, c.name ∉ (values.put b.name value).names := by
          intro c hc hmem
          rw [Roster.names, hput, List.map_append, List.mem_append] at hmem
          rcases hmem with hmem | hmem
          · exact hnewRest c hc hmem
          · have heq : c.name = b.name := by simpa using hmem
            exact hb (heq ▸ List.mem_map_of_mem hc)
        obtain ⟨hread, hentries⟩ := ih hrest hnewPut h
        refine ⟨⟨⟨some value, rfl⟩, hread⟩, ?_⟩
        rw [hentries, hput, List.append_assoc]
        rfl

/-- Parsing answers as told filter by filter, and nothing else does. -/
theorem parse_eq_iff (s : FilterSet) (outcome : Except ValidationError QueryValues) :
    s.parse = outcome ↔ s.Parses outcome := by
  have hok : ∀ values, s.parse = .ok values → s.Readable ∧
      values.entries = s.filters.filterMap fun b => (b.given? s.query).map (b.name, ·) := by
    intro values h
    have hnew : ∀ b ∈ s.filters, b.name ∉ (Roster.empty : QueryValues).names := by
      intro b _ hb
      cases hb
    obtain ⟨hread, hentries⟩ := parseFrom_eq_ok s.nodup_names hnew h
    exact ⟨hread, hentries⟩
  cases outcome with
  | error e => exact parseFrom_eq_error_iff .empty e
  | ok values =>
    constructor
    · intro h
      obtain ⟨hread, hentries⟩ := hok values h
      exact ⟨hread, values.nodup, hentries⟩
    · rintro ⟨hread, -, hentries⟩
      cases hparse : s.parse with
      | error e =>
        exact absurd ((parseFrom_eq_error_iff .empty e).1 hparse)
          (FirstError.not_of_forall_ok hread)
      | ok parsed =>
        have heq : parsed.entries = values.entries := (hok parsed hparse).2.trans hentries.symm
        rw [Roster.eq_of_entries heq]

/-- Either every filter can read its input, or a first one fails. -/
theorem readable_or_fails (s : FilterSet) : s.Readable ∨ ∃ e, s.Fails e := by
  cases hparse : s.parse with
  | ok values => exact .inl ((s.parse_eq_iff (.ok values)).1 hparse).1
  | error e => exact .inr ⟨e, (s.parse_eq_iff (.error e)).1 hparse⟩

/-- Where every filter can read its input, parsing gives values, and under its name each filter
finds its own. -/
theorem exists_parse_of_readable {s : FilterSet} (h : s.Readable) :
    ∃ values, s.parse = .ok values ∧
      ∀ b ∈ s.filters, values.get? b.name = b.given? s.query := by
  cases hparse : s.parse with
  | error e => exact absurd ((s.parse_eq_iff (.error e)).1 hparse) (FirstError.not_of_forall_ok h)
  | ok values =>
    obtain ⟨-, -, hentries⟩ := (s.parse_eq_iff (.ok values)).1 hparse
    refine ⟨values, rfl, fun b hb => ?_⟩
    rw [Roster.get?, hentries]
    exact Entries.get?_filterMap s.nodup_names hb

/-! ### Compiling -/

/-- Filters that find the same values have the same fragments. -/
theorem pieces_congr {s : FilterSet} {value? value?' : BoundFilter → Option Value}
    (h : ∀ b ∈ s.filters, value? b = value?' b) : s.pieces value? = s.pieces value?' := by
  refine List.filterMap_congr fun b hb => ?_
  rw [h b hb]

/-- Compiling a table of values gives the fragments of the filters that are named in it. -/
theorem compile_eq_pieces (s : FilterSet) (values : QueryValues) :
    s.compile values = s.pieces fun b => values.get? b.name := by
  rw [compile, pieces]
  induction s.filters with
  | nil => rfl
  | cons b filters ih =>
    rw [List.map_cons, List.filter_cons, ih, List.filterMap_cons]
    cases hvalue : values.get? b.name with
    | none => rfl
    | some value => cases hempty : (b.compile (some value)).isEmpty <;> simp [hempty]

/-- Folding fragments into a queryset puts them after its own. -/
theorem fold_eq_narrowed (s : FilterSet) (q : Queryset) (values : QueryValues) :
    s.fold q values = narrowed q (s.pieces fun b => values.get? b.name) := by
  rw [fold, compile_eq_pieces]
  generalize s.pieces _ = pieces
  induction pieces generalizing q with
  | nil => simp [narrowed]
  | cons piece pieces ih =>
    rw [List.foldl_cons, ih]
    simp [narrowed, Queryset.narrow]

/-- The fragments answer as told filter by filter. -/
theorem fragments_eq {s : FilterSet} {outcome : Except ValidationError (List (String × Fragment))}
    (h : s.Compiles outcome) : s.fragments = outcome := by
  cases outcome with
  | ok fragments =>
    obtain ⟨hread, rfl⟩ := h
    obtain ⟨values, hparse, hown⟩ := exists_parse_of_readable hread
    rw [FilterSet.fragments, hparse, ← pieces_congr hown, ← compile_eq_pieces]
    rfl
  | error e =>
    have hparse : s.parse = .error e := (s.parse_eq_iff (.error e)).2 h
    rw [FilterSet.fragments, hparse]
    rfl

/-! ### Narrowing querysets -/

/-- A queryset of another document type is refused. -/
theorem checkDocument_of_mismatch {s : FilterSet} {q : Queryset} {expected actual : String}
    (h : s.Mismatch q expected actual) :
    s.checkDocument q = .error (.backendMismatch expected actual) := by
  obtain ⟨own, other, hown, hother, hname, hancestors, rfl, rfl⟩ := h
  have hisA : other.isA own.name = false := by simp [Schema.isA, hname, hancestors]
  rw [checkDocument, hown, hother]
  simp [hisA]

/-- Any other queryset is accepted. -/
theorem checkDocument_of_not_mismatch {s : FilterSet} {q : Queryset}
    (h : ∀ expected actual, ¬s.Mismatch q expected actual) : s.checkDocument q = .ok () := by
  unfold checkDocument
  split
  · next own other hown hother =>
    split
    · rfl
    · next hisA =>
      rw [Schema.isA, Bool.or_eq_true, not_or] at hisA
      have hname : other.name ≠ own.name := by simpa using hisA.1
      have hancestors : own.name ∉ other.ancestors := by simpa using hisA.2
      exact absurd ⟨own, other, hown, hother, hname, hancestors, rfl, rfl⟩
        (h own.name other.name)
  · rfl

/-- Narrowing answers as told filter by filter. -/
theorem apply_eq {s : FilterSet} {q : Queryset} {outcome : Except FilterError Queryset}
    (h : s.Narrows q outcome) : s.apply q = outcome := by
  cases outcome with
  | ok narrower =>
    obtain ⟨hmatch, hread, rfl⟩ := h
    obtain ⟨values, hparse, hown⟩ := exists_parse_of_readable hread
    rw [apply, checkDocument_of_not_mismatch hmatch, hparse, ← pieces_congr hown,
      ← fold_eq_narrowed]
    rfl
  | error e =>
    cases e with
    | validation e =>
      have hparse : s.parse = .error e := (s.parse_eq_iff (.error e)).2 h.2
      rw [apply, checkDocument_of_not_mismatch h.1, hparse]
      rfl
    | backendMismatch expected actual =>
      rw [apply, checkDocument_of_mismatch h]
      rfl

/-- Narrowing by given values answers as told filter by filter. -/
theorem applyValues_eq {s : FilterSet} {q : Queryset} {values : QueryValues}
    {outcome : Except FilterError Queryset} (h : s.NarrowsBy q values outcome) :
    s.applyValues q values = outcome := by
  cases outcome with
  | ok narrower =>
    obtain ⟨hmatch, rfl⟩ := h
    rw [applyValues, checkDocument_of_not_mismatch hmatch, fold_eq_narrowed]
    rfl
  | error e =>
    cases e with
    | validation e => cases h
    | backendMismatch expected actual =>
      rw [applyValues, checkDocument_of_mismatch h]
      rfl

/-- What the filter set answers to a call. -/
def answer (s : FilterSet) : Session.Call → Session.Answer
  | .parse => .values s.parse
  | .fragments => .fragments s.fragments
  | .apply q => .queryset (s.apply q)
  | .applyValues q values => .queryset (s.applyValues q values)

/-- To every call there is an answer as told filter by filter. -/
theorem exists_answers (s : FilterSet) (call : Session.Call) : ∃ answer, s.Answers call answer := by
  have hmatch : ∀ q, (∃ expected actual, s.Mismatch q expected actual) ∨
      ∀ expected actual, ¬s.Mismatch q expected actual := by
    intro q
    by_cases h : ∃ expected actual, s.Mismatch q expected actual
    · exact .inl h
    · exact .inr fun expected actual hm => h ⟨expected, actual, hm⟩
  cases call with
  | parse => exact ⟨.values s.parse, (s.parse_eq_iff _).1 rfl⟩
  | fragments =>
    rcases s.readable_or_fails with hread | ⟨e, hfails⟩
    · exact ⟨.fragments (.ok _), hread, rfl⟩
    · exact ⟨.fragments (.error e), hfails⟩
  | apply q =>
    rcases hmatch q with ⟨expected, actual, hm⟩ | hm
    · exact ⟨.queryset (.error (.backendMismatch expected actual)), hm⟩
    · rcases s.readable_or_fails with hread | ⟨e, hfails⟩
      · exact ⟨.queryset (.ok _), hm, hread, rfl⟩
      · exact ⟨.queryset (.error (.validation e)), hm, hfails⟩
  | applyValues q values =>
    rcases hmatch q with ⟨expected, actual, hm⟩ | hm
    · exact ⟨.queryset (.error (.backendMismatch expected actual)), hm⟩
    · exact ⟨.queryset (.ok _), hm, rfl⟩

/-- The answers told filter by filter are the ones that are given. -/
theorem answer_eq {s : FilterSet} {call : Session.Call} {given : Session.Answer}
    (h : s.Answers call given) : s.answer call = given := by
  cases call with
  | parse =>
    cases given with
    | values outcome => rw [answer, (s.parse_eq_iff outcome).2 h]
    | fragments | queryset => cases h
  | fragments =>
    cases given with
    | fragments outcome => rw [answer, fragments_eq h]
    | values | queryset => cases h
  | apply q =>
    cases given with
    | queryset outcome => rw [answer, apply_eq h]
    | values | fragments => cases h
  | applyValues q values =>
    cases given with
    | queryset outcome => rw [answer, applyValues_eq h]
    | values | fragments => cases h

/-- A filter set answers a call as told filter by filter, and in no other way. -/
theorem answer_eq_iff (s : FilterSet) (call : Session.Call) (given : Session.Answer) :
    s.answer call = given ↔ s.Answers call given := by
  constructor
  · rintro rfl
    obtain ⟨told, htold⟩ := s.exists_answers call
    rw [answer_eq htold]
    exact htold
  · exact answer_eq

end FilterSet

/-! ### Sequences of calls -/

namespace Session

/-- A session has parsed nothing, or keeps the outcome of parsing its own query. -/
def Kept (s : Session) : Prop :=
  s.parsed = none ∨ s.parsed = some s.set.parse

/-- The session that has parsed its query. -/
def settled (s : Session) : Session :=
  ⟨s.set, some s.set.parse⟩

/-- A session that keeps the right outcome gives it, and keeps it. -/
theorem Kept.parse {s : Session} (h : s.Kept) : s.parse = (s.set.parse, s.settled) := by
  rcases h with hnone | hsome
  · rw [Session.parse, hnone]
    rfl
  · have hsettled : s = s.settled := by rw [settled, ← hsome]
    rw [Session.parse, hsome]
    exact congrArg (Prod.mk s.set.parse) hsettled

/-- One call is answered as without a session, and leaves a session on the same filter set that
keeps the right outcome. -/
theorem Kept.answer {s : Session} (h : s.Kept) (call : Call) :
    ∃ s' : Session, s.answer call = (s.set.answer call, s') ∧ s'.set = s.set ∧ s'.Kept := by
  have hkept : s.settled.Kept := .inr rfl
  cases call with
  | parse =>
    refine ⟨s.settled, ?_, rfl, hkept⟩
    rw [Session.answer, h.parse]
    rfl
  | fragments =>
    refine ⟨s.settled, ?_, rfl, hkept⟩
    rw [Session.answer, Session.fragments, h.parse]
    rfl
  | apply q =>
    rw [Session.answer, Session.apply, FilterSet.answer, FilterSet.apply, h.parse]
    cases s.set.checkDocument q with
    | error e => exact ⟨s, rfl, rfl, h⟩
    | ok _ =>
      refine ⟨s.settled, ?_, rfl, hkept⟩
      cases s.set.parse with
      | ok values => rfl
      | error e => rfl
  | applyValues q values => exact ⟨s, rfl, rfl, h⟩

/-- Calls are answered one by one as without a session. -/
theorem Kept.run {s : Session} (h : s.Kept) (calls : List Call) :
    s.run calls = calls.map s.set.answer := by
  induction calls generalizing s with
  | nil => rfl
  | cons call calls ih =>
    obtain ⟨s', hanswer, hset, hkept⟩ := h.answer call
    rw [Session.run, hanswer]
    show s.set.answer call :: s'.run calls = _
    rw [ih hkept, hset, List.map_cons]

/-- Calls on one filter set, in whatever order, are answered as told filter by filter and in no
other way. Narrowing by the query answers as narrowing by the values that parsing lists. -/
theorem run_eq_iff (set : FilterSet) :
    (∀ (calls : List Call) (answers : List Answer),
      (ofSet set).run calls = answers ↔ List.Forall₂ set.Answers calls answers) ∧
    ∀ (q : Queryset) (values : QueryValues) (outcome : Except FilterError Queryset),
      set.Parses (.ok values) →
        (set.Answers (.apply q) (.queryset outcome) ↔
          set.Answers (.applyValues q values) (.queryset outcome)) := by
  constructor
  · intro calls answers
    have hkept : (ofSet set).Kept := .inl rfl
    rw [hkept.run]
    show calls.map set.answer = answers ↔ _
    induction calls generalizing answers with
    | nil => rw [List.map_nil, List.forall₂_nil_left_iff, eq_comm]
    | cons call calls ih =>
      rw [List.map_cons, List.forall₂_cons_left_iff]
      constructor
      · rintro rfl
        exact ⟨_, _, (set.answer_eq_iff call _).1 rfl, (ih _).1 rfl, rfl⟩
      · rintro ⟨given, rest, hgiven, hrest, rfl⟩
        rw [(set.answer_eq_iff call given).2 hgiven, (ih rest).2 hrest]
  · intro q values outcome hparses
    have hread : set.Readable := hparses.1
    obtain ⟨parsed, hparse, hown⟩ := FilterSet.exists_parse_of_readable hread
    have heq : parsed = values := by
      have hvalues : set.parse = .ok values := (set.parse_eq_iff (.ok values)).2 hparses
      rw [hparse] at hvalues
      exact Except.ok.inj hvalues
    rw [heq] at hown
    have hnofail : ∀ e, ¬set.Fails e := fun e => FirstError.not_of_forall_ok hread
    show set.Narrows q outcome ↔ set.NarrowsBy q values outcome
    cases outcome with
    | ok narrower =>
      rw [FilterSet.Narrows, FilterSet.NarrowsBy, FilterSet.pieces_congr hown]
      exact ⟨fun h => ⟨h.1, h.2.2⟩, fun h => ⟨h.1, hread, h.2⟩⟩
    | error e =>
      cases e with
      | validation e => exact ⟨fun h => hnofail e h.2, False.elim⟩
      | backendMismatch expected actual => exact Iff.rfl

/-- Of two filters the one that is given a value narrows, whether by the query or by its values, and
after parsing as before. -/
theorem run_of_one_value :
    let title : Filter := ⟨.text, none, none, none, .string true, 0⟩
    let views : Filter := ⟨.integer, some .gte, none, none, .integer, 1⟩
    let set : FilterSet :=
      ⟨⟨.ofList [("title", title), ("views", views)], none⟩, .ofDict (.ofList [("title", "a")])⟩
    let values : QueryValues := .ofList [("title", .string "a")]
    let narrower : Queryset := ⟨none, [], [.params (.single "title" none (.string "a"))]⟩
    set.Parses (.ok values) ∧
      (ofSet set).run [.apply (.ofDocuments []), .parse, .applyValues (.ofDocuments []) values] =
        [.queryset (.ok narrower), .values (.ok values), .queryset (.ok narrower)] := by
  intro title views set values narrower
  have hparses : set.Parses (.ok values) := by
    rw [← FilterSet.parse_eq_iff]
    rfl
  have htarget : (title.bind "title").target = "title" := by decide +kernel
  have happly : set.Answers (.apply (.ofDocuments [])) (.queryset (.ok narrower)) := by
    have hanswer : set.answer (.apply (.ofDocuments [])) = .queryset (.ok
        ⟨none, [], [.params (.single (title.bind "title").target none (.string "a"))]⟩) := rfl
    rw [← FilterSet.answer_eq_iff, hanswer, htarget]
  obtain ⟨hrun, hnarrows⟩ := run_eq_iff set
  have hvalues := (hnarrows (.ofDocuments []) values (.ok narrower) hparses).1 happly
  refine ⟨hparses, (hrun _ _).2 ?_⟩
  exact .cons happly (.cons hparses (.cons hvalues .nil))

end Session

end QueryFilters
