import QueryFilters.Proofs.Filter.Intersection
import QueryFilters.Proofs.Fragment.Structure
import QueryFilters.Proofs.Value.Null

/-!
# Input that means no value

The elements of a collection are decoded one by one, and some of them may decode to null, which
means that there is no value. A range leaves such a bound out, so that a query compiles as if the
text had not been given; a list keeps it among its items. `BoundFilter.nullFree_compile_iff` tells
when a compiled collection requires no null, at any depth, and when texts that decode to null do not
count.
-/

namespace QueryFilters

/-! ### Texts that a query gives -/

/-- The texts of raw input, in order. -/
def Raw.texts : Raw → List String
  | one text => [text]
  | many texts => texts
  | group texts => texts.entries.map Prod.snd

/-- Whether a text decodes to null. -/
def Codec.readsNull (codec : Codec) (text : String) : Bool :=
  match codec.decode (.one text) with
  | .ok value => value.isNull
  | .error _ => false

/-- The codec of the elements of a collection, text if none was chosen. -/
def FilterBuilder.element (b : FilterBuilder) : Codec :=
  b.child.getD (.string true)

/-- Under a key, a source gives the texts that another one gives but those that satisfy a test. -/
structure QuerySource.Omits (query : QuerySource) (key : String) (omitted : String → Bool)
    (query' : QuerySource) : Prop where
  all : query'.all key = (query.all key).filter fun text => !omitted text
  group : (query'.group key).entries =
    (query.group key).entries.filter fun entry => !omitted entry.2

/-- No value that the fragment requires is null or holds null. -/
def Fragment.NullFree (f : Fragment) : Prop :=
  ∀ operand ∈ f.values, operand.NullFree

/-- Of two lists whose members are related one by one, all have a property together if related
members do. -/
theorem forall_mem_iff_of_forall₂ {R : α → β → Prop} {P : α → Prop} {Q : β → Prop} {xs : List α}
    {ys : List β} (h : List.Forall₂ R xs ys) (hPQ : ∀ x y, R x y → (P x ↔ Q y)) :
    (∀ x ∈ xs, P x) ↔ ∀ y ∈ ys, Q y := by
  induction h with
  | nil => simp
  | cons hxy _ ih => rw [List.forall_mem_cons, List.forall_mem_cons, hPQ _ _ hxy, ih]

/-- A property holds of all decoded values when every text decodes to a value that has it. -/
theorem Codec.forall_decoded_iff {child : Codec} {P : Value → Prop} {texts : List String}
    {values : List Value}
    (h : List.Forall₂ (fun text value => child.decode (.one text) = .ok value) texts values) :
    (∀ text ∈ texts, ∃ value, child.decode (.one text) = .ok value ∧ P value) ↔
      ∀ value ∈ values, P value := by
  refine forall_mem_iff_of_forall₂ h fun text value htext => ?_
  rw [htext]
  simp

/-- A text is found to decode to null when its value is null. -/
theorem Codec.readsNull_of_decode {codec : Codec} {text : String} {value : Value}
    (h : codec.decode (.one text) = .ok value) : codec.readsNull text = value.isNull := by
  rw [readsNull, h]

namespace BoundFilter

/-- The texts that a query gives a filter, in order. -/
def texts (b : BoundFilter) (query : QuerySource) : List String :=
  (b.extract? query).elim [] Raw.texts

/-- The texts that a query gives a filter as bounds, those that are not empty. -/
def boundTexts (b : BoundFilter) (query : QuerySource) : Dict String :=
  (query.group b.key).filter fun entry => !entry.2.isEmpty

variable {b : BoundFilter} {query query' : QuerySource} {child : Codec} {v? : Option Value}

/-- Where a codec never answers null, parsing gives what the input decodes to. -/
theorem parse_eq_ok_iff (hnull : b.filter.codec.answers .null = false) :
    b.parse query = .ok v? ↔ b.extract? query = none ∧ v? = none ∨
      ∃ raw, b.extract? query = some raw ∧
        ∃ v, b.filter.codec.decode raw = .ok v ∧ v? = some v := by
  rw [parse]
  rcases b.extract? query with _ | raw
  · simp [eq_comm]
  rcases hdecode : b.filter.codec.decode raw with cause | v
  · simp [hdecode]
  have hne : v ≠ .null := by
    rintro rfl
    rw [Codec.answers_of_decode hdecode] at hnull
    cases hnull
  cases v <;> first | exact absurd rfl hne | simp [hdecode, eq_comm]

/-! ### Lists -/

section list

variable (hcodec : b.filter.codec = .list child)

include hcodec

/-- A list reads every text under its key that is not empty. -/
theorem texts_of_list :
    b.texts query = (query.all b.key).filter fun text => !text.isEmpty := by
  rw [texts, extract?, hcodec, Codec.shape]
  dsimp only
  split
  · next hempty => rw [List.isEmpty_iff.1 hempty, Option.elim]
  · rfl

/-- A list is parsed text by text, and without texts there is no value. -/
theorem parse_eq_ok_iff_of_list :
    b.parse query = .ok v? ↔ ∃ items,
      List.Forall₂ (fun text value => child.decode (.one text) = .ok value) (b.texts query) items ∧
        v? = if (b.texts query).isEmpty then none else some (.list items) := by
  have hextract : b.extract? query =
      if (b.texts query).isEmpty then none else some (.many (b.texts query)) := by
    rw [texts_of_list hcodec, extract?, hcodec, Codec.shape]
  rw [parse_eq_ok_iff (by rw [hcodec]; rfl), hextract, hcodec]
  rcases b.texts query with _ | ⟨text, texts⟩
  · simp
  · simp [Codec.decode_list_eq_ok_iff]

/-- Without some texts, a list is parsed without the items that they decode to. -/
theorem texts_omits_of_list {omitted : String → Bool} (h : query.Omits b.key omitted query') :
    b.texts query' = (b.texts query).filter fun text => !omitted text := by
  rw [texts_of_list hcodec, texts_of_list hcodec, h.all, List.filter_filter, List.filter_filter]
  simp only [Bool.and_comm]

variable (hkind : b.filter.kind = .list)

include hkind

omit hcodec in
/-- What a list compiles to requires the items as one value. -/
theorem values_compile_of_list (items : List Value) :
    (b.compile (some (.list items))).values = [.list items] := by
  rw [compile_of_isPlain (by rw [hkind]; rfl) (by rintro ⟨⟩), hkind]
  rfl

/-- A list requires no null when none of its texts decodes to a value with null. -/
theorem nullFree_compile_of_list (hparse : b.parse query = .ok v?) :
    (b.compile v?).NullFree ↔
      ∀ text ∈ b.texts query, ∃ value, child.decode (.one text) = .ok value ∧ value.NullFree := by
  obtain ⟨items, hitems, rfl⟩ := (parse_eq_ok_iff_of_list hcodec).1 hparse
  rw [Codec.forall_decoded_iff hitems]
  split
  · next hempty =>
    rw [List.isEmpty_iff.1 hempty, List.forall₂_nil_left_iff] at hitems
    rw [hitems]
    exact iff_of_true nofun nofun
  · rw [Fragment.NullFree, values_compile_of_list hkind, List.forall_mem_singleton,
      Value.nullFree_list_iff]

/-- Texts of a list that decode to null count, for their items are compared. -/
theorem compile_omits_of_list (hparse : b.parse query = .ok v?)
    (homits : query.Omits b.key child.readsNull query') :
    ∃ v?', b.parse query' = .ok v?' ∧ (b.compile v?' = b.compile v? ↔
      ∀ text ∈ b.texts query, child.readsNull text = false) := by
  obtain ⟨items, hitems, rfl⟩ := (parse_eq_ok_iff_of_list hcodec).1 hparse
  have htexts := texts_omits_of_list hcodec homits
  have hnull : ∀ text value, child.decode (.one text) = .ok value →
      (child.readsNull text = false ↔ value.isNull = false) := by
    intro text value htext
    rw [Codec.readsNull_of_decode htext]
  have hitems' : List.Forall₂ (fun text value => child.decode (.one text) = .ok value)
      (b.texts query') (items.filter fun item => !item.isNull) := by
    rw [htexts]
    refine List.rel_filter (fun text value htext => ?_) hitems
    simpa using hnull text value htext
  have hnulls := forall_mem_iff_of_forall₂ hitems hnull
  refine ⟨_, (parse_eq_ok_iff_of_list hcodec).2 ⟨_, hitems', rfl⟩, ?_⟩
  constructor
  · intro heq
    rw [hnulls]
    intro item hitem
    have hsome : ¬(b.texts query).isEmpty = true := by
      intro hempty
      rw [List.isEmpty_iff.1 hempty, List.forall₂_nil_left_iff] at hitems
      rw [hitems] at hitem
      cases hitem
    rw [if_neg hsome] at heq
    have hvalues := congrArg Fragment.values heq
    rw [values_compile_of_list hkind] at hvalues
    split at hvalues
    · cases hvalues
    · rw [values_compile_of_list hkind] at hvalues
      have hsame : (items.filter fun item => !item.isNull) = items := by simpa using hvalues
      simpa using List.filter_eq_self.1 hsame item hitem
  · intro h
    have hall : b.texts query' = b.texts query := by
      rw [htexts, List.filter_eq_self]
      simpa using h
    have hsame : (items.filter fun item => !item.isNull) = items := by
      rw [List.filter_eq_self]
      simpa using hnulls.1 h
    rw [hall, hsame]

end list

end BoundFilter

/-! ### Bounds -/

/-- A group is decoded to as many entries as it has texts, under the same keys. -/
theorem Codec.decoded_group {child : Codec} {group : Dict String}
    {entries : List (String × Value)}
    (h : List.Forall₂
      (fun text entry => text.1 = entry.1 ∧ child.decode (.one text.2) = .ok entry.2)
      group.entries entries) :
    group.keys = entries.map Prod.fst ∧ (entries.map Prod.fst).Nodup ∧
      List.Forall₂ (fun text value => child.decode (.one text) = .ok value)
        (group.entries.map Prod.snd) (entries.map Prod.snd) ∧
      (group.isEmpty = true → entries = []) := by
  have hkeys : group.keys = entries.map Prod.fst := by
    rw [Dict.keys, ← List.forall₂_eq_eq_eq, List.forall₂_map_left_iff, List.forall₂_map_right_iff]
    exact h.imp fun _ _ hentry => hentry.1
  refine ⟨hkeys, hkeys ▸ group.ascending.nodup_keys, ?_, fun hempty => ?_⟩
  · rw [List.forall₂_map_left_iff, List.forall₂_map_right_iff]
    exact h.imp fun _ _ hentry => hentry.2
  · rwa [List.isEmpty_iff.1 hempty, List.forall₂_nil_left_iff] at h

namespace Compile

/-- The bound that counts under a name is the one given there, unless it is null. -/
theorem mem_bound?_map_iff {entries : List (String × Value)}
    (hnodup : (entries.map Prod.fst).Nodup) {name : String} {bound : Value} :
    bound ∈ bound? (.map entries) name ↔ (name, bound) ∈ entries ∧ bound ≠ .null := by
  have hget : (Value.map entries).getPath? [name] = Entries.get? name entries := by
    rw [Value.getPath?]
    cases Entries.get? name entries <;> rfl
  rw [mem_bound?_iff, Value.Gives, hget]
  exact and_congr_left fun _ => ⟨Entries.mem_of_get?, Entries.get?_of_mem hnodup⟩

variable {target : String} {lower upper : Lookup}

/-- No bound that counts is null or holds null. -/
def BoundsNullFree (v : Value) : Prop :=
  (∀ min ∈ bound? v "min", min.NullFree) ∧ ∀ max ∈ bound? v "max", max.NullFree

/-- A range requires none but its bounds. -/
theorem mem_of_mem_values_range {min? max? : Option Value} {operand : Value}
    (h : operand ∈ (Fragment.params (range target lower upper min? max?)).values) :
    operand ∈ min? ∨ operand ∈ max? := by
  rw [Fragment.values, Fragment.leaves, List.flatMap_singleton, Params.values] at h
  obtain ⟨entry, hentry, rfl⟩ := List.mem_map.1 h
  have hlower : entry ∈ (range target lower upper min? none).entries → entry.2 ∈ min? := by
    intro hmem
    rcases min? with _ | min
    · cases hmem
    · obtain rfl := List.mem_singleton.1 hmem
      rfl
  rcases max? with _ | max
  · exact .inl (hlower hentry)
  · rcases Entries.eq_or_mem_of_mem_insert hentry with rfl | hmem
    · exact .inr rfl
    · exact .inl (hlower hmem)

/-- A range with two lookups requires all of its bounds. -/
theorem mem_values_range_iff (hbounds : lower ≠ upper) {min? max? : Option Value}
    {operand : Value} :
    operand ∈ (Fragment.params (range target lower upper min? max?)).values ↔
      operand ∈ min? ∨ operand ∈ max? := by
  refine ⟨mem_of_mem_values_range, fun h => ?_⟩
  rw [Fragment.values, Fragment.leaves, List.flatMap_singleton, Params.values]
  rcases min? with _ | min <;> rcases max? with _ | max
  · simp at h
  · obtain rfl : max = operand := by simpa using h
    exact List.mem_singleton_self _
  · obtain rfl : min = operand := by simpa using h
    exact List.mem_singleton_self _
  · rw [((entries_range_perm hbounds min max).map Prod.snd).mem_iff]
    simpa [eq_comm] using h

/-- An equality that a range collapses to requires no null if the bounds that count hold none. -/
theorem nullFree_single_iff_of_collapses {collapse : Bool} {v min : Value}
    (h : Collapses collapse v min) :
    (Fragment.params (.single target none min)).NullFree ↔ BoundsNullFree v := by
  obtain ⟨-, hmin, max, hmax, heq⟩ := h
  have hvalues : (Fragment.params (.single target none min)).values = [min] := rfl
  simp only [BoundsNullFree, Fragment.NullFree, hvalues, mem_bound?_iff, hmin.forall_iff,
    hmax.forall_iff, List.forall_mem_singleton]
  -- The upper bound is gone, but it is equal to the lower one.
  rw [← Value.nullFree_congr heq, and_self]

/-- A range requires no null if no bound that counts holds null. -/
theorem nullFree_rangeFragment_of_bounds {collapse : Bool} {v : Value} (h : BoundsNullFree v) :
    (rangeFragment target lower upper collapse v).NullFree := by
  by_cases hcollapses : ∃ min, Collapses collapse v min
  · obtain ⟨min, hmin⟩ := hcollapses
    rw [rangeFragment_of_collapses hmin]
    exact (nullFree_single_iff_of_collapses hmin).2 h
  · rw [rangeFragment_of_not_collapses (not_exists.1 hcollapses)]
    intro operand hoperand
    exact (mem_of_mem_values_range hoperand).elim (h.1 operand) (h.2 operand)

/-- If a range with two lookups requires no null, no bound that counts holds null. -/
theorem bounds_of_nullFree_rangeFragment (hbounds : lower ≠ upper) {collapse : Bool} {v : Value}
    (h : (rangeFragment target lower upper collapse v).NullFree) : BoundsNullFree v := by
  by_cases hcollapses : ∃ min, Collapses collapse v min
  · obtain ⟨min, hmin⟩ := hcollapses
    rw [rangeFragment_of_collapses hmin] at h
    exact (nullFree_single_iff_of_collapses hmin).1 h
  · rw [rangeFragment_of_not_collapses (not_exists.1 hcollapses)] at h
    exact ⟨fun min hmin => h min ((mem_values_range_iff hbounds).2 (.inl hmin)),
      fun max hmax => h max ((mem_values_range_iff hbounds).2 (.inr hmax))⟩

/-- An intersection requires no null if no bound that counts holds null. -/
theorem nullFree_intersection_iff (low high : String) (v : Value) :
    (intersection low high v).NullFree ↔ BoundsNullFree v := by
  have hmissing : ∀ target l bound,
      (∀ operand ∈ (missingOr target l bound).values, operand.NullFree) ↔ bound.NullFree := by
    intro target l bound
    have hvalues : (missingOr target l bound).values = [.bool false, bound] := rfl
    simp [hvalues, Value.nullFree_bool]
  have hvalues : (intersection low high v).values =
      (((bound? v "max").map (missingOr low .lte)).toList ++
        ((bound? v "min").map (missingOr high .gte)).toList).flatMap Condition.values := by
    unfold intersection
    dsimp only
    split
    · next hempty =>
      rw [List.isEmpty_iff.1 hempty]
      rfl
    · rw [Fragment.values, Fragment.leaves, Condition.leaves, Condition.allLeaves_eq_flatMap,
        List.flatMap_assoc]
      rfl
  rw [BoundsNullFree, Fragment.NullFree, hvalues, List.forall_mem_flatMap,
    List.forall_mem_append, and_comm]
  simp only [Option.mem_toList, Option.map_eq_some_iff, Option.mem_def, forall_exists_index,
    and_imp, forall_apply_eq_imp_iff₂, hmissing]

end Compile

namespace FilterKind

/-- The two bounds of a range have different lookups. -/
def HasTwoLookups : FilterKind → Prop
  | range lower upper _ => lower ≠ upper
  | _ => True

/-- A collection that is no list is a range or an intersection. -/
theorem interval_cases {kind : FilterKind} (h : kind.isCollection = true) (hlist : kind ≠ .list) :
    (∃ lower upper collapse, kind = .range lower upper collapse) ∨
      ∃ low high, kind = .rangeIntersection low high := by
  cases kind with
  | list => exact absurd rfl hlist
  | range lower upper collapse => exact .inl ⟨lower, upper, collapse, rfl⟩
  | rangeIntersection low high => exact .inr ⟨low, high, rfl⟩
  | _ => cases h

end FilterKind

namespace BoundFilter

variable {b : BoundFilter} {query query' : QuerySource} {child : Codec} {v? : Option Value}

section bounds

variable (hcodec : b.filter.codec = .range child)

include hcodec

/-- The texts of a range are those of its bounds. -/
theorem texts_of_range : b.texts query = (b.boundTexts query).entries.map Prod.snd := by
  rw [texts, extract?, hcodec, Codec.range, Codec.shape]
  dsimp only
  split
  · next hempty => rw [boundTexts, List.isEmpty_iff.1 hempty, Option.elim, List.map_nil]
  · rfl

/-- A range is parsed bound by bound, and without texts there is no value. -/
theorem parse_eq_ok_iff_of_range :
    b.parse query = .ok v? ↔ (∀ key ∈ (b.boundTexts query).keys, key ∈ ["min", "max"]) ∧ ∃ entries,
      List.Forall₂ (fun text entry => text.1 = entry.1 ∧ child.decode (.one text.2) = .ok entry.2)
        (b.boundTexts query).entries entries ∧
        v? = if (b.boundTexts query).isEmpty then none else some (.map entries) := by
  have hextract : b.extract? query =
      if (b.boundTexts query).isEmpty then none else some (.group (b.boundTexts query)) := by
    rw [boundTexts, extract?, hcodec, Codec.range, Codec.shape]
  rw [parse_eq_ok_iff (by rw [hcodec]; rfl), hextract, hcodec]
  rcases hempty : (b.boundTexts query).isEmpty with _ | _
  · simp [Codec.decode_range_eq_ok_iff, and_assoc]
  · have hnone : (b.boundTexts query).entries = [] := List.isEmpty_iff.1 hempty
    simp [Dict.keys, hnone]

variable (hcollection : b.filter.kind.isCollection = true) (hlist : b.filter.kind ≠ .list)

include hcollection hlist

omit hcodec in
/-- What a range compiles to depends on the bounds that count. -/
theorem compile_congr_of_bounds {v v' : Value}
    (hmin : Compile.bound? v "min" = Compile.bound? v' "min")
    (hmax : Compile.bound? v "max" = Compile.bound? v' "max") :
    b.compile (some v) = b.compile (some v') := by
  rcases FilterKind.interval_cases hcollection hlist with ⟨lower, upper, collapse, hkind⟩ |
    ⟨low, high, hkind⟩
  · rw [compile_of_range hkind, compile_of_range hkind, Compile.rangeFragment,
      Compile.rangeFragment, hmin, hmax]
  · rw [compile_of_rangeIntersection hkind, compile_of_rangeIntersection hkind,
      Compile.intersection, Compile.intersection, hmin, hmax]

omit hcodec in
/-- No value compiles like a value without bounds. -/
theorem compile_of_no_bounds {entries : List (String × Value)} {empty : Bool}
    (h : empty = true → entries = []) :
    b.compile (if empty then none else some (.map entries)) = b.compile (some (.map entries)) := by
  split
  · next hempty =>
    rw [h hempty]
    rcases FilterKind.interval_cases hcollection hlist with ⟨lower, upper, collapse, hkind⟩ |
      ⟨low, high, hkind⟩
    · rw [compile_of_range hkind]
      rfl
    · rw [compile_of_rangeIntersection hkind]
      rfl
  · rfl

omit hcodec in
/-- A range requires no null if no bound that counts holds null, and only then where it has two
lookups. -/
theorem nullFree_compile_of_bounds (v : Value) :
    (Compile.BoundsNullFree v → (b.compile (some v)).NullFree) ∧
      (b.filter.kind.HasTwoLookups → (b.compile (some v)).NullFree →
        Compile.BoundsNullFree v) := by
  rcases FilterKind.interval_cases hcollection hlist with ⟨lower, upper, collapse, hkind⟩ |
    ⟨low, high, hkind⟩
  · rw [compile_of_range hkind, hkind]
    exact ⟨Compile.nullFree_rangeFragment_of_bounds, fun hlookups =>
      Compile.bounds_of_nullFree_rangeFragment hlookups⟩
  · rw [compile_of_rangeIntersection hkind, Compile.nullFree_intersection_iff]
    exact ⟨id, fun _ => id⟩

omit hcollection hlist in
/-- The bounds that count hold no null when each text decodes to null or to a value without null. -/
theorem boundsNullFree_iff {entries : List (String × Value)}
    (hkeys : ∀ key ∈ (b.boundTexts query).keys, key ∈ ["min", "max"])
    (hentries : List.Forall₂
      (fun text entry => text.1 = entry.1 ∧ child.decode (.one text.2) = .ok entry.2)
      (b.boundTexts query).entries entries) :
    Compile.BoundsNullFree (.map entries) ↔ ∀ text ∈ b.texts query, ∃ value,
      child.decode (.one text) = .ok value ∧ (value.NullFree ∨ value = .null) := by
  obtain ⟨hnames, hnodup, hvalues, -⟩ := Codec.decoded_group hentries
  rw [texts_of_range hcodec, Codec.forall_decoded_iff hvalues, Compile.BoundsNullFree]
  simp only [Compile.mem_bound?_map_iff hnodup, List.forall_mem_map]
  constructor
  · rintro ⟨hmin, hmax⟩ ⟨name, value⟩ hmem
    by_cases hnull : value = .null
    · exact .inr hnull
    · have hname : name ∈ ["min", "max"] := hkeys name (hnames ▸ List.mem_map_of_mem hmem)
      rcases List.mem_pair.1 hname with rfl | rfl
      · exact .inl (hmin value ⟨hmem, hnull⟩)
      · exact .inl (hmax value ⟨hmem, hnull⟩)
  · intro h
    exact ⟨fun min hmin => (h _ hmin.1).resolve_right hmin.2,
      fun max hmax => (h _ hmax.1).resolve_right hmax.2⟩

/-- A range requires no null when each of its texts decodes to null or to a value without null, and
only then where it has two lookups. -/
theorem nullFree_compile_of_range (hparse : b.parse query = .ok v?) :
    ((∀ text ∈ b.texts query, ∃ value,
        child.decode (.one text) = .ok value ∧ (value.NullFree ∨ value = .null)) →
      (b.compile v?).NullFree) ∧
    (b.filter.kind.HasTwoLookups → (b.compile v?).NullFree →
      ∀ text ∈ b.texts query, ∃ value,
        child.decode (.one text) = .ok value ∧ (value.NullFree ∨ value = .null)) := by
  obtain ⟨hkeys, entries, hentries, rfl⟩ := (parse_eq_ok_iff_of_range hcodec).1 hparse
  obtain ⟨-, -, -, hempty⟩ := Codec.decoded_group hentries
  rw [compile_of_no_bounds hcollection hlist hempty, ← boundsNullFree_iff hcodec hkeys hentries]
  exact nullFree_compile_of_bounds hcollection hlist (.map entries)

omit hcollection hlist hcodec in
/-- Without some texts, a filter is given the bounds that the others are. -/
theorem entries_boundTexts_omits {omitted : String → Bool}
    (h : query.Omits b.key omitted query') :
    (b.boundTexts query').entries =
      (b.boundTexts query).entries.filter fun entry => !omitted entry.2 := by
  simp only [boundTexts, Dict.filter, h.group, List.filter_filter, Bool.and_comm]

/-- Texts of a range that decode to null do not count. -/
theorem compile_omits_of_range (hparse : b.parse query = .ok v?)
    (homits : query.Omits b.key child.readsNull query') :
    ∃ v?', b.parse query' = .ok v?' ∧ b.compile v?' = b.compile v? := by
  obtain ⟨hkeys, entries, hentries, rfl⟩ := (parse_eq_ok_iff_of_range hcodec).1 hparse
  have htexts := entries_boundTexts_omits homits
  have hkeys' : ∀ key ∈ (b.boundTexts query').keys, key ∈ ["min", "max"] := by
    intro key hkey
    rw [Dict.keys, htexts] at hkey
    exact hkeys key (List.map_subset Prod.fst (List.filter_subset_self _) hkey)
  have hentries' : List.Forall₂
      (fun text entry => text.1 = entry.1 ∧ child.decode (.one text.2) = .ok entry.2)
      (b.boundTexts query').entries (entries.filter fun entry => !entry.2.isNull) := by
    rw [htexts]
    refine List.rel_filter (fun text entry htext => ?_) hentries
    simp only [Codec.readsNull_of_decode htext.2]
  obtain ⟨-, hnodup, -, hempty⟩ := Codec.decoded_group hentries
  obtain ⟨-, hnodup', -, hempty'⟩ := Codec.decoded_group hentries'
  refine ⟨_, (parse_eq_ok_iff_of_range hcodec).2 ⟨hkeys', _, hentries', rfl⟩, ?_⟩
  have hbound : ∀ name, Compile.bound? (.map (entries.filter fun entry => !entry.2.isNull)) name =
      Compile.bound? (.map entries) name := by
    intro name
    refine Option.ext fun bound => ?_
    rw [← Option.mem_def, ← Option.mem_def, Compile.mem_bound?_map_iff hnodup',
      Compile.mem_bound?_map_iff hnodup, List.mem_filter, Bool.not_eq_true', ← Bool.not_eq_true,
      Value.isNull_iff]
    tauto
  rw [compile_of_no_bounds hcollection hlist hempty, compile_of_no_bounds hcollection hlist hempty']
  exact compile_congr_of_bounds hcollection hlist (hbound "min") (hbound "max")

end bounds

/-- Each text that a query gives decodes to a value without null, or, unless the filter is a list,
to null. -/
def Withholds (b : BoundFilter) (child : Codec) (query : QuerySource) : Prop :=
  ∀ text ∈ b.texts query, ∃ value, child.decode (.one text) = .ok value ∧
    (value.NullFree ∨ b.filter.kind ≠ .list ∧ value = .null)

/-- A collection that is built without a codec of its own requires no null if each of its texts
decodes to a value without null, or, unless it is a list, to null; and only then, unless it is a
range with one lookup for both bounds, where the upper one takes the place of the lower. If the
texts that decode to null are omitted, it compiles to the same fragment, unless it is a list and
there are such texts. -/
theorem nullFree_compile_iff {builder : FilterBuilder} {serial : UInt64}
    (hbuild : builder.build serial = .ok b.filter) (hcodec : builder.codec = none)
    (hcollection : b.filter.kind.isCollection = true) (hparse : b.parse query = .ok v?) :
    (b.Withholds builder.element query → (b.compile v?).NullFree) ∧
    (b.filter.kind.HasTwoLookups → (b.compile v?).NullFree →
      b.Withholds builder.element query) ∧
    ∀ query', query.Omits b.key builder.element.readsNull query' →
      ∃ v?', b.parse query' = .ok v?' ∧ (b.compile v?' = b.compile v? ↔
        (b.filter.kind = .list →
          ∀ text ∈ b.texts query, builder.element.readsNull text = false)) := by
  obtain ⟨-, -, -, -, -, hown, -⟩ := FilterBuilder.build_eq_ok hbuild
  have hown' : b.filter.codec = b.filter.kind.codec builder.element := by
    rw [hown, hcodec]
    rfl
  by_cases hlist : b.filter.kind = .list
  · rw [hlist] at hown'
    have hiff : (b.compile v?).NullFree ↔ b.Withholds builder.element query := by
      rw [nullFree_compile_of_list hown' hlist hparse]
      simp [Withholds, hlist]
    refine ⟨hiff.2, fun _ => hiff.1, fun query' homits => ?_⟩
    obtain ⟨v?', hparse', hsame⟩ := compile_omits_of_list hown' hlist hparse homits
    exact ⟨v?', hparse', hsame.trans (by simp [hlist])⟩
  · have hrange : b.filter.codec = .range builder.element := by
      rcases FilterKind.interval_cases hcollection hlist with ⟨lower, upper, collapse, hkind⟩ |
        ⟨low, high, hkind⟩
      all_goals
        rw [hown', hkind]
        rfl
    obtain ⟨hfree, hwithholds⟩ := nullFree_compile_of_range hrange hcollection hlist hparse
    simp only [Withholds, ne_eq, hlist, not_false_eq_true, true_and, false_implies, iff_true]
    exact ⟨hfree, hwithholds, fun query' homits =>
      compile_omits_of_range hrange hcollection hlist hparse homits⟩

/-- A range from null to true has no lower bound, as if none had been given. -/
theorem nullFree_compile_null_to_true :
    let b : BoundFilter := ⟨"x", .range .gte .lte false, none, none, none, .range .boolean, 0⟩
    let query := FormData.source ⟨[("x.min", "null"), ("x.max", "yes")]⟩
    let query' := FormData.source ⟨[("x.max", "yes")]⟩
    let v : Value := .map [("max", .bool true), ("min", .null)]
    b.parse query = .ok (some v) ∧ (b.compile (some v)).NullFree ∧
      ∃ v?', b.parse query' = .ok v?' ∧ b.compile v?' = b.compile (some v) := by
  intro b query query' v
  have htexts : (b.boundTexts query).entries = [("max", "yes"), ("min", "null")] := by
    decide +kernel
  have hparse : b.parse query = .ok (some v) := by
    refine (parse_eq_ok_iff_of_range rfl).2 ⟨?_, [("max", .bool true), ("min", .null)], ?_, ?_⟩
    · rw [Dict.keys, htexts]
      decide
    · rw [htexts]
      exact .cons ⟨rfl, rfl⟩ (.cons ⟨rfl, rfl⟩ .nil)
    · rw [Dict.isEmpty, htexts]
      rfl
  have homits : query.Omits b.key Codec.boolean.readsNull query' :=
    ⟨by decide +kernel, by decide +kernel⟩
  have hbuild : (Filter.range.withChild .boolean).build 0 = .ok b.filter := rfl
  obtain ⟨hfree, -, hsame⟩ := nullFree_compile_iff hbuild rfl rfl hparse
  have htexts' : b.texts query = ["yes", "null"] := by
    rw [texts_of_range rfl, htexts]
    rfl
  refine ⟨hparse, hfree ?_, ?_⟩
  · rw [Withholds, htexts', List.forall_mem_cons, List.forall_mem_singleton]
    exact ⟨⟨.bool true, rfl, .inl (Value.nullFree_bool true)⟩, .null, rfl, .inr ⟨nofun, rfl⟩⟩
  · obtain ⟨v?', hparse', hiff⟩ := hsame query' homits
    exact ⟨v?', hparse', hiff.2 nofun⟩

/-- A list of two texts of which one decodes to null requires null. -/
theorem not_nullFree_compile :
    ¬∀ (builder : FilterBuilder) (serial : UInt64) (b : BoundFilter) (query : QuerySource)
      (v? : Option Value), builder.build serial = .ok b.filter → builder.codec = none →
      b.filter.kind.isCollection = true → b.parse query = .ok v? → (b.compile v?).NullFree := by
  intro h
  let b : BoundFilter := ⟨"x", .list, some .oneOf, none, none, .list .boolean, 0⟩
  let query := FormData.source ⟨[("x", "null"), ("x", "true")]⟩
  have htexts : b.texts query = ["null", "true"] := by
    rw [texts_of_list rfl]
    decide +kernel
  have hparse : b.parse query = .ok (some (.list [.null, .bool true])) := by
    refine (parse_eq_ok_iff_of_list rfl).2 ⟨[.null, .bool true], ?_, ?_⟩
    · rw [htexts]
      exact .cons rfl (.cons rfl .nil)
    · rw [htexts]
      rfl
  have hfree := h (Filter.oneOf.withChild .boolean) 0 b query _ rfl rfl rfl hparse
  rw [nullFree_compile_of_list rfl rfl hparse, htexts] at hfree
  obtain ⟨value, hdecode, hvalue⟩ := hfree "null" List.mem_cons_self
  obtain rfl : Value.null = value := Except.ok.inj hdecode
  exact hvalue .self

end BoundFilter

end QueryFilters
