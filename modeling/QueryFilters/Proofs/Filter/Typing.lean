import QueryFilters.Proofs.Compilation
import QueryFilters.Proofs.Filter.Decoding
import QueryFilters.Proofs.Fragment.Reordering
import QueryFilters.Proofs.Fragment.Typing

/-!
# Compiled filters are well-typed

Between the input of a filter and the operands of the evaluator stand the checks of its builder, the
type of its codec, the way its kind compiles, and the reading of its keys. `BoundFilter.Sound` says
what is asked of a filter, `BoundFilter.Writes` what it may then write, and
`BoundFilter.Sound.each_writes` that it writes nothing else, whatever value it decodes. The builder
does not check the lookups that a kind of range brings along, so that is asked in addition
(`FilterKind.ComparesAny`).
-/

namespace QueryFilters

/-! ### Legible paths -/

/-- Keys carry the path, with a lookup or without one. -/
structure Path.Legible (path : Path) : Prop where
  tidy : path.Tidy
  unambiguous : path.Unambiguous none

namespace Path.Legible

variable {path : Path} (h : path.Legible) (hne : path ≠ []) (l : Option Lookup)

include h hne in
/-- Keys of a legible path give it back. -/
theorem split_ofTarget : Key.split (Key.ofTarget path.toTarget l) = (path, l) :=
  Key.split_ofTarget hne h.tidy fun _ => h.unambiguous rfl

include h hne in
/-- Keys of a legible path are no raw queries. -/
theorem ofTarget_ne_raw : Key.ofTarget path.toTarget l ≠ Key.raw :=
  Key.ofTarget_ne_raw hne h.tidy fun _ => h.unambiguous rfl

include h hne in
/-- An entry under a legible path is well-typed when the lookup can compare with the operand. -/
theorem types_ofTarget (operand : Value) :
    Key.types (Key.ofTarget path.toTarget l, operand) = Lookup.takes l operand := by
  rw [Key.types, if_neg (h.ofTarget_ne_raw hne l), h.split_ofTarget hne l]

end Path.Legible

/-- A dotted text has segments. -/
theorem Path.ofDotted_ne_nil (text : String) : Path.ofDotted text ≠ [] := by
  simpa [Path.ofDotted] using Text.splitOn_ne_nil '.' text.toList

/-! ### Compiled entries -/

namespace Params.Each

variable {allowed : String × Value → Prop}

/-- Nothing is not allowed in a mapping without entries. -/
theorem empty : Params.Each allowed Dict.empty := by
  intro entry hentry
  cases hentry

/-- Putting an allowed entry leaves all entries allowed. -/
theorem put {params : Params} (h : params.Each allowed) {target : String} {l : Option Lookup}
    {v : Value} (hnew : allowed (Key.ofTarget target l, v)) :
    (params.put target l v).Each allowed := by
  intro entry hentry
  rcases Entries.eq_or_mem_of_mem_insert hentry with rfl | hmem
  · exact hnew
  · exact h entry hmem

/-- A fragment of one mapping has its entries. -/
theorem fragment {params : Params} (h : params.Each allowed) :
    (Fragment.params params).Each allowed := by
  intro leaf hleaf
  obtain rfl := List.mem_singleton.1 hleaf
  exact h

end Params.Each

namespace Compile

variable {allowed : String × Value → Prop} {target : String}

/-- A fragment of one entry has no other. -/
theorem each_single {l : Option Lookup} {v : Value} (h : allowed (Key.ofTarget target l, v)) :
    (Fragment.params (.single target l v)).Each allowed :=
  (Params.Each.empty.put h).fragment

/-- A day compiles to its start and to the start of the next. -/
theorem each_date (v : Value) (hgte : ∀ v, allowed (Key.ofTarget target (some .gte), v))
    (hlt : ∀ v, allowed (Key.ofTarget target (some .lt), v)) :
    (date target v).Each allowed := by
  unfold date
  dsimp only
  split
  · exact Params.Each.empty.fragment
  · split
    · exact each_single (hgte _)
    · exact ((Params.Each.empty.put (hgte _)).put (hlt _)).fragment

/-- The bounds of a range compile to its two lookups. -/
theorem each_range {lower upper : Lookup}
    (hlower : ∀ v, allowed (Key.ofTarget target (some lower), v))
    (hupper : ∀ v, allowed (Key.ofTarget target (some upper), v)) (min max : Option Value) :
    (range target lower upper min max).Each allowed := by
  cases min with
  | none =>
    cases max with
    | none => exact Params.Each.empty
    | some max => exact Params.Each.empty.put (hupper max)
  | some min =>
    have hmin := Params.Each.empty.put (hlower min)
    cases max with
    | none => exact hmin
    | some max => exact hmin.put (hupper max)

/-- A range compiles to its two lookups, or to an equality. -/
theorem each_rangeFragment {lower upper : Lookup} {collapse : Bool} (v : Value)
    (hlower : ∀ v, allowed (Key.ofTarget target (some lower), v))
    (hupper : ∀ v, allowed (Key.ofTarget target (some upper), v))
    (hequal : ∀ v, allowed (Key.ofTarget target none, v)) :
    (rangeFragment target lower upper collapse v).Each allowed := by
  unfold rangeFragment
  split
  · split
    · exact each_single (hequal _)
    · exact (each_range hlower hupper _ _).fragment
  · exact (each_range hlower hupper _ _).fragment

/-- The mappings of a bound that may be missing. -/
theorem each_missingOr {l : Lookup} {v : Value}
    (hpresent : allowed (Key.ofTarget target (some .present), .bool false))
    (h : allowed (Key.ofTarget target (some l), v)) :
    ∀ params ∈ (missingOr target l v).leaves, params.Each allowed := by
  simp only [missingOr, Condition.leaves, Condition.allLeaves, List.singleton_append,
    List.append_nil, List.forall_mem_cons]
  exact ⟨Params.Each.empty.put hpresent, Params.Each.empty.put h, fun _ hnil => by cases hnil⟩

/-- An intersection of intervals compiles, on either of its paths, to a test whether the bound is
present and to a comparison. -/
theorem each_intersection {low high : String} (v : Value)
    (hlow : allowed (Key.ofTarget low (some .present), .bool false))
    (hlte : ∀ v, allowed (Key.ofTarget low (some .lte), v))
    (hhigh : allowed (Key.ofTarget high (some .present), .bool false))
    (hgte : ∀ v, allowed (Key.ofTarget high (some .gte), v)) :
    (intersection low high v).Each allowed := by
  have hconditions : ∀ c ∈ ((bound? v "max").map (missingOr low .lte)).toList ++
      ((bound? v "min").map (missingOr high .gte)).toList,
      ∀ params ∈ c.leaves, params.Each allowed := by
    intro c hc
    rcases List.mem_append.1 hc with hc | hc
    · obtain ⟨max, -, rfl⟩ := Option.map_eq_some_iff.1 (Option.mem_toList.1 hc)
      exact each_missingOr hlow (hlte max)
    · obtain ⟨min, -, rfl⟩ := Option.map_eq_some_iff.1 (Option.mem_toList.1 hc)
      exact each_missingOr hhigh (hgte min)
  unfold intersection
  dsimp only
  split
  · exact Params.Each.empty.fragment
  · intro params hparams
    rw [Fragment.leaves, Condition.leaves, Condition.allLeaves_eq_flatMap] at hparams
    obtain ⟨c, hc, hleaf⟩ := List.mem_flatMap.1 hparams
    exact hconditions c hc params hleaf

/-- A reference compiles to a raw query. -/
theorem each_reference (path : Path) (v : Value)
    (h : ∀ entries, allowed (Key.raw, .map entries)) : (reference path v).Each allowed :=
  each_single (h _)

end Compile

/-! ### Lookups that compare with every operand -/

namespace Lookup

/-- The lookup compares with operands of every type. -/
def comparesAny (l : Lookup) : Bool :=
  l.isComparison || l.isString

/-- It can compare with any operand and asks nothing about distances. -/
theorem takes_of_comparesAny {l : Lookup} (h : l.comparesAny = true) (v : Value) :
    takes (some l) v = true ∧ l.slot? = none := by
  cases l <;> first | exact ⟨rfl, rfl⟩ | cases h

/-- Only such a lookup can compare with text. -/
theorem takes_string (l : Lookup) (text : String) :
    takes (some l) (.string text) = l.comparesAny := by
  cases l <;> rfl

end Lookup

/-! ### Sound filters -/

namespace FilterKind

/-- The lookups of a range compare with bounds of every type. -/
def ComparesAny : FilterKind → Prop
  | range lower upper _ => lower.comparesAny = true ∧ upper.comparesAny = true
  | _ => True

/-- The operand of a plain filter suits every lookup that its kind takes. -/
theorem takes_operand {kind : FilterKind} {l : Option Lookup} {child : Codec} {v : Value}
    (hplain : kind.isPlain = true) (haccepts : kind.accepts l = true)
    (hanswers : (kind.codec child).answers v = true) (hnull : v ≠ .null) :
    Lookup.takes l (kind.operand v) = true := by
  cases l with
  | none => rfl
  | some l =>
    cases kind with
    | boolean =>
      cases l with
      | ne => rfl
      | present => cases v <;> first | rfl | exact absurd rfl hnull | cases hanswers
      | _ => cases haccepts
    | list =>
      cases l with
      | oneOf | noneOf | allOf => cases v <;> first | rfl | cases hanswers
      | _ => cases haccepts
    | text | uuid | integer | float | dateTime | objectId =>
      cases l <;> first | rfl | cases haccepts
    | _ => cases hplain

end FilterKind

namespace BoundFilter

/-- What the lookup of a filter asks about distances, if it asks anything. -/
def asks? (b : BoundFilter) : Option Slot :=
  b.filter.lookup.bind Lookup.slot?

/-- A filter that was built without a codec of its own. If it compares places, then by a place to be
near to or by a greatest or a least distance, and keys carry the paths that it compares. -/
structure Sound (b : BoundFilter) : Prop where
  built : ∃ (builder : FilterBuilder) (serial : UInt64), builder.build serial = .ok b.filter ∧
    builder.codec = none
  near : b.filter.kind = .geoNear →
    b.filter.lookup = some .near ∨ b.filter.lookup = some .nearSphere
  distance : b.filter.kind = .geoDistance →
    b.filter.lookup = some .maxDistance ∨ b.filter.lookup = some .minDistance
  path : b.path.Legible
  interval : ∀ low high, b.filter.kind = .rangeIntersection low high →
    (Path.ofDotted low).Legible ∧ (Path.ofDotted high).Legible

/-- The entries that a filter may write: a raw query, or a well-typed entry under a legible path. If
it asks about distances, it does so as the filter does, on the path of the filter. -/
inductive Writes (b : BoundFilter) : String × Value → Prop
  | raw (entries : Entries Value) : b.Writes (Key.raw, .map entries)
  | under {path : Path} {l : Option Lookup} {operand : Value} (hne : path ≠ [])
      (hpath : path.Legible) (htakes : Lookup.takes l operand = true)
      (hasks : l.bind Lookup.slot? ≠ none → path = b.path ∧ l = b.filter.lookup) :
      b.Writes (Key.ofTarget path.toTarget l, operand)

namespace Writes

variable {b : BoundFilter}

/-- What a filter may write is well-typed. -/
theorem types {entry : String × Value} (h : b.Writes entry) : Key.types entry = true := by
  cases h with
  | raw entries => rfl
  | under hne hpath htakes hasks => exact (hpath.types_ofTarget hne _ _).trans htakes

/-- An entry that asks about distances does so as its filter does. -/
theorem slot {entry : String × Value} (h : b.Writes entry) (hslot : Key.slot? entry.1 ≠ none) :
    Key.slot? entry.1 = b.asks? ∧ (Key.split entry.1).1 = b.path := by
  cases h with
  | raw entries => exact absurd Key.slot?_raw hslot
  | under hne hpath htakes hasks =>
    rw [Key.slot?, hpath.split_ofTarget hne] at hslot ⊢
    obtain ⟨rfl, rfl⟩ := hasks hslot
    exact ⟨rfl, rfl⟩

/-- An entry under the key of the filter. -/
theorem own (h : b.Sound) {operand : Value}
    (htakes : Lookup.takes b.filter.lookup operand = true) :
    b.Writes (Key.ofTarget b.target b.filter.lookup, operand) :=
  .under b.path_ne_nil h.path htakes fun _ => ⟨rfl, rfl⟩

/-- An entry that asks nothing about distances. -/
theorem other {path : Path} {l : Option Lookup} {operand : Value} (hne : path ≠ [])
    (hpath : path.Legible) (htakes : Lookup.takes l operand = true)
    (hslot : l.bind Lookup.slot? = none) : b.Writes (Key.ofTarget path.toTarget l, operand) :=
  .under hne hpath htakes fun hasks => absurd hslot hasks

end Writes

namespace Sound

variable {b : BoundFilter} (h : b.Sound)

include h

/-- The kind of a sound filter takes its lookup. -/
theorem accepts : b.filter.kind.accepts b.filter.lookup = true := by
  obtain ⟨builder, serial, hbuild, -⟩ := h.built
  exact FilterBuilder.accepts_of_build hbuild

/-- The codec of a sound filter is that of its kind. -/
theorem exists_codec_eq : ∃ child, b.filter.codec = b.filter.kind.codec child := by
  obtain ⟨builder, serial, hbuild, hcodec⟩ := h.built
  obtain ⟨-, -, -, -, -, hown, -⟩ := FilterBuilder.build_eq_ok hbuild
  rw [hcodec] at hown
  exact ⟨_, hown⟩

/-- A filter of places asks for a place. -/
theorem asks?_of_geoNear (hkind : b.filter.kind = .geoNear) : b.asks? = some .origin := by
  rcases h.near hkind with hlookup | hlookup <;> simp [asks?, hlookup, Lookup.slot?]

/-- A filter of distances asks for a bound. -/
theorem asks?_of_geoDistance (hkind : b.filter.kind = .geoDistance) :
    b.asks? = some .max ∨ b.asks? = some .min := by
  rcases h.distance hkind with hlookup | hlookup <;> simp [asks?, hlookup, Lookup.slot?]

/-- No other filter asks about distances. -/
theorem asks?_eq_none (hnear : b.filter.kind ≠ .geoNear)
    (hdistance : b.filter.kind ≠ .geoDistance) : b.asks? = none := by
  have haccepts := h.accepts
  rw [asks?]
  cases hlookup : b.filter.lookup with
  | none => rfl
  | some l =>
    rw [hlookup] at haccepts
    cases hkind : b.filter.kind with
    | geoNear => exact absurd hkind hnear
    | geoDistance => exact absurd hkind hdistance
    | boolean | text | uuid | integer | float | dateTime | objectId | list =>
      rw [hkind] at haccepts
      cases l <;> first | rfl | cases haccepts
    | date | reference | range | rangeIntersection =>
      rw [hkind] at haccepts
      cases haccepts

/-- Whatever value a sound filter has decoded, it writes only what it may, if it is no range or one
whose lookups compare with every bound. -/
theorem each_writes (hany : b.filter.kind.ComparesAny) {v : Value}
    (hanswers : b.filter.codec.answers v = true) (hnull : v ≠ .null) :
    (b.compile (some v)).Each b.Writes := by
  have haccepts := h.accepts
  obtain ⟨child, hcodec⟩ := h.exists_codec_eq
  rw [hcodec] at hanswers
  have hvalue := b.compile_some hnull
  have hown : ∀ {l : Option Lookup} (operand : Value), Lookup.takes l operand = true →
      l.bind Lookup.slot? = none → b.Writes (Key.ofTarget b.target l, operand) :=
    fun operand htakes hslot => .other b.path_ne_nil h.path htakes hslot
  cases hkind : b.filter.kind with
  | boolean | text | uuid | integer | float | dateTime | objectId | list =>
    rw [hkind] at haccepts hanswers
    have htakes := FilterKind.takes_operand rfl haccepts hanswers hnull
    rw [compile_of_isPlain (by rw [hkind]; rfl) hnull, hkind]
    exact Compile.each_single (.own h htakes)
  | geoNear =>
    rw [hkind] at hanswers
    simp only [hvalue, compileValue, hkind]
    refine Compile.each_single (.own h ?_)
    rcases h.near hkind with hlookup | hlookup <;> rw [hlookup] <;> exact hanswers
  | geoDistance =>
    rw [hkind] at hanswers
    simp only [hvalue, compileValue, hkind]
    refine Compile.each_single (.own h ?_)
    rcases h.distance hkind with hlookup | hlookup <;> rw [hlookup] <;>
      cases v <;> first | rfl | cases hanswers
  | date =>
    simp only [hvalue, compileValue, hkind]
    exact Compile.each_date v (fun v => hown v rfl rfl) fun v => hown v rfl rfl
  | reference =>
    simp only [hvalue, compileValue, hkind]
    exact Compile.each_reference b.path v .raw
  | range lower upper collapse =>
    rw [hkind] at hany
    simp only [hvalue, compileValue, hkind]
    have hbound : ∀ {l : Lookup}, l.comparesAny = true → ∀ v,
        b.Writes (Key.ofTarget b.target (some l), v) := fun hl v =>
      hown v (Lookup.takes_of_comparesAny hl v).1 (Lookup.takes_of_comparesAny hl v).2
    exact Compile.each_rangeFragment v (hbound hany.1) (hbound hany.2) fun v => hown v rfl rfl
  | rangeIntersection low high =>
    simp only [hvalue, compileValue, hkind]
    obtain ⟨hlow, hhigh⟩ := h.interval low high hkind
    have hbelow := Path.ofDotted_ne_nil low
    have habove := Path.ofDotted_ne_nil high
    exact Compile.each_intersection v (.other hbelow hlow rfl rfl)
      (fun v => .other hbelow hlow rfl rfl) (.other habove hhigh rfl rfl)
      fun v => .other habove hhigh rfl rfl

/-- A filter that asks about distances writes one entry, which does. -/
theorem compile_of_asks (hasks : b.asks? ≠ none) {v : Value} (hnull : v ≠ .null) :
    b.compile (some v) = .params (.single b.target b.filter.lookup v) := by
  have hvalue := b.compile_some hnull
  cases hkind : b.filter.kind with
  | geoNear | geoDistance => simp only [hvalue, compileValue, hkind]
  | _ => exact absurd (h.asks?_eq_none (by simp [hkind]) (by simp [hkind])) hasks

end Sound

end BoundFilter

end QueryFilters
