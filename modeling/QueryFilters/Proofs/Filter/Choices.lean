import QueryFilters.Proofs.Filter.Building

/-!
# Choices made one after the other

A builder starts from a kind and takes any number of choices in any order
(`FilterBuilder.chooseAll`). What is built from it has a kind that takes its lookup and, unless a
codec was chosen, a codec for input of the shape that the kind reads. A range is bounded from below
and from above exactly if it was so to begin with or if bounds were chosen
(`FilterBuilder.bounded_build_iff`): only bounds that are chosen are checked, so those that a kind
brings along may be any lookups (`FilterBuilder.not_bounded_build`).
-/

namespace QueryFilters

namespace FilterKind

/-- The shape of the input that a kind reads. -/
def shape : FilterKind → Shape
  | range .. | rangeIntersection .. | geoNear => .group
  | list => .sequence
  | _ => .single

/-- The codec of a kind takes input of the shape that the kind reads, whatever decodes the
elements. -/
theorem shape_codec (kind : FilterKind) (child : Codec) :
    (kind.codec child).shape = kind.shape := by
  cases kind <;> rfl

end FilterKind

namespace FilterBuilder

/-- One choice for a filter. -/
inductive Choice
  | lookup (lookup : Lookup)
  | key (key : String)
  | source (source : String)
  | child (child : Codec)
  | codec (codec : Codec)
  | bounds (lower upper : Lookup)
  | collapse
  | options (options : FilterOptions)

/-- The builder after a choice. -/
def choose (b : FilterBuilder) : Choice → FilterBuilder
  | .lookup lookup => b.withLookup lookup
  | .key key => b.withKey key
  | .source source => b.withSource source
  | .child child => b.withChild child
  | .codec codec => b.withCodec codec
  | .bounds lower upper => b.withBounds lower upper
  | .collapse => b.withCollapse
  | .options options => b.withOptions options

/-- The builder after choices that are made one after the other. -/
def chooseAll (b : FilterBuilder) (choices : List Choice) : FilterBuilder :=
  choices.foldl choose b

/-- Choices leave the kind as it is. -/
theorem kind_chooseAll (b : FilterBuilder) (choices : List Choice) :
    (b.chooseAll choices).kind = b.kind := by
  induction choices generalizing b with
  | nil => rfl
  | cons choice choices ih =>
    have hkind : (b.choose choice).kind = b.kind := by cases choice <;> rfl
    exact (ih (b.choose choice)).trans hkind

/-- A codec is chosen by the choice of a codec alone. -/
theorem codec_chooseAll {b : FilterBuilder} {choices : List Choice}
    (h : ∀ codec, .codec codec ∉ choices) : (b.chooseAll choices).codec = b.codec := by
  induction choices generalizing b with
  | nil => rfl
  | cons choice choices ih =>
    have hcodec : (b.choose choice).codec = b.codec := by
      cases choice with
      | codec codec => exact absurd List.mem_cons_self (h codec)
      | _ => rfl
    have hrest : ∀ codec, .codec codec ∉ choices := fun codec hmem =>
      h codec (List.mem_cons_of_mem choice hmem)
    exact (ih hrest).trans hcodec

/-- Bounds are chosen by the choice of bounds alone, and stay chosen. -/
theorem isSome_bounds_chooseAll_iff (b : FilterBuilder) (choices : List Choice) :
    (b.chooseAll choices).bounds.isSome = true ↔
      b.bounds.isSome = true ∨ ∃ lower upper, .bounds lower upper ∈ choices := by
  induction choices generalizing b with
  | nil => simp [chooseAll]
  | cons choice choices ih =>
    have hbounds : (b.choose choice).bounds.isSome = true ↔
        b.bounds.isSome = true ∨ ∃ lower upper, choice = .bounds lower upper := by
      cases choice <;> simp [choose, withLookup, withKey, withSource, withChild, withCodec,
        withBounds, withCollapse, withOptions]
    rw [chooseAll, List.foldl_cons, ← chooseAll, ih, hbounds, or_assoc]
    refine or_congr_right ?_
    simp only [List.mem_cons, eq_comm (a := choice), exists_or]

/-- Whatever choices are made for a kind, in whatever order and however often: the kind of what is
built takes its lookup; it is bounded from below and from above, if it is a range, exactly when the
kind given was or when bounds were chosen; and unless a codec was chosen, the codec takes input of
the shape that the kind reads. -/
theorem bounded_build_iff {kind : FilterKind} {choices : List Choice} {serial : UInt64} {f : Filter}
    (h : ((ofKind kind).chooseAll choices).build serial = .ok f) :
    f.kind.accepts f.lookup = true ∧
      (f.kind.IsBounded ↔ kind.IsBounded ∨ ∃ lower upper, .bounds lower upper ∈ choices) ∧
      ((∀ codec, .codec codec ∉ choices) → f.codec.shape = f.kind.shape) := by
  obtain ⟨-, hkind, -, -, -, hcodec, -⟩ := build_eq_ok h
  refine ⟨accepts_of_build h, ?_, fun hnone => ?_⟩
  · rw [bounded_settledKind_iff hkind, kind_chooseAll, isSome_bounds_chooseAll_iff]
    exact or_congr_right (or_iff_right Bool.false_ne_true)
  · rw [hcodec, codec_chooseAll hnone]
    exact FilterKind.shape_codec f.kind _

/-- Bounds the wrong way round are replaced by those that are chosen. -/
theorem bounded_build_replaced :
    let choices : List Choice := [.child .integer, .bounds .gt .lt, .collapse]
    ∃ f, ((ofKind (.range .lt .gt false)).chooseAll choices).build 0 = .ok f ∧
      f.kind = .range .gt .lt true ∧ f.kind.accepts f.lookup = true ∧ f.kind.IsBounded ∧
      f.codec.shape = .group := by
  intro choices
  obtain ⟨f, hf, hkind⟩ : ∃ f, ((ofKind (.range .lt .gt false)).chooseAll choices).build 0 = .ok f ∧
      f.kind = .range .gt .lt true := ⟨_, rfl, rfl⟩
  obtain ⟨haccepts, hbounded, hshape⟩ := bounded_build_iff hf
  have hmem : Choice.bounds .gt .lt ∈ choices := by simp [choices]
  have hnone : ∀ codec, Choice.codec codec ∉ choices := fun codec => by simp [choices]
  refine ⟨f, hf, hkind, haccepts, hbounded.2 (.inr ⟨.gt, .lt, hmem⟩), ?_⟩
  rw [hshape hnone, hkind]
  rfl

/-- A range whose kind brings bounds the wrong way round is built as it is, without any choice. -/
theorem not_bounded_build :
    ∃ f, ((ofKind (.range .lt .gt false)).chooseAll []).build 0 = .ok f ∧
      f.kind = .range .lt .gt false ∧ ¬f.kind.IsBounded :=
  ⟨_, rfl, rfl, Bool.false_ne_true⟩

end FilterBuilder

end QueryFilters
