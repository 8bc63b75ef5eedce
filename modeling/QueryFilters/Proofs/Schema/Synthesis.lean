import QueryFilters.Proofs.Outcome
import QueryFilters.Schema.Introspection

/-!
# Filters made for fields

A field takes the filter of the type that it shows (`SchemaField.Shows`). For each name,
`Introspection.Fault` lists why no filter can be made and `Introspection.Makes` which one is made.
Making a filter answers one or the other (`Introspection.synthesize_eq_error_iff`,
`Introspection.synthesize_eq_ok_iff`).
-/

namespace QueryFilters

/-! ### Fields and their filters -/

/-- The type whose filter a field takes: its own or, for a collection, that of its elements. -/
inductive SchemaField.Shows (field : SchemaField) : FieldType → Prop
  | own (h : field.type.isCollection = false) : field.Shows field.type
  | element {type : FieldType} (h : field.type.isCollection = true)
      (helement : field.element = some type) : field.Shows type

namespace FilterMapping

/-- The type whose filter a field takes is the one that it shows. -/
theorem effectiveType_eq_ok_iff {field : SchemaField} {type : FieldType} :
    effectiveType field = .ok type ↔ field.Shows type := by
  unfold effectiveType
  constructor
  · intro h
    split at h
    · next hcollection =>
      split at h
      · next helement =>
        obtain rfl := Except.ok.inj h
        exact .element hcollection helement
      · cases h
    · next hcollection =>
      obtain rfl := Except.ok.inj h
      exact .own (by simpa using hcollection)
  · rintro (h | ⟨h, helement⟩)
    · rw [if_neg (by simp [h])]
    · rw [if_pos h, helement]

/-- Only a collection of unknown elements shows no type. -/
theorem effectiveType_eq_error_iff {field : SchemaField} {e : ConfigurationError} :
    effectiveType field = .error e ↔
      field.type.isCollection = true ∧ field.element = none ∧
        e = .missingElementType field.name := by
  unfold effectiveType
  constructor
  · intro h
    split at h
    · next hcollection =>
      split at h
      · cases h
      · next helement => exact ⟨hcollection, helement, (Except.error.inj h).symm⟩
    · cases h
  · rintro ⟨hcollection, helement, rfl⟩
    rw [if_pos hcollection, helement]

/-- No type on the way to more general ones has a filter. -/
theorem resolveType?_eq_none_iff {m : FilterMapping} {type : FieldType} :
    m.resolveType? type = none ↔ ∀ t ∈ type :: type.fallbacks, m.builder? t = none :=
  List.findSome?_eq_none_iff

/-- A field takes the filter of the type that it shows, unless that is a collection again. -/
theorem resolve_eq_ok_iff {m : FilterMapping} {field : SchemaField} {builder : FilterBuilder} :
    m.resolve field = .ok builder ↔
      ∃ type b, field.Shows type ∧ type.isCollection = false ∧ m.resolveType? type = some b ∧
        builder = b.withSource field.name := by
  unfold resolve
  constructor
  · intro h
    split at h
    · cases h
    · next type htype =>
      split at h
      · next b hb =>
        split at h
        · cases h
        · next hcollection =>
          exact ⟨type, b, effectiveType_eq_ok_iff.1 htype, by simpa using hcollection, hb,
            (Except.ok.inj h).symm⟩
      · cases h
  · rintro ⟨type, b, hshows, hcollection, hb, rfl⟩
    rw [effectiveType_eq_ok_iff.2 hshows]
    simp [hb, hcollection]

/-- A field has no filter if it shows no type, or one that has no filter or is a collection. -/
theorem resolve_eq_error_iff {m : FilterMapping} {field : SchemaField} {e : ConfigurationError} :
    m.resolve field = .error e ↔
      (field.type.isCollection = true ∧ field.element = none ∧
        e = .missingElementType field.name) ∨
      ∃ type, field.Shows type ∧ (m.resolveType? type = none ∨ type.isCollection = true) ∧
        e = .unmappedField field.name type := by
  unfold resolve
  constructor
  · intro h
    split at h
    · next htype =>
      obtain rfl := Except.error.inj h
      exact .inl (effectiveType_eq_error_iff.1 htype)
    · next type htype =>
      refine .inr ⟨type, effectiveType_eq_ok_iff.1 htype, ?_⟩
      split at h
      · split at h
        · next hcollection => exact ⟨.inr hcollection, (Except.error.inj h).symm⟩
        · cases h
      · next hnone => exact ⟨.inl hnone, (Except.error.inj h).symm⟩
  · rintro (hmissing | ⟨type, hshows, hunmapped, rfl⟩)
    · rw [effectiveType_eq_error_iff.2 hmissing]
    · rw [effectiveType_eq_ok_iff.2 hshows]
      rcases hunmapped with hnone | hcollection
      · simp [hnone]
      · dsimp only
        cases m.resolveType? type with
        | none => rfl
        | some b => exact if_pos hcollection

end FilterMapping

/-- The field that a schema has under a name has that name. -/
theorem Schema.name_of_get? {schema : Schema} {name : String} {field : SchemaField}
    (h : schema.get? name = some field) : field.name = name := by
  unfold get? at h
  split at h
  · next found hfound =>
    obtain rfl := Option.some.inj h
    simpa using List.find?_some hfound
  · split at h
    · rw [← Option.some.inj h]
    · cases h

/-- Whether a filter can be built does not depend on its place in the order of building. -/
theorem FilterBuilder.build_eq_error {b : FilterBuilder} {serial : UInt64} {e : ConfigurationError}
    (h : b.build serial = .error e) (other : UInt64) : b.build other = .error e := by
  unfold build at h ⊢
  split at h
  · next hlookup => rw [if_pos hlookup, ← Except.error.inj h]
  · next hlookup =>
    rw [if_neg hlookup]
    split at h
    · next hchild => rw [if_pos hchild, ← Except.error.inj h]
    · next hchild =>
      rw [if_neg hchild]
      split at h
      · exact congrArg Except.error (Except.error.inj h)
      · cases h

namespace Introspection

variable (i : Introspection)

/-! ### One name -/

/-- The filter of a type with the choices for a field. -/
def configured (name : String) (builder : FilterBuilder) : FilterBuilder :=
  match i.options.get? name with
  | some options => builder.withOptions options
  | none => builder

/-- Why no filter can be made for a name. -/
inductive Fault (name : String) : ConfigurationError → Prop
  /-- The schema has no such field. -/
  | unknown (h : i.schema.get? name = none) : Fault name (.unknownField i.schema.name name)
  /-- The field is a collection of elements of no given type. -/
  | untyped {field : SchemaField} (hfield : i.schema.get? name = some field)
      (h : field.type.isCollection = true) (helement : field.element = none) :
      Fault name (.missingElementType name)
  /-- Neither the type that the field shows nor a more general one has a filter, or it is a
  collection itself. -/
  | unmapped {field : SchemaField} {type : FieldType} (hfield : i.schema.get? name = some field)
      (hshows : field.Shows type)
      (h : (∀ t ∈ type :: type.fallbacks, i.mapping.builder? t = none) ∨
        type.isCollection = true) : Fault name (.unmappedField name type)
  /-- The filter of the type does not build with the choices for the field. -/
  | unbuildable {field : SchemaField} {type : FieldType} {builder : FilterBuilder}
      {e : ConfigurationError} (hfield : i.schema.get? name = some field)
      (hshows : field.Shows type) (htype : type.isCollection = false)
      (hbuilder : i.mapping.resolveType? type = some builder)
      (h : ∀ serial, (i.configured name (builder.withSource name)).build serial = .error e) :
      Fault name e

/-- The filter that is made for the field of a name: the nearest one on the way from the type that
the field shows to more general types, with the choices for the field. -/
def Makes (name : String) (serial : UInt64) (filter : Filter) : Prop :=
  ∃ field type builder, i.schema.get? name = some field ∧ field.Shows type ∧
    type.isCollection = false ∧ i.mapping.resolveType? type = some builder ∧
    (i.configured name (builder.withSource name)).build serial = .ok filter

variable {i}

/-- No filter is made for a name that the schema does not have. -/
theorem synthesize_of_get?_none {name : String} (h : i.schema.get? name = none) (serial : UInt64) :
    i.synthesize name serial = .error (.unknownField i.schema.name name) := by
  rw [synthesize, h]
  rfl

/-- The filter of a field is resolved and then built with the choices for the field. -/
theorem synthesize_of_get? {name : String} {field : SchemaField}
    (h : i.schema.get? name = some field) (serial : UInt64) :
    i.synthesize name serial =
      i.mapping.resolve field >>= fun builder => (i.configured name builder).build serial := by
  rw [synthesize, h]
  cases hoptions : i.options.get? name <;> simp only [configured, hoptions] <;> rfl

/-- Making a filter fails as the name is at fault. -/
theorem synthesize_eq_error_iff {name : String} {serial : UInt64} {e : ConfigurationError} :
    i.synthesize name serial = .error e ↔ i.Fault name e := by
  constructor
  · intro h
    cases hfield : i.schema.get? name with
    | none =>
      rw [synthesize_of_get?_none hfield] at h
      rw [← Except.error.inj h]
      exact .unknown hfield
    | some field =>
      rw [synthesize_of_get? hfield] at h
      obtain rfl := Schema.name_of_get? hfield
      rcases bind_eq_error_iff.1 h with hresolve | ⟨builder, hresolve, hbuild⟩
      · rcases FilterMapping.resolve_eq_error_iff.1 hresolve with
          ⟨hcollection, helement, rfl⟩ | ⟨type, hshows, hnone | hcollection, rfl⟩
        · exact .untyped hfield hcollection helement
        · exact .unmapped hfield hshows (.inl (FilterMapping.resolveType?_eq_none_iff.1 hnone))
        · exact .unmapped hfield hshows (.inr hcollection)
      · obtain ⟨type, b, hshows, hcollection, hb, rfl⟩ :=
          FilterMapping.resolve_eq_ok_iff.1 hresolve
        exact .unbuildable hfield hshows hcollection hb fun other =>
          FilterBuilder.build_eq_error hbuild other
  · intro h
    cases h with
    | unknown hfield => exact synthesize_of_get?_none hfield serial
    | untyped hfield hcollection helement =>
      have hname := Schema.name_of_get? hfield
      rw [synthesize_of_get? hfield]
      exact bind_eq_error_iff.2 (.inl (FilterMapping.resolve_eq_error_iff.2
        (.inl ⟨hcollection, helement, by rw [hname]⟩)))
    | unmapped hfield hshows hunmapped =>
      have hname := Schema.name_of_get? hfield
      rw [synthesize_of_get? hfield]
      rw [← FilterMapping.resolveType?_eq_none_iff] at hunmapped
      exact bind_eq_error_iff.2 (.inl (FilterMapping.resolve_eq_error_iff.2
        (.inr ⟨_, hshows, hunmapped, by rw [hname]⟩)))
    | unbuildable hfield hshows hcollection hb hbuild =>
      have hname := Schema.name_of_get? hfield
      rw [synthesize_of_get? hfield]
      exact bind_eq_error_iff.2 (.inr ⟨_, FilterMapping.resolve_eq_ok_iff.2
        ⟨_, _, hshows, hcollection, hb, by rw [hname]⟩, hbuild serial⟩)

/-- The filter that is made is the one that the field and its choices give. -/
theorem synthesize_eq_ok_iff {name : String} {serial : UInt64} {filter : Filter} :
    i.synthesize name serial = .ok filter ↔ i.Makes name serial filter := by
  constructor
  · intro h
    cases hfield : i.schema.get? name with
    | none =>
      rw [synthesize_of_get?_none hfield] at h
      cases h
    | some field =>
      rw [synthesize_of_get? hfield] at h
      obtain ⟨builder, hresolve, hbuild⟩ := bind_eq_ok_iff.1 h
      obtain ⟨type, b, hshows, hcollection, hb, rfl⟩ :=
        FilterMapping.resolve_eq_ok_iff.1 hresolve
      rw [Schema.name_of_get? hfield] at hbuild
      exact ⟨field, type, b, hfield, hshows, hcollection, hb, hbuild⟩
  · rintro ⟨field, type, b, hfield, hshows, hcollection, hb, hbuild⟩
    have hname := Schema.name_of_get? hfield
    rw [synthesize_of_get? hfield]
    exact bind_eq_ok_iff.2 ⟨_, FilterMapping.resolve_eq_ok_iff.2
      ⟨type, b, hshows, hcollection, hb, rfl⟩, by rw [hname]; exact hbuild⟩

/-- A name has one fault. -/
theorem Fault.unique {name : String} {e e' : ConfigurationError} (h : i.Fault name e)
    (h' : i.Fault name e') : e = e' := by
  have hfirst : i.synthesize name 0 = .error e := synthesize_eq_error_iff.2 h
  rw [synthesize_eq_error_iff.2 h'] at hfirst
  exact (Except.error.inj hfirst).symm

/-- One filter is made for a name in a place. -/
theorem Makes.unique {name : String} {serial : UInt64} {filter filter' : Filter}
    (h : i.Makes name serial filter) (h' : i.Makes name serial filter') : filter = filter' := by
  have hfirst := synthesize_eq_ok_iff.2 h
  rw [synthesize_eq_ok_iff.2 h'] at hfirst
  exact (Except.ok.inj hfirst).symm

end Introspection

end QueryFilters
