import QueryFilters.Proofs.Evaluation.Conjunction
import QueryFilters.Proofs.Proximity.Demands
import QueryFilters.Proofs.Queryset.Selection

/-!
# Well-typed fragments

A lookup compares with operands of one type, and the evaluator refuses all others. An entry is
*well-typed* when its operand suits the lookup of its key. Well-typed entries are decided on every
document (`Evaluation.decided_entry`) and their demands on distances can be read
(`Proximity.exists_demand`), so a queryset of well-typed fragments can only fail for want of a place
to measure a distance from (`Queryset.missingNear_of_wellTyped`), and
`Queryset.exists_error_iff_of_wellTyped` says when it does.
-/

namespace QueryFilters

/-- Whether a lookup, or equality where there is none, can compare with an operand. -/
def Lookup.takes : Option Lookup → Value → Bool
  | none, _ => true
  | some l, operand =>
    match l with
    | .present => operand.type == .bool
    | .oneOf | .noneOf | .allOf => operand.isList
    | .near | .nearSphere => operand.asPoint?.isSome
    | .maxDistance | .minDistance => operand.asFloat?.isSome
    | l => l.isComparison || l.isString

/-- Whether an entry is well-typed: a raw query is a map, and under any other key the operand suits
the lookup. -/
def Key.types (entry : String × Value) : Bool :=
  if entry.1 = Key.raw then entry.2.type == .map
  else Lookup.takes (Key.split entry.1).2 entry.2

/-- Every entry of the mapping is allowed. -/
def Params.Each (allowed : String × Value → Prop) (params : Params) : Prop :=
  ∀ entry ∈ params.entries, allowed entry

/-- Every entry of the fragment is allowed. -/
def Fragment.Each (allowed : String × Value → Prop) (f : Fragment) : Prop :=
  ∀ params ∈ f.leaves, params.Each allowed

/-- Every entry of the fragment is well-typed. -/
def Fragment.WellTyped (f : Fragment) : Prop :=
  f.Each fun entry => Key.types entry = true

/-- The error is that a lookup cannot compare with its operand, or with none at all. -/
inductive EvalError.IsMistyped : EvalError → Prop
  | operand (key : String) (v : Value) : IsMistyped (.invalidOperand key v)
  | lookup (l : Lookup) : IsMistyped (.unsupportedLookup l)

/-! ### Well-typed entries -/

namespace Evaluation

variable (metric : Metric) (proximity : Proximity) (d : Document)

/-- A lookup that can compare with the operand is decided on every attribute. -/
theorem decided_lookup {l : Option Lookup} {operand : Value} (h : Lookup.takes l operand = true)
    (key : String) (path : Path) (actual : Option Value) :
    IsDecided (lookup metric proximity key path actual l operand) := by
  cases l with
  | none => exact ⟨_, rfl⟩
  | some l =>
    cases l with
    | present | oneOf | noneOf | allOf => cases operand <;> first | exact ⟨_, rfl⟩ | cases h
    | withinDistance | withinSphericalDistance | withinBox | withinPolygon | geoWithin
    | geoWithinBox | geoWithinPolygon | geoWithinCenter | geoWithinSphere | geoIntersects => cases h
    | _ => exact ⟨_, rfl⟩

/-- A lookup that cannot compare with the operand is refused, unless it asks about distances. -/
theorem mistyped_lookup {l : Lookup} {operand : Value}
    (h : Lookup.takes (some l) operand = false) (hslot : l.slot? = none) (key : String)
    (path : Path) (actual : Option Value) :
    ∃ e, lookup metric proximity key path actual (some l) operand = .error e ∧ e.IsMistyped := by
  cases l with
  | present | oneOf | noneOf | allOf =>
    cases operand <;> first | exact ⟨_, rfl, .operand _ _⟩ | cases h
  | near | nearSphere | maxDistance | minDistance => cases hslot
  | withinDistance | withinSphericalDistance | withinBox | withinPolygon | geoWithin
    | geoWithinBox | geoWithinPolygon | geoWithinCenter | geoWithinSphere | geoIntersects =>
    exact ⟨_, rfl, .lookup _⟩
  | _ => cases h

/-- An entry that is not well-typed is refused on every document, unless it asks about distances. -/
theorem mistyped_entry {pair : String × Value} (h : Key.types pair = false)
    (hslot : Key.slot? pair.1 = none) :
    ∃ e, entry metric proximity d pair.1 pair.2 = .error e ∧ e.IsMistyped := by
  rw [Key.types] at h
  rw [entry]
  split at h
  · next hraw =>
    rw [if_pos hraw]
    cases hoperand : pair.2 with
    | map entries => rw [hoperand] at h; cases h
    | _ => exact ⟨_, rfl, .operand _ _⟩
  · next hraw =>
    rw [if_neg hraw]
    rw [Key.slot?] at hslot
    cases hlookup : (Key.split pair.1).2 with
    | none => rw [hlookup] at h; cases h
    | some l =>
      rw [hlookup] at h hslot
      obtain ⟨e, he, hmistyped⟩ := mistyped_lookup metric proximity h hslot pair.1
        (Key.split pair.1).1 (d.get? (Key.split pair.1).1)
      rw [← hlookup] at he
      exact ⟨e, he, hmistyped⟩

/-- A well-typed entry is decided on every document. -/
theorem decided_entry {pair : String × Value} (h : Key.types pair = true) :
    IsDecided (entry metric proximity d pair.1 pair.2) := by
  rw [Key.types] at h
  rw [entry]
  split at h
  · next hraw =>
    rw [if_pos hraw]
    cases hoperand : pair.2 with
    | map entries => exact ⟨_, rfl⟩
    | _ => rw [hoperand] at h; cases h
  · next hraw =>
    rw [if_neg hraw]
    exact decided_lookup metric proximity h pair.1 _ _

/-- A well-typed fragment is decided on every document. -/
theorem decided_of_wellTyped {f : Fragment} (h : f.WellTyped) :
    IsDecided (fragment metric proximity d f) :=
  decided_fragment metric proximity d fun params hparams entry hentry =>
    decided_entry metric proximity d (h params hparams entry hentry)

end Evaluation

/-- The operand of a well-typed entry can be read as what the key asks about distances. -/
theorem Proximity.exists_demand {entry : String × Value} (h : Key.types entry = true) :
    ∃ demand, demand? entry.1 entry.2 = .ok demand := by
  rw [Key.types] at h
  split at h
  · next hraw =>
    rw [demand?, hraw, Key.slot?_raw]
    exact ⟨none, rfl⟩
  · rw [demand?, Key.slot?]
    cases hlookup : (Key.split entry.1).2 with
    | none => exact ⟨none, rfl⟩
    | some l =>
      rw [hlookup] at h
      cases l with
      | near | nearSphere =>
        obtain ⟨place, hplace⟩ := Option.isSome_iff_exists.1 h
        exact ⟨some (.origin place), by simp [Lookup.slot?, hplace]⟩
      | maxDistance =>
        obtain ⟨bound, hbound⟩ := Option.isSome_iff_exists.1 h
        exact ⟨some (.max bound), by simp [Lookup.slot?, hbound]⟩
      | minDistance =>
        obtain ⟨bound, hbound⟩ := Option.isSome_iff_exists.1 h
        exact ⟨some (.min bound), by simp [Lookup.slot?, hbound]⟩
      | _ => exact ⟨none, rfl⟩

/-- An entry that asks about distances but is not well-typed is refused when it is read. -/
theorem Proximity.mistyped_demand {entry : String × Value} (h : Key.types entry = false)
    (hslot : Key.slot? entry.1 ≠ none) :
    ∃ e, demand? entry.1 entry.2 = .error e ∧ e.IsMistyped := by
  have hraw : entry.1 ≠ Key.raw := fun hraw => hslot (hraw ▸ Key.slot?_raw)
  rw [Key.types, if_neg hraw] at h
  refine ⟨.invalidOperand entry.1 entry.2, ?_, .operand _ _⟩
  rw [Key.slot?] at hslot
  rw [demand?, Key.slot?]
  cases hlookup : (Key.split entry.1).2 with
  | none => rw [hlookup] at hslot; exact absurd rfl hslot
  | some l =>
    rw [hlookup] at h hslot
    cases l with
    | near | nearSphere | maxDistance | minDistance =>
      have hnone := Option.not_isSome_iff_eq_none.1 (Bool.not_eq_true _ ▸ h)
      simp [Lookup.slot?, hnone]
    | _ => exact absurd rfl hslot

/-! ### Well-typed querysets -/

/-- What fragments ask is what the mappings in them ask. -/
theorem Fragment.mem_asked_iff {list : List Fragment} {entry : String × Value} :
    entry ∈ asked list ↔ ∃ f ∈ list, ∃ params ∈ f.leaves, entry ∈ params.entries := by
  simp only [asked, List.mem_flatMap]
  constructor
  · rintro ⟨params, ⟨f, hf, hparams⟩, hentry⟩
    exact ⟨f, hf, params, hparams, hentry⟩
  · rintro ⟨f, hf, params, hparams, hentry⟩
    exact ⟨params, ⟨f, hf, hparams⟩, hentry⟩

/-- The operands of well-typed fragments can be read. -/
theorem Proximity.readable_of_wellTyped {list : List Fragment} (h : ∀ f ∈ list, f.WellTyped) :
    Readable (Fragment.asked list) := by
  intro entry hentry
  obtain ⟨f, hf, params, hparams, hmem⟩ := Fragment.mem_asked_iff.1 hentry
  exact exists_demand (h f hf params hparams entry hmem)

namespace Queryset

variable {sorting : Sorting} (metric : Metric)

/-- On every document it can be decided whether it satisfies well-typed fragments. -/
theorem decided_of_wellTyped {list : List Fragment} (h : ∀ f ∈ list, f.WellTyped)
    (proximity : Proximity) (d : Document) : Evaluation.Decided metric proximity list d := by
  rw [Evaluation.Decided, Evaluation.fragments_eq_conjunction]
  exact Evaluation.decided_conjunction fun f hf =>
    Evaluation.decided_of_wellTyped metric proximity d (h f hf)

/-- Where well-typed fragments are collected, they are evaluated. -/
theorem exists_evaluate_iff_of_wellTyped {q : Queryset} (h : ∀ f ∈ q.fragments, f.WellTyped) :
    (∃ found, q.evaluate sorting metric = .ok found) ↔
      ∃ p, Proximity.collect q.fragments = .ok p := by
  constructor
  · rintro ⟨found, hfound⟩
    obtain ⟨p, hp, -⟩ := (evaluate_eq_ok_iff metric).1 hfound
    exact ⟨p, hp⟩
  · rintro ⟨p, hp⟩
    exact ⟨_, (evaluate_eq_ok_iff metric).2
      ⟨p, hp, fun d _ => decided_of_wellTyped metric h p d, rfl⟩⟩

/-- A queryset of well-typed fragments fails for nothing but a path without a place. -/
theorem missingNear_of_wellTyped {q : Queryset} (h : ∀ f ∈ q.fragments, f.WellTyped)
    {e : EvalError} (he : q.evaluate sorting metric = .error e) :
    ∃ path lookup, e = .missingNear path lookup := by
  rcases (evaluate_eq_error_iff metric).1 he with hcollect | ⟨p, -, hfirst⟩
  · exact Proximity.missingNear_of_collect (Proximity.readable_of_wellTyped h) hcollect
  · exact absurd hfirst (FirstError.not_of_forall_ok fun d _ =>
      decided_of_wellTyped metric h p d)

/-- A queryset narrowed by a single entry that is not well-typed cannot be evaluated. -/
theorem exists_mistyped {q : Queryset} {params : Params} {entry : String × Value}
    (hfragments : q.fragments = [.params params]) (hentries : params.entries = [entry])
    (h : Key.types entry = false) (hdocuments : q.documents ≠ []) :
    ∃ e, q.evaluate sorting metric = .error e ∧ e.IsMistyped := by
  have hasked : Fragment.asked q.fragments = [entry] := by
    rw [hfragments, ← hentries]
    exact List.append_nil _
  by_cases hslot : Key.slot? entry.1 = none
  · have hcollect : Proximity.collect q.fragments = .ok .empty := by
      refine Proximity.collect_eq_ok_iff.2 ⟨?_, rfl⟩
      rw [hasked, Proximity.recordAll, Proximity.record_eq, Proximity.demand?, hslot]
      rfl
    obtain ⟨d, documents, hcons⟩ := List.exists_cons_of_ne_nil hdocuments
    obtain ⟨e, he, hmistyped⟩ := Evaluation.mistyped_entry metric .empty d h hslot
    refine ⟨e, (evaluate_eq_error_iff metric).2 (.inr ⟨.empty, hcollect, ?_⟩), hmistyped⟩
    rw [hcons]
    refine .here ?_
    rw [hfragments, Evaluation.fragments, Evaluation.fragment, hentries, Evaluation.entries, he]
  · obtain ⟨e, he, hmistyped⟩ := Proximity.mistyped_demand h hslot
    refine ⟨e, (evaluate_eq_error_iff metric).2 (.inl ?_), hmistyped⟩
    have hrecord : Proximity.empty.recordAll (Fragment.asked q.fragments) = .error e := by
      rw [hasked, Proximity.recordAll, Proximity.record_eq, he]
      rfl
    rw [Fragment.asked] at hrecord
    rw [Proximity.collect, hrecord]

/-- A queryset of well-typed fragments fails just when a distance is asked about on some path and a
place on none of the same target. -/
theorem exists_error_iff_of_wellTyped {q : Queryset} (h : ∀ f ∈ q.fragments, f.WellTyped) :
    (∃ e, q.evaluate sorting metric = .error e) ↔
      ∃ entry ∈ Fragment.asked q.fragments, Key.slot? entry.1 ≠ none ∧
        ∀ other ∈ Fragment.asked q.fragments, Key.slot? other.1 = some .origin →
          (Key.split other.1).1.toTarget ≠ (Key.split entry.1).1.toTarget := by
  have hfails : (∃ e, q.evaluate sorting metric = .error e) ↔
      ¬∃ found, q.evaluate sorting metric = .ok found := by
    cases q.evaluate sorting metric <;> simp
  rw [hfails, exists_evaluate_iff_of_wellTyped metric h,
    Proximity.exists_collect_iff (Proximity.readable_of_wellTyped h)]
  push Not
  rfl

end Queryset

end QueryFilters
