import QueryFilters.Filter.Builder

/-!
# What building a filter checks

A builder gives a filter only after its choices are checked. `FilterBuilder.build_eq_ok` lists what
the filter then is. `FilterBuilder.accepts_of_build` is the first of the checks: the kind of a
filter takes its lookup. Bounds that are chosen for a range are checked as well, so a range is
bounded by its lookups if it was to begin with or if bounds were chosen
(`FilterBuilder.bounded_settledKind_iff`).
-/

namespace QueryFilters

/-- The lookups of a range are one of two from below and one of two from above. -/
theorem FilterBuilder.isRangeBounds_iff {lower upper : Lookup} :
    isRangeBounds lower upper = true ↔
      (lower = .gt ∨ lower = .gte) ∧ (upper = .lt ∨ upper = .lte) := by
  simp [isRangeBounds]

/-- The lookups of a range bound it from below and from above. -/
def FilterKind.IsBounded : FilterKind → Prop
  | range lower upper _ => FilterBuilder.isRangeBounds lower upper = true
  | _ => True

namespace FilterKind

/-- The bounds of a kind are lookups from below and from above, if it has any. -/
theorem isBounded_iff {kind : FilterKind} : kind.IsBounded ↔
    ∀ lower upper collapse, kind = .range lower upper collapse →
      (lower = .gt ∨ lower = .gte) ∧ (upper = .lt ∨ upper = .lte) := by
  cases kind with
  | range lower upper collapse =>
    rw [IsBounded, FilterBuilder.isRangeBounds_iff]
    constructor
    · rintro h _ _ _ ⟨⟩
      exact h
    · intro h
      exact h lower upper collapse rfl
  | _ => simp [IsBounded]

end FilterKind

namespace FilterBuilder

/-- The kind of a range is settled with its own bounds or with those chosen for it, which are
checked. Any other kind is settled as it is. -/
theorem settledKind_cases {b : FilterBuilder} {kind : FilterKind} (h : b.settledKind = .ok kind) :
    ((∀ lower upper collapse, b.kind ≠ .range lower upper collapse) ∧ b.bounds = none ∧
      kind = b.kind) ∨
    ∃ lower upper collapse, b.kind = .range lower upper collapse ∧
      ((b.bounds = none ∧ kind = .range lower upper b.collapse) ∨
        ∃ low high, b.bounds = some (low, high) ∧ isRangeBounds low high = true ∧
          kind = .range low high b.collapse) := by
  unfold settledKind at h
  split at h
  · next lower upper collapse hkind =>
    refine .inr ⟨lower, upper, collapse, hkind, ?_⟩
    split at h
    · next hnone => exact .inl ⟨hnone, (Except.ok.inj h).symm⟩
    · next low high hsome =>
      split at h
      · next hbounds => exact .inr ⟨low, high, hsome, hbounds, (Except.ok.inj h).symm⟩
      · cases h
  · next hrange =>
    split at h
    · cases h
    · next hnone =>
      split at h
      · cases h
      · exact .inl ⟨hrange, by simpa using hnone, (Except.ok.inj h).symm⟩

/-- Settling a kind changes nothing about the lookups it takes. -/
theorem accepts_settledKind {b : FilterBuilder} {kind : FilterKind} (h : b.settledKind = .ok kind)
    (lookup : Option Lookup) : kind.accepts lookup = b.kind.accepts lookup := by
  rcases settledKind_cases h with ⟨-, -, rfl⟩ |
    ⟨lower, upper, collapse, hkind, ⟨-, rfl⟩ | ⟨low, high, -, -, rfl⟩⟩
  · rfl
  all_goals
    rw [hkind]
    cases lookup <;> rfl

/-- Settling the kind of a range puts bounds that were chosen, and checked, in the place of its
own. -/
theorem bounded_settledKind_iff {b : FilterBuilder} {kind : FilterKind}
    (h : b.settledKind = .ok kind) :
    kind.IsBounded ↔ b.kind.IsBounded ∨ b.bounds.isSome = true := by
  rcases settledKind_cases h with ⟨hrange, -, rfl⟩ |
    ⟨lower, upper, collapse, hkind, ⟨hnone, rfl⟩ | ⟨low, high, hsome, hbounds, rfl⟩⟩
  · have hbounded : b.kind.IsBounded :=
      FilterKind.isBounded_iff.2 fun lower upper collapse hkind =>
        absurd hkind (hrange lower upper collapse)
    exact iff_of_true hbounded (.inl hbounded)
  · rw [hkind, hnone]
    exact (or_iff_left Bool.false_ne_true).symm
  · rw [hsome]
    exact iff_of_true hbounds (.inr rfl)

/-- Counting on from the next number is counting on by one more. -/
theorem add_one_add_ofNat (serial : UInt64) (n : Nat) :
    serial + 1 + .ofNat n = serial + .ofNat (n + 1) := by
  rw [Nat.add_comm, UInt64.ofNat_add, UInt64.add_assoc]
  rfl

/-- A built filter has the choices of its builder, a kind that was settled and that takes the
lookup, and the codec chosen or else that of the kind. -/
theorem build_eq_ok {b : FilterBuilder} {serial : UInt64} {f : Filter}
    (h : b.build serial = .ok f) :
    b.kind.accepts b.lookup = true ∧ b.settledKind = .ok f.kind ∧ f.lookup = b.lookup ∧
      f.key = b.key ∧ f.source = b.source ∧
      f.codec = b.codec.getD (f.kind.codec (b.child.getD (.string true))) ∧ f.serial = serial := by
  unfold build at h
  split at h
  · cases h
  · next haccepts =>
    split at h
    · cases h
    · split at h
      · cases h
      · next kind hkind =>
        obtain rfl := Except.ok.inj h
        exact ⟨by simpa using haccepts, hkind, rfl, rfl, rfl, rfl, rfl⟩

/-- The kind of a built filter takes its lookup. -/
theorem accepts_of_build {b : FilterBuilder} {serial : UInt64} {f : Filter}
    (h : b.build serial = .ok f) : f.kind.accepts f.lookup = true := by
  obtain ⟨haccepts, hkind, hlookup, -⟩ := build_eq_ok h
  rw [accepts_settledKind hkind, hlookup]
  exact haccepts

end FilterBuilder

end QueryFilters
