import QueryFilters.Proofs.Evaluation
import QueryFilters.Proximity

/-!
# Tighter tables

A table of places and bounds is tighter than another one if it lets no place through that the other
keeps out (`Proximity.Tightens`). Fragments may combine distances with anything else, and by
disjunctions too, but never negate them. So what holds under the tighter table does not fail under
the other one: it holds, or it cannot be decided.
-/

namespace QueryFilters

/-! ### Tighter tables -/

namespace Binary64

/-- Being at most is transitive. -/
theorem atMost_trans {x y z : Float} (hxy : atMost x y = true) (hyz : atMost y z = true) :
    atMost x z = true := by
  unfold atMost compare? at hxy hyz ⊢
  cases hx : rank? x with
  | none => simp [hx] at hxy
  | some a =>
    cases hy : rank? y with
    | none => simp [hy] at hyz
    | some b =>
      cases hz : rank? z with
      | none => simp [hy, hz] at hyz
      | some c =>
        simp only [hx, hy, hz, Option.any_some, Int.isLE_compare] at hxy hyz ⊢
        omega

end Binary64

namespace Proximity

/-- What the first table asks about distances lets no place through that the second keeps out. -/
def Tightens (metric : Metric) (p' p : Proximity) : Prop :=
  ∀ target actual, p'.within metric target actual = true → p.within metric target actual = true

/-- Only a table with a place for the path keeps out a place. -/
theorem exists_get?_of_not_within {metric : Metric} {p : Proximity} {target : String}
    {actual : Option Value} {point : Point} (hpoint : actual.bind Value.asPoint? = some point)
    (h : p.within metric target actual = false) : ∃ near, p.get? target = some near := by
  rw [within, hpoint] at h
  cases hget : p.get? target with
  | none => simp [hget] at h
  | some near => exact ⟨near, rfl⟩

/-- Only places are within bounds. -/
theorem exists_point_of_within {metric : Metric} {p : Proximity} {target : String}
    {actual : Option Value} (h : p.within metric target actual = true) :
    ∃ value point, actual = some value ∧ value.asPoint? = some point := by
  cases hpoint : actual.bind Value.asPoint? with
  | none => simp [within, hpoint] at h
  | some point =>
    obtain ⟨value, hvalue, hpoint⟩ := Option.bind_eq_some_iff.1 hpoint
    exact ⟨value, point, hvalue, hpoint⟩

/-- A table that measures from the same places, with no greater upper and no smaller lower bounds,
is tighter by whatever metric. -/
theorem tightens_of_bounds (metric : Metric) {p' p : Proximity}
    (h : ∀ target near, p.get? target = some near →
      ∃ near', p'.get? target = some near' ∧ near'.origin = near.origin ∧
        (∀ max, near.max = some max →
          ∃ max', near'.max = some max' ∧ Binary64.atMost max' max = true) ∧
        ∀ min, near.min = some min →
          ∃ min', near'.min = some min' ∧ Binary64.atMost min min' = true) :
    p'.Tightens metric p := by
  intro target actual hwithin
  obtain ⟨value, point, rfl, hpoint⟩ := exists_point_of_within hwithin
  rw [within, Option.bind_some, hpoint] at hwithin ⊢
  dsimp only at hwithin ⊢
  cases hget : p.get? target with
  | none => rfl
  | some near =>
    obtain ⟨near', hget', horigin, hmax, hmin⟩ := h target near hget
    rw [hget'] at hwithin
    dsimp only at hwithin ⊢
    rw [horigin] at hwithin
    cases hplace : near.origin with
    | none => simp [hplace] at hwithin
    | some origin =>
      rw [hplace] at hwithin
      dsimp only at hwithin ⊢
      rw [Bool.and_eq_true] at hwithin ⊢
      constructor
      · cases hbound : near.max with
        | none => rfl
        | some max =>
          obtain ⟨max', hmax', hle⟩ := hmax max hbound
          rw [hmax', Option.all_some] at hwithin
          exact Binary64.atMost_trans hwithin.1 hle
      · cases hbound : near.min with
        | none => rfl
        | some min =>
          obtain ⟨min', hmin', hle⟩ := hmin min hbound
          rw [hmin', Option.all_some] at hwithin
          exact Binary64.atMost_trans hle hwithin.2

end Proximity

/-! ### Evaluation under a tighter table -/

namespace Evaluation

variable {metric : Metric} {p' p : Proximity}

/-- A lookup that holds under the tighter table does not fail under the other one. -/
theorem lookup_ne_false (htight : p'.Tightens metric p) {key : String} {path : Path}
    {actual : Option Value} {l : Option Lookup} {expected : Value}
    (h : lookup metric p' key path actual l expected = .ok true) :
    lookup metric p key path actual l expected ≠ .ok false := by
  have hsame : ∀ outcome, lookup metric p' key path actual l expected = outcome →
      lookup metric p key path actual l expected = outcome →
      lookup metric p key path actual l expected ≠ .ok false := by
    rintro outcome h' rfl
    rw [← h', h]
    simp
  have hnear : p'.within metric path.toTarget actual = true →
      p.within metric path.toTarget actual = true := htight path.toTarget actual
  cases l with
  | none => exact hsame _ rfl rfl
  | some l =>
    cases l with
    | near | nearSphere =>
      rw [lookup, Except.ok.injEq] at h
      rw [lookup, hnear h]
      simp
    | _ => exact hsame _ rfl rfl

/-- An entry that holds under the tighter table does not fail under the other one. -/
theorem entry_ne_false (htight : p'.Tightens metric p) (d : Document) {key : String}
    {expected : Value} (h : entry metric p' d key expected = .ok true) :
    entry metric p d key expected ≠ .ok false := by
  unfold entry at h ⊢
  split
  · next hraw =>
    rw [if_pos hraw] at h
    rw [h]
    simp
  · next hraw =>
    rw [if_neg hraw] at h
    exact lookup_ne_false htight h

/-- Entries that hold under the tighter table do not fail under the other one. -/
theorem entries_ne_false (htight : p'.Tightens metric p) (d : Document)
    {list : List (String × Value)} (h : entries metric p' d list = .ok true) :
    entries metric p d list ≠ .ok false := by
  induction list with
  | nil => simp [entries]
  | cons pair list ih =>
    rw [entries_cons_eq_true] at h
    rw [Ne, entries_cons_eq_false]
    rintro (hfalse | ⟨-, hfalse⟩)
    · exact entry_ne_false htight d h.1 hfalse
    · exact ih h.2 hfalse

mutual

/-- A condition that holds under the tighter table does not fail under the other one. -/
theorem condition_ne_false (htight : p'.Tightens metric p) (d : Document) :
    ∀ c, condition metric p' d c = .ok true → condition metric p d c ≠ .ok false
  | .params _, h => by
    unfold condition at h ⊢
    exact entries_ne_false htight d h
  | .all conditions, h => by
    unfold condition at h ⊢
    exact all_ne_false htight d conditions h
  | .any conditions, h => by
    unfold condition at h ⊢
    exact any_ne_false htight d conditions h

/-- A conjunction that holds under the tighter table does not fail under the other one. -/
theorem all_ne_false (htight : p'.Tightens metric p) (d : Document) :
    ∀ conditions, all metric p' d conditions = .ok true → all metric p d conditions ≠ .ok false
  | [], _ => by simp [all]
  | c :: conditions, h => by
    rw [all_cons_eq_true] at h
    rw [Ne, all_cons_eq_false]
    rintro (hfalse | ⟨-, hfalse⟩)
    · exact condition_ne_false htight d c h.1 hfalse
    · exact all_ne_false htight d conditions h.2 hfalse

/-- A disjunction that holds under the tighter table does not fail under the other one. -/
theorem any_ne_false (htight : p'.Tightens metric p) (d : Document) :
    ∀ conditions, any metric p' d conditions = .ok true → any metric p d conditions ≠ .ok false
  | [], h => by simp [any] at h
  | c :: conditions, h => by
    rw [any_cons_eq_true] at h
    rw [Ne, any_cons_eq_false]
    rintro ⟨hfirst, hrest⟩
    -- The condition that makes the disjunction hold need not be the first that holds under `p`.
    rcases h with h | ⟨-, h⟩
    · exact condition_ne_false htight d c h hfirst
    · exact any_ne_false htight d conditions h hrest

end

/-- A fragment that holds under the tighter table does not fail under the other one. -/
theorem fragment_ne_false (htight : p'.Tightens metric p) (d : Document) {f : Fragment}
    (h : fragment metric p' d f = .ok true) : fragment metric p d f ≠ .ok false := by
  cases f with
  | params params => exact entries_ne_false htight d h
  | condition c => exact condition_ne_false htight d c h

/-- Fragments that hold under the tighter table do not fail under the other one. -/
theorem fragments_ne_false (htight : p'.Tightens metric p) (d : Document) {list : List Fragment}
    (h : fragments metric p' d list = .ok true) : fragments metric p d list ≠ .ok false := by
  induction list with
  | nil => simp [fragments]
  | cons f list ih =>
    rw [fragments_cons_eq_true] at h
    rw [Ne, fragments_cons_eq_false]
    rintro (hfalse | ⟨-, hfalse⟩)
    · exact fragment_ne_false htight d h.1 hfalse
    · exact ih h.2 hfalse

end Evaluation

end QueryFilters
