import QueryFilters.Proofs.Key
import QueryFilters.Proofs.Roster
import QueryFilters.Proximity

/-!
# Collecting what is asked about distances

The table of places and bounds is filled entry by entry. Every place in it comes from an entry that
asks for it (`Proximity.Grounded`), and asking for it once more changes nothing
(`Proximity.record_of_locates`).
-/

namespace QueryFilters

/-- Everything that fragments ask, in the order they are written. -/
def Fragment.asked (fragments : List Fragment) : List (String × Value) :=
  (fragments.flatMap leaves).flatMap Dict.entries

namespace Fragment

/-- What later fragments ask comes after what the earlier ones do. -/
theorem asked_append (first second : List Fragment) :
    asked (first ++ second) = asked first ++ asked second := by
  rw [asked, asked, asked, List.flatMap_append, List.flatMap_append]

end Fragment

namespace Key

/-- Every key has a path. -/
theorem split_path_ne_nil (key : String) : (split key).1 ≠ [] := by
  have hsegments : Path.ofTarget key ≠ [] := by
    unfold Path.ofTarget
    simpa using Text.splitOnPair_ne_nil '_' key.toList
  rw [split]
  split
  · exact List.cons_ne_nil _ _
  · exact hsegments

end Key

namespace Proximity

/-! ### One entry -/

/-- The entry asks for a place on the path with the given target. -/
def Locates (key : String) (operand : Value) (target : String) (origin : Point) : Prop :=
  (Key.split key).1.toTarget = target ∧
    ((Key.split key).2 = some .near ∨ (Key.split key).2 = some .nearSphere) ∧
    operand.asPoint? = some origin

/-- The place from which distances on a path are measured. -/
def origin? (p : Proximity) (target : String) : Option Point :=
  (p.get? target).bind Near.origin

/-- A path that is asked for its distance from a place has that place. -/
theorem origin?_eq_some_iff {p : Proximity} {target : String} {origin : Point} :
    p.origin? target = some origin ↔
      ∃ near, p.get? target = some near ∧ near.origin = some origin :=
  Option.bind_eq_some_iff

/-- What is asked on the paths after a change. -/
theorem get?_update (p : Proximity) (target : String) (change : Near → Near) (t : String) :
    (p.update target change).get? t =
      if target = t then some (change ((p.get? target).getD {})) else p.get? t :=
  Entries.get?_put target _ p.paths t

/-- A change of the bounds leaves the places as they are. -/
theorem origin?_update_of_keeps {change : Near → Near}
    (h : ∀ near, (change near).origin = near.origin) (p : Proximity) (target t : String) :
    (p.update target change).origin? t = p.origin? t := by
  rw [origin?, origin?, get?_update]
  by_cases ht : target = t
  · subst ht
    rw [if_pos rfl, Option.bind_some, h]
    cases p.get? target with
    | none => rfl
    | some near => rfl
  · rw [if_neg ht]

/-- A place that is recorded is the one of its path. -/
theorem origin?_update_origin (p : Proximity) (target : String) (origin : Point) (t : String) :
    (p.update target fun near => { near with origin := some origin }).origin? t =
      if target = t then some origin else p.origin? t := by
  rw [origin?, get?_update]
  by_cases ht : target = t
  · rw [if_pos ht, if_pos ht, Option.bind_some]
  · rw [if_neg ht, if_neg ht, origin?]

/-- A place that is there after an entry was recorded is located by the entry or was there before.
-/
theorem locates_or_of_record {p p' : Proximity} {key : String} {operand : Value}
    (h : p.record key operand = .ok p') {t : String} {o : Point} (ho : p'.origin? t = some o) :
    Locates key operand t o ∨ p.origin? t = some o := by
  unfold record at h
  rcases hsplit : Key.split key with ⟨path, lookup⟩
  rw [hsplit] at h
  have hlocated : ∀ origin, (lookup = some .near ∨ lookup = some .nearSphere) →
      operand.asPoint? = some origin →
      p' = (p.update path.toTarget fun near => { near with origin := some origin }) →
      Locates key operand t o ∨ p.origin? t = some o := by
    rintro origin hlookup hpoint rfl
    rw [origin?_update_origin] at ho
    by_cases ht : path.toTarget = t
    · rw [if_pos ht] at ho
      rw [Option.some.inj ho] at hpoint
      exact .inl ⟨by rw [hsplit, ht], by rw [hsplit]; exact hlookup, hpoint⟩
    · rw [if_neg ht] at ho
      exact .inr ho
  have hkept : ∀ change : Near → Near, (∀ near, (change near).origin = near.origin) →
      p' = p.update path.toTarget change → Locates key operand t o ∨ p.origin? t = some o := by
    rintro change hkeeps rfl
    rw [origin?_update_of_keeps hkeeps] at ho
    exact .inr ho
  dsimp only at h
  split at h
  · split at h
    · next origin hpoint => exact hlocated origin (.inl rfl) hpoint (Except.ok.inj h).symm
    · cases h
  · split at h
    · next origin hpoint => exact hlocated origin (.inr rfl) hpoint (Except.ok.inj h).symm
    · cases h
  · split at h
    · next max _ =>
      exact hkept (fun near => { near with max := some max }) (fun _ => rfl)
        (Except.ok.inj h).symm
    · cases h
  · split at h
    · next min _ =>
      exact hkept (fun near => { near with min := some min }) (fun _ => rfl)
        (Except.ok.inj h).symm
    · cases h
  · rw [← Except.ok.inj h] at ho
    exact .inr ho

/-- Asking again for the place that a path already has changes nothing. -/
theorem record_of_locates {p : Proximity} {key : String} {operand : Value} {target : String}
    {origin : Point} (hlocates : Locates key operand target origin)
    (h : p.origin? target = some origin) : p.record key operand = .ok p := by
  obtain ⟨rfl, hlookup, hpoint⟩ := hlocates
  obtain ⟨near, hget, horigin⟩ := origin?_eq_some_iff.1 h
  have hsame : ({ near with origin := some origin } : Near) = near := by rw [← horigin]
  have hupdate : (p.update (Key.split key).1.toTarget fun near =>
      { near with origin := some origin }) = p := by
    rw [update, hget, Option.getD_some, hsame, Entries.put_of_get? hget]
  unfold record
  rcases hsplit : Key.split key with ⟨path, lookup⟩
  rw [hsplit] at hlookup hupdate
  dsimp only at hlookup hupdate
  rcases hlookup with rfl | rfl
  · dsimp only
    rw [hpoint]
    exact congrArg Except.ok hupdate
  · dsimp only
    rw [hpoint]
    exact congrArg Except.ok hupdate

/-! ### All entries -/

/-- Entries are recorded one after the other. -/
theorem recordAll_append (p : Proximity) (first second : List (String × Value)) :
    p.recordAll (first ++ second) = (p.recordAll first).bind fun p => p.recordAll second := by
  induction first generalizing p with
  | nil => rfl
  | cons pair first ih =>
    rw [List.cons_append, recordAll, recordAll]
    cases p.record pair.1 pair.2 with
    | error e => rfl
    | ok p' => exact ih p'

/-- Every place in the table is located by one of the entries. -/
def Grounded (p : Proximity) (entries : List (String × Value)) : Prop :=
  ∀ target origin, p.origin? target = some origin →
    ∃ pair ∈ entries, Locates pair.1 pair.2 target origin

/-- Recording an entry locates no place but its own. -/
theorem Grounded.record {p p' : Proximity} {entries : List (String × Value)} {key : String}
    {operand : Value} (hp : p.Grounded entries) (h : p.record key operand = .ok p') :
    p'.Grounded (entries ++ [(key, operand)]) := by
  intro target origin horigin
  rcases locates_or_of_record h horigin with hlocates | hbefore
  · exact ⟨(key, operand), by simp, hlocates⟩
  · obtain ⟨pair, hpair, hlocates⟩ := hp target origin hbefore
    exact ⟨pair, List.mem_append_left _ hpair, hlocates⟩

/-- Recording entries locates no places but theirs. -/
theorem Grounded.recordAll {p p' : Proximity} {before entries : List (String × Value)}
    (hp : p.Grounded before) (h : p.recordAll entries = .ok p') :
    p'.Grounded (before ++ entries) := by
  induction entries generalizing p before with
  | nil =>
    rw [← Except.ok.inj h, List.append_nil]
    exact hp
  | cons pair entries ih =>
    rw [Proximity.recordAll] at h
    split at h
    · next p₁ hrecord =>
      have hgrounded := ih (hp.record hrecord) h
      rw [List.append_assoc] at hgrounded
      exact hgrounded
    · cases h

/-- Fragments are collected where what they ask can be recorded and every path has a place. -/
theorem collect_eq_ok_iff {fragments : List Fragment} {p : Proximity} :
    collect fragments = .ok p ↔
      empty.recordAll (Fragment.asked fragments) = .ok p ∧ p.unanchored? = none := by
  rw [collect, Fragment.asked]
  cases empty.recordAll ((fragments.flatMap Fragment.leaves).flatMap Dict.entries) with
  | error e => simp
  | ok p' =>
    dsimp only
    constructor
    · intro h
      split at h
      · cases h
      · next hanchored => exact ⟨h, Except.ok.inj h ▸ hanchored⟩
    · rintro ⟨h, hanchored⟩
      rw [Except.ok.inj h, hanchored]

/-- Every place in a collected table is located by an entry of the fragments. -/
theorem grounded_of_collect {fragments : List Fragment} {p : Proximity}
    (h : collect fragments = .ok p) : p.Grounded (Fragment.asked fragments) := by
  have hempty : empty.Grounded [] := by
    intro target origin horigin
    cases horigin
  exact hempty.recordAll (collect_eq_ok_iff.1 h).1

/-- In a collected table every path that is asked about has a place. -/
theorem exists_origin_of_collect {fragments : List Fragment} {p : Proximity}
    (h : collect fragments = .ok p) {target : String} {near : Near}
    (hget : p.get? target = some near) : ∃ origin, p.origin? target = some origin := by
  have hanchored := (collect_eq_ok_iff.1 h).2
  rw [unanchored?, List.findSome?_eq_none_iff] at hanchored
  have hnear := hanchored (target, near) (Entries.mem_of_get? hget)
  cases horigin : near.origin with
  | none => simp [horigin] at hnear
  | some origin => exact ⟨origin, origin?_eq_some_iff.2 ⟨near, hget, horigin⟩⟩

end Proximity

end QueryFilters
