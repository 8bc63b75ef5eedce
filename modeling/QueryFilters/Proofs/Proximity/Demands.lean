import QueryFilters.Proofs.Proximity.Collection

/-!
# Demands on distances

An entry makes at most one demand on its path: a place to measure from, or a greatest or a least
distance. Recording an entry is meeting its demand (`Proximity.record_eq`), so all that recording
does to a table is said once, demand by demand. Entries whose demands can be read fail to be
collected only where a path is left without a place (`Proximity.exists_collect_iff`), and demands
for different things on one path may be met in any order (`Proximity.recordAll_perm`).
-/

namespace QueryFilters

/-- What can be asked about the distance on a path: a place, a greatest and a least distance. -/
inductive Slot
  | origin
  | max
  | min
deriving DecidableEq

/-- What a lookup asks about distances, if it asks anything. -/
def Lookup.slot? : Lookup → Option Slot
  | near | nearSphere => some .origin
  | maxDistance => some .max
  | minDistance => some .min
  | _ => none

namespace Key

/-- What an entry under the key asks about distances, if it asks anything. -/
def slot? (key : String) : Option Slot :=
  (split key).2.bind Lookup.slot?

/-- A raw query asks nothing about distances. -/
theorem slot?_raw : slot? raw = none := by
  decide

/-- Two keys make demands that do not meet: if both ask about distances, they do so on one path, and
not for the same thing. -/
def Apart (key key' : String) : Prop :=
  ∀ slot ∈ slot? key, ∀ slot' ∈ slot? key', (split key).1 = (split key').1 ∧ slot ≠ slot'

instance (key key' : String) : Decidable (Apart key key') :=
  inferInstanceAs (Decidable (∀ slot ∈ slot? key, ∀ slot' ∈ slot? key',
    (split key).1 = (split key').1 ∧ slot ≠ slot'))

/-- Whether demands meet does not depend on the order of the keys. -/
theorem Apart.symm {key key' : String} (h : Apart key key') : Apart key' key := by
  intro slot hslot slot' hslot'
  obtain ⟨hpath, hne⟩ := h slot' hslot' slot hslot
  exact ⟨hpath.symm, hne.symm⟩

end Key

/-- What an entry demands about the distance on its path. -/
inductive Demand
  | origin (place : Point)
  | max (bound : Float)
  | min (bound : Float)

namespace Demand

/-- What the demand is about. -/
def slot : Demand → Slot
  | origin _ => .origin
  | max _ => .max
  | min _ => .min

/-- The demand takes the place of an earlier one about the same. -/
def apply : Demand → Near → Near
  | origin place, near => { near with origin := some place }
  | max bound, near => { near with max := some bound }
  | min bound, near => { near with min := some bound }

/-- Demands about different things do not depend on their order. -/
theorem apply_comm {a b : Demand} (h : a.slot ≠ b.slot) (near : Near) :
    a.apply (b.apply near) = b.apply (a.apply near) := by
  cases a <;> cases b <;> first | rfl | exact absurd rfl h

/-- After a demand there is a place if it gives one or there was one before. -/
theorem isSome_origin_apply (demand : Demand) (near : Near) :
    (demand.apply near).origin.isSome = true ↔
      demand.slot = .origin ∨ near.origin.isSome = true := by
  cases demand <;> simp [apply, slot]

end Demand

namespace Proximity

/-! ### One demand -/

/-- What an entry demands, or why its operand cannot be read. -/
def demand? (key : String) (operand : Value) : Except EvalError (Option Demand) :=
  match Key.slot? key with
  | none => .ok none
  | some .origin =>
    match operand.asPoint? with
    | some place => .ok (some (.origin place))
    | none => .error (.invalidOperand key operand)
  | some .max =>
    match operand.asFloat? with
    | some bound => .ok (some (.max bound))
    | none => .error (.invalidOperand key operand)
  | some .min =>
    match operand.asFloat? with
    | some bound => .ok (some (.min bound))
    | none => .error (.invalidOperand key operand)

/-- The table after a demand on the path with the given target. -/
def meet (p : Proximity) (target : String) : Option Demand → Proximity
  | none => p
  | some demand => p.update target demand.apply

/-- Recording an entry is meeting its demand. -/
theorem record_eq (p : Proximity) (key : String) (operand : Value) :
    p.record key operand = (demand? key operand).map (p.meet (Key.split key).1.toTarget) := by
  unfold record demand? Key.slot?
  rcases Key.split key with ⟨path, lookup⟩
  cases lookup with
  | none => rfl
  | some lookup =>
    cases lookup with
    | near | nearSphere =>
      dsimp only [Option.bind_some, Lookup.slot?]
      cases operand.asPoint? <;> rfl
    | maxDistance | minDistance =>
      dsimp only [Option.bind_some, Lookup.slot?]
      cases operand.asFloat? <;> rfl
    | _ => rfl

/-- A demand is about what the key of its entry asks for. -/
theorem slot_of_demand? {key : String} {operand : Value} {demand : Option Demand}
    (h : demand? key operand = .ok demand) : demand.map Demand.slot = Key.slot? key := by
  unfold demand? at h
  split at h
  · next hslot =>
    rw [← Except.ok.inj h, hslot]
    rfl
  all_goals
    next hslot =>
    split at h
    · rw [← Except.ok.inj h, hslot]
      rfl
    · cases h

/-- What is asked on the paths after a demand. -/
theorem get?_meet_some (p : Proximity) (target : String) (demand : Demand) (t : String) :
    (p.meet target (some demand)).get? t =
      if target = t then some (demand.apply ((p.get? target).getD {})) else p.get? t :=
  get?_update p target demand.apply t

/-- A path is in the table after a demand if it was there or the demand is on it. -/
theorem isSome_get?_meet (p : Proximity) (target : String) (demand : Option Demand) (t : String) :
    ((p.meet target demand).get? t).isSome = true ↔
      (demand ≠ none ∧ target = t) ∨ (p.get? t).isSome = true := by
  cases demand with
  | none => simp [meet]
  | some demand =>
    rw [get?_meet_some]
    by_cases ht : target = t <;> simp [ht]

/-- A path has a place after a demand if it had one or the demand gives it one. -/
theorem isSome_origin?_meet (p : Proximity) (target : String) (demand : Option Demand)
    (t : String) :
    ((p.meet target demand).origin? t).isSome = true ↔
      (demand.map Demand.slot = some .origin ∧ target = t) ∨ (p.origin? t).isSome = true := by
  cases demand with
  | none => simp [meet]
  | some demand =>
    rw [origin?, get?_meet_some]
    by_cases ht : target = t
    · subst ht
      rw [if_pos rfl, Option.bind_some, Demand.isSome_origin_apply]
      cases hget : p.get? target <;> simp [origin?, hget]
    · simp [ht, origin?]

/-- Two changes on one path are one change. -/
theorem update_update (p : Proximity) (target : String) (first second : Near → Near) :
    (p.update target first).update target second = p.update target (second ∘ first) := by
  have hget : (p.update target first).get? target =
      some (first ((p.get? target).getD {})) := by
    rw [get?_update, if_pos rfl]
  have hput : ∀ (near near' : Near) (entries : Entries Near),
      (entries.put target near).put target near' = entries.put target near' := by
    intro near near' entries
    induction entries with
    | nil => simp [Entries.put]
    | cons head rest ih =>
      by_cases hhead : head.1 = target <;> simp [Entries.put, hhead, ih]
  rw [update, hget, Option.getD_some, update, update, hput]
  rfl

/-- Demands about different things on one path may be met in either order. -/
theorem meet_comm (p : Proximity) (target : String) {a b : Demand} (h : a.slot ≠ b.slot) :
    (p.meet target (some a)).meet target (some b) =
      (p.meet target (some b)).meet target (some a) := by
  have happly : b.apply ∘ a.apply = a.apply ∘ b.apply := funext (Demand.apply_comm h.symm)
  rw [meet, meet, meet, meet, update_update, update_update, happly]

/-! ### All demands -/

/-- Every operand can be read. -/
def Readable (entries : List (String × Value)) : Prop :=
  ∀ entry ∈ entries, ∃ demand, demand? entry.1 entry.2 = .ok demand

/-- Entries that can be read are recorded. -/
theorem exists_recordAll {entries : List (String × Value)} (h : Readable entries) (p : Proximity) :
    ∃ p', p.recordAll entries = .ok p' := by
  induction entries generalizing p with
  | nil => exact ⟨p, rfl⟩
  | cons entry entries ih =>
    obtain ⟨⟨demand, hdemand⟩, hrest⟩ := List.forall_mem_cons.1 h
    rw [recordAll, record_eq, hdemand]
    exact ih hrest (p.meet (Key.split entry.1).1.toTarget demand)

/-- A recorded entry was read, and its demand is met. -/
theorem exists_demand_of_recordAll_cons {p p' : Proximity} {entry : String × Value}
    {entries : List (String × Value)} (h : p.recordAll (entry :: entries) = .ok p') :
    ∃ demand, demand? entry.1 entry.2 = .ok demand ∧
      (p.meet (Key.split entry.1).1.toTarget demand).recordAll entries = .ok p' := by
  rw [recordAll, record_eq] at h
  cases hdemand : demand? entry.1 entry.2 with
  | error e =>
    rw [hdemand] at h
    cases h
  | ok demand =>
    rw [hdemand] at h
    exact ⟨demand, rfl, h⟩

/-- The recorded paths are the ones on which something is asked. -/
theorem isSome_get?_recordAll {p p' : Proximity} {entries : List (String × Value)}
    (h : p.recordAll entries = .ok p') (t : String) :
    (p'.get? t).isSome = true ↔
      (∃ entry ∈ entries, Key.slot? entry.1 ≠ none ∧ (Key.split entry.1).1.toTarget = t) ∨
        (p.get? t).isSome = true := by
  induction entries generalizing p with
  | nil =>
    rw [← Except.ok.inj h]
    simp
  | cons entry entries ih =>
    obtain ⟨demand, hdemand, hrest⟩ := exists_demand_of_recordAll_cons h
    have hnone : demand ≠ none ↔ Key.slot? entry.1 ≠ none := by
      rw [← slot_of_demand? hdemand]
      simp
    rw [ih hrest, isSome_get?_meet, hnone, List.exists_mem_cons_iff, or_left_comm, or_assoc]

/-- The paths with a place are the ones on which a place is asked for. -/
theorem isSome_origin?_recordAll {p p' : Proximity} {entries : List (String × Value)}
    (h : p.recordAll entries = .ok p') (t : String) :
    (p'.origin? t).isSome = true ↔
      (∃ entry ∈ entries, Key.slot? entry.1 = some .origin ∧
          (Key.split entry.1).1.toTarget = t) ∨
        (p.origin? t).isSome = true := by
  induction entries generalizing p with
  | nil =>
    rw [← Except.ok.inj h]
    simp
  | cons entry entries ih =>
    obtain ⟨demand, hdemand, hrest⟩ := exists_demand_of_recordAll_cons h
    rw [ih hrest, isSome_origin?_meet, slot_of_demand? hdemand, List.exists_mem_cons_iff,
      or_left_comm, or_assoc]

/-- No path is recorded twice. -/
def Distinct (p : Proximity) : Prop :=
  (p.paths.map Prod.fst).Nodup

/-- Recording keeps the paths apart. -/
theorem Distinct.recordAll {p p' : Proximity} {entries : List (String × Value)} (hp : p.Distinct)
    (h : p.recordAll entries = .ok p') : p'.Distinct := by
  induction entries generalizing p with
  | nil => exact Except.ok.inj h ▸ hp
  | cons entry entries ih =>
    obtain ⟨demand, -, hrest⟩ := exists_demand_of_recordAll_cons h
    refine ih ?_ hrest
    cases demand with
    | none => exact hp
    | some demand => exact Entries.nodup_keys_put hp _ _

/-! ### Collecting -/

/-- Only paths without a place are reported. -/
theorem missingNear_of_unanchored? {p : Proximity} {e : EvalError} (h : p.unanchored? = some e) :
    ∃ path lookup, e = .missingNear path lookup := by
  obtain ⟨⟨target, near⟩, -, hnear⟩ := List.exists_of_findSome?_eq_some h
  dsimp only at hnear
  split at hnear
  · cases hnear
  · exact ⟨_, _, (Option.some.inj hnear).symm⟩

/-- No path is reported where every recorded path has a place. -/
theorem unanchored?_eq_none_iff {p : Proximity} (hp : p.Distinct) :
    p.unanchored? = none ↔
      ∀ t, (p.get? t).isSome = true → (p.origin? t).isSome = true := by
  have hget : ∀ entry ∈ p.paths, p.get? entry.1 = some entry.2 :=
    fun entry hentry => Entries.get?_of_mem hp hentry
  rw [unanchored?, List.findSome?_eq_none_iff]
  constructor
  · intro h t ht
    obtain ⟨near, hnear⟩ := Option.isSome_iff_exists.1 ht
    have hplace := h (t, near) (Entries.mem_of_get? hnear)
    rw [origin?, hnear, Option.bind_some]
    by_contra hnone
    simp [hnone] at hplace
  · intro h entry hentry
    have hplace := h entry.1 (by rw [hget entry hentry]; rfl)
    rw [origin?, hget entry hentry, Option.bind_some] at hplace
    simp [hplace]

/-- Where every operand can be read, collecting fails for nothing but a path without a place. -/
theorem missingNear_of_collect {list : List Fragment} (h : Readable (Fragment.asked list))
    {e : EvalError} (he : collect list = .error e) :
    ∃ path lookup, e = .missingNear path lookup := by
  obtain ⟨p, hp⟩ := exists_recordAll h empty
  rw [Fragment.asked] at hp
  rw [collect, hp] at he
  dsimp only at he
  split at he
  · next hunanchored => exact Except.error.inj he ▸ missingNear_of_unanchored? hunanchored
  · cases he

/-- Where every operand can be read, fragments are collected just when a place is asked for on every
path on which anything is asked. -/
theorem exists_collect_iff {list : List Fragment} (h : Readable (Fragment.asked list)) :
    (∃ p, collect list = .ok p) ↔
      ∀ entry ∈ Fragment.asked list, Key.slot? entry.1 ≠ none →
        ∃ other ∈ Fragment.asked list, Key.slot? other.1 = some .origin ∧
          (Key.split other.1).1.toTarget = (Key.split entry.1).1.toTarget := by
  obtain ⟨p, hp⟩ := exists_recordAll h empty
  have hdistinct : p.Distinct := Distinct.recordAll (p := empty) List.nodup_nil hp
  have hempty : ∀ t, ¬(empty.get? t).isSome = true ∧ ¬(empty.origin? t).isSome = true :=
    fun t => ⟨Bool.noConfusion, Bool.noConfusion⟩
  have hcollect : (∃ p, collect list = .ok p) ↔ p.unanchored? = none := by
    constructor
    · rintro ⟨p', hp'⟩
      obtain ⟨hrecord, hanchored⟩ := collect_eq_ok_iff.1 hp'
      rw [hp] at hrecord
      exact Except.ok.inj hrecord ▸ hanchored
    · exact fun hanchored => ⟨p, collect_eq_ok_iff.2 ⟨hp, hanchored⟩⟩
  rw [hcollect, unanchored?_eq_none_iff hdistinct]
  constructor
  · intro hplaces entry hentry hslot
    have hget := (isSome_get?_recordAll hp (Key.split entry.1).1.toTarget).2
      (.inl ⟨entry, hentry, hslot, rfl⟩)
    rcases (isSome_origin?_recordAll hp _).1 (hplaces _ hget) with hother | hbefore
    · exact hother
    · exact absurd hbefore (hempty _).2
  · intro hplaces t ht
    rcases (isSome_get?_recordAll hp t).1 ht with ⟨entry, hentry, hslot, rfl⟩ | hbefore
    · exact (isSome_origin?_recordAll hp _).2 (.inl (hplaces entry hentry hslot))
    · exact absurd hbefore (hempty t).1

/-! ### The order of demands -/

/-- Recording entries one after the other, without regard to why it fails. -/
theorem toOption_recordAll_cons (p : Proximity) (entry : String × Value)
    (entries : List (String × Value)) :
    (p.recordAll (entry :: entries)).toOption =
      (demand? entry.1 entry.2).toOption.bind fun demand =>
        ((p.meet (Key.split entry.1).1.toTarget demand).recordAll entries).toOption := by
  rw [recordAll, record_eq]
  cases demand? entry.1 entry.2 <;> rfl

/-- Entries whose demands do not meet give the same table in any order. -/
theorem recordAll_perm {entries entries' : List (String × Value)} (hperm : entries.Perm entries')
    (h : entries.Pairwise fun a b => Key.Apart a.1 b.1) (p : Proximity) :
    (p.recordAll entries).toOption = (p.recordAll entries').toOption := by
  induction hperm generalizing p with
  | nil => rfl
  | cons entry _ ih =>
    rw [toOption_recordAll_cons, toOption_recordAll_cons]
    congr
    funext demand
    exact ih (List.Pairwise.of_cons h) _
  | swap a b entries =>
    have hapart : Key.Apart b.1 a.1 := (List.pairwise_cons.1 h).1 a List.mem_cons_self
    simp only [toOption_recordAll_cons]
    cases ha : demand? a.1 a.2 with
    | error e => cases hb : demand? b.1 b.2 <;> rfl
    | ok demand =>
      cases hb : demand? b.1 b.2 with
      | error e => rfl
      | ok demand' =>
        have hslot := slot_of_demand? ha
        have hslot' := slot_of_demand? hb
        cases demand with
        | none => rfl
        | some demand =>
          cases demand' with
          | none => rfl
          | some demand' =>
            obtain ⟨hpath, hne⟩ := hapart _ hslot'.symm _ hslot.symm
            simp only [Except.toOption, Option.bind_some, hpath]
            rw [meet_comm p _ hne]
  | trans hfirst _ ih ih' =>
    have hsymm : ∀ {a b : String × Value}, Key.Apart a.1 b.1 → Key.Apart b.1 a.1 :=
      fun hab => hab.symm
    rw [ih h, ih' ((hfirst.pairwise_iff hsymm).1 h)]

end Proximity

end QueryFilters
