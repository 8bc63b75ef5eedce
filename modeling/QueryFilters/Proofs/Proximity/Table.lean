import QueryFilters.Evaluation
import QueryFilters.Proofs.Key.Reading
import QueryFilters.Proofs.Proximity.Demands

/-!
# The table of places and bounds

The table is filled under the targets of the paths, entry by entry, before it is known which paths
have a place, and it is read when the entries are evaluated, under targets computed anew. Both are
the same because a key's path is read back from its target (`Key.ofTarget_toTarget_split`). While
the table is filled, what it holds on a path is what the entries so far ask there, the last of each
kind (`Proximity.Follows.record`), so a collected table holds just that of all entries, and just on
the paths on which a place is asked for (`Proximity.records_of_collect`).
-/

namespace QueryFilters

/-! ### Paths of keys and their targets -/

namespace Key

/-- The path of a key is read back from its target. -/
theorem ofTarget_toTarget_split (key : String) :
    Path.ofTarget (split key).1.toTarget = (split key).1 := by
  have hsplit : split key = ((split key).1, (split key).2) := rfl
  obtain ⟨hne, hsegments, -⟩ := split_eq_iff.1 hsplit
  refine Path.ofTarget_toTarget hne (fun name hname => ?_) fun name hname => ?_
  · have hpair : ∀ name ∈ (split key).1.withSuffix (split key).2, ¬['_', '_'] <:+: name.toList :=
      fun name hname => Path.not_pair_infix_of_mem_ofTarget (hsegments ▸ hname)
    exact (Path.forall_mem_withSuffix_iff _ _).1 hpair name hname
  · have hmem : name ∈ (Path.ofTarget key).dropLast := by
      rw [hsegments, Path.dropLast_withSuffix]
      cases (split key).2 with
      | none => exact hname
      | some l => exact List.mem_of_mem_dropLast hname
    exact Path.not_underscore_suffix_of_mem_dropLast_ofTarget hmem

/-- The path of a key has a target exactly if the target reads as it. -/
theorem toTarget_split_eq_iff {key target : String} :
    (split key).1.toTarget = target ↔ (split key).1 = Path.ofTarget target := by
  constructor
  · rintro rfl
    exact (ofTarget_toTarget_split key).symm
  · intro h
    rw [h, Path.toTarget_ofTarget]

/-- An entry under the key asks for the given thing about the distance on the given path. -/
def Asks (slot : Slot) (path : Path) (key : String) : Prop :=
  slot? key = some slot ∧ (split key).1 = path

instance (slot : Slot) (path : Path) (key : String) : Decidable (Asks slot path key) :=
  inferInstanceAs (Decidable (_ ∧ _))

end Key

namespace Proximity

/-! ### What entries ask -/

/-- The operand of the last entry that asks for a thing on a path. -/
def lastAsked? (entries : List (String × Value)) (slot : Slot) (path : Path) : Option Value :=
  (entries.filter fun entry => Key.Asks slot path entry.1).getLast?.map Prod.snd

/-- What entries ask about the distance on a path: the last place, the last greatest and the last
least distance. -/
def nearAsked (entries : List (String × Value)) (path : Path) : Near where
  origin := (lastAsked? entries .origin path).bind Value.asPoint?
  max := (lastAsked? entries .max path).bind Value.asFloat?
  min := (lastAsked? entries .min path).bind Value.asFloat?

/-- One more entry takes the place of all others that ask for the same. -/
theorem lastAsked?_concat (entries : List (String × Value)) (key : String) (operand : Value)
    (slot : Slot) (path : Path) :
    lastAsked? (entries ++ [(key, operand)]) slot path =
      if Key.Asks slot path key then some operand else lastAsked? entries slot path := by
  rw [lastAsked?, List.filter_append]
  by_cases h : Key.Asks slot path key
  · simp [h]
  · simp [h, lastAsked?]

/-- What a demand says is read off the operand. -/
theorem operand_of_demand? {key : String} {operand : Value} {demand : Demand}
    (h : demand? key operand = .ok (some demand)) :
    match demand with
    | .origin place => operand.asPoint? = some place
    | .max bound => operand.asFloat? = some bound
    | .min bound => operand.asFloat? = some bound := by
  unfold demand? at h
  split at h
  · cases h
  all_goals
    split at h
    · next hread =>
      obtain rfl := Option.some.inj (Except.ok.inj h)
      exact hread
    · cases h

/-- What is asked on a path after one more entry: its demand is met if it is on the path. -/
theorem nearAsked_concat {key : String} {operand : Value} {demand : Option Demand}
    (h : demand? key operand = .ok demand) (entries : List (String × Value)) (path : Path) :
    nearAsked (entries ++ [(key, operand)]) path =
      if (Key.split key).1 = path then
        demand.elim (nearAsked entries path) fun demand => demand.apply (nearAsked entries path)
      else nearAsked entries path := by
  have hslot := slot_of_demand? h
  simp only [nearAsked, lastAsked?_concat, Key.Asks, ← hslot]
  by_cases hpath : (Key.split key).1 = path
  · simp only [hpath, and_true, if_true]
    cases demand with
    | none => simp
    | some demand =>
      have hoperand := operand_of_demand? h
      cases demand <;>
        · dsimp only at hoperand
          simp [Demand.slot, Demand.apply, hoperand]
  · simp only [hpath, and_false, if_false]

/-! ### Filling the table -/

/-- The table holds on every path what the entries ask there. -/
def Follows (p : Proximity) (entries : List (String × Value)) : Prop :=
  ∀ target, (p.get? target).getD {} = nearAsked entries (Path.ofTarget target)

/-- Recording an entry, the table goes on holding what the entries ask. -/
theorem Follows.record {p p' : Proximity} {entries : List (String × Value)} {key : String}
    {operand : Value} (hp : p.Follows entries) (h : p.record key operand = .ok p') :
    p'.Follows (entries ++ [(key, operand)]) := by
  rw [record_eq] at h
  cases hdemand : demand? key operand with
  | error e =>
    rw [hdemand] at h
    cases h
  | ok demand =>
    rw [hdemand] at h
    obtain rfl := Except.ok.inj h
    intro target
    rw [nearAsked_concat hdemand, ← hp target]
    simp only [← Key.toTarget_split_eq_iff]
    cases demand with
    | none => simp [meet]
    | some demand =>
      rw [get?_meet_some]
      split
      · next htarget => rw [htarget]; rfl
      · rfl

/-- Recording entries, the table goes on holding what they ask. -/
theorem Follows.recordAll {p p' : Proximity} {before entries : List (String × Value)}
    (hp : p.Follows before) (h : p.recordAll entries = .ok p') :
    p'.Follows (before ++ entries) := by
  induction entries generalizing p before with
  | nil =>
    rw [← Except.ok.inj h, List.append_nil]
    exact hp
  | cons entry entries ih =>
    rw [Proximity.recordAll] at h
    split at h
    · next p₁ hrecord =>
      have hfollows := ih (hp.record hrecord) h
      rwa [List.append_assoc] at hfollows
    · cases h

/-- A table filled from nothing holds what the entries ask. -/
theorem follows_of_recordAll_empty {p : Proximity} {entries : List (String × Value)}
    (h : empty.recordAll entries = .ok p) : p.Follows entries := by
  have hempty : empty.Follows [] := fun target => rfl
  exact hempty.recordAll h

/-! ### When fragments are collected -/

/-- Entries can be collected: the operand of every place is a place, that of every bound is a
number, and on the path of every bound a place is asked for. -/
structure Collectable (entries : List (String × Value)) : Prop where
  place : ∀ entry ∈ entries, Key.slot? entry.1 = some .origin →
    ∃ place, entry.2.asPoint? = some place
  number : ∀ entry ∈ entries, Key.slot? entry.1 = some .max ∨ Key.slot? entry.1 = some .min →
    entry.2.type.isNumeric = true
  anchored : ∀ entry ∈ entries, Key.slot? entry.1 = some .max ∨ Key.slot? entry.1 = some .min →
    ∃ other ∈ entries, Key.Asks .origin (Key.split entry.1).1 other.1

/-- Numbers, and nothing else, can be read as doubles. -/
theorem isNumeric_iff_exists_asFloat? (value : Value) :
    value.type.isNumeric = true ↔ ∃ x, value.asFloat? = some x := by
  cases value with
  | int n => exact iff_of_true rfl ⟨_, rfl⟩
  | float x => exact iff_of_true rfl ⟨x, rfl⟩
  | _ => exact iff_of_false nofun nofun

/-- An operand can be read if it is a place or a number, as the key asks. -/
theorem exists_demand_iff (key : String) (operand : Value) :
    (∃ demand, demand? key operand = .ok demand) ↔
      (Key.slot? key = some .origin → ∃ place, operand.asPoint? = some place) ∧
        (Key.slot? key = some .max ∨ Key.slot? key = some .min →
          operand.type.isNumeric = true) := by
  rw [isNumeric_iff_exists_asFloat?, demand?]
  rcases hslot : Key.slot? key with _ | _ | _ | _
  · simp
  · cases operand.asPoint? <;> simp
  · cases operand.asFloat? <;> simp
  · cases operand.asFloat? <;> simp

/-- Only entries that can be read are recorded. -/
theorem readable_of_recordAll {p p' : Proximity} {entries : List (String × Value)}
    (h : p.recordAll entries = .ok p') : Readable entries := by
  induction entries generalizing p with
  | nil => exact List.forall_mem_nil _
  | cons entry entries ih =>
    obtain ⟨demand, hdemand, hrest⟩ := exists_demand_of_recordAll_cons h
    exact List.forall_mem_cons.2 ⟨⟨demand, hdemand⟩, ih hrest⟩

/-- A key asks for something if it asks for a place or for a bound. -/
theorem slot?_ne_none_iff (key : String) :
    Key.slot? key ≠ none ↔ Key.slot? key = some .origin ∨
      Key.slot? key = some .max ∨ Key.slot? key = some .min := by
  rcases Key.slot? key with _ | _ | _ | _ <;> simp

/-- Fragments are collected exactly if what they ask can be collected. -/
theorem exists_collect_iff_collectable (list : List Fragment) :
    (∃ p, collect list = .ok p) ↔ Collectable (Fragment.asked list) := by
  constructor
  · rintro ⟨p, hp⟩
    have hreadable := readable_of_recordAll (collect_eq_ok_iff.1 hp).1
    have hread : ∀ entry ∈ Fragment.asked list, _ := fun entry hentry =>
      (exists_demand_iff entry.1 entry.2).1 (hreadable entry hentry)
    refine ⟨fun entry hentry => (hread entry hentry).1,
      fun entry hentry => (hread entry hentry).2, fun entry hentry hbound => ?_⟩
    have hslot : Key.slot? entry.1 ≠ none := (slot?_ne_none_iff _).2 (.inr hbound)
    obtain ⟨other, hother, hplace, htarget⟩ :=
      (exists_collect_iff hreadable).1 ⟨p, hp⟩ entry hentry hslot
    refine ⟨other, hother, hplace, ?_⟩
    rw [Key.toTarget_split_eq_iff.1 htarget, Key.ofTarget_toTarget_split]
  · intro h
    have hreadable : Readable (Fragment.asked list) := fun entry hentry =>
      (exists_demand_iff entry.1 entry.2).2 ⟨h.place entry hentry, h.number entry hentry⟩
    refine (exists_collect_iff hreadable).2 fun entry hentry hslot => ?_
    rcases (slot?_ne_none_iff entry.1).1 hslot with hplace | hbound
    · exact ⟨entry, hentry, hplace, rfl⟩
    · obtain ⟨other, hother, hplace, hpath⟩ := h.anchored entry hentry hbound
      exact ⟨other, hother, hplace, by rw [hpath]⟩

/-! ### What a collected table holds -/

/-- The paths in the table. -/
def recorded (p : Proximity) : List Path :=
  p.paths.map fun pair => Path.ofTarget pair.1

/-- The table holds what the entries ask: each path on which a place is asked for once and no other
path, and on it the last place and the last bounds. -/
structure Records (p : Proximity) (entries : List (String × Value)) : Prop where
  nodup : p.recorded.Nodup
  mem_recorded_iff : ∀ path,
    path ∈ p.recorded ↔ ∃ entry ∈ entries, Key.Asks .origin path entry.1
  get?_eq : ∀ path ∈ p.recorded, p.get? path.toTarget = some (nearAsked entries path)
  placed : ∀ path ∈ p.recorded, ∃ origin, (nearAsked entries path).origin = some origin

/-- A path is in the table if the table leads its target somewhere. -/
theorem mem_recorded_iff_exists_get? {p : Proximity} (hp : p.Distinct) {path : Path} :
    path ∈ p.recorded ↔ ∃ target near, Path.ofTarget target = path ∧ p.get? target = some near := by
  rw [recorded, List.mem_map]
  constructor
  · rintro ⟨⟨target, near⟩, hmem, hpath⟩
    exact ⟨target, near, hpath, Entries.get?_of_mem hp hmem⟩
  · rintro ⟨target, near, hpath, hget⟩
    exact ⟨(target, near), Entries.mem_of_get? hget, hpath⟩

/-- A collected table holds what the fragments ask. -/
theorem records_of_collect {list : List Fragment} {p : Proximity} (h : collect list = .ok p) :
    p.Records (Fragment.asked list) := by
  have hrecord := (collect_eq_ok_iff.1 h).1
  have hdistinct : p.Distinct := Distinct.recordAll (p := empty) List.nodup_nil hrecord
  have hheld : ∀ target near, p.get? target = some near →
      near = nearAsked (Fragment.asked list) (Path.ofTarget target) := by
    intro target near hget
    have hfollows := follows_of_recordAll_empty hrecord target
    rwa [hget] at hfollows
  refine ⟨?_, fun path => ?_, fun path hpath => ?_, fun path hpath => ?_⟩
  · have hinjective : Function.Injective Path.ofTarget :=
      Function.LeftInverse.injective Path.toTarget_ofTarget
    have hmap : p.recorded = (p.paths.map Prod.fst).map Path.ofTarget := by
      rw [List.map_map]
      rfl
    rw [hmap]
    exact List.Pairwise.map _ (fun _ _ hne heq => hne (hinjective heq)) hdistinct
  · rw [mem_recorded_iff_exists_get? hdistinct]
    constructor
    · rintro ⟨target, near, rfl, hget⟩
      have hplace : (p.origin? target).isSome = true :=
        Option.isSome_iff_exists.2 (exists_origin_of_collect h hget)
      rcases (isSome_origin?_recordAll hrecord target).1 hplace with
        ⟨entry, hentry, hslot, htarget⟩ | hbefore
      · exact ⟨entry, hentry, hslot, Key.toTarget_split_eq_iff.1 htarget⟩
      · cases hbefore
    · rintro ⟨entry, hentry, hslot, rfl⟩
      have hasked : Key.slot? entry.1 ≠ none := by simp [hslot]
      obtain ⟨near, hget⟩ := Option.isSome_iff_exists.1
        ((isSome_get?_recordAll hrecord (Key.split entry.1).1.toTarget).2
          (.inl ⟨entry, hentry, hasked, rfl⟩))
      exact ⟨_, near, Key.ofTarget_toTarget_split entry.1, hget⟩
  · obtain ⟨target, near, rfl, hget⟩ := (mem_recorded_iff_exists_get? hdistinct).1 hpath
    rw [Path.toTarget_ofTarget, hget, hheld target near hget]
  · obtain ⟨target, near, rfl, hget⟩ := (mem_recorded_iff_exists_get? hdistinct).1 hpath
    obtain ⟨origin, horigin⟩ := exists_origin_of_collect h hget
    obtain ⟨near', hget', hplace⟩ := origin?_eq_some_iff.1 horigin
    obtain rfl : near = near' := Option.some.inj (hget.symm.trans hget')
    exact ⟨origin, hheld target near hget ▸ hplace⟩

/-! ### Reading the table -/

end Proximity

/-- An attribute is a place, and its distance from the place that is asked for is at most the
greatest one and at least the least one, where these are asked for. -/
def Near.Admits (metric : Metric) (near : Near) (actual : Option Value) : Prop :=
  ∃ value place origin, actual = some value ∧ value.asPoint? = some place ∧
    near.origin = some origin ∧
    (∀ max, near.max = some max → Binary64.atMost (metric origin place) max = true) ∧
    ∀ min, near.min = some min → Binary64.atMost min (metric origin place) = true

namespace Proximity

/-- A path that is in the table is read as the table has it. -/
theorem within_eq_true_iff {metric : Metric} {p : Proximity} {target : String} {near : Near}
    (h : p.get? target = some near) (actual : Option Value) :
    p.within metric target actual = true ↔ near.Admits metric actual := by
  unfold within Near.Admits
  cases actual with
  | none => simp
  | some value =>
    cases hplace : value.asPoint? with
    | none => simp [hplace]
    | some place =>
      cases horigin : near.origin with
      | none => simp [hplace, h, horigin]
      | some origin => simp [hplace, h, horigin, Option.all_eq_true]

/-- Under a key that asks for a place, a document is looked up in the table. -/
theorem entry_of_asks {path : Path} {key : String} (h : Key.Asks .origin path key)
    (metric : Metric) (p : Proximity) (d : Document) (operand : Value) :
    Evaluation.entry metric p d key operand =
      .ok (p.within metric path.toTarget (d.get? path)) := by
  obtain ⟨hslot, rfl⟩ := h
  have hraw : key ≠ Key.raw := by
    rintro rfl
    rw [Key.slot?_raw] at hslot
    cases hslot
  rw [Evaluation.entry, if_neg hraw]
  unfold Key.slot? at hslot
  obtain ⟨l, hl, hlookup⟩ := Option.bind_eq_some_iff.1 hslot
  dsimp only
  rw [hl]
  cases l <;> first | rfl | cases hlookup

/-- Fragments are collected exactly if every place they ask for is a place, every bound is a number,
and on the path of every bound a place is asked for. The table that is collected holds the paths on
which a place is asked for, each once, with the last place and the last bounds. Read in this table,
an entry that asks for a place is decided on every document: it holds where the attribute is a place
within the bounds, wherever in the fragments these are given. -/
theorem collect_records (list : List Fragment) :
    ((∃ p, collect list = .ok p) ↔ Collectable (Fragment.asked list)) ∧
      ∀ p, collect list = .ok p →
        p.Records (Fragment.asked list) ∧
          ∀ (metric : Metric) (d : Document) (path : Path), ∀ entry ∈ Fragment.asked list,
            Key.Asks .origin path entry.1 →
              path ∈ p.recorded ∧
                ∃ holds, Evaluation.entry metric p d entry.1 entry.2 = .ok holds ∧
                  (holds = true ↔
                    (nearAsked (Fragment.asked list) path).Admits metric (d.get? path)) := by
  refine ⟨exists_collect_iff_collectable list, fun p hp => ?_⟩
  have hrecords := records_of_collect hp
  refine ⟨hrecords, fun metric d path entry hentry hasks => ?_⟩
  have hpath : path ∈ p.recorded := (hrecords.mem_recorded_iff path).2 ⟨entry, hentry, hasks⟩
  exact ⟨hpath, _, entry_of_asks hasks metric p d entry.2,
    within_eq_true_iff (hrecords.get?_eq path hpath) _⟩

/-- A bound that precedes the place, inside a disjunction, is replaced by the one that follows it.
-/
theorem collect_records_of_two_bounds :
    let zero : Value := .list [.int 0, .int 0]
    let list : List Fragment :=
      [.condition (.any [.params (.ofList [("place__max_distance", .int 1000)]), .params .empty]),
        .params (.ofList [("place__near_sphere", zero)]),
        .params (.ofList [("place__max_distance", .int 100)])]
    let near : Near := ⟨some ⟨Binary64.ofInt 0, Binary64.ofInt 0⟩, some (Binary64.ofInt 100), none⟩
    ∃ p, Proximity.collect list = .ok p ∧ p.recorded = [["place"]] ∧
      ∀ (metric : Metric) (d : Document), ∃ holds,
        Evaluation.entry metric p d "place__near_sphere" zero = .ok holds ∧
          (holds = true ↔ near.Admits metric (d.get? ["place"])) := by
  intro zero list near
  have hplace : Key.split "place__near_sphere" = (["place"], some .nearSphere) := by
    decide +kernel
  have hbound : Key.split "place__max_distance" = (["place"], some .maxDistance) := by
    decide +kernel
  have hasks : Key.Asks .origin ["place"] "place__near_sphere" := by
    rw [Key.Asks, Key.slot?, hplace]
    exact ⟨rfl, rfl⟩
  have hnear : nearAsked (Fragment.asked list) ["place"] = near := by
    have hlast : ∀ slot, lastAsked? [("place__max_distance", .int 1000),
        ("place__near_sphere", zero), ("place__max_distance", .int 100)] slot ["place"] =
          match slot with
          | .origin => some zero
          | .max => some (.int 100)
          | .min => none := by
      intro slot
      cases slot <;> simp [lastAsked?, Key.Asks, Key.slot?, hplace, hbound, Lookup.slot?]
    have hasked : Fragment.asked list = [("place__max_distance", .int 1000),
        ("place__near_sphere", zero), ("place__max_distance", .int 100)] := rfl
    rw [hasked, nearAsked, hlast .origin, hlast .max, hlast .min]
    rfl
  have hsome : (collect list).toOption.map recorded = some [["place"]] := by decide +kernel
  cases hp : collect list with
  | error e => simp [hp, Except.toOption] at hsome
  | ok p =>
    rw [hp] at hsome
    obtain ⟨-, hread⟩ := (collect_records list).2 p hp
    refine ⟨p, rfl, Option.some.inj hsome, fun metric d => ?_⟩
    obtain ⟨-, hholds⟩ := hread metric d ["place"] ("place__near_sphere", zero)
      (.tail _ (.head _)) hasks
    exact hnear ▸ hholds

end Proximity

end QueryFilters
