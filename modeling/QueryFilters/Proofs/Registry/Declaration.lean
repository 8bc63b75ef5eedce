import Mathlib.Data.List.Nodup
import QueryFilters.Proofs.Filter.Building
import QueryFilters.Proofs.Registry.Inheritance

/-!
# Declarations in any listing

Filters are numbered as they are built, and what fails to build takes no number
(`FilterBuilder.serials_built`), so the numbers tell which of two filters was built first until they
run out, after 2 ^ 64 filters. A registry orders what it declares by these numbers. It is therefore
the same however the declarations are listed, as long as no filter is declared twice: its own names
follow one another as the first filter of each was built, and each leads to the filter that was
built last for it (`Registry.inherit_perm`). Declarations of one filter stay in the order of the
listing.
-/

namespace QueryFilters

namespace FilterBuilder

/-- The filters that come of building one after the other, in that order. -/
def built (serial : UInt64) (builders : List FilterBuilder) : List Filter :=
  (buildAll serial builders).filterMap Except.toOption

/-- A filter is numbered as it is built, and what fails to build takes no number. After the last
number comes the first. -/
theorem serials_built (serial : UInt64) (builders : List FilterBuilder) :
    (built serial builders).map (·.serial) =
      (List.range (built serial builders).length).map fun i => serial + .ofNat i := by
  induction builders generalizing serial with
  | nil => rfl
  | cons b builders ih =>
    cases hbuild : b.build serial with
    | error e =>
      have hbuilt : built serial (b :: builders) = built serial builders := by
        rw [built, buildAll, hbuild]
        rfl
      rw [hbuilt, ih]
    | ok f =>
      obtain ⟨-, -, -, -, -, -, hserial⟩ := build_eq_ok hbuild
      have hbuilt : built serial (b :: builders) = f :: built (serial + 1) builders := by
        rw [built, buildAll, hbuild]
        rfl
      rw [hbuilt, List.map_cons, ih, hserial, List.length_cons, List.range_succ_eq_map,
        List.map_cons, List.map_map]
      exact List.cons_eq_cons.2 ⟨(UInt64.add_zero serial).symm,
        List.map_congr_left fun i _ => add_one_add_ofNat serial i⟩

/-- Until the numbers run out, they ascend in the order of building. -/
theorem pairwise_built {serial : UInt64} {builders : List FilterBuilder}
    (hfits : serial.toNat + (built serial builders).length ≤ UInt64.size) :
    (built serial builders).Pairwise fun f g => f.serial < g.serial := by
  have hnumber : ∀ i < (built serial builders).length,
      (serial + .ofNat i).toNat = serial.toNat + i := by
    intro i hi
    have hlt : serial.toNat + i < UInt64.size :=
      Nat.lt_of_lt_of_le (Nat.add_lt_add_left hi _) hfits
    rw [UInt64.toNat_add, UInt64.toNat_ofNat_of_lt' (Nat.lt_of_le_of_lt (Nat.le_add_left i _) hlt)]
    exact Nat.mod_eq_of_lt hlt
  refine List.pairwise_map.1 ?_
  rw [serials_built, List.pairwise_map]
  refine List.pairwise_lt_range.imp_of_mem fun hi hj hlt => ?_
  rw [UInt64.lt_iff_toNat_lt, hnumber _ (List.mem_range.1 hi), hnumber _ (List.mem_range.1 hj)]
  exact Nat.add_lt_add_left hlt _

end FilterBuilder

namespace Registry

/-! ### Which filter was built first -/

/-- Of the filters that were built in this order, one comes before another. -/
def BuiltBefore (made : List Filter) (f g : Filter) : Prop :=
  [f, g].Sublist made

section Numbers

variable {made : List Filter} (hmade : made.Pairwise fun f g => f.serial < g.serial)

include hmade

/-- Filters are built in the order of their numbers. -/
theorem builtBefore_iff {f g : Filter} (hf : f ∈ made) (hg : g ∈ made) :
    BuiltBefore made f g ↔ f.serial < g.serial := by
  constructor
  · exact fun h => List.pairwise_iff_forall_sublist.1 hmade h
  · intro hlt
    induction made with
    | nil => cases hf
    | cons h made ih =>
      obtain ⟨hfirst, hrest⟩ := List.pairwise_cons.1 hmade
      rcases List.mem_cons.1 hf with rfl | hf'
      · rcases List.mem_cons.1 hg with rfl | hg'
        · exact absurd hlt (UInt64.lt_irrefl _)
        · exact (List.singleton_sublist.2 hg').cons_cons f
      · rcases List.mem_cons.1 hg with rfl | hg'
        · exact absurd (hfirst f hf') (UInt64.lt_asymm hlt)
        · exact (ih hrest hf' hg').cons h

/-- Filters with one number are one filter. -/
theorem serial_eq_iff {f g : Filter} (hf : f ∈ made) (hg : g ∈ made) :
    f.serial = g.serial ↔ f = g := by
  have hnodup : (made.map (·.serial)).Nodup := List.pairwise_map.2 (hmade.imp UInt64.ne_of_lt)
  exact ⟨fun h => List.inj_on_of_nodup_map hnodup hf hg h, fun h => h ▸ rfl⟩

/-- A filter has no greater number than another if it is the other or was built before it. -/
theorem serial_le_iff {f g : Filter} (hf : f ∈ made) (hg : g ∈ made) :
    f.serial ≤ g.serial ↔ g = f ∨ BuiltBefore made f g := by
  rw [builtBefore_iff hmade hf hg, eq_comm, ← serial_eq_iff hmade hf hg, or_comm,
    UInt64.le_iff_lt_or_eq]

end Numbers

/-! ### Declarations in ascending order -/

section Ascending

variable {declared : List (String × Filter)}
  (hascending : declared.Pairwise fun a b => a.2.serial < b.2.serial)

include hascending

/-- The first declaration of a name has the least number. -/
theorem serial_le_of_get? {name : String} {f : Filter} (h : Entries.get? name declared = some f)
    {g : Filter} (hg : (name, g) ∈ declared) : f.serial ≤ g.serial := by
  induction declared with
  | nil => cases hg
  | cons head rest ih =>
    obtain ⟨k, v⟩ := head
    obtain ⟨hfirst, hrest⟩ := List.pairwise_cons.1 hascending
    by_cases hk : k = name
    · rw [Entries.get?, if_pos hk, Option.some.injEq] at h
      rcases List.mem_cons.1 hg with heq | hmem
      · exact UInt64.le_of_eq (congrArg Filter.serial (h.symm.trans (Prod.mk.inj heq).2.symm))
      · exact h ▸ UInt64.le_of_lt (hfirst _ hmem)
    · rw [Entries.get?, if_neg hk] at h
      rcases List.mem_cons.1 hg with heq | hmem
      · exact absurd (Prod.mk.inj heq).1.symm hk
      · exact ih hrest h hmem

/-- The last declaration of a name has the greatest number. -/
theorem serial_le_of_last? {name : String} {f : Filter}
    (h : Entries.last? name declared = some f) {g : Filter} (hg : (name, g) ∈ declared) :
    g.serial ≤ f.serial := by
  induction declared with
  | nil => cases hg
  | cons head rest ih =>
    obtain ⟨k, v⟩ := head
    obtain ⟨hfirst, hrest⟩ := List.pairwise_cons.1 hascending
    rw [Entries.last?, Option.or_eq_some_iff] at h
    rcases h with hlast | ⟨hnone, hhead⟩
    · rcases List.mem_cons.1 hg with heq | hmem
      · rw [(Prod.mk.inj heq).2]
        exact UInt64.le_of_lt (hfirst _ (Entries.mem_of_last? hlast))
      · exact ih hrest hlast hmem
    · rcases List.mem_cons.1 hg with heq | hmem
      · obtain ⟨rfl, rfl⟩ := Prod.mk.inj heq
        rw [if_pos rfl, Option.some.injEq] at hhead
        exact UInt64.le_of_eq (congrArg Filter.serial hhead)
      · exact absurd (List.mem_map_of_mem hmem) (Entries.last?_eq_none_iff.1 hnone)

end Ascending

/-- Names stand in the order of their first declarations: of two names, some filter of the one that
comes first has a lesser number than all filters of the other. -/
theorem pairwise_eraseDups {declared : List (String × Filter)}
    (hascending : declared.Pairwise fun a b => a.2.serial < b.2.serial) :
    (declared.map Prod.fst).eraseDups.Pairwise fun a b =>
      ∃ f, (a, f) ∈ declared ∧ ∀ g, (b, g) ∈ declared → f.serial < g.serial := by
  match declared with
  | [] => exact .nil
  | (k, v) :: rest =>
    obtain ⟨hfirst, hrest⟩ := List.pairwise_cons.1 hascending
    let others := rest.filter (!·.1 == k)
    have hothers : (rest.map Prod.fst).filter (!· == k) = others.map Prod.fst := List.filter_map
    have ih : (others.map Prod.fst).eraseDups.Pairwise fun a b =>
        ∃ f, (a, f) ∈ others ∧ ∀ g, (b, g) ∈ others → f.serial < g.serial :=
      pairwise_eraseDups (hrest.filter _)
    have hmem : ∀ b ∈ (others.map Prod.fst).eraseDups, ∀ g, (b, g) ∈ (k, v) :: rest →
        (b, g) ∈ others := by
      intro b hb g hg
      obtain ⟨entry, hentry, rfl⟩ := List.mem_map.1 (List.mem_eraseDups.1 hb)
      have hne := (List.mem_filter.1 hentry).2
      rcases List.mem_cons.1 hg with heq | hg
      · simp [(Prod.mk.inj heq).1] at hne
      · exact List.mem_filter.2 ⟨hg, hne⟩
    rw [List.map_cons, List.eraseDups_cons, hothers, List.pairwise_cons]
    constructor
    · intro b hb
      refine ⟨v, List.mem_cons_self, fun g hg => hfirst (b, g) ?_⟩
      exact (List.mem_filter.1 (hmem b hb g hg)).1
    · refine ih.imp_of_mem fun _ hb hbefore => ?_
      obtain ⟨f, hf, hless⟩ := hbefore
      refine ⟨f, List.mem_cons_of_mem _ (List.mem_filter.1 hf).1, fun g hg => ?_⟩
      exact hless g (hmem _ hb g hg)
termination_by declared.length
decreasing_by
  have hle := List.length_filter_le (!·.1 == k) rest
  simp only [List.length_cons]
  omega

/-! ### What a registry makes of its declarations -/

/-- The names that registries hold, each where it comes first. -/
def namesOf (parents : List Registry) : List String :=
  (parents.flatMap (·.filters.names)).eraseDups

/-- A name is among those of registries if one of them holds it. -/
theorem mem_namesOf_iff {parents : List Registry} {name : String} :
    name ∈ namesOf parents ↔ ∃ parent ∈ parents, name ∈ parent.filters.names := by
  rw [namesOf, List.mem_eraseDups, List.mem_flatMap]

/-- A registry holds the names of its parents, and then the new ones in the order of
construction. -/
theorem names_inherit (parents : List Registry) (declared : List (String × Filter)) :
    (inherit parents declared).filters.names = namesOf parents ++
      (((byConstruction declared).filter (·.1 ∉ namesOf parents)).map Prod.fst).eraseDups := by
  have hparents : (Entries.putAll (parents.flatMap (·.filters.entries)) []).map Prod.fst =
      namesOf parents := by
    have hnames := Roster.names_ofList (parents.flatMap (·.filters.entries))
    rwa [List.map_flatMap] at hnames
  have hnew : ((byConstruction declared).map Prod.fst).filter (· ∉ namesOf parents) =
      ((byConstruction declared).filter (·.1 ∉ namesOf parents)).map Prod.fst := List.filter_map
  show (Entries.putAll (parents.flatMap (·.filters.entries) ++ byConstruction declared) []).map
    Prod.fst = _
  rw [Entries.putAll_append, Entries.keys_putAll, hparents, hnew]

/-- A registry leads to the last declaration of a name, and else to what its parents lead to. -/
theorem get?_inherit (parents : List Registry) (declared : List (String × Filter)) (name : String) :
    (inherit parents declared).filters.get? name =
      (Entries.last? name (byConstruction declared)).or
        ((inherit parents []).filters.get? name) := by
  have hnone : byConstruction [] = [] := List.mergeSort_nil
  rw [inherit, inherit, Roster.get?_ofList, Roster.get?_ofList, Entries.last?_append, hnone,
    List.append_nil]

/-- Of the filters declared under a name, the one that was built first. -/
structure IsFirst (made : List Filter) (declared : List (String × Filter)) (name : String)
    (f : Filter) : Prop where
  mem : (name, f) ∈ declared
  first : ∀ g, (name, g) ∈ declared → g = f ∨ BuiltBefore made f g

/-- Of the filters declared under a name, the one that was built last. -/
structure IsLast (made : List Filter) (declared : List (String × Filter)) (name : String)
    (f : Filter) : Prop where
  mem : (name, f) ∈ declared
  last : ∀ g, (name, g) ∈ declared → f = g ∨ BuiltBefore made g f

/-- A registry holds the names of its parents and then its own new ones, in the order in which the
first filter of each was built. A name that it declares leads to the filter built last for it, and
any other to what the parents lead to. -/
structure FollowsBuilding (made : List Filter) (parents : List Registry)
    (declared : List (String × Filter)) (r : Registry) : Prop where
  names_eq : ∃ own, r.filters.names = namesOf parents ++ own ∧
    (∀ name, name ∈ own ↔ name ∈ declared.map Prod.fst ∧
      ∀ parent ∈ parents, name ∉ parent.filters.names) ∧
    own.Pairwise fun a b => ∃ f g, IsFirst made declared a f ∧ IsFirst made declared b g ∧
      BuiltBefore made f g
  get?_declared : ∀ name ∈ declared.map Prod.fst,
    ∃ f, IsLast made declared name f ∧ r.filters.get? name = some f
  get?_inherited : ∀ name, name ∉ declared.map Prod.fst →
    r.filters.get? name = (inherit parents []).filters.get? name

/-- Sorting neither drops nor adds declarations. -/
theorem byConstruction_perm (declared : List (String × Filter)) :
    (byConstruction declared).Perm declared :=
  List.mergeSort_perm declared builtNoLater

/-- Declarations of different numbers ascend strictly in the order of construction. -/
theorem pairwise_byConstruction {declared : List (String × Filter)}
    (hdistinct : (declared.map (·.2.serial)).Nodup) :
    (byConstruction declared).Pairwise fun a b => a.2.serial < b.2.serial := by
  have hle := (inConstructionOrder_byConstruction declared).ascending
  have hne : (byConstruction declared).Pairwise fun a b => a.2.serial ≠ b.2.serial :=
    List.pairwise_map.1 (((byConstruction_perm declared).map _).nodup_iff.2 hdistinct)
  exact (hle.and hne).imp fun h => UInt64.lt_of_le_of_ne h.1 h.2

/-- Declarations of different numbers have one order of construction, however they are listed. -/
theorem byConstruction_eq_of_perm {declared listed : List (String × Filter)}
    (hdistinct : (declared.map (·.2.serial)).Nodup) (hperm : declared.Perm listed) :
    byConstruction declared = byConstruction listed := by
  have hlisted : (listed.map (·.2.serial)).Nodup := (hperm.map _).nodup_iff.1 hdistinct
  have hsorted : (byConstruction declared).Perm (byConstruction listed) :=
    (byConstruction_perm declared).trans (hperm.trans (byConstruction_perm listed).symm)
  refine hsorted.eq_of_pairwise (fun a b _ _ hab hba => ?_) (pairwise_byConstruction hdistinct)
    (pairwise_byConstruction hlisted)
  exact absurd hab (UInt64.lt_asymm hba)

section Building

variable {made : List Filter} {declared : List (String × Filter)}
  (hmade : made.Pairwise fun f g => f.serial < g.serial)
  (hdeclared : ∀ entry ∈ declared, entry.2 ∈ made)
  (hdistinct : (declared.map (·.2.serial)).Nodup)

include hmade hdeclared hdistinct

/-- Of the filters declared under a name, one was built first. -/
theorem exists_isFirst {name : String} (h : name ∈ declared.map Prod.fst) :
    ∃ f, IsFirst made declared name f := by
  have hperm := byConstruction_perm declared
  obtain ⟨f, hget⟩ := Entries.exists_get?_of_mem_keys ((hperm.map Prod.fst).mem_iff.2 h)
  have hf := hperm.mem_iff.1 (Entries.mem_of_get? hget)
  refine ⟨f, hf, fun g hg => ?_⟩
  have hle := serial_le_of_get? (pairwise_byConstruction hdistinct) hget (hperm.mem_iff.2 hg)
  exact (serial_le_iff hmade (hdeclared _ hf) (hdeclared _ hg)).1 hle

/-- Of the filters declared under a name, the last in the order of construction was built last. -/
theorem isLast_of_last? {name : String} {f : Filter}
    (h : Entries.last? name (byConstruction declared) = some f) :
    IsLast made declared name f := by
  have hperm := byConstruction_perm declared
  have hf := hperm.mem_iff.1 (Entries.mem_of_last? h)
  refine ⟨hf, fun g hg => ?_⟩
  have hle := serial_le_of_last? (pairwise_byConstruction hdistinct) h (hperm.mem_iff.2 hg)
  exact (serial_le_iff hmade (hdeclared _ hg) (hdeclared _ hf)).1 hle

/-- New names of which some filter of the one was built before all filters of the other are in the
order in which the first filter of each was built. -/
theorem exists_firsts {a b : String} (hb : b ∈ declared.map Prod.fst) {f : Filter}
    (hf : (a, f) ∈ declared) (hless : ∀ g, (b, g) ∈ declared → f.serial < g.serial) :
    ∃ f g, IsFirst made declared a f ∧ IsFirst made declared b g ∧ BuiltBefore made f g := by
  obtain ⟨first, hfirst⟩ := exists_isFirst hmade hdeclared hdistinct (List.mem_map_of_mem hf)
  obtain ⟨g, hg⟩ := exists_isFirst hmade hdeclared hdistinct hb
  refine ⟨first, g, hfirst, hg, ?_⟩
  have hle := (serial_le_iff hmade (hdeclared _ hfirst.mem) (hdeclared _ hf)).2 (hfirst.first f hf)
  rw [builtBefore_iff hmade (hdeclared _ hfirst.mem) (hdeclared _ hg.mem)]
  exact UInt64.lt_of_le_of_lt hle (hless g hg.mem)

/-- A registry of filters built one after the other follows the order of building. -/
theorem followsBuilding_inherit (parents : List Registry) :
    FollowsBuilding made parents declared (inherit parents declared) := by
  have hperm := byConstruction_perm declared
  -- Of the declarations in their order, those of new names make up the names that are added.
  let own := (byConstruction declared).filter (·.1 ∉ namesOf parents)
  have hown : ∀ {name f}, (name, f) ∈ own ↔ (name, f) ∈ declared ∧ name ∉ namesOf parents := by
    intro name f
    rw [List.mem_filter, hperm.mem_iff, decide_eq_true_iff]
  refine ⟨⟨_, names_inherit parents declared, fun name => ?_, ?_⟩, fun name hname => ?_,
    fun name hname => ?_⟩
  · have hinherited : (∀ parent ∈ parents, name ∉ parent.filters.names) ↔
        name ∉ namesOf parents := by
      rw [mem_namesOf_iff, not_exists]
      exact forall_congr' fun parent => not_and.symm
    rw [List.mem_eraseDups, hinherited, List.mem_map, List.mem_map]
    constructor
    · rintro ⟨⟨_, f⟩, hmem, rfl⟩
      exact ⟨⟨_, (hown.1 hmem).1, rfl⟩, (hown.1 hmem).2⟩
    · rintro ⟨⟨⟨_, f⟩, hmem, rfl⟩, hnew⟩
      exact ⟨_, hown.2 ⟨hmem, hnew⟩, rfl⟩
  · have hascending := (pairwise_byConstruction hdistinct).filter (·.1 ∉ namesOf parents)
    refine (pairwise_eraseDups hascending).imp_of_mem fun _ hb hbefore => ?_
    obtain ⟨f, hf, hless⟩ := hbefore
    obtain ⟨⟨b, g⟩, hg, rfl⟩ := List.mem_map.1 (List.mem_eraseDups.1 hb)
    refine exists_firsts hmade hdeclared hdistinct (List.mem_map_of_mem (hown.1 hg).1)
      (hown.1 hf).1 fun g' hg' => ?_
    exact hless g' (hown.2 ⟨hg', (hown.1 hg).2⟩)
  · have hmem := (hperm.map Prod.fst).mem_iff.2 hname
    cases hlast : Entries.last? name (byConstruction declared) with
    | none => exact absurd hmem (Entries.last?_eq_none_iff.1 hlast)
    | some f =>
      refine ⟨f, isLast_of_last? hmade hdeclared hdistinct hlast, ?_⟩
      rw [get?_inherit, hlast, Option.some_or]
  · have hnone : Entries.last? name (byConstruction declared) = none :=
      Entries.last?_eq_none_iff.2 fun hmem => hname ((hperm.map Prod.fst).mem_iff.1 hmem)
    rw [get?_inherit, hnone, Option.none_or]

end Building

/-- Of filters that were built one after the other, while others failed to build, a registry may
declare any in any listing. The numbers of filters must not have run out. If none is declared twice,
the registry is the same however they are listed and follows the order in which they were built.
Otherwise the declarations that are merged stand in the order of building as well, and those of one
filter, which alone share a number, as they are listed. -/
theorem inherit_perm (serial : UInt64) (builders : List FilterBuilder) (parents : List Registry)
    {declared listed : List (String × Filter)}
    (hfits : serial.toNat + (FilterBuilder.built serial builders).length ≤ UInt64.size)
    (hdeclared : ∀ entry ∈ declared, entry.2 ∈ FilterBuilder.built serial builders)
    (hperm : declared.Perm listed) :
    ((declared.map (·.2.serial)).Nodup →
      inherit parents listed = inherit parents declared ∧
        FollowsBuilding (FilterBuilder.built serial builders) parents declared
          (inherit parents declared)) ∧
      (∀ f ∈ FilterBuilder.built serial builders, ∀ g ∈ FilterBuilder.built serial builders,
        (f.serial < g.serial ↔ BuiltBefore (FilterBuilder.built serial builders) f g) ∧
          (f.serial = g.serial ↔ f = g)) ∧
      ∃ sorted, InConstructionOrder listed sorted ∧
        (inherit parents listed).filters.Merges
          (parents.flatMap (·.filters.entries) ++ sorted) := by
  have hmade := FilterBuilder.pairwise_built hfits
  refine ⟨fun hdistinct => ⟨?_, ?_⟩, fun f hf g hg => ⟨?_, ?_⟩, byConstruction listed, ?_, ?_⟩
  · rw [inherit, inherit, byConstruction_eq_of_perm hdistinct hperm]
  · exact followsBuilding_inherit hmade hdeclared hdistinct parents
  · exact (builtBefore_iff hmade hf hg).symm
  · exact serial_eq_iff hmade hf hg
  · exact inConstructionOrder_byConstruction listed
  · exact Roster.merges_iff.2 rfl

/-- Of three builders the second, a membership without a lookup, builds nothing. The other two
filters are declared in the wrong order. -/
theorem inherit_perm_two :
    let builders : List FilterBuilder := [Filter.text, Filter.list, Filter.float]
    ∃ f g, FilterBuilder.built 0 builders = [f, g] ∧
      inherit [] [("a", f), ("b", g)] = inherit [] [("b", g), ("a", f)] ∧
      FollowsBuilding [f, g] [] [("b", g), ("a", f)] (inherit [] [("b", g), ("a", f)]) ∧
      (inherit [] [("b", g), ("a", f)]).filters.names = ["a", "b"] := by
  intro builders
  obtain ⟨f, g, hbuilt, hf, hg⟩ : ∃ f g, FilterBuilder.built 0 builders = [f, g] ∧
      f.serial = 0 ∧ g.serial = 1 := ⟨_, _, rfl, rfl, rfl⟩
  have hdeclared : ∀ entry ∈ [("b", g), ("a", f)], entry.2 ∈ FilterBuilder.built 0 builders := by
    simp [hbuilt]
  have hperm : [("b", g), ("a", f)].Perm [("a", f), ("b", g)] := List.Perm.swap _ _ _
  have hdistinct : ([("b", g), ("a", f)].map (·.2.serial)).Nodup := by simp [hf, hg]
  have hfits : UInt64.toNat 0 + (FilterBuilder.built 0 builders).length ≤ UInt64.size := by
    rw [hbuilt, List.length_cons, List.length_singleton]
    decide
  obtain ⟨hsame, hfollows⟩ := (inherit_perm 0 builders [] hfits hdeclared hperm).1 hdistinct
  have hsorted : byConstruction [("a", f), ("b", g)] = [("a", f), ("b", g)] :=
    List.mergeSort_of_pairwise (by simp [hf, hg])
  have hnames : (inherit [] [("a", f), ("b", g)]).filters.names = ["a", "b"] := by
    rw [inherit, hsorted]
    rfl
  rw [hbuilt] at hfollows
  exact ⟨f, g, hbuilt, hsame, hfollows, hsame ▸ hnames⟩

end Registry

end QueryFilters
