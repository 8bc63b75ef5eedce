import QueryFilters.Filter.Bound
import QueryFilters.Proofs.Dict

/-!
# What sources answer

The answers of a query string to every question depend on the texts that each name has, in their
order, and on nothing else. The single text of a key is the last of its texts
(`FormData.one?_eq_getLast?`). A group is collected name after name, in the order in which the names
are first given; under each suffix it holds the last text of the key, a dot and the suffix
(`FormData.get?_group`).

A filter asks a source one question about one key. Sources that agree on it, of whatever kind they
are, give the filter the same value or the same error (`BoundFilter.parse_congr`).
-/

namespace QueryFilters

namespace Text

/-- A text begins with another one exactly if it is that one and what follows it. -/
theorem after?_eq_some_iff {start text rest : List Char} :
    after? start text = some rest ↔ text = start ++ rest := by
  fun_induction after? start text with
  | case1 text => exact ⟨Option.some.inj, congrArg some⟩
  | case2 c start => simp
  | case3 c start text ih => simp [ih]
  | case4 c start d text hne =>
    refine ⟨fun h => (by cases h), fun h => ?_⟩
    exact absurd (List.cons.inj h).1.symm hne

end Text

/-- A name extends a key by a dot and a suffix exactly if it is made of them. -/
theorem groupSuffix?_eq_some_iff {name key suffix : String} :
    groupSuffix? name key = some suffix ↔ name = key ++ "." ++ suffix := by
  have htext : (key ++ "." ++ suffix).toList = key.toList ++ ['.'] ++ suffix.toList := by simp
  rw [groupSuffix?, ← String.toList_inj, htext, ← Text.after?_eq_some_iff]
  constructor
  · intro h
    obtain ⟨rest, hrest, rfl⟩ := Option.map_eq_some_iff.1 h
    rw [String.toList_ofList, hrest]
  · intro h
    rw [h, Option.map_some, String.ofList_toList]

namespace FormData

variable (data : FormData) (key : String)

/-- The single text of a key is the last one that stands under it. -/
theorem one?_eq_last? : data.one? key = Entries.last? key data.entries := by
  rw [Entries.last?_eq_getLast?, List.getLast?_map, List.getLast?_filter]
  rfl

/-- The single text of a key is the last of its texts. -/
theorem one?_eq_getLast? : data.one? key = (data.all key).getLast? := by
  rw [one?_eq_last?, Entries.last?_eq_getLast?]
  rfl

/-- A name that is not given has no text. -/
theorem one?_eq_none_of_not_mem {data : FormData} {key : String}
    (h : key ∉ data.entries.map Prod.fst) : data.one? key = none := by
  rw [one?_eq_last?]
  exact Entries.last?_eq_none_iff.2 h

/-- A name gives a group its last text, if it extends the key by a suffix that the group does not
have yet, and else changes nothing. -/
theorem get?_collect (group : Dict String) (name suffix : String) :
    (data.collect key group name).get? suffix =
      (group.get? suffix).or (if name = key ++ "." ++ suffix then data.one? name else none) := by
  rw [collect]
  cases hsuffix : groupSuffix? name key with
  | none =>
    have hne : name ≠ key ++ "." ++ suffix := by
      intro heq
      rw [groupSuffix?_eq_some_iff.2 heq] at hsuffix
      cases hsuffix
    rw [if_neg hne, Option.or_none]
  | some given =>
    have hname : name = key ++ "." ++ suffix ↔ given = suffix := by
      rw [← groupSuffix?_eq_some_iff, hsuffix, Option.some_inj]
    simp only [hname]
    by_cases hcontains : group.contains given = true
    · obtain ⟨text, htext⟩ := Option.isSome_iff_exists.1 hcontains
      rw [if_pos hcontains]
      by_cases hgiven : given = suffix
      · simp [← hgiven, htext]
      · simp [hgiven]
    · have hnone : group.get? given = none := by simpa [Dict.contains] using hcontains
      rw [if_neg hcontains]
      cases data.one? name with
      | none => simp
      | some text =>
        by_cases hgiven : given = suffix
        · simp [← hgiven, hnone, Dict.get?_insert]
        · simp [hgiven, Dict.get?_insert]

/-- Of the names of a run, the one that extends the key by a suffix gives the group its last text,
unless the group has the suffix already. -/
theorem get?_foldl_collect (names : List String) (group : Dict String) (suffix : String) :
    (names.foldl (data.collect key) group).get? suffix =
      (group.get? suffix).or
        (if key ++ "." ++ suffix ∈ names then data.one? (key ++ "." ++ suffix) else none) := by
  induction names generalizing group with
  | nil => simp
  | cons name names ih =>
    rw [List.foldl_cons, ih, get?_collect, Option.or_assoc]
    congr 1
    by_cases hname : name = key ++ "." ++ suffix
    · -- The name comes again in the rest of the run or not; its last text is the same one.
      rw [if_pos hname, if_pos (List.mem_cons.2 (.inl hname.symm)), hname]
      split
      · exact Option.or_self
      · exact Option.or_none
    · have hmem : key ++ "." ++ suffix ∈ name :: names ↔ key ++ "." ++ suffix ∈ names := by
        rw [List.mem_cons, or_iff_right (Ne.symm hname)]
      rw [if_neg hname, Option.none_or]
      simp only [hmem]

/-- A group holds under each suffix the last text of the key, a dot and the suffix. -/
theorem get?_group (suffix : String) :
    (data.group key).get? suffix = data.one? (key ++ "." ++ suffix) := by
  have hfold : data.group key = (data.entries.map Prod.fst).foldl (data.collect key) .empty :=
    List.foldl_map.symm
  rw [hfold, get?_foldl_collect, Dict.get?_empty, Option.none_or]
  split
  · rfl
  · next hmem => exact (one?_eq_none_of_not_mem hmem).symm

end FormData

/-- Two sources give the same answer to the question that filters whose codecs have the given shape
ask about a key. -/
def QuerySource.AgreeOn (query : QuerySource) (shape : Shape) (key : String)
    (query' : QuerySource) : Prop :=
  match shape with
  | .single => query.one? key = query'.one? key
  | .sequence => query.all key = query'.all key
  | .group => query.group key = query'.group key

namespace BoundFilter

variable {b : BoundFilter} {query query' : QuerySource}

/-- A filter finds the same input in sources that agree on what it asks. -/
theorem extract?_congr (h : query.AgreeOn b.filter.codec.shape b.key query') :
    b.extract? query = b.extract? query' := by
  unfold extract?
  cases hshape : b.filter.codec.shape with
  | single =>
    have hone : query.one? b.key = query'.one? b.key := by rwa [hshape] at h
    rw [hone]
  | sequence =>
    have hall : query.all b.key = query'.all b.key := by rwa [hshape] at h
    rw [hall]
  | group =>
    have hgroup : query.group b.key = query'.group b.key := by rwa [hshape] at h
    rw [hgroup]

/-- A filter gets the same value or the same error from sources that agree on what it asks. -/
theorem parse_congr (h : query.AgreeOn b.filter.codec.shape b.key query') :
    b.parse query = b.parse query' := by
  rw [parse, parse, extract?_congr h]

end BoundFilter

end QueryFilters
