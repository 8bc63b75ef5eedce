import QueryFilters.Proofs.Query.Source

/-!
# Sources with one text for each name

A dictionary and a table keep one text for each name. Where pairs are put into them one after the
other, a later text replaces an earlier one, so they answer by the last text of a name
(`QuerySource.Collected.keeps`), in whatever order a table lists its names. The query string of the
same pairs does not forget the earlier texts, but it shows them only where every text of a name is
asked for (`FormData.agrees_of_collected`).
-/

namespace QueryFilters

namespace QuerySource

/-- A source into which pairs were put one after the other, a later text of a name replacing an
earlier one: a dictionary, or a table that lists its names in any order. -/
inductive Collected (pairs : List (String × String)) : QuerySource → Prop
  | dict : Collected pairs (ofDict (Dict.ofList pairs))
  | table {table : Roster String} (h : table.entries.Perm (Roster.ofList pairs).entries) :
      Collected pairs (ofRoster table)

/-- The source answers every question by the last text that each name has among the pairs. -/
structure Keeps (source : QuerySource) (pairs : List (String × String)) : Prop where
  one?_eq : ∀ key, source.one? key = Entries.last? key pairs
  all_eq : ∀ key, source.all key = (Entries.last? key pairs).toList
  get?_group : ∀ key suffix,
    (source.group key).get? suffix = Entries.last? (key ++ "." ++ suffix) pairs

/-- Of the entries whose names extend a key, the last one with a suffix is the last one under the
key, a dot and the suffix. -/
theorem last?_filterMap_groupSuffix? (key suffix : String) (entries : Entries String) :
    Entries.last? suffix
        (entries.filterMap fun (name, text) => (groupSuffix? name key).map (·, text)) =
      Entries.last? (key ++ "." ++ suffix) entries := by
  induction entries with
  | nil => rfl
  | cons head rest ih =>
    obtain ⟨name, text⟩ := head
    rw [Entries.last?, ← ih, List.filterMap_cons]
    cases hsuffix : groupSuffix? name key with
    | none =>
      have hne : name ≠ key ++ "." ++ suffix := by
        intro heq
        rw [groupSuffix?_eq_some_iff.2 heq] at hsuffix
        cases hsuffix
      simp only [hsuffix, Option.map_none, if_neg hne, Option.or_none]
    | some given =>
      have hname : name = key ++ "." ++ suffix ↔ given = suffix := by
        rw [← groupSuffix?_eq_some_iff, hsuffix, Option.some_inj]
      simp only [hsuffix, Option.map_some, Entries.last?, hname]

/-- A table that was collected from pairs leads each name to its last text. -/
theorem get?_of_perm_ofList {table : Roster String} {pairs : List (String × String)}
    (h : table.entries.Perm (Roster.ofList pairs).entries) (name : String) :
    table.entries.get? name = Entries.last? name pairs := by
  rw [← Roster.get?_ofList]
  refine Option.ext fun text => ?_
  constructor
  · intro htext
    exact Entries.get?_of_mem (Roster.ofList pairs).nodup (h.mem_iff.1 (Entries.mem_of_get? htext))
  · intro htext
    exact Entries.get?_of_mem table.nodup (h.mem_iff.2 (Entries.mem_of_get? htext))

/-- Dictionaries and tables answer by the last text of each name. -/
theorem Collected.keeps {source : QuerySource} {pairs : List (String × String)}
    (h : source.Collected pairs) : source.Keeps pairs := by
  cases h with
  | dict =>
    refine ⟨Dict.get?_ofList pairs, fun key => ?_, fun key suffix => ?_⟩
    · exact congrArg Option.toList (Dict.get?_ofList pairs key)
    · have hnodup := (Dict.ofList pairs).ascending.nodup_keys
      refine (Dict.get?_ofList _ suffix).trans ?_
      rw [last?_filterMap_groupSuffix?, Entries.last?_of_nodup hnodup]
      exact Dict.get?_ofList pairs _
  | @table table hperm =>
    refine ⟨get?_of_perm_ofList hperm, fun key => ?_, fun key suffix => ?_⟩
    · exact congrArg Option.toList (get?_of_perm_ofList hperm key)
    · refine (Dict.get?_ofList _ suffix).trans ?_
      rw [last?_filterMap_groupSuffix?, Entries.last?_of_nodup table.nodup]
      exact get?_of_perm_ofList hperm _

end QuerySource

namespace FormData

variable (data : FormData) (key : String)

/-- A key has as many texts as it is given times. -/
theorem length_all : (data.all key).length = (data.entries.map Prod.fst).count key := by
  rw [all, List.length_map, List.count, List.countP_map, List.countP_eq_length_filter]
  rfl

/-- The texts of a key are its single text exactly if there is no other one. -/
theorem all_eq_toList_one?_iff :
    data.all key = (data.one? key).toList ↔ (data.entries.map Prod.fst).count key ≤ 1 := by
  rw [one?_eq_getLast?, ← length_all]
  constructor
  · intro h
    rw [h]
    exact Option.length_toList_le
  · intro h
    match data.all key, h with
    | [], _ => rfl
    | [text], _ => rfl

/-- A query string and a plain source of the same pairs give the same single text under every key,
the last of its texts, and the same group, which holds under each suffix the single text of the key,
a dot and the suffix. They give the same texts under a key exactly if it is given at most once. So
filters that do not ask for every text of a key get the same value or the same error from both. -/
theorem agrees_of_collected {source : QuerySource} (h : source.Collected data.entries) :
    (∀ key, data.one? key = source.one? key ∧ source.one? key = (data.all key).getLast?) ∧
      (∀ key, data.group key = source.group key) ∧
      (∀ key suffix, (data.group key).get? suffix = data.one? (key ++ "." ++ suffix)) ∧
      (∀ key, data.all key = source.all key ↔ (data.entries.map Prod.fst).count key ≤ 1) ∧
      ∀ b : BoundFilter, b.filter.codec.shape = .single ∨ b.filter.codec.shape = .group →
        b.parse data.source = b.parse source := by
  have hkeeps := h.keeps
  have hone : ∀ key, data.one? key = source.one? key := fun key => by
    rw [one?_eq_last?, hkeeps.one?_eq]
  have hgroup : ∀ key, data.group key = source.group key := fun key =>
    Dict.eq_of_get? fun suffix => by rw [get?_group, one?_eq_last?, hkeeps.get?_group]
  refine ⟨fun key => ⟨hone key, ?_⟩, hgroup, get?_group data, fun key => ?_, fun b hshape => ?_⟩
  · rw [← hone, one?_eq_getLast?]
  · rw [hkeeps.all_eq, ← one?_eq_last?, all_eq_toList_one?_iff]
  · refine BoundFilter.parse_congr ?_
    rcases hshape with hshape | hshape
    · rw [hshape]
      exact hone b.key
    · rw [hshape]
      exact hgroup b.key

/-- A table that lists its names in another order gives a range the bound that is given last, but it
has forgotten the first tag. -/
theorem agrees_of_collected_price :
    let data : FormData :=
      ⟨[("price.min", "1"), ("tag", "a"), ("price.min", "2"), ("price.max.eur", "9"), ("tag", "b")]⟩
    let table : Roster String :=
      ⟨[("price.max.eur", "9"), ("tag", "b"), ("price.min", "2")], by decide⟩
    let price : BoundFilter :=
      Filter.bind ⟨.range .gte .lte false, none, none, none, .range .integer, 0⟩ "price"
    (QuerySource.ofRoster table).Collected data.entries ∧
      data.group "price" = (QuerySource.ofRoster table).group "price" ∧
      (data.group "price").get? "max.eur" = some "9" ∧
      data.all "tag" ≠ (QuerySource.ofRoster table).all "tag" ∧
      price.parse data.source = price.parse (QuerySource.ofRoster table) := by
  intro data table price
  have hreverse : table.entries = (Roster.ofList data.entries).entries.reverse := by decide
  have hcollected : (QuerySource.ofRoster table).Collected data.entries :=
    .table (hreverse ▸ List.reverse_perm _)
  obtain ⟨-, hgroup, hsuffix, hall, hparse⟩ := agrees_of_collected data hcollected
  refine ⟨hcollected, hgroup "price", ?_, fun h => ?_, hparse price (.inr rfl)⟩
  · rw [hsuffix]
    decide
  · have hcount := (hall "tag").1 h
    revert hcount
    decide

end FormData

end QueryFilters
