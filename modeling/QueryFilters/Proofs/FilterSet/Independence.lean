import Mathlib.Logic.Relation
import QueryFilters.FilterSet
import QueryFilters.Proofs.Query.Source

/-!
# What a filter set reads of a query string

A filter reads its key, or, if it takes a group, the names that extend its key by a dot
(`BoundFilter.Reads`). Two query strings are *alike* for a set of names when one becomes the other
by changes that these names do not show: texts of different names change their places among each
other, and entries under other names are added or removed (`FormData.Alike`). That is so exactly if
each of the names has the same texts in both (`FormData.alike_iff`).

A filter set gives the same values, the same error and the same fragments for query strings that are
alike for the names its filters read (`FilterSet.fragments_eq_of_alike`).
-/

namespace QueryFilters

namespace FormData

/-- A change of a query string that does not touch the texts of the names that are read. -/
inductive Change (read : String → Prop) : FormData → FormData → Prop
  /-- Only entries of different names change their places. -/
  | interleave {d d' : FormData} (hall : ∀ name, d.all name = d'.all name) : Change read d d'
  /-- An entry under a name that is not read is added anywhere. -/
  | add {before after : List (String × String)} {name text : String} (hname : ¬read name) :
    Change read ⟨before ++ after⟩ ⟨before ++ (name, text) :: after⟩
  /-- An entry under a name that is not read is removed from anywhere. -/
  | remove {before after : List (String × String)} {name text : String} (hname : ¬read name) :
    Change read ⟨before ++ (name, text) :: after⟩ ⟨before ++ after⟩

/-- Query strings that become each other by changes of entries that are not read. -/
def Alike (read : String → Prop) : FormData → FormData → Prop :=
  Relation.ReflTransGen (Change read)

variable {read : String → Prop} {d d' : FormData}

/-- An entry shows only in the texts of its own name. -/
theorem all_insert_of_ne (before after : List (String × String)) {name key : String}
    (hne : name ≠ key) (text : String) :
    all ⟨before ++ (name, text) :: after⟩ key = all ⟨before ++ after⟩ key := by
  simp [all, List.filter_append, hne]

/-- Texts of two names may change their places. -/
theorem all_swap (before after : List (String × String)) {name name' : String}
    (hne : name ≠ name') (text text' key : String) :
    all ⟨before ++ (name, text) :: (name', text') :: after⟩ key =
      all ⟨before ++ (name', text') :: (name, text) :: after⟩ key := by
  by_cases hkey : name = key
  · have hother : name' ≠ key := fun heq => hne (hkey.trans heq.symm)
    simp [all, List.filter_append, hkey, hother]
  · simp [all, List.filter_append, List.filter_cons, hkey]

/-- A change leaves the texts of the names that are read. -/
theorem Change.all_eq (h : Change read d d') {name : String} (hname : read name) :
    d.all name = d'.all name := by
  cases h with
  | interleave hall => exact hall name
  | @add before after other text hother =>
    have hne : other ≠ name := fun heq => hother (heq ▸ hname)
    exact (all_insert_of_ne before after hne text).symm
  | @remove before after other text hother =>
    have hne : other ≠ name := fun heq => hother (heq ▸ hname)
    exact all_insert_of_ne before after hne text

/-- Changes can be taken back. -/
theorem Change.symm (h : Change read d d') : Change read d' d := by
  cases h with
  | interleave hall => exact .interleave fun name => (hall name).symm
  | add hother => exact .remove hother
  | remove hother => exact .add hother

theorem Alike.symm (h : Alike read d d') : Alike read d' d := by
  induction h with
  | refl => exact .refl
  | tail _ hchange ih => exact .head hchange.symm ih

/-- All entries that are not read may be removed. -/
theorem alike_filter (read : String → Prop) [DecidablePred read]
    (before entries : List (String × String)) :
    Alike read ⟨before ++ entries⟩ ⟨before ++ entries.filter fun entry => read entry.1⟩ := by
  induction entries generalizing before with
  | nil => exact .refl
  | cons entry entries ih =>
    obtain ⟨name, text⟩ := entry
    by_cases hname : read name
    · rw [List.filter_cons_of_pos (by simpa using hname)]
      have hrest := ih (before ++ [(name, text)])
      rwa [List.append_assoc, List.append_assoc] at hrest
    · rw [List.filter_cons_of_neg (by simpa using hname)]
      exact .head (.remove hname) (ih before)

/-- The entries that are read hold the texts of the names that are read, and no others. -/
theorem all_filter (read : String → Prop) [DecidablePred read] (d : FormData) (name : String) :
    all ⟨d.entries.filter fun entry => read entry.1⟩ name =
      if read name then d.all name else [] := by
  rw [all, List.filter_filter]
  split
  · next hname =>
    refine congrArg (List.map Prod.snd) (List.filter_congr fun entry _ => ?_)
    by_cases hentry : entry.1 = name
    · simp [hentry, hname]
    · simp [hentry]
  · next hname =>
    rw [List.map_eq_nil_iff, List.filter_eq_nil_iff]
    rintro entry -
    by_cases hentry : entry.1 = name
    · simp [hentry, hname]
    · simp [hentry]

/-- Query strings are alike exactly if the names that are read have the same texts in both. -/
theorem alike_iff : Alike read d d' ↔ ∀ name, read name → d.all name = d'.all name := by
  constructor
  · intro h name hname
    induction h with
    | refl => rfl
    | tail _ hchange ih => exact ih.trans (hchange.all_eq hname)
  · intro hall
    classical
    have hleft := alike_filter read [] d.entries
    have hright := alike_filter read [] d'.entries
    have hmiddle : Change read ⟨d.entries.filter fun entry => read entry.1⟩
        ⟨d'.entries.filter fun entry => read entry.1⟩ := by
      refine .interleave fun name => ?_
      rw [all_filter, all_filter]
      split
      · next hname => exact hall name hname
      · rfl
    exact (hleft.tail hmiddle).trans hright.symm

end FormData

namespace BoundFilter

/-- Whether a filter reads a name: its key, or for a group the extensions of its key by a dot. -/
def Reads (b : BoundFilter) (name : String) : Prop :=
  match b.filter.codec.shape with
  | .group => ∃ suffix, name = b.key ++ "." ++ suffix
  | _ => name = b.key

/-- A filter finds the same in query strings where the names it reads have the same texts. -/
theorem agreeOn_of_all_eq {b : BoundFilter} {d d' : FormData}
    (h : ∀ name, b.Reads name → d.all name = d'.all name) :
    d.source.AgreeOn b.filter.codec.shape b.key d'.source := by
  unfold Reads at h
  cases hshape : b.filter.codec.shape with
  | single =>
    have hall : d.all b.key = d'.all b.key := h b.key (by rw [hshape])
    show d.one? b.key = d'.one? b.key
    rw [FormData.one?_eq_getLast?, FormData.one?_eq_getLast?, hall]
  | sequence => exact h b.key (by rw [hshape])
  | group =>
    show d.group b.key = d'.group b.key
    refine Dict.eq_of_get? fun suffix => ?_
    have hall : d.all (b.key ++ "." ++ suffix) = d'.all (b.key ++ "." ++ suffix) :=
      h _ (by rw [hshape]; exact ⟨suffix, rfl⟩)
    rw [FormData.get?_group, FormData.get?_group, FormData.one?_eq_getLast?,
      FormData.one?_eq_getLast?, hall]

end BoundFilter

/-- Whether one of the filters of a registry reads a name. -/
def Registry.Reads (r : Registry) (name : String) : Prop :=
  ∃ b ∈ r.bind, b.Reads name

namespace FilterSet

/-- Sources that give each filter the same value or error give the same values or the same error in
a run. -/
theorem parseFrom_congr {query query' : QuerySource} {filters : List BoundFilter}
    (h : ∀ b ∈ filters, b.parse query = b.parse query') (values : QueryValues) :
    parseFrom query values filters = parseFrom query' values filters := by
  induction filters generalizing values with
  | nil => rfl
  | cons b filters ih =>
    have hrest := ih fun c hc => h c (List.mem_cons_of_mem b hc)
    rw [parseFrom, parseFrom, h b List.mem_cons_self]
    split
    · exact hrest _
    · exact hrest values
    · rfl

/-- A filter set gives the same values or the same error, and the same fragments, for query strings
that differ only in entries that no filter reads and in how entries of different names are
interleaved. -/
theorem fragments_eq_of_alike (r : Registry) {d d' : FormData} (h : FormData.Alike r.Reads d d') :
    (FilterSet.mk r d.source).parse = (FilterSet.mk r d'.source).parse ∧
      (FilterSet.mk r d.source).fragments = (FilterSet.mk r d'.source).fragments := by
  have hall := FormData.alike_iff.1 h
  have hfilter : ∀ b ∈ r.bind, b.parse d.source = b.parse d'.source := by
    intro b hb
    refine BoundFilter.parse_congr (BoundFilter.agreeOn_of_all_eq fun name hname => ?_)
    exact hall name ⟨b, hb, hname⟩
  have hparse : (FilterSet.mk r d.source).parse = (FilterSet.mk r d'.source).parse :=
    parseFrom_congr hfilter .empty
  refine ⟨hparse, ?_⟩
  rw [fragments, fragments, hparse]
  rfl

/-- A text under the key of a range is not read, nor does it matter whether the title or the lower
bound is given first. -/
theorem fragments_eq_of_key_of_range :
    let title : Filter := ⟨.text, none, none, none, .string true, 0⟩
    let price : Filter := ⟨.range .gte .lte false, none, none, none, .range .integer, 1⟩
    let r : Registry := ⟨.ofList [("title", title), ("price", price)], none⟩
    let d : FormData := ⟨[("title", "x"), ("price.min", "1")]⟩
    let d' : FormData := ⟨[("price.min", "1"), ("price", "9"), ("title", "x")]⟩
    FormData.Alike r.Reads d d' ∧
      (FilterSet.mk r d.source).parse = (FilterSet.mk r d'.source).parse ∧
      (FilterSet.mk r d.source).fragments = (FilterSet.mk r d'.source).fragments := by
  intro title price r d d'
  have hunread : ¬r.Reads "price" := by
    rintro ⟨b, hb, hname⟩
    have hfilters : r.bind = [title.bind "title", price.bind "price"] := rfl
    rw [hfilters] at hb
    rcases List.mem_cons.1 hb with rfl | hb
    · have hkey : "price" = "title" := hname
      exact absurd hkey (by decide)
    · obtain rfl := List.mem_singleton.1 hb
      obtain ⟨suffix, hsuffix⟩ := hname
      have hkey : groupSuffix? "price" "price" = some suffix := groupSuffix?_eq_some_iff.2 hsuffix
      have hnone : groupSuffix? "price" "price" = none := by decide
      rw [hnone] at hkey
      cases hkey
  have halike : FormData.Alike r.Reads d d' := by
    have hswap := FormData.all_swap [] [] (show "title" ≠ "price.min" by decide) "x" "1"
    have hadd : FormData.Change r.Reads ⟨[("price.min", "1")] ++ [("title", "x")]⟩
        ⟨[("price.min", "1")] ++ ("price", "9") :: [("title", "x")]⟩ := .add hunread
    exact .head (.interleave hswap) (.single hadd)
  exact ⟨halike, fragments_eq_of_alike r halike⟩

end FilterSet

end QueryFilters
