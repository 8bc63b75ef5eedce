import QueryFilters.Fragment.Json
import QueryFilters.Json.Reader
import QueryFilters.Proofs.Fragment.Structure
import QueryFilters.Proofs.Value.Serialization

/-!
# Fragments that read back

A fragment is an object with one member that names its kind, and so is every condition inside it.
What reads back as a whole reads back part by part: a condition by its parts, down to the values
that its mappings require (`Fragment.ofJson?_toJson`). A fragment survives serialization where its
text gives back the document of which it is the text (`Fragment.survives_serialization`). That is so
unless the fragment holds a double that its own text does not give back, or is nested too deep
(`Fragment.ofTextWithOctets?_toText`).

Of the texts inside a fragment only that of a point in time may not be its own: the regular times
are exactly those that read back (`DateTime.ofText?_toText_iff`).
-/

namespace QueryFilters

namespace Params

/-- A mapping reads back if its values do. -/
theorem ofJson?_toJson {params : Params}
    (h : ∀ value ∈ params.values, Value.ofJson? value.toJson = some value) :
    ofJson? params.toJson = some params := by
  have hentries := Value.entriesOfJson?_entriesToJson fun entry hentry =>
    h entry.2 (List.mem_map_of_mem hentry)
  obtain ⟨entries, hascending⟩ := params
  rw [toJson, ofJson?, hentries, Option.map_some, Dict.ofList]
  simp only [hascending.ofList_eq]

/-- A mapping has a text of its own if its values do. -/
theorem printable_toJson {params : Params} (h : ∀ value ∈ params.values, value.IsLegible) :
    params.toJson.Printable :=
  Value.printable_entriesToJson fun entry hentry =>
    Value.printable_toJson (h entry.2 (List.mem_map_of_mem hentry))

/-- A mapping equals itself if its values hold nothing but numbers where they hold doubles. -/
theorem same_self {params : Params} (h : ∀ value ∈ params.values, value.IsNumeric) :
    params.same params = true := by
  have hself : (Value.map params.entries).IsNumeric := by
    intro x hpart
    rcases Value.isPartOf_map_iff.1 hpart with heq | ⟨entry, hentry, hpart⟩
    · cases heq
    · exact h entry.2 (List.mem_map_of_mem hentry) x hpart
  exact (Value.beq_self_iff _).2 hself

end Params

namespace Condition

/-- Conditions that read back one by one do so as the items of an array. -/
theorem listOfJson?_listToJson {conditions : List Condition}
    (h : ∀ c ∈ conditions, ofJson? c.toJson = some c) :
    listOfJson? (listToJson conditions) = some conditions := by
  induction conditions with
  | nil => rfl
  | cons c conditions ih =>
    obtain ⟨hc, hconditions⟩ := List.forall_mem_cons.1 h
    rw [listToJson, listOfJson?, hc, ih hconditions]

theorem listToJson_eq_map (conditions : List Condition) :
    listToJson conditions = conditions.map toJson := by
  induction conditions with
  | nil => rfl
  | cons c conditions ih => rw [listToJson, ih, List.map_cons]

/-- A condition reads back if the values do that it requires somewhere. -/
theorem ofJson?_toJson {condition : Condition}
    (h : ∀ value ∈ condition.values, Value.ofJson? value.toJson = some value) :
    ofJson? condition.toJson = some condition := by
  induction condition using Condition.induction with
  | params p =>
    have hread : ofJson? (.object [("Match", p.toJson)]) =
        (Params.ofJson? p.toJson).map params := rfl
    rw [toJson, hread, Params.ofJson?_toJson (by simpa [values, leaves] using h), Option.map_some]
  | all conditions ih =>
    have hlist := listOfJson?_listToJson fun c hc =>
      ih c hc fun value hvalue => h value (mem_values_of_mem hc hvalue).1
    rw [toJson, ofJson?, if_pos rfl, hlist, Option.map_some]
  | any conditions ih =>
    have hlist := listOfJson?_listToJson fun c hc =>
      ih c hc fun value hvalue => h value (mem_values_of_mem hc hvalue).2
    have htag : "Or" ≠ "And" := by decide
    rw [toJson, ofJson?, if_neg htag, if_pos rfl, hlist, Option.map_some]

/-- A condition has a text of its own if the values do that it requires somewhere. -/
theorem printable_toJson {condition : Condition} (h : ∀ value ∈ condition.values, value.IsLegible) :
    condition.toJson.Printable := by
  have hlist : ∀ {conditions : List Condition}, (∀ c ∈ conditions, c.toJson.Printable) →
      (Json.array (listToJson conditions)).Printable := by
    intro conditions hconditions
    refine .array fun json hjson => ?_
    rw [listToJson_eq_map] at hjson
    obtain ⟨c, hc, rfl⟩ := List.mem_map.1 hjson
    exact hconditions c hc
  induction condition using Condition.induction with
  | params p =>
    exact Value.printable_tagged _ (Params.printable_toJson (by simpa [values, leaves] using h))
  | all conditions ih =>
    exact Value.printable_tagged _ (hlist fun c hc =>
      ih c hc fun value hvalue => h value (mem_values_of_mem hc hvalue).1)
  | any conditions ih =>
    exact Value.printable_tagged _ (hlist fun c hc =>
      ih c hc fun value hvalue => h value (mem_values_of_mem hc hvalue).2)

/-- Conditions that are each the same as itself are so as a list. -/
theorem sameList_self {conditions : List Condition} (h : ∀ c ∈ conditions, c.same c = true) :
    sameList conditions conditions = true := by
  induction conditions with
  | nil => rfl
  | cons c conditions ih =>
    obtain ⟨hc, hconditions⟩ := List.forall_mem_cons.1 h
    rw [sameList, hc, ih hconditions, Bool.and_self]

/-- A condition is the same as itself if its values hold nothing but numbers where they hold
doubles. -/
theorem same_self {condition : Condition} (h : ∀ value ∈ condition.values, value.IsNumeric) :
    condition.same condition = true := by
  induction condition using Condition.induction with
  | params p => exact Params.same_self (by simpa [values, leaves] using h)
  | all conditions ih =>
    exact sameList_self fun c hc => ih c hc fun value hvalue =>
      h value (mem_values_of_mem hc hvalue).1
  | any conditions ih =>
    exact sameList_self fun c hc => ih c hc fun value hvalue =>
      h value (mem_values_of_mem hc hvalue).2

end Condition

namespace Fragment

/-- A fragment reads back if the values do that it requires somewhere. -/
theorem ofJson?_toJson {f : Fragment}
    (h : ∀ value ∈ f.values, Value.ofJson? value.toJson = some value) :
    ofJson? f.toJson = some f := by
  cases f with
  | params p =>
    rw [toJson, ofJson?, if_pos rfl, Params.ofJson?_toJson (by simpa [values, leaves] using h),
      Option.map_some]
  | condition c =>
    have htag : "Condition" ≠ "Params" := by decide
    rw [toJson, ofJson?, if_neg htag, if_pos rfl, Condition.ofJson?_toJson h, Option.map_some]

/-- A fragment has a text of its own if the values do that it requires somewhere. -/
theorem printable_toJson {f : Fragment} (h : ∀ value ∈ f.values, value.IsLegible) :
    f.toJson.Printable := by
  cases f with
  | params p =>
    exact Value.printable_tagged _ (Params.printable_toJson (by simpa [values, leaves] using h))
  | condition c => exact Value.printable_tagged _ (Condition.printable_toJson h)

/-- A fragment is the same as itself if its values hold nothing but numbers where they hold
doubles. -/
theorem same_self {f : Fragment} (h : ∀ value ∈ f.values, value.IsNumeric) : f.same f = true := by
  cases f with
  | params p => exact Params.same_self (by simpa [values, leaves] using h)
  | condition c => exact Condition.same_self h

/-- The text of a fragment gives the document back of which it is the text, if the doubles that the
fragment holds are met again by the reader and it is not nested too deep. -/
theorem ofTextWithOctets?_toText {f : Fragment} (hlegible : ∀ value ∈ f.values, value.IsLegible)
    (hdepth : f.toJson.depth ≤ Json.depthLimit) :
    Json.ofTextWithOctets? f.toJson.toText = some f.toJson :=
  Json.ofTextWithOctets?_toText (printable_toJson hlegible) hdepth

/-- A fragment survives serialization: where its text gives back the document of which it is the
text, what is read from it is the fragment that was written, and equals it. The maps in the fragment
must have their entries in order, the doubles must be finite, and the points in time must read back
from their own texts, which they do if their times are regular. -/
theorem survives_serialization {f : Fragment} (hordered : ∀ value ∈ f.values, value.IsOrdered)
    (hfinite : ∀ value ∈ f.values, value.IsFinite) (hregular : ∀ value ∈ f.values, value.IsRegular)
    (hfaithful : Json.ofTextWithOctets? f.toJson.toText = some f.toJson) :
    (Json.ofTextWithOctets? f.toJson.toText).bind ofJson? = some f ∧ f.same f = true := by
  have hread := ofJson?_toJson fun value hvalue =>
    Value.ofJson?_toJson (hordered value hvalue) (hfinite value hvalue) (hregular value hvalue)
  refine ⟨?_, same_self fun value hvalue => (hfinite value hvalue).isNumeric⟩
  rw [hfaithful, Option.bind_some, hread]

/-- A map under the name of one tag and with entries under the names of others is not taken for what
these stand for. The point in time in it lies in a leap second. -/
theorem survives_serialization_named_like_tags :
    let leap : DateTime := ⟨⟨2016, 12, 31, by decide, by decide, by decide⟩,
      23, 59, 59, 1500000000, by decide, by decide, by decide, by decide⟩
    let inner : Value :=
      .map [("And", .list [.null, .float 0.5]), ("Date", .dateTime leap), ("I64", .string "Null")]
    let f : Fragment := .condition (.all [.any [.params (.ofList [("Match", inner)])], .any []])
    (Json.ofTextWithOctets? f.toJson.toText).bind ofJson? = some f ∧ f.same f = true := by
  intro leap inner f
  have hvalues : f.values = [inner] := rfl
  have hparts : ∀ part : Value, part.IsPartOf inner → part = inner ∨
      part = .list [.null, .float 0.5] ∨ part = .null ∨ part = .float 0.5 ∨
      part = .dateTime leap ∨ part = .string "Null" := by
    intro part hpart
    rcases Value.isPartOf_map_iff.1 hpart with h | ⟨entry, hentry, hpart⟩
    · exact .inl h
    rcases List.mem_cons.1 hentry with rfl | hentry
    · rcases Value.isPartOf_list_iff.1 hpart with h | ⟨item, hitem, hpart⟩
      · exact .inr (.inl h)
      rcases List.mem_pair.1 hitem with rfl | rfl
      · cases hpart
        simp
      · cases hpart
        simp
    rcases List.mem_pair.1 hentry with rfl | rfl
    · cases hpart
      simp
    · cases hpart
      simp
  have hfloats : ∀ x, (Value.float x).IsPartOf inner → x = 0.5 := fun x hpart => by
    simpa [inner] using hparts _ hpart
  have hhalf : (JsonNumber.double 0.5).ReadsBack := by
    have htext : (JsonNumber.double 0.5).toText = "0.5" := by decide +kernel
    have hdouble : (⟨false, ['0'], some ['5'], none⟩ : JsonNumberText).toDouble? 5 (-1) =
        some 0.5 := by decide +kernel
    refine ⟨⟨false, ['0'], some ['5'], none⟩, htext ▸ rfl, ?_⟩
    exact congrArg (Option.map JsonNumber.double) hdouble
  have hordered : inner.IsOrdered := fun entries hpart => by
    have heq : entries = [("And", .list [.null, .float 0.5]), ("Date", .dateTime leap),
        ("I64", .string "Null")] := by
      simpa [inner] using hparts _ hpart
    rw [heq]
    refine List.pairwise_cons.2 ⟨List.forall_mem_cons.2 ⟨?_, List.forall_mem_singleton.2 ?_⟩,
      List.pairwise_pair.2 ?_⟩ <;> decide
  have hfinite : inner.IsFinite := fun x hpart => by
    rw [hfloats x hpart]
    decide +kernel
  have hregular : inner.IsRegular := fun dt hpart => by
    have heq : dt = leap := by simpa [inner] using hparts _ hpart
    rw [heq]
    exact fun _ => rfl
  have hlegible : inner.IsLegible := fun x hpart => hfloats x hpart ▸ hhalf
  have hdepth : f.toJson.depth ≤ Json.depthLimit := by decide
  refine survives_serialization ?_ ?_ ?_ (ofTextWithOctets?_toText ?_ hdepth)
  · simpa [hvalues] using hordered
  · simpa [hvalues] using hfinite
  · simpa [hvalues] using hregular
  · simpa [hvalues] using hlegible

end Fragment

end QueryFilters
