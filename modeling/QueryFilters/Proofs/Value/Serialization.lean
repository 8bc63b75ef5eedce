import QueryFilters.Proofs.Calendar.Reading
import QueryFilters.Proofs.Dict
import QueryFilters.Proofs.Identifier.Reading
import QueryFilters.Proofs.Json.Reading
import QueryFilters.Proofs.Value.Order
import QueryFilters.Value.TaggedJson

/-!
# Values that read back

The tagged form of a value names its type, and what it holds is the form of the contents. A map may
hold entries with the names of types, but its own tag stands outside of them, so the form of a value
reads back as the value at any depth (`Value.ofJson?_toJson`). Three things are asked of a value:
the entries of its maps stand in the order that maps keep, its doubles are finite, since JSON has no
number for the others, and its points in time lie in no leap second inside a minute, since these
have no text of their own.
-/

namespace QueryFilters

/-- The dictionary of entries that are in order holds these entries. -/
theorem Entries.Ascending.ofList_eq {α : Type u} {entries : Entries α} (h : entries.Ascending) :
    Entries.ofList entries = entries := by
  refine (ascending_ofList entries).eq_of_get? h fun key => ?_
  rw [ofList, get?_insertAll, last?_of_nodup h.nodup_keys, get?, Option.or_none]

namespace Value

/-- The maps of which the value is made have their entries in order. -/
def IsOrdered (value : Value) : Prop :=
  ∀ entries, (map entries).IsPartOf value → Entries.Ascending entries

/-- The doubles of which the value is made are finite. -/
def IsFinite (value : Value) : Prop :=
  ∀ x, (float x).IsPartOf value → Binary64.isFinite x = true

/-- The points in time of which the value is made have regular times. -/
def IsRegular (value : Value) : Prop :=
  ∀ dt, (dateTime dt).IsPartOf value → dt.time.IsRegular

/-- Finite doubles are numbers. -/
theorem IsFinite.isNumeric {value : Value} (h : value.IsFinite) : value.IsNumeric := by
  intro x hpart
  obtain ⟨rank, hrank, -⟩ := (Option.any_eq_true _ _).1 (h x hpart)
  rw [hrank, Option.isSome_some]

/-! ### From the tagged form -/

/-- Items that read back one by one do so as the items of an array. -/
theorem itemsOfJson?_itemsToJson {items : List Value}
    (h : ∀ item ∈ items, ofJson? item.toJson = some item) :
    itemsOfJson? (itemsToJson items) = some items := by
  induction items with
  | nil => rfl
  | cons item items ih =>
    obtain ⟨hitem, hitems⟩ := List.forall_mem_cons.1 h
    rw [itemsToJson, itemsOfJson?, hitem, ih hitems]

/-- Entries that read back one by one do so as the members of an object. -/
theorem entriesOfJson?_entriesToJson {entries : List (String × Value)}
    (h : ∀ entry ∈ entries, ofJson? entry.2.toJson = some entry.2) :
    entriesOfJson? (entriesToJson entries) = some entries := by
  induction entries with
  | nil => rfl
  | cons entry entries ih =>
    obtain ⟨hentry, hentries⟩ := List.forall_mem_cons.1 h
    rw [entriesToJson, entriesOfJson?, hentry, ih hentries]

/-- The tagged form of a value reads back as the value. -/
theorem ofJson?_toJson {value : Value} (hordered : value.IsOrdered) (hfinite : value.IsFinite)
    (hregular : value.IsRegular) : ofJson? value.toJson = some value := by
  induction value using Value.induction with
  | null => rfl
  | bool b => rfl
  | int n => rfl
  | float x =>
    have hx : Binary64.isFinite x = true := hfinite x .self
    rw [toJson, if_pos hx]
    rfl
  | string s => rfl
  | dateTime dt =>
    have hread : ofJson? (tagged "DateTime" (.string dt.toText)) =
        (DateTime.ofText? dt.toText.toList).map dateTime := rfl
    rw [toJson, hread, DateTime.ofText?_toText_iff.2 (hregular dt .self), Option.map_some]
  | date d =>
    have hread : ofJson? (tagged "Date" (.string d.toText)) =
        (Date.ofText? d.toText.toList).map date := rfl
    rw [toJson, hread, d.ofText?_toText, Option.map_some]
  | objectId id =>
    have hread : ofJson? (tagged "ObjectId" (tagged "$oid" (.string id.toHex))) =
        (ObjectId.ofJson? (.object [("$oid", .string id.toHex)])).map objectId := rfl
    rw [toJson, hread, id.ofJson?_tagged, Option.map_some]
  | uuid id =>
    have hread : ofJson? (tagged "Uuid" (.string id.toText)) =
        (Uuid.ofText? id.toText.toList).map uuid := rfl
    rw [toJson, hread, id.ofText?_toText, Option.map_some]
  | list items ih =>
    have hitems := itemsOfJson?_itemsToJson fun item hitem =>
      ih item hitem (fun entries hpart => hordered entries (.item hitem hpart))
        (fun x hpart => hfinite x (.item hitem hpart))
        fun dt hpart => hregular dt (.item hitem hpart)
    rw [toJson, tagged, ofJson?, hitems]
    rfl
  | map entries ih =>
    have hentries := entriesOfJson?_entriesToJson fun entry hentry =>
      ih entry hentry (fun inner hpart => hordered inner (.entry hentry hpart))
        (fun x hpart => hfinite x (.entry hentry hpart))
        fun dt hpart => hregular dt (.entry hentry hpart)
    rw [toJson, tagged, ofJson?, hentries, if_pos rfl, Option.map_some, ofPairs,
      (hordered entries .self).ofList_eq]

/-! ### From the text of the tagged form -/

theorem itemsToJson_eq_map (items : List Value) : itemsToJson items = items.map toJson := by
  induction items with
  | nil => rfl
  | cons item items ih => rw [itemsToJson, ih, List.map_cons]

theorem entriesToJson_eq_map (entries : List (String × Value)) :
    entriesToJson entries = entries.map fun entry => (entry.1, entry.2.toJson) := by
  induction entries with
  | nil => rfl
  | cons entry entries ih => rw [entriesToJson, ih, List.map_cons]

/-- The doubles of which the value is made are met again by who reads their texts. -/
def IsLegible (value : Value) : Prop :=
  ∀ x, (float x).IsPartOf value → (JsonNumber.double x).ReadsBack

theorem printable_tagged (tag : String) {body : Json} (h : body.Printable) :
    (tagged tag body).Printable :=
  .object (List.forall_mem_singleton.2 h)

/-- The members of an object have texts of their own if the values of its entries do. -/
theorem printable_entriesToJson {entries : List (String × Value)}
    (h : ∀ entry ∈ entries, entry.2.toJson.Printable) :
    (Json.object (entriesToJson entries)).Printable := by
  refine .object fun member hmember => ?_
  rw [entriesToJson_eq_map] at hmember
  obtain ⟨entry, hentry, rfl⟩ := List.mem_map.1 hmember
  exact h entry hentry

/-- The tagged form of a value has a text of its own. -/
theorem printable_toJson {value : Value} (h : value.IsLegible) : value.toJson.Printable := by
  induction value using Value.induction with
  | null => exact .string _
  | bool b => exact printable_tagged _ (.bool b)
  | int n => exact printable_tagged _ (.integer n)
  | float x =>
    refine printable_tagged _ ?_
    split
    · exact .double (h x .self)
    · exact .null
  | string s => exact printable_tagged _ (.string s)
  | dateTime dt => exact printable_tagged _ (.string _)
  | date d => exact printable_tagged _ (.string _)
  | objectId id => exact printable_tagged _ (printable_tagged _ (.string _))
  | uuid id => exact printable_tagged _ (.string _)
  | list items ih =>
    refine printable_tagged _ (.array fun json hjson => ?_)
    rw [itemsToJson_eq_map] at hjson
    obtain ⟨item, hitem, rfl⟩ := List.mem_map.1 hjson
    exact ih item hitem fun x hpart => h x (.item hitem hpart)
  | map entries ih =>
    exact printable_tagged _ (printable_entriesToJson fun entry hentry =>
      ih entry hentry fun x hpart => h x (.entry hentry hpart))

end Value

end QueryFilters
