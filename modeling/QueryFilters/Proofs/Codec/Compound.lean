import QueryFilters.Proofs.Filter.Decoding

/-!
# Compound input

Sequences and groups are decoded text by text by the codec of their elements. Either every text is
decoded, and the values stand where their texts do, or the first text that cannot be decoded is
reported with its place (`FirstFault`): its position in the sequence, or its key in the group, where
a smaller key comes first. A group is not decoded at all if it has keys that it must not have, or
lacks keys that it must have; these are listed, the former in preference to the latter.
`SequenceResult` and `GroupResult` say so without saying how the input is read, and
`Codec.decode_compound` is that decoding has just these results.

A longitude and a latitude are a group of two doubles that has both keys and no other
(`Codec.GivesPlace`), so neither of them is ever missing once the group is decoded.
-/

namespace QueryFilters

/-- Every element of a list is related to something where the list is related to another. -/
theorem exists_of_forall₂ {α β : Type} {R : α → β → Prop} {xs : List α} {ys : List β}
    (h : List.Forall₂ R xs ys) {x : α} (hx : x ∈ xs) : ∃ y, R x y := by
  obtain ⟨i, hi, rfl⟩ := List.mem_iff_getElem.1 hx
  exact ⟨_, h.get hi (h.length_eq ▸ hi)⟩

variable {decode : String → Except CodecError Value}

/-! ### The first text that cannot be decoded -/

/-- Of the texts at some places, the one at the given place cannot be decoded, with the given cause,
and all those at earlier places can. -/
structure FirstFault {ι : Type} [Ord ι] (decode : String → Except CodecError Value)
    (text? : ι → Option String) (place : ι) (cause : CodecError) : Prop where
  fails : ∃ text, text? place = some text ∧ decode text = .error cause
  earlier : ∀ other text, compare other place = .lt → text? other = some text →
    ∃ value, decode text = .ok value

namespace FirstFault

/-- There is at most one first text that cannot be decoded. -/
theorem unique {ι : Type} [Ord ι] [Std.OrientedOrd ι] [Std.LawfulEqOrd ι]
    {text? : ι → Option String} {place place' : ι} {cause cause' : CodecError}
    (h : FirstFault decode text? place cause) (h' : FirstFault decode text? place' cause') :
    place = place' ∧ cause = cause' := by
  obtain ⟨text, htext, hcause⟩ := h.fails
  obtain ⟨text', htext', hcause'⟩ := h'.fails
  cases horder : compare place place' with
  | lt =>
    obtain ⟨value, hvalue⟩ := h'.earlier place text horder htext
    cases hcause.symm.trans hvalue
  | eq =>
    obtain rfl := Std.LawfulEqOrd.eq_of_compare horder
    obtain rfl := Option.some.inj (htext.symm.trans htext')
    exact ⟨rfl, Except.error.inj (hcause.symm.trans hcause')⟩
  | gt =>
    obtain ⟨value, hvalue⟩ := h.earlier place' text' (Std.OrientedCmp.lt_of_gt horder) htext'
    cases hcause'.symm.trans hvalue

/-- A first text that cannot be decoded is the first one if it stands at the start of a sequence. -/
theorem at_start {text : String} {cause : CodecError} (h : decode text = .error cause)
    (texts : List String) : FirstFault decode (fun i : Nat => (text :: texts)[i]?) 0 cause where
  fails := ⟨text, rfl, h⟩
  earlier other _ hlt := by simp [Nat.compare_eq_lt] at hlt

/-- A text that can be decoded moves the first that cannot one position further. -/
theorem succ {text : String} {value : Value} (h : decode text = .ok value) {texts : List String}
    {index : Nat} {cause : CodecError}
    (hfault : FirstFault decode (fun i : Nat => texts[i]?) index cause) :
    FirstFault decode (fun i : Nat => (text :: texts)[i]?) (index + 1) cause where
  fails := hfault.fails
  earlier other other' hlt hother := by
    cases other with
    | zero =>
      obtain rfl := Option.some.inj hother
      exact ⟨value, h⟩
    | succ other =>
      rw [Nat.compare_eq_lt] at hlt
      exact hfault.earlier other other' (Nat.compare_eq_lt.2 (Nat.lt_of_succ_lt_succ hlt)) hother

/-- A text that cannot be decoded is the first one if its key is the least. -/
theorem at_least_key {key text : String} {texts : Entries String} {cause : CodecError}
    (hascending : Entries.Ascending ((key, text) :: texts)) (h : decode text = .error cause) :
    FirstFault decode (fun k => Entries.get? k ((key, text) :: texts)) key cause where
  fails := ⟨text, by rw [Entries.get?, if_pos rfl], h⟩
  earlier other other' hlt hother := by
    rcases List.mem_cons.1 (Entries.mem_of_get? hother) with heq | hmem
    · obtain ⟨rfl, rfl⟩ := Prod.mk.inj heq
      simp at hlt
    · have hgt := (List.pairwise_cons.1 hascending).1 (other, other') hmem
      exact absurd hlt (Std.OrientedCmp.not_lt_of_lt hgt)

/-- A text that can be decoded, under a key less than all others, leaves the first that cannot. -/
theorem of_least_key {key text : String} {texts : Entries String}
    (hascending : Entries.Ascending ((key, text) :: texts)) {value : Value}
    (h : decode text = .ok value) {place : String} {cause : CodecError}
    (hfault : FirstFault decode (fun k => Entries.get? k texts) place cause) :
    FirstFault decode (fun k => Entries.get? k ((key, text) :: texts)) place cause where
  fails := by
    obtain ⟨faulty, hfaulty, hcause⟩ := hfault.fails
    have hlt := (List.pairwise_cons.1 hascending).1 _ (Entries.mem_of_get? hfaulty)
    have hne : key ≠ place := by
      rintro rfl
      simp at hlt
    exact ⟨faulty, by rw [Entries.get?, if_neg hne, hfaulty], hcause⟩
  earlier other other' hlt hother := by
    rw [Entries.get?] at hother
    split at hother
    · exact ⟨value, Option.some.inj hother ▸ h⟩
    · exact hfault.earlier other other' hlt hother

end FirstFault

namespace Codec

/-- A sequence that cannot be decoded has a first text that cannot, which is reported. -/
theorem firstFault_of_decodeItems {start : Nat} {texts : List String} {e : CodecError}
    (h : decodeItems decode start texts = .error e) :
    ∃ index cause, FirstFault decode (fun i : Nat => texts[i]?) index cause ∧
      e = .item (Digits.natText (start + index)) cause := by
  induction texts generalizing start with
  | nil => cases h
  | cons text texts ih =>
    rw [decodeItems] at h
    cases htext : decode text with
    | error cause =>
      rw [htext] at h
      exact ⟨0, cause, .at_start htext texts, (Except.error.inj h).symm⟩
    | ok value =>
      rw [htext] at h
      cases hrest : decodeItems decode (start + 1) texts with
      | error e' =>
        rw [hrest] at h
        obtain rfl := Except.error.inj h
        obtain ⟨index, cause, hfault, he⟩ := ih hrest
        -- Positions are counted from where the rest of the texts starts.
        refine ⟨index + 1, cause, hfault.succ htext, ?_⟩
        rw [he, Nat.add_assoc, Nat.add_comm 1 index]
      | ok values =>
        rw [hrest] at h
        cases h

/-- A group that cannot be decoded has a first text that cannot, which is reported. -/
theorem firstFault_of_decodeEntries {texts : Entries String} (hascending : texts.Ascending)
    {e : CodecError} (h : decodeEntries decode texts = .error e) :
    ∃ key cause, FirstFault decode (fun k => Entries.get? k texts) key cause ∧
      e = .item key cause := by
  induction texts with
  | nil => cases h
  | cons entry texts ih =>
    obtain ⟨key, text⟩ := entry
    rw [decodeEntries] at h
    cases htext : decode text with
    | error cause =>
      rw [htext] at h
      exact ⟨key, cause, .at_least_key hascending htext, (Except.error.inj h).symm⟩
    | ok value =>
      rw [htext] at h
      cases hrest : decodeEntries decode texts with
      | error e' =>
        rw [hrest] at h
        obtain rfl := Except.error.inj h
        obtain ⟨place, cause, hfault, he⟩ := ih (List.Pairwise.of_cons hascending) hrest
        exact ⟨place, cause, hfault.of_least_key hascending htext, he⟩
      | ok entries =>
        rw [hrest] at h
        cases h

/-- A sequence cannot be decoded exactly if it has a first text that cannot, and this is reported
with its position. -/
theorem decodeItems_eq_error_iff {start : Nat} {texts : List String} {e : CodecError} :
    decodeItems decode start texts = .error e ↔
      ∃ index cause, FirstFault decode (fun i : Nat => texts[i]?) index cause ∧
        e = .item (Digits.natText (start + index)) cause := by
  refine ⟨firstFault_of_decodeItems, ?_⟩
  rintro ⟨index, cause, hfault, rfl⟩
  cases hdecode : decodeItems decode start texts with
  | error e =>
    obtain ⟨index', cause', hfault', rfl⟩ := firstFault_of_decodeItems hdecode
    obtain ⟨rfl, rfl⟩ := hfault.unique hfault'
    rfl
  | ok values =>
    -- All texts were decoded, the first fault among them.
    obtain ⟨text, htext, hcause⟩ := hfault.fails
    obtain ⟨value, hvalue⟩ :=
      exists_of_forall₂ (decodeItems_eq_ok_iff.1 hdecode) (List.mem_of_getElem? htext)
    cases hcause.symm.trans hvalue

/-- A group cannot be decoded exactly if it has a first text that cannot, and this is reported with
its key. -/
theorem decodeEntries_eq_error_iff {texts : Dict String} {e : CodecError} :
    decodeEntries decode texts.entries = .error e ↔
      ∃ key cause, FirstFault decode texts.get? key cause ∧ e = .item key cause := by
  refine ⟨firstFault_of_decodeEntries texts.ascending, ?_⟩
  rintro ⟨key, cause, hfault, rfl⟩
  cases hdecode : decodeEntries decode texts.entries with
  | error e =>
    obtain ⟨key', cause', hfault', rfl⟩ := firstFault_of_decodeEntries texts.ascending hdecode
    obtain ⟨rfl, rfl⟩ := hfault.unique hfault'
    rfl
  | ok entries =>
    obtain ⟨text, htext, hcause⟩ := hfault.fails
    obtain ⟨entry, -, hvalue⟩ :=
      exists_of_forall₂ (decodeEntries_eq_ok_iff.1 hdecode) (Entries.mem_of_get? htext)
    cases hcause.symm.trans hvalue

end Codec

/-! ### Keys that are not as they should be -/

theorem Dict.contains_iff {α : Type u} {d : Dict α} {key : String} :
    d.contains key = true ↔ key ∈ d.keys := by
  rw [contains, get?]
  by_cases hkey : key ∈ d.keys
  · obtain ⟨value, hvalue⟩ := Entries.exists_get?_of_mem_keys hkey
    simp [hvalue, hkey]
  · simp [Entries.get?_of_not_mem hkey, hkey]

/-- A list of just the keys with a property, in ascending order. -/
structure ListsKeys (keys : List String) (P : String → Prop) : Prop where
  ascending : keys.Pairwise fun a b => compare a b = .lt
  mem_iff : ∀ key, key ∈ keys ↔ P key

namespace ListsKeys

variable {keys keys' : List String} {P : String → Prop}

/-- There is just one such list. -/
theorem eq (h : ListsKeys keys P) (h' : ListsKeys keys' P) : keys = keys' := by
  have hnodup : ∀ {keys}, ListsKeys keys P → keys.Nodup := fun h =>
    h.ascending.imp fun {a b} hlt heq => by simp [heq] at hlt
  have hperm : keys.Perm keys' := (List.perm_ext_iff_of_nodup (hnodup h) (hnodup h')).2
    fun key => (h.mem_iff key).trans (h'.mem_iff key).symm
  refine hperm.eq_of_pairwise (fun a b _ _ hab hba => ?_) h.ascending h'.ascending
  rw [Std.OrientedOrd.eq_swap, hba] at hab
  cases hab

theorem eq_nil_iff (h : ListsKeys keys P) : keys = [] ↔ ∀ key, ¬P key := by
  simp only [List.eq_nil_iff_forall_not_mem, h.mem_iff]

/-- The keys of a dictionary that pass a test are listed in their order. -/
theorem filter_keys {α : Type u} {d : Dict α} {test : String → Bool}
    (h : ∀ key, key ∈ d.keys ∧ test key = true ↔ P key) : ListsKeys (d.keys.filter test) P where
  ascending := by
    have hkeys : d.keys.Pairwise fun a b => compare a b = .lt := List.pairwise_map.2 d.ascending
    exact hkeys.filter test
  mem_iff key := List.mem_filter.trans (h key)

end ListsKeys

namespace Codec

variable {valid required : Option KeySet} {texts : Dict String}

/-- The group has a key that is not among the valid ones, where these are given. -/
def Unexpected (valid : Option KeySet) (texts : Dict String) (key : String) : Prop :=
  key ∈ texts.keys ∧ ∃ keys, valid = some keys ∧ key ∉ keys.keys

/-- The group lacks a key that is among the required ones. -/
def Missing (required : Option KeySet) (texts : Dict String) (key : String) : Prop :=
  (∃ keys, required = some keys ∧ key ∈ keys.keys) ∧ key ∉ texts.keys

/-- The keys of a group that are not valid. -/
theorem listsKeys_unexpected (valid : Option KeySet) (texts : Dict String) :
    ListsKeys (texts.keys.filter fun key => !valid.all (·.contains key))
      (Unexpected valid texts) := by
  refine .filter_keys fun key => and_congr_right fun _ => ?_
  cases valid with
  | none => simp
  | some keys => simp [← Dict.contains_iff]

/-- The required keys that a group lacks. -/
theorem listsKeys_missing (required : Option KeySet) (texts : Dict String) :
    ListsKeys ((required.elim [] Dict.keys).filter fun key => !texts.contains key)
      (Missing required texts) := by
  cases required with
  | none => exact ⟨List.Pairwise.nil, by simp [Missing]⟩
  | some keys => exact .filter_keys fun key => by simp [Missing, ← Dict.contains_iff]

/-- A group with unexpected keys is refused with these. -/
theorem checkKeys_of_unexpected {keys : List String} (hne : keys ≠ [])
    (h : ListsKeys keys (Unexpected valid texts)) :
    checkKeys valid required texts = .error (.invalidKeys keys) := by
  rw [h.eq (listsKeys_unexpected valid texts)] at hne ⊢
  simp [checkKeys, hne]

/-- A group that lacks required keys is refused with these, unless it has unexpected ones. -/
theorem checkKeys_of_missing (hexpected : ∀ key, ¬Unexpected valid texts key) {keys : List String}
    (hne : keys ≠ []) (h : ListsKeys keys (Missing required texts)) :
    checkKeys valid required texts = .error (.missingKeys keys) := by
  rw [h.eq (listsKeys_missing required texts)] at hne ⊢
  simp only [checkKeys, (listsKeys_unexpected valid texts).eq_nil_iff.2 hexpected]
  simp [hne]

/-- Any other group is not refused. -/
theorem checkKeys_of_none (hexpected : ∀ key, ¬Unexpected valid texts key)
    (hcomplete : ∀ key, ¬Missing required texts key) :
    checkKeys valid required texts = .ok () := by
  simp only [checkKeys, (listsKeys_unexpected valid texts).eq_nil_iff.2 hexpected,
    (listsKeys_missing required texts).eq_nil_iff.2 hcomplete]
  rfl

/-! ### Results -/

/-- What a sequence of texts is decoded to. -/
inductive SequenceResult (decode : String → Except CodecError Value) (texts : List String) :
    Except CodecError Value → Prop
  /-- The list of what the texts are decoded to, each in the place of its text. -/
  | decoded {items : List Value}
    (h : List.Forall₂ (fun text item => decode text = .ok item) texts items) :
    SequenceResult decode texts (.ok (.list items))
  /-- The position of the first text that cannot be decoded, and why. -/
  | faulty {index : Nat} {cause : CodecError}
    (h : FirstFault decode (fun i : Nat => texts[i]?) index cause) :
    SequenceResult decode texts (.error (.item (Digits.natText index) cause))

/-- What a group of texts is decoded to, of whose keys some may be valid and some required. -/
inductive GroupResult (decode : String → Except CodecError Value) (valid required : Option KeySet)
    (texts : Dict String) : Except CodecError Value → Prop
  /-- All unexpected keys, if there are any. -/
  | unexpected {keys : List String} (hne : keys ≠ [])
    (h : ListsKeys keys (Unexpected valid texts)) :
    GroupResult decode valid required texts (.error (.invalidKeys keys))
  /-- Otherwise all missing keys, if there are any. -/
  | missing (hexpected : ∀ key, ¬Unexpected valid texts key) {keys : List String} (hne : keys ≠ [])
    (h : ListsKeys keys (Missing required texts)) :
    GroupResult decode valid required texts (.error (.missingKeys keys))
  /-- Otherwise the least key whose text cannot be decoded, if there is one, and why. -/
  | faulty (hexpected : ∀ key, ¬Unexpected valid texts key)
    (hcomplete : ∀ key, ¬Missing required texts key) {key : String} {cause : CodecError}
    (h : FirstFault decode texts.get? key cause) :
    GroupResult decode valid required texts (.error (.item key cause))
  /-- Otherwise the map of what the texts are decoded to, each under the key of its text. -/
  | decoded (hexpected : ∀ key, ¬Unexpected valid texts key)
    (hcomplete : ∀ key, ¬Missing required texts key) {entries : List (String × Value)}
    (h : List.Forall₂ (fun text entry => text.1 = entry.1 ∧ decode text.2 = .ok entry.2)
      texts.entries entries) :
    GroupResult decode valid required texts (.ok (.map entries))

/-- Decoding a sequence has the results of sequences, and no others. -/
theorem decode_list_eq_iff {child : Codec} {texts : List String}
    {result : Except CodecError Value} :
    (list child).decode (.many texts) = result ↔
      SequenceResult (fun text => child.decode (.one text)) texts result := by
  have hdecode : (list child).decode (.many texts) =
      (decodeItems (fun text => child.decode (.one text)) 0 texts).map .list := by
    rw [Codec.decode]
  rw [hdecode]
  constructor
  · rintro rfl
    cases hitems : decodeItems (fun text => child.decode (.one text)) 0 texts with
    | error e =>
      obtain ⟨index, cause, hfault, rfl⟩ := firstFault_of_decodeItems hitems
      rw [Nat.zero_add]
      exact .faulty hfault
    | ok items => exact .decoded (decodeItems_eq_ok_iff.1 hitems)
  · rintro (h | h)
    · rw [decodeItems_eq_ok_iff.2 h]
      rfl
    · rw [decodeItems_eq_error_iff.2 ⟨_, _, h, rfl⟩, Nat.zero_add]
      rfl

/-- Decoding a group has the results of groups, and no others. -/
theorem decodeGroup_eq_iff {result : Except CodecError Value} :
    decodeGroup decode valid required (.group texts) = result ↔
      GroupResult decode valid required texts result := by
  constructor
  · rintro rfl
    by_cases hexpected : ∀ key, ¬Unexpected valid texts key
    · by_cases hcomplete : ∀ key, ¬Missing required texts key
      · rw [decodeGroup, checkKeys_of_none hexpected hcomplete]
        cases hentries : decodeEntries decode texts.entries with
        | error e =>
          obtain ⟨key, cause, hfault, rfl⟩ := decodeEntries_eq_error_iff.1 hentries
          exact .faulty hexpected hcomplete hfault
        | ok entries => exact .decoded hexpected hcomplete (decodeEntries_eq_ok_iff.1 hentries)
      · have hlists := listsKeys_missing required texts
        have hne := mt hlists.eq_nil_iff.1 hcomplete
        rw [decodeGroup, checkKeys_of_missing hexpected hne hlists]
        exact .missing hexpected hne hlists
    · have hlists := listsKeys_unexpected valid texts
      have hne := mt hlists.eq_nil_iff.1 hexpected
      rw [decodeGroup, checkKeys_of_unexpected hne hlists]
      exact .unexpected hne hlists
  · intro h
    cases h with
    | unexpected hne h =>
      rw [decodeGroup, checkKeys_of_unexpected hne h]
      rfl
    | missing hexpected hne h =>
      rw [decodeGroup, checkKeys_of_missing hexpected hne h]
      rfl
    | faulty hexpected hcomplete h =>
      rw [decodeGroup, checkKeys_of_none hexpected hcomplete]
      have hentries := decodeEntries_eq_error_iff.2 ⟨_, _, h, rfl⟩
      exact bind_eq_error_iff.2 (.inr ⟨(), rfl, bind_eq_error_iff.2 (.inl hentries)⟩)
    | decoded hexpected hcomplete h =>
      rw [decodeGroup, checkKeys_of_none hexpected hcomplete]
      have hentries := decodeEntries_eq_ok_iff.2 h
      exact bind_eq_ok_iff.2 ⟨(), rfl, bind_eq_ok_iff.2 ⟨_, hentries, rfl⟩⟩

/-! ### Longitude and latitude -/

/-- Under a key of a decoded group stands what the text there was decoded to. -/
theorem get?_of_decoded (decode : String → Except CodecError Value) {texts : Entries String}
    {entries : Entries Value}
    (h : List.Forall₂ (fun text entry => text.1 = entry.1 ∧ decode text.2 = .ok entry.2)
      texts entries) {key text : String} (hkey : texts.get? key = some text) :
    ∃ value, entries.get? key = some value ∧ decode text = .ok value := by
  induction h with
  | nil => cases hkey
  | cons hhead _ ih =>
    rw [Entries.get?] at hkey
    rw [Entries.get?, ← hhead.1]
    split at hkey
    · next heq =>
      rw [if_pos heq, ← Option.some.inj hkey]
      exact ⟨_, rfl, hhead.2⟩
    · next hne =>
      rw [if_neg hne]
      exact ih hkey

/-- A decoded double is finite. -/
theorem isFinite_of_decode_float {raw : Raw} {v : Value} (h : float.decode raw = .ok v) :
    ∃ x, v = .float x ∧ Binary64.isFinite x = true := by
  rw [Codec.decode, decodeFloat] at h
  obtain ⟨text, hread⟩ := Scalar.exists_read_of_decode h
  obtain ⟨x, hx, rfl⟩ := Option.map_eq_some_iff.1 hread
  exact ⟨x, rfl, (Option.filter_eq_some_iff.1 hx).2⟩

/-- The text under a key stands for a finite double. -/
def GivesNumber (texts : Dict String) (key : String) (x : Float) : Prop :=
  ∃ text, texts.get? key = some text ∧ float.decode (.one text) = .ok (.float x) ∧
    Binary64.isFinite x = true

/-- A text stands for one double. -/
theorem GivesNumber.unique {key : String} {x y : Float} (hx : GivesNumber texts key x)
    (hy : GivesNumber texts key y) : x = y := by
  obtain ⟨text, htext, hdecode, -⟩ := hx
  obtain ⟨text', htext', hdecode', -⟩ := hy
  obtain rfl := Option.some.inj (htext.symm.trans htext')
  exact Value.float.inj (Except.ok.inj (hdecode.symm.trans hdecode'))

/-- The group has a longitude and a latitude and nothing else, and they stand for the numbers of the
place. -/
structure GivesPlace (texts : Dict String) (place : Point) : Prop where
  mem_keys_iff : ∀ key, key ∈ texts.keys ↔ key = "lng" ∨ key = "lat"
  lng : GivesNumber texts "lng" place.lng
  lat : GivesNumber texts "lat" place.lat

/-- Where a place is given, a number is given under each key. -/
theorem GivesPlace.exists_number {place : Point} (h : GivesPlace texts place) {key : String}
    (hkey : key ∈ texts.keys) : ∃ x, GivesNumber texts key x := by
  rcases (h.mem_keys_iff key).1 hkey with rfl | rfl
  · exact ⟨place.lng, h.lng⟩
  · exact ⟨place.lat, h.lat⟩

/-- The group of a longitude and a latitude. -/
def coordinates : Codec :=
  group float (some coordinateKeys) (some coordinateKeys)

theorem mem_coordinateKeys {key : String} :
    key ∈ coordinateKeys.keys ↔ key = "lng" ∨ key = "lat" := by
  rw [← Dict.contains_iff, coordinateKeys, KeySet.contains_ofKeys, List.mem_pair]

/-- A longitude and a latitude are all keys there must and may be. -/
theorem mem_keys_iff_of_coordinates :
    (∀ key, key ∈ texts.keys ↔ key = "lng" ∨ key = "lat") ↔
      (∀ key, ¬Unexpected (some coordinateKeys) texts key) ∧
        ∀ key, ¬Missing (some coordinateKeys) texts key := by
  simp only [Unexpected, Missing, Option.some.injEq, exists_eq_left', mem_coordinateKeys, not_and,
    not_not, ← forall_and, iff_iff_implies_and_implies]

/-- The number under a key of a decoded group is the one that the text there stands for. -/
theorem givesNumber_of_decoded {entries : Entries Value}
    (h : List.Forall₂
      (fun text entry => text.1 = entry.1 ∧ float.decode (.one text.2) = .ok entry.2)
      texts.entries entries) {key : String} (hkey : key ∈ texts.keys) :
    ∃ x, GivesNumber texts key x ∧ coordinate (.map entries) key = .ok x := by
  obtain ⟨text, htext⟩ := Entries.exists_get?_of_mem_keys hkey
  obtain ⟨value, hvalue, hdecode⟩ := get?_of_decoded (fun text => float.decode (.one text)) h htext
  obtain ⟨x, rfl, hfinite⟩ := isFinite_of_decode_float hdecode
  refine ⟨x, ⟨text, htext, hdecode, hfinite⟩, ?_⟩
  rw [coordinate, Value.getPath?, hvalue]
  rfl

/-- A decoded group of a longitude and a latitude gives a place, of which both numbers are found. -/
theorem givesPlace_of_decode {raw : Raw} {decoded : Value}
    (h : coordinates.decode raw = .ok decoded) : ∃ texts place, raw = .group texts ∧
      GivesPlace texts place ∧ coordinate decoded "lng" = .ok place.lng ∧
        coordinate decoded "lat" = .ok place.lat := by
  cases raw with
  | one text | many texts => cases h
  | group texts =>
    rw [coordinates, Codec.decode, decodeGroup_eq_iff] at h
    obtain _ | _ | _ | ⟨hexpected, hcomplete, hentries⟩ := h
    have hkeys := mem_keys_iff_of_coordinates.2 ⟨hexpected, hcomplete⟩
    obtain ⟨lng, hlng, hlng'⟩ := givesNumber_of_decoded hentries ((hkeys _).2 (.inl rfl))
    obtain ⟨lat, hlat, hlat'⟩ := givesNumber_of_decoded hentries ((hkeys _).2 (.inr rfl))
    exact ⟨texts, ⟨lng, lat⟩, rfl, ⟨hkeys, hlng, hlat⟩, hlng', hlat'⟩

/-- A group that gives a place is decoded. -/
theorem GivesPlace.exists_decode {place : Point} (h : GivesPlace texts place) :
    ∃ decoded, coordinates.decode (.group texts) = .ok decoded := by
  obtain ⟨hexpected, hcomplete⟩ := mem_keys_iff_of_coordinates.1 h.mem_keys_iff
  cases hdecode : coordinates.decode (.group texts) with
  | ok decoded => exact ⟨decoded, rfl⟩
  | error e =>
    rw [coordinates, Codec.decode, decodeGroup_eq_iff] at hdecode
    cases hdecode with
    | unexpected hne hkeys => exact absurd (hkeys.eq_nil_iff.2 hexpected) hne
    | missing _ hne hkeys => exact absurd (hkeys.eq_nil_iff.2 hcomplete) hne
    | faulty _ _ hfault =>
      obtain ⟨text, htext, hcause⟩ := hfault.fails
      obtain ⟨x, text', htext', hok, -⟩ :=
        h.exists_number (List.mem_map.2 ⟨_, Entries.mem_of_get? htext, rfl⟩)
      obtain rfl := Option.some.inj (htext.symm.trans htext')
      cases hcause.symm.trans hok

/-- A longitude and a latitude are decoded exactly if they give a place, as that place. -/
theorem decode_geoPoint_eq_ok_iff {raw : Raw} {v : Value} :
    geoPoint.decode raw = .ok v ↔
      ∃ texts place, raw = .group texts ∧ GivesPlace texts place ∧ v = Value.point place := by
  constructor
  · intro h
    obtain ⟨decoded, hdecoded, hpoint⟩ := bind_eq_ok_iff.1 h
    obtain ⟨texts, place, rfl, hplace, hlng, hlat⟩ := givesPlace_of_decode hdecoded
    rw [hlng, hlat] at hpoint
    exact ⟨texts, place, rfl, hplace, (Except.ok.inj hpoint).symm⟩
  · rintro ⟨texts, place, rfl, hplace, rfl⟩
    obtain ⟨decoded, hdecoded⟩ := hplace.exists_decode
    -- The decoded group gives a place too, which is the same one.
    obtain ⟨texts, place', ⟨⟩, hplace', hlng, hlat⟩ := givesPlace_of_decode hdecoded
    rw [hplace'.lng.unique hplace.lng] at hlng
    rw [hplace'.lat.unique hplace.lat] at hlat
    refine bind_eq_ok_iff.2 ⟨decoded, hdecoded, ?_⟩
    rw [hlng, hlat]
    rfl

/-- A longitude and a latitude are refused exactly if their group is, for the same reason. -/
theorem decode_geoPoint_eq_error_iff {raw : Raw} {e : CodecError} :
    geoPoint.decode raw = .error e ↔ coordinates.decode raw = .error e := by
  refine bind_eq_error_iff.trans (or_iff_left ?_)
  rintro ⟨decoded, hdecoded, hpoint⟩
  obtain ⟨texts, place, -, -, hlng, hlat⟩ := givesPlace_of_decode hdecoded
  rw [hlng, hlat] at hpoint
  cases hpoint

/-- Sequences and groups have just the results of sequences and groups, with any codec of their
elements; a text alone is a sequence. A longitude and a latitude are decoded exactly if they give a
place, to a point at which this place is read back. Where their group is decoded both are found, so
they are refused for no reason but those of the group. -/
theorem decode_compound :
    (∀ (child : Codec) (texts : List String) (result : Except CodecError Value),
      (list child).decode (.many texts) = result ↔
        SequenceResult (fun text => child.decode (.one text)) texts result) ∧
    (∀ (child : Codec) (text : String),
      (list child).decode (.one text) = (list child).decode (.many [text])) ∧
    (∀ (child : Codec) (valid required : Option KeySet) (texts : Dict String)
      (result : Except CodecError Value),
      (group child valid required).decode (.group texts) = result ↔
        GroupResult (fun text => child.decode (.one text)) valid required texts result) ∧
    (∀ (raw : Raw) (v : Value), geoPoint.decode raw = .ok v ↔ ∃ texts place, raw = .group texts ∧
      GivesPlace texts place ∧ v = Value.point place ∧ v.asPoint? = some place) ∧
    (∀ (raw : Raw) (e : CodecError),
      geoPoint.decode raw = .error e ↔ coordinates.decode raw = .error e) ∧
    ∀ (raw : Raw) (decoded : Value), coordinates.decode raw = .ok decoded →
      ∀ key ∈ ["lng", "lat"], ∃ x, coordinate decoded key = .ok x := by
  refine ⟨fun _ _ _ => decode_list_eq_iff, fun _ _ => rfl, fun _ _ _ _ _ => ?_, fun raw v => ?_,
    fun _ _ => decode_geoPoint_eq_error_iff, fun raw decoded h => ?_⟩
  · rw [Codec.decode, decodeGroup_eq_iff]
  · rw [decode_geoPoint_eq_ok_iff]
    refine exists_congr fun texts => exists_congr fun place => ?_
    have hread : v = Value.point place → v.asPoint? = some place :=
      fun h => h ▸ Value.asPoint?_point place
    rw [and_iff_left_of_imp hread]
  · obtain ⟨texts, place, -, -, hlng, hlat⟩ := givesPlace_of_decode h
    exact List.forall_mem_cons.2 ⟨⟨_, hlng⟩, List.forall_mem_singleton.2 ⟨_, hlat⟩⟩

/-- A place, and a list of which the second text is the first that is no integer. -/
theorem decode_compound_place :
    let texts : Dict String := .ofList [("lng", "60"), ("lat", "-0.5")]
    let place : Point := ⟨60, -0.5⟩
    geoPoint.decode (.group texts) = .ok (Value.point place) ∧
      (∃ decoded x, coordinates.decode (.group texts) = .ok decoded ∧
        coordinate decoded "lat" = .ok x) ∧
      (list integer).decode (.many ["1", "x", "y"]) =
        .error (.item "1" (.invalid "x" .integer)) := by
  intro texts place
  have hplace : GivesPlace texts place := {
    mem_keys_iff := by
      have hkeys : texts.keys = ["lat", "lng"] := by decide +kernel
      simp [hkeys, or_comm]
    lng := ⟨"60", by decide +kernel, rfl, by decide +kernel⟩
    lat := ⟨"-0.5", by decide +kernel, rfl, by decide +kernel⟩ }
  obtain ⟨hlist, -, -, hgeo, -, hfound⟩ := decode_compound
  have hpoint := (hgeo (.group texts) _).2
    ⟨texts, place, rfl, hplace, rfl, Value.asPoint?_point place⟩
  obtain ⟨decoded, hdecoded⟩ := hplace.exists_decode
  obtain ⟨x, hx⟩ := hfound _ _ hdecoded "lat" (by decide)
  have hfault : FirstFault (fun text => integer.decode (.one text))
      (fun i : Nat => ["1", "x", "y"][i]?) 1 (.invalid "x" .integer) :=
    .succ rfl (.at_start rfl ["y"])
  have hplaceText : Digits.natText 1 = "1" := by decide +kernel
  refine ⟨hpoint, ⟨decoded, x, hdecoded, hx⟩, ?_⟩
  rw [← hplaceText]
  exact (hlist _ _ _).2 (.faulty hfault)

end Codec

end QueryFilters
