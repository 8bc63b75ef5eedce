import Mathlib.Data.List.Forall2
import QueryFilters.Codec.Basic
import QueryFilters.Proofs.Dict
import QueryFilters.Proofs.Outcome

/-!
# What codecs answer

Each codec decodes to values of one type, whatever its elements are decoded to; that of truth values
may also answer null, and only a codec of another rule may answer anything
(`Codec.answers_of_decode`). Sequences and groups are decoded text by text, each to a value of its
own (`Codec.decodeItems_eq_ok_iff`, `Codec.decodeEntries_eq_ok_iff`).
-/

namespace QueryFilters

/-- The place of a stored point is read back. -/
theorem Value.asPoint?_point (p : Point) : (Value.point p).asPoint? = some p := by
  have htype : Entries.get? "type" (Entries.ofList
      [("type", Value.string "Point"), ("coordinates", .list [.float p.lng, .float p.lat])]) =
        some (.string "Point") := by
    simp [Entries.ofList, Entries.insertAll, Entries.get?_insert]
  have hpair : Entries.get? "coordinates" (Entries.ofList
      [("type", Value.string "Point"), ("coordinates", .list [.float p.lng, .float p.lat])]) =
        some (.list [.float p.lng, .float p.lat]) := by
    simp [Entries.ofList, Entries.insertAll, Entries.get?_insert]
  rw [Value.point, Value.ofPairs, Value.asPoint?, htype, hpair]
  rfl

/-- A decoded scalar was read from some text. -/
theorem Scalar.exists_read_of_decode {expected : Expectation} {read? : String → Option Value}
    {raw : Raw} {v : Value} (h : decode expected read? raw = .ok v) :
    ∃ text, read? text = some v := by
  obtain ⟨text, -, htext⟩ := bind_eq_ok_iff.1 h
  dsimp only at htext
  split at htext
  · next value hread => exact ⟨_, Except.ok.inj htext ▸ hread⟩
  · cases htext

/-- Decoded text is text. -/
theorem Scalar.exists_text_of_decodeText {trimmed : Bool} {raw : Raw} {v : Value}
    (h : decodeText trimmed raw = .ok v) : ∃ text, v = .string text := by
  obtain ⟨text, -, htext⟩ := bind_eq_ok_iff.1 h
  dsimp only at htext
  generalize (if trimmed then Text.trim text else text) = shown at htext
  split at htext
  · cases htext
  · exact ⟨shown, (Except.ok.inj htext).symm⟩

namespace Codec

/-- Whether a codec may decode to a value. -/
def answers : Codec → Value → Bool
  | string _, v => v.type == .string
  | integer, v => v.type == .int
  | float, v => v.type == .float
  | boolean, v => v.type == .bool || v.isNull
  | uuid, v => v.type == .uuid
  | objectId, v => v.type == .objectId
  | dateTime _, v => v.type == .dateTime
  | date, v => v.type == .date
  | list _, v => v.type == .list
  | group .., v => v.type == .map
  | geoPoint, v => v.asPoint?.isSome
  | custom .., _ => true

/-- A text stands for a truth value or for null. -/
theorem answers_boolean {text : String} {v : Value} (h : Scalar.boolean? text = some v) :
    boolean.answers v = true := by
  unfold Scalar.boolean? at h
  dsimp only at h
  split at h
  · rw [← Option.some.inj h]
    rfl
  · split at h
    · rw [← Option.some.inj h]
      rfl
    · split at h
      · rw [← Option.some.inj h]
        rfl
      · cases h

/-- A codec decodes to the values it may decode to. -/
theorem answers_of_decode {codec : Codec} {raw : Raw} {v : Value} (h : codec.decode raw = .ok v) :
    codec.answers v = true := by
  cases codec with
  | string trimmed =>
    obtain ⟨text, rfl⟩ := Scalar.exists_text_of_decodeText h
    rfl
  | integer | float | uuid | objectId | dateTime | date =>
    simp only [decode, decodeFloat, decodeDateTime] at h
    obtain ⟨text, htext⟩ := Scalar.exists_read_of_decode h
    obtain ⟨x, -, rfl⟩ := Option.map_eq_some_iff.1 htext
    rfl
  | boolean =>
    obtain ⟨text, htext⟩ := Scalar.exists_read_of_decode h
    exact answers_boolean htext
  | list child =>
    cases raw with
    | one text | many texts =>
      rw [decode] at h
      cases hitems : decodeItems (fun text => decode child (.one text)) 0 _ with
      | error e => rw [hitems] at h; cases h
      | ok items =>
        rw [hitems] at h
        rw [← Except.ok.inj h]
        rfl
    | group texts => cases h
  | group child valid required =>
    cases raw with
    | one text | many texts => cases h
    | group texts =>
      obtain ⟨-, -, hentries⟩ := bind_eq_ok_iff.1 h
      obtain ⟨entries, -, hv⟩ := bind_eq_ok_iff.1 hentries
      rw [← Except.ok.inj hv]
      rfl
  | geoPoint =>
    obtain ⟨decoded, -, hlng⟩ := bind_eq_ok_iff.1 h
    obtain ⟨lng, -, hlat⟩ := bind_eq_ok_iff.1 hlng
    obtain ⟨lat, -, hv⟩ := bind_eq_ok_iff.1 hlat
    rw [← Except.ok.inj hv, answers, Value.asPoint?_point]
    rfl
  | custom shape rule => rfl

/-! ### Texts decoded one by one -/

variable {decode : String → Except CodecError Value}

/-- A sequence decodes to the values that its texts decode to. -/
theorem decodeItems_eq_ok_iff {index : Nat} {texts : List String} {values : List Value} :
    decodeItems decode index texts = .ok values ↔
      List.Forall₂ (fun text value => decode text = .ok value) texts values := by
  induction texts generalizing index values with
  | nil =>
    rw [decodeItems, List.forall₂_nil_left_iff, Except.ok.injEq]
    exact eq_comm
  | cons text texts ih =>
    simp only [decodeItems, List.forall₂_cons_left_iff, ← @ih (index + 1)]
    cases decode text with
    | error cause => simp
    | ok value => cases decodeItems decode (index + 1) texts <;> simp [eq_comm]

/-- A group decodes to the values that its texts decode to, each under the key of its text. -/
theorem decodeEntries_eq_ok_iff {texts : List (String × String)}
    {entries : List (String × Value)} :
    decodeEntries decode texts = .ok entries ↔
      List.Forall₂ (fun text entry => text.1 = entry.1 ∧ decode text.2 = .ok entry.2)
        texts entries := by
  induction texts generalizing entries with
  | nil =>
    rw [decodeEntries, List.forall₂_nil_left_iff, Except.ok.injEq]
    exact eq_comm
  | cons text texts ih =>
    simp only [decodeEntries, List.forall₂_cons_left_iff, ← ih]
    cases decode text.2 with
    | error cause => simp
    | ok value => cases decodeEntries decode texts <;> simp [eq_comm]

/-- Decoding a sequence gives the list of what its texts decode to. -/
theorem decode_list_eq_ok_iff {child : Codec} {texts : List String} {v : Value} :
    (list child).decode (.many texts) = .ok v ↔ ∃ items,
      List.Forall₂ (fun text value => child.decode (.one text) = .ok value) texts items ∧
        v = .list items := by
  simp only [Codec.decode, ← @decodeItems_eq_ok_iff _ 0]
  cases decodeItems (fun text => child.decode (.one text)) 0 texts <;> simp [Except.map, eq_comm]

/-- The keys of a range are `min` and `max`. -/
theorem checkKeys_range_eq_ok_iff {group : Dict String} :
    checkKeys (some (KeySet.ofKeys ["min", "max"])) none group = .ok () ↔
      ∀ key ∈ group.keys, key ∈ ["min", "max"] := by
  have hvalid : ∀ key, (!(some (KeySet.ofKeys ["min", "max"])).all (·.contains key)) = false ↔
      key ∈ ["min", "max"] := by
    intro key
    rw [Bool.not_eq_false', Option.all_some, KeySet.contains_ofKeys]
  simp only [← hvalid]
  simp [checkKeys]

/-- Decoding the bounds of a range gives a map of what their texts decode to. -/
theorem decode_range_eq_ok_iff {child : Codec} {texts : Dict String} {v : Value} :
    (range child).decode (.group texts) = .ok v ↔
      (∀ key ∈ texts.keys, key ∈ ["min", "max"]) ∧ ∃ entries,
        List.Forall₂ (fun text entry => text.1 = entry.1 ∧ child.decode (.one text.2) = .ok entry.2)
          texts.entries entries ∧ v = .map entries := by
  rw [range, Codec.decode, decodeGroup, ← checkKeys_range_eq_ok_iff]
  constructor
  · intro h
    obtain ⟨_, hkeys, h⟩ := bind_eq_ok_iff.1 h
    obtain ⟨entries, hentries, hv⟩ := bind_eq_ok_iff.1 h
    exact ⟨hkeys, entries, decodeEntries_eq_ok_iff.1 hentries, (Except.ok.inj hv).symm⟩
  · rintro ⟨hkeys, entries, hentries, rfl⟩
    exact bind_eq_ok_iff.2
      ⟨(), hkeys, bind_eq_ok_iff.2 ⟨entries, decodeEntries_eq_ok_iff.2 hentries, rfl⟩⟩

end Codec

end QueryFilters
