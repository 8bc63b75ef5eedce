import QueryFilters.Json.Extended
import QueryFilters.Proofs.Key
import QueryFilters.Proofs.Number.Digits

/-!
# Identifiers that read back

An identifier is written with as many hexadecimal digits as its bits fill, and these denote its
bits. The text of a document identifier reads back by itself and in extended JSON
(`ObjectId.ofJson?_tagged`), and that of a universally unique identifier in its groups
(`Uuid.ofText?_toText`).
-/

namespace QueryFilters

namespace ObjectId

/-- The digits of an identifier give the identifier. -/
theorem ofHex?_toHex (id : ObjectId) : ofHex? id.toHex.toList = some id := by
  have hlength : (Digits.hexPadded 24 id.bits.toNat).length = 24 :=
    Digits.length_hexPadded (by decide) id.bits.isLt
  rw [ofHex?, toHex, String.toList_ofList, if_pos hlength, Digits.hexToNat?_hexPadded,
    Option.map_some, BitVec.ofNat_toNat, BitVec.setWidth_eq]

/-- An identifier is given by an object that names the type of its digits. -/
theorem ofJson?_tagged (id : ObjectId) :
    ofJson? (.object [("$oid", .string id.toHex)]) = some id := by
  have hname : ExtendedJson.Tag.ofName? "$oid" = some .objectId := rfl
  have hcode : "$oid" ≠ "$code" := by decide
  have hscope : "$oid" ≠ "$scope" := by decide
  simp only [ofJson?, ExtendedJson.ofMembers?, if_neg hcode, if_neg hscope, hname, List.isEmpty_nil,
    if_true, ExtendedJson.Tag.read?, ofHex?_toHex, Option.map_some]

end ObjectId

namespace Uuid

theorem ofDigits?_hexPadded (id : Uuid) :
    ofDigits? (Digits.hexPadded 32 id.bits.toNat) = some id := by
  rw [ofDigits?, Digits.hexToNat?_hexPadded, Option.map_some, BitVec.ofNat_toNat,
    BitVec.setWidth_eq]

/-- Digits are read through the dashes between their groups. -/
theorem ofGroups?_intercalate {groups : List (List Char)}
    (hlengths : groups.map List.length = [8, 4, 4, 4, 12])
    (hdash : ∀ group ∈ groups, '-' ∉ group) :
    ofGroups? (['-'].intercalate groups) = ofDigits? groups.flatten := by
  have hne : groups ≠ [] := by
    rintro rfl
    cases hlengths
  rw [ofGroups?, Text.splitOn_intercalate hne hdash, if_pos hlengths]

/-- The groups of digits that the text of an identifier has. -/
def groups (digits : List Char) : List (List Char) :=
  [(digits.drop 0).take 8, (digits.drop 8).take 4, (digits.drop 12).take 4,
    (digits.drop 16).take 4, (digits.drop 20).take 12]

theorem toText_eq (id : Uuid) :
    id.toText.toList = ['-'].intercalate (groups (Digits.hexPadded 32 id.bits.toNat)) :=
  String.toList_ofList

/-- The groups hold all digits, in order. -/
theorem flatten_groups {digits : List Char} (h : digits.length = 32) :
    (groups digits).flatten = digits := by
  have hlast : (digits.drop 20).take 12 = digits.drop 20 := List.take_of_length_le (by simp [h])
  have hgroup (start count : Nat) : (digits.drop start).take count ++ digits.drop (start + count) =
      digits.drop start := by
    rw [← List.drop_drop, List.take_append_drop]
  simp only [groups, List.flatten_cons, List.flatten_nil, List.append_nil, hlast, hgroup]
  rfl

/-- The text of an identifier reads back as the identifier. -/
theorem ofText?_toText (id : Uuid) : ofText? id.toText.toList = some id := by
  have hlength : (Digits.hexPadded 32 id.bits.toNat).length = 32 :=
    Digits.length_hexPadded (by decide) id.bits.isLt
  have hmem := Digits.mem_of_mem_hexPadded 32 id.bits.toNat
  have hread := ofDigits?_hexPadded id
  rw [toText_eq]
  generalize Digits.hexPadded 32 id.bits.toNat = digits at hlength hmem hread ⊢
  have hflat := flatten_groups hlength
  have hlengths : (groups digits).map List.length = [8, 4, 4, 4, 12] := by
    simp [groups, hlength]
  have hdash : ∀ group ∈ groups digits, '-' ∉ group := fun group hgroup hdash =>
    absurd (hmem '-' (hflat ▸ List.mem_flatten_of_mem hgroup hdash)) (by decide)
  have htext : (['-'].intercalate (groups digits)).length ≠ 32 := by
    simp [groups, List.intercalate, hlength]
  -- A digit leads the text, so it is neither in braces nor after `urn:uuid:`.
  obtain ⟨c, rest, hc, hrest⟩ : ∃ c rest, c ∈ digits ∧
      ['-'].intercalate (groups digits) = c :: rest := by
    cases digits with
    | nil => cases hlength
    | cons c digits => exact ⟨c, _, .head _, rfl⟩
  have hbrace : c ≠ '\x7b' := by
    rintro rfl
    exact absurd (hmem _ hc) (by decide)
  have hlower : ("0123456789abcdef".toList.all fun d => d.toLower != 'u') = true := by decide
  have hurn : c.toLower ≠ 'u' := bne_iff_ne.1 (List.all_eq_true.1 hlower c (hmem c hc))
  have hbraced : braced? (c :: rest) = none := by
    unfold braced?
    split
    · next heq => exact absurd (List.cons.inj heq).1 hbrace
    · rfl
  have hafter : afterUrn? (c :: rest) = none := by
    have hstart : "urn:uuid:".toList = 'u' :: "rn:uuid:".toList := rfl
    rw [afterUrn?, hstart, List.map_cons, Text.after?, if_neg (Ne.symm hurn)]
  rw [ofText?, if_neg htext, hrest, hbraced, hafter, Option.getD_none, ← hrest,
    ofGroups?_intercalate hlengths hdash, hflat, hread]

end Uuid

end QueryFilters
