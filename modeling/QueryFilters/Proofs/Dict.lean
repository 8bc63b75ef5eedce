import Mathlib.Data.List.Sort
import QueryFilters.Proofs.Roster

/-!
# Dictionaries by their values

Two lists of entries in ascending order that lead every key to the same value are the same
(`Entries.Ascending.eq_of_get?`), so a dictionary is what it answers (`Dict.eq_of_get?`). The
dictionary of a list of pairs leads a key to the value that stands last under it
(`Dict.get?_ofList`).
-/

namespace QueryFilters

namespace Entries

variable {α : Type u}

theorem Ascending.nodup_keys {entries : Entries α} (h : entries.Ascending) :
    (entries.map Prod.fst).Nodup := by
  refine List.pairwise_map.2 (h.imp fun {a b} hlt heq => ?_)
  simp [heq] at hlt

/-- A new entry comes to stand somewhere among the others. -/
theorem insert_perm {key : String} {entries : Entries α} (hkey : key ∉ entries.map Prod.fst)
    (value : α) : (entries.insert key value).Perm ((key, value) :: entries) := by
  induction entries with
  | nil => exact .refl _
  | cons head rest ih =>
    obtain ⟨k, v⟩ := head
    rw [List.map_cons, List.mem_cons, not_or] at hkey
    rw [insert]
    split
    · exact .refl _
    · next heq => exact absurd (Std.LawfulEqCmp.eq_of_compare heq) hkey.1
    · exact ((ih hkey.2).cons (k, v)).trans (.swap ..)

/-- In ascending order, an entry is what its key leads to. -/
theorem Ascending.mem_iff {entries : Entries α} (h : entries.Ascending) {key : String} {value : α} :
    (key, value) ∈ entries ↔ entries.get? key = some value :=
  ⟨get?_of_mem h.nodup_keys, mem_of_get?⟩

/-- Entries in ascending order that lead every key to the same value are the same. -/
theorem Ascending.eq_of_get? {entries entries' : Entries α} (h : entries.Ascending)
    (h' : entries'.Ascending) (hget : ∀ key, entries.get? key = entries'.get? key) :
    entries = entries' := by
  have hmem : ∀ entry, entry ∈ entries ↔ entry ∈ entries' := by
    rintro ⟨key, value⟩
    rw [h.mem_iff, h'.mem_iff, hget]
  have hperm : entries.Perm entries' :=
    (List.perm_ext_iff_of_nodup h.nodup_keys.of_map h'.nodup_keys.of_map).2 hmem
  refine hperm.eq_of_pairwise (fun a b _ _ hab hba => ?_) h h'
  rw [Std.OrientedOrd.eq_swap, hba] at hab
  cases hab

/-- The value that stands last under a key is the last of those that stand under it. -/
theorem last?_eq_getLast? (key : String) (entries : Entries α) :
    last? key entries = ((entries.filter fun entry => entry.1 == key).map Prod.snd).getLast? := by
  induction entries with
  | nil => rfl
  | cons head rest ih =>
    obtain ⟨k, v⟩ := head
    rw [last?, ih]
    by_cases hk : k = key
    · simp only [List.filter_cons, hk, beq_self_eq_true, if_true, List.map_cons, List.getLast?_cons]
      cases ((rest.filter fun entry => entry.1 == key).map Prod.snd).getLast? <;> rfl
    · simp only [List.filter_cons, hk, beq_iff_eq, if_false, Option.or_none]

/-- Renaming keys without confusing them moves the last value of a key to its new name. -/
theorem last?_map {rename : String → String} (hinj : Function.Injective rename) (key : String)
    (entries : Entries α) :
    last? (rename key) (entries.map fun entry => (rename entry.1, entry.2)) =
      last? key entries := by
  induction entries with
  | nil => rfl
  | cons head rest ih =>
    obtain ⟨k, v⟩ := head
    rw [List.map_cons, last?, ih, last?]
    simp only [hinj.eq_iff]

end Entries

namespace Dict

variable {α : Type u}

/-- Dictionaries that lead every key to the same value are the same. -/
theorem eq_of_get? {d d' : Dict α} (h : ∀ key, d.get? key = d'.get? key) : d = d' := by
  obtain ⟨entries, hentries⟩ := d
  obtain ⟨entries', hentries'⟩ := d'
  obtain rfl : entries = entries' := hentries.eq_of_get? hentries' h
  rfl

/-- The dictionary of a list of pairs leads a key to the value that stands last under it. -/
theorem get?_ofList (pairs : List (String × α)) (key : String) :
    (ofList pairs).get? key = Entries.last? key pairs := by
  have hget := Entries.get?_insertAll pairs [] key
  rwa [Entries.get?, Option.or_none] at hget

theorem get?_empty (key : String) : (empty : Dict α).get? key = none :=
  rfl

/-- After a value is put somewhere, the dictionary is not empty. -/
@[simp]
theorem isEmpty_insert (d : Dict α) (key : String) (value : α) :
    (d.insert key value).isEmpty = false := by
  cases hempty : (d.insert key value).isEmpty with
  | false => rfl
  | true =>
    have hget : (d.insert key value).get? key = some value := by rw [get?_insert, if_pos rfl]
    rw [get?, List.isEmpty_iff.1 hempty] at hget
    cases hget

end Dict

/-- The set of some keys contains those keys. -/
theorem KeySet.contains_ofKeys {keys : List String} {key : String} :
    (KeySet.ofKeys keys).contains key = true ↔ key ∈ keys := by
  rw [Dict.contains, ofKeys, Dict.get?_ofList, Option.isSome_iff_ne_none, ne_eq,
    Entries.last?_eq_none_iff, not_not, List.map_map]
  exact iff_of_eq (congrArg _ (List.map_id keys))

end QueryFilters
