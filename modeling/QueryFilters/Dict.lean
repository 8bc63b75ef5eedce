/-!
# Dictionaries

Associations of keys with values in ascending order of the keys, each key once. `Entries` holds the
operations on plain lists of pairs and `Dict` the lists that are in order.
-/

namespace QueryFilters

/-- Pairs of keys and values. -/
abbrev Entries (α : Type u) := List (String × α)

namespace Entries

variable {α : Type u}

/-- Whether the keys ascend. -/
def Ascending (entries : Entries α) : Prop :=
  entries.Pairwise fun a b => compare a.1 b.1 = .lt

/-- Puts a value under a key, in place of the value that is there. -/
def insert (key : String) (value : α) : Entries α → Entries α
  | [] => [(key, value)]
  | (k, v) :: rest =>
    match compare key k with
    | .lt => (key, value) :: (k, v) :: rest
    | .eq => (key, value) :: rest
    | .gt => (k, v) :: insert key value rest

/-- Puts a value under a key. A key that is there keeps its place and takes the new value; a new key
comes last. -/
def put (key : String) (value : α) : Entries α → Entries α
  | [] => [(key, value)]
  | (k, v) :: rest => if k = key then (k, value) :: rest else (k, v) :: put key value rest

/-- Puts pairs one after the other, so that each key stands where it comes first, with the value
that comes last. -/
def putAll (pairs : List (String × α)) (entries : Entries α) : Entries α :=
  pairs.foldl (fun entries pair => put pair.1 pair.2 entries) entries

/-- The value under a key. -/
def get? (key : String) : Entries α → Option α
  | [] => none
  | (k, v) :: rest => if k = key then some v else get? key rest

/-- Puts pairs one after the other, so that the last of equal keys wins. -/
def insertAll (pairs : List (String × α)) (entries : Entries α) : Entries α :=
  pairs.foldl (fun entries pair => insert pair.1 pair.2 entries) entries

/-- The pairs in ascending order; of equal keys the last one stays. -/
def ofList (pairs : List (String × α)) : Entries α :=
  insertAll pairs []

theorem eq_or_mem_of_mem_insert {key : String} {value : α} {entries : Entries α}
    {pair : String × α} (h : pair ∈ insert key value entries) :
    pair = (key, value) ∨ pair ∈ entries := by
  induction entries with
  | nil => simpa [insert] using h
  | cons head rest ih =>
    obtain ⟨k, v⟩ := head
    simp only [insert] at h
    split at h
    · simpa using h
    · rcases List.mem_cons.1 h with h | h
      · exact .inl h
      · exact .inr (List.mem_cons_of_mem _ h)
    · rcases List.mem_cons.1 h with h | h
      · exact .inr (h ▸ List.mem_cons_self)
      · exact (ih h).imp id (List.mem_cons_of_mem _)

/-- Putting a value keeps the keys in order. -/
theorem Ascending.insert {entries : Entries α} (h : entries.Ascending) (key : String) (value : α) :
    (Entries.insert key value entries).Ascending := by
  induction entries with
  | nil => simp [Entries.insert, Ascending]
  | cons head rest ih =>
    obtain ⟨k, v⟩ := head
    obtain ⟨hk, hrest⟩ := List.pairwise_cons.1 h
    simp only [Entries.insert]
    split
    · next hlt =>
      refine List.pairwise_cons.2 ⟨fun pair hp => ?_, h⟩
      rcases List.mem_cons.1 hp with rfl | hp
      · exact hlt
      · exact Std.TransCmp.lt_trans hlt (hk pair hp)
    · next heq =>
      have := Std.LawfulEqCmp.eq_of_compare heq
      subst this
      exact List.pairwise_cons.2 ⟨hk, hrest⟩
    · next hgt =>
      refine List.pairwise_cons.2 ⟨fun pair hp => ?_, ih hrest⟩
      rcases eq_or_mem_of_mem_insert hp with rfl | hp
      · exact Std.OrientedCmp.lt_of_gt hgt
      · exact hk pair hp

theorem Ascending.insertAll {entries : Entries α} (h : entries.Ascending)
    (pairs : List (String × α)) : (Entries.insertAll pairs entries).Ascending := by
  induction pairs generalizing entries with
  | nil => exact h
  | cons pair pairs ih => exact ih (h.insert pair.1 pair.2)

theorem ascending_ofList (pairs : List (String × α)) : (ofList pairs).Ascending :=
  Ascending.insertAll List.Pairwise.nil pairs

/-- After a value is put under a key, it is found there and nothing else has changed. -/
theorem get?_insert (key : String) (value : α) (entries : Entries α) (k : String) :
    (entries.insert key value).get? k = if key = k then some value else entries.get? k := by
  induction entries with
  | nil => simp [insert, get?]
  | cons head rest ih =>
    obtain ⟨k', v'⟩ := head
    simp only [insert]
    split
    · simp [get?]
    · next heq =>
      obtain rfl := Std.LawfulEqCmp.eq_of_compare heq
      by_cases h : key = k <;> simp [get?, h]
    · next hgt =>
      have hne : key ≠ k' := by
        rintro rfl
        simp at hgt
      by_cases h : k' = k
      · simp [get?, h, h ▸ hne]
      · simp [get?, h, ih]

/-- Putting a value adds no key but the given one. -/
theorem mem_keys_put {key : String} {value : α} {entries : Entries α} {k : String}
    (h : k ∈ (entries.put key value).map Prod.fst) : k = key ∨ k ∈ entries.map Prod.fst := by
  induction entries with
  | nil => simpa [put] using h
  | cons head rest ih =>
    obtain ⟨k', v'⟩ := head
    by_cases hk : k' = key
    · simp only [put, if_pos hk] at h
      exact .inr h
    · simp only [put, if_neg hk, List.map_cons, List.mem_cons] at h ⊢
      rcases h with h | h
      · exact .inr (.inl h)
      · exact (ih h).imp id .inr

/-- Putting a value leaves each key once. -/
theorem nodup_keys_put {entries : Entries α} (h : (entries.map Prod.fst).Nodup) (key : String)
    (value : α) : ((entries.put key value).map Prod.fst).Nodup := by
  induction entries with
  | nil => simp [put]
  | cons head rest ih =>
    obtain ⟨k, v⟩ := head
    obtain ⟨hk, hrest⟩ := List.nodup_cons.1 h
    by_cases hkey : k = key
    · simp only [put, if_pos hkey]
      exact List.nodup_cons.2 ⟨hk, hrest⟩
    · simp only [put, if_neg hkey]
      refine List.nodup_cons.2 ⟨fun hmem => ?_, ih hrest⟩
      rcases mem_keys_put hmem with h' | h'
      · exact hkey h'
      · exact hk h'

theorem nodup_keys_putAll {entries : Entries α} (h : (entries.map Prod.fst).Nodup)
    (pairs : List (String × α)) : ((entries.putAll pairs).map Prod.fst).Nodup := by
  induction pairs generalizing entries with
  | nil => exact h
  | cons pair pairs ih => exact ih (nodup_keys_put h pair.1 pair.2)

/-- After a value is put under a key, it is found there and nothing else has changed. -/
theorem get?_put (key : String) (value : α) (entries : Entries α) (k : String) :
    (entries.put key value).get? k = if key = k then some value else entries.get? k := by
  induction entries with
  | nil => simp [put, get?]
  | cons head rest ih =>
    obtain ⟨k', v'⟩ := head
    by_cases hk : k' = key
    · by_cases h : key = k <;> simp [put, get?, hk, h]
    · by_cases h : k' = k
      · have : key ≠ k := fun hkey => hk (h.trans hkey.symm)
        simp [put, get?, h, this, h ▸ hk]
      · simp [put, get?, hk, h, ih]

end Entries

/-- Pairs of keys and values with ascending keys. -/
structure Dict (α : Type u) where
  entries : Entries α
  ascending : entries.Ascending

namespace Dict

variable {α : Type u}

/-- The dictionary without keys. -/
def empty : Dict α := ⟨[], List.Pairwise.nil⟩

instance : Inhabited (Dict α) := ⟨empty⟩

/-- The dictionary of a list of pairs; of equal keys the last one wins. -/
def ofList (pairs : List (String × α)) : Dict α :=
  ⟨Entries.ofList pairs, Entries.ascending_ofList pairs⟩

/-- Puts a value under a key, in place of the value that is there. -/
def insert (d : Dict α) (key : String) (value : α) : Dict α :=
  ⟨d.entries.insert key value, d.ascending.insert key value⟩

/-- Puts pairs one after the other. -/
def insertAll (d : Dict α) (pairs : List (String × α)) : Dict α :=
  ⟨d.entries.insertAll pairs, d.ascending.insertAll pairs⟩

/-- The value under a key. -/
def get? (d : Dict α) (key : String) : Option α :=
  d.entries.get? key

/-- Whether there is a value under a key. -/
def contains (d : Dict α) (key : String) : Bool :=
  (d.get? key).isSome

/-- The keys in ascending order. -/
def keys (d : Dict α) : List String :=
  d.entries.map Prod.fst

/-- The number of keys. -/
def size (d : Dict α) : Nat :=
  d.entries.length

/-- Whether there are no keys. -/
def isEmpty (d : Dict α) : Bool :=
  d.entries.isEmpty

/-- The pairs that pass a test. -/
def filter (d : Dict α) (test : String × α → Bool) : Dict α :=
  ⟨d.entries.filter test, d.ascending.filter _⟩

theorem get?_insert (d : Dict α) (key : String) (value : α) (k : String) :
    (d.insert key value).get? k = if key = k then some value else d.get? k :=
  Entries.get?_insert key value d.entries k

end Dict

/-- A set of keys in ascending order. -/
abbrev KeySet := Dict Unit

/-- The set of the given keys. -/
def KeySet.ofKeys (keys : List String) : KeySet :=
  Dict.ofList (keys.map (·, ()))

end QueryFilters
