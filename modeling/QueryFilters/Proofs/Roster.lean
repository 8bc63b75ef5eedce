import QueryFilters.Roster

/-!
# Filling rosters

Putting a thing under a new name adds it at the end, so a roster that is filled under different
names lists them as they came, and each name still leads to its own thing. Filled under names that
come again, it lists each where it comes first (`Roster.names_ofList`), with the thing that comes
last (`Roster.get?_ofList`).
-/

namespace QueryFilters

namespace Entries

variable {α : Type u}

/-- A new key comes last. -/
theorem put_of_not_mem {key : String} {entries : Entries α} (h : key ∉ entries.map Prod.fst)
    (value : α) : entries.put key value = entries ++ [(key, value)] := by
  induction entries with
  | nil => rfl
  | cons head rest ih =>
    obtain ⟨k, v⟩ := head
    rw [List.map_cons, List.mem_cons, not_or] at h
    have hne : k ≠ key := fun hk => h.1 hk.symm
    rw [put, if_neg hne, ih h.2, List.cons_append]

/-- A key that is not there leads to nothing. -/
theorem get?_of_not_mem {key : String} {entries : Entries α} (h : key ∉ entries.map Prod.fst) :
    entries.get? key = none := by
  induction entries with
  | nil => rfl
  | cons head rest ih =>
    obtain ⟨k, v⟩ := head
    rw [List.map_cons, List.mem_cons, not_or] at h
    have hne : k ≠ key := fun hk => h.1 hk.symm
    rw [get?, if_neg hne, ih h.2]

/-- A key that is there leads to something. -/
theorem exists_get?_of_mem_keys {key : String} {entries : Entries α}
    (h : key ∈ entries.map Prod.fst) : ∃ value, entries.get? key = some value := by
  induction entries with
  | nil => cases h
  | cons head rest ih =>
    obtain ⟨k, v⟩ := head
    by_cases hk : k = key
    · exact ⟨v, by rw [get?, if_pos hk]⟩
    · have hrest : key ∈ rest.map Prod.fst :=
        (List.mem_cons.1 h).resolve_left fun heq => hk heq.symm
      rw [get?, if_neg hk]
      exact ih hrest

/-- Putting the thing that is already there changes nothing. -/
theorem put_of_get? {key : String} {value : α} {entries : Entries α}
    (h : entries.get? key = some value) : entries.put key value = entries := by
  induction entries with
  | nil => cases h
  | cons head rest ih =>
    obtain ⟨k, v⟩ := head
    by_cases hk : k = key
    · rw [get?, if_pos hk] at h
      rw [put, if_pos hk, Option.some.inj h]
    · rw [get?, if_neg hk] at h
      rw [put, if_neg hk, ih h]

/-- A thing that is found is there. -/
theorem mem_of_get? {key : String} {value : α} {entries : Entries α}
    (h : entries.get? key = some value) : (key, value) ∈ entries := by
  induction entries with
  | nil => cases h
  | cons head rest ih =>
    obtain ⟨k, v⟩ := head
    by_cases hk : k = key
    · rw [get?, if_pos hk] at h
      rw [hk, Option.some.inj h]
      exact List.mem_cons_self
    · rw [get?, if_neg hk] at h
      exact List.mem_cons_of_mem _ (ih h)

/-- Among entries with different keys, a key leads to the thing that stands with it. -/
theorem get?_of_mem {key : String} {value : α} {entries : Entries α}
    (hnodup : (entries.map Prod.fst).Nodup) (h : (key, value) ∈ entries) :
    entries.get? key = some value := by
  induction entries with
  | nil => cases h
  | cons head rest ih =>
    obtain ⟨k, v⟩ := head
    obtain ⟨hk, hrest⟩ := List.nodup_cons.1 hnodup
    rcases List.mem_cons.1 h with heq | hmem
    · obtain ⟨rfl, rfl⟩ := Prod.mk.inj heq
      rw [get?, if_pos rfl]
    · have hkey : key ∈ rest.map Prod.fst := List.mem_map.2 ⟨(key, value), hmem, rfl⟩
      have hne : k ≠ key := fun heq => hk (heq ▸ hkey)
      rw [get?, if_neg hne, ih hrest hmem]

/-- Entries with the same different keys that lead to the same things are the same. -/
theorem eq_of_get? {entries entries' : Entries α} (hnodup : (entries.map Prod.fst).Nodup)
    (hkeys : entries.map Prod.fst = entries'.map Prod.fst)
    (h : ∀ key ∈ entries.map Prod.fst, entries.get? key = entries'.get? key) :
    entries = entries' := by
  induction entries generalizing entries' with
  | nil => exact (List.map_eq_nil_iff.1 hkeys.symm).symm
  | cons head rest ih =>
    cases entries' with
    | nil => cases hkeys
    | cons head' rest' =>
      obtain ⟨k, v⟩ := head
      obtain ⟨k', v'⟩ := head'
      obtain ⟨rfl, hrestKeys⟩ := List.cons.inj hkeys
      obtain ⟨hk, hrest⟩ := List.nodup_cons.1 hnodup
      have hv : v = v' := by simpa [get?] using h k List.mem_cons_self
      have hrestEq : rest = rest' := by
        refine ih hrest hrestKeys fun key hkey => ?_
        have hne : k ≠ key := fun heq => hk (heq ▸ hkey)
        have hget := h key (List.mem_cons_of_mem k hkey)
        rwa [get?, get?, if_neg hne, if_neg hne] at hget
      rw [hv, hrestEq]

/-! ### Keys that come again -/

/-- The value that stands last under a key. -/
def last? (key : String) : Entries α → Option α
  | [] => none
  | (k, v) :: rest => (last? key rest).or (if k = key then some v else none)

/-- Of two lists the second one has the last value, if it has one. -/
theorem last?_append (key : String) (first second : Entries α) :
    last? key (first ++ second) = (last? key second).or (last? key first) := by
  induction first with
  | nil => simp [last?]
  | cons head first ih =>
    obtain ⟨k, v⟩ := head
    rw [List.cons_append, last?, ih, last?, Option.or_assoc]

/-- Only a key that is there has a last value. -/
theorem last?_eq_none_iff {key : String} {entries : Entries α} :
    last? key entries = none ↔ key ∉ entries.map Prod.fst := by
  induction entries with
  | nil => simp [last?]
  | cons head rest ih =>
    obtain ⟨k, v⟩ := head
    rw [last?, Option.or_eq_none_iff, ih, List.map_cons, List.mem_cons, not_or, and_comm]
    refine and_congr_left' ?_
    by_cases hk : k = key
    · simp [hk]
    · simp [hk, Ne.symm hk]

/-- The last value under a key is there. -/
theorem mem_of_last? {key : String} {value : α} {entries : Entries α}
    (h : last? key entries = some value) : (key, value) ∈ entries := by
  induction entries with
  | nil => cases h
  | cons head rest ih =>
    obtain ⟨k, v⟩ := head
    rcases Option.or_eq_some_iff.1 h with hrest | ⟨-, hhead⟩
    · exact List.mem_cons_of_mem _ (ih hrest)
    · split at hhead
      · next hk => exact Option.some.inj hhead ▸ hk ▸ List.mem_cons_self
      · cases hhead

/-- A key under which only one value stands has it as its last. -/
theorem last?_eq_some {key : String} {value : α} {entries : Entries α}
    (hmem : (key, value) ∈ entries) (h : ∀ other, (key, other) ∈ entries → other = value) :
    last? key entries = some value := by
  cases hlast : last? key entries with
  | none =>
    exact absurd (List.mem_map.2 ⟨(key, value), hmem, rfl⟩) (last?_eq_none_iff.1 hlast)
  | some other => rw [h other (mem_of_last? hlast)]

/-- After pairs are put one after the other, in whatever place, a key leads to its last value among
them, and else to the one it led to before. -/
theorem get?_foldl {place : String → α → Entries α → Entries α}
    (hplace : ∀ key value entries k,
      (place key value entries).get? k = if key = k then some value else entries.get? k)
    (pairs : List (String × α)) (entries : Entries α) (key : String) :
    Entries.get? key (pairs.foldl (fun entries pair => place pair.1 pair.2 entries) entries) =
      (last? key pairs).or (entries.get? key) := by
  induction pairs generalizing entries with
  | nil => rfl
  | cons pair pairs ih =>
    obtain ⟨k, v⟩ := pair
    rw [List.foldl_cons, ih, hplace, last?, Option.or_assoc]
    by_cases hk : k = key <;> simp [hk]

theorem get?_putAll (pairs : List (String × α)) (entries : Entries α) (key : String) :
    (entries.putAll pairs).get? key = (last? key pairs).or (entries.get? key) :=
  get?_foldl get?_put pairs entries key

theorem get?_insertAll (pairs : List (String × α)) (entries : Entries α) (key : String) :
    (entries.insertAll pairs).get? key = (last? key pairs).or (entries.get? key) :=
  get?_foldl get?_insert pairs entries key

/-- Putting a value adds its key if it is new. -/
theorem keys_put (entries : Entries α) (key : String) (value : α) :
    (entries.put key value).map Prod.fst =
      if key ∈ entries.map Prod.fst then entries.map Prod.fst
      else entries.map Prod.fst ++ [key] := by
  split
  · next hmem =>
    induction entries with
    | nil => cases hmem
    | cons head rest ih =>
      obtain ⟨k, v⟩ := head
      by_cases hk : k = key
      · rw [put, if_pos hk]
        rfl
      · have hrest : key ∈ rest.map Prod.fst :=
          (List.mem_cons.1 hmem).resolve_left fun heq => hk heq.symm
        rw [put, if_neg hk, List.map_cons, ih hrest, List.map_cons]
  · next hmem => rw [put_of_not_mem hmem, List.map_append, List.map_cons, List.map_nil]

/-- Pairs that are put one after the other add their keys that are new, each where it comes
first. -/
theorem keys_putAll (pairs : List (String × α)) (entries : Entries α) :
    (entries.putAll pairs).map Prod.fst = entries.map Prod.fst ++
      ((pairs.map Prod.fst).filter (· ∉ entries.map Prod.fst)).eraseDups := by
  -- A key that was put is among the known ones for the rest, which is how it is erased there.
  induction pairs generalizing entries with
  | nil => simp [putAll]
  | cons pair pairs ih =>
    obtain ⟨k, v⟩ := pair
    have hput : (entries.putAll ((k, v) :: pairs)) = (entries.put k v).putAll pairs := rfl
    rw [hput, ih, keys_put, List.map_cons]
    split
    · next hk => rw [List.filter_cons_of_neg (by simpa using hk)]
    · next hk =>
      have hrest : (pairs.map Prod.fst).filter (· ∉ entries.map Prod.fst ++ [k]) =
          ((pairs.map Prod.fst).filter (· ∉ entries.map Prod.fst)).filter (!· == k) := by
        rw [List.filter_filter]
        refine List.filter_congr fun name _ => ?_
        rw [Bool.eq_iff_iff]
        simp only [decide_eq_true_eq, Bool.and_eq_true, Bool.not_eq_true', beq_eq_false_iff_ne,
          List.mem_append, List.mem_singleton, not_or, and_comm, ne_eq]
      rw [List.filter_cons_of_pos (by simpa using hk), List.eraseDups_cons, List.append_assoc,
        hrest]
      rfl

/-- Among entries made of things with different names, a name leads to what its own thing gave. -/
theorem get?_filterMap {β : Type v} {things : List β} {name : β → String} {give : β → Option α}
    (hnodup : (things.map name).Nodup) {b : β} (hb : b ∈ things) :
    Entries.get? (name b) (things.filterMap fun c => (give c).map (name c, ·)) = give b := by
  induction things with
  | nil => cases hb
  | cons c things ih =>
    obtain ⟨hc, hrest⟩ := List.nodup_cons.1 hnodup
    have hkeys : ∀ key ∈ (things.filterMap fun c => (give c).map (name c, ·)).map Prod.fst,
        key ∈ things.map name := by
      intro key hkey
      obtain ⟨pair, hpair, rfl⟩ := List.mem_map.1 hkey
      obtain ⟨c', hc', hgive⟩ := List.mem_filterMap.1 hpair
      obtain ⟨v, -, rfl⟩ := Option.map_eq_some_iff.1 hgive
      exact List.mem_map_of_mem hc'
    rcases List.mem_cons.1 hb with rfl | hb
    · cases hgive : give b with
      | none =>
        simp only [List.filterMap_cons, hgive, Option.map_none]
        exact get?_of_not_mem fun hkey => hc (hkeys _ hkey)
      | some v => simp [hgive, get?]
    · have hne : name c ≠ name b := fun heq => hc (heq ▸ List.mem_map_of_mem hb)
      cases hgive : give c with
      | none =>
        simp only [List.filterMap_cons, hgive, Option.map_none]
        exact ih hrest hb
      | some v =>
        simp only [List.filterMap_cons, hgive, Option.map_some, get?, if_neg hne]
        exact ih hrest hb

/-- Different keys stay as they are when repeated ones are dropped. -/
theorem eraseDups_of_nodup {keys : List String} (h : keys.Nodup) : keys.eraseDups = keys := by
  induction keys with
  | nil => rfl
  | cons key keys ih =>
    obtain ⟨hkey, hkeys⟩ := List.nodup_cons.1 h
    have hrest : keys.filter (!· == key) = keys := by
      refine List.filter_eq_self.2 fun other hother => ?_
      have hne : other ≠ key := fun heq => hkey (heq ▸ hother)
      simpa using hne
    rw [List.eraseDups_cons, hrest, ih hkeys]

/-- It makes no difference whether repeated keys are dropped before or after keys are chosen. -/
theorem eraseDups_filter (test : String → Bool) (keys : List String) :
    (keys.filter test).eraseDups = keys.eraseDups.filter test := by
  -- Dropping the repetitions of a key is itself a choice among the keys after it, hence the
  -- induction on the length.
  match keys with
  | [] => rfl
  | key :: keys =>
    have ih := eraseDups_filter test (keys.filter (!· == key))
    rw [List.eraseDups_cons]
    by_cases hkey : test key = true
    · rw [List.filter_cons_of_pos hkey, List.filter_cons_of_pos hkey, List.eraseDups_cons, ← ih,
        List.filter_filter, List.filter_filter]
      simp only [Bool.and_comm]
    · have hsame : (keys.filter (!· == key)).filter test = keys.filter test := by
        rw [List.filter_filter]
        refine List.filter_congr fun other _ => ?_
        by_cases hother : other = key
        · simp [hother, hkey]
        · simp [hother]
      rw [List.filter_cons_of_neg hkey, List.filter_cons_of_neg hkey, ← ih, hsame]
termination_by keys.length
decreasing_by
  have hle := List.length_filter_le (!· == key) keys
  simp only [List.length_cons]
  omega

/-- Under different keys, each value is the last one under its key. -/
theorem last?_of_nodup {entries : Entries α} (h : (entries.map Prod.fst).Nodup) (key : String) :
    last? key entries = entries.get? key := by
  induction entries with
  | nil => rfl
  | cons head rest ih =>
    obtain ⟨k, v⟩ := head
    obtain ⟨hk, hrest⟩ := List.nodup_cons.1 h
    rw [last?, get?]
    by_cases hkey : k = key
    · have hnone : last? key rest = none := last?_eq_none_iff.2 (hkey ▸ hk)
      rw [hnone, if_pos hkey, if_pos hkey, Option.none_or]
    · rw [ih hrest, if_neg hkey, if_neg hkey, Option.or_none]

theorem putAll_append (first second : List (String × α)) (entries : Entries α) :
    entries.putAll (first ++ second) = (entries.putAll first).putAll second :=
  List.foldl_append

end Entries

namespace Roster

variable {α : Type u}

/-- Rosters with the same entries are the same. -/
theorem eq_of_entries {r s : Roster α} (h : r.entries = s.entries) : r = s := by
  cases r
  cases s
  cases h
  rfl

/-- A roster of pairs lists each name where it comes first. -/
theorem names_ofList (pairs : List (String × α)) :
    (ofList pairs).names = (pairs.map Prod.fst).eraseDups := by
  have hnew : (pairs.map Prod.fst).filter (· ∉ (([] : Entries α).map Prod.fst)) =
      pairs.map Prod.fst := List.filter_eq_self.2 fun name _ => by simp
  rw [ofList, names, Entries.keys_putAll, hnew]
  rfl

/-- In a roster of pairs each name leads to the thing that comes last. -/
theorem get?_ofList (pairs : List (String × α)) (name : String) :
    (ofList pairs).get? name = Entries.last? name pairs := by
  have hget := Entries.get?_putAll pairs [] name
  simpa [ofList, get?, Entries.get?] using hget

/-- Putting a roster of pairs is putting the pairs: that its names were sorted out before makes no
difference. -/
theorem putAll_ofList {entries : Entries α} (hnodup : (entries.map Prod.fst).Nodup)
    (pairs : List (String × α)) : entries.putAll (ofList pairs).entries = entries.putAll pairs := by
  have hnames : (ofList pairs).entries.map Prod.fst = (pairs.map Prod.fst).eraseDups :=
    names_ofList pairs
  refine Entries.eq_of_get? (Entries.nodup_keys_putAll hnodup _) ?_ fun key _ => ?_
  · have hdistinct : (pairs.map Prod.fst).eraseDups.Nodup := hnames ▸ (ofList pairs).nodup
    rw [Entries.keys_putAll, Entries.keys_putAll, hnames, Entries.eraseDups_filter,
      Entries.eraseDups_filter, Entries.eraseDups_of_nodup hdistinct]
  · rw [Entries.get?_putAll, Entries.get?_putAll, Entries.last?_of_nodup (ofList pairs).nodup]
    exact congrArg (·.or (entries.get? key)) (get?_ofList pairs key)

end Roster

end QueryFilters
