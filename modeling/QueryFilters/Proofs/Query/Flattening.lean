import QueryFilters.Proofs.Key
import QueryFilters.Proofs.Query.Source

/-!
# JSON objects as query strings

A JSON object can be written as a query string: the elements of an array become texts of the same
name, the members of an object become names that extend its name by a dot, and null is left out
(`FormData.ofMembers`). As long as the names of the members hold no dots, both are sources of the
same data: a key leads to the same group in both, to the same texts unless it leads to an object,
and to the same single text unless it leads to an array or an object. Filters cannot tell them apart
if they take what their key leads to (`QuerySource.ofJson?_agreeOn_ofMembers`).

The reason is that the first segment of a name of the query string is the name of the member that it
comes from, and that an object has one member of each name (`FormData.all_ofMembers`).
-/

namespace QueryFilters

open QuerySource (jsonText? member?)

/-- The first member of a name is what the name leads to among the members. -/
theorem QuerySource.member?_eq_get? (members : List (String × Json)) (name : String) :
    member? members name = Entries.get? name members := by
  induction members with
  | nil => rfl
  | cons member members ih =>
    obtain ⟨given, json⟩ := member
    by_cases hname : given = name
    · simp [member?, Entries.get?, hname]
    · rw [Entries.get?, if_neg hname, ← ih]
      simp [member?, hname]

namespace FormData

/-- The texts of a value that is no object: those of its elements, or its own. -/
def valueTexts : Json → List String
  | .array items => items.filterMap jsonText?
  | json => (jsonText? json).toList

/-- The texts of the members of an object by their names. -/
def memberTexts (members : List (String × Json)) : Entries String :=
  members.filterMap fun (name, json) => (jsonText? json).map (name, ·)

/-- The entries of a query string that a member of an object becomes. -/
def ofMember (name : String) : Json → List (String × String)
  | .object members => (memberTexts members).map fun entry => (name ++ "." ++ entry.1, entry.2)
  | json => (valueTexts json).map (name, ·)

/-- The query string that the members of an object become, in their order. -/
def ofMembers (members : List (String × Json)) : FormData :=
  ⟨members.flatMap fun (name, json) => ofMember name json⟩

/-- What is asked of the members of an object so that names of the query string are not confused:
each name is given once, and none holds a dot. -/
structure Flat (members : List (String × Json)) : Prop where
  nodup : (members.map Prod.fst).Nodup
  dotless : ∀ member ∈ members, '.' ∉ member.1.toList

theorem Flat.of_cons {member : String × Json} {members : List (String × Json)}
    (h : Flat (member :: members)) : Flat members where
  nodup := (List.nodup_cons.1 h.nodup).2
  dotless := fun other hother => h.dotless other (List.mem_cons_of_mem member hother)

theorem ofMember_of_ne_object {json : Json} (h : ∀ inner, json ≠ .object inner) (name : String) :
    ofMember name json = (valueTexts json).map (name, ·) := by
  unfold ofMember
  split
  · next inner => exact absurd rfl (h inner)
  · rfl

/-! ### The names of the query string -/

/-- A name without dots is its own first segment. -/
theorem head?_ofDotted {name : String} (hdot : '.' ∉ name.toList) :
    (Path.ofDotted name).head? = some name := by
  rw [Path.ofDotted_eq_singleton hdot]
  rfl

/-- A name without dots is the first segment of what extends it by a dot. -/
theorem head?_ofDotted_append {name : String} (hdot : '.' ∉ name.toList) (suffix : String) :
    (Path.ofDotted (name ++ "." ++ suffix)).head? = some name := by
  rw [Path.ofDotted_append, Path.ofDotted_eq_singleton hdot]
  rfl

/-- The first segment of a name that a member becomes is the name of the member. -/
theorem head?_ofDotted_of_mem_ofMember {name : String} (hdot : '.' ∉ name.toList) {json : Json}
    {entry : String × String} (h : entry ∈ ofMember name json) :
    (Path.ofDotted entry.1).head? = some name := by
  unfold ofMember at h
  split at h
  · obtain ⟨given, -, rfl⟩ := List.mem_map.1 h
    exact head?_ofDotted_append hdot given.1
  · obtain ⟨text, -, rfl⟩ := List.mem_map.1 h
    exact head?_ofDotted hdot

/-- A member has no texts under a name whose first segment is another one. -/
theorem all_ofMember_of_ne {name key full : String} (hdot : '.' ∉ name.toList)
    (hfull : (Path.ofDotted full).head? = some key) (hne : name ≠ key) (json : Json) :
    all ⟨ofMember name json⟩ full = [] := by
  rw [all, List.map_eq_nil_iff, List.filter_eq_nil_iff]
  intro entry hentry htest
  have hhead := head?_ofDotted_of_mem_ofMember hdot hentry
  rw [beq_iff_eq.1 htest, hfull] at hhead
  exact hne (Option.some.inj hhead).symm

/-- The texts of a name are those that come from the member that its first segment names. -/
theorem all_ofMembers {members : List (String × Json)} (hflat : Flat members) {key full : String}
    (hfull : (Path.ofDotted full).head? = some key) :
    (ofMembers members).all full =
      (member? members key).elim [] fun json => all ⟨ofMember key json⟩ full := by
  rw [QuerySource.member?_eq_get?]
  induction members with
  | nil => rfl
  | cons member members ih =>
    obtain ⟨name, json⟩ := member
    have hname : name ∉ members.map Prod.fst := (List.nodup_cons.1 hflat.nodup).1
    have hdot : '.' ∉ name.toList := hflat.dotless (name, json) List.mem_cons_self
    have hcons : (ofMembers ((name, json) :: members)).all full =
        all ⟨ofMember name json⟩ full ++ (ofMembers members).all full := by
      simp [ofMembers, all]
    rw [hcons, ih hflat.of_cons, Entries.get?]
    by_cases hkey : name = key
    · subst hkey
      rw [if_pos rfl, Entries.get?_of_not_mem hname, Option.elim_none, List.append_nil,
        Option.elim_some]
    · rw [if_neg hkey, all_ofMember_of_ne hdot hfull hkey, List.nil_append]

/-- The last text of a name is the last that comes from the member that its first segment names. -/
theorem one?_ofMembers {members : List (String × Json)} (hflat : Flat members) {key full : String}
    (hfull : (Path.ofDotted full).head? = some key) :
    (ofMembers members).one? full =
      (member? members key).bind fun json => one? ⟨ofMember key json⟩ full := by
  rw [one?_eq_getLast?, all_ofMembers hflat hfull]
  cases member? members key with
  | none => rfl
  | some json => exact (one?_eq_getLast? _ full).symm

/-! ### The texts of one member -/

/-- Texts of one name are all the texts of that name. -/
theorem all_map_same (name : String) (texts : List String) :
    all ⟨texts.map (name, ·)⟩ name = texts := by
  simp [all, List.filter_map, Function.comp_def]

/-- Texts of one name are no texts of another one. -/
theorem one?_map_of_ne {name other : String} (hne : name ≠ other) (texts : List String) :
    one? ⟨texts.map (name, ·)⟩ other = none := by
  apply one?_eq_none_of_not_mem
  intro hmem
  obtain ⟨entry, hentry, hother⟩ := List.mem_map.1 hmem
  obtain ⟨text, -, rfl⟩ := List.mem_map.1 hentry
  exact hne hother

/-- A name is not one that extends it by a dot. -/
theorem ne_append_dot (name suffix : String) : name ≠ name ++ "." ++ suffix := by
  intro h
  have hlength := congrArg String.length h
  have hdot : ".".length = 1 := by decide
  rw [String.length_append, String.length_append, hdot] at hlength
  omega

/-- The last text of a member of an object is that of the name that extends the name of the object
by a dot and its own. -/
theorem one?_ofMember_object (name suffix : String) (members : List (String × Json)) :
    one? ⟨ofMember name (.object members)⟩ (name ++ "." ++ suffix) =
      Entries.last? suffix (memberTexts members) := by
  have hinj : Function.Injective (name ++ "." ++ ·) :=
    fun _ _ h => (String.append_right_inj (name ++ ".")).1 h
  rw [one?_eq_last?]
  exact Entries.last?_map hinj suffix (memberTexts members)

end FormData

/-! ### What both sources answer -/

/-- Merging members after others with different names leaves the names different. -/
theorem Json.nodup_membersMerged {before : List (String × Json)}
    (h : (before.map Prod.fst).Nodup) (members : List (String × Json)) :
    ((Json.membersMerged before members).map Prod.fst).Nodup := by
  induction members generalizing before with
  | nil => rwa [Json.membersMerged]
  | cons member members ih =>
    obtain ⟨name, value⟩ := member
    rw [Json.membersMerged]
    exact ih (Entries.nodup_keys_put h name value.merged)

/-- The members of a merged document have different names. -/
theorem Json.nodup_names_of_merged {json : Json} {members : List (String × Json)}
    (h : json.merged = .object members) : (members.map Prod.fst).Nodup := by
  cases json with
  | object given =>
    rw [Json.merged] at h
    obtain rfl := Json.object.inj h
    have hnone : (([] : List (String × Json)).map Prod.fst).Nodup := List.nodup_nil
    exact Json.nodup_membersMerged hnone given
  | _ => simp [Json.merged] at h

/-- Whether what a key leads to suits the filters of a shape: no array and no object where one text
is taken, no object where a sequence of them is. -/
def Shape.Suits (member : Option Json) : Shape → Prop
  | .single => (∀ items, member ≠ some (.array items)) ∧ ∀ inner, member ≠ some (.object inner)
  | .sequence => ∀ inner, member ≠ some (.object inner)
  | .group => True

namespace QuerySource

variable {members : List (String × Json)} {key : String}

/-- The texts of a key are those of the value it leads to. -/
theorem all_ofMembers_eq_elim (members : List (String × Json)) (key : String) :
    (ofMembers members).all key = (member? members key).elim [] FormData.valueTexts := by
  rw [ofMembers]
  cases hmember : member? members key with
  | none => simp only [Option.elim_none, hmember]
  | some json => cases json <;> simp only [Option.elim_some, hmember, FormData.valueTexts]

/-- A key that leads to no array and no object leads to the same single text in both sources. -/
theorem agreeOn_single (hflat : FormData.Flat members) (hkey : '.' ∉ key.toList)
    (hsuits : Shape.single.Suits (member? members key)) :
    (ofMembers members).one? key = (FormData.ofMembers members).one? key := by
  obtain ⟨harray, hobject⟩ := hsuits
  rw [FormData.one?_ofMembers hflat (FormData.head?_ofDotted hkey)]
  show (member? members key).bind jsonText? = _
  cases hmember : member? members key with
  | none => rfl
  | some json =>
    rw [hmember] at harray hobject
    have hne : ∀ inner, json ≠ .object inner := fun inner heq => hobject inner (heq ▸ rfl)
    have htexts : FormData.valueTexts json = (jsonText? json).toList := by
      unfold FormData.valueTexts
      split
      · next items => exact absurd rfl (harray items)
      · rfl
    rw [Option.bind_some, Option.bind_some, FormData.one?_eq_getLast?,
      FormData.ofMember_of_ne_object hne, FormData.all_map_same, htexts]
    cases jsonText? json <;> rfl

/-- A key that leads to no object leads to the same texts in both sources. -/
theorem agreeOn_sequence (hflat : FormData.Flat members) (hkey : '.' ∉ key.toList)
    (hsuits : Shape.sequence.Suits (member? members key)) :
    (ofMembers members).all key = (FormData.ofMembers members).all key := by
  have hobject : ∀ inner, member? members key ≠ some (.object inner) := hsuits
  rw [all_ofMembers_eq_elim, FormData.all_ofMembers hflat (FormData.head?_ofDotted hkey)]
  cases hmember : member? members key with
  | none => rfl
  | some json =>
    rw [hmember] at hobject
    have hne : ∀ inner, json ≠ .object inner := fun inner heq => hobject inner (heq ▸ rfl)
    rw [Option.elim_some, Option.elim_some, FormData.ofMember_of_ne_object hne,
      FormData.all_map_same]

/-- The members of an object are the group of its name. -/
theorem group_ofMembers_of_object {inner : List (String × Json)}
    (h : member? members key = some (.object inner)) :
    (ofMembers members).group key = Dict.ofList (FormData.memberTexts inner) := by
  simp only [ofMembers, h]
  rfl

/-- Names without dots extend no key, so a key that leads to no object has an empty group. -/
theorem group_ofMembers_of_ne_object (hflat : FormData.Flat members)
    (h : ∀ inner, member? members key ≠ some (.object inner)) :
    (ofMembers members).group key = .empty := by
  have hnone : ∀ member ∈ members, groupSuffix? member.1 key = none := by
    intro member hmember
    rw [Option.eq_none_iff_forall_ne_some]
    intro suffix hsuffix
    apply hflat.dotless member hmember
    rw [groupSuffix?_eq_some_iff.1 hsuffix]
    simp
  simp only [ofMembers]
  refine congrArg Dict.ofList (List.filterMap_eq_nil_iff.2 ?_)
  rintro ⟨name, json⟩ hmember
  simp only [hnone _ hmember]

/-- A key leads to the same group in both sources. -/
theorem agreeOn_group (hflat : FormData.Flat members) (hkey : '.' ∉ key.toList) :
    (ofMembers members).group key = (FormData.ofMembers members).group key := by
  refine Dict.eq_of_get? fun suffix => ?_
  rw [FormData.get?_group,
    FormData.one?_ofMembers hflat (FormData.head?_ofDotted_append hkey suffix)]
  by_cases hobject : ∃ inner, member? members key = some (.object inner)
  · obtain ⟨inner, hinner⟩ := hobject
    rw [group_ofMembers_of_object hinner, hinner, Dict.get?_ofList, Option.bind_some,
      FormData.one?_ofMember_object]
  · rw [not_exists] at hobject
    rw [group_ofMembers_of_ne_object hflat hobject]
    cases hmember : member? members key with
    | none => rfl
    | some json =>
      have hne : ∀ inner, json ≠ .object inner := fun inner heq => hobject inner (heq ▸ hmember)
      rw [Option.bind_some, FormData.ofMember_of_ne_object hne,
        FormData.one?_map_of_ne (FormData.ne_append_dot key suffix)]
      rfl

/-- A JSON object whose members have names without dots and the query string that it becomes are
sources of the same data: under a key without dots both have the same group, the same texts unless
it leads to an object, and the same single text unless it leads to an array or an object. A filter
gets the same value or the same error from both if what its key leads to suits it. -/
theorem ofJson?_agreeOn_ofMembers {json : Json} (hjson : json.merged = .object members)
    (hdot : ∀ member ∈ members, '.' ∉ member.1.toList) (hkey : '.' ∉ key.toList) :
    ofJson? json = some (ofMembers members) ∧
      (∀ shape : Shape, shape.Suits (member? members key) →
        (ofMembers members).AgreeOn shape key (FormData.ofMembers members).source) ∧
      ∀ b : BoundFilter, b.key = key → b.filter.codec.shape.Suits (member? members key) →
        b.parse (ofMembers members) = b.parse (FormData.ofMembers members).source := by
  have hflat : FormData.Flat members := ⟨Json.nodup_names_of_merged hjson, hdot⟩
  have hagree : ∀ shape : Shape, shape.Suits (member? members key) →
      (ofMembers members).AgreeOn shape key (FormData.ofMembers members).source := by
    intro shape hsuits
    cases shape with
    | single => exact agreeOn_single hflat hkey hsuits
    | sequence => exact agreeOn_sequence hflat hkey hsuits
    | group => exact agreeOn_group hflat hkey
  refine ⟨?_, hagree, fun b hb hsuits => ?_⟩
  · rw [ofJson?, hjson]
  · subst hb
    exact BoundFilter.parse_congr (hagree _ hsuits)

/-- A range whose upper bound is null is the range without it, and the other members do not
matter. -/
theorem ofJson?_agreeOn_price :
    let price : BoundFilter :=
      Filter.bind ⟨.range .gte .lte false, none, none, none, .range .integer, 0⟩ "price"
    let members : List (String × Json) :=
      [("tags", .array [.string "a", .null, .string "b"]),
        ("price", .object [("min", .string "1"), ("max", .null)]), ("title", .string "x")]
    let d : FormData := ⟨[("tags", "a"), ("tags", "b"), ("price.min", "1"), ("title", "x")]⟩
    (Json.object members).merged = .object members ∧
      ofJson? (.object members) = some (ofMembers members) ∧
      (ofMembers members).group "price" = d.group "price" ∧
      price.parse (ofMembers members) = price.parse d.source := by
  intro price members d
  have hjson : (Json.object members).merged = .object members := rfl
  have hdot : ∀ member ∈ members, '.' ∉ member.1.toList := by decide +kernel
  have hflat : FormData.ofMembers members = d := rfl
  have hkey : '.' ∉ "price".toList := by decide
  obtain ⟨hsource, hagree, hparse⟩ := ofJson?_agreeOn_ofMembers hjson hdot hkey
  rw [hflat] at hagree hparse
  exact ⟨hjson, hsource, hagree .group trivial, hparse price rfl trivial⟩

end QuerySource

end QueryFilters
