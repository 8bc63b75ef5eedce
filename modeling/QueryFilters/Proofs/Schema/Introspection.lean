import QueryFilters.Proofs.Filter.Building
import QueryFilters.Proofs.Roster
import QueryFilters.Proofs.Schema.Synthesis

/-!
# What introspection derives

Deriving a registry runs through the names in scope, and each name is supplied in one of three ways:
by a filter that is declared or inherited, by one made for the field, or not at all.
`Introspection.Builds` says by these alone what deriving answers: the first fault in scope, or a
registry told name by name. Nothing else is answered (`Introspection.build_eq_iff`).
-/

namespace QueryFilters

namespace Introspection

/-! ### Names in scope -/

variable (i : Introspection)

/-- Fields are both listed and left out. -/
def Conflicting : Prop :=
  i.included.isSome = true ∧ i.excluded.isSome = true

/-- The included fields as they are listed, or else the identifier and the other fields of the
schema without those that are left out. -/
def fieldsInScope : List String :=
  match i.included with
  | some names => names
  | none =>
    let names := i.schema.idField ::
      (i.schema.fields.map SchemaField.name).filter (· ≠ i.schema.idField)
    names.filter (· ∉ i.excluded.getD [])

/-- The filters of the parents, each in its order, and then the declared ones as they were built. -/
def merged : List (String × Filter) :=
  i.parents.flatMap (·.filters.entries) ++ Registry.byConstruction i.declared

/-- The last filter that is inherited or declared under a name. -/
def given? (name : String) : Option Filter :=
  Entries.last? name i.merged

/-- Of the names without a given filter, the first for which none can be made has the fault. -/
def FirstFault (names : List String) (e : ConfigurationError) : Prop :=
  ∃ before name after, names = before ++ name :: after ∧
    (i.given? name = none ∧ i.Fault name e) ∧
    ∀ other ∈ before, i.given? other = none → ∀ e, ¬i.Fault other e

/-- How many of the names have no given filter. -/
def made (names : List String) : Nat :=
  (names.filter fun name => (i.given? name).isNone).length

/-- What deriving a registry may answer. Listing fields and leaving out others is refused first, and
then the first name in scope for which no filter is given or can be made. Otherwise the registry has
the schema for its document type, and each name once: those in scope as they first come and then the
others that a filter is given for. The given filter is kept in any case, and of the filters made for
a name that comes again, the last. -/
def Builds (serial : UInt64) : Except ConfigurationError Registry → Prop
  | .error e => i.Conflicting ∧ e = .conflictingFieldPolicy ∨
      ¬i.Conflicting ∧ i.FirstFault i.fieldsInScope e
  | .ok r => ¬i.Conflicting ∧
      (∀ name ∈ i.fieldsInScope, i.given? name = none → ∀ e, ¬i.Fault name e) ∧
      r.document = some i.schema ∧ r.filters.names.Nodup ∧
      r.filters.names = i.fieldsInScope.eraseDups ++
        ((i.merged.map Prod.fst).eraseDups.filter (· ∉ i.fieldsInScope)) ∧
      (∀ name filter, i.given? name = some filter → r.filters.get? name = some filter) ∧
      ∀ before name after, i.fieldsInScope = before ++ name :: after → name ∉ after →
        i.given? name = none →
          ∃ filter, i.Makes name (serial + .ofNat (i.made before)) filter ∧
            r.filters.get? name = some filter

variable {i}

/-- A conflict leaves no scope. -/
theorem scope_of_conflicting (h : i.Conflicting) : i.scope = .error .conflictingFieldPolicy := by
  obtain ⟨names, hnames⟩ := Option.isSome_iff_exists.1 h.1
  obtain ⟨others, hothers⟩ := Option.isSome_iff_exists.1 h.2
  rw [scope, hnames, hothers]

/-- Without a conflict there is a scope. -/
theorem scope_of_not_conflicting (h : ¬i.Conflicting) : i.scope = .ok i.fieldsInScope := by
  rw [scope, fieldsInScope]
  cases hincluded : i.included with
  | some names =>
    cases hexcluded : i.excluded with
    | some others => exact absurd ⟨by simp [hincluded], by simp [hexcluded]⟩ h
    | none => rfl
  | none =>
    have hnames : i.schema.fieldNames = i.schema.idField ::
        (i.schema.fields.map SchemaField.name).filter (· ≠ i.schema.idField) := by
      simp only [ne_eq, decide_not]
      rfl
    simp [hnames]

/-- The declarations list each name of the merged filters where it comes first. -/
theorem names_declarations : i.declarations.filters.names = (i.merged.map Prod.fst).eraseDups :=
  Roster.names_ofList i.merged

/-- The declarations lead to the given filters. -/
theorem get?_declarations (name : String) : i.declarations.filters.get? name = i.given? name :=
  Roster.get?_ofList i.merged name

/-! ### Running through the scope -/

namespace FirstFault

/-- The first name is at fault, or it is not and the first fault is among the others. -/
theorem cons_iff {name : String} {names : List String} {e : ConfigurationError} :
    i.FirstFault (name :: names) e ↔
      (i.given? name = none ∧ i.Fault name e) ∨
        ((i.given? name = none → ∀ e, ¬i.Fault name e) ∧ i.FirstFault names e) := by
  constructor
  · rintro ⟨before, other, after, heq, hother, hbefore⟩
    cases before with
    | nil =>
      obtain ⟨rfl, rfl⟩ := List.cons.inj heq
      exact .inl hother
    | cons first before =>
      obtain ⟨rfl, rfl⟩ := List.cons.inj heq
      obtain ⟨hfirst, hrest⟩ := List.forall_mem_cons.1 hbefore
      exact .inr ⟨hfirst, before, other, after, rfl, hother, hrest⟩
  · rintro (hname | ⟨hname, before, other, after, rfl, hother, hbefore⟩)
    · exact ⟨[], name, names, rfl, hname, fun other hother => by cases hother⟩
    · exact ⟨name :: before, other, after, rfl, hother, List.forall_mem_cons.2 ⟨hname, hbefore⟩⟩

/-- A first fault is a fault. -/
theorem exists_fault {names : List String} {e : ConfigurationError} (h : i.FirstFault names e) :
    ∃ name ∈ names, i.given? name = none ∧ i.Fault name e := by
  obtain ⟨before, name, after, rfl, hname, -⟩ := h
  exact ⟨name, by simp, hname⟩

/-- There is one first fault. -/
theorem unique {names : List String} {e e' : ConfigurationError} (h : i.FirstFault names e)
    (h' : i.FirstFault names e') : e = e' := by
  induction names with
  | nil =>
    obtain ⟨name, hname, -⟩ := h.exists_fault
    cases hname
  | cons name names ih =>
    rcases cons_iff.1 h with ⟨hnone, hfault⟩ | ⟨hok, hrest⟩
    · rcases cons_iff.1 h' with ⟨-, hfault'⟩ | ⟨hok', -⟩
      · exact hfault.unique hfault'
      · exact absurd hfault (hok' hnone e)
    · rcases cons_iff.1 h' with ⟨hnone', hfault'⟩ | ⟨-, hrest'⟩
      · exact absurd hfault' (hok hnone' e')
      · exact ih hrest hrest'

end FirstFault

/-- The filters of names in scope: those given, and those made for fields, which take their places
in the order of building one after the other. -/
inductive Fills (i : Introspection) : UInt64 → List String → List (String × Filter) → Prop
  | nil {serial : UInt64} : i.Fills serial [] []
  | given {serial : UInt64} {name : String} {names : List String} {filter : Filter}
      {entries : List (String × Filter)} (h : i.given? name = some filter)
      (hrest : i.Fills serial names entries) :
      i.Fills serial (name :: names) ((name, filter) :: entries)
  | made {serial : UInt64} {name : String} {names : List String} {filter : Filter}
      {entries : List (String × Filter)} (h : i.given? name = none)
      (hmakes : i.Makes name serial filter) (hrest : i.Fills (serial + 1) names entries) :
      i.Fills serial (name :: names) ((name, filter) :: entries)

/-- A name is not at fault if a filter is made for it, in whatever place. -/
theorem not_fault_of_synthesize {name : String} {serial : UInt64} {filter : Filter}
    (h : i.synthesize name serial = .ok filter) (e : ConfigurationError) : ¬i.Fault name e := by
  intro hfault
  rw [synthesize_eq_error_iff.2 hfault] at h
  cases h

/-- Running through the scope fills it where no name is at fault, and stops at the first fault. -/
theorem scopeEntries_spec (serial : UInt64) (names : List String) :
    match i.scopeEntries i.declarations serial names with
    | .ok entries => i.Fills serial names entries ∧
        ∀ name ∈ names, i.given? name = none → ∀ e, ¬i.Fault name e
    | .error e => i.FirstFault names e := by
  -- A filter that is made moves the place of those after it, a given one does not.
  induction names generalizing serial with
  | nil => exact ⟨.nil, fun name hname => by cases hname⟩
  | cons name names ih =>
    rw [scopeEntries, get?_declarations]
    cases hgiven : i.given? name with
    | some filter =>
      have hname : i.given? name = none → ∀ e, ¬i.Fault name e := by
        intro hnone
        rw [hgiven] at hnone
        cases hnone
      have hrest := ih serial
      cases hentries : i.scopeEntries i.declarations serial names with
      | error e =>
        rw [hentries] at hrest
        exact FirstFault.cons_iff.2 (.inr ⟨hname, hrest⟩)
      | ok entries =>
        rw [hentries] at hrest
        exact ⟨.given hgiven hrest.1, List.forall_mem_cons.2 ⟨hname, hrest.2⟩⟩
    | none =>
      cases hmade : i.synthesize name serial with
      | error e => exact FirstFault.cons_iff.2 (.inl ⟨hgiven, synthesize_eq_error_iff.1 hmade⟩)
      | ok filter =>
        have hname : i.given? name = none → ∀ e, ¬i.Fault name e :=
          fun _ => not_fault_of_synthesize hmade
        have hrest := ih (serial + 1)
        cases hentries : i.scopeEntries i.declarations (serial + 1) names with
        | error e =>
          rw [hentries] at hrest
          exact FirstFault.cons_iff.2 (.inr ⟨hname, hrest⟩)
        | ok entries =>
          rw [hentries] at hrest
          exact ⟨.made hgiven (synthesize_eq_ok_iff.1 hmade) hrest.1,
            List.forall_mem_cons.2 ⟨hname, hrest.2⟩⟩

namespace Fills

variable {serial : UInt64} {names : List String} {entries : List (String × Filter)}

/-- Filling keeps the names. -/
theorem keys (h : i.Fills serial names entries) : entries.map Prod.fst = names := by
  induction h with
  | nil => rfl
  | given _ _ ih | made _ _ _ ih => rw [List.map_cons, ih]

/-- A name with a given filter is filled with it wherever it comes. -/
theorem eq_of_given (h : i.Fills serial names entries) {name : String} {filter other : Filter}
    (hgiven : i.given? name = some filter) (hmem : (name, other) ∈ entries) : other = filter := by
  induction h with
  | nil => cases hmem
  | given hown _ ih =>
    rcases List.mem_cons.1 hmem with heq | hmem
    · obtain ⟨rfl, rfl⟩ := Prod.mk.inj heq
      exact Option.some.inj (hown.symm.trans hgiven)
    · exact ih hmem
  | made hnone _ _ ih =>
    rcases List.mem_cons.1 hmem with heq | hmem
    · obtain ⟨rfl, rfl⟩ := Prod.mk.inj heq
      rw [hnone] at hgiven
      cases hgiven
    · exact ih hmem

/-- Where a name without a given filter comes last, it is filled with the filter made there. -/
theorem last?_of_made {before after : List String} {name : String}
    (h : i.Fills serial (before ++ name :: after) entries) (hlast : name ∉ after)
    (hnone : i.given? name = none) :
    ∃ filter, i.Makes name (serial + .ofNat (i.made before)) filter ∧
      Entries.last? name entries = some filter := by
  -- Among the names before it, each without a given filter moves its place by one.
  induction before generalizing serial entries with
  | nil =>
    cases h with
    | given hgiven _ =>
      rw [hnone] at hgiven
      cases hgiven
    | made _ hmakes hrest =>
      have hafter := Entries.last?_eq_none_iff.2 (hrest.keys.symm ▸ hlast)
      have hmade : serial + .ofNat (i.made []) = serial := UInt64.add_zero serial
      refine ⟨_, hmade.symm ▸ hmakes, ?_⟩
      rw [Entries.last?, hafter, Option.none_or, if_pos rfl]
  | cons other before ih =>
    cases h with
    | given hgiven hrest =>
      obtain ⟨filter, hmakes, hfilter⟩ := ih hrest
      have hmade : i.made (other :: before) = i.made before := by simp [Introspection.made, hgiven]
      refine ⟨filter, hmade ▸ hmakes, ?_⟩
      rw [Entries.last?, hfilter, Option.some_or]
    | made hother _ hrest =>
      obtain ⟨filter, hmakes, hfilter⟩ := ih hrest
      have hmade : serial + .ofNat (i.made (other :: before)) =
          serial + 1 + .ofNat (i.made before) := by
        have hcount : i.made (other :: before) = i.made before + 1 := by
          simp [Introspection.made, hother]
        rw [hcount, FilterBuilder.add_one_add_ofNat]
      refine ⟨filter, hmade ▸ hmakes, ?_⟩
      rw [Entries.last?, hfilter, Option.some_or]

end Fills

/-! ### The registry -/

variable (i) in
/-- The given filters under names out of scope, in their merged order. -/
def others : List (String × Filter) :=
  i.declarations.filters.entries.filter fun entry => !i.fieldsInScope.contains entry.1

/-- Without a conflict the registry is made of what fills the scope and of the other filters. -/
theorem build_of_not_conflicting (h : ¬i.Conflicting) (serial : UInt64) :
    i.build serial =
      (i.scopeEntries i.declarations serial i.fieldsInScope).map fun entries =>
        { filters := .ofList (entries ++ i.others), document := some i.schema } := by
  rw [build, scope_of_not_conflicting h]
  cases hentries : i.scopeEntries i.declarations serial i.fieldsInScope with
  | error e =>
    simp only [bind, Except.bind, hentries]
    rfl
  | ok entries =>
    simp only [bind, Except.bind, hentries]
    rfl

/-- The other names are those of the merged filters that are not in scope. -/
theorem keys_others : i.others.map Prod.fst =
    (i.merged.map Prod.fst).eraseDups.filter (· ∉ i.fieldsInScope) := by
  rw [← names_declarations, Roster.names, List.filter_map, others]
  congr 1
  refine List.filter_congr fun entry _ => ?_
  simp

/-- Out of scope a given filter stands among the others. -/
theorem last?_others {name : String} (hscope : name ∉ i.fieldsInScope) :
    Entries.last? name i.others = i.given? name := by
  rw [← get?_declarations]
  cases hget : i.declarations.filters.get? name with
  | none =>
    refine Entries.last?_eq_none_iff.2 fun hname => ?_
    rw [keys_others, ← names_declarations] at hname
    obtain ⟨⟨key, filter⟩, hmem, rfl⟩ := List.mem_map.1 (List.mem_filter.1 hname).1
    rw [Roster.get?, Entries.get?_of_mem i.declarations.filters.nodup hmem] at hget
    cases hget
  | some filter =>
    refine Entries.last?_eq_some ?_ ?_
    · exact List.mem_filter.2 ⟨Entries.mem_of_get? hget, by simp [hscope]⟩
    · intro other hother
      have hmem := (List.mem_filter.1 hother).1
      rw [Roster.get?, Entries.get?_of_mem i.declarations.filters.nodup hmem] at hget
      exact Option.some.inj hget

/-- In the registry a name leads to what fills it or, out of scope, to the given filter. -/
theorem last?_append_others {entries : List (String × Filter)}
    (hkeys : entries.map Prod.fst = i.fieldsInScope) (name : String) :
    Entries.last? name (entries ++ i.others) =
      if name ∈ i.fieldsInScope then Entries.last? name entries else i.given? name := by
  rw [Entries.last?_append]
  split
  · next hscope =>
    have hothers : Entries.last? name i.others = none := by
      refine Entries.last?_eq_none_iff.2 fun hname => ?_
      rw [keys_others] at hname
      simpa [hscope] using (List.mem_filter.1 hname).2
    rw [hothers, Option.none_or]
  · next hscope =>
    have hentries : Entries.last? name entries = none :=
      Entries.last?_eq_none_iff.2 (hkeys ▸ hscope)
    rw [hentries, Option.or_none, last?_others hscope]

/-- What fills the scope makes, with the other filters, a registry as told. -/
theorem builds_of_fills (h : ¬i.Conflicting) {serial : UInt64} {entries : List (String × Filter)}
    (hfills : i.Fills serial i.fieldsInScope entries)
    (hfault : ∀ name ∈ i.fieldsInScope, i.given? name = none → ∀ e, ¬i.Fault name e) :
    i.Builds serial
      (.ok { filters := .ofList (entries ++ i.others), document := some i.schema }) := by
  have hkeys := hfills.keys
  have hothers : ((i.others.map Prod.fst).removeAll i.fieldsInScope).eraseDups =
      i.others.map Prod.fst := by
    have hkept : (i.others.map Prod.fst).removeAll i.fieldsInScope = i.others.map Prod.fst := by
      refine List.filter_eq_self.2 fun name hname => ?_
      rw [keys_others] at hname
      simpa using (List.mem_filter.1 hname).2
    rw [hkept]
    refine Entries.eraseDups_of_nodup ?_
    rw [keys_others, ← names_declarations]
    exact i.declarations.filters.nodup.filter _
  have hget : ∀ name, (Roster.ofList (entries ++ i.others)).get? name =
      if name ∈ i.fieldsInScope then Entries.last? name entries else i.given? name := by
    intro name
    rw [Roster.get?_ofList, last?_append_others hkeys]
  refine ⟨h, hfault, rfl, Roster.nodup _, ?_, ?_, ?_⟩
  · rw [Roster.names_ofList, List.map_append, hkeys, List.eraseDups_append, hothers, keys_others]
  · intro name filter hgiven
    rw [hget]
    split
    · next hscope =>
      rw [← hkeys] at hscope
      obtain ⟨⟨key, other⟩, hmem, rfl⟩ := List.mem_map.1 hscope
      have hother : other = filter := hfills.eq_of_given hgiven hmem
      exact Entries.last?_eq_some (hother ▸ hmem) fun f hf => hfills.eq_of_given hgiven hf
    · exact hgiven
  · intro before name after hscope hlast hnone
    have hmem : name ∈ i.fieldsInScope := by simp [hscope]
    rw [hscope] at hfills
    obtain ⟨filter, hmakes, hfilter⟩ := hfills.last?_of_made hlast hnone
    exact ⟨filter, hmakes, by rw [hget, if_pos hmem, hfilter]⟩

/-- What deriving answers is as told. -/
theorem builds_build (i : Introspection) (serial : UInt64) : i.Builds serial (i.build serial) := by
  by_cases hconflict : i.Conflicting
  · rw [build, scope_of_conflicting hconflict]
    exact .inl ⟨hconflict, rfl⟩
  · have hspec := scopeEntries_spec (i := i) serial i.fieldsInScope
    rw [build_of_not_conflicting hconflict]
    cases hentries : i.scopeEntries i.declarations serial i.fieldsInScope with
    | error e =>
      rw [hentries] at hspec
      exact .inr ⟨hconflict, hspec⟩
    | ok entries =>
      rw [hentries] at hspec
      exact builds_of_fills hconflict hspec.1 hspec.2

/-- A name in a list comes last somewhere. -/
theorem exists_last {name : String} {names : List String} (h : name ∈ names) :
    ∃ before after, names = before ++ name :: after ∧ name ∉ after := by
  obtain ⟨after, before, hsplit, hlast⟩ := List.eq_append_cons_of_mem (List.mem_reverse.2 h)
  refine ⟨before.reverse, after.reverse, ?_, by simpa using hlast⟩
  simpa using congrArg List.reverse hsplit

/-- A name of the registry for which no filter is given is in scope. -/
theorem Builds.mem_fieldsInScope {serial : UInt64} {r : Registry} (h : i.Builds serial (.ok r))
    {name : String} (hname : name ∈ r.filters.names) (hnone : i.given? name = none) :
    name ∈ i.fieldsInScope := by
  obtain ⟨-, -, -, -, hnames, -, -⟩ := h
  rw [hnames, List.mem_append, List.mem_filter] at hname
  rcases hname with hname | ⟨hname, -⟩
  · exact List.mem_eraseDups.1 hname
  · exact absurd (List.mem_eraseDups.1 hname) (Entries.last?_eq_none_iff.1 hnone)

/-- Where no filter is given, the registry has one that was made. -/
theorem Builds.exists_makes {serial : UInt64} {r : Registry} (h : i.Builds serial (.ok r))
    {name : String} (hname : name ∈ r.filters.names) (hnone : i.given? name = none) :
    ∃ before after filter, i.fieldsInScope = before ++ name :: after ∧ name ∉ after ∧
      i.Makes name (serial + .ofNat (i.made before)) filter ∧
        r.filters.get? name = some filter := by
  obtain ⟨before, after, hsplit, hlast⟩ := exists_last (h.mem_fieldsInScope hname hnone)
  obtain ⟨-, -, -, -, -, -, hmade⟩ := h
  obtain ⟨filter, hmakes, hfilter⟩ := hmade before name after hsplit hlast hnone
  exact ⟨before, after, filter, hsplit, hlast, hmakes, hfilter⟩

/-- At most one registry is as told. -/
theorem Builds.eq_of_ok {serial : UInt64} {r r' : Registry} (h : i.Builds serial (.ok r))
    (h' : i.Builds serial (.ok r')) : r = r' := by
  have hget : ∀ name ∈ r.filters.names, r.filters.get? name = r'.filters.get? name := by
    intro name hname
    cases hgiven : i.given? name with
    | some filter =>
      obtain ⟨-, -, -, -, -, hkept, -⟩ := h
      obtain ⟨-, -, -, -, -, hkept', -⟩ := h'
      rw [hkept name filter hgiven, hkept' name filter hgiven]
    | none =>
      obtain ⟨before, after, filter, hsplit, hlast, hmakes, hfilter⟩ :=
        h.exists_makes hname hgiven
      obtain ⟨-, -, -, -, -, -, hmade'⟩ := h'
      obtain ⟨filter', hmakes', hfilter'⟩ := hmade' before name after hsplit hlast hgiven
      rw [hfilter, hfilter', hmakes.unique hmakes']
  obtain ⟨-, -, hdocument, hnodup, hnames, -, -⟩ := h
  obtain ⟨-, -, hdocument', -, hnames', -, -⟩ := h'
  have hfilters : r.filters = r'.filters :=
    Roster.eq_of_entries (Entries.eq_of_get? hnodup (hnames.trans hnames'.symm) hget)
  cases r
  cases r'
  cases hfilters
  cases hdocument.trans hdocument'.symm
  rfl

/-- At most one answer is as told. -/
theorem Builds.unique {serial : UInt64} {outcome outcome' : Except ConfigurationError Registry}
    (h : i.Builds serial outcome) (h' : i.Builds serial outcome') : outcome = outcome' := by
  cases outcome with
  | error e =>
    cases outcome' with
    | error e' =>
      rcases h with ⟨hconflict, rfl⟩ | ⟨hconflict, hfault⟩
      · rcases h' with ⟨-, rfl⟩ | ⟨hnot, -⟩
        · rfl
        · exact absurd hconflict hnot
      · rcases h' with ⟨hyes, -⟩ | ⟨-, hfault'⟩
        · exact absurd hyes hconflict
        · rw [hfault.unique hfault']
    | ok r =>
      rcases h with ⟨hconflict, -⟩ | ⟨-, hfault⟩
      · exact absurd hconflict h'.1
      · obtain ⟨name, hname, hnone, hfault⟩ := hfault.exists_fault
        exact absurd hfault (h'.2.1 name hname hnone e)
  | ok r =>
    cases outcome' with
    | error e' =>
      rcases h' with ⟨hconflict, -⟩ | ⟨-, hfault⟩
      · exact absurd hconflict h.1
      · obtain ⟨name, hname, hnone, hfault⟩ := hfault.exists_fault
        exact absurd hfault (h.2.1 name hname hnone e')
    | ok r' => rw [h.eq_of_ok h']

end Introspection

end QueryFilters
