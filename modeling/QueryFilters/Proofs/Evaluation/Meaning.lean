import QueryFilters.Proofs.Compilation
import QueryFilters.Proofs.Dict
import QueryFilters.Proofs.Evaluation

/-!
# What verdicts say

Verdicts are read as statements about a document: a verdict says a statement if it is given, and is
true exactly if the statement holds (`Evaluation.Says`). An entry that is put into a mapping under a
new key is conjoined to what the mapping says (`Evaluation.says_put`), and the parts of conjunctions
and disjunctions are combined likewise, so a fragment is understood once its entries are. Where the
attribute is no list, an entry with an ordering lookup says that the attribute meets a bound
(`Evaluation.says_entry_order`).
-/

namespace QueryFilters

/-- Different lookups make different keys of a target. -/
theorem Key.ofTarget_injective (target : String) :
    Function.Injective fun l : Lookup => ofTarget target (some l) := by
  intro l l' h
  have hsuffix : l.suffix = l'.suffix := (String.append_right_inj _).1 h
  have hlookup : some l = some l' := by
    rw [← Lookup.ofSuffix?_suffix l, ← Lookup.ofSuffix?_suffix l', hsuffix]
  exact Option.some.inj hlookup

namespace Lookup

/-- Whether the lookup compares by order. -/
def isOrder (l : Lookup) : Bool :=
  l.isComparison && l != .ne

/-- The lookup is satisfied by values in the given order, a bound being the second of them. -/
def Admits : Lookup → Ordering → Prop
  | gt, order => order = .gt
  | gte, order => order.isGE = true
  | lt, order => order = .lt
  | lte, order => order.isLE = true
  | _, _ => False

end Lookup

namespace Evaluation

/-- The verdict is given, and it is true exactly if the statement holds. -/
def Says (verdict : Except EvalError Bool) (statement : Prop) : Prop :=
  ∃ holds, verdict = .ok holds ∧ (holds = true ↔ statement)

namespace Says

variable {verdict verdict' : Except EvalError Bool} {P Q : Prop}

/-- A verdict says whatever is equivalent to what it says. -/
theorem congr (h : Says verdict P) (hiff : P ↔ Q) : Says verdict Q := by
  obtain ⟨holds, hverdict, hholds⟩ := h
  exact ⟨holds, hverdict, hholds.trans hiff⟩

/-- Verdicts that say the same are the same. -/
theorem eq (h : Says verdict P) (h' : Says verdict' P) : verdict = verdict' := by
  obtain ⟨holds, rfl, hholds⟩ := h
  obtain ⟨holds', rfl, hholds'⟩ := h'
  rw [Bool.eq_iff_iff.2 (hholds.trans hholds'.symm)]

/-- What a verdict says holds exactly if the verdict is true. -/
theorem eq_true_iff (h : Says verdict P) : verdict = .ok true ↔ P := by
  obtain ⟨holds, rfl, hholds⟩ := h
  rw [Except.ok.injEq, hholds]

/-- What a verdict says fails exactly if the verdict is false. -/
theorem eq_false_iff (h : Says verdict P) : verdict = .ok false ↔ ¬P := by
  obtain ⟨holds, rfl, hholds⟩ := h
  rw [Except.ok.injEq, ← hholds, Bool.not_eq_true]

end Says

variable (metric : Metric) (proximity : Proximity) (d : Document)

/-! ### Mappings -/

/-- A mapping without entries says nothing. -/
theorem says_empty : Says (entries metric proximity d (Dict.empty : Params).entries) True :=
  ⟨true, rfl, iff_of_true rfl trivial⟩

/-- The verdict on an entry under a new key is conjoined, wherever the key comes to stand. -/
theorem entries_insert {key : String} {operand : Value} {list : List (String × Value)}
    {holds holds' : Bool} (hkey : key ∉ list.map Prod.fst)
    (hlist : entries metric proximity d list = .ok holds)
    (hentry : entry metric proximity d key operand = .ok holds') :
    entries metric proximity d (Entries.insert key operand list) = .ok (holds && holds') := by
  induction list with
  | nil =>
    obtain rfl := Except.ok.inj hlist
    rw [Entries.insert, entries, hentry]
    cases holds' <;> rfl
  | cons pair rest ih =>
    obtain ⟨k, v⟩ := pair
    rw [List.map_cons, List.mem_cons, not_or] at hkey
    rw [Entries.insert]
    split
    · rw [entries, hentry]
      cases holds' with
      | true => rw [hlist, Bool.and_true]
      | false => rw [Bool.and_false]
    · next heq => exact absurd (Std.LawfulEqCmp.eq_of_compare heq) hkey.1
    · rw [entries] at hlist ⊢
      rcases hpair : entry metric proximity d k v with e | (_ | _)
      · rw [hpair] at hlist
        cases hlist
      · rw [hpair] at hlist
        obtain rfl := Except.ok.inj hlist
        rfl
      · rw [hpair] at hlist
        exact ih hkey.2 hlist

/-- What a mapping says, and what an entry says that is put into it under a new key. -/
theorem says_put {params : Params} {target : String} {l : Option Lookup} {operand : Value}
    {P Q : Prop} (hkey : Key.ofTarget target l ∉ params.keys)
    (hparams : Says (entries metric proximity d params.entries) P)
    (hentry : Says (entry metric proximity d (Key.ofTarget target l) operand) Q) :
    Says (entries metric proximity d (params.put target l operand).entries) (P ∧ Q) := by
  obtain ⟨holds, hlist, hholds⟩ := hparams
  obtain ⟨holds', hnew, hholds'⟩ := hentry
  refine ⟨holds && holds', entries_insert metric proximity d hkey hlist hnew, ?_⟩
  rw [Bool.and_eq_true, hholds, hholds']

/-- An entry that is not always put says something only where it is. -/
theorem says_put_optional {params : Params} {target : String} {l : Option Lookup} {P : Prop}
    {Q : Value → Prop} (hkey : Key.ofTarget target l ∉ params.keys)
    (hparams : Says (entries metric proximity d params.entries) P)
    (hentry : ∀ operand,
      Says (entry metric proximity d (Key.ofTarget target l) operand) (Q operand))
    (operand? : Option Value) :
    Says (entries metric proximity d
        (operand?.elim params fun operand => params.put target l operand).entries)
      (P ∧ ∀ operand ∈ operand?, Q operand) := by
  cases operand? with
  | none => exact hparams.congr (by simp)
  | some operand =>
    exact (says_put metric proximity d hkey hparams (hentry operand)).congr (by simp)

/-! ### Conditions -/

/-- An empty conjunction says nothing. -/
theorem says_all_nil : Says (all metric proximity d []) True :=
  ⟨true, rfl, iff_of_true rfl trivial⟩

/-- A conjunction says what its conditions do, each of them. -/
theorem says_all_cons {c : Condition} {conditions : List Condition} {P Q : Prop}
    (hc : Says (condition metric proximity d c) P)
    (hconditions : Says (all metric proximity d conditions) Q) :
    Says (all metric proximity d (c :: conditions)) (P ∧ Q) := by
  obtain ⟨holds, hverdict, hholds⟩ := hc
  rw [all, hverdict]
  cases holds with
  | true => exact hconditions.congr (by simp [← hholds])
  | false => exact ⟨false, rfl, by simp [← hholds]⟩

/-- A conjunction says of each condition what that one says. -/
theorem says_all {P : Condition → Prop} {conditions : List Condition}
    (h : ∀ c ∈ conditions, Says (condition metric proximity d c) (P c)) :
    Says (all metric proximity d conditions) (∀ c ∈ conditions, P c) := by
  induction conditions with
  | nil => exact (says_all_nil metric proximity d).congr (by simp)
  | cons c conditions ih =>
    obtain ⟨hc, hconditions⟩ := List.forall_mem_cons.1 h
    exact (says_all_cons metric proximity d hc (ih hconditions)).congr (by simp)

/-- An empty disjunction says what never holds. -/
theorem says_any_nil : Says (any metric proximity d []) False :=
  ⟨false, rfl, iff_of_false Bool.false_ne_true id⟩

/-- A disjunction says that what one of its conditions says holds. -/
theorem says_any_cons {c : Condition} {conditions : List Condition} {P Q : Prop}
    (hc : Says (condition metric proximity d c) P)
    (hconditions : Says (any metric proximity d conditions) Q) :
    Says (any metric proximity d (c :: conditions)) (P ∨ Q) := by
  obtain ⟨holds, hverdict, hholds⟩ := hc
  rw [any, hverdict]
  cases holds with
  | true => exact ⟨true, rfl, by simp [← hholds]⟩
  | false => exact hconditions.congr (by simp [← hholds])

/-- A disjunction of two conditions says what one of them does. -/
theorem says_any_pair {c c' : Condition} {P Q : Prop} (hc : Says (condition metric proximity d c) P)
    (hc' : Says (condition metric proximity d c') Q) :
    Says (any metric proximity d [c, c']) (P ∨ Q) :=
  (says_any_cons metric proximity d hc
    (says_any_cons metric proximity d hc' (says_any_nil metric proximity d))).congr (by simp)

/-- A disjunction says that what some condition says holds. -/
theorem says_any {P : Condition → Prop} {conditions : List Condition}
    (h : ∀ c ∈ conditions, Says (condition metric proximity d c) (P c)) :
    Says (any metric proximity d conditions) (∃ c ∈ conditions, P c) := by
  induction conditions with
  | nil => exact (says_any_nil metric proximity d).congr (by simp)
  | cons c conditions ih =>
    obtain ⟨hc, hconditions⟩ := List.forall_mem_cons.1 h
    exact (says_any_cons metric proximity d hc (ih hconditions)).congr (by simp)

/-- A condition that is not always there says something only where it is. -/
theorem says_all_optional {α : Type} {f : α → Condition} {P : α → Prop}
    (hf : ∀ x, Says (condition metric proximity d (f x)) (P x)) (x? : Option α)
    {conditions : List Condition} {Q : Prop}
    (hconditions : Says (all metric proximity d conditions) Q) :
    Says (all metric proximity d ((x?.map f).toList ++ conditions)) ((∀ x ∈ x?, P x) ∧ Q) := by
  cases x? with
  | none => exact hconditions.congr (by simp)
  | some x => exact (says_all_cons metric proximity d (hf x) hconditions).congr (by simp)

/-! ### Attributes that are no lists -/

/-- What a lookup accepts is an order that it admits. -/
theorem acceptsOrder_eq_true_iff {l : Lookup} {order? : Option Ordering} :
    acceptsOrder l order? = true ↔ ∃ order ∈ order?, l.Admits order := by
  rcases order? with _ | _ | _ | _ <;> cases l <;> simp [acceptsOrder, Lookup.Admits]

/-- An attribute is there and compares with a bound as a lookup asks. -/
def Meets (actual : Option Value) (l : Lookup) (bound : Value) : Prop :=
  ∃ value ∈ actual, ∃ order ∈ value.compare? bound, l.Admits order

/-- An attribute that is no list compares with a bound by itself. -/
theorem matchesOrder_eq_true_iff {actual : Option Value}
    (hlist : ∀ value ∈ actual, value.isList = false) (bound : Value) (l : Lookup) :
    matchesOrder actual bound l = true ↔ Meets actual l bound := by
  cases actual with
  | none => simp [matchesOrder, anyElement, Meets]
  | some value =>
    rw [matchesOrder, anyElement_of_not_isList (hlist value rfl), acceptsOrder_eq_true_iff]
    simp [Meets]

/-- An attribute that is no list equals a value other than null by itself. -/
theorem matchesEq_eq_true_iff {actual : Option Value}
    (hlist : ∀ value ∈ actual, value.isList = false) {operand : Value} (hnull : operand ≠ .null) :
    matchesEq actual operand = true ↔ ∃ value ∈ actual, value.looselyEq operand = true := by
  cases actual with
  | none => cases operand <;> first | exact absurd rfl hnull | simp [matchesEq, Value.isNull]
  | some value => simp [matchesEq_of_not_isList (hlist value rfl)]

variable {path : Path} (hne : path ≠ []) (htidy : path.Tidy)

include hne htidy

/-- A bound on an attribute that is no list. -/
theorem says_entry_order {l : Lookup} (hl : l.isOrder = true)
    (hlist : ∀ value ∈ d.get? path, value.isList = false) (bound : Value) :
    Says (entry metric proximity d (Key.ofTarget path.toTarget (some l)) bound)
      (Meets (d.get? path) l bound) := by
  refine ⟨matchesOrder (d.get? path) bound l, ?_, matchesOrder_eq_true_iff hlist bound l⟩
  rw [entry_ofTarget metric proximity d hne htidy fun h => by cases h]
  cases l <;> first | rfl | cases hl

/-- A value that an attribute equals, where the path alone does not read like one with a lookup. -/
theorem says_entry_equal (hlast : path.Unambiguous none)
    (hlist : ∀ value ∈ d.get? path, value.isList = false) {operand : Value}
    (hnull : operand ≠ .null) :
    Says (entry metric proximity d (Key.ofTarget path.toTarget none) operand)
      (∃ value ∈ d.get? path, value.looselyEq operand = true) := by
  rw [entry_ofTarget metric proximity d hne htidy hlast]
  exact ⟨matchesEq (d.get? path) operand, rfl, matchesEq_eq_true_iff hlist hnull⟩

/-- A test whether an attribute is missing. -/
theorem says_entry_missing :
    Says (entry metric proximity d (Key.ofTarget path.toTarget (some .present)) (.bool false))
      (d.get? path = none) := by
  rw [entry_ofTarget metric proximity d hne htidy fun h => by cases h]
  exact ⟨(d.get? path).isSome == false, rfl, by simp⟩

end Evaluation

end QueryFilters
