import QueryFilters.Proofs.Evaluation.Meaning

/-!
# Stored lists by their items

A store reads a list through its items. Every matcher but those that are negated passes a list where
it passes one of the items in the place of the list (`Evaluation.PassesByItem`), whatever order it
goes through items and candidates in; a negated one then passes where it passes all of them. From
this `Evaluation.says_entry_list` tells the verdict on a list from the verdicts on its items.
Neither a list in the list nor a list to compare with is covered: for these a list is a value like
others.
-/

namespace QueryFilters

namespace Lookup

/-- Whether a list satisfies the lookup as soon as an item does. Equality, which is no lookup, is
satisfied like this as well. -/
def asksAnyItem : Option Lookup → Bool
  | none => true
  | some l => l.isOrder || l.isString || l == .oneOf

/-- Whether a list satisfies the lookup only if every item does. -/
def asksEveryItem : Option Lookup → Bool
  | none => false
  | some l => l == .ne || l == .noneOf

/-- The operand is no list, or it is the list that a lookup of candidates takes, and none of the
candidates is a list. -/
def ComparesSingles (l : Option Lookup) (operand : Value) : Prop :=
  if l.any isMembership then
    ∃ candidates, operand = .list candidates ∧ ∀ candidate ∈ candidates, candidate.isList = false
  else operand.isList = false

end Lookup

namespace Evaluation

/-! ### Matchers -/

/-- The test of an attribute passes a list, if no item is a list itself, exactly where it passes one
of the items. -/
def PassesByItem (test : Option Value → Bool) : Prop :=
  ∀ items : List Value, (∀ item ∈ items, item.isList = false) →
    (test (some (.list items)) = true ↔ ∃ item ∈ items, test (some item) = true)

/-- Nothing passes the test that fails everything. -/
theorem passesByItem_false : PassesByItem fun _ => false := by
  intro items _
  simp

/-- A list passes the test of its items when one of them does. -/
theorem passesByItem_anyElement (test : Value → Bool) : PassesByItem (anyElement test) := by
  intro items hitems
  rw [anyElement, List.any_eq_true]
  constructor
  · rintro ⟨item, hitem, htest⟩
    exact ⟨item, hitem, (anyElement_of_not_isList (hitems item hitem) test).trans htest⟩
  · rintro ⟨item, hitem, htest⟩
    rw [anyElement_of_not_isList (hitems item hitem)] at htest
    exact ⟨item, hitem, htest⟩

/-- A stored value equals what is no list when it passes the test for that, or an item of it does.
-/
theorem matchesEq_some {operand : Value} (h : operand.isList = false) (value : Value) :
    matchesEq (some value) operand =
      anyElement (fun item => item.looselyEq operand) (some value) := by
  cases value with
  | list items => simp [matchesEq, anyElement, h]
  | _ => rfl

/-- A list equals what is no list when an item, in its place, does. -/
theorem passesByItem_matchesEq {operand : Value} (h : operand.isList = false) :
    PassesByItem fun actual => matchesEq actual operand := by
  intro items hitems
  simp only [matchesEq_some h]
  exact passesByItem_anyElement _ items hitems

/-- A list equals one of the candidates when an item does. -/
theorem passesByItem_matchesIn {candidates : List Value}
    (h : ∀ candidate ∈ candidates, candidate.isList = false) :
    PassesByItem fun actual => matchesIn actual candidates := by
  intro items hitems
  simp only [matchesIn, List.any_eq_true]
  constructor
  · rintro ⟨candidate, hcandidate, heq⟩
    obtain ⟨item, hitem, heq'⟩ :=
      (passesByItem_matchesEq (h candidate hcandidate) items hitems).1 heq
    exact ⟨item, hitem, candidate, hcandidate, heq'⟩
  · rintro ⟨item, hitem, candidate, hcandidate, heq⟩
    exact ⟨candidate, hcandidate,
      (passesByItem_matchesEq (h candidate hcandidate) items hitems).2 ⟨item, hitem, heq⟩⟩

/-- A list matches a pattern when an item does. A pattern that is no text can only be equal. -/
theorem passesByItem_matchesText {operand : Value} (h : operand.isList = false) (l : Lookup) :
    PassesByItem fun actual => matchesText actual operand l := by
  cases operand with
  | string pattern => exact passesByItem_anyElement _
  | _ =>
    cases l with
    | exact => exact passesByItem_matchesEq h
    | _ => exact passesByItem_false

/-! ### Lookups -/

variable (metric : Metric) (proximity : Proximity) (key : String) (path : Path)

/-- A lookup that asks for any item is a test that passes lists by their items. -/
theorem exists_test_of_asksAnyItem {l : Option Lookup} {operand : Value}
    (hl : Lookup.asksAnyItem l = true) (hoperand : Lookup.ComparesSingles l operand) :
    ∃ test, PassesByItem test ∧
      ∀ actual, lookup metric proximity key path actual l operand = .ok (test actual) := by
  cases l with
  | none => exact ⟨_, passesByItem_matchesEq hoperand, fun _ => rfl⟩
  | some l =>
    cases l with
    | gt | gte | lt | lte => exact ⟨_, passesByItem_anyElement _, fun _ => rfl⟩
    | oneOf =>
      obtain ⟨candidates, rfl, hcandidates⟩ := hoperand
      exact ⟨_, passesByItem_matchesIn hcandidates, fun _ => rfl⟩
    | exact | iexact | contains | icontains | startsWith | istartsWith | endsWith | iendsWith =>
      exact ⟨_, passesByItem_matchesText hoperand _, fun _ => rfl⟩
    | _ => cases hl

/-- A lookup that asks for every item is the opposite of such a test. -/
theorem exists_test_of_asksEveryItem {l : Option Lookup} {operand : Value}
    (hl : Lookup.asksEveryItem l = true) (hoperand : Lookup.ComparesSingles l operand) :
    ∃ test, PassesByItem test ∧
      ∀ actual, lookup metric proximity key path actual l operand = .ok (!test actual) := by
  cases l with
  | none => cases hl
  | some l =>
    cases l with
    | ne => exact ⟨_, passesByItem_matchesEq hoperand, fun _ => rfl⟩
    | noneOf =>
      obtain ⟨candidates, rfl, hcandidates⟩ := hoperand
      exact ⟨_, passesByItem_matchesIn hcandidates, fun _ => rfl⟩
    | _ => cases hl

/-- All candidates are in a list when each of them equals an item. -/
theorem matchesAll_list_iff {candidates : List Value}
    (h : ∀ candidate ∈ candidates, candidate.isList = false) (items : List Value) :
    (!candidates.isEmpty && candidates.all (matchesEq (some (.list items)))) = true ↔
      candidates ≠ [] ∧
        ∀ candidate ∈ candidates, ∃ item ∈ items, item.looselyEq candidate = true := by
  rw [Bool.and_eq_true, List.all_eq_true]
  refine and_congr (by simp) (forall₂_congr fun candidate hcandidate => ?_)
  rw [matchesEq_some (h candidate hcandidate), anyElement, List.any_eq_true]

/-! ### Entries -/

/-- An entry reads the attribute under the path of its key, unless it is a raw query. -/
theorem entry_of_get? {key : String} (hkey : key ≠ Key.raw) {d : Document} {value : Value}
    (hvalue : d.get? (Key.split key).1 = some value) (operand : Value) :
    entry metric proximity d key operand =
      lookup metric proximity key (Key.split key).1 (some value) (Key.split key).2 operand := by
  rw [entry, if_neg hkey, ← hvalue]

/-- The verdict of an entry on a stored list, if neither the list nor what it is compared with holds
a list, told by those on its items in the place of the list. It takes one item to satisfy an
equality, a comparison by order, a lookup of text or one of a single candidate, and every item to
satisfy inequality or exclusion. All candidates are to be found among the items. -/
theorem says_entry_list {key : String} (hkey : key ≠ Key.raw) {store : Value → Document}
    (hstore : ∀ value, (store value).get? (Key.split key).1 = some value) {items : List Value}
    (hitems : ∀ item ∈ items, item.isList = false) {operand : Value}
    (hoperand : Lookup.ComparesSingles (Key.split key).2 operand) :
    (Lookup.asksAnyItem (Key.split key).2 = true →
      Says (entry metric proximity (store (.list items)) key operand)
          (∃ item ∈ items, entry metric proximity (store item) key operand = .ok true) ∧
        entry metric proximity (store (.list [])) key operand = .ok false) ∧
    (Lookup.asksEveryItem (Key.split key).2 = true →
      Says (entry metric proximity (store (.list items)) key operand)
          (∀ item ∈ items, entry metric proximity (store item) key operand = .ok true) ∧
        entry metric proximity (store (.list [])) key operand = .ok true) ∧
    ∀ candidates, (Key.split key).2 = some .allOf → operand = .list candidates →
      Says (entry metric proximity (store (.list items)) key operand)
        (candidates ≠ [] ∧
          ∀ candidate ∈ candidates, ∃ item ∈ items, item.looselyEq candidate = true) := by
  have hentry := fun value => entry_of_get? metric proximity hkey (hstore value) operand
  simp only [hentry]
  refine ⟨fun hl => ?_, fun hl => ?_, fun candidates hl hlist => ?_⟩
  · obtain ⟨test, htest, hlookup⟩ :=
      exists_test_of_asksAnyItem metric proximity key (Key.split key).1 hl hoperand
    simp only [hlookup, Except.ok.injEq]
    refine ⟨⟨_, rfl, htest items hitems⟩, ?_⟩
    rw [← Bool.not_eq_true, htest [] (List.forall_mem_nil _)]
    simp
  · obtain ⟨test, htest, hlookup⟩ :=
      exists_test_of_asksEveryItem metric proximity key (Key.split key).1 hl hoperand
    simp only [hlookup, Except.ok.injEq, Bool.not_eq_true']
    refine ⟨⟨_, rfl, ?_⟩, ?_⟩
    · rw [Bool.not_eq_true', ← Bool.not_eq_true, htest items hitems]
      simp
    · rw [← Bool.not_eq_true, htest [] (List.forall_mem_nil _)]
      simp
  · rw [hl] at hoperand ⊢
    obtain ⟨_, rfl, hcandidates⟩ := hoperand
    obtain rfl := Value.list.inj hlist
    exact ⟨_, rfl, matchesAll_list_iff hcandidates items⟩

/-- The tags of a document are a text, null and an integer. The integer is a candidate, so a lookup
of one candidate holds and exclusion does not; the other candidate is no tag, so not all of them
are. -/
theorem says_entry_list_tags :
    let key : Lookup → String := fun l => Key.ofTarget (Path.toTarget ["tags"]) (some l)
    let store : Value → Document := fun value => (Document.mk "Doc" .empty).set "tags" value
    let items : List Value := [.string "x", .null, .int 1]
    let operand : Value := .list [.int 1, .string "y"]
    (∀ l, key l ≠ Key.raw) ∧ (∀ l, Key.split (key l) = (["tags"], some l)) ∧
      (∀ value, (store value).get? ["tags"] = some value) ∧
      (∀ item ∈ items, item.isList = false) ∧
      (∀ l ∈ Lookup.membership, Lookup.ComparesSingles (some l) operand) ∧
      entry Metric.greatCircle .empty (store (.list items)) (key .oneOf) operand = .ok true ∧
      entry Metric.greatCircle .empty (store (.list items)) (key .noneOf) operand = .ok false ∧
      entry Metric.greatCircle .empty (store (.list items)) (key .allOf) operand = .ok false := by
  intro key store items operand
  have htidy : Path.Tidy ["tags"] := by
    rw [Path.Tidy]
    decide +kernel
  have hlast : ∀ l, Path.Unambiguous ["tags"] (some l) := fun l hnone => by cases hnone
  have hsplit : ∀ l, Key.split (key l) = (["tags"], some l) := fun l =>
    Key.split_ofTarget (List.cons_ne_nil _ _) htidy (hlast l)
  have hraw : ∀ l, key l ≠ Key.raw := fun l =>
    Key.ofTarget_ne_raw (List.cons_ne_nil _ _) htidy (hlast l)
  have hstore : ∀ value, (store value).get? ["tags"] = some value := fun value =>
    Document.get?_set _ "tags" value []
  have hitems : ∀ item ∈ items, item.isList = false := by simp [items, Value.isList]
  have hoperand : ∀ l ∈ Lookup.membership, Lookup.ComparesSingles (some l) operand := by
    intro l hl
    rw [Lookup.ComparesSingles, if_pos (by simpa [Lookup.isMembership] using hl)]
    exact ⟨_, rfl, by simp [Value.isList]⟩
  have hverdict := fun l hl =>
    says_entry_list Metric.greatCircle .empty (hraw l) (by rw [hsplit]; exact hstore) hitems
      (by rw [hsplit]; exact hoperand l hl)
  simp only [hsplit] at hverdict
  have hone : ∀ l operand, entry Metric.greatCircle .empty (store (.int 1)) (key l) operand =
      lookup Metric.greatCircle .empty (key l) ["tags"] (some (.int 1)) (some l) operand := by
    intro l operand
    rw [entry_of_get? _ _ (hraw l) (by rw [hsplit]; exact hstore _), hsplit]
  refine ⟨hraw, hsplit, hstore, hitems, hoperand, ?_, ?_, ?_⟩
  · refine ((hverdict .oneOf (by decide)).1 rfl).1.eq_true_iff.2 ⟨.int 1, by simp [items], ?_⟩
    rw [hone]
    rfl
  · refine ((hverdict .noneOf (by decide)).2.1 rfl).1.eq_false_iff.2 fun hall => ?_
    have hfirst := hall (.int 1) (by simp [items])
    rw [hone] at hfirst
    cases hfirst
  · refine ((hverdict .allOf (by decide)).2.2 _ rfl rfl).eq_false_iff.2 fun hall => ?_
    obtain ⟨item, hitem, heq⟩ := hall.2 (.string "y") (by simp)
    simp only [items, List.mem_cons, List.not_mem_nil, or_false] at hitem
    rcases hitem with rfl | rfl | rfl <;> revert heq <;> decide +kernel

end Evaluation

end QueryFilters
