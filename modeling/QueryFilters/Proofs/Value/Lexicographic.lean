import QueryFilters.Proofs.Value.Equality

/-!
# Lists by their items

A comparison of items extends to lists: the first items that are not equal decide, and a list comes
before those it begins (`Lexicographic`). Lists of values are compared that way
(`Value.lexicographic_order?`), but by the order of values and not by the comparison of a store.
Inside a list an integer and a float are therefore never equal, and other values of different types
are not left unordered: the type decides. A store's comparison of lists is the extension of its
comparison of values exactly as long as the first items of different types, if the lists come to
any, are no exception (`Value.lexicographic_compare?_iff`).
-/

namespace QueryFilters

/-- How lists compare item by item: the first items that are not equal decide, also where they do
not compare at all, and a list comes before those it begins. -/
inductive Lexicographic {α : Type u} (cmp : α → α → Option Ordering) :
    List α → List α → Option Ordering → Prop
  | same : Lexicographic cmp [] [] (some .eq)
  | shorter (y : α) (ys : List α) : Lexicographic cmp [] (y :: ys) (some .lt)
  | longer (x : α) (xs : List α) : Lexicographic cmp (x :: xs) [] (some .gt)
  | decides {x y : α} (h : cmp x y ≠ some .eq) (xs ys : List α) :
    Lexicographic cmp (x :: xs) (y :: ys) (cmp x y)
  | passes {x y : α} {xs ys : List α} {o : Option Ordering} (h : cmp x y = some .eq)
    (hrest : Lexicographic cmp xs ys o) : Lexicographic cmp (x :: xs) (y :: ys) o

namespace Lexicographic

variable {α : Type u} {cmp : α → α → Option Ordering} {x y : α} {xs ys : List α}
  {o : Option Ordering}

/-- Lists compare in one way. -/
theorem exists_unique (cmp : α → α → Option Ordering) (xs ys : List α) :
    ∃! o, Lexicographic cmp xs ys o := by
  induction xs generalizing ys with
  | nil =>
    cases ys with
    | nil => exact ⟨_, .same, fun o h => by cases h; rfl⟩
    | cons y ys => exact ⟨_, .shorter y ys, fun o h => by cases h; rfl⟩
  | cons x xs ih =>
    cases ys with
    | nil => exact ⟨_, .longer x xs, fun o h => by cases h; rfl⟩
    | cons y ys =>
      by_cases heq : cmp x y = some .eq
      · obtain ⟨o, hrest, hunique⟩ := ih ys
        refine ⟨o, .passes heq hrest, fun o' h => ?_⟩
        cases h with
        | decides hne => exact absurd heq hne
        | passes _ hrest' => exact hunique o' hrest'
      · refine ⟨cmp x y, .decides heq xs ys, fun o' h => ?_⟩
        cases h with
        | decides => rfl
        | passes heq' => exact absurd heq' heq

/-- The way in which lists compare is the only one. -/
theorem eq_iff {o' : Option Ordering} (h : Lexicographic cmp xs ys o) :
    o = o' ↔ Lexicographic cmp xs ys o' :=
  ⟨fun heq => heq ▸ h, fun h' => (exists_unique cmp xs ys).unique h h'⟩

/-- Equal first items leave the decision to the others. -/
theorem cons_iff_of_eq (h : cmp x y = some .eq) :
    Lexicographic cmp (x :: xs) (y :: ys) o ↔ Lexicographic cmp xs ys o := by
  constructor
  · rintro (_ | _ | _ | hne | ⟨-, hrest⟩)
    · exact absurd h hne
    · exact hrest
  · exact .passes h

/-- First items that are not equal decide. -/
theorem cons_iff_of_ne (h : cmp x y ≠ some .eq) :
    Lexicographic cmp (x :: xs) (y :: ys) o ↔ o = cmp x y := by
  constructor
  · rintro (_ | _ | _ | _ | ⟨heq, -⟩)
    · rfl
    · exact absurd heq h
  · rintro rfl
    exact .decides h xs ys

/-- Lists are equal when their items are equal one by one. -/
theorem eq_iff_forall₂ :
    Lexicographic cmp xs ys (some .eq) ↔ List.Forall₂ (fun x y => cmp x y = some .eq) xs ys := by
  induction xs generalizing ys with
  | nil =>
    cases ys with
    | nil => exact iff_of_true .same .nil
    | cons y ys => exact iff_of_false nofun nofun
  | cons x xs ih =>
    cases ys with
    | nil => exact iff_of_false nofun nofun
    | cons y ys =>
      rw [List.forall₂_cons]
      by_cases heq : cmp x y = some .eq
      · rw [cons_iff_of_eq heq, ih, and_iff_right heq]
      · rw [cons_iff_of_ne heq]
        exact iff_of_false (Ne.symm heq) fun h => heq h.1

end Lexicographic

namespace Value

/-- Lists of values are compared item by item in the order of values. -/
theorem lexicographic_order? (xs ys : List Value) :
    Lexicographic order? xs ys (compare? (list xs) (list ys)) := by
  have hitems : compare? (list xs) (list ys) = orderItems? xs ys := by
    have htype : (list xs).type = (list ys).type := rfl
    rw [compare?_of_type_eq htype, order?]
  rw [hitems]
  clear hitems
  induction xs generalizing ys with
  | nil => cases ys <;> constructor
  | cons x xs ih =>
    cases ys with
    | nil => exact .longer x xs
    | cons y ys =>
      rw [orderItems?_cons]
      by_cases heq : x.order? y = some .eq
      · rw [heq]
        exact .passes heq (ih ys)
      · rw [followed_of_ne heq]
        exact .decides heq xs ys

/-- Values that are equal in the order of values are of one type. -/
theorem order?_eq_eq_iff {x y : Value} :
    x.order? y = some .eq ↔ x.type = y.type ∧ x.looselyEq y = true := by
  constructor
  · intro h
    have htype : x.type = y.type := type_eq_of_beq (beq_iff.2 h)
    refine ⟨htype, looselyEq_iff.2 ?_⟩
    rw [compare?_of_type_eq htype, h]
  · rintro ⟨htype, h⟩
    rw [← compare?_of_type_eq htype, looselyEq_iff.1 h]

/-- The first items of different types that two lists come to, and what follows these items. Before
them stand only equal items. -/
inductive FirstMixed (x y : Value) (xs ys : List Value) : List Value → List Value → Prop
  | here (h : x.type ≠ y.type) : FirstMixed x y xs ys (x :: xs) (y :: ys)
  | after {a b : Value} {as bs : List Value} (h : a.order? b = some .eq)
    (hrest : FirstMixed x y xs ys as bs) : FirstMixed x y xs ys (a :: as) (b :: bs)

namespace FirstMixed

variable {x y a b : Value} {xs ys as bs : List Value}

/-- Past equal items, lists come to the items that the rest of them comes to. -/
theorem cons_iff_of_eq (h : a.order? b = some .eq) :
    FirstMixed x y xs ys (a :: as) (b :: bs) ↔ FirstMixed x y xs ys as bs := by
  constructor
  · rintro (htype | ⟨-, hrest⟩)
    · exact absurd (order?_eq_eq_iff.1 h).1 htype
    · exact hrest
  · exact .after h

/-- Items of different types at the start are the first ones. -/
theorem cons_iff_of_type (h : a.type ≠ b.type) :
    FirstMixed x y xs ys (a :: as) (b :: bs) ↔ x = a ∧ y = b ∧ xs = as ∧ ys = bs := by
  constructor
  · rintro (_ | ⟨heq, -⟩)
    · exact ⟨rfl, rfl, rfl, rfl⟩
    · exact absurd (order?_eq_eq_iff.1 heq).1 h
  · rintro ⟨rfl, rfl, rfl, rfl⟩
    exact .here h

/-- Lists do not come past items of one type that are not equal. -/
theorem not_cons (htype : a.type = b.type) (h : a.order? b ≠ some .eq) :
    ¬FirstMixed x y xs ys (a :: as) (b :: bs) := by
  rintro (hne | ⟨heq, -⟩)
  · exact hne htype
  · exact h heq

end FirstMixed

/-- Lists that start with items of different types are in the order of these types. Item by item a
store puts them in that order too exactly if it puts the first items so, or takes them for equal and
puts what follows so. -/
theorem lexicographic_cons_iff_of_type {x y : Value} (h : x.type ≠ y.type) (xs ys : List Value) :
    Lexicographic compare? (x :: xs) (y :: ys) (x.order? y) ↔
      x.compare? y = x.order? y ∨
        x.compare? y = some .eq ∧ Lexicographic compare? xs ys (x.order? y) := by
  have hne : x.order? y ≠ some .eq := fun heq => h (order?_eq_eq_iff.1 heq).1
  by_cases heq : x.compare? y = some .eq
  · rw [Lexicographic.cons_iff_of_eq heq, heq]
    exact ⟨fun hrest => .inr ⟨rfl, hrest⟩, fun hcases =>
      hcases.elim (fun hsame => absurd hsame.symm hne) And.right⟩
  · rw [Lexicographic.cons_iff_of_ne heq, eq_comm]
    exact (or_iff_left fun hrest => heq hrest.1).symm

/-- What the order of values makes of two lists is what a store's comparison makes of them item by
item exactly if the first items of different types that they come to, if they come to any, are no
exception. -/
theorem lexicographic_iff_of_firstMixed {xs ys : List Value} {o : Option Ordering}
    (h : Lexicographic order? xs ys o) :
    Lexicographic compare? xs ys o ↔
      ∀ x y xs' ys', FirstMixed x y xs' ys' xs ys →
        x.compare? y = x.order? y ∨
        x.compare? y = some .eq ∧ Lexicographic compare? xs' ys' (x.order? y) := by
  induction h with
  | same => exact iff_of_true .same nofun
  | shorter y ys => exact iff_of_true (.shorter y ys) nofun
  | longer x xs => exact iff_of_true (.longer x xs) nofun
  | @decides x y hne xs ys =>
    by_cases htype : x.type = y.type
    · have hcompare : x.compare? y = x.order? y := compare?_of_type_eq htype
      refine iff_of_true (hcompare ▸ .decides (hcompare ▸ hne) xs ys) ?_
      exact fun _ _ _ _ hmixed => absurd hmixed (FirstMixed.not_cons htype hne)
    · rw [lexicographic_cons_iff_of_type htype]
      simp only [FirstMixed.cons_iff_of_type htype]
      constructor
      · rintro hcases _ _ _ _ ⟨rfl, rfl, rfl, rfl⟩
        exact hcases
      · intro hcases
        exact hcases x y xs ys ⟨rfl, rfl, rfl, rfl⟩
  | @passes x y xs ys o heq _ ih =>
    have hcompare : x.compare? y = some .eq := looselyEq_iff.1 (order?_eq_eq_iff.1 heq).2
    rw [Lexicographic.cons_iff_of_eq hcompare, ih]
    simp only [FirstMixed.cons_iff_of_eq heq]

/-- What a store does with lists is to compare their items in the order of values. That is its own
comparison of items exactly if the first items of different types that the lists come to, if they
come to any, are no exception. Lists are therefore loosely equal exactly if their items are so one
by one and each is of the type of its counterpart. -/
theorem lexicographic_compare?_iff (xs ys : List Value) :
    Lexicographic order? xs ys (compare? (list xs) (list ys)) ∧
      (∀ x y : Value, x.order? y =
        if x.type = y.type then x.compare? y else some (compare x.type.rank y.type.rank)) ∧
      (Lexicographic compare? xs ys (compare? (list xs) (list ys)) ↔
        ∀ x y xs' ys', FirstMixed x y xs' ys' xs ys →
          x.compare? y = x.order? y ∨
          x.compare? y = some .eq ∧ Lexicographic compare? xs' ys' (x.order? y)) ∧
      (looselyEq (list xs) (list ys) = true ↔
        List.Forall₂ (fun x y => x.type = y.type ∧ x.looselyEq y = true) xs ys) := by
  have horder := lexicographic_order? xs ys
  refine ⟨horder, fun x y => ?_, lexicographic_iff_of_firstMixed horder, ?_⟩
  · split
    · next htype => exact (compare?_of_type_eq htype).symm
    · next htype => exact order?_of_type_ne htype
  · rw [looselyEq_iff, horder.eq_iff, Lexicographic.eq_iff_forall₂]
    simp only [order?_eq_eq_iff]

/-- Two lists of one number each, an integer and the float that is loosely equal to it: item by item
they are equal, but they are not loosely equal. -/
theorem not_lexicographic_compare? :
    let x : Value := .int 5
    let y : Value := .float 5.0
    x.looselyEq y = true ∧ Lexicographic compare? [x] [y] (some .eq) ∧
      compare? (list [x]) (list [y]) = some .lt ∧ looselyEq (list [x]) (list [y]) = false := by
  intro x y
  have hitem : x.compare? y = some .eq := by decide
  exact ⟨looselyEq_iff.2 hitem, .passes hitem .same, by decide, by decide⟩

end Value

end QueryFilters
