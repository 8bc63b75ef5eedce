import QueryFilters.Proofs.Value.Structure
import QueryFilters.Value.Order

/-!
# The order of values

Values are compared piece by piece, and the first pieces that differ decide. Three comparisons that
fit together piece by piece do so as a whole (`Chains.followed`), so the order of values is passed
on from values to lists and maps of them: it is turned round with the values (`Value.order?_swap`),
equal values may stand in for each other, and what comes before is passed on
(`Value.chains_order?`). A value equals itself unless it holds something that is not a number
(`Value.order?_self_iff`).
-/

namespace QueryFilters

/-! ### Comparisons one after the other -/

/-- A comparison, or the next one where it finds no difference. -/
def followed (first next : Option Ordering) : Option Ordering :=
  match first with
  | some .eq => next
  | other => other

theorem followed_eq_some_eq_iff {first next : Option Ordering} :
    followed first next = some .eq ↔ first = some .eq ∧ next = some .eq := by
  rcases first with _ | _ | _ | _ <;> simp [followed]

theorem followed_eq_some_lt_iff {first next : Option Ordering} :
    followed first next = some .lt ↔
      first = some .lt ∨ first = some .eq ∧ next = some .lt := by
  rcases first with _ | _ | _ | _ <;> simp [followed]

/-- The next comparison does not matter where the first finds a difference. -/
theorem followed_of_ne {first : Option Ordering} (h : first ≠ some .eq) (next : Option Ordering) :
    followed first next = first := by
  rcases first with _ | _ | _ | _ <;> simp_all [followed]

theorem map_swap_followed (first next : Option Ordering) :
    (followed first next).map Ordering.swap =
      followed (first.map Ordering.swap) (next.map Ordering.swap) := by
  rcases first with _ | _ | _ | _ <;> rfl

/-- How `a` compares with `b`, `b` with `c` and `a` with `c`, as in an order: equals may stand in
for each other, and to come before is transitive. -/
structure Chains (ab bc ac : Option Ordering) : Prop where
  eq_left : ab = some .eq → ac = bc
  eq_right : bc = some .eq → ac = ab
  lt_trans : ab = some .lt → bc = some .lt → ac = some .lt

/-- Comparisons in a total order chain. -/
theorem Chains.compare {α : Type u} [Ord α] [Std.TransOrd α] (a b c : α) :
    Chains (some (compare a b)) (some (compare b c)) (some (compare a c)) where
  eq_left h := by rw [Std.TransCmp.congr_left (Option.some.inj h)]
  eq_right h := by rw [Std.TransCmp.congr_right (Option.some.inj h)]
  lt_trans h h' := by rw [Std.TransCmp.lt_trans (Option.some.inj h) (Option.some.inj h')]

/-- Comparisons that chain one after the other chain. The next ones matter only among things that
the first ones find equal. -/
theorem Chains.followed {ab bc ac ab' bc' ac' : Option Ordering} (h : Chains ab bc ac)
    (h' : ab = some .eq → bc = some .eq → Chains ab' bc' ac') :
    Chains (followed ab ab') (followed bc bc') (followed ac ac') where
  eq_left := by
    intro heq
    obtain ⟨hab, hab'⟩ := followed_eq_some_eq_iff.1 heq
    rw [h.eq_left hab]
    by_cases hbc : bc = some .eq
    · rw [(h' hab hbc).eq_left hab']
    · rw [followed_of_ne hbc, followed_of_ne hbc]
  eq_right := by
    intro heq
    obtain ⟨hbc, hbc'⟩ := followed_eq_some_eq_iff.1 heq
    rw [h.eq_right hbc]
    by_cases hab : ab = some .eq
    · rw [(h' hab hbc).eq_right hbc']
    · rw [followed_of_ne hab, followed_of_ne hab]
  lt_trans := by
    rw [followed_eq_some_lt_iff, followed_eq_some_lt_iff, followed_eq_some_lt_iff]
    rintro (hab | ⟨hab, hab'⟩) (hbc | ⟨hbc, hbc'⟩)
    · exact .inl (h.lt_trans hab hbc)
    · exact .inl ((h.eq_right hbc).trans hab)
    · exact .inl ((h.eq_left hab).trans hbc)
    · exact .inr ⟨(h.eq_left hab).trans hbc, (h' hab hbc).lt_trans hab' hbc'⟩

/-! ### Orders of the parts -/

instance : Std.TransOrd TimeOfDay :=
  inferInstanceAs (Std.TransCmp (compareLex _ _))

instance : Std.TransOrd Date :=
  inferInstanceAs (Std.TransCmp (compareLex _ _))

instance : Std.TransOrd DateTime :=
  inferInstanceAs (Std.TransCmp (compareLex _ _))

instance : Std.TransOrd ObjectId :=
  inferInstanceAs (Std.TransCmp (compareOn _))

instance : Std.TransOrd Uuid :=
  inferInstanceAs (Std.TransCmp (compareOn _))

namespace Binary64

/-- Doubles compare the other way round with the order turned round. -/
theorem compare?_swap (x y : Float) : compare? y x = (compare? x y).map Ordering.swap := by
  unfold compare?
  cases rank? x with
  | none => cases rank? y <;> rfl
  | some a =>
    cases rank? y with
    | none => rfl
    | some b => exact congrArg some Std.OrientedOrd.eq_swap

/-- A double equals itself if it is a number. -/
theorem compare?_self_iff (x : Float) :
    compare? x x = some .eq ↔ (rank? x).isSome = true := by
  unfold compare?
  cases rank? x with
  | none => simp
  | some a => simp

/-- Comparisons of doubles chain. -/
theorem chains_compare? (x y z : Float) :
    Chains (compare? x y) (compare? y z) (compare? x z) := by
  unfold compare?
  rcases rank? x with _ | a <;> rcases rank? y with _ | b <;> rcases rank? z with _ | c
  case some.some.some => exact Chains.compare a b c
  all_goals exact ⟨by simp, by simp, by simp⟩

end Binary64

namespace Value

/-! ### Comparing the parts -/

/-- Values of different types compare as their types. -/
theorem order?_of_type_ne {a b : Value} (h : a.type ≠ b.type) :
    a.order? b = some (compare a.type.rank b.type.rank) := by
  rw [order?.eq_def]
  cases a <;> cases b <;> first | rfl | exact absurd rfl h

/-- Types at one place are the same. -/
theorem eq_of_compare_rank {s t : ValueType} (h : compare s.rank t.rank = .eq) : s = t := by
  cases s <;> cases t <;> first | rfl | exact absurd h (by decide)

/-- Values compare by their types first. -/
theorem order?_eq_followed (a b : Value) :
    a.order? b = followed (some (compare a.type.rank b.type.rank)) (a.order? b) := by
  by_cases h : a.type = b.type
  · have hself : compare b.type.rank b.type.rank = .eq := Std.ReflCmp.compare_self
    rw [h, hself]
    rfl
  · rw [order?_of_type_ne h,
      followed_of_ne fun heq => h (eq_of_compare_rank (Option.some.inj heq))]

/-- Lists compare by their first items, and then by the others. -/
theorem orderItems?_cons (x y : Value) (xs ys : List Value) :
    orderItems? (x :: xs) (y :: ys) = followed (x.order? y) (orderItems? xs ys) := by
  rw [orderItems?.eq_def]
  rfl

/-- Entries compare by the first names, then by the first values, and then by the others. -/
theorem orderEntries?_cons (x y : String × Value) (xs ys : List (String × Value)) :
    orderEntries? (x :: xs) (y :: ys) =
      followed (some (compare x.1 y.1)) (followed (x.2.order? y.2) (orderEntries? xs ys)) := by
  rw [orderEntries?.eq_def]
  dsimp only
  cases compare x.1 y.1 <;> rfl

/-! ### Turning the order round -/

/-- Lists compare the other way round if their items do. -/
theorem orderItems?_swap {xs : List Value}
    (h : ∀ x ∈ xs, ∀ y, order? y x = (order? x y).map Ordering.swap) (ys : List Value) :
    orderItems? ys xs = (orderItems? xs ys).map Ordering.swap := by
  induction xs generalizing ys with
  | nil => cases ys <;> rfl
  | cons x xs ih =>
    obtain ⟨hx, hxs⟩ := List.forall_mem_cons.1 h
    cases ys with
    | nil => rfl
    | cons y ys =>
      rw [orderItems?_cons, orderItems?_cons, map_swap_followed, hx, ih hxs]

/-- Entries compare the other way round if their values do. -/
theorem orderEntries?_swap {xs : List (String × Value)}
    (h : ∀ x ∈ xs, ∀ y, order? y x.2 = (order? x.2 y).map Ordering.swap)
    (ys : List (String × Value)) :
    orderEntries? ys xs = (orderEntries? xs ys).map Ordering.swap := by
  induction xs generalizing ys with
  | nil => cases ys <;> rfl
  | cons x xs ih =>
    obtain ⟨hx, hxs⟩ := List.forall_mem_cons.1 h
    cases ys with
    | nil => rfl
    | cons y ys =>
      have hname : compare y.1 x.1 = (compare x.1 y.1).swap := Std.OrientedOrd.eq_swap
      rw [orderEntries?_cons, orderEntries?_cons, map_swap_followed, map_swap_followed, hx, ih hxs,
        hname, Option.map_some]

/-- The order of values is turned round with them if it is among values of one type. -/
theorem order?_swap_of_type {a b : Value}
    (h : a.type = b.type → b.order? a = (a.order? b).map Ordering.swap) :
    b.order? a = (a.order? b).map Ordering.swap := by
  by_cases htype : a.type = b.type
  · exact h htype
  · rw [order?_of_type_ne htype, order?_of_type_ne (Ne.symm htype), Option.map_some]
    exact congrArg some Std.OrientedOrd.eq_swap

/-- The order of two values is turned round with them. -/
theorem order?_swap (a b : Value) : b.order? a = (a.order? b).map Ordering.swap := by
  induction a using Value.induction generalizing b with
  | list items ih =>
    refine order?_swap_of_type fun hab => ?_
    cases b <;> cases hab
    simpa only [order?] using orderItems?_swap ih _
  | map entries ih =>
    refine order?_swap_of_type fun hab => ?_
    cases b <;> cases hab
    simpa only [order?] using orderEntries?_swap ih _
  | float x =>
    refine order?_swap_of_type fun hab => ?_
    cases b <;> cases hab
    simpa only [order?] using Binary64.compare?_swap _ _
  | null =>
    refine order?_swap_of_type fun hab => ?_
    cases b <;> cases hab
    rfl
  | _ =>
    refine order?_swap_of_type fun hab => ?_
    cases b <;> cases hab
    simp only [order?, Option.map_some]
    exact congrArg some Std.OrientedOrd.eq_swap

/-! ### Values that equal themselves -/

/-- The value holds nothing but numbers where it holds doubles. -/
def IsNumeric (value : Value) : Prop :=
  ∀ x, (float x).IsPartOf value → (Binary64.rank? x).isSome = true

/-- A list equals itself if its items do. -/
theorem orderItems?_self_iff (xs : List Value) :
    orderItems? xs xs = some .eq ↔ ∀ x ∈ xs, order? x x = some .eq := by
  induction xs with
  | nil => simp [orderItems?]
  | cons x xs ih =>
    rw [orderItems?_cons, followed_eq_some_eq_iff, ih, List.forall_mem_cons]

/-- Entries equal themselves if their values do. -/
theorem orderEntries?_self_iff (xs : List (String × Value)) :
    orderEntries? xs xs = some .eq ↔ ∀ x ∈ xs, order? x.2 x.2 = some .eq := by
  induction xs with
  | nil => simp [orderEntries?]
  | cons x xs ih =>
    have hname : compare x.1 x.1 = .eq := Std.ReflCmp.compare_self
    rw [orderEntries?_cons, hname, followed, followed_eq_some_eq_iff, ih, List.forall_mem_cons]

/-- A value equals itself exactly if it holds no double that is not a number. -/
theorem order?_self_iff (a : Value) : a.order? a = some .eq ↔ a.IsNumeric := by
  induction a using Value.induction with
  | list items ih =>
    simp only [order?, orderItems?_self_iff, IsNumeric, isPartOf_list_iff, reduceCtorEq, false_or,
      forall_exists_index, and_imp]
    rw [forall_comm]
    refine forall_congr' fun item => ?_
    rw [forall_comm]
    exact forall_congr' fun hitem => ih item hitem
  | map entries ih =>
    simp only [order?, orderEntries?_self_iff, IsNumeric, isPartOf_map_iff, reduceCtorEq, false_or,
      forall_exists_index, and_imp]
    rw [forall_comm]
    refine forall_congr' fun entry => ?_
    rw [forall_comm]
    exact forall_congr' fun hentry => ih entry hentry
  | float x =>
    simp only [order?, Binary64.compare?_self_iff, IsNumeric, isPartOf_float_iff, float.injEq,
      forall_eq]
  | _ =>
    refine iff_of_true ?_ nofun
    simp [order?]

/-- A value equals itself exactly if it holds nothing but numbers where it holds doubles. -/
theorem beq_self_iff (a : Value) : (a == a) = true ↔ a.IsNumeric := by
  have hbeq : (a == a) = (order? a a == some .eq) := rfl
  rw [hbeq, beq_iff_eq, order?_self_iff]

/-! ### Passing on -/

/-- Comparisons of lists chain if those of the items do. -/
theorem chains_orderItems? {xs : List Value}
    (h : ∀ x ∈ xs, ∀ y z, Chains (order? x y) (order? y z) (order? x z)) (ys zs : List Value) :
    Chains (orderItems? xs ys) (orderItems? ys zs) (orderItems? xs zs) := by
  induction xs generalizing ys zs with
  | nil => cases ys <;> cases zs <;> constructor <;> simp [orderItems?]
  | cons x xs ih =>
    obtain ⟨hx, hxs⟩ := List.forall_mem_cons.1 h
    rcases ys with _ | ⟨y, ys⟩ <;> rcases zs with _ | ⟨z, zs⟩
    case cons.cons =>
      rw [orderItems?_cons, orderItems?_cons, orderItems?_cons]
      exact (hx y z).followed fun _ _ => ih hxs ys zs
    all_goals constructor <;> simp [orderItems?]

/-- Comparisons of entries chain if those of the values do. -/
theorem chains_orderEntries? {xs : List (String × Value)}
    (h : ∀ x ∈ xs, ∀ y z, Chains (order? x.2 y) (order? y z) (order? x.2 z))
    (ys zs : List (String × Value)) :
    Chains (orderEntries? xs ys) (orderEntries? ys zs) (orderEntries? xs zs) := by
  induction xs generalizing ys zs with
  | nil => cases ys <;> cases zs <;> constructor <;> simp [orderEntries?]
  | cons x xs ih =>
    obtain ⟨hx, hxs⟩ := List.forall_mem_cons.1 h
    rcases ys with _ | ⟨y, ys⟩ <;> rcases zs with _ | ⟨z, zs⟩
    case cons.cons =>
      rw [orderEntries?_cons, orderEntries?_cons, orderEntries?_cons]
      exact (Chains.compare x.1 y.1 z.1).followed fun _ _ =>
        (hx y.2 z.2).followed fun _ _ => ih hxs ys zs
    all_goals constructor <;> simp [orderEntries?]

/-- Comparisons of values chain if they do so among values of one type. -/
theorem chains_order?_of_type {a b c : Value}
    (h : a.type = b.type → b.type = c.type → Chains (a.order? b) (b.order? c) (a.order? c)) :
    Chains (a.order? b) (b.order? c) (a.order? c) := by
  rw [order?_eq_followed a b, order?_eq_followed b c, order?_eq_followed a c]
  exact (Chains.compare a.type.rank b.type.rank c.type.rank).followed fun hab hbc =>
    h (eq_of_compare_rank (Option.some.inj hab)) (eq_of_compare_rank (Option.some.inj hbc))

/-- Comparisons of values chain. -/
theorem chains_order? (a b c : Value) : Chains (a.order? b) (b.order? c) (a.order? c) := by
  induction a using Value.induction generalizing b c with
  | list items ih =>
    refine chains_order?_of_type fun hab hbc => ?_
    cases b <;> cases hab
    cases c <;> cases hbc
    simpa only [order?] using chains_orderItems? ih _ _
  | map entries ih =>
    refine chains_order?_of_type fun hab hbc => ?_
    cases b <;> cases hab
    cases c <;> cases hbc
    simpa only [order?] using chains_orderEntries? ih _ _
  | float x =>
    refine chains_order?_of_type fun hab hbc => ?_
    cases b <;> cases hab
    cases c <;> cases hbc
    simpa only [order?] using Binary64.chains_compare? _ _ _
  | null =>
    refine chains_order?_of_type fun hab hbc => ?_
    cases b <;> cases hab
    cases c <;> cases hbc
    simp only [order?]
    exact ⟨id, id, nofun⟩
  | _ =>
    refine chains_order?_of_type fun hab hbc => ?_
    cases b <;> cases hab
    cases c <;> cases hbc
    simpa only [order?] using Chains.compare _ _ _

end Value

end QueryFilters
