/-!
# First errors

Lists are read element by element, and the first element that cannot be read decides. `FirstError`
says which error that is, without saying how the list is read.
-/

namespace QueryFilters

variable {α : Type u} {β : Type v} {ε : Type w} {f : α → Except ε β}

/-- The first element of a list on which `f` fails, fails with the given error. -/
inductive FirstError (f : α → Except ε β) : List α → ε → Prop
  | here {x : α} {xs : List α} {e : ε} (h : f x = .error e) : FirstError f (x :: xs) e
  | later {x : α} {xs : List α} {v : β} {e : ε} (h : f x = .ok v) (hrest : FirstError f xs e) :
    FirstError f (x :: xs) e

namespace FirstError

/-- After an element that can be read, the first error is that of the rest. -/
theorem cons_ok_iff {x : α} {xs : List α} {v : β} {e : ε} (h : f x = .ok v) :
    FirstError f (x :: xs) e ↔ FirstError f xs e := by
  constructor
  · intro hfirst
    cases hfirst with
    | here herror => rw [h] at herror; cases herror
    | later _ hrest => exact hrest
  · exact later h

/-- An element that cannot be read gives the first error. -/
theorem cons_error_iff {x : α} {xs : List α} {e e' : ε} (h : f x = .error e') :
    FirstError f (x :: xs) e ↔ e' = e := by
  constructor
  · intro hfirst
    cases hfirst with
    | here herror => exact Except.error.inj (h.symm.trans herror)
    | later hok _ => rw [h] at hok; cases hok
  · rintro rfl
    exact here h

/-- Some element cannot be read where there is a first error. -/
theorem exists_error {xs : List α} {e : ε} (h : FirstError f xs e) : ∃ x ∈ xs, f x = .error e := by
  induction h with
  | here h => exact ⟨_, List.mem_cons_self, h⟩
  | later _ _ ih =>
    obtain ⟨x, hx, herror⟩ := ih
    exact ⟨x, List.mem_cons_of_mem _ hx, herror⟩

/-- There is no first error where every element can be read. -/
theorem not_of_forall_ok {xs : List α} {e : ε} (h : ∀ x ∈ xs, ∃ v, f x = .ok v) :
    ¬FirstError f xs e := by
  intro hfirst
  obtain ⟨x, hx, herror⟩ := hfirst.exists_error
  obtain ⟨v, hv⟩ := h x hx
  rw [hv] at herror
  cases herror

end FirstError

end QueryFilters
