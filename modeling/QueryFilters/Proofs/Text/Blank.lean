import Mathlib.Data.List.TakeWhile
import QueryFilters.Number.Digits
import QueryFilters.Text.Blank

/-!
# Texts without surrounding blanks

What trimming leaves of a text is the piece that has no blanks at its ends, with nothing but blanks
around it (`Text.Trims`). There is one such piece of every text (`Text.trims_iff`).
-/

namespace QueryFilters.Text

/-- Digits are no blanks. -/
theorem isBlank_of_isDigit {c : Char} (h : Digits.isDigit c = true) : isBlank c = false := by
  have hrange : '0' ≤ c ∧ c ≤ '9' := by
    by_contra hrange
    simp [Digits.isDigit, Digits.value?, hrange] at h
  have hlow : 48 ≤ c.toNat := hrange.1
  have hhigh : c.toNat ≤ 57 := hrange.2
  simp [isBlank, CodeRange.covers, blankRanges]
  omega

/-- One text is what is left of another without the blanks at its ends. -/
structure Trims (text core : String) : Prop where
  exists_blanks : ∃ before after : List Char, text.toList = before ++ core.toList ++ after ∧
    (∀ c ∈ before, isBlank c = true) ∧ ∀ c ∈ after, isBlank c = true
  start : ∀ c ∈ core.toList.head?, isBlank c = false
  stop : ∀ c ∈ core.toList.getLast?, isBlank c = false

/-! ### Blanks at one end -/

/-- Blanks at the start are dropped. -/
theorem trimStart_append {before : List Char} (h : ∀ c ∈ before, isBlank c = true)
    (rest : List Char) : trimStart (before ++ rest) = trimStart rest :=
  List.dropWhile_append_of_pos h

/-- A text that does not start with a blank stays as it is. -/
theorem trimStart_of_head {text : List Char} (h : ∀ c ∈ text.head?, isBlank c = false) :
    trimStart text = text := by
  cases text with
  | nil => rfl
  | cons c rest => exact List.dropWhile_cons_of_neg (by simp [h c rfl])

/-- What is dropped at the start are blanks, and what is left does not start with one. -/
theorem exists_append_trimStart (text : List Char) :
    (∃ before, text = before ++ trimStart text ∧ ∀ c ∈ before, isBlank c = true) ∧
      ∀ c ∈ (trimStart text).head?, isBlank c = false := by
  refine ⟨⟨text.takeWhile isBlank, List.takeWhile_append_dropWhile.symm, fun c hc => ?_⟩,
    fun c hc => ?_⟩
  · exact List.mem_takeWhile_imp hc
  · have hhead := List.head?_dropWhile_not isBlank text
    rw [Option.mem_def] at hc
    rw [trimStart] at hc
    simpa [hc] using hhead

/-- Dropping blanks at the end is dropping them at the start of the text turned round. -/
theorem trimEnd_eq (text : List Char) : trimEnd text = (trimStart text.reverse).reverse :=
  rfl

/-- Blanks at the end are dropped. -/
theorem trimEnd_append (text : List Char) {after : List Char}
    (h : ∀ c ∈ after, isBlank c = true) : trimEnd (text ++ after) = trimEnd text := by
  have hreverse : ∀ c ∈ after.reverse, isBlank c = true := fun c hc => h c (List.mem_reverse.1 hc)
  rw [trimEnd_eq, trimEnd_eq, List.reverse_append, trimStart_append hreverse]

/-- A text that does not end in a blank stays as it is. -/
theorem trimEnd_of_getLast {text : List Char} (h : ∀ c ∈ text.getLast?, isBlank c = false) :
    trimEnd text = text := by
  rw [trimEnd_eq, trimStart_of_head, List.reverse_reverse]
  rwa [List.head?_reverse]

/-- What is dropped at the end are blanks, and what is left does not end in one. -/
theorem exists_trimEnd_append (text : List Char) :
    (∃ after, text = trimEnd text ++ after ∧ ∀ c ∈ after, isBlank c = true) ∧
      ∀ c ∈ (trimEnd text).getLast?, isBlank c = false := by
  obtain ⟨⟨before, heq, hblank⟩, hhead⟩ := exists_append_trimStart text.reverse
  refine ⟨⟨before.reverse, ?_, fun c hc => hblank c (List.mem_reverse.1 hc)⟩, ?_⟩
  · rw [trimEnd_eq, ← List.reverse_append, ← heq, List.reverse_reverse]
  · rwa [trimEnd_eq, List.getLast?_reverse]

/-! ### Blanks at both ends -/

/-- What trimming leaves of a text is the text without the blanks at its ends. -/
theorem trims_trim (text : String) : Trims text (trim text) := by
  obtain ⟨⟨before, hbefore, hblank⟩, hstart⟩ := exists_append_trimStart text.toList
  obtain ⟨⟨after, hafter, hblank'⟩, hstop⟩ := exists_trimEnd_append (trimStart text.toList)
  have hcore : (trim text).toList = trimEnd (trimStart text.toList) := String.toList_ofList
  refine ⟨⟨before, after, ?_, hblank, hblank'⟩, ?_, ?_⟩
  · rw [hcore, List.append_assoc, ← hafter, ← hbefore]
  · rw [hcore]
    intro c hc
    have hhead : (trimStart text.toList).head? = some c := by
      rw [hafter, List.head?_append, Option.mem_def.1 hc, Option.some_or]
    exact hstart c hhead
  · rwa [hcore]

/-- A text is left without the blanks at its ends exactly by trimming. -/
theorem trims_iff {text core : String} : Trims text core ↔ core = trim text := by
  constructor
  · rintro ⟨⟨before, after, heq, hblank, hblank'⟩, hstart, hstop⟩
    apply String.toList_injective
    have hcore : (trim text).toList = trimEnd (trimStart text.toList) := String.toList_ofList
    rw [hcore, heq, List.append_assoc, trimStart_append hblank]
    cases hchars : core.toList with
    | nil =>
      have hnil : trimStart after = [] := List.dropWhile_eq_nil_iff.2 hblank'
      rw [List.nil_append, hnil]
      rfl
    | cons c rest =>
      rw [hchars] at hstart hstop
      have hhead : ∀ d ∈ (c :: rest ++ after).head?, isBlank d = false := hstart
      rw [trimStart_of_head hhead, trimEnd_append _ hblank', trimEnd_of_getLast hstop]
  · rintro rfl
    exact trims_trim text

end QueryFilters.Text
