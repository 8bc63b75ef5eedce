/-!
# Cutting text at separators

Texts are cut as lists of characters. A cut never loses a character: the pieces joined by their
separator are the text again (`intercalate_splitOn`, `intercalate_splitOnPair`).
-/

namespace QueryFilters.Text

/-- Puts `c` in front of the first piece. -/
def consHead (c : Char) : List (List Char) → List (List Char)
  | [] => [[c]]
  | piece :: pieces => (c :: piece) :: pieces

/-- The pieces of a text between the occurrences of `sep`. -/
def splitOn (sep : Char) : List Char → List (List Char)
  | [] => [[]]
  | c :: rest => if c = sep then [] :: splitOn sep rest else consHead c (splitOn sep rest)

/-- The pieces of a text between the places where `sep` is written twice. The places are found
from the left and do not overlap. -/
def splitOnPair (sep : Char) : List Char → List (List Char)
  | [] => [[]]
  | [c] => [[c]]
  | c :: d :: rest =>
    if c = sep ∧ d = sep then [] :: splitOnPair sep rest
    else consHead c (splitOnPair sep (d :: rest))

/-- What stands before the first `sep`, and what stands after it if there is one. -/
def cutAt (sep : Char) : List Char → List Char × Option (List Char)
  | [] => ([], none)
  | c :: rest =>
    if c = sep then ([], some rest)
    else
      let cut := cutAt sep rest
      (c :: cut.1, cut.2)

/-- What follows `start` in a text that begins with it. -/
def after? : List Char → List Char → Option (List Char)
  | [], text => some text
  | _ :: _, [] => none
  | c :: start, d :: text => if c = d then after? start text else none

theorem length_lt_of_after? {start text rest : List Char} (hstart : start ≠ [])
    (h : after? start text = some rest) : rest.length < text.length := by
  have key : ∀ {start text rest : List Char}, after? start text = some rest →
      rest.length + start.length = text.length := by
    intro start text rest h
    fun_induction after? start text with
    | case1 => simp_all
    | case2 => simp at h
    | case3 c start text ih =>
      have := ih h
      simp only [List.length_cons]
      omega
    | case4 => simp at h
  have := key h
  have := List.length_pos_iff.2 hstart
  omega

/-- Whether `part` occurs in a text as an unbroken piece. -/
def hasPart (part : List Char) : List Char → Bool
  | [] => part.isEmpty
  | c :: rest => part.isPrefixOf (c :: rest) || hasPart part rest

theorem consHead_ne_nil (c : Char) (pieces : List (List Char)) : consHead c pieces ≠ [] := by
  cases pieces <;> simp [consHead]

theorem splitOn_ne_nil (sep : Char) (text : List Char) : splitOn sep text ≠ [] := by
  fun_cases splitOn sep text
  · simp
  · simp
  · exact consHead_ne_nil _ _

theorem splitOnPair_ne_nil (sep : Char) (text : List Char) : splitOnPair sep text ≠ [] := by
  fun_cases splitOnPair sep text
  · simp
  · simp
  · simp
  · exact consHead_ne_nil _ _

theorem intercalate_consHead (sep : List Char) (c : Char) {pieces : List (List Char)}
    (h : pieces ≠ []) : sep.intercalate (consHead c pieces) = c :: sep.intercalate pieces := by
  match pieces, h with
  | [piece], _ => simp [consHead, List.intercalate]
  | piece :: next :: more, _ => simp [consHead]

theorem intercalate_nil_cons (sep : List Char) {pieces : List (List Char)} (h : pieces ≠ []) :
    sep.intercalate ([] :: pieces) = sep ++ sep.intercalate pieces := by
  match pieces, h with
  | piece :: more, _ => simp

/-- What stands before a first `sep` and after it makes up the text with it. -/
theorem eq_of_cutAt {sep : Char} {text whole rest : List Char}
    (h : cutAt sep text = (whole, some rest)) : text = whole ++ sep :: rest := by
  induction text generalizing whole with
  | nil => simp [cutAt] at h
  | cons c text ih =>
    by_cases hc : c = sep
    · rw [cutAt, if_pos hc, Prod.mk.injEq, Option.some.injEq] at h
      rw [← h.1, h.2, hc, List.nil_append]
    · rw [cutAt, if_neg hc, Prod.mk.injEq] at h
      rw [← h.1, List.cons_append, ← ih (Prod.ext rfl h.2)]

/-- A text is cut at the first `sep`. -/
theorem cutAt_append {sep : Char} {whole : List Char} (h : sep ∉ whole) (rest : List Char) :
    cutAt sep (whole ++ sep :: rest) = (whole, some rest) := by
  induction whole with
  | nil => rw [List.nil_append, cutAt, if_pos rfl]
  | cons c whole ih =>
    rw [List.mem_cons, not_or] at h
    rw [List.cons_append, cutAt, if_neg (Ne.symm h.1), ih h.2]

/-- A text without `sep` is not cut. -/
theorem cutAt_of_not_mem {sep : Char} {text : List Char} (h : sep ∉ text) :
    cutAt sep text = (text, none) := by
  induction text with
  | nil => rfl
  | cons c text ih =>
    rw [List.mem_cons, not_or] at h
    rw [cutAt, if_neg (Ne.symm h.1), ih h.2]

/-- Cutting at a character loses nothing. -/
theorem intercalate_splitOn (sep : Char) (text : List Char) :
    [sep].intercalate (splitOn sep text) = text := by
  induction text with
  | nil => rfl
  | cons c rest ih =>
    by_cases h : c = sep
    · rw [splitOn, if_pos h, intercalate_nil_cons _ (splitOn_ne_nil sep rest), ih, h]
      rfl
    · simp [splitOn, h, intercalate_consHead _ _ (splitOn_ne_nil sep rest), ih]

/-- Cutting at a doubled character loses nothing. -/
theorem intercalate_splitOnPair (sep : Char) (text : List Char) :
    [sep, sep].intercalate (splitOnPair sep text) = text := by
  fun_induction splitOnPair sep text with
  | case1 => rfl
  | case2 c => simp [List.intercalate]
  | case3 c d rest h ih =>
    rw [intercalate_nil_cons _ (splitOnPair_ne_nil sep rest), ih, h.1, h.2]
    rfl
  | case4 c d rest h ih =>
    rw [intercalate_consHead _ _ (splitOnPair_ne_nil sep _), ih]

end QueryFilters.Text
